import IngestWatch.Config.Check
import IngestWatch.Config.Load
import IngestWatch.Proofs.Outcome

/-!
When a configuration is of no use, and what is said then: its file cannot be read, or it breaks
one of the rules. Only the first rule that is broken is told.
-/

namespace IngestWatch.Config

/-! ## The file -/

/-- What stands at a path and has no text, and why. -/
inductive Textless : Place → String → Prop where
  | directory : Textless .directory "Is a directory (os error 21)"
  | closed (reason : String) : Textless (.closed reason) reason
  | undecodable {bytes : List UInt8} (undecoded : Text.utf8Decode? bytes = none) :
      Textless (.file bytes) "stream did not contain valid UTF-8"

/-- A file that is there and cannot be used: it has no text, or its text is not the document of
a configuration. -/
inductive Unusable (path : String) : Place → String → Prop where
  | unreadable {place : Place} {reason : String} (textless : Textless place reason) :
      Unusable path place s!"cannot read {path}: {reason}"
  | malformed {bytes : List UInt8} {text : List Char} {reason : String}
      (decoded : Text.utf8Decode? bytes = some text)
      (refused : record.codec.parseToml (String.ofList text) = .error reason) :
      Unusable path (.file bytes) s!"invalid TOML in {path}: {reason}"

theorem readText_of_textless {place : Place} {reason : String} (textless : Textless place reason)
    (path : String) : readText path place = .error (.unreadable path reason) := by
  cases textless with
  | directory => rfl
  | closed reason => rfl
  | undecodable undecoded => rw [readText, undecoded]

theorem loadOrDefault_of_ne_nothing {place : Place} (there : place ≠ .nothing) (path : String) :
    loadOrDefault path place = load path place := by
  cases place with
  | nothing => exact absurd rfl there
  | directory => rfl
  | closed reason => rfl
  | file bytes => rfl

theorem loadOrDefault_of_unusable {path : String} {place : Place} {message : String}
    (unusable : Unusable path place message) :
    ∃ fault, loadOrDefault path place = .error fault ∧ fault.message = message := by
  cases unusable with
  | @unreadable _ reason textless =>
    have there : place ≠ .nothing := by
      rintro rfl
      cases textless
    refine ⟨.unreadable path reason, ?_, rfl⟩
    rw [loadOrDefault_of_ne_nothing there, load, readText_of_textless textless]
    rfl
  | @malformed bytes text reason decoded refused =>
    have read : readText path (.file bytes) = .ok (String.ofList text) := by
      rw [readText, decoded]
    refine ⟨.malformed path reason, ?_, rfl⟩
    rw [loadOrDefault_of_ne_nothing Place.noConfusion, load, read, ok_bind, refused]
    rfl

theorem unusable_of_loadOrDefault {path : String} {place : Place} {fault : Fault}
    (fails : loadOrDefault path place = .error fault) : Unusable path place fault.message := by
  have of_textless {reason : String} (textless : Textless place reason) (there : place ≠ .nothing) :
      Unusable path place fault.message := by
    rw [loadOrDefault_of_ne_nothing there, load, readText_of_textless textless] at fails
    obtain rfl := Except.error.inj fails
    exact .unreadable textless
  cases place with
  | nothing => cases fails
  | directory => exact of_textless .directory Place.noConfusion
  | closed reason => exact of_textless (.closed reason) Place.noConfusion
  | file bytes =>
    cases decoded : Text.utf8Decode? bytes with
    | none => exact of_textless (.undecodable decoded) Place.noConfusion
    | some text =>
      have found : readText path (.file bytes) = .ok (String.ofList text) := by
        rw [readText, decoded]
      rw [loadOrDefault_of_ne_nothing Place.noConfusion, load, found, ok_bind] at fails
      cases read : record.codec.parseToml (String.ofList text) with
      | ok c => simp [read, Except.mapError] at fails
      | error reason =>
        rw [read] at fails
        obtain rfl := Except.error.inj fails
        exact .malformed decoded read

/-! ## The rules -/

/-- A rule: the setting it is about, and what it has to say against a configuration. -/
structure Rule where
  field : String
  objection? : Config → Option String

/-- Every rule, in the order in which they are looked at. -/
def rules : List Rule := [
  ⟨"service.base_url", fun c =>
    if c.service.baseUrl = "" then some "URL cannot be empty" else none⟩,
  ⟨"service.base_url", fun c =>
    match Url.parse c.service.baseUrl with
    | .ok _ => none
    | .error fault => some fault.message⟩,
  ⟨"service.path_prefix", fun c =>
    if c.service.pathPrefix.toList.head? = some '/' then none
    else some "prefix must start with '/'"⟩,
  ⟨"rate.interval_millis", fun c =>
    if c.rate.intervalMillis = 0 then some "interval must be non-zero" else none⟩]

/-- What is said of the first rule that a configuration breaks. -/
def objection? (c : Config) : Option String :=
  rules.findSome? fun rule =>
    (rule.objection? c).map fun reason => s!"invalid value for '{rule.field}': {reason}"

/-- A configuration that breaks no rule. -/
structure Sound (c : Config) : Prop where
  named : c.service.baseUrl ≠ ""
  url : ∃ url, Url.parse c.service.baseUrl = .ok url
  rooted : c.service.pathPrefix.toList.head? = some '/'
  interval : 1 ≤ c.rate.intervalMillis.toNat

theorem startsWith_slash_iff (text : String) :
    text.startsWith "/" = true ↔ text.toList.head? = some '/' := by
  rw [String.startsWith_string_iff, show "/".toList = ['/'] from rfl]
  cases text.toList with
  | nil => simp
  | cons ch rest => simp [List.cons_prefix_cons, eq_comm]

/-- The check lets through what breaks no rule, and else it says which is the first one. -/
theorem objection?_eq (c : Config) :
    c.objection? = match c.validate with
      | .ok () => none
      | .error fault => some fault.message := by
  have empty : c.service.baseUrl.isEmpty = true ↔ c.service.baseUrl = "" := String.isEmpty_iff
  have slash := startsWith_slash_iff c.service.pathPrefix
  simp only [objection?, rules, validate, urlFault?, List.findSome?_cons, empty, slash]
  generalize Url.parse c.service.baseUrl = parsed
  by_cases named : c.service.baseUrl = ""
  · simp only [named, if_true]
    rfl
  · cases parsed with
    | error fault =>
      simp only [named, if_false]
      rfl
    | ok url =>
      by_cases rooted : c.service.pathPrefix.toList.head? = some '/'
      · by_cases zero : c.rate.intervalMillis = 0 <;>
          simp only [named, rooted, zero, not_true, if_true, if_false] <;> rfl
      · simp only [named, rooted, not_false_eq_true, if_true, if_false]
        rfl

theorem objection?_eq_none_iff {c : Config} : c.objection? = none ↔ c.Sound := by
  have positive : c.rate.intervalMillis ≠ 0 ↔ 1 ≤ c.rate.intervalMillis.toNat := by
    rw [Nat.one_le_iff_ne_zero, ne_eq, ne_eq, ← UInt64.toNat_inj]
    rfl
  have parses : (∃ url, Url.parse c.service.baseUrl = .ok url) ↔
      ∀ fault, Url.parse c.service.baseUrl ≠ .error fault := by
    cases Url.parse c.service.baseUrl <;> simp
  constructor
  · intro silent
    simp only [objection?, rules, List.findSome?_eq_none_iff, List.forall_mem_cons,
      Option.map_eq_none_iff] at silent
    obtain ⟨named, url, rooted, interval, -⟩ := silent
    refine ⟨by simpa using named, parses.mpr fun fault failed => ?_, by simpa using rooted,
      positive.mp (by simpa using interval)⟩
    simp [failed] at url
  · rintro ⟨named, ⟨url, parsed⟩, rooted, interval⟩
    simp [objection?, rules, named, parsed, rooted, positive.mpr interval]

end IngestWatch.Config
