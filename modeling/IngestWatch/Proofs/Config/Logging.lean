import IngestWatch.Proofs.Config.Precedence

/-!
Configurations that differ only in what is logged. They come from files that differ only in
their section about the log, and from variables that differ only in what they say of the log;
flags lay the same over them, and they pass the check together or not at all.
-/

namespace IngestWatch.Config

open CommandLine (Variables)

/-- Two configurations that agree in all but what is logged. -/
structure Akin (c c' : Config) : Prop where
  service : c.service = c'.service
  rate : c.rate = c'.rate
  history : c.history = c'.history

theorem Akin.refl (c : Config) : c.Akin c := ⟨rfl, rfl, rfl⟩

theorem Akin.trans {c d e : Config} (first : c.Akin d) (second : d.Akin e) : c.Akin e :=
  ⟨first.service.trans second.service, first.rate.trans second.rate,
    first.history.trans second.history⟩

theorem Akin.symm {c c' : Config} (akin : c.Akin c') : c'.Akin c :=
  ⟨akin.service.symm, akin.rate.symm, akin.history.symm⟩

/-- The check does not look at what is logged. -/
theorem Akin.validate_eq {c c' : Config} (akin : c.Akin c') : c.validate = c'.validate := by
  rw [validate, validate, akin.service, akin.rate]

/-! ## Sections about the log -/

def logSection : String := "logging"

/-- The members of the document at a place; where there is no file there are none. -/
def table? : Place → Option (List (String × Toml))
  | .nothing => some []
  | place => (Layer.document? place).bind Toml.members?

/-- Among members there is no section about the log, or one that can be read. -/
def LogsReadably (members : List (String × Toml)) : Prop :=
  members.filter (·.1 = logSection) = [] ∨
    ∃ v l, members.filter (·.1 = logSection) = [(logSection, v)] ∧ Logging.record.ofToml v = .ok l

/-- Places at which the same stands, or documents that differ only in their section about the
log. -/
inductive Relogged : Place → Place → Prop where
  | same (place : Place) : Relogged place place
  | sections {place place' : Place} {members members' : List (String × Toml)}
      (found : table? place = some members) (found' : table? place' = some members')
      (others : members.filter (·.1 ≠ logSection) = members'.filter (·.1 ≠ logSection))
      (readable : LogsReadably members) (readable' : LogsReadably members') :
      Relogged place place'

/-- Every section changes a configuration in its own way, whatever is logged. -/
theorem akin_of_ofToml {f : Field Config} (member : f ∈ record.fields) {v : Toml}
    {change : Config → Config} (read : f.ofToml v = .ok change) {c c' : Config}
    (akin : c.Akin c') : (change c).Akin (change c') := by
  obtain ⟨service, rate, history⟩ := akin
  have parts : f ∈ [_, _, _, _] := member
  simp only [List.mem_cons, List.not_mem_nil, or_false] at parts
  rcases parts with rfl | rfl | rfl | rfl <;> obtain ⟨value, -, rfl⟩ := map_eq_ok.mp read
  · exact ⟨rfl, rate, history⟩
  · exact ⟨service, rfl, history⟩
  · exact ⟨service, rate, rfl⟩
  · exact ⟨service, rate, history⟩

theorem find?_logSection : ∃ f, Field.find? logSection record.fields = some f ∧
    ∀ v l, Logging.record.ofToml v = .ok l →
      f.ofToml v = .ok fun c : Config => { c with logging := l } := by
  refine ⟨.always "logging" Logging.record.codec logging fun v c => { c with logging := v }, rfl,
    fun v l read => ?_⟩
  change (Logging.record.ofToml v).map _ = _
  rw [read]
  rfl

/-- To take members is to take those beside the log, as far as these matter. -/
theorem takeMembers_beside {members : List (String × Toml)} {d e : Record.Draft Config}
    (akin : d.value.Akin e.value)
    (seen : ∀ name, name ≠ logSection → d.seen.contains name = e.seen.contains name)
    (readable : members.filter (·.1 = logSection) = [] ∨
      d.seen.contains logSection = false ∧ LogsReadably members) :
    Together (fun _ _ => True) (fun d e => d.value.Akin e.value) (record.takeMembers d members)
      (record.takeMembers e (members.filter (·.1 ≠ logSection))) := by
  induction members generalizing d e with
  | nil => exact .ok akin
  | cons m rest ih =>
    obtain ⟨key, v⟩ := m
    by_cases log : key = logSection
    · subst log
      have skipped : ((logSection, v) :: rest).filter (·.1 ≠ logSection) =
          rest.filter (·.1 ≠ logSection) := by simp
      rw [List.filter_cons_of_pos (by simp)] at readable
      obtain ⟨unseen, none | ⟨w, l, one, read⟩⟩ := readable.resolve_left (List.cons_ne_nil _ _)
      · rw [List.filter_cons_of_pos (by simp)] at none
        cases none
      · rw [List.filter_cons_of_pos (by simp)] at one
        obtain ⟨same, none⟩ := List.cons.inj one
        obtain rfl : v = w := congrArg Prod.snd same
        obtain ⟨f, found, change⟩ := find?_logSection
        rw [skipped, Record.takeMembers, found]
        simp only [unseen, Bool.false_eq_true, if_false, change v l read]
        refine ih (d := d.put logSection _) ⟨akin.service, akin.rate, akin.history⟩
          (fun name other => ?_) (Or.inl none)
        rw [← seen name other]
        simp [Record.Draft.put, other]
    · have kept : ((key, v) :: rest).filter (·.1 ≠ logSection) =
          (key, v) :: rest.filter (·.1 ≠ logSection) := List.filter_cons_of_pos (by simpa using log)
      have others : ((key, v) :: rest).filter (·.1 = logSection) =
          rest.filter (·.1 = logSection) := List.filter_cons_of_neg (by simpa using log)
      rw [LogsReadably, others] at readable
      rw [kept, Record.takeMembers, Record.takeMembers]
      cases found : Field.find? key record.fields with
      | none => exact ih akin seen readable
      | some f =>
        simp only [seen key log]
        split
        · exact .error trivial
        · cases read : f.ofToml v with
          | error fault => exact .error trivial
          | ok change =>
            refine ih (d := d.put key change) (e := e.put key change)
              (akin_of_ofToml (List.mem_of_find?_eq_some found) read akin)
              (fun name other => ?_) ?_
            · simp only [Record.Draft.put, List.contains_cons, seen name other]
            · refine readable.imp_right (And.imp_left fun unseen => ?_)
              simpa [Record.Draft.put, Ne.symm log] using unseen

/-! ## Files -/

/-- A document is read as a configuration if its members are taken. -/
theorem loadOrDefault_of_table {place : Place} {members : List (String × Toml)}
    (found : table? place = some members) (path : String) :
    Together (fun (_ : Fault) (_ : Mismatch) => True)
      (fun (c : Config) (d : Record.Draft Config) => c = d.value) (loadOrDefault path place)
      (record.takeMembers ⟨.default, []⟩ members) := by
  have finish (d : Record.Draft Config) : record.finish d = .ok d.value := by
    unfold Record.finish
    split <;> rfl
  cases place with
  | nothing =>
    obtain rfl := Option.some.inj found
    exact .ok rfl
  | directory => cases found
  | closed reason => cases found
  | file bytes =>
    obtain ⟨doc, document, inside⟩ := Option.bind_eq_some_iff.mp found
    obtain ⟨cs, decoded, parsed⟩ := Option.bind_eq_some_iff.mp document
    have read : Toml.parse (String.ofList cs) = .ok doc := toOption_eq_some_iff.mp parsed
    have text : readText path (.file bytes) = .ok (String.ofList cs) := by
      rw [readText, decoded]
    have taken : record.codec.ofToml doc = record.takeMembers ⟨.default, []⟩ members >>=
        record.finish := by
      change record.ofToml doc = _
      unfold Record.ofToml
      split
      · cases inside
      · rw [inside]
        rfl
    change Together _ _ (load path (.file bytes)) _
    rw [load, text, ok_bind, Codec.parseToml, read, ok_bind, taken]
    cases record.takeMembers ⟨.default, []⟩ members with
    | error fault => exact .error trivial
    | ok d =>
      rw [ok_bind, finish]
      exact .ok rfl

/-- Of files that differ only in what is logged either none can be used, or they give
configurations that differ only in that. -/
theorem Relogged.loadOrDefault {place place' : Place} (relogged : Relogged place place')
    (path : String) : Together (fun _ _ => True) Akin (loadOrDefault path place)
      (loadOrDefault path place') := by
  cases relogged with
  | same =>
    cases Config.loadOrDefault path place with
    | error fault => exact .error trivial
    | ok c => exact .ok (.refl c)
  | @sections _ members members' found found' others readable readable' =>
    have beside {members : List (String × Toml)} (readable : LogsReadably members) :=
      takeMembers_beside (d := ⟨.default, []⟩) (e := ⟨.default, []⟩) (.refl _) (fun _ _ => rfl)
        (Or.inr ⟨rfl, readable⟩)
    have first := (loadOrDefault_of_table found path).trans (beside readable)
    have second := (loadOrDefault_of_table found' path).trans (beside readable')
    rw [← others] at second
    refine (first.trans second.symm).forget.mono ?_
    rintro c c' ⟨e, ⟨d, rfl, akin⟩, d', rfl, akin'⟩
    exact akin.trans akin'.symm

end IngestWatch.Config
