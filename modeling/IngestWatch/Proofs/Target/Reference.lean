import IngestWatch.Config.Check
import IngestWatch.Proofs.Target

/-!
Targets as those read them who get a URL: the path goes to the first `?` or `#`, the query to
the first `#`, and a fragment is behind that. The check of a configuration looks at the first
character of the path prefix alone, so a prefix may hold either mark; then what was meant to
be the path is read as something else. Without them a target says exactly what it should.
-/

namespace IngestWatch.Target

/-! ## Reading -/

/-- What a target says. There are pairs if there is a query and all of it can be read. -/
structure Reading where
  path : String
  pairs : Option (List (String × String))
  fragment : Option String
deriving DecidableEq

/-- What stands before the first of a mark, and what stands behind it if there is one. -/
def cut (mark : Char) (cs : List Char) : List Char × Option (List Char) :=
  match Text.cutAt? mark cs with
  | some (front, back) => (front, some back)
  | none => (cs, none)

def pairs? (query : List Char) : Option (List (String × String)) := do
  let pairs ← (query.splitOn '&').mapM (Text.cutAt? '=')
  pairs.mapM fun p => (Url.decodeValue? (String.ofList p.2)).map (String.ofList p.1, ·)

def read (target : String) : Reading :=
  let (front, fragment) := cut '#' target.toList
  let (path, query) := cut '?' front
  ⟨String.ofList path, query.bind pairs?, fragment.map String.ofList⟩

/-- Neither mark ends a path here. -/
def isPlain (c : Char) : Bool :=
  c ≠ '?' && c ≠ '#'

theorem fst_cut (mark : Char) (cs : List Char) : (cut mark cs).1 = cs.takeWhile (· ≠ mark) := by
  induction cs with
  | nil => rfl
  | cons c rest ih =>
    by_cases here : c = mark
    · simp [cut, Text.cutAt?, here]
    · rw [List.takeWhile_cons_of_pos (by simpa using here), ← ih]
      cases found : Text.cutAt? mark rest <;> simp [cut, Text.cutAt?, here, found]

theorem path_read (target : String) :
    (read target).path = String.ofList (target.toList.takeWhile isPlain) := by
  have both : isPlain = fun c => decide (decide (c ≠ '?') ∧ decide (c ≠ '#')) := by
    funext c
    simp [isPlain]
  rw [both, ← List.takeWhile_takeWhile]
  simp only [read, fst_cut]

theorem cut_append {mark : Char} {front : List Char} (first : mark ∉ front) (back : List Char) :
    cut mark (front ++ mark :: back) = (front, some back) := by
  rw [cut, Text.cutAt?_append first]

theorem cut_of_not_mem {mark : Char} {cs : List Char} (unmarked : mark ∉ cs) :
    cut mark cs = (cs, none) := by
  rw [cut, Text.cutAt?_of_not_mem unmarked]

/-! ## Reading what was put together -/

theorem pairs?_intercalate {pairs : List (String × String)} (some : pairs ≠ [])
    (names : ∀ p ∈ pairs, IsName p.1) :
    pairs? (['&'].intercalate (pairs.map pairChars)) = .some pairs := by
  have decoded : (pairs.map fun p => (p.1.toList, (Url.encodeValue p.2).toList)).mapM
      (fun p => (Url.decodeValue? (String.ofList p.2)).map (String.ofList p.1, ·)) =
        .some pairs := by
    clear some names
    induction pairs with
    | nil => rfl
    | cons p rest ih =>
      rw [List.map_cons, List.mapM_cons, ih]
      simp [Url.decodeValue?_encodeValue]
  rw [pairs?, splitOn_pairs some names, mapM_cutAt?_pairs names]
  exact decoded

theorem not_mem_intercalate {c : Char} {between : List Char} {parts : List (List Char)}
    (apart : c ∉ between) (inside : ∀ q ∈ parts, c ∉ q) : c ∉ between.intercalate parts := by
  induction parts with
  | nil => simp
  | cons q rest ih =>
    have first := inside q List.mem_cons_self
    have others := ih fun r member => inside r (.tail _ member)
    cases rest with
    | nil => simpa [List.intercalate] using first
    | cons r rest =>
      rw [List.intercalate_cons_cons, List.mem_append, List.mem_append, not_or, not_or]
      exact ⟨⟨first, apart⟩, others⟩

/-- A path without marks and pairs put together are read as they are. -/
theorem read_of_pairs {target : String} {path : List Char} {pairs : List (String × String)}
    (made : target.toList = path ++ '?' :: ['&'].intercalate (pairs.map pairChars))
    (plain : '?' ∉ path ∧ '#' ∉ path) (some : pairs ≠ [])
    (names : ∀ p ∈ pairs, IsName p.1 ∧ '#' ∉ p.1.toList) :
    read target = ⟨String.ofList path, .some pairs, none⟩ := by
  have apart : ∀ q ∈ pairs.map pairChars, '#' ∉ q := by
    intro q member
    obtain ⟨p, inside, rfl⟩ := List.mem_map.mp member
    have name := (names p inside).2
    have value := (Url.coded_encodeValue p.2).not_mem (c := '#') (by decide) (by decide)
    simp [pairChars, name, value]
  have whole : '#' ∉ target.toList := by
    have query : '#' ∉ ['&'].intercalate (pairs.map pairChars) :=
      not_mem_intercalate (by decide) apart
    rw [made, List.mem_append, List.mem_cons, not_or, not_or]
    exact ⟨plain.2, by decide, query⟩
  rw [made] at whole
  simp only [read, made, cut_of_not_mem whole, cut_append plain.1, Option.bind_some,
    pairs?_intercalate some fun p member => (names p member).1, Option.map_none]

/-! ## Reading the two requests -/

/-- The slashes that a prefix loses at its end are nothing but slashes. -/
theorem exists_slashes (pathPrefix : String) :
    ∃ slashes : List Char, (∀ c ∈ slashes, c = '/') ∧
      pathPrefix.toList = (bare pathPrefix).toList ++ slashes := by
  refine ⟨pathPrefix.toList.rtakeWhile (· = '/'), fun c member => ?_, ?_⟩
  · simpa using List.mem_rtakeWhile_imp member
  · rw [bare, String.toList_ofList, List.rdropWhile_append_rtakeWhile]

/-- A prefix that no reader takes for more than a path. -/
def IsPlain (pathPrefix : String) : Prop :=
  '?' ∉ pathPrefix.toList ∧ '#' ∉ pathPrefix.toList

theorem isPlain_iff {pathPrefix : String} :
    IsPlain pathPrefix ↔ ∀ c ∈ (bare pathPrefix).toList, isPlain c = true := by
  obtain ⟨slashes, all, whole⟩ := exists_slashes pathPrefix
  have absent {c : Char} (other : c ≠ '/') : c ∉ slashes := fun member => other (all c member)
  rw [IsPlain, whole, List.mem_append, List.mem_append, not_or, not_or,
    and_iff_left (absent (by decide)), and_iff_left (absent (by decide))]
  constructor
  · rintro ⟨query, fragment⟩ c member
    have notQuery : c ≠ '?' := fun same => query (same ▸ member)
    have notFragment : c ≠ '#' := fun same => fragment (same ▸ member)
    simp [isPlain, notQuery, notFragment]
  · intro every
    exact ⟨fun member => absurd (every _ member) (by decide),
      fun member => absurd (every _ member) (by decide)⟩

/-- A character on which a test fails keeps what comes behind from being taken. -/
theorem takeWhile_append_of_mem {test : Char → Bool} {front : List Char} {c : Char}
    (member : c ∈ front) (fails : test c = false) (back : List Char) :
    (front ++ back).takeWhile test = front.takeWhile test := by
  rw [List.takeWhile_append, if_neg]
  intro same
  have all := (List.takeWhile_prefix test).eq_of_length same
  rw [← all] at member
  simp [List.mem_takeWhile_imp member] at fails

section
variable {target pathPrefix below : String} {pairs : List (String × String)}
  (made : target.toList = (bare pathPrefix ++ below).toList ++
    '?' :: ['&'].intercalate (pairs.map pairChars))
include made

theorem path_read_of_not_isPlain (marked : ¬ IsPlain pathPrefix) :
    (read target).path = String.ofList (pathPrefix.toList.takeWhile isPlain) := by
  obtain ⟨c, member, mark⟩ : ∃ c ∈ (bare pathPrefix).toList, isPlain c = false := by
    simpa [isPlain_iff] using marked
  obtain ⟨slashes, -, whole⟩ := exists_slashes pathPrefix
  rw [path_read, made, whole, String.toList_append, List.append_assoc,
    takeWhile_append_of_mem member mark, takeWhile_append_of_mem member mark]

theorem read_eq_iff (plainBelow : below.toList.all isPlain = true) (some : pairs ≠ [])
    (names : ∀ p ∈ pairs, IsName p.1 ∧ '#' ∉ p.1.toList) :
    read target = ⟨bare pathPrefix ++ below, .some pairs, none⟩ ↔ IsPlain pathPrefix := by
  constructor
  · intro reads
    rw [isPlain_iff]
    intro c member
    have path : bare pathPrefix ++ below = String.ofList (target.toList.takeWhile isPlain) := by
      rw [← path_read, reads]
    have inside : c ∈ (bare pathPrefix ++ below).toList := by
      rw [String.toList_append]
      exact List.mem_append_left _ member
    rw [path, String.toList_ofList] at inside
    exact List.mem_takeWhile_imp inside
  · intro plain
    have every : ∀ c ∈ (bare pathPrefix ++ below).toList, isPlain c = true := by
      intro c member
      rw [String.toList_append, List.mem_append] at member
      exact member.elim (isPlain_iff.mp plain c) (List.all_eq_true.mp plainBelow c)
    have marks : '?' ∉ (bare pathPrefix ++ below).toList ∧
        '#' ∉ (bare pathPrefix ++ below).toList :=
      ⟨fun member => absurd (every _ member) (by decide),
        fun member => absurd (every _ member) (by decide)⟩
    rw [read_of_pairs made marks some names, String.ofList_toList]

end

theorem startsWith_of_validate {c : Config} (accepted : c.validate = .ok ()) :
    c.service.pathPrefix.startsWith "/" = true := by
  unfold Config.validate at accepted
  split at accepted
  · cases accepted
  · split at accepted
    · cases accepted
    · next slash => simpa using slash

theorem startsWith_path {target pathPrefix below : String} {rest : List Char}
    (slash : pathPrefix.startsWith "/" = true) (slashBelow : below.toList.head? = some '/')
    (made : target.toList = (bare pathPrefix ++ below).toList ++ rest) :
    (read target).path.startsWith "/" = true := by
  have one : "/".toList = ['/'] := rfl
  rw [String.startsWith_string_iff, one] at slash ⊢
  obtain ⟨slashes, -, whole⟩ := exists_slashes pathPrefix
  have first : target.toList.head? = some '/' := by
    obtain ⟨behind, begins⟩ := slash
    rw [made, String.toList_append]
    cases front : (bare pathPrefix).toList with
    | nil => simp [slashBelow]
    | cons c more =>
      rw [whole, front] at begins
      simpa using (List.cons.inj begins).1.symm
  obtain ⟨more, begins⟩ := List.head?_eq_some_iff.mp first
  rw [path_read, begins, String.toList_ofList, List.takeWhile_cons_of_pos (by decide)]
  exact ⟨_, rfl⟩

/-- What the service is asked for under a configuration that passes the check. Both targets are
read as the path below the bare prefix with exactly the pairs of the window or the statistic,
and without a fragment, if and only if the prefix is plain. Otherwise their path is what
stands before the first mark of the prefix, and nothing of the service's own path is left. -/
theorem reads_as_meant_iff (c : Config) (accepted : c.validate = .ok ()) (w : Window)
    (statistic : String) :
    let pathPrefix := c.service.pathPrefix
    let history := read (History.new pathPrefix w).target
    let rate := read (statistics pathPrefix statistic)
    (history = ⟨bare pathPrefix ++ "/services/ecs", some (windowPairs w), none⟩ ↔
        IsPlain pathPrefix) ∧
      (rate = ⟨bare pathPrefix ++ "/services/statistics", some [("type", statistic)], none⟩ ↔
        IsPlain pathPrefix) ∧
      (¬ IsPlain pathPrefix → ∀ r ∈ [history, rate],
        r.path = String.ofList (pathPrefix.toList.takeWhile isPlain)) ∧
      ∀ r ∈ [history, rate], r.path.startsWith "/" = true := by
  intro pathPrefix history rate
  have slash := startsWith_of_validate accepted
  have madeHistory : (History.new pathPrefix w).target.toList = _ := toList_history pathPrefix w
  have madeRate := toList_statistics pathPrefix statistic
  have windowNames : ∀ p ∈ windowPairs w, IsName p.1 ∧ '#' ∉ p.1.toList := by
    simp only [windowPairs, List.forall_mem_cons]
    exact ⟨by decide, by decide, by decide, by simp⟩
  have typeName : ∀ p ∈ [("type", statistic)], IsName p.1 ∧ '#' ∉ p.1.toList := by
    simp only [List.forall_mem_cons]
    exact ⟨by decide, by simp⟩
  refine ⟨read_eq_iff madeHistory (by decide) (by simp [windowPairs]) windowNames,
    read_eq_iff madeRate (by decide) (by simp) typeName, fun marked => ?_, ?_⟩
  · simp only [List.forall_mem_cons]
    exact ⟨path_read_of_not_isPlain madeHistory marked, path_read_of_not_isPlain madeRate marked,
      by simp⟩
  · simp only [List.forall_mem_cons]
    exact ⟨startsWith_path slash (by decide) madeHistory,
      startsWith_path slash (by decide) madeRate, by simp⟩

def below (pathPrefix : String) : Config :=
  { Config.default with service := { Config.Service.default with pathPrefix } }

/-- Below a plain prefix an ingest type that looks like more of the URL is only a value. -/
theorem reads_as_meant_escaped :
    read (History.new "/api//" ⟨-5, 7, "live&end=1?ü#x"⟩).target =
      ⟨"/api/services/ecs", some [("start", "-5"), ("end", "7"), ("ingestType", "live&end=1?ü#x")],
        none⟩ := by
  have accepted : (below "/api//").validate = .ok () := by decide +kernel
  have plain : IsPlain "/api//" := by unfold IsPlain; decide
  have path : bare "/api//" = "/api" := by decide
  have reads := (reads_as_meant_iff _ accepted ⟨-5, 7, "live&end=1?ü#x"⟩ "queryRate").1.mpr plain
  rw [below, path] at reads
  exact reads

/-- A prefix with a `#` in it passes the check, and the service is asked for neither the
statistics nor any type of them. -/
theorem accepted_prefix_cuts_target :
    (below "/m#x").validate = .ok () ∧
      read (statistics (below "/m#x").service.pathPrefix "queryRate") =
        ⟨"/m", none, some "x/services/statistics?type=queryRate"⟩ := by
  constructor <;> decide +kernel

end IngestWatch.Target
