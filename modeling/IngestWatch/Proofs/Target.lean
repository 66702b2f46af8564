import IngestWatch.History
import IngestWatch.Proofs.Text
import IngestWatch.Proofs.Url.Percent
import Mathlib

/-!
Targets taken apart again. Cut at its first `?` and its query at `&` and `=`, a target
gives the path and the names and values it was put together of, whatever the values hold.
So no value reaches beyond its own pair, and different windows have different targets.
-/

namespace IngestWatch.Target

/-- A target taken apart: what stands before its first `?`, and of each part between the
`&` behind it the name before the first `=` and the value as it is written. -/
def parts? (target : String) : Option (String × List (String × String)) := do
  let (path, query) ← Text.cutAt? '?' target.toList
  let pairs ← (query.splitOn '&').mapM (Text.cutAt? '=')
  return (String.ofList path, pairs.map fun p => (String.ofList p.1, String.ofList p.2))

/-- A pair as it stands in a query, its value coded. -/
def pairChars (p : String × String) : List Char :=
  p.1.toList ++ '=' :: (Url.encodeValue p.2).toList

theorem toList_pair (name value : String) : (pair name value).toList = pairChars (name, value) := by
  simp [pair, pairChars]

/-- A name that can be told from what comes behind it. -/
def IsName (name : String) : Prop :=
  '&' ∉ name.toList ∧ '=' ∉ name.toList

instance (name : String) : Decidable (IsName name) :=
  inferInstanceAs (Decidable (_ ∧ _))

theorem mapM_cutAt?_pairs {pairs : List (String × String)} (names : ∀ p ∈ pairs, IsName p.1) :
    (pairs.map pairChars).mapM (Text.cutAt? '=') =
      some (pairs.map fun p => (p.1.toList, (Url.encodeValue p.2).toList)) := by
  induction pairs with
  | nil => rfl
  | cons p rest ih =>
    have cut : Text.cutAt? '=' (pairChars p) =
        some (p.1.toList, (Url.encodeValue p.2).toList) :=
      Text.cutAt?_append (names p List.mem_cons_self).2 _
    rw [List.map_cons, List.mapM_cons, cut, ih fun q member => names q (.tail _ member)]
    rfl

/-- The `&` between pairs are the only ones. -/
theorem splitOn_pairs {pairs : List (String × String)} (some : pairs ≠ [])
    (names : ∀ p ∈ pairs, IsName p.1) :
    (['&'].intercalate (pairs.map pairChars)).splitOn '&' = pairs.map pairChars := by
  have apart : ∀ q ∈ pairs.map pairChars, '&' ∉ q := by
    intro q member
    obtain ⟨p, inside, rfl⟩ := List.mem_map.mp member
    have name := (names p inside).1
    have value := (Url.coded_encodeValue p.2).not_mem (c := '&') (by decide) (by decide)
    simp [pairChars, name, value]
  exact List.splitOn_intercalate '&' apart (by simpa using some)

/-- Whatever the values are, a path and pairs put together come apart again. -/
theorem parts?_of_pairs {target : String} {path : List Char} {pairs : List (String × String)}
    (made : target.toList = path ++ '?' :: ['&'].intercalate (pairs.map pairChars))
    (plain : '?' ∉ path) (some : pairs ≠ []) (names : ∀ p ∈ pairs, IsName p.1) :
    parts? target = .some (String.ofList path,
      pairs.map fun p => (p.1, Url.encodeValue p.2)) := by
  simp only [parts?, made, Text.cutAt?_append plain, splitOn_pairs some names,
    mapM_cutAt?_pairs names, Option.bind_eq_bind, Option.bind_some, Option.pure_def, List.map_map]
  simp [Function.comp_def]

/-! ## The two requests -/

/-- A path prefix without the slashes at its end. -/
def bare (pathPrefix : String) : String :=
  String.ofList (pathPrefix.toList.rdropWhile (· = '/'))

theorem trimSlashes_eq_bare (pathPrefix : String) :
    Text.trimSlashes pathPrefix = bare pathPrefix := rfl

/-- A path below a prefix holds no `?` if the prefix holds none. -/
theorem mark_not_mem_path {pathPrefix below : String} (plain : '?' ∉ pathPrefix.toList)
    (plainBelow : '?' ∉ below.toList) : '?' ∉ (bare pathPrefix ++ below).toList := by
  have front : (bare pathPrefix).toList <+: pathPrefix.toList := by
    rw [bare, String.toList_ofList]
    exact List.rdropWhile_prefix _ _
  rw [String.toList_append, List.mem_append, not_or]
  exact ⟨fun member => plain (front.subset member), plainBelow⟩

theorem intChars_eq (n : Int) : String.ofList (Json.intChars n) = toString n := by
  cases n with
  | ofNat m =>
    have whole : ¬ (Int.ofNat m < 0) := by simp
    rw [Json.intChars, if_neg whole]
    rfl
  | negSucc m =>
    have negative : Int.negSucc m < 0 := Int.negSucc_lt_zero m
    rw [Json.intChars, if_pos negative, String.ofList_cons, Json.natChars,
      ← Nat.repr_eq_ofList_toDigits]
    rfl

/-- A whole number needs no coding. -/
theorem encodeValue_toString (n : Int) : Url.encodeValue (toString n) = toString n := by
  have digits (m : Nat) : ∀ c ∈ Json.natChars m, Url.isUnreserved c = true := by
    intro c member
    have digit := Nat.isDigit_of_mem_toDigits (by decide) (by decide) member
    simp [Url.isUnreserved, Char.isAlphanum, digit]
  refine Url.encodeValue_eq_self fun c member => ?_
  rw [← intChars_eq, String.toList_ofList, Json.intChars] at member
  split at member
  · rcases List.mem_cons.mp member with rfl | digit
    · decide
    · exact digits _ c digit
  · exact digits _ c member

/-- The names and values a window is asked for with. -/
def windowPairs (w : Window) : List (String × String) :=
  [("start", toString w.start), ("end", toString w.stop), ("ingestType", w.ingestType)]

theorem toList_history (pathPrefix : String) (w : Window) :
    (history pathPrefix w.start w.stop w.ingestType).toList =
      (bare pathPrefix ++ "/services/ecs").toList ++
        '?' :: ['&'].intercalate ((windowPairs w).map pairChars) := by
  rw [history, trimSlashes_eq_bare, intChars_eq, intChars_eq, ← encodeValue_toString w.start,
    ← encodeValue_toString w.stop]
  simp [windowPairs, pairChars, toList_pair, List.intercalate]

theorem toList_statistics (pathPrefix statistic : String) :
    (statistics pathPrefix statistic).toList =
      (bare pathPrefix ++ "/services/statistics").toList ++
        '?' :: ['&'].intercalate ([("type", statistic)].map pairChars) := by
  rw [statistics, trimSlashes_eq_bare]
  simp [pairChars, toList_pair, List.intercalate]

variable {pathPrefix : String}

theorem parts?_history (plain : '?' ∉ pathPrefix.toList) (w : Window) :
    parts? (history pathPrefix w.start w.stop w.ingestType) =
      some (bare pathPrefix ++ "/services/ecs",
        (windowPairs w).map fun p => (p.1, Url.encodeValue p.2)) := by
  have names : ∀ p ∈ windowPairs w, IsName p.1 := by
    simp only [windowPairs, List.forall_mem_cons]
    exact ⟨by decide, by decide, by decide, by simp⟩
  rw [parts?_of_pairs (toList_history pathPrefix w)
    (mark_not_mem_path plain (by decide)) (by simp [windowPairs]) names, String.ofList_toList]

theorem parts?_statistics (plain : '?' ∉ pathPrefix.toList) (statistic : String) :
    parts? (statistics pathPrefix statistic) =
      some (bare pathPrefix ++ "/services/statistics",
        [("type", Url.encodeValue statistic)]) := by
  have names : ∀ p ∈ [("type", statistic)], IsName p.1 := by
    simp only [List.forall_mem_cons]
    exact ⟨by decide, by simp⟩
  rw [parts?_of_pairs (toList_statistics pathPrefix statistic)
    (mark_not_mem_path plain (by decide)) (by simp) names, String.ofList_toList]
  rfl

/-- A window can be told from the pairs it is asked for with. -/
theorem eq_of_coded_pairs {w w' : Window}
    (same : (windowPairs w).map (fun p => (p.1, Url.encodeValue p.2)) =
      (windowPairs w').map fun p => (p.1, Url.encodeValue p.2)) : w = w' := by
  simp only [windowPairs, List.map_cons, List.cons.injEq, Prod.mk.injEq, true_and] at same
  obtain ⟨start, stop, ingestType, -⟩ := same
  have decoded {s s' : String} (coded : Url.encodeValue s = Url.encodeValue s') : s = s' := by
    have both := congrArg Url.decodeValue? coded
    rw [Url.decodeValue?_encodeValue, Url.decodeValue?_encodeValue] at both
    exact Option.some.inj both
  obtain ⟨a, b, t⟩ := w
  obtain ⟨a', b', t'⟩ := w'
  obtain rfl : a = a' := Int.repr_injective (decoded start)
  obtain rfl : b = b' := Int.repr_injective (decoded stop)
  obtain rfl : t = t' := decoded ingestType
  rfl

/-- Both requests come apart into the path below the bare prefix and exactly their own pairs.
The values as written are made of unreserved characters and escapes and decode to the
decimal texts of the bounds, the ingest type and the statistic, whatever these are. Another
window has another target, and to set one part of a window changes its pair alone. -/
theorem targets_read_back (h : History) (statistic : String)
    (plain : '?' ∉ h.pathPrefix.toList) :
    let path := bare h.pathPrefix ++ "/services/ecs"
    ∃ start stop ingestType type : String,
      parts? h.target =
          some (path, [("start", start), ("end", stop), ("ingestType", ingestType)]) ∧
        parts? (statistics h.pathPrefix statistic) =
          some (bare h.pathPrefix ++ "/services/statistics", [("type", type)]) ∧
        Url.decodeValue? start = some (toString h.window.start) ∧
        Url.decodeValue? stop = some (toString h.window.stop) ∧
        Url.decodeValue? ingestType = some h.window.ingestType ∧
        Url.decodeValue? type = some statistic ∧
        (∀ v ∈ [start, stop, ingestType, type],
          Url.Coded v.toList ∧ ∀ c ∈ v.toList, c.toNat < 128) ∧
        (∀ w, w ≠ h.window → { h with window := w }.target ≠ h.target) ∧
        (∀ n, ∃ v, parts? (h.setStart n).target =
          some (path, [("start", v), ("end", stop), ("ingestType", ingestType)])) ∧
        (∀ n, ∃ v, parts? (h.setStop n).target =
          some (path, [("start", start), ("end", v), ("ingestType", ingestType)])) ∧
        (∀ t, ∃ v, parts? (h.setIngestType t).target =
          some (path, [("start", start), ("end", stop), ("ingestType", v)])) := by
  intro path
  have window (w : Window) : parts? { h with window := w }.target =
      some (path, (windowPairs w).map fun p => (p.1, Url.encodeValue p.2)) :=
    parts?_history plain w
  refine ⟨_, _, _, _, window h.window, parts?_statistics plain statistic,
    Url.decodeValue?_encodeValue _, Url.decodeValue?_encodeValue _,
    Url.decodeValue?_encodeValue _, Url.decodeValue?_encodeValue _, ?_, ?_,
    fun n => ⟨_, window { h.window with start := n }⟩,
    fun n => ⟨_, window { h.window with stop := n }⟩,
    fun t => ⟨_, window { h.window with ingestType := t }⟩⟩
  · intro v member
    obtain ⟨text, rfl⟩ : ∃ text, v = Url.encodeValue text := by
      simp only [List.mem_cons, List.not_mem_nil, or_false] at member
      rcases member with rfl | rfl | rfl | rfl
      all_goals exact ⟨_, rfl⟩
    have coded := Url.coded_encodeValue text
    refine ⟨coded, fun c inside => ?_⟩
    rcases coded.isUnreserved_or_mark c inside with unreserved | rfl
    · exact Url.toNat_lt_of_isUnreserved unreserved
    · decide
  · intro w other same
    have parts := congrArg parts? same
    rw [window w, window h.window, Option.some.injEq, Prod.mk.injEq] at parts
    exact other (eq_of_coded_pairs parts.2)

/-- An ingest type that looks like further pairs stays one value, and the least number of
64 bits comes back. -/
theorem targets_read_back_escaped :
    let h : History := .new "/api//" ⟨-0x8000000000000000, 0, "live&end=1?ü"⟩
    '?' ∉ h.pathPrefix.toList ∧ ∃ start stop ingestType,
      parts? h.target = some ("/api/services/ecs",
        [("start", start), ("end", stop), ("ingestType", ingestType)]) ∧
      Url.decodeValue? start = some "-9223372036854775808" ∧
      Url.decodeValue? ingestType = some "live&end=1?ü" := by
  intro h
  have plain : '?' ∉ h.pathPrefix.toList := by decide
  obtain ⟨start, stop, ingestType, _, parts, -, first, -, third, -⟩ :=
    targets_read_back h "queryRate" plain
  refine ⟨plain, start, stop, ingestType, ?_, ?_, third⟩
  · have path : bare h.pathPrefix = "/api" := by decide
    rw [parts, path]
    rfl
  · rw [first]
    rfl

end IngestWatch.Target
