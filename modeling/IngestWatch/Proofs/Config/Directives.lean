import IngestWatch.Config
import IngestWatch.Proofs.Keyed
import IngestWatch.Proofs.Text

/-!
The filter of the log as one text. It depends on nothing but the level and the level that each
component has; and where no comma or equals sign stands in the way, both can be read from it again.
The components come in the order of their bytes, each once.
-/

namespace IngestWatch.Config.Logging

/-! ## What the text is made of -/

/-- The level of a component: the one that was put last under its name. Where no component levels
are set no component has one. -/
def levelOf? (l : Logging) (component : String) : Option String :=
  Keyed.find? component (l.componentLevels.getD []).reverse

/-- The components with their levels, in ascending order of their names. -/
def members (l : Logging) : List (String × String) :=
  Keyed.ofList (l.componentLevels.getD [])

/-- What all components are below. -/
def root : String := "ingest_metrics::"

/-- What the text says of one component. -/
def directive (m : String × String) : String :=
  root ++ m.1 ++ "=" ++ m.2

variable {l l' : Logging}

theorem mem_members_iff {component level : String} :
    (component, level) ∈ l.members ↔ l.levelOf? component = some level :=
  Keyed.mem_ofList_iff

theorem members_eq_iff : l.members = l'.members ↔ ∀ c, l.levelOf? c = l'.levelOf? c := by
  refine ⟨fun same c => Option.ext fun level => ?_, Keyed.ofList_eq_of_find?⟩
  rw [← mem_members_iff, ← mem_members_iff, same]

/-- What is put behind a text with a comma each time stands there with commas between. -/
theorem foldl_eq_intercalate {α : Type} {add : String → α → String} {part : α → String}
    (adds : ∀ text a, add text a = text ++ "," ++ part a) (text : String) (items : List α) :
    items.foldl add text = ",".intercalate (text :: items.map part) := by
  induction items generalizing text with
  | nil => simp
  | cons a rest ih =>
    rw [List.foldl_cons, ih, adds, String.intercalate_cons_append, List.map_cons,
      String.intercalate_cons_cons]

/-- The level and the directives of the components, with commas between them. -/
theorem directives_eq (l : Logging) :
    l.directives = ",".intercalate (l.level :: l.members.map directive) := by
  refine foldl_eq_intercalate (fun text m => ?_) l.level l.members
  have comma : ",ingest_metrics::" = "," ++ root := by decide
  change text ++ ",ingest_metrics::" ++ m.1 ++ "=" ++ m.2 = text ++ "," ++ directive m
  rw [comma, directive]
  simp only [String.append_assoc]

theorem directives_congr (level : l.level = l'.level)
    (same : ∀ c, l.levelOf? c = l'.levelOf? c) : l.directives = l'.directives := by
  rw [directives_eq, directives_eq, level, members_eq_iff.mpr same]

/-- Names that differ lead to the same levels in whatever order they are kept. -/
theorem levelOf?_of_perm {stored stored' : List (String × String)}
    (once : (stored.map Prod.fst).Nodup) (same : stored.Perm stored') (level : String)
    (format : LogFormat) (component : String) :
    levelOf? ⟨level, format, some stored⟩ component =
      levelOf? ⟨level, format, some stored'⟩ component := by
  have reversed : stored.reverse.Perm stored'.reverse :=
    (List.reverse_perm stored).trans (same.trans (List.reverse_perm stored').symm)
  have distinct : (stored.reverse.map Prod.fst).Nodup :=
    ((List.reverse_perm stored).map Prod.fst).nodup_iff.mpr once
  change Keyed.find? component stored.reverse = Keyed.find? component stored'.reverse
  rw [Keyed.find?_eq_lookup, Keyed.find?_eq_lookup]
  exact Keyed.lookup_eq_of_perm distinct reversed component

/-! ## Reading it again -/

/-- The parts of a text between its commas. -/
def pieces (text : String) : List String :=
  (text.toList.splitOn ',').map String.ofList

/-- The component and the level that a directive names. -/
def component? (piece : String) : Option (String × String) := do
  let rest ← piece.toList.dropPrefix? root.toList
  let (component, level) ← Text.cutAt? '=' rest
  return (String.ofList component, String.ofList level)

/-- The level and the levels of the components that a text tells. -/
def told? (text : String) : Option (String × List (String × String)) :=
  match pieces text with
  | [] => none
  | level :: directives => (directives.mapM component?).map (level, ·)

/-- No comma and, in the name of a component, no equals sign either stands in the way. -/
structure Plain (l : Logging) : Prop where
  level : ',' ∉ l.level.toList
  components : ∀ component level, l.levelOf? component = some level →
    ',' ∉ component.toList ∧ '=' ∉ component.toList ∧ ',' ∉ level.toList

theorem plain_iff : l.Plain ↔ ',' ∉ l.level.toList ∧ ∀ m ∈ l.members,
    ',' ∉ m.1.toList ∧ '=' ∉ m.1.toList ∧ ',' ∉ m.2.toList := by
  constructor
  · rintro ⟨level, components⟩
    exact ⟨level, fun m member => components m.1 m.2 (mem_members_iff.mp member)⟩
  · rintro ⟨level, components⟩
    exact ⟨level, fun component own here => components (component, own) (mem_members_iff.mpr here)⟩

instance (l : Logging) : Decidable l.Plain :=
  decidable_of_iff _ plain_iff.symm

theorem pieces_directives (plain : l.Plain) :
    pieces l.directives = l.level :: l.members.map directive := by
  have apart : ∀ piece ∈ (l.level :: l.members.map directive).map String.toList, ',' ∉ piece := by
    rw [List.map_cons, List.forall_mem_cons]
    refine ⟨plain.level, ?_⟩
    intro piece inside
    obtain ⟨text, directed, rfl⟩ := List.mem_map.mp inside
    obtain ⟨⟨component, level⟩, member, rfl⟩ := List.mem_map.mp directed
    obtain ⟨name, -, value⟩ := plain.components component level (mem_members_iff.mp member)
    have before : ',' ∉ root.toList := by decide
    simp [directive, before, name, value]
  have split := List.splitOn_intercalate ',' apart (List.cons_ne_nil _ _)
  rw [pieces, directives_eq, String.toList_intercalate]
  change List.map _ (List.splitOn ',' ([','].intercalate _)) = _
  rw [split, List.map_map]
  simp [Function.comp_def]

theorem component?_directive {m : String × String} (plain : '=' ∉ m.1.toList) :
    component? (directive m) = some m := by
  have dropped : (directive m).toList.dropPrefix? root.toList =
      some (m.1.toList ++ '=' :: m.2.toList) :=
    List.dropPrefix?_eq_some_iff.mpr ⟨_, by simp [directive], beq_self_eq_true _⟩
  simp [component?, dropped, Text.cutAt?_append plain]

theorem told?_directives (plain : l.Plain) : told? l.directives = some (l.level, l.members) := by
  have each : ∀ m ∈ l.members, component? (directive m) = some m := by
    intro m member
    exact component?_directive (plain.components m.1 m.2 (mem_members_iff.mp member)).2.1
  have all : (l.members.map directive).mapM component? = some l.members := by
    generalize l.members = members at each
    induction members with
    | nil => rfl
    | cons m rest ih =>
      rw [List.map_cons, List.mapM_cons, each m List.mem_cons_self,
        ih fun m later => each m (.tail _ later)]
      rfl
  rw [told?, pieces_directives plain]
  dsimp only
  rw [all]
  rfl

theorem pairwise_members (l : Logging) :
    l.members.Pairwise fun a b => Text.utf8Bytes a.1.toList < Text.utf8Bytes b.1.toList :=
  (Keyed.ascending_ofList _).imp fun before => Text.utf8Bytes_lt before

/-- The text of a filter does not depend on the order in which component levels are kept, nor on
that in which they were put: all configurations with the same level, and the same level for each
component, have the same text. Cut at its commas a text without others gives the level and one
directive for each component, in strictly ascending order of the bytes of their names; and all
levels can be told from it, so such a text belongs to no other levels. -/
theorem directives_tell_levels (l : Logging) :
    (∀ l' : Logging, l'.level = l.level → (∀ c, l'.levelOf? c = l.levelOf? c) →
      l'.directives = l.directives) ∧
    (∀ stored stored' : List (String × String), (stored.map Prod.fst).Nodup →
      stored.Perm stored' →
        directives { l with componentLevels := some stored } =
          directives { l with componentLevels := some stored' }) ∧
    (l.Plain →
      (∃ members : List (String × String),
        pieces l.directives = l.level :: members.map directive ∧
        (members.Pairwise fun a b => Text.utf8Bytes a.1.toList < Text.utf8Bytes b.1.toList) ∧
        (∀ c level, (c, level) ∈ members ↔ l.levelOf? c = some level) ∧
        told? l.directives = some (l.level, members)) ∧
      ∀ l' : Logging, l'.Plain → l'.directives = l.directives →
        l'.level = l.level ∧ ∀ c, l'.levelOf? c = l.levelOf? c) := by
  refine ⟨fun l' level same => directives_congr level same, ?_, fun plain => ⟨?_, ?_⟩⟩
  · intro stored stored' once same
    exact directives_congr rfl (levelOf?_of_perm once same l.level l.format)
  · exact ⟨l.members, pieces_directives plain, pairwise_members l, fun c level => mem_members_iff,
      told?_directives plain⟩
  · intro l' plain' same
    have both := congrArg told? same
    rw [told?_directives plain', told?_directives plain, Option.some.injEq, Prod.mk.injEq] at both
    exact ⟨both.1, members_eq_iff.mp both.2⟩

/-- A name that is empty and one that reaches below another, a level with an equals sign, a
component that is put twice, and characters that come in another order where they are not taken as
bytes. -/
theorem directives_tell_levels_reordered :
    let l : Logging := ⟨"info", .json,
      some [("😀", "x"), ("a::b", "debug"), ("", "="), ("\uffff", ""), ("a::b", "off")]⟩
    let other : Logging := ⟨"info", .pretty,
      some [("a::b", "off"), ("\uffff", ""), ("", "="), ("😀", "x")]⟩
    (other.level = l.level ∧ ∀ c, other.levelOf? c = l.levelOf? c) ∧
    other.directives = l.directives ∧ l.Plain ∧
    l.directives = "info,ingest_metrics::==,ingest_metrics::a::b=off," ++
      "ingest_metrics::\uffff=,ingest_metrics::😀=x" ∧
    ∃ members, pieces l.directives = l.level :: members.map directive ∧
      told? l.directives = some ("info", members) ∧ ("a::b", "off") ∈ members := by
  intro l other
  have same : ∀ c, other.levelOf? c = l.levelOf? c := members_eq_iff.mp (by decide +kernel)
  have plain : l.Plain := by decide +kernel
  obtain ⟨canonical, -, lossless⟩ := directives_tell_levels l
  obtain ⟨⟨members, parts, -, exact_, told⟩, -⟩ := lossless plain
  refine ⟨⟨rfl, same⟩, canonical other rfl same, plain, by decide +kernel, members, parts, told, ?_⟩
  exact (exact_ "a::b" "off").mpr rfl

end IngestWatch.Config.Logging
