import IngestWatch.Proofs.Grid
import IngestWatch.Proofs.Json.Ordered
import IngestWatch.Report

/-!
The table of a history. Its columns are gathered key by key, each key when it is met first, and
its rows are laid out along them afterwards; every cell stands under the key whose field it shows,
whatever fields the other records have. In the drawing of the table every cell can be read.
-/

namespace IngestWatch

/-- A key is found if and only if some member has it. -/
theorem Keyed.isSome_find?_iff {α : Type} {key : String} {members : List (String × α)} :
    (find? key members).isSome ↔ key ∈ members.map Prod.fst := by
  induction members with
  | nil => simp [find?]
  | cons m rest ih =>
    rw [find?, List.map_cons, List.mem_cons, ← ih]
    split
    · simp [*]
    · simp [*]

namespace Report

/-! ## Gathering -/

/-- Adds the keys that are not there yet. -/
def gather (columns : List String) (keys : List String) : List String :=
  keys.foldl (fun cs k => if cs.contains k then cs else cs ++ [k]) columns

/-- What is gathered has each key once, in the order in which they are met first. -/
structure Gathered (keys columns : List String) : Prop where
  once : columns.Nodup
  mem_iff : ∀ k, k ∈ columns ↔ k ∈ keys
  inOrder : columns.Pairwise fun a b => keys.idxOf a < keys.idxOf b

theorem Gathered.concat {keys columns : List String} (gathered : Gathered keys columns)
    (k : String) :
    Gathered (keys ++ [k]) (if columns.contains k then columns else columns ++ [k]) := by
  obtain ⟨once, mem_iff, inOrder⟩ := gathered
  have before {a : String} (known : a ∈ columns) : (keys ++ [k]).idxOf a = keys.idxOf a :=
    List.idxOf_append_of_mem ((mem_iff a).mp known)
  have kept : columns.Pairwise fun a b => (keys ++ [k]).idxOf a < (keys ++ [k]).idxOf b := by
    refine inOrder.imp_of_mem fun first second earlier => ?_
    rwa [before first, before second]
  by_cases known : k ∈ columns
  · rw [if_pos (List.contains_iff_mem.mpr known)]
    refine ⟨once, fun a => ?_, kept⟩
    rw [List.mem_append, List.mem_singleton, ← mem_iff]
    exact ⟨Or.inl, fun either => either.elim id fun same => same ▸ known⟩
  · rw [if_neg (mt List.contains_iff_mem.mp known)]
    have unmet : k ∉ keys := mt (mem_iff k).mpr known
    refine ⟨?_, fun a => ?_, List.pairwise_append.mpr ⟨kept, List.pairwise_singleton _ _, ?_⟩⟩
    · refine List.nodup_append.mpr ⟨once, List.nodup_singleton k, ?_⟩
      rintro a inside b new rfl
      exact known (List.mem_singleton.mp new ▸ inside)
    · rw [List.mem_append, List.mem_append, mem_iff]
    · rintro a inside b new
      obtain rfl := List.mem_singleton.mp new
      rw [before inside, List.idxOf_append_of_notMem unmet]
      have met := List.idxOf_lt_length_iff.mpr ((mem_iff a).mp inside)
      omega

theorem gathered_gather (keys : List String) : Gathered keys (gather [] keys) := by
  induction keys using List.reverseRecOn with
  | nil => exact ⟨List.nodup_nil, fun _ => Iff.rfl, .nil⟩
  | append_singleton keys k ih =>
    rw [gather, List.foldl_concat]
    exact ih.concat k

/-! ## The columns -/

/-- The keys of a record; other values have none. -/
def keysOf : Json → List String
  | .obj members => members.map Prod.fst
  | _ => []

theorem isSome_field?_iff {record : Json} {key : String} :
    (record.field? key).isSome ↔ key ∈ keysOf record := by
  cases record with
  | obj members => exact Keyed.isSome_find?_iff
  | _ => simp [Json.field?, keysOf]

theorem columns_eq (records : List Json) :
    columns records = gather [] (records.flatMap keysOf) := by
  have one (cs : List String) (record : Json) :
      addColumns cs record = gather cs (keysOf record) := by
    cases record with
    | obj members => rw [addColumns, keysOf, gather, List.foldl_map]
    | _ => rfl
  have all : addColumns = fun cs record => gather cs (keysOf record) := funext₂ one
  rw [columns, all, gather, List.foldl_flatMap]
  rfl

/-- The number of records before the first one that has a key. -/
def firstWith (records : List Json) (key : String) : Nat :=
  records.findIdx fun r => (r.field? key).isSome

/-- One key is met before another: in an earlier record, or in the same one, where the keys are in
their order. -/
def MetBefore (records : List Json) (a b : String) : Prop :=
  firstWith records a < firstWith records b ∨
    firstWith records a = firstWith records b ∧ a < b

theorem pairwise_keysOf {record : Json} (ordered : record.Ordered) :
    (keysOf record).Pairwise (· < ·) := by
  cases record with
  | obj members => exact List.pairwise_map.mpr ordered.members.1
  | _ => exact .nil

theorem lt_of_idxOf {keys : List String} (sorted : keys.Pairwise (· < ·)) {a b : String}
    (first : a ∈ keys) (second : b ∈ keys) (earlier : keys.idxOf a < keys.idxOf b) : a < b := by
  have less := List.pairwise_iff_getElem.mp sorted _ _ (List.idxOf_lt_length_iff.mpr first)
    (List.idxOf_lt_length_iff.mpr second) earlier
  rwa [List.getElem_idxOf, List.getElem_idxOf] at less

theorem firstWith_cons (r : Json) (rest : List Json) (k : String) :
    firstWith (r :: rest) k = if k ∈ keysOf r then 0 else firstWith rest k + 1 := by
  rw [firstWith, List.findIdx_cons, ← firstWith]
  by_cases known : k ∈ keysOf r
  · rw [if_pos known, isSome_field?_iff.mpr known, cond_true]
  · rw [if_neg known, Bool.eq_false_iff.mpr (mt isSome_field?_iff.mp known), cond_false]

theorem metBefore_of_idxOf {records : List Json} (ordered : ∀ r ∈ records, r.Ordered)
    {a b : String} (first : a ∈ records.flatMap keysOf)
    (earlier : (records.flatMap keysOf).idxOf a < (records.flatMap keysOf).idxOf b) :
    MetBefore records a b := by
  induction records with
  | nil => cases first
  | cons r rest ih =>
    obtain ⟨orderly, others⟩ := List.forall_mem_cons.mp ordered
    rw [List.flatMap_cons] at first earlier
    rw [MetBefore, firstWith_cons, firstWith_cons]
    by_cases here : a ∈ keysOf r
    · rw [if_pos here]
      by_cases here' : b ∈ keysOf r
      · rw [List.idxOf_append_of_mem here, List.idxOf_append_of_mem here'] at earlier
        rw [if_pos here']
        exact .inr ⟨rfl, lt_of_idxOf (pairwise_keysOf orderly) here here' earlier⟩
      · rw [if_neg here']
        exact .inl (Nat.succ_pos _)
    · have inside := (List.mem_append.mp first).resolve_left here
      rw [List.idxOf_append_of_notMem here] at earlier
      have there : b ∉ keysOf r := by
        intro here'
        have small := List.idxOf_lt_length_iff.mpr here'
        rw [List.idxOf_append_of_mem here'] at earlier
        omega
      rw [List.idxOf_append_of_notMem there] at earlier
      rw [if_neg here, if_neg there]
      rcases ih others inside (by omega) with before | ⟨same, less⟩
      · exact .inl (by omega)
      · exact .inr ⟨by omega, less⟩

/-! ## The rows -/

/-- What a record shows under a key. -/
def fieldText (record : Json) (key : String) : String :=
  ((record.field? key).map cellText).getD ""

/-- What a record shows as a value of its own. -/
def bareText (record : Json) : String :=
  if isObject record then "" else cellText record

/-- A row shows a record of some number: the number itself, what each key of the columns has, and
in a column for values the record's own. -/
structure ShowsRecord (keys : List String) (bare : Bool) (number : Nat) (record : Json)
    (row : List String) : Prop where
  length : row.length = keys.length + (if bare then 2 else 1)
  number : row[0]? = some (toString number)
  field : ∀ j key, keys[j]? = some key → row[j + 1]? = some (fieldText record key)
  value : bare = true → row[keys.length + 1]? = some (bareText record)

/-- The cells of a record, one for each key and one more in a column for values. -/
theorem recordCells_eq {keys : List String} {bare : Bool} {record : Json}
    (room : isObject record = false → bare = true) :
    recordCells keys bare record =
      keys.map (fieldText record) ++ if bare then [bareText record] else [] := by
  cases record with
  | obj members => rfl
  | _ =>
    rw [room rfl]
    rfl

theorem showsRecord_recordCells (keys : List String) {bare : Bool} {record : Json}
    (room : isObject record = false → bare = true) (number : Nat) :
    ShowsRecord keys bare number record (toString number :: recordCells keys bare record) := by
  rw [recordCells_eq room]
  constructor
  case length => cases bare <;> simp
  case number => rfl
  case field =>
    intro j key here
    have inside : j < (keys.map (fieldText record)).length := by
      rw [List.length_map]
      exact (List.getElem?_eq_some_iff.mp here).1
    rw [List.getElem?_cons_succ, List.getElem?_append_left inside, List.getElem?_map, here]
    rfl
  case value =>
    rintro rfl
    have beyond : (keys.map (fieldText record)).length ≤ keys.length := by rw [List.length_map]
    rw [List.getElem?_cons_succ, List.getElem?_append_right beyond, List.length_map,
      Nat.sub_self]
    rfl

/-! ## The table -/

/-- A faithful table of records: the columns are a number, every key that occurs in a record, in
the order in which the keys are met, and a column for values if some record has no fields; and
there is one row for each record, which shows it. -/
structure Tabulates (records : List Json) (keys : List String) (grid : Grid) : Prop where
  once : keys.Nodup
  occurs : ∀ k, k ∈ keys ↔ ∃ r ∈ records, (r.field? k).isSome
  inOrder : keys.Pairwise (MetBefore records)
  header : grid.header = "#" :: keys ++ (if records.all isObject then [] else ["value"])
  count : grid.rows.length = records.length
  shows : ∀ i record row, records[i]? = some record → grid.rows[i]? = some row →
    row.length = grid.header.length ∧
      ShowsRecord keys (!records.all isObject) (i + 1) record row

theorem tabulates_historyGrid {records : List Json} (ordered : ∀ r ∈ records, r.Ordered) :
    Tabulates records (columns records) (historyGrid records) := by
  have bare : hasBare records = !records.all isObject := by
    rw [hasBare, List.not_all_eq_any_not]
  obtain ⟨once, mem_iff, inOrder⟩ := gathered_gather (records.flatMap keysOf)
  rw [← columns_eq] at once mem_iff inOrder
  constructor
  case once => exact once
  case occurs =>
    intro k
    rw [mem_iff, List.mem_flatMap]
    simp only [isSome_field?_iff]
  case inOrder =>
    refine inOrder.imp_of_mem fun first _ earlier => ?_
    exact metBefore_of_idxOf ordered ((mem_iff _).mp first) earlier
  case header =>
    rw [historyGrid, bare]
    cases records.all isObject <;> rfl
  case count => exact List.length_mapIdx
  case shows =>
    intro i record row here there
    have same : row =
        toString (i + 1) :: recordCells (columns records) (hasBare records) record := by
      rw [historyGrid, List.getElem?_mapIdx, here] at there
      exact (Option.some.inj there).symm
    have room : isObject record = false → hasBare records = true := by
      intro single
      exact List.any_eq_true.mpr ⟨record, List.mem_of_getElem? here, by rw [single]; rfl⟩
    have shown := showsRecord_recordCells (columns records) room (i + 1)
    rw [← same] at shown
    refine ⟨?_, bare ▸ shown⟩
    rw [shown.length, historyGrid]
    cases hasBare records <;> simp

/-- The table of a history is a faithful one, whatever records there are, with and without
fields, and below a title it is drawn with all its cells. -/
theorem historyTable_faithful (records : List Json) (ordered : ∀ r ∈ records, r.Ordered) :
    Tabulates records (columns records) (historyGrid records) ∧
      Grid.IsDrawingOf (historyGrid records).header (historyGrid records).rows
        (historyGrid records).draw ∧
      ∀ (d : Display) (w : Window), ∃ title : String,
        historyTable d w records = title ++ (historyGrid records).draw := by
  have tabulates := tabulates_historyGrid ordered
  refine ⟨tabulates, Grid.isDrawingOf_draw fun row inside => ?_, fun d w => ⟨_, rfl⟩⟩
  obtain ⟨i, there⟩ := List.mem_iff_getElem?.mp inside
  obtain ⟨below, -⟩ := List.getElem?_eq_some_iff.mp there
  have here := List.getElem?_eq_getElem (tabulates.count ▸ below)
  exact (tabulates.shows i _ row here there).1

/-- Records with some keys in common and two values without fields among them. -/
theorem historyTable_faithful_mixed :
    let records : List Json := [.obj [("b", .int 1), ("value", .str "x")], .int 5,
      .obj [("a", .null), ("b", .bool true)], .str "s"]
    (∀ r ∈ records, r.Ordered) ∧ Tabulates records (columns records) (historyGrid records) ∧
      historyGrid records = ⟨["#", "b", "value", "a", "value"],
        [["1", "1", "x", "", ""], ["2", "", "", "", "5"], ["3", "true", "", "", ""],
          ["4", "", "", "", "s"]]⟩ := by
  intro records
  have ordered : ∀ r ∈ records, r.Ordered := by
    have first : Json.Ordered (.obj [("b", .int 1), ("value", .str "x")]) :=
      .obj (List.pairwise_pair.mpr (by decide)) (by simp [Json.Ordered.int, Json.Ordered.str])
    have second : Json.Ordered (.obj [("a", .null), ("b", .bool true)]) :=
      .obj (List.pairwise_pair.mpr (by decide)) (by simp [Json.Ordered.null, Json.Ordered.bool])
    simp [records, first, second, Json.Ordered.int, Json.Ordered.str]
  exact ⟨ordered, (historyTable_faithful records ordered).1, by decide +kernel⟩

end Report

end IngestWatch
