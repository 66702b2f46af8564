import IngestWatch.Proofs.Report.Columns

/-!
The tables that are printed. Both have a title and below it a drawing, in which every cell can
be read: the table of the query rate has a row for each field of the record, and the table of a
history a row for each of its records.
-/

namespace IngestWatch.Report

open Calendar

/-- A title, in bold type if the display has colours. -/
def IsTitle (d : Display) (title text : String) : Prop :=
  text = if d.colour then "\x1b[1m" ++ title ++ "\x1b[0m" else title

theorem isTitle_bold (d : Display) (title : String) : IsTitle d title (bold d title) := by
  unfold IsTitle bold
  split
  · simp only [toString, String.append_assoc]
  · rfl

/-! ## The query rate -/

/-- Rows that show a record: one for each of its fields in their order, with its key and its
value, or a single one for a record without fields. -/
def ShowsFields (rows : List (List String)) : Json → Prop
  | .obj members => rows.length = members.length ∧
      ∀ (i : Nat) (key : String) (value : Json), members[i]? = some (key, value) →
        rows[i]? = some [key, cellText value]
  | value => rows = [["value", cellText value]]

/-- A table of a record that was fetched at some time. -/
def IsRateTableOf (d : Display) (fetched : Moment) (record : Json) (text : String) : Prop :=
  ∃ (title table : String) (rows : List (List String)),
    text = title ++ "\n" ++ table ∧ IsTitle d ("Query rate at " ++ fetched.text) title ∧
      ShowsFields rows record ∧ Grid.IsDrawingOf ["Statistic", "Value"] rows table

theorem showsFields_rateGrid (record : Json) : ShowsFields (rateGrid record).rows record := by
  cases record with
  | obj members =>
    refine ⟨List.length_map _, fun i key value here => ?_⟩
    simp only [rateGrid]
    rw [List.getElem?_map, here]
    rfl
  | _ => rfl

theorem isRateTableOf_rateTable (d : Display) (fetched : Moment) (record : Json) :
    IsRateTableOf d fetched record (rateTable d fetched record) := by
  have even : ∀ row ∈ (rateGrid record).rows, row.length = (rateGrid record).header.length := by
    intro row inside
    cases record with
    | obj members =>
      obtain ⟨m, -, rfl⟩ := List.mem_map.mp inside
      rfl
    | _ =>
      rw [List.mem_singleton.mp inside]
      rfl
  refine ⟨_, _, _, rfl, ?_, showsFields_rateGrid record, Grid.isDrawingOf_draw even⟩
  have title := isTitle_bold d ("Query rate at " ++ fetched.text)
  simpa only [toString, String.append_assoc] using title

/-! ## A history -/

/-- A bound as it is shown: as its number of milliseconds, with or without the local time. -/
def ShowsBound (text : String) (millis : Int) : Prop :=
  text = toString millis ∨ ∃ clock, text = clock ++ " (" ++ toString millis ++ ")"

/-- A table with the bounds and the type of a window and the number of its records, and below
them a drawing with one row for each record in their order. -/
def IsTableOf (d : Display) (w : Window) (records : List Json) (text : String) : Prop :=
  ∃ (title start stop table : String) (grid : Grid),
    text = title ++ " " ++ start ++ " → " ++ stop ++ "  ingestType=" ++ w.ingestType ++ "  (" ++
        toString records.length ++ " records)\n" ++ table ∧
      IsTitle d "Ingest history" title ∧ ShowsBound start w.start ∧ ShowsBound stop w.stop ∧
      grid.rows.length = records.length ∧
      (∀ i, grid.rows[i]? = records[i]?.map fun r =>
        toString (i + 1) :: recordCells (columns records) (hasBare records) r) ∧
      Tabulates records (columns records) grid ∧ Grid.IsDrawingOf grid.header grid.rows table

theorem showsBound_boundText (d : Display) (millis : Int) :
    ShowsBound (boundText d millis) millis := by
  unfold boundText
  split
  · exact Or.inr ⟨_, rfl⟩
  · exact Or.inl rfl

theorem isTableOf_historyTable (d : Display) (w : Window) {records : List Json}
    (ordered : ∀ r ∈ records, r.Ordered) :
    IsTableOf d w records (historyTable d w records) := by
  obtain ⟨tabulates, drawn, -⟩ := historyTable_faithful records ordered
  refine ⟨bold d "Ingest history", boundText d w.start, boundText d w.stop, _,
    historyGrid records, ?_, isTitle_bold d _, showsBound_boundText d _, showsBound_boundText d _,
    tabulates.count, ?_, tabulates, drawn⟩
  · simp only [historyTable, toString, String.append_assoc]
  · intro i
    simp [historyGrid]

end IngestWatch.Report
