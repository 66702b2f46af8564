import IngestWatch.Grid
import IngestWatch.Proofs.Text

/-!
What a drawn table shows. Read line by line it is a rule, the header, a rule, the rows with
rules between them, and a rule; every line of every cell stands in its row and column, and
the columns are just as wide as their widest line.
-/

namespace IngestWatch.Grid

/-! ## What a drawing is -/

/-- A line of a cell as it stands in a column: between two blanks, filled up with more. -/
def Fills (width : Nat) (line part : List Char) : Prop :=
  ∃ blanks, part = ' ' :: line ++ List.replicate blanks ' ' ++ [' '] ∧
    Text.width line + blanks = width

/-- The cells of a row on the line with some number, each in its column. A cell with fewer
lines is empty there. -/
def IsLineOf (widths : List Nat) (row : List String) (number : Nat) (line : List Char) : Prop :=
  ∃ parts : List (List Char), line = '│' :: List.intercalate ['┆'] parts ++ ['│'] ∧
    parts.length = row.length ∧
    ∀ (column : Nat) (cell : String), row[column]? = some cell → ∃ width part,
      widths[column]? = some width ∧ parts[column]? = some part ∧
        Fills width (((cellLines cell)[number]?).getD []) part

/-- The lines of a row, as many as its highest cell has. -/
structure IsBlockOf (widths : List Nat) (row : List String) (block : List (List Char)) :
    Prop where
  lines : ∀ (number : Nat) (line : List Char), block[number]? = some line →
    IsLineOf widths row number line
  all : ∀ cell ∈ row, (cellLines cell).length ≤ block.length
  needed : block.length = 0 ∨ ∃ cell ∈ row, (cellLines cell).length = block.length

/-- A column is not wider than one of its lines, or as narrow as a column can be. -/
def IsNeeded (table : List (List String)) (column width : Nat) : Prop :=
  width = 1 ∨ ∃ row ∈ table, ∃ cell line, row[column]? = some cell ∧ line ∈ cellLines cell ∧
    Text.width line = width

/-- A text that, read line by line, is a drawing of a header and rows. -/
def IsDrawingOf (header : List String) (rows : List (List String)) (text : String) : Prop :=
  ∃ (widths : List Nat) (head : List (List Char)) (blocks : List (List (List Char))),
    Text.splitAt '\n' text.toList =
        top.draw widths :: head ++ underHeader.draw widths ::
          List.intercalate [betweenRows.draw widths] blocks ++ [bottom.draw widths] ∧
      widths.length = header.length ∧
      (∀ (column width : Nat), widths[column]? = some width →
        IsNeeded (header :: rows) column width) ∧
      IsBlockOf widths header head ∧ List.Forall₂ (IsBlockOf widths) rows blocks

/-! ## Widths -/

theorem le_foldl_max {n : Nat} {ns : List Nat} (start : Nat) (inside : n ∈ ns ∨ n ≤ start) :
    n ≤ ns.foldl max start := by
  induction ns generalizing start with
  | nil => exact inside.resolve_left List.not_mem_nil
  | cons m rest ih =>
    refine ih (max start m) ?_
    rcases inside with inside | before
    · rcases List.mem_cons.mp inside with rfl | later
      · exact Or.inr (Nat.le_max_right _ _)
      · exact Or.inl later
    · exact Or.inr (before.trans (Nat.le_max_left _ _))

theorem foldl_max_mem (ns : List Nat) (start : Nat) :
    ns.foldl max start = start ∨ ns.foldl max start ∈ ns := by
  induction ns generalizing start with
  | nil => exact Or.inl rfl
  | cons m rest ih =>
    rw [List.foldl_cons]
    rcases ih (max start m) with same | inside
    · rw [same]
      rcases max_choice start m with first | second
      · exact Or.inl first
      · rw [second]
        exact Or.inr List.mem_cons_self
    · exact Or.inr (List.mem_cons_of_mem _ inside)

theorem width_le_cellWidth {cell : String} {line : List Char} (inside : line ∈ cellLines cell) :
    Text.width line ≤ cellWidth cell :=
  le_foldl_max 0 (Or.inl (List.mem_map_of_mem inside))

/-- A cell is as wide as one of its lines. -/
theorem exists_width_eq_cellWidth (cell : String) :
    ∃ line ∈ cellLines cell, Text.width line = cellWidth cell := by
  rcases foldl_max_mem ((cellLines cell).map Text.width) 0 with nothing | inside
  · obtain ⟨line, rest, lines⟩ := List.exists_cons_of_ne_nil (Text.splitAt_ne_nil '\n' cell.toList)
    have first : line ∈ cellLines cell := by
      rw [cellLines, lines]
      exact List.mem_cons_self
    have none : cellWidth cell = 0 := nothing
    exact ⟨line, first, Nat.le_antisymm (width_le_cellWidth first) (none ▸ Nat.zero_le _)⟩
  · obtain ⟨line, member, same⟩ := List.mem_map.mp inside
    exact ⟨line, member, same⟩

/-- The widths of columns with a row more. -/
def widen (widths : List Nat) (row : List String) : List Nat :=
  List.zipWith max widths (row.map cellWidth)

/-- A column of several rows is as wide as it was before them or as the widest of their cells. -/
theorem foldl_widen {rows : List (List String)} {widths : List Nat}
    (even : ∀ row ∈ rows, row.length = widths.length) :
    (rows.foldl widen widths).length = widths.length ∧
      ∀ (column width : Nat), (rows.foldl widen widths)[column]? = some width →
        (∀ row ∈ rows, ∀ cell : String, row[column]? = some cell → cellWidth cell ≤ width) ∧
          ∃ before, widths[column]? = some before ∧ before ≤ width ∧
            (width = before ∨
              ∃ row ∈ rows, ∃ cell, row[column]? = some cell ∧ cellWidth cell = width) := by
  induction rows generalizing widths with
  | nil => exact ⟨rfl, fun column width here => ⟨nofun, width, here, Nat.le_refl _, Or.inl rfl⟩⟩
  | cons row rest ih =>
    obtain ⟨first, others⟩ := List.forall_mem_cons.mp even
    have length : (widen widths row).length = widths.length := by
      rw [widen, List.length_zipWith, List.length_map, first, Nat.min_self]
    have still : ∀ row' ∈ rest, row'.length = (widen widths row).length := by rwa [length]
    obtain ⟨same, columns⟩ := ih still
    refine ⟨same.trans length, fun column width here => ?_⟩
    obtain ⟨below, widened, there, atMost, reached⟩ := columns column width here
    obtain ⟨before, cell, old, new, rfl⟩ : ∃ before cell, widths[column]? = some before ∧
        row[column]? = some cell ∧ max before (cellWidth cell) = widened := by
      rw [widen, List.getElem?_zipWith, List.getElem?_map] at there
      cases old : widths[column]? <;> cases new : row[column]? <;> simp_all
    refine ⟨?_, before, old, (Nat.le_max_left _ _).trans atMost, ?_⟩
    · intro other inside cell' found
      rcases List.mem_cons.mp inside with rfl | later
      · obtain rfl := Option.some.inj (new.symm.trans found)
        exact (Nat.le_max_right _ _).trans atMost
      · exact below other later cell' found
    · rcases reached with rfl | ⟨other, later, cell', found, wide⟩
      · rcases max_choice before (cellWidth cell) with left | right
        · exact Or.inl left
        · exact Or.inr ⟨row, List.mem_cons_self, cell, new, right.symm⟩
      · exact Or.inr ⟨other, List.mem_cons_of_mem _ later, cell', found, wide⟩

section
variable {g : Grid} (even : ∀ row ∈ g.rows, row.length = g.header.length)
include even

/-- There is a width for each column; every line of a cell in it fits, and it is needed. -/
theorem columnWidths_fit :
    g.columnWidths.length = g.header.length ∧
      ∀ (column width : Nat), g.columnWidths[column]? = some width →
        (∀ row ∈ g.header :: g.rows, ∀ cell : String, row[column]? = some cell →
            cellWidth cell ≤ width) ∧
          IsNeeded (g.header :: g.rows) column width := by
  have all : g.columnWidths = (g.rows.foldl widen (g.header.map cellWidth)).map (max 1) := rfl
  have columnwise : ∀ row ∈ g.rows, row.length = (g.header.map cellWidth).length := by
    simpa using even
  obtain ⟨length, columns⟩ := foldl_widen columnwise
  rw [all]
  refine ⟨by rw [List.length_map, length, List.length_map], fun column width here => ?_⟩
  rw [List.getElem?_map, Option.map_eq_some_iff] at here
  obtain ⟨widest, found, rfl⟩ := here
  obtain ⟨below, before, head, atMost, reached⟩ := columns column widest found
  rw [List.getElem?_map, Option.map_eq_some_iff] at head
  obtain ⟨title, first, rfl⟩ := head
  refine ⟨fun row inside cell there => ?_, ?_⟩
  · refine le_trans ?_ (Nat.le_max_right 1 widest)
    rcases List.mem_cons.mp inside with rfl | later
    · obtain rfl := Option.some.inj (first.symm.trans there)
      exact atMost
    · exact below row later cell there
  · rcases max_choice 1 widest with one | wide
    · exact Or.inl one
    · rw [wide]
      refine Or.inr ?_
      obtain ⟨row, inside, cell, there, same⟩ : ∃ row ∈ g.header :: g.rows, ∃ cell,
          row[column]? = some cell ∧ cellWidth cell = widest := by
        rcases reached with rfl | ⟨row, later, cell, there, same⟩
        · exact ⟨g.header, List.mem_cons_self, title, first, rfl⟩
        · exact ⟨row, List.mem_cons_of_mem _ later, cell, there, same⟩
      obtain ⟨line, member, full⟩ := exists_width_eq_cellWidth cell
      exact ⟨row, inside, cell, line, there, member, full.trans same⟩

end

/-! ## Rows -/

theorem fills_drawPart {width : Nat} {line : List Char} (fits : Text.width line ≤ width) :
    Fills width line (drawPart width line) :=
  ⟨width - Text.width line, rfl, Nat.add_sub_of_le fits⟩

/-- A row is drawn with every line of its cells. -/
theorem isBlockOf_drawRow {widths : List Nat} {row : List String}
    (length : widths.length = row.length)
    (fit : ∀ (column width : Nat) (cell : String), widths[column]? = some width →
      row[column]? = some cell → cellWidth cell ≤ width) :
    IsBlockOf widths row (drawRow widths row) := by
  let heights := (row.map cellLines).map List.length
  have height : (drawRow widths row).length = heights.foldl max 0 := by
    rw [drawRow, List.length_map, List.length_range]
  refine ⟨fun number line here => ?_, fun cell inside => ?_, ?_⟩
  · have below : number < heights.foldl max 0 := height ▸ (List.getElem?_eq_some_iff.mp here).1
    rw [drawRow, List.getElem?_map, List.getElem?_range below] at here
    obtain rfl := Option.some.inj here
    refine ⟨_, rfl, by simp [length], fun column cell found => ?_⟩
    have inside : column < widths.length := length ▸ (List.getElem?_eq_some_iff.mp found).1
    have width := List.getElem?_eq_getElem inside
    refine ⟨widths[column], _, width, ?_, fills_drawPart ?_⟩
    · rw [List.getElem?_zipWith, width, List.getElem?_map, found]
      rfl
    · refine le_trans ?_ (fit column _ cell width found)
      cases there : (cellLines cell)[number]? with
      | none => exact Nat.zero_le _
      | some line => exact width_le_cellWidth (List.mem_of_getElem? there)
  · rw [height]
    exact le_foldl_max 0 (Or.inl (List.mem_map_of_mem (List.mem_map_of_mem inside)))
  · rw [height]
    refine (foldl_max_mem heights 0).imp_right fun inside => ?_
    obtain ⟨lines, member, same⟩ := List.mem_map.mp inside
    obtain ⟨cell, there, rfl⟩ := List.mem_map.mp member
    exact ⟨cell, there, same⟩

/-! ## Lines -/

theorem mem_of_mem_intercalate {α : Type} {c : α} {between : List α} {parts : List (List α)}
    (inside : c ∈ List.intercalate between parts) : c ∈ between ∨ ∃ part ∈ parts, c ∈ part := by
  induction parts with
  | nil => cases inside
  | cons part rest ih =>
    cases rest with
    | nil => exact Or.inr ⟨part, List.mem_cons_self, by simpa [List.intercalate] using inside⟩
    | cons next others =>
      rw [List.intercalate_cons_cons, List.mem_append, List.mem_append] at inside
      rcases inside with (here | here) | later
      · exact Or.inr ⟨part, List.mem_cons_self, here⟩
      · exact Or.inl here
      · exact (ih later).imp_right fun ⟨other, member, found⟩ =>
          ⟨other, List.mem_cons_of_mem _ member, found⟩

/-- A rule is one line. -/
theorem newline_not_mem_rule {r : Rule} (plain : '\n' ∉ [r.left, r.fill, r.cross, r.right])
    (widths : List Nat) : '\n' ∉ r.draw widths := by
  simp only [List.mem_cons, List.not_mem_nil, or_false, not_or] at plain
  obtain ⟨left, fill, cross, right⟩ := plain
  intro inside
  rw [Rule.draw, List.cons_append, List.mem_cons, List.mem_append] at inside
  rcases inside with here | between | last
  · exact left here
  · rcases mem_of_mem_intercalate between with crossing | ⟨part, member, filled⟩
    · exact cross (List.mem_singleton.mp crossing)
    · obtain ⟨width, -, rfl⟩ := List.mem_map.mp member
      exact fill (List.mem_replicate.mp filled).2
  · exact right (List.mem_singleton.mp last)

theorem newline_not_mem_drawPart {width : Nat} {line : List Char} (single : '\n' ∉ line) :
    '\n' ∉ drawPart width line := by
  simp only [drawPart, List.cons_append, List.mem_cons, List.mem_append, List.mem_replicate,
    List.not_mem_nil, or_false, not_or]
  refine ⟨by decide, ⟨single, ?_⟩, by decide⟩
  rintro ⟨-, same⟩
  exact absurd same (by decide)

/-- A line of a row is one line, whatever its cells hold. -/
theorem newline_not_mem_drawRow (widths : List Nat) (row : List String) :
    ∀ line ∈ drawRow widths row, '\n' ∉ line := by
  intro line drawn
  obtain ⟨number, -, rfl⟩ := List.mem_map.mp drawn
  intro inside
  rw [List.cons_append, List.mem_cons, List.mem_append] at inside
  rcases inside with here | between | last
  · exact absurd here (by decide)
  · rcases mem_of_mem_intercalate between with crossing | ⟨part, member, found⟩
    · exact absurd (List.mem_singleton.mp crossing) (by decide)
    · obtain ⟨column, there⟩ := List.mem_iff_getElem?.mp member
      rw [List.getElem?_zipWith, List.getElem?_map] at there
      obtain ⟨width, -, cell, -, rfl⟩ : ∃ width, widths[column]? = some width ∧
          ∃ cell, row[column]? = some cell ∧
            drawPart width (((cellLines cell)[number]?).getD []) = part := by
        cases width : widths[column]? <;> cases cell : row[column]? <;> simp_all
      refine newline_not_mem_drawPart ?_ found
      cases line : (cellLines cell)[number]? with
      | none => exact List.not_mem_nil
      | some line => exact Text.not_mem_of_mem_splitAt (List.mem_of_getElem? line)
  · exact absurd (List.mem_singleton.mp last) (by decide)

theorem newline_not_mem_lines (g : Grid) : ∀ line ∈ g.lines, '\n' ∉ line := by
  have rule {r : Rule} (plain : '\n' ∉ [r.left, r.fill, r.cross, r.right]) :=
    newline_not_mem_rule plain g.columnWidths
  have row := newline_not_mem_drawRow g.columnWidths
  have body : ∀ line ∈ List.intercalate [betweenRows.draw g.columnWidths]
      (g.rows.map (drawRow g.columnWidths)), '\n' ∉ line := by
    intro line inside
    rcases mem_of_mem_intercalate inside with between | ⟨block, member, found⟩
    · rw [List.mem_singleton.mp between]
      exact rule (by decide)
    · obtain ⟨cells, -, rfl⟩ := List.mem_map.mp member
      exact row cells line found
  intro line inside
  simp only [lines, List.cons_append, List.mem_cons, List.mem_append, List.not_mem_nil,
    or_false] at inside
  rcases inside with rfl | (header | rfl | rows) | rfl
  · exact rule (by decide)
  · exact row g.header line header
  · exact rule (by decide)
  · exact body line rows
  · exact rule (by decide)

/-- A drawn table is a drawing of its header and its rows, if these have as many cells. -/
theorem isDrawingOf_draw {g : Grid} (even : ∀ row ∈ g.rows, row.length = g.header.length) :
    IsDrawingOf g.header g.rows g.draw := by
  obtain ⟨length, columns⟩ := columnWidths_fit even
  refine ⟨g.columnWidths, drawRow g.columnWidths g.header, g.rows.map (drawRow g.columnWidths),
    ?_, length, fun column width here => (columns column width here).2, ?_, ?_⟩
  · rw [draw, String.toList_ofList]
    exact Text.splitAt_intercalate (List.cons_ne_nil _ _) (newline_not_mem_lines g)
  · exact isBlockOf_drawRow length fun column width cell here found =>
      (columns column width here).1 _ List.mem_cons_self cell found
  · rw [List.forall₂_map_right_iff]
    refine List.forall₂_same.mpr fun row inside => ?_
    have cells : g.columnWidths.length = row.length := length.trans (even row inside).symm
    exact isBlockOf_drawRow cells fun column width cell here found =>
      (columns column width here).1 row (List.mem_cons_of_mem _ inside) cell found

end IngestWatch.Grid
