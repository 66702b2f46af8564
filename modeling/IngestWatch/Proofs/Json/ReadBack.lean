import IngestWatch.Proofs.Json.Ordered

/-!
What is written is read back. Both written forms of a value stand for it in the sense of the
reader, so a reader that may go as deep as the value gives the value again; and the compact form
has no control character in it, whatever the strings of the value hold.
-/

namespace IngestWatch.Json

open Decimal (Binary64)

/-! ## How deep a value is -/

mutual

/-- How many containers lie in each other at most. -/
def nesting : Json → Nat
  | .arr items => nestingItems items + 1
  | .obj members => nestingMembers members + 1
  | _ => 0

def nestingItems : List Json → Nat
  | [] => 0
  | v :: rest => max (nesting v) (nestingItems rest)

def nestingMembers : List (String × Json) → Nat
  | [] => 0
  | (_, v) :: rest => max (nesting v) (nestingMembers rest)

end

theorem nesting_le_items {items : List Json} {v : Json} (inside : v ∈ items) :
    v.nesting ≤ nestingItems items := by
  induction items with
  | nil => cases inside
  | cons w rest ih =>
    rw [nestingItems]
    rcases List.mem_cons.mp inside with rfl | later
    · exact Nat.le_max_left _ _
    · exact (ih later).trans (Nat.le_max_right _ _)

theorem nesting_le_members {members : List (String × Json)} {m : String × Json}
    (inside : m ∈ members) : m.2.nesting ≤ nestingMembers members := by
  induction members with
  | nil => cases inside
  | cons w rest ih =>
    obtain ⟨k, v⟩ := w
    rw [nestingMembers]
    rcases List.mem_cons.mp inside with rfl | later
    · exact Nat.le_max_left _ _
    · exact (ih later).trans (Nat.le_max_right _ _)

/-! ## What stands for a value means it -/

/-- A text that names a key spells it. -/
theorem spelled_of_key? {body : List Char} {s : String} (quoted : Quoted body)
    (named : key? body = some s) : Spelled s.toList body := by
  have read := toOption_scanString quoted []
  rw [named, Option.map_some, toOption_eq_some_iff] at read
  obtain ⟨spelling, same, spelled⟩ := scanString_eq_ok_iff.mp read
  obtain rfl := List.append_cancel_right same
  exact spelled

/-- The keys of an object may be read one by one. -/
theorem spelled_of_named? {raw : List (List Char × List Char)}
    {named : List (String × List Char)} (quoted : ∀ r ∈ raw, Quoted r.1)
    (keys : named? raw = some named) :
    List.Forall₂ (fun n r => Spelled n.1.toList r.1 ∧ n.2 = r.2) named raw := by
  induction raw generalizing named with
  | nil =>
    obtain rfl := Option.some.inj keys
    exact .nil
  | cons r raw ih =>
    obtain ⟨first, others⟩ := List.forall_mem_cons.mp quoted
    obtain ⟨key, rest, own, behind, rfl⟩ := named?_cons keys
    exact .cons ⟨spelled_of_key? first own, rfl⟩ (ih others behind)

theorem Members.quoted {raw : List (List Char × List Char)} {inner : List Char}
    (object : Members raw inner) : ∀ r ∈ raw, Quoted r.1 := by
  induction raw generalizing inner with
  | nil => exact List.forall_mem_nil _
  | cons r raw ih =>
    cases object with
    | last _ quoted _ _ _ _ => exact List.forall_mem_singleton.mpr quoted
    | more _ quoted _ _ _ _ others => exact List.forall_mem_cons.mpr ⟨quoted, ih others⟩

theorem Body.quoted {raw : List (List Char × List Char)} {inner : List Char}
    (body : Body raw inner) : ∀ r ∈ raw, Quoted r.1 := by
  cases body with
  | empty _ => exact List.forall_mem_nil _
  | members object => exact object.quoted

/-- Members and what spells them, put together. -/
theorem entries_of_spelled {Inside : Json → List Char → Prop} {written : List (String × Json)}
    {named : List (String × List Char)} {raw : List (List Char × List Char)}
    (spelled : List.Forall₂ (fun n r => Spelled n.1.toList r.1 ∧ n.2 = r.2) named raw)
    (keys : written.map Prod.fst = named.map Prod.fst)
    (each : List.Forall₂ Inside (written.map Prod.snd) (named.map Prod.snd)) :
    List.Forall₂ (Entry Inside) written raw := by
  induction spelled generalizing written with
  | nil =>
    obtain rfl := List.map_eq_nil_iff.mp keys
    exact .nil
  | cons own _ ih =>
    cases written with
    | nil => cases keys
    | cons m written =>
      obtain ⟨key, others⟩ := List.cons.inj keys
      obtain ⟨first, rest⟩ := List.forall₂_cons.mp each
      exact .cons ⟨key ▸ own.1, own.2 ▸ first⟩ (ih others rest)

theorem Denotes.scalar {v : Json} {text : List Char} (denotes : Denotes v text)
    (flat : v.nesting = 0) : Scalar v text := by
  cases denotes with
  | null => exact .null
  | yes => exact .yes
  | no => exact .no
  | int numeral | real numeral => exact .number numeral
  | quoted quoted spelled => exact .quoted (spelled_of_key? quoted spelled)
  | emptyList _ | list _ _ | object _ _ _ _ _ => exact absurd flat (Nat.succ_ne_zero _)

/-- A text that stands for a value in order means it, to a reader that may go as deep. -/
theorem Denotes.means {depth : Nat} {v : Json} {text : List Char} (denotes : Denotes v text)
    (ordered : v.Ordered) (deep : v.nesting ≤ depth) : Means depth v text := by
  induction depth generalizing v text with
  | zero => exact denotes.scalar (Nat.le_zero.mp deep)
  | succ depth ih =>
    by_cases flat : v.nesting = 0
    · exact .inl (denotes.scalar flat)
    cases denotes with
    | emptyList blank => exact .inr (.emptyList blank)
    | @list values texts inner items each =>
      have shallow : nestingItems values ≤ depth := Nat.le_of_succ_le_succ deep
      have inside : ∀ v ∈ values, v.Ordered ∧ v.nesting ≤ depth := fun v member =>
        ⟨ordered.items v member, (nesting_le_items member).trans shallow⟩
      have both := (List.forall₂_and_left _ _).mpr ⟨inside, each⟩
      exact .inr (.list items (both.imp fun v text known => ih known.2 known.1.1 known.1.2))
    | @object members written named raw inner body spelled keys each order =>
      obtain ⟨ascending, orderly⟩ := ordered.members
      have shallow : nestingMembers members ≤ depth := Nat.le_of_succ_le_succ deep
      have inside : ∀ v ∈ written.map Prod.snd, v.Ordered ∧ v.nesting ≤ depth := by
        intro v member
        obtain ⟨m, known, rfl⟩ := List.mem_map.mp member
        have there := order.mem_iff.mp known
        exact ⟨orderly m there, (nesting_le_members there).trans shallow⟩
      have both := (List.forall₂_and_left _ _).mpr ⟨inside, each⟩
      have means := both.imp fun v text known => ih known.2 known.1.1 known.1.2
      have entries := entries_of_spelled (spelled_of_named? body.quoted spelled) keys means
      rw [← Keyed.ofList_of_perm ascending order]
      exact .inr (.object body entries)
    | _ => exact absurd rfl flat

/-- A text that stands for a value in order is read as it. -/
theorem Denotes.read {v : Json} {text : String} (denotes : Denotes v text.toList)
    (ordered : v.Ordered) {depth : Nat} (deep : v.nesting ≤ depth) :
    parse depth text = .ok v := by
  refine parse_eq_ok_iff.mpr ⟨[], text.toList, [], ?_, blank_nil, blank_nil,
    denotes.means ordered deep⟩
  rw [List.nil_append, List.append_nil]

/-! ## Both written forms are read back -/

section
variable {v : Json} (exact : Exact v) (ordered : v.Ordered) {depth : Nat}
  (deep : v.nesting ≤ depth)
include exact ordered deep

theorem parse_compact : parse depth v.compact = .ok v := by
  refine Denotes.read ?_ ordered deep
  rw [compact, String.toList_ofList]
  exact exact.denotes_compact

theorem parse_pretty : parse depth v.pretty = .ok v := by
  refine Denotes.read ?_ ordered deep
  rw [pretty, String.toList_ofList]
  exact exact.denotes_pretty 0

end

/-! ## The characters of the compact form -/

/-- No control character below U+0020, so no line break either. -/
def Printable (cs : List Char) : Prop :=
  ∀ c ∈ cs, ¬ c.toNat < 0x20

instance (cs : List Char) : Decidable (Printable cs) :=
  List.decidableBAll _ cs

theorem printable_append {first second : List Char} (before : Printable first)
    (after : Printable second) : Printable (first ++ second) :=
  List.forall_mem_append.mpr ⟨before, after⟩

theorem printable_cons {c : Char} {cs : List Char} (solid : ¬ c.toNat < 0x20)
    (after : Printable cs) : Printable (c :: cs) :=
  List.forall_mem_cons.mpr ⟨solid, after⟩

/-- Digits, points, signs and marks of exponents, as in the text of a number. -/
def Figures (cs : List Char) : Prop :=
  ∀ c ∈ cs, isDigit c = true ∨ c ∈ ['.', '-', '+', 'e']

theorem figures_append {first second : List Char} (before : Figures first)
    (after : Figures second) : Figures (first ++ second) :=
  List.forall_mem_append.mpr ⟨before, after⟩

theorem figures_mark {c : Char} {cs : List Char} (mark : c ∈ ['.', '-', '+', 'e'])
    (after : Figures cs) : Figures (c :: cs) :=
  List.forall_mem_cons.mpr ⟨.inr mark, after⟩

theorem figures_nought {cs : List Char} (after : Figures cs) : Figures ('0' :: cs) :=
  List.forall_mem_cons.mpr ⟨.inl rfl, after⟩

theorem figures_noughts (n : Nat) : Figures (List.replicate n '0') := by
  intro c inside
  obtain rfl := List.eq_of_mem_replicate inside
  exact .inl rfl

theorem figures_natChars (n : Nat) : Figures (natChars n) :=
  fun c inside => .inl (isDigit_natChars n c inside)

theorem figures_intChars (k : Int) : Figures (intChars k) := by
  rw [intChars]
  split
  · exact figures_mark (by decide) (figures_natChars _)
  · exact figures_natChars _

theorem figures_scientificChars (s : Decimal.Scientific) : Figures (scientificChars s) := by
  have digits := figures_natChars s.digits
  have exponent (point : Int) :
      Figures ('e' :: (if point ≤ 0 then '-' else '+') :: natChars (point - 1).natAbs) := by
    refine figures_mark (by decide) (figures_mark ?_ (figures_natChars _))
    split <;> decide
  rw [scientificChars]
  generalize natChars s.digits = ds at digits
  dsimp only
  split
  · refine figures_append (figures_append digits (figures_noughts _)) ?_
    exact figures_mark (by decide) (figures_nought (List.forall_mem_nil _))
  split
  · have front (n : Nat) : Figures (ds.take n) :=
      fun c inside => digits c (List.mem_of_mem_take inside)
    have back (n : Nat) : Figures (ds.drop n) :=
      fun c inside => digits c (List.mem_of_mem_drop inside)
    exact figures_append (front _) (figures_mark (by decide) (back _))
  split
  · refine figures_append ?_ digits
    exact figures_nought (figures_mark (by decide) (figures_noughts _))
  split
  · exact figures_append digits (exponent _)
  · obtain ⟨first, others⟩ := List.forall_mem_cons.mp digits
    refine figures_append (List.forall_mem_cons.mpr ⟨first, ?_⟩) (exponent _)
    exact figures_mark (by decide) others
  · exact exponent _

theorem figures_realChars (x : Binary64) : Figures (realChars x) := by
  have body : Figures (if x.mantissa = 0 then ['0', '.', '0'] else scientificChars x.shortest) := by
    split
    · exact figures_nought (figures_mark (by decide) (figures_nought (List.forall_mem_nil _)))
    · exact figures_scientificChars _
  rw [realChars]
  split
  · exact figures_mark (by decide) body
  · exact body

theorem Figures.solid {cs : List Char} (figures : Figures cs) : ∀ c ∈ cs, isBlank c = false := by
  intro c inside
  rcases figures c inside with digit | mark
  · exact isBlank_of_digit digit
  · simp only [List.mem_cons, List.not_mem_nil, or_false] at mark
    rcases mark with rfl | rfl | rfl | rfl <;> rfl

theorem Figures.eq_nil_of_blank {cs : List Char} (figures : Figures cs) (blank : Blank cs) :
    cs = [] := by
  refine List.eq_nil_iff_forall_not_mem.mpr fun c inside => ?_
  exact absurd (blank c inside) (by simp [figures.solid c inside])

theorem Figures.printable {cs : List Char} (figures : Figures cs) : Printable cs := by
  intro c inside
  rcases figures c inside with digit | mark
  · simp only [isDigit, Bool.and_eq_true, decide_eq_true_eq] at digit
    have low : 48 ≤ c.toNat := digit.1
    omega
  · have each : Printable ['.', '-', '+', 'e'] := by decide
    exact each c mark

theorem Means.numeral_of_real {depth : Nat} {x : Binary64} {text : List Char}
    (means : Means depth (.real x) text) : Numeral (.real x) text := by
  have scalar : Scalar (.real x) text := by
    cases depth with
    | zero => exact means
    | succ depth =>
      rcases means with scalar | container
      · exact scalar
      · generalize same : Json.real x = v at container
        cases container <;> cases same
  cases scalar with
  | number numeral => exact numeral

/-- There are no blanks in the text of a number, so it is exact once its text is read as it. -/
theorem exact_real_iff {x : Binary64} (depth : Nat) :
    Exact (.real x) ↔ parse depth (compact (.real x)) = .ok (.real x) := by
  constructor
  case mp => exact fun exact => parse_compact exact (.real x) (Nat.zero_le depth)
  case mpr =>
    intro read
    obtain ⟨before, text, after, whole, front, back, means⟩ := parse_eq_ok_iff.mp read
    rw [compact, String.toList_ofList, compactChars] at whole
    have figures := figures_realChars x
    rw [whole] at figures
    obtain ⟨lead, trail⟩ := List.forall_mem_append.mp figures
    obtain rfl := Figures.eq_nil_of_blank lead front
    obtain rfl := Figures.eq_nil_of_blank (List.forall_mem_append.mp trail).2 back
    rw [List.nil_append, List.append_nil] at whole
    exact .real (whole ▸ means.numeral_of_real)

theorem printable_escapeChar (c : Char) : Printable (escapeChar c) := by
  rcases escapeChar_cases c with ⟨e, known, written, -⟩ | ⟨control, written⟩ |
    ⟨-, -, noControl, written⟩
  · rw [written]
    refine printable_cons (by decide) ?_
    have each : Printable ['"', '\\', '/', 'b', 'f', 'n', 'r', 't'] := by decide
    exact List.forall_mem_singleton.mpr (each e known)
  · rw [written]
    have code : Printable ['\\', 'u', '0', '0'] := by decide
    have each : ∀ n < 16, ¬ (hexDigit n).toNat < 0x20 := by decide
    exact printable_append code (printable_cons (each _ (by omega))
      (List.forall_mem_singleton.mpr (each _ (by omega))))
  · rw [written]
    exact List.forall_mem_singleton.mpr noControl

theorem printable_quoteChars (s : List Char) : Printable (quoteChars s) := by
  refine printable_append (printable_cons (by decide) fun c inside => ?_)
    (List.forall_mem_singleton.mpr (by decide))
  obtain ⟨d, -, there⟩ := List.mem_flatMap.mp inside
  exact printable_escapeChar d c there

mutual

/-- Whatever a value holds, its compact form is one line. -/
theorem printable_compactChars : ∀ v : Json, Printable (compactChars v)
  | .null => by decide
  | .bool true => by decide
  | .bool false => by decide
  | .int k => (figures_intChars k).printable
  | .real x => (figures_realChars x).printable
  | .str s => printable_quoteChars s.toList
  | .arr items =>
    printable_append (printable_cons (by decide) (printable_compactItems items))
      (List.forall_mem_singleton.mpr (by decide))
  | .obj members =>
    printable_append (printable_cons (by decide) (printable_compactMembers members))
      (List.forall_mem_singleton.mpr (by decide))

theorem printable_compactItems : ∀ items : List Json, Printable (compactItems items)
  | [] => List.forall_mem_nil _
  | [v] => printable_compactChars v
  | v :: w :: rest =>
    printable_append (printable_compactChars v)
      (printable_cons (by decide) (printable_compactItems (w :: rest)))

theorem printable_compactMembers :
    ∀ members : List (String × Json), Printable (compactMembers members)
  | [] => List.forall_mem_nil _
  | [(k, v)] =>
    printable_append (printable_quoteChars k.toList)
      (printable_cons (by decide) (printable_compactChars v))
  | (k, v) :: m :: rest =>
    printable_append
      (printable_append (printable_quoteChars k.toList)
        (printable_cons (by decide) (printable_compactChars v)))
      (printable_cons (by decide) (printable_compactMembers (m :: rest)))

end

end IngestWatch.Json
