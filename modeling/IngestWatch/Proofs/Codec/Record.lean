import IngestWatch.Proofs.Codec.Values

/-!
Records read from a JSON text. What a record makes of an object is what it makes of the members
one after the other: a field that is known takes its value, a field that nobody knows is passed
over. A record is read value by value as well, whether it is written as an object or as a list.
-/

namespace IngestWatch

open Json

/-- What a field makes of its value, as a form of its own. -/
def Field.codec {ρ : Type} (f : Field ρ) : Codec (ρ → ρ) where
  encode _ := .null
  read := f.read
  ofToml := f.ofToml

namespace Record

variable {ρ V : Type} (r : Record ρ)

/-- A draft with one more member, if the value under a known key can be decoded. -/
def takeField (decode : Field ρ → V → Option (ρ → ρ)) (d : Draft ρ) (key : String) (v : V) :
    Option (Draft ρ) :=
  match Field.find? key r.fields with
  | some f => if d.seen.contains key then none else (decode f v).map (d.put key ·)
  | none => some d

/-- What a field makes of the text of a value. -/
def change? (depth : Nat) (f : Field ρ) (v : List Char) : Option (ρ → ρ) :=
  whole? (f.read depth) v

/-! ## Objects -/

/-- The record at the closing brace. -/
def closeObject (d : Draft ρ) (rest : List Char) : Reading (ρ × List Char) := do
  pure (← (r.finish d).mapError (Mismatch.before · rest), rest)

theorem toOption_closeObject (d : Draft ρ) (rest : List Char) :
    (r.closeObject d rest).toOption = (r.finish d).toOption.map (·, rest) := by
  rw [closeObject, toOption_bind, toOption_mapError]
  cases (r.finish d).toOption <;> rfl

theorem readMembers_eq (depth fuel : Nat) (first : Bool) (d : Draft ρ) (cs : List Char) :
    r.readMembers depth fuel first d cs =
      readObject (r.readMember depth) r.closeObject fuel first d cs := by
  induction fuel generalizing first d cs with
  | zero => rfl
  | succ fuel ih =>
    unfold readMembers readObject
    simp only [ih]
    rfl

section
variable {r} {depth : Nat} (reads : ∀ f ∈ r.fields, ReadsValues (f.read depth))
include reads

theorem updates_readMember : Updates (r.readMember depth) (r.takeField (change? depth)) := by
  intro d key between padding v rest middle space value delimited
  rw [readMember, takeField]
  cases found : Field.find? key r.fields with
  | none =>
    simp only [Codec.readColon_append middle, ok_bind, skipValue_stepsFor space value delimited]
    rfl
  | some f =>
    have own := reads f (List.mem_of_find?_eq_some found)
    simp only
    split
    · rfl
    · have taken := own.takes_whole value rest delimited
      rw [Codec.readColon_append middle, ok_bind, own.blanks space, toOption_bind, taken, change?]
      cases whole? (f.read depth) v <;> rfl

/-- An object is read as its members are taken one after the other. -/
theorem toOption_readMembers {members : List (List Char × List Char)} {inner : List Char}
    (body : Body members inner) (rest : List Char) :
    (r.readMembers depth (stepsFor (inner ++ '\x7d' :: rest)) true ⟨r.start, []⟩
        (inner ++ '\x7d' :: rest)).toOption =
      ((members.foldlM (takeMember (r.takeField (change? depth))) ⟨r.start, []⟩).bind fun d =>
        (r.finish d).toOption).map (·, rest) := by
  rw [readMembers_eq]
  exact toOption_readObject_body (updates_readMember reads) r.toOption_closeObject body _ rest

end

/-! ## Lists -/

/-- At the bracket the list ends, whatever follows. -/
theorem readListEnd_bracket (count : Nat) (d : Draft ρ) {after : List Char} (back : Blank after)
    (rest : List Char) :
    (r.readListEnd count d (after ++ ']' :: rest)).toOption =
      (r.finishList count d).toOption.map (·, rest) := by
  have closed : readBracket (after ++ ']' :: rest) = .ok rest := by
    rw [readBracket, skipBlanks_mark back rfl]
    rfl
  rw [readListEnd]
  cases r.finishList count d with
  | error mismatch => rfl
  | ok x =>
    simp only [closed]
    rfl

/-- Anywhere else it does not. -/
theorem readListEnd_other (count : Nat) (d : Draft ρ) {after : List Char} (back : Blank after)
    {c : Char} (solid : isBlank c = false) (noEnd : c ≠ ']') (cs : List Char) :
    (r.readListEnd count d (after ++ c :: cs)).toOption = none := by
  have refused : (readBracket (after ++ c :: cs)).toOption = none := by
    rw [readBracket, skipBlanks_mark back solid]
    split
    · rfl
    · exact absurd (List.cons.inj ‹_›).1 noEnd
    · split <;> rfl
    · rfl
  rw [readListEnd]
  cases r.finishList count d with
  | error mismatch => rfl
  | ok x =>
    simp only [toOption_map, refused]
    rfl

theorem readItems_end (depth : Nat) (fields : List (Field ρ)) (count : Nat) (d : Draft ρ)
    {after : List Char} (back : Blank after) (rest : List Char) :
    (r.readItems depth fields count d (after ++ ']' :: rest)).toOption =
      (r.finishList count d).toOption.map (·, rest) := by
  cases fields with
  | nil => exact r.readListEnd_bracket count d back rest
  | cons f fields =>
    rw [readItems, skipBlanks_mark back rfl]
    exact r.readListEnd_bracket count d blank_nil rest

/-- The value of a field and what comes behind it. -/
def readItem (depth : Nat) (f : Field ρ) (fields : List (Field ρ)) (count : Nat) (d : Draft ρ)
    (cs : List Char) : Reading (ρ × List Char) := do
  let (change, rest) ← f.read depth cs
  r.readItems depth fields (count + 1) (d.put f.name change) rest

theorem readItems_first (depth : Nat) (f : Field ρ) (fields : List (Field ρ)) (d : Draft ρ)
    {before v : List Char} (front : Blank before) (value : Value v) (rest : List Char) :
    r.readItems depth (f :: fields) 0 d (before ++ (v ++ rest)) =
      r.readItem depth f fields 0 d (v ++ rest) := by
  obtain ⟨c, more, rfl, solid, -, bracket, -⟩ := value.begins
  rw [readItems, List.cons_append, skipBlanks_mark front solid]
  split
  · cases ‹c :: _ = []›
  · exact absurd (List.cons.inj ‹_›).1 bracket
  · next same =>
    obtain ⟨rfl, rfl⟩ := List.cons.inj same
    rfl

theorem readItems_comma (depth : Nat) (f : Field ρ) (fields : List (Field ρ)) {count : Nat}
    (later : count ≠ 0) (d : Draft ρ) {after : List Char} (back : Blank after) (cs : List Char) :
    r.readItems depth (f :: fields) count d (after ++ ',' :: cs) =
      match skipBlanks cs with
      | [] => .error (Cause.endInValue.within [])
      | ']' :: rest => .error (Cause.trailingComma.within (']' :: rest))
      | rest => r.readItem depth f fields count d rest := by
  rw [readItems, skipBlanks_mark back rfl]
  simp only [later, if_false]
  rfl

theorem readItems_next (depth : Nat) (f : Field ρ) (fields : List (Field ρ)) {count : Nat}
    (later : count ≠ 0) (d : Draft ρ) {after before v : List Char} (back : Blank after)
    (front : Blank before) (value : Value v) (rest : List Char) :
    r.readItems depth (f :: fields) count d (after ++ ',' :: (before ++ (v ++ rest))) =
      r.readItem depth f fields count d (v ++ rest) := by
  rw [r.readItems_comma depth f fields later d back, skipBlanks_value front value]
  obtain ⟨c, more, rfl, -, -, bracket, -⟩ := value.begins
  split
  · cases ‹c :: _ = []›
  · exact absurd (List.cons.inj ‹_›).1 bracket
  · rfl

section
variable {r} {depth : Nat}

/-- What is read of a list does not depend on what follows the list. -/
def Closed (scan : List Char → Reading (ρ × List Char)) (text : List Char) : Prop :=
  ∃ x, ∀ rest, (scan (text ++ ']' :: rest)).toOption = Option.map (·, rest) x

theorem closed_readItem {f : Field ρ} (reads : ReadsValues (f.read depth))
    {fields : List (Field ρ)} {count : Nat} {v text : List Char} (value : Value v)
    (delimited : ∀ rest, Delimited (text ++ ']' :: rest))
    (onwards : ∀ d, Closed (r.readItems depth fields (count + 1) d) text) (d : Draft ρ) :
    Closed (r.readItem depth f fields count d) (v ++ text) := by
  cases taken : whole? (f.read depth) v with
  | none =>
    refine ⟨none, fun rest => ?_⟩
    rw [readItem, toOption_bind, List.append_assoc,
      reads.takes_whole value _ (delimited rest), taken]
    rfl
  | some change =>
    obtain ⟨x, behind⟩ := onwards (d.put f.name change)
    refine ⟨x, fun rest => ?_⟩
    rw [readItem, toOption_bind, List.append_assoc,
      reads.takes_whole value _ (delimited rest), taken]
    exact behind rest

/-- The first item of a list, and what a field makes of it and of the items behind it. -/
theorem closed_head {items : List (List Char)} {inner : List Char} :
    Items items inner → ∀ {fields : List (Field ρ)}, (∀ f ∈ fields, ReadsValues (f.read depth)) →
      ∃ before v text, inner = before ++ (v ++ text) ∧ Blank before ∧ Value v ∧
        ∀ f : Field ρ, ReadsValues (f.read depth) → ∀ count d,
          Closed (r.readItem depth f fields count d) (v ++ text)
  | .last lead value back, fields, _ => by
    refine ⟨_, _, _, rfl, lead, value, fun f own count d => ?_⟩
    exact closed_readItem own value
      (fun rest => delimited_append back (delimited_mark (by decide) rest))
      (fun d => ⟨_, r.readItems_end depth fields (count + 1) d back⟩) d
  | @Items.more _ _ after inner _ lead value back others, fields, reads => by
    refine ⟨_, _, _, rfl, lead, value, fun f own count d => ?_⟩
    have onwards (d : Draft ρ) :
        Closed (r.readItems depth fields (count + 1) d) (after ++ ',' :: inner) := by
      cases fields with
      | nil =>
        refine ⟨none, fun rest => ?_⟩
        rw [List.append_assoc]
        exact r.readListEnd_other _ d back rfl (by decide) (inner ++ ']' :: rest)
      | cons g fields =>
        obtain ⟨before, w, text, rfl, front, next, step⟩ :=
          closed_head others fun f member => reads f (.tail _ member)
        obtain ⟨x, read⟩ := step g (reads g List.mem_cons_self) (count + 1) d
        refine ⟨x, fun rest => ?_⟩
        rw [← read rest]
        simp only [List.append_assoc, List.cons_append]
        rw [r.readItems_next depth g fields count.succ_ne_zero d back front next]
    refine closed_readItem own value (fun rest => ?_) onwards d
    rw [List.append_assoc]
    exact delimited_append back (delimited_mark (by decide) (inner ++ ']' :: rest))

theorem closed_readItems {items : List (List Char)} {inner : List Char}
    (list : Items items inner) {fields : List (Field ρ)}
    (reads : ∀ f ∈ fields, ReadsValues (f.read depth)) (d : Draft ρ) :
    Closed (r.readItems depth fields 0 d) inner := by
  cases fields with
  | nil =>
    obtain ⟨before, c, more, rfl, front, solid, bracket⟩ := list.begins
    refine ⟨none, fun rest => ?_⟩
    rw [List.append_assoc]
    exact r.readListEnd_other 0 d front solid bracket (more ++ ']' :: rest)
  | cons f fields =>
    obtain ⟨before, v, text, rfl, front, value, step⟩ :=
      closed_head (r := r) list fun f member => reads f (.tail _ member)
    obtain ⟨x, read⟩ := step f (reads f List.mem_cons_self) 0 d
    refine ⟨x, fun rest => ?_⟩
    rw [← read rest]
    simp only [List.append_assoc]
    rw [r.readItems_first depth f fields d front value]

end

/-! ## The whole record -/

/-- Where nothing may nest, no record is read. -/
theorem read_zero (cs : List Char) : (r.read 0 cs).toOption = none := by
  unfold read
  split
  · rfl
  · split
    · rfl
    · split <;> rfl

theorem read_brace (depth : Nat) (cs : List Char) :
    r.read (depth + 1) ('\x7b' :: cs) =
      r.readMembers depth (stepsFor cs) true ⟨r.start, []⟩ cs := rfl

theorem read_bracket (depth : Nat) (cs : List Char) :
    r.read (depth + 1) ('[' :: cs) = r.readItems depth r.fields 0 ⟨r.start, []⟩ cs := rfl

section
variable {r}

/-- What the members of an object make of the record, taken one after the other. -/
def takeAll (r : Record ρ) (depth : Nat) (members : List (List Char × List Char)) : Option ρ :=
  (members.foldlM (takeMember (r.takeField (change? depth))) ⟨r.start, []⟩).bind fun d =>
    (r.finish d).toOption

theorem takes_read_object {depth : Nat} (reads : ∀ f ∈ r.fields, ReadsValues (f.read depth))
    {members : List (List Char × List Char)} {inner : List Char} (body : Body members inner) :
    Takes (r.read (depth + 1)) ('\x7b' :: (inner ++ ['\x7d'])) (r.takeAll depth members) := by
  intro rest _
  simp only [List.cons_append, List.append_assoc, List.nil_append]
  rw [read_brace, toOption_readMembers reads body, takeAll]

theorem readsValues_read (reads : ∀ depth, ∀ f ∈ r.fields, ReadsValues (f.read depth))
    (depth : Nat) : ReadsValues (r.read depth) where
  blanks blank cs := by simp only [read, skipBlanks_append blank]
  takes {v} value := by
    cases depth with
    | zero => exact ⟨none, fun _ _ => r.read_zero _⟩
    | succ depth =>
      cases value with
      | word known =>
        simp only [List.mem_cons, List.not_mem_nil, or_false] at known
        rcases known with rfl | rfl | rfl <;> exact ⟨none, fun _ _ => rfl⟩
      | number number =>
        obtain ⟨more, rfl | rfl | rfl | rfl | rfl | rfl | rfl | rfl | rfl | rfl⟩ := number.starts
        all_goals exact ⟨none, fun _ _ => rfl⟩
      | emptyList blank =>
        refine ⟨(r.finishList 0 ⟨r.start, []⟩).toOption, fun rest _ => ?_⟩
        simp only [List.cons_append, List.append_assoc, List.nil_append]
        rw [read_bracket, r.readItems_end depth r.fields 0 _ blank]
      | list items =>
        obtain ⟨x, read⟩ := closed_readItems (r := r) items (reads depth) ⟨r.start, []⟩
        refine ⟨x, fun rest _ => ?_⟩
        rw [← read rest]
        simp only [List.cons_append, List.append_assoc, List.nil_append]
        rw [read_bracket]
      | emptyObject blank => exact ⟨_, takes_read_object (reads depth) (.empty blank)⟩
      | object members => exact ⟨_, takes_read_object (reads depth) (.members members)⟩
      | _ => exact ⟨none, fun _ _ => rfl⟩

/-! ## Nesting -/

theorem readItems_shallow {depth deep : Nat} {fields : List (Field ρ)}
    (alike : ∀ f ∈ fields, f.read depth = f.read deep) (count : Nat) (d : Draft ρ)
    (cs : List Char) :
    r.readItems depth fields count d cs = r.readItems deep fields count d cs := by
  induction fields generalizing count d cs with
  | nil => rfl
  | cons f fields ih =>
    have others := ih fun g member => alike g (.tail _ member)
    simp only [readItems, alike f List.mem_cons_self, others]

theorem readMember_shallow {depth deep : Nat} (alike : ∀ f ∈ r.fields, f.read depth = f.read deep) :
    r.readMember depth = r.readMember deep := by
  funext d key cs
  unfold readMember
  cases found : Field.find? key r.fields with
  | none => rfl
  | some f => simp only [alike f (List.mem_of_find?_eq_some found)]

theorem framed_codec {deep : Nat} (framed : ∀ f ∈ r.fields, f.codec.Framed deep) :
    r.codec.Framed (deep + 1) where
  reads := readsValues_read fun depth f member => (framed f member).reads depth
  shallow depth enough := by
    obtain ⟨depth, rfl⟩ := Nat.exists_eq_add_of_le' (Nat.le_trans (Nat.le_add_left 1 deep) enough)
    have alike : ∀ f ∈ r.fields, f.read depth = f.read deep := fun f member =>
      (framed f member).shallow depth (Nat.le_of_succ_le_succ enough)
    funext cs
    simp only [codec, read, readMembers_eq, readMember_shallow alike, Nat.add_sub_cancel,
      readItems_shallow alike]
    rfl

end

end Record

namespace Field

variable {ρ α : Type} {c : Codec α} {deep : Nat}

theorem framed_always (framed : c.Framed deep) {name : String} {get : ρ → α} {put : α → ρ → ρ} :
    (always name c get put).codec.Framed deep where
  reads depth := (framed.reads depth).map put
  shallow depth enough := by simp only [codec, always, framed.shallow depth enough]

theorem framed_whenSet (framed : c.Framed deep) {name : String} {get : ρ → Option α}
    {put : Option α → ρ → ρ} : (whenSet name c get put).codec.Framed deep where
  reads depth := (framed.option.reads depth).map put
  shallow depth enough := by simp only [codec, whenSet, framed.option.shallow depth enough]

end Field

end IngestWatch
