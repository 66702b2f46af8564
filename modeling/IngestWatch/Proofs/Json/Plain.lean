import IngestWatch.Proofs.Json.Object

/-!
What the text of a value is, read as any value: a text between quotes is that text, a number is a
number, and a container is a container.
-/

namespace IngestWatch

namespace Json

/-- The text that a value is. -/
def text? : Json → Option String
  | .str s => some s
  | _ => none

/-- The whole number that a value is, if it lies between two bounds. -/
def between? (low high : Int) : Json → Option Int
  | .int n => if low ≤ n ∧ n ≤ high then some n else none
  | _ => none

theorem readValue_bracket (fuel depth : Nat) (cs : List Char) :
    readValue (fuel + 1) depth ('[' :: cs) =
      if depth = 0 then .error (Cause.tooDeep.within ('[' :: cs))
      else
        match skipBlanks cs with
        | [] => .error (Cause.endInList.within [])
        | ']' :: rest => .ok (.arr [], rest)
        | rest => (do
          let (items, rest) ← readItems fuel (depth - 1) rest
          pure (.arr items, rest)) := rfl

theorem readValue_brace (fuel depth : Nat) (cs : List Char) :
    readValue (fuel + 1) depth ('\x7b' :: cs) =
      if depth = 0 then .error (Cause.tooDeep.within ('\x7b' :: cs))
      else
        match skipBlanks cs with
        | [] => .error (Cause.endInObject.within [])
        | '\x7d' :: rest => .ok (.obj [], rest)
        | rest => (do
          let (members, rest) ← readMembers fuel (depth - 1) rest
          pure (Json.ofMembers members, rest)) := rfl

/-- A list, where it is read, is a list. -/
theorem eq_arr_of_readValue {fuel depth : Nat} {cs rest : List Char} {x : Json}
    (read : readValue (fuel + 1) depth ('[' :: cs) = .ok (x, rest)) : ∃ items, x = .arr items := by
  rw [readValue_bracket] at read
  split at read
  · cases read
  split at read
  · cases read
  · obtain ⟨rfl, -⟩ := Prod.mk.inj (Except.ok.inj read)
    exact ⟨[], rfl⟩
  · obtain ⟨⟨items, _⟩, -, made⟩ := bind_eq_ok.mp read
    obtain ⟨rfl, -⟩ := Prod.mk.inj (Except.ok.inj made)
    exact ⟨items, rfl⟩

/-- An object, where it is read, is an object. -/
theorem eq_obj_of_readValue {fuel depth : Nat} {cs rest : List Char} {x : Json}
    (read : readValue (fuel + 1) depth ('\x7b' :: cs) = .ok (x, rest)) :
    ∃ members, x = .obj members := by
  rw [readValue_brace] at read
  split at read
  · cases read
  split at read
  · cases read
  · obtain ⟨rfl, -⟩ := Prod.mk.inj (Except.ok.inj read)
    exact ⟨[], rfl⟩
  · obtain ⟨⟨members, _⟩, -, made⟩ := bind_eq_ok.mp read
    obtain ⟨rfl, -⟩ := Prod.mk.inj (Except.ok.inj made)
    exact ⟨_, rfl⟩

/-- A text read as any value. -/
def any? (v : List Char) : Option Json :=
  whole? (fun cs => readValue (stepsFor cs) usualDepth cs) v

theorem exists_of_any? {v : List Char} {x : Json} (read : any? v = some x) :
    ∃ rest, readValue (stepsFor v) usualDepth v = .ok (x, rest) := by
  have finished : finish (readValue (stepsFor v) usualDepth v) = .ok x :=
    toOption_eq_some_iff.mp read
  obtain ⟨⟨y, rest⟩, begun, ended⟩ := bind_eq_ok.mp finished
  refine ⟨rest, begun.trans ?_⟩
  dsimp only at ended
  split at ended
  · obtain rfl : y = x := Except.ok.inj ended
    rfl
  · cases ended

theorem any?_list (cs : List Char) :
    any? ('[' :: cs) = none ∨ ∃ items, any? ('[' :: cs) = some (.arr items) := by
  cases read : any? ('[' :: cs) with
  | none => exact .inl rfl
  | some x =>
    obtain ⟨rest, begun⟩ := exists_of_any? read
    obtain ⟨items, rfl⟩ := eq_arr_of_readValue begun
    exact .inr ⟨items, rfl⟩

theorem any?_object (cs : List Char) :
    any? ('\x7b' :: cs) = none ∨ ∃ members, any? ('\x7b' :: cs) = some (.obj members) := by
  cases read : any? ('\x7b' :: cs) with
  | none => exact .inl rfl
  | some x =>
    obtain ⟨rest, begun⟩ := exists_of_any? read
    obtain ⟨members, rfl⟩ := eq_obj_of_readValue begun
    exact .inr ⟨members, rfl⟩

/-- What is scanned is a number, if it can be read. -/
def Numeric (reading : Reading (Json × List Char)) : Prop :=
  ∀ x rest, reading = .ok (x, rest) → x.kind = "a number"

section
variable (negative : Bool) (significand : Nat) (start : Int)

theorem numeric_error (fault : Fault) : Numeric (.error fault) := by
  rintro _ _ ⟨⟩

theorem numeric_finishReal (rest : List Char) :
    Numeric (finishReal negative significand start rest) := by
  rintro x left read
  rw [finishReal] at read
  split at read
  · obtain ⟨rfl, -⟩ := Prod.mk.inj (Except.ok.inj read)
    rfl
  · cases read

theorem numeric_scanExponentDigits (up : Bool) (exponent : Nat) (cs : List Char) :
    Numeric (scanExponentDigits negative significand start up exponent cs) := by
  induction cs generalizing exponent with
  | nil => exact numeric_finishReal negative significand _ []
  | cons c rest ih =>
    rw [scanExponentDigits]
    split
    · dsimp only
      split
      · exact ih _
      · split
        · exact numeric_error _
        · rintro _ _ ⟨⟩
          rfl
    · exact numeric_finishReal negative significand _ _

theorem numeric_scanExponent (cs : List Char) :
    Numeric (scanExponent negative significand start cs) := by
  unfold scanExponent
  split
  split
  · exact numeric_error _
  · split
    · exact numeric_scanExponentDigits negative significand start _ _ _
    · exact numeric_error _

theorem numeric_scanExponent? (cs : List Char) :
    Numeric (scanExponent? negative significand start cs) := by
  unfold scanExponent?
  split
  · exact numeric_scanExponent negative significand start _
  · exact numeric_scanExponent negative significand start _
  · exact numeric_finishReal negative significand start _

theorem numeric_scanFraction (cs : List Char) :
    Numeric (scanFraction negative significand start cs) := by
  unfold scanFraction
  dsimp only
  split
  · split
    · exact numeric_error _
    · exact numeric_finishReal negative _ _ _
  · split
    · exact numeric_scanExponent? negative _ _ _
    · split
      · exact numeric_error _
      · exact numeric_scanExponent? negative _ _ _

theorem numeric_wholeNumber (rest : List Char) :
    Numeric (wholeNumber negative significand rest) := by
  unfold wholeNumber
  split
  · rintro _ _ ⟨⟩
    rfl
  · split
    · exact numeric_finishReal true significand 0 rest
    · rintro _ _ ⟨⟩
      rfl

theorem numeric_scanAfterInteger (cs : List Char) :
    Numeric (scanAfterInteger negative significand cs) := by
  unfold scanAfterInteger
  split
  · exact numeric_scanFraction negative significand 0 _
  · exact numeric_scanExponent negative significand 0 _
  · exact numeric_scanExponent negative significand 0 _
  · exact numeric_wholeNumber negative significand _

theorem numeric_scanNumber (cs : List Char) : Numeric (scanNumber negative cs) := by
  unfold scanNumber
  split
  · exact numeric_error _
  · split
    · split
      · split
        · exact numeric_error _
        · exact numeric_scanAfterInteger negative 0 _
      · exact numeric_scanAfterInteger negative 0 _
    · split
      · dsimp only
        split
        · exact numeric_scanAfterInteger negative _ _
        · split
          · exact numeric_scanFraction negative _ _ _
          · exact numeric_scanExponent? negative _ _ _
      · exact numeric_error _

end

theorem kind_of_takes_number {negative : Bool} {n : List Char} {x : Json}
    (takes : Takes (scanNumber negative) n (some x)) : x.kind = "a number" :=
  numeric_scanNumber negative _ x [] (toOption_eq_some_iff.mp (takes [] delimited_nil))

theorem text?_of_takes_number {negative : Bool} {n : List Char} {x : Option Json}
    (takes : Takes (scanNumber negative) n x) : x.bind text? = none := by
  cases x with
  | none => rfl
  | some x =>
    have number := kind_of_takes_number takes
    cases x with
    | str s => exact absurd number (by simp [kind])
    | _ => rfl

theorem any?_number {n : List Char} {x : Option Json} (number : Unsigned n)
    (takes : Takes (scanNumber false) n x) : any? n = x := by
  rw [← takes.alone]
  obtain ⟨more, rfl | rfl | rfl | rfl | rfl | rfl | rfl | rfl | rfl | rfl⟩ := number.starts
  all_goals rfl

theorem any?_negative {n : List Char} {x : Option Json}
    (takes : Takes (scanNumber true) n x) : any? ('-' :: n) = x := by
  rw [← takes.alone]
  rfl

theorem any?_quoted {body : List Char} (quoted : Quoted body) :
    any? ('"' :: (body ++ ['"'])) = (key? body).map .str := by
  have takes : Takes (fun cs => readValue (stepsFor cs) usualDepth cs) ('"' :: (body ++ ['"']))
      ((key? body).map .str) := by
    intro rest _
    have opened (cs : List Char) : readValue (stepsFor ('"' :: cs)) usualDepth ('"' :: cs) =
        scanString cs >>= fun read => pure (.str read.1, read.2) := rfl
    simp only [List.cons_append, List.append_assoc, List.nil_append, opened]
    rw [toOption_bind, toOption_scanString quoted]
    cases key? body <;> rfl
  exact takes.alone

end Json

end IngestWatch
