import IngestWatch.Proofs.Json.Scan

/-!
To pass over a value is to pass over exactly that value, whatever it is and however deep it goes.
-/

namespace IngestWatch.Json

variable {rest : List Char}

/-! ## Strings and numbers -/

theorem skipString_append {body : List Char} (quoted : Quoted body) (rest : List Char) :
    ∀ fuel, body.length < fuel → skipString fuel (body ++ '"' :: rest) = .ok rest := by
  intro fuel enough
  induction quoted generalizing fuel with
  | nil =>
    obtain ⟨fuel, rfl⟩ := Nat.exists_eq_succ_of_ne_zero (Nat.ne_of_gt enough)
    rfl
  | @plain c more noQuote noEscape noControl _ ih =>
    obtain ⟨fuel, rfl⟩ := Nat.exists_eq_succ_of_ne_zero (Nat.ne_of_gt (Nat.zero_lt_of_lt enough))
    simp only [List.cons_append, skipString, noQuote, noEscape, noControl, if_false]
    exact ih fuel (by simpa using enough)
  | @escape c more known _ ih =>
    obtain ⟨fuel, rfl⟩ := Nat.exists_eq_succ_of_ne_zero (Nat.ne_of_gt (Nat.zero_lt_of_lt enough))
    have left : more.length < fuel := by
      simp only [List.length_cons] at enough
      omega
    have passed : ∀ rest, skipEscape (c :: rest) = .ok rest := by
      simp only [List.mem_cons, List.not_mem_nil, or_false] at known
      rcases known with rfl | rfl | rfl | rfl | rfl | rfl | rfl | rfl
      all_goals exact fun _ => rfl
    have one : skipString (fuel + 1) ('\\' :: c :: (more ++ '"' :: rest)) =
        skipEscape (c :: (more ++ '"' :: rest)) >>= skipString fuel := rfl
    rw [List.cons_append, List.cons_append, one, passed, ok_bind]
    exact ih fuel left
  | @code a b c d more hex _ ih =>
    obtain ⟨fuel, rfl⟩ := Nat.exists_eq_succ_of_ne_zero (Nat.ne_of_gt (Nat.zero_lt_of_lt enough))
    have left : more.length < fuel := by
      simp only [List.length_cons] at enough
      omega
    obtain ⟨n, digits⟩ := scanHex4_append hex
    have passed : ∀ rest, skipEscape ('u' :: a :: b :: c :: d :: rest) = .ok rest := by
      intro rest
      rw [skipEscape, digits]
      rfl
    have one : ∀ cs, skipString (fuel + 1) ('\\' :: cs) = skipEscape cs >>= skipString fuel :=
      fun _ => rfl
    simp only [List.cons_append]
    rw [one, passed, ok_bind]
    exact ih fuel left

theorem skipExponent?_append {exponent : List Char} (e : Exponent exponent)
    (delimited : Delimited rest) : skipExponent? (exponent ++ rest) = .ok rest := by
  cases e with
  | none =>
    cases rest with
    | nil => rfl
    | cons c more =>
      obtain ⟨-, -, small, large⟩ := delimited.ends
      simp [skipExponent?, small, large]
  | @mark c sign ds mark signed digits =>
    obtain ⟨some, all⟩ := digits
    obtain ⟨d, more, rfl⟩ := List.exists_cons_of_ne_nil some
    obtain ⟨first, others⟩ := List.forall_mem_cons.mp all
    have plus : d ≠ '+' := ne_of_digit first rfl
    have minus : d ≠ '-' := ne_of_digit first rfl
    have begun : skipExponent? (c :: (sign ++ d :: more) ++ rest) =
        skipExponent (sign ++ d :: (more ++ rest)) := by
      rcases mark with rfl | rfl <;> simp [skipExponent?]
    rw [begun]
    rcases signed with rfl | rfl | rfl
    all_goals
      simp [skipExponent, plus, minus, first, dropWhile_digits others delimited.noDigit]

/-- Passes what comes behind the digits before the point. -/
def skipBehind : List Char → Reading (List Char)
  | '.' :: rest => skipFraction rest
  | rest => skipExponent? rest

theorem skipNumber_whole {whole tail : List Char} (before : Integer whole) (stop : NoDigit tail) :
    skipNumber (whole ++ tail) = skipBehind tail := by
  cases before with
  | zero =>
    cases tail with
    | nil => rfl
    | cons c more =>
      have none : isDigit c = false := stop c rfl
      simp only [List.cons_append, List.nil_append, skipNumber, if_true, none, Bool.false_eq_true,
        if_false]
      rfl
  | digits first notZero others =>
    simp only [List.cons_append, skipNumber, notZero, first, if_true, if_false,
      dropWhile_digits others stop]
    rfl

theorem skipBehind_append {fraction exponent : List Char} (f : Fraction fraction)
    (e : Exponent exponent) (delimited : Delimited rest) :
    skipBehind (fraction ++ (exponent ++ rest)) = .ok rest := by
  have scale := skipExponent?_append e delimited
  cases f with
  | none =>
    have noPoint : ∀ c ∈ (exponent ++ rest).head?, c ≠ '.' := by
      cases e with
      | none =>
        cases rest with
        | nil => rintro _ ⟨⟩
        | cons c more =>
          rintro _ ⟨⟩
          exact delimited.ends.2.1
      | mark mark _ _ =>
        rintro _ ⟨⟩
        rcases mark with rfl | rfl <;> decide
    rw [List.nil_append, skipBehind, scale]
    exact fun tail point => noPoint '.' (by rw [point]; rfl) rfl
  | @point ds digits =>
    obtain ⟨some, all⟩ := digits
    obtain ⟨d, more, rfl⟩ := List.exists_cons_of_ne_nil some
    obtain ⟨first, others⟩ := List.forall_mem_cons.mp all
    simp only [List.cons_append, skipBehind, skipFraction, first, if_true,
      dropWhile_digits others (noDigit_exponent e delimited), scale]

/-- A number is passed over to its end, and no further. -/
theorem skipNumber_append {n : List Char} (number : Unsigned n) (delimited : Delimited rest) :
    skipNumber (n ++ rest) = .ok rest := by
  obtain @⟨whole, fraction, exponent, before, f, e⟩ := number
  rw [List.append_assoc, List.append_assoc,
    skipNumber_whole before (by simpa using noDigit_fraction f e delimited),
    skipBehind_append f e delimited]

/-! ## Values -/

theorem skipValue_skipBlanks (fuel : Nat) (cs : List Char) :
    skipValue (fuel + 1) (skipBlanks cs) = skipValue (fuel + 1) cs := by
  unfold skipValue
  rw [skipBlanks_skipBlanks]

theorem skipItems_skipBlanks (fuel : Nat) (cs : List Char) :
    skipItems (fuel + 2) (skipBlanks cs) = skipItems (fuel + 2) cs := by
  unfold skipItems
  rw [skipValue_skipBlanks]

theorem skipMembers_skipBlanks (fuel : Nat) (cs : List Char) :
    skipMembers (fuel + 1) (skipBlanks cs) = skipMembers (fuel + 1) cs := by
  unfold skipMembers
  rw [skipBlanks_skipBlanks]

theorem skipValue_digit {c : Char} (digit : isDigit c = true) (fuel : Nat) (cs : List Char) :
    skipValue (fuel + 1) (c :: cs) = skipNumber (c :: cs) := by
  have solid : skipBlanks (c :: cs) = c :: cs :=
    List.dropWhile_cons_of_neg (by simp [isBlank_of_digit digit])
  unfold skipValue
  rw [solid]
  split
  case h_1 same => cases same
  case h_9 same =>
    obtain ⟨rfl, rfl⟩ := List.cons.inj same
    rw [if_pos digit]
  all_goals
    next same =>
      obtain ⟨rfl, -⟩ := List.cons.inj same
      exact absurd digit (by decide)

/-- Behind an opening bracket. -/
theorem skipValue_list (fuel : Nat) (cs : List Char) :
    skipValue (fuel + 1) ('[' :: cs) =
      match skipBlanks cs with
      | [] => .error (Cause.endInList.within [])
      | ']' :: rest => .ok rest
      | rest => skipItems fuel rest := rfl

/-- Behind an opening brace. -/
theorem skipValue_object (fuel : Nat) (cs : List Char) :
    skipValue (fuel + 1) ('\x7b' :: cs) =
      match skipBlanks cs with
      | [] => .error (Cause.endInObject.within [])
      | '\x7d' :: rest => .ok rest
      | rest => skipMembers fuel rest := rfl

section
variable {before v rest : List Char} {fuel : Nat} (front : Blank before) (value : Value v)
  (passed : skipValue (fuel + 1) (v ++ rest) = .ok rest)
include front value passed

theorem skipValue_behind : skipValue (fuel + 1) (before ++ (v ++ rest)) = .ok rest := by
  rw [← skipValue_skipBlanks, skipBlanks_value front value, passed]

/-- Behind an item comes the end of the list or the next item. -/
theorem skipItems_item :
    skipItems (fuel + 2) (before ++ (v ++ rest)) =
      match skipBlanks rest with
      | [] => .error (Cause.endInList.within [])
      | ']' :: rest => .ok rest
      | ',' :: rest => skipItems (fuel + 1) rest
      | rest => .error (Cause.wantedListEnd.within rest) := by
  rw [skipItems, skipValue_behind front value passed, ok_bind]
  rfl

/-- Behind a member comes the end of the object or the next member. -/
theorem skipMembers_member {lead key between : List Char} (first : Blank lead)
    (quoted : Quoted key) (middle : Blank between) :
    skipMembers (fuel + 2)
        (lead ++ '"' :: (key ++ '"' :: (between ++ ':' :: (before ++ (v ++ rest))))) =
      match skipBlanks rest with
      | [] => .error (Cause.endInObject.within [])
      | '\x7d' :: rest => .ok rest
      | ',' :: rest => skipMembers (fuel + 1) rest
      | rest => .error (Cause.wantedObjectEnd.within rest) := by
  have named : skipString ((key ++ '"' :: (between ++ ':' :: (before ++ (v ++ rest)))).length + 1)
      (key ++ '"' :: (between ++ ':' :: (before ++ (v ++ rest)))) =
        .ok (between ++ ':' :: (before ++ (v ++ rest))) := by
    refine skipString_append quoted _ _ ?_
    rw [List.length_append]
    omega
  rw [skipMembers, skipBlanks_mark first rfl]
  simp only [named, ok_bind]
  rw [skipBlanks_mark middle rfl]
  simp only [skipValue_behind front value passed, ok_bind]
  rfl

end

mutual

/-- A value is passed over to its end, and no further. -/
theorem skipValue_append {v : List Char} : Value v → ∀ {rest : List Char} (fuel : Nat),
    Delimited rest → v.length ≤ fuel → skipValue fuel (v ++ rest) = .ok rest
  | .word known, rest, fuel, _, enough => by
    simp only [List.mem_cons, List.not_mem_nil, or_false] at known
    rcases known with rfl | rfl | rfl
    all_goals
      obtain ⟨fuel, rfl⟩ := Nat.exists_eq_add_of_le' enough
      exact scanWord_append _ rest
  | .number number, rest, fuel, delimited, enough => by
    have passed := skipNumber_append number delimited
    obtain ⟨c, more, rfl, digit⟩ := number.begins
    obtain ⟨fuel, rfl⟩ := Nat.exists_eq_succ_of_ne_zero (Nat.ne_of_gt (Nat.zero_lt_of_lt enough))
    rw [← passed]
    exact skipValue_digit digit fuel (more ++ rest)
  | .negative number, rest, fuel, delimited, enough => by
    obtain ⟨fuel, rfl⟩ := Nat.exists_eq_succ_of_ne_zero (Nat.ne_of_gt (Nat.zero_lt_of_lt enough))
    exact skipNumber_append number delimited
  | @Value.quoted body quoted, rest, fuel, delimited, enough => by
    obtain ⟨fuel, rfl⟩ := Nat.exists_eq_succ_of_ne_zero (Nat.ne_of_gt (Nat.zero_lt_of_lt enough))
    have inside : body.length < (body ++ '"' :: rest).length + 1 := by
      rw [List.length_append]
      omega
    rw [List.cons_append, List.append_assoc]
    exact skipString_append quoted rest _ inside
  | .emptyList blank, rest, fuel, _, enough => by
    obtain ⟨fuel, rfl⟩ := Nat.exists_eq_succ_of_ne_zero (Nat.ne_of_gt (Nat.zero_lt_of_lt enough))
    rw [List.cons_append, List.append_assoc, List.singleton_append, skipValue_list,
      skipBlanks_mark blank rfl]
    rfl
  | .list items, rest, fuel, _, enough => by
    rw [List.length_cons, List.length_append, List.length_singleton] at enough
    have inside := skipItems_append items rest (fuel - 1) (by omega)
    obtain ⟨before, c, more, rfl, front, solid, bracket⟩ := items.begins
    rw [List.length_append, List.length_cons] at enough
    obtain ⟨fuel, rfl⟩ := Nat.exists_eq_add_of_le' (show 3 ≤ fuel by omega)
    rw [show fuel + 3 - 1 = fuel + 2 from rfl, ← skipItems_skipBlanks, List.append_assoc,
      List.cons_append, skipBlanks_mark front solid] at inside
    rw [List.cons_append, List.append_assoc, List.append_assoc, List.singleton_append,
      skipValue_list, List.cons_append, skipBlanks_mark front solid, ← inside]
    split
    · cases ‹c :: _ = []›
    · exact absurd (List.cons.inj ‹_›).1 bracket
    · rfl
  | .emptyObject blank, rest, fuel, _, enough => by
    obtain ⟨fuel, rfl⟩ := Nat.exists_eq_succ_of_ne_zero (Nat.ne_of_gt (Nat.zero_lt_of_lt enough))
    rw [List.cons_append, List.append_assoc, List.singleton_append, skipValue_object,
      skipBlanks_mark blank rfl]
    rfl
  | .object members, rest, fuel, delimited, enough => by 
    rw [List.length_cons, List.length_append, List.length_singleton] at enough
    have inside := skipMembers_append members rest (fuel - 1) (by omega)
    obtain ⟨before, more, rfl, front⟩ := members.begins
    obtain ⟨fuel, rfl⟩ := Nat.exists_eq_add_of_le' (show 2 ≤ fuel by omega)
    rw [show fuel + 2 - 1 = fuel + 1 from rfl, ← skipMembers_skipBlanks, List.append_assoc,
      List.cons_append, skipBlanks_mark front rfl] at inside
    rw [List.cons_append, List.append_assoc, List.append_assoc, List.singleton_append,
      skipValue_object, List.cons_append, skipBlanks_mark front rfl, ← inside]
    rfl

theorem skipItems_append {items : List (List Char)} {inner : List Char} : Items items inner →
    ∀ (rest : List Char) (fuel : Nat), inner.length < fuel →
      skipItems fuel (inner ++ ']' :: rest) = .ok rest
  | .last (v := v) front value back, rest, fuel, enough => by
    have some := value.length_pos
    simp only [List.length_append] at enough
    obtain ⟨fuel, rfl⟩ := Nat.exists_eq_add_of_le' (show 2 ≤ fuel by omega)
    have delimited := delimited_append back (delimited_mark (c := ']') (by decide) rest)
    have passed := skipValue_append value (fuel + 1) delimited (by omega)
    rw [List.append_assoc, List.append_assoc, skipItems_item front value passed,
      skipBlanks_mark back rfl]
    rfl
  | @Items.more v _ _ text _ front value back others, rest, fuel, enough => by
    have some := value.length_pos
    simp only [List.length_append, List.length_cons] at enough
    obtain ⟨fuel, rfl⟩ := Nat.exists_eq_add_of_le' (show 2 ≤ fuel by omega)
    have delimited := delimited_append back
      (delimited_mark (c := ',') (by decide) (text ++ ']' :: rest))
    have passed := skipValue_append value (fuel + 1) delimited (by omega)
    have onwards := skipItems_append others rest (fuel + 1) (by omega)
    simp only [List.append_assoc, List.cons_append]
    rw [skipItems_item front value passed, skipBlanks_mark back rfl, ← onwards]
    rfl

theorem skipMembers_append {members : List (List Char × List Char)} {inner : List Char} :
    Members members inner → ∀ (rest : List Char) (fuel : Nat), inner.length < fuel →
      skipMembers fuel (inner ++ '\x7d' :: rest) = .ok rest
  | .last (v := v) front quoted middle space value back, rest, fuel, enough => by
    have some := value.length_pos
    simp only [List.length_append, List.length_cons] at enough
    obtain ⟨fuel, rfl⟩ := Nat.exists_eq_add_of_le' (show 2 ≤ fuel by omega)
    have delimited := delimited_append back (delimited_mark (c := '\x7d') (by decide) rest)
    have passed := skipValue_append value (fuel + 1) delimited (by omega)
    simp only [List.append_assoc, List.cons_append]
    rw [skipMembers_member space value passed front quoted middle, skipBlanks_mark back rfl]
    rfl
  | @Members.more _ v _ _ _ _ text _ front quoted middle space value back others, rest, fuel,
      enough => by
    have some := value.length_pos
    simp only [List.length_append, List.length_cons] at enough
    obtain ⟨fuel, rfl⟩ := Nat.exists_eq_add_of_le' (show 2 ≤ fuel by omega)
    have delimited := delimited_append back
      (delimited_mark (c := ',') (by decide) (text ++ '\x7d' :: rest))
    have passed := skipValue_append value (fuel + 1) delimited (by omega)
    have onwards := skipMembers_append others rest (fuel + 1) (by omega)
    simp only [List.append_assoc, List.cons_append]
    rw [skipMembers_member space value passed front quoted middle, skipBlanks_mark back rfl,
      ← onwards]
    rfl

end

/-- There are always steps enough. -/
theorem skipValue_stepsFor {before v : List Char} (front : Blank before) (value : Value v)
    (delimited : Delimited rest) :
    skipValue (stepsFor (before ++ (v ++ rest))) (before ++ (v ++ rest)) = .ok rest := by
  refine skipValue_behind front value (skipValue_append value _ delimited ?_)
  simp only [List.length_append]
  omega

end IngestWatch.Json
