import IngestWatch.Proofs.Json.Grammar

/-!
The scanners take numbers and strings as they are laid down: nothing of what follows has a say
in whether they can be read and in what they are. A scanner may refuse a text all the same, as a
number may be too large and an escape may name half of a surrogate pair.
-/

namespace IngestWatch.Json

variable {rest : List Char}

theorem scanWord_append (w rest : List Char) : scanWord w (w ++ rest) = .ok rest := by
  induction w with
  | nil => rfl
  | cons c w ih => rw [List.cons_append, scanWord, if_pos rfl, ih]

/-! ## Numbers -/

/-- No digit comes next. -/
def NoDigit (cs : List Char) : Prop :=
  ∀ c ∈ cs.head?, isDigit c = false

theorem Delimited.noDigit (delimited : Delimited rest) : NoDigit rest := by
  cases rest with
  | nil => rintro _ ⟨⟩
  | cons c more =>
    rintro _ ⟨⟩
    exact delimited.ends.1

theorem noDigit_exponent {exponent : List Char} (e : Exponent exponent)
    (delimited : Delimited rest) : NoDigit (exponent ++ rest) := by
  cases e with
  | none => exact delimited.noDigit
  | mark mark signed digits =>
    rintro _ ⟨⟩
    rcases mark with rfl | rfl <;> decide

theorem dropWhile_digits {ds : List Char} (digits : ∀ d ∈ ds, isDigit d = true)
    (stop : NoDigit rest) : (ds ++ rest).dropWhile isDigit = rest := by
  rw [List.dropWhile_append_of_pos digits]
  cases rest with
  | nil => rfl
  | cons c more => exact List.dropWhile_cons_of_neg (by simp [stop c rfl])

theorem takeWhile_digits {ds : List Char} (digits : ∀ d ∈ ds, isDigit d = true)
    (stop : NoDigit rest) : (ds ++ rest).takeWhile isDigit = ds := by
  rw [List.takeWhile_append_of_pos digits]
  cases rest with
  | nil => simp
  | cons c more => simp [stop c rfl]

/-- Some of the digits are absorbed; the others stay in front of what follows. -/
theorem absorbDigits_append {ds : List Char} (digits : ∀ d ∈ ds, isDigit d = true)
    (significand : Nat) :
    ∃ next left, left <:+ ds ∧ ∀ rest, NoDigit rest →
      absorbDigits significand (ds ++ rest) = (next, left ++ rest) := by
  induction ds generalizing significand with
  | nil =>
    refine ⟨significand, [], List.suffix_refl _, fun rest stop => ?_⟩
    cases rest with
    | nil => rfl
    | cons c more => simp [absorbDigits, stop c rfl]
  | cons d ds ih =>
    obtain ⟨first, others⟩ := List.forall_mem_cons.mp digits
    by_cases fits : significand * 10 + digitValue d < 0x10000000000000000
    · obtain ⟨next, left, suffix, absorbed⟩ := ih others (significand * 10 + digitValue d)
      refine ⟨next, left, suffix.trans (List.suffix_cons _ _), fun rest stop => ?_⟩
      rw [List.cons_append, absorbDigits]
      simp only [first, fits, and_self, if_true]
      exact absorbed rest stop
    · refine ⟨significand, d :: ds, List.suffix_refl _, fun rest _ => ?_⟩
      rw [List.cons_append, absorbDigits]
      simp only [fits, and_false, if_false]

/-- The number that is nearest to a significand with an exponent, if there is one. -/
def real? (negative : Bool) (significand : Nat) (exponent : Int) : Option Json :=
  (approximate negative significand exponent).map .real

theorem toOption_finishReal (negative : Bool) (significand : Nat) (exponent : Int)
    (rest : List Char) :
    (finishReal negative significand exponent rest).toOption =
      (real? negative significand exponent).map (·, rest) := by
  rw [finishReal, real?]
  cases approximate negative significand exponent <;> rfl

theorem takes_scanExponentDigits {ds : List Char} (digits : ∀ d ∈ ds, isDigit d = true)
    (negative : Bool) (significand : Nat) (start : Int) (up : Bool) (exponent : Nat) :
    ∃ x, Takes (scanExponentDigits negative significand start up exponent) ds x := by
  induction ds generalizing exponent with
  | nil =>
    refine ⟨real? negative significand (if up then start + exponent else start - exponent),
      fun rest delimited => ?_⟩
    rw [← toOption_finishReal]
    cases rest with
    | nil => rfl
    | cons c more => simp [scanExponentDigits, delimited.ends.1]
  | cons d ds ih =>
    obtain ⟨first, others⟩ := List.forall_mem_cons.mp digits
    by_cases fits : exponent * 10 + digitValue d < 0x80000000
    · obtain ⟨x, takes⟩ := ih others (exponent * 10 + digitValue d)
      refine ⟨x, fun rest delimited => ?_⟩
      rw [List.cons_append, scanExponentDigits]
      simp only [first, fits, if_true]
      exact takes rest delimited
    · by_cases out : significand ≠ 0 ∧ up = true
      · refine ⟨none, fun rest _ => ?_⟩
        rw [List.cons_append, scanExponentDigits]
        simp only [first, fits, if_true, if_false, if_pos out]
        rfl
      · refine ⟨some (.real (Decimal.Binary64.zero negative)), fun rest delimited => ?_⟩
        rw [List.cons_append, scanExponentDigits]
        simp only [first, fits, if_true, if_false, if_neg out,
          dropWhile_digits others delimited.noDigit]
        rfl

theorem takes_scanExponent {sign ds : List Char} (signed : sign = [] ∨ sign = ['+'] ∨ sign = ['-'])
    (digits : Digits ds) (negative : Bool) (significand : Nat) (start : Int) :
    ∃ x, Takes (scanExponent negative significand start) (sign ++ ds) x := by
  obtain ⟨some, all⟩ := digits
  obtain ⟨d, more, rfl⟩ := List.exists_cons_of_ne_nil some
  obtain ⟨first, others⟩ := List.forall_mem_cons.mp all
  rcases signed with rfl | rfl | rfl
  · obtain ⟨x, takes⟩ := takes_scanExponentDigits others negative significand start true
      (digitValue d)
    refine ⟨x, fun rest delimited => ?_⟩
    have plus : d ≠ '+' := ne_of_digit first rfl
    have minus : d ≠ '-' := ne_of_digit first rfl
    rw [← takes rest delimited]
    simp [scanExponent, plus, minus, first]
  · obtain ⟨x, takes⟩ := takes_scanExponentDigits others negative significand start true
      (digitValue d)
    refine ⟨x, fun rest delimited => ?_⟩
    rw [← takes rest delimited]
    simp [scanExponent, first]
  · obtain ⟨x, takes⟩ := takes_scanExponentDigits others negative significand start false
      (digitValue d)
    refine ⟨x, fun rest delimited => ?_⟩
    rw [← takes rest delimited]
    simp [scanExponent, first]

theorem takes_scanExponent? {text : List Char} (e : Exponent text) (negative : Bool)
    (significand : Nat) (exponent : Int) :
    ∃ x, Takes (scanExponent? negative significand exponent) text x := by
  cases e with
  | none =>
    refine ⟨real? negative significand exponent, fun rest delimited => ?_⟩
    rw [← toOption_finishReal]
    cases rest with
    | nil => rfl
    | cons c more =>
      obtain ⟨-, -, small, large⟩ := delimited.ends
      simp [scanExponent?, small, large]
  | mark mark signed digits =>
    obtain ⟨x, takes⟩ := takes_scanExponent signed digits negative significand exponent
    refine ⟨x, fun rest delimited => ?_⟩
    rw [← takes rest delimited]
    rcases mark with rfl | rfl <;> rfl

/-- The digits behind a point are taken, and an exponent may follow. -/
theorem scanFraction_append {ds : List Char} (digits : Digits ds) (negative : Bool)
    (significand : Nat) (start : Int) :
    ∃ next exponent, ∀ rest, NoDigit rest →
      scanFraction negative significand start (ds ++ rest) =
        scanExponent? negative next exponent rest := by
  obtain ⟨some, all⟩ := digits
  obtain ⟨next, left, suffix, absorbed⟩ := absorbDigits_append all significand
  refine ⟨next, start - (ds.length - left.length : Nat), fun rest stop => ?_⟩
  have spent : (ds ++ rest).length - (left ++ rest).length = ds.length - left.length := by
    simp only [List.length_append]
    omega
  unfold scanFraction
  rw [absorbed rest stop]
  simp only [spent]
  cases left with
  | cons c more =>
    have digit : isDigit c = true := all c (suffix.subset List.mem_cons_self)
    have others : ∀ d ∈ more, isDigit d = true := fun d member =>
      all d (suffix.subset (.tail _ member))
    simp only [List.cons_append, digit, if_true, dropWhile_digits others stop]
  | nil =>
    cases rest with
    | nil => simp [some, scanExponent?]
    | cons c more =>
      have fewer : (c :: more).length ≠ (ds ++ c :: more).length := by
        have := List.length_pos_iff.mpr some
        rw [List.length_append]
        omega
      simp only [List.nil_append, stop c rfl, Bool.false_eq_true, if_false, fewer]

theorem noDigit_fraction {fraction exponent : List Char} (f : Fraction fraction)
    (e : Exponent exponent) (delimited : Delimited rest) :
    NoDigit (fraction ++ exponent ++ rest) := by
  cases f with
  | none => exact noDigit_exponent e delimited
  | point digits =>
    rintro _ ⟨⟩
    decide

theorem takes_wholeNumber (negative : Bool) (significand : Nat) :
    ∃ x, ∀ rest, (wholeNumber negative significand rest).toOption = Option.map (·, rest) x := by
  unfold wholeNumber
  by_cases positive : ¬ negative
  · exact ⟨some (.int significand), fun rest => by rw [if_pos positive]; rfl⟩
  · by_cases large : significand = 0 ∨ 0x8000000000000000 < significand
    · refine ⟨real? true significand 0, fun rest => ?_⟩
      rw [if_neg positive, if_pos large, toOption_finishReal]
    · exact ⟨some (.int (-(significand : Int))), fun rest => by
        rw [if_neg positive, if_neg large]; rfl⟩

/-- Behind a point, and behind no point. -/
theorem takes_fraction {fraction exponent : List Char} (f : Fraction fraction)
    (e : Exponent exponent) (negative : Bool) (significand : Nat) (start : Int)
    {scan : List Char → Reading (Json × List Char)}
    (point : ∀ text, scan ('.' :: text) = scanFraction negative significand start text)
    (plain : ∃ x, Takes scan exponent x) : ∃ x, Takes scan (fraction ++ exponent) x := by
  cases f with
  | none => exact plain
  | point digits =>
    obtain ⟨next, scale, taken⟩ := scanFraction_append digits negative significand start
    obtain ⟨x, takes⟩ := takes_scanExponent? e negative next scale
    refine ⟨x, fun rest delimited => ?_⟩
    rw [← takes rest delimited, ← taken _ (noDigit_exponent e delimited), ← point,
      List.cons_append, List.cons_append, List.append_assoc]

/-- Where a number ends behind its digits, it is whole. -/
theorem scanAfterInteger_of_delimited (negative : Bool) (significand : Nat)
    (delimited : Delimited rest) :
    scanAfterInteger negative significand rest = wholeNumber negative significand rest := by
  cases rest with
  | nil => rfl
  | cons c more =>
    obtain ⟨-, point, small, large⟩ := delimited.ends
    simp [scanAfterInteger, point, small, large]

theorem takes_scanAfterInteger {fraction exponent : List Char} (f : Fraction fraction)
    (e : Exponent exponent) (negative : Bool) (significand : Nat) :
    ∃ x, Takes (scanAfterInteger negative significand) (fraction ++ exponent) x := by
  refine takes_fraction f e negative significand 0 (fun _ => rfl) ?_
  cases e with
  | none =>
    obtain ⟨x, takes⟩ := takes_wholeNumber negative significand
    refine ⟨x, fun rest delimited => ?_⟩
    rw [← takes rest, List.nil_append, scanAfterInteger_of_delimited negative significand delimited]
  | mark mark signed digits =>
    obtain ⟨x, takes⟩ := takes_scanExponent signed digits negative significand 0
    refine ⟨x, fun rest delimited => ?_⟩
    rw [← takes rest delimited]
    rcases mark with rfl | rfl <;> rfl

/-- What comes behind the digits of a number that 64 bits do not hold. -/
def scanBehindMany (negative : Bool) (significand : Nat) (start : Int) :
    List Char → Reading (Json × List Char)
  | '.' :: rest => scanFraction negative significand start rest
  | rest => scanExponent? negative significand start rest

theorem takes_scanBehindMany {fraction exponent : List Char} (f : Fraction fraction)
    (e : Exponent exponent) (negative : Bool) (significand : Nat) (start : Int) :
    ∃ x, Takes (scanBehindMany negative significand start) (fraction ++ exponent) x := by
  refine takes_fraction f e negative significand start (fun _ => rfl) ?_
  obtain ⟨x, takes⟩ := takes_scanExponent? e negative significand start
  refine ⟨x, fun rest delimited => ?_⟩
  rw [← takes rest delimited]
  cases e with
  | none =>
    cases rest with
    | nil => rfl
    | cons c more => simp [scanBehindMany, delimited.ends.2.1]
  | mark mark _ _ => rcases mark with rfl | rfl <;> rfl

/-- The digits before a point or a mark are taken first. -/
theorem scanNumber_append {whole : List Char} (before : Integer whole) (negative : Bool) :
    ∃ significand many : Nat, ∀ tail, NoDigit tail → scanNumber negative (whole ++ tail) =
      if many = 0 then scanAfterInteger negative significand tail
      else scanBehindMany negative significand many tail := by
  cases before with
  | zero =>
    refine ⟨0, 0, fun tail stop => ?_⟩
    unfold scanNumber
    cases tail with
    | nil => rfl
    | cons d tail => simp [stop d rfl]
  | @digits c more first notZero others =>
    obtain ⟨next, left, suffix, absorbed⟩ := absorbDigits_append others (digitValue c)
    have digits : ∀ d ∈ left, isDigit d = true := fun d member => others d (suffix.subset member)
    refine ⟨next, left.length, fun tail stop => ?_⟩
    have extra : (left ++ tail).takeWhile isDigit = left := takeWhile_digits digits stop
    unfold scanNumber
    simp only [List.cons_append, notZero, first, if_true, if_false, absorbed tail stop, extra,
      List.drop_left]
    cases left with
    | nil => rfl
    | cons d left => rfl

/-- A number is taken to its end, and no further. -/
theorem takes_scanNumber {n : List Char} (number : Unsigned n) (negative : Bool) :
    ∃ x, Takes (scanNumber negative) n x := by
  obtain @⟨whole, fraction, exponent, before, f, e⟩ := number
  obtain ⟨significand, many, read⟩ := scanNumber_append before negative
  obtain ⟨x, few⟩ := takes_scanAfterInteger f e negative significand
  obtain ⟨y, others⟩ := takes_scanBehindMany f e negative significand many
  refine ⟨if many = 0 then x else y, fun rest delimited => ?_⟩
  rw [List.append_assoc, read _ (noDigit_fraction f e delimited)]
  split
  · exact few rest delimited
  · exact others rest delimited

/-! ## Strings -/

theorem length_le_byteLength (cs : List Char) : cs.length ≤ byteLength cs := by
  have further : ∀ (cs : List Char) (n : Nat),
      n + cs.length ≤ cs.foldl (fun n c => n + c.utf8Size) n := by
    intro cs
    induction cs with
    | nil => exact fun n => Nat.le_refl _
    | cons c cs ih =>
      intro n
      have one := c.utf8Size_pos
      have rest := ih (n + c.utf8Size)
      rw [List.foldl_cons, List.length_cons]
      omega
  simpa [byteLength] using further cs 0

theorem scanHex4_append {a b c d : Char} (hex : ∀ x ∈ [a, b, c, d], (hexValue? x).isSome) :
    ∃ n, ∀ rest, scanHex4 (a :: b :: c :: d :: rest) = .ok (n, rest) := by
  simp only [List.forall_mem_cons, Option.isSome_iff_exists] at hex
  obtain ⟨⟨i, first⟩, ⟨j, second⟩, ⟨k, third⟩, ⟨l, fourth⟩, -⟩ := hex
  refine ⟨((i * 16 + j) * 16 + k) * 16 + l, fun rest => ?_⟩
  have long : ¬ byteLength (a :: b :: c :: d :: rest) < 4 := by
    have := length_le_byteLength (a :: b :: c :: d :: rest)
    simp only [List.length_cons] at this
    omega
  simp only [scanHex4, long, if_false, first, second, third, fourth]

/-- An escape other than one by number names its character. -/
theorem scanEscape_known {c : Char} (known : c ∈ ['"', '\\', '/', 'b', 'f', 'n', 'r', 't']) :
    ∃ e, ∀ rest, scanEscape (c :: rest) = .ok (e, rest) := by
  simp only [List.mem_cons, List.not_mem_nil, or_false] at known
  rcases known with rfl | rfl | rfl | rfl | rfl | rfl | rfl | rfl
  all_goals exact ⟨_, fun _ => rfl⟩

section
variable {a b c d : Char} {n : Nat}
  (digits : ∀ rest, scanHex4 (a :: b :: c :: d :: rest) = .ok (n, rest))
include digits

/-- An escape by number names its character, unless it is half of a surrogate pair. -/
theorem scanEscape_code (rest : List Char) :
    scanEscape ('u' :: a :: b :: c :: d :: rest) =
      if 0xDC00 ≤ n ∧ n ≤ 0xDFFF then .error (Cause.loneSurrogate.before rest)
      else if 0xD800 ≤ n ∧ n ≤ 0xDBFF then scanLowSurrogate n rest
      else .ok (Char.ofNat n, rest) := by
  rw [scanEscape, digits]
  rfl

theorem scanLowSurrogate_code (high : Nat) : ∃ e, ∀ rest,
    scanLowSurrogate high ('\\' :: 'u' :: a :: b :: c :: d :: rest) =
      if n < 0xDC00 ∨ 0xDFFF < n then .error (Cause.loneSurrogate.before rest)
      else .ok (e, rest) := by
  refine ⟨Char.ofNat (0x10000 + (high - 0xD800) * 0x400 + (n - 0xDC00)), fun rest => ?_⟩
  rw [scanLowSurrogate, digits]
  rfl

end

/-- Nothing but an escape by number is the second half of a pair. -/
theorem scanLowSurrogate_plain {c : Char} (noEscape : c ≠ '\\') (high : Nat) (cs : List Char) :
    scanLowSurrogate high (c :: cs) = .error (Cause.unfinishedSurrogate.within (c :: cs)) := by
  simp [scanLowSurrogate, noEscape]

theorem scanLowSurrogate_escape {c : Char} (other : c ≠ 'u') (high : Nat) (cs : List Char) :
    scanLowSurrogate high ('\\' :: c :: cs) =
      .error (Cause.unfinishedSurrogate.within (c :: cs)) := by
  simp [scanLowSurrogate, other]

/-- The characters of a string and, in front of them, one that was read already. -/
def scanBehind (e : Char) (fuel : Nat) (cs : List Char) : Reading (List Char × List Char) := do
  let (s, rest) ← scanStringFrom fuel cs
  pure (e :: s, rest)

theorem toOption_scanBehind {fuel : Nat} {cs rest : List Char} {x : Option (List Char)}
    (read : (scanStringFrom fuel cs).toOption = x.map (·, rest)) (e : Char) :
    (scanBehind e fuel cs).toOption = (x.map (e :: ·)).map (·, rest) := by
  rw [scanBehind, toOption_bind, read]
  cases x <;> rfl

theorem scanStringFrom_escape (fuel : Nat) (cs : List Char) :
    scanStringFrom (fuel + 1) ('\\' :: cs) =
      (do
        let (e, rest) ← scanEscape cs
        scanBehind e fuel rest) := rfl

/-- Read up to its closing quote, a string is what stands before it or nothing. Behind the first
half of a surrogate pair the second half has to come at once; so that is told along. -/
theorem toOption_scanStringFrom {body : List Char} (quoted : Quoted body) :
    (∃ x, ∀ rest fuel, body.length < fuel →
      (scanStringFrom fuel (body ++ '"' :: rest)).toOption = Option.map (·, rest) x) ∧
    ∀ high, ∃ x, ∀ rest fuel, body.length < fuel →
      (do
        let (e, cs) ← scanLowSurrogate high (body ++ '"' :: rest)
        scanBehind e fuel cs).toOption = Option.map (·, rest) x := by
  induction quoted with
  | nil =>
    refine ⟨⟨some [], fun rest fuel enough => ?_⟩, fun high => ⟨none, fun rest fuel _ => rfl⟩⟩
    obtain ⟨fuel, rfl⟩ := Nat.exists_eq_succ_of_ne_zero (Nat.ne_of_gt enough)
    rfl
  | @plain c more noQuote noEscape noControl _ ih =>
    obtain ⟨⟨x, read⟩, -⟩ := ih
    refine ⟨⟨x.map (c :: ·), fun rest fuel enough => ?_⟩,
      fun high => ⟨none, fun rest fuel _ => ?_⟩⟩
    · obtain ⟨fuel, rfl⟩ := Nat.exists_eq_succ_of_ne_zero (Nat.ne_of_gt (Nat.zero_lt_of_lt enough))
      rw [← toOption_scanBehind (read rest fuel (by simpa using enough))]
      simp only [List.cons_append, scanStringFrom, noQuote, noEscape, noControl, if_false]
      rfl
    · rw [List.cons_append, scanLowSurrogate_plain noEscape]
      rfl
  | @escape c more known _ ih =>
    obtain ⟨⟨x, read⟩, -⟩ := ih
    obtain ⟨e, named⟩ := scanEscape_known known
    refine ⟨⟨x.map (e :: ·), fun rest fuel enough => ?_⟩,
      fun high => ⟨none, fun rest fuel _ => ?_⟩⟩
    · obtain ⟨fuel, rfl⟩ := Nat.exists_eq_succ_of_ne_zero (Nat.ne_of_gt (Nat.zero_lt_of_lt enough))
      have left : more.length < fuel := by
        simp only [List.length_cons] at enough
        omega
      rw [List.cons_append, scanStringFrom_escape, List.cons_append, named, ok_bind]
      exact toOption_scanBehind (read rest fuel left) e
    · have other : c ≠ 'u' := by rintro rfl; exact absurd known (by decide)
      rw [List.cons_append, List.cons_append, scanLowSurrogate_escape other]
      rfl
  | @code a b c d more hex _ ih =>
    obtain ⟨⟨x, read⟩, pairs⟩ := ih
    obtain ⟨n, digits⟩ := scanHex4_append hex
    constructor
    · obtain ⟨y, paired⟩ := pairs n
      refine ⟨if 0xDC00 ≤ n ∧ n ≤ 0xDFFF then none else if 0xD800 ≤ n ∧ n ≤ 0xDBFF then y
        else x.map (Char.ofNat n :: ·), fun rest fuel enough => ?_⟩
      obtain ⟨fuel, rfl⟩ := Nat.exists_eq_succ_of_ne_zero (Nat.ne_of_gt (Nat.zero_lt_of_lt enough))
      have left : more.length < fuel := by
        simp only [List.length_cons] at enough
        omega
      simp only [List.cons_append, scanStringFrom_escape, scanEscape_code digits]
      split
      · rfl
      · split
        · exact paired rest fuel left
        · exact toOption_scanBehind (read rest fuel left) _
    · intro high
      obtain ⟨e, second⟩ := scanLowSurrogate_code digits high
      refine ⟨if n < 0xDC00 ∨ 0xDFFF < n then none else x.map (e :: ·),
        fun rest fuel enough => ?_⟩
      have left : more.length < fuel := by
        simp only [List.length_cons] at enough
        omega
      simp only [List.cons_append, second]
      split
      · rfl
      · exact toOption_scanBehind (read rest fuel left) e

/-- A string between its quotes is taken whole or not at all. -/
theorem takes_scanString {body : List Char} (quoted : Quoted body) :
    ∃ x, ∀ rest, (scanString (body ++ '"' :: rest)).toOption = Option.map (·, rest) x := by
  obtain ⟨⟨x, read⟩, -⟩ := toOption_scanStringFrom quoted
  refine ⟨x.map String.ofList, fun rest => ?_⟩
  have enough : body.length < (body ++ '"' :: rest).length + 1 := by
    rw [List.length_append]
    omega
  rw [scanString, toOption_bind, read rest _ enough]
  cases x <;> rfl

end IngestWatch.Json
