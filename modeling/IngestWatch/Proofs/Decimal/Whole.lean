import IngestWatch.Decimal.Whole
import IngestWatch.Proofs.Outcome

/-!
Whole numbers without a minus sign: a text names one exactly if it is made of digits, at least
one of them and perhaps behind a plus sign, and their number is within the bound. Numbers of
either sign are read again as they are written.
-/

namespace IngestWatch.Decimal

/-- The characters of a text behind a plus sign, if it begins with one. -/
def unsigned (text : String) : List Char :=
  match text.toList with
  | '+' :: rest => rest
  | cs => cs

/-- The number that characters name, if all of them do and it is not beyond a bound. -/
def number? (high : Nat) (cs : List Char) : Option Nat :=
  if cs ≠ [] ∧ cs.all Char.isDigit = true ∧ Nat.ofDigitChars 10 cs 0 ≤ high then
    some (Nat.ofDigitChars 10 cs 0)
  else none

theorem isDigit_iff (c : Char) : c.isDigit = true ↔ '0' ≤ c ∧ c ≤ '9' := by
  simp [Char.isDigit, Char.le_def]

theorem le_ofDigitChars (cs : List Char) (n : Nat) : n ≤ Nat.ofDigitChars 10 cs n := by
  induction cs generalizing n with
  | nil => simp
  | cons c rest ih =>
    rw [Nat.ofDigitChars_cons]
    have further := ih (10 * n + (c.toNat - '0'.toNat))
    omega

/-- As digits only make a number larger, a bound is kept on the way if it is kept in the end. -/
theorem takeDigits_eq_ok_iff {low : Int} (small : low ≤ 0) {high n : Nat} (within : n ≤ high)
    (cs : List Char) (m : Int) :
    takeDigits false low high n cs = .ok m ↔
      cs.all Char.isDigit = true ∧ Nat.ofDigitChars 10 cs n ≤ high ∧
        m = Nat.ofDigitChars 10 cs n := by
  induction cs generalizing n with
  | nil =>
    rw [takeDigits, Except.ok.injEq]
    simp [within, eq_comm]
  | cons c rest ih =>
    rw [takeDigits, List.all_cons, Bool.and_eq_true, isDigit_iff, Nat.ofDigitChars_cons]
    by_cases digit : '0' ≤ c ∧ c ≤ '9'
    · have zero : 0x30 ≤ c.toNat := digit.1
      have next : (n : Int) * 10 + (c.toNat - 0x30) = (10 * n + (c.toNat - '0'.toNat) : Nat) := by
        have code : '0'.toNat = 0x30 := rfl
        omega
      have above : ¬ ((10 * n + (c.toNat - '0'.toNat) : Nat) : Int) < low := by omega
      simp only [digit, and_self, if_true, Bool.false_eq_true, if_false, next, above, true_and]
      by_cases large : (high : Int) < (10 * n + (c.toNat - '0'.toNat) : Nat)
      · have beyond := le_ofDigitChars rest (10 * n + (c.toNat - '0'.toNat))
        rw [if_pos large]
        refine ⟨fun value => ?_, fun ⟨_, bound, _⟩ => ?_⟩
        · cases value
        · omega
      · rw [if_neg large]
        exact ih (by omega)
    · rw [if_neg digit]
      refine ⟨fun value => ?_, fun ⟨digits, _⟩ => absurd digits.1 digit⟩
      cases value

theorem toOption_takeDigits {high : Nat} {cs : List Char} (some : cs ≠ []) :
    (takeDigits false 0 high 0 cs).toOption = (number? high cs).map Nat.cast := by
  have reading (m : Int) := takeDigits_eq_ok_iff (n := 0) (le_refl 0) (Nat.zero_le high) cs m
  rw [Nat.cast_zero] at reading
  cases read : takeDigits false 0 high 0 cs with
  | ok m =>
    obtain ⟨digits, bound, rfl⟩ := (reading m).mp read
    rw [number?, if_pos ⟨some, digits, bound⟩]
    rfl
  | error fault =>
    have none : number? high cs = none := by
      rw [number?, if_neg]
      rintro ⟨-, digits, bound⟩
      cases read.symm.trans ((reading _).mpr ⟨digits, bound, rfl⟩)
    rw [none]
    rfl

theorem toOption_readWhole (high : Nat) (text : String) :
    (readWhole 0 high text).toOption = (number? high (unsigned text)).map Nat.cast := by
  unfold readWhole unsigned
  split
  · next empty => simp [empty, number?, Except.toOption]
  · next plus => simp [plus, number?, Except.toOption]
  · next minus => simp [minus, number?, Except.toOption, Char.isDigit]
  · next rest bare plus =>
    simpa [plus] using toOption_takeDigits bare
  · next rest bare minus =>
    simp [minus, number?, Except.toOption, Char.isDigit]
  · next some _ _ plus _ =>
    split
    · next signed => exact (plus _ signed).elim
    · exact toOption_takeDigits some

theorem toOption_readUInt64 (text : String) :
    (readUInt64 text).toOption =
      (number? 0xffffffffffffffff (unsigned text)).map UInt64.ofNat := by
  have whole : (readWhole 0 0xffffffffffffffff text).toOption = _ :=
    toOption_readWhole 0xffffffffffffffff text
  rw [readUInt64, toOption_map, whole, Option.map_map]
  rfl

/-! ## Numbers as they are written -/

/-- Downwards digits are taken as upwards, with both bounds on the other side. -/
theorem takeDigits_negative_eq_ok_iff {low high n m : Int} {cs : List Char} :
    takeDigits true low high n cs = .ok m ↔
      takeDigits false (-high) (-low) (-n) cs = .ok (-m) := by
  induction cs generalizing n with
  | nil => simp only [takeDigits, Except.ok.injEq, neg_inj]
  | cons c rest ih =>
    rw [takeDigits, takeDigits]
    split
    · have mirrored : -n * 10 + ((c.toNat : Int) - 0x30) = -(n * 10 - (c.toNat - 0x30)) := by ring
      simp only [Bool.false_eq_true, if_false, if_true, mirrored, neg_lt_neg_iff]
      generalize n * 10 - ((c.toNat : Int) - 0x30) = next
      by_cases small : next < low
      · by_cases large : high < next
        all_goals simp [small, large]
      · by_cases large : high < next
        · simp [small, large]
        · rw [if_neg small, if_neg large, if_neg large, if_neg small]
          exact ih
    · simp

theorem readWhole_of_digits {low high : Int} {text : String} (some : text.toList ≠ [])
    (digits : text.toList.all Char.isDigit = true) :
    readWhole low high text = takeDigits false low high 0 text.toList := by
  unfold readWhole
  split
  all_goals simp_all [Char.isDigit]

theorem readWhole_of_minus {low high : Int} {text : String} {cs : List Char}
    (shape : text.toList = '-' :: cs) (some : cs ≠ []) (below : low < 0) :
    readWhole low high text = takeDigits true low high 0 cs := by
  unfold readWhole
  split
  all_goals simp_all

theorem all_isDigit_toDigits (n : Nat) : (Nat.toDigits 10 n).all Char.isDigit = true :=
  List.all_eq_true.mpr fun _ member =>
    Nat.isDigit_of_mem_toDigits (by decide) (by decide) member

theorem takeDigits_toDigits {low : Int} (small : low ≤ 0) {high n : Nat} (within : n ≤ high) :
    takeDigits false low high 0 (Nat.toDigits 10 n) = .ok (n : Int) := by
  have value : Nat.ofDigitChars 10 (Nat.toDigits 10 n) 0 = n :=
    Nat.ofDigitChars_toDigits (by decide) (by decide)
  refine (takeDigits_eq_ok_iff small (Nat.zero_le high) _ _).mpr ⟨all_isDigit_toDigits n, ?_, ?_⟩
  · rwa [value]
  · rw [value]

theorem toList_toString (n : Nat) : (toString n).toList = Nat.toDigits 10 n := by
  change n.repr.toList = _
  rw [Nat.repr_eq_ofList_toDigits, String.toList_ofList]

theorem readWhole_toString {low : Int} (small : low ≤ 0) {high n : Nat} (within : n ≤ high) :
    readWhole low high (toString n) = .ok (n : Int) := by
  rw [readWhole_of_digits, toList_toString]
  · exact takeDigits_toDigits small within
  · rw [toList_toString]
    exact Nat.toDigits_ne_nil
  · rw [toList_toString]
    exact all_isDigit_toDigits n

theorem readWhole_toString_neg {low : Nat} (high : Nat) {n : Nat} (pos : 0 < n)
    (within : n ≤ low) :
    readWhole (-low) high (toString (-(n : Int))) = .ok (-(n : Int)) := by
  have written : (toString (-(n : Int))).toList = '-' :: Nat.toDigits 10 n := by
    obtain ⟨m, rfl⟩ := Nat.exists_eq_succ_of_ne_zero pos.ne'
    change ("-" ++ toString (m + 1)).toList = _
    rw [String.toList_append, toList_toString]
    rfl
  rw [readWhole_of_minus written Nat.toDigits_ne_nil (by omega), takeDigits_negative_eq_ok_iff]
  simp only [neg_neg, neg_zero]
  exact takeDigits_toDigits (by omega) within

theorem readUInt64_toString (n : UInt64) : readUInt64 (toString n) = .ok n := by
  have read : readWhole 0 0xffffffffffffffff (toString n.toNat) = .ok (n.toNat : Int) :=
    readWhole_toString (le_refl 0) (Nat.le_of_lt_succ n.toNat_lt)
  change (readWhole 0 0xffffffffffffffff (toString n.toNat)).map _ = _
  rw [read]
  exact congrArg Except.ok n.ofNat_toNat

/-- Every number of 64 bits with a sign is read as it is written. -/
theorem readInt64_toString {n : Int} (low : -0x8000000000000000 ≤ n)
    (high : n ≤ 0x7fffffffffffffff) : readInt64 (toString n) = .ok n := by
  rcases lt_or_ge n 0 with below | above
  · obtain ⟨k, rfl⟩ : ∃ k : Nat, n = -(k : Int) := ⟨n.natAbs, by omega⟩
    have within : k ≤ 0x8000000000000000 := by omega
    exact readWhole_toString_neg 0x7fffffffffffffff (by omega) within
  · obtain ⟨k, rfl⟩ := Int.eq_ofNat_of_zero_le above
    exact readWhole_toString (by decide) (Int.ofNat_le.mp high)

end IngestWatch.Decimal
