import IngestWatch.Text.Blank
import IngestWatch.Text.Utf8
import Mathlib.Tactic

/-!
Texts cut at a character, and texts as bytes: the order of texts by their characters is the order
of their bytes in UTF-8, since a smaller character has the smaller first byte or, behind the same
bytes, the smaller one at the first place where the two differ. And the bytes of a text are read
as this text.
-/

namespace IngestWatch.Text

/-! ## Cuts -/

theorem cutAt?_append {mark : Char} {front : List Char} (first : mark ∉ front)
    (back : List Char) : cutAt? mark (front ++ mark :: back) = some (front, back) := by
  induction front with
  | nil => simp [cutAt?]
  | cons c rest ih =>
    rw [List.mem_cons, not_or] at first
    rw [List.cons_append, cutAt?, if_neg (Ne.symm first.1), ih first.2]
    rfl

theorem cutAt?_of_not_mem {mark : Char} {cs : List Char} (unmarked : mark ∉ cs) :
    cutAt? mark cs = none := by
  induction cs with
  | nil => rfl
  | cons c rest ih =>
    rw [List.mem_cons, not_or] at unmarked
    rw [cutAt?, if_neg (Ne.symm unmarked.1), ih unmarked.2]
    rfl

theorem splitAt_eq_splitOn (mark : Char) (cs : List Char) : splitAt mark cs = cs.splitOn mark := by
  induction cs with
  | nil => rfl
  | cons c rest ih =>
    obtain ⟨part, parts, split⟩ :=
      List.exists_cons_of_ne_nil (List.splitOnP_ne_nil (· == mark) rest)
    rw [List.splitOn, List.splitOnP_cons_eq_if_modifyHead, splitAt, ih, List.splitOn, split]
    by_cases here : c = mark
    · rw [if_pos here, if_pos (beq_iff_eq.mpr here)]
    · rw [if_neg here, if_neg (mt beq_iff_eq.mp here)]
      rfl

theorem splitAt_ne_nil (mark : Char) (cs : List Char) : splitAt mark cs ≠ [] := by
  rw [splitAt_eq_splitOn]
  exact List.splitOnP_ne_nil _ _

/-- The parts of a text are without the character that parts them. -/
theorem not_mem_of_mem_splitAt {mark : Char} {cs part : List Char}
    (inside : part ∈ splitAt mark cs) :
    mark ∉ part := by
  induction cs generalizing part with
  | nil =>
    rw [List.mem_singleton.mp inside]
    exact List.not_mem_nil
  | cons c rest ih =>
    obtain ⟨first, others, split⟩ := List.exists_cons_of_ne_nil (splitAt_ne_nil mark rest)
    rw [splitAt, split] at inside
    split at inside
    · rcases List.mem_cons.mp inside with rfl | later
      · exact List.not_mem_nil
      · exact ih (split ▸ later)
    · next other =>
      rcases List.mem_cons.mp inside with rfl | later
      · rw [List.mem_cons, not_or]
        exact ⟨Ne.symm other, ih (split ▸ List.mem_cons_self)⟩
      · exact ih (split ▸ List.mem_cons_of_mem _ later)

/-- What was joined by a character that none of the parts has is parted again. -/
theorem splitAt_intercalate {mark : Char} {parts : List (List Char)} (some : parts ≠ [])
    (unmarked : ∀ part ∈ parts, mark ∉ part) :
    splitAt mark (List.intercalate [mark] parts) = parts := by
  rw [splitAt_eq_splitOn]
  exact List.splitOn_intercalate mark unmarked some

/-! ## Bytes -/

/-- Numbers are in the order of their digits to the base 64. -/
theorem digits_lt {n m : Nat} (less : n < m) :
    n / 262144 < m / 262144 ∨ n / 262144 = m / 262144 ∧
      (n / 4096 % 64 < m / 4096 % 64 ∨ n / 4096 % 64 = m / 4096 % 64 ∧
        (n / 64 % 64 < m / 64 % 64 ∨ n / 64 % 64 = m / 64 % 64 ∧ n % 64 < m % 64)) := by
  have last {n m : Nat} (less : n < m) : n / 64 < m / 64 ∨ n / 64 = m / 64 ∧ n % 64 < m % 64 := by
    omega
  have middle (k : Nat) : k / 64 / 64 = k / 4096 := Nat.div_div_eq_div_mul k 64 64
  have front (k : Nat) : k / 4096 / 64 = k / 262144 := Nat.div_div_eq_div_mul k 4096 64
  rcases last less with less | ⟨same, fourth⟩
  · rcases last less with less | ⟨same, third⟩
    · rw [middle, middle] at less
      rcases last less with less | ⟨same, second⟩
      · exact .inl (by rwa [front, front] at less)
      · exact .inr ⟨by rwa [front, front] at same, .inl second⟩
    · rw [middle, middle] at same
      exact .inr ⟨by rw [← front, ← front, same], .inr ⟨by rw [same], .inl third⟩⟩
  · have both : n / 4096 = m / 4096 := by rw [← middle, ← middle, same]
    exact .inr ⟨by rw [← front, ← front, both], .inr ⟨by rw [both], .inr ⟨by rw [same], fourth⟩⟩⟩

theorem utf8EncodeChar_append_lt {c d : Char} (before : c < d) (x y : List UInt8) :
    String.utf8EncodeChar c ++ x < String.utf8EncodeChar d ++ y := by
  have less : c.val.toNat < d.val.toNat := before
  have bound : d.val.toNat < 0x110000 := by
    have valid : d.val.toNat < 0xd800 ∨ 0xdfff < d.val.toNat ∧ d.val.toNat < 0x110000 := d.valid
    omega
  unfold String.utf8EncodeChar
  dsimp only
  by_cases long : c.val.toNat ≤ 65535
  · split_ifs
    all_goals
      simp only [List.cons_append, List.nil_append, List.cons_lt_cons_iff, UInt8.lt_iff_toNat_lt,
        ← UInt8.toNat_inj, UInt8.toNat_ofNat']
      omega
  · -- Both have four bytes, and too many of their digits are alike for `omega` to sort them out.
    simp only [show ¬ c.val.toNat ≤ 127 by omega, show ¬ c.val.toNat ≤ 2047 by omega, long,
      show ¬ d.val.toNat ≤ 127 by omega, show ¬ d.val.toNat ≤ 2047 by omega,
      show ¬ d.val.toNat ≤ 65535 by omega, if_false, List.cons_append, List.nil_append,
      List.cons_lt_cons_iff, UInt8.lt_iff_toNat_lt, ← UInt8.toNat_inj, UInt8.toNat_ofNat']
    rcases digits_lt less with first | ⟨first, second | ⟨second, third | ⟨third, fourth⟩⟩⟩
    all_goals omega

/-- A smaller text has the smaller bytes. -/
theorem utf8Bytes_lt {a b : List Char} (before : a < b) : utf8Bytes a < utf8Bytes b := by
  induction before with
  | @nil d rest =>
    obtain ⟨first, others, bytes⟩ :=
      List.exists_cons_of_ne_nil (String.utf8EncodeChar_ne_nil (c := d))
    rw [utf8Bytes, utf8Bytes, List.flatMap_cons, bytes]
    exact List.nil_lt_cons _ _
  | rel first => exact utf8EncodeChar_append_lt first _ _
  | cons rest ih => exact List.append_left_lt ih

/-! ## Bytes read as text -/

theorem joined_eq {lead : Nat} {more : List UInt8} {c : Char}
    (number : more.foldl (fun n b => n * 64 + b.toNat % 64) lead = c.toNat) :
    joined lead more = c := by
  rw [joined, number, Char.ofNat_toNat]

section
variable {a b c d : UInt8} {rest : List UInt8}

theorem utf8Front_one (first : a.toNat < 0x80) :
    utf8Front (a :: rest) = .char (Char.ofNat a.toNat) rest := by
  simp [utf8Front, first]

theorem utf8Front_two (first : 0xC2 ≤ a.toNat ∧ a.toNat < 0xE0)
    (second : 0x80 ≤ b.toNat ∧ b.toNat ≤ 0xBF) :
    utf8Front (a :: b :: rest) = .char (joined (a.toNat % 32) [b]) rest := by
  have bounds : secondBounds a.toNat = (0x80, 0xBF) := by
    rw [secondBounds, if_neg (by omega), if_neg (by omega), if_neg (by omega), if_neg (by omega)]
  have inside : continues 0x80 0xBF b := by simp [continues, second]
  rw [utf8Front]
  dsimp only
  rw [if_neg (by omega), if_neg (by omega), bounds, if_neg (by simp [inside]), if_pos first.2]

theorem utf8Front_three (first : 0xE0 ≤ a.toNat ∧ a.toNat < 0xF0)
    (second : continues (secondBounds a.toNat).1 (secondBounds a.toNat).2 b)
    (third : 0x80 ≤ c.toNat ∧ c.toNat ≤ 0xBF) :
    utf8Front (a :: b :: c :: rest) = .char (joined (a.toNat % 16) [b, c]) rest := by
  have inside : continues 0x80 0xBF c := by simp [continues, third]
  rw [utf8Front]
  dsimp only
  rw [if_neg (by omega), if_neg (by omega), if_neg (by simp [second]), if_neg (by omega),
    if_neg (by simp [inside]), if_pos first.2]

theorem utf8Front_four (first : 0xF0 ≤ a.toNat ∧ a.toNat ≤ 0xF4)
    (second : continues (secondBounds a.toNat).1 (secondBounds a.toNat).2 b)
    (third : 0x80 ≤ c.toNat ∧ c.toNat ≤ 0xBF) (fourth : 0x80 ≤ d.toNat ∧ d.toNat ≤ 0xBF) :
    utf8Front (a :: b :: c :: d :: rest) = .char (joined (a.toNat % 8) [b, c, d]) rest := by
  have inside : continues 0x80 0xBF c := by simp [continues, third]
  have last : continues 0x80 0xBF d := by simp [continues, fourth]
  rw [utf8Front]
  dsimp only
  rw [if_neg (by omega), if_neg (by omega), if_neg (by simp [second]), if_neg (by omega),
    if_neg (by simp [inside]), if_neg (by omega), if_neg (by simp [last])]

end

/-- The bytes of a character are its own front. -/
theorem utf8Front_utf8EncodeChar (c : Char) (rest : List UInt8) :
    utf8Front (String.utf8EncodeChar c ++ rest) = .char c rest := by
  have valid : c.toNat < 0xd800 ∨ 0xdfff < c.toNat ∧ c.toNat < 0x110000 := c.valid
  have number : c.val.toNat = c.toNat := rfl
  have byte (k : Nat) (small : k < 256) : (UInt8.ofNat k).toNat = k := by
    rw [UInt8.toNat_ofNat', Nat.mod_eq_of_lt small]
  unfold String.utf8EncodeChar
  dsimp only
  rw [number]
  split_ifs with one two three
  · have first := byte c.toNat (by omega)
    refine (utf8Front_one (by omega)).trans ?_
    rw [first, Char.ofNat_toNat]
    rfl
  · have first := byte (c.toNat / 64 % 32 + 192) (by omega)
    have second := byte (c.toNat % 64 + 128) (by omega)
    refine (utf8Front_two (by omega) (by omega)).trans (congrArg (Utf8Front.char · rest) ?_)
    refine joined_eq ?_
    simp only [List.foldl_cons, List.foldl_nil, first, second]
    omega
  · have first := byte (c.toNat / 4096 % 16 + 224) (by omega)
    have second := byte (c.toNat / 64 % 64 + 128) (by omega)
    have third := byte (c.toNat % 64 + 128) (by omega)
    refine (utf8Front_three (by omega) ?_ (by omega)).trans (congrArg (Utf8Front.char · rest) ?_)
    · simp only [continues, secondBounds, first, second, Bool.and_eq_true, decide_eq_true_eq]
      split_ifs <;> omega
    · refine joined_eq ?_
      simp only [List.foldl_cons, List.foldl_nil, first, second, third]
      omega
  · have first := byte (c.toNat / 262144 % 8 + 240) (by omega)
    have second := byte (c.toNat / 4096 % 64 + 128) (by omega)
    have third := byte (c.toNat / 64 % 64 + 128) (by omega)
    have fourth := byte (c.toNat % 64 + 128) (by omega)
    refine (utf8Front_four (by omega) ?_ (by omega) (by omega)).trans
      (congrArg (Utf8Front.char · rest) ?_)
    · simp only [continues, secondBounds, first, second, Bool.and_eq_true, decide_eq_true_eq]
      split_ifs <;> omega
    · refine joined_eq ?_
      simp only [List.foldl_cons, List.foldl_nil, first, second, third, fourth]
      omega

theorem utf8Front_utf8Bytes (c : Char) (rest : List Char) :
    utf8Front (utf8Bytes (c :: rest)) = .char c (utf8Bytes rest) := by
  rw [utf8Bytes, List.flatMap_cons]
  exact utf8Front_utf8EncodeChar c _

theorem decodeFrom_utf8Bytes (onBroken : Option Char) (cs : List Char) {fuel : Nat}
    (enough : cs.length < fuel) : decodeFrom onBroken fuel (utf8Bytes cs) = some cs := by
  induction cs generalizing fuel with
  | nil =>
    obtain ⟨fuel, rfl⟩ := Nat.exists_eq_add_one.mpr enough
    rfl
  | cons c rest ih =>
    obtain ⟨fuel, rfl⟩ := Nat.exists_eq_add_one.mpr (Nat.zero_lt_of_lt enough)
    rw [decodeFrom, utf8Front_utf8Bytes]
    dsimp only
    rw [ih (Nat.lt_of_succ_lt_succ enough)]
    rfl

theorem length_le_length_utf8Bytes (cs : List Char) : cs.length ≤ (utf8Bytes cs).length := by
  induction cs with
  | nil => exact Nat.le_refl _
  | cons c rest ih =>
    have some := List.length_pos_of_ne_nil (String.utf8EncodeChar_ne_nil (c := c))
    rw [utf8Bytes, List.flatMap_cons, List.length_append, ← utf8Bytes, List.length_cons]
    omega

/-- The bytes of a text are read as this text, and none of them is broken. -/
theorem utf8DecodeLossy_utf8Bytes (cs : List Char) : utf8DecodeLossy (utf8Bytes cs) = cs := by
  have enough := Nat.lt_succ_of_le (length_le_length_utf8Bytes cs)
  rw [utf8DecodeLossy, decodeFrom_utf8Bytes _ cs enough]
  rfl

end IngestWatch.Text
