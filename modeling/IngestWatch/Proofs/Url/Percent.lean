import IngestWatch.Url.Percent
import Mathlib.Tactic

/-!
Percent-coding loses nothing and lets nothing through. A coded value is made of unreserved
characters and escapes alone, so it holds none of the characters by which a query is taken
apart; and it decodes to the text it was made of, whatever that is.
-/

namespace IngestWatch.Url

/-- A capital hexadecimal digit, as escapes are written with. -/
def isEscapeDigit (c : Char) : Bool :=
  c.isDigit || ('A' ≤ c && c ≤ 'F')

/-- Unreserved characters and escapes, one after the other. -/
inductive Coded : List Char → Prop where
  | nil : Coded []
  | plain {c : Char} {rest : List Char} (unreserved : isUnreserved c = true)
      (more : Coded rest) : Coded (c :: rest)
  | escape {high low : Char} {rest : List Char} (first : isEscapeDigit high = true)
      (second : isEscapeDigit low = true) (more : Coded rest) :
      Coded ('%' :: high :: low :: rest)

namespace Coded

theorem append {front back : List Char} (first : Coded front) (second : Coded back) :
    Coded (front ++ back) := by
  induction first with
  | nil => exact second
  | plain unreserved _ ih => exact .plain unreserved ih
  | escape high low _ ih => exact .escape high low ih

theorem flatMap {α : Type} {f : α → List Char} {items : List α}
    (each : ∀ x ∈ items, Coded (f x)) : Coded (items.flatMap f) := by
  induction items with
  | nil => exact .nil
  | cons x rest ih =>
    rw [List.flatMap_cons]
    exact (each x List.mem_cons_self).append (ih fun y member => each y (.tail _ member))

end Coded

theorem isAlphanum_eq (c : Char) :
    c.isAlphanum = (c.isUpper || c.isLower || c.isDigit) := rfl

theorem isUnreserved_of_isEscapeDigit {c : Char} (digit : isEscapeDigit c = true) :
    isUnreserved c = true := by
  have alphanumeric : c.isAlphanum = true := by
    rw [isEscapeDigit, Bool.or_eq_true, Bool.and_eq_true, decide_eq_true_eq,
      decide_eq_true_eq] at digit
    rcases digit with number | ⟨low, high⟩
    · rw [isAlphanum_eq, number, Bool.or_true]
    · have inside : 'F'.val ≤ 'Z'.val := by decide
      have bounds : 'A'.val ≤ c.val ∧ c.val ≤ 'Z'.val := ⟨low, UInt32.le_trans high inside⟩
      have upper : c.isUpper = true := decide_eq_true bounds
      rw [isAlphanum_eq, upper, Bool.true_or, Bool.true_or]
  simp [isUnreserved, alphanumeric]

/-- Unreserved characters are ASCII characters. -/
theorem toNat_lt_of_isUnreserved {c : Char} (unreserved : isUnreserved c = true) :
    c.toNat < 128 := by
  simp only [isUnreserved, Bool.or_eq_true, decide_eq_true_eq] at unreserved
  rcases unreserved with ((((letterOrDigit | rfl) | rfl) | rfl) | rfl)
  · change (decide (65 ≤ c.toNat ∧ c.toNat ≤ 90) ||
      (decide (97 ≤ c.toNat) && decide (c.toNat ≤ 122)) ||
      (decide (48 ≤ c.toNat) && decide (c.toNat ≤ 57))) = true at letterOrDigit
    simp only [Bool.or_eq_true, Bool.and_eq_true, decide_eq_true_eq] at letterOrDigit
    omega
  all_goals decide

/-- What is unreserved stands for itself, and `%` is the only other character. -/
theorem Coded.isUnreserved_or_mark {cs : List Char} (coded : Coded cs) :
    ∀ c ∈ cs, isUnreserved c = true ∨ c = '%' := by
  induction coded with
  | nil => simp
  | plain unreserved _ ih =>
    intro d member
    rcases List.mem_cons.mp member with rfl | later
    · exact Or.inl unreserved
    · exact ih d later
  | escape high low _ ih =>
    intro d member
    rcases List.mem_cons.mp member with rfl | rest
    · exact Or.inr rfl
    rcases List.mem_cons.mp rest with rfl | rest
    · exact Or.inl (isUnreserved_of_isEscapeDigit high)
    rcases List.mem_cons.mp rest with rfl | rest
    · exact Or.inl (isUnreserved_of_isEscapeDigit low)
    · exact ih d rest

/-- A character that is neither unreserved nor `%` does not get into a coded value. -/
theorem Coded.not_mem {cs : List Char} (coded : Coded cs) {c : Char}
    (reserved : isUnreserved c = false) (noMark : c ≠ '%') : c ∉ cs := by
  intro member
  rcases coded.isUnreserved_or_mark c member with unreserved | mark
  · rw [reserved] at unreserved
    cases unreserved
  · exact noMark mark

theorem isEscapeDigit_hexDigit : ∀ n < 16, isEscapeDigit (hexDigit n) = true := by
  decide

theorem hexValue?_hexDigit : ∀ n < 16, hexValue? (hexDigit n) = some n := by
  decide

theorem coded_percentByte (b : UInt8) : Coded (percentByte b) := by
  have bound : b.toNat < 256 := b.toNat_lt
  exact .escape (isEscapeDigit_hexDigit _ (by omega)) (isEscapeDigit_hexDigit _ (by omega)) .nil

theorem coded_encodeValue (s : String) : Coded (encodeValue s).toList := by
  rw [encodeValue, String.toList_ofList]
  refine Coded.flatMap fun c _ => ?_
  rw [percentChar]
  split
  · next unreserved => exact .plain unreserved .nil
  · exact Coded.flatMap fun b _ => coded_percentByte b

/-- A text that is unreserved throughout is its own coded form. -/
theorem encodeValue_eq_self {s : String} (unreserved : ∀ c ∈ s.toList, isUnreserved c = true) :
    encodeValue s = s := by
  have each : s.toList.flatMap (percentChar isUnreserved) = s.toList.flatMap fun c => [c] :=
    List.flatMap_congr fun c member => if_pos (unreserved c member)
  rw [encodeValue, each, List.flatMap_singleton', String.ofList_toList]

/-! ## Decoding -/

theorem percentDecode_cons {c : Char} (noMark : c ≠ '%') (rest : List Char) :
    percentDecode (c :: rest) = String.utf8EncodeChar c ++ percentDecode rest := by
  match rest with
  | [] => simp [percentDecode]
  | [d] => simp [percentDecode]
  | h :: l :: rest => rw [percentDecode, if_neg noMark]

theorem percentDecode_percentByte (b : UInt8) (rest : List Char) :
    percentDecode (percentByte b ++ rest) = b :: percentDecode rest := by
  have bound : b.toNat < 256 := b.toNat_lt
  have whole : b.toNat / 16 * 16 + b.toNat % 16 = b.toNat := by omega
  have high := hexValue?_hexDigit (b.toNat / 16) (by omega)
  have low := hexValue?_hexDigit (b.toNat % 16) (by omega)
  simp only [percentByte, List.cons_append, List.nil_append, percentDecode, if_true, high, low,
    whole, UInt8.ofNat_toNat]

theorem percentDecode_bytes (bytes : List UInt8) (rest : List Char) :
    percentDecode (bytes.flatMap percentByte ++ rest) = bytes ++ percentDecode rest := by
  induction bytes with
  | nil => rfl
  | cons b more ih =>
    rw [List.flatMap_cons, List.append_assoc, percentDecode_percentByte, ih, List.cons_append]

/-- Whichever characters are left as they are, `%` apart, decoding gives the bytes back. -/
theorem percentDecode_chars {keep : Char → Bool} (noMark : keep '%' = false) (cs : List Char) :
    percentDecode (cs.flatMap (percentChar keep)) = cs.flatMap String.utf8EncodeChar := by
  induction cs with
  | nil => rfl
  | cons c rest ih =>
    rw [List.flatMap_cons, List.flatMap_cons, ← ih, percentChar]
    split
    · next kept =>
      have other : c ≠ '%' := by
        rintro rfl
        rw [noMark] at kept
        cases kept
      exact percentDecode_cons other _
    · exact percentDecode_bytes _ _

/-- The text a coded value stands for, if its bytes are those of a text. -/
def decodeValue? (s : String) : Option String :=
  String.fromUTF8? (percentDecode s.toList).toByteArray

/-- Coding loses nothing: every text comes back. -/
theorem decodeValue?_encodeValue (s : String) : decodeValue? (encodeValue s) = some s := by
  have bytes : (s.toList.flatMap String.utf8EncodeChar).toByteArray = s.toByteArray :=
    String.utf8Encode_toList
  rw [decodeValue?, encodeValue, String.toList_ofList, percentDecode_chars (by decide), bytes]
  exact dif_pos s.isValidUTF8

end IngestWatch.Url
