import IngestWatch.Json.Writer
import IngestWatch.Proofs.Codec.Document
import IngestWatch.Proofs.Decimal.Whole

/-!
The texts that stand for a value. Blanks may lie wherever JSON allows them, and the members of an
object may come in any order; both written forms of a value are texts of it, as long as its
numbers are given back by theirs.
-/

namespace IngestWatch.Json

open Decimal (Binary64)

/-! ## Texts of a value -/

/-- The text of a number, and what it is scanned as. -/
inductive Numeral (x : Json) : List Char → Prop where
  | plain {n : List Char} (number : Unsigned n) (takes : Takes (scanNumber false) n (some x)) :
      Numeral x n
  | negative {n : List Char} (number : Unsigned n)
      (takes : Takes (scanNumber true) n (some x)) : Numeral x ('-' :: n)

/-- The texts that stand for a value, without blanks around it. The members of an object are
`written` in some order, and none of them is left out or doubled. -/
inductive Denotes : Json → List Char → Prop where
  | null : Denotes .null ['n', 'u', 'l', 'l']
  | yes : Denotes (.bool true) ['t', 'r', 'u', 'e']
  | no : Denotes (.bool false) ['f', 'a', 'l', 's', 'e']
  | int {k : Int} {n : List Char} (numeral : Numeral (.int k) n) : Denotes (.int k) n
  | real {x : Binary64} {n : List Char} (numeral : Numeral (.real x) n) : Denotes (.real x) n
  | quoted {s : String} {body : List Char} (quoted : Quoted body) (spelled : key? body = some s) :
      Denotes (.str s) ('"' :: (body ++ ['"']))
  | emptyList {inner : List Char} (blank : Blank inner) :
      Denotes (.arr []) ('[' :: (inner ++ [']']))
  | list {values : List Json} {texts : List (List Char)} {inner : List Char}
      (items : Items texts inner) (each : List.Forall₂ Denotes values texts) :
      Denotes (.arr values) ('[' :: (inner ++ [']']))
  | object {members written : List (String × Json)} {named : List (String × List Char)}
      {raw : List (List Char × List Char)} {inner : List Char} (body : Body raw inner)
      (spelled : named? raw = some named) (keys : written.map Prod.fst = named.map Prod.fst)
      (each : List.Forall₂ Denotes (written.map Prod.snd) (named.map Prod.snd))
      (order : written.Perm members) : Denotes (.obj members) ('\x7b' :: (inner ++ ['\x7d']))

theorem Numeral.value {x : Json} {n : List Char} (numeral : Numeral x n) : Value n := by
  cases numeral with
  | plain number _ => exact .number number
  | negative number _ => exact .negative number

theorem Denotes.value {v : Json} {text : List Char} (denotes : Denotes v text) : Value text := by
  cases denotes with
  | null | yes | no => exact .word (by decide)
  | int numeral | real numeral => exact numeral.value
  | quoted quoted _ => exact .quoted quoted
  | emptyList blank => exact .emptyList blank
  | list items _ => exact .list items
  | object body _ _ _ _ =>
    cases body with
    | empty blank => exact .emptyObject blank
    | members members => exact .object members

/-- Nothing but nothing is written as `null`. -/
theorem Denotes.ne_null {v : Json} {text : List Char} (denotes : Denotes v text)
    (other : v ≠ .null) : text ≠ ['n', 'u', 'l', 'l'] := by
  rintro rfl
  generalize same : ['n', 'u', 'l', 'l'] = text at denotes
  cases denotes with
  | null => exact other rfl
  | int numeral | real numeral =>
    cases numeral with
    | plain number _ =>
      obtain ⟨c, more, rfl, digit⟩ := number.begins
      obtain rfl : 'n' = c := (List.cons.inj same).1
      exact absurd digit (by decide)
    | negative _ _ => exact absurd (List.cons.inj same).1 (by decide)
  | _ => exact absurd (List.cons.inj same).1 (by decide)

/-- A member of what is written, and the text that stands for it. -/
def Spells (written : String × Json) (named : String × List Char) : Prop :=
  written.1 = named.1 ∧ Denotes written.2 named.2

/-- A text that stands for an object is one, and spells its members out in some order. -/
theorem Denotes.spelled {members : List (String × Json)} {text : List Char}
    (denotes : Denotes (.obj members) text) :
    ∃ named written, IsObject text named ∧ written.Perm members ∧
      List.Forall₂ Spells written named := by
  cases denotes with
  | @object _ written named raw inner body spelled keys each order =>
    refine ⟨named, written, ?_, order, ?_⟩
    · have object : IsObject ([] ++ ('\x7b' :: (inner ++ ['\x7d']) ++ [])) named :=
        .mk blank_nil body blank_nil spelled
      rwa [List.nil_append, List.append_nil] at object
    · clear body spelled order
      induction written generalizing named with
      | nil =>
        obtain rfl := List.map_eq_nil_iff.mp keys.symm
        exact .nil
      | cons w written ih =>
        cases named with
        | nil => cases keys
        | cons n named =>
          obtain ⟨key, others⟩ := List.cons.inj keys
          obtain ⟨first, rest⟩ := List.forall₂_cons.mp each
          exact .cons ⟨key, first⟩ (ih others rest)

/-! ## Whole numbers -/

theorem isDigit_natChars (n : Nat) : ∀ c ∈ natChars n, isDigit c = true := by
  intro c member
  have digit := Nat.isDigit_of_mem_toDigits (by decide) (by decide) member
  simpa [isDigit] using (Decimal.isDigit_iff c).mp digit

/-- A number does not begin with a nought, unless it is none. -/
theorem natChars_begins {n : Nat} (positive : 0 < n) :
    ∃ c more, natChars n = c :: more ∧ c ≠ '0' := by
  induction n using Nat.strong_induction_on with
  | _ n ih =>
    by_cases small : n < 10
    · refine ⟨n.digitChar, [], Nat.toDigits_of_lt_base small, ?_⟩
      interval_cases n <;> decide
    · obtain ⟨c, more, front, first⟩ := ih (n / 10) (by omega) (by omega)
      refine ⟨c, more ++ [(n % 10).digitChar], ?_, first⟩
      rw [natChars, Nat.toDigits_of_base_le (by decide) (not_lt.mp small), ← natChars, front,
        List.cons_append]

theorem integer_natChars (n : Nat) : Integer (natChars n) := by
  rcases Nat.eq_zero_or_pos n with rfl | positive
  · exact .zero
  · obtain ⟨c, more, written, first⟩ := natChars_begins positive
    have digits := isDigit_natChars n
    rw [written, List.forall_mem_cons] at digits
    rw [written]
    exact .digits digits.1 first digits.2

theorem unsigned_natChars (n : Nat) : Unsigned (natChars n) := by
  have number : Unsigned (natChars n ++ ([] ++ [])) := .mk (integer_natChars n) .none .none
  rwa [List.append_nil, List.append_nil] at number

/-- Digits are taken in as long as their number fits. -/
theorem absorbDigits_of_fits {ds : List Char} (digits : ∀ d ∈ ds, isDigit d = true)
    {significand : Nat} (fits : Nat.ofDigitChars 10 ds significand < 0x10000000000000000)
    {rest : List Char} (stop : NoDigit rest) :
    absorbDigits significand (ds ++ rest) = (Nat.ofDigitChars 10 ds significand, rest) := by
  induction ds generalizing significand with
  | nil =>
    cases rest with
    | nil => rfl
    | cons c more => simp [absorbDigits, stop c rfl]
  | cons d ds ih =>
    obtain ⟨first, others⟩ := List.forall_mem_cons.mp digits
    have next : significand * 10 + digitValue d = 10 * significand + (d.toNat - '0'.toNat) := by
      rw [Nat.mul_comm]
      rfl
    rw [Nat.ofDigitChars_cons] at fits ⊢
    have grows := Decimal.le_ofDigitChars ds (10 * significand + (d.toNat - '0'.toNat))
    have room : significand * 10 + digitValue d < 0x10000000000000000 := by omega
    rw [List.cons_append, absorbDigits]
    simp only [first, room, and_self, if_true]
    rw [next]
    exact ih others fits

/-- A number that fits is read back from its digits. -/
theorem scanNumber_natChars {n : Nat} (fits : n < 0x10000000000000000) (negative : Bool)
    {rest : List Char} (delimited : Delimited rest) :
    scanNumber negative (natChars n ++ rest) = wholeNumber negative n rest := by
  have stop : NoDigit rest := delimited.noDigit
  have behind := scanAfterInteger_of_delimited negative n delimited
  rcases Nat.eq_zero_or_pos n with rfl | positive
  · rw [← behind]
    cases rest with
    | nil => rfl
    | cons c more =>
      have other : isDigit c = false := stop c rfl
      simp [natChars, scanNumber, other]
  · obtain ⟨c, more, written, first⟩ := natChars_begins positive
    have digits := isDigit_natChars n
    have same : Nat.ofDigitChars 10 (c :: more) 0 = n := by
      rw [← written]
      exact Nat.ofDigitChars_toDigits (by decide) (by decide)
    rw [written, List.forall_mem_cons] at digits
    rw [Nat.ofDigitChars_cons] at same
    have start : digitValue c = 10 * 0 + (c.toNat - '0'.toNat) := (Nat.zero_add _).symm
    have absorbed := absorbDigits_of_fits digits.2 (by rwa [same]) stop
    have none : ([] ++ rest).takeWhile isDigit = [] :=
      takeWhile_digits (List.forall_mem_nil _) stop
    rw [List.nil_append] at none
    rw [same, ← start] at absorbed
    rw [written, List.cons_append, ← behind]
    unfold scanNumber
    simp [first, digits.1, absorbed, none]

/-- Whole numbers are given back by their texts as long as 64 bits hold them. -/
theorem numeral_intChars {k : Int} (low : minInt ≤ k) (high : k ≤ maxInt) :
    Numeral (.int k) (intChars k) := by
  have fits : k.natAbs < 0x10000000000000000 := by
    simp only [minInt, maxInt] at low high
    omega
  rw [intChars]
  split
  case isTrue negative =>
    refine .negative (unsigned_natChars k.natAbs) fun rest delimited => ?_
    have inside : ¬ (k.natAbs = 0 ∨ 0x8000000000000000 < k.natAbs) := by
      simp only [minInt] at low
      omega
    have back : -(k.natAbs : Int) = k := by omega
    rw [scanNumber_natChars fits true delimited, wholeNumber]
    simp only [not_true, if_false, if_neg inside, back]
    rfl
  case isFalse positive =>
    refine .plain (unsigned_natChars k.natAbs) fun rest delimited => ?_
    have back : (k.natAbs : Int) = k := by omega
    rw [scanNumber_natChars fits false delimited, wholeNumber, back]
    rfl

/-! ## Strings -/

theorem hexValue?_hexDigit {n : Nat} (digit : n < 16) : hexValue? (hexDigit n) = some n := by
  interval_cases n <;> rfl

/-- A character inside quotes is escaped by name, escaped by number or stands for itself. -/
theorem escapeChar_cases (c : Char) :
    (∃ e ∈ ['"', '\\', '/', 'b', 'f', 'n', 'r', 't'], escapeChar c = ['\\', e] ∧
      ∀ rest, scanEscape (e :: rest) = .ok (c, rest)) ∨
    (c.toNat < 0x20 ∧ escapeChar c =
      ['\\', 'u', '0', '0', hexDigit (c.toNat / 16), hexDigit (c.toNat % 16)]) ∨
    (c ≠ '"' ∧ c ≠ '\\' ∧ ¬ c.toNat < 0x20 ∧ escapeChar c = [c]) := by
  unfold escapeChar
  split
  case isTrue same =>
    subst same
    exact .inl ⟨'"', by decide, rfl, fun _ => rfl⟩
  case isFalse noQuote =>
    split
    case isTrue same =>
      subst same
      exact .inl ⟨'\\', by decide, rfl, fun _ => rfl⟩
    case isFalse noEscape =>
      split
      case isTrue same => exact .inl ⟨'n', by decide, rfl, fun _ => same ▸ rfl⟩
      split
      case isTrue same => exact .inl ⟨'r', by decide, rfl, fun _ => same ▸ rfl⟩
      split
      case isTrue same => exact .inl ⟨'t', by decide, rfl, fun _ => same ▸ rfl⟩
      split
      case isTrue same => exact .inl ⟨'b', by decide, rfl, fun _ => same ▸ rfl⟩
      split
      case isTrue same => exact .inl ⟨'f', by decide, rfl, fun _ => same ▸ rfl⟩
      split
      case isTrue control => exact .inr (.inl ⟨control, rfl⟩)
      case isFalse noControl => exact .inr (.inr ⟨noQuote, noEscape, noControl, rfl⟩)

theorem scanHex4_hexDigits {n : Nat} (small : n < 0x100) (rest : List Char) :
    scanHex4 ('0' :: '0' :: hexDigit (n / 16) :: hexDigit (n % 16) :: rest) = .ok (n, rest) := by
  have long : ¬ byteLength ('0' :: '0' :: hexDigit (n / 16) :: hexDigit (n % 16) :: rest) < 4 := by
    have := length_le_byteLength ('0' :: '0' :: hexDigit (n / 16) :: hexDigit (n % 16) :: rest)
    simp only [List.length_cons] at this
    omega
  have nought : hexValue? '0' = some 0 := rfl
  have value : ((0 * 16 + 0) * 16 + n / 16) * 16 + n % 16 = n := by omega
  simp only [scanHex4, long, if_false, nought, hexValue?_hexDigit (show n / 16 < 16 by omega),
    hexValue?_hexDigit (show n % 16 < 16 by omega), value]

theorem quoted_escapeChar (c : Char) {rest : List Char} (more : Quoted rest) :
    Quoted (escapeChar c ++ rest) := by
  rcases escapeChar_cases c with ⟨e, known, written, -⟩ | ⟨control, written⟩ |
    ⟨noQuote, noEscape, noControl, written⟩
  · rw [written]
    exact .escape known more
  · rw [written]
    refine .code (fun x member => ?_) more
    have high := hexValue?_hexDigit (show c.toNat / 16 < 16 by omega)
    have low := hexValue?_hexDigit (show c.toNat % 16 < 16 by omega)
    simp only [List.mem_cons, List.not_mem_nil, or_false] at member
    rcases member with rfl | rfl | rfl | rfl
    · rfl
    · rfl
    · rw [high]; rfl
    · rw [low]; rfl
  · rw [written]
    exact .plain noQuote noEscape noControl more

/-- An escaped character is read back as itself. -/
theorem scanStringFrom_escapeChar (c : Char) (fuel : Nat) (rest : List Char) :
    scanStringFrom (fuel + 1) (escapeChar c ++ rest) = scanBehind c fuel rest := by
  rcases escapeChar_cases c with ⟨e, known, written, named⟩ | ⟨control, written⟩ |
    ⟨noQuote, noEscape, noControl, written⟩
  · rw [written, List.cons_append, scanStringFrom_escape, List.singleton_append, named]
    rfl
  · have digits := scanHex4_hexDigits (show c.toNat < 0x100 by omega)
    rw [written, List.cons_append, scanStringFrom_escape]
    simp only [List.cons_append, List.nil_append]
    rw [scanEscape_code digits, if_neg (by omega), if_neg (by omega), Char.ofNat_toNat]
    rfl
  · rw [written, List.singleton_append, scanStringFrom]
    simp only [noQuote, noEscape, noControl, if_false]
    rfl

theorem quoted_escaped (cs : List Char) : Quoted (cs.flatMap escapeChar) := by
  induction cs with
  | nil => exact .nil
  | cons c cs ih => exact quoted_escapeChar c ih

theorem scanStringFrom_escaped (cs rest : List Char) {fuel : Nat} (enough : cs.length < fuel) :
    scanStringFrom fuel (cs.flatMap escapeChar ++ '"' :: rest) = .ok (cs, rest) := by
  induction cs generalizing fuel with
  | nil =>
    obtain ⟨fuel, rfl⟩ := Nat.exists_eq_succ_of_ne_zero (Nat.ne_of_gt enough)
    rfl
  | cons c cs ih =>
    obtain ⟨fuel, rfl⟩ := Nat.exists_eq_succ_of_ne_zero (Nat.ne_of_gt (Nat.zero_lt_of_lt enough))
    rw [List.flatMap_cons, List.append_assoc, scanStringFrom_escapeChar, scanBehind,
      ih (Nat.lt_of_succ_lt_succ enough)]
    rfl

theorem length_le_escaped (cs : List Char) : cs.length ≤ (cs.flatMap escapeChar).length := by
  induction cs with
  | nil => exact Nat.le_refl _
  | cons c cs ih =>
    have one : 1 ≤ (escapeChar c).length := by
      rcases escapeChar_cases c with ⟨e, -, written, -⟩ | ⟨-, written⟩ | ⟨-, -, -, written⟩
      all_goals
        rw [written]
        exact Nat.succ_pos _
    rw [List.flatMap_cons, List.length_append, List.length_cons]
    omega

/-- A text is given back by what stands between its quotes. -/
theorem key?_escaped (s : String) : key? (s.toList.flatMap escapeChar) = some s := by
  have enough : s.toList.length < (s.toList.flatMap escapeChar ++ ['"']).length + 1 := by
    have := length_le_escaped s.toList
    rw [List.length_append]
    omega
  rw [key?, scanString, scanStringFrom_escaped s.toList [] enough, ok_bind]
  exact congrArg some String.ofList_toList

theorem denotes_quoted (s : String) : Denotes (.str s) (quoteChars s.toList) :=
  .quoted (quoted_escaped s.toList) (key?_escaped s)

/-! ## Layout -/

section
variable {write : Json → List Char} {lead pad trail : List Char} (front : Blank lead)
  (space : Blank pad) (back : Blank trail)
include front back

/-- Values between commas, each of them behind the same blanks. -/
theorem items_laid_out (join : List Json → List Char) (one : ∀ v, join [v] = lead ++ write v)
    (more : ∀ v w rest, join (v :: w :: rest) = lead ++ write v ++ ',' :: join (w :: rest))
    (v : Json) (values : List Json) (each : ∀ x ∈ v :: values, Value (write x)) :
    Items ((v :: values).map write) (join (v :: values) ++ trail) := by
  obtain ⟨value, others⟩ := List.forall_mem_cons.mp each
  induction values generalizing v with
  | nil =>
    rw [one, List.append_assoc]
    exact .last front value back
  | cons w rest ih =>
    have behind := ih w others (others w List.mem_cons_self)
      (List.forall_mem_cons.mp others).2
    rw [more, List.append_assoc, List.append_assoc, List.cons_append]
    exact .more front value blank_nil behind

theorem denotes_list (join : List Json → List Char) (one : ∀ v, join [v] = lead ++ write v)
    (more : ∀ v w rest, join (v :: w :: rest) = lead ++ write v ++ ',' :: join (w :: rest))
    (v : Json) (values : List Json) (each : ∀ x ∈ v :: values, Denotes x (write x)) :
    Denotes (.arr (v :: values)) ('[' :: (join (v :: values) ++ trail ++ [']'])) := by
  have items := items_laid_out front back join one more v values fun x member =>
    (each x member).value
  exact .list items (List.forall₂_map_right_iff.mpr (List.forall₂_same.mpr each))

include space

/-- Members between commas, with the same blanks behind each colon. -/
theorem members_laid_out (join : List (String × Json) → List Char)
    (one : ∀ m, join [m] = lead ++ quoteChars m.1.toList ++ ':' :: (pad ++ write m.2))
    (more : ∀ m n rest, join (m :: n :: rest) =
      lead ++ quoteChars m.1.toList ++ ':' :: (pad ++ write m.2) ++ ',' :: join (n :: rest))
    (m : String × Json) (members : List (String × Json))
    (each : ∀ x ∈ m :: members, Value (write x.2)) :
    Members ((m :: members).map fun x => (x.1.toList.flatMap escapeChar, write x.2))
      (join (m :: members) ++ trail) := by
  obtain ⟨value, others⟩ := List.forall_mem_cons.mp each
  have quoted : Quoted (m.1.toList.flatMap escapeChar) := quoted_escaped m.1.toList
  induction members generalizing m with
  | nil =>
    rw [one, quoteChars]
    simp only [List.append_assoc, List.cons_append, List.nil_append]
    exact .last front quoted blank_nil space value back
  | cons n rest ih =>
    have behind := ih n others (others n List.mem_cons_self)
      (List.forall_mem_cons.mp others).2 (quoted_escaped n.1.toList)
    rw [more, quoteChars]
    simp only [List.append_assoc, List.cons_append, List.nil_append]
    exact .more front quoted blank_nil space value blank_nil behind

omit front space back in
theorem named?_escaped (members : List (String × Json)) :
    named? (members.map fun x => (x.1.toList.flatMap escapeChar, write x.2)) =
      some (members.map fun x => (x.1, write x.2)) := by
  induction members with
  | nil => rfl
  | cons m members ih =>
    rw [named?] at ih ⊢
    rw [List.map_cons, List.mapM_cons, ih, key?_escaped]
    rfl

theorem denotes_object (join : List (String × Json) → List Char)
    (one : ∀ m, join [m] = lead ++ quoteChars m.1.toList ++ ':' :: (pad ++ write m.2))
    (more : ∀ m n rest, join (m :: n :: rest) =
      lead ++ quoteChars m.1.toList ++ ':' :: (pad ++ write m.2) ++ ',' :: join (n :: rest))
    (m : String × Json) (members : List (String × Json))
    (each : ∀ x ∈ m :: members, Denotes x.2 (write x.2)) :
    Denotes (.obj (m :: members)) ('\x7b' :: (join (m :: members) ++ trail ++ ['\x7d'])) := by
  have laid := members_laid_out front space back join one more m members fun x member =>
    (each x member).value
  refine .object (.members laid) (named?_escaped (m :: members)) ?_ ?_ (.refl _)
  · rw [List.map_map]
    rfl
  · rw [List.map_map, List.forall₂_map_left_iff, List.forall₂_map_right_iff]
    exact List.forall₂_same.mpr each

end

/-! ## Both written forms -/

/-- Every number of the value is given back by its text. -/
inductive Exact : Json → Prop where
  | null : Exact .null
  | bool (b : Bool) : Exact (.bool b)
  | int {k : Int} (low : minInt ≤ k) (high : k ≤ maxInt) : Exact (.int k)
  | real {x : Binary64} (numeral : Numeral (.real x) (realChars x)) : Exact (.real x)
  | str (s : String) : Exact (.str s)
  | arr {items : List Json} (each : ∀ v ∈ items, Exact v) : Exact (.arr items)
  | obj {members : List (String × Json)} (each : ∀ m ∈ members, Exact m.2) : Exact (.obj members)

theorem blank_breakLine (level : Nat) : Blank (breakLine level) := by
  intro c member
  rcases List.mem_cons.mp member with rfl | inside
  · rfl
  · obtain rfl := List.eq_of_mem_replicate inside
    rfl

/-- The compact form is a text of the value. -/
theorem Exact.denotes_compact {v : Json} (exact : Exact v) : Denotes v (compactChars v) := by
  induction exact with
  | null => exact .null
  | bool b =>
    cases b with
    | false => exact .no
    | true => exact .yes
  | int low high => exact .int (numeral_intChars low high)
  | real numeral => exact .real numeral
  | str s => exact denotes_quoted s
  | @arr items _ ih =>
    cases items with
    | nil => exact .emptyList blank_nil
    | cons v rest =>
      have list := denotes_list blank_nil blank_nil compactItems (fun _ => rfl)
        (fun _ _ _ => rfl) v rest ih
      rwa [List.append_nil] at list
  | @obj members _ ih =>
    cases members with
    | nil => exact .object (.empty blank_nil) rfl rfl .nil .nil
    | cons m rest =>
      have object := denotes_object blank_nil blank_nil blank_nil compactMembers
        (fun _ => rfl) (fun _ _ _ => rfl) m rest ih
      rwa [List.append_nil] at object

/-- The indented form is a text of the value. -/
theorem Exact.denotes_pretty {v : Json} (exact : Exact v) (level : Nat) :
    Denotes v (prettyChars level v) := by
  induction exact generalizing level with
  | null => exact Exact.null.denotes_compact
  | bool b => exact (Exact.bool b).denotes_compact
  | int low high => exact (Exact.int low high).denotes_compact
  | real numeral => exact (Exact.real numeral).denotes_compact
  | str s => exact (Exact.str s).denotes_compact
  | @arr items _ ih =>
    cases items with
    | nil => exact .emptyList blank_nil
    | cons v rest =>
      exact denotes_list (blank_breakLine (level + 1)) (blank_breakLine level)
        (prettyItems (level + 1)) (fun _ => rfl) (fun _ _ _ => rfl) v rest
        fun x member => ih x member (level + 1)
  | @obj members _ ih =>
    cases members with
    | nil => exact .object (.empty blank_nil) rfl rfl .nil .nil
    | cons m rest =>
      have space : Blank [' '] := List.forall_mem_singleton.mpr rfl
      exact denotes_object (blank_breakLine (level + 1)) space (blank_breakLine level)
        (prettyMembers (level + 1)) (fun _ => rfl) (fun _ _ _ => rfl) m rest
        fun x member => ih x member (level + 1)

end IngestWatch.Json
