import IngestWatch.Json.Reader
import IngestWatch.Json.Skip
import IngestWatch.Proofs.Outcome
import Mathlib.Data.List.DropRight

/-!
The texts of JSON, laid down apart from all that reads them, and what it is to take one of them
off the front of a text: nothing of what follows has a say in it. Passing over a value takes
exactly that value, whatever it is.
-/

namespace IngestWatch.Json

/-! ## The texts -/

def Blank (cs : List Char) : Prop :=
  ∀ c ∈ cs, isBlank c = true

theorem blank_nil : Blank [] := by
  rintro _ ⟨⟩

def Digits (cs : List Char) : Prop :=
  cs ≠ [] ∧ ∀ c ∈ cs, isDigit c = true

/-- The digits before the point: a nought alone, or digits that do not begin with one. -/
inductive Integer : List Char → Prop where
  | zero : Integer ['0']
  | digits {c : Char} {more : List Char} (first : isDigit c = true) (notZero : c ≠ '0')
      (rest : ∀ d ∈ more, isDigit d = true) : Integer (c :: more)

inductive Fraction : List Char → Prop where
  | none : Fraction []
  | point {ds : List Char} (digits : Digits ds) : Fraction ('.' :: ds)

inductive Exponent : List Char → Prop where
  | none : Exponent []
  | mark {c : Char} {sign ds : List Char} (mark : c = 'e' ∨ c = 'E')
      (signed : sign = [] ∨ sign = ['+'] ∨ sign = ['-']) (digits : Digits ds) :
      Exponent (c :: (sign ++ ds))

/-- A number without its sign. -/
inductive Unsigned : List Char → Prop where
  | mk {whole fraction exponent : List Char} (before : Integer whole) (point : Fraction fraction)
      (scale : Exponent exponent) : Unsigned (whole ++ (fraction ++ exponent))

/-- What may stand between quotes. An escape may name half of a surrogate pair. -/
inductive Quoted : List Char → Prop where
  | nil : Quoted []
  | plain {c : Char} {rest : List Char} (noQuote : c ≠ '"') (noEscape : c ≠ '\\')
      (noControl : ¬ c.toNat < 0x20) (more : Quoted rest) : Quoted (c :: rest)
  | escape {c : Char} {rest : List Char}
      (known : c ∈ ['"', '\\', '/', 'b', 'f', 'n', 'r', 't']) (more : Quoted rest) :
      Quoted ('\\' :: c :: rest)
  | code {a b c d : Char} {rest : List Char} (hex : ∀ x ∈ [a, b, c, d], (hexValue? x).isSome)
      (more : Quoted rest) : Quoted ('\\' :: 'u' :: a :: b :: c :: d :: rest)

mutual

/-- The text of a value, without blanks around it. -/
inductive Value : List Char → Prop where
  | word {w : List Char}
      (known : w ∈ [['n', 'u', 'l', 'l'], ['t', 'r', 'u', 'e'], ['f', 'a', 'l', 's', 'e']]) :
      Value w
  | number {n : List Char} (number : Unsigned n) : Value n
  | negative {n : List Char} (number : Unsigned n) : Value ('-' :: n)
  | quoted {body : List Char} (quoted : Quoted body) : Value ('"' :: (body ++ ['"']))
  | emptyList {inner : List Char} (blank : Blank inner) : Value ('[' :: (inner ++ [']']))
  | list {items : List (List Char)} {inner : List Char} (items : Items items inner) :
      Value ('[' :: (inner ++ [']']))
  | emptyObject {inner : List Char} (blank : Blank inner) : Value ('\x7b' :: (inner ++ ['\x7d']))
  | object {members : List (List Char × List Char)} {inner : List Char}
      (members : Members members inner) : Value ('\x7b' :: (inner ++ ['\x7d']))

/-- The texts of values between commas. -/
inductive Items : List (List Char) → List Char → Prop where
  | last {v before after : List Char} (front : Blank before) (value : Value v)
      (back : Blank after) : Items [v] (before ++ (v ++ after))
  | more {v before after text : List Char} {items : List (List Char)} (front : Blank before)
      (value : Value v) (back : Blank after) (others : Items items text) :
      Items (v :: items) (before ++ (v ++ (after ++ ',' :: text)))

/-- The texts of keys, as they stand between quotes, and of the values behind their colons. -/
inductive Members : List (List Char × List Char) → List Char → Prop where
  | last {key v before between padding after : List Char} (front : Blank before)
      (quoted : Quoted key) (middle : Blank between) (space : Blank padding) (value : Value v)
      (back : Blank after) :
      Members [(key, v)]
        (before ++ '"' :: (key ++ '"' :: (between ++ ':' :: (padding ++ (v ++ after)))))
  | more {key v before between padding after text : List Char}
      {members : List (List Char × List Char)} (front : Blank before) (quoted : Quoted key)
      (middle : Blank between) (space : Blank padding) (value : Value v) (back : Blank after)
      (others : Members members text) :
      Members ((key, v) :: members)
        (before ++ '"' :: (key ++ '"' :: (between ++ ':' ::
          (padding ++ (v ++ (after ++ ',' :: text))))))

end

theorem quoted_of_plain {body : List Char}
    (plain : body.all (fun c => c ≠ '"' ∧ c ≠ '\\' ∧ ¬ c.toNat < 0x20) = true) :
    Quoted body := by
  induction body with
  | nil => exact .nil
  | cons c rest ih =>
    rw [List.all_cons, Bool.and_eq_true, decide_eq_true_eq] at plain
    obtain ⟨⟨noQuote, noEscape, noControl⟩, others⟩ := plain
    exact .plain noQuote noEscape noControl (ih others)

/-! ## What a value begins with -/

theorem Unsigned.begins {n : List Char} (number : Unsigned n) :
    ∃ c more, n = c :: more ∧ isDigit c = true := by
  obtain @⟨whole, fraction, exponent, before, f, e⟩ := number
  cases before with
  | zero => exact ⟨'0', _, rfl, rfl⟩
  | digits first _ _ => exact ⟨_, _, rfl, first⟩

theorem Unsigned.starts {n : List Char} (number : Unsigned n) :
    ∃ more, n = '0' :: more ∨ n = '1' :: more ∨ n = '2' :: more ∨ n = '3' :: more ∨
      n = '4' :: more ∨ n = '5' :: more ∨ n = '6' :: more ∨ n = '7' :: more ∨ n = '8' :: more ∨
      n = '9' :: more := by
  obtain ⟨c, more, rfl, digit⟩ := number.begins
  refine ⟨more, ?_⟩
  simp only [isDigit, Bool.and_eq_true, decide_eq_true_eq] at digit
  have low : 48 ≤ c.toNat := digit.1
  have high : c.toNat ≤ 57 := digit.2
  rw [← Char.ofNat_toNat c]
  generalize c.toNat = n at low high
  interval_cases n <;> simp

theorem isBlank_of_digit {c : Char} (digit : isDigit c = true) : isBlank c = false := by
  by_contra blank
  simp only [isBlank, Bool.not_eq_false, Bool.or_eq_true, decide_eq_true_eq] at blank
  rcases blank with ((rfl | rfl) | rfl) | rfl <;> exact absurd digit (by decide)

theorem ne_of_digit {c mark : Char} (digit : isDigit c = true) (other : isDigit mark = false) :
    c ≠ mark := by
  rintro rfl
  exact Bool.eq_false_iff.mp other digit

theorem Value.begins {v : List Char} (value : Value v) :
    ∃ c more, v = c :: more ∧ isBlank c = false ∧ c ≠ ',' ∧ c ≠ ']' ∧ c ≠ '\x7d' := by
  cases value with
  | word known =>
    simp only [List.mem_cons, List.not_mem_nil, or_false] at known
    rcases known with rfl | rfl | rfl <;> exact ⟨_, _, rfl, by decide⟩
  | number number =>
    obtain ⟨c, more, same, first⟩ := number.begins
    exact ⟨c, more, same, isBlank_of_digit first, ne_of_digit first rfl, ne_of_digit first rfl,
      ne_of_digit first rfl⟩
  | _ => exact ⟨_, _, rfl, by decide⟩

theorem Value.length_pos {v : List Char} (value : Value v) : 0 < v.length := by
  obtain ⟨c, more, rfl, -⟩ := value.begins
  exact Nat.succ_pos _

theorem Items.begins {items : List (List Char)} {inner : List Char} (list : Items items inner) :
    ∃ before c more, inner = before ++ c :: more ∧ Blank before ∧ isBlank c = false ∧ c ≠ ']' := by
  cases list with
  | last front value _ | more front value _ _ =>
    obtain ⟨c, more, rfl, solid, -, bracket, -⟩ := value.begins
    exact ⟨_, c, _, rfl, front, solid, bracket⟩

theorem Members.begins {members : List (List Char × List Char)} {inner : List Char}
    (object : Members members inner) :
    ∃ before more, inner = before ++ '"' :: more ∧ Blank before := by
  cases object with
  | last front _ _ _ _ _ | more front _ _ _ _ _ _ => exact ⟨_, _, rfl, front⟩

/-! ## What may follow a value -/

def Delimited (rest : List Char) : Prop :=
  ∀ c ∈ rest.head?, isBlank c = true ∨ c = ',' ∨ c = ']' ∨ c = '\x7d'

theorem delimited_nil : Delimited [] := by
  rintro _ ⟨⟩

theorem delimited_append {blanks rest : List Char} (blank : Blank blanks)
    (delimited : Delimited rest) : Delimited (blanks ++ rest) := by
  cases blanks with
  | nil => exact delimited
  | cons b more =>
    rintro c ⟨⟩
    exact Or.inl (blank b List.mem_cons_self)

theorem delimited_mark {c : Char} (mark : c ∈ [',', ']', '\x7d']) (rest : List Char) :
    Delimited (c :: rest) := by
  simp only [List.mem_cons, List.not_mem_nil, or_false] at mark
  rintro _ ⟨⟩
  exact Or.inr mark

/-- A delimiter does not go on with a number. -/
theorem Delimited.ends {c : Char} {rest : List Char} (delimited : Delimited (c :: rest)) :
    isDigit c = false ∧ c ≠ '.' ∧ c ≠ 'e' ∧ c ≠ 'E' := by
  have kinds := delimited c rfl
  simp only [isBlank, Bool.or_eq_true, decide_eq_true_eq] at kinds
  rcases kinds with (((rfl | rfl) | rfl) | rfl) | rfl | rfl | rfl
  all_goals decide

/-! ## Blanks -/

section
variable {blanks : List Char} (blank : Blank blanks)
include blank

theorem skipBlanks_append (rest : List Char) : skipBlanks (blanks ++ rest) = skipBlanks rest :=
  List.dropWhile_append_of_pos blank

theorem skipBlanks_of_blank : skipBlanks blanks = [] := by
  have none := skipBlanks_append blank []
  rwa [List.append_nil] at none

theorem skipBlanks_mark {c : Char} (solid : isBlank c = false) (rest : List Char) :
    skipBlanks (blanks ++ c :: rest) = c :: rest := by
  rw [skipBlanks_append blank]
  exact List.dropWhile_cons_of_neg (by simp [solid])

theorem skipBlanks_value {v : List Char} (value : Value v) (rest : List Char) :
    skipBlanks (blanks ++ (v ++ rest)) = v ++ rest := by
  obtain ⟨c, more, rfl, solid, -⟩ := value.begins
  exact skipBlanks_mark blank solid (more ++ rest)

end

theorem skipBlanks_skipBlanks (cs : List Char) : skipBlanks (skipBlanks cs) = skipBlanks cs :=
  List.dropWhile_idempotent _ _

/-! ## Taking a text off the front -/

/-- A scanner takes a text off the front: whatever may follow the text is left, and nothing of
it has a say in what is read. -/
def Takes {β : Type} (scan : List Char → Reading (β × List Char)) (text : List Char)
    (value : Option β) : Prop :=
  ∀ rest, Delimited rest → (scan (text ++ rest)).toOption = value.map (·, rest)

section
variable {β : Type} {scan : List Char → Reading (β × List Char)} {text : List Char}

/-- What a scanner reads of a text alone, if it reads all of it. -/
def whole? (scan : List Char → Reading (β × List Char)) (text : List Char) : Option β :=
  (finish (scan text)).toOption

theorem Takes.whole? {value : Option β} (takes : Takes scan text value) {after : List Char}
    (blank : Blank after) : whole? scan (text ++ after) = value := by
  have delimited : Delimited after := by simpa using delimited_append blank delimited_nil
  have read := takes after delimited
  unfold Json.whole?
  cases reading : scan (text ++ after) with
  | error fault =>
    rw [reading] at read
    cases value with
    | none => rfl
    | some x => cases read
  | ok result =>
    obtain ⟨x, rest⟩ := result
    rw [reading] at read
    cases value with
    | none => cases read
    | some y =>
      obtain ⟨rfl, rfl⟩ := Prod.mk.inj (Option.some.inj read)
      simp only [finish, ok_bind, skipBlanks_of_blank blank]
      rfl

theorem Takes.alone {value : Option β} (takes : Takes scan text value) :
    Json.whole? scan text = value := by
  have read := takes.whole? blank_nil
  rwa [List.append_nil] at read

end

end IngestWatch.Json
