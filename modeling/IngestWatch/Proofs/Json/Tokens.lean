import IngestWatch.Proofs.Json.Written

/-!
What the scanners read is what the grammar lays down, and nothing else. Where a number was read, a
number of the grammar stands in front of what is left; and a string is read if and only if its
characters are spelled out, one after the other, before the next quote.
-/

namespace IngestWatch.Json

/-- A scanner reads nothing but texts of one shape, and leaves what stands behind them. -/
def ReadsOnly {β : Type} (shape : List Char → Prop)
    (scan : List Char → Reading (β × List Char)) : Prop :=
  ∀ {cs : List Char} {x : β} {rest : List Char}, scan cs = .ok (x, rest) →
    ∃ text, cs = text ++ rest ∧ shape text

theorem exists_blanks (cs : List Char) : ∃ before, Blank before ∧ cs = before ++ skipBlanks cs :=
  ⟨cs.takeWhile isBlank, fun _ => List.mem_takeWhile_imp, List.takeWhile_append_dropWhile.symm⟩

theorem scanWord_eq_ok {w cs rest : List Char} (read : scanWord w cs = .ok rest) :
    cs = w ++ rest := by
  induction w generalizing cs with
  | nil => exact Except.ok.inj read
  | cons c w ih =>
    cases cs with
    | nil => cases read
    | cons d cs =>
      rw [scanWord] at read
      split at read
      · next same => rw [same, ih read, List.cons_append]
      · cases read

/-! ## Numbers -/

def AllDigits (cs : List Char) : Prop :=
  ∀ d ∈ cs, isDigit d = true

theorem dropWhile_isDigit (cs : List Char) :
    ∃ ds, cs = ds ++ cs.dropWhile isDigit ∧ AllDigits ds :=
  ⟨cs.takeWhile isDigit, List.takeWhile_append_dropWhile.symm, fun _ => List.mem_takeWhile_imp⟩

theorem absorbDigits_spent (significand : Nat) (cs : List Char) :
    ∃ ds, cs = ds ++ (absorbDigits significand cs).2 ∧ AllDigits ds := by
  induction cs generalizing significand with
  | nil => exact ⟨[], rfl, List.forall_mem_nil _⟩
  | cons c cs ih =>
    rw [absorbDigits]
    split
    · next absorbed =>
      obtain ⟨ds, spent, digits⟩ := ih (significand * 10 + digitValue c)
      exact ⟨c :: ds, congrArg (c :: ·) spent, List.forall_mem_cons.mpr ⟨absorbed.1, digits⟩⟩
    · exact ⟨[], rfl, List.forall_mem_nil _⟩

section
variable (negative : Bool) (significand : Nat) (start : Int)

theorem finishReal_leaves {exponent : Int} {cs rest : List Char} {x : Json}
    (read : finishReal negative significand exponent cs = .ok (x, rest)) : cs = rest := by
  rw [finishReal] at read
  split at read
  · exact (Prod.mk.inj (Except.ok.inj read)).2
  · cases read

theorem scanExponentDigits_only (up : Bool) (exponent : Nat) :
    ReadsOnly AllDigits (scanExponentDigits negative significand start up exponent) := by
  intro cs x rest read
  induction cs generalizing exponent with
  | nil =>
    obtain rfl := finishReal_leaves negative significand read
    exact ⟨[], rfl, List.forall_mem_nil _⟩
  | cons c cs ih =>
    rw [scanExponentDigits] at read
    split at read
    · next digit =>
      dsimp only at read
      split at read
      · obtain ⟨ds, spent, digits⟩ := ih _ read
        exact ⟨c :: ds, congrArg (c :: ·) spent, List.forall_mem_cons.mpr ⟨digit, digits⟩⟩
      · split at read
        · cases read
        · obtain ⟨-, rfl⟩ := Prod.mk.inj (Except.ok.inj read)
          obtain ⟨ds, spent, digits⟩ := dropWhile_isDigit cs
          exact ⟨c :: ds, congrArg (c :: ·) spent, List.forall_mem_cons.mpr ⟨digit, digits⟩⟩
    · obtain rfl := finishReal_leaves negative significand read
      exact ⟨[], rfl, List.forall_mem_nil _⟩

/-- The digits of an exponent behind its sign. -/
def Signed (text : List Char) : Prop :=
  ∃ sign ds, text = sign ++ ds ∧ (sign = [] ∨ sign = ['+'] ∨ sign = ['-']) ∧ Digits ds

/-- An exponent behind its sign. -/
def scanUnsignedExponent (up : Bool) : List Char → Reading (Json × List Char)
  | [] => .error (Cause.endInValue.before [])
  | c :: rest =>
    if isDigit c then scanExponentDigits negative significand start up (digitValue c) rest
    else .error (Cause.badNumber.within (c :: rest))

theorem scanExponent_sign (cs : List Char) :
    ∃ sign behind up, cs = sign ++ behind ∧ (sign = [] ∨ sign = ['+'] ∨ sign = ['-']) ∧
      scanExponent negative significand start cs =
        scanUnsignedExponent negative significand start up behind := by
  cases cs with
  | nil => exact ⟨[], [], true, rfl, .inl rfl, rfl⟩
  | cons c more =>
    by_cases plus : c = '+'
    · subst plus
      exact ⟨['+'], more, true, rfl, .inr (.inl rfl), rfl⟩
    by_cases minus : c = '-'
    · subst minus
      exact ⟨['-'], more, false, rfl, .inr (.inr rfl), rfl⟩
    · exact ⟨[], c :: more, true, rfl, .inl rfl,
        by simp [scanExponent, scanUnsignedExponent, plus, minus]⟩

theorem scanExponent_only : ReadsOnly Signed (scanExponent negative significand start) := by
  intro cs x rest read
  obtain ⟨sign, behind, up, rfl, signed, opened⟩ :=
    scanExponent_sign negative significand start cs
  rw [opened] at read
  unfold scanUnsignedExponent at read
  split at read
  · cases read
  · next c more =>
    split at read
    · next digit =>
      obtain ⟨ds, rfl, digits⟩ := scanExponentDigits_only negative significand start _ _ read
      refine ⟨sign ++ c :: ds, ?_, sign, c :: ds, rfl, signed, List.cons_ne_nil _ _,
        List.forall_mem_cons.mpr ⟨digit, digits⟩⟩
      rw [List.append_assoc, List.cons_append]
    · cases read

theorem exponent_of_signed {c : Char} {text : List Char} (mark : c = 'e' ∨ c = 'E')
    (signed : Signed text) : Exponent (c :: text) := by
  obtain ⟨sign, ds, rfl, signed, digits⟩ := signed
  exact .mark mark signed digits

theorem scanExponent?_only : ReadsOnly Exponent (scanExponent? negative significand start) := by
  intro cs x rest read
  unfold scanExponent? at read
  split at read
  · obtain ⟨text, rfl, signed⟩ := scanExponent_only negative significand start read
    exact ⟨'e' :: text, rfl, exponent_of_signed (.inl rfl) signed⟩
  · obtain ⟨text, rfl, signed⟩ := scanExponent_only negative significand start read
    exact ⟨'E' :: text, rfl, exponent_of_signed (.inr rfl) signed⟩
  · obtain rfl := finishReal_leaves negative significand read
    exact ⟨[], rfl, .none⟩

/-- What stands behind the digits before the point, or behind the point itself. -/
def Scaled (front : List Char → Prop) (text : List Char) : Prop :=
  ∃ fraction exponent, text = fraction ++ exponent ∧ front fraction ∧ Exponent exponent

theorem scanFraction_only :
    ReadsOnly (Scaled Digits) (scanFraction negative significand start) := by
  intro cs x rest read
  obtain ⟨ds, spent, digits⟩ := absorbDigits_spent significand cs
  unfold scanFraction at read
  generalize absorbDigits significand cs = absorbed at read spent
  obtain ⟨next, left⟩ := absorbed
  dsimp only at read spent
  cases left with
  | nil =>
    dsimp only at read
    split at read
    · cases read
    · next nonempty =>
      obtain rfl := finishReal_leaves negative next read
      refine ⟨cs, (List.append_nil cs).symm, cs, [], (List.append_nil cs).symm, ?_, .none⟩
      rw [List.append_nil] at spent
      rw [spent] at nonempty ⊢
      exact ⟨by simpa using nonempty, digits⟩
  | cons c tail =>
    dsimp only at read
    split at read
    · next digit =>
      obtain ⟨more, dropped, others⟩ := dropWhile_isDigit tail
      obtain ⟨exponent, behind, scale⟩ := scanExponent?_only negative next _ read
      refine ⟨(ds ++ c :: more) ++ exponent, ?_, ds ++ c :: more, exponent, rfl,
        ⟨by simp, ?_⟩, scale⟩
      · rw [spent, dropped, behind]
        simp only [List.append_assoc, List.cons_append]
      · exact List.forall_mem_append.mpr ⟨digits, List.forall_mem_cons.mpr ⟨digit, others⟩⟩
    · split at read
      · cases read
      · next some =>
        obtain ⟨exponent, behind, scale⟩ := scanExponent?_only negative next _ read
        refine ⟨ds ++ exponent, ?_, ds, exponent, rfl, ⟨?_, digits⟩, scale⟩
        · rw [spent, behind, List.append_assoc]
        · rintro rfl
          exact some (by rw [spent, List.nil_append])

theorem wholeNumber_leaves {cs rest : List Char} {x : Json}
    (read : wholeNumber negative significand cs = .ok (x, rest)) : cs = rest := by
  unfold wholeNumber at read
  split at read
  · exact (Prod.mk.inj (Except.ok.inj read)).2
  · split at read
    · exact finishReal_leaves _ _ read
    · exact (Prod.mk.inj (Except.ok.inj read)).2

theorem scaled_point {text : List Char} (scaled : Scaled Digits text) :
    Scaled Fraction ('.' :: text) := by
  obtain ⟨fraction, exponent, rfl, digits, scale⟩ := scaled
  exact ⟨'.' :: fraction, exponent, rfl, .point digits, scale⟩

theorem scaled_exponent {text : List Char} (scale : Exponent text) : Scaled Fraction text :=
  ⟨[], text, rfl, .none, scale⟩

theorem scanAfterInteger_only :
    ReadsOnly (Scaled Fraction) (scanAfterInteger negative significand) := by
  intro cs x rest read
  unfold scanAfterInteger at read
  split at read
  · obtain ⟨text, rfl, scaled⟩ := scanFraction_only negative significand 0 read
    exact ⟨'.' :: text, rfl, scaled_point scaled⟩
  · obtain ⟨text, rfl, signed⟩ := scanExponent_only negative significand 0 read
    exact ⟨'e' :: text, rfl, scaled_exponent (exponent_of_signed (.inl rfl) signed)⟩
  · obtain ⟨text, rfl, signed⟩ := scanExponent_only negative significand 0 read
    exact ⟨'E' :: text, rfl, scaled_exponent (exponent_of_signed (.inr rfl) signed)⟩
  · obtain rfl := wholeNumber_leaves negative significand read
    exact ⟨[], rfl, scaled_exponent .none⟩

theorem scanBehindMany_only :
    ReadsOnly (Scaled Fraction) (scanBehindMany negative significand start) := by
  intro cs x rest read
  unfold scanBehindMany at read
  split at read
  · obtain ⟨text, rfl, scaled⟩ := scanFraction_only negative significand start read
    exact ⟨'.' :: text, rfl, scaled_point scaled⟩
  · obtain ⟨text, rfl, scale⟩ := scanExponent?_only negative significand start read
    exact ⟨text, rfl, scaled_exponent scale⟩

end

theorem unsigned_of_scaled {whole text : List Char} (before : Integer whole)
    (scaled : Scaled Fraction text) : Unsigned (whole ++ text) := by
  obtain ⟨fraction, exponent, rfl, point, scale⟩ := scaled
  exact .mk before point scale

/-- Where a number was scanned, there is one. -/
theorem scanNumber_only (negative : Bool) : ReadsOnly Unsigned (scanNumber negative) := by
  intro cs x rest read
  unfold scanNumber at read
  split at read
  · cases read
  · next c more =>
    split at read
    · next zero =>
      subst zero
      have behind : scanAfterInteger negative 0 more = .ok (x, rest) := by
        split at read
        · split at read
          · cases read
          · exact read
        · exact read
      obtain ⟨text, rfl, scaled⟩ := scanAfterInteger_only negative 0 behind
      exact ⟨'0' :: text, rfl, unsigned_of_scaled .zero scaled⟩
    · next notZero =>
      split at read
      · next digit =>
        obtain ⟨ds, spent, digits⟩ := absorbDigits_spent (digitValue c) more
        generalize absorbDigits (digitValue c) more = absorbed at read spent
        obtain ⟨significand, left⟩ := absorbed
        dsimp only at read spent
        split at read
        · obtain ⟨text, rfl, scaled⟩ := scanAfterInteger_only negative significand read
          refine ⟨c :: ds ++ text, ?_, unsigned_of_scaled (.digits digit notZero digits) scaled⟩
          rw [spent, List.cons_append, List.cons_append, List.append_assoc]
        · -- The digits that 64 bits do not hold belong to the number all the same.
          obtain ⟨extra, others, split⟩ : ∃ extra, AllDigits extra ∧
              left = extra ++ left.drop (left.takeWhile isDigit).length :=
            ⟨left.takeWhile isDigit, fun _ => List.mem_takeWhile_imp,
              (List.prefix_iff_eq_append.mp (List.takeWhile_prefix isDigit)).symm⟩
          obtain ⟨text, behind, scaled⟩ := scanBehindMany_only negative significand _ read
          have all : AllDigits (ds ++ extra) := List.forall_mem_append.mpr ⟨digits, others⟩
          refine ⟨c :: (ds ++ extra) ++ text, ?_,
            unsigned_of_scaled (.digits digit notZero all) scaled⟩
          rw [spent, split, behind]
          simp only [List.cons_append, List.append_assoc]
      · cases read

/-! ## Strings -/

/-- Four hexadecimal digits, and their number. -/
inductive Hex4 : List Char → Nat → Prop where
  | mk {a b c d : Char} {i j k l : Nat} (first : hexValue? a = some i)
      (second : hexValue? b = some j) (third : hexValue? c = some k)
      (fourth : hexValue? d = some l) : Hex4 [a, b, c, d] (((i * 16 + j) * 16 + k) * 16 + l)

/-- The letters of the escapes, and what they stand for. -/
def escapes : List (Char × Char) :=
  [('"', '"'), ('\\', '\\'), ('/', '/'), ('b', Char.ofNat 8), ('f', Char.ofNat 12), ('n', '\n'),
    ('r', '\r'), ('t', '\t')]

/-- What may stand behind a backslash: a letter, a number that is a character, or the two numbers
of a surrogate pair, one behind the other. -/
inductive Escape : Char → List Char → Prop where
  | letter {e c : Char} (known : (e, c) ∈ escapes) : Escape c [e]
  | code {digits : List Char} {n : Nat} (hex : Hex4 digits n) (whole : n < 0xD800 ∨ 0xDFFF < n) :
      Escape (Char.ofNat n) ('u' :: digits)
  | pair {digits more : List Char} {high low : Nat} (first : Hex4 digits high)
      (second : Hex4 more low) (isHigh : 0xD800 ≤ high ∧ high ≤ 0xDBFF)
      (isLow : 0xDC00 ≤ low ∧ low ≤ 0xDFFF) :
      Escape (Char.ofNat (0x10000 + (high - 0xD800) * 0x400 + (low - 0xDC00)))
        ('u' :: (digits ++ '\\' :: 'u' :: more))

/-- The texts that spell characters out between quotes. -/
inductive Spelled : List Char → List Char → Prop where
  | nil : Spelled [] []
  | plain {c : Char} {s text : List Char} (noQuote : c ≠ '"') (noEscape : c ≠ '\\')
      (noControl : ¬ c.toNat < 0x20) (more : Spelled s text) : Spelled (c :: s) (c :: text)
  | escape {c : Char} {escaped s text : List Char} (escape : Escape c escaped)
      (more : Spelled s text) : Spelled (c :: s) ('\\' :: (escaped ++ text))

theorem scanHex4_eq_ok_iff {cs rest : List Char} {n : Nat} :
    scanHex4 cs = .ok (n, rest) ↔ ∃ digits, cs = digits ++ rest ∧ Hex4 digits n := by
  constructor
  · intro read
    unfold scanHex4 at read
    split at read
    · cases read
    · split at read
      · split at read
        · next first second third fourth =>
          obtain ⟨rfl, rfl⟩ := Prod.mk.inj (Except.ok.inj read)
          exact ⟨_, rfl, .mk first second third fourth⟩
        · cases read
      · cases read
  · rintro ⟨_, rfl, @⟨a, b, c, d, i, j, k, l, first, second, third, fourth⟩⟩
    have long : ¬ byteLength (a :: b :: c :: d :: rest) < 4 := by
      have := length_le_byteLength (a :: b :: c :: d :: rest)
      simp only [List.length_cons] at this
      omega
    simp only [List.cons_append, List.nil_append, scanHex4, long, if_false, first, second, third,
      fourth]

theorem scanLowSurrogate_eq_ok_iff {high : Nat} {cs rest : List Char} {c : Char} :
    scanLowSurrogate high cs = .ok (c, rest) ↔
      ∃ digits low, cs = '\\' :: 'u' :: (digits ++ rest) ∧ Hex4 digits low ∧
        (0xDC00 ≤ low ∧ low ≤ 0xDFFF) ∧
        c = Char.ofNat (0x10000 + (high - 0xD800) * 0x400 + (low - 0xDC00)) := by
  constructor
  · intro read
    unfold scanLowSurrogate at read
    split at read
    · cases read
    · cases read
    · obtain ⟨⟨low, behind⟩, hex, made⟩ := bind_eq_ok.mp read
      obtain ⟨digits, rfl, hexadecimal⟩ := scanHex4_eq_ok_iff.mp hex
      dsimp only at made
      split at made
      · cases made
      · next inside =>
        obtain ⟨rfl, rfl⟩ := Prod.mk.inj (Except.ok.inj made)
        exact ⟨digits, low, rfl, hexadecimal, by omega, rfl⟩
    · cases read
    · cases read
  · rintro ⟨digits, low, rfl, hex, inside, same⟩
    have outside : ¬ (low < 0xDC00 ∨ 0xDFFF < low) := by omega
    rw [scanLowSurrogate, scanHex4_eq_ok_iff.mpr ⟨digits, rfl, hex⟩, ok_bind]
    simp only [if_neg outside]
    rw [same]
    rfl

/-- Behind a backslash stands an escape, or it cannot be read. -/
theorem scanEscape_eq_ok_iff {cs rest : List Char} {c : Char} :
    scanEscape cs = .ok (c, rest) ↔ ∃ escaped, cs = escaped ++ rest ∧ Escape c escaped := by
  constructor
  · intro read
    unfold scanEscape at read
    split at read
    case h_10 =>
      obtain ⟨⟨n, behind⟩, hex, made⟩ := bind_eq_ok.mp read
      obtain ⟨digits, rfl, hexadecimal⟩ := scanHex4_eq_ok_iff.mp hex
      dsimp only at made
      split at made
      · cases made
      · split at made
        · next isHigh =>
          obtain ⟨more, low, rfl, second, isLow, same⟩ := scanLowSurrogate_eq_ok_iff.mp made
          rw [same]
          exact ⟨'u' :: (digits ++ '\\' :: 'u' :: more), by simp,
            .pair hexadecimal second isHigh isLow⟩
        · obtain ⟨rfl, rfl⟩ := Prod.mk.inj (Except.ok.inj made)
          exact ⟨'u' :: digits, rfl, .code hexadecimal (by omega)⟩
    case h_1 | h_11 => cases read
    all_goals
      obtain ⟨rfl, rfl⟩ := Prod.mk.inj (Except.ok.inj read)
      exact ⟨[_], rfl, .letter (by simp [escapes])⟩
  · rintro ⟨escaped, rfl, escape⟩
    cases escape with
    | letter known =>
      simp only [escapes, List.mem_cons, Prod.mk.injEq, List.not_mem_nil, or_false] at known
      rcases known with ⟨rfl, rfl⟩ | ⟨rfl, rfl⟩ | ⟨rfl, rfl⟩ | ⟨rfl, rfl⟩ | ⟨rfl, rfl⟩ |
        ⟨rfl, rfl⟩ | ⟨rfl, rfl⟩ | ⟨rfl, rfl⟩
      all_goals rfl
    | @code digits n hex whole =>
      have noLow : ¬ (0xDC00 ≤ n ∧ n ≤ 0xDFFF) := by omega
      have noHigh : ¬ (0xD800 ≤ n ∧ n ≤ 0xDBFF) := by omega
      rw [List.cons_append, scanEscape, scanHex4_eq_ok_iff.mpr ⟨digits, rfl, hex⟩, ok_bind]
      simp only [if_neg noLow, if_neg noHigh]
      rfl
    | @pair digits more high low first second isHigh isLow =>
      have noLow : ¬ (0xDC00 ≤ high ∧ high ≤ 0xDFFF) := by omega
      rw [List.cons_append, List.append_assoc, scanEscape,
        scanHex4_eq_ok_iff.mpr ⟨digits, rfl, first⟩, ok_bind]
      simp only [if_neg noLow, if_pos isHigh]
      exact scanLowSurrogate_eq_ok_iff.mpr ⟨more, low, rfl, second, isLow, rfl⟩

theorem scanStringFrom_spelled {s body : List Char} (spelled : Spelled s body) {fuel : Nat}
    (enough : body.length < fuel) (rest : List Char) :
    scanStringFrom fuel (body ++ '"' :: rest) = .ok (s, rest) := by
  induction spelled generalizing fuel with
  | nil =>
    obtain ⟨fuel, rfl⟩ := Nat.exists_eq_succ_of_ne_zero (Nat.ne_of_gt enough)
    rfl
  | plain noQuote noEscape noControl _ ih =>
    obtain ⟨fuel, rfl⟩ := Nat.exists_eq_succ_of_ne_zero (Nat.ne_of_gt (Nat.zero_lt_of_lt enough))
    simp only [List.cons_append, scanStringFrom, noQuote, noEscape, noControl, if_false]
    rw [ih (Nat.lt_of_succ_lt_succ enough)]
    rfl
  | @escape c escaped s text escape _ ih =>
    obtain ⟨fuel, rfl⟩ := Nat.exists_eq_succ_of_ne_zero (Nat.ne_of_gt (Nat.zero_lt_of_lt enough))
    have left : text.length < fuel := by
      rw [List.length_cons, List.length_append] at enough
      omega
    rw [List.cons_append, List.append_assoc, scanStringFrom_escape,
      scanEscape_eq_ok_iff.mpr ⟨escaped, rfl, escape⟩, ok_bind]
    dsimp only
    rw [scanBehind, ih left]
    rfl

theorem spelled_of_scanStringFrom {fuel : Nat} {cs s rest : List Char}
    (read : scanStringFrom fuel cs = .ok (s, rest)) :
    ∃ body, cs = body ++ '"' :: rest ∧ Spelled s body := by
  induction fuel generalizing cs s with
  | zero => cases read
  | succ fuel ih =>
    cases cs with
    | nil => cases read
    | cons c cs =>
      rw [scanStringFrom] at read
      split at read
      · next quote =>
        obtain ⟨rfl, rfl⟩ := Prod.mk.inj (Except.ok.inj read)
        exact ⟨[], by rw [quote, List.nil_append], .nil⟩
      · next noQuote =>
        split at read
        · next backslash =>
          obtain ⟨⟨e, behind⟩, escaped, read⟩ := bind_eq_ok.mp read
          obtain ⟨⟨more, left⟩, others, made⟩ := bind_eq_ok.mp read
          obtain ⟨rfl, rfl⟩ := Prod.mk.inj (Except.ok.inj made)
          obtain ⟨text, rfl, escape⟩ := scanEscape_eq_ok_iff.mp escaped
          obtain ⟨body, rfl, spelled⟩ := ih others
          refine ⟨'\\' :: (text ++ body), ?_, .escape escape spelled⟩
          rw [backslash, List.cons_append, List.append_assoc]
        · next noEscape =>
          split at read
          · cases read
          · next noControl =>
            obtain ⟨⟨more, left⟩, others, made⟩ := bind_eq_ok.mp read
            obtain ⟨rfl, rfl⟩ := Prod.mk.inj (Except.ok.inj made)
            obtain ⟨body, rfl, spelled⟩ := ih others
            exact ⟨c :: body, rfl, .plain noQuote noEscape noControl spelled⟩

theorem Spelled.scanned {s : String} {body : List Char} (spelled : Spelled s.toList body)
    (rest : List Char) : scanString (body ++ '"' :: rest) = .ok (s, rest) := by
  have enough : body.length < (body ++ '"' :: rest).length + 1 := by
    rw [List.length_append]
    omega
  rw [scanString, scanStringFrom_spelled spelled enough, ok_bind]
  exact congrArg (fun s => Except.ok (s, rest)) String.ofList_toList

/-- A string is read if and only if it is spelled out in front of a quote. -/
theorem scanString_eq_ok_iff {cs rest : List Char} {s : String} :
    scanString cs = .ok (s, rest) ↔ ∃ body, cs = body ++ '"' :: rest ∧ Spelled s.toList body := by
  constructor
  · intro read
    obtain ⟨⟨chars, left⟩, scanned, made⟩ := bind_eq_ok.mp read
    obtain ⟨rfl, rfl⟩ := Prod.mk.inj (Except.ok.inj made)
    rw [String.toList_ofList]
    exact spelled_of_scanStringFrom scanned
  · rintro ⟨body, rfl, spelled⟩
    exact spelled.scanned rest

end IngestWatch.Json
