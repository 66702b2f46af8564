import IngestWatch.Proofs.Json.Meaning

/-!
The documents of JSON and their values. A reader that may go so many containers deep accepts the
texts that are one value with blanks around it and no more containers in each other, and it gives
the value that the text has. Nothing else is accepted.
-/

namespace IngestWatch.Json

/-- A whole text that is one value, with blanks around it. -/
def Document (depth : Nat) (v : Json) (cs : List Char) : Prop :=
  ∃ before text after, cs = before ++ (text ++ after) ∧ Blank before ∧ Blank after ∧
    Means depth v text

/-! ## What is read is meant -/

theorem blank_append {before after : List Char} (front : Blank before) (back : Blank after) :
    Blank (before ++ after) :=
  List.forall_mem_append.mpr ⟨front, back⟩

theorem Items.behind {lead inner : List Char} {texts : List (List Char)} (blank : Blank lead)
    (items : Items texts inner) : Items texts (lead ++ inner) := by
  cases items with
  | last front value back =>
    rw [← List.append_assoc]
    exact .last (blank_append blank front) value back
  | more front value back others =>
    rw [← List.append_assoc]
    exact .more (blank_append blank front) value back others

theorem Members.behind {lead inner : List Char} {raw : List (List Char × List Char)}
    (blank : Blank lead) (members : Members raw inner) : Members raw (lead ++ inner) := by
  cases members with
  | last front quoted middle space value back =>
    rw [← List.append_assoc]
    exact .last (blank_append blank front) quoted middle space value back
  | more front quoted middle space value back others =>
    rw [← List.append_assoc]
    exact .more (blank_append blank front) quoted middle space value back others

/-- Behind blanks stands what they were skipped for. -/
theorem blanks_before {cs front : List Char} (skipped : skipBlanks cs = front) :
    ∃ before, cs = before ++ front ∧ Blank before := by
  obtain ⟨before, blank, same⟩ := exists_blanks cs
  exact ⟨before, skipped ▸ same, blank⟩

theorem delimited_of_skipBlanks {cs rest : List Char} {c : Char} (mark : c ∈ [',', ']', '\x7d'])
    (skipped : skipBlanks cs = c :: rest) : Delimited cs := by
  obtain ⟨before, rfl, blank⟩ := blanks_before skipped
  exact delimited_append blank (delimited_mark mark rest)

/-- Where a number was scanned and what is left does not go on with it, it is a numeral. -/
theorem takes_of_scanNumber {negative : Bool} {cs rest : List Char} {x : Json}
    (read : scanNumber negative cs = .ok (x, rest)) (delimited : Delimited rest) :
    ∃ n, cs = n ++ rest ∧ Unsigned n ∧ Takes (scanNumber negative) n (some x) := by
  obtain ⟨n, rfl, number⟩ := scanNumber_only negative read
  obtain ⟨y, takes⟩ := takes_scanNumber number negative
  have taken := takes rest delimited
  rw [read] at taken
  cases y with
  | none => cases taken
  | some y =>
    obtain ⟨rfl, -⟩ := Prod.mk.inj (Option.some.inj taken)
    exact ⟨n, rfl, number, takes⟩

/-- A text of a value stands in front of what is left. -/
def MeansFront (depth : Nat) (v : Json) (cs rest : List Char) : Prop :=
  ∃ text, cs = text ++ rest ∧ Means depth v text

/-- With so many steps only values are read that are meant, where they end as a value may. -/
def ValuesMeant (fuel : Nat) : Prop :=
  ∀ {depth : Nat} {cs rest : List Char} {v : Json}, readValue fuel depth cs = .ok (v, rest) →
    Delimited rest → ∃ before front, cs = before ++ front ∧ Blank before ∧
      MeansFront depth v front rest

def ItemsMeant (fuel : Nat) : Prop :=
  ∀ {depth : Nat} {cs rest : List Char} {values : List Json},
    readItems fuel depth cs = .ok (values, rest) →
      ∃ texts inner, cs = inner ++ ']' :: rest ∧ Items texts inner ∧
        List.Forall₂ (Means depth) values texts

def MembersMeant (fuel : Nat) : Prop :=
  ∀ {depth : Nat} {cs rest : List Char} {members : List (String × Json)},
    readMembers fuel depth cs = .ok (members, rest) →
      ∃ raw inner, cs = inner ++ '\x7d' :: rest ∧ Members raw inner ∧
        List.Forall₂ (Entry (Means depth)) members raw

section
variable {fuel depth : Nat} {cs rest : List Char} {v : Json}

theorem meansFront_word {c : Char} {w : List Char} {x : Json} (scalar : Scalar x (c :: w))
    (read : scanWord w cs >>= (fun rest => .ok (x, rest)) = .ok (v, rest)) :
    MeansFront depth v (c :: cs) rest := by
  obtain ⟨behind, word, made⟩ := bind_eq_ok.mp read
  obtain ⟨rfl, rfl⟩ := Prod.mk.inj (Except.ok.inj made)
  exact ⟨c :: w, congrArg (c :: ·) (scanWord_eq_ok word), scalar.means depth⟩

theorem meansFront_list (items : ItemsMeant fuel)
    (read : readValue (fuel + 1) depth ('[' :: cs) = .ok (v, rest)) :
    MeansFront depth v ('[' :: cs) rest := by
  rw [readValue_bracket] at read
  split at read
  · cases read
  · next some =>
    obtain ⟨depth, rfl⟩ := Nat.exists_eq_succ_of_ne_zero some
    split at read
    · cases read
    · next closed =>
      obtain ⟨rfl, rfl⟩ := Prod.mk.inj (Except.ok.inj read)
      obtain ⟨inner, rfl, empty⟩ := blanks_before closed
      exact ⟨'[' :: (inner ++ [']']), by simp, .inr (.emptyList empty)⟩
    · obtain ⟨⟨values, behind⟩, begun, made⟩ := bind_eq_ok.mp read
      obtain ⟨rfl, rfl⟩ := Prod.mk.inj (Except.ok.inj made)
      obtain ⟨texts, inner, spent, list, each⟩ := items begun
      obtain ⟨lead, rfl, empty⟩ := blanks_before spent
      exact ⟨'[' :: (lead ++ inner ++ [']']), by simp, .inr (.list (list.behind empty) each)⟩

theorem meansFront_object (members : MembersMeant fuel)
    (read : readValue (fuel + 1) depth ('\x7b' :: cs) = .ok (v, rest)) :
    MeansFront depth v ('\x7b' :: cs) rest := by
  rw [readValue_brace] at read
  split at read
  · cases read
  · next some =>
    obtain ⟨depth, rfl⟩ := Nat.exists_eq_succ_of_ne_zero some
    split at read
    · cases read
    · next closed =>
      obtain ⟨rfl, rfl⟩ := Prod.mk.inj (Except.ok.inj read)
      obtain ⟨inner, rfl, empty⟩ := blanks_before closed
      exact ⟨'\x7b' :: (inner ++ ['\x7d']), by simp,
        .inr (@Container.object _ [] [] _ (.empty empty) .nil)⟩
    · obtain ⟨⟨found, behind⟩, begun, made⟩ := bind_eq_ok.mp read
      obtain ⟨rfl, rfl⟩ := Prod.mk.inj (Except.ok.inj made)
      obtain ⟨raw, inner, spent, object, each⟩ := members begun
      obtain ⟨lead, rfl, empty⟩ := blanks_before spent
      exact ⟨'\x7b' :: (lead ++ inner ++ ['\x7d']), by simp,
        .inr (.object (.members (object.behind empty)) each)⟩

end

theorem valuesMeant_succ {fuel : Nat} (items : ItemsMeant fuel) (members : MembersMeant fuel) :
    ValuesMeant (fuel + 1) := by
  intro depth cs rest v read delimited
  obtain ⟨before, blank, same⟩ := exists_blanks cs
  refine ⟨before, skipBlanks cs, same, blank, ?_⟩
  rw [readValue] at read
  split at read
  · cases read
  · next left found =>
    rw [found]
    exact meansFront_word .null read
  · next left found =>
    rw [found]
    exact meansFront_word .yes read
  · next left found =>
    rw [found]
    exact meansFront_word .no read
  · next left found =>
    obtain ⟨n, rfl, number, takes⟩ := takes_of_scanNumber read delimited
    exact ⟨'-' :: n, found, (Scalar.number (.negative number takes)).means depth⟩
  · next left found =>
    obtain ⟨⟨s, behind⟩, scanned, made⟩ := bind_eq_ok.mp read
    obtain ⟨rfl, rfl⟩ := Prod.mk.inj (Except.ok.inj made)
    obtain ⟨body, rfl, spelled⟩ := scanString_eq_ok_iff.mp scanned
    exact ⟨'"' :: (body ++ ['"']), by simp [found], (Scalar.quoted spelled).means depth⟩
  · next left found =>
    rw [found]
    exact meansFront_list items ((readValue_bracket fuel depth left).trans read)
  · next left found =>
    rw [found]
    exact meansFront_object members ((readValue_brace fuel depth left).trans read)
  · split at read
    · obtain ⟨n, spent, number, takes⟩ := takes_of_scanNumber read delimited
      exact ⟨n, ‹skipBlanks cs = _›.trans spent, (Scalar.number (.plain number takes)).means depth⟩
    · cases read

theorem itemsMeant_succ {fuel : Nat} (values : ValuesMeant fuel) (items : ItemsMeant fuel) :
    ItemsMeant (fuel + 1) := by
  intro depth cs rest found read
  rw [readItems] at read
  obtain ⟨⟨v, behind⟩, item, goes⟩ := bind_eq_ok.mp read
  clear read
  dsimp only at goes
  split at goes
  · cases goes
  · next closed =>
    obtain ⟨rfl, rfl⟩ := Prod.mk.inj (Except.ok.inj goes)
    obtain ⟨before, _, rfl, front, text, rfl, means⟩ :=
      values item (delimited_of_skipBlanks (by decide) closed)
    obtain ⟨after, rfl, back⟩ := blanks_before closed
    exact ⟨[text], before ++ (text ++ after), by simp, .last front means.value back,
      .cons means .nil⟩
  · next comma =>
    obtain ⟨before, _, rfl, front, text, rfl, means⟩ :=
      values item (delimited_of_skipBlanks (by decide) comma)
    obtain ⟨after, rfl, back⟩ := blanks_before comma
    split at goes
    · cases goes
    · cases goes
    · obtain ⟨⟨others, left⟩, begun, made⟩ := bind_eq_ok.mp goes
      obtain ⟨rfl, rfl⟩ := Prod.mk.inj (Except.ok.inj made)
      obtain ⟨texts, inner, spent, list, each⟩ := items begun
      obtain ⟨lead, rfl, empty⟩ := blanks_before spent
      exact ⟨text :: texts, before ++ (text ++ (after ++ ',' :: (lead ++ inner))), by simp,
        .more front means.value back (list.behind empty), .cons means each⟩
  · cases goes

theorem membersMeant_succ {fuel : Nat} (values : ValuesMeant fuel) (members : MembersMeant fuel) :
    MembersMeant (fuel + 1) := by
  intro depth cs rest found read
  unfold readMembers at read
  split at read
  · obtain ⟨⟨key, behind⟩, scanned, goes⟩ := bind_eq_ok.mp read
    clear read
    obtain ⟨body, rfl, spelled⟩ := scanString_eq_ok_iff.mp scanned
    dsimp only at goes
    split at goes
    · cases goes
    · next colon =>
      obtain ⟨⟨v, behind⟩, member, ends⟩ := bind_eq_ok.mp goes
      clear goes
      obtain ⟨between, rfl, middle⟩ := blanks_before colon
      dsimp only at ends
      split at ends
      · cases ends
      · next closed =>
        obtain ⟨rfl, rfl⟩ := Prod.mk.inj (Except.ok.inj ends)
        obtain ⟨padding, _, rfl, space, text, rfl, means⟩ :=
          values member (delimited_of_skipBlanks (by decide) closed)
        obtain ⟨after, rfl, back⟩ := blanks_before closed
        exact ⟨[(body, text)], _, by simp,
          .last blank_nil spelled.quoted middle space means.value back,
          .cons ⟨spelled, means⟩ .nil⟩
      · next comma =>
        obtain ⟨padding, _, rfl, space, text, rfl, means⟩ :=
          values member (delimited_of_skipBlanks (by decide) comma)
        obtain ⟨after, rfl, back⟩ := blanks_before comma
        split at ends
        · cases ends
        · cases ends
        · obtain ⟨⟨others, left⟩, begun, made⟩ := bind_eq_ok.mp ends
          obtain ⟨rfl, rfl⟩ := Prod.mk.inj (Except.ok.inj made)
          obtain ⟨raw, inner, spent, object, each⟩ := members begun
          obtain ⟨lead, rfl, empty⟩ := blanks_before spent
          exact ⟨(body, text) :: raw, _, by simp,
            .more blank_nil spelled.quoted middle space means.value back (object.behind empty),
            .cons ⟨spelled, means⟩ each⟩
      · cases ends
    · cases goes
  · cases read

theorem all_meant (fuel : Nat) : ValuesMeant fuel ∧ ItemsMeant fuel ∧ MembersMeant fuel := by
  induction fuel with
  | zero =>
    refine ⟨?_, ?_, ?_⟩
    · rintro _ _ _ _ ⟨⟩
    · rintro _ _ _ _ ⟨⟩
    · rintro _ _ _ _ ⟨⟩
  | succ fuel ih =>
    obtain ⟨values, items, members⟩ := ih
    exact ⟨valuesMeant_succ items members, itemsMeant_succ values items,
      membersMeant_succ values members⟩

/-! ## Whole texts -/

/-- A reader accepts the documents, each with its value, and nothing else. -/
theorem parseChars_eq_ok_iff {depth : Nat} {cs : List Char} {v : Json} :
    parseChars depth cs = .ok v ↔ Document depth v cs := by
  constructor
  · intro read
    obtain ⟨⟨x, rest⟩, begun, ended⟩ := bind_eq_ok.mp read
    dsimp only at ended
    split at ended
    · next spent =>
      obtain rfl := Except.ok.inj ended
      obtain ⟨after, same, back⟩ := blanks_before spent
      rw [List.append_nil] at same
      subst same
      have delimited := delimited_append back delimited_nil
      rw [List.append_nil] at delimited
      obtain ⟨before, _, same, front, text, rfl, means⟩ := (all_meant _).1 begun delimited
      exact ⟨before, text, rest, same, front, back, means⟩
    · cases ended
  · rintro ⟨before, text, after, rfl, front, back, means⟩
    have delimited : Delimited after := by simpa using delimited_append back delimited_nil
    have enough : text.length ≤ 2 * (before ++ (text ++ after)).length + 1 + 1 := by
      simp only [List.length_append]
      omega
    have read := means.reads.behind _ front means.value delimited enough
    rw [parseChars, stepsFor, read, finish, ok_bind]
    simp only [skipBlanks_of_blank back]
    rfl

theorem parse_eq_ok_iff {depth : Nat} {text : String} {v : Json} :
    parse depth text = .ok v ↔ Document depth v text.toList :=
  mapError_eq_ok.trans parseChars_eq_ok_iff

section
variable {depth : Nat} {v w : Json} {cs : List Char}

theorem Document.value_unique (document : Document depth v cs) (other : Document depth w cs) :
    v = w :=
  Except.ok.inj ((parseChars_eq_ok_iff.mpr document).symm.trans (parseChars_eq_ok_iff.mpr other))

theorem Document.padded (document : Document depth v cs) {lead trail : List Char}
    (front : Blank lead) (back : Blank trail) : Document depth v (lead ++ (cs ++ trail)) := by
  obtain ⟨before, text, after, rfl, blank, blank', means⟩ := document
  exact ⟨lead ++ before, text, after ++ trail, by simp only [List.append_assoc],
    blank_append front blank, blank_append blank' back, means⟩

theorem Document.not_blank (document : Document depth v cs) : ¬ Blank cs := by
  obtain ⟨before, text, after, rfl, -, -, means⟩ := document
  obtain ⟨c, more, rfl, solid, -⟩ := means.value.begins
  intro blank
  have inside : c ∈ before ++ (c :: more ++ after) := by simp
  exact absurd (blank c inside) (by simp [solid])

/-- Where its last value has come to an end, only blanks may follow a document. -/
theorem Document.trailing (document : Document depth v cs) {after : List Char}
    (delimited : Delimited after) (longer : Document depth w (cs ++ after)) : Blank after := by
  obtain ⟨before, text, trail, rfl, front, back, means⟩ := document
  have read := parseChars_eq_ok_iff.mpr longer
  simp only [List.append_assoc] at read
  have enough : text.length ≤ 2 * (before ++ (text ++ (trail ++ after))).length + 1 + 1 := by
    simp only [List.length_append]
    omega
  have begun := means.reads.behind _ front means.value (delimited_append back delimited) enough
  rw [parseChars, stepsFor, begun, finish, ok_bind] at read
  dsimp only at read
  rw [skipBlanks_append back] at read
  split at read
  · next spent => exact fun c member => List.dropWhile_eq_nil_iff.mp spent c member
  · cases read

end

theorem readValue_deep (fuel depth : Nat) (cs : List Char) (read : Json × List Char) :
    readValue fuel depth (List.replicate (depth + 1) '[' ++ cs) ≠ .ok read := by
  induction depth generalizing fuel read with
  | zero =>
    cases fuel with
    | zero => rintro ⟨⟩
    | succ fuel => rintro ⟨⟩
  | succ depth ih =>
    cases fuel with
    | zero => rintro ⟨⟩
    | succ fuel =>
      intro deep
      rw [List.replicate_succ, List.cons_append, readValue_bracket,
        if_neg (Nat.succ_ne_zero depth)] at deep
      obtain ⟨⟨items, rest⟩, begun, -⟩ := bind_eq_ok.mp deep
      cases fuel with
      | zero => cases begun
      | succ fuel =>
        rw [readItems] at begun
        obtain ⟨first, item, -⟩ := bind_eq_ok.mp begun
        exact ih fuel first item

/-- Containers that lie too deep in each other are no document, whatever comes behind. -/
theorem not_document_deep {depth : Nat} {v : Json} {cs : List Char} :
    ¬ Document depth v (List.replicate (depth + 1) '[' ++ cs) := by
  intro document
  obtain ⟨first, begun, -⟩ := bind_eq_ok.mp (parseChars_eq_ok_iff.mpr document)
  exact readValue_deep _ depth cs first begun

/-- Blanks around a document do not count, and it has one value. Blanks alone are none, text behind
one makes it none, and so do containers that lie too deep in each other. -/
structure DocumentLaws (depth : Nat) : Prop where
  unique : ∀ v w cs, Document depth v cs → Document depth w cs → v = w
  padded : ∀ v cs lead trail, Document depth v cs → Blank lead → Blank trail →
    Document depth v (lead ++ (cs ++ trail))
  empty : ∀ v cs, Blank cs → ¬ Document depth v cs
  trailing : ∀ v w cs after, Document depth v cs → Delimited after → ¬ Blank after →
    ¬ Document depth w (cs ++ after)
  deep : ∀ v cs, ¬ Document depth v (List.replicate (depth + 1) '[' ++ cs)

theorem documentLaws (depth : Nat) : DocumentLaws depth where
  unique _ _ _ document other := document.value_unique other
  padded _ _ _ _ document front back := document.padded front back
  empty _ _ blank document := document.not_blank blank
  trailing _ _ _ _ document delimited solid longer := solid (document.trailing delimited longer)
  deep _ _ := not_document_deep

end IngestWatch.Json
