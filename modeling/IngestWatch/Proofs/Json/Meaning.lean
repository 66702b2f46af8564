import IngestWatch.Proofs.Json.Plain
import IngestWatch.Proofs.Json.Tokens

/-!
What the texts of JSON mean, with so many containers in each other at most. Wherever a text of a
value stands in front of something that may follow a value, a reader that may go that deep gives the
value and leaves what follows.
-/

namespace IngestWatch.Json

/-! ## Values and their texts -/

/-- The texts of values that are no containers. -/
inductive Scalar : Json → List Char → Prop where
  | null : Scalar .null ['n', 'u', 'l', 'l']
  | yes : Scalar (.bool true) ['t', 'r', 'u', 'e']
  | no : Scalar (.bool false) ['f', 'a', 'l', 's', 'e']
  | number {x : Json} {n : List Char} (numeral : Numeral x n) : Scalar x n
  | quoted {s : String} {body : List Char} (spelled : Spelled s.toList body) :
      Scalar (.str s) ('"' :: (body ++ ['"']))

section
variable (Inside : Json → List Char → Prop)

/-- A member, and the texts of its key and its value. -/
def Entry (m : String × Json) (raw : List Char × List Char) : Prop :=
  Spelled m.1.toList raw.1 ∧ Inside m.2 raw.2

/-- The texts of containers. Of two members with one key the later counts. -/
inductive Container : Json → List Char → Prop where
  | emptyList {inner : List Char} (blank : Blank inner) :
      Container (.arr []) ('[' :: (inner ++ [']']))
  | list {values : List Json} {texts : List (List Char)} {inner : List Char}
      (items : Items texts inner) (each : List.Forall₂ Inside values texts) :
      Container (.arr values) ('[' :: (inner ++ [']']))
  | object {members : List (String × Json)} {raw : List (List Char × List Char)}
      {inner : List Char} (body : Body raw inner) (each : List.Forall₂ (Entry Inside) members raw) :
      Container (.ofMembers members) ('\x7b' :: (inner ++ ['\x7d']))

end

/-- The texts of a value, without blanks around it, in which at most `depth` containers lie in each
other. -/
def Means : Nat → Json → List Char → Prop
  | 0, v, text => Scalar v text
  | depth + 1, v, text => Scalar v text ∨ Container (Means depth) v text

/-! ## Texts of values are values of the grammar -/

theorem Hex4.isSome {digits : List Char} {n : Nat} (hex : Hex4 digits n) :
    ∃ a b c d, digits = [a, b, c, d] ∧ ∀ x ∈ [a, b, c, d], (hexValue? x).isSome := by
  obtain @⟨a, b, c, d, _, _, _, _, first, second, third, fourth⟩ := hex
  exact ⟨a, b, c, d, rfl, by simp [first, second, third, fourth]⟩

theorem Spelled.quoted {s body : List Char} (spelled : Spelled s body) : Quoted body := by
  induction spelled with
  | nil => exact .nil
  | plain noQuote noEscape noControl _ ih => exact .plain noQuote noEscape noControl ih
  | escape escape _ ih =>
    cases escape with
    | letter known =>
      have letters : escapes.map Prod.fst = ['"', '\\', '/', 'b', 'f', 'n', 'r', 't'] := rfl
      exact .escape (letters ▸ List.mem_map_of_mem known) ih
    | code hex _ =>
      obtain ⟨a, b, c, d, rfl, digits⟩ := hex.isSome
      exact .code digits ih
    | pair first second _ _ =>
      obtain ⟨a, b, c, d, rfl, digits⟩ := first.isSome
      obtain ⟨e, f, g, h, rfl, more⟩ := second.isSome
      exact .code digits (.code more ih)

theorem Scalar.value {v : Json} {text : List Char} (scalar : Scalar v text) : Value text := by
  cases scalar with
  | null | yes | no => exact .word (by decide)
  | number numeral => exact numeral.value
  | quoted spelled => exact .quoted spelled.quoted

theorem Container.value {Inside : Json → List Char → Prop} {v : Json} {text : List Char}
    (container : Container Inside v text) : Value text := by
  cases container with
  | emptyList blank => exact .emptyList blank
  | list items _ => exact .list items
  | object body _ =>
    cases body with
    | empty blank => exact .emptyObject blank
    | members members => exact .object members

theorem Means.value {depth : Nat} {v : Json} {text : List Char} (means : Means depth v text) :
    Value text := by
  cases depth with
  | zero => exact Scalar.value means
  | succ depth => exact means.elim Scalar.value Container.value

theorem Scalar.means {v : Json} {text : List Char} (scalar : Scalar v text) (depth : Nat) :
    Means depth v text := by
  cases depth with
  | zero => exact scalar
  | succ depth => exact .inl scalar

/-! ## What is meant is read -/

theorem readValue_skipBlanks (fuel depth : Nat) (cs : List Char) :
    readValue (fuel + 1) depth (skipBlanks cs) = readValue (fuel + 1) depth cs := by
  unfold readValue
  rw [skipBlanks_skipBlanks]

theorem readValue_digit {c : Char} (digit : isDigit c = true) (fuel depth : Nat)
    (cs : List Char) : readValue (fuel + 1) depth (c :: cs) = scanNumber false (c :: cs) := by
  have solid : skipBlanks (c :: cs) = c :: cs :=
    List.dropWhile_cons_of_neg (by simp [isBlank_of_digit digit])
  unfold readValue
  rw [solid]
  split
  case h_1 same => cases same
  case h_9 same =>
    obtain ⟨rfl, rfl⟩ := List.cons.inj same
    rw [if_pos digit]
  all_goals
    next same =>
      obtain ⟨rfl, -⟩ := List.cons.inj same
      exact absurd digit (by decide)

/-- With so many steps a reader takes a text to its end, and no further. -/
def Reads (depth : Nat) (v : Json) (text : List Char) : Prop :=
  ∀ (fuel : Nat) (rest : List Char), Delimited rest → text.length ≤ fuel →
    readValue fuel depth (text ++ rest) = .ok (v, rest)

theorem Scalar.reads {v : Json} {text : List Char} (scalar : Scalar v text) (depth : Nat) :
    Reads depth v text := by
  intro fuel rest delimited enough
  have some := scalar.value.length_pos
  obtain ⟨fuel, rfl⟩ := Nat.exists_eq_succ_of_ne_zero (show fuel ≠ 0 by omega)
  cases scalar with
  | null =>
    have word := scanWord_append ['u', 'l', 'l'] rest
    exact bind_eq_ok.mpr ⟨rest, word, rfl⟩
  | yes =>
    have word := scanWord_append ['r', 'u', 'e'] rest
    exact bind_eq_ok.mpr ⟨rest, word, rfl⟩
  | no =>
    have word := scanWord_append ['a', 'l', 's', 'e'] rest
    exact bind_eq_ok.mpr ⟨rest, word, rfl⟩
  | number numeral =>
    cases numeral with
    | plain number takes =>
      have taken := toOption_eq_some_iff.mp (takes rest delimited)
      obtain ⟨c, more, rfl, digit⟩ := number.begins
      rw [← taken]
      exact readValue_digit digit fuel depth (more ++ rest)
    | negative number takes => exact toOption_eq_some_iff.mp (takes rest delimited)
  | @quoted s body spelled =>
    rw [List.cons_append, List.append_assoc]
    exact bind_eq_ok.mpr ⟨(s, rest), spelled.scanned rest, rfl⟩

theorem Reads.behind {depth : Nat} {before text rest : List Char} {v : Json} (fuel : Nat)
    (front : Blank before) (value : Value text) (reads : Reads depth v text)
    (delimited : Delimited rest) (enough : text.length ≤ fuel + 1) :
    readValue (fuel + 1) depth (before ++ (text ++ rest)) = .ok (v, rest) := by
  rw [← readValue_skipBlanks, skipBlanks_value front value]
  exact reads (fuel + 1) rest delimited enough

/-- Behind an item comes the end of the list or the next item. -/
theorem readItems_item {fuel depth : Nat} {cs rest : List Char} {v : Json}
    (item : readValue fuel depth cs = .ok (v, rest)) :
    readItems (fuel + 1) depth cs =
      match skipBlanks rest with
      | [] => .error (Cause.endInList.within [])
      | ']' :: rest => .ok ([v], rest)
      | ',' :: rest =>
        match skipBlanks rest with
        | [] => .error (Cause.endInValue.within [])
        | ']' :: rest => .error (Cause.trailingComma.within (']' :: rest))
        | rest => (readItems fuel depth rest).bind fun (items, rest) => .ok (v :: items, rest)
      | rest => .error (Cause.wantedListEnd.within rest) := by
  rw [readItems, item, ok_bind]
  rfl

/-- Behind a member comes the end of the object or the next member. -/
theorem readMembers_member {fuel depth : Nat} {cs between behind rest : List Char} {key : String}
    {v : Json} (named : scanString cs = .ok (key, between ++ ':' :: behind))
    (middle : Blank between) (member : readValue fuel depth behind = .ok (v, rest)) :
    readMembers (fuel + 1) depth ('"' :: cs) =
      match skipBlanks rest with
      | [] => .error (Cause.endInObject.within [])
      | '\x7d' :: rest => .ok ([(key, v)], rest)
      | ',' :: rest =>
        match skipBlanks rest with
        | [] => .error (Cause.endInValue.within [])
        | '\x7d' :: rest => .error (Cause.trailingComma.within ('\x7d' :: rest))
        | rest => (readMembers fuel depth rest).bind fun (members, rest) =>
          .ok ((key, v) :: members, rest)
      | rest => .error (Cause.wantedObjectEnd.within rest) := by
  rw [readMembers]
  simp only [named, ok_bind]
  rw [skipBlanks_mark middle rfl]
  simp only [member, ok_bind]
  rfl

theorem readItems_items {depth : Nat} {values : List Json} {texts : List (List Char)}
    {inner : List Char} (each : List.Forall₂ (Reads depth) values texts)
    (items : Items texts inner) (rest : List Char) {fuel : Nat} (enough : inner.length < fuel) :
    readItems fuel depth (skipBlanks (inner ++ ']' :: rest)) = .ok (values, rest) := by
  induction each generalizing inner fuel with
  | nil => cases items
  | cons reads none ih =>
    cases items with
    | @last text before after front value back =>
      cases none
      have some := value.length_pos
      simp only [List.length_append] at enough
      obtain ⟨fuel, rfl⟩ := Nat.exists_eq_add_of_le' (show 2 ≤ fuel by omega)
      have delimited := delimited_append back (delimited_mark (c := ']') (by decide) rest)
      have item := reads (fuel + 1) _ delimited (by omega)
      rw [List.append_assoc, List.append_assoc, skipBlanks_value front value, readItems_item item,
        skipBlanks_mark back rfl]
      rfl
    | @more text before after inner _ front value back others =>
      have some := value.length_pos
      simp only [List.length_append, List.length_cons] at enough
      obtain ⟨fuel, rfl⟩ := Nat.exists_eq_add_of_le' (show 2 ≤ fuel by omega)
      have delimited := delimited_append back
        (delimited_mark (c := ',') (by decide) (inner ++ ']' :: rest))
      have item := reads (fuel + 1) _ delimited (by omega)
      have onwards := ih others (show inner.length < fuel + 1 by omega)
      obtain ⟨lead, c, more, rfl, blank, solid, bracket⟩ := others.begins
      simp only [List.append_assoc, List.cons_append] at onwards item ⊢
      rw [skipBlanks_mark blank solid] at onwards
      rw [skipBlanks_value front value, readItems_item item, skipBlanks_mark back rfl]
      simp only [skipBlanks_mark blank solid]
      split
      · cases ‹c :: _ = []›
      · exact absurd (List.cons.inj ‹_›).1 bracket
      · exact bind_eq_ok.mpr ⟨_, onwards, rfl⟩

theorem readMembers_members {depth : Nat} {members : List (String × Json)}
    {raw : List (List Char × List Char)} {inner : List Char}
    (each : List.Forall₂ (Entry (Reads depth)) members raw) (object : Members raw inner)
    (rest : List Char) {fuel : Nat} (enough : inner.length < fuel) :
    readMembers fuel depth (skipBlanks (inner ++ '\x7d' :: rest)) = .ok (members, rest) := by
  induction each generalizing inner fuel with
  | nil => cases object
  | cons entry none ih =>
    obtain ⟨spelled, reads⟩ := entry
    cases object with
    | @last key text before between padding after front _ middle space value back =>
      cases none
      have some := value.length_pos
      simp only [List.length_append, List.length_cons] at enough
      obtain ⟨fuel, rfl⟩ := Nat.exists_eq_add_of_le' (show 2 ≤ fuel by omega)
      have delimited := delimited_append back (delimited_mark (c := '\x7d') (by decide) rest)
      have member := Reads.behind fuel space value reads delimited (by omega)
      simp only [List.append_assoc, List.cons_append]
      rw [skipBlanks_mark front rfl, readMembers_member (spelled.scanned _) middle member,
        skipBlanks_mark back rfl]
      rfl
    | @more key text before between padding after inner _ front _ middle space value back others =>
      have some := value.length_pos
      simp only [List.length_append, List.length_cons] at enough
      obtain ⟨fuel, rfl⟩ := Nat.exists_eq_add_of_le' (show 2 ≤ fuel by omega)
      have delimited := delimited_append back
        (delimited_mark (c := ',') (by decide) (inner ++ '\x7d' :: rest))
      have member := Reads.behind fuel space value reads delimited (by omega)
      have onwards := ih others (show inner.length < fuel + 1 by omega)
      obtain ⟨lead, more, rfl, blank⟩ := others.begins
      simp only [List.append_assoc, List.cons_append] at onwards member ⊢
      rw [skipBlanks_mark blank rfl] at onwards
      rw [skipBlanks_mark front rfl, readMembers_member (spelled.scanned _) middle member,
        skipBlanks_mark back rfl]
      simp only [skipBlanks_mark blank (c := '"') rfl]
      exact bind_eq_ok.mpr ⟨_, onwards, rfl⟩

/-- Where what lies in a container is read, the container is read. -/
theorem Container.reads {depth : Nat} {v : Json} {text : List Char}
    (container : Container (Reads depth) v text) : Reads (depth + 1) v text := by
  intro fuel rest _ enough
  cases container with
  | emptyList blank =>
    obtain ⟨fuel, rfl⟩ := Nat.exists_eq_succ_of_ne_zero (Nat.ne_of_gt (Nat.zero_lt_of_lt enough))
    rw [List.cons_append, List.append_assoc, List.singleton_append, readValue_bracket,
      skipBlanks_mark blank rfl]
    rfl
  | @list _ _ inner items each =>
    simp only [List.length_cons, List.length_append, List.length_nil] at enough
    obtain ⟨fuel, rfl⟩ := Nat.exists_eq_add_of_le' (show 1 ≤ fuel by omega)
    have inside := readItems_items each items rest (show inner.length < fuel by omega)
    obtain ⟨before, c, more, rfl, front, solid, bracket⟩ := items.begins
    simp only [List.cons_append, List.append_assoc, List.nil_append] at inside ⊢
    rw [skipBlanks_mark front solid] at inside
    rw [readValue_bracket, skipBlanks_mark front solid, if_neg (Nat.succ_ne_zero depth)]
    split
    · cases ‹c :: _ = []›
    · exact absurd (List.cons.inj ‹_›).1 bracket
    · exact bind_eq_ok.mpr ⟨_, inside, rfl⟩
  | @object _ _ inner body each =>
    simp only [List.length_cons, List.length_append, List.length_nil] at enough
    obtain ⟨fuel, rfl⟩ := Nat.exists_eq_add_of_le' (show 1 ≤ fuel by omega)
    simp only [List.cons_append, List.append_assoc, List.nil_append]
    cases body with
    | empty blank =>
      cases each
      rw [readValue_brace, skipBlanks_mark blank rfl]
      rfl
    | members object =>
      have inside := readMembers_members each object rest (show inner.length < fuel by omega)
      obtain ⟨before, more, rfl, front⟩ := object.begins
      simp only [List.cons_append, List.append_assoc] at inside ⊢
      rw [skipBlanks_mark front rfl] at inside
      rw [readValue_brace, skipBlanks_mark front rfl, if_neg (Nat.succ_ne_zero depth)]
      exact bind_eq_ok.mpr ⟨_, inside, rfl⟩

theorem Container.mono {Inside Inside' : Json → List Char → Prop}
    (weaker : ∀ v text, Inside v text → Inside' v text) {v : Json} {text : List Char}
    (container : Container Inside v text) : Container Inside' v text := by
  cases container with
  | emptyList blank => exact .emptyList blank
  | list items each => exact .list items (each.imp weaker)
  | object body each => exact .object body (each.imp fun _ _ entry => ⟨entry.1, weaker _ _ entry.2⟩)

theorem Means.reads {depth : Nat} {v : Json} {text : List Char} (means : Means depth v text) :
    Reads depth v text := by
  induction depth generalizing v text with
  | zero => exact Scalar.reads means 0
  | succ depth ih =>
    rcases means with scalar | container
    · exact scalar.reads (depth + 1)
    · exact (container.mono fun _ _ inside => ih inside).reads

end IngestWatch.Json
