import IngestWatch.Proofs.Json.Object

/-!
Every form of a value is read from a JSON text value by value: a codec takes the value that comes
next or refuses it, and what stands behind the value has no say in that. So what a codec reads of
a value inside a document is what it reads of the text of that value alone.
-/

namespace IngestWatch

open Json

namespace Codec

variable {α β : Type}

/-! ## Single values -/

/-- A number that was scanned, if it lies within the bounds. -/
def within? (low high : Int) (wanted : String) (n : Json) : Option Int :=
  (whole? low high wanted (.ofNumber n)).toOption

/-- The bounds are looked at once a number is scanned. -/
def readWithin (low high : Int) (wanted : String) (reading : Reading (Json × List Char)) :
    Reading (Int × List Char) := do
  let (n, rest) ← reading
  let n ← (whole? low high wanted (.ofNumber n)).mapError (Mismatch.before · rest)
  pure (n, rest)

theorem toOption_readWithin {low high : Int} {wanted : String}
    {reading : Reading (Json × List Char)} {x : Option Json} {rest : List Char}
    (read : reading.toOption = x.map (·, rest)) :
    (readWithin low high wanted reading).toOption =
      (x.bind (within? low high wanted)).map (·, rest) := by
  simp only [readWithin, toOption_bind, read]
  cases x with
  | none => rfl
  | some n =>
    simp only [Option.map_some, Option.bind_some, toOption_mapError]
    rw [← within?]
    cases within? low high wanted n <;> rfl

section
variable {low high : Int} {wanted : String} {n : List Char} {x : Option Json} (depth : Nat)

theorem takes_whole (number : Unsigned n) (takes : Takes (scanNumber false) n x) :
    Takes ((whole low high wanted).read depth) n (x.bind (within? low high wanted)) := by
  intro rest delimited
  rw [← toOption_readWithin (takes rest delimited)]
  obtain ⟨more, rfl | rfl | rfl | rfl | rfl | rfl | rfl | rfl | rfl | rfl⟩ := number.starts
  all_goals rfl

theorem takes_whole_negative (takes : Takes (scanNumber true) n x) :
    Takes ((whole low high wanted).read depth) ('-' :: n) (x.bind (within? low high wanted)) :=
  fun rest delimited => toOption_readWithin (takes rest delimited)

end

theorem readsValues_whole (low high : Int) (wanted : String) (depth : Nat) :
    ReadsValues ((whole low high wanted).read depth) where
  blanks blank cs := by simp only [whole, skipBlanks_append blank]
  takes {v} value := by
    cases value with
    | word known =>
      simp only [List.mem_cons, List.not_mem_nil, or_false] at known
      rcases known with rfl | rfl | rfl <;> exact ⟨none, fun _ _ => rfl⟩
    | number number =>
      obtain ⟨x, takes⟩ := takes_scanNumber number false
      exact ⟨_, takes_whole depth number takes⟩
    | negative number =>
      obtain ⟨x, takes⟩ := takes_scanNumber number true
      exact ⟨_, takes_whole_negative depth takes⟩
    | _ => exact ⟨none, fun _ _ => rfl⟩

theorem takes_text {body : List Char} (quoted : Quoted body) (depth : Nat) :
    Takes (text.read depth) ('"' :: (body ++ ['"'])) (key? body) := by
  intro rest _
  rw [← toOption_scanString quoted, List.cons_append, List.append_assoc]
  rfl

theorem readsValues_text (depth : Nat) : ReadsValues (text.read depth) where
  blanks blank cs := by simp only [text, skipBlanks_append blank]
  takes {v} value := by
    cases value with
    | word known =>
      simp only [List.mem_cons, List.not_mem_nil, or_false] at known
      rcases known with rfl | rfl | rfl <;> exact ⟨none, fun _ _ => rfl⟩
    | number number =>
      obtain ⟨more, rfl | rfl | rfl | rfl | rfl | rfl | rfl | rfl | rfl | rfl⟩ := number.starts
      all_goals exact ⟨none, fun _ _ => rfl⟩
    | quoted quoted => exact ⟨_, takes_text quoted depth⟩
    | _ => exact ⟨none, fun _ _ => rfl⟩

/-- Nothing but `null` is read otherwise where a value may be absent. -/
theorem read_option (c : Codec α) (depth : Nat) {v : List Char} (value : Value v)
    (set : v ≠ ['n', 'u', 'l', 'l']) (rest : List Char) :
    c.option.read depth (v ++ rest) =
      (c.read depth (v ++ rest)).map fun (v, rest) => (some v, rest) := by
  cases value with
  | word known =>
    simp only [List.mem_cons, List.not_mem_nil, or_false] at known
    rcases known with rfl | rfl | rfl
    · exact absurd rfl set
    all_goals rfl
  | number number =>
    obtain ⟨more, rfl | rfl | rfl | rfl | rfl | rfl | rfl | rfl | rfl | rfl⟩ := number.starts
    all_goals rfl
  | _ => rfl

theorem readsValues_option {c : Codec α} {depth : Nat} (reads : ReadsValues (c.read depth)) :
    ReadsValues (c.option.read depth) where
  blanks blank cs := by simp only [option, skipBlanks_append blank]
  takes {v} value := by
    by_cases null : v = ['n', 'u', 'l', 'l']
    · subst null
      refine ⟨some none, fun rest _ => ?_⟩
      rfl
    · obtain ⟨x, takes⟩ := (reads.map some).takes value
      refine ⟨x, fun rest delimited => ?_⟩
      rw [read_option c depth value null]
      exact takes rest delimited

/-! ## One of several names -/

section
variable (choices : List (String × α))

/-- The choice that is named between quotes. -/
def named? (body : List Char) : Option α :=
  (key? body).bind fun name => (choice? choices name).toOption

theorem toOption_readChoiceName {before body : List Char} (front : Blank before)
    (quoted : Quoted body) (rest : List Char) :
    (readChoiceName choices (before ++ '"' :: (body ++ '"' :: rest))).toOption =
      (named? choices body).map (·, rest) := by
  rw [readChoiceName, skipBlanks_mark front rfl]
  simp only [toOption_bind, toOption_scanString quoted, named?]
  cases key? body with
  | none => rfl
  | some name =>
    simp only [Option.map_some, Option.bind_some, toOption_mapError]
    cases (choice? choices name).toOption <;> rfl

theorem readColon_append {between : List Char} (middle : Blank between) (rest : List Char) :
    readColon (between ++ ':' :: rest) = .ok rest := by
  rw [readColon, skipBlanks_mark middle rfl]
  rfl

theorem toOption_readNothing {padding v : List Char} (space : Blank padding) (value : Value v)
    (rest : List Char) :
    (readNothing (padding ++ (v ++ rest))).toOption =
      if v = ['n', 'u', 'l', 'l'] then some rest else none := by
  rw [readNothing, skipBlanks_value space value]
  cases value with
  | word known =>
    simp only [List.mem_cons, List.not_mem_nil, or_false] at known
    rcases known with rfl | rfl | rfl <;> rfl
  | number number =>
    obtain ⟨more, rfl | rfl | rfl | rfl | rfl | rfl | rfl | rfl | rfl | rfl⟩ := number.starts
    all_goals rfl
  | _ => rfl

/-- The end of an object whose only member named a choice. -/
def readChoiceEnd (c : α) (cs : List Char) : Reading (α × List Char) :=
  match skipBlanks cs with
  | [] => .error (Cause.endInObject.before [])
  | '\x7d' :: rest => .ok (c, rest)
  | rest => .error (Cause.wantedValue.before rest)

theorem readChoice_brace (depth : Nat) (cs : List Char) :
    readChoice choices (depth + 1) ('\x7b' :: cs) =
      (do
        let (c, rest) ← readChoiceName choices cs
        let rest ← readNothing (← readColon rest)
        readChoiceEnd c rest) := rfl

/-- Behind the name of a choice comes `null`, and then the end of the object. -/
theorem toOption_readChoice_member {before key between padding v rest : List Char}
    (front : Blank before) (quoted : Quoted key) (middle : Blank between) (space : Blank padding)
    (value : Value v) (depth : Nat) :
    (readChoice choices (depth + 1)
        ('\x7b' :: (before ++
          '"' :: (key ++ '"' :: (between ++ ':' :: (padding ++ (v ++ rest))))))).toOption =
      (if v = ['n', 'u', 'l', 'l'] then named? choices key else none).bind fun c =>
        (readChoiceEnd c rest).toOption := by
  rw [readChoice_brace, toOption_bind, toOption_readChoiceName choices front quoted]
  cases named? choices key with
  | none => rw [ite_self]; rfl
  | some c =>
    simp only [Option.map_some, Option.bind_some, readColon_append middle, ok_bind]
    rw [toOption_bind, toOption_readNothing space value]
    split <;> rfl

end

/-- A choice in an object is the name of its only member. -/
theorem takes_readChoice_object (choices : List (String × α)) (depth : Nat)
    {members : List (List Char × List Char)} {inner : List Char} (object : Members members inner) :
    ∃ x, Takes (readChoice choices (depth + 1)) ('\x7b' :: (inner ++ ['\x7d'])) x := by
  cases object with
  | @last key v before between padding after front quoted middle space value back =>
    refine ⟨if v = ['n', 'u', 'l', 'l'] then named? choices key else none, fun rest _ => ?_⟩
    have ended : ∀ c : α, readChoiceEnd c (after ++ '\x7d' :: rest) = .ok (c, rest) := by
      intro c
      rw [readChoiceEnd, skipBlanks_mark back rfl]
      rfl
    simp only [List.cons_append, List.append_assoc, List.nil_append]
    rw [toOption_readChoice_member choices front quoted middle space value]
    simp only [ended]
    split
    · cases named? choices key <;> rfl
    · rfl
  | @more key v before between padding after text members front quoted middle space value back _ =>
    refine ⟨none, fun rest _ => ?_⟩
    have refused : ∀ (c : α) rest, (readChoiceEnd c (after ++ ',' :: rest)).toOption = none := by
      intro c rest
      rw [readChoiceEnd, skipBlanks_mark back rfl]
      rfl
    simp only [List.cons_append, List.append_assoc, List.nil_append]
    rw [toOption_readChoice_member choices front quoted middle space value]
    simp only [refused, Option.bind_fun_none]
    rfl

theorem takes_choice (choices : List (String × α)) (nameOf : α → String) {body : List Char}
    (quoted : Quoted body) (depth : Nat) :
    Takes ((choice choices nameOf).read depth) ('"' :: (body ++ ['"'])) (named? choices body) := by
  intro rest _
  have named := toOption_readChoiceName choices blank_nil quoted rest
  rw [← named, List.cons_append, List.append_assoc]
  rfl

theorem readsValues_choice (choices : List (String × α)) (nameOf : α → String) (depth : Nat) :
    ReadsValues ((choice choices nameOf).read depth) where
  blanks blank cs := by simp only [choice, readChoice, skipBlanks_append blank]
  takes {v} value := by
    cases value with
    | word known =>
      simp only [List.mem_cons, List.not_mem_nil, or_false] at known
      rcases known with rfl | rfl | rfl <;> exact ⟨none, fun _ _ => rfl⟩
    | number number =>
      obtain ⟨more, rfl | rfl | rfl | rfl | rfl | rfl | rfl | rfl | rfl | rfl⟩ := number.starts
      all_goals exact ⟨none, fun _ _ => rfl⟩
    | quoted quoted => exact ⟨_, takes_choice choices nameOf quoted depth⟩
    | @emptyObject inner blank =>
      cases depth with
      | zero => exact ⟨none, fun _ _ => rfl⟩
      | succ depth =>
        refine ⟨none, fun rest _ => ?_⟩
        simp only [choice, List.cons_append, List.append_assoc, List.nil_append]
        rw [readChoice_brace, readChoiceName, skipBlanks_mark blank rfl]
        rfl
    | object members =>
      cases depth with
      | zero => exact ⟨none, fun _ _ => rfl⟩
      | succ depth => exact takes_readChoice_object choices depth members
    | _ => exact ⟨none, fun _ _ => rfl⟩

/-! ## Texts under keys -/

/-- A member of texts is taken in. -/
def readText (texts : List (String × String)) (key : String) (cs : List Char) :
    Reading (List (String × String) × List Char) := do
  let (value, rest) ← text.read 0 (← readColon cs)
  pure (Keyed.insert key value texts, rest)

theorem readTexts_eq (fuel : Nat) (first : Bool) (texts : List (String × String))
    (cs : List Char) :
    readTexts fuel first texts cs =
      readObject readText (fun texts rest => .ok (texts, rest)) fuel first texts cs := by
  induction fuel generalizing first texts cs with
  | zero => rfl
  | succ fuel ih =>
    unfold readObject
    simp only [← ih, readText, bind_assoc, pure_bind]
    rfl

def putText (texts : List (String × String)) (key : String) (v : List Char) :
    Option (List (String × String)) :=
  (Json.whole? (text.read 0) v).map fun value => Keyed.insert key value texts

theorem updates_readText : Updates readText putText := by
  intro texts key between padding v rest middle space value delimited
  have taken := (readsValues_text 0).takes_whole value rest delimited
  rw [readText, readColon_append middle, ok_bind, (readsValues_text 0).blanks space,
    toOption_bind, taken, putText]
  cases Json.whole? (text.read 0) v <;> rfl

theorem takes_texts {members : List (List Char × List Char)} {inner : List Char}
    (body : Body members inner) (depth : Nat) :
    Takes (texts.read (depth + 1)) ('\x7b' :: (inner ++ ['\x7d']))
      (members.foldlM (takeMember putText) []) := by
  intro rest _
  have opened (cs : List Char) : texts.read (depth + 1) ('\x7b' :: cs) =
      readTexts (stepsFor cs) true [] cs := rfl
  have closes (texts : List (String × String)) (rest : List Char) :
      (Except.ok (texts, rest) : Reading _).toOption = (some texts).map (·, rest) := rfl
  simp only [List.cons_append, List.append_assoc, List.nil_append]
  rw [opened, readTexts_eq, toOption_readObject_body updates_readText closes body,
    Option.bind_fun_some]

theorem readsValues_texts (depth : Nat) : ReadsValues (texts.read depth) where
  blanks blank cs := by simp only [texts, skipBlanks_append blank]
  takes {v} value := by
    cases value with
    | word known =>
      simp only [List.mem_cons, List.not_mem_nil, or_false] at known
      rcases known with rfl | rfl | rfl <;> exact ⟨none, fun _ _ => rfl⟩
    | number number =>
      obtain ⟨more, rfl | rfl | rfl | rfl | rfl | rfl | rfl | rfl | rfl | rfl⟩ := number.starts
      all_goals exact ⟨none, fun _ _ => rfl⟩
    | emptyObject blank =>
      cases depth with
      | zero => exact ⟨none, fun _ _ => rfl⟩
      | succ depth => exact ⟨_, takes_texts (.empty blank) depth⟩
    | object members =>
      cases depth with
      | zero => exact ⟨none, fun _ _ => rfl⟩
      | succ depth => exact ⟨_, takes_texts (.members members) depth⟩
    | _ => exact ⟨none, fun _ _ => rfl⟩

/-! ## Forms with a frame -/

/-- A form that is read value by value, and whose containers nest no deeper than this: to allow
more changes nothing. -/
structure Framed (c : Codec α) (deep : Nat) : Prop where
  reads : ∀ depth, ReadsValues (c.read depth)
  shallow : ∀ depth, deep ≤ depth → c.read depth = c.read deep

theorem Framed.mono {c : Codec α} {deep deeper : Nat} (framed : c.Framed deep)
    (most : deep ≤ deeper) : c.Framed deeper where
  reads := framed.reads
  shallow depth enough := by
    rw [framed.shallow depth (most.trans enough), framed.shallow deeper most]

theorem framed_whole (low high : Int) (wanted : String) : (whole low high wanted).Framed 0 where
  reads := readsValues_whole low high wanted
  shallow _ _ := rfl

theorem framed_text : text.Framed 0 where
  reads := readsValues_text
  shallow _ _ := rfl

theorem Framed.map {c : Codec α} {deep : Nat} (framed : c.Framed deep) (forth : α → β)
    (back : β → α) : (c.map forth back).Framed deep where
  reads depth := (framed.reads depth).map forth
  shallow depth enough := by simp only [Codec.map, framed.shallow depth enough]

theorem framed_uint64 : uint64.Framed 0 := (framed_whole _ _ _).map _ _

theorem framed_uint32 : uint32.Framed 0 := (framed_whole _ _ _).map _ _

theorem Framed.option {c : Codec α} {deep : Nat} (framed : c.Framed deep) :
    c.option.Framed deep where
  reads depth := readsValues_option (framed.reads depth)
  shallow depth enough := by simp only [Codec.option, framed.shallow depth enough]

theorem framed_choice (choices : List (String × α)) (nameOf : α → String) :
    (choice choices nameOf).Framed 1 where
  reads := readsValues_choice choices nameOf
  shallow depth enough := by
    obtain ⟨depth, rfl⟩ := Nat.exists_eq_add_of_le' enough
    rfl

theorem framed_texts : texts.Framed 1 where
  reads := readsValues_texts
  shallow depth enough := by
    obtain ⟨depth, rfl⟩ := Nat.exists_eq_add_of_le' enough
    rfl

end Codec

end IngestWatch
