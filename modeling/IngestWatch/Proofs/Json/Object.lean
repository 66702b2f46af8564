import IngestWatch.Codec.Record
import IngestWatch.Proofs.Json.Skip

/-!
Objects read member by member. Whatever is made of the members, the loop over them is the same:
it takes a key, lets a step take the value, and goes on behind the comma. Where the step takes
values one by one, the loop comes to what the step makes of the members in their order.
-/

namespace IngestWatch.Json

/-! ## Values one by one -/

/-- A scanner that passes over blanks and then takes one value, whatever it makes of it. -/
structure ReadsValues {β : Type} (scan : List Char → Reading (β × List Char)) : Prop where
  blanks : ∀ {blanks : List Char}, Blank blanks → ∀ cs, scan (blanks ++ cs) = scan cs
  takes : ∀ {v : List Char}, Value v → ∃ x, Takes scan v x

namespace ReadsValues

variable {β γ : Type} {scan : List Char → Reading (β × List Char)}

theorem takes_whole (reads : ReadsValues scan) {v : List Char} (value : Value v) :
    Takes scan v (whole? scan v) := by
  obtain ⟨x, takes⟩ := reads.takes value
  rwa [takes.alone]

theorem map (reads : ReadsValues scan) (f : β → γ) :
    ReadsValues fun cs => (scan cs).map fun (v, rest) => (f v, rest) where
  blanks blank cs := by rw [reads.blanks blank]
  takes {v} value := by
    obtain ⟨x, takes⟩ := reads.takes value
    refine ⟨x.map f, fun rest delimited => ?_⟩
    rw [toOption_map, takes rest delimited, Option.map_map, Option.map_map]
    rfl

end ReadsValues

/-! ## Keys -/

/-- The key that stands between quotes. -/
def key? (body : List Char) : Option String :=
  (scanString (body ++ ['"'])).toOption.map Prod.fst

theorem toOption_scanString {body : List Char} (quoted : Quoted body) (rest : List Char) :
    (scanString (body ++ '"' :: rest)).toOption = (key? body).map (·, rest) := by
  obtain ⟨x, read⟩ := takes_scanString quoted
  rw [key?, read, read, Option.map_map, Option.map_map]
  rfl

/-! ## The loop -/

section
variable {σ β : Type} (step : σ → String → List Char → Reading (σ × List Char))
  (close : σ → List Char → Reading (β × List Char))

/-- The members of an object up to its closing brace; `first` before any was read. -/
def readObject : Nat → Bool → σ → List Char → Reading (β × List Char)
  | 0, _, _, cs => .error (Cause.endInObject.before cs)
  | fuel + 1, first, s, cs =>
    let member (rest : List Char) := do
      let (key, rest) ← scanString rest
      let (s, rest) ← step s key rest
      readObject fuel false s rest
    match skipBlanks cs with
    | [] => .error (Cause.endInObject.within [])
    | '\x7d' :: rest => close s rest
    | c :: rest =>
      if first then
        if c = '"' then member rest else .error (Cause.keyNotString.within (c :: rest))
      else if c = ',' then
        match skipBlanks rest with
        | [] => .error (Cause.endInValue.within [])
        | '"' :: rest => member rest
        | '\x7d' :: rest => .error (Cause.trailingComma.within ('\x7d' :: rest))
        | rest => .error (Cause.keyNotString.within rest)
      else .error (Cause.wantedObjectEnd.within (c :: rest))

variable {before after : List Char} (fuel : Nat) (first : Bool) (s : σ) (cs : List Char)

theorem readObject_end (back : Blank after) :
    readObject step close (fuel + 1) first s (after ++ '\x7d' :: cs) = close s cs := by
  rw [readObject, skipBlanks_mark back rfl]
  rfl

theorem readObject_first (front : Blank before) :
    readObject step close (fuel + 1) true s (before ++ '"' :: cs) =
      (do
        let (key, rest) ← scanString cs
        let (s, rest) ← step s key rest
        readObject step close fuel false s rest) := by
  rw [readObject, skipBlanks_mark front rfl]
  rfl

theorem readObject_next (back : Blank after) (front : Blank before) :
    readObject step close (fuel + 1) false s (after ++ ',' :: (before ++ '"' :: cs)) =
      readObject step close (fuel + 1) true s (before ++ '"' :: cs) := by
  have quote : skipBlanks (before ++ '"' :: cs) = '"' :: cs := skipBlanks_mark front rfl cs
  rw [readObject_first step close fuel s cs front, readObject, skipBlanks_mark back rfl]
  simp [quote]

end

section
variable {σ β : Type} {step : σ → String → List Char → Reading (σ × List Char)}
  {close : σ → List Char → Reading (β × List Char)} {update : σ → String → List Char → Option σ}
  {done : σ → Option β}

/-- A step that takes the value behind a colon and makes of it what `update` says. -/
def Updates (step : σ → String → List Char → Reading (σ × List Char))
    (update : σ → String → List Char → Option σ) : Prop :=
  ∀ (s : σ) (key : String) {between padding v rest : List Char}, Blank between → Blank padding →
    Value v → Delimited rest →
    (step s key (between ++ ':' :: (padding ++ (v ++ rest)))).toOption =
      (update s key v).map (·, rest)

/-- What becomes of a state with one more member. -/
def takeMember (update : σ → String → List Char → Option σ) (s : σ)
    (m : List Char × List Char) : Option σ :=
  (key? m.1).bind fun key => update s key m.2

/-- One member is taken, and the loop goes on behind its value. -/
theorem toOption_readObject_member (updates : Updates step update)
    {before key between padding v rest : List Char} (front : Blank before) (quoted : Quoted key)
    (middle : Blank between) (space : Blank padding) (value : Value v)
    (delimited : Delimited rest) (fuel : Nat) (s : σ) :
    (readObject step close (fuel + 1) true s
        (before ++ '"' :: (key ++ '"' :: (between ++ ':' :: (padding ++ (v ++ rest)))))).toOption =
      (takeMember update s (key, v)).bind fun s =>
        (readObject step close fuel false s rest).toOption := by
  rw [readObject_first _ _ _ _ _ front, toOption_bind, toOption_scanString quoted, takeMember]
  cases key? key with
  | none => rfl
  | some key =>
    have taken := updates s key middle space value delimited
    simp only [Option.map_some, Option.bind_some, toOption_bind, taken]
    cases update s key v <;> rfl

/-- The members of an object are taken in their order, up to its closing brace. -/
theorem toOption_readObject (updates : Updates step update)
    (closes : ∀ s rest, (close s rest).toOption = (done s).map (·, rest))
    {members : List (List Char × List Char)} {text : List Char} :
    Members members text → ∀ (fuel : Nat) (s : σ) (rest : List Char), text.length < fuel →
      (readObject step close fuel true s (text ++ '\x7d' :: rest)).toOption =
        ((members.foldlM (takeMember update) s).bind done).map (·, rest)
  | @Members.last key v _ _ _ _ front quoted middle space value back, fuel, s, rest, enough => by
    simp only [List.length_append, List.length_cons] at enough
    obtain ⟨fuel, rfl⟩ := Nat.exists_eq_add_of_le' (show 2 ≤ fuel by omega)
    have delimited := delimited_append back (delimited_mark (c := '\x7d') (by decide) rest)
    simp only [List.append_assoc, List.cons_append, List.foldlM_cons, List.foldlM_nil]
    rw [toOption_readObject_member updates front quoted middle space value delimited]
    cases takeMember update s (key, v) with
    | none => rfl
    | some s =>
      have closed := closes s rest
      rw [← readObject_end step close fuel false s rest back] at closed
      exact closed
  | @Members.more key v _ _ _ _ text _ front quoted middle space value back others,
      fuel, s, rest, enough => by
    simp only [List.length_append, List.length_cons] at enough
    obtain ⟨fuel, rfl⟩ := Nat.exists_eq_add_of_le' (show 2 ≤ fuel by omega)
    have delimited := delimited_append back
      (delimited_mark (c := ',') (by decide) (text ++ '\x7d' :: rest))
    simp only [List.append_assoc, List.cons_append, List.foldlM_cons]
    rw [toOption_readObject_member updates front quoted middle space value delimited]
    cases takeMember update s (key, v) with
    | none => rfl
    | some s =>
      have onwards := toOption_readObject updates closes others (fuel + 1) s rest (by omega)
      obtain ⟨before, more, rfl, blank⟩ := others.begins
      simp only [List.append_assoc, List.cons_append] at onwards ⊢
      rw [← readObject_next step close fuel s _ back blank] at onwards
      exact onwards

/-- What stands between the braces of an object. -/
inductive Body : List (List Char × List Char) → List Char → Prop where
  | empty {inner : List Char} (blank : Blank inner) : Body [] inner
  | members {members : List (List Char × List Char)} {inner : List Char}
      (object : Members members inner) : Body members inner

theorem toOption_readObject_body (updates : Updates step update)
    (closes : ∀ s rest, (close s rest).toOption = (done s).map (·, rest))
    {members : List (List Char × List Char)} {inner : List Char} (body : Body members inner)
    (s : σ) (rest : List Char) :
    (readObject step close (stepsFor (inner ++ '\x7d' :: rest)) true s
        (inner ++ '\x7d' :: rest)).toOption =
      ((members.foldlM (takeMember update) s).bind done).map (·, rest) := by
  cases body with
  | empty blank =>
    rw [stepsFor, readObject_end _ _ _ _ _ _ blank]
    exact closes s rest
  | members object =>
    refine toOption_readObject updates closes object _ s rest ?_
    rw [stepsFor, List.length_append]
    omega

end

/-! ## What the members keep -/

section
variable {σ β : Type} {step : σ → String → List Char → Reading (σ × List Char)}
  {close : σ → List Char → Reading (β × List Char)} {I : σ → Prop} {P : β → Prop}

/-- What every member keeps holds when the object is closed. -/
theorem readObject_keeps
    (steps : ∀ {s key cs s' rest}, I s → step s key cs = .ok (s', rest) → I s')
    (closes : ∀ {s cs v rest}, I s → close s cs = .ok (v, rest) → P v)
    {fuel : Nat} {first : Bool} {s : σ} {cs rest : List Char} {v : β} (kept : I s)
    (read : readObject step close fuel first s cs = .ok (v, rest)) : P v := by
  induction fuel generalizing first s cs with
  | zero => cases read
  | succ fuel ih =>
    have member {rest' : List Char} (more : (do
        let (key, rest) ← scanString rest'
        let (s, rest) ← step s key rest
        readObject step close fuel false s rest) = .ok (v, rest)) : P v := by
      obtain ⟨⟨key, behindKey⟩, -, more⟩ := bind_eq_ok.mp more
      obtain ⟨⟨next, behind⟩, taken, more⟩ := bind_eq_ok.mp more
      exact ih (steps kept taken) more
    rw [readObject] at read
    split at read
    · cases read
    · exact closes kept read
    · split at read
      · split at read
        · exact member read
        · cases read
      · split at read
        · split at read
          · cases read
          · exact member read
          · cases read
          · cases read
        · cases read

end

end IngestWatch.Json
