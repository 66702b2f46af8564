import IngestWatch.Proofs.CommandLine.Flags
import IngestWatch.Proofs.Decimal.Whole
import IngestWatch.Proofs.Text

/-!
One argument read into two states that agree in all but the text of the log level. Both states
still agree then, or the argument is refused on both sides. An option that stands where a number
or a name is wanted will not do there, whatever text is attached to it.
-/

namespace IngestWatch.CommandLine

/-! ## Refusals -/

/-- Both faults are what was asked for, or both are complaints. -/
def Fault.Alike (f f' : Fault) : Prop :=
  f.isAnswer = f'.isAnswer

theorem Fault.Alike.refl (f : Fault) : f.Alike f := rfl

theorem Fault.alike_help (text text' : String) : (Fault.help text).Alike (.help text') := rfl

theorem Fault.alike_version (text text' : String) :
    (Fault.version text).Alike (.version text') := rfl

theorem Fault.alike_noCommand (text text' : String) :
    (Fault.noCommand text).Alike (.noCommand text') := rfl

/-- There is a complaint. -/
def Refused {α : Type} (x : Except Fault α) : Prop :=
  ∃ fault, x = .error fault ∧ fault.isAnswer = false

section
variable {α β α' : Type}

theorem Refused.bind {x : Except Fault α} (refused : Refused x) (f : α → Except Fault β) :
    Refused (x >>= f) := by
  obtain ⟨fault, rfl, complaint⟩ := refused
  exact ⟨fault, rfl, complaint⟩

theorem Refused.together {x : Except Fault α} {x' : Except Fault α'} (refused : Refused x)
    (refused' : Refused x') (R : α → α' → Prop) : Together Fault.Alike R x x' := by
  obtain ⟨fault, rfl, complaint⟩ := refused
  obtain ⟨fault', rfl, complaint'⟩ := refused'
  exact .error (complaint.trans complaint'.symm)

end

theorem Kind.check_ok_or_refused (kind : Kind) (argument value : String) :
    kind.check argument value = .ok () ∨ Refused (kind.check argument value) := by
  cases kind with
  | text => exact Or.inl rfl
  | path =>
    rw [check]
    split
    · exact Or.inr ⟨_, rfl, rfl⟩
    · exact Or.inl rfl
  | uint64 =>
    rw [check]
    cases Decimal.readUInt64 value with
    | ok n => exact Or.inl rfl
    | error fault => exact Or.inr ⟨_, rfl, rfl⟩
  | int64 =>
    rw [check]
    cases Decimal.readInt64 value with
    | ok n => exact Or.inl rfl
    | error fault => exact Or.inr ⟨_, rfl, rfl⟩
  | uint32 =>
    rw [check]
    cases Decimal.readInt64 value with
    | ok n =>
      change (if 0 ≤ n ∧ n < 0x100000000 then (pure () : Except Fault Unit) else _) = _ ∨
        Refused (if 0 ≤ n ∧ n < 0x100000000 then (pure () : Except Fault Unit) else _)
      split
      · exact Or.inl rfl
      · exact Or.inr ⟨_, rfl, rfl⟩
    | error fault => exact Or.inr ⟨_, rfl, rfl⟩
  | choice names =>
    rw [check]
    split
    · exact Or.inl rfl
    · split
      · exact Or.inr ⟨_, rfl, rfl⟩
      · exact Or.inr ⟨_, rfl, rfl⟩

/-! ## What is read -/

/-- The option that says how much is logged. -/
def levelName : String := "log-level"

/-- Two texts that are given for an argument: the same text or none, or any two for the log
level. -/
def Argument.Alike (a : Argument) (v v' : Option String) : Prop :=
  v = v' ∨ a.name = levelName ∧ a.kind = .text ∧ v.isSome = true ∧ v'.isSome = true

/-- Two entries of one name; only of the log level may the texts differ. -/
def Settled (e e' : String × Option String) : Prop :=
  e.1 = e'.1 ∧ (e.1 ≠ levelName → e.2 = e'.2)

/-- The last argument of two states, with or without its text. -/
inductive Pending : Option (Argument × Option String) → Option (Argument × Option String) → Prop
  where
  | none : Pending none none
  | some {a : Argument} {v v' : Option String} (alike : a.Alike v v') :
      Pending (some (a, v)) (some (a, v'))

/-- Two states that agree in all but the text of the log level. What they wait for, if anything,
is the text of an option. -/
structure State.Alike (c : Command) (s s' : State) : Prop where
  settled : List.Forall₂ Settled s.settled s'.settled
  pending : Pending s.pending s'.pending
  awaited : ∀ a, s.pending = some (a, none) →
    ∃ o ∈ c.allOptions, ∃ v, o.value = some v ∧ a = o.argument v
  operandSeen : s.operandSeen = s'.operandSeen

theorem isSome_lookup_eq {l l' : List (String × Option String)} (same : List.Forall₂ Settled l l')
    (name : String) : (l.lookup name).isSome = (l'.lookup name).isSome := by
  induction same with
  | nil => rfl
  | @cons e e' rest rest' entry _ ih =>
    obtain ⟨key, value⟩ := e
    obtain ⟨key', value'⟩ := e'
    obtain ⟨rfl, -⟩ : key = key' ∧ _ := entry
    rw [List.lookup_cons, List.lookup_cons]
    cases name == key with
    | true => rfl
    | false => exact ih

theorem lookup_eq {l l' : List (String × Option String)} (same : List.Forall₂ Settled l l')
    {name : String} (other : name ≠ levelName) : l.lookup name = l'.lookup name := by
  induction same with
  | nil => rfl
  | @cons e e' rest rest' entry _ ih =>
    obtain ⟨key, value⟩ := e
    obtain ⟨key', value'⟩ := e'
    obtain ⟨rfl, equal⟩ : key = key' ∧ (key ≠ levelName → value = value') := entry
    rw [List.lookup_cons, List.lookup_cons]
    by_cases here : name = key
    · rw [equal (here ▸ other), ih]
    · have skip : (name == key) = false := by simpa using here
      rw [skip, ih]

namespace State

variable {c : Command} {s s' : State}

theorem alike_initial (c : Command) : initial.Alike c initial :=
  ⟨.nil, .none, by rintro _ ⟨⟩, rfl⟩

theorem Alike.awaited_eq (alike : s.Alike c s') : s.awaited = s'.awaited := by
  obtain ⟨settled, pending, seen⟩ := s
  obtain ⟨settled', pending', seen'⟩ := s'
  obtain ⟨-, last, -, -⟩ := alike
  change Pending pending pending' at last
  cases last with
  | none => rfl
  | some same =>
    rcases same with rfl | ⟨-, -, given, given'⟩
    · rfl
    · obtain ⟨t, rfl⟩ := Option.isSome_iff_exists.mp given
      obtain ⟨t', rfl⟩ := Option.isSome_iff_exists.mp given'
      rfl

/-! ## Settling -/

theorem add_refused {name shown : String} {value : Option String} (there : s.has name = true) :
    Refused (s.add name shown value) :=
  ⟨_, if_pos there, rfl⟩

theorem Alike.add (alike : s.Alike c s') {name : String} {value value' : Option String}
    (same : name ≠ levelName → value = value') (shown : String) :
    Together Fault.Alike (Alike c) (s.add name shown value) (s'.add name shown value') := by
  have has : s.has name = s'.has name := isSome_lookup_eq alike.settled name
  cases there : s.has name with
  | true => exact (add_refused there).together (add_refused (has ▸ there)) _
  | false =>
    rw [State.add, State.add, ← has, there]
    have entry : Settled (name, value) (name, value') := ⟨rfl, same⟩
    exact .ok ⟨List.rel_append alike.settled (.cons entry .nil), alike.pending, alike.awaited,
      alike.operandSeen⟩

theorem Alike.addValue (alike : s.Alike c s') {a : Argument} {v v' : String}
    (same : a.Alike (some v) (some v')) :
    Together Fault.Alike (Alike c) (s.addValue a v) (s'.addValue a v') := by
  have texts : a.name ≠ levelName → (some v : Option String) = some v' := by
    intro other
    rcases same with equal | ⟨level, -⟩
    · exact equal
    · exact absurd level other
  refine (alike.add texts a.shown).bind fun t t' alike => ?_
  have checks : Together Fault.Alike (fun _ _ => True) (a.kind.check a.shown v)
      (a.kind.check a.shown v') := by
    rcases same with equal | ⟨-, kind, -⟩
    · obtain rfl := Option.some.inj equal
      rcases a.kind.check_ok_or_refused a.shown v with fine | refused
      · rw [fine]
        exact .ok trivial
      · exact refused.together refused _
    · rw [kind]
      exact .ok trivial
  exact checks.bind fun _ _ _ => .ok alike

theorem settle_of_none {a : Argument} (waits : s.pending = some (a, none)) : Refused s.settle := by
  rw [settle, waits]
  exact ⟨_, rfl, rfl⟩

theorem Alike.settle (alike : s.Alike c s') :
    Together Fault.Alike (Alike c) s.settle s'.settle := by
  obtain ⟨settled, pending, seen⟩ := s
  obtain ⟨settled', pending', seen'⟩ := s'
  have ⟨entries, last, awaited, operand⟩ := alike
  change Pending pending pending' at last
  cases last with
  | none => exact .ok alike
  | @some a v v' same =>
    cases v with
    | none =>
      have waits' : v' = none := by
        rcases same with equal | ⟨-, -, given, -⟩
        · exact equal.symm
        · cases given
      subst waits'
      exact (settle_of_none rfl).together (settle_of_none rfl) _
    | some t =>
      cases v' with
      | none =>
        rcases same with equal | ⟨-, -, -, given⟩
        · cases equal
        · cases given
      | some t' =>
        have idle : Alike c ⟨settled, none, seen⟩ ⟨settled', none, seen'⟩ :=
          ⟨entries, .none, by rintro _ ⟨⟩, operand⟩
        exact idle.addValue same

theorem Alike.begin_ (alike : s.Alike c s') {a : Argument} {v v' : Option String}
    (same : a.Alike v v')
    (option : v = none → ∃ o ∈ c.allOptions, ∃ w, o.value = some w ∧ a = o.argument w) :
    Together Fault.Alike (fun t t' => Alike c t t' ∧ t.pending = some (a, v)) (s.begin_ a v)
      (s'.begin_ a v') := by
  refine alike.settle.bind fun t t' alike => .ok ⟨⟨alike.settled, .some same, ?_,
    alike.operandSeen⟩, rfl⟩
  rintro b waits
  obtain ⟨rfl, rfl⟩ := Prod.mk.inj (Option.some.inj waits)
  exact option rfl

theorem Alike.give (alike : s.Alike c s') {a : Argument} (waits : s.awaited = some a)
    {v v' : String} (same : a.Alike (some v) (some v')) : (s.give v).Alike c (s'.give v') := by
  have waits' := alike.awaited_eq.symm.trans waits
  have pending {s : State} (waits : s.awaited = some a) (v : String) :
      (s.give v).pending = some (a, some v) := by
    unfold State.awaited at waits
    split at waits
    · next here =>
      obtain rfl := Option.some.inj waits
      rw [State.give, here]
      rfl
    · cases waits
  refine ⟨alike.settled, ?_, fun b none => ?_, alike.operandSeen⟩
  · rw [pending waits, pending waits']
    exact .some same
  · rw [pending waits] at none
    cases none

theorem settle_ok_or_refused (s : State) : (∃ t, s.settle = .ok t) ∨ Refused s.settle := by
  have value (s : State) (a : Argument) (text : String) :
      (∃ t, s.addValue a text = .ok t) ∨ Refused (s.addValue a text) := by
    cases there : s.has a.name with
    | true => exact Or.inr ((add_refused there).bind _)
    | false =>
      rw [addValue, add, there]
      rcases a.kind.check_ok_or_refused a.shown text with fine | refused
      · exact Or.inl ⟨_, by rw [fine]; rfl⟩
      · exact Or.inr (refused.bind _)
  unfold settle
  split
  · exact Or.inl ⟨s, rfl⟩
  · exact Or.inr ⟨_, rfl, rfl⟩
  · exact value _ _ _

/-- A text has come that will not do for its argument. -/
def Stuck (s : State) : Prop :=
  ∃ a text, s.pending = some (a, some text) ∧ Refused (a.kind.check a.shown text)

theorem Stuck.settle (stuck : s.Stuck) : Refused s.settle := by
  obtain ⟨a, text, pending, refused⟩ := stuck
  rw [State.settle, pending]
  dsimp only
  rw [addValue]
  cases there : State.has { s with pending := none } a.name with
  | true => exact (add_refused there).bind _
  | false =>
    rw [add, there]
    exact refused.bind _

theorem Stuck.awaited (stuck : s.Stuck) : s.awaited = none := by
  obtain ⟨a, text, pending, -⟩ := stuck
  rw [State.awaited, pending]

end State

/-! ## Commands -/

/-- The variables that only say what is logged. -/
def logVariables : List String :=
  ["INGEST_METRICS_LOG_LEVEL", "INGEST_METRICS_LOG_FORMAT", "RUST_LOG"]

/-- A command with a log level of its own or without one. The log level takes any text, and no
other option has its letter; where a text may begin with a hyphen it has to be a number; an
operand is one of some names, none of which begins with a hyphen, and neither does the name of
a command. -/
structure Command.Lays (c : Command) : Prop where
  opened : c.Open
  level : ∀ o ∈ c.allOptions, o.name = levelName ∨ o.letter = some 'l' →
    o.name = levelName ∧ o.value.map (fun v => (v.kind, v.signed)) = some (.text, false)
  signed : ∀ o ∈ c.allOptions, ∀ v, o.value = some v → v.signed = true →
    v.kind = .int64 ∧ c.isGroup = false
  operand : ∀ o, c.operand = some o → c.isGroup = false ∧ o.kind = .choice o.kind.choices ∧
    ∀ name ∈ o.kind.choices, name.toList.head? ≠ some '-'
  silent : ∀ o ∈ c.options, o.name ≠ levelName → ∀ v, o.value = some v →
    ∀ name, v.envName = some name → name ∉ logVariables
  names : ∀ sub ∈ c.commands, sub.name.toList.head? ≠ some '-'

/-- A command with all below it. -/
inductive Command.Levelled : Command → Prop where
  | mk {c : Command} (own : c.Lays) (below : ∀ sub ∈ c.commands, sub.Levelled) : c.Levelled

theorem Command.Levelled.own {c : Command} (levelled : c.Levelled) : c.Lays := by
  cases levelled with
  | mk own below => exact own

theorem Command.Levelled.find? {c sub : Command} (levelled : c.Levelled) {name : String}
    (found : c.find? name = some sub) : sub.Levelled := by
  cases levelled with
  | mk own below => exact below sub (List.mem_of_find?_eq_some found)

/-! ## One argument -/

namespace Command

variable {c : Command} {env env' : Variables} {path : List String} {s s' : State}

theorem readOpt_alike {o : Opt} (member : o ∈ c.allOptions) {attached attached' : Option String}
    (same : attached = attached' ∨ o.name = levelName ∧ o.value.map Value.kind = some .text ∧
      attached.isSome = true ∧ attached'.isSome = true) (alike : s.Alike c s') :
    Together Fault.Alike (State.Alike c) (c.readOpt ⟨env, path⟩ o attached s)
      (c.readOpt ⟨env', path⟩ o attached' s') := by
  cases value : o.value with
  | none =>
    simp only [readOpt, value]
    refine alike.settle.bind fun t t' alike => ?_
    split
    · exact .error (Fault.alike_help _ _)
    · split
      · exact .error (Fault.alike_version _ _)
      · exact alike.add (fun _ => rfl) _
  | some v =>
    have texts : (o.argument v).Alike attached attached' := by
      rcases same with rfl | ⟨level, kind, given⟩
      · exact Or.inl rfl
      · rw [value] at kind
        exact Or.inr ⟨level, Option.some.inj kind, given⟩
    simp only [readOpt, value]
    cases attached with
    | none =>
      obtain rfl : none = attached' := same.resolve_right fun told =>
        Bool.false_ne_true told.2.2.1
      exact (alike.begin_ texts fun _ => ⟨o, member, v, value, rfl⟩).mono fun _ _ both => both.1
    | some text =>
      cases attached' with
      | none =>
        rcases same with equal | ⟨-, -, -, given⟩
        · cases equal
        · cases given
      | some text' => exact alike.settle.bind fun t t' alike => alike.addValue texts

/-- Two long arguments: the same one, or two that give the log level. -/
def Longs (cs cs' : List Char) : Prop :=
  cs = cs' ∨ ∃ v v', cs = levelName.toList ++ '=' :: v ∧ cs' = levelName.toList ++ '=' :: v'

/-- Two arguments in letters: the same one, or two that give the log level. -/
def Letters (cs cs' : List Char) : Prop :=
  cs = cs' ∨ ∃ v v', v ≠ [] ∧ v' ≠ [] ∧ cs = 'l' :: v ∧ cs' = 'l' :: v'

theorem kind_of_level (lays : c.Lays) {o : Opt} (member : o ∈ c.allOptions)
    (level : o.name = levelName ∨ o.letter = some 'l') :
    o.name = levelName ∧ o.value.map Value.kind = some .text ∧ o.value.isNone = false := by
  obtain ⟨name, value⟩ := lays.level o member level
  obtain ⟨v, valued, same⟩ := Option.map_eq_some_iff.mp value
  have kind : v.kind = .text := congrArg Prod.fst same
  exact ⟨name, by simp [valued, kind], by simp [valued]⟩

theorem cutAt?_level (v : List Char) :
    Text.cutAt? '=' (levelName.toList ++ '=' :: v) = some (levelName.toList, v) :=
  Text.cutAt?_append (by decide) v

theorem readLong_alike (lays : c.Lays) {cs cs' : List Char} (longs : Longs cs cs')
    (alike : s.Alike c s') :
    Together Fault.Alike (State.Alike c) (c.readLong ⟨env, path⟩ cs s)
      (c.readLong ⟨env', path⟩ cs' s') := by
  rcases longs with rfl | ⟨v, v', rfl, rfl⟩
  · unfold readLong
    cases Text.cutAt? '=' cs with
    | none =>
      dsimp only
      cases found : c.allOptions.find? (·.name = String.ofList cs) with
      | none => exact .error (.refl _)
      | some o => exact readOpt_alike (List.mem_of_find?_eq_some found) (Or.inl rfl) alike
    | some parts =>
      dsimp only
      cases found : c.allOptions.find? (·.name = String.ofList parts.1) with
      | none => exact .error (.refl _)
      | some o =>
        dsimp only
        split
        · exact .error (.refl _)
        · exact readOpt_alike (List.mem_of_find?_eq_some found) (Or.inl rfl) alike
  · rw [readLong, readLong, cutAt?_level, cutAt?_level]
    dsimp only
    rw [String.ofList_toList]
    cases found : c.allOptions.find? (·.name = levelName) with
    | none => exact .error (.refl _)
    | some o =>
      have member := List.mem_of_find?_eq_some found
      have named : o.name = levelName := by simpa using List.find?_some found
      obtain ⟨-, kind, valued⟩ := kind_of_level lays member (Or.inl named)
      simp only [valued, Bool.false_eq_true, if_false]
      exact readOpt_alike member (Or.inr ⟨named, kind, rfl, rfl⟩) alike

theorem readLetters_same (letters : List Char) (alike : s.Alike c s') :
    Together Fault.Alike (State.Alike c) (c.readLetters ⟨env, path⟩ letters s)
      (c.readLetters ⟨env', path⟩ letters s') := by
  induction letters generalizing s s' with
  | nil => exact .ok alike
  | cons letter rest ih =>
    rw [readLetters, readLetters]
    cases found : c.allOptions.find? (·.letter = some letter) with
    | none => exact .error (.refl _)
    | some o =>
      have one (attached : Option String) :
          Together Fault.Alike (State.Alike c) (c.readOpt ⟨env, path⟩ o attached s)
            (c.readOpt ⟨env', path⟩ o attached s') :=
        readOpt_alike (List.mem_of_find?_eq_some found) (Or.inl rfl) alike
      dsimp only
      split
      · exact (one none).bind fun t t' alike => ih alike
      · split <;> exact one _

theorem readLetters_alike (lays : c.Lays) {cs cs' : List Char} (letters : Letters cs cs')
    (alike : s.Alike c s') :
    Together Fault.Alike (State.Alike c) (c.readLetters ⟨env, path⟩ cs s)
      (c.readLetters ⟨env', path⟩ cs' s') := by
  rcases letters with rfl | ⟨v, v', given, given', rfl, rfl⟩
  · exact readLetters_same cs alike
  · rw [readLetters, readLetters]
    cases found : c.allOptions.find? (·.letter = some 'l') with
    | none => exact .error (.refl _)
    | some o =>
      have member := List.mem_of_find?_eq_some found
      have letter : o.letter = some 'l' := by simpa using List.find?_some found
      obtain ⟨named, kind, valued⟩ := kind_of_level lays member (Or.inr letter)
      have one (text text' : String) :
          Together Fault.Alike (State.Alike c) (c.readOpt ⟨env, path⟩ o (some text) s)
            (c.readOpt ⟨env', path⟩ o (some text') s') :=
        readOpt_alike member (Or.inr ⟨named, kind, rfl, rfl⟩) alike
      simp only [valued, Bool.false_eq_true, if_false]
      split
      · exact absurd rfl given
      all_goals
        split
        · exact absurd rfl given'
        all_goals exact one _ _

theorem readOperand_same (free : Bool) (text : String) (alike : s.Alike c s') :
    Together Fault.Alike (State.Alike c) (c.readOperand free text s)
      (c.readOperand free text s') := by
  rw [readOperand, readOperand, ← alike.operandSeen]
  split
  · have begun (a : Argument) := alike.begin_ (a := a) (v := some text) (Or.inl rfl)
      fun none => nomatch none
    refine (begun _).bind fun t t' both => ?_
    exact .ok ⟨both.1.settled, both.1.pending, both.1.awaited, rfl⟩
  · rw [refuse]
    split <;> exact .error (.refl _)

/-! ## Texts that will not do -/

section
variable {ctx : Context} (stuck : s.Stuck)
include stuck

theorem readOpt_of_stuck (o : Opt) (attached : Option String) :
    Refused (c.readOpt ctx o attached s) := by
  have refused := stuck.settle
  cases value : o.value with
  | none =>
    simp only [readOpt, value]
    exact refused.bind _
  | some v =>
    simp only [readOpt, value]
    cases attached with
    | none => exact refused.bind _
    | some text => exact refused.bind _

theorem readLong_of_stuck (cs : List Char) : Refused (c.readLong ctx cs s) := by
  unfold readLong
  dsimp only
  split
  · exact ⟨_, rfl, rfl⟩
  · split
    · exact ⟨_, rfl, rfl⟩
    · exact readOpt_of_stuck stuck _ _
  · exact readOpt_of_stuck stuck _ _

theorem readLetters_of_stuck (letter : Char) (rest : List Char) :
    Refused (c.readLetters ctx (letter :: rest) s) := by
  rw [readLetters]
  split
  · exact ⟨_, rfl, rfl⟩
  · split
    · exact (readOpt_of_stuck stuck _ _).bind _
    · split <;> exact readOpt_of_stuck stuck _ _

theorem readOperand_of_stuck (free : Bool) (text : String) :
    Refused (c.readOperand free text s) := by
  rw [readOperand]
  split
  · exact (stuck.settle.bind _).bind _
  · rw [refuse]
    split <;> exact ⟨_, rfl, rfl⟩

/-- Whatever comes behind a text that will not do, the command is refused. -/
theorem read_of_stuck (single : c.isGroup = false) (command : List String) (free : Bool)
    (arguments : List String) : Refused (c.read ctx command free s arguments) := by
  have alone (name : String) : c.find? name = none := by
    have empty : c.commands = [] := by simpa [isGroup] using single
    rw [find?, empty]
    rfl
  induction arguments generalizing free with
  | nil =>
    rw [read, finish]
    exact stuck.settle.bind _
  | cons text rest ih =>
    have operand (free : Bool) := (readOperand_of_stuck (c := c) stuck free text).bind
      fun t => c.read ctx command free t rest
    rw [read]
    cases free with
    | true => exact operand true
    | false =>
      simp only [Bool.false_eq_true, if_false, stuck.awaited, alone, single, false_and]
      split
      · exact ih true
      · split
        · exact (readLong_of_stuck stuck _).bind _
        · next letters shape =>
          cases letters with
          | nil =>
            have some : Hyphened.of text.toList ≠ .letters [] := by
              unfold Hyphened.of
              split <;> simp
            exact absurd shape some
          | cons letter others => exact (readLetters_of_stuck stuck letter others).bind _
        · exact operand false

end

/-- A text that begins with a hyphen and is no number, nor two hyphens. -/
def Hyphen (text : String) : Prop :=
  text ≠ "--" ∧ ∃ ch rest, text.toList = '-' :: ch :: rest ∧ ch.isDigit = false

theorem refused_int64 {text : String} (hyphen : Hyphen text) (shown : String) :
    Refused (Kind.int64.check shown text) := by
  obtain ⟨-, ch, rest, begins, letter⟩ := hyphen
  have none : ¬ ('0' ≤ ch ∧ ch ≤ '9') := by
    rw [← Decimal.isDigit_iff, letter]
    exact Bool.false_ne_true
  have failed : Decimal.readInt64 text = .error .badDigit := by
    rw [Decimal.readInt64, Decimal.readWhole, begins]
    simp [Decimal.takeDigits, none]
  refine ⟨.badValue text shown Decimal.NumberFault.badDigit.message, ?_, rfl⟩
  simp only [Kind.check, failed]
  rfl

theorem refused_choice {names : List String} (plain : ∀ name ∈ names, name.toList.head? ≠ some '-')
    {text : String} (hyphen : Hyphen text) (shown : String) :
    Refused ((Kind.choice names).check shown text) := by
  obtain ⟨-, ch, rest, begins, -⟩ := hyphen
  refine ((Kind.choice names).check_ok_or_refused shown text).resolve_left fun fine => ?_
  have member : text ∈ names := by
    by_contra absent
    have other : names.contains text = false := by simpa using absent
    simp only [Kind.check, other, Bool.false_eq_true, if_false] at fine
    split at fine <;> cases fine
  exact plain text member (by rw [begins]; rfl)

/-- Behind two hyphens no text with a hyphen is taken. -/
theorem read_free_of_hyphen (lays : c.Lays) {ctx : Context} {text : String} (hyphen : Hyphen text)
    (command : List String) (s : State) (rest : List String) :
    Refused (c.read ctx command true s (text :: rest)) := by
  rw [read, if_pos rfl, readOperand]
  split
  · next o operand unseen =>
    obtain ⟨single, choice, plain⟩ := lays.operand o operand
    rcases s.settle_ok_or_refused with ⟨t, settled⟩ | refused
    · have begun : s.begin_ o.argument (some text) =
          .ok { t with pending := some (o.argument, some text) } := by
        rw [State.begin_, settled]
        rfl
      rw [begun]
      refine read_of_stuck ⟨o.argument, text, rfl, ?_⟩ single _ _ _
      change Refused (o.kind.check o.shown text)
      rw [choice]
      exact refused_choice plain hyphen _
    · exact ((refused.bind _).bind _).bind _
  · rw [refuse]
    split <;> exact ⟨_, rfl, rfl⟩

/-- No text with a hyphen is taken for a number. -/
theorem read_signed_of_hyphen (lays : c.Lays) {ctx : Context} {text : String}
    (hyphen : Hyphen text) {a : Argument}
    (option : ∃ o ∈ c.allOptions, ∃ v, o.value = some v ∧ a = o.argument v)
    (signed : a.signed = true) (waits : s.pending = some (a, none)) (command : List String)
    (rest : List String) : Refused (c.read ctx command false (s.give text) rest) := by
  obtain ⟨o, member, v, value, rfl⟩ := option
  obtain ⟨kind, single⟩ := lays.signed o member v value signed
  refine read_of_stuck ⟨o.argument v, text, by rw [State.give, waits]; rfl, ?_⟩ single _ _ _
  change Refused (v.kind.check o.shown text)
  rw [kind]
  exact refused_int64 hyphen _

end Command

end IngestWatch.CommandLine
