import IngestWatch.CommandLine.Reader
import IngestWatch.Proofs.Outcome

/-!
Command lines read under different variables. The variables may give an option its value and
they stand in descriptions, but they do not decide what is read: the same arguments are
refused under all of them, or lead to the same command with the same options. Where nobody
gave an option the variable named by it gives the value.
-/

namespace IngestWatch.CommandLine

/-- The value of a variable, if it is set. -/
abbrev Variables := String → Option String

def unset : Variables := fun _ => none

/-! ## What does not depend on variables -/

section
variable {α β : Type}

/-- A result that is the same under all variables, but for the words of a refusal. -/
def Steady (good : α → Prop) (x : Variables → Except Fault α) : Prop :=
  (∃ a, good a ∧ ∀ env, x env = .ok a) ∨ ∀ env, ∃ fault, x env = .error fault

theorem Steady.const {good : α → Prop} {x : Except Fault α} (all : ∀ a, x = .ok a → good a) :
    Steady good fun _ => x := by
  cases x with
  | ok a => exact Or.inl ⟨a, all a rfl, fun _ => rfl⟩
  | error fault => exact Or.inr fun _ => ⟨fault, rfl⟩

theorem Steady.refused {good : α → Prop} (fault : Variables → Fault) :
    Steady good fun env => .error (fault env) :=
  Or.inr fun env => ⟨fault env, rfl⟩

/-- Either a refusal comes first, or all depends on what comes next. -/
theorem Steady.bind_cases {good : α → Prop} {x : Variables → Except Fault α}
    (first : Steady good x) (f : Variables → α → Except Fault β) :
    (∃ a, good a ∧ (fun env => x env >>= f env) = (f · a)) ∨
      ∀ env, ∃ fault, x env >>= f env = .error fault := by
  rcases first with ⟨a, fine, same⟩ | fails
  · refine Or.inl ⟨a, fine, funext fun env => ?_⟩
    rw [same env, ok_bind]
  · refine Or.inr fun env => ?_
    obtain ⟨fault, failed⟩ := fails env
    exact ⟨fault, congrArg (· >>= f env) failed⟩

theorem Steady.bind {good : α → Prop} {better : β → Prop} {x : Variables → Except Fault α}
    {f : Variables → α → Except Fault β} (first : Steady good x)
    (next : ∀ a, good a → Steady better (f · a)) : Steady better fun env => x env >>= f env := by
  rcases first.bind_cases f with ⟨a, fine, same⟩ | fails
  · rw [same]
    exact next a fine
  · exact Or.inr fails

end

/-! ## Switches -/

namespace State

/-- Whatever was settled without a text is a switch of the command. -/
def Sound (s : State) (c : Command) : Prop :=
  ∀ name, (name, none) ∈ s.settled → ∃ o ∈ c.allOptions, o.name = name ∧ o.value = none

variable {s s' : State} {c : Command}

theorem sound_initial : initial.Sound c := by
  intro name member
  cases member

theorem add_eq_ok {name shown : String} {value : Option String}
    (added : s.add name shown value = .ok s') :
    s' = { s with settled := s.settled ++ [(name, value)] } := by
  unfold add at added
  split at added
  · cases added
  · exact (Except.ok.inj added).symm

theorem Sound.append (sound : s.Sound c) {name : String} {value : Option String}
    (switch : value = none → ∃ o ∈ c.allOptions, o.name = name ∧ o.value = none) :
    Sound { s with settled := s.settled ++ [(name, value)] } c := by
  intro other member
  rcases List.mem_append.mp member with before | last
  · exact sound other before
  · obtain ⟨rfl, rfl⟩ := Prod.mk.inj (List.mem_singleton.mp last)
    exact switch rfl

theorem Sound.addValue (sound : s.Sound c) {a : Argument} {value : String}
    (added : s.addValue a value = .ok s') : s'.Sound c := by
  obtain ⟨t, first, rest⟩ := bind_eq_ok.mp added
  obtain ⟨-, -, last⟩ := bind_eq_ok.mp rest
  obtain rfl := Except.ok.inj last
  obtain rfl := add_eq_ok first
  exact sound.append fun none => nomatch none

theorem Sound.settle (sound : s.Sound c) (settled : s.settle = .ok s') : s'.Sound c := by
  unfold State.settle at settled
  split at settled
  · obtain rfl := Except.ok.inj settled
    exact sound
  · cases settled
  · have idle : Sound { s with pending := none } c := sound
    exact idle.addValue settled

theorem Sound.begin_ (sound : s.Sound c) {a : Argument} {value : Option String}
    (begun : s.begin_ a value = .ok s') : s'.Sound c := by
  obtain ⟨t, settled, last⟩ := bind_eq_ok.mp begun
  obtain rfl := Except.ok.inj last
  have before : t.Sound c := sound.settle settled
  exact before

end State

/-! ## One argument -/

namespace Command

variable {c : Command} {path : List String} {s : State}

theorem steady_readOpt {o : Opt} (member : o ∈ c.allOptions) (attached : Option String)
    (sound : s.Sound c) :
    Steady (·.Sound c) fun env => c.readOpt ⟨env, path⟩ o attached s := by
  have settled : Steady (·.Sound c) fun _ => s.settle := .const fun t => sound.settle
  cases value : o.value with
  | some v =>
    cases attached with
    | some text =>
      simp only [readOpt, value]
      exact settled.bind fun t sound => .const fun u => sound.addValue
    | none =>
      simp only [readOpt, value]
      exact .const fun t => sound.begin_
  | none =>
    simp only [readOpt, value]
    refine settled.bind fun t sound => ?_
    by_cases help : o = helpOpt
    · simp only [help, if_true]
      exact .refused _
    by_cases version : o = versionOpt
    · simp only [version, if_true]
      exact .refused _
    simp only [help, version, if_false]
    refine .const fun u added => ?_
    obtain rfl := State.add_eq_ok added
    exact sound.append fun _ => ⟨o, member, rfl, value⟩

theorem steady_readLong (text : List Char) (sound : s.Sound c) :
    Steady (·.Sound c) fun env => c.readLong ⟨env, path⟩ text s := by
  unfold readLong
  cases Text.cutAt? '=' text with
  | none =>
    dsimp only
    cases found : c.allOptions.find? (·.name = String.ofList text) with
    | none => exact .refused _
    | some o => exact steady_readOpt (List.mem_of_find?_eq_some found) none sound
  | some parts =>
    dsimp only
    cases found : c.allOptions.find? (·.name = String.ofList parts.1) with
    | none => exact .refused _
    | some o =>
      dsimp only
      split
      · exact .refused _
      · exact steady_readOpt (List.mem_of_find?_eq_some found) _ sound

theorem steady_readLetters (letters : List Char) (sound : s.Sound c) :
    Steady (·.Sound c) fun env => c.readLetters ⟨env, path⟩ letters s := by
  induction letters generalizing s with
  | nil =>
    refine .const fun t same => ?_
    obtain rfl := Except.ok.inj same
    exact sound
  | cons letter rest ih =>
    simp only [readLetters]
    cases found : c.allOptions.find? (·.letter = some letter) with
    | none => exact .refused _
    | some o =>
      have member := List.mem_of_find?_eq_some found
      dsimp only
      split
      · exact (steady_readOpt member none sound).bind fun t sound => ih sound
      · split
        · exact steady_readOpt member none sound
        · exact steady_readOpt member _ sound
        · exact steady_readOpt member _ sound

theorem steady_readOperand (free : Bool) (text : String) (sound : s.Sound c) :
    Steady (·.Sound c) fun _ => c.readOperand free text s := by
  refine .const fun t read => ?_
  unfold readOperand at read
  split at read
  · obtain ⟨u, begun, last⟩ := bind_eq_ok.mp read
    obtain rfl := Except.ok.inj last
    have before : u.Sound c := sound.begin_ begun
    exact before
  · unfold refuse at read
    split at read <;> cases read

/-! ## Whole command lines -/

def at? (c : Command) : List String → Option Command
  | [] => some c
  | name :: rest => (c.find? name).bind (·.at? rest)

theorem at?_concat (root : Command) (command : List String) (name : String) :
    root.at? (command ++ [name]) = (root.at? command).bind (·.find? name) := by
  induction command generalizing root with
  | nil => simp [at?]
  | cons first rest ih =>
    rw [List.cons_append, at?, at?]
    cases root.find? first with
    | none => rfl
    | some sub => exact ih sub

/-- Under all variables the arguments end with one command and what was read for it, or under
all of them they are refused. -/
def Ends (root : Command) (x : Variables → Except Fault Matches) : Prop :=
  (∃ c path command s, root.at? command = some c ∧ s.Sound c ∧
      ∀ env, x env = c.finish ⟨env, path⟩ command s) ∨
    ∀ env, ∃ fault, x env = .error fault

theorem Ends.bind {root : Command} {x : Variables → Except Fault State}
    {f : Variables → State → Except Fault Matches} {good : State → Prop} (first : Steady good x)
    (next : ∀ s, good s → Ends root (f · s)) : Ends root fun env => x env >>= f env := by
  rcases first.bind_cases f with ⟨s, fine, same⟩ | fails
  · rw [same]
    exact next s fine
  · exact Or.inr fails

theorem ends_read {root c : Command} {path command : List String} {s : State} (free : Bool)
    (arguments : List String) (here : root.at? command = some c) (sound : s.Sound c) :
    Ends root fun env => c.read ⟨env, path⟩ command free s arguments := by
  induction arguments generalizing c path command free s with
  | nil => exact Or.inl ⟨c, path, command, s, here, sound, fun _ => rfl⟩
  | cons text rest ih =>
    -- Whatever is read from this argument, the arguments behind it end.
    have onward {x : Variables → Except Fault State} (first : Steady (·.Sound c) x) (free : Bool) :
        Ends root fun env => x env >>= fun t => c.read ⟨env, path⟩ command free t rest :=
      .bind first fun t sound => ih free here sound
    simp only [read]
    cases free with
    | true => exact onward (steady_readOperand true text sound) true
    | false =>
      simp only [Bool.false_eq_true, if_false]
      cases awaited : s.awaited with
      | some a =>
        dsimp only
        split
        · exact ih false here sound
        · split
          · exact ih true here sound
          · split
            · exact onward (steady_readLong _ sound) false
            · exact onward (steady_readLetters _ sound) false
            · exact ih false here sound
      | none =>
        dsimp only
        cases found : c.find? text with
        | some sub =>
          have below : root.at? (command ++ [text]) = some sub := by
            rw [at?_concat, here]
            exact found
          have ends : Ends root fun env =>
              sub.read ⟨env, path ++ [text]⟩ (command ++ [text]) false .initial rest :=
            ih false below State.sound_initial
          exact ends
        | none =>
          dsimp only
          split
          · exact Or.inr fun env => ⟨_, rfl⟩
          · split
            · exact ih true here sound
            · split
              · exact onward (steady_readLong _ sound) false
              · exact onward (steady_readLetters _ sound) false
              · exact onward (steady_readOperand false text sound) false

theorem ends_parse (root : Command) (arguments : List String) :
    Ends root fun env => root.parse env arguments := by
  cases arguments with
  | nil => exact ends_read false [] rfl State.sound_initial
  | cons program rest => exact ends_read false rest rfl State.sound_initial

end Command

/-! ## Values for what was not given -/

/-- What a variable says of an option. -/
def Opt.fromVariables? (env : Variables) (o : Opt) : Option String :=
  (o.value.bind (·.envName)).bind env

def Opt.initial? (o : Opt) : Option String :=
  o.value.bind (·.initialText)

namespace State

/-- Gives an option what is said of it if it was not given. -/
def offer (say : Opt → Option String) (s : State) (o : Opt) : State :=
  match say o with
  | some text =>
    if s.has o.name then s else { s with settled := s.settled ++ [(o.name, some text)] }
  | none => s

def said (say : Opt → Option String) (options : List Opt) (name : String) :
    Option (Option String) :=
  options.findSome? fun o => if o.name = name then (say o).map some else none

variable {say : Opt → Option String}

theorem said_cons (o : Opt) (rest : List Opt) (name : String) :
    said say (o :: rest) name =
      (if o.name = name then (say o).map some else none).or (said say rest name) := by
  rw [said, List.findSome?_cons]
  cases (if o.name = name then (say o).map some else none : Option (Option String)) <;> rfl

/-- Of options whose names are distinct only the one with the name counts. -/
theorem said_of_mem {options : List Opt} (distinct : (options.map Opt.name).Nodup) {o : Opt}
    (member : o ∈ options) : said say options o.name = (say o).map some := by
  induction options with
  | nil => cases member
  | cons p rest ih =>
    rw [List.map_cons, List.nodup_cons] at distinct
    rw [said_cons]
    rcases List.mem_cons.mp member with rfl | later
    · have absent : said say rest o.name = none := by
        rw [said, List.findSome?_eq_none_iff]
        intro q inside
        have other : q.name ≠ o.name := fun same =>
          distinct.1 (List.mem_map.mpr ⟨q, inside, same⟩)
        simp [other]
      simp [absent]
    · have other : p.name ≠ o.name := fun same =>
        distinct.1 (List.mem_map.mpr ⟨o, later, same.symm⟩)
      simp [other, ih distinct.2 later]

theorem lookup_offer (s : State) (o : Opt) (name : String) :
    (s.offer say o).settled.lookup name =
      (s.settled.lookup name).or (if o.name = name then (say o).map some else none) := by
  unfold offer
  cases text : say o with
  | none => simp
  | some value =>
    by_cases given : s.has o.name = true
    · -- What was given stays, whatever is said of it.
      by_cases same : o.name = name
      · subst same
        rw [has, Option.isSome_iff_exists] at given
        obtain ⟨old, found⟩ := given
        simp [has, found]
      · simp [given, same]
    · by_cases same : o.name = name
      · subst same
        simp [given, List.lookup_append]
      · have other : (name == o.name) = false := by simpa using Ne.symm same
        simp [given, same, List.lookup_append, List.lookup_cons, other]

theorem lookup_foldl_offer (options : List Opt) (s : State) (name : String) :
    (options.foldl (offer say) s).settled.lookup name =
      (s.settled.lookup name).or (said say options name) := by
  induction options generalizing s with
  | nil => simp [said]
  | cons o rest ih =>
    rw [List.foldl_cons, ih, lookup_offer, Option.or_assoc, said_cons]

/-- Only options of which something is said are added to what was given. -/
theorem exists_settled_append (say : Opt → Option String) (options : List Opt) (s : State) :
    ∃ added : List (String × Option String),
      options.foldl (offer say) s = { s with settled := s.settled ++ added } ∧
        ∀ e ∈ added, ∃ o ∈ options, o.name = e.1 ∧ (say o).isSome = true := by
  induction options generalizing s with
  | nil => exact ⟨[], by simp, by simp⟩
  | cons o rest ih =>
    obtain ⟨first, offered, named⟩ : ∃ first : List (String × Option String),
        s.offer say o = { s with settled := s.settled ++ first } ∧
          ∀ e ∈ first, o.name = e.1 ∧ (say o).isSome = true := by
      unfold offer
      cases text : say o with
      | none => exact ⟨[], by simp, by simp⟩
      | some value =>
        by_cases given : s.has o.name = true
        · exact ⟨[], by simp [given], by simp⟩
        · exact ⟨[(o.name, some value)], by simp [given], by simp⟩
    obtain ⟨others, all, names⟩ := ih (s.offer say o)
    refine ⟨first ++ others, ?_, fun e member => ?_⟩
    · rw [List.foldl_cons, all, offered, List.append_assoc]
    · rcases List.mem_append.mp member with inside | inside
      · exact ⟨o, List.mem_cons_self, named e inside⟩
      · obtain ⟨p, within, rest⟩ := names e inside
        exact ⟨p, .tail _ within, rest⟩

end State

/-! ## The end of a command line -/

namespace Command

variable {c : Command} {s : State}

/-- No two options have one name. Those that a variable can speak for take any text, exclude no
other option, and are nothing from the beginning. -/
structure Open (c : Command) : Prop where
  distinct : (c.allOptions.map Opt.name).Nodup
  initial : ∀ o ∈ c.options, o.initial? = none ∨ o.value.bind (·.envName) = none
  texts : ∀ o ∈ c.options, ∀ v, o.value = some v → v.envName.isSome = true → v.kind = .text
  free : ∀ o ∈ c.options, ∀ v, o.value = some v → v.envName.isSome = true →
    ∀ p ∈ c.exclusive, o.name ≠ p.1 ∧ o.name ≠ p.2

theorem exists_value_of_fromVariables? {env : Variables} {o : Opt}
    (speaks : (o.fromVariables? env).isSome = true) :
    ∃ v, o.value = some v ∧ v.envName.isSome = true := by
  rw [Opt.fromVariables?] at speaks
  cases value : o.value with
  | none => simp [value] at speaks
  | some v =>
    cases name : v.envName with
    | none => simp [value, name] at speaks
    | some n => exact ⟨v, rfl, by simp [name]⟩

theorem addVariables_eq (opened : c.Open) (env : Variables) (s : State) :
    c.addVariables env s = .ok (c.options.foldl (State.offer (Opt.fromVariables? env)) s) := by
  refine foldlM_eq_ok (fun o member s => ?_) s
  unfold State.offer
  cases value : o.value with
  | none => simp [Opt.fromVariables?, value]; rfl
  | some v =>
    cases text : v.envName.bind env with
    | none => simp [Opt.fromVariables?, value, text]; rfl
    | some t =>
      have named : v.envName.isSome = true := by
        cases name : v.envName <;> simp [name] at text ⊢
      have kind := opened.texts o member v value named
      by_cases given : s.has o.name = true
      · simp [Opt.fromVariables?, value, text, given]; rfl
      · simp [Opt.fromVariables?, value, text, given, State.addValue, State.add, Opt.argument, kind,
          Kind.check]
        rfl

theorem addInitials_eq (c : Command) (s : State) :
    c.addInitials s = c.options.foldl (State.offer Opt.initial?) s := rfl

theorem findSome?_congr {α β : Type} {f g : α → Option β} {items : List α}
    (same : ∀ a ∈ items, f a = g a) : items.findSome? f = items.findSome? g := by
  induction items with
  | nil => rfl
  | cons a rest ih =>
    rw [List.findSome?_cons, List.findSome?_cons, same a List.mem_cons_self,
      ih fun b member => same b (.tail _ member)]

/-- What variables say of options that exclude nothing does not clash. -/
theorem clash?_foldl_offer (opened : c.Open) (env : Variables) (s : State) :
    c.clash? (c.options.foldl (State.offer (Opt.fromVariables? env)) s) = c.clash? s := by
  obtain ⟨added, all, named⟩ :=
    State.exists_settled_append (Opt.fromVariables? env) c.options s
  have apart : ∀ e ∈ added, ∀ p ∈ c.exclusive, e.1 ≠ p.1 ∧ e.1 ≠ p.2 := by
    intro e member p pair
    obtain ⟨o, option, same, speaks⟩ := named e member
    obtain ⟨v, value, name⟩ := exists_value_of_fromVariables? speaks
    rw [← same]
    exact opened.free o option v value name p pair
  have has : ∀ p ∈ c.exclusive,
      State.has { s with settled := s.settled ++ added } p.1 = s.has p.1 ∧
        State.has { s with settled := s.settled ++ added } p.2 = s.has p.2 := by
    intro p pair
    have first : added.lookup p.1 = none := by
      rw [List.lookup_eq_none_iff]
      exact fun e member => bne_iff_ne.mpr (apart e member p pair).1.symm
    have second : added.lookup p.2 = none := by
      rw [List.lookup_eq_none_iff]
      exact fun e member => bne_iff_ne.mpr (apart e member p pair).2.symm
    simp [State.has, List.lookup_append, first, second]
  rw [all, clash?, List.findSome?_append, clash?]
  -- Entries that variables add find nothing to clash with.
  refine (congrArg₂ Option.or ?_ ?_).trans Option.or_none
  · refine findSome?_congr fun e _ => findSome?_congr fun p pair => ?_
    simp only [has p pair]
  · rw [List.findSome?_eq_none_iff]
    intro e member
    rw [List.findSome?_eq_none_iff]
    intro p pair
    obtain ⟨first, second⟩ := apart e member p pair
    simp [first, second]

/-- What a command is told in the end: what was given, then what variables say, then what its
options are from the beginning. -/
def told (c : Command) (env : Variables) (s : State) : List (String × Option String) :=
  (c.options.foldl (State.offer Opt.initial?)
    (c.options.foldl (State.offer (Opt.fromVariables? env)) s)).settled

/-- May what was read be all that a command is told? -/
structure Suffices (c : Command) (s : State) : Prop where
  action : c.isGroup = false
  clashless : c.clash? s = none
  operand : ∀ o, c.operand = some o → o.required = true → s.operandSeen = true

theorem suffices_foldl_offer_iff (opened : c.Open) (env : Variables) (s : State) :
    c.Suffices (c.options.foldl (State.offer (Opt.fromVariables? env)) s) ↔ c.Suffices s := by
  obtain ⟨added, all, -⟩ := State.exists_settled_append (Opt.fromVariables? env) c.options s
  have seen : (c.options.foldl (State.offer (Opt.fromVariables? env)) s).operandSeen =
      s.operandSeen := by rw [all]
  have clash := clash?_foldl_offer opened env s
  constructor
  · rintro ⟨action, clashless, operand⟩
    exact ⟨action, clash ▸ clashless, seen ▸ operand⟩
  · rintro ⟨action, clashless, operand⟩
    exact ⟨action, clash.trans clashless, fun o has required => seen.trans (operand o has required)⟩

theorem finish_eq_ok_iff {ctx : Context} {command : List String} {m : Matches} :
    c.finish ctx command s = .ok m ↔
      ∃ t u, s.settle = .ok t ∧ c.addVariables ctx.env t = .ok u ∧ c.Suffices u ∧
        m = ⟨command, (c.addInitials u).settled⟩ := by
  constructor
  · intro ended
    obtain ⟨t, settled, rest⟩ := bind_eq_ok.mp ended
    obtain ⟨u, added, rest⟩ := bind_eq_ok.mp rest
    dsimp only at rest
    split at rest
    · cases rest
    next action =>
    split at rest
    · cases rest
    next clashless =>
    have action : c.isGroup = false := by simpa using action
    split at rest
    · next o operand =>
      split at rest
      · cases rest
      · next seen =>
        have seen : o.required = true → u.operandSeen = true := by simpa using seen
        refine ⟨t, u, settled, added, ⟨action, ?_, ?_⟩, (Except.ok.inj rest).symm⟩
        · exact Option.eq_none_iff_forall_not_mem.mpr clashless
        · rintro p same required
          obtain rfl : o = p := Option.some.inj (operand.symm.trans same)
          exact seen required
    · next operand =>
      refine ⟨t, u, settled, added, ⟨action, ?_, ?_⟩, (Except.ok.inj rest).symm⟩
      · exact Option.eq_none_iff_forall_not_mem.mpr clashless
      · intro p same
        cases operand.symm.trans same
  · rintro ⟨t, u, settled, added, ⟨action, clashless, enough⟩, rfl⟩
    rw [finish, settled, ok_bind, added, ok_bind, action, clashless]
    cases operand : c.operand with
    | none => rfl
    | some o =>
      have seen := enough o operand
      by_cases required : o.required = true
      · simp [required, seen required]
        rfl
      · simp [required]
        rfl

theorem finish_eq_ok_iff_told (opened : c.Open) {env : Variables} {path command : List String}
    {m : Matches} :
    c.finish ⟨env, path⟩ command s = .ok m ↔
      ∃ t, s.settle = .ok t ∧ c.Suffices t ∧ m = ⟨command, c.told env t⟩ := by
  rw [finish_eq_ok_iff]
  refine exists_congr fun t => ?_
  simp only [addVariables_eq opened, Except.ok.injEq, exists_and_left, exists_eq_left',
    suffices_foldl_offer_iff opened, addInitials_eq]
  rfl

/-- What was given to a command does not depend on the variables: if the arguments are read
under some, they are read under all, and each time the variables only fill what is missing. -/
theorem exists_told {root : Command} {arguments : List String} {env : Variables} {m : Matches}
    (parsed : root.parse env arguments = .ok m) (here : root.at? m.command = some c)
    (opened : c.Open) :
    ∃ s : State, s.Sound c ∧ c.Suffices s ∧ m.values = c.told env s ∧
      ∀ env', root.parse env' arguments = .ok ⟨m.command, c.told env' s⟩ := by
  rcases ends_parse root arguments with ⟨d, path, command, s, there, sound, same⟩ | fails
  · have ended : d.finish ⟨env, path⟩ command s = .ok m := (same env).symm.trans parsed
    obtain rfl : m.command = command := by
      obtain ⟨-, -, -, -, -, rfl⟩ := finish_eq_ok_iff.mp ended
      rfl
    obtain rfl : c = d := Option.some.inj (here.symm.trans there)
    obtain ⟨t, settled, enough, told⟩ := (finish_eq_ok_iff_told opened).mp ended
    refine ⟨t, sound.settle settled, enough, by rw [told], fun env' => ?_⟩
    exact (same env').trans ((finish_eq_ok_iff_told opened).mpr ⟨t, settled, enough, rfl⟩)
  · obtain ⟨fault, failed⟩ := fails env
    cases failed.symm.trans parsed

theorem lookup_told (c : Command) (env : Variables) (s : State) (name : String) :
    (c.told env s).lookup name =
      ((s.settled.lookup name).or (State.said (Opt.fromVariables? env) c.options name)).or
        (State.said Opt.initial? c.options name) := by
  rw [told, State.lookup_foldl_offer, State.lookup_foldl_offer]

section
variable {o : Opt} (opened : c.Open) (member : o ∈ c.options)
include opened member

theorem lookup_told_of_mem (env : Variables) (s : State) :
    (c.told env s).lookup o.name =
      ((s.settled.lookup o.name).or ((o.fromVariables? env).map some)).or
        (o.initial?.map some) := by
  have distinct : (c.options.map Opt.name).Nodup := by
    have all := opened.distinct
    rw [allOptions, List.append_assoc, List.map_append] at all
    exact all.of_append_left
  rw [lookup_told, State.said_of_mem distinct member, State.said_of_mem distinct member]

/-- An option that is no switch was given with a text or not at all. -/
theorem lookup_ne_some_none (sound : s.Sound c) (valued : o.value.isSome = true) :
    s.settled.lookup o.name ≠ some none := by
  intro bare
  obtain ⟨front, back, settled, -⟩ := List.lookup_eq_some_iff.mp bare
  obtain ⟨p, inside, same, switch⟩ := sound o.name (by simp [settled])
  have within : o ∈ c.allOptions := by simp [allOptions, member]
  obtain rfl := List.inj_on_of_nodup_map opened.distinct inside within same
  simp [switch] at valued

end

section
variable {n : String} {o : Opt} (opened : c.Open)
  (found : c.options.find? (·.name = n) = some o)
include opened found

/-- The text of an option is the one that it has without variables, or else its variable. -/
theorem text?_told (sound : s.Sound c) (valued : o.value.isSome = true) (names : List String)
    (env : Variables) :
    (Matches.mk names (c.told env s)).text? n =
      ((Matches.mk names (c.told unset s)).text? n).or (o.fromVariables? env) := by
  have member := List.mem_of_find?_eq_some found
  obtain rfl : o.name = n := by simpa using List.find?_some found
  have given := lookup_ne_some_none opened member sound valued
  have silent : o.fromVariables? unset = none := by
    rw [Opt.fromVariables?]
    cases o.value.bind (·.envName) <;> rfl
  rw [Matches.text?, Matches.text?, lookup_told_of_mem opened member env,
    lookup_told_of_mem opened member unset, silent]
  cases found : s.settled.lookup o.name with
  | none =>
    rcases opened.initial o member with initial | quiet
    · cases o.fromVariables? env <;> simp [initial]
    · simp [Opt.fromVariables?, quiet]
  | some text =>
    cases text with
    | none => exact absurd found given
    | some t => simp

theorem text?_told_of_silent (sound : s.Sound c) (valued : o.value.isSome = true)
    (silent : (o.value.bind (·.envName)) = none) (names : List String) (env : Variables) :
    (Matches.mk names (c.told env s)).text? n =
      (Matches.mk names (c.told unset s)).text? n := by
  rw [text?_told opened found sound valued names env, Opt.fromVariables?, silent, Option.bind_none,
    Option.or_none]

/-- No variable speaks for a switch. -/
theorem isSet_told (switch : o.value = none) (names : List String) (env : Variables) :
    (Matches.mk names (c.told env s)).isSet n =
      (Matches.mk names (c.told unset s)).isSet n := by
  have member := List.mem_of_find?_eq_some found
  obtain rfl : o.name = n := by simpa using List.find?_some found
  simp [Matches.isSet, lookup_told_of_mem opened member, Opt.fromVariables?, switch]

/-- An option for which nothing else speaks is set exactly if it was given. -/
theorem isSet_told_of_silent (silent : (o.value.bind (·.envName)) = none)
    (blank : o.initial? = none) (names : List String) (env : Variables) :
    (Matches.mk names (c.told env s)).isSet n = s.has n := by
  have member := List.mem_of_find?_eq_some found
  obtain rfl : o.name = n := by simpa using List.find?_some found
  simp [Matches.isSet, State.has, lookup_told_of_mem opened member, Opt.fromVariables?, silent,
    blank]

end

end Command

end IngestWatch.CommandLine
