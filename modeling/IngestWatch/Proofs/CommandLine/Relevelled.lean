import IngestWatch.Proofs.CommandLine.Levels

/-!
Command lines that differ only in the texts of the log level, read under variables that differ
only in what they say of the log. Both are refused, or both lead to the same command with the
same options but for the log level.
-/

namespace IngestWatch.CommandLine

/-! ## Arguments that give the log level -/

/-- Two arguments that give the log level in the same way. -/
inductive LevelText : String → String → Prop where
  | long (v v' : String) : LevelText ("--log-level=" ++ v) ("--log-level=" ++ v')
  | letter {v v' : String} (given : v ≠ "") (given' : v' ≠ "") : LevelText ("-l" ++ v) ("-l" ++ v')

/-- A text that can stand behind an option as its value. -/
def Plain (text : String) : Prop :=
  text = "-" ∨ text.toList.head? ≠ some '-'

/-- Arguments that differ only in the texts of the log level, whether these are attached to the
option or stand behind it. -/
inductive Relevels : List String → List String → Prop where
  | nil : Relevels [] []
  | same (text : String) {rest rest' : List String} (others : Relevels rest rest') :
      Relevels (text :: rest) (text :: rest')
  | attached {text text' : String} (level : LevelText text text') {rest rest' : List String}
      (others : Relevels rest rest') : Relevels (text :: rest) (text' :: rest')
  | apart {flag : String} (level : flag = "--log-level" ∨ flag = "-l") {v v' : String}
      (plain : Plain v) (plain' : Plain v') {rest rest' : List String}
      (others : Relevels rest rest') : Relevels (flag :: v :: rest) (flag :: v' :: rest')

theorem LevelText.hyphen {text text' : String} (level : LevelText text text') :
    Command.Hyphen text ∧ Command.Hyphen text' := by
  have hyphen {text : String} (ch : Char) (rest : List Char)
      (begins : text.toList = '-' :: ch :: rest) (more : ch :: rest ≠ ['-'])
      (letter : ch.isDigit = false) : Command.Hyphen text := by
    refine ⟨?_, ch, rest, begins, letter⟩
    rintro rfl
    exact more (List.cons.inj begins).2.symm
  have long (v : String) : Command.Hyphen ("--log-level=" ++ v) :=
    hyphen '-' ("log-level=".toList ++ v.toList) (by simp) (by simp) (by decide)
  have letter (v : String) : Command.Hyphen ("-l" ++ v) :=
    hyphen 'l' v.toList (by simp) (by simp) (by decide)
  cases level with
  | long v v' => exact ⟨long v, long v'⟩
  | letter given given' => exact ⟨letter _, letter _⟩

/-- How the arguments are read that give the log level. -/
theorem LevelText.shape {text text' : String} (level : LevelText text text') :
    (∃ cs cs', Hyphened.of text.toList = .long cs ∧ Hyphened.of text'.toList = .long cs' ∧
        Command.Longs cs cs') ∨
      ∃ cs cs', Hyphened.of text.toList = .letters cs ∧
        Hyphened.of text'.toList = .letters cs' ∧ Command.Letters cs cs' := by
  cases level with
  | long v v' =>
    refine Or.inl ⟨levelName.toList ++ '=' :: v.toList, levelName.toList ++ '=' :: v'.toList,
      ?_, ?_, Or.inr ⟨_, _, rfl, rfl⟩⟩
    · simp [Hyphened.of, levelName]
    · simp [Hyphened.of, levelName]
  | @letter v v' given given' =>
    have some {v : String} (given : v ≠ "") : v.toList ≠ [] := by simpa using given
    refine Or.inr ⟨'l' :: v.toList, 'l' :: v'.toList, ?_, ?_,
      Or.inr ⟨_, _, some given, some given', rfl, rfl⟩⟩
    · simp [Hyphened.of]
    · simp [Hyphened.of]

theorem Plain.hyphened {text : String} (plain : Plain text) :
    Hyphened.of text.toList = .none ∧ text ≠ "--" := by
  rcases plain with rfl | bare
  · exact ⟨rfl, by decide⟩
  · refine ⟨?_, ?_⟩
    · unfold Hyphened.of
      split
      · next begins => simp [begins] at bare
      · next begins => simp [begins] at bare
      · next begins => simp [begins] at bare
      · rfl
    · rintro rfl
      exact bare rfl

namespace Command

variable {c : Command} {env env' : Variables} {path : List String} {s s' : State}

theorem find?_of_hyphen (lays : c.Lays) {text : String} (hyphen : Hyphen text) :
    c.find? text = none := by
  obtain ⟨-, ch, rest, begins, -⟩ := hyphen
  rw [find?, List.find?_eq_none]
  intro sub member same
  obtain rfl : sub.name = text := by simpa using same
  exact lays.names sub member (by rw [begins]; rfl)

theorem ne_helpName_of_hyphen {text : String} (hyphen : Hyphen text) : text ≠ helpName := by
  obtain ⟨-, ch, rest, begins, -⟩ := hyphen
  rintro rfl
  cases begins

theorem hyphen_of_flag {flag : String} (level : flag = "--log-level" ∨ flag = "-l") :
    Hyphen flag := by
  rcases level with rfl | rfl
  · exact ⟨by decide, '-', "log-level".toList, by decide, by decide⟩
  · exact ⟨by decide, 'l', [], by decide, by decide⟩

/-! ## Descriptions -/

/-- What does not lead to a command is not described. -/
theorem describe_of_hyphen (lays : c.Lays) {ctx : Context} {text : String} (hyphen : Hyphen text)
    (rest : List String) : c.describe ctx (text :: rest) = .unknownCommand text := by
  have other := ne_helpName_of_hyphen hyphen
  rw [describe.eq_def]
  simp [find?_of_hyphen lays hyphen, other]

theorem describe_alike {names names' : List String} (relevels : Relevels names names')
    (levelled : c.Levelled) (ctx ctx' : Context) :
    (c.describe ctx names).Alike (c.describe ctx' names') := by
  induction relevels generalizing c ctx ctx' with
  | nil => exact Fault.alike_help _ _
  | same text others ih =>
    rw [describe.eq_def, describe.eq_def c]
    dsimp only
    cases found : c.find? text with
    | some sub => exact ih (levelled.find? found) _ _
    | none =>
      dsimp only
      split
      · cases others with
        | nil => exact Fault.alike_help _ _
        | same => exact rfl
        | attached => exact rfl
        | apart => exact rfl
      · exact rfl
  | attached level others ih =>
    rw [describe_of_hyphen levelled.own level.hyphen.1,
      describe_of_hyphen levelled.own level.hyphen.2]
    exact rfl
  | apart level plain plain' others ih =>
    rw [describe_of_hyphen levelled.own (hyphen_of_flag level),
      describe_of_hyphen levelled.own (hyphen_of_flag level)]
    exact rfl

/-! ## The end -/

/-- The same command with the same options, but for the log level. -/
def Matching (m m' : Matches) : Prop :=
  m.command = m'.command ∧
    ∀ name, name ≠ levelName → m.values.lookup name = m'.values.lookup name

theorem clash?_eq (alike : s.Alike c s') : c.clash? s = c.clash? s' := by
  have has (name : String) : s.has name = s'.has name := isSome_lookup_eq alike.settled name
  have names {β : Type} {f g : String × Option String → Option β}
      (agree : ∀ e e', Settled e e' → f e = g e') {l l' : List (String × Option String)}
      (same : List.Forall₂ Settled l l') : l.findSome? f = l'.findSome? g := by
    induction same with
    | nil => rfl
    | @cons e e' _ _ entry _ ih =>
      rw [List.findSome?_cons, List.findSome?_cons, ih, agree e e' entry]
  simp only [clash?, has]
  exact names (fun e e' entry => by rw [entry.1]) alike.settled

theorem lookup_told_eq (lays : c.Lays) (agree : ∀ name, name ∉ logVariables → env name = env' name)
    (alike : s.Alike c s') {name : String} (other : name ≠ levelName) :
    (c.told env s).lookup name = (c.told env' s').lookup name := by
  have same : State.said (Opt.fromVariables? env) c.options name =
      State.said (Opt.fromVariables? env') c.options name := by
    refine findSome?_congr fun o member => ?_
    by_cases named : o.name = name
    · have quiet : o.fromVariables? env = o.fromVariables? env' := by
        unfold Opt.fromVariables?
        cases value : o.value with
        | none => rfl
        | some v =>
          cases variable_ : v.envName with
          | none => simp [variable_]
          | some n =>
            have silent := lays.silent o member (named ▸ other) v value n variable_
            simp [variable_, agree n silent]
      rw [quiet]
    · simp [named]
  rw [lookup_told, lookup_told, same, lookup_eq alike.settled other]

theorem finish_alike (lays : c.Lays) (agree : ∀ name, name ∉ logVariables → env name = env' name)
    (alike : s.Alike c s') (command : List String) :
    Together Fault.Alike Matching (c.finish ⟨env, path⟩ command s)
      (c.finish ⟨env', path⟩ command s') := by
  rw [finish, finish]
  refine alike.settle.bind fun t t' alike => ?_
  have clash : c.clash? (c.options.foldl (State.offer (Opt.fromVariables? env)) t) =
      c.clash? (c.options.foldl (State.offer (Opt.fromVariables? env')) t') := by
    rw [clash?_foldl_offer lays.opened, clash?_foldl_offer lays.opened, clash?_eq alike]
  have seen (env : Variables) (t : State) :
      (c.options.foldl (State.offer (Opt.fromVariables? env)) t).operandSeen = t.operandSeen := by
    obtain ⟨added, all, -⟩ := State.exists_settled_append (Opt.fromVariables? env) c.options t
    rw [all]
  have told : Matching ⟨command, c.told env t⟩ ⟨command, c.told env' t'⟩ :=
    ⟨rfl, fun _ => lookup_told_eq lays agree alike⟩
  rw [addVariables_eq lays.opened, addVariables_eq lays.opened, ok_bind, ok_bind, clash]
  cases c.isGroup with
  | true => exact .error (Fault.alike_noCommand _ _)
  | false =>
    cases c.clash? (c.options.foldl (State.offer (Opt.fromVariables? env')) t') with
    | some fault => exact .error (.refl _)
    | none =>
      cases operand : c.operand with
      | none => exact .ok told
      | some o =>
        have same := seen env t
        rw [alike.operandSeen, ← seen env' t'] at same
        by_cases missing : o.required = true ∧
          ¬ (c.options.foldl (State.offer (Opt.fromVariables? env')) t').operandSeen = true
        · simp only [same, missing]
          exact .error (.refl _)
        · simp only [same, missing]
          exact .ok told

/-! ## Whole command lines -/

/-- The log level waits for its text. -/
def AwaitsLevel (s : State) : Prop :=
  ∃ a, s.awaited = some a ∧ a.name = levelName ∧ a.kind = .text ∧ a.signed = false

theorem readOpt_level (lays : c.Lays) {o : Opt} (member : o ∈ c.allOptions)
    (level : o.name = levelName ∨ o.letter = some 'l') (alike : s.Alike c s') :
    Together Fault.Alike (fun t t' => t.Alike c t' ∧ AwaitsLevel t)
      (c.readOpt ⟨env, path⟩ o none s) (c.readOpt ⟨env', path⟩ o none s') := by
  obtain ⟨named, value⟩ := lays.level o member level
  obtain ⟨v, valued, kind⟩ := Option.map_eq_some_iff.mp value
  obtain ⟨text, unsigned⟩ := Prod.mk.inj kind
  simp only [readOpt, valued]
  refine (alike.begin_ (Or.inl rfl) fun _ => ⟨o, member, v, valued, rfl⟩).mono ?_
  rintro t t' ⟨alike, pending⟩
  exact ⟨alike, o.argument v, by rw [State.awaited, pending], named, text, unsigned⟩

section
variable {ctx : Context} {command : List String} {text : String} {rest : List String}

theorem read_signed {a : Argument} (waits : s.awaited = some a) (signed : a.signed = true) :
    c.read ctx command false s (text :: rest) = c.read ctx command false (s.give text) rest := by
  rw [read]
  simp [waits, signed]

variable (lays : c.Lays) (hyphen : Hyphen text)
  (unsigned : ∀ a, s.awaited = some a → a.signed = false)
include lays hyphen unsigned

theorem read_long {cs : List Char} (shape : Hyphened.of text.toList = .long cs) :
    c.read ctx command false s (text :: rest) =
      c.readLong ctx cs s >>= fun t => c.read ctx command false t rest := by
  have alone := find?_of_hyphen lays hyphen
  have other := ne_helpName_of_hyphen hyphen
  rw [read]
  cases waits : s.awaited with
  | none => simp [alone, other, hyphen.1, shape]
  | some a => simp [unsigned a waits, hyphen.1, shape]

theorem read_letters {cs : List Char} (shape : Hyphened.of text.toList = .letters cs) :
    c.read ctx command false s (text :: rest) =
      c.readLetters ctx cs s >>= fun t => c.read ctx command false t rest := by
  have alone := find?_of_hyphen lays hyphen
  have other := ne_helpName_of_hyphen hyphen
  rw [read]
  cases waits : s.awaited with
  | none => simp [alone, other, hyphen.1, shape]
  | some a => simp [unsigned a waits, hyphen.1, shape]

end

/-- The text of the log level is taken as it is. -/
theorem read_plain {ctx : Context} {command : List String} {text : String} {rest : List String}
    (waits : AwaitsLevel s) (plain : Plain text) :
    c.read ctx command false s (text :: rest) = c.read ctx command false (s.give text) rest := by
  obtain ⟨a, awaited, -, -, unsigned⟩ := waits
  obtain ⟨shape, other⟩ := plain.hyphened
  rw [read]
  simp [awaited, unsigned, other, shape]

/-- Where a text with a hyphen is no number or operand, it is refused on both sides. -/
theorem together_of_hyphen (lays : c.Lays) {text text' : String} (hyphen : Hyphen text)
    (hyphen' : Hyphen text') (alike : s.Alike c s') {free : Bool}
    (value : free = true ∨ ∃ a, s.awaited = some a ∧ a.signed = true) (command : List String)
    (rest rest' : List String) :
    Together Fault.Alike Matching (c.read ⟨env, path⟩ command free s (text :: rest))
      (c.read ⟨env', path⟩ command free s' (text' :: rest')) := by
  cases free with
  | true =>
    exact (read_free_of_hyphen lays hyphen _ _ _).together
      (read_free_of_hyphen lays hyphen' _ _ _) _
  | false =>
    obtain ⟨a, waits, signed⟩ := value.resolve_left Bool.false_ne_true
    have waits' := alike.awaited_eq.symm.trans waits
    have pending {s : State} (waits : s.awaited = some a) : s.pending = some (a, none) := by
      unfold State.awaited at waits
      split at waits
      · next here => rw [here, Option.some.inj waits]
      · cases waits
    have option := alike.awaited a (pending waits)
    rw [read_signed waits signed, read_signed waits' signed]
    exact (read_signed_of_hyphen lays hyphen option signed (pending waits) _ _).together
      (read_signed_of_hyphen lays hyphen' option signed (pending waits') _ _) _

/-- Arguments that differ in the texts of the log level, read under variables that differ in what
they say of the log, come to the same but for the log level. -/
theorem read_alike (agree : ∀ name, name ∉ logVariables → env name = env' name)
    {arguments arguments' : List String} (relevels : Relevels arguments arguments')
    (levelled : c.Levelled) (command : List String) (free : Bool) (alike : s.Alike c s') :
    Together Fault.Alike Matching (c.read ⟨env, path⟩ command free s arguments)
      (c.read ⟨env', path⟩ command free s' arguments') := by
  induction relevels generalizing c path command free s s' with
  | nil =>
    rw [read, read]
    exact finish_alike levelled.own agree alike command
  | @same text rest rest' others ih =>
    have onward {x x' : Except Fault State} (first : Together Fault.Alike (State.Alike c) x x')
        (free : Bool) :
        Together Fault.Alike Matching (x >>= fun t => c.read ⟨env, path⟩ command free t rest)
          (x' >>= fun t => c.read ⟨env', path⟩ command free t rest') :=
      first.bind fun t t' alike => ih levelled command free alike
    rw [read, read, ← alike.awaited_eq]
    cases free with
    | true => exact onward (readOperand_same true text alike) true
    | false =>
      simp only [Bool.false_eq_true, if_false]
      cases awaited : s.awaited with
      | some a =>
        have given := alike.give awaited (Or.inl (rfl : some text = some text))
        dsimp only
        split
        · exact ih levelled command false given
        · split
          · exact ih levelled command true alike
          · split
            · exact onward (readLong_alike levelled.own (Or.inl rfl) alike) false
            · exact onward (readLetters_alike levelled.own (Or.inl rfl) alike) false
            · exact ih levelled command false given
      | none =>
        dsimp only
        cases found : c.find? text with
        | some sub =>
          exact ih (levelled.find? found) _ false (State.alike_initial sub)
        | none =>
          dsimp only
          split
          · exact .error (describe_alike others levelled _ _)
          · split
            · exact ih levelled command true alike
            · split
              · exact onward (readLong_alike levelled.own (Or.inl rfl) alike) false
              · exact onward (readLetters_alike levelled.own (Or.inl rfl) alike) false
              · exact onward (readOperand_same false text alike) false
  | @attached text text' level rest rest' others ih =>
    obtain ⟨hyphen, hyphen'⟩ := level.hyphen
    by_cases value : free = true ∨ ∃ a, s.awaited = some a ∧ a.signed = true
    · exact together_of_hyphen levelled.own hyphen hyphen' alike value _ _ _
    · obtain ⟨rfl, unsigned⟩ : free = false ∧ ∀ a, s.awaited = some a → a.signed = false := by
        simpa using value
      have unsigned' : ∀ a, s'.awaited = some a → a.signed = false := alike.awaited_eq ▸ unsigned
      rcases level.shape with ⟨cs, cs', shape, shape', longs⟩ | ⟨cs, cs', shape, shape', letters⟩
      · rw [read_long levelled.own hyphen unsigned shape,
          read_long levelled.own hyphen' unsigned' shape']
        exact (readLong_alike levelled.own longs alike).bind
          fun t t' alike => ih levelled command false alike
      · rw [read_letters levelled.own hyphen unsigned shape,
          read_letters levelled.own hyphen' unsigned' shape']
        exact (readLetters_alike levelled.own letters alike).bind
          fun t t' alike => ih levelled command false alike
  | @apart flag level v v' plain plain' rest rest' others ih =>
    have hyphen := hyphen_of_flag level
    by_cases value : free = true ∨ ∃ a, s.awaited = some a ∧ a.signed = true
    · exact together_of_hyphen levelled.own hyphen hyphen alike value _ _ _
    · obtain ⟨rfl, unsigned⟩ : free = false ∧ ∀ a, s.awaited = some a → a.signed = false := by
        simpa using value
      have unsigned' : ∀ a, s'.awaited = some a → a.signed = false := alike.awaited_eq ▸ unsigned
      -- The option is read alike, and then its text is taken on both sides.
      have onward {x x' : Except Fault State}
          (first : Together Fault.Alike (fun t t' => t.Alike c t' ∧ AwaitsLevel t) x x') :
          Together Fault.Alike Matching
            (x >>= fun t => c.read ⟨env, path⟩ command false t (v :: rest))
            (x' >>= fun t => c.read ⟨env', path⟩ command false t (v' :: rest')) := by
        refine first.bind fun t t' ⟨alike, waits⟩ => ?_
        obtain ⟨a, awaited, named, kind, unsigned⟩ := waits
        have waits' : AwaitsLevel t' :=
          ⟨a, alike.awaited_eq ▸ awaited, named, kind, unsigned⟩
        rw [read_plain ⟨a, awaited, named, kind, unsigned⟩ plain, read_plain waits' plain']
        exact ih levelled command false
          (alike.give awaited (Or.inr ⟨named, kind, rfl, rfl⟩))
      rcases level with rfl | rfl
      · have shape : Hyphened.of "--log-level".toList = .long levelName.toList := rfl
        rw [read_long levelled.own hyphen unsigned shape,
          read_long levelled.own hyphen unsigned' shape]
        refine onward ?_
        have cut : Text.cutAt? '=' levelName.toList = none := by decide
        rw [readLong, readLong, cut]
        dsimp only
        rw [String.ofList_toList]
        cases found : c.allOptions.find? (·.name = levelName) with
        | none => exact .error (.refl _)
        | some o =>
          have named : o.name = levelName := by simpa using List.find?_some found
          exact readOpt_level levelled.own (List.mem_of_find?_eq_some found) (Or.inl named) alike
      · have shape : Hyphened.of "-l".toList = .letters ['l'] := rfl
        rw [read_letters levelled.own hyphen unsigned shape,
          read_letters levelled.own hyphen unsigned' shape]
        refine onward ?_
        rw [readLetters, readLetters]
        cases found : c.allOptions.find? (·.letter = some 'l') with
        | none => exact .error (.refl _)
        | some o =>
          have member := List.mem_of_find?_eq_some found
          have letter : o.letter = some 'l' := by simpa using List.find?_some found
          obtain ⟨-, -, valued⟩ := kind_of_level levelled.own member (Or.inr letter)
          simp only [valued, Bool.false_eq_true, if_false]
          exact readOpt_level levelled.own member (Or.inr letter) alike

end Command

end IngestWatch.CommandLine

namespace IngestWatch.Invocation

open CommandLine

/-! ## The commands of the program -/

theorem levelled_program : program.Levelled := by
  have lone {c : Command} (own : c.Lays) (single : c.commands = []) : c.Levelled := by
    refine .mk own fun sub member => ?_
    rw [single] at member
    cases member
  have rate : rateCommand.Levelled :=
    lone ⟨open_rateCommand, by decide, by decide, by decide, by decide, by decide⟩ rfl
  have history : historyCommand.Levelled :=
    lone ⟨open_historyCommand, by decide, by decide, by decide, by decide, by decide⟩ rfl
  have init : initCommand.Levelled :=
    lone ⟨⟨by decide, by decide, by decide, by decide⟩, by decide, by decide, by decide, by decide,
      by decide⟩ rfl
  have completions : completionsCommand.Levelled :=
    lone ⟨⟨by decide, by decide, by decide, by decide⟩, by decide, by decide, by decide, by decide,
      by decide⟩ rfl
  have config : (Command.group "config" "Configuration utilities" none [initCommand]).Levelled :=
    .mk ⟨⟨by decide, by decide, by decide, by decide⟩, by decide, by decide, by decide, by decide,
      by decide⟩ (List.forall_mem_singleton.mpr init)
  refine .mk ⟨⟨by decide, by decide, by decide, by decide⟩, by decide, by decide, by decide,
    by decide, by decide⟩ ?_
  change ∀ sub ∈ [rateCommand, historyCommand, _, completionsCommand], sub.Levelled
  simp only [List.forall_mem_cons]
  exact ⟨rate, history, config, completions, by simp⟩

/-- What is left of a command without its log level. -/
def unlevelled : Invocation → Invocation
  | .rate o => .rate { o with logLevel := none }
  | .history o => .history { o with logLevel := none }
  | i => i

theorem unlevelled_ofMatches? {m m' : Matches} (matching : Command.Matching m m') :
    (ofMatches? m).map unlevelled = (ofMatches? m').map unlevelled := by
  obtain ⟨command, values⟩ := m
  obtain ⟨command', values'⟩ := m'
  obtain ⟨rfl, same⟩ := matching
  have text (name : String) (other : name ≠ levelName) :
      Matches.text? ⟨command, values⟩ name = Matches.text? ⟨command, values'⟩ name := by
    rw [Matches.text?, Matches.text?, same name other]
  have switch (name : String) (other : name ≠ levelName) :
      Matches.isSet ⟨command, values⟩ name = Matches.isSet ⟨command, values'⟩ name := by
    rw [Matches.isSet, Matches.isSet, same name other]
  have json := switch "json" (by decide)
  have config := text "config" (by decide)
  have url := text "url" (by decide)
  have rate : unlevelled (.rate (.ofMatches ⟨command, values⟩)) =
      unlevelled (.rate (.ofMatches ⟨command, values'⟩)) := by
    simp only [unlevelled, RateOptions.ofMatches, numberOf?, json, config, url,
      switch "once" (by decide), text "interval" (by decide), text "count" (by decide)]
  have history : unlevelled (.history (.ofMatches ⟨command, values⟩)) =
      unlevelled (.history (.ofMatches ⟨command, values'⟩)) := by
    simp only [unlevelled, HistoryOptions.ofMatches, numberOf?, json, config, url,
      text "start" (by decide), text "end" (by decide), text "ingest-type" (by decide),
      text "lookback-days" (by decide)]
  have init : InitOptions.ofMatches ⟨command, values⟩ = .ofMatches ⟨command, values'⟩ := by
    simp only [InitOptions.ofMatches, text "output" (by decide), switch "force" (by decide)]
  simp only [ofMatches?, text shellOperand.label (by decide)]
  split
  · exact congrArg some rate
  · exact congrArg some history
  · rw [init]
  · rfl
  · rfl

/-- Command lines that differ in the texts of the log level lead to commands that differ in the
log level, or both are refused. -/
theorem parse_alike {env env' : Variables}
    (agree : ∀ name, name ∉ logVariables → env name = env' name)
    {arguments arguments' : List String} (relevels : Relevels arguments arguments')
    (called : String) :
    Together Fault.Alike (fun i i' => i.unlevelled = i'.unlevelled)
      (parse env (called :: arguments)) (parse env' (called :: arguments')) := by
  have read : Together Fault.Alike Command.Matching (program.parse env (called :: arguments))
      (program.parse env' (called :: arguments')) :=
    Command.read_alike agree relevels levelled_program [] false (State.alike_initial program)
  refine read.bind fun m m' matching => ?_
  have same := unlevelled_ofMatches? matching
  cases found : ofMatches? m with
  | none =>
    rw [found, Option.map_none] at same
    rw [Option.map_eq_none_iff.mp same.symm]
    exact .error (Fault.alike_noCommand _ _)
  | some i =>
    rw [found, Option.map_some] at same
    obtain ⟨i', found', equal⟩ := Option.map_eq_some_iff.mp same.symm
    rw [found']
    exact .ok equal.symm

end IngestWatch.Invocation
