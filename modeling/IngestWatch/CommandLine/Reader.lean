import IngestWatch.CommandLine.Fault
import IngestWatch.CommandLine.Help
import IngestWatch.Text.Blank

/-!
Reading the arguments of a command line one after the other. An option whose value has
come is settled only when the next one begins or the arguments end, so what is wrong with
an argument in between is told first.
-/

namespace IngestWatch.CommandLine

/-! ## Values -/

/-- Is a text a value of a kind? -/
def Kind.check (kind : Kind) (argument value : String) : Except Fault Unit :=
  let number {α : Type} (read : Except Decimal.NumberFault α) : Except Fault α :=
    read.mapError fun e => .badValue value argument e.message
  match kind with
  | .text => .ok ()
  | .path => if value.isEmpty then .error (.noValue argument []) else .ok ()
  | .uint64 => (number (Decimal.readUInt64 value)).map fun _ => ()
  | .int64 => (number (Decimal.readInt64 value)).map fun _ => ()
  | .uint32 => do
    let n ← number (Decimal.readInt64 value)
    if 0 ≤ n ∧ n < 0x100000000 then pure ()
    else throw (.badValue value argument s!"{n} is not in 0..=4294967295")
  | .choice names =>
    if names.contains value then .ok ()
    else if value.isEmpty then .error (.noValue argument names)
    else .error (.badChoice value argument names)

/-- An option or operand that takes a value, as the reader sees it. -/
structure Argument where
  name : String
  shown : String
  kind : Kind
  signed : Bool
deriving DecidableEq, Repr

def Opt.argument (o : Opt) (v : Value) : Argument :=
  ⟨o.name, o.shown, v.kind, v.signed⟩

def Operand.argument (o : Operand) : Argument :=
  ⟨o.label, o.shown, o.kind, false⟩

/-! ## Settling -/

/-- What has been read: the arguments that are settled, a switch without a text; and the
last one if it is not, with its value if it has come. -/
structure State where
  settled : List (String × Option String)
  pending : Option (Argument × Option String)
  operandSeen : Bool
deriving DecidableEq, Repr

namespace State

def initial : State := ⟨[], none, false⟩

def has (s : State) (name : String) : Bool :=
  (s.settled.lookup name).isSome

/-- Adds an argument that must not be there yet. -/
def add (s : State) (name shown : String) (value : Option String) : Except Fault State :=
  if s.has name then .error (.repeated shown)
  else .ok { s with settled := s.settled ++ [(name, value)] }

/-- Adds an argument with its value. -/
def addValue (s : State) (a : Argument) (value : String) : Except Fault State := do
  let s ← s.add a.name a.shown (some value)
  a.kind.check a.shown value
  pure s

/-- Settles the last argument, whose value must have come. -/
def settle (s : State) : Except Fault State :=
  match s.pending with
  | none => .ok s
  | some (a, none) => .error (.noValue a.shown a.kind.choices)
  | some (a, some value) => { s with pending := none }.addValue a value

/-- Begins an argument. -/
def begin_ (s : State) (a : Argument) (value : Option String) : Except Fault State := do
  pure { ← s.settle with pending := some (a, value) }

/-- The argument whose value comes next. -/
def awaited (s : State) : Option Argument :=
  match s.pending with
  | some (a, none) => some a
  | _ => none

/-- Gives the awaited argument its value. -/
def give (s : State) (value : String) : State :=
  { s with pending := s.pending.map fun (a, _) => (a, some value) }

end State

/-! ## Options -/

/-- Where a command stands: what describes it, and the settings around it. -/
structure Context where
  env : String → Option String
  /-- The names of the commands above it and of itself. -/
  path : List String

def Context.below (ctx : Context) (name : String) : Context :=
  { ctx with path := ctx.path ++ [name] }

/-- How a command is called in a context. -/
def Context.call (ctx : Context) (c : Command) : String :=
  if ctx.path.isEmpty then c.name else " ".intercalate ctx.path

/-- Reads an option. The value may be attached to it. -/
def Command.readOpt (c : Command) (ctx : Context) (o : Opt) (attached : Option String)
    (s : State) : Except Fault State :=
  match o.value, attached with
  | some v, some value => do (← s.settle).addValue (o.argument v) value
  | some v, none => s.begin_ (o.argument v) none
  | none, _ => do
    let s ← s.settle
    if o = helpOpt then throw (.help (c.help ctx.env (ctx.call c)))
    else if o = versionOpt then throw (.version s!"{c.name} {c.version.getD o.help}\n")
    else s.add o.name o.shown none

/-- Reads an option by its long name. -/
def Command.readLong (c : Command) (ctx : Context) (text : List Char) (s : State) :
    Except Fault State :=
  let (name, attached) := match Text.cutAt? '=' text with
    | some (name, value) => (String.ofList name, some (String.ofList value))
    | none => (String.ofList text, none)
  match c.allOptions.find? (·.name = name), attached with
  | none, _ => .error (.unknownArgument ("--" ++ name))
  | some o, some value =>
    if o.value.isNone then .error (.needlessValue value o.shown)
    else c.readOpt ctx o attached s
  | some o, none => c.readOpt ctx o none s

/-- Reads options by their letters. Letters behind one that takes a value are its value. -/
def Command.readLetters (c : Command) (ctx : Context) : List Char → State → Except Fault State
  | [], s => .ok s
  | letter :: rest, s =>
    match c.allOptions.find? (·.letter = some letter) with
    | none => .error (.unknownArgument s!"-{letter}")
    | some o =>
      if o.value.isNone then do c.readLetters ctx rest (← c.readOpt ctx o none s)
      else
        match rest with
        | [] => c.readOpt ctx o none s
        | '=' :: value => c.readOpt ctx o (some (String.ofList value)) s
        | value => c.readOpt ctx o (some (String.ofList value)) s

/-- An argument that names an option. -/
inductive Hyphened where
  | none
  | long (text : List Char)
  | letters (text : List Char)

def Hyphened.of : List Char → Hyphened
  | '-' :: '-' :: c :: rest => .long (c :: rest)
  | '-' :: '-' :: [] => .none
  | '-' :: c :: rest => .letters (c :: rest)
  | _ => .none

/-! ## Operands -/

/-- Refuses an argument that is no option. Behind two hyphens the name of a command is
no command. -/
def Command.refuse {α : Type} (c : Command) (free : Bool) (text : String) : Except Fault α :=
  if c.isGroup ∧ ¬(free ∧ ((c.find? text).isSome ∨ text = helpName)) then
    .error (.unknownCommand text)
  else .error (.unknownArgument text)

def Command.readOperand (c : Command) (free : Bool) (text : String) (s : State) :
    Except Fault State :=
  match c.operand, s.operandSeen with
  | some o, false => do
    pure { ← s.begin_ o.argument (some text) with operandSeen := true }
  | _, _ => c.refuse free text

/-! ## Whole command lines -/

/-- What was read: the names of the command and of those above it but the first, and the
values of its options. -/
structure Matches where
  command : List String
  values : List (String × Option String)
deriving DecidableEq, Repr

namespace Matches

/-- Was a switch given? -/
def isSet (m : Matches) (name : String) : Bool :=
  (m.values.lookup name).isSome

/-- The text of a value. -/
def text? (m : Matches) (name : String) : Option String :=
  (m.values.lookup name).join

end Matches

/-- Takes values from variables where none was given. -/
def Command.addVariables (c : Command) (env : String → Option String) (s : State) :
    Except Fault State :=
  c.options.foldlM (fun s o =>
    match o.value with
    | none => pure s
    | some v =>
      match v.envName.bind env with
      | some value => if s.has o.name then pure s else s.addValue (o.argument v) value
      | none => pure s) s

/-- Takes the initial values of options that nothing else says. -/
def Command.addInitials (c : Command) (s : State) : State :=
  c.options.foldl (fun s o =>
    match o.value.bind (·.initialText) with
    | some value =>
      if s.has o.name then s else { s with settled := s.settled ++ [(o.name, some value)] }
    | none => s) s

/-- How an option is shown, by its name. -/
def Command.shown (c : Command) (name : String) : String :=
  ((c.options.find? (·.name = name)).map Opt.shown).getD name

/-- The first argument, in the order in which they were given, that excludes another. -/
def Command.clash? (c : Command) (s : State) : Option Fault :=
  s.settled.findSome? fun (name, _) =>
    c.exclusive.findSome? fun (a, b) =>
      if name = a ∧ s.has b then some (.exclusive (c.shown a) (c.shown b))
      else if name = b ∧ s.has a then some (.exclusive (c.shown b) (c.shown a))
      else none

/-- What arguments that have ended come to. -/
def Command.finish (c : Command) (ctx : Context) (command : List String) (s : State) :
    Except Fault Matches := do
  let s ← c.addVariables ctx.env (← s.settle)
  if c.isGroup then throw (.noCommand (c.help ctx.env (ctx.call c)))
  if let some fault := c.clash? s then throw fault
  match c.operand with
  | some o => if o.required ∧ ¬s.operandSeen then throw (.missing [o.shown])
  | none => pure ()
  pure ⟨command, (c.addInitials s).settled⟩

/-- Describes the command that names lead to. -/
def Command.describe (c : Command) (ctx : Context) : List String → Fault
  | [] => .help (c.help ctx.env (ctx.call c))
  | name :: rest =>
    match c.find? name with
    | some sub => sub.describe (ctx.below name) rest
    | none =>
      if c.isGroup ∧ name = helpName then
        match rest with
        | [] => .help (helpHelp ((ctx.below name).call c))
        | other :: _ => .unknownCommand other
      else .unknownCommand name

/-- Reads the arguments of a command. `free` says that two hyphens have come, behind which
nothing is an option. -/
def Command.read (c : Command) (ctx : Context) (command : List String) (free : Bool)
    (s : State) : List String → Except Fault Matches
  | [] => c.finish ctx command s
  | text :: rest =>
    if free then do c.read ctx command true (← c.readOperand true text s) rest
    else
      match s.awaited with
      | some a =>
        if a.signed then c.read ctx command false (s.give text) rest
        else if text = "--" then c.read ctx command true s rest
        else
          match Hyphened.of text.toList with
          | .long cs => do c.read ctx command false (← c.readLong ctx cs s) rest
          | .letters cs => do c.read ctx command false (← c.readLetters ctx cs s) rest
          | .none => c.read ctx command false (s.give text) rest
      | none =>
        match c.find? text with
        | some sub =>
          sub.read (ctx.below text) (command ++ [text]) false .initial rest
        | none =>
          if c.isGroup ∧ text = helpName then .error (c.describe ctx rest)
          else if text = "--" then c.read ctx command true s rest
          else
            match Hyphened.of text.toList with
            | .long cs => do c.read ctx command false (← c.readLong ctx cs s) rest
            | .letters cs => do c.read ctx command false (← c.readLetters ctx cs s) rest
            | .none => do c.read ctx command false (← c.readOperand false text s) rest

/-- The name under which a program was called, from the path to it. -/
def calledName? (path : String) : Option String :=
  let parts := (Text.splitAt '/' path.toList).filter fun p => p ≠ [] ∧ p ≠ ['.']
  match parts.getLast? with
  | some name => if name = ['.', '.'] then none else some (String.ofList name)
  | none => none

/-- What a command line says: the path to the program and its arguments. -/
def Command.parse (c : Command) (env : String → Option String) : List String → Except Fault Matches
  | [] => c.read ⟨env, []⟩ [] false .initial []
  | program :: arguments =>
    c.read ⟨env, (calledName? program).toList⟩ [] false .initial arguments

end IngestWatch.CommandLine
