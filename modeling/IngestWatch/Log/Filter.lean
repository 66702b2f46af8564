import IngestWatch.Decimal.Whole
import IngestWatch.Log.Event
import IngestWatch.Text.Blank

/-!
Which events are logged: directives, separated by commas, that give a level to the events
of some targets. The most special directive that concerns an event decides.
-/

namespace IngestWatch.Log

/-! ## Directives -/

/-- A level for the events of targets that begin with a text and have some details. One
that names a span, or the value of a detail, concerns no event outside of spans. -/
structure Directive where
  target : Option String
  span : Option String
  fields : List String
  /-- The highest rank that is let through. -/
  rank : Nat
deriving DecidableEq, Repr

/-- Why a text is no directive. -/
inductive DirectiveFault where
  | malformed
  | badLevel
deriving DecidableEq, Repr

def DirectiveFault.message : DirectiveFault → String
  | .malformed => "invalid filter directive"
  | .badLevel => "error parsing level filter: expected one of \"off\", \"error\", \"warn\", "
      ++ "\"info\", \"debug\", \"trace\", or a number 0-5"

/-- The names of levels and of none. -/
def rankNames : List (String × Nat) :=
  [("off", 0), ("error", 1), ("warn", 2), ("info", 3), ("debug", 4), ("trace", 5)]

/-- The rank that a text names, by a number or by the name of its level. -/
def rankOf? (s : String) : Option Nat :=
  match Decimal.readUInt64 s with
  | .ok n => if n.toNat ≤ 5 then some n.toNat else none
  | .error _ => if s.isEmpty then some 1 else rankNames.lookup s.toLower

/-- The rank of all events, which a directive lets through that names no level. -/
def allRanks : Nat := 5

/-- Where the reader of a directive is, and where the part begins that it reads. -/
inductive DirectiveState where
  | start
  | levelOrTarget (begin_ : Nat)
  | span (begin_ : Nat)
  | field (begin_ : Nat)
  | fields
  | behind
  | level (begin_ : Nat)
deriving DecidableEq, Repr

namespace Directive

/-- Can a directive begin with the character? -/
def canBegin (c : Char) : Bool :=
  c.isAlphanum || 0x80 ≤ c.toNat || c = '-' || c = ':' || c = '_'

/-- The part of a text between two places. -/
def slice (cs : List Char) (begin_ end_ : Nat) : String :=
  String.ofList ((cs.take end_).drop begin_)

/-- Reads the character at a place. The parts are cut from `all`. -/
def step (all : List Char) (place : Nat) (c : Char) :
    DirectiveState × Directive → Except DirectiveFault (DirectiveState × Directive)
  | (.start, d) =>
    if c = '[' then .ok (.span (place + 1), d)
    else if canBegin c then .ok (.levelOrTarget place, d)
    else .error .malformed
  | (.levelOrTarget b, d) =>
    if c = '=' then .ok (.level (place + 1), { d with target := some (slice all b place) })
    else if c = '[' then .ok (.span (place + 1), { d with target := some (slice all b place) })
    else .ok (.levelOrTarget b, d)
  | (.behind, d) => if c = '=' then .ok (.level (place + 1), d) else .error .malformed
  | (.span b, d) =>
    let name := slice all b place
    if c = ']' then .ok (.behind, { d with span := some name })
    else if c = '\x7b' then
      .ok (.field (place + 1), { d with span := if name.isEmpty then none else some name })
    else .ok (.span b, d)
  | (.field b, d) =>
    let name := slice all b place
    if c = '\x7d' ∨ c = ',' then
      if name.isEmpty then .error .malformed
      else
        .ok (if c = ',' then .field (place + 1) else .fields, { d with fields := d.fields ++ [name] })
    else .ok (.field b, d)
  | (.fields, d) => if c = ']' then .ok (.behind, d) else .error .malformed
  | (.level b, d) => .ok (.level b, d)

/-- Reads characters from a place on. -/
def run (all : List Char) : Nat → List Char → DirectiveState × Directive →
    Except DirectiveFault (DirectiveState × Directive)
  | _, [], s => .ok s
  | place, c :: rest, s => do run all (place + 1) rest (← step all place c s)

/-- The directive that a text is. A single name is a level or else a target. -/
def parse (text : String) : Except DirectiveFault Directive := do
  let all := text.toList
  match ← run all 0 (Text.trimBlanks all) (.start, ⟨none, none, [], allRanks⟩) with
  | (.levelOrTarget b, d) =>
    let name := String.ofList (all.drop b)
    match rankOf? name with
    | some rank => pure { d with rank := if name.isEmpty then allRanks else rank }
    | none => pure { d with target := some name }
  | (.level b, d) =>
    let name := String.ofList (all.drop b)
    if name.isEmpty then pure d
    else
      match rankOf? name with
      | some rank => pure { d with rank := rank }
      | none => throw .badLevel
  | (.behind, d) => pure d
  | _ => throw .malformed

/-- Does a directive concern an event that is in no span? -/
def concerns (d : Directive) (e : Event) : Bool :=
  d.span.isNone && (d.target.getD "").toList.isPrefixOf e.target.toList
    && d.fields.all fun f => !f.toList.contains '=' && (f = "message" || e.fields.any (·.1 = f))

/-- How special a directive is: by the length of its target, then by its fields. -/
def weight (d : Directive) : Nat × Nat :=
  ((d.target.map fun t => t.utf8ByteSize + 1).getD 0, d.fields.length)

/-- Is a directive at least as special as another? -/
def outweighs (a b : Directive) : Bool :=
  b.weight.1 < a.weight.1 || (b.weight.1 = a.weight.1 && b.weight.2 ≤ a.weight.2)

end Directive

/-! ## Filters -/

/-- The directives of a filter; of two alike the later counts. -/
abbrev Filter := List Directive

namespace Filter

/-- Where nothing is said, errors are logged. -/
def ofDirectives (ds : List Directive) : Filter :=
  if ds.isEmpty then [⟨none, none, [], 1⟩] else ds

/-- The parts between commas that are not empty. -/
def pieces (text : String) : List String :=
  ((Text.splitAt ',' text.toList).filter fun p => !p.isEmpty).map String.ofList

/-- The filter that a text is, if all its parts are directives. -/
def parse (text : String) : Except DirectiveFault Filter :=
  ofDirectives <$> (pieces text).mapM Directive.parse

/-- The filter of those parts of a text that are directives, and a complaint about each
of the others. -/
def parseLossy (text : String) : Filter × List String :=
  let parts := (pieces text).map fun p => (p, Directive.parse p)
  (ofDirectives (parts.filterMap fun (_, d) => d.toOption),
    parts.filterMap fun
      | (p, .error e) => some s!"ignoring `{p}`: {e.message}"
      | (_, .ok _) => none)

/-- The filter of the environment if it is one, else that of the configuration with what
there is to complain about. -/
def choose (environment : Option String) (configured : String) : Filter × List String :=
  match environment.map parse with
  | some (.ok f) => (f, [])
  | _ => parseLossy configured

/-- The most special of the directives that concern an event. -/
def strongest? (f : Filter) (e : Event) : Option Directive :=
  (f.filter (·.concerns e)).foldl
    (fun best d => match best with
      | none => some d
      | some b => if d.outweighs b then some d else some b) none

/-- Is an event logged? -/
def allows (f : Filter) (e : Event) : Bool :=
  match f.strongest? e with
  | some d => e.level.rank ≤ d.rank
  | none => false

end Filter

end IngestWatch.Log
