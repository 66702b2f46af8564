import IngestWatch.Fetch
import IngestWatch.Target

/-!
Polling one statistic. A refresher holds the latest record and runs fetch cycles;
a cycle that succeeds while polling is on asks for one further cycle after the
current interval, a cycle that fails asks for none.
-/

namespace IngestWatch.Polling

/-- What the owner of a refresher can tell it at any moment. -/
inductive Command where
  | start (interval : Option Nat)
  | stop
deriving DecidableEq, Repr

/-- What the service does with one request, and what the owner said between the
request and its result. -/
structure Answer where
  result : Fetched
  during : List Command

/-- What a cycle came to. -/
inductive Outcome where
  | refreshed (rescheduled : Bool)
  | failed (reason : FetchFailure)
deriving DecidableEq, Repr

/-- The state that all handles of a refresher share, what observers have not looked
at yet, and what the service will answer. -/
structure Refresher where
  target : String
  interval : Nat
  polling : Bool
  record : Option Json
  outcome : Option Outcome
  recordIsNews : Bool
  outcomeIsNews : Bool
  answers : List Answer

namespace Refresher

def new (pathPrefix statistic : String) (interval : Nat) (answers : List Answer) : Refresher :=
  ⟨Target.statistics pathPrefix statistic, interval, false, none, none, false, false, answers⟩

/-- Turns polling on, with a new interval if one is given. -/
def start (r : Refresher) (interval : Option Nat) : Refresher :=
  { r with interval := interval.getD r.interval, polling := true }

/-- Turns polling off; the interval stays. -/
def stop (r : Refresher) : Refresher :=
  { r with polling := false }

def obey (r : Refresher) : Command → Refresher
  | .start interval => r.start interval
  | .stop => r.stop

/-- What a delivered result does: a success replaces the record and, with polling on
at that moment, asks for a further cycle after the interval of that moment. -/
def deliver (r : Refresher) : Fetched → Refresher × Outcome × Option Nat
  | .ok body =>
    let r := { r with record := some body, recordIsNews := true }
    (r, .refreshed r.polling, if r.polling then some r.interval else none)
  | .error reason => (r, .failed reason, none)

/-- The answer to a request and the refresher while it is under way. -/
def request (r : Refresher) : Answer × Refresher :=
  match r.answers with
  | [] => (⟨Fetched.exhausted, []⟩, r)
  | a :: rest => (a, { r with answers := rest })

/-- One cycle: its outcome, which observers see, and the delay of the next cycle if
there is to be one. -/
def cycle (r : Refresher) : Refresher × Outcome × Option Nat :=
  let (answer, r) := r.request
  let (r, outcome, next) := (answer.during.foldl obey r).deliver answer.result
  ({ r with outcome := some outcome, outcomeIsNews := true }, outcome, next)

/-- New observers, who have seen everything there is. -/
def subscribe (r : Refresher) : Refresher :=
  { r with recordIsNews := false, outcomeIsNews := false }

end Refresher

/-- What can be done with a refresher. A fetch that is prepared does nothing until it
is awaited or discarded; prepared fetches are awaited in the order in which they
were made. -/
inductive Step where
  | tell (command : Command)
  | fetch
  | prepare
  | await
  | discard
  | subscribe
  | look
deriving DecidableEq, Repr

/-- What a step gives back. -/
inductive Reply where
  | nothing
  | outcome (value : Outcome)
  | fired (delay : Nat)
  | news (record outcome : Bool)
deriving DecidableEq, Repr

end IngestWatch.Polling
