import IngestWatch.Polling
import IngestWatch.Timer.Queue

/-!
A refresher whose further cycles wait in a queue until they are fired by hand.
-/

namespace IngestWatch.Polling

/-- A refresher, the cycles it has asked for, the fetches prepared but not yet
awaited, and how many requests were made so far. -/
structure ByHand where
  refresher : Refresher
  queue : Timer.Queue Unit
  prepared : Nat
  requests : Nat

namespace ByHand

def new (r : Refresher) : ByHand :=
  ⟨r, .empty, 0, 0⟩

/-- Runs a cycle now and queues the one it asks for. -/
def runCycle (s : ByHand) : ByHand × Outcome :=
  let (r, outcome, next) := s.refresher.cycle
  let queue := match next with
    | some delay => s.queue.schedule ⟨delay, ()⟩
    | none => s.queue
  ({ s with refresher := r, queue := queue, requests := s.requests + 1 }, outcome)

/-- Fires the oldest waiting cycle; gives its delay. -/
def runNext (s : ByHand) : ByHand × Option Nat :=
  match s.queue.next? with
  | none => (s, none)
  | some (t, rest) => (({ s with queue := rest }).runCycle.1, some t.delay)

def step (s : ByHand) : Step → ByHand × Reply
  | .tell command => ({ s with refresher := s.refresher.obey command }, .nothing)
  | .fetch =>
    let (s, outcome) := s.runCycle
    (s, .outcome outcome)
  | .prepare => ({ s with prepared := s.prepared + 1 }, .nothing)
  | .await =>
    if s.prepared = 0 then (s, .nothing)
    else
      let (s, outcome) := ({ s with prepared := s.prepared - 1 }).runCycle
      (s, .outcome outcome)
  | .discard => ({ s with prepared := s.prepared - 1 }, .nothing)
  | .subscribe => ({ s with refresher := s.refresher.subscribe }, .nothing)
  | .look =>
    ({ s with refresher := s.refresher.subscribe },
      .news s.refresher.recordIsNews s.refresher.outcomeIsNews)

end ByHand

end IngestWatch.Polling
