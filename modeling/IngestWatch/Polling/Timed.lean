import IngestWatch.Polling
import IngestWatch.Timer.Timeline

/-!
A refresher whose further cycles run in virtual time. Every cycle uses up an
answer or ends its chain, so a chain ends even when its interval is zero. Which cycles
run although they are set after a cancelling is told by the number of requests made.
-/

namespace IngestWatch.Polling

open Timer

/-- A refresher, the instants of its requests, and for the cycle set at each request
whether it slips through a cancelling. -/
structure Watched where
  refresher : Refresher
  requestedAt : List Nat
  slips : Nat → Bool

namespace Watched

/-- One cycle at an instant. -/
def cycle (now : Nat) (w : Watched) : Watched × Outcome × List (Event Unit) :=
  let (r, outcome, next) := w.refresher.cycle
  (⟨r, w.requestedAt ++ [now], w.slips⟩, outcome,
    next.toList.map fun delay => ⟨now + delay, false, w.slips w.requestedAt.length, ()⟩)

end Watched

theorem answers_foldl_obey (r : Refresher) (commands : List Command) :
    (commands.foldl Refresher.obey r).answers = r.answers := by
  induction commands generalizing r with
  | nil => rfl
  | cons c rest ih =>
    rw [List.foldl_cons, ih]
    cases c <;> rfl

theorem answers_deliver (r : Refresher) (result : Fetched) :
    (r.deliver result).1.answers = r.answers := by
  cases result <;> rfl

/-- A cycle uses up one answer, and with none left its chain ends. -/
theorem cycle_cost (r : Refresher) :
    r.cycle.1.answers.length + r.cycle.2.2.toList.length < r.answers.length + 1 := by
  unfold Refresher.cycle Refresher.request
  cases h : r.answers with
  | nil =>
    simp [Fetched.exhausted, Refresher.deliver, h]
  | cons a rest =>
    simp only [answers_deliver, answers_foldl_obey, List.length_cons]
    generalize (List.foldl Refresher.obey { r with answers := rest } a.during) = q
    have atMostOne : ∀ next : Option Nat, next.toList.length ≤ 1 := by
      intro next; cases next <;> simp
    exact Nat.lt_of_le_of_lt (Nat.add_le_add_left (atMostOne _) _) (by omega)

/-- A task is one further cycle. -/
def program : Program Watched Unit where
  run now _ w :=
    let (w, _, events) := w.cycle now
    (w, events)
  worldCost w := w.refresher.answers.length
  taskCost _ := 1
  cost_lt now _ w := by
    have := cycle_cost w.refresher
    simp only [Watched.cycle]
    cases h : w.refresher.cycle.2.2 <;> simp_all [totalCost]

/-- A refresher on a timeline and the fetches prepared but not yet awaited. -/
structure Timed where
  timeline : Timeline Watched Unit
  prepared : Nat

namespace Timed

def new (r : Refresher) (slips : Nat → Bool) : Timed :=
  ⟨⟨0, false, [], ⟨r, [], slips⟩⟩, 0⟩

def refresher (s : Timed) : Refresher :=
  s.timeline.world.refresher

def mapRefresher (s : Timed) (f : Refresher → Refresher) : Timed :=
  { s with timeline :=
      { s.timeline with world := { s.timeline.world with refresher := f s.refresher } } }

/-- Runs a cycle at the present instant and lets everything due by then happen. -/
def runCycle (s : Timed) : Timed × Outcome :=
  let (w, outcome, events) := s.timeline.world.cycle s.timeline.now
  let timeline := ({ s.timeline with world := w }.setAll events).settle program
  ({ s with timeline := timeline }, outcome)

def advance (s : Timed) (span : Nat) : Timed :=
  { s with timeline := s.timeline.advance program span }

def cancel (s : Timed) : Timed :=
  { s with timeline := s.timeline.cancel }

def step (s : Timed) : Step → Timed × Reply
  | .tell command => (s.mapRefresher (·.obey command), .nothing)
  | .fetch =>
    let (s, outcome) := s.runCycle
    (s, .outcome outcome)
  | .prepare => ({ s with prepared := s.prepared + 1 }, .nothing)
  | .await =>
    if s.prepared = 0 then (s, .nothing)
    else
      let (s, outcome) := ({ s with prepared := s.prepared - 1 }).runCycle
      (s, .outcome outcome)
  | .discard => ({ s with prepared := s.prepared - 1 }, .nothing)
  | .subscribe => (s.mapRefresher (·.subscribe), .nothing)
  | .look =>
    (s.mapRefresher (·.subscribe), .news s.refresher.recordIsNews s.refresher.outcomeIsNews)

end Timed

end IngestWatch.Polling
