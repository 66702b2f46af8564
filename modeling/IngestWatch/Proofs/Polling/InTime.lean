import IngestWatch.Polling.Timed
import IngestWatch.Proofs.Polling.Log
import IngestWatch.Proofs.Timer.Timeline

/-!
Runs of a refresher whose further cycles run in virtual time, and their logs, read off
the states a run goes through. A cycle that a timer runs is logged with the instant at
which it was due.
-/

namespace IngestWatch.Polling

open Timer

/-- A move in time: a step of the owner, time passes, or the timers are cancelled. -/
inductive Timed.Move where
  | take (step : Step)
  | advance (span : Nat)
  | cancel
deriving DecidableEq, Repr

/-- What cycles run by timers write into the log. -/
def firedLog (fired : List (Event Unit × Watched)) : List Happening :=
  fired.flatMap fun (e, w) => w.refresher.cycleLog (some e.due)

theorem firedLog_concat (fired : List (Event Unit × Watched)) (e : Event Unit) (w : Watched) :
    firedLog (fired ++ [(e, w)]) = firedLog fired ++ w.refresher.cycleLog (some e.due) := by
  simp [firedLog]

theorem Watched.length_cycle_events (w : Watched) (now : Nat) :
    (w.cycle now).2.2.length = w.refresher.delivery.next.toList.length :=
  List.length_map _

/-- A timer that fires runs a cycle. -/
@[simp] theorem program_run (now : Nat) (task : Unit) (w : Watched) :
    program.run now task w = ((w.cycle now).1, (w.cycle now).2.2) := rfl

namespace Timed

def act (s : Timed) : Move → Timed
  | .take step => (s.step step).1
  | .advance span => s.advance span
  | .cancel => s.cancel

def run (s : Timed) (moves : List Move) : Timed :=
  moves.foldl act s

/-- The timeline when a cycle awaited now has ended and nothing else has happened yet. -/
def cycled (s : Timed) : Timeline Watched Unit :=
  let (w, _, events) := s.timeline.world.cycle s.timeline.now
  { s.timeline with world := w }.setAll events

theorem runCycle_timeline (s : Timed) :
    s.runCycle.1.timeline = s.cycled.settle program := rfl

/-- What a cycle awaited now and the timers due at this instant write into the log. -/
def cycleHappenings (s : Timed) : List Happening :=
  s.refresher.cycleLog none ++ firedLog (s.cycled.firedUntil program s.cycled.now)

/-- What a move writes into the log of a run that has come to the state `s`. -/
def happenings (s : Timed) : Move → List Happening
  | .take (.tell command) => [.told command]
  | .take .fetch => s.cycleHappenings
  | .take .await => if s.prepared = 0 then [] else s.cycleHappenings
  | .take .prepare | .take .discard => []
  | .take .subscribe | .take .look => [.observed]
  | .advance span => firedLog (s.timeline.firedUntil program (s.timeline.now + span))
  | .cancel => []

/-- All that was due has been run. -/
def Settled (s : Timed) : Prop :=
  ∀ e ∈ s.timeline.events, s.timeline.now < e.due

theorem settled_runCycle (s : Timed) : s.runCycle.1.Settled := by
  obtain ⟨now, ahead⟩ := Timeline.now_runUntil (p := program) (Nat.le_refl s.cycled.now)
  intro e member
  rw [runCycle_timeline, Timeline.settle] at member ⊢
  rw [now]
  exact ahead e member

theorem settled_act {s : Timed} (settled : s.Settled) (move : Move) : (s.act move).Settled := by
  match move with
  | .take (.tell command) => exact settled
  | .take .fetch => exact s.settled_runCycle
  | .take .prepare => exact settled
  | .take .discard => exact settled
  | .take .subscribe => exact settled
  | .take .look => exact settled
  | .take .await =>
    by_cases none : s.prepared = 0
    · simpa only [act, step, none, if_true] using settled
    · simp only [act, step, none, if_false]
      exact settled_runCycle { s with prepared := s.prepared - 1 }
  | .advance span =>
    obtain ⟨now, ahead⟩ := Timeline.now_runUntil (p := program)
      (Nat.le_add_right s.timeline.now span)
    intro e member
    change (s.timeline.runUntil program (s.timeline.now + span)).now < e.due
    rw [now]
    exact ahead e member
  | .cancel => exact fun e member => settled e (List.mem_filter.mp member).1

theorem settled_run_of {s : Timed} (settled : s.Settled) (moves : List Move) :
    (s.run moves).Settled := by
  induction moves generalizing s with
  | nil => exact settled
  | cons move rest ih => exact ih (settled_act settled move)

theorem settled_run (r : Refresher) (slips : Nat → Bool) (moves : List Move) :
    ((new r slips).run moves).Settled :=
  settled_run_of (by rintro _ ⟨⟩) moves

end Timed

end IngestWatch.Polling
