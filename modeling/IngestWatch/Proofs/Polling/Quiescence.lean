import IngestWatch.Proofs.Polling.Alike
import IngestWatch.Proofs.Polling.Observers

/-!
A refresher comes to rest once polling is off and nobody turns it on again. The cycles that
wait may still be run, each with one request, but none is asked for; so there are never
more requests than cycles that waited and fetches awaited, and when the last waiting cycle
has been run none ever waits again. This is so for the queue fired by hand and for timers,
from every state and however long the run goes on.
-/

namespace IngestWatch.Polling

open Timer

/-- Nobody turns polling on, not even while a request is under way. -/
def NoStart (log : List Happening) : Prop :=
  ∀ c ∈ commands log, c = .stop

instance (log : List Happening) : Decidable (NoStart log) :=
  inferInstanceAs (Decidable (∀ _ ∈ _, _))

theorem noStart_append_iff {first second : List Happening} :
    NoStart (first ++ second) ↔ NoStart first ∧ NoStart second := by
  simp only [NoStart, commands_append, List.forall_mem_append]

namespace Refresher

/-- With polling off, and nobody turning it on meanwhile, a cycle asks for no further one. -/
theorem delivery_of_off {r : Refresher} (off : r.polling = false) {waited : Option Nat}
    (quiet : NoStart (r.cycleLog waited)) :
    r.delivery.next = none ∧ r.cycle.1.polling = false := by
  have stopped (commands : List Command) (only : ∀ c ∈ commands, c = .stop) (q : Refresher)
      (off : q.polling = false) : (commands.foldl obey q).polling = false := by
    induction commands generalizing q with
    | nil => exact off
    | cons c rest ih =>
      obtain rfl : c = .stop := only c List.mem_cons_self
      exact ih (fun d member => only d (.tail _ member)) _ rfl
  rw [NoStart, commands_cycleLog] at quiet
  have still : r.atDelivery.polling = false :=
    stopped _ quiet _ (r.request_polling.trans off)
  constructor
  · rw [delivery_next]
    simp [delivery, still]
  · rw [cycle_polling, still]

/-- What a log can hold when polling is off and stays off: cycles are asked for no more, and
each one that is run did wait. -/
structure Dwindles (waiting : Nat) (log : List Happening) (left : Nat) : Prop where
  unscheduled : delays log = []
  fired : left + (firings log).length ≤ waiting
  requests : (targets log).length = awaits log + (firings log).length

theorem Dwindles.append {waiting between left : Nat} {first second : List Happening}
    (before : Dwindles waiting first between) (after : Dwindles between second left) :
    Dwindles waiting (first ++ second) left := by
  have fired := before.fired
  have fired' := after.fired
  have requests := before.requests
  have requests' := after.requests
  constructor
  · rw [delays_append, before.unscheduled, after.unscheduled, List.append_nil]
  · rw [firings_append, List.length_append]
    omega
  · rw [targets_append, awaits_append, firings_append, List.length_append, List.length_append]
    omega

/-- A cycle with polling off takes out what it was fired from and puts nothing in. -/
theorem dwindles_cycleLog {r : Refresher} (off : r.polling = false) {waited : Option Nat}
    (quiet : NoStart (r.cycleLog waited)) (others : Nat) :
    r.cycle.1.polling = false ∧ Dwindles (others + waited.toList.length) (r.cycleLog waited)
      (others + r.delivery.next.toList.length) := by
  obtain ⟨none, still⟩ := delivery_of_off off quiet
  refine ⟨still, ?_, ?_, ?_⟩
  · rw [delays_cycleLog, none]
    rfl
  · rw [none, firings_cycleLog]
    exact Nat.le_refl _
  · cases waited with
    | none => simp
    | some delay => simp

theorem dwindles_of_turn {r r' : Refresher} {waiting left : Nat} {log : List Happening}
    (off : r.polling = false) (turn : r.Turn waiting log r' left) (quiet : NoStart log) :
    r'.polling = false ∧ Dwindles waiting log left := by
  cases turn with
  | lapsed fewer => exact ⟨off, rfl, fewer, rfl⟩
  | told command =>
    obtain rfl : command = .stop := quiet command (by simp [commands])
    exact ⟨rfl, rfl, Nat.le_refl _, rfl⟩
  | observed => exact ⟨off, rfl, Nat.le_refl _, rfl⟩
  | awaited => exact dwindles_cycleLog off quiet waiting
  | fired waited one =>
    subst one
    exact dwindles_cycleLog off quiet _

theorem dwindles_of_evolves {r r' : Refresher} {waiting left : Nat} {log : List Happening}
    (off : r.polling = false) (evolves : r.Evolves waiting log r' left) (quiet : NoStart log) :
    r'.polling = false ∧ Dwindles waiting log left := by
  induction evolves with
  | start => exact ⟨off, rfl, Nat.le_refl _, rfl⟩
  | turn _ next ih =>
    obtain ⟨before, now⟩ := noStart_append_iff.mp quiet
    obtain ⟨still, dwindles⟩ := ih before
    obtain ⟨stays, more⟩ := dwindles_of_turn still next now
    exact ⟨stays, dwindles.append more⟩

end Refresher

/-! ## Whatever runs the cycles -/

namespace Scheduling

variable {σ μ : Type} {k : Scheduling σ μ} {requests : σ → Nat} {s : σ} {moves : List μ}

/-- What moves come to when polling is off before them and stays off. `requests` counts the
requests made so far. -/
structure ComesToRest (k : Scheduling σ μ) (requests : σ → Nat) (s : σ) (moves : List μ) :
    Prop where
  unscheduled : delays (k.log s moves) = []
  waiting_le : k.waiting (k.run s moves) + (firings (k.log s moves)).length ≤ k.waiting s
  requests_eq : requests (k.run s moves) =
    requests s + awaits (k.log s moves) + (firings (k.log s moves)).length
  requests_le : requests (k.run s moves) ≤ requests s + (k.waiting s + awaits (k.log s moves))
  requests_eq_iff :
    requests (k.run s moves) = requests s + (k.waiting s + awaits (k.log s moves)) ↔
      (firings (k.log s moves)).length = k.waiting s
  record : (k.refresher (k.run s moves)).record =
    (bodies (k.log s moves)).getLast?.or (k.refresher s).record
  forever : (firings (k.log s moves)).length = k.waiting s → ∀ later,
    NoStart (k.log (k.run s moves) later) → k.waiting (k.run s (moves ++ later)) = 0

theorem comesToRest_of_off (off : (k.refresher s).polling = false)
    (quiet : NoStart (k.log s moves))
    (counted : requests (k.run s moves) = requests s + (targets (k.log s moves)).length) :
    k.ComesToRest requests s moves := by
  have evolves := k.evolves_run s moves
  obtain ⟨still, dwindles⟩ := Refresher.dwindles_of_evolves off evolves quiet
  have fired := dwindles.fired
  have made := dwindles.requests
  constructor
  case unscheduled => exact dwindles.unscheduled
  case waiting_le => exact fired
  case requests_eq => omega
  case requests_le => omega
  case requests_eq_iff => omega
  case record => exact (Refresher.holds_of_evolves evolves).record
  case forever =>
    intro all later silent
    obtain ⟨-, after⟩ :=
      Refresher.dwindles_of_evolves still (k.evolves_run (k.run s moves) later) silent
    have := after.fired
    rw [run_append]
    omega

end Scheduling

/-! ## The queue fired by hand -/

namespace ByHand

theorem log_scheduling (s : ByHand) (moves : List Move) : scheduling.log s moves = s.log moves := by
  induction moves generalizing s with
  | nil => rfl
  | cons move rest ih => exact congrArg (s.happenings move ++ ·) (ih (s.act move))

theorem requests_run (s : ByHand) (moves : List Move) :
    (s.run moves).requests = s.requests + (targets (s.log moves)).length := by
  refine of_run (P := fun log s' => s'.requests = s.requests + (targets log).length) s rfl ?_ moves
  intro log s' more s'' made h
  rw [targets_append, List.length_append]
  cases h with
  | idle => simpa [targets] using made
  | told => simpa [targets] using made
  | observed => simpa [targets] using made
  | awaited => simp [made, Nat.add_assoc]
  | fired => simp [made, Nat.add_assoc]

/-- Firing with polling off takes the oldest cycle out, puts none in and makes one request. -/
theorem runNext_of_off {s : ByHand} (off : s.refresher.polling = false)
    (quiet : NoStart (s.happenings .fire)) {t : Delayed Unit} {rest : List (Delayed Unit)}
    (oldest : s.queue.waiting = t :: rest) :
    s.runNext.2 = some t.delay ∧ s.runNext.1.queue.waiting = rest ∧
      s.runNext.1.requests = s.requests + 1 := by
  have logged : s.happenings .fire = s.refresher.cycleLog (some t.delay) := by
    simp only [happenings, oldest]
  have none : s.refresher.cycle.2.2 = none :=
    (Refresher.delivery_of_off off (logged ▸ quiet)).1
  simp only [runNext, Queue.next?, oldest, runCycle, none, and_self]

/-- What moves by hand come to when polling is off before them and stays off. -/
structure ComesToRest (s : ByHand) (moves : List Move) : Prop extends
    scheduling.ComesToRest requests s moves where
  inOrder : firings (scheduling.log s moves) ++ (s.run moves).queue.pending = s.queue.pending
  fires : NoStart ((s.run moves).happenings .fire) → ∀ t rest,
    (s.run moves).queue.waiting = t :: rest →
      (s.run moves).runNext.2 = some t.delay ∧
        (s.run moves).runNext.1.queue.waiting = rest ∧
        (s.run moves).runNext.1.requests = (s.run moves).requests + 1
  silent : (firings (scheduling.log s moves)).length = s.queue.count → ∀ later,
    NoStart (scheduling.log (s.run moves) later) →
      (s.run (moves ++ later)).runNext = (s.run (moves ++ later), none)

theorem comesToRest {s : ByHand} (off : s.refresher.polling = false) {moves : List Move}
    (quiet : NoStart (scheduling.log s moves)) : s.ComesToRest moves := by
  have counted := s.requests_run moves
  rw [← log_scheduling] at counted
  have rests : scheduling.ComesToRest requests s moves :=
    Scheduling.comesToRest_of_off off quiet counted
  have evolves := scheduling.evolves_run s moves
  refine { rests with inOrder := ?_, fires := ?_, silent := ?_ }
  · have inOrder := s.firings_append_pending_of moves
    rw [← log_scheduling, rests.unscheduled, List.append_nil] at inOrder
    exact inOrder
  · intro silent t rest oldest
    exact runNext_of_off (Refresher.dwindles_of_evolves off evolves quiet).1 silent oldest
  · intro all later silent
    have empty : (s.run (moves ++ later)).queue.waiting = [] :=
      List.eq_nil_of_length_eq_zero (rests.forever all later silent)
    simp only [runNext, Queue.next?, empty]

end ByHand

/-! ## Timers -/

/-- With polling off a timer that fires makes its request and sets nothing. -/
theorem fire_of_off {tl : Timeline Watched Unit} (off : tl.world.refresher.polling = false)
    {e : Event Unit} (reached : tl.now ≤ e.due)
    (quiet : NoStart (tl.world.refresher.cycleLog (some e.due))) (rest : List (Event Unit)) :
    tl.fire program e rest = { tl with
      now := e.due
      events := rest
      world := { tl.world with
        refresher := tl.world.refresher.cycle.1
        requestedAt := tl.world.requestedAt ++ [e.due] } } := by
  have now : max tl.now e.due = e.due := Nat.max_eq_right reached
  have unasked : tl.world.refresher.cycle.2.2 = none :=
    (Refresher.delivery_of_off off quiet).1
  simp [Timeline.fire, Timeline.setAll, Watched.cycle, now, unasked]

/-- With polling off the timers due by an instant are fired, each with one request at its
instant, and the others stay. -/
theorem runUntil_of_off {tl : Timeline Watched Unit} {instant : Nat}
    (off : tl.world.refresher.polling = false) (ahead : ∀ e ∈ tl.events, tl.now ≤ e.due)
    (quiet : NoStart (firedLog (tl.firedUntil program instant))) :
    (tl.runUntil program instant).events = tl.events.filter (instant < ·.due) ∧
      ∃ instants, (tl.runUntil program instant).world.requestedAt =
          tl.world.requestedAt ++ instants ∧
        instants.Perm ((tl.events.filter (·.due ≤ instant)).map (·.due)) := by
  induction tl using Timeline.until_induct program instant with
  | ahead tl later =>
    obtain ⟨ran, -⟩ := Timeline.runUntil_of_ahead (p := program) later
    have kept : tl.events.filter (instant < ·.due) = tl.events :=
      List.filter_eq_self.mpr fun e member => decide_eq_true (later e member)
    have none : tl.events.filter (·.due ≤ instant) = [] := by
      refine List.filter_eq_nil_iff.mpr fun e member => ?_
      have := later e member
      simpa using this
    rw [ran, kept, none]
    exact ⟨rfl, [], (List.append_nil _).symm, .nil⟩
  | due tl e rest earliest due ih =>
    obtain ⟨ran, more⟩ := Timeline.runUntil_of_due (p := program) earliest due
    have perm := perm_of_takeEarliest earliest
    rw [more, ← List.singleton_append, firedLog, List.flatMap_append, ← firedLog, ← firedLog,
      noStart_append_iff] at quiet
    obtain ⟨first, others⟩ := quiet
    have own : NoStart (tl.world.refresher.cycleLog (some e.due)) := by
      simpa [firedLog] using first
    have fired := fire_of_off off (ahead e (perm.mem_iff.mpr List.mem_cons_self)) own rest
    rw [fired] at ih others
    obtain ⟨events, instants, made, those⟩ := ih (Refresher.delivery_of_off off own).2
      (fun f member => due_le_of_takeEarliest earliest f (perm.mem_iff.mpr (.tail _ member)))
      others
    have gone : decide (instant < e.due) = false := decide_eq_false (Nat.not_lt.mpr due)
    rw [ran, fired]
    refine ⟨events.trans (filter_of_takeEarliest earliest gone), e.due :: instants, ?_, ?_⟩
    · rw [made, List.append_assoc]
      rfl
    · have split := (perm.filter (·.due ≤ instant)).map (·.due)
      rw [List.filter_cons, if_pos (decide_eq_true due), List.map_cons] at split
      exact (those.cons e.due).trans split.symm

theorem length_targets_firedLog (fired : List (Event Unit × Watched)) :
    (targets (firedLog fired)).length = fired.length := by
  induction fired with
  | nil => rfl
  | cons x rest ih =>
    obtain ⟨e, w⟩ := x
    rw [firedLog, List.flatMap_cons, ← firedLog, targets_append, List.length_append, ih,
      Refresher.targets_cycleLog, List.length_singleton, List.length_cons, Nat.add_comm]

namespace Timed

theorem requests_runCycle (s : Timed) :
    s.runCycle.1.requests = s.requests + (targets s.cycleHappenings).length := by
  rw [requests, runCycle_timeline, Timeline.settle, length_requestedAt_runUntil,
    requests_cycled, cycleHappenings, targets_append, List.length_append,
    length_targets_firedLog, Refresher.targets_cycleLog, List.length_singleton, Nat.add_assoc]

theorem requests_act (s : Timed) (move : Move) :
    (s.act move).requests = s.requests + (targets (s.happenings move)).length := by
  match move with
  | .take (.tell command) => rfl
  | .take .fetch => exact s.requests_runCycle
  | .take .prepare => rfl
  | .take .discard => rfl
  | .take .subscribe => rfl
  | .take .look => rfl
  | .take .await =>
    by_cases none : s.prepared = 0
    · simp [act, step, happenings, none, targets]
    · simp only [act, step, happenings, none, if_false]
      exact requests_runCycle { s with prepared := s.prepared - 1 }
  | .advance span =>
    rw [happenings, length_targets_firedLog]
    exact length_requestedAt_runUntil _ _
  | .cancel => rfl

theorem requests_run (s : Timed) (moves : List Move) :
    (s.run moves).requests = s.requests + (targets (scheduling.log s moves)).length := by
  induction moves generalizing s with
  | nil => rfl
  | cons move rest ih =>
    have first : s.run (move :: rest) = (s.act move).run rest := rfl
    have logged : scheduling.log s (move :: rest) =
        s.happenings move ++ scheduling.log (s.act move) rest := rfl
    rw [first, logged, ih, requests_act, targets_append, List.length_append, Nat.add_assoc]

/-- What moves in time come to when polling is off before them and stays off. -/
structure ComesToRest (s : Timed) (moves : List Move) : Prop extends
    scheduling.ComesToRest requests s moves where
  fires : ∀ span, NoStart ((s.run moves).happenings (.advance span)) →
    let t := s.run moves
    let instant := t.timeline.now + span
    (t.advance span).timeline.events = t.timeline.events.filter (instant < ·.due) ∧
      ∃ instants, (t.advance span).timeline.world.requestedAt =
          t.timeline.world.requestedAt ++ instants ∧
        instants.Perm ((t.timeline.events.filter (·.due ≤ instant)).map (·.due))
  silent : (firings (scheduling.log s moves)).length = s.timeline.events.length → ∀ later,
    NoStart (scheduling.log (s.run moves) later) → ∀ span,
      ((s.run (moves ++ later)).advance span).timeline.world =
        (s.run (moves ++ later)).timeline.world

theorem comesToRest {s : Timed} (off : s.refresher.polling = false) (settled : s.Settled)
    {moves : List Move} (quiet : NoStart (scheduling.log s moves)) : s.ComesToRest moves := by
  have rests : scheduling.ComesToRest requests s moves :=
    Scheduling.comesToRest_of_off off quiet (s.requests_run moves)
  have evolves := scheduling.evolves_run s moves
  refine { rests with fires := ?_, silent := ?_ }
  · intro span silent
    have ahead : (s.run moves).Settled := settled_run_of settled moves
    exact runUntil_of_off (Refresher.dwindles_of_evolves off evolves quiet).1
      (fun e member => (ahead e member).le) silent
  · intro all later silent span
    have empty : (s.run (moves ++ later)).timeline.events = [] :=
      List.eq_nil_of_length_eq_zero (rests.forever all later silent)
    have none : ∀ e ∈ (s.run (moves ++ later)).timeline.events,
        (s.run (moves ++ later)).timeline.now + span < e.due := by
      simp [empty]
    have ran := (Timeline.runUntil_of_ahead (p := program) none).1
    change (Timeline.runUntil program _ _).world = _
    rw [ran]

end Timed

/-- Whatever has been done before, from the moment a refresher is told to stop, and as long
as nobody starts it again, it comes to rest. Telling it changes neither what waits nor the
requests made. -/
theorem comes_to_rest_after_stop (pathPrefix statistic : String) (interval : Nat)
    (answers : List Answer) :
    let r := Refresher.new pathPrefix statistic interval answers
    (∀ before moves,
      let s := (ByHand.new r).run before
      let stopped := s.act (.take (.tell .stop))
      NoStart (ByHand.scheduling.log stopped moves) →
        stopped.ComesToRest moves ∧ stopped.queue = s.queue ∧ stopped.requests = s.requests) ∧
    ∀ slips before moves,
      let s := (Timed.new r slips).run before
      let stopped := s.act (.take (.tell .stop))
      NoStart (Timed.scheduling.log stopped moves) →
        stopped.ComesToRest moves ∧ stopped.timeline.events = s.timeline.events ∧
          stopped.requests = s.requests := by
  intro r
  constructor
  · intro before moves s stopped quiet
    exact ⟨ByHand.comesToRest rfl quiet, rfl, rfl⟩
  · intro slips before moves s stopped quiet
    have settled : stopped.Settled :=
      Timed.settled_act (Timed.settled_run r slips before) (.take (.tell .stop))
    exact ⟨Timed.comesToRest rfl settled quiet, rfl, rfl⟩

/-- Two cycles wait when the refresher is told to stop, and it is told so again while a fired
one's request is under way. A fetch between the firings makes the third and last request. -/
theorem comes_to_rest_beside_fetch :
    let r := Refresher.new "" "queryRate" 5000 [⟨.ok .null, []⟩, ⟨.ok .null, []⟩,
      ⟨.ok (.bool true), [.stop]⟩, ⟨.error (.badStatus 500), []⟩, ⟨.ok (.bool false), []⟩]
    let byHand := ((ByHand.new r).run [.take (.tell (.start (some 1000))), .take .fetch,
      .take (.tell (.start (some 300))), .take .fetch]).act (.take (.tell .stop))
    let moves : List Move := [.fire, .take .fetch, .fire]
    let inTime := ((Timed.new r fun _ => false).run [.take (.tell (.start (some 1000))), .take .fetch,
      .take (.tell (.start (some 300))), .take .fetch]).act (.take (.tell .stop))
    let moves' : List Timed.Move := [.advance 300, .take .fetch, .advance 700]
    (NoStart (ByHand.scheduling.log byHand moves) ∧ byHand.ComesToRest moves ∧
        byHand.queue.pending = [1000, 300] ∧
        (byHand.run moves).requests = byHand.requests + 3) ∧
      NoStart (Timed.scheduling.log inTime moves') ∧ inTime.ComesToRest moves' ∧
        inTime.timeline.events.map (·.due) = [1000, 300] ∧
        (inTime.run moves').timeline.world.requestedAt = [0, 0, 300, 300, 1000] := by
  intro r byHand moves inTime moves'
  have law := comes_to_rest_after_stop "" "queryRate" 5000 [⟨.ok .null, []⟩, ⟨.ok .null, []⟩,
    ⟨.ok (.bool true), [.stop]⟩, ⟨.error (.badStatus 500), []⟩, ⟨.ok (.bool false), []⟩]
  have quiet : NoStart (ByHand.scheduling.log byHand moves) := by decide +kernel
  have quiet' : NoStart (Timed.scheduling.log inTime moves') := by decide +kernel
  refine ⟨⟨quiet, (law.1 _ _ quiet).1, rfl, rfl⟩, quiet', (law.2 _ _ _ quiet').1, ?_, ?_⟩
  · decide +kernel
  · decide +kernel

end IngestWatch.Polling
