import IngestWatch.Proofs.Polling.InTime

/-!
Timers and a queue fired by hand drive a refresher alike. Timers fire in the order in
which they are due and the queue in the order in which cycles were asked for, but all
waiting cycles are the same to the refresher: only how many are fired, and when, counts.
So a run in time is followed by a run by hand that fires one cycle for each request of
a timer, however the chains overtake each other.
-/

namespace IngestWatch.Polling

open Timer

namespace Timed

def requests (s : Timed) : Nat :=
  s.timeline.world.requestedAt.length

/-- The requests in a move that belong to a fetch awaited in it. -/
def directRequests (s : Timed) : Move → Nat
  | .take .fetch => 1
  | .take .await => if s.prepared = 0 then 0 else 1
  | _ => 0

/-- The requests in a move that are made by timers. -/
def timerRequests (s : Timed) (move : Move) : Nat :=
  (s.act move).requests - s.requests - s.directRequests move

/-- The moves by hand that follow a move in time: the same step, if it is one, and then
one cycle is fired for each request of a timer. -/
def movesByHand (s : Timed) (move : Move) : List Polling.Move :=
  (match move with
    | .take step => [.take step]
    | .advance _ | .cancel => []) ++
    List.replicate (s.timerRequests move) .fire

/-- The run by hand that follows a run in time. -/
def byHand (s : Timed) : List Move → List Polling.Move
  | [] => []
  | move :: rest => s.movesByHand move ++ (s.act move).byHand rest

theorem byHand_append (s : Timed) (first second : List Move) :
    s.byHand (first ++ second) = s.byHand first ++ (s.run first).byHand second := by
  induction first generalizing s with
  | nil => rfl
  | cons move rest ih =>
    simp only [List.cons_append, byHand, ih, List.append_assoc]
    rfl

end Timed

/-- A run in time and one by hand have come to states that agree, and no timer was
cancelled. -/
structure Agree (t : Timed) (h : ByHand) : Prop where
  refresher : t.refresher = h.refresher
  prepared : t.prepared = h.prepared
  waiting : t.timeline.events.length = h.queue.count
  requests : t.requests = h.requests
  uncancelled : t.timeline.cancelled = false

/-- A cycle awaited now does the same in time as by hand. -/
theorem agree_cycle {t : Timed} {h : ByHand} (agree : Agree t h) :
    Agree { t with timeline := t.cycled } h.runCycle.1 := by
  have same : t.timeline.world.refresher = h.refresher := agree.refresher
  constructor
  · exact congrArg (·.cycle.1) same
  · exact agree.prepared
  · have set : t.cycled.events = t.timeline.events ++ _ :=
      Timeline.setAll_events
        { t.timeline with world := (t.timeline.world.cycle t.timeline.now).1 }
        agree.uncancelled (t.timeline.world.cycle t.timeline.now).2.2
    rw [set, List.length_append, Watched.length_cycle_events, ByHand.runCycle_count,
      agree.waiting, same]
  · have made : (t.timeline.world.requestedAt ++ [t.timeline.now]).length = t.requests + 1 :=
      List.length_append
    exact made.trans (congrArg (· + 1) agree.requests)
  · exact agree.uncancelled

/-- Whichever timer fires and whichever cycle is the oldest, they do the same. -/
theorem agree_fire {t : Timed} {h : ByHand} (agree : Agree t h) {e : Event Unit}
    {rest : List (Event Unit)} (earliest : takeEarliest? t.timeline.events = some (e, rest)) :
    Agree { t with timeline := t.timeline.fire program e rest } (h.act .fire) := by
  have count : t.timeline.events.length = rest.length + 1 :=
    (perm_of_takeEarliest earliest).length_eq
  obtain ⟨oldest, others, waiting⟩ : ∃ x xs, h.queue.waiting = x :: xs := by
    apply List.exists_cons_of_length_pos
    have := agree.waiting
    rw [Queue.count] at this
    omega
  have fired : h.act .fire = ({ h with queue := ⟨others⟩ }).runCycle.1 := by
    simp only [ByHand.act, ByHand.runNext, Queue.next?, waiting]
  -- taking the event and the oldest cycle out, what is left is a cycle awaited now
  have left : Agree { t with timeline :=
      { t.timeline with now := max t.timeline.now e.due, events := rest } }
      { h with queue := ⟨others⟩ } := by
    refine ⟨agree.refresher, agree.prepared, ?_, agree.requests, agree.uncancelled⟩
    have := agree.waiting
    simp only [Queue.count, waiting, List.length_cons] at this ⊢
    omega
  rw [fired]
  exact agree_cycle left

/-- What fires up to an instant is followed by as many firings by hand. -/
theorem agree_runUntil {t : Timed} {h : ByHand} (agree : Agree t h) (instant : Nat) :
    Agree { t with timeline := t.timeline.runUntil program instant }
      (h.run (List.replicate (t.timeline.firedUntil program instant).length .fire)) := by
  obtain ⟨last, reached, ran, -⟩ := Timeline.of_runUntil program instant
    (P := fun fired tl => Agree { t with timeline := tl }
      (h.run (List.replicate fired.length .fire)))
    t.timeline agree (by
      intro fired tl e rest before earliest _
      have next := agree_fire before earliest
      rwa [List.length_append, List.replicate_add, ByHand.run_append])
  rw [ran]
  exact ⟨reached.refresher, reached.prepared, reached.waiting, reached.requests,
    reached.uncancelled⟩

/-- Every event fired up to an instant makes a request. -/
theorem length_requestedAt_runUntil (tl : Timeline Watched Unit) (instant : Nat) :
    (tl.runUntil program instant).world.requestedAt.length =
      tl.world.requestedAt.length + (tl.firedUntil program instant).length := by
  obtain ⟨last, made, ran, -⟩ := Timeline.of_runUntil program instant
    (P := fun fired now => now.world.requestedAt.length =
      tl.world.requestedAt.length + fired.length)
    tl rfl (by
      intro fired now e rest before _ _
      have one : (now.fire program e rest).world.requestedAt =
          now.world.requestedAt ++ [max now.now e.due] := rfl
      rw [one, List.length_append, List.length_append, before]
      rfl)
  rw [ran]
  exact made

namespace Timed

theorem timerRequests_of_settled (s : Timed) (move : Move) (tl : Timeline Watched Unit)
    (instant : Nat) (ended : (s.act move).timeline = tl.runUntil program instant)
    (begun : tl.world.requestedAt.length = s.requests + s.directRequests move) :
    s.timerRequests move = (tl.firedUntil program instant).length := by
  have made := length_requestedAt_runUntil tl instant
  rw [timerRequests, requests, ended, made]
  omega

theorem requests_cycled (s : Timed) : s.cycled.world.requestedAt.length = s.requests + 1 :=
  List.length_append

/-- A move that makes no request is followed by the step alone. -/
theorem timerRequests_of_quiet {s : Timed} {move : Move}
    (quiet : (s.act move).requests = s.requests) : s.timerRequests move = 0 := by
  rw [timerRequests, quiet]
  omega

end Timed

/-- One move keeps the agreement. -/
theorem agree_act {t : Timed} {h : ByHand} (agree : Agree t h) {move : Timed.Move}
    (uncancelled : move ≠ .cancel) : Agree (t.act move) (h.run (t.movesByHand move)) := by
  obtain ⟨refresher, prepared, waiting, requests, timers⟩ := agree
  match move with
  | .take (.tell command) =>
    rw [Timed.movesByHand, Timed.timerRequests_of_quiet rfl]
    exact ⟨congrArg (·.obey command) refresher, prepared, waiting, requests, timers⟩
  | .take .prepare =>
    rw [Timed.movesByHand, Timed.timerRequests_of_quiet rfl]
    exact ⟨refresher, congrArg (· + 1) prepared, waiting, requests, timers⟩
  | .take .discard =>
    rw [Timed.movesByHand, Timed.timerRequests_of_quiet rfl]
    exact ⟨refresher, congrArg (· - 1) prepared, waiting, requests, timers⟩
  | .take .subscribe =>
    rw [Timed.movesByHand, Timed.timerRequests_of_quiet rfl]
    exact ⟨congrArg (·.subscribe) refresher, prepared, waiting, requests, timers⟩
  | .take .look =>
    rw [Timed.movesByHand, Timed.timerRequests_of_quiet rfl]
    exact ⟨congrArg (·.subscribe) refresher, prepared, waiting, requests, timers⟩
  | .take .fetch =>
    have fired := t.timerRequests_of_settled (.take .fetch) t.cycled t.cycled.now rfl
      t.requests_cycled
    rw [Timed.movesByHand, fired]
    exact agree_runUntil (agree_cycle ⟨refresher, prepared, waiting, requests, timers⟩) _
  | .take .await =>
    by_cases none : t.prepared = 0
    · have idle : t.act (.take .await) = t := by simp [Timed.act, Timed.step, none]
      have idleByHand : h.act (.take .await) = h := by
        simp [ByHand.act, ByHand.step, ← prepared, none]
      rw [Timed.movesByHand, Timed.timerRequests_of_quiet (congrArg Timed.requests idle), idle]
      change Agree t (h.act (.take .await))
      rw [idleByHand]
      exact ⟨refresher, prepared, waiting, requests, timers⟩
    · have one : ({ h with prepared := h.prepared - 1 }).runCycle.1 = h.act (.take .await) := by
        simp [ByHand.act, ByHand.step, ← prepared, none]
      have ended : (t.act (.take .await)) =
          { t with prepared := t.prepared - 1, timeline := t.cycled.settle program } := by
        simp only [Timed.act, Timed.step, if_neg none]
        rfl
      have direct : t.directRequests (.take .await) = 1 := if_neg none
      have fired := t.timerRequests_of_settled (.take .await) t.cycled t.cycled.now
        (congrArg Timed.timeline ended) (direct ▸ t.requests_cycled)
      have taken : Agree { t with prepared := t.prepared - 1 }
          { h with prepared := h.prepared - 1 } :=
        ⟨refresher, congrArg (· - 1) prepared, waiting, requests, timers⟩
      have after := agree_runUntil (agree_cycle taken) t.cycled.now
      rw [Timed.movesByHand, fired, ended]
      rw [one] at after
      exact after
  | .advance span =>
    have fired := t.timerRequests_of_settled (.advance span) t.timeline (t.timeline.now + span)
      rfl rfl
    rw [Timed.movesByHand, fired]
    exact agree_runUntil ⟨refresher, prepared, waiting, requests, timers⟩ _
  | .cancel => exact absurd rfl uncancelled

theorem agree_run {t : Timed} {h : ByHand} (agree : Agree t h) {moves : List Timed.Move}
    (uncancelled : .cancel ∉ moves) : Agree (t.run moves) (h.run (t.byHand moves)) := by
  induction moves generalizing t h with
  | nil => exact agree
  | cons move rest ih =>
    rw [List.mem_cons, not_or] at uncancelled
    have next := agree_act agree (Ne.symm uncancelled.1)
    rw [Timed.byHand, ByHand.run_append]
    exact ih next uncancelled.2

/-- Without cancelling, a run in time and the run by hand that follows it agree after
every move, in all that the refresher holds (record, latest outcome, polling, interval,
answers not yet used up, and what observers have not seen), in the fetches prepared, in
the number of waiting cycles, and in the number of requests made. -/
theorem timers_and_queue_alike (pathPrefix statistic : String) (interval : Nat)
    (answers : List Answer) (slips : Nat → Bool) (moves : List Timed.Move)
    (uncancelled : .cancel ∉ moves) :
    let r := Refresher.new pathPrefix statistic interval answers
    let inTime := Timed.new r slips
    ∀ done, done <+: moves →
      let t := inTime.run done
      let h := (ByHand.new r).run (inTime.byHand done)
      inTime.byHand done <+: inTime.byHand moves ∧
        t.refresher = h.refresher ∧ t.prepared = h.prepared ∧
        t.timeline.events.length = h.queue.count ∧ t.requests = h.requests := by
  intro r inTime done earlier
  have start : Agree inTime (ByHand.new r) := ⟨rfl, rfl, rfl, rfl, rfl⟩
  have agree := agree_run start fun member => uncancelled (earlier.subset member)
  refine ⟨?_, agree.refresher, agree.prepared, agree.waiting, agree.requests⟩
  obtain ⟨rest, rfl⟩ := earlier
  rw [Timed.byHand_append]
  exact List.prefix_append _ _

/-- The chain begun second overtakes the first: in time its cycle is the one that fires,
by hand it is the first chain's, and yet the refreshers agree. -/
theorem timers_and_queue_alike_overtaking :
    let r := Refresher.new "" "queryRate" 5000
      [⟨.ok .null, []⟩, ⟨.ok (.bool true), []⟩, ⟨.ok (.bool false), []⟩]
    let moves : List Timed.Move := [.take (.tell (.start (some 1000))), .take .fetch,
      .take (.tell (.start (some 300))), .take .fetch, .advance 300]
    let inTime := Timed.new r fun _ => false
    let t := inTime.run moves
    let h := (ByHand.new r).run (inTime.byHand moves)
    .cancel ∉ moves ∧ t.timeline.events.map (·.due) = [1000, 600] ∧
      inTime.byHand moves = [.take (.tell (.start (some 1000))), .take .fetch,
        .take (.tell (.start (some 300))), .take .fetch, .fire] ∧
      h.queue.pending = [300, 300] ∧
      t.refresher = h.refresher ∧ t.timeline.events.length = h.queue.count := by
  intro r moves inTime t h
  have uncancelled : .cancel ∉ moves := by decide
  have alike := timers_and_queue_alike "" "queryRate" 5000
    [⟨.ok .null, []⟩, ⟨.ok (.bool true), []⟩, ⟨.ok (.bool false), []⟩] (fun _ => false) moves uncancelled
    moves (List.prefix_refl _)
  refine ⟨uncancelled, ?_, ?_, ?_, alike.2.1, alike.2.2.2.1⟩
  · decide +kernel
  · decide +kernel
  · decide +kernel

end IngestWatch.Polling
