import IngestWatch.Proofs.Polling.Paced
import IngestWatch.Proofs.Polling.Quiescence

/-!
Every chain comes to an end, since the service answers only so many requests with a success. A
cycle asks for a further one only after a success, so the cycles that wait and the successes that
are left pay for every cycle that is ever fired: by hand or by a timer, after whatever intervals,
and however often polling is turned on and off. So a queue is fired empty sooner or later, time
reaches every instant, and what is asked for without delay is over before time moves on.
-/

namespace IngestWatch

namespace Timer.Timeline

variable {σ τ : Type} {p : Program σ τ} {instant limit : Nat} {tl : Timeline σ τ}

/-- So many events due by an instant are fired, the earliest first. -/
inductive Fires (p : Program σ τ) (instant : Nat) : Nat → Timeline σ τ → Timeline σ τ → Prop where
  | none {tl : Timeline σ τ} : Fires p instant 0 tl tl
  | next {n : Nat} {tl last : Timeline σ τ} {e : Event τ} {rest : List (Event τ)}
      (earliest : takeEarliest? tl.events = some (e, rest)) (due : e.due ≤ instant)
      (others : Fires p instant n (tl.fire p e rest) last) : Fires p instant (n + 1) tl last

/-- Time reaches an instant: no more than `limit` events can be fired on the way there, and when
none is due any more the clock is set. -/
structure Reaches (p : Program σ τ) (instant limit : Nat) (tl after : Timeline σ τ) : Prop where
  bounded : ∀ n last, tl.Fires p instant n last → n ≤ limit
  reached : ∃ n last, tl.Fires p instant n last ∧ (∀ e ∈ last.events, instant < e.due) ∧
    after = { last with now := max last.now instant }

theorem Reaches.mono {more : Nat} {after : Timeline σ τ}
    (reaches : tl.Reaches p instant limit after) (enough : limit ≤ more) :
    tl.Reaches p instant more after :=
  ⟨fun n last fires => (reaches.bounded n last fires).trans enough, reaches.reached⟩

theorem exists_fires_runUntil (p : Program σ τ) (instant : Nat) (tl : Timeline σ τ) :
    ∃ n last, tl.Fires p instant n last ∧ (∀ e ∈ last.events, instant < e.due) ∧
      tl.runUntil p instant = { last with now := max last.now instant } := by
  induction tl using until_induct p instant with
  | ahead tl ahead => exact ⟨0, tl, .none, ahead, (runUntil_of_ahead ahead).1⟩
  | due tl e rest earliest due ih =>
    obtain ⟨n, last, fires, ahead, ran⟩ := ih
    exact ⟨n + 1, last, .next earliest due fires, ahead,
      (runUntil_of_due earliest due).1.trans ran⟩

theorem length_fire_le (tl : Timeline σ τ) (e : Event τ) (rest : List (Event τ)) :
    (tl.fire p e rest).events.length ≤
      rest.length + (p.run (max tl.now e.due) e.task tl.world).2.length :=
  length_setAll_le _ _

end Timer.Timeline

namespace Polling

open Timer

namespace Refresher

variable {r r' : Refresher} {waiting left : Nat} {log : List Happening}

/-- How many successes the service will still answer with. -/
def successes (r : Refresher) : Nat :=
  r.answers.countP (·.result.isOk)

theorem successes_request (r : Refresher) :
    r.request.2.successes + (if r.delivery.result.isOk then 1 else 0) = r.successes := by
  have result : r.delivery.result = r.request.1.result := rfl
  rw [result, successes, successes, request]
  cases answers : r.answers with
  | nil => simp [answers, Fetched.exhausted, Except.isOk, Except.toBool]
  | cons a rest => rw [List.countP_cons]

theorem answers_cycle (r : Refresher) : r.cycle.1.answers = r.request.2.answers := by
  rw [cycle_fst]
  change (r.atDelivery.deliver r.request.1.result).1.answers = _
  rw [answers_deliver, atDelivery, answers_foldl_obey]

/-- A cycle that asks for a further one has used up a success. -/
theorem successes_cycle (r : Refresher) :
    r.cycle.1.successes + r.delivery.next.toList.length ≤ r.successes := by
  have used := r.successes_request
  have kept : r.cycle.1.successes = r.request.2.successes :=
    congrArg (List.countP _) r.answers_cycle
  have asked : r.delivery.next.toList.length ≤ if r.delivery.result.isOk then 1 else 0 := by
    rw [delivery_next]
    cases r.delivery.result.isOk <;> cases r.delivery.polling <;> simp
  omega

/-- Whatever happens next, a cycle is fired at the expense of one that waits or of a success. -/
theorem spent_of_turn (turn : r.Turn waiting log r' left) :
    left + r'.successes + (firings log).length ≤ waiting + r.successes ∧
      (targets log).length = awaits log + (firings log).length := by
  have spent := r.successes_cycle
  cases turn with
  | lapsed fewer => exact ⟨Nat.add_le_add_right fewer _, rfl⟩
  | told command => cases command <;> exact ⟨Nat.le_refl _, rfl⟩
  | observed => exact ⟨Nat.le_refl _, rfl⟩
  | awaited =>
    refine ⟨?_, by simp⟩
    rw [firings_cycleLog, Option.toList_none, List.length_nil]
    omega
  | fired waited one =>
    refine ⟨?_, by simp⟩
    rw [firings_cycleLog, Option.toList_some, List.length_singleton]
    omega

theorem spent_of_evolves (evolves : r.Evolves waiting log r' left) :
    left + r'.successes + (firings log).length ≤ waiting + r.successes ∧
      (targets log).length = awaits log + (firings log).length := by
  induction evolves with
  | start => exact ⟨Nat.le_refl _, rfl⟩
  | turn _ next ih =>
    obtain ⟨spent, requests⟩ := spent_of_turn next
    rw [firings_append, targets_append, awaits_append, List.length_append, List.length_append]
    omega

end Refresher

/-- No more requests are made in a run than fetches are awaited, cycles waited before it and
successes were left. -/
theorem Scheduling.requests_le {σ μ : Type} (k : Scheduling σ μ) {requests : σ → Nat} {s : σ}
    {moves : List μ}
    (counted : requests (k.run s moves) = requests s + (targets (k.log s moves)).length) :
    requests (k.run s moves) ≤
      requests s + awaits (k.log s moves) + (k.waiting s + (k.refresher s).successes) := by
  obtain ⟨spent, made⟩ := Refresher.spent_of_evolves (k.evolves_run s moves)
  omega

/-! ## The queue fired by hand -/

namespace ByHand

theorem requests_le (s : ByHand) (moves : List Move) :
    (s.run moves).requests ≤
      s.requests + awaits (s.log moves) + (s.queue.count + s.refresher.successes) := by
  rw [← log_scheduling]
  refine scheduling.requests_le ?_
  rw [log_scheduling]
  exact s.requests_run moves

theorem run_fire_of_empty {s : ByHand} (empty : s.queue.waiting = []) (m : Nat) :
    s.run (List.replicate m .fire) = s := by
  have still : s.act .fire = s := by simp only [act, runNext, Queue.next?, empty]
  induction m with
  | zero => rfl
  | succ m ih =>
    rw [List.replicate_succ]
    change (s.act .fire).run _ = s
    rw [still, ih]

/-- Firing takes the oldest cycle out, and puts one in only if it used up a success. -/
theorem spent_fire {s : ByHand} {t : Delayed Unit} {rest : List (Delayed Unit)}
    (oldest : s.queue.waiting = t :: rest) :
    (s.act .fire).queue.count + (s.act .fire).refresher.successes <
      s.queue.count + s.refresher.successes := by
  have logged : s.happenings .fire = s.refresher.cycleLog (some t.delay) := by
    simp only [happenings, oldest]
  have spent := (Refresher.spent_of_evolves (s.evolves_act .fire)).1
  rw [logged, Refresher.firings_cycleLog] at spent
  exact spent

/-- Firing again and again goes through a certain number of times and then never again. -/
theorem exists_fires (s : ByHand) : ∃ n ≤ s.queue.count + s.refresher.successes, ∀ m,
    (s.run (List.replicate m .fire)).runNext.2 = none ↔ n ≤ m := by
  generalize paid : s.queue.count + s.refresher.successes = funds
  induction funds using Nat.strong_induction_on generalizing s with
  | _ funds ih =>
    cases oldest : s.queue.waiting with
    | nil =>
      refine ⟨0, Nat.zero_le _, fun m => ?_⟩
      rw [run_fire_of_empty oldest]
      simp only [runNext, Queue.next?, oldest, Nat.zero_le]
    | cons t rest =>
      have less := spent_fire oldest
      obtain ⟨n, few, fires⟩ := ih _ (paid ▸ less) (s.act .fire) rfl
      refine ⟨n + 1, by omega, fun m => ?_⟩
      cases m with
      | zero =>
        have fired : s.runNext.2 = some t.delay := by simp only [runNext, Queue.next?, oldest]
        have more : ¬ s.runNext.2 = none := by simp [fired]
        exact iff_of_false more (Nat.not_succ_le_zero n)
      | succ m =>
        rw [List.replicate_succ]
        exact (fires m).trans Nat.succ_le_succ_iff.symm

/-- How a run goes on from a state, and how often a waiting cycle can be fired. -/
structure Exhausts (s : ByHand) : Prop where
  requests_le : ∀ moves, (s.run moves).requests ≤
    s.requests + awaits (s.log moves) + (s.queue.count + s.refresher.successes)
  fires : ∃ n ≤ s.queue.count + s.refresher.successes, ∀ m,
    (s.run (List.replicate m .fire)).runNext.2 = none ↔ n ≤ m

theorem exhausts (s : ByHand) : s.Exhausts :=
  ⟨s.requests_le, s.exists_fires⟩

end ByHand

/-! ## Timers -/

section
variable {tl last : Timeline Watched Unit} {instant n : Nat}

/-- The timers that are set and the successes that are left. -/
def funds (tl : Timeline Watched Unit) : Nat :=
  tl.events.length + tl.world.refresher.successes

/-- A cycle sets a timer only if it used up a success. -/
theorem funds_fire_le (tl : Timeline Watched Unit) (e : Event Unit) (rest : List (Event Unit)) :
    funds (tl.fire program e rest) ≤ rest.length + tl.world.refresher.successes := by
  have kept := Timeline.length_fire_le (p := program) tl e rest
  have spent := tl.world.refresher.successes_cycle
  rw [program_run, Watched.length_cycle_events] at kept
  have left : (tl.fire program e rest).world.refresher.successes =
      tl.world.refresher.cycle.1.successes := rfl
  rw [funds, left]
  omega

/-- A timer that fires is gone. -/
theorem funds_fire_lt {e : Event Unit} {rest : List (Event Unit)}
    (earliest : takeEarliest? tl.events = some (e, rest)) :
    funds (tl.fire program e rest) < funds tl := by
  have one := (perm_of_takeEarliest earliest).length_eq
  refine Nat.lt_of_le_of_lt (funds_fire_le tl e rest) ?_
  rw [funds, one, List.length_cons]
  omega

theorem funds_of_fires (fires : tl.Fires program instant n last) :
    funds last + n ≤ funds tl := by
  induction fires with
  | none => exact Nat.le_refl _
  | next earliest _ _ ih =>
    have less := funds_fire_lt earliest
    omega

/-- Time reaches every instant, and the funds are a limit to what is fired on the way there. -/
theorem reaches_runUntil (tl : Timeline Watched Unit) (instant : Nat) :
    tl.Reaches program instant (funds tl) (tl.runUntil program instant) :=
  ⟨fun _ _ fires => (Nat.le_add_left _ _).trans (funds_of_fires fires),
    tl.exists_fires_runUntil program instant⟩

/-- A timer was set before, or a cycle asked for it by an instant. -/
def Known (before : List (Event Unit)) (instant : Nat) (log : List Happening) (e : Event Unit) :
    Prop :=
  e ∈ before ∨ ∃ delay ∈ delays log, e.due ≤ instant + delay

theorem Known.trans {before between : List (Event Unit)} {log more : List Happening}
    (first : ∀ e ∈ between, Known before instant log e) {e : Event Unit}
    (second : Known between instant more e) : Known before instant (log ++ more) e := by
  rw [Known, delays_append]
  rcases second with old | ⟨delay, asked, due⟩
  · rcases first e old with older | ⟨delay, asked, due⟩
    · exact .inl older
    · exact .inr ⟨delay, List.mem_append_left _ asked, due⟩
  · exact .inr ⟨delay, List.mem_append_right _ asked, due⟩

theorem known_fire (tl : Timeline Watched Unit) (e : Event Unit) (rest : List (Event Unit))
    (reached : max tl.now e.due ≤ instant) (waited : Option Nat) :
    ∀ f ∈ (tl.fire program e rest).events,
      Known rest instant (tl.world.refresher.cycleLog waited) f := by
  intro f inside
  rw [Known, Refresher.delays_cycleLog]
  rcases List.mem_append.mp inside with old | new
  · exact .inl old
  · obtain ⟨delay, asked, rfl⟩ := List.mem_map.mp (List.mem_filter.mp new).1
    exact .inr ⟨delay, asked, Nat.add_le_add_right reached delay⟩

theorem known_runUntil (reached : tl.now ≤ instant) :
    ∀ f ∈ (tl.runUntil program instant).events,
      Known tl.events instant (firedLog (tl.firedUntil program instant)) f := by
  induction tl using Timeline.until_induct program instant with
  | ahead tl ahead =>
    obtain ⟨ran, -⟩ := Timeline.runUntil_of_ahead (p := program) ahead
    rw [ran]
    exact fun f inside => .inl inside
  | due tl e rest earliest due ih =>
    obtain ⟨ran, more⟩ := Timeline.runUntil_of_due (p := program) earliest due
    have now : max tl.now e.due ≤ instant := Nat.max_le.mpr ⟨reached, due⟩
    have old (f : Event Unit) (stays : f ∈ rest) : f ∈ tl.events :=
      (perm_of_takeEarliest earliest).mem_iff.mpr (.tail _ stays)
    have first (f : Event Unit) (inside : f ∈ (tl.fire program e rest).events) :=
      (known_fire tl e rest now (some e.due) f inside).imp_left (old f)
    rw [ran, more, firedLog, List.flatMap_cons]
    exact fun f inside => (ih now f inside).trans first

end

namespace Timed

variable {s : Timed}

theorem requests_le (s : Timed) (moves : List Move) :
    (s.run moves).requests ≤ s.requests + awaits (scheduling.log s moves) + funds s.timeline :=
  scheduling.requests_le (s.requests_run moves)

theorem funds_cycled_le (s : Timed) : funds s.cycled ≤ funds s.timeline := by
  rw [cycled_eq_fire]
  exact funds_fire_le _ _ _

theorem now_runCycle (s : Timed) : s.runCycle.1.timeline.now = s.timeline.now :=
  (Timeline.now_runUntil (p := program) (Nat.le_refl s.cycled.now)).1

theorem known_runCycle (s : Timed) : ∀ e ∈ s.runCycle.1.timeline.events,
    Known s.timeline.events s.timeline.now s.cycleHappenings e := by
  have now : max s.timeline.now s.timeline.now ≤ s.timeline.now := Nat.le_of_eq (Nat.max_self _)
  have first := known_fire s.timeline ⟨s.timeline.now, false, false, ()⟩ s.timeline.events now none
  rw [← cycled_eq_fire] at first
  intro e inside
  exact (known_runUntil (Nat.le_refl s.cycled.now) e inside).trans first

/-- What waits after a step did so before, or was asked for in the step. -/
theorem known_act (s : Timed) (move : Move) : ∀ e ∈ (s.act move).timeline.events,
    Known s.timeline.events (s.act move).timeline.now (s.happenings move) e := by
  match move with
  | .take (.tell command) => exact fun _ => .inl
  | .take .fetch =>
    rw [act, step, now_runCycle]
    exact s.known_runCycle
  | .take .prepare => exact fun _ => .inl
  | .take .discard => exact fun _ => .inl
  | .take .subscribe => exact fun _ => .inl
  | .take .look => exact fun _ => .inl
  | .take .await =>
    by_cases none : s.prepared = 0
    · simp only [act, step, none, if_true]
      exact fun _ => .inl
    · simp only [act, step, happenings, none, if_false, now_runCycle]
      exact known_runCycle { s with prepared := s.prepared - 1 }
  | .advance span =>
    have later := Nat.le_add_right s.timeline.now span
    have now := (Timeline.now_runUntil (p := program) later).1
    change ∀ e ∈ (s.timeline.runUntil program _).events,
      Known _ (s.timeline.runUntil program _).now _ e
    rw [now]
    exact known_runUntil later
  | .cancel => exact fun e kept => .inl (List.mem_filter.mp kept).1

/-- How a run goes on from a state, and how each of its steps comes to an end. A fetch that is
awaited runs its own cycle first. What is asked for without delay is never left to wait. -/
structure Exhausts (s : Timed) : Prop where
  requests_le : ∀ moves, (s.run moves).requests ≤
    s.requests + awaits (scheduling.log s moves) + funds s.timeline
  advanced : ∀ span, s.timeline.Reaches program (s.timeline.now + span) (funds s.timeline)
    (s.advance span).timeline
  awaited : s.cycled.Reaches program s.timeline.now (funds s.timeline) s.runCycle.1.timeline
  settled : ∀ move, (s.act move).Settled
  late : ∀ move, ∀ e ∈ (s.act move).timeline.events, e ∈ s.timeline.events ∨
    ∃ delay ∈ delays (s.happenings move), 0 < delay ∧
      e.due ≤ (s.act move).timeline.now + delay
  prompt : s.refresher.interval = 0 → ∀ move, Paced 0 (s.happenings move) →
    (s.act move).timeline.events ⊆ s.timeline.events

theorem exhausts (settled : s.Settled) : s.Exhausts := by
  have late (move : Move) : ∀ e ∈ (s.act move).timeline.events, e ∈ s.timeline.events ∨
      ∃ delay ∈ delays (s.happenings move), 0 < delay ∧
        e.due ≤ (s.act move).timeline.now + delay := by
    intro e inside
    have ahead := settled_act settled move e inside
    rcases s.known_act move e inside with old | ⟨delay, asked, due⟩
    · exact .inl old
    · exact .inr ⟨delay, asked, by omega, due⟩
  constructor
  case requests_le => exact s.requests_le
  case advanced => exact fun span => reaches_runUntil s.timeline (s.timeline.now + span)
  case awaited => exact (reaches_runUntil s.cycled s.timeline.now).mono s.funds_cycled_le
  case settled => exact settled_act settled
  case late => exact late
  case prompt =>
    intro nought move paced e inside
    have none := (Refresher.paced_of_evolves nought (s.evolves_act move) paced).2
    rcases late move e inside with old | ⟨delay, asked, positive, -⟩
    · exact old
    · exact absurd (none delay asked) (Nat.ne_of_gt positive)

end Timed

/-- Whatever is done with a refresher, by hand or in time, it makes no more requests than fetches
are awaited and successes come; and from every state that is reached each chain comes to its end,
whatever the intervals and whoever turns polling on and off. -/
theorem every_chain_ends (pathPrefix statistic : String) (interval : Nat)
    (answers : List Answer) :
    let r := Refresher.new pathPrefix statistic interval answers
    (∀ moves,
      let s := (ByHand.new r).run moves
      s.requests ≤ awaits ((ByHand.new r).log moves) + answers.countP (·.result.isOk) ∧
        s.Exhausts) ∧
    ∀ slips moves,
      let s := (Timed.new r slips).run moves
      s.requests ≤
          awaits (Timed.scheduling.log (.new r slips) moves) + answers.countP (·.result.isOk) ∧
        s.Exhausts := by
  intro r
  constructor
  case left =>
    intro moves s
    have bound := (ByHand.new r).requests_le moves
    have nothing : (ByHand.new r).requests = 0 := rfl
    have none : (ByHand.new r).queue.count = 0 := rfl
    rw [nothing, none, Nat.zero_add, Nat.zero_add] at bound
    exact ⟨bound, s.exhausts⟩
  case right =>
    intro slips moves s
    have bound := (Timed.new r slips).requests_le moves
    have nothing : (Timed.new r slips).requests = 0 := rfl
    have none : funds (Timed.new r slips).timeline = answers.countP (·.result.isOk) :=
      Nat.zero_add _
    rw [nothing, none, Nat.zero_add] at bound
    exact ⟨bound, Timed.exhausts (Timed.settled_run r slips moves)⟩

/-- Two chains without delay, one of which is turned off and on again while a request is under
way: the successes are all used up, by hand in four firings and in time within two fetches. -/
theorem every_chain_ends_promptly :
    let answers : List Answer := [⟨.ok .null, []⟩, ⟨.ok (.bool true), [.stop, .start none]⟩,
      ⟨.ok .null, []⟩, ⟨.error (.badStatus 500), []⟩, ⟨.ok (.bool false), []⟩]
    let r := Refresher.new "" "queryRate" 0 answers
    let byHand := (ByHand.new r).run [.take (.tell (.start none)), .take .fetch, .take .fetch]
    let begun := (Timed.new r fun _ => false).run [.take (.tell (.start none))]
    let inTime := (begun.act (.take .fetch)).act (.take .fetch)
    byHand.Exhausts ∧ begun.Exhausts ∧ answers.countP (·.result.isOk) = 4 ∧
      (byHand.run (List.replicate 3 .fire)).runNext.2 = some 0 ∧
      (byHand.run (List.replicate 4 .fire)).runNext.2 = none ∧
      (byHand.run (List.replicate 4 .fire)).requests = 2 + 4 ∧
      Paced 0 (begun.happenings (.take .fetch)) ∧
      (begun.act (.take .fetch)).timeline.events = [] ∧
      inTime.timeline.world.requestedAt = [0, 0, 0, 0, 0, 0] := by
  intro answers r byHand begun inTime
  have law := every_chain_ends "" "queryRate" 0 answers
  have ends : begun.Exhausts := (law.2 _ _).2
  have told : commands (begun.happenings (.take .fetch)) = [.stop, .start none] := by
    decide +kernel
  have paced : Paced 0 (begun.happenings (.take .fetch)) := by simp [Paced, told, Command.interval?]
  refine ⟨(law.1 _).2, ends, by decide, ?_, ?_, ?_, paced, ?_, ?_⟩
  · decide +kernel
  · decide +kernel
  · decide +kernel
  · exact List.subset_nil.mp (ends.prompt rfl _ paced)
  · decide +kernel

end Polling

end IngestWatch
