import IngestWatch.Proofs.Polling.InTime

/-!
What a refresher goes through, whatever runs its cycles. `Refresher.Turn` says once what
can happen to it next and `Refresher.Evolves` what it can have come to; a `Scheduling` is
a way to run cycles all of whose moves are made of such turns. The queue fired by hand
and the timers are two of them, so a law that follows from the turns holds of both.
-/

namespace IngestWatch.Polling

open Timer

/-! ## Looking changes nothing else -/

namespace Refresher

theorem foldl_obey_subscribe (r : Refresher) (commands : List Command) :
    commands.foldl obey r.subscribe = (commands.foldl obey r).subscribe := by
  induction commands generalizing r with
  | nil => rfl
  | cons c rest ih =>
    have one : r.subscribe.obey c = (r.obey c).subscribe := by cases c <;> rfl
    rw [List.foldl_cons, List.foldl_cons, one, ih]

theorem request_subscribe (r : Refresher) :
    r.subscribe.request = (r.request.1, r.request.2.subscribe) := by
  have answers : r.subscribe.answers = r.answers := rfl
  unfold request
  rw [answers]
  cases r.answers <;> rfl

theorem atDelivery_subscribe (r : Refresher) :
    r.subscribe.atDelivery = r.atDelivery.subscribe := by
  rw [atDelivery, atDelivery, request_subscribe]
  exact foldl_obey_subscribe _ _

theorem delivery_subscribe (r : Refresher) : r.subscribe.delivery = r.delivery := by
  simp only [delivery, atDelivery_subscribe, request_subscribe]
  cases r.request.1.result <;> rfl

@[simp] theorem cycleLog_subscribe (r : Refresher) (waited : Option Nat) :
    r.subscribe.cycleLog waited = r.cycleLog waited := by
  simp only [cycleLog, delivery_subscribe, request_subscribe]
  rfl

/-- A cycle delivers its result and tells its outcome. -/
theorem cycle_fst (r : Refresher) :
    r.cycle.1 = { (r.atDelivery.deliver r.request.1.result).1 with
      outcome := some r.delivery.outcome, outcomeIsNews := true } := rfl

@[simp] theorem cycle_subscribe (r : Refresher) :
    r.subscribe.cycle.1.subscribe = r.cycle.1.subscribe := by
  rw [cycle_fst, cycle_fst, delivery_subscribe, atDelivery_subscribe, request_subscribe]
  cases r.request.1.result <;> rfl

theorem observed_not_mem_cycleLog (r : Refresher) (waited : Option Nat) :
    .observed ∉ r.cycleLog waited := by
  simp [cycleLog]

/-! ## What can happen to a refresher -/

/-- What can happen next to a refresher of which some cycles wait: what is logged, the
refresher afterwards, and how many cycles wait then. Waiting cycles may lapse. -/
inductive Turn (r : Refresher) (waiting : Nat) : List Happening → Refresher → Nat → Prop where
  | lapsed {left : Nat} (fewer : left ≤ waiting) : Turn r waiting [] r left
  | told (command : Command) : Turn r waiting [.told command] (r.obey command) waiting
  | observed : Turn r waiting [.observed] r.subscribe waiting
  | awaited :
      Turn r waiting (r.cycleLog none) r.cycle.1 (waiting + r.delivery.next.toList.length)
  | fired (waited : Nat) {others : Nat} (one : waiting = others + 1) :
      Turn r waiting (r.cycleLog (some waited)) r.cycle.1
        (others + r.delivery.next.toList.length)

/-- What a refresher can have come to, turn after turn. -/
inductive Evolves (r : Refresher) (waiting : Nat) :
    List Happening → Refresher → Nat → Prop where
  | start : Evolves r waiting [] r waiting
  | turn {log more : List Happening} {r' r'' : Refresher} {waiting' waiting'' : Nat}
      (before : Evolves r waiting log r' waiting') (next : r'.Turn waiting' more r'' waiting'') :
      Evolves r waiting (log ++ more) r'' waiting''

theorem Turn.evolves {r r' : Refresher} {waiting waiting' : Nat} {log : List Happening}
    (turn : r.Turn waiting log r' waiting') : r.Evolves waiting log r' waiting' :=
  .turn .start turn

theorem Evolves.trans {r r' r'' : Refresher} {waiting waiting' waiting'' : Nat}
    {log more : List Happening} (first : r.Evolves waiting log r' waiting')
    (second : r'.Evolves waiting' more r'' waiting'') :
    r.Evolves waiting (log ++ more) r'' waiting'' := by
  induction second with
  | start => simpa using first
  | turn _ next ih =>
    rw [← List.append_assoc]
    exact .turn ih next

end Refresher

/-! ## Ways to run cycles -/

/-- Whether a step is one by which observers look, or new ones come. -/
def Step.observes : Step → Bool
  | .subscribe | .look => true
  | _ => false

/-- A way to run the cycles of a refresher: its moves, what they do, what they write into
the log, and what observers are told. `hush` is the state in which they have seen all. -/
structure Scheduling (σ μ : Type) where
  refresher : σ → Refresher
  waiting : σ → Nat
  act : σ → μ → σ
  happenings : σ → μ → List Happening
  observes : μ → Bool
  look : σ → Reply
  hush : σ → σ
  evolves : ∀ s move, (refresher s).Evolves (waiting s) (happenings s move)
    (refresher (act s move)) (waiting (act s move))
  look_eq : ∀ s, look s = .news (refresher s).recordIsNews (refresher s).outcomeIsNews
  refresher_hush : ∀ s, refresher (hush s) = (refresher s).subscribe
  hush_hush : ∀ s, hush (hush s) = hush s
  hush_act : ∀ s move, hush (act (hush s) move) = hush (act s move)
  happenings_hush : ∀ s move, happenings (hush s) move = happenings s move
  act_of_observes : ∀ s move, observes move = true →
    act s move = hush s ∧ happenings s move = [.observed]
  not_observed : ∀ s move, observes move = false → .observed ∉ happenings s move

namespace Scheduling

variable {σ μ : Type} (k : Scheduling σ μ)

def run (s : σ) (moves : List μ) : σ :=
  moves.foldl k.act s

def log (s : σ) : List μ → List Happening
  | [] => []
  | move :: rest => k.happenings s move ++ log (k.act s move) rest

theorem run_append (s : σ) (first second : List μ) :
    k.run s (first ++ second) = k.run (k.run s first) second :=
  List.foldl_append

/-- A run is made of turns of the refresher. -/
theorem evolves_run (s : σ) (moves : List μ) :
    (k.refresher s).Evolves (k.waiting s) (k.log s moves) (k.refresher (k.run s moves))
      (k.waiting (k.run s moves)) := by
  induction moves generalizing s with
  | nil => exact .start
  | cons move rest ih => exact (k.evolves s move).trans (ih (k.act s move))

/-- The moves of a run without those by which anyone looks. -/
def unwatched (moves : List μ) : List μ :=
  moves.filter fun move => !k.observes move

theorem observed_not_mem_log_unwatched (s : σ) (moves : List μ) :
    .observed ∉ k.log s (k.unwatched moves) := by
  induction moves generalizing s with
  | nil => simp [unwatched, log]
  | cons move rest ih =>
    cases observes : k.observes move with
    | true => simpa [unwatched, observes] using ih s
    | false =>
      have later := ih (k.act s move)
      have now := k.not_observed s move observes
      simp only [unwatched, observes, Bool.not_false, List.filter_cons_of_pos, log,
        List.mem_append, not_or]
      exact ⟨now, later⟩

/-- Looking disturbs nothing: without it the same cycles are run. -/
theorem deliveries_log_unwatched {s s' : σ} (same : k.hush s = k.hush s') (moves : List μ) :
    deliveries (k.log s (k.unwatched moves)) = deliveries (k.log s' moves) := by
  induction moves generalizing s s' with
  | nil => rfl
  | cons move rest ih =>
    cases observes : k.observes move with
    | true =>
      obtain ⟨looked, logged⟩ := k.act_of_observes s' move observes
      have hushed : k.hush (k.act s' move) = k.hush s' := by rw [looked, k.hush_hush]
      rw [log, deliveries_append, logged, ← ih (same.trans hushed.symm)]
      simp [unwatched, observes, deliveries]
    | false =>
      have next : k.hush (k.act s move) = k.hush (k.act s' move) := by
        rw [← k.hush_act, same, k.hush_act]
      have now : k.happenings s move = k.happenings s' move := by
        rw [← k.happenings_hush, same, k.happenings_hush]
      rw [log, deliveries_append, ← ih next, ← now, ← deliveries_append]
      simp [unwatched, observes, log]

end Scheduling

/-! ## The queue fired by hand -/

def Move.observes : Move → Bool
  | .take step => step.observes
  | .fire => false

namespace ByHand

def hush (s : ByHand) : ByHand :=
  { s with refresher := s.refresher.subscribe }

theorem evolves_act (s : ByHand) (move : Move) :
    s.refresher.Evolves s.queue.count (s.happenings move) (s.act move).refresher
      (s.act move).queue.count := by
  have leads := s.leads_act move
  generalize s.happenings move = log, s.act move = s' at leads
  cases leads with
  | idle prepared => exact .start
  | told command => exact (Refresher.Turn.told command).evolves
  | observed => exact Refresher.Turn.observed.evolves
  | awaited prepared =>
    rw [runCycle_count]
    exact Refresher.Turn.awaited.evolves
  | fired t rest oldest =>
    have one : s.queue.count = (Queue.mk rest).count + 1 := by simp [Queue.count, oldest]
    rw [runCycle_count]
    exact (Refresher.Turn.fired t.delay one).evolves

theorem hush_runCycle (s : ByHand) : s.hush.runCycle.1.hush = s.runCycle.1.hush := by
  have next : s.refresher.subscribe.cycle.2.2 = s.refresher.cycle.2.2 := by
    rw [Refresher.cycle_next, Refresher.cycle_next, Refresher.delivery_subscribe]
  simp only [hush, runCycle, next, Refresher.cycle_subscribe]

theorem hush_act (s : ByHand) (move : Move) :
    (s.hush.act move).hush = (s.act move).hush := by
  match move with
  | .take (.tell command) => cases command <;> rfl
  | .take .fetch => exact s.hush_runCycle
  | .take .prepare => rfl
  | .take .discard => rfl
  | .take .subscribe => rfl
  | .take .look => rfl
  | .take .await =>
    by_cases none : s.prepared = 0
    · simp only [act, step, hush, none, if_true]
      rfl
    · have one := hush_runCycle { s with prepared := s.prepared - 1 }
      simpa only [act, step, hush, none, if_false] using one
  | .fire =>
    cases oldest : s.queue.waiting with
    | nil =>
      simp only [act, runNext, hush, Queue.next?, oldest]
      rfl
    | cons t rest =>
      have one := hush_runCycle { s with queue := ⟨rest⟩ }
      simpa only [act, runNext, hush, Queue.next?, oldest] using one

theorem happenings_hush (s : ByHand) (move : Move) :
    s.hush.happenings move = s.happenings move := by
  match move with
  | .take (.tell command) => rfl
  | .take .fetch => exact s.refresher.cycleLog_subscribe none
  | .take .prepare => rfl
  | .take .discard => rfl
  | .take .subscribe => rfl
  | .take .look => rfl
  | .take .await => simp only [happenings, hush, Refresher.cycleLog_subscribe]
  | .fire => simp only [happenings, hush, Refresher.cycleLog_subscribe]

theorem act_of_observes (s : ByHand) (move : Move) (observes : move.observes = true) :
    s.act move = s.hush ∧ s.happenings move = [.observed] := by
  match move with
  | .take .subscribe => exact ⟨rfl, rfl⟩
  | .take .look => exact ⟨rfl, rfl⟩

theorem observed_not_mem_happenings (s : ByHand) (move : Move)
    (blind : move.observes = false) : .observed ∉ s.happenings move := by
  have unlogged := s.refresher.observed_not_mem_cycleLog
  match move with
  | .take (.tell command) => simp [happenings]
  | .take .fetch => exact unlogged none
  | .take .prepare => simp [happenings]
  | .take .discard => simp [happenings]
  | .take .await =>
    rw [happenings]
    split
    · simp
    · exact unlogged none
  | .fire =>
    rw [happenings]
    split
    · simp
    · exact unlogged _

def scheduling : Scheduling ByHand Move where
  refresher := refresher
  waiting s := s.queue.count
  act := act
  happenings := happenings
  observes := Move.observes
  look s := (s.step .look).2
  hush := hush
  evolves := evolves_act
  look_eq _ := rfl
  refresher_hush _ := rfl
  hush_hush _ := rfl
  hush_act := hush_act
  happenings_hush := happenings_hush
  act_of_observes := act_of_observes
  not_observed := observed_not_mem_happenings

end ByHand

/-! ## Timers -/

theorem evolves_runUntil (tl : Timeline Watched Unit) (instant : Nat) :
    tl.world.refresher.Evolves tl.events.length (firedLog (tl.firedUntil program instant))
      (tl.runUntil program instant).world.refresher
      (tl.runUntil program instant).events.length := by
  obtain ⟨last, reached, ran, -⟩ := Timeline.of_runUntil program instant
    (P := fun fired now => tl.world.refresher.Evolves tl.events.length (firedLog fired)
      now.world.refresher now.events.length)
    tl .start (by
      intro fired now e rest before earliest _
      have one : now.events.length = rest.length + 1 :=
        (perm_of_takeEarliest earliest).length_eq
      have cycled := before.turn (.fired e.due one)
      have kept := Timeline.length_setAll_le
        { now with now := max now.now e.due, events := rest,
                   world := (program.run (max now.now e.due) e.task now.world).1 }
        (program.run (max now.now e.due) e.task now.world).2
      rw [program_run, Watched.length_cycle_events] at kept
      have lapsed := cycled.turn (.lapsed kept)
      rw [List.append_nil, ← firedLog_concat] at lapsed
      exact lapsed)
  rw [ran]
  exact reached

namespace Watched

def hush (w : Watched) : Watched :=
  { w with refresher := w.refresher.subscribe }

/-- Timers do not tell apart what only observers can. -/
theorem respects_hush : program.Respects fun w w' => w.hush = w'.hush := by
  intro now _ w w' same
  obtain ⟨refresher, requestedAt, slips⟩ := Watched.mk.inj same
  have next : w.refresher.cycle.2.2 = w'.refresher.cycle.2.2 := by
    rw [Refresher.cycle_next, Refresher.cycle_next, ← Refresher.delivery_subscribe,
      ← w'.refresher.delivery_subscribe, refresher]
  have after : w.refresher.cycle.1.subscribe = w'.refresher.cycle.1.subscribe := by
    rw [← Refresher.cycle_subscribe, ← w'.refresher.cycle_subscribe, refresher]
  simp only [program_run, hush, cycle, next, after, requestedAt, slips, and_self]

end Watched

theorem firedLog_of_similar {fired fired' : List (Event Unit × Watched)}
    (h : List.Forall₂ (fun x y => x.1 = y.1 ∧ x.2.hush = y.2.hush) fired fired') :
    firedLog fired = firedLog fired' := by
  induction h with
  | nil => rfl
  | cons same _ ih =>
    obtain ⟨event, world⟩ := same
    have refresher := (Watched.mk.inj world).1
    simp only [firedLog, List.flatMap_cons] at ih ⊢
    rw [ih, event, ← Refresher.cycleLog_subscribe, refresher, Refresher.cycleLog_subscribe]

namespace Timed

def Move.observes : Move → Bool
  | .take step => step.observes
  | .advance _ | .cancel => false

def hush (s : Timed) : Timed :=
  s.mapRefresher (·.subscribe)

/-- A cycle awaited now is what a timer due now runs. -/
theorem cycled_eq_fire (s : Timed) :
    s.cycled = s.timeline.fire program ⟨s.timeline.now, false, false, ()⟩ s.timeline.events := by
  simp only [cycled, Timeline.fire, Nat.max_self]
  rfl

theorem evolves_cycle (s : Timed) :
    s.refresher.Evolves s.timeline.events.length s.cycleHappenings s.runCycle.1.refresher
      s.runCycle.1.timeline.events.length := by
  have kept := Timeline.length_setAll_le
    { s.timeline with world := (s.timeline.world.cycle s.timeline.now).1 }
    (s.timeline.world.cycle s.timeline.now).2.2
  rw [Watched.length_cycle_events] at kept
  have cycled := Refresher.Turn.awaited.evolves.turn (.lapsed kept)
  rw [List.append_nil] at cycled
  exact cycled.trans (evolves_runUntil s.cycled s.cycled.now)

theorem evolves_act (s : Timed) (move : Move) :
    s.refresher.Evolves s.timeline.events.length (s.happenings move) (s.act move).refresher
      (s.act move).timeline.events.length := by
  match move with
  | .take (.tell command) => exact (Refresher.Turn.told command).evolves
  | .take .fetch => exact s.evolves_cycle
  | .take .prepare => exact .start
  | .take .discard => exact .start
  | .take .subscribe => exact Refresher.Turn.observed.evolves
  | .take .look => exact Refresher.Turn.observed.evolves
  | .take .await =>
    by_cases none : s.prepared = 0
    · simp only [happenings, act, step, none, if_true]
      exact .start
    · simp only [happenings, act, step, none, if_false]
      exact evolves_cycle { s with prepared := s.prepared - 1 }
  | .advance span => exact evolves_runUntil _ _
  | .cancel => exact (Refresher.Turn.lapsed (List.length_filter_le _ _)).evolves

theorem hush_eq_iff {s s' : Timed} :
    s.hush = s'.hush ↔ s.prepared = s'.prepared ∧
      s.timeline.Similar (fun w w' => w.hush = w'.hush) s'.timeline := by
  constructor
  · intro same
    obtain ⟨timeline, prepared⟩ := Timed.mk.inj same
    obtain ⟨now, cancelled, events, world⟩ := Timeline.mk.inj timeline
    exact ⟨prepared, ⟨now, cancelled, events, world⟩⟩
  · rintro ⟨prepared, now, cancelled, events, world⟩
    exact Timed.mk.injEq .. ▸ ⟨Timeline.mk.injEq .. ▸ ⟨now, cancelled, events, world⟩, prepared⟩

/-- A cycle awaited now goes the same way whatever observers have seen. -/
theorem hush_runCycle {s s' : Timed} (same : s.hush = s'.hush) :
    s.runCycle.1.hush = s'.runCycle.1.hush ∧ s.cycleHappenings = s'.cycleHappenings := by
  obtain ⟨prepared, similar⟩ := hush_eq_iff.mp same
  have cycled : s.cycled.Similar (fun w w' => w.hush = w'.hush) s'.cycled := by
    rw [cycled_eq_fire, cycled_eq_fire, similar.now, similar.events]
    exact Timeline.similar_fire Watched.respects_hush similar _ _
  have settled := Timeline.runUntil_similar s.cycled.now Watched.respects_hush cycled
  have refresher : s.refresher.subscribe = s'.refresher.subscribe :=
    (Watched.mk.inj similar.world).1
  constructor
  · apply hush_eq_iff.mpr
    rw [runCycle_timeline, runCycle_timeline, Timeline.settle, Timeline.settle, ← cycled.now]
    exact ⟨prepared, settled.1⟩
  · rw [cycleHappenings, cycleHappenings, firedLog_of_similar settled.2, cycled.now,
      ← Refresher.cycleLog_subscribe, refresher, Refresher.cycleLog_subscribe]

theorem hush_act (s : Timed) (move : Move) :
    (s.hush.act move).hush = (s.act move).hush ∧ s.hush.happenings move = s.happenings move := by
  match move with
  | .take (.tell command) => cases command <;> exact ⟨rfl, rfl⟩
  | .take .fetch => exact hush_runCycle rfl
  | .take .prepare => exact ⟨rfl, rfl⟩
  | .take .discard => exact ⟨rfl, rfl⟩
  | .take .subscribe => exact ⟨rfl, rfl⟩
  | .take .look => exact ⟨rfl, rfl⟩
  | .take .await =>
    have prepared : s.hush.prepared = s.prepared := rfl
    by_cases none : s.prepared = 0
    · simp only [act, step, happenings, prepared, none, if_true, and_true]
      rfl
    · simp only [act, step, happenings, prepared, none, if_false]
      have same : ({ s.hush with prepared := s.prepared - 1 } : Timed).hush =
          ({ s with prepared := s.prepared - 1 } : Timed).hush := rfl
      exact hush_runCycle same
  | .advance span =>
    obtain ⟨prepared, similar⟩ := hush_eq_iff.mp (show s.hush.hush = s.hush from rfl)
    have advanced :=
      Timeline.runUntil_similar (s.timeline.now + span) Watched.respects_hush similar
    exact ⟨hush_eq_iff.mpr ⟨prepared, advanced.1⟩, firedLog_of_similar advanced.2⟩
  | .cancel => exact ⟨rfl, rfl⟩

theorem act_of_observes (s : Timed) (move : Move) (observes : move.observes = true) :
    s.act move = s.hush ∧ s.happenings move = [.observed] := by
  match move with
  | .take .subscribe => exact ⟨rfl, rfl⟩
  | .take .look => exact ⟨rfl, rfl⟩

theorem observed_not_mem_happenings (s : Timed) (move : Move)
    (blind : move.observes = false) : .observed ∉ s.happenings move := by
  have unlogged (fired : List (Event Unit × Watched)) : .observed ∉ firedLog fired := by
    intro member
    obtain ⟨x, -, inside⟩ := List.mem_flatMap.mp member
    exact x.2.refresher.observed_not_mem_cycleLog _ inside
  have cycle : .observed ∉ s.cycleHappenings := by
    rw [cycleHappenings, List.mem_append, not_or]
    exact ⟨s.refresher.observed_not_mem_cycleLog none, unlogged _⟩
  match move with
  | .take (.tell command) => simp [happenings]
  | .take .fetch => exact cycle
  | .take .prepare => simp [happenings]
  | .take .discard => simp [happenings]
  | .take .await =>
    rw [happenings]
    split
    · simp
    · exact cycle
  | .advance span => exact unlogged _
  | .cancel => simp [happenings]

def scheduling : Scheduling Timed Move where
  refresher := refresher
  waiting s := s.timeline.events.length
  act := act
  happenings := happenings
  observes := Move.observes
  look s := (s.step .look).2
  hush := hush
  evolves := evolves_act
  look_eq _ := rfl
  refresher_hush _ := rfl
  hush_hush _ := rfl
  hush_act s move := (s.hush_act move).1
  happenings_hush s move := (s.hush_act move).2
  act_of_observes := act_of_observes
  not_observed := observed_not_mem_happenings

end Timed

end IngestWatch.Polling
