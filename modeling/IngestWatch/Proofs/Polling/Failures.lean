import IngestWatch.Proofs.Polling.Scheduling

/-!
Why a fetch failed makes no difference. Two refreshers whose answers succeed in the same
places, with the same bodies, stay alike whatever is done with both of them: nothing but the
reasons they report for the failures can be told apart. That is shown of one cycle, and runs by
hand and in time are made of cycles.
-/

namespace IngestWatch

/-- Two results that are the same success, or both of them failures. -/
inductive SameSuccess {ε α : Type} : Except ε α → Except ε α → Prop where
  | success (value : α) : SameSuccess (.ok value) (.ok value)
  | failure (reason reason' : ε) : SameSuccess (.error reason) (.error reason')

namespace Polling

open Timer

/-- Two answers that succeed alike or both fail, and under way the owner says the same. -/
structure Answer.Alike (a a' : Answer) : Prop where
  result : SameSuccess a.result a'.result
  during : a.during = a'.during

/-- Two outcomes that differ at most in the reason of a failure. -/
inductive Outcome.Alike : Outcome → Outcome → Prop where
  | refreshed (rescheduled : Bool) : Alike (.refreshed rescheduled) (.refreshed rescheduled)
  | failed (reason reason' : FetchFailure) : Alike (.failed reason) (.failed reason')

/-- Two replies that differ at most in the reason of a failure. -/
inductive Reply.Alike : Reply → Reply → Prop where
  | same (reply : Reply) : Alike reply reply
  | outcome {value value' : Outcome} (alike : value.Alike value') :
      Alike (.outcome value) (.outcome value')

/-- The ends of two cycles that differ at most in the reason of a failure. -/
structure Delivery.Alike (d d' : Delivery) : Prop where
  result : SameSuccess d.result d'.result
  polling : d.polling = d'.polling
  outcome : d.outcome.Alike d'.outcome
  next : d.next = d'.next

/-- Two happenings that differ at most in the reason of a failure. -/
inductive Happening.Alike : Happening → Happening → Prop where
  | told (command : Command) : Alike (.told command) (.told command)
  | begun (waited : Option Nat) : Alike (.begun waited) (.begun waited)
  | requested (target : String) : Alike (.requested target) (.requested target)
  | observed : Alike .observed .observed
  | delivered {d d' : Delivery} (alike : d.Alike d') : Alike (.delivered d) (.delivered d')

/-- Two refreshers that differ at most in why fetches have failed and will fail. -/
structure Refresher.Alike (r r' : Refresher) : Prop where
  target : r.target = r'.target
  interval : r.interval = r'.interval
  polling : r.polling = r'.polling
  record : r.record = r'.record
  outcome : Option.Rel Outcome.Alike r.outcome r'.outcome
  recordIsNews : r.recordIsNews = r'.recordIsNews
  outcomeIsNews : r.outcomeIsNews = r'.outcomeIsNews
  answers : List.Forall₂ Answer.Alike r.answers r'.answers

/-! ## One cycle -/

namespace Refresher

variable {r r' : Refresher}

theorem alike_obey (alike : r.Alike r') (command : Command) :
    (r.obey command).Alike (r'.obey command) := by
  cases command with
  | stop => exact { alike with polling := rfl }
  | start interval =>
    have set : interval.getD r.interval = interval.getD r'.interval := by rw [alike.interval]
    exact { alike with interval := set, polling := rfl }

theorem alike_foldl_obey (alike : r.Alike r') (commands : List Command) :
    (commands.foldl obey r).Alike (commands.foldl obey r') := by
  induction commands generalizing r r' with
  | nil => exact alike
  | cons command rest ih => exact ih (alike_obey alike command)

theorem alike_subscribe (alike : r.Alike r') : r.subscribe.Alike r'.subscribe :=
  { alike with recordIsNews := rfl, outcomeIsNews := rfl }

/-- Scripts that are alike are used up together, and a request that finds nothing fails. -/
theorem alike_request (alike : r.Alike r') :
    r.request.1.Alike r'.request.1 ∧ r.request.2.Alike r'.request.2 := by
  have answers := alike.answers
  unfold request
  generalize h : r.answers = script, h' : r'.answers = script' at answers
  cases answers with
  | nil => exact ⟨⟨.failure _ _, rfl⟩, alike⟩
  | cons first others => exact ⟨first, { alike with answers := others }⟩

theorem alike_atDelivery (alike : r.Alike r') : r.atDelivery.Alike r'.atDelivery := by
  obtain ⟨answer, under⟩ := alike_request alike
  rw [atDelivery, atDelivery, answer.during]
  exact alike_foldl_obey under _

/-- No branch of a delivery looks at the reason of a failure. -/
theorem alike_deliver (alike : r.Alike r') {result result' : Fetched}
    (same : SameSuccess result result') :
    (r.deliver result).1.Alike (r'.deliver result').1 ∧
      (r.deliver result).2.1.Alike (r'.deliver result').2.1 ∧
      (r.deliver result).2.2 = (r'.deliver result').2.2 := by
  cases same with
  | failure reason reason' => exact ⟨alike, .failed reason reason', rfl⟩
  | success body =>
    refine ⟨{ alike with record := rfl, recordIsNews := rfl }, ?_, ?_⟩
    · simp only [deliver, alike.polling]
      exact .refreshed _
    · simp only [deliver, alike.polling, alike.interval]

theorem alike_delivery (alike : r.Alike r') : r.delivery.Alike r'.delivery := by
  have answer := (alike_request alike).1
  have before := alike_atDelivery alike
  obtain ⟨-, outcome, next⟩ := alike_deliver before answer.result
  exact ⟨answer.result, before.polling, outcome, next⟩

theorem alike_cycle (alike : r.Alike r') : r.cycle.1.Alike r'.cycle.1 := by
  obtain ⟨after, outcome, -⟩ :=
    alike_deliver (alike_atDelivery alike) (alike_request alike).1.result
  exact { after with outcome := .some outcome, outcomeIsNews := rfl }

theorem alike_cycle_next (alike : r.Alike r') : r.cycle.2.2 = r'.cycle.2.2 :=
  (alike_delivery alike).next

theorem alike_cycleLog (alike : r.Alike r') (waited : Option Nat) :
    List.Forall₂ Happening.Alike (r.cycleLog waited) (r'.cycleLog waited) := by
  have said : List.Forall₂ Happening.Alike (r.request.1.during.map .told)
      (r.request.1.during.map .told) := by
    rw [List.forall₂_map_left_iff, List.forall₂_map_right_iff, List.forall₂_same]
    exact fun command _ => .told command
  have ended : List.Forall₂ Happening.Alike [.delivered r.delivery] [.delivered r'.delivery] :=
    .cons (.delivered (alike_delivery alike)) .nil
  rw [cycleLog, cycleLog, ← (alike_request alike).1.during, ← alike.target]
  exact .cons (.begun _) (.cons (.requested _) (List.rel_append said ended))

end Refresher

/-! ## Reading logs that are alike -/

section
variable {log log' : List Happening} (alike : List.Forall₂ Happening.Alike log log')
include alike

theorem targets_of_alike : targets log = targets log' := by
  have same : List.Forall₂ (· = ·) (targets log) (targets log') := by
    refine List.rel_filterMap (fun h h' each => ?_) alike
    cases each with
    | requested target => exact .some rfl
    | told _ | begun _ | observed | delivered _ => exact .none
  rwa [List.forall₂_eq_eq_eq] at same

/-- The same cycles fail, those that succeed bring the same bodies, and each asks for the
same further cycle. -/
theorem deliveries_of_alike :
    List.Forall₂ Delivery.Alike (deliveries log) (deliveries log') := by
  refine List.rel_filterMap (fun h h' each => ?_) alike
  cases each with
  | delivered ended => exact .some ended
  | told _ | begun _ | observed | requested _ => exact .none

end

/-- What every move keeps holds after every run, and the logs are alike. -/
theorem Scheduling.alike_run {σ μ : Type} (k : Scheduling σ μ) {Same : σ → σ → Prop}
    (kept : ∀ s s' move, Same s s' → Same (k.act s move) (k.act s' move) ∧
      List.Forall₂ Happening.Alike (k.happenings s move) (k.happenings s' move))
    {s s' : σ} (same : Same s s') (moves : List μ) :
    Same (k.run s moves) (k.run s' moves) ∧
      List.Forall₂ Happening.Alike (k.log s moves) (k.log s' moves) := by
  induction moves generalizing s s' with
  | nil => exact ⟨same, .nil⟩
  | cons move rest ih =>
    obtain ⟨next, now⟩ := kept s s' move same
    obtain ⟨after, later⟩ := ih next
    exact ⟨after, List.rel_append now later⟩

/-! ## By hand -/

namespace ByHand

/-- Two states by hand with the same cycles waiting, of refreshers that are alike. -/
structure Alike (s s' : ByHand) : Prop where
  refresher : s.refresher.Alike s'.refresher
  queue : s.queue = s'.queue
  prepared : s.prepared = s'.prepared
  requests : s.requests = s'.requests

variable {s s' : ByHand}

theorem alike_runCycle (alike : s.Alike s') :
    s.runCycle.1.Alike s'.runCycle.1 ∧ s.runCycle.2.Alike s'.runCycle.2 := by
  obtain ⟨refresher, queue, prepared, requests⟩ := alike
  refine ⟨⟨Refresher.alike_cycle refresher, ?_, prepared, congrArg (· + 1) requests⟩, ?_⟩
  · simp only [runCycle, Refresher.alike_cycle_next refresher, queue]
  · exact (Refresher.alike_delivery refresher).outcome

theorem alike_step (alike : s.Alike s') (step : Step) :
    (s.step step).1.Alike (s'.step step).1 ∧ (s.step step).2.Alike (s'.step step).2 := by
  cases step with
  | tell command =>
    exact ⟨{ alike with refresher := Refresher.alike_obey alike.refresher command }, .same _⟩
  | fetch =>
    obtain ⟨after, outcome⟩ := alike_runCycle alike
    exact ⟨after, .outcome outcome⟩
  | prepare => exact ⟨{ alike with prepared := congrArg (· + 1) alike.prepared }, .same _⟩
  | discard => exact ⟨{ alike with prepared := congrArg (· - 1) alike.prepared }, .same _⟩
  | subscribe =>
    exact ⟨{ alike with refresher := Refresher.alike_subscribe alike.refresher }, .same _⟩
  | look =>
    refine ⟨{ alike with refresher := Refresher.alike_subscribe alike.refresher }, ?_⟩
    simp only [step, alike.refresher.recordIsNews, alike.refresher.outcomeIsNews]
    exact .same _
  | await =>
    by_cases none : s.prepared = 0
    · simp only [step, ← alike.prepared, none, if_true]
      exact ⟨alike, .same _⟩
    · have taken : Alike { s with prepared := s.prepared - 1 }
          { s' with prepared := s'.prepared - 1 } :=
        { alike with prepared := congrArg (· - 1) alike.prepared }
      obtain ⟨after, outcome⟩ := alike_runCycle taken
      have none' : ¬ s'.prepared = 0 := alike.prepared ▸ none
      simp only [step, none, none', if_false]
      exact ⟨after, .outcome outcome⟩

theorem alike_runNext (alike : s.Alike s') :
    s.runNext.1.Alike s'.runNext.1 ∧ s.runNext.2 = s'.runNext.2 := by
  unfold runNext
  rw [← alike.queue]
  cases s.queue.next? with
  | none => exact ⟨alike, rfl⟩
  | some oldest =>
    have left : Alike { s with queue := oldest.2 } { s' with queue := oldest.2 } :=
      { alike with queue := rfl }
    exact ⟨(alike_runCycle left).1, rfl⟩

theorem alike_act (alike : s.Alike s') (move : Move) : (s.act move).Alike (s'.act move) := by
  cases move with
  | take step => exact (alike_step alike step).1
  | fire => exact (alike_runNext alike).1

theorem alike_happenings (alike : s.Alike s') (move : Move) :
    List.Forall₂ Happening.Alike (s.happenings move) (s'.happenings move) := by
  have cycle := Refresher.alike_cycleLog alike.refresher
  match move with
  | .take (.tell command) => exact .cons (.told command) .nil
  | .take .fetch => exact cycle none
  | .take .prepare => exact .nil
  | .take .discard => exact .nil
  | .take .subscribe => exact .cons .observed .nil
  | .take .look => exact .cons .observed .nil
  | .take .await =>
    simp only [happenings, ← alike.prepared]
    split
    · exact .nil
    · exact cycle none
  | .fire =>
    simp only [happenings, ← alike.queue]
    split
    · exact .nil
    · exact cycle _

end ByHand

/-! ## In time -/

/-- Two worlds of timers whose requests were made at the same instants and whose timers slip
through a cancelling alike. -/
structure Watched.Alike (w w' : Watched) : Prop where
  refresher : w.refresher.Alike w'.refresher
  requestedAt : w.requestedAt = w'.requestedAt
  slips : w.slips = w'.slips

theorem Watched.respects_alike : program.Respects Watched.Alike := by
  intro now _ w w' alike
  have requested : w.requestedAt ++ [now] = w'.requestedAt ++ [now] :=
    congrArg (· ++ [now]) alike.requestedAt
  refine ⟨?_, ⟨Refresher.alike_cycle alike.refresher, requested, alike.slips⟩⟩
  simp only [program_run, cycle, Refresher.alike_cycle_next alike.refresher, alike.requestedAt,
    alike.slips]

theorem alike_firedLog {fired fired' : List (Event Unit × Watched)}
    (alike : List.Forall₂ (fun x y => x.1 = y.1 ∧ x.2.Alike y.2) fired fired') :
    List.Forall₂ Happening.Alike (firedLog fired) (firedLog fired') := by
  induction alike with
  | nil => exact .nil
  | cons first _ ih =>
    obtain ⟨event, world⟩ := first
    have now := Refresher.alike_cycleLog world.refresher
    simp only [firedLog, List.flatMap_cons, event] at ih ⊢
    exact List.rel_append (now _) ih

namespace Timed

/-- Two states in time with the same timers set, of refreshers that are alike. -/
structure Alike (s s' : Timed) : Prop where
  timeline : s.timeline.Similar Watched.Alike s'.timeline
  prepared : s.prepared = s'.prepared

variable {s s' : Timed}

theorem Alike.refresher (alike : s.Alike s') : s.refresher.Alike s'.refresher :=
  alike.timeline.world.refresher

theorem alike_mapRefresher (alike : s.Alike s') {f : Refresher → Refresher}
    (kept : (f s.refresher).Alike (f s'.refresher)) :
    (s.mapRefresher f).Alike (s'.mapRefresher f) :=
  ⟨{ alike.timeline with world := { alike.timeline.world with refresher := kept } },
    alike.prepared⟩

theorem alike_runCycle (alike : s.Alike s') :
    s.runCycle.1.Alike s'.runCycle.1 ∧ s.runCycle.2.Alike s'.runCycle.2 ∧
      List.Forall₂ Happening.Alike s.cycleHappenings s'.cycleHappenings := by
  have cycled : s.cycled.Similar Watched.Alike s'.cycled := by
    rw [cycled_eq_fire, cycled_eq_fire, alike.timeline.now, alike.timeline.events]
    exact Timeline.similar_fire Watched.respects_alike alike.timeline _ _
  obtain ⟨settled, fired⟩ :=
    Timeline.runUntil_similar s.cycled.now Watched.respects_alike cycled
  refine ⟨⟨?_, alike.prepared⟩, (Refresher.alike_delivery alike.refresher).outcome, ?_⟩
  · rw [runCycle_timeline, runCycle_timeline, Timeline.settle, Timeline.settle, ← cycled.now]
    exact settled
  · rw [cycleHappenings, cycleHappenings, ← cycled.now]
    exact List.rel_append (Refresher.alike_cycleLog alike.refresher none) (alike_firedLog fired)

theorem alike_step (alike : s.Alike s') (step : Step) :
    (s.step step).1.Alike (s'.step step).1 ∧ (s.step step).2.Alike (s'.step step).2 := by
  cases step with
  | tell command =>
    have told := Refresher.alike_obey alike.refresher command
    exact ⟨alike_mapRefresher alike (f := (·.obey command)) told, .same _⟩
  | fetch =>
    obtain ⟨after, outcome, -⟩ := alike_runCycle alike
    exact ⟨after, .outcome outcome⟩
  | prepare => exact ⟨⟨alike.timeline, congrArg (· + 1) alike.prepared⟩, .same _⟩
  | discard => exact ⟨⟨alike.timeline, congrArg (· - 1) alike.prepared⟩, .same _⟩
  | subscribe =>
    exact ⟨alike_mapRefresher alike (Refresher.alike_subscribe alike.refresher), .same _⟩
  | look =>
    refine ⟨alike_mapRefresher alike (Refresher.alike_subscribe alike.refresher), ?_⟩
    simp only [step, alike.refresher.recordIsNews, alike.refresher.outcomeIsNews]
    exact .same _
  | await =>
    by_cases none : s.prepared = 0
    · simp only [step, ← alike.prepared, none, if_true]
      exact ⟨alike, .same _⟩
    · have taken : Alike { s with prepared := s.prepared - 1 }
          { s' with prepared := s'.prepared - 1 } :=
        ⟨alike.timeline, congrArg (· - 1) alike.prepared⟩
      obtain ⟨after, outcome, -⟩ := alike_runCycle taken
      have none' : ¬ s'.prepared = 0 := alike.prepared ▸ none
      simp only [step, none, none', if_false]
      exact ⟨after, .outcome outcome⟩

theorem alike_act (alike : s.Alike s') (move : Move) : (s.act move).Alike (s'.act move) := by
  cases move with
  | take step => exact (alike_step alike step).1
  | advance span =>
    have reached := Timeline.runUntil_similar (s.timeline.now + span) Watched.respects_alike
      alike.timeline
    refine ⟨?_, alike.prepared⟩
    change (s.timeline.runUntil program (s.timeline.now + span)).Similar Watched.Alike
      (s'.timeline.runUntil program (s'.timeline.now + span))
    rw [← alike.timeline.now]
    exact reached.1
  | cancel =>
    obtain ⟨now, -, events, world⟩ := alike.timeline
    refine ⟨⟨now, rfl, ?_, world⟩, alike.prepared⟩
    simp only [act, cancel, Timeline.cancel, events]

theorem alike_happenings (alike : s.Alike s') (move : Move) :
    List.Forall₂ Happening.Alike (s.happenings move) (s'.happenings move) := by
  have cycle := (alike_runCycle alike).2.2
  match move with
  | .take (.tell command) => exact .cons (.told command) .nil
  | .take .fetch => exact cycle
  | .take .prepare => exact .nil
  | .take .discard => exact .nil
  | .take .subscribe => exact .cons .observed .nil
  | .take .look => exact .cons .observed .nil
  | .take .await =>
    simp only [happenings, ← alike.prepared]
    split
    · exact .nil
    · exact cycle
  | .advance span =>
    have reached := Timeline.runUntil_similar (s.timeline.now + span) Watched.respects_alike
      alike.timeline
    simp only [happenings, ← alike.timeline.now]
    exact alike_firedLog reached.2
  | .cancel => exact .nil

end Timed

end Polling

end IngestWatch
