import IngestWatch.Proofs.Polling.InTime
import IngestWatch.Proofs.Timer.Script

/-!
Time goes forward by spans that add up. Wherever a span is cut, be it at the very instant
of a timer or inside a chain of cycles without delay, the two parts lead to the state the
whole leads to, and what happens in them is what happens in the whole.
-/

namespace IngestWatch

open Timer

/-- What events log comes behind what was logged. -/
theorem Timer.Job.log_prefix_runUntil (tl : Timeline (List Job.Entry) Job.Moment)
    (instant : Nat) : tl.world <+: (tl.runUntil Job.program instant).world := by
  obtain ⟨last, extended, ran, -⟩ := Timeline.of_runUntil Job.program instant
    (P := fun _ now => tl.world <+: now.world) tl (List.prefix_refl _)
    (by
      intro fired now e rest before _ _
      refine before.trans ?_
      obtain ⟨due, kept, slips, task⟩ := e
      cases task with
      | start kept job => exact List.prefix_append _ _
      | stop kept job => exact List.prefix_append _ _)
  rw [ran]
  exact extended

namespace Polling

theorem requestedAt_prefix_runUntil (tl : Timeline Watched Unit) (instant : Nat) :
    tl.world.requestedAt <+: (tl.runUntil program instant).world.requestedAt := by
  obtain ⟨last, extended, ran, -⟩ := Timeline.of_runUntil program instant
    (P := fun _ now => tl.world.requestedAt <+: now.world.requestedAt) tl (List.prefix_refl _)
    fun _ _ _ _ before _ _ => before.trans (List.prefix_append _ _)
  rw [ran]
  exact extended

namespace Timed

theorem advance_advance (s : Timed) (first second : Nat) :
    (s.advance first).advance second = s.advance (first + second) ∧
      s.happenings (.advance first) ++ (s.advance first).happenings (.advance second) =
        s.happenings (.advance (first + second)) := by
  obtain ⟨timeline, fired⟩ := s.timeline.advance_advance (p := program) first second
  constructor
  · exact congrArg (Timed.mk · s.prepared) timeline
  · simp only [happenings, ← fired, firedLog, List.flatMap_append]
    rfl

theorem advance_zero {s : Timed} (settled : s.Settled) : s.advance 0 = s :=
  congrArg (Timed.mk · s.prepared) (Timeline.advance_zero settled).1

end Timed

end Polling

/-- Logs that grow from one state to the next grow by what each step adds. -/
theorem exists_added {α : Type} {start between finish : List α} (first : start <+: between)
    (second : between <+: finish) : ∃ added more,
      between = start ++ added ∧ finish = between ++ more ∧ finish = start ++ (added ++ more) := by
  obtain ⟨added, rfl⟩ := first
  obtain ⟨more, rfl⟩ := second
  exact ⟨added, more, rfl, rfl, List.append_assoc ..⟩

/-- In every state that timers or a refresher can come to, letting time go forward by one
span and then by another leaves the state that both spans at once leave, the events ahead,
their instants and order included; what is logged, the instants of requests and the cycles
run in the two are those of the one. No time going forward changes nothing. -/
theorem advances_add_up :
    (∀ (steps : List Job.Step) (first second : Nat),
      let tl := Job.Script.run steps
      let between := tl.advance Job.program first
      let finish := tl.advance Job.program (first + second)
      between.advance Job.program second = finish ∧
        (∃ added more, between.world = tl.world ++ added ∧
          (between.advance Job.program second).world = between.world ++ more ∧
          finish.world = tl.world ++ (added ++ more)) ∧
        tl.advance Job.program 0 = tl) ∧
    ∀ (pathPrefix statistic : String) (interval : Nat) (answers : List Polling.Answer)
      (slips : Nat → Bool) (moves : List Polling.Timed.Move) (first second : Nat),
      let s := (Polling.Timed.new (.new pathPrefix statistic interval answers) slips).run moves
      let between := s.advance first
      let finish := s.advance (first + second)
      between.advance second = finish ∧
        (∃ added more,
          between.timeline.world.requestedAt = s.timeline.world.requestedAt ++ added ∧
          (between.advance second).timeline.world.requestedAt =
            between.timeline.world.requestedAt ++ more ∧
          finish.timeline.world.requestedAt =
            s.timeline.world.requestedAt ++ (added ++ more)) ∧
        s.happenings (.advance first) ++ between.happenings (.advance second) =
          s.happenings (.advance (first + second)) ∧
        s.advance 0 = s := by
  constructor
  · intro steps first second tl between finish
    have whole : between.advance Job.program second = finish :=
      (tl.advance_advance first second).1
    have ahead := (Job.Script.told_run steps).later
    refine ⟨whole, ?_, (Timeline.advance_zero ahead).1⟩
    rw [whole]
    exact exists_added (Job.log_prefix_runUntil _ _)
      (whole ▸ Job.log_prefix_runUntil between _)
  · intro pathPrefix statistic interval answers slips moves first second s between finish
    obtain ⟨whole, cycles⟩ := s.advance_advance first second
    change between.advance second = finish at whole
    refine ⟨whole, ?_, cycles, Polling.Timed.advance_zero (Polling.Timed.settled_run _ _ moves)⟩
    rw [whole]
    exact exists_added (Polling.requestedAt_prefix_runUntil _ _)
      (whole ▸ Polling.requestedAt_prefix_runUntil between.timeline _)

end IngestWatch
