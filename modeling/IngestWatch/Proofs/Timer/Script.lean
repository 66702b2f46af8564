import IngestWatch.Proofs.Timer.Account

/-!
What a script of steps leads to: timers are set, time goes forward, and the timers that can
be dropped are cancelled. The log is told from the script alone. A timer set at the top
counts from the instant of its step, one below it from the end of the job that sets it, and
a timer is dropped if a cancel step comes before its start. A step runs all that is due
before the next step comes, so what starts at the very instant of a cancel step that comes
later has started.

There is one exception: a timer that is set after a cancel step, but without a delay, runs
if it slips through. Which of these do is chosen at random, and each timer of a script says
what is chosen for it.
-/

namespace IngestWatch.Timer.Job

/-- What can be done to jobs in virtual time. -/
inductive Step where
  | schedule (kept : Bool) (t : Delayed Job)
  | advance (span : Nat)
  | cancel

namespace Step

/-- A step runs all that is due. -/
def act (tl : Timeline (List Entry) Moment) : Step → Timeline (List Entry) Moment
  | schedule kept t => (tl.setAll [Moment.ofTimer tl.now kept t]).settle program
  | advance span => tl.advance program span
  | cancel => tl.cancel

/-- The time that passes in a step. -/
def span : Step → Nat
  | schedule _ _ => 0
  | advance span => span
  | cancel => 0

end Step

namespace Script

def run (steps : List Step) : Timeline (List Entry) Moment :=
  steps.foldl Step.act Job.timeline

/-- The time that passes in a script. -/
def elapsed (steps : List Step) : Nat :=
  (steps.map Step.span).sum

@[simp] theorem elapsed_append (steps more : List Step) :
    elapsed (steps ++ more) = elapsed steps + elapsed more := by
  simp [elapsed]

/-- The instants of the cancel steps of a script begun at an instant. -/
def cancels (begun : Nat) : List Step → List Nat
  | [] => []
  | .cancel :: rest => begun :: cancels begun rest
  | .advance span :: rest => cancels (begun + span) rest
  | .schedule _ _ :: rest => cancels begun rest

theorem cancels_append (begun : Nat) (steps more : List Step) :
    cancels begun (steps ++ more) =
      cancels begun steps ++ cancels (begun + elapsed steps) more := by
  fun_induction cancels begun steps with
  | case1 => rfl
  | case2 begun rest ih => simp [cancels, ih, elapsed, Step.span]
  | case3 begun span rest ih => simp [cancels, ih, elapsed, Step.span, Nat.add_assoc]
  | case4 begun kept t rest ih => simp [cancels, ih, elapsed, Step.span]

theorem le_of_mem_cancels {begun c : Nat} {steps : List Step} (member : c ∈ cancels begun steps) :
    c ≤ begun + elapsed steps := by
  fun_induction cancels begun steps with
  | case1 => cases member
  | case2 begun rest ih =>
    rcases List.mem_cons.mp member with rfl | later
    · exact Nat.le_add_right _ _
    · simpa [elapsed, Step.span] using ih later
  | case3 begun span rest ih => simpa [elapsed, Step.span, Nat.add_assoc] using ih member
  | case4 begun kept t rest ih => simpa [elapsed, Step.span] using ih member

/-! ## The timers set at the top -/

/-- A step of a script that sets a timer, with the steps around it. -/
structure Setting where
  before : List Step
  kept : Bool
  timer : Delayed Job
  after : List Step

/-- The steps that set a timer among those that come after others. -/
def settings (before : List Step) : List Step → List Setting
  | [] => []
  | .schedule kept t :: after =>
    ⟨before, kept, t, after⟩ :: settings (before ++ [.schedule kept t]) after
  | .advance span :: after => settings (before ++ [.advance span]) after
  | .cancel :: after => settings (before ++ [.cancel]) after

theorem mem_settings {s : Setting} {before steps : List Step} (member : s ∈ settings before steps) :
    before ++ steps = s.before ++ .schedule s.kept s.timer :: s.after := by
  fun_induction settings before steps with
  | case1 => cases member
  | case2 before kept t after ih =>
    rcases List.mem_cons.mp member with rfl | later
    · rfl
    · rw [← ih later, List.append_assoc]; rfl
  | case3 before span after ih => rw [← ih member, List.append_assoc]; rfl
  | case4 before after ih => rw [← ih member, List.append_assoc]; rfl

namespace Setting

/-- Whether a timer, the one set or one below it, that is to start at an instant is dropped:
it is not kept, it does not slip through, and a cancel step comes before the start. That is
any cancel step before the one that sets the timer, and one after it only if it comes at an
earlier instant. -/
def Drops (s : Setting) (t : Delayed Job) (start : Nat) : Prop :=
  s.kept = false ∧ ¬ (t.delay = 0 ∧ t.task.slips) ∧
    (cancels 0 s.before ≠ [] ∨ ∃ c ∈ cancels (elapsed s.before) s.after, c < start)

instance (s : Setting) (t : Delayed Job) (start : Nat) : Decidable (s.Drops t start) :=
  inferInstanceAs (Decidable (_ ∧ _ ∧ (_ ∨ _)))

/-- Whether a timer that is to start at an instant has started. -/
def starts (now : Nat) (s : Setting) (t : Delayed Job) (start : Nat) : Bool :=
  start ≤ now ∧ ¬ s.Drops t start

/-- What the timer and those below it have logged. -/
def entries (now : Nat) (s : Setting) : List Entry :=
  (runsOf (s.starts now) (elapsed s.before) s.timer).flatMap (Run.entries now)

def drops (s : Setting) (t : Delayed Job) (start : Nat) : Bool :=
  s.Drops t start

/-- The events that the timer and those below it have ahead. -/
def ahead (now : Nat) (s : Setting) : List (Event Moment) :=
  aheadOf s.drops s.kept now (elapsed s.before) s.timer

def andThen (step : Step) (s : Setting) : Setting :=
  { s with after := s.after ++ [step] }

theorem entries_eq_entriesOf (now : Nat) (s : Setting) :
    s.entries now = entriesOf s.drops now (elapsed s.before) s.timer := by
  have same : s.starts now = begun s.drops now := by
    funext t start
    simp [starts, begun, drops]
  rw [entries, same]
  rfl

variable {s : Setting} {steps : List Step}

/-- The cancel steps of a script come before a timer is set or after. -/
theorem cancels_eq (member : s ∈ settings [] steps) :
    cancels 0 steps = cancels 0 s.before ++ cancels (elapsed s.before) s.after := by
  rw [← List.nil_append steps, mem_settings member, cancels_append, Nat.zero_add]
  rfl

theorem elapsed_eq (member : s ∈ settings [] steps) :
    elapsed steps = elapsed s.before + elapsed s.after := by
  rw [← List.nil_append steps, mem_settings member, elapsed_append]
  simp [elapsed, Step.span]

/-- Of the timers set after a script those are dropped that are not kept and do not slip
through, if there is a cancel step at all. -/
theorem drops_from (member : s ∈ settings [] steps) :
    From (elapsed steps) (!(cancels 0 steps).isEmpty) s.kept s.drops := by
  intro t set after
  have earlier : (cancels 0 s.before ≠ [] ∨
      ∃ c ∈ cancels (elapsed s.before) s.after, c < set + t.delay) ↔ cancels 0 steps ≠ [] := by
    rw [cancels_eq member, Ne, Ne, List.append_eq_nil_iff, not_and_or]
    refine or_congr_right ⟨?_, fun some => ?_⟩
    · rintro ⟨c, inside, -⟩
      exact List.ne_nil_of_mem inside
    · obtain ⟨c, inside⟩ := List.exists_mem_of_ne_nil _ some
      have := le_of_mem_cancels inside
      have := elapsed_eq member
      exact ⟨c, inside, by omega⟩
  rw [Bool.eq_iff_iff]
  simp only [drops, Drops, earlier, lost, decide_eq_true_eq, Bool.not_eq_true', Bool.not_eq_true,
    List.isEmpty_eq_false_iff]
  tauto

/-- A step that is no cancel step drops nothing. -/
theorem drops_andThen {step : Step} (none : cancels (elapsed steps) [step] = [])
    (member : s ∈ settings [] steps) : (s.andThen step).drops = s.drops := by
  funext t start
  have now := elapsed_eq member
  rw [drops, drops, decide_eq_decide]
  simp only [Drops, andThen, cancels_append, ← now, none, List.append_nil]

/-- A cancel step drops what is set and has not started. -/
theorem cut_andThen (member : s ∈ settings [] steps) :
    Cut (elapsed steps) s.kept s.drops (s.andThen .cancel).drops := by
  have now := elapsed_eq member
  have same (t : Delayed Job) (start : Nat) : (s.andThen .cancel).Drops t start ↔
      s.Drops t start ∨
        s.kept = false ∧ ¬ (t.delay = 0 ∧ t.task.slips) ∧ elapsed steps < start := by
    simp only [Drops, andThen, cancels_append, ← now, cancels, List.mem_append,
      List.mem_singleton, or_and_right, exists_or, exists_eq_left]
    rw [← and_or_left, ← and_or_left, or_assoc]
  constructor
  · intro t start begun
    rw [drops, drops, decide_eq_decide, same]
    exact ⟨fun either => either.resolve_right fun late => by omega, Or.inl⟩
  · intro t set reached waits
    have delayed : t.delay ≠ 0 := by omega
    rw [Bool.eq_iff_iff]
    simp [drops, same, delayed, waits]

end Setting

theorem settings_concat (before steps : List Step) (step : Step) :
    settings before (steps ++ [step]) =
      (settings before steps).map (Setting.andThen step) ++
        settings (before ++ steps) [step] := by
  fun_induction settings before steps with
  | case1 before => simp
  | case2 before kept t after ih => simp [settings, ih, Setting.andThen]
  | case3 before span after ih => simp [settings, ih]
  | case4 before after ih => simp [settings, ih]

/-- A timeline is what a script tells: the log and the events ahead are those of the timers
it sets, up to their order, and nothing is due. -/
structure Told (steps : List Step) (tl : Timeline (List Entry) Moment) : Prop where
  now : tl.now = elapsed steps
  cancelled : tl.cancelled = !(cancels 0 steps).isEmpty
  log : tl.world.Perm ((settings [] steps).flatMap (Setting.entries (elapsed steps)))
  events : tl.events.Perm ((settings [] steps).flatMap (Setting.ahead (elapsed steps)))
  later : ∀ e ∈ tl.events, tl.now < e.due

section Told

variable {steps : List Step} {tl : Timeline (List Entry) Moment}

/-- What timers set by a script have logged and have ahead leads to what they have later on. -/
theorem Told.leads (told : Told steps tl) (span : Nat) :
    Leads tl.cancelled (elapsed steps + span) tl.world tl.events
      ((settings [] steps).flatMap (Setting.entries (elapsed steps + span)))
      ((settings [] steps).flatMap (Setting.ahead (elapsed steps + span))) := by
  refine Leads.perm told.log told.events (Leads.flatMap fun s member => ?_)
  rw [Setting.entries_eq_entriesOf, Setting.entries_eq_entriesOf, told.cancelled]
  exact leads_timer (Setting.drops_from member) (Nat.le_add_right _ _) _ _

/-- A step that is no cancel step adds the timer it sets, if it sets one, and leaves what was
set before as it is. -/
theorem flatMap_of_not_cancel (steps : List Step) (step : Step)
    (none : cancels (elapsed steps) [step] = []) (now : Nat) :
    (settings [] (steps ++ [step])).flatMap (Setting.entries now) =
        (settings [] steps).flatMap (Setting.entries now) ++
          (settings steps [step]).flatMap (Setting.entries now) ∧
      (settings [] (steps ++ [step])).flatMap (Setting.ahead now) =
        (settings [] steps).flatMap (Setting.ahead now) ++
          (settings steps [step]).flatMap (Setting.ahead now) := by
  rw [settings_concat, List.flatMap_append, List.flatMap_append, List.flatMap_map,
    List.flatMap_map]
  constructor
  · refine congrArg (· ++ _) (List.flatMap_congr fun s member => ?_)
    rw [Setting.entries_eq_entriesOf, Setting.entries_eq_entriesOf,
      Setting.drops_andThen none member]
    rfl
  · refine congrArg (· ++ _) (List.flatMap_congr fun s member => ?_)
    rw [Setting.ahead, Setting.ahead, Setting.drops_andThen none member]
    rfl

theorem told_advance (told : Told steps tl) (span : Nat) :
    Told (steps ++ [.advance span]) (tl.advance program span) := by
  have now : elapsed (steps ++ [.advance span]) = tl.now + span := by
    rw [elapsed_append, told.now]
    rfl
  have leads := told.leads span
  rw [← told.now] at leads
  obtain ⟨cancelled, log, events⟩ :=
    jobs_runUntil tl (fun e member => (told.later e member).le) leads
  obtain ⟨clock, later⟩ := Timeline.now_runUntil (p := program) (Nat.le_add_right tl.now span)
  obtain ⟨entries, ahead⟩ := flatMap_of_not_cancel steps (.advance span) rfl
    (tl.now + span)
  refine ⟨clock.trans now.symm, ?_, ?_, ?_, clock.symm ▸ later⟩
  · rw [Timeline.advance, cancelled, told.cancelled, cancels_append]
    simp [cancels]
  · rw [now, entries]
    exact log.trans (.of_eq (List.append_nil _).symm)
  · rw [now, ahead]
    exact events.trans (.of_eq (List.append_nil _).symm)

theorem told_schedule (told : Told steps tl) (kept : Bool) (t : Delayed Job) :
    Told (steps ++ [.schedule kept t]) (Step.act tl (.schedule kept t)) := by
  have now : elapsed (steps ++ [.schedule kept t]) = tl.now := by
    rw [elapsed_append, told.now]
    rfl
  let new : Setting := ⟨steps, kept, t, []⟩
  -- the new timer is dropped, if at all, by the cancel steps that came before
  have drops : new.drops = lost tl.cancelled kept := by
    funext t start
    rw [Bool.eq_iff_iff]
    simp [new, Setting.drops, Setting.Drops, lost, told.cancelled, cancels]
    tauto
  have entriesOfNew : new.entries tl.now = entriesOf (lost tl.cancelled kept) tl.now tl.now t := by
    rw [Setting.entries_eq_entriesOf, drops, told.now]
  have aheadOfNew :
      new.ahead tl.now = aheadOf (lost tl.cancelled kept) kept tl.now tl.now t := by
    rw [Setting.ahead, drops, told.now]
  obtain ⟨cancelled, log, events⟩ := jobs_settle_setAll told.later kept [t]
  obtain ⟨clock, later⟩ := Timeline.now_runUntil (p := program)
    (Nat.le_refl (tl.setAll [Moment.ofTimer tl.now kept t]).now)
  obtain ⟨entries, ahead⟩ := flatMap_of_not_cancel steps (.schedule kept t) rfl
    tl.now
  refine ⟨clock.trans now.symm, ?_, ?_, ?_, clock.symm ▸ later⟩
  · rw [cancels_append, cancels, cancels, List.append_nil]
    exact cancelled.trans told.cancelled
  · rw [now, entries]
    refine log.trans (List.Perm.append (told.now ▸ told.log) ?_)
    rw [List.flatMap_singleton, ← entriesOfNew]
    exact .of_eq (List.flatMap_singleton ..).symm
  · rw [now, ahead]
    refine events.trans (List.Perm.append (told.now ▸ told.events) ?_)
    rw [List.flatMap_singleton, ← aheadOfNew]
    exact .of_eq (List.flatMap_singleton ..).symm

theorem told_cancel (told : Told steps tl) : Told (steps ++ [.cancel]) tl.cancel := by
  have now : elapsed (steps ++ [.cancel]) = elapsed steps := by
    rw [elapsed_append]
    rfl
  refine ⟨told.now.trans now.symm, ?_, ?_, ?_, ?_⟩
  · simp [Timeline.cancel, cancels_append, cancels]
  · rw [now, settings_concat, List.flatMap_append, List.flatMap_map]
    refine told.log.trans (.of_eq ?_)
    refine (List.flatMap_congr fun s member => ?_).trans (List.append_nil _).symm
    rw [Setting.entries_eq_entriesOf, Setting.entries_eq_entriesOf]
    exact (entriesOf_congr_until (Setting.cut_andThen member).started _).symm
  · rw [now, settings_concat, List.flatMap_append, List.flatMap_map]
    refine (told.events.filter _).trans (.of_eq ?_)
    rw [List.filter_flatMap]
    refine (List.flatMap_congr fun s member => ?_).trans (List.append_nil _).symm
    have reached : elapsed s.before ≤ elapsed steps := by
      have := Setting.elapsed_eq member
      omega
    exact (aheadOf_of_cut (Setting.cut_andThen member) reached s.timer).symm
  · intro e member
    exact told.later e (List.mem_filter.mp member).1

end Told

theorem told_run (steps : List Step) : Told steps (run steps) := by
  induction steps using List.reverseRecOn with
  | nil => exact ⟨rfl, rfl, .refl _, .refl _, nofun⟩
  | append_singleton steps step told =>
    have ran : run (steps ++ [step]) = step.act (run steps) := by
      rw [run, List.foldl_append]; rfl
    rw [ran]
    cases step with
    | schedule kept t => exact told_schedule told kept t
    | advance span => exact told_advance told span
    | cancel => exact told_cancel told

/-- After a script, and whatever was chosen for its timers, the log holds, up to its order,
one start for every timer that has started and one end for every job that has come to its
end, each at its instant, and nothing else. A timer starts its delay after it was set unless
that is still ahead or it is dropped; those below it are set when its job ends. -/
theorem log_perm_entries (steps : List Step) :
    (run steps).now = elapsed steps ∧
      (run steps).world.Perm ((settings [] steps).flatMap (Setting.entries (elapsed steps))) :=
  ⟨(told_run steps).now, (told_run steps).log⟩

/-- A timer that is set after the cancelling runs if it is set without a delay and slips
through. -/
theorem undelayed_slips_through :
    (run [.cancel, .schedule false ⟨0, .mk "a" 0 true []⟩]).world =
      [⟨0, .started "a"⟩, ⟨0, .ended "a"⟩] := by
  decide +kernel

/-- A job that is running when the timers are cancelled ends. Of the timers below it one is
dropped although its delay is zero, another slips through. -/
example :
    (run [.schedule false ⟨1, .mk "outer" 2 false
          [⟨0, .mk "lost" 0 false []⟩, ⟨0, .mk "inner" 0 true []⟩]⟩,
        .advance 1, .cancel, .advance 5]).world =
      [⟨1, .started "outer"⟩, ⟨3, .ended "outer"⟩, ⟨3, .started "inner"⟩, ⟨3, .ended "inner"⟩] := by
  decide +kernel

end Script

end IngestWatch.Timer.Job
