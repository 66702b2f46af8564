import IngestWatch.Timer.Job
import Mathlib.Tactic

/-!
When the jobs of a tree of timers run, told from the tree and the instant at which it was
set. A timer starts its delay after it was set, its job works for its time, and then the
timers below it are set. A condition on a timer and its start instant decides whether it
is dropped; a timer below one that is dropped is never set.

At any instant a tree has two parts: the runs that have begun, with what they have logged,
and the events that are still ahead.
-/

namespace IngestWatch.Timer.Job

/-- One run of a job. -/
structure Run where
  name : String
  start : Nat
  work : Nat

namespace Run

def stop (r : Run) : Nat :=
  r.start + r.work

/-- What a run that has started has logged by an instant. -/
def entries (now : Nat) (r : Run) : List Entry :=
  ⟨r.start, .started r.name⟩ :: if r.stop ≤ now then [⟨r.stop, .ended r.name⟩] else []

end Run

mutual

/-- The runs of a job that starts at an instant, and of all below it. -/
def runs (starts : Delayed Job → Nat → Bool) (start : Nat) : Job → List Run
  | mk name work _ next => ⟨name, start, work⟩ :: runsAll starts (start + work) next

/-- The runs of timers set at an instant, and of all below them. -/
def runsAll (starts : Delayed Job → Nat → Bool) (set : Nat) : List (Delayed Job) → List Run
  | [] => []
  | t :: rest => runsOf starts set t ++ runsAll starts set rest

/-- A timer starts its delay after it was set, if it starts. -/
def runsOf (starts : Delayed Job → Nat → Bool) (set : Nat) : Delayed Job → List Run
  | ⟨delay, job⟩ =>
    if starts ⟨delay, job⟩ (set + delay) then runs starts (set + delay) job else []

end

mutual

/-- The events that a job started by an instant has ahead of it then. -/
def ahead (drops : Delayed Job → Nat → Bool) (kept : Bool) (now start : Nat) :
    Job → List (Event Moment)
  | mk name work slips next =>
    if start + work ≤ now then aheadAll drops kept now (start + work) next
    else [⟨start + work, true, false, .stop kept (mk name work slips next)⟩]

/-- The events that timers set by an instant have ahead of them then. -/
def aheadAll (drops : Delayed Job → Nat → Bool) (kept : Bool) (now set : Nat) :
    List (Delayed Job) → List (Event Moment)
  | [] => []
  | t :: rest => aheadOf drops kept now set t ++ aheadAll drops kept now set rest

/-- A timer that is not dropped is ahead itself or has led to what is. -/
def aheadOf (drops : Delayed Job → Nat → Bool) (kept : Bool) (now set : Nat) :
    Delayed Job → List (Event Moment)
  | ⟨delay, job⟩ =>
    if drops ⟨delay, job⟩ (set + delay) then []
    else if set + delay ≤ now then ahead drops kept now (set + delay) job
    else [Moment.ofTimer set kept ⟨delay, job⟩]

end

/-- The timers that have started by an instant are those whose start it has reached, less
those dropped. -/
def begun (drops : Delayed Job → Nat → Bool) (now : Nat) (t : Delayed Job) (start : Nat) : Bool :=
  start ≤ now ∧ ¬ drops t start

/-- What a job that has started and those below it have logged by an instant. -/
def entries (drops : Delayed Job → Nat → Bool) (now start : Nat) (job : Job) : List Entry :=
  (job.runs (begun drops now) start).flatMap (Run.entries now)

/-- What a timer and those below it have logged by an instant. -/
def entriesOf (drops : Delayed Job → Nat → Bool) (now set : Nat) (t : Delayed Job) : List Entry :=
  (runsOf (begun drops now) set t).flatMap (Run.entries now)

/-! ## One level of a tree -/

variable {drops drops' : Delayed Job → Nat → Bool} {kept : Bool} {now set start : Nat}

theorem runsAll_eq (starts : Delayed Job → Nat → Bool) (set : Nat) (ts : List (Delayed Job)) :
    runsAll starts set ts = ts.flatMap (runsOf starts set) := by
  induction ts with
  | nil => rfl
  | cons t rest ih => rw [runsAll, ih, List.flatMap_cons]

theorem aheadAll_eq (drops : Delayed Job → Nat → Bool) (kept : Bool) (now set : Nat)
    (ts : List (Delayed Job)) :
    aheadAll drops kept now set ts = ts.flatMap (aheadOf drops kept now set) := by
  induction ts with
  | nil => rfl
  | cons t rest ih => rw [aheadAll, ih, List.flatMap_cons]

/-- What a timer has logged: nothing before its start or if it is dropped. -/
theorem entriesOf_eq (drops : Delayed Job → Nat → Bool) (now set : Nat) (t : Delayed Job) :
    entriesOf drops now set t =
      if begun drops now t (set + t.delay) then entries drops now (set + t.delay) t.task
      else [] := by
  obtain ⟨delay, job⟩ := t
  rw [entriesOf, runsOf]
  split
  · rfl
  · rfl

theorem aheadOf_eq (drops : Delayed Job → Nat → Bool) (kept : Bool) (now set : Nat)
    (t : Delayed Job) :
    aheadOf drops kept now set t =
      if drops t (set + t.delay) then []
      else if set + t.delay ≤ now then ahead drops kept now (set + t.delay) t.task
      else [Moment.ofTimer set kept t] := by
  obtain ⟨delay, job⟩ := t
  rw [aheadOf]

/-- A timer that is set only later has logged nothing. -/
theorem entriesOf_of_later (later : now < set) (t : Delayed Job) :
    entriesOf drops now set t = [] := by
  have ahead : ¬ set + t.delay ≤ now := by omega
  rw [entriesOf_eq, if_neg (by simp [begun, ahead])]

/-- What a job has logged: its start, and behind its end what the timers it sets log. -/
theorem entries_eq (drops : Delayed Job → Nat → Bool) (now start : Nat) (job : Job) :
    entries drops now start job =
      ⟨start, .started job.name⟩ :: if start + job.work ≤ now then
        ⟨start + job.work, .ended job.name⟩ ::
          job.next.flatMap (entriesOf drops now (start + job.work))
      else [] := by
  obtain ⟨name, work, slips, next⟩ := job
  have below : (runsAll (begun drops now) (start + work) next).flatMap (Run.entries now) =
      next.flatMap (entriesOf drops now (start + work)) := by
    rw [runsAll_eq, List.flatMap_assoc]
    rfl
  rw [entries, runs, List.flatMap_cons, below, Run.entries, Run.stop]
  change _ = Entry.mk start (.started name) :: if start + work ≤ now then
    ⟨start + work, .ended name⟩ :: next.flatMap (entriesOf drops now (start + work)) else []
  by_cases ended : start + work ≤ now
  · rw [if_pos ended, if_pos ended]
    rfl
  · have none : next.flatMap (entriesOf drops now (start + work)) = [] :=
      List.flatMap_eq_nil_iff.mpr fun t _ => entriesOf_of_later (Nat.not_le.mp ended) t
    rw [if_neg ended, if_neg ended, none]
    rfl

theorem ahead_eq (drops : Delayed Job → Nat → Bool) (kept : Bool) (now start : Nat) (job : Job) :
    ahead drops kept now start job =
      if start + job.work ≤ now then
        job.next.flatMap (aheadOf drops kept now (start + job.work))
      else [⟨start + job.work, true, false, .stop kept job⟩] := by
  obtain ⟨name, work, slips, next⟩ := job
  rw [ahead, aheadAll_eq]
  rfl

/-! ## Conditions that agree -/

mutual

/-- Only what a condition says of timers set from an instant on matters to a job that
starts then. -/
theorem runs_congr {starts starts' : Delayed Job → Nat → Bool} {start : Nat}
    (same : ∀ t set, start ≤ set → starts t (set + t.delay) = starts' t (set + t.delay))
    (job : Job) : job.runs starts start = job.runs starts' start := by
  match job with
  | mk name work _ next =>
    rw [runs, runs, runsAll_congr (fun t set later => same t set (by omega)) next]

theorem runsAll_congr {starts starts' : Delayed Job → Nat → Bool} {set : Nat}
    (same : ∀ t later, set ≤ later → starts t (later + t.delay) = starts' t (later + t.delay))
    (ts : List (Delayed Job)) : runsAll starts set ts = runsAll starts' set ts := by
  match ts with
  | [] => rfl
  | t :: rest => rw [runsAll, runsAll, runsOf_congr same t, runsAll_congr same rest]

theorem runsOf_congr {starts starts' : Delayed Job → Nat → Bool} {set : Nat}
    (same : ∀ t later, set ≤ later → starts t (later + t.delay) = starts' t (later + t.delay))
    (t : Delayed Job) : runsOf starts set t = runsOf starts' set t := by
  match t with
  | ⟨delay, job⟩ =>
    rw [runsOf, runsOf, same ⟨delay, job⟩ set (Nat.le_refl _),
      runs_congr (fun t later after => same t later (by omega)) job]

end

mutual

theorem ahead_congr (kept : Bool) (now : Nat) {start : Nat}
    (same : ∀ t set, start ≤ set → drops t (set + t.delay) = drops' t (set + t.delay))
    (job : Job) : ahead drops kept now start job = ahead drops' kept now start job := by
  match job with
  | mk name work _ next =>
    rw [ahead, ahead, aheadAll_congr kept now (fun t set later => same t set (by omega)) next]

theorem aheadAll_congr (kept : Bool) (now : Nat) {set : Nat}
    (same : ∀ t later, set ≤ later → drops t (later + t.delay) = drops' t (later + t.delay))
    (ts : List (Delayed Job)) :
    aheadAll drops kept now set ts = aheadAll drops' kept now set ts := by
  match ts with
  | [] => rfl
  | t :: rest =>
    rw [aheadAll, aheadAll, aheadOf_congr kept now same t, aheadAll_congr kept now same rest]

theorem aheadOf_congr (kept : Bool) (now : Nat) {set : Nat}
    (same : ∀ t later, set ≤ later → drops t (later + t.delay) = drops' t (later + t.delay))
    (t : Delayed Job) : aheadOf drops kept now set t = aheadOf drops' kept now set t := by
  match t with
  | ⟨delay, job⟩ =>
    rw [aheadOf, aheadOf, same ⟨delay, job⟩ set (Nat.le_refl _),
      ahead_congr kept now (fun t later after => same t later (by omega)) job]

end

theorem entries_congr (now : Nat)
    (same : ∀ t set, start ≤ set → drops t (set + t.delay) = drops' t (set + t.delay))
    (job : Job) : entries drops now start job = entries drops' now start job := by
  have starts (t : Delayed Job) (set : Nat) (later : start ≤ set) :
      begun drops now t (set + t.delay) = begun drops' now t (set + t.delay) := by
    simp only [begun, same t set later]
  rw [entries, entries, runs_congr starts]

theorem entriesOf_congr (now : Nat)
    (same : ∀ t later, set ≤ later → drops t (later + t.delay) = drops' t (later + t.delay))
    (t : Delayed Job) : entriesOf drops now set t = entriesOf drops' now set t := by
  have starts (t : Delayed Job) (later : Nat) (after : set ≤ later) :
      begun drops now t (later + t.delay) = begun drops' now t (later + t.delay) := by
    simp only [begun, same t later after]
  rw [entriesOf, entriesOf, runsOf_congr starts]

/-- What has been logged by an instant depends on the timers alone that start by then. -/
theorem entriesOf_congr_until
    (same : ∀ t start, start ≤ now → drops t start = drops' t start) (t : Delayed Job) :
    entriesOf drops now set t = entriesOf drops' now set t := by
  rw [entriesOf, entriesOf, runsOf_congr]
  intro t later _
  by_cases reached : later + t.delay ≤ now
  · simp only [begun, same t _ reached]
  · simp [begun, reached]

/-! ## Cancelling -/

/-- A condition changed by cancelling at an instant. What has started by then is not touched,
and what is set but has not started is dropped unless it is kept. -/
structure Cut (now : Nat) (kept : Bool) (drops drops' : Delayed Job → Nat → Bool) : Prop where
  started : ∀ t start, start ≤ now → drops' t start = drops t start
  waiting : ∀ t set, set ≤ now → now < set + t.delay →
    drops' t (set + t.delay) = (drops t (set + t.delay) || !kept)

mutual

theorem ahead_of_cut {start : Nat} (cut : Cut now kept drops drops') (job : Job) :
    ahead drops' kept now start job = (ahead drops kept now start job).filter (·.kept) := by
  match job with
  | mk name work slips next =>
    rw [ahead, ahead]
    split
    · next ended => exact aheadAll_of_cut cut ended next
    · -- a running job is kept
      rfl

theorem aheadAll_of_cut {set : Nat} (cut : Cut now kept drops drops') (reached : set ≤ now)
    (ts : List (Delayed Job)) :
    aheadAll drops' kept now set ts = (aheadAll drops kept now set ts).filter (·.kept) := by
  match ts with
  | [] => rfl
  | t :: rest =>
    rw [aheadAll, aheadAll, List.filter_append, aheadOf_of_cut cut reached t,
      aheadAll_of_cut cut reached rest]

/-- Cancelling leaves over the events ahead that are kept. -/
theorem aheadOf_of_cut {set : Nat} (cut : Cut now kept drops drops') (reached : set ≤ now)
    (t : Delayed Job) :
    aheadOf drops' kept now set t = (aheadOf drops kept now set t).filter (·.kept) := by
  match t with
  | ⟨delay, job⟩ =>
    rw [aheadOf, aheadOf]
    by_cases started : set + delay ≤ now
    · rw [cut.started _ _ started, if_pos started, if_pos started, ahead_of_cut cut job]
      split
      · rfl
      · rfl
    · have waits := cut.waiting ⟨delay, job⟩ set reached (Nat.not_le.mp started)
      rw [waits, if_neg started, if_neg started]
      cases drops ⟨delay, job⟩ (set + delay) <;> cases kept <;> rfl

end

end IngestWatch.Timer.Job
