import IngestWatch.Proofs.Timer.Runs
import IngestWatch.Proofs.Timer.Timeline

/-!
Jobs in virtual time do not get in each other's way. Up to an instant an event leads to the
same entries and leaves the same events ahead, whichever others are fired in between; so
what a timeline logs and what it still has ahead is put together from its events
(`jobs_runUntil`). For a tree of timers the two parts fit: what it has logged by an
instant, with what the events ahead then lead to, is what it has logged later on.
-/

namespace IngestWatch.Timer.Job

/-- Whether a timer that is set now is dropped at once. That is so when the timers were
cancelled and it is neither kept nor, being set without a delay, slips through. -/
def lost (cancelled kept : Bool) (t : Delayed Job) (_start : Nat) : Bool :=
  cancelled ∧ ¬ kept ∧ ¬ (t.delay = 0 ∧ t.task.slips)

/-- What an event leads to in the log up to an instant. -/
def logs (cancelled : Bool) (instant : Nat) (e : Event Moment) : List Entry :=
  if e.due ≤ instant then
    match e.task with
    | .start kept job => entries (lost cancelled kept) instant e.due job
    | .stop kept job =>
      ⟨e.due, .ended job.name⟩ :: job.next.flatMap (entriesOf (lost cancelled kept) instant e.due)
  else []

/-- The events that an event leaves ahead at an instant, which may be itself. -/
def leaves (cancelled : Bool) (instant : Nat) (e : Event Moment) : List (Event Moment) :=
  if e.due ≤ instant then
    match e.task with
    | .start kept job => ahead (lost cancelled kept) kept instant e.due job
    | .stop kept job => job.next.flatMap (aheadOf (lost cancelled kept) kept instant e.due)
  else [e]

variable {cancelled kept : Bool} {instant now set start : Nat}
variable {tl : Timeline (List Entry) Moment} {e : Event Moment}

/-- Events that are not due log nothing and stay ahead. -/
theorem nothing_of_later (cancelled : Bool) {events : List (Event Moment)}
    (later : ∀ e ∈ events, instant < e.due) :
    events.flatMap (logs cancelled instant) = [] ∧
      events.flatMap (leaves cancelled instant) = events := by
  have ahead (e : Event Moment) (member : e ∈ events) : ¬ e.due ≤ instant :=
    Nat.not_le.mpr (later e member)
  constructor
  · exact List.flatMap_eq_nil_iff.mpr fun e member => if_neg (ahead e member)
  · have stays : events.flatMap (leaves cancelled instant) = events.flatMap ([·]) :=
      List.flatMap_congr fun e member => if_neg (ahead e member)
    rw [stays, List.flatMap_singleton']

theorem logs_ofTimer (t : Delayed Job) :
    logs cancelled instant (Moment.ofTimer set kept t) =
      if set + t.delay ≤ instant then entries (lost cancelled kept) instant (set + t.delay) t.task
      else [] :=
  rfl

theorem leaves_ofTimer (t : Delayed Job) :
    leaves cancelled instant (Moment.ofTimer set kept t) =
      if set + t.delay ≤ instant then
        ahead (lost cancelled kept) kept instant (set + t.delay) t.task
      else [Moment.ofTimer set kept t] :=
  rfl

/-- A timeline takes the events of those timers that are not lost. -/
theorem accepts_ofTimer (tl : Timeline (List Entry) Moment) (kept : Bool) (t : Delayed Job)
    (start : Nat) :
    tl.accepts (Moment.ofTimer tl.now kept t) = !lost tl.cancelled kept t start := by
  have reached : tl.now + t.delay ≤ tl.now ↔ t.delay = 0 := by omega
  rw [Bool.eq_iff_iff]
  simp only [Timeline.accepts, Moment.ofTimer, lost, reached, Bool.or_eq_true, Bool.and_eq_true,
    Bool.not_eq_true', decide_eq_true_eq, decide_eq_false_iff_not, Bool.not_eq_true]
  cases kept <;> cases tl.cancelled <;> simp [and_comm]

/-- The event of a timer that is not lost leads to what the timer logs and leaves ahead. -/
theorem ofTimer_leads (instant : Nat) {t : Delayed Job}
    (taken : lost cancelled kept t (set + t.delay) = false) :
    logs cancelled instant (Moment.ofTimer set kept t) =
        entriesOf (lost cancelled kept) instant set t ∧
      leaves cancelled instant (Moment.ofTimer set kept t) =
        aheadOf (lost cancelled kept) kept instant set t := by
  rw [entriesOf_eq, aheadOf_eq, logs_ofTimer, leaves_ofTimer, taken, if_neg Bool.false_ne_true]
  by_cases due : set + t.delay ≤ instant
  · simp [begun, due, taken]
  · simp [begun, due]

/-- The events of timers that are set lead to what the timers log and leave ahead. -/
theorem setAll_leads (instant : Nat) (tl : Timeline (List Entry) Moment) (kept : Bool)
    (ts : List (Delayed Job)) :
    ((ts.map (Moment.ofTimer tl.now kept)).filter tl.accepts).flatMap (logs tl.cancelled instant) =
        ts.flatMap (entriesOf (lost tl.cancelled kept) instant tl.now) ∧
      ((ts.map (Moment.ofTimer tl.now kept)).filter tl.accepts).flatMap
          (leaves tl.cancelled instant) =
        ts.flatMap (aheadOf (lost tl.cancelled kept) kept instant tl.now) := by
  induction ts with
  | nil => exact ⟨rfl, rfl⟩
  | cons t rest ih =>
    have accepts := accepts_ofTimer tl kept t (tl.now + t.delay)
    rw [List.map_cons, List.flatMap_cons, List.flatMap_cons, ← ih.1, ← ih.2]
    cases missed : lost tl.cancelled kept t (tl.now + t.delay) with
    | true =>
      rw [missed] at accepts
      rw [List.filter_cons_of_neg (by simp [accepts]), entriesOf_eq, aheadOf_eq,
        if_neg (by simp [begun, missed]), if_pos missed]
      exact ⟨rfl, rfl⟩
    | false =>
      rw [missed] at accepts
      obtain ⟨logged, left⟩ := ofTimer_leads instant missed
      rw [List.filter_cons_of_pos accepts, List.flatMap_cons, List.flatMap_cons, logged, left]
      exact ⟨rfl, rfl⟩

/-- Firing an event that is due logs one entry; what it leads to otherwise is what the
events it sets lead to. -/
theorem run_leads (tl : Timeline (List Entry) Moment) (e : Event Moment) (due : e.due ≤ instant)
    (log : List Entry) (now : tl.now = e.due) :
    let events := (e.task.run e.due log).2.filter tl.accepts
    ∃ entry, (e.task.run e.due log).1 = log ++ [entry] ∧
      logs tl.cancelled instant e = entry :: events.flatMap (logs tl.cancelled instant) ∧
      leaves tl.cancelled instant e = events.flatMap (leaves tl.cancelled instant) := by
  obtain ⟨at_, kept', slips, task⟩ := e
  obtain rfl : tl.now = at_ := now
  cases task with
  | start kept job =>
    -- the end of the job is kept, so it is set whatever was cancelled
    have sets : ((Moment.start kept job).run tl.now log).2.filter tl.accepts =
        [⟨tl.now + job.work, true, false, .stop kept job⟩] := rfl
    refine ⟨⟨tl.now, .started job.name⟩, rfl, ?_⟩
    rw [sets, List.flatMap_singleton, List.flatMap_singleton]
    constructor
    · rw [logs, if_pos due]
      exact entries_eq ..
    · rw [leaves, if_pos due]
      exact ahead_eq ..
  | stop kept job =>
    obtain ⟨logged, left⟩ := setAll_leads instant tl kept job.next
    refine ⟨⟨tl.now, .ended job.name⟩, rfl, ?_⟩
    simp only [logs, leaves, if_pos due]
    exact ⟨congrArg _ logged.symm, left.symm⟩

/-! ## Up to an instant -/

/-- What has been logged and the events ahead come, up to an instant, to a log and to events
that are ahead then, all up to order. -/
structure Leads (cancelled : Bool) (instant : Nat) (log : List Entry)
    (events : List (Event Moment)) (log' : List Entry) (events' : List (Event Moment)) :
    Prop where
  log : (log ++ events.flatMap (logs cancelled instant)).Perm log'
  events : (events.flatMap (leaves cancelled instant)).Perm events'

section Leads

variable {log log' more more' : List Entry} {events events' others others' : List (Event Moment)}

/-- Where nothing is due, nothing happens. -/
theorem Leads.of_later (later : ∀ e ∈ events, instant < e.due)
    (leads : Leads cancelled instant log events log' events') :
    log.Perm log' ∧ events.Perm events' := by
  obtain ⟨none, all⟩ := nothing_of_later cancelled later
  have inLog := leads.log
  have left := leads.events
  rw [none, List.append_nil] at inLog
  rw [all] at left
  exact ⟨inLog, left⟩

theorem Leads.perm (sameLog : more.Perm log) (sameEvents : others.Perm events)
    (leads : Leads cancelled instant log events log' events') :
    Leads cancelled instant more others log' events' :=
  ⟨(sameLog.append (sameEvents.flatMap_right _)).trans leads.log,
    (sameEvents.flatMap_right _).trans leads.events⟩

/-- What comes of two parts comes of both together. -/
theorem Leads.append (leads : Leads cancelled instant log events log' events')
    (also : Leads cancelled instant more others more' others') :
    Leads cancelled instant (log ++ more) (events ++ others) (log' ++ more')
      (events' ++ others') := by
  have swapped (first second third fourth : List Entry) :
      (first ++ second ++ (third ++ fourth)).Perm (first ++ third ++ (second ++ fourth)) := by
    simp only [List.append_assoc]
    refine List.Perm.append_left first ?_
    simp only [← List.append_assoc]
    exact List.perm_append_comm.append_right _
  constructor
  · rw [List.flatMap_append]
    exact (swapped ..).trans (leads.log.append also.log)
  · rw [List.flatMap_append]
    exact leads.events.append also.events

theorem Leads.flatMap {α : Type} {parts : List α} {log log' : α → List Entry}
    {events events' : α → List (Event Moment)}
    (each : ∀ x ∈ parts, Leads cancelled instant (log x) (events x) (log' x) (events' x)) :
    Leads cancelled instant (parts.flatMap log) (parts.flatMap events) (parts.flatMap log')
      (parts.flatMap events') := by
  induction parts with
  | nil => exact ⟨.refl _, .refl _⟩
  | cons x rest ih =>
    exact (each x List.mem_cons_self).append
      (ih fun y inside => each y (List.mem_cons_of_mem x inside))

end Leads

/-- The events that a fired event sets are not due before it. -/
theorem due_le_of_mem_run {f : Event Moment} (log : List Entry)
    (member : f ∈ (e.task.run e.due log).2) : e.due ≤ f.due := by
  obtain ⟨due, kept', slips, task⟩ := e
  cases task with
  | start kept job =>
    rw [List.mem_singleton.mp member]
    exact Nat.le_add_right _ _
  | stop kept job =>
    obtain ⟨t, -, rfl⟩ := List.mem_map.mp member
    exact Nat.le_add_right _ _

/-- Firing the earliest event changes nothing of what a timeline leads to. -/
theorem leads_fire {log : List Entry} {left rest : List (Event Moment)}
    (leads : Leads tl.cancelled instant tl.world tl.events log left)
    (ahead : ∀ e ∈ tl.events, tl.now ≤ e.due)
    (earliest : takeEarliest? tl.events = some (e, rest)) (due : e.due ≤ instant) :
    let fired := tl.fire program e rest
    Leads tl.cancelled instant fired.world fired.events log left ∧
      fired.cancelled = tl.cancelled ∧ ∀ f ∈ fired.events, fired.now ≤ f.due := by
  have perm := perm_of_takeEarliest earliest
  have inside {f : Event Moment} (other : f ∈ rest) : f ∈ tl.events :=
    perm.mem_iff.mpr (List.mem_cons_of_mem _ other)
  have now : max tl.now e.due = e.due :=
    Nat.max_eq_right (ahead e (perm.mem_iff.mpr List.mem_cons_self))
  let begun : Timeline (List Entry) Moment :=
    { tl with now := e.due, events := rest, world := (e.task.run e.due tl.world).1 }
  have fired : tl.fire program e rest = begun.setAll (e.task.run e.due tl.world).2 := by
    simp only [Timeline.fire, now]
    rfl
  obtain ⟨entry, logged, logsOf, leavesOf⟩ := run_leads begun e due tl.world rfl
  have before := leads.perm (.refl tl.world) perm.symm
  rw [fired]
  refine ⟨⟨?log, ?left⟩, rfl, ?ahead⟩
  case log =>
    -- the entry of the event is logged, and what it leads to otherwise its events lead to
    refine List.Perm.trans ?_ before.log
    rw [List.flatMap_cons, logsOf]
    simp only [Timeline.setAll, begun, logged, List.flatMap_append, List.append_assoc,
      List.cons_append, List.nil_append]
    exact ((List.perm_append_comm).cons entry).append_left tl.world
  case left =>
    refine List.Perm.trans ?_ before.events
    rw [List.flatMap_cons, leavesOf, Timeline.setAll, List.flatMap_append]
    exact List.perm_append_comm
  case ahead =>
    intro f member
    rcases List.mem_append.mp member with other | new
    · exact due_le_of_takeEarliest earliest f (inside other)
    · exact due_le_of_mem_run _ (List.mem_filter.mp new).1

/-- Up to an instant a timeline logs what its events lead to by then, and what they leave is
ahead. -/
theorem jobs_runUntil (tl : Timeline (List Entry) Moment) {log : List Entry}
    {left : List (Event Moment)} (ahead : ∀ e ∈ tl.events, tl.now ≤ e.due)
    (leads : Leads tl.cancelled instant tl.world tl.events log left) :
    let last := tl.runUntil program instant
    last.cancelled = tl.cancelled ∧ last.world.Perm log ∧ last.events.Perm left := by
  obtain ⟨last, ⟨same, leads, -⟩, ended, later⟩ := Timeline.of_runUntil program instant
    (P := fun _ last => last.cancelled = tl.cancelled ∧
      Leads tl.cancelled instant last.world last.events log left ∧
      ∀ e ∈ last.events, last.now ≤ e.due)
    tl ⟨rfl, leads, ahead⟩
    (by
      intro _ last e rest ⟨same, leads, ahead⟩ earliest due
      rw [← same] at leads ⊢
      obtain ⟨leads, cancelled, ahead⟩ := leads_fire leads ahead earliest due
      exact ⟨cancelled, leads, ahead⟩)
  rw [ended]
  exact ⟨same, leads.of_later later⟩

/-- Timers that are set add what they log and leave ahead at once. -/
theorem jobs_settle_setAll (later : ∀ e ∈ tl.events, tl.now < e.due) (kept : Bool)
    (ts : List (Delayed Job)) :
    let last := (tl.setAll (ts.map (Moment.ofTimer tl.now kept))).settle program
    last.cancelled = tl.cancelled ∧
      last.world.Perm (tl.world ++ ts.flatMap (entriesOf (lost tl.cancelled kept) tl.now tl.now)) ∧
      last.events.Perm
        (tl.events ++ ts.flatMap (aheadOf (lost tl.cancelled kept) kept tl.now tl.now)) := by
  obtain ⟨logged, left⟩ := setAll_leads tl.now tl kept ts
  obtain ⟨none, all⟩ := nothing_of_later tl.cancelled later
  refine jobs_runUntil (tl.setAll (ts.map (Moment.ofTimer tl.now kept))) ?_ ⟨?_, ?_⟩
  · intro e member
    rcases List.mem_append.mp member with earlier | new
    · exact (later e earlier).le
    · obtain ⟨t, -, rfl⟩ := List.mem_map.mp (List.mem_filter.mp new).1
      exact Nat.le_add_right _ _
  · simp only [Timeline.setAll, List.flatMap_append, none, logged, List.nil_append]
    exact .refl _
  · simp only [Timeline.setAll, List.flatMap_append, all, left]
    exact .refl _

/-! ## From one instant to a later one -/

variable {drops : Delayed Job → Nat → Bool}

/-- A condition under which the timers set after an instant are dropped as a timeline drops
them that is cancelled by then or is not. -/
def From (now : Nat) (cancelled kept : Bool) (drops : Delayed Job → Nat → Bool) : Prop :=
  ∀ t set, now < set → drops t (set + t.delay) = lost cancelled kept t (set + t.delay)

/-- What a job has logged and has ahead at an instant leads to what it has later on if that
is so of the timers it sets. -/
theorem leads_of_next (future : From now cancelled kept drops) (later : now ≤ instant)
    (job : Job)
    (below : Leads cancelled instant
      (job.next.flatMap (entriesOf drops now (start + job.work)))
      (job.next.flatMap (aheadOf drops kept now (start + job.work)))
      (job.next.flatMap (entriesOf drops instant (start + job.work)))
      (job.next.flatMap (aheadOf drops kept instant (start + job.work)))) :
    Leads cancelled instant (entries drops now start job) (ahead drops kept now start job)
      (entries drops instant start job) (ahead drops kept instant start job) := by
  rw [entries_eq, entries_eq, ahead_eq, ahead_eq]
  by_cases ended : start + job.work ≤ now
  · have reached : start + job.work ≤ instant := ended.trans later
    rw [if_pos ended, if_pos reached, if_pos ended, if_pos reached]
    exact ⟨(below.log.cons _).cons _, below.events⟩
  · -- the timers are still to be set, so the condition is that of the timeline
    have same (t : Delayed Job) (set : Nat) (after : start + job.work ≤ set) :=
      future t set (by omega)
    have logged := funext (entriesOf_congr instant same)
    have left := funext (aheadOf_congr kept instant same)
    rw [if_neg ended, if_neg ended, logged, left]
    by_cases reached : start + job.work ≤ instant
    · rw [if_pos reached, if_pos reached]
      constructor
      · rw [List.flatMap_singleton, logs, if_pos reached]
        exact .refl _
      · rw [List.flatMap_singleton, leaves, if_pos reached]
    · rw [if_neg reached, if_neg reached]
      constructor
      · rw [List.flatMap_singleton, logs, if_neg reached]
        exact .refl _
      · rw [List.flatMap_singleton, leaves, if_neg reached]

/-- What a timer has logged and has ahead at an instant leads to what it has later on if that
is so of its job. -/
theorem leads_of_task (future : From now cancelled kept drops) (later : now ≤ instant)
    (t : Delayed Job)
    (task : Leads cancelled instant (entries drops now (set + t.delay) t.task)
      (ahead drops kept now (set + t.delay) t.task)
      (entries drops instant (set + t.delay) t.task)
      (ahead drops kept instant (set + t.delay) t.task)) :
    Leads cancelled instant (entriesOf drops now set t) (aheadOf drops kept now set t)
      (entriesOf drops instant set t) (aheadOf drops kept instant set t) := by
  rw [entriesOf_eq, entriesOf_eq, aheadOf_eq, aheadOf_eq]
  cases dropped : drops t (set + t.delay) with
  | true => simpa [begun, dropped] using ⟨.refl _, .refl _⟩
  | false =>
    by_cases started : set + t.delay ≤ now
    · have reached : set + t.delay ≤ instant := started.trans later
      simpa [begun, dropped, started, reached] using task
    · -- the timer itself is ahead, and those below it are still to be set
      have same (t' : Delayed Job) (later : Nat) (after : set + t.delay ≤ later) :=
        future t' later (by omega)
      have logged := entries_congr instant same t.task
      have left := ahead_congr kept instant same t.task
      by_cases reached : set + t.delay ≤ instant
      · constructor
        · simp [begun, dropped, started, reached, logs_ofTimer, logged]
        · simp [started, reached, leaves_ofTimer, left]
      · constructor
        · simp [begun, started, reached, logs_ofTimer]
        · simp [started, reached, leaves_ofTimer]

mutual

theorem leads_job (future : From now cancelled kept drops) (later : now ≤ instant)
    (start : Nat) (job : Job) :
    Leads cancelled instant (entries drops now start job) (ahead drops kept now start job)
      (entries drops instant start job) (ahead drops kept instant start job) := by
  match job with
  | mk name work slips next =>
    exact leads_of_next future later _ (leads_timers future later (start + work) next)

theorem leads_timers (future : From now cancelled kept drops) (later : now ≤ instant)
    (set : Nat) (ts : List (Delayed Job)) :
    Leads cancelled instant (ts.flatMap (entriesOf drops now set))
      (ts.flatMap (aheadOf drops kept now set)) (ts.flatMap (entriesOf drops instant set))
      (ts.flatMap (aheadOf drops kept instant set)) := by
  match ts with
  | [] => exact ⟨.refl _, .refl _⟩
  | t :: rest => exact (leads_timer future later set t).append (leads_timers future later set rest)

/-- What a timer and those below it have logged and have ahead at an instant leads to what
they have logged and have ahead later on. -/
theorem leads_timer (future : From now cancelled kept drops) (later : now ≤ instant)
    (set : Nat) (t : Delayed Job) :
    Leads cancelled instant (entriesOf drops now set t) (aheadOf drops kept now set t)
      (entriesOf drops instant set t) (aheadOf drops kept instant set t) := by
  match t with
  | ⟨delay, job⟩ =>
    exact leads_of_task future later ⟨delay, job⟩ (leads_job future later (set + delay) job)

end

end IngestWatch.Timer.Job
