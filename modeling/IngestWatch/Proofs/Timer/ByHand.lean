import IngestWatch.Timer.Job
import Mathlib.Tactic

/-!
Timers fired by hand, first in, first out. A job that is fired sets its timers behind
those that wait, so the queue grows while it is emptied. Even so the timers fired are the
front part of those set, and firing until nothing waits fires every timer of a forest
once, one level after the other.
-/

namespace IngestWatch.Timer.Job

/-- A timer is set from outside, or the oldest waiting one is fired. -/
inductive Turn where
  | set (t : Delayed Job)
  | fire

/-- A queue fired by hand and what has become of it: the timers set, by whomever, and those
fired, what every firing gave back, and what was logged, all in order. -/
structure Ledger where
  queue : Queue Job
  set : List (Delayed Job)
  fired : List (Delayed Job)
  replies : List (Option Nat)
  log : List Mark

namespace Ledger

def empty : Ledger :=
  ⟨.empty, [], [], [], []⟩

def act (l : Ledger) : Turn → Ledger
  | .set t => { l with queue := l.queue.schedule t, set := l.set ++ [t] }
  | .fire =>
    match runNext? l.queue with
    | none => { l with replies := l.replies ++ [none] }
    | some (delay, marks, queue) =>
      let oldest := l.queue.waiting.head?.toList
      ⟨queue, l.set ++ oldest.flatMap (·.task.next), l.fired ++ oldest,
        l.replies ++ [some delay], l.log ++ marks⟩

def run (l : Ledger) (turns : List Turn) : Ledger :=
  turns.foldl act l

theorem run_append (l : Ledger) (first second : List Turn) :
    l.run (first ++ second) = (l.run first).run second :=
  List.foldl_append

end Ledger

/-- What a job logs when it is fired: nothing comes between its start and its end. -/
def marksOfFiring (t : Delayed Job) : List Mark :=
  [.started t.task.name, .ended t.task.name]

namespace Ledger

variable {l : Ledger}

theorem act_fire_of_nil (idle : l.queue.waiting = []) :
    l.act .fire = { l with replies := l.replies ++ [none] } := by
  simp [act, runNext?, Queue.next?, idle]

theorem act_fire_of_cons {t : Delayed Job} {rest : List (Delayed Job)}
    (oldest : l.queue.waiting = t :: rest) :
    l.act .fire = ⟨⟨rest ++ t.task.next⟩, l.set ++ t.task.next, l.fired ++ [t],
      l.replies ++ [some t.delay], l.log ++ marksOfFiring t⟩ := by
  simp [act, runNext?, Queue.next?, oldest, Queue.scheduleAll, marksOfFiring]

/-- A firing fires the oldest timer that waits, if any does, and gives its delay. -/
theorem act_fire (l : Ledger) :
    (l.act .fire).fired = l.fired ++ l.queue.waiting.head?.toList ∧
      (l.act .fire).replies = l.replies ++ [l.queue.waiting.head?.map (·.delay)] := by
  cases oldest : l.queue.waiting with
  | nil => simp [act_fire_of_nil oldest]
  | cons t rest => simp [act_fire_of_cons oldest]

theorem runNext?_eq_none_iff (q : Queue Job) : runNext? q = none ↔ q.waiting = [] := by
  cases waiting : q.waiting with
  | nil => simp [runNext?, Queue.next?, waiting]
  | cons t rest => simp [runNext?, Queue.next?, waiting]

/-- Those fired and those waiting are together those set, in that order, and each job
fired has logged its start and its end. -/
structure InOrder (l : Ledger) : Prop where
  set : l.fired ++ l.queue.waiting = l.set
  log : l.log = l.fired.flatMap marksOfFiring

theorem inOrder_act (inOrder : l.InOrder) (turn : Turn) : (l.act turn).InOrder := by
  obtain ⟨set, log⟩ := inOrder
  cases turn with
  | set t =>
    refine ⟨?_, log⟩
    simp [act, Queue.schedule, ← set]
  | fire =>
    cases oldest : l.queue.waiting with
    | nil =>
      rw [act_fire_of_nil oldest]
      exact ⟨set, log⟩
    | cons t rest =>
      rw [act_fire_of_cons oldest]
      constructor
      · simp [← set, oldest]
      · simp [log]

theorem inOrder_run (turns : List Turn) : (empty.run turns).InOrder := by
  induction turns using List.reverseRecOn with
  | nil => exact ⟨rfl, rfl⟩
  | append_singleton before turn ih =>
    rw [run_append]
    exact inOrder_act ih turn

/-- What waits is what was set and is not yet fired. -/
theorem InOrder.waiting (inOrder : l.InOrder) :
    l.queue.waiting = l.set.drop l.fired.length := by
  rw [← inOrder.set, List.drop_left]

end Ledger

/-! ## Forests of timers -/

theorem sizeTimer_eq (t : Delayed Job) : sizeTimer t = sizeAll t.task.next + 1 := by
  obtain ⟨delay, job⟩ := t
  rw [sizeTimer, size_eq]

theorem sizeAll_append (first second : List (Delayed Job)) :
    sizeAll (first ++ second) = sizeAll first + sizeAll second := by
  induction first with
  | nil => simp [sizeAll]
  | cons t rest ih =>
    rw [List.cons_append, sizeAll, sizeAll, ih]
    omega

/-- One level of a forest and all that is below it make up the forest. -/
theorem sizeAll_level (ts : List (Delayed Job)) :
    sizeAll ts = ts.length + sizeAll (ts.flatMap (·.task.next)) := by
  induction ts with
  | nil => rfl
  | cons t rest ih =>
    rw [sizeAll, sizeTimer_eq, ih, List.flatMap_cons, sizeAll_append, List.length_cons]
    omega

/-- The timers of a forest, level by level, each level from left to right. -/
def levels : List (Delayed Job) → List (Delayed Job)
  | [] => []
  | t :: rest => t :: rest ++ levels ((t :: rest).flatMap (·.task.next))
termination_by ts => sizeAll ts
decreasing_by
  rw [sizeAll_level (t :: rest), List.length_cons]
  omega

theorem levels_eq (ts : List (Delayed Job)) :
    levels ts = ts ++ levels (ts.flatMap (·.task.next)) := by
  cases ts with
  | nil => simp [levels]
  | cons t rest => rw [levels]

/-- A level may be left in the middle, as long as the timers below those left behind come
after the others of the level. -/
theorem levels_append (front back : List (Delayed Job)) :
    levels (front ++ back) = front ++ levels (back ++ front.flatMap (·.task.next)) := by
  by_cases none : front ++ back = []
  · obtain ⟨rfl, rfl⟩ := List.append_eq_nil_iff.mp none
    rfl
  · have below := levels_append (front.flatMap (·.task.next)) (back.flatMap (·.task.next))
    rw [levels_eq, List.flatMap_append, below, levels_eq (back ++ _), List.flatMap_append]
    simp only [List.append_assoc]
termination_by sizeAll (front ++ back)
decreasing_by
  rw [← List.flatMap_append, sizeAll_level (front ++ back)]
  have := List.length_pos_of_ne_nil none
  omega

theorem levels_cons (t : Delayed Job) (rest : List (Delayed Job)) :
    levels (t :: rest) = t :: levels (rest ++ t.task.next) := by
  have one := levels_append [t] rest
  rwa [List.flatMap_singleton] at one

mutual

/-- All timers of a forest, each followed by those below it. -/
def timersAll : List (Delayed Job) → List (Delayed Job)
  | [] => []
  | t :: rest => timersOf t ++ timersAll rest

def timersOf : Delayed Job → List (Delayed Job)
  | ⟨delay, job⟩ => ⟨delay, job⟩ :: timersBelow job

def timersBelow : Job → List (Delayed Job)
  | mk _ _ _ next => timersAll next

end

theorem timersOf_eq (t : Delayed Job) : timersOf t = t :: timersAll t.task.next := by
  obtain ⟨delay, name, work, slips, next⟩ := t
  rw [timersOf, timersBelow]
  rfl

theorem timersAll_append (first second : List (Delayed Job)) :
    timersAll (first ++ second) = timersAll first ++ timersAll second := by
  induction first with
  | nil => simp [timersAll]
  | cons t rest ih => rw [List.cons_append, timersAll, timersAll, ih, List.append_assoc]

theorem timersAll_perm_level (ts : List (Delayed Job)) :
    (timersAll ts).Perm (ts ++ timersAll (ts.flatMap (·.task.next))) := by
  induction ts with
  | nil => simp [timersAll]
  | cons t rest ih =>
    rw [timersAll, timersOf_eq, List.flatMap_cons, timersAll_append, List.cons_append,
      List.cons_append]
    refine List.Perm.cons t ?_
    -- the timers below `t` change places with the others of its level
    have others := ih.append_left (timersAll t.task.next)
    refine others.trans ?_
    rw [← List.append_assoc, ← List.append_assoc]
    exact List.perm_append_comm.append_right _

/-- Level by level every timer comes once. -/
theorem levels_perm (ts : List (Delayed Job)) : (levels ts).Perm (timersAll ts) := by
  fun_induction levels ts with
  | case1 => simp [timersAll]
  | case2 t rest ih => exact (ih.append_left _).trans (timersAll_perm_level _).symm

theorem length_levels (ts : List (Delayed Job)) : (levels ts).length = sizeAll ts := by
  fun_induction levels ts with
  | case1 => rfl
  | case2 t rest ih => rw [List.length_append, ih, ← sizeAll_level]

/-! ## Firing until nothing waits -/

namespace Ledger

/-- So many firings fire the timers of the levels in order; when there are no more, a firing
gives nothing. -/
theorem run_replicate_fire (l : Ledger) (calls : Nat) :
    (l.run (List.replicate calls .fire)).fired =
        l.fired ++ (levels l.queue.waiting).take calls ∧
      (l.run (List.replicate calls .fire)).replies =
        l.replies ++ (List.range calls).map fun i =>
          (levels l.queue.waiting)[i]?.map (·.delay) := by
  induction calls generalizing l with
  | zero => simp [run]
  | succ calls ih =>
    have first : l.run (List.replicate (calls + 1) .fire) =
        (l.act .fire).run (List.replicate calls .fire) := rfl
    obtain ⟨fired, replies⟩ := ih (l.act .fire)
    rw [first, fired, replies, List.range_succ_eq_map]
    cases oldest : l.queue.waiting with
    | nil => simp [act_fire_of_nil oldest, oldest, levels, Function.comp_def]
    | cons t rest => simp [act_fire_of_cons oldest, levels_cons, Function.comp_def]

theorem run_map_set (l : Ledger) (ts : List (Delayed Job)) :
    l.run (ts.map .set) =
      { l with queue := l.queue.scheduleAll ts, set := l.set ++ ts } := by
  induction ts generalizing l with
  | nil => simp [run, Queue.scheduleAll]
  | cons t rest ih =>
    have first : l.run ((t :: rest).map .set) = (l.act (.set t)).run (rest.map .set) := rfl
    rw [first, ih]
    simp [act, Queue.schedule, Queue.scheduleAll]

end Ledger

/-- Whatever is set and fired, and however the jobs set further timers: those fired are the
front part of those set, the others wait with their delays, each firing fires the first of
them and gives its delay, or nothing and changes nothing exactly if none waits, and no job
comes between the start and the end of another. So a forest that is set up front is fired
level by level, each timer once, and in as many firings as there are timers. -/
theorem first_in_first_out :
    (∀ turns : List Turn,
      let l := Ledger.empty.run turns
      let left := l.set.drop l.fired.length
      l.fired <+: l.set ∧ l.queue.pending = left.map (·.delay) ∧ l.queue.count = left.length ∧
        (l.act .fire).fired = l.fired ++ left.head?.toList ∧
        (l.act .fire).replies = l.replies ++ [left.head?.map (·.delay)] ∧
        (runNext? l.queue = none ∧ l.act .fire = { l with replies := l.replies ++ [none] } ↔
          left = []) ∧
        l.log = l.fired.flatMap marksOfFiring) ∧
    ∀ (forest : List (Delayed Job)) (calls : Nat),
      let l := Ledger.empty.run (forest.map .set ++ List.replicate calls .fire)
      l.fired = (levels forest).take calls ∧
        l.replies = (List.range calls).map (fun i => (levels forest)[i]?.map (·.delay)) ∧
        (levels forest).Perm (timersAll forest) ∧ (levels forest).length = sizeAll forest := by
  constructor
  · intro turns l left
    have inOrder : l.InOrder := Ledger.inOrder_run turns
    have waiting : l.queue.waiting = left := inOrder.waiting
    obtain ⟨fired, replies⟩ := l.act_fire
    rw [waiting] at fired replies
    refine ⟨⟨_, inOrder.set⟩, ?_, ?_, fired, replies, ?_, inOrder.log⟩
    · rw [Queue.pending, waiting]
    · rw [Queue.count, waiting]
    · rw [Ledger.runNext?_eq_none_iff, waiting]
      constructor
      · exact fun idle => idle.1
      · exact fun idle => ⟨idle, Ledger.act_fire_of_nil (waiting.trans idle)⟩
  · intro forest calls l
    have drained := Ledger.run_replicate_fire (Ledger.empty.run (forest.map .set)) calls
    rw [← Ledger.run_append, Ledger.run_map_set] at drained
    exact ⟨drained.1, drained.2, levels_perm forest, length_levels forest⟩

/-- What the first timer sets comes behind the second, and the sixth firing gives nothing. -/
example :
    (Ledger.empty.run
      ([.set ⟨10, .mk "a" 0 false [⟨5, .mk "c" 0 false []⟩, ⟨0, .mk "d" 0 false []⟩]⟩,
        .set ⟨20, .mk "b" 0 false [⟨1, .mk "e" 0 false []⟩]⟩] ++ List.replicate 6 .fire)).replies =
      [some 10, some 20, some 5, some 0, some 1, none] := by
  decide

end IngestWatch.Timer.Job
