import IngestWatch.Timer.Queue
import IngestWatch.Timer.Timeline

/-!
Named jobs that set further timers when they are done, run by hand one after
another or in virtual time, where a job may take a while between its start and
its end. Either way the starts and ends are logged.
-/

namespace IngestWatch.Timer

/-- A job takes `work` milliseconds and then sets the timers `next`. With `slips` it runs
even if the timers are cancelled when it is set, provided its own is set without a delay. -/
inductive Job where
  | mk (name : String) (work : Nat) (slips : Bool) (next : List (Delayed Job))

instance : Inhabited Job := ⟨.mk "" 0 false []⟩

namespace Job

def name : Job → String
  | mk name _ _ _ => name

def work : Job → Nat
  | mk _ work _ _ => work

def slips : Job → Bool
  | mk _ _ slips _ => slips

def next : Job → List (Delayed Job)
  | mk _ _ _ next => next

mutual

/-- The number of jobs in a job, itself included. -/
def size : Job → Nat
  | mk _ _ _ next => sizeAll next + 1

def sizeAll : List (Delayed Job) → Nat
  | [] => 0
  | t :: rest => sizeTimer t + sizeAll rest

def sizeTimer : Delayed Job → Nat
  | ⟨_, job⟩ => size job

end

/-- A mark in the log of a run. -/
inductive Mark where
  | started (name : String)
  | ended (name : String)
deriving DecidableEq, Repr

/-- Fires the oldest timer of a queue: gives its delay, what is logged, and the queue
with the timers the job set behind those that were waiting. -/
def runNext? (q : Queue Job) : Option (Nat × List Mark × Queue Job) :=
  q.next?.map fun (t, rest) =>
    (t.delay, [.started t.task.name, .ended t.task.name], rest.scheduleAll t.task.next)

/-! ## Jobs in virtual time -/

/-- The two moments of a job. A job in its second moment is running and cannot be
dropped; `kept` says whether its timers can be. -/
inductive Moment where
  | start (kept : Bool) (job : Job)
  | stop (kept : Bool) (job : Job)

/-- What happened at an instant. -/
structure Entry where
  at_ : Nat
  mark : Mark
deriving DecidableEq, Repr

/-- The event of a timer set at an instant. -/
def Moment.ofTimer (now : Nat) (kept : Bool) (t : Delayed Job) : Event Moment :=
  ⟨now + t.delay, kept, t.task.slips, .start kept t.task⟩

def Moment.run (now : Nat) : Moment → List Entry → List Entry × List (Event Moment)
  | .start kept job, log =>
    (log ++ [⟨now, .started job.name⟩], [⟨now + job.work, true, false, .stop kept job⟩])
  | .stop kept job, log =>
    (log ++ [⟨now, .ended job.name⟩], job.next.map (Moment.ofTimer now kept))

def Moment.cost : Moment → Nat
  | .start _ job => 2 * job.size
  | .stop _ job => 2 * job.size - 1

theorem totalCost_ofTimer (now : Nat) (kept : Bool) (ts : List (Delayed Job)) :
    totalCost Moment.cost (ts.map (Moment.ofTimer now kept)) = 2 * sizeAll ts := by
  induction ts with
  | nil => rfl
  | cons t rest ih =>
    obtain ⟨delay, job⟩ := t
    simp only [List.map_cons, totalCost, sizeAll, sizeTimer, ih, Moment.ofTimer, Moment.cost]
    omega

theorem size_eq (job : Job) : job.size = sizeAll job.next + 1 := by
  cases job; simp [size, next]

/-- Jobs log what they do. -/
def program : Program (List Entry) Moment where
  run := Moment.run
  worldCost _ := 0
  taskCost := Moment.cost
  cost_lt now moment log := by
    cases moment with
    | start kept job =>
      have := size_eq job
      simp only [Moment.run, totalCost, Moment.cost]
      omega
    | stop kept job =>
      have hsize := size_eq job
      have hsum := totalCost_ofTimer now kept job.next
      simp only [Moment.run, hsum]
      simp only [Moment.cost]
      omega

/-- An empty log at instant zero. -/
def timeline : Timeline (List Entry) Moment :=
  ⟨0, false, [], []⟩

end Job

end IngestWatch.Timer
