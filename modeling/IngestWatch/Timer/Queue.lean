/-!
Timers that wait to be fired by hand, in the order in which they were set. The
delay is only kept for the caller to look at.
-/

namespace IngestWatch.Timer

/-- A task and the delay it was set with, in milliseconds. -/
structure Delayed (τ : Type) where
  delay : Nat
  task : τ
deriving Repr, Inhabited

/-- The timers not yet fired, the oldest first. -/
structure Queue (τ : Type) where
  waiting : List (Delayed τ)
deriving Repr

namespace Queue

variable {τ : Type}

def empty : Queue τ := ⟨[]⟩

/-- Adds a timer behind all others. -/
def schedule (q : Queue τ) (t : Delayed τ) : Queue τ :=
  ⟨q.waiting ++ [t]⟩

def scheduleAll (q : Queue τ) (ts : List (Delayed τ)) : Queue τ :=
  ⟨q.waiting ++ ts⟩

/-- Takes the oldest timer out. -/
def next? (q : Queue τ) : Option (Delayed τ × Queue τ) :=
  match q.waiting with
  | [] => none
  | t :: rest => some (t, ⟨rest⟩)

/-- The delays of the timers not yet fired, the oldest first. -/
def pending (q : Queue τ) : List Nat :=
  q.waiting.map (·.delay)

def count (q : Queue τ) : Nat :=
  q.waiting.length

end Queue

end IngestWatch.Timer
