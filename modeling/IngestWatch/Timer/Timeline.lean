/-!
Tasks in virtual time. Time moves only when it is told to; every task whose
instant is reached runs at that instant, and what it sets for the same instant
runs before time moves on. Cancelling drops the tasks that can be dropped, those
ahead and those still to be set.

One choice is open. A task that is set after the cancelling, but for the present
instant, finds two things ready at once: it may run, and it is to be dropped. Which
comes first is chosen anew for each task, at random. The event brings the choice along,
and whatever is said of all events is said of all choices.

A program says what a task does. It carries a cost that goes down with every
task, so time always reaches its goal.
-/

namespace IngestWatch.Timer

/-- A task that lies ahead. One that is `kept` is not dropped by cancelling; one that
`slips` runs if it is set for the present instant, cancelled or not. -/
structure Event (τ : Type) where
  due : Nat
  kept : Bool
  slips : Bool
  task : τ
deriving Repr

/-- The cost of all events together. -/
def totalCost {τ : Type} (cost : τ → Nat) : List (Event τ) → Nat
  | [] => 0
  | e :: rest => cost e.task + totalCost cost rest

theorem totalCost_append {τ : Type} (cost : τ → Nat) (first second : List (Event τ)) :
    totalCost cost (first ++ second) = totalCost cost first + totalCost cost second := by
  induction first with
  | nil => simp [totalCost]
  | cons e rest ih =>
    simp only [List.cons_append, totalCost, ih]
    omega

theorem totalCost_filter_le {τ : Type} (cost : τ → Nat) (keep : Event τ → Bool)
    (events : List (Event τ)) :
    totalCost cost (events.filter keep) ≤ totalCost cost events := by
  induction events with
  | nil => exact Nat.le_refl _
  | cons e rest ih =>
    cases h : keep e with
    | false =>
      rw [List.filter_cons_of_neg (by simp [h])]
      exact Nat.le_trans ih (Nat.le_add_left _ _)
    | true =>
      rw [List.filter_cons_of_pos h]
      exact Nat.add_le_add_left ih _

/-- What tasks do to a world: a task run at an instant changes the world and sets
further events. The cost of the world and of the tasks ahead falls with every run. -/
structure Program (σ τ : Type) where
  run : Nat → τ → σ → σ × List (Event τ)
  worldCost : σ → Nat
  taskCost : τ → Nat
  cost_lt : ∀ now task world,
    worldCost (run now task world).1
        + totalCost taskCost (run now task world).2
      < worldCost world + taskCost task

/-- The present instant in milliseconds, the events ahead in the order in which they
were set, and the world. -/
structure Timeline (σ τ : Type) where
  now : Nat
  cancelled : Bool
  events : List (Event τ)
  world : σ
deriving Repr

/-- Takes out the event that is due first; of several, the one set first. -/
def takeEarliest? {τ : Type} : List (Event τ) → Option (Event τ × List (Event τ))
  | [] => none
  | e :: rest =>
    match takeEarliest? rest with
    | none => some (e, [])
    | some (f, others) => if f.due < e.due then some (f, e :: others) else some (e, rest)

theorem totalCost_takeEarliest {τ : Type} (cost : τ → Nat) {events : List (Event τ)} {e : Event τ}
    {rest : List (Event τ)} (h : takeEarliest? events = some (e, rest)) :
    totalCost cost events = cost e.task + totalCost cost rest := by
  induction events generalizing e rest with
  | nil => simp [takeEarliest?] at h
  | cons x xs ih =>
    unfold takeEarliest? at h
    split at h
    · next hx =>
      cases xs with
      | nil =>
        obtain ⟨rfl, rfl⟩ : x = e ∧ [] = rest := by simpa using h
        rfl
      | cons y ys =>
        unfold takeEarliest? at hx
        split at hx
        · simp at hx
        · split at hx <;> simp at hx
    · next f others hf =>
      split at h
      · obtain ⟨rfl, rfl⟩ : f = e ∧ x :: others = rest := by simpa using h
        have := ih hf
        simp only [totalCost]
        omega
      · obtain ⟨rfl, rfl⟩ : x = e ∧ xs = rest := by simpa using h
        rfl

namespace Timeline

variable {σ τ : Type}

/-- Whether an event that is set now is not dropped at once. -/
def accepts (tl : Timeline σ τ) (e : Event τ) : Bool :=
  e.kept || !tl.cancelled || (e.slips && e.due ≤ tl.now)

/-- Sets events, leaving out those that cancelling drops. -/
def setAll (tl : Timeline σ τ) (events : List (Event τ)) : Timeline σ τ :=
  { tl with events := tl.events ++ events.filter tl.accepts }

theorem totalCost_setAll_le (cost : τ → Nat) (tl : Timeline σ τ) (events : List (Event τ)) :
    totalCost cost (tl.setAll events).events ≤ totalCost cost tl.events + totalCost cost events := by
  rw [setAll, totalCost_append]
  exact Nat.add_le_add_left (totalCost_filter_le cost _ _) _

/-- Drops every event ahead that is not kept; those still to be set are dropped then. -/
def cancel (tl : Timeline σ τ) : Timeline σ τ :=
  { tl with cancelled := true, events := tl.events.filter (·.kept) }

/-- Runs one event at its instant, which is not before the present one. -/
def fire (p : Program σ τ) (tl : Timeline σ τ) (e : Event τ) (rest : List (Event τ)) :
    Timeline σ τ :=
  let now := max tl.now e.due
  let ran := p.run now e.task tl.world
  { tl with now := now, events := rest, world := ran.1 }.setAll ran.2

/-- What is left to do: the cost of the world and of all events ahead. -/
def cost (p : Program σ τ) (tl : Timeline σ τ) : Nat :=
  p.worldCost tl.world + totalCost p.taskCost tl.events

theorem cost_fire_lt (p : Program σ τ) (tl : Timeline σ τ) {e : Event τ} {rest : List (Event τ)}
    (h : takeEarliest? tl.events = some (e, rest)) :
    (tl.fire p e rest).cost p < tl.cost p := by
  have hsum := totalCost_takeEarliest p.taskCost h
  have hrun := p.cost_lt (max tl.now e.due) e.task tl.world
  have hset := totalCost_setAll_le p.taskCost
    { tl with
      now := max tl.now e.due
      events := rest
      world := (p.run (max tl.now e.due) e.task tl.world).1 }
    (p.run (max tl.now e.due) e.task tl.world).2
  simp only [setAll, totalCost_append] at hset
  simp only [cost, fire, setAll, totalCost_append]
  omega

/-- Runs every event due up to an instant, in the order of their instants, and stops there. -/
def runUntil (p : Program σ τ) (instant : Nat) (tl : Timeline σ τ) : Timeline σ τ :=
  match _h : takeEarliest? tl.events with
  | none => { tl with now := max tl.now instant }
  | some (e, rest) =>
    if e.due ≤ instant then runUntil p instant (tl.fire p e rest)
    else { tl with now := max tl.now instant }
termination_by tl.cost p
decreasing_by exact cost_fire_lt p tl _h

/-- Lets time go forward by a span. -/
def advance (p : Program σ τ) (span : Nat) (tl : Timeline σ τ) : Timeline σ τ :=
  tl.runUntil p (tl.now + span)

/-- Runs everything that is due at the present instant. -/
def settle (p : Program σ τ) (tl : Timeline σ τ) : Timeline σ τ :=
  tl.runUntil p tl.now

end Timeline

end IngestWatch.Timer
