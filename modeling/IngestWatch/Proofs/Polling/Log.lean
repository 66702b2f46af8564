import IngestWatch.Polling.ByHand
import Mathlib.Tactic

/-!
Runs of a refresher whose further cycles are fired by hand, and their logs: what
the owner told it, which cycles began and what was delivered to each. The log is
read off the states a run goes through and decides nothing in them. `Leads` says
once what a single move can do; what holds of every run follows from it by
`ByHand.of_run`.
-/

namespace IngestWatch.Polling

/-- The end of a cycle: the result it was given, whether polling was on at that
moment, what the cycle reported and the delay of the cycle it asked for. -/
structure Delivery where
  result : Fetched
  polling : Bool
  outcome : Outcome
  next : Option Nat

/-- What a log is made of. A cycle begins because its fetch was awaited directly, or
because a waiting cycle of some delay was fired. -/
inductive Happening where
  | told (command : Command)
  | begun (waited : Option Nat)
  | requested (target : String)
  | delivered (delivery : Delivery)
  | observed

/-! ## Reading a log -/

def commands (log : List Happening) : List Command :=
  log.filterMap fun | .told command => some command | _ => none

/-- The number of fetches that were awaited directly. -/
def awaits (log : List Happening) : Nat :=
  log.countP fun | .begun none => true | _ => false

/-- The delays of the cycles that were fired. -/
def firings (log : List Happening) : List Nat :=
  log.filterMap fun | .begun waited => waited | _ => none

def targets (log : List Happening) : List String :=
  log.filterMap fun | .requested target => some target | _ => none

/-- The ends of all cycles, direct or fired. -/
def deliveries (log : List Happening) : List Delivery :=
  log.filterMap fun | .delivered delivery => some delivery | _ => none

/-- The delays of all cycles that were ever asked for. -/
def delays (log : List Happening) : List Nat :=
  (deliveries log).filterMap (·.next)

section
variable (first second : List Happening)

@[simp] theorem commands_append :
    commands (first ++ second) = commands first ++ commands second :=
  List.filterMap_append

@[simp] theorem awaits_append : awaits (first ++ second) = awaits first + awaits second :=
  List.countP_append

@[simp] theorem firings_append : firings (first ++ second) = firings first ++ firings second :=
  List.filterMap_append

@[simp] theorem targets_append : targets (first ++ second) = targets first ++ targets second :=
  List.filterMap_append

@[simp] theorem deliveries_append :
    deliveries (first ++ second) = deliveries first ++ deliveries second :=
  List.filterMap_append

@[simp] theorem delays_append : delays (first ++ second) = delays first ++ delays second := by
  simp [delays]

end

namespace Refresher

/-- The refresher at the moment its next result is delivered. What the owner says
while the request is under way has reached it by then. -/
def atDelivery (r : Refresher) : Refresher :=
  r.request.1.during.foldl obey r.request.2

def delivery (r : Refresher) : Delivery :=
  let delivered := r.atDelivery.deliver r.request.1.result
  ⟨r.request.1.result, r.atDelivery.polling, delivered.2.1, delivered.2.2⟩

/-- What a cycle writes into the log. -/
def cycleLog (r : Refresher) (waited : Option Nat) : List Happening :=
  .begun waited :: .requested r.target ::
    (r.request.1.during.map .told ++ [.delivered r.delivery])

section
variable (r : Refresher) (waited : Option Nat)

@[simp] theorem commands_cycleLog : commands (r.cycleLog waited) = r.request.1.during := by
  simp [cycleLog, commands, List.filterMap_map]

@[simp] theorem awaits_cycleLog :
    awaits (r.cycleLog waited) = if waited.isNone then 1 else 0 := by
  cases waited <;> simp [cycleLog, awaits, List.countP_map, Function.comp_def]

@[simp] theorem firings_cycleLog : firings (r.cycleLog waited) = waited.toList := by
  cases waited <;> simp [cycleLog, firings, List.filterMap_map]

@[simp] theorem targets_cycleLog : targets (r.cycleLog waited) = [r.target] := by
  simp [cycleLog, targets, List.filterMap_map]

@[simp] theorem deliveries_cycleLog : deliveries (r.cycleLog waited) = [r.delivery] := by
  simp [cycleLog, deliveries, List.filterMap_map]

@[simp] theorem delays_cycleLog :
    delays (r.cycleLog waited) = r.delivery.next.toList := by
  cases next : r.delivery.next <;> simp [delays, next]

end

theorem cycle_outcome (r : Refresher) : r.cycle.2.1 = r.delivery.outcome := rfl

theorem cycle_next (r : Refresher) : r.cycle.2.2 = r.delivery.next := rfl

theorem cycle_polling (r : Refresher) : r.cycle.1.polling = r.atDelivery.polling := by
  change (r.atDelivery.deliver r.request.1.result).1.polling = _
  cases r.request.1.result <;> rfl

theorem cycle_interval (r : Refresher) : r.cycle.1.interval = r.atDelivery.interval := by
  change (r.atDelivery.deliver r.request.1.result).1.interval = _
  cases r.request.1.result <;> rfl

/-- A request only takes an answer off the script. -/
theorem request_polling (r : Refresher) : r.request.2.polling = r.polling := by
  unfold request
  split <;> rfl

theorem request_interval (r : Refresher) : r.request.2.interval = r.interval := by
  unfold request
  split <;> rfl

/-- The whole decision about a further cycle: one is asked for after a success with
polling on, and its delay is the interval of that moment. -/
theorem delivery_next (r : Refresher) :
    r.delivery.next =
      if r.delivery.result.isOk && r.delivery.polling then some r.atDelivery.interval
      else none := by
  simp only [delivery, deliver]
  cases r.request.1.result with
  | ok body => simp [Except.isOk, Except.toBool]
  | error reason => simp [Except.isOk, Except.toBool]

/-- A cycle reports that it asked for a further one exactly if it did. -/
theorem delivery_outcome_iff (r : Refresher) :
    r.delivery.outcome = .refreshed true ↔ r.delivery.next.isSome := by
  simp only [delivery, deliver]
  cases r.request.1.result with
  | ok body => cases r.atDelivery.polling <;> simp
  | error reason => simp

end Refresher

/-- A move in a run: a step of the owner, or the oldest waiting cycle is fired. -/
inductive Move where
  | take (step : Step)
  | fire
deriving DecidableEq, Repr

namespace ByHand

def act (s : ByHand) : Move → ByHand
  | .take step => (s.step step).1
  | .fire => s.runNext.1

def run (s : ByHand) (moves : List Move) : ByHand :=
  moves.foldl act s

/-- What a move writes into the log of a run that has come to the state `s`. -/
def happenings (s : ByHand) : Move → List Happening
  | .take (.tell command) => [.told command]
  | .take .fetch => s.refresher.cycleLog none
  | .take .await => if s.prepared = 0 then [] else s.refresher.cycleLog none
  | .take .prepare | .take .discard => []
  | .take .subscribe | .take .look => [.observed]
  | .fire =>
    match s.queue.waiting with
    | [] => []
    | t :: _ => s.refresher.cycleLog (some t.delay)

def log (s : ByHand) : List Move → List Happening
  | [] => []
  | move :: rest => s.happenings move ++ (s.act move).log rest

theorem run_append (s : ByHand) (first second : List Move) :
    s.run (first ++ second) = (s.run first).run second :=
  List.foldl_append

/-! ## A cycle run by hand -/

@[simp] theorem runCycle_refresher (s : ByHand) :
    s.runCycle.1.refresher = s.refresher.cycle.1 := rfl

@[simp] theorem runCycle_requests (s : ByHand) :
    s.runCycle.1.requests = s.requests + 1 := rfl

/-- The cycle that is asked for waits behind all others. -/
theorem runCycle_pending (s : ByHand) :
    s.runCycle.1.queue.pending = s.queue.pending ++ s.refresher.delivery.next.toList := by
  simp only [runCycle, ← Refresher.cycle_next]
  cases s.refresher.cycle.2.2 with
  | none => simp
  | some delay => simp [Timer.Queue.schedule, Timer.Queue.pending]

theorem runCycle_count (s : ByHand) :
    s.runCycle.1.queue.count = s.queue.count + s.refresher.delivery.next.toList.length := by
  have pending := congrArg List.length s.runCycle_pending
  simpa [Timer.Queue.pending, Timer.Queue.count] using pending

/-! ## What one move can do -/

/-- The state after a move and what the move writes into the log. An idle move at
most prepares or discards a fetch. -/
inductive Leads (s : ByHand) : List Happening → ByHand → Prop where
  | idle (prepared : Nat) : Leads s [] { s with prepared := prepared }
  | told (command : Command) :
      Leads s [.told command] { s with refresher := s.refresher.obey command }
  | observed : Leads s [.observed] { s with refresher := s.refresher.subscribe }
  | awaited (prepared : Nat) :
      Leads s (s.refresher.cycleLog none) ({ s with prepared := prepared }).runCycle.1
  | fired (t : Timer.Delayed Unit) (rest : List (Timer.Delayed Unit))
      (oldest : s.queue.waiting = t :: rest) :
      Leads s (s.refresher.cycleLog (some t.delay)) ({ s with queue := ⟨rest⟩ }).runCycle.1

theorem leads_act (s : ByHand) (move : Move) : s.Leads (s.happenings move) (s.act move) := by
  match move with
  | .take (.tell command) => exact .told command
  | .take .fetch => exact .awaited s.prepared
  | .take .prepare => exact .idle (s.prepared + 1)
  | .take .discard => exact .idle (s.prepared - 1)
  | .take .subscribe => exact .observed
  | .take .look => exact .observed
  | .take .await =>
    by_cases none : s.prepared = 0
    · simp only [happenings, act, step, none, if_true]
      exact .idle s.prepared
    · simp only [happenings, act, step, none, if_false]
      exact .awaited (s.prepared - 1)
  | .fire =>
    cases oldest : s.queue.waiting with
    | nil =>
      simp only [happenings, act, runNext, Timer.Queue.next?, oldest]
      exact .idle s.prepared
    | cons t rest =>
      simp only [happenings, act, runNext, Timer.Queue.next?, oldest]
      exact .fired t rest oldest

/-- What holds of the empty log and is kept by every move holds of the log and the
state of every run. -/
theorem of_run {P : List Happening → ByHand → Prop} (s : ByHand) (begun : P [] s)
    (kept : ∀ log s more s', P log s → s.Leads more s' → P (log ++ more) s')
    (moves : List Move) : P (s.log moves) (s.run moves) := by
  -- the log so far is carried along, since `P` speaks of all of it
  have general : ∀ log s, P log s → P (log ++ s.log moves) (s.run moves) := by
    induction moves with
    | nil =>
      intro log s h
      simpa [ByHand.log, run] using h
    | cons move rest ih =>
      intro log s h
      have next := ih _ _ (kept _ _ _ _ h (s.leads_act move))
      rwa [List.append_assoc] at next
  simpa using general [] s begun

/-- One move keeps the order of the queue: what was fired, followed by what waits, is
what waited at first, followed by what was asked for. -/
theorem in_order_of_leads {first : List Nat} {log more : List Happening} {s s' : ByHand}
    (inOrder : firings log ++ s.queue.pending = first ++ delays log) (h : s.Leads more s') :
    firings (log ++ more) ++ s'.queue.pending = first ++ delays (log ++ more) := by
  cases h with
  | idle => simpa using inOrder
  | told command => simpa [firings, delays, deliveries] using inOrder
  | observed => simpa [firings, delays, deliveries] using inOrder
  | awaited prepared =>
    simp only [firings_append, delays_append, Refresher.firings_cycleLog,
      Refresher.delays_cycleLog, runCycle_pending, ← List.append_assoc, ← inOrder]
    simp
  | fired t rest oldest =>
    have waiting : s.queue.pending = t.delay :: (Timer.Queue.mk rest).pending := by
      simp [Timer.Queue.pending, oldest]
    simp only [firings_append, delays_append, Refresher.firings_cycleLog,
      Refresher.delays_cycleLog, runCycle_pending, ← List.append_assoc, ← inOrder, waiting]
    simp

/-- From any state on, cycles are fired in the order in which they came to wait. -/
theorem firings_append_pending_of (s : ByHand) (moves : List Move) :
    firings (s.log moves) ++ (s.run moves).queue.pending =
      s.queue.pending ++ delays (s.log moves) :=
  of_run (P := fun log s' => firings log ++ s'.queue.pending = s.queue.pending ++ delays log) s
    (List.append_nil _).symm (fun _ _ _ _ inOrder h => in_order_of_leads inOrder h) moves

/-- Cycles are fired in the order in which they were asked for, each at most once, and
those not yet fired are the ones that wait. -/
theorem firings_append_pending (r : Refresher) (moves : List Move) :
    firings ((new r).log moves) ++ ((new r).run moves).queue.pending =
      delays ((new r).log moves) :=
  firings_append_pending_of (new r) moves

end ByHand

end IngestWatch.Polling
