import IngestWatch.Config
import IngestWatch.Invocation
import IngestWatch.Polling
import IngestWatch.Program.Events
import IngestWatch.Program.Remark
import IngestWatch.Report
import IngestWatch.Transport

/-!
Watching the query rate: a request, and after each success another one, until enough
records were printed. The first failure ends it.

Two things are left out here: nobody interrupts the watch, and a record is printed before the
pause begins, so no request is made meanwhile.
-/

namespace IngestWatch

/-- What comes of a request, when, and after how many milliseconds. -/
structure Arrival where
  result : Fetched
  at_ : Calendar.Moment
  took : Nat

/-- How long the query rate is watched. -/
inductive Limit where
  /-- For one request, without polling. -/
  | once
  /-- Until a number of records were printed. -/
  | records (count : Nat)
  | endless
deriving DecidableEq, Repr

def Limit.of (o : RateOptions) : Limit :=
  if o.once then .once
  else
    match o.count with
    | some n => .records n.toNat
    | none => .endless

/-- Is a number of printed records enough? -/
def Limit.isReached (printed : Nat) : Limit → Bool
  | .once => 1 ≤ printed
  | .records count => count ≤ printed
  | .endless => false

/-- The state between two requests. -/
structure Watch where
  transport : Transport
  refresher : Polling.Refresher
  limit : Limit
  json : Bool
  display : Report.Display
  printed : Nat

/-- What follows a result. -/
inductive Sequel where
  | settled (result : Except FetchFailure Unit)
  /-- Another request after some milliseconds. -/
  | again (watch : Watch) (delay : Nat)

namespace Watch

/-- What is asked for. -/
def target (w : Watch) : String :=
  w.refresher.target

def isPolling (w : Watch) : Bool :=
  w.limit ≠ .once

/-- The start of a watch, and what is said about it. -/
def new (c : Config) (o : RateOptions) (display : Report.Display) : Watch × List Remark :=
  let r := Polling.Refresher.new c.service.pathPrefix c.rate.statisticType
    c.rate.intervalMillis.toNat []
  let w : Watch :=
    { transport := .new c.service.baseUrl (c.service.timeoutSeconds.map UInt64.toNat)
      refresher := r
      limit := .of o
      json := o.json
      display := display
      printed := 0 }
  let first := Remark.logged (.watching c.service.baseUrl r.target)
  if w.isPolling then
    ({ w with refresher := r.start (some r.interval) },
      [first, .logged (.pollingEnabled r.interval)])
  else (w, [first])

/-- The report of a record. -/
def report (w : Watch) (at_ : Calendar.Moment) (record : Json) : String :=
  if w.json then Report.rateJson at_ record
  else Report.rateTable w.display at_ record

/-- The last remark of a watch that polled. -/
def parting (w : Watch) : List Remark :=
  if w.isPolling then [.logged .pollingDisabled] else []

/-- What is said about a request. -/
def remarks (w : Watch) (a : Arrival) : List Remark :=
  [.logged (.ofFetch (w.transport.address w.target) a.result),
    .logged (match a.result with
      | .ok _ => .refreshed w.target a.took w.refresher.polling
      | .error reason => .halted w.target reason)]

/-- Takes what came of a request. A watch that is to print nothing does not look at it. -/
def receive (w : Watch) (a : Arrival) : List Remark × Sequel :=
  let said := w.remarks a
  if w.limit.isReached w.printed then (said ++ w.parting, .settled (.ok ()))
  else
    match a.result with
    | .error reason => (said ++ w.parting, .settled (.error reason))
    | .ok body =>
      let (r, _, next) := w.refresher.deliver a.result
      let w := { w with refresher := r, printed := w.printed + 1 }
      let said := said ++ [.line (w.report a.at_ body)]
      match w.limit.isReached w.printed, next with
      | false, some delay => (said, .again w delay)
      | _, _ => (said ++ w.parting, .settled (.ok ()))

/-- Only a success is followed by another request. -/
theorem isOk_of_again {w w' : Watch} {a : Arrival} {delay : Nat}
    (h : (w.receive a).2 = .again w' delay) : ∃ body, a.result = .ok body := by
  unfold receive at h
  split at h
  · simp at h
  · split at h
    · simp at h
    · exact ⟨_, by assumption⟩

end Watch

end IngestWatch
