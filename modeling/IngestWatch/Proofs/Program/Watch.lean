import IngestWatch.Program.Run
import IngestWatch.Proofs.Http.Gets
import Mathlib.Tactic

/-!
Watching the query rate from beginning to end. A watch that is to print something makes one
GET after the other; it prints the record of each success and ends well when it has printed
enough, or with the first failure. Its requests are GETs of one address, so what each of them
comes to is told by the network alone.
-/

namespace IngestWatch

open Http (Network)

-- What a GET does is told by lemmas; unfolding it here only costs time.
attribute [local irreducible] Http.get Http.Exchange.fetched

/-- How many records end a watch. -/
def Limit.quota : Limit → Option Nat
  | .once => some 1
  | .records count => some count
  | .endless => none

theorem Limit.isReached_eq (l : Limit) (printed : Nat) :
    l.isReached printed = l.quota.any (· ≤ printed) := by
  cases l <;> rfl

namespace Watch

/-- The GET that a watch makes again and again. -/
def get (w : Watch) : Http.Conversation Http.Exchange :=
  w.transport.exchange w.target

/-- A watch that has made a request and printed its record. -/
def advanced (w : Watch) (record : Json) : Watch :=
  { w with refresher := (w.refresher.deliver (.ok record)).1, printed := w.printed + 1 }

section
variable (w : Watch) (record : Json)

@[simp] theorem advanced_get : (w.advanced record).get = w.get := rfl

@[simp] theorem advanced_report : (w.advanced record).report = w.report := rfl

@[simp] theorem advanced_limit : (w.advanced record).limit = w.limit := rfl

@[simp] theorem advanced_printed : (w.advanced record).printed = w.printed + 1 := rfl

end

/-- Polling is on in a watch that may need more than one request. -/
def IsReady (w : Watch) : Prop :=
  w.isPolling = true → w.refresher.polling = true

theorem isReady_advanced {w : Watch} (ready : w.IsReady) (record : Json) :
    (w.advanced record).IsReady := ready

/-- The refresher of a watch before its first request. -/
def fresh (c : Config) (o : RateOptions) : Polling.Refresher :=
  let r := Polling.Refresher.new c.service.pathPrefix c.rate.statisticType
    c.rate.intervalMillis.toNat []
  if Limit.of o = .once then r else r.start (some r.interval)

theorem new_fst (c : Config) (o : RateOptions) (display : Report.Display) :
    (new c o display).1 =
      ⟨.new c.service.baseUrl (c.service.timeoutSeconds.map UInt64.toNat), fresh c o, .of o,
        o.json, display, 0⟩ := by
  by_cases once : Limit.of o = .once <;> simp [new, fresh, isPolling, once]

theorem isReady_new (c : Config) (o : RateOptions) (display : Report.Display) :
    (new c o display).1.IsReady := by
  rw [new_fst]
  intro on
  have polls : Limit.of o ≠ .once := of_decide_eq_true on
  simp [fresh, polls, Polling.Refresher.start]

/-! ## What is printed -/

/-- The texts that some remarks print, in their order. -/
def printedBy (said : List Remark) : List String :=
  said.filterMap Remark.text?

@[simp] theorem printedBy_append (first second : List Remark) :
    printedBy (first ++ second) = printedBy first ++ printedBy second :=
  List.filterMap_append

@[simp] theorem printedBy_remarks (w : Watch) (a : Arrival) : printedBy (w.remarks a) = [] := rfl

@[simp] theorem printedBy_parting (w : Watch) : printedBy w.parting = [] := by
  unfold parting
  split <;> rfl

@[simp] theorem printedBy_nil : printedBy [] = [] := rfl

@[simp] theorem printedBy_line (text : String) (said : List Remark) :
    printedBy (.line text :: said) = (text ++ "\n") :: printedBy said := rfl

/-! ## One request -/

section
variable {w : Watch} {a : Arrival} {record : Json}

theorem receive_of_reached (reached : w.limit.isReached w.printed = true) :
    w.receive a = (w.remarks a ++ w.parting, .settled (.ok ())) := by
  rw [receive, if_pos reached]

theorem receive_failure (wanting : w.limit.isReached w.printed = false) {reason : FetchFailure}
    (failed : a.result = .error reason) :
    w.receive a = (w.remarks a ++ w.parting, .settled (.error reason)) := by
  simp [receive, wanting, failed]

theorem receive_last (wanting : w.limit.isReached w.printed = false)
    (succeeded : a.result = .ok record) (enough : w.limit.isReached (w.printed + 1) = true) :
    w.receive a =
      (w.remarks a ++ [.line (w.report a.at_ record)] ++ (w.advanced record).parting,
        .settled (.ok ())) := by
  simp only [receive, wanting, succeeded, enough, Bool.false_eq_true, if_false]
  rfl

theorem receive_more (ready : w.IsReady) (wanting : w.limit.isReached w.printed = false)
    (succeeded : a.result = .ok record) (more : w.limit.isReached (w.printed + 1) = false) :
    w.receive a =
      (w.remarks a ++ [.line (w.report a.at_ record)],
        .again (w.advanced record) w.refresher.interval) := by
  have on : w.refresher.polling = true := by
    refine ready (decide_eq_true fun once => ?_)
    rw [once] at more
    simp [Limit.isReached] at more
  have next : (w.refresher.deliver (.ok record)).2.2 = some w.refresher.interval := if_pos on
  simp only [receive, wanting, succeeded, more, Bool.false_eq_true, if_false]
  split
  · next other =>
    rw [next] at other
    cases other
    rfl
  · next none => exact absurd next (none _ rfl)

end

/-! ## Whole runs -/

/-- What the requests of a run come to, one after the other. -/
def fetches (w : Watch) (now : Calendar.Moment) (n : Network) : List Fetched :=
  let fetch := n.converse w.get
  fetch.1.fetched ::
    match _h : (w.receive ⟨fetch.1.fetched, now, 0⟩).2 with
    | .settled _ => []
    | .again next _ => next.fetches now fetch.2
termination_by n.answers.length
decreasing_by
  obtain ⟨body, value⟩ := isOk_of_again _h
  exact Network.length_answers_converse_lt value

def arrival (w : Watch) (now : Calendar.Moment) (n : Network) : Arrival :=
  ⟨(n.converse w.get).1.fetched, now, 0⟩

section
variable {w next : Watch} {now : Calendar.Moment} {n : Network} {said : List Remark}

theorem run_of_settled {result : Except FetchFailure Unit}
    (received : w.receive (w.arrival now n) = (said, .settled result)) :
    w.run now n = (said, result, (n.converse w.get).2) ∧
      w.fetches now n = [(w.arrival now n).result] := by
  constructor
  · rw [run]
    split
    · next other =>
      cases received.symm.trans other
      rfl
    · next other => cases received.symm.trans other
  · rw [fetches]
    split
    · rfl
    · next other => cases (congrArg Prod.snd received).symm.trans other

theorem run_of_again {delay : Nat}
    (received : w.receive (w.arrival now n) = (said, .again next delay)) :
    let rest := next.run now (n.converse w.get).2
    w.run now n = (said ++ rest.1, rest.2) ∧
      w.fetches now n = (w.arrival now n).result :: next.fetches now (n.converse w.get).2 := by
  constructor
  · rw [run]
    split
    · next other => cases received.symm.trans other
    · next other =>
      cases received.symm.trans other
      rfl
  · rw [fetches]
    split
    · next other => cases (congrArg Prod.snd received).symm.trans other
    · next other =>
      cases (congrArg Prod.snd received).symm.trans other
      rfl

end

/-- Induction along the requests of a run: nothing is wanted any more, the request fails, its
record is the last one, or more are wanted. -/
theorem run_induction {motive : (w : Watch) → Network → w.IsReady → Prop}
    (reached : ∀ w n ready, w.limit.isReached w.printed = true → motive w n ready)
    (failure : ∀ w n ready reason, w.limit.isReached w.printed = false →
      (n.converse w.get).1.fetched = .error reason → motive w n ready)
    (last : ∀ w n ready record, w.limit.isReached w.printed = false →
      (n.converse w.get).1.fetched = .ok record →
      w.limit.isReached (w.printed + 1) = true → motive w n ready)
    (more : ∀ w n ready record, w.limit.isReached w.printed = false →
      (n.converse w.get).1.fetched = .ok record →
      w.limit.isReached (w.printed + 1) = false →
      motive (w.advanced record) (n.converse w.get).2 (isReady_advanced ready record) →
      motive w n ready)
    (w : Watch) (n : Network) (ready : w.IsReady) : motive w n ready := by
  -- A request that gives a record uses up an answer.
  induction size : n.answers.length using Nat.strongRecOn generalizing w n with
  | ind size ih =>
    cases wanting : w.limit.isReached w.printed with
    | true => exact reached w n ready wanting
    | false =>
      cases result : (n.converse w.get).1.fetched with
      | error reason => exact failure w n ready reason wanting result
      | ok record =>
        cases enough : w.limit.isReached (w.printed + 1) with
        | true => exact last w n ready record wanting result enough
        | false =>
          have fewer := Network.length_answers_converse_lt result
          exact more w n ready record wanting result enough
            (ih _ (size ▸ fewer) _ _ (isReady_advanced ready record) rfl)

/-- The requests of a run are GETs of one address, one after the other. -/
theorem run_network (w : Watch) (now : Calendar.Moment) (n : Network) (ready : w.IsReady) :
    (w.run now n).2.2 = n.after w.get (w.fetches now n).length ∧
      w.fetches now n = (List.range (w.fetches now n).length).map (n.fetched w.get) := by
  induction w, n, ready using run_induction with
  | reached w n ready reached =>
    obtain ⟨run, fetches⟩ := run_of_settled (receive_of_reached (a := w.arrival now n) reached)
    rw [run, fetches]
    exact ⟨rfl, rfl⟩
  | failure w n ready reason wanting failed =>
    obtain ⟨run, fetches⟩ := run_of_settled (receive_failure (a := w.arrival now n) wanting failed)
    rw [run, fetches]
    exact ⟨rfl, rfl⟩
  | last w n ready record wanting succeeded enough =>
    obtain ⟨run, fetches⟩ :=
      run_of_settled (receive_last (a := w.arrival now n) wanting succeeded enough)
    rw [run, fetches]
    exact ⟨rfl, rfl⟩
  | more w n ready record wanting succeeded more ih =>
    obtain ⟨run, fetches⟩ :=
      run_of_again (receive_more (a := w.arrival now n) ready wanting succeeded more)
    obtain ⟨left, results⟩ := ih
    refine ⟨?_, ?_⟩
    · rw [run, fetches, List.length_cons, Network.after_succ]
      exact left
    · rw [fetches, List.length_cons, List.range_succ_eq_map, List.map_cons, List.map_map]
      exact congrArg _ results

theorem not_isReached_iff {w : Watch} :
    w.limit.isReached w.printed = false ↔ ∀ q ∈ w.limit.quota, w.printed < q := by
  rw [Limit.isReached_eq]
  cases w.limit.quota <;> simp

/-- What becomes of a watch that still is to print something. It prints a record for each of
its first requests and then ends, either because these were enough or because the request
after them fails. -/
structure Course (w : Watch) (now : Calendar.Moment) (n : Network) (records : List Json) :
    Prop where
  printed : printedBy (w.run now n).1 = records.map fun r => w.report now r ++ "\n"
  ending :
    (w.fetches now n = records.map .ok ∧ (w.run now n).2.1 = .ok () ∧
        w.limit.quota = some (w.printed + records.length)) ∨
      ∃ reason, w.fetches now n = records.map .ok ++ [.error reason] ∧
        (w.run now n).2.1 = .error reason ∧ ∀ q ∈ w.limit.quota, w.printed + records.length < q

theorem exists_course (w : Watch) (now : Calendar.Moment) (n : Network) (ready : w.IsReady)
    (wanting : w.limit.isReached w.printed = false) : ∃ records, w.Course now n records := by
  induction w, n, ready using run_induction with
  | reached w n ready reached => exact absurd reached (by simp [wanting])
  | failure w n ready reason _ failed =>
    obtain ⟨run, fetches⟩ := run_of_settled (receive_failure (a := w.arrival now n) wanting failed)
    refine ⟨[], by simp [run], Or.inr ⟨reason, ?_, by rw [run], not_isReached_iff.mp wanting⟩⟩
    rw [fetches]
    exact congrArg (fun f => [f]) failed
  | last w n ready record _ succeeded enough =>
    obtain ⟨run, fetches⟩ :=
      run_of_settled (receive_last (a := w.arrival now n) wanting succeeded enough)
    refine ⟨[record], by simp [run, arrival], Or.inl ⟨?_, by rw [run], ?_⟩⟩
    · rw [fetches]
      exact congrArg (fun f => [f]) succeeded
    · rw [Limit.isReached_eq, Option.any_eq_true] at enough
      obtain ⟨q, quota, bound⟩ := enough
      have below := not_isReached_iff.mp wanting q quota
      rw [decide_eq_true_eq] at bound
      rw [quota, List.length_singleton, show q = w.printed + 1 by omega]
  | more w n ready record _ succeeded more ih =>
    obtain ⟨run, fetches⟩ :=
      run_of_again (receive_more (a := w.arrival now n) ready wanting succeeded more)
    obtain ⟨records, course⟩ := ih more
    have first : (w.arrival now n).result = .ok record := succeeded
    have count : w.printed + (record :: records).length =
        (w.advanced record).printed + records.length := by
      rw [List.length_cons, advanced_printed]
      omega
    refine ⟨record :: records, ?_, ?_⟩
    · simp [run, course.printed, arrival]
    · rw [run, fetches, first, count]
      rcases course.ending with ⟨all, result, quota⟩ | ⟨reason, all, result, below⟩
      · exact Or.inl ⟨by rw [all]; rfl, result, quota⟩
      · exact Or.inr ⟨reason, by rw [all]; rfl, result, below⟩

end Watch

end IngestWatch
