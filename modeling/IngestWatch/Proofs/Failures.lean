import IngestWatch.Proofs.History.Effects
import IngestWatch.Proofs.Polling.Failures

/-!
Why a fetch failed makes no difference to what polls a statistic, whichever way its cycles are
run, nor to what looks at the history, to which an answer that is no list is a failure too.
-/

namespace IngestWatch

namespace History

/-- What is done with a window, without what the service answers. -/
inductive Operation where
  | setStart (start : Int)
  | setStop (stop : Int)
  | setIngestType (ingestType : String)
  | fetch

/-- The steps that operations come to when each fetch is given the next result of a script. -/
def scripted : List Operation → List Fetched → List Step
  | [], _ => []
  | .setStart start :: rest, script => .setStart start :: scripted rest script
  | .setStop stop :: rest, script => .setStop stop :: scripted rest script
  | .setIngestType ingestType :: rest, script =>
    .setIngestType ingestType :: scripted rest script
  | .fetch :: rest, script =>
    .fetch (Fetched.next script).1 :: scripted rest (Fetched.next script).2

/-- Two answers that are the same list, or neither of them a list. -/
inductive SameList : Fetched → Fetched → Prop where
  | list (items : List Json) : SameList (.ok (.arr items)) (.ok (.arr items))
  | neither {answer answer' : Fetched} (no : ∀ items, answer ≠ .ok (.arr items))
      (no' : ∀ items, answer' ≠ .ok (.arr items)) : SameList answer answer'

/-- Two steps that come to the same, up to the reason of a failure. -/
structure Effect.Alike (e e' : Effect) : Prop where
  history : e.history = e'.history
  requests : e.requests = e'.requests
  result : Option.Rel SameSuccess e.result e'.result

/-- Where no list is answered the history stays as it is, and the fetch fails. -/
theorem step_of_no_list (h : History) {answer : Fetched}
    (no : ∀ items, answer ≠ .ok (.arr items)) :
    ∃ failure, h.step (.fetch answer) = ⟨h, [h.target], some (.error failure)⟩ := by
  rcases answer_cases answer with ⟨items, rfl⟩ | ⟨failure, rfl⟩ | ⟨v, rfl, other⟩
  · exact absurd rfl (no items)
  · exact ⟨failure, step_failure h failure⟩
  · exact ⟨noList v, step_other h other⟩

theorem alike_step_fetch (h : History) {answer answer' : Fetched}
    (same : SameList answer answer') :
    (h.step (.fetch answer)).Alike (h.step (.fetch answer')) := by
  cases same with
  | list items => exact ⟨rfl, rfl, .some (.success items)⟩
  | neither no no' =>
    obtain ⟨failure, one⟩ := step_of_no_list h no
    obtain ⟨failure', other⟩ := step_of_no_list h no'
    rw [one, other]
    exact ⟨rfl, rfl, .some (.failure failure failure')⟩

/-- Scripts are used up together, and a fetch that finds nothing left fails. -/
theorem sameList_next {script script' : List Fetched}
    (same : List.Forall₂ SameList script script') :
    SameList (Fetched.next script).1 (Fetched.next script').1 ∧
      List.Forall₂ SameList (Fetched.next script).2 (Fetched.next script').2 := by
  cases same with
  | nil => exact ⟨.neither (by rintro _ ⟨⟩) (by rintro _ ⟨⟩), .nil⟩
  | cons first others => exact ⟨first, others⟩

theorem alike_effects (h : History) (operations : List Operation)
    {script script' : List Fetched} (same : List.Forall₂ SameList script script') :
    List.Forall₂ Effect.Alike (h.effects (scripted operations script))
      (h.effects (scripted operations script')) := by
  induction operations generalizing h script script' with
  | nil => exact .nil
  | cons operation rest ih =>
    cases operation with
    | setStart start => exact .cons ⟨rfl, rfl, .none⟩ (ih _ same)
    | setStop stop => exact .cons ⟨rfl, rfl, .none⟩ (ih _ same)
    | setIngestType ingestType => exact .cons ⟨rfl, rfl, .none⟩ (ih _ same)
    | fetch =>
      obtain ⟨first, others⟩ := sameList_next same
      have now := alike_step_fetch h first
      have later := ih (h.step (.fetch (Fetched.next script).1)).history others
      simp only [scripted, effects]
      rw [← now.history]
      exact .cons now later

end History

open Polling

/-- Let the answers of two services succeed in the same places with the same bodies, and fail
in all others, each for its own reasons. Then a refresher of the one and a refresher of the
other have come to the same after any moves, by hand and in time: record, polling, interval,
what waits and for how long, requests and their instants, and which cycles failed. So have two
windows onto the history, where what is not a list counts as a failure too. Only the reasons
given for failures may differ. -/
theorem failures_indistinguishable (pathPrefix statistic : String) (interval : Nat)
    {answers answers' : List Answer} (sameAnswers : List.Forall₂ Answer.Alike answers answers')
    (window : Window) {script script' : List Fetched}
    (sameScript : List.Forall₂ History.SameList script script') :
    let r := Refresher.new pathPrefix statistic interval answers
    let r' := Refresher.new pathPrefix statistic interval answers'
    (∀ moves : List Move,
      let s := (ByHand.new r).run moves
      let s' := (ByHand.new r').run moves
      let log := ByHand.scheduling.log (ByHand.new r) moves
      let log' := ByHand.scheduling.log (ByHand.new r') moves
      s.Alike s' ∧ targets log = targets log' ∧
        List.Forall₂ Delivery.Alike (deliveries log) (deliveries log') ∧
        (∀ step, (s.step step).2.Alike (s'.step step).2) ∧ s.runNext.2 = s'.runNext.2) ∧
    (∀ (slips : Nat → Bool) (moves : List Timed.Move),
      let t := (Timed.new r slips).run moves
      let t' := (Timed.new r' slips).run moves
      let log := Timed.scheduling.log (Timed.new r slips) moves
      let log' := Timed.scheduling.log (Timed.new r' slips) moves
      t.Alike t' ∧ targets log = targets log' ∧
        List.Forall₂ Delivery.Alike (deliveries log) (deliveries log') ∧
        ∀ step, (t.step step).2.Alike (t'.step step).2) ∧
    ∀ operations, List.Forall₂ History.Effect.Alike
      ((History.new pathPrefix window).effects (History.scripted operations script))
      ((History.new pathPrefix window).effects (History.scripted operations script')) := by
  intro r r'
  have start : r.Alike r' := ⟨rfl, rfl, rfl, rfl, .none, rfl, rfl, sameAnswers⟩
  refine ⟨fun moves => ?_, fun slips moves => ?_, fun operations => ?_⟩
  · have new : (ByHand.new r).Alike (ByHand.new r') := ⟨start, rfl, rfl, rfl⟩
    obtain ⟨reached, logged⟩ := ByHand.scheduling.alike_run
      (fun s s' move alike => ⟨ByHand.alike_act alike move, ByHand.alike_happenings alike move⟩)
      new moves
    exact ⟨reached, targets_of_alike logged, deliveries_of_alike logged,
      fun step => (ByHand.alike_step reached step).2, (ByHand.alike_runNext reached).2⟩
  · have new : (Timed.new r slips).Alike (Timed.new r' slips) :=
      ⟨⟨rfl, rfl, rfl, start, rfl, rfl⟩, rfl⟩
    obtain ⟨reached, logged⟩ := Timed.scheduling.alike_run
      (fun t t' move alike => ⟨Timed.alike_act alike move, Timed.alike_happenings alike move⟩)
      new moves
    exact ⟨reached, targets_of_alike logged, deliveries_of_alike logged,
      fun step => (Timed.alike_step reached step).2⟩
  · exact History.alike_effects _ operations sameScript

/-- One service takes too long while the owner says that polling is to stop, the other answers
with a bad status then. A window meets a refused connection at the one, an object at the
other. -/
theorem failures_indistinguishable_timeout_status :
    let answers : List Answer := [⟨.ok .null, []⟩, ⟨.error (.timedOut 10), [.stop]⟩]
    let answers' : List Answer := [⟨.ok .null, []⟩, ⟨.error (.badStatus 503), [.stop]⟩]
    let script : List Fetched := [.ok (.arr [.null]), .error (.noConnection "refused")]
    let script' : List Fetched := [.ok (.arr [.null]), .ok (.obj [])]
    let moves : List Move := [.take (.tell (.start none)), .take .fetch, .fire]
    let moves' : List Timed.Move := [.take (.tell (.start none)), .take .fetch, .advance 300]
    let s := (ByHand.new (Refresher.new "/m" "queryRate" 300 answers)).run moves
    let s' := (ByHand.new (Refresher.new "/m" "queryRate" 300 answers')).run moves
    let slips : Nat → Bool := fun _ => false
    let t := (Timed.new (Refresher.new "/m" "queryRate" 300 answers) slips).run moves'
    let t' := (Timed.new (Refresher.new "/m" "queryRate" 300 answers') slips).run moves'
    let h := History.new "/m" ⟨0, 1, "bulk"⟩
    s.Alike s' ∧ t.Alike t' ∧ s.requests = 2 ∧
      s.refresher.outcome = some (.failed (.timedOut 10)) ∧
      s'.refresher.outcome = some (.failed (.badStatus 503)) ∧
      List.Forall₂ History.Effect.Alike
        (h.effects (History.scripted [.fetch, .setStop 2, .fetch] script))
        (h.effects (History.scripted [.fetch, .setStop 2, .fetch] script')) := by
  intro answers answers' script script' moves moves' s s' slips t t' h
  have sameAnswers : List.Forall₂ Answer.Alike answers answers' :=
    .cons ⟨.success _, rfl⟩ (.cons ⟨.failure _ _, rfl⟩ .nil)
  have sameScript : List.Forall₂ History.SameList script script' :=
    .cons (.list _) (.cons (.neither (by simp) (by simp)) .nil)
  obtain ⟨byHand, inTime, looked⟩ := failures_indistinguishable "/m" "queryRate" 300 sameAnswers
    ⟨0, 1, "bulk"⟩ sameScript
  exact ⟨(byHand moves).1, (inTime slips moves').1, by decide +kernel, by decide +kernel,
    by decide +kernel, looked _⟩

end IngestWatch
