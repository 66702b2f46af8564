import IngestWatch.Proofs.Polling.Chains
import IngestWatch.Proofs.Polling.Scheduling

/-!
What observers of a refresher see. The record is the body of the latest success and the
outcome is that of the latest cycle, whoever ran it; an observer is told of news exactly
if there was a success, or a cycle, since it came or last looked, whoever else looks in
between. All this holds of every scheduling, so of the queue fired by hand and of timers.
-/

namespace IngestWatch.Polling

/-- The bodies that cycles were given, in order. -/
def bodies (log : List Happening) : List Json :=
  (deliveries log).filterMap fun d => d.result.toOption

@[simp] theorem bodies_append (first second : List Happening) :
    bodies (first ++ second) = bodies first ++ bodies second := by
  simp [bodies]

theorem bodies_eq_nil_iff {log : List Happening} :
    bodies log = [] ↔ ∀ d ∈ deliveries log, ∀ body, d.result ≠ .ok body := by
  have none (d : Delivery) : d.result.toOption = none ↔ ∀ body, d.result ≠ .ok body := by
    cases d.result <;> simp [Except.toOption]
  rw [bodies, List.filterMap_eq_nil_iff]
  exact forall₂_congr fun d _ => none d

/-- A success that is the latest cycle gave the latest body. -/
theorem getLast?_bodies {log : List Happening} {d : Delivery} {body : Json}
    (latest : (deliveries log).getLast? = some d) (ok : d.result = .ok body) :
    (bodies log).getLast? = some body := by
  obtain ⟨earlier, split⟩ := List.getLast?_eq_some_iff.mp latest
  rw [bodies, split]
  simp [ok, Except.toOption]

namespace Refresher

/-- Until its result comes, a cycle changes nothing that observers see. -/
theorem exists_atDelivery (r : Refresher) : ∃ interval polling answers,
    r.atDelivery =
      { r with interval := interval, polling := polling, answers := answers } := by
  have obeyed (commands : List Command) (r : Refresher) : ∃ interval polling,
      commands.foldl obey r = { r with interval := interval, polling := polling } := by
    induction commands generalizing r with
    | nil => exact ⟨r.interval, r.polling, rfl⟩
    | cons c rest ih =>
      obtain ⟨interval, polling, same⟩ := ih (r.obey c)
      exact ⟨interval, polling, by cases c <;> exact same⟩
  obtain ⟨interval, polling, same⟩ := obeyed r.request.1.during r.request.2
  have asked : ∃ answers, r.request.2 = { r with answers := answers } := by
    unfold request
    split
    · exact ⟨r.answers, rfl⟩
    · next rest _ => exact ⟨rest, rfl⟩
  obtain ⟨answers, request⟩ := asked
  exact ⟨interval, polling, answers, by rw [atDelivery, same, request]⟩

/-- A success replaces the record and is news; a failure is neither. -/
theorem cycle_record (r : Refresher) :
    r.cycle.1.record = r.delivery.result.toOption.or r.record ∧
      r.cycle.1.recordIsNews = (r.recordIsNews || r.delivery.result.isOk) := by
  obtain ⟨interval, polling, answers, reached⟩ := r.exists_atDelivery
  have result : r.delivery.result = r.request.1.result := rfl
  rw [cycle_fst, reached, result]
  cases r.request.1.result with
  | ok body => simp [deliver, Except.toOption, Except.isOk, Except.toBool]
  | error reason => simp [deliver, Except.toOption, Except.isOk, Except.toBool]

theorem bodies_cycleLog (r : Refresher) (waited : Option Nat) :
    bodies (r.cycleLog waited) = r.delivery.result.toOption.toList := by
  cases body : r.delivery.result.toOption <;> simp [bodies, body]

/-- What a refresher holds after a log, in terms of what it held before: the latest body
and the latest outcome, and whether they are news to an observer who has not looked. -/
structure Holds (before : Refresher) (log : List Happening) (r : Refresher) : Prop where
  record : r.record = (bodies log).getLast?.or before.record
  outcome : r.outcome = ((deliveries log).getLast?.map (·.outcome)).or before.outcome
  recordIsNews : .observed ∉ log →
    r.recordIsNews = (before.recordIsNews || (deliveries log).any (·.result.isOk))
  outcomeIsNews : .observed ∉ log →
    r.outcomeIsNews = (before.outcomeIsNews || !(deliveries log).isEmpty)

/-- A cycle, whoever runs it. -/
theorem holds_cycle {before r : Refresher} {log : List Happening} (h : Holds before log r)
    (waited : Option Nat) : Holds before (log ++ r.cycleLog waited) r.cycle.1 := by
  obtain ⟨record, recordIsNews⟩ := r.cycle_record
  constructor
  · rw [record, bodies_append, bodies_cycleLog, List.getLast?_append, Option.or_assoc,
      ← h.record]
    cases r.delivery.result.toOption <;> rfl
  · rw [cycle_fst, deliveries_append, deliveries_cycleLog]
    simp
  · intro unseen
    rw [List.mem_append, not_or] at unseen
    rw [recordIsNews, h.recordIsNews unseen.1, deliveries_append, deliveries_cycleLog]
    simp [Bool.or_assoc]
  · intro _
    rw [cycle_fst, deliveries_append, deliveries_cycleLog]
    simp

/-- A happening that ends no cycle. -/
theorem holds_append {before r r' : Refresher} {log more : List Happening}
    (h : Holds before log r) (none : deliveries more = []) (record : r'.record = r.record)
    (outcome : r'.outcome = r.outcome)
    (news : .observed ∉ more →
      r'.recordIsNews = r.recordIsNews ∧ r'.outcomeIsNews = r.outcomeIsNews) :
    Holds before (log ++ more) r' := by
  have noBody : bodies more = [] := by rw [bodies, none]; rfl
  constructor
  · rw [record, h.record, bodies_append, noBody, List.append_nil]
  · rw [outcome, h.outcome, deliveries_append, none, List.append_nil]
  · intro unseen
    rw [List.mem_append, not_or] at unseen
    rw [(news unseen.2).1, h.recordIsNews unseen.1, deliveries_append, none, List.append_nil]
  · intro unseen
    rw [List.mem_append, not_or] at unseen
    rw [(news unseen.2).2, h.outcomeIsNews unseen.1, deliveries_append, none, List.append_nil]

theorem holds_turn {before r r' : Refresher} {log more : List Happening}
    {waiting waiting' : Nat} (h : Holds before log r) (turn : r.Turn waiting more r' waiting') :
    Holds before (log ++ more) r' := by
  cases turn with
  | lapsed => exact holds_append h rfl rfl rfl fun _ => ⟨rfl, rfl⟩
  | told command => cases command <;> exact holds_append h rfl rfl rfl fun _ => ⟨rfl, rfl⟩
  | observed => exact holds_append h rfl rfl rfl fun unseen => by simp at unseen
  | awaited => exact holds_cycle h none
  | fired waited => exact holds_cycle h (some waited)

theorem holds_of_evolves {before r : Refresher} {log : List Happening} {waiting waiting' : Nat}
    (evolves : before.Evolves waiting log r waiting') : Holds before log r := by
  induction evolves with
  | start => exact ⟨rfl, rfl, by simp [deliveries], by simp [deliveries]⟩
  | turn _ next ih => exact holds_turn ih next

/-! ## A failure is the end of a single chain -/

theorem length_next_add (r : Refresher) :
    r.delivery.next.toList.length + (if r.delivery.endsChain then 1 else 0) = 1 := by
  rw [endsChain_eq]
  cases r.delivery.next <;> rfl

/-- Waiting cycles and ended chains are never more than the chains there were and the
fetches awaited since. -/
theorem waiting_add_ended_le {before r : Refresher} {log : List Happening}
    {waiting waiting' : Nat} (evolves : before.Evolves waiting log r waiting') :
    waiting' + (deliveries log).countP (·.endsChain) ≤ waiting + awaits log := by
  induction evolves with
  | start => exact Nat.le_refl _
  | @turn log more r' r'' n n' _ next ih =>
    have one := r'.length_next_add
    rw [deliveries_append, List.countP_append, awaits_append]
    cases next with
    | lapsed fewer => exact (Nat.add_le_add_right fewer _).trans ih
    | told command => exact ih
    | observed => exact ih
    | awaited =>
      simp only [deliveries_cycleLog, awaits_cycleLog, List.countP_singleton,
        Option.isNone_none, if_true]
      omega
    | fired waited =>
      simp only [deliveries_cycleLog, awaits_cycleLog, List.countP_singleton,
        Option.isNone_some, Bool.false_eq_true, if_false]
      omega

/-- With nothing waiting and no fetch awaited no cycle is run. -/
theorem silent_of_evolves {before r : Refresher} {log : List Happening} {waiting : Nat}
    (evolves : before.Evolves 0 log r waiting) (quiet : awaits log = 0) :
    waiting = 0 ∧ deliveries log = [] := by
  induction evolves with
  | start => exact ⟨rfl, rfl⟩
  | @turn log more r' r'' n n' _ next ih =>
    rw [awaits_append] at quiet
    obtain ⟨rfl, none⟩ := ih (by omega)
    rw [deliveries_append, none]
    cases next with
    | lapsed fewer => exact ⟨by omega, rfl⟩
    | told command => exact ⟨rfl, rfl⟩
    | observed => exact ⟨rfl, rfl⟩
    | awaited => simp at quiet
    | fired waited one => omega

/-- What is delivered is delivered by the refresher itself. -/
theorem eq_delivery_of_evolves {before r : Refresher} {log : List Happening}
    {waiting waiting' : Nat} (evolves : before.Evolves waiting log r waiting') :
    ∀ d ∈ deliveries log, ∃ own : Refresher, d = own.delivery := by
  induction evolves with
  | start => simp [deliveries]
  | @turn log more r' r'' n n' _ next ih =>
    intro d member
    rw [deliveries_append, List.mem_append] at member
    rcases member with old | new
    · exact ih d old
    · cases next with
      | lapsed => simp [deliveries] at new
      | told => simp [deliveries] at new
      | observed => simp [deliveries] at new
      | awaited => exact ⟨r', by simpa using new⟩
      | fired => exact ⟨r', by simpa using new⟩

theorem delivery_outcome (r : Refresher) :
    r.delivery.outcome = match r.delivery.result with
      | .ok _ => .refreshed r.delivery.polling
      | .error reason => .failed reason := by
  simp only [delivery, deliver]
  cases r.request.1.result <;> rfl

theorem ok_of_refreshed (r : Refresher) {again : Bool}
    (told : r.delivery.outcome = .refreshed again) : ∃ body, r.delivery.result = .ok body := by
  rw [delivery_outcome] at told
  split at told
  · next body ok => exact ⟨body, ok⟩
  · cases told

theorem endsChain_of_failed (r : Refresher) {reason : FetchFailure}
    (told : r.delivery.outcome = .failed reason) : r.delivery.endsChain = true := by
  rw [delivery_outcome] at told
  split at told
  · cases told
  · next error => simp [Delivery.endsChain, error, Except.isOk, Except.toBool]

end Refresher

namespace Scheduling

variable {σ μ : Type} (k : Scheduling σ μ)

/-- Observers have just come or looked: nothing was done yet, or looking was the last move. -/
def JustLooked (moves : List μ) : Prop :=
  moves = [] ∨ ∃ earlier own, moves = earlier ++ [own] ∧ k.observes own = true

/-- What observers see in every run from a state. An observer is told of news by `look`;
its own looks end with `moves`, and what others look at in `more` is left out. -/
structure ObserverLaw (start : σ) : Prop where
  record : ∀ moves, (k.refresher (k.run start moves)).record =
    (bodies (k.log start moves)).getLast?
  record_none_iff : ∀ moves, (k.refresher (k.run start moves)).record = none ↔
    ∀ d ∈ deliveries (k.log start moves), ∀ body, d.result ≠ .ok body
  record_kept : ∀ moves more,
    (∀ d ∈ deliveries (k.log (k.run start moves) more), ∀ body, d.result ≠ .ok body) →
      (k.refresher (k.run start (moves ++ more))).record =
        (k.refresher (k.run start moves)).record
  outcome : ∀ moves, (k.refresher (k.run start moves)).outcome =
    (deliveries (k.log start moves)).getLast?.map (·.outcome)
  refreshed : ∀ moves again,
    (k.refresher (k.run start moves)).outcome = some (.refreshed again) →
      ∃ d body, (deliveries (k.log start moves)).getLast? = some d ∧ d.result = .ok body ∧
        (k.refresher (k.run start moves)).record = some body
  failure_stays : ∀ moves more reason,
    (k.refresher (k.run start moves)).outcome = some (.failed reason) →
      deliveries (k.log (k.run start moves) more) = [] →
        (k.refresher (k.run start (moves ++ more))).outcome = some (.failed reason)
  failure_ends_chain : ∀ moves reason,
    awaits (k.log start moves) ≤
        (deliveries (k.log start moves)).dropLast.countP (·.endsChain) + 1 →
      (k.refresher (k.run start moves)).outcome = some (.failed reason) →
        k.waiting (k.run start moves) = 0
  halted : ∀ moves more, k.waiting (k.run start moves) = 0 →
    awaits (k.log (k.run start moves) more) = 0 →
      deliveries (k.log (k.run start moves) more) = []
  news : ∀ moves more, k.JustLooked moves →
    k.look (k.run start (moves ++ k.unwatched more)) =
      .news ((deliveries (k.log (k.run start moves) more)).any (·.result.isOk))
        (!(deliveries (k.log (k.run start moves) more)).isEmpty)

variable {k} {start : σ}

/-- What the refresher holds after a run, in terms of what it held before. -/
theorem holds_run (s : σ) (moves : List μ) :
    Refresher.Holds (k.refresher s) (k.log s moves) (k.refresher (k.run s moves)) :=
  Refresher.holds_of_evolves (k.evolves_run s moves)

/-- To observers who have just come or looked nothing is news. -/
theorem seen_of_justLooked {pathPrefix statistic : String} {interval : Nat}
    {answers : List Answer}
    (fresh : k.refresher start = .new pathPrefix statistic interval answers) {moves : List μ}
    (looked : k.JustLooked moves) :
    (k.refresher (k.run start moves)).recordIsNews = false ∧
      (k.refresher (k.run start moves)).outcomeIsNews = false := by
  rcases looked with rfl | ⟨earlier, own, rfl, observes⟩
  · change (k.refresher start).recordIsNews = false ∧ (k.refresher start).outcomeIsNews = false
    rw [fresh]
    exact ⟨rfl, rfl⟩
  · have last : k.run start (earlier ++ [own]) = k.hush (k.run start earlier) := by
      rw [run_append]
      exact (k.act_of_observes _ own observes).1
    rw [last, k.refresher_hush]
    exact ⟨rfl, rfl⟩

/-- The law of observers follows from the turns of a refresher, whatever runs its cycles. -/
theorem observerLaw_of_new {pathPrefix statistic : String} {interval : Nat}
    {answers : List Answer}
    (fresh : k.refresher start = .new pathPrefix statistic interval answers)
    (idle : k.waiting start = 0) : k.ObserverLaw start := by
  have held := holds_run (k := k) start
  rw [fresh] at held
  have record (moves : List μ) : (k.refresher (k.run start moves)).record =
      (bodies (k.log start moves)).getLast? := by
    rw [(held moves).record]
    exact Option.or_none
  have outcome (moves : List μ) : (k.refresher (k.run start moves)).outcome =
      (deliveries (k.log start moves)).getLast?.map (·.outcome) := by
    rw [(held moves).outcome]
    exact Option.or_none
  constructor
  case record => exact record
  case outcome => exact outcome
  case record_none_iff =>
    intro moves
    rw [record, List.getLast?_eq_none_iff, bodies_eq_nil_iff]
  case record_kept =>
    intro moves more failed
    rw [run_append, (holds_run (k := k) _ more).record, bodies_eq_nil_iff.mpr failed]
    rfl
  case refreshed =>
    intro moves again refreshed
    rw [outcome, Option.map_eq_some_iff] at refreshed
    obtain ⟨d, latest, told⟩ := refreshed
    obtain ⟨own, rfl⟩ := Refresher.eq_delivery_of_evolves (k.evolves_run start moves) d
      (List.mem_of_getLast? latest)
    obtain ⟨body, ok⟩ := own.ok_of_refreshed told
    exact ⟨_, body, latest, ok, (record moves).trans (getLast?_bodies latest ok)⟩
  case failure_stays =>
    intro moves more reason failed none
    rw [run_append, (holds_run (k := k) _ more).outcome, none, failed]
    rfl
  case failure_ends_chain =>
    intro moves reason single failed
    rw [outcome, Option.map_eq_some_iff] at failed
    obtain ⟨d, latest, told⟩ := failed
    have evolves := k.evolves_run start moves
    obtain ⟨own, rfl⟩ := Refresher.eq_delivery_of_evolves evolves d (List.mem_of_getLast? latest)
    have bound := Refresher.waiting_add_ended_le evolves
    rw [← List.dropLast_append_getLast? _ latest, List.countP_append, List.countP_singleton,
      own.endsChain_of_failed told, idle] at bound
    simp only [if_true] at bound
    omega
  case halted =>
    intro moves more nothing quiet
    have evolves := k.evolves_run (k.run start moves) more
    rw [nothing] at evolves
    exact (Refresher.silent_of_evolves evolves quiet).2
  case news =>
    intro moves more looked
    obtain ⟨seenRecord, seenOutcome⟩ := seen_of_justLooked fresh looked
    have unseen := k.observed_not_mem_log_unwatched (k.run start moves) more
    have now := holds_run (k := k) (k.run start moves) (k.unwatched more)
    rw [k.look_eq, run_append, now.recordIsNews unseen, now.outcomeIsNews unseen, seenRecord,
      seenOutcome, k.deliveries_log_unwatched rfl, Bool.false_or, Bool.false_or]

end Scheduling

/-- Whether its cycles wait in the queue or for their timers, what the observers of a
refresher see follows one law. -/
theorem observers_see (pathPrefix statistic : String) (interval : Nat) (answers : List Answer) :
    let r := Refresher.new pathPrefix statistic interval answers
    ByHand.scheduling.ObserverLaw (.new r) ∧
      ∀ slips, Timed.scheduling.ObserverLaw (.new r slips) := by
  intro r
  exact ⟨Scheduling.observerLaw_of_new rfl rfl, fun _ => Scheduling.observerLaw_of_new rfl rfl⟩

/-- A chain that ends in a failure: nothing waits, the record of the success before it
stays, and one who looked before it is told of the outcome alone. -/
theorem observers_see_failure :
    let start := Timed.new (.new "" "queryRate" 5000
      [⟨.ok (.bool true), []⟩, ⟨.error (.badStatus 500), []⟩]) fun _ => false
    let k := Timed.scheduling
    let looked : List Timed.Move := [.take (.tell (.start (some 100))), .take .fetch, .take .look]
    let more : List Timed.Move := [.advance 100]
    let s := k.run start (looked ++ more)
    k.JustLooked looked ∧ awaits (k.log start (looked ++ more)) = 1 ∧
      s.refresher.outcome = some (.failed (.badStatus 500)) ∧ k.waiting s = 0 ∧
      s.refresher.record = (bodies (k.log start (looked ++ more))).getLast? ∧
      k.look s = .news false true := by
  intro start k looked more s
  have law : k.ObserverLaw start := (observers_see "" "queryRate" 5000
    [⟨.ok (.bool true), []⟩, ⟨.error (.badStatus 500), []⟩]).2 fun _ => false
  have justLooked : k.JustLooked looked :=
    Or.inr ⟨[.take (.tell (.start (some 100))), .take .fetch], .take .look, rfl, rfl⟩
  have single : awaits (k.log start (looked ++ more)) = 1 := by decide +kernel
  have failed : s.refresher.outcome = some (.failed (.badStatus 500)) := by decide +kernel
  have told : k.look s = .news
      ((deliveries (k.log (k.run start looked) more)).any (·.result.isOk))
      (!(deliveries (k.log (k.run start looked) more)).isEmpty) := law.news looked more justLooked
  refine ⟨justLooked, single, failed, ?_, law.record _, told.trans ?_⟩
  · exact law.failure_ends_chain _ _ (by rw [single]; omega) failed
  · decide +kernel

end IngestWatch.Polling
