import IngestWatch.Proofs.Program.Onlooker

/-!
Failures of the command that polls. Its loop can be held up by what it prints or be interrupted,
and meanwhile the timers run further cycles. The first failure is the last cycle there is, and
it is what the loop finds when it looks the next time. So a failure can stay unsaid only if the
loop does not look any more: with a count of nought it never looks, and otherwise the failure
comes after the last look.
-/

namespace IngestWatch

open Polling Timer

attribute [local irreducible] Http.get Http.Exchange.fetched

/-! ## Cycles run by timers -/

namespace Fetched

/-- What request number `k` of a script comes to. -/
def at_ (script : List Fetched) (k : Nat) : Fetched :=
  script[k]?.getD exhausted

def failure? : Fetched → Option FetchFailure
  | .ok _ => none
  | .error reason => some reason

theorem failure?_eq_none_iff {f : Fetched} : f.failure? = none ↔ f.isOk := by
  cases f <;> simp [failure?, Except.isOk, Except.toBool]

end Fetched

/-- What is told of a result while polling is on. -/
def Polling.Outcome.ofFetched : Fetched → Outcome
  | .ok _ => .refreshed true
  | .error reason => .failed reason

namespace Polling

variable {script : List Fetched} {n : Nat} {tl : Timeline Watched Unit}

/-- Cycle number `n` is the next one, and those before it were successes. -/
structure Upcoming (script : List Fetched) (n : Nat) (tl : Timeline Watched Unit) : Prop where
  polling : tl.world.refresher.polling = true
  answers : tl.world.refresher.answers = (script.drop n).map (⟨·, []⟩)
  completed : tl.world.requestedAt.length = n
  succeeded : ∀ k < n, (Fetched.at_ script k).isOk

/-- Cycle number `n` is the latest one, its outcome is told, and those before it were successes.
A timer for the next one is only there if it was a success as well. -/
structure Completed (script : List Fetched) (n : Nat) (tl : Timeline Watched Unit) : Prop where
  polling : tl.world.refresher.polling = true
  answers : tl.world.refresher.answers = (script.drop (n + 1)).map (⟨·, []⟩)
  completed : tl.world.requestedAt.length = n + 1
  succeeded : ∀ k < n, (Fetched.at_ script k).isOk
  outcome : tl.world.refresher.outcome = some (.ofFetched (Fetched.at_ script n))
  timers : tl.events.length ≤ if (Fetched.at_ script n).isOk then 1 else 0

namespace Refresher

variable {r : Refresher} (answers : r.answers = (script.drop n).map (⟨·, []⟩))
include answers

theorem request_of_script :
    r.request =
      (⟨Fetched.at_ script n, []⟩, { r with answers := (script.drop (n + 1)).map (⟨·, []⟩) }) := by
  rcases Nat.lt_or_ge n script.length with inside | outside
  · rw [List.drop_eq_getElem_cons inside, List.map_cons] at answers
    simp [request, answers, Fetched.at_, inside]
  · have past : script.drop (n + 1) = [] := List.drop_eq_nil_of_le (by omega)
    have none : r.answers = [] := by rw [answers, List.drop_eq_nil_of_le outside, List.map_nil]
    have same : { r with answers := [] } = r := by rw [← none]
    simp [request, none, Fetched.at_, outside, past, same]

theorem cycle_of_script (polling : r.polling = true) :
    r.cycle.1.polling = true ∧
      r.cycle.1.answers = (script.drop (n + 1)).map (⟨·, []⟩) ∧
      r.cycle.1.outcome = some (.ofFetched (Fetched.at_ script n)) ∧
      r.cycle.1.outcomeIsNews = true ∧
      r.cycle.2.2.toList.length = if (Fetched.at_ script n).isOk then 1 else 0 := by
  rw [cycle, request_of_script answers]
  cases Fetched.at_ script n with
  | ok body => simp [deliver, polling, Outcome.ofFetched, Except.isOk, Except.toBool]
  | error reason => simp [deliver, polling, Outcome.ofFetched, Except.isOk, Except.toBool]

end Refresher

theorem Upcoming.cycled (upcoming : Upcoming script n tl) (idle : tl.events = []) (now : Nat) :
    let ran := tl.world.cycle now
    Completed script n ({ tl with world := ran.1 }.setAll ran.2.2) ∧
      ran.1.refresher.outcomeIsNews = true := by
  obtain ⟨polling, answers, completed, succeeded⟩ := upcoming
  obtain ⟨polls, left, outcome, news, next⟩ := Refresher.cycle_of_script answers polling
  refine ⟨⟨polls, left, ?_, succeeded, outcome, ?_⟩, news⟩
  · change (tl.world.requestedAt ++ [now]).length = n + 1
    rw [List.length_append, completed, List.length_singleton]
  · refine (Timeline.length_setAll_le _ _).trans ?_
    rw [idle, List.length_nil, Nat.zero_add, ← next]
    exact (List.length_map _).le

theorem Completed.subscribe {s : Timed} (completed : Completed script n s.timeline) :
    Completed script n (s.mapRefresher (·.subscribe)).timeline :=
  ⟨completed.polling, completed.answers, completed.completed, completed.succeeded,
    completed.outcome, completed.timers⟩

/-- Only the latest cycle can have failed. -/
theorem Completed.eq_of_failure (completed : Completed script n tl) {k : Nat} (within : k < n + 1)
    {reason : FetchFailure} (failed : Fetched.at_ script k = .error reason) : k = n := by
  by_contra other
  have success := completed.succeeded k (by omega)
  rw [failed] at success
  cases success

/-- A timer runs the next cycle. -/
theorem Completed.fire (completed : Completed script n tl) {e : Event Unit}
    {rest : List (Event Unit)} (earliest : takeEarliest? tl.events = some (e, rest)) :
    Completed script (n + 1) (tl.fire program e rest) ∧
      (tl.fire program e rest).world.refresher.outcomeIsNews = true := by
  obtain ⟨polling, answers, requests, succeeded, -, timers⟩ := completed
  have one : tl.events.length = rest.length + 1 := (perm_of_takeEarliest earliest).length_eq
  have success : (Fetched.at_ script n).isOk := by
    by_contra failure
    rw [if_neg failure] at timers
    omega
  rw [if_pos success] at timers
  have idle : rest = [] := List.length_eq_zero_iff.mp (by omega)
  have all : ∀ k < n + 1, (Fetched.at_ script k).isOk := fun k below =>
    (Nat.lt_succ_iff_lt_or_eq.mp below).elim (succeeded k) fun last => last ▸ success
  have upcoming : Upcoming script (n + 1)
      { tl with now := max tl.now e.due, events := rest } := ⟨polling, answers, requests, all⟩
  exact upcoming.cycled idle _

/-- Meanwhile timers may run further cycles. What they tell is news. -/
theorem Completed.runUntil (completed : Completed script n tl) (instant : Nat) :
    ∃ later ≥ n, Completed script later (tl.runUntil program instant) ∧
      ((tl.runUntil program instant).world.refresher.outcomeIsNews = false →
        later = n ∧ tl.world.refresher.outcomeIsNews = false) := by
  obtain ⟨last, ⟨later, after, reached, quiet⟩, ran, -⟩ := Timeline.of_runUntil program instant
    (P := fun _ now => ∃ later ≥ n, Completed script later now ∧
      (now.world.refresher.outcomeIsNews = false →
        later = n ∧ tl.world.refresher.outcomeIsNews = false))
    tl ⟨n, Nat.le_refl n, completed, fun quiet => ⟨rfl, quiet⟩⟩
    (by
      rintro - now e rest ⟨later, after, reached, -⟩ earliest -
      obtain ⟨next, news⟩ := reached.fire earliest
      exact ⟨later + 1, by omega, next, by simp [news]⟩)
  obtain ⟨polling, answers, requests, succeeded, outcome, timers⟩ := reached
  rw [ran]
  exact ⟨later, after, ⟨polling, answers, requests, succeeded, outcome, timers⟩, quiet⟩

end Polling

/-- How many cycles a refresher has completed. -/
def Polling.Timed.completed (s : Timed) : Nat :=
  s.timeline.world.requestedAt.length

/-! ## The loop -/

namespace Onlooker

variable {l : Limit} {script : List Fetched} {n : Nat} {v : Onlooker}

/-- The loop has not found a failure yet, and if nothing is news there is none. -/
structure Unaware (script : List Fetched) (n : Nat) (v : Onlooker) : Prop where
  latest : Completed script n v.timed.timeline
  unfailed : v.failure = none
  quiet : v.timed.refresher.outcomeIsNews = false → (Fetched.at_ script n).isOk

/-- The loop has looked at the outcome of the latest cycle. -/
structure Informed (script : List Fetched) (n : Nat) (v : Onlooker) : Prop where
  latest : Completed script n v.timed.timeline
  failure : v.failure = (Fetched.at_ script n).failure?

theorem Unaware.look (unaware : Unaware script n v) : Informed script n v.look := by
  obtain ⟨latest, unfailed, quiet⟩ := unaware
  cases news : v.timed.refresher.outcomeIsNews with
  | false =>
    rw [Onlooker.look, if_neg (by simp [news])]
    exact ⟨latest, unfailed.trans (Fetched.failure?_eq_none_iff.mpr (quiet news)).symm⟩
  | true =>
    have told : v.timed.refresher.outcome = some (.ofFetched (Fetched.at_ script n)) :=
      latest.outcome
    cases result : Fetched.at_ script n with
    | ok body =>
      rw [look_of_refreshed news (told.trans (by rw [result]; rfl))]
      exact ⟨latest.subscribe, unfailed.trans (by rw [result]; rfl)⟩
    | error reason =>
      rw [look_of_failed news (told.trans (by rw [result]; rfl))]
      exact ⟨latest.subscribe, by rw [result]; rfl⟩

theorem Unaware.turn (unaware : Unaware script n v) (more : v.isDone l = false) (span : Nat) :
    ∃ later, Informed script later (v.turn l span) := by
  obtain ⟨latest, unfailed, quiet⟩ := unaware
  obtain ⟨later, -, reached, still⟩ := latest.runUntil (v.timed.timeline.now + span)
  rw [turn_of_not_isDone more]
  refine ⟨later, Unaware.look ⟨reached, unfailed, fun nothing => ?_⟩⟩
  obtain ⟨rfl, before⟩ := still nothing
  exact quiet before

/-- A loop that has looked and is not done found a success. -/
theorem Informed.unaware (informed : Informed script n v) (more : v.isDone l = false) :
    Unaware script n v := by
  obtain ⟨latest, failure⟩ := informed
  have unfailed : v.failure = none := by
    rw [isDone, Bool.or_eq_false_iff, Option.isSome_eq_false_iff, Option.isNone_iff_eq_none] at more
    exact more.1
  exact ⟨latest, unfailed, fun _ => Fetched.failure?_eq_none_iff.mp (failure.symm.trans unfailed)⟩

theorem Informed.foldl_turn (informed : Informed script n v) (spans : List Nat) :
    ∃ later, Informed script later (spans.foldl (Onlooker.turn l) v) := by
  induction spans generalizing n v with
  | nil => exact ⟨n, informed⟩
  | cons span rest ih =>
    rw [List.foldl_cons]
    cases more : v.isDone l with
    | true =>
      have same : v.turn l span = v := if_pos more
      rw [same]
      exact ih informed
    | false =>
      obtain ⟨later, next⟩ := (informed.unaware more).turn more span
      exact ih next

variable {r : Refresher} (polling : r.polling = true) (answers : r.answers = script.map (⟨·, []⟩))
include polling answers

theorem unaware_start : ∃ n, Unaware script n (start r) := by
  have upcoming : Upcoming script 0 (Timed.new r fun _ => true).timeline :=
    ⟨polling, answers, rfl, by simp⟩
  obtain ⟨first, news⟩ := upcoming.cycled rfl 0
  obtain ⟨n, -, reached, still⟩ := first.runUntil 0
  refine ⟨n, reached, rfl, fun nothing => ?_⟩
  obtain ⟨-, quiet⟩ := still nothing
  cases news.symm.trans quiet

theorem informed_follow (wanting : l.isReached 0 = false) (span : Nat) (spans : List Nat) :
    ∃ n, Informed script n (follow l r (span :: spans)) := by
  obtain ⟨n, unaware⟩ := unaware_start polling answers
  obtain ⟨later, informed⟩ := unaware.turn wanting span
  exact informed.foldl_turn spans

omit polling answers in
theorem follow_eq_start {spans : List Nat} (blind : spans = [] ∨ l.isReached 0 = true) :
    follow l r spans = start r := by
  rcases blind with rfl | reached
  · rfl
  · exact foldl_turn_of_isDone (v := start r) (by simpa [isDone, start] using reached) spans

end Onlooker

/-! ## What is reported -/

/-- How many cycles were completed when a loop looked last. -/
def Onlooker.seen (l : Limit) (r : Refresher) (spans : List Nat) : Nat :=
  if spans = [] ∨ l.isReached 0 then 0 else (follow l r spans).timed.completed

/-- What is reported of the cycles that are completed when polling is turned off, some
milliseconds after the last look of the loop. A failure is the last of them, and it is reported
if the loop has looked since. The command ends well exactly if all that it has seen are
successes; and it has seen all of them if no timer was due after its last look. -/
structure Onlooker.Reports (l : Limit) (script : List Fetched) (r : Refresher) (spans : List Nat)
    (closing : Nat) : Prop where
  looks : spans ≠ [] → l.isReached 0 = false → 0 < seen l r spans
  inTime : seen l r spans ≤ ((follow l r spans).timed.advance closing).completed
  prompt : spans ≠ [] → l.isReached 0 = false →
    (∀ e ∈ (follow l r spans).timed.timeline.events,
      (follow l r spans).timed.timeline.now + closing < e.due) →
    ((follow l r spans).timed.advance closing).completed = seen l r spans
  reported : ∀ k < ((follow l r spans).timed.advance closing).completed, ∀ reason,
    Fetched.at_ script k = .error reason →
      k + 1 = ((follow l r spans).timed.advance closing).completed ∧
        (k < seen l r spans → (follow l r spans).ending = .failed reason.message ∧
          (follow l r spans).ending.exitCode = 1)
  exitCode : (follow l r spans).ending.exitCode = 0 ↔
    ∀ k < seen l r spans, (Fetched.at_ script k).isOk

namespace Onlooker

variable {l : Limit} {script : List Fetched} {n : Nat} {v : Onlooker} {r : Refresher}

theorem exitCode_ending (v : Onlooker) : v.ending.exitCode = 0 ↔ v.failure = none := by
  cases h : v.failure <;> simp [ending, h, Ending.ofFetch, Ending.exitCode]

theorem reports_of_blind (latest : Completed script n (start r).timed.timeline) {spans : List Nat}
    (blind : spans = [] ∨ l.isReached 0 = true) (closing : Nat) :
    Reports l script r spans closing := by
  have here : follow l r spans = start r := follow_eq_start blind
  have none : seen l r spans = 0 := if_pos blind
  obtain ⟨later, -, reached, -⟩ := latest.runUntil ((start r).timed.timeline.now + closing)
  refine ⟨?_, ?_, ?_, ?_, ?_⟩
  · intro some wanting
    simp [some, wanting] at blind
  · rw [none]
    exact Nat.zero_le _
  · intro some wanting
    simp [some, wanting] at blind
  · intro k within reason failed
    have count : ((follow l r spans).timed.advance closing).completed = later + 1 := by
      rw [here]
      exact reached.completed
    rw [count] at within
    exact ⟨by rw [count, reached.eq_of_failure within failed], by simp [none]⟩
  · rw [exitCode_ending, here, none]
    simp [start]

theorem Informed.reports {spans : List Nat} (informed : Informed script n (follow l r spans))
    (some : spans ≠ []) (wanting : l.isReached 0 = false) (closing : Nat) :
    Reports l script r spans closing := by
  obtain ⟨latest, failure⟩ := informed
  have all : seen l r spans = n + 1 := by
    rw [seen, if_neg (by simp [some, wanting])]
    exact latest.completed
  obtain ⟨later, after, reached, -⟩ :=
    latest.runUntil ((follow l r spans).timed.timeline.now + closing)
  have count : ((follow l r spans).timed.advance closing).completed = later + 1 :=
    reached.completed
  refine ⟨fun _ _ => by omega, by omega, ?_, ?_, ?_⟩
  · intro _ _ ahead
    have still := (Timeline.runUntil_of_ahead (p := program) ahead).1
    rw [all, Timed.completed, Timed.advance, Timeline.advance, still]
    exact latest.completed
  · intro k within reason failed
    rw [count] at within ⊢
    obtain rfl := reached.eq_of_failure within failed
    refine ⟨rfl, fun looked => ?_⟩
    have same : n = k := by omega
    rw [same, failed] at failure
    rw [ending, failure]
    exact ⟨rfl, rfl⟩
  · rw [exitCode_ending, failure, Fetched.failure?_eq_none_iff, all]
    refine ⟨fun success k within => ?_, fun successes => successes n (Nat.lt_succ_self n)⟩
    rcases Nat.lt_succ_iff_lt_or_eq.mp within with before | rfl
    · exact latest.succeeded k before
    · exact success

theorem reports_follow (l : Limit) (polling : r.polling = true)
    (answers : r.answers = script.map (⟨·, []⟩)) (spans : List Nat) (closing : Nat) :
    Reports l script r spans closing := by
  by_cases blind : spans = [] ∨ l.isReached 0 = true
  · obtain ⟨n, unaware⟩ := unaware_start polling answers
    exact reports_of_blind unaware.latest blind closing
  · obtain ⟨some, wanting⟩ := not_or.mp blind
    rw [Bool.not_eq_true] at wanting
    obtain ⟨span, rest, rfl⟩ := List.exists_cons_of_ne_nil some
    obtain ⟨n, informed⟩ := informed_follow polling answers wanting span rest
    exact informed.reports some wanting closing

-- The one record that is wanted takes an interval to print, and meanwhile a request fails.
example :
    let v := follow (.records 1)
      (Config.default.refresher [.ok (.int 7), .error (.badStatus 500)]) [0]
    v.ending.exitCode = 0 ∧ (v.timed.advance Config.default.interval).completed = 2 := by
  decide +kernel

end Onlooker

/-! ## The command -/

namespace RateOptions

/-- Unless the count is nought a failure ends the command with 1 and with the words of this
failure, and it ends with 0 only after cycles that all succeeded. -/
theorem reported_of_wanting {o : RateOptions} {w : World} {c : Config}
    (accepted : o.settings w.environment (w.disk.place o.config) = .ok c)
    (wanting : (Limit.of o).isReached 0 = false) :
    (∀ reason, .error reason ∈ o.cycles w →
        (o.run w).ending = .failed reason.message ∧ (o.run w).exitCode = 1) ∧
      ((o.run w).exitCode = 0 ↔ ∀ f ∈ o.cycles w, f.isOk) := by
  obtain ⟨records, yields, ⟨ended, -⟩ | ⟨reason, failed, ended, -⟩⟩ := exists_ended accepted wanting
  · have all : o.cycles w = records.map .ok := ended.cycles.trans yields
    have code : (o.run w).exitCode = 0 := ended.exitCode
    refine ⟨?_, ?_⟩
    · intro reason member
      simp [all] at member
    · simp [code, all, Except.isOk, Except.toBool]
  · have all := ended.cycles_of_error yields failed
    have code : (o.run w).exitCode = 1 := ended.exitCode
    refine ⟨?_, ?_⟩
    · intro other member
      obtain rfl : other = reason := by simpa [all] using member
      exact ⟨ended.ending, code⟩
    · simp [code, all, Except.isOk, Except.toBool]

/-- The failures of the command. Its cycles are what its requests come to, and there is at least
one. If each record is printed before the next cycle is due and nobody interrupts the command,
then a failure among its cycles ends it with 1 and with the words of this failure, and it ends
with 0 only after cycles that all succeeded; but with a count of nought there is one request,
nothing is printed, and the command ends with 0 whatever came of it. A loop beside timers comes
to the same if it keeps up with them. Of any loop beside timers, held up by what it prints or
interrupted as it may be, this is left: a failure is the last cycle that is completed before
polling is turned off, and it is reported if the loop has looked since. So only a failure after
the last look stays unsaid. -/
theorem failure_is_reported (o : RateOptions) (w : World) (c : Config)
    (accepted : o.settings w.environment (w.disk.place o.config) = .ok c) :
    (∃ k, 0 < k ∧ o.cycles w = (List.range k).map (c.cycle w.network) ∧
        (o.run w).world.network = w.network.after c.statisticsGet k) ∧
      (¬ (o.once = false ∧ o.count = some 0) →
        (∀ reason, .error reason ∈ o.cycles w →
            (o.run w).ending = .failed reason.message ∧ (o.run w).exitCode = 1) ∧
          ((o.run w).exitCode = 0 ↔ ∀ f ∈ o.cycles w, f.isOk)) ∧
      (o.once = false ∧ o.count = some 0 →
        o.Ended w c [] 1 (.ok ()) ∧ (o.run w).exitCode = 0) ∧
      (o.once = false → o.count ≠ some 0 → ∀ further spans,
        (∀ span ∈ spans, span ≤ c.interval) →
        ((o.cycles w).length - 1) * c.interval ≤ spans.sum →
        (Onlooker.watch (Limit.of o) (c.refresher (o.cycles w ++ further)) spans).Mirrors o w c) ∧
      (o.once = false → ∀ script spans closing,
        Onlooker.Reports (Limit.of o) script (c.refresher script) spans closing) := by
  refine ⟨exists_cycles accepted, fun wanted => ?_, fun nought => ?_, ?_,
    fun _ script spans closing => Onlooker.reports_follow _ rfl rfl spans closing⟩
  · refine reported_of_wanting accepted ?_
    rw [← Bool.not_eq_true, isReached_zero_iff]
    exact wanted
  · have ended := ended_of_nought accepted (isReached_zero_iff.mpr nought)
    exact ⟨ended, ended.exitCode⟩
  · intro _ counted further spans
    refine mirrors_watch accepted ?_ further
    rw [← Bool.not_eq_true, isReached_zero_iff]
    exact fun nought => counted nought.2

/-- An endless watch whose first request is refused. -/
theorem failure_is_reported_endless :
    let o := polling none
    let w := World.usual [.response ⟨404, [], [], 0⟩]
    (o.run w).ending = .failed "HTTP error: 404" ∧ (o.run w).exitCode = 1 := by
  intro o w
  obtain ⟨⟨k, positive, cycles, -⟩, reported, -⟩ :=
    failure_is_reported o w .default (settings_polling none w.network.answers)
  have first : .error (.badStatus 404) ∈ o.cycles w := by
    rw [cycles, List.mem_map]
    exact ⟨0, List.mem_range.mpr positive, cycle_refused 404 (by decide)⟩
  exact (reported (by decide)).1 _ first

/-- A count of nought hides a failure: the one request is refused, and the command ends with 0. -/
theorem nought_hides_failure :
    let o := polling (some 0)
    let w := World.usual [.response ⟨500, [], [], 0⟩]
    o.settings w.environment (w.disk.place o.config) = .ok .default ∧
      .error (.badStatus 500) ∈ o.cycles w ∧ (o.run w).ending = .done ∧ (o.run w).exitCode = 0 := by
  intro o w
  have accepted := settings_polling (some 0) w.network.answers
  have ended : o.Ended w .default [] 1 (.ok ()) := ended_of_nought accepted (by decide)
  refine ⟨accepted, ?_, ended.ending, ended.exitCode⟩
  rw [ended.cycles, List.mem_map]
  exact ⟨0, by decide, cycle_refused 500 (by decide)⟩

end RateOptions

end IngestWatch
