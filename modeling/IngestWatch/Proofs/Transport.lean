import IngestWatch.Http.Network
import IngestWatch.Transport
import IngestWatch.Proofs.History.Effects
import IngestWatch.Proofs.Polling.Observers
import IngestWatch.Proofs.Target.Reference
import Mathlib

/-!
What is kept of requests. Each of them is sampled once under the label of its target, whatever
comes of it, and counted once more if it failed. A label ends before the query, so windows and
statistics do not show in it: what is kept of a history has one label, and so has what is kept
of a statistic.
-/

namespace IngestWatch

/-! ## Labels -/

namespace Target

/-- A label is the part of a target before its first `?`. -/
theorem label_eq_takeWhile (target : String) :
    label target = String.ofList (target.toList.takeWhile (· ≠ '?')) := by
  rw [← fst_cut, label, cut]
  cases Text.cutAt? '?' target.toList with
  | none => rw [String.ofList_toList]
  | some parts => rfl

theorem label_of_made {target : String} {path query : List Char} (plain : '?' ∉ path)
    (made : target.toList = path ++ '?' :: query) : label target = String.ofList path := by
  rw [label, made, Text.cutAt?_append plain]

variable {pathPrefix : String}

theorem label_history (plain : '?' ∉ pathPrefix.toList) (w : Window) :
    label (history pathPrefix w.start w.stop w.ingestType) =
      bare pathPrefix ++ "/services/ecs" := by
  rw [label_of_made (mark_not_mem_path plain (by decide)) (toList_history pathPrefix w),
    String.ofList_toList]

theorem label_statistics (plain : '?' ∉ pathPrefix.toList) (statistic : String) :
    label (statistics pathPrefix statistic) = bare pathPrefix ++ "/services/statistics" := by
  rw [label_of_made (mark_not_mem_path plain (by decide)) (toList_statistics pathPrefix statistic),
    String.ofList_toList]

end Target

/-! ## The requests of a refresher -/

namespace Polling.Refresher

theorem cycle_target (r : Refresher) : r.cycle.1.target = r.target := by
  obtain ⟨interval, polling, answers, reached⟩ := r.exists_atDelivery
  rw [cycle_fst, reached]
  cases r.request.1.result <;> rfl

/-- Whatever happens to a refresher, all its requests are for one target. -/
theorem targets_of_evolves {r r' : Refresher} {waiting waiting' : Nat} {log : List Happening}
    (evolves : r.Evolves waiting log r' waiting') :
    r'.target = r.target ∧ ∀ target ∈ targets log, target = r.target := by
  induction evolves with
  | start => exact ⟨rfl, by simp [targets]⟩
  | @turn log more r' r'' n n' _ next ih =>
    obtain ⟨same, before⟩ := ih
    have one : r''.target = r'.target ∧ ∀ target ∈ targets more, target = r'.target := by
      cases next with
      | lapsed => exact ⟨rfl, by simp [targets]⟩
      | told command => cases command <;> exact ⟨rfl, by simp [targets]⟩
      | observed => exact ⟨rfl, by simp [targets]⟩
      | awaited => exact ⟨cycle_target r', by simp⟩
      | fired => exact ⟨cycle_target r', by simp⟩
    refine ⟨one.1.trans same, fun target member => ?_⟩
    rw [targets_append, List.mem_append] at member
    exact member.elim (before target) fun new => (one.2 target new).trans same

end Polling.Refresher

/-! ## What is kept -/

namespace Transport

/-- A request that was made, and what it came to. -/
structure Call where
  target : String
  result : Fetched

def Call.failed (c : Call) : Bool :=
  !c.result.isOk

/-- What is kept of some requests. -/
def kept (calls : List Call) : List Metric :=
  calls.flatMap fun c => metrics c.target c.result

/-- Fetches one target after the other from any partner. -/
def fetchAll {State : Type} (partner : Http.Request → State → Http.Answer × State)
    (t : Transport) : List String → State → List Call × State
  | [], s => ([], s)
  | target :: rest, s =>
    let (exchange, s) := (t.exchange target).run partner s
    let (calls, s) := fetchAll partner t rest s
    (⟨target, exchange.fetched⟩ :: calls, s)

/-- All of these targets are kept under one label. -/
def HaveLabel (label : String) (targets : List String) : Prop :=
  ∀ target ∈ targets, Target.label target = label

theorem map_target_fetchAll {State : Type}
    (partner : Http.Request → State → Http.Answer × State) (t : Transport)
    (targets : List String) (s : State) :
    (t.fetchAll partner targets s).1.map Call.target = targets := by
  induction targets generalizing s with
  | nil => rfl
  | cons target rest ih =>
    rw [fetchAll, List.map_cons]
    exact congrArg (target :: ·) (ih _)

/-- One request leaves one sample, and one count if it failed, all under its label. -/
theorem count_metrics (c : Call) (label : String) :
    (metrics c.target c.result).count (.latency label) =
        (if Target.label c.target = label then 1 else 0) ∧
      (metrics c.target c.result).count (.failure label) =
        if Target.label c.target = label ∧ c.failed = true then 1 else 0 := by
  cases result : c.result with
  | ok value =>
    simp [metrics, Call.failed, result, List.count_singleton, Except.isOk, Except.toBool]
  | error reason =>
    simp [metrics, Call.failed, result, List.count_cons, Except.isOk, Except.toBool]

theorem count_kept (calls : List Call) (label : String) :
    (kept calls).count (.latency label) = (calls.map Call.target).countP (Target.label · = label) ∧
      (kept calls).count (.failure label) =
        calls.countP fun c => Target.label c.target = label ∧ c.failed = true := by
  induction calls with
  | nil => exact ⟨rfl, rfl⟩
  | cons c rest ih =>
    obtain ⟨sampled, counted⟩ := count_metrics c label
    have more : kept (c :: rest) = metrics c.target c.result ++ kept rest := List.flatMap_cons
    rw [more, List.count_append, List.count_append, sampled, counted, ih.1, ih.2, List.map_cons,
      List.countP_cons, List.countP_cons]
    simp only [decide_eq_true_eq]
    omega

theorem label_of_mem_kept {calls : List Call} {m : Metric} (member : m ∈ kept calls) :
    ∃ c ∈ calls, m.label = Target.label c.target := by
  obtain ⟨c, inside, of⟩ := List.mem_flatMap.mp member
  refine ⟨c, inside, ?_⟩
  cases result : c.result with
  | ok value =>
    obtain rfl : m = .latency (Target.label c.target) := by simpa [metrics, result] using of
    rfl
  | error reason =>
    obtain rfl | rfl : m = .latency (Target.label c.target) ∨
        m = .failure (Target.label c.target) := by simpa [metrics, result] using of
    all_goals rfl

/-- The account of any requests to any partner. Under each label there are as many samples as
requests for a target with this label, and as many failures as there are among these requests
that failed. The label is what stands before the first `?`. Where targets have one label,
everything that is kept of them has it; and below a prefix without `?` one label is enough for
every window whose history is fetched, and one for every cycle of a refresher, by hand or in
time. -/
theorem metrics_account {State : Type} (partner : Http.Request → State → Http.Answer × State)
    (t : Transport) (targets : List String) (s : State) :
    let calls := (t.fetchAll partner targets s).1
    calls.map Call.target = targets ∧
      (∀ target, Target.label target = String.ofList (target.toList.takeWhile (· ≠ '?'))) ∧
      (∀ label,
        (kept calls).count (.latency label) = targets.countP (Target.label · = label) ∧
          (kept calls).count (.failure label) =
            calls.countP (fun c => Target.label c.target = label ∧ c.failed = true) ∧
          (kept calls).count (.failure label) ≤ (kept calls).count (.latency label)) ∧
      (∀ label, HaveLabel label targets → ∀ m ∈ kept calls, m.label = label) ∧
      ∀ pathPrefix : String, '?' ∉ pathPrefix.toList →
        (∀ window steps, HaveLabel (Target.bare pathPrefix ++ "/services/ecs")
          ((History.new pathPrefix window).requests steps)) ∧
        ∀ statistic interval answers,
          let r := Polling.Refresher.new pathPrefix statistic interval answers
          (∀ moves, HaveLabel (Target.bare pathPrefix ++ "/services/statistics")
            (Polling.targets (Polling.ByHand.scheduling.log (.new r) moves))) ∧
          ∀ slips moves, HaveLabel (Target.bare pathPrefix ++ "/services/statistics")
            (Polling.targets (Polling.Timed.scheduling.log (.new r slips) moves)) := by
  intro calls
  have asked : calls.map Call.target = targets := map_target_fetchAll partner t targets s
  refine ⟨asked, Target.label_eq_takeWhile, fun label => ?_, fun label one m member => ?_,
    fun pathPrefix plain => ⟨fun window steps target member => ?_,
      fun statistic interval answers => ?_⟩⟩
  · obtain ⟨sampled, counted⟩ := count_kept calls label
    refine ⟨asked ▸ sampled, counted, ?_⟩
    rw [sampled, counted, List.countP_map]
    exact List.countP_mono_left fun c _ both => by simp_all
  · obtain ⟨c, inside, same⟩ := label_of_mem_kept member
    exact same.trans (one _ (asked ▸ List.mem_map_of_mem inside))
  · obtain ⟨w, rfl⟩ := History.exists_window_of_mem_requests member
    exact Target.label_history plain w
  · have one := Target.label_statistics plain statistic
    refine ⟨fun moves target member => ?_, fun slips moves target member => ?_⟩
    · have evolves := Polling.ByHand.scheduling.evolves_run
        (.new (.new pathPrefix statistic interval answers)) moves
      rw [(Polling.Refresher.targets_of_evolves evolves).2 target member]
      exact one
    · have evolves := Polling.Timed.scheduling.evolves_run
        (.new (.new pathPrefix statistic interval answers) slips) moves
      rw [(Polling.Refresher.targets_of_evolves evolves).2 target member]
      exact one

/-- Two windows are asked for where nobody can be reached, the second with a type that looks like
another query: both are sampled and counted as failures, under one label. -/
theorem metrics_account_unreachable :
    let h : History := .new "/api//" ⟨0, 5, "bulk"⟩
    let targets := h.requests [.fetch Fetched.exhausted, .setIngestType "a?b", .fetch (.ok .null)]
    let calls := ((new "nowhere" none).fetchAll Http.Network.ask targets ⟨"", [], []⟩).1
    '?' ∉ "/api//".toList ∧ HaveLabel "/api/services/ecs" targets ∧
      (kept calls).count (.latency "/api/services/ecs") = 2 ∧
      (kept calls).count (.failure "/api/services/ecs") = 2 := by
  intro h targets calls
  have plain : '?' ∉ "/api//".toList := by decide
  have path : Target.bare "/api//" = "/api" := by decide
  obtain ⟨-, -, counts, -, below⟩ :=
    metrics_account Http.Network.ask (new "nowhere" none) targets ⟨"", [], []⟩
  obtain ⟨sampled, counted, -⟩ := counts "/api/services/ecs"
  have one := (below "/api//" plain).1 ⟨0, 5, "bulk"⟩
    [.fetch Fetched.exhausted, .setIngestType "a?b", .fetch (.ok .null)]
  rw [path] at one
  refine ⟨plain, one, sampled.trans ?_, counted.trans ?_⟩
  · decide +kernel
  · decide +kernel

end Transport

end IngestWatch
