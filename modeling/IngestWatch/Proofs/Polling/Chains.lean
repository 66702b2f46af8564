import IngestWatch.Proofs.Polling.Log

/-!
Chains of cycles are conserved. A fetch awaited directly begins a chain; a cycle that
fails or finds polling off ends one; every other cycle hands its chain over to exactly
one waiting cycle. So the waiting cycles are the chains begun and not yet ended,
whatever the owner says and whenever, and no request is made that belongs to none.
-/

namespace IngestWatch.Polling

/-- A cycle ends its chain if it failed or found polling off when its result came. -/
def Delivery.endsChain (d : Delivery) : Bool :=
  !d.result.isOk || !d.polling

/-- A cycle that says it asked for a further one. -/
def Delivery.saysRescheduled (d : Delivery) : Bool :=
  d.outcome = .refreshed true

namespace Refresher

theorem endsChain_eq (r : Refresher) : r.delivery.endsChain = !r.delivery.next.isSome := by
  rw [delivery_next, Delivery.endsChain]
  cases r.delivery.result.isOk <;> cases r.delivery.polling <;> rfl

theorem saysRescheduled_eq (r : Refresher) :
    r.delivery.saysRescheduled = r.delivery.next.isSome := by
  rw [Bool.eq_iff_iff, Delivery.saysRescheduled, decide_eq_true_iff]
  exact r.delivery_outcome_iff

end Refresher

namespace ByHand

/-- What is delivered in a run is delivered by the refresher itself. -/
theorem exists_delivery_eq (s : ByHand) (moves : List Move) :
    ∀ d ∈ deliveries (s.log moves), ∃ r : Refresher, d = r.delivery := by
  refine of_run (P := fun log _ => ∀ d ∈ deliveries log, ∃ r : Refresher, d = r.delivery)
    s (by simp [deliveries]) ?_ moves
  intro log s more s' known h d member
  rw [deliveries_append, List.mem_append] at member
  rcases member with old | new
  · exact known d old
  · cases h with
    | idle => simp [deliveries] at new
    | told => simp [deliveries] at new
    | observed => simp [deliveries] at new
    | awaited => exact ⟨s.refresher, by simpa using new⟩
    | fired => exact ⟨s.refresher, by simpa using new⟩

/-- A cycle says that it asked for a further one exactly as often as one was asked for. -/
theorem length_delays (s : ByHand) (moves : List Move) :
    (delays (s.log moves)).length = (deliveries (s.log moves)).countP (·.saysRescheduled) := by
  have own := s.exists_delivery_eq moves
  rw [delays, List.length_filterMap_eq_countP]
  apply List.countP_congr
  intro d member
  obtain ⟨r, rfl⟩ := own d member
  rw [r.saysRescheduled_eq]

/-- Every cycle ends its chain or asks for one further cycle, never both. -/
theorem ended_add_delays (s : ByHand) (moves : List Move) :
    (deliveries (s.log moves)).countP (·.endsChain) + (delays (s.log moves)).length =
      (deliveries (s.log moves)).length := by
  have own := s.exists_delivery_eq moves
  have others : (deliveries (s.log moves)).countP (·.endsChain) =
      (deliveries (s.log moves)).countP (fun d => ¬ d.saysRescheduled) := by
    apply List.countP_congr
    intro d member
    obtain ⟨r, rfl⟩ := own d member
    rw [r.endsChain_eq, r.saysRescheduled_eq]
    simp
  have all := (deliveries (s.log moves)).length_eq_countP_add_countP (·.saysRescheduled)
  rw [others, s.length_delays moves]
  omega

/-- Requests and completed cycles are those awaited directly and those fired. -/
structure Counted (log : List Happening) (s : ByHand) : Prop where
  requests : s.requests = awaits log + (firings log).length
  targets : (targets log).length = s.requests
  cycles : (deliveries log).length = s.requests

theorem counted_append {log more : List Happening} {s s' : ByHand} {n : Nat}
    (counted : Counted log s) (requests : s'.requests = s.requests + n)
    (begun : awaits more + (firings more).length = n)
    (asked : (Polling.targets more).length = n) (ended : (deliveries more).length = n) :
    Counted (log ++ more) s' := by
  obtain ⟨known, targets, cycles⟩ := counted
  constructor
  · rw [requests, awaits_append, firings_append, List.length_append]
    omega
  · rw [requests, targets_append, List.length_append, targets, asked]
  · rw [requests, deliveries_append, List.length_append, cycles, ended]

theorem counted_of_leads {log more : List Happening} {s s' : ByHand}
    (counted : Counted log s) (h : s.Leads more s') : Counted (log ++ more) s' := by
  cases h with
  | idle => exact counted_append counted rfl rfl rfl rfl
  | told => exact counted_append counted rfl rfl rfl rfl
  | observed => exact counted_append counted rfl rfl rfl rfl
  | awaited => exact counted_append counted rfl (by simp) (by simp) (by simp)
  | fired => exact counted_append counted rfl (by simp) (by simp) (by simp)

theorem counted_run (r : Refresher) (moves : List Move) :
    Counted ((new r).log moves) ((new r).run moves) :=
  of_run (new r) ⟨rfl, rfl, rfl⟩ (fun _ _ _ _ counted h => counted_of_leads counted h) moves

/-- After any run the cycles that wait are the fetches awaited directly less the cycles
that ended their chain. Requests are made by direct fetches and fired cycles alone,
and as many further cycles were ever asked for as cycles said so. -/
theorem chains_conserved (pathPrefix statistic : String) (interval : Nat)
    (answers : List Answer) (moves : List Move) :
    let start := new (.new pathPrefix statistic interval answers)
    let s := start.run moves
    let log := start.log moves
    s.queue.count + (deliveries log).countP (·.endsChain) = awaits log ∧
      s.requests = awaits log + (firings log).length ∧
      (targets log).length = s.requests ∧
      (deliveries log).length = s.requests ∧
      s.queue.count + (firings log).length = (delays log).length ∧
      (delays log).length = (deliveries log).countP (·.saysRescheduled) := by
  intro start s log
  have counted : Counted log s := counted_run _ moves
  have inOrder : firings log ++ s.queue.pending = delays log := firings_append_pending _ moves
  have ended : (deliveries log).countP (·.endsChain) + (delays log).length =
      (deliveries log).length := ended_add_delays _ moves
  have waiting : s.queue.count + (firings log).length = (delays log).length := by
    rw [← inOrder, List.length_append, Timer.Queue.pending, List.length_map, Timer.Queue.count]
    omega
  refine ⟨?_, counted.requests, counted.targets, counted.cycles, waiting,
    length_delays _ moves⟩
  have requests := counted.requests
  have cycles := counted.cycles
  omega

end ByHand

end IngestWatch.Polling
