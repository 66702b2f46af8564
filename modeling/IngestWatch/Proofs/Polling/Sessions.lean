import IngestWatch.Proofs.Polling.Log

/-!
A refresher used in sessions: polling is turned on, one fetch is awaited, some waiting
cycles are fired, polling is turned off. Turning polling off leaves the waiting cycle in
the queue, and the next session revives it. So there are at most as many chains as
sessions, and at most one only as long as no session that goes on polling starts beside
a waiting cycle.
-/

namespace IngestWatch.Polling

structure Session where
  interval : Option Nat
  firings : Nat

/-- The moves of a session, in order. -/
def Session.moves (p : Session) : List Move :=
  [.take (.tell (.start p.interval)), .take .fetch] ++
    (List.replicate p.firings .fire ++ [.take (.tell .stop)])

def sessionMoves (sessions : List Session) : List Move :=
  sessions.flatMap Session.moves

/-- A move that awaits a fetch. -/
def Move.isDirect : Move → Bool
  | .take .fetch | .take .await => true
  | _ => false

namespace ByHand

/-- A move adds at most one waiting cycle, and none unless it awaits a fetch. -/
theorem count_of_leads {s s' : ByHand} {more : List Happening} (h : s.Leads more s') :
    s'.queue.count ≤ s.queue.count + awaits more := by
  have atMostOne : s.refresher.delivery.next.toList.length ≤ 1 := by
    cases s.refresher.delivery.next <;> simp
  cases h with
  | idle => exact Nat.le_add_right _ _
  | told => exact Nat.le_add_right _ _
  | observed => exact Nat.le_add_right _ _
  | awaited prepared =>
    rw [runCycle_count, Refresher.awaits_cycleLog]
    exact Nat.add_le_add_left atMostOne _
  | fired t rest oldest =>
    have waiting : s.queue.count = (Timer.Queue.mk rest).count + 1 := by
      simp [Timer.Queue.count, oldest]
    rw [runCycle_count, Refresher.awaits_cycleLog]
    simp only [Option.isNone_some, Bool.false_eq_true, if_false]
    omega

theorem count_run_le (s : ByHand) (moves : List Move) :
    (s.run moves).queue.count ≤ s.queue.count + awaits (s.log moves) := by
  refine of_run (P := fun log s' => s'.queue.count ≤ s.queue.count + awaits log) s ?_ ?_ moves
  · exact Nat.le_add_right _ _
  · intro log s' more s'' bound h
    have step := count_of_leads h
    rw [awaits_append]
    omega

theorem awaits_happenings_le (s : ByHand) (move : Move) :
    awaits (s.happenings move) ≤ if move.isDirect then 1 else 0 := by
  match move with
  | .take (.tell _) => exact Nat.le_refl 0
  | .take .fetch => simp [happenings, Move.isDirect]
  | .take .prepare => exact Nat.le_refl 0
  | .take .discard => exact Nat.le_refl 0
  | .take .subscribe => exact Nat.le_refl 0
  | .take .look => exact Nat.le_refl 0
  | .take .await =>
    by_cases none : s.prepared = 0
    · simp [happenings, none, awaits]
    · simp [happenings, none, Move.isDirect]
  | .fire =>
    cases oldest : s.queue.waiting with
    | nil => simp [happenings, oldest, awaits]
    | cons t rest => simp [happenings, oldest]

theorem awaits_log_le (s : ByHand) (moves : List Move) :
    awaits (s.log moves) ≤ moves.countP (·.isDirect) := by
  induction moves generalizing s with
  | nil => exact Nat.le_refl 0
  | cons move rest ih =>
    have head := s.awaits_happenings_le move
    have tail := ih (s.act move)
    rw [log, awaits_append, List.countP_cons]
    omega

/-- Moves that await no fetch never add to the waiting cycles. -/
theorem count_run_le_of_indirect (s : ByHand) {moves : List Move}
    (indirect : ∀ m ∈ moves, m.isDirect = false) :
    (s.run moves).queue.count ≤ s.queue.count := by
  have begun := s.awaits_log_le moves
  have none : moves.countP (·.isDirect) = 0 := by
    rw [List.countP_eq_zero]
    intro m member
    simp [indirect m member]
  have bound := s.count_run_le moves
  omega

/-- A fetch awaited now adds the one cycle it asks for. -/
theorem count_fetch (s : ByHand) :
    (s.act (.take .fetch)).queue.count =
      s.queue.count + if (s.step .fetch).2 = .outcome (.refreshed true) then 1 else 0 := by
  have count : (s.act (.take .fetch)).queue.count =
      s.queue.count + s.refresher.delivery.next.toList.length := s.runCycle_count
  have reply : (s.step .fetch).2 = .outcome s.refresher.delivery.outcome := by
    rw [← Refresher.cycle_outcome]
    rfl
  have asked := s.refresher.delivery_outcome_iff
  rw [count, reply]
  cases next : s.refresher.delivery.next with
  | none =>
    rw [next] at asked
    simp [asked]
  | some delay =>
    rw [next] at asked
    simp [asked]

/-! ## At most one waiting cycle -/

/-- At most one cycle waits before, between and after moves. -/
def AtMostOne (s : ByHand) (moves : List Move) : Prop :=
  ∀ done, done <+: moves → (s.run done).queue.count ≤ 1

theorem atMostOne_append (s : ByHand) (first second : List Move) :
    s.AtMostOne (first ++ second) ↔ s.AtMostOne first ∧ (s.run first).AtMostOne second := by
  constructor
  · intro h
    constructor
    · intro done earlier
      exact h done (earlier.trans (List.prefix_append first second))
    · intro done earlier
      rw [← run_append]
      exact h _ ((List.prefix_append_right_inj first).mpr earlier)
  · rintro ⟨before, after⟩ done ⟨left, whole⟩
    rcases List.append_eq_append_iff.mp whole with ⟨middle, same, -⟩ | ⟨more, same, rest⟩
    · exact before done ⟨middle, same.symm⟩
    · rw [same, run_append]
      exact after more ⟨left, rest.symm⟩

theorem atMostOne_of_indirect {s : ByHand} (one : s.queue.count ≤ 1) {moves : List Move}
    (indirect : ∀ m ∈ moves, m.isDirect = false) : s.AtMostOne moves := by
  intro done earlier
  have kept := s.count_run_le_of_indirect fun m member => indirect m (earlier.subset member)
  omega

/-- A session that starts with no cycle waiting, or whose fetch asks for none. -/
def StartsAlone (s : ByHand) (p : Session) : Prop :=
  s.queue.count = 0 ∨
    ((s.act (.take (.tell (.start p.interval)))).step .fetch).2 ≠ .outcome (.refreshed true)

theorem atMostOne_session_iff {s : ByHand} (one : s.queue.count ≤ 1) (p : Session) :
    s.AtMostOne p.moves ↔ s.StartsAlone p := by
  have fetched : (s.run [.take (.tell (.start p.interval)), .take .fetch]).queue.count =
      s.queue.count +
        if ((s.act (.take (.tell (.start p.interval)))).step .fetch).2 =
          .outcome (.refreshed true) then 1 else 0 :=
    count_fetch _
  constructor
  · intro h
    have bound := h _ (List.prefix_append _ _)
    rw [fetched] at bound
    by_cases again : ((s.act (.take (.tell (.start p.interval)))).step .fetch).2 =
        .outcome (.refreshed true)
    · rw [if_pos again] at bound
      exact Or.inl (by omega)
    · exact Or.inr again
  · intro alone
    have bound : (s.run [.take (.tell (.start p.interval)), .take .fetch]).queue.count ≤ 1 := by
      rw [fetched]
      rcases alone with empty | quiet
      · rw [empty]
        split <;> omega
      · rw [if_neg quiet]
        exact one
    refine (atMostOne_append s _ _).mpr ⟨?_, atMostOne_of_indirect bound ?_⟩
    · refine (atMostOne_append s [_] [_]).mpr ⟨?_, ?_⟩
      · exact atMostOne_of_indirect one (by simp [Move.isDirect])
      · intro done earlier
        rcases List.prefix_cons_iff.mp earlier with rfl | ⟨rest, rfl, inside⟩
        · exact one
        · rw [List.prefix_nil.mp inside]
          exact bound
    · intro m member
      simp only [List.mem_append, List.mem_replicate, List.mem_singleton] at member
      rcases member with ⟨-, rfl⟩ | rfl
      · rfl
      · rfl

/-- Session after session, at most one cycle waits exactly if each session starts alone. -/
theorem atMostOne_sessions_iff {s : ByHand} (one : s.queue.count ≤ 1) (sessions : List Session) :
    s.AtMostOne (sessionMoves sessions) ↔
      ∀ earlier p later, sessions = earlier ++ p :: later →
        (s.run (sessionMoves earlier)).StartsAlone p := by
  -- a session that keeps the bound hands it to the next one as `next`
  induction sessions generalizing s with
  | nil =>
    constructor
    · intro _ earlier p later parts
      simp at parts
    · intro _
      exact atMostOne_of_indirect one (by simp [sessionMoves])
  | cons p rest ih =>
    have cons : sessionMoves (p :: rest) = p.moves ++ sessionMoves rest := List.flatMap_cons
    rw [cons, atMostOne_append]
    constructor
    · rintro ⟨first, others⟩ earlier q later parts
      have next : (s.run p.moves).queue.count ≤ 1 := first _ (List.prefix_refl _)
      cases earlier with
      | nil =>
        obtain ⟨rfl, -⟩ := List.cons.inj parts
        exact (atMostOne_session_iff one p).mp first
      | cons p' earlier =>
        obtain ⟨rfl, tail⟩ := List.cons.inj parts
        have alone := (ih next).mp others earlier q later tail
        rwa [← run_append] at alone
    · intro alone
      have first : s.AtMostOne p.moves :=
        (atMostOne_session_iff one p).mpr (alone [] p rest rfl)
      have next : (s.run p.moves).queue.count ≤ 1 := first _ (List.prefix_refl _)
      refine ⟨first, (ih next).mpr ?_⟩
      intro earlier q later parts
      rw [← run_append]
      exact alone (p :: earlier) q later (by rw [parts]; rfl)

/-- The fetches awaited in sessions are those the sessions begin with. -/
theorem countP_isDirect_sessions {sessions : List Session} {done : List Move}
    (earlier : done <+: sessionMoves sessions) :
    done.countP (·.isDirect) = done.count (.take .fetch) := by
  apply List.countP_congr
  intro m member
  obtain ⟨p, -, inside⟩ := List.mem_flatMap.mp (earlier.subset member)
  simp only [Session.moves, List.mem_append, List.mem_cons, List.not_mem_nil, or_false,
    List.mem_replicate] at inside
  rcases inside with (rfl | rfl) | ⟨-, rfl⟩ | rfl
  · simp [Move.isDirect]
  · decide
  · decide
  · decide

/-- In sessions, after every move at most as many cycles wait as sessions have awaited
their fetch, and at most one after every move exactly if each session starts with no
cycle waiting or its fetch asks for none. -/
theorem sessions_waiting (pathPrefix statistic : String) (interval : Nat)
    (answers : List Answer) (sessions : List Session) :
    let start := new (.new pathPrefix statistic interval answers)
    (∀ done, done <+: sessionMoves sessions →
      (start.run done).queue.count ≤ done.count (.take .fetch)) ∧
      ((∀ done, done <+: sessionMoves sessions → (start.run done).queue.count ≤ 1) ↔
        ∀ earlier p later, sessions = earlier ++ p :: later →
          (start.run (sessionMoves earlier)).StartsAlone p) := by
  intro start
  have empty : start.queue.count = 0 := rfl
  refine ⟨?_, start.atMostOne_sessions_iff (by omega) sessions⟩
  intro done earlier
  have bound := start.count_run_le done
  have begun := start.awaits_log_le done
  rw [countP_isDirect_sessions earlier] at begun
  omega

/-- The bound is reached when the second session begins beside the cycle of the first. -/
theorem sessions_waiting_reached :
    let start := new (.new "" "queryRate" 5000 [⟨.ok .null, []⟩, ⟨.ok .null, []⟩])
    let sessions : List Session := [⟨some 1000, 0⟩, ⟨none, 0⟩]
    let done := sessionMoves sessions
    done <+: sessionMoves sessions ∧ (start.run done).queue.count = 2 ∧
      (start.run done).queue.count ≤ done.count (.take .fetch) :=
  ⟨List.prefix_refl _, rfl, (sessions_waiting "" "queryRate" 5000 [⟨.ok .null, []⟩, ⟨.ok .null, []⟩]
    [⟨some 1000, 0⟩, ⟨none, 0⟩]).1 _ (List.prefix_refl _)⟩

/-- A session that starts after a successful one runs beside the cycle left over from it:
two cycles wait. -/
theorem second_session_beside_leftover :
    let start := new (.new "" "queryRate" 5000 [⟨.ok .null, []⟩, ⟨.ok .null, []⟩])
    let sessions : List Session := [⟨some 1000, 0⟩, ⟨none, 0⟩]
    let done := (sessionMoves sessions).dropLast
    done <+: sessionMoves sessions ∧ (start.run done).queue.pending = [1000, 1000] ∧
      ¬ (start.run done).queue.count ≤ 1 := by
  refine ⟨List.dropLast_prefix _, rfl, ?_⟩
  decide

end ByHand

end IngestWatch.Polling
