import IngestWatch.Proofs.Polling.InTime

/-!
A refresher in virtual time that nobody interferes with. It polls from the beginning, its first
cycle is run at once, and after each success the next one is run when one interval is over; so
there is at most one timer, the requests are one interval apart, and they end with the first
failure.
-/

namespace IngestWatch.Polling

open Timer

/-! ## Cycles that nobody interferes with -/

namespace Refresher

variable {r : Refresher} {rest : List Answer}

theorem cycle_of_ok {body : Json} (answers : r.answers = ⟨.ok body, []⟩ :: rest) :
    r.cycle =
      ({ r with
          answers := rest
          record := some body
          recordIsNews := true
          outcome := some (.refreshed r.polling)
          outcomeIsNews := true },
        .refreshed r.polling, if r.polling then some r.interval else none) := by
  simp only [cycle, request, answers, List.foldl_nil, deliver]

theorem cycle_of_error {reason : FetchFailure} (answers : r.answers = ⟨.error reason, []⟩ :: rest) :
    r.cycle =
      ({ r with answers := rest, outcome := some (.failed reason), outcomeIsNews := true },
        .failed reason, none) := by
  simp only [cycle, request, answers, List.foldl_nil, deliver]

/-- Whatever its result, a cycle goes on to the next answer and leaves the rest as it is. -/
theorem keeps_cycle {result : Fetched} (answers : r.answers = ⟨result, []⟩ :: rest) :
    r.cycle.1.polling = r.polling ∧ r.cycle.1.interval = r.interval ∧ r.cycle.1.answers = rest := by
  cases result with
  | ok body =>
    rw [cycle_of_ok answers]
    exact ⟨rfl, rfl, rfl⟩
  | error reason =>
    rw [cycle_of_error answers]
    exact ⟨rfl, rfl, rfl⟩

end Refresher

/-! ## A chain of cycles in time -/

/-- A refresher that polls, with a pause after each success and a script of results, when so many
cycles have been run, the first of them at once. -/
structure Chain (script : List Fetched) (pause cycles : Nat) (tl : Timeline Watched Unit) :
    Prop where
  polling : tl.world.refresher.polling = true
  interval : tl.world.refresher.interval = pause
  answers : tl.world.refresher.answers = (script.drop cycles).map (⟨·, []⟩)
  requestedAt : tl.world.requestedAt = (List.range cycles).map (· * pause)
  uncancelled : tl.cancelled = false

theorem Chain.of_clock {script : List Fetched} {pause cycles : Nat} {tl : Timeline Watched Unit}
    (chain : Chain script pause cycles tl) (now : Nat) (events : List (Event Unit)) :
    Chain script pause cycles { tl with now, events } :=
  ⟨chain.polling, chain.interval, chain.answers, chain.requestedAt, chain.uncancelled⟩

theorem Chain.subscribe {script : List Fetched} {pause cycles : Nat} {s : Timed}
    (chain : Chain script pause cycles s.timeline) :
    Chain script pause cycles (s.mapRefresher (·.subscribe)).timeline :=
  ⟨chain.polling, chain.interval, chain.answers, chain.requestedAt, chain.uncancelled⟩

/-- The latest cycle was a success, so there is a timer for the next one. -/
structure Waiting (script : List Fetched) (pause cycles : Nat) (tl : Timeline Watched Unit) :
    Prop extends Chain script pause cycles tl where
  events : ∃ slips, tl.events = [⟨cycles * pause, false, slips, ()⟩]
  ahead : tl.now < cycles * pause
  reached : cycles * pause ≤ tl.now + pause

/-- A cycle has succeeded, and nobody has looked at it yet. -/
structure Refreshed (script : List Fetched) (pause cycles : Nat) (body : Json)
    (tl : Timeline Watched Unit) : Prop extends Waiting script pause cycles tl where
  news : tl.world.refresher.outcomeIsNews = true
  outcome : tl.world.refresher.outcome = some (.refreshed true)
  record : tl.world.refresher.record = some body

/-- A cycle has failed, and nobody has looked at it yet. -/
structure Halted (script : List Fetched) (pause cycles : Nat) (reason : FetchFailure)
    (tl : Timeline Watched Unit) : Prop extends Chain script pause cycles tl where
  news : tl.world.refresher.outcomeIsNews = true
  outcome : tl.world.refresher.outcome = some (.failed reason)
  events : tl.events = []

section
variable {script : List Fetched} {pause cycles : Nat} {s : Timed}
  (chain : Chain script pause cycles s.timeline) (now : s.timeline.now = cycles * pause)
include chain now

theorem chain_cycled {result : Fetched} (next : script[cycles]? = some result) :
    Chain script pause (cycles + 1) s.cycled ∧
      s.refresher.answers = ⟨result, []⟩ :: (script.drop (cycles + 1)).map (⟨·, []⟩) := by
  obtain ⟨polling, interval, answers, requestedAt, uncancelled⟩ := chain
  obtain ⟨inside, rfl⟩ := List.getElem?_eq_some_iff.mp next
  rw [List.drop_eq_getElem_cons inside, List.map_cons] at answers
  have requested : s.timeline.world.requestedAt ++ [s.timeline.now] =
      (List.range (cycles + 1)).map (· * pause) := by
    rw [requestedAt, now, List.range_succ, List.map_append, List.map_singleton]
  obtain ⟨polls, every, left⟩ := Refresher.keeps_cycle answers
  exact ⟨⟨polls.trans polling, every.trans interval, left, requested, uncancelled⟩, answers⟩

theorem refreshed_cycled (positive : 0 < pause) (idle : s.timeline.events = []) {body : Json}
    (next : script[cycles]? = some (.ok body)) :
    Refreshed script pause (cycles + 1) body s.cycled := by
  obtain ⟨further, answers⟩ := chain_cycled chain now next
  have ran : s.timeline.world.refresher.cycle = _ := Refresher.cycle_of_ok answers
  have later : (cycles + 1) * pause = s.timeline.now + pause := by rw [now, Nat.succ_mul]
  refine ⟨⟨further, ?_, ?_, ?_⟩, ?_, ?_, ?_⟩
  · refine ⟨s.timeline.world.slips s.timeline.world.requestedAt.length, ?_⟩
    simp [Timed.cycled, Timeline.setAll, Timeline.accepts, Watched.cycle, ran, chain.polling,
      chain.interval, chain.uncancelled, idle, later]
  · change s.timeline.now < _
    omega
  · exact later.le
  all_goals simp [Timed.cycled, Timeline.setAll, Watched.cycle, ran, chain.polling]

theorem halted_cycled (idle : s.timeline.events = []) {reason : FetchFailure}
    (next : script[cycles]? = some (.error reason)) :
    Halted script pause (cycles + 1) reason s.cycled := by
  obtain ⟨further, answers⟩ := chain_cycled chain now next
  have ran : s.timeline.world.refresher.cycle = _ := Refresher.cycle_of_error answers
  refine ⟨further, ?_, ?_, ?_⟩
  all_goals simp [Timed.cycled, Timeline.setAll, Watched.cycle, ran, idle]

end

/-! ## Time going forward -/

section
variable {script : List Fetched} {pause cycles instant : Nat} {tl : Timeline Watched Unit}

theorem Waiting.of_clock (waiting : Waiting script pause cycles tl)
    (before : instant < cycles * pause) :
    Waiting script pause cycles { tl with now := max tl.now instant } := by
  obtain ⟨chain, events, ahead, reached⟩ := waiting
  refine ⟨chain.of_clock _ _, events, Nat.max_lt.mpr ⟨ahead, before⟩, ?_⟩
  have later : tl.now ≤ max tl.now instant := Nat.le_max_left _ _
  change cycles * pause ≤ max tl.now instant + pause
  omega

theorem Waiting.runUntil_eq (waiting : Waiting script pause cycles tl)
    (before : instant < cycles * pause) :
    tl.runUntil program instant = { tl with now := max tl.now instant } := by
  obtain ⟨slips, events⟩ := waiting.events
  exact (Timeline.runUntil_of_ahead (by simpa [events] using before)).1

theorem Refreshed.runUntil {body : Json} (refreshed : Refreshed script pause cycles body tl)
    (before : instant < cycles * pause) :
    Refreshed script pause cycles body (tl.runUntil program instant) := by
  obtain ⟨waiting, news, outcome, record⟩ := refreshed
  rw [waiting.runUntil_eq before]
  exact ⟨waiting.of_clock before, news, outcome, record⟩

theorem Halted.runUntil {reason : FetchFailure} (halted : Halted script pause cycles reason tl) :
    Halted script pause cycles reason (tl.runUntil program instant) := by
  obtain ⟨chain, news, outcome, events⟩ := halted
  rw [(Timeline.runUntil_of_ahead (by simp [events])).1]
  exact ⟨chain.of_clock _ _, news, outcome, events⟩

/-- When the pause is over its timer runs the next cycle. -/
theorem Waiting.runUntil_of_due (waiting : Waiting script pause cycles tl)
    (due : cycles * pause ≤ instant) : ∃ s : Timed,
      Chain script pause cycles s.timeline ∧ s.timeline.now = cycles * pause ∧
        s.timeline.events = [] ∧
        tl.runUntil program instant = s.cycled.runUntil program instant := by
  obtain ⟨chain, ⟨slips, events⟩, ahead, -⟩ := waiting
  have earliest : takeEarliest? tl.events = some (⟨cycles * pause, false, slips, ()⟩, []) := by
    rw [events]
    rfl
  have clock : max tl.now (cycles * pause) = cycles * pause := Nat.max_eq_right ahead.le
  exact ⟨⟨{ tl with now := max tl.now (cycles * pause), events := [] }, 0⟩, chain.of_clock _ _,
    clock, rfl, (Timeline.runUntil_of_due earliest due).1⟩

end

/-- Once all timers are dropped, time goes forward and nothing happens. -/
theorem world_cancelled {s : Timed} (droppable : ∀ e ∈ s.timeline.events, e.kept = false)
    (later : Nat) : (s.cancel.advance later).timeline.world = s.timeline.world := by
  have none : s.cancel.timeline.events = [] := by
    rw [Timed.cancel, Timeline.cancel, List.filter_eq_nil_iff]
    exact fun e member => by simp [droppable e member]
  rw [Timed.advance, Timeline.advance, (Timeline.runUntil_of_ahead (by simp [none])).1]
  rfl

end IngestWatch.Polling
