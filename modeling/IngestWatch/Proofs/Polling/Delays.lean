import IngestWatch.Proofs.Polling.Log

/-!
When a cycle asks for a further one and after which delay, told from the log alone.
Both are settled at the moment its result is delivered: by the latest command given
until then, and by the latest interval given until then, however the commands fall
between the making of a fetch, its request and its result. A delay once asked for is
never changed.
-/

namespace IngestWatch.Polling

/-- The interval a command brings, if it brings one. -/
def Command.interval? : Command → Option Nat
  | .start interval => interval
  | .stop => none

/-- Whether the latest command is a start. -/
def endsOn (commands : List Command) : Bool :=
  match commands.getLast? with
  | some (.start _) => true
  | _ => false

/-- The latest interval among commands, or the configured one. -/
def latestInterval (configured : Nat) (commands : List Command) : Nat :=
  (commands.filterMap Command.interval?).getLast?.getD configured

theorem endsOn_iff (commands : List Command) :
    endsOn commands = true ↔ ∃ interval, commands.getLast? = some (.start interval) := by
  unfold endsOn
  split
  · next interval latest => simp [latest]
  · next other =>
    simp only [Bool.false_eq_true, false_iff, not_exists]
    exact other

theorem latestInterval_concat (configured : Nat) (commands : List Command) (c : Command) :
    latestInterval configured (commands ++ [c]) =
      c.interval?.getD (latestInterval configured commands) := by
  unfold latestInterval
  cases interval : c.interval? with
  | none => simp [interval]
  | some n => simp [interval]

/-- A refresher is where commands have brought it: its interval and whether it polls
are told from them. -/
structure Follows (configured : Nat) (commands : List Command) (r : Refresher) : Prop where
  interval : r.interval = latestInterval configured commands
  polling : r.polling = endsOn commands

theorem follows_obey {configured : Nat} {commands : List Command} {r : Refresher}
    (h : Follows configured commands r) (c : Command) :
    Follows configured (commands ++ [c]) (r.obey c) := by
  constructor
  · rw [latestInterval_concat, ← h.interval]
    cases c <;> rfl
  · cases c <;> simp [endsOn, Refresher.obey, Refresher.start, Refresher.stop]

theorem follows_foldl {configured : Nat} {commands : List Command} {r : Refresher}
    (h : Follows configured commands r) (more : List Command) :
    Follows configured (commands ++ more) (more.foldl Refresher.obey r) := by
  induction more generalizing commands r with
  | nil => simpa using h
  | cons c rest ih =>
    have next := ih (follows_obey h c)
    rwa [List.append_assoc] at next

/-- What is said while a request is under way has been obeyed when its result comes. -/
theorem follows_atDelivery {configured : Nat} {commands : List Command} {r : Refresher}
    (h : Follows configured commands r) :
    Follows configured (commands ++ r.request.1.during) r.atDelivery := by
  refine follows_foldl ⟨?_, ?_⟩ _
  · rw [r.request_interval, h.interval]
  · rw [r.request_polling, h.polling]

/-- The result of a cycle changes neither the interval nor whether polling is on. -/
theorem follows_cycle {configured : Nat} {commands : List Command} {r : Refresher}
    (h : Follows configured commands r) :
    Follows configured (commands ++ r.request.1.during) r.cycle.1 := by
  have reached := follows_atDelivery h
  constructor
  · rw [r.cycle_interval, reached.interval]
  · rw [r.cycle_polling, reached.polling]

/-- The delay of the cycle that is due after a result, told from what was logged before. -/
def due (configured : Nat) (before : List Happening) (result : Fetched) : Option Nat :=
  if result.isOk && endsOn (commands before) then
    some (latestInterval configured (commands before))
  else none

theorem due_isSome_iff (configured : Nat) (before : List Happening) (result : Fetched) :
    (due configured before result).isSome ↔ (∃ body, result = .ok body) ∧
      ∃ interval, (commands before).getLast? = some (.start interval) := by
  rw [← endsOn_iff, due]
  cases result with
  | ok body => cases endsOn (commands before) <;> simp [Except.isOk, Except.toBool]
  | error reason => simp [Except.isOk, Except.toBool]

theorem eq_latestInterval_of_due {configured : Nat} {before : List Happening} {result : Fetched}
    {delay : Nat} (h : due configured before result = some delay) :
    delay = latestInterval configured (commands before) := by
  unfold due at h
  split at h
  · exact (Option.some.inj h).symm
  · cases h

/-- Every cycle in a log has asked for what was due. -/
def Decided (configured : Nat) (log : List Happening) : Prop :=
  ∀ before d, before ++ [.delivered d] <+: log → d.next = due configured before d.result

theorem decided_concat {configured : Nat} {log : List Happening} {h : Happening}
    (decided : Decided configured log)
    (last : ∀ d, h = .delivered d → d.next = due configured log d.result) :
    Decided configured (log ++ [h]) := by
  intro before d earlier
  rcases List.prefix_concat_iff.mp earlier with whole | inside
  · obtain ⟨rfl, same⟩ := List.append_inj' whole rfl
    exact last d (List.singleton_inj.mp same).symm
  · exact decided before d inside

theorem decided_append_commands {configured : Nat} {log : List Happening}
    (decided : Decided configured log) (more : List Command) :
    Decided configured (log ++ more.map .told) := by
  induction more using List.reverseRecOn with
  | nil => simpa using decided
  | append_singleton rest c ih =>
    rw [List.map_append, ← List.append_assoc]
    exact decided_concat ih (by simp)

/-- A cycle asks for what is due by all that was logged before its result. -/
theorem decided_cycleLog {configured : Nat} {log : List Happening} {r : Refresher}
    (decided : Decided configured log) (follows : Follows configured (commands log) r)
    (waited : Option Nat) : Decided configured (log ++ r.cycleLog waited) := by
  have begun : Decided configured (log ++ [.begun waited] ++ [.requested r.target]) :=
    decided_concat (decided_concat decided (by simp)) (by simp)
  have answered := decided_append_commands begun r.request.1.during
  have reached := follows_atDelivery follows
  have asked := decided_concat (h := .delivered r.delivery) answered fun d same => by
    obtain rfl : r.delivery = d := by simpa using same
    have told : commands (log ++ [.begun waited] ++ [.requested r.target] ++
        r.request.1.during.map .told) = commands log ++ r.request.1.during := by
      simp [commands, List.filterMap_map]
    rw [due, told, ← reached.polling, ← reached.interval]
    exact r.delivery_next
  simpa [Refresher.cycleLog] using asked

namespace ByHand

/-- A log and a state that agree about the commands given and the cycles asked for. -/
structure Explained (configured : Nat) (log : List Happening) (s : ByHand) : Prop where
  follows : Follows configured (commands log) s.refresher
  decided : Decided configured log

theorem explained_of_leads {configured : Nat} {log more : List Happening} {s s' : ByHand}
    (explained : Explained configured log s) (h : s.Leads more s') :
    Explained configured (log ++ more) s' := by
  obtain ⟨follows, decided⟩ := explained
  cases h with
  | idle => simpa using ⟨follows, decided⟩
  | told c => exact ⟨by simpa [commands] using follows_obey follows c,
      decided_append_commands decided [c]⟩
  | observed => exact ⟨by simpa [commands] using ⟨follows.interval, follows.polling⟩,
      decided_concat decided (by simp)⟩
  | awaited prepared => exact ⟨by simpa using follows_cycle follows,
      decided_cycleLog decided follows none⟩
  | fired t rest oldest => exact ⟨by simpa using follows_cycle follows,
      decided_cycleLog decided follows (some t.delay)⟩

theorem explained_run (pathPrefix statistic : String) (configured : Nat)
    (answers : List Answer) (moves : List Move) :
    let start := new (.new pathPrefix statistic configured answers)
    Explained configured (start.log moves) (start.run moves) := by
  intro start
  refine of_run start ⟨⟨rfl, rfl⟩, ?_⟩ (fun _ _ _ _ known h => explained_of_leads known h) moves
  intro before d earlier
  simp at earlier

/-- In every run a completed cycle asks for a further one exactly if it succeeded and the
latest command before its result is a start; the delay is the latest interval given before
its result. The cycles waiting are those asked for and not yet fired, each with the delay
it was asked for with. -/
theorem reschedules_by_latest_commands (pathPrefix statistic : String) (configured : Nat)
    (answers : List Answer) (moves : List Move) :
    let start := new (.new pathPrefix statistic configured answers)
    let s := start.run moves
    let log := start.log moves
    (∀ before d after, log = before ++ .delivered d :: after →
      (d.next.isSome ↔ (∃ body, d.result = .ok body) ∧
        ∃ interval, (commands before).getLast? = some (.start interval)) ∧
      ∀ delay, d.next = some delay → delay = latestInterval configured (commands before)) ∧
      (s.refresher.polling = true ↔
        ∃ interval, (commands log).getLast? = some (.start interval)) ∧
      s.refresher.interval = latestInterval configured (commands log) ∧
      (∀ c : Command, c.interval? = none →
        (s.refresher.obey c).interval = s.refresher.interval) ∧
      firings log ++ s.queue.pending = delays log := by
  intro start s log
  obtain ⟨follows, decided⟩ : Explained configured log s := explained_run ..
  refine ⟨?_, ?_, follows.interval, ?_, firings_append_pending _ moves⟩
  · intro before d after split
    have next : d.next = due configured before d.result :=
      decided before d ⟨after, by simp [split]⟩
    rw [next]
    exact ⟨due_isSome_iff .., fun _ asked => eq_latestInterval_of_due asked⟩
  · rw [follows.polling, endsOn_iff]
  · intro c brings
    cases c with
    | start interval =>
      obtain rfl : interval = none := brings
      rfl
    | stop => rfl

/-- A stop and two starts while a fired cycle's request is under way: the cycle goes on,
with the interval that came before the stop. -/
theorem reschedules_restarted_in_flight :
    let start := new (.new "" "queryRate" 5000
      [⟨.ok .null, []⟩, ⟨.ok .null, [.start (some 700), .stop, .start none]⟩])
    let moves : List Move :=
      [.take .prepare, .take (.tell (.start (some 1000))), .take .await, .fire]
    let log := start.log moves
    let d : Delivery := ⟨.ok .null, true, .refreshed true, some 700⟩
    log = log.dropLast ++ .delivered d :: [] ∧
      d.next = some (latestInterval 5000 (commands log.dropLast)) ∧
      ((start.run moves).refresher.obey .stop).interval = 700 ∧
      firings log = [1000] ∧ (start.run moves).queue.pending = [700] := by
  intro start moves log d
  have ended : log = log.dropLast ++ .delivered d :: [] := rfl
  have law := reschedules_by_latest_commands "" "queryRate" 5000
    [⟨.ok .null, []⟩, ⟨.ok .null, [.start (some 700), .stop, .start none]⟩] moves
  exact ⟨ended, congrArg some ((law.1 _ _ _ ended).2 700 rfl), law.2.2.2.1 .stop rfl, rfl, rfl⟩

end ByHand

end IngestWatch.Polling
