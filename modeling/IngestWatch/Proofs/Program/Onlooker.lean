import IngestWatch.Proofs.Outcome
import IngestWatch.Proofs.Polling.Undisturbed
import IngestWatch.Proofs.Program.Rate

/-!
The printing loop beside the timers. A refresher whose further cycles are run by timers tells
only the latest outcome, and the loop looks at it from time to time. If no wait of the loop is
longer than the interval it sees every outcome, and each of them once: it prints the records of
the watch and ends as the watch does, after as many requests. So the command that polls prints
what it polled, until its count is reached or a request fails.
-/

namespace IngestWatch

open Http (Network)
open Polling Timer

attribute [local irreducible] Http.get Http.Exchange.fetched

/-! ## The printing loop -/

/-- A loop that looks at a refresher and prints its records. -/
structure Onlooker where
  timed : Timed
  printed : List Json
  failure : Option FetchFailure

namespace Onlooker

/-- The first fetch has been awaited, and nobody has looked yet. No timer is set once the
timers are cancelled, so it does not matter which would slip through. -/
def start (r : Refresher) : Onlooker :=
  ⟨(Timed.new r fun _ => true).runCycle.1, [], none⟩

/-- Looks at the latest outcome if it is news. -/
def look (v : Onlooker) : Onlooker :=
  if v.timed.refresher.outcomeIsNews then
    let seen := { v with timed := v.timed.mapRefresher (·.subscribe) }
    match v.timed.refresher.outcome with
    | some (.refreshed _) => { seen with printed := v.printed ++ v.timed.refresher.record.toList }
    | some (.failed reason) => { seen with failure := some reason }
    | none => seen
  else v

def isDone (l : Limit) (v : Onlooker) : Bool :=
  v.failure.isSome || l.isReached v.printed.length

/-- Waits for a span and looks, as long as there is more to print. -/
def turn (l : Limit) (v : Onlooker) (span : Nat) : Onlooker :=
  if v.isDone l then v else look { v with timed := v.timed.advance span }

/-- Looks after each of some spans, in which the loop waits or is held up by what it prints. If
they are over while there is more to print, the loop was interrupted. -/
def follow (l : Limit) (r : Refresher) (spans : List Nat) : Onlooker :=
  spans.foldl (turn l) (start r)

/-- Looks at once and then after every wait. -/
def watch (l : Limit) (r : Refresher) (spans : List Nat) : Onlooker :=
  follow l r (0 :: spans)

end Onlooker

/-- A script that begins with the records of a watch and with the failure that ends it, if it is
not the limit that does. -/
structure Foreseen (l : Limit) (script : List Fetched) (records : List Json)
    (failure : Option FetchFailure) : Prop where
  script : ∃ further, script = records.map .ok ++ (failure.toList.map .error ++ further)
  wanting : ∀ count < records.length, l.isReached count = false
  ending : l.isReached records.length = failure.isNone

namespace Foreseen

variable {l : Limit} {script : List Fetched} {records : List Json} {failure : Option FetchFailure}

theorem success (foreseen : Foreseen l script records failure) {count : Nat}
    (inside : count < records.length) : script[count]? = some (.ok records[count]) := by
  obtain ⟨further, rfl⟩ := foreseen.script
  rw [List.getElem?_append_left (by simpa using inside), List.getElem?_map,
    List.getElem?_eq_getElem inside, Option.map_some]

theorem exists_failure (foreseen : Foreseen l script records failure)
    (more : l.isReached records.length = false) :
    ∃ reason, failure = some reason ∧ script[records.length]? = some (.error reason) := by
  have ending := foreseen.ending
  obtain ⟨further, rfl⟩ := foreseen.script
  cases failure with
  | none => simp [more] at ending
  | some reason => exact ⟨reason, rfl, by simp⟩

end Foreseen

namespace Onlooker

variable {l : Limit} {script : List Fetched} {records : List Json} {failure : Option FetchFailure}
  {pause count : Nat} {v : Onlooker}

/-- The first records were printed, and all that was told was seen. -/
structure Midway (l : Limit) (script : List Fetched) (records : List Json) (pause count : Nat)
    (v : Onlooker) : Prop where
  waiting : Waiting script pause count v.timed.timeline
  quiet : v.timed.refresher.outcomeIsNews = false
  printed : v.printed = records.take count
  unfailed : v.failure = none
  within : count ≤ records.length
  more : l.isReached count = false

/-- All was printed, and no timer is left that would not be dropped. -/
structure Through (records : List Json) (failure : Option FetchFailure) (pause : Nat)
    (v : Onlooker) : Prop where
  printed : v.printed = records
  ended : v.failure = failure
  requestedAt : v.timed.timeline.world.requestedAt =
    (List.range (records.length + failure.toList.length)).map (· * pause)
  droppable : ∀ e ∈ v.timed.timeline.events, e.kept = false

theorem now_look (v : Onlooker) : v.look.timed.timeline.now = v.timed.timeline.now := by
  unfold look
  split
  · split <;> rfl
  · rfl

section
variable (news : v.timed.refresher.outcomeIsNews = true)
include news

theorem look_of_refreshed {again : Bool}
    (outcome : v.timed.refresher.outcome = some (.refreshed again)) :
    v.look = ⟨v.timed.mapRefresher (·.subscribe),
      v.printed ++ v.timed.refresher.record.toList, v.failure⟩ := by
  simp [look, news, outcome]

theorem look_of_failed {reason : FetchFailure}
    (outcome : v.timed.refresher.outcome = some (.failed reason)) :
    v.look = ⟨v.timed.mapRefresher (·.subscribe), v.printed, some reason⟩ := by
  simp [look, news, outcome]

end

theorem look_refreshed (foreseen : Foreseen l script records failure)
    (inside : count < records.length)
    (refreshed : Refreshed script pause (count + 1) records[count] v.timed.timeline)
    (printed : v.printed = records.take count) (unfailed : v.failure = none) :
    Midway l script records pause (count + 1) v.look ∨
      Through records failure pause v.look := by
  obtain ⟨⟨chain, events, ahead, reached⟩, news, outcome, record⟩ := refreshed
  have taken : v.printed ++ [records[count]] = records.take (count + 1) := by
    rw [printed, List.take_append_getElem inside]
  have found : v.timed.refresher.record.toList = [records[count]] := congrArg _ record
  rw [look_of_refreshed news outcome, found, taken]
  cases enough : l.isReached (count + 1) with
  | false =>
    exact Or.inl ⟨⟨chain.subscribe, events, ahead, reached⟩, rfl, rfl, unfailed, inside, enough⟩
  | true =>
    have all : count + 1 = records.length := by
      by_contra other
      have wanting := foreseen.wanting (count + 1) (by omega)
      simp [enough] at wanting
    have none : failure = none := by
      have ending := foreseen.ending
      rw [← all, enough] at ending
      simpa using ending.symm
    refine Or.inr ⟨by simp [all], by rw [unfailed, none], ?_, ?_⟩
    · rw [none, ← all]
      exact chain.requestedAt
    · obtain ⟨slips, events⟩ := events
      simp [Timed.mapRefresher, events]

theorem look_halted {reason : FetchFailure}
    (halted : Halted script pause (records.length + 1) reason v.timed.timeline)
    (printed : v.printed = records) : Through records (some reason) pause v.look := by
  obtain ⟨chain, news, outcome, events⟩ := halted
  rw [look_of_failed news outcome]
  exact ⟨printed, rfl, chain.requestedAt, by simp [Timed.mapRefresher, events]⟩

theorem look_cycled (positive : 0 < pause) (foreseen : Foreseen l script records failure)
    {s : Timed} (chain : Chain script pause count s.timeline)
    (now : s.timeline.now = count * pause) (idle : s.timeline.events = [])
    {instant : Nat} (before : instant < (count + 1) * pause)
    (cycled : v.timed.timeline = s.cycled.runUntil program instant)
    (printed : v.printed = records.take count) (unfailed : v.failure = none)
    (within : count ≤ records.length) (more : l.isReached count = false) :
    Midway l script records pause (count + 1) v.look ∨
      Through records failure pause v.look := by
  rcases within.lt_or_eq with inside | rfl
  · have next := foreseen.success inside
    have refreshed := (refreshed_cycled chain now positive idle next).runUntil before
    exact look_refreshed foreseen inside (cycled ▸ refreshed) printed unfailed
  · obtain ⟨reason, rfl, next⟩ := foreseen.exists_failure more
    have halted : Halted script pause (records.length + 1) reason
        (s.cycled.runUntil program instant) := (halted_cycled chain now idle next).runUntil
    exact Or.inr (look_halted (cycled ▸ halted) (by rw [printed, List.take_length]))

/-! ### Turn after turn -/

theorem Midway.isDone (midway : Midway l script records pause count v) : v.isDone l = false := by
  have printed : v.printed.length = count := by
    rw [midway.printed, List.length_take, Nat.min_eq_left midway.within]
  rw [Onlooker.isDone, midway.unfailed, printed, midway.more]
  rfl

theorem Through.isDone (through : Through records failure pause v)
    (foreseen : Foreseen l script records failure) : v.isDone l = true := by
  rw [Onlooker.isDone, through.ended, through.printed, foreseen.ending]
  cases failure <;> rfl

theorem turn_of_not_isDone (more : v.isDone l = false) (span : Nat) :
    v.turn l span = look { v with timed := v.timed.advance span } := by
  rw [turn, more]
  rfl

theorem now_turn (more : v.isDone l = false) (span : Nat) :
    (v.turn l span).timed.timeline.now = v.timed.timeline.now + span := by
  rw [turn_of_not_isDone more, now_look]
  exact (Timeline.now_runUntil (Nat.le_add_right _ _)).1

theorem turn_midway (positive : 0 < pause) (foreseen : Foreseen l script records failure)
    (midway : Midway l script records pause count v) {span : Nat} (short : span ≤ pause) :
    (∃ count, Midway l script records pause count (v.turn l span)) ∨
      Through records failure pause (v.turn l span) := by
  rw [turn_of_not_isDone midway.isDone]
  obtain ⟨waiting, quiet, printed, unfailed, within, more⟩ := midway
  by_cases due : count * pause ≤ v.timed.timeline.now + span
  · obtain ⟨s, chain, now, idle, ran⟩ := waiting.runUntil_of_due due
    have before : v.timed.timeline.now + span < (count + 1) * pause := by
      have ahead := waiting.ahead
      rw [Nat.succ_mul]
      omega
    have looked := look_cycled (v := { v with timed := v.timed.advance span }) positive foreseen
      chain now idle before ran printed unfailed within more
    exact looked.imp_left fun midway => ⟨count + 1, midway⟩
  · -- The timer is still ahead, so there is nothing to see.
    have before : v.timed.timeline.now + span < count * pause := Nat.lt_of_not_le due
    have clock : (v.timed.advance span).timeline = _ := waiting.runUntil_eq before
    have later := waiting.of_clock before
    rw [← clock] at later
    have still : (v.timed.advance span).refresher.outcomeIsNews = false := by
      rw [Timed.refresher, clock]
      exact quiet
    refine Or.inl ⟨count, ?_⟩
    rw [look, if_neg (by simp [still])]
    exact ⟨later, still, printed, unfailed, within, more⟩

theorem turn_start (positive : 0 < pause) (foreseen : Foreseen l script records failure)
    (wanting : l.isReached 0 = false) {r : Refresher} (polling : r.polling = true)
    (interval : r.interval = pause) (answers : r.answers = script.map (⟨·, []⟩)) :
    ((∃ count, Midway l script records pause count ((start r).turn l 0)) ∨
        Through records failure pause ((start r).turn l 0)) ∧
      ((start r).turn l 0).timed.timeline.now = 0 := by
  have more : (start r).isDone l = false := wanting
  have begun : (start r).timed.timeline =
      (Timed.new r fun _ => true).cycled.runUntil program 0 := rfl
  have now : (start r).timed.timeline.now = 0 := by
    rw [begun]
    exact (Timeline.now_runUntil (Nat.le_refl 0)).1
  have still : ((start r).timed.advance 0).timeline = (start r).timed.timeline :=
    (Timeline.advance_zero (Timed.settled_runCycle _)).1
  have chain : Chain script pause 0 (Timed.new r fun _ => true).timeline :=
    ⟨polling, interval, answers, rfl, rfl⟩
  refine ⟨?_, by rw [now_turn more, now]⟩
  rw [turn_of_not_isDone more]
  have looked := look_cycled (v := { start r with timed := (start r).timed.advance 0 }) positive
    foreseen chain (Nat.zero_mul pause).symm rfl (by omega) (still.trans begun) rfl rfl
    (Nat.zero_le _) wanting
  exact looked.imp_left fun midway => ⟨1, midway⟩

theorem foldl_turn_of_isDone (done : v.isDone l = true) (spans : List Nat) :
    spans.foldl (turn l) v = v := by
  induction spans with
  | nil => rfl
  | cons span rest ih =>
    have same : v.turn l span = v := if_pos done
    rw [List.foldl_cons, same, ih]

theorem foldl_turn (positive : 0 < pause) (foreseen : Foreseen l script records failure)
    (spans : List Nat) (short : ∀ span ∈ spans, span ≤ pause)
    (reached : (∃ count, Midway l script records pause count v) ∨ Through records failure pause v) :
    Through records failure pause (spans.foldl (turn l) v) ∨
      ∃ count, Midway l script records pause count (spans.foldl (turn l) v) ∧
        (spans.foldl (turn l) v).timed.timeline.now = v.timed.timeline.now + spans.sum := by
  induction spans generalizing v with
  | nil => exact reached.symm.imp_right fun ⟨count, midway⟩ => ⟨count, midway, rfl⟩
  | cons span rest ih =>
    have others : ∀ span ∈ rest, span ≤ pause := fun span member => short span (.tail _ member)
    rw [List.foldl_cons]
    rcases reached with ⟨count, midway⟩ | through
    · have next := turn_midway positive foreseen midway (short span List.mem_cons_self)
      refine (ih others next).imp_right fun ⟨count, still, clock⟩ => ⟨count, still, ?_⟩
      rw [clock, now_turn midway.isDone, List.sum_cons, Nat.add_assoc]
    · rw [← List.foldl_cons, foldl_turn_of_isDone (through.isDone foreseen)]
      exact Or.inl through

/-- A loop that waits long enough in all, and never longer than the pause, gets through. -/
theorem through_watch (positive : 0 < pause) (foreseen : Foreseen l script records failure)
    (wanting : l.isReached 0 = false) {r : Refresher} (polling : r.polling = true)
    (interval : r.interval = pause) (answers : r.answers = script.map (⟨·, []⟩)) {spans : List Nat}
    (short : ∀ span ∈ spans, span ≤ pause)
    (long : (records.length + failure.toList.length - 1) * pause ≤ spans.sum) :
    Through records failure pause (watch l r spans) := by
  obtain ⟨begun, now⟩ := turn_start positive foreseen wanting polling interval answers
  rcases foldl_turn positive foreseen spans short begun with through | ⟨count, midway, clock⟩
  · exact through
  · -- The timer ahead would run a cycle that the watch does not need.
    have ahead := midway.waiting.ahead
    rw [clock, now, Nat.zero_add] at ahead
    have needed : count ≤ records.length + failure.toList.length - 1 := by
      rcases midway.within.lt_or_eq with inside | rfl
      · omega
      · obtain ⟨reason, rfl, -⟩ := foreseen.exists_failure midway.more
        simp
    have bound := Nat.mul_le_mul_right pause needed
    omega

end Onlooker

/-! ## The command -/

def Config.interval (c : Config) : Nat :=
  c.rate.intervalMillis.toNat

theorem Config.interval_pos_of_validate {c : Config} (accepted : c.validate = .ok ()) :
    0 < c.interval := by
  unfold validate at accepted
  split at accepted
  · cases accepted
  · split at accepted
    · cases accepted
    · split at accepted
      · cases accepted
      · next other =>
        rw [Nat.pos_iff_ne_zero]
        exact fun zero => other (UInt64.toNat_inj.mp zero)

theorem RateOptions.validate_of_settings {o : RateOptions} {env : Environment} {place : Place}
    {c : Config} (accepted : o.settings env place = .ok c) : c.validate = .ok () := by
  obtain ⟨loaded, -, checked⟩ := bind_eq_ok.mp accepted
  obtain ⟨_, valid, last⟩ := bind_eq_ok.mp checked
  obtain rfl := Except.ok.inj last
  exact valid

theorem RateOptions.exists_foreseen {o : RateOptions} {w : World} {c : Config}
    (accepted : o.settings w.environment (w.disk.place o.config) = .ok c)
    (wanting : (Limit.of o).isReached 0 = false) (further : List Fetched) :
    ∃ (records : List Json) (failure : Option FetchFailure),
      o.Ended w c records (o.cycles w).length (failure.elim (.ok ()) .error) ∧
        Foreseen (Limit.of o) (o.cycles w ++ further) records failure ∧
        (o.cycles w).length = records.length + failure.toList.length := by
  obtain ⟨records, yields, ⟨ended, quota⟩ | ⟨reason, failed, ended, below⟩⟩ :=
    exists_ended accepted wanting
  · have all : o.cycles w = records.map .ok := ended.cycles.trans yields
    have length : (o.cycles w).length = records.length := by rw [all, List.length_map]
    refine ⟨records, none, length ▸ ended, ⟨⟨further, by simp [all]⟩, fun count fewer => ?_, ?_⟩,
      length⟩
    · simpa [Limit.isReached_eq, quota] using fewer
    · simp [Limit.isReached_eq, quota]
  · have all := ended.cycles_of_error yields failed
    have length : (o.cycles w).length = records.length + 1 := by simp [all]
    have unreached (count : Nat) (within : count ≤ records.length) :
        (Limit.of o).isReached count = false := by
      rw [Limit.isReached_eq, Option.any_eq_false]
      intro q quota
      simpa using within.trans_lt (below q quota)
    exact ⟨records, some reason, length ▸ ended, ⟨⟨further, by simp [all]⟩,
      fun count fewer => unreached count fewer.le, unreached _ le_rfl⟩, length⟩

/-- A refresher that polls as it is configured to, and what its requests will come to. -/
def Config.refresher (c : Config) (script : List Fetched) : Refresher :=
  (Refresher.new c.service.pathPrefix c.rate.statisticType c.interval
    (script.map (⟨·, []⟩))).start (some c.interval)

/-- How the command ends when its loop does. -/
def Onlooker.ending (v : Onlooker) : Ending :=
  .ofFetch (v.failure.elim (.ok ()) .error)

/-- A loop that has come to what a run of the command comes to. Its requests are one interval
apart, and once polling is off and the timers are cancelled no further one is made. -/
structure Onlooker.Mirrors (v : Onlooker) (o : RateOptions) (w : World) (c : Config) : Prop where
  printed : o.Prints w v.printed (Watch.printedBy (o.run w).remarks)
  ending : (o.run w).ending = v.ending
  requestedAt : ∀ later,
    ((v.timed.mapRefresher (·.stop)).cancel.advance later).timeline.world.requestedAt =
      (List.range (o.cycles w).length).map (· * c.interval)

/-- The command, unless it is to print nothing, beside a loop that looks at a refresher with
timers. The service gives the results of the command's requests and then any others, no wait is
longer than the interval, and all of them together are long enough for the requests. -/
theorem RateOptions.mirrors_watch {o : RateOptions} {w : World} {c : Config}
    (accepted : o.settings w.environment (w.disk.place o.config) = .ok c)
    (wanting : (Limit.of o).isReached 0 = false) (further : List Fetched) {spans : List Nat}
    (short : ∀ span ∈ spans, span ≤ c.interval)
    (long : ((o.cycles w).length - 1) * c.interval ≤ spans.sum) :
    (Onlooker.watch (Limit.of o) (c.refresher (o.cycles w ++ further)) spans).Mirrors o w c := by
  have positive := Config.interval_pos_of_validate (validate_of_settings accepted)
  obtain ⟨records, failure, ended, foreseen, length⟩ := exists_foreseen accepted wanting further
  obtain ⟨printed, failed, requestedAt, droppable⟩ :
      Onlooker.Through records failure c.interval
        (Onlooker.watch (Limit.of o) (c.refresher (o.cycles w ++ further)) spans) :=
    Onlooker.through_watch positive foreseen wanting rfl rfl rfl short (length ▸ long)
  refine ⟨by rw [printed]; exact ended.printed, by rw [ended.ending, Onlooker.ending, failed],
    fun later => ?_⟩
  have still := world_cancelled (s := Timed.mapRefresher _ (·.stop)) droppable later
  rw [still, length]
  exact requestedAt

namespace RateOptions

end RateOptions

end IngestWatch
