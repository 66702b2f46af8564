import IngestWatch.Proofs.Config.Precedence
import IngestWatch.Proofs.Config.Rules
import IngestWatch.Proofs.Polling.Paced
import IngestWatch.Proofs.Program.Lookup
import IngestWatch.Proofs.Program.Onlooker

/-!
The commands that ask the service, and when they do not. Before the first request the settings
of all sources have been put together and looked at; where the file cannot be used or a rule is
broken, the command ends there and says so. So whatever is asked is asked for settings that
break no rule, and no timer of the polling ever waits for nothing.
-/

namespace IngestWatch

open Http (Network)

attribute [local irreducible] Http.get Http.Exchange.fetched

/-! ## The delays of a watch -/

namespace Watch

/-- The delays after which a run makes its further requests, one after the other. -/
def delays (w : Watch) (now : Calendar.Moment) (n : Network) : List Nat :=
  let fetch := n.converse (w.transport.exchange w.target)
  match _h : (w.receive ⟨fetch.1.fetched, now, 0⟩).2 with
  | .settled _ => []
  | .again next delay => delay :: next.delays now fetch.2
termination_by n.answers.length
decreasing_by
  obtain ⟨body, value⟩ := isOk_of_again _h
  exact Network.length_answers_converse_lt value

section
variable {w next : Watch} {now : Calendar.Moment} {n : Network}

theorem delays_of_settled {result : Except FetchFailure Unit}
    (received : (w.receive (w.arrival now n)).2 = .settled result) : w.delays now n = [] := by
  rw [delays]
  split
  · rfl
  · next other => cases received.symm.trans other

theorem delays_of_again {delay : Nat}
    (received : (w.receive (w.arrival now n)).2 = .again next delay) :
    w.delays now n = delay :: next.delays now (n.converse w.get).2 := by
  rw [delays]
  split
  · next other => cases received.symm.trans other
  · next other =>
    cases received.symm.trans other
    rfl

end

/-- A watch keeps its interval, so every further request comes one interval after the last. -/
theorem eq_interval_of_mem_delays (w : Watch) (now : Calendar.Moment) (n : Network)
    (ready : w.IsReady) : ∀ delay ∈ w.delays now n, delay = w.refresher.interval := by
  have nothing {w : Watch} {n : Network} {said : List Remark} {result : Except FetchFailure Unit}
      (received : w.receive (w.arrival now n) = (said, .settled result)) :
      ∀ delay ∈ w.delays now n, delay = w.refresher.interval := by
    rw [delays_of_settled (congrArg Prod.snd received)]
    rintro _ ⟨⟩
  induction w, n, ready using run_induction with
  | reached w n ready reached => exact nothing (receive_of_reached reached)
  | failure w n ready reason wanting failed => exact nothing (receive_failure wanting failed)
  | last w n ready record wanting succeeded enough =>
    exact nothing (receive_last wanting succeeded enough)
  | more w n ready record wanting succeeded more ih =>
    have received := receive_more (a := w.arrival now n) ready wanting succeeded more
    rw [delays_of_again (congrArg Prod.snd received), List.forall_mem_cons]
    exact ⟨rfl, ih⟩

end Watch

/-! ## The commands -/

section
variable {w : World} {arguments : List String}

theorem World.run_of_ok {i : Invocation}
    (parsed : Invocation.parse w.environment arguments = .ok i) : w.run arguments = i.run w := by
  rw [run, parsed]

theorem World.run_of_error {fault : CommandLine.Fault}
    (failed : Invocation.parse w.environment arguments = .error fault) :
    w.run arguments = .stopped w (.refused fault) := by
  rw [run, failed]

end

/-- A command that asks the service. -/
inductive Asking where
  | rate (options : RateOptions)
  | history (options : HistoryOptions)

namespace Asking

def invocation : Asking → Invocation
  | rate o => .rate o
  | history o => .history o

/-- Where the file of the command is. -/
def path : Asking → String
  | rate o => o.config
  | history o => o.config

/-- What the command line says of the settings. -/
def flags : Asking → Config.Layer
  | rate o => o.layer
  | history o => o.layer

/-- The settings that count: the command line over the variables over the file over the
defaults. -/
def effective (command : Asking) (w : World) : Config :=
  ((command.flags.above (.ofVariables w.environment)).above
    (.ofPlace (w.disk.place command.path))).complete

/-- The GET that the command makes under some settings. -/
def get (command : Asking) (w : World) (c : Config) : Http.Conversation Http.Exchange :=
  match command with
  | rate _ => c.statisticsGet
  | history o => Http.get c.transport.timeoutSeconds (HistoryOptions.address c (o.window w c))

/-- What the command makes of the settings, or why they will not do. -/
def settings (command : Asking) (w : World) : Except Config.Fault Config :=
  match command with
  | rate o => o.settings w.environment (w.disk.place o.config)
  | history o => o.settings w.environment (w.disk.place o.config)

/-- Lays what the command line says of the rate or of the history over a configuration. -/
def apply : Asking → Config → Config
  | rate o => o.apply
  | history o => o.apply

/-- The delays of all timers that a run of the command sets. -/
def delays (command : Asking) (w : World) : List Nat :=
  match command with
  | history _ => []
  | rate o =>
    match o.settings w.environment (w.disk.place o.config) with
    | .error _ => []
    | .ok c => (Watch.new c o w.display).1.delays w.clock w.network

variable {command : Asking} {w : World} {c : Config} {fault : Config.Fault}

open Config (Layer Unusable loadOrDefault)

theorem settings_eq (command : Asking) (w : World) :
    command.settings w =
      (Config.loadForCommand command.path (w.disk.place command.path) w.environment
        command.flags.baseUrl command.flags.level >>= fun c => (command.apply c).checked) := by
  cases command <;> rfl

theorem settings_of_error
    (fails : loadOrDefault command.path (w.disk.place command.path) = .error fault) :
    command.settings w = .error fault := by
  rw [settings_eq, Config.loadForCommand, fails]
  rfl

/-- The settings of a command whose file can be used are those that count, if they pass. -/
theorem settings_of_ok {file : Config}
    (loads : loadOrDefault command.path (w.disk.place command.path) = .ok file) :
    command.settings w = (command.effective w).checked := by
  obtain rfl := Layer.complete_ofPlace loads
  rw [settings_eq, Config.loadForCommand, loads, ok_bind, pure_bind,
    Layer.withEnvironment_complete]
  refine congrArg Config.checked ?_
  cases command <;>
    simp only [apply, RateOptions.apply, HistoryOptions.apply, Config.withFlags, effective, flags,
      RateOptions.layer, HistoryOptions.layer, Layer.complete, Layer.above, Layer.ofVariables,
      Layer.getD_getD, Option.none_or, Option.or_assoc]

theorem run_of_error (refused : command.settings w = .error fault) :
    command.invocation.run w = .stopped w (.failed fault.message) := by
  cases command with
  | rate o =>
    change o.settings _ _ = _ at refused
    rw [invocation, Invocation.run, RateOptions.run, refused]
  | history o =>
    change o.settings _ _ = _ at refused
    rw [invocation, Invocation.run, HistoryOptions.run, refused]

theorem delays_of_error (refused : command.settings w = .error fault) : command.delays w = [] := by
  cases command with
  | rate o =>
    change o.settings _ _ = _ at refused
    rw [delays, refused]
  | history o => rfl

/-- With accepted settings the command makes its GET, at least once, and nothing else becomes of
the world. -/
theorem world_run (accepted : command.settings w = .ok c) :
    ∃ k, 0 < k ∧ (command.invocation.run w).world =
      { w with network := w.network.after (command.get w c) k } := by
  cases command with
  | rate o =>
    change o.settings _ _ = _ at accepted
    obtain ⟨k, positive, -, network⟩ := RateOptions.exists_cycles accepted
    refine ⟨k, positive, ?_⟩
    rw [get, ← network, invocation, Invocation.run, RateOptions.run, accepted]
  | history o =>
    change o.settings _ _ = _ at accepted
    obtain ⟨network, -⟩ := HistoryOptions.run_eq accepted
    refine ⟨1, Nat.one_pos, ?_⟩
    change _ = { w with network := (w.network.converse _).2 }
    rw [get, ← network, invocation, Invocation.run, HistoryOptions.run, accepted]

theorem eq_interval_of_mem_delays (accepted : command.settings w = .ok c) {delay : Nat}
    (asked : delay ∈ command.delays w) : delay = c.interval := by
  cases command with
  | history o => cases asked
  | rate o =>
    change o.settings _ _ = _ at accepted
    rw [delays, accepted] at asked
    have interval := Watch.eq_interval_of_mem_delays _ _ _ (Watch.isReady_new c o w.display) _ asked
    rw [interval, Watch.new_fst, Watch.fresh]
    dsimp only
    split <;> rfl

/-- What comes of the settings: the file cannot be used, or a rule is broken, or neither. -/
inductive Verdict (command : Asking) (w : World) : Prop where
  | barred {fault : Config.Fault}
      (bars : Unusable command.path (w.disk.place command.path) fault.message)
      (only : ∀ m, Unusable command.path (w.disk.place command.path) m → m = fault.message)
      (refused : command.settings w = .error fault)
  | broken {fault : Config.Fault}
      (free : ∀ m, ¬ Unusable command.path (w.disk.place command.path) m)
      (objection : (command.effective w).objection? = some fault.message)
      (refused : command.settings w = .error fault)
  | accepted (free : ∀ m, ¬ Unusable command.path (w.disk.place command.path) m)
      (sound : (command.effective w).Sound)
      (accepted : command.settings w = .ok (command.effective w))

theorem verdict (command : Asking) (w : World) : command.Verdict w := by
  cases loads : loadOrDefault command.path (w.disk.place command.path) with
  | error fault =>
    refine .barred (Config.unusable_of_loadOrDefault loads) (fun m bars => ?_)
      (settings_of_error loads)
    obtain ⟨other, same, rfl⟩ := Config.loadOrDefault_of_unusable bars
    obtain rfl := Except.error.inj (loads.symm.trans same)
    rfl
  | ok file =>
    have free (m : String) : ¬ Unusable command.path (w.disk.place command.path) m := by
      intro bars
      obtain ⟨fault, fails, -⟩ := Config.loadOrDefault_of_unusable bars
      cases loads.symm.trans fails
    have settings := settings_of_ok loads
    have objection := (command.effective w).objection?_eq
    cases valid : (command.effective w).validate with
    | error fault =>
      rw [Config.checked, valid] at settings
      rw [valid] at objection
      exact .broken free objection settings
    | ok _ =>
      rw [Config.checked, valid] at settings
      rw [valid] at objection
      exact .accepted free (Config.objection?_eq_none_iff.mp objection) settings

end Asking

/-! ## No request for bad settings -/

/-- The run has come to nothing: nothing has become of the world, nothing is printed, and the
caller is told that the run failed and why. -/
structure Run.Refused (r : Run) (w : World) (message : String) : Prop where
  world : r.world = w
  output : r.output = ""
  exitCode : r.exitCode = 1
  errors : r.errors = "Error: " ++ message ++ "\n"

theorem Run.refused_stopped (w : World) (message : String) :
    (Run.stopped w (.failed message)).Refused w message :=
  ⟨rfl, rfl, rfl, String.empty_append⟩

open Config (Unusable loadOrDefault)
open Polling (Timed Refresher Paced)

/-- Timers that are not given another interval wait as long as the settings say. -/
theorem Config.Sound.delays_of_paced {c : Config} (sound : c.Sound)
    (answers : List Polling.Answer) (slips : Nat → Bool) (moves : List Timed.Move)
    (paced : Paced c.interval (Timed.scheduling.log
      (.new (.new c.service.pathPrefix c.rate.statisticType c.interval answers) slips) moves)) :
    ∀ delay ∈ Polling.delays (Timed.scheduling.log
      (.new (.new c.service.pathPrefix c.rate.statisticType c.interval answers) slips) moves),
      delay = c.interval ∧ 1 ≤ delay := by
  intro delay asked
  have same := Timed.scheduling.eq_of_mem_delays rfl paced asked
  exact ⟨same, same ▸ sound.interval⟩

/-- The commands that ask the service, for any arguments, variables, files and answers. Where the
file is there and cannot be used, or else the settings of all sources together break a rule, the
command makes no request, prints nothing and ends with 1; it tells what is wrong with the file,
or which is the first rule that is broken. So where anything was asked the file was no obstacle
and no rule is broken, and then the command has made its GET under these settings some times and
nothing else has become of the world. All the delays of its timers are the interval of the
settings, which is no less than a millisecond; and so are those of every refresher with these
settings that is run by timers and is not given another interval. -/
theorem Asking.no_request_for_bad_settings (w : World) (arguments : List String)
    (command : Asking)
    (parsed : Invocation.parse w.environment arguments = .ok command.invocation) :
    let Bars := Unusable command.path (w.disk.place command.path)
    let c := command.effective w
    let r := w.run arguments
    (∀ message, Bars message → r.Refused w message) ∧
      (∀ message, (∀ m, ¬ Bars m) → c.objection? = some message → r.Refused w message) ∧
      (r.world ≠ w → (∀ m, ¬ Bars m) ∧ c.Sound) ∧
      ((∀ m, ¬ Bars m) → c.Sound → ∃ k, 0 < k ∧
        r.world = { w with network := w.network.after (command.get w c) k }) ∧
      (∀ delay ∈ command.delays w, delay = c.interval ∧ 1 ≤ delay) ∧
      (c.Sound → ∀ answers slips moves,
        let log := Timed.scheduling.log
          (.new (.new c.service.pathPrefix c.rate.statisticType c.interval answers) slips) moves
        Paced c.interval log → ∀ delay ∈ Polling.delays log, delay = c.interval ∧ 1 ≤ delay) := by
  intro Bars c r
  have ran : r = command.invocation.run w := World.run_of_ok parsed
  have stops {fault : Config.Fault} (refused : command.settings w = .error fault) :
      r.Refused w fault.message := by
    rw [ran, run_of_error refused]
    exact Run.refused_stopped w _
  have quiet {fault : Config.Fault} (refused : command.settings w = .error fault) :
      ∀ delay ∈ command.delays w, delay = c.interval ∧ 1 ≤ delay := by
    rw [delays_of_error refused]
    rintro _ ⟨⟩
  have timers (sound : c.Sound) (answers : List Polling.Answer) (slips : Nat → Bool)
      (moves : List Timed.Move) :=
    sound.delays_of_paced answers slips moves
  cases command.verdict w with
  | barred bars only refused =>
    have ends := stops refused
    refine ⟨fun message barred => ?_, fun _ free => absurd bars (free _),
      fun changed => absurd ends.world changed, fun free => absurd bars (free _), quiet refused,
      timers⟩
    obtain rfl := only message barred
    exact ends
  | broken free objection refused =>
    have ends := stops refused
    refine ⟨fun message barred => absurd barred (free message), fun message _ told => ?_,
      fun changed => absurd ends.world changed, fun _ sound => ?_, quiet refused, timers⟩
    · obtain rfl := Option.some.inj (objection.symm.trans told)
      exact ends
    · cases objection.symm.trans (Config.objection?_eq_none_iff.mpr sound)
  | accepted free sound accepted =>
    obtain ⟨k, positive, world⟩ := world_run accepted
    refine ⟨fun message barred => absurd barred (free message), fun message _ told => ?_,
      fun _ => ⟨free, sound⟩, fun _ _ => ⟨k, positive, by rw [ran, world]⟩,
      fun delay asked => ?_, timers⟩
    · cases told.symm.trans (Config.objection?_eq_none_iff.mpr sound)
    · have same := eq_interval_of_mem_delays accepted asked
      exact ⟨same, same ▸ sound.interval⟩

/-- A polling command that is told not to wait between its requests makes none. -/
theorem Asking.no_request_for_bad_settings_hurried :
    let arguments := ["ingest-metrics", "rate", "--interval=0"]
    let command := Asking.rate ⟨"ingest-metrics.toml", none, some 0, false, none, false, none⟩
    let w := World.usual [.response ⟨200, [], [0x37], 1⟩]
    Invocation.parse w.environment arguments = .ok command.invocation ∧
      (w.run arguments).Refused w
        "invalid value for 'rate.interval_millis': interval must be non-zero" := by
  intro arguments command w
  have parsed : Invocation.parse w.environment arguments = .ok command.invocation := by
    decide +kernel
  have nothing : w.disk.place command.path = .nothing := by decide +kernel
  refine ⟨parsed, (no_request_for_bad_settings w arguments command parsed).2.1 _ ?_ ?_⟩
  · rw [nothing]
    rintro _ ⟨⟨⟩⟩
  · decide +kernel

end IngestWatch
