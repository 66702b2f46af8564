import IngestWatch.Proofs.Program.Refusal

/-!
Commands whose configuration file is not there. The loader itself fails for such a path; a
command does not ask it. Whatever the path is called, the command goes on with the defaults under
the variables and the flags, so a name that was mistyped makes no difference to one that was
never given.
-/

namespace IngestWatch

open Config (Layer Unusable)
open Http (Network)

namespace Config

theorem Layer.above_ofPlace_nothing (l : Layer) : l.above (.ofPlace .nothing) = l := by
  cases l
  simp only [above, ofPlace, document?, Option.or_none]

/-- Where nothing stands, a command has the settings of its flags over those of the variables
over the defaults. -/
theorem loadForCommand_nothing (path : String) (env : Environment) (url level : Option String) :
    loadForCommand path .nothing env url level =
      .ok (Layer.above { baseUrl := url, level := level } (.ofVariables env)).complete := by
  have defaults : Config.default = Layer.complete {} := rfl
  rw [loadForCommand, loadOrDefault, ok_bind, defaults, Layer.withEnvironment_complete]
  refine congrArg Except.ok ?_
  simp only [withFlags, Layer.complete, Layer.above, Layer.ofVariables, Layer.getD_getD,
    Option.or_none, Option.none_or]

theorem not_unusable_nothing (path message : String) : ¬ Unusable path .nothing message := by
  rintro ⟨⟨⟩⟩

/-- Only a file that is there and of no use keeps a command from its settings. -/
theorem unusable_of_loadForCommand {path : String} {place : Place} {env : Environment}
    {url level : Option String} {fault : Fault}
    (fails : loadForCommand path place env url level = .error fault) :
    Unusable path place fault.message := by
  refine unusable_of_loadOrDefault ?_
  cases loads : loadOrDefault path place with
  | error other =>
    rw [loadForCommand, loads] at fails
    exact fails
  | ok c =>
    rw [loadForCommand, loads] at fails
    cases fails

end Config

namespace Asking

/-- The command with another path to its file. -/
def withPath (command : Asking) (path : String) : Asking :=
  match command with
  | rate o => .rate { o with config := path }
  | history o => .history { o with config := path }

variable {command : Asking} {w : World} {path : String}

/-- Of two paths where nothing stands a command makes the same. -/
theorem run_withPath_of_missing (missing : w.disk.place command.path = .nothing)
    (other : w.disk.place path = .nothing) :
    (command.withPath path).invocation.run w = command.invocation.run w := by
  cases command with
  | rate o =>
    change w.disk.place o.config = .nothing at missing
    have settings : ({ o with config := path } : RateOptions).settings w.environment .nothing =
        o.settings w.environment .nothing := by
      rw [RateOptions.settings, RateOptions.settings, Config.loadForCommand_nothing,
        Config.loadForCommand_nothing]
      rfl
    have watch (c : Config) :
        Watch.new c { o with config := path } w.display = Watch.new c o w.display := rfl
    simp only [withPath, invocation, Invocation.run, RateOptions.run, missing, other, settings,
      watch]
  | history o =>
    change w.disk.place o.config = .nothing at missing
    have settings : ({ o with config := path } : HistoryOptions).settings w.environment .nothing =
        o.settings w.environment .nothing := by
      rw [HistoryOptions.settings, HistoryOptions.settings, Config.loadForCommand_nothing,
        Config.loadForCommand_nothing]
      rfl
    have lookup (c : Config) : Lookup.new c { o with config := path } w.display w.now =
        Lookup.new c o w.display w.now := rfl
    simp only [withPath, invocation, Invocation.run, HistoryOptions.run, missing, other, settings,
      lookup]

/-- Where nothing stands nothing is unusable, and the flags and the variables alone decide. -/
theorem run_of_missing (missing : w.disk.place command.path = .nothing) :
    let c := (command.flags.above (.ofVariables w.environment)).complete
    (c.Sound → ∃ k, 0 < k ∧ (command.invocation.run w).world =
      { w with network := w.network.after (command.get w c) k }) ∧
      ∀ message, c.objection? = some message → (command.invocation.run w).Refused w message := by
  have settings : command.effective w =
      (command.flags.above (.ofVariables w.environment)).complete := by
    rw [effective, missing, Layer.above_ofPlace_nothing]
  intro c
  cases command.verdict w with
  | barred bars _ _ =>
    rw [missing] at bars
    exact absurd bars (Config.not_unusable_nothing _ _)
  | broken _ objection refused =>
    rw [settings] at objection
    refine ⟨fun sound => ?_, fun message told => ?_⟩
    · cases objection.symm.trans (Config.objection?_eq_none_iff.mpr sound)
    · obtain rfl := Option.some.inj (objection.symm.trans told)
      rw [run_of_error refused]
      exact Run.refused_stopped w _
  | accepted _ sound accepted =>
    rw [settings] at sound accepted
    refine ⟨fun _ => world_run accepted, fun message told => ?_⟩
    cases told.symm.trans (Config.objection?_eq_none_iff.mpr sound)

/-- What becomes of a path where nothing stands, whatever it is called. The loader fails for it
and names it. A command that asks the service has settings all the same, those of its flags over
the variables over the defaults, as only a file that is there can keep it from them; it does what
it does for every other path where nothing stands, and makes its GET unless these settings break
a rule. -/
theorem missing_file_goes_unnoticed (w : World) (arguments : List String) (command : Asking)
    (parsed : Invocation.parse w.environment arguments = .ok command.invocation)
    (missing : w.disk.place command.path = .nothing) :
    let c := (command.flags.above (.ofVariables w.environment)).complete
    let r := w.run arguments
    Config.load command.path (w.disk.place command.path) = .error (.notFound command.path) ∧
      (∀ url level,
        Config.loadForCommand command.path (w.disk.place command.path) w.environment url level =
          .ok (Layer.above { baseUrl := url, level := level } (.ofVariables w.environment)).complete) ∧
      (∀ path place url level fault,
        Config.loadForCommand path place w.environment url level = .error fault →
          Unusable path place fault.message) ∧
      (∀ path, w.disk.place path = .nothing → (command.withPath path).invocation.run w = r) ∧
      (c.Sound → ∃ k, 0 < k ∧
        r.world = { w with network := w.network.after (command.get w c) k }) ∧
      ∀ message, c.objection? = some message → r.Refused w message := by
  intro c r
  have ran : r = command.invocation.run w := World.run_of_ok parsed
  rw [missing, ran]
  refine ⟨rfl, fun url level => Config.loadForCommand_nothing _ _ _ _,
    fun path place url level fault fails => Config.unusable_of_loadForCommand fails,
    fun path other => run_withPath_of_missing missing other, run_of_missing missing⟩

/-- A polling command with a mistyped path, and one with the usual path, both without a file. -/
theorem missing_file_goes_unnoticed_once :
    let arguments := ["ingest-metrics", "rate", "--once", "--config=metrics.toml"]
    let command := Asking.rate ⟨"metrics.toml", none, none, true, none, false, none⟩
    let w := World.usual [.response ⟨200, [], [0x37], 1⟩]
    Invocation.parse w.environment arguments = .ok command.invocation ∧
      w.disk.place "metrics.toml" = .nothing ∧
      (command.withPath "ingest-metrics.toml").invocation.run w = w.run arguments ∧
      ∃ k, 0 < k ∧ (w.run arguments).world =
        { w with network := w.network.after (command.get w .default) k } := by
  intro arguments command w
  have parsed : Invocation.parse w.environment arguments = .ok command.invocation := by
    decide +kernel
  have missing : w.disk.place command.path = .nothing := by decide +kernel
  obtain ⟨-, -, -, same, asks, -⟩ := missing_file_goes_unnoticed w arguments command parsed missing
  refine ⟨parsed, missing, same _ (by decide +kernel), asks ?_⟩
  exact Config.objection?_eq_none_iff.mp (by decide +kernel)

/-- A mistyped path: nothing stands there, and the command asks the service and ends well. -/
theorem mistyped_path_is_ignored :
    let path := "metrics.toml"
    let w := HistoryOptions.vacant
    let r := w.run ["ingest-metrics", "history", "--json", "--start=1", "--end=2",
      "--config=metrics.toml"]
    path ≠ "ingest-metrics.toml" ∧ w.disk.place path = .nothing ∧
      Config.loadForCommand path (w.disk.place path) w.environment none none = .ok .default ∧
      r.world.network.requests =
        ["/DataWave/Ingest/Metrics/services/ecs?start=1&end=2&ingestType=bulk"] ∧
      r.exitCode = 0 := by
  intro path w r
  have missing : w.disk.place path = .nothing := by decide +kernel
  have nothing : w.disk.place "ingest-metrics.toml" = .nothing := by decide +kernel
  have parsed : Invocation.parse w.environment ["ingest-metrics", "history", "--json", "--start=1",
      "--end=2", "--config=metrics.toml"] =
        .ok ((Asking.history (HistoryOptions.between 1 2)).withPath path).invocation := by
    decide +kernel
  have ran : r = (HistoryOptions.between 1 2).run w :=
    (World.run_of_ok parsed).trans (run_withPath_of_missing nothing missing)
  have accepted : (HistoryOptions.between 1 2).settings w.environment
      (w.disk.place "ingest-metrics.toml") = .ok .default := by
    decide +kernel
  let target := "/DataWave/Ingest/Metrics/services/ecs?start=1&end=2&ingestType=bulk"
  have opens : w.network.opening? (HistoryOptions.address .default ⟨1, 2, "bulk"⟩) =
      some (HistoryOptions.usualUrl ["DataWave", "Ingest", "Metrics", "services", "ecs"]
        (some "start=1&end=2&ingestType=bulk") none) :=
    HistoryOptions.opening?_vacant (by decide +kernel) (by decide +kernel) (by cbv)
      (by decide +kernel) (by decide +kernel) (by decide +kernel)
  have fetch : w.network.converse (Http.get Config.default.transport.timeoutSeconds
      (HistoryOptions.address .default ((HistoryOptions.between 1 2).window w .default))) =
      (.answered 200 (some "[]"), w.network.asked target) := by
    refine (Network.converse_get_of_direct opens HistoryOptions.isDirect_vacant).trans
      (Prod.ext ?_ ?_)
    · decide +kernel
    · exact congrArg w.network.asked (by decide +kernel)
  have list : Http.Exchange.fetched (.answered 200 (some "[]")) = .ok (.arr []) :=
    Http.Exchange.fetched_eq_ok_iff.mpr ⟨200, "[]", rfl, by decide, by decide, rfl⟩
  obtain ⟨network, -, exitCode⟩ := HistoryOptions.run_eq accepted
  refine ⟨by decide, missing, by rw [missing]; decide +kernel, ?_, ?_⟩
  · rw [ran, network, fetch]
    rfl
  · rw [ran, exitCode, fetch, list]
    rfl

end Asking

end IngestWatch
