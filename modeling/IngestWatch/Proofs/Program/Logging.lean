import IngestWatch.Proofs.CommandLine.Relevelled
import IngestWatch.Proofs.Config.Logging
import IngestWatch.Proofs.Program.Refusal

/-!
The commands that ask the service, run twice with different settings of the log. The log has
its own texts beside the output, and nothing that it is told has a part in what is asked for or
printed: both runs make the same requests, print the same and end alike.
-/

namespace IngestWatch

open CommandLine (Fault Relevels logVariables)
open Config (Relogged)

attribute [local irreducible] Http.get Http.Exchange.fetched

/-- Worlds with one service, clock and zone; their variables agree in all but what they say of
the log. -/
structure World.Akin (w w' : World) : Prop where
  environment : ∀ name, name ∉ logVariables → w.environment name = w'.environment name
  network : w.network = w'.network
  zone : w.zone = w'.zone
  now : w.now = w'.now

/-- Commands that are told the same but for the log level. -/
def Asking.Akin (command command' : Asking) : Prop :=
  command.invocation.unlevelled = command'.invocation.unlevelled

/-- Runs that print the same, end alike and have asked the service the same. -/
structure Run.Akin (r r' : Run) : Prop where
  output : r.output = r'.output
  exitCode : r.exitCode = r'.exitCode
  network : r.world.network = r'.world.network

section
variable {w w' : World} (akin : w.Akin w')
include akin

theorem World.Akin.display_eq : w.display = w'.display := by
  have colour : w.environment.forcesColour = w'.environment.forcesColour := by
    rw [Environment.forcesColour, Environment.forcesColour,
      akin.environment "CLICOLOR_FORCE" (by decide)]
  rw [World.display, World.display, colour, akin.zone]

theorem World.Akin.clock_eq : w.clock = w'.clock := by
  rw [World.clock, World.clock, akin.zone, akin.now]

theorem Config.Akin.withEnvironment {c c' : Config} (same : c.Akin c') :
    (c.withEnvironment w.environment).Akin (c'.withEnvironment w'.environment) := by
  obtain ⟨service, rate, history⟩ := same
  constructor
  · simp only [Config.withEnvironment, service, akin.environment "INGEST_METRICS_URL" (by decide)]
  · simp only [Config.withEnvironment, rate,
      akin.environment "INGEST_METRICS_POLL_INTERVAL" (by decide)]
  · simp only [Config.withEnvironment, history,
      akin.environment "INGEST_METRICS_INGEST_TYPE" (by decide)]

end

theorem Config.Akin.withFlags {c c' : Config} (same : c.Akin c')
    (url level level' : Option String) : (c.withFlags url level).Akin (c'.withFlags url level') :=
  ⟨by simp only [Config.withFlags, same.service], same.rate, same.history⟩

theorem Config.Akin.checked {c c' : Config} (same : c.Akin c') :
    Together (fun _ _ => True) Akin c.checked c'.checked := by
  rw [Config.checked, Config.checked, same.validate_eq]
  cases c'.validate with
  | error fault => exact .error trivial
  | ok _ => exact .ok same

/-- A watch does not know what is logged. -/
theorem Watch.new_akin {c c' : Config} (alike : c.Akin c') (o : RateOptions)
    (level : Option String) (display : Report.Display) :
    new c' { o with logLevel := level } display = new c o display := by
  obtain ⟨service, rate, history, logging⟩ := c
  obtain ⟨service', rate', history', logging'⟩ := c'
  obtain ⟨rfl, rfl, rfl⟩ : service = service' ∧ rate = rate' ∧ history = history' :=
    ⟨alike.service, alike.rate, alike.history⟩
  rfl

/-- Nor does a lookup. -/
theorem Lookup.new_akin {c c' : Config} (alike : c.Akin c') (o : HistoryOptions)
    (level : Option String) (display : Report.Display) (now : Int) :
    new c' { o with logLevel := level } display now = new c o display now := by
  obtain ⟨service, rate, history, logging⟩ := c
  obtain ⟨service', rate', history', logging'⟩ := c'
  obtain ⟨rfl, rfl, rfl⟩ : service = service' ∧ rate = rate' ∧ history = history' :=
    ⟨alike.service, alike.rate, alike.history⟩
  rfl

namespace Asking

/-- Two commands that differ in the log level are the same command. -/
theorem Akin.cases {command command' : Asking} (same : command.Akin command') :
    (∃ o level, command = .rate o ∧ command' = .rate { o with logLevel := level }) ∨
      ∃ o level, command = .history o ∧ command' = .history { o with logLevel := level } := by
  cases command with
  | rate o =>
    cases command' with
    | rate o' =>
      have equal : { o with logLevel := none } = { o' with logLevel := none } :=
        Invocation.rate.inj same
      refine Or.inl ⟨o, o'.logLevel, rfl, congrArg rate ?_⟩
      change { ({ o' with logLevel := none } : RateOptions) with logLevel := o'.logLevel } = _
      rw [← equal]
    | history o' => cases same
  | history o =>
    cases command' with
    | rate o' => cases same
    | history o' =>
      have equal : { o with logLevel := none } = { o' with logLevel := none } :=
        Invocation.history.inj same
      refine Or.inr ⟨o, o'.logLevel, rfl, congrArg history ?_⟩
      change { ({ o' with logLevel := none } : HistoryOptions) with logLevel := o'.logLevel } = _
      rw [← equal]

theorem Akin.path_eq {command command' : Asking} (same : command.Akin command') :
    command.path = command'.path := by
  obtain ⟨o, level, rfl, rfl⟩ | ⟨o, level, rfl, rfl⟩ := same.cases <;> rfl

theorem Akin.apply {command command' : Asking} (same : command.Akin command') {c c' : Config}
    (akin : c.Akin c') : (command.apply c).Akin (command'.apply c') := by
  obtain ⟨service, rate, history⟩ := akin
  obtain ⟨o, level, rfl, rfl⟩ | ⟨o, level, rfl, rfl⟩ := same.cases
  · exact ⟨service, by simp only [Asking.apply, RateOptions.apply, rate], history⟩
  · exact ⟨service, rate, by simp only [Asking.apply, HistoryOptions.apply, history]⟩

variable {w w' : World} {command command' : Asking}

theorem settings_akin (akin : w.Akin w') (same : command.Akin command')
    (relogged : Relogged (w.disk.place command.path) (w'.disk.place command.path)) :
    Together (fun _ _ => True) Config.Akin (command.settings w) (command'.settings w') := by
  have url : command.flags.baseUrl = command'.flags.baseUrl := by
    obtain ⟨o, level, rfl, rfl⟩ | ⟨o, level, rfl, rfl⟩ := same.cases <;> rfl
  rw [settings_eq, settings_eq, ← same.path_eq, ← url, Config.loadForCommand,
    Config.loadForCommand]
  refine Together.bind ((relogged.loadOrDefault command.path).bind fun c c' alike => ?_)
    fun c c' alike => (same.apply alike).checked
  exact .ok ((alike.withEnvironment akin).withFlags _ _ _)

/-- A command does the same under settings that differ in what is logged. -/
theorem run_akin (akin : w.Akin w') (same : command.Akin command')
    (relogged : Relogged (w.disk.place command.path) (w'.disk.place command.path)) :
    (command.invocation.run w).Akin (command'.invocation.run w') := by
  have settings := settings_akin akin same relogged
  cases settled : command.settings w with
  | error fault =>
    obtain ⟨fault', settled', -⟩ := settings.exists_error settled
    rw [run_of_error settled, run_of_error settled']
    exact ⟨rfl, rfl, akin.network⟩
  | ok c =>
    obtain ⟨c', settled', alike⟩ := settings.exists_ok settled
    obtain ⟨o, level, rfl, rfl⟩ | ⟨o, level, rfl, rfl⟩ := same.cases
    · change o.settings _ _ = _ at settled
      change RateOptions.settings { o with logLevel := level } _ _ = _ at settled'
      have watch := Watch.new_akin alike o level w.display
      change Run.Akin (o.run w) (RateOptions.run { o with logLevel := level } w')
      rw [RateOptions.run, RateOptions.run, settled, settled', ← akin.display_eq, ← akin.clock_eq,
        ← akin.network]
      dsimp only
      rw [watch]
      exact ⟨rfl, rfl, rfl⟩
    · change o.settings _ _ = _ at settled
      change HistoryOptions.settings { o with logLevel := level } _ _ = _ at settled'
      have lookup := Lookup.new_akin alike o level w.display w.now
      change Run.Akin (o.run w) (HistoryOptions.run { o with logLevel := level } w')
      rw [HistoryOptions.run, HistoryOptions.run, settled, settled', ← akin.display_eq, ← akin.now,
        ← akin.network]
      dsimp only
      rw [lookup]
      exact ⟨rfl, rfl, rfl⟩

end Asking

/-- What is logged has no part in what a command does, for any arguments, variables, files and
answers. Arguments that differ in the texts of the log level, read under variables that differ in
what they say of the log, are read as one command that differs in its log level only, or neither
is carried out: then neither run asks or prints anything and both end with 2, unless a
description was asked for. Where commands differ in the log level only and their file only in
its section about the log, which can be read, both make the same requests, print the same and end
alike. -/
theorem Asking.unaffected_by_logging (w w' : World) (akin : w.Akin w') (called : String)
    (arguments arguments' : List String) :
    let parsed := Invocation.parse w.environment (called :: arguments)
    let parsed' := Invocation.parse w'.environment (called :: arguments')
    let r := w.run (called :: arguments)
    let r' := w'.run (called :: arguments')
    (∀ command command' : Asking, parsed = .ok command.invocation →
        parsed' = .ok command'.invocation → command.Akin command' →
        Relogged (w.disk.place command.path) (w'.disk.place command.path) → r.Akin r') ∧
      (Relevels arguments arguments' →
        (∀ command : Asking, parsed = .ok command.invocation →
          ∃ command', parsed' = .ok command'.invocation ∧ command.Akin command') ∧
        ∀ fault, parsed = .error fault → fault.isAnswer = false →
          r.Akin r' ∧ r.output = "" ∧ r.exitCode = 2 ∧ r.world = w ∧ r'.world = w') := by
  intro parsed parsed' r r'
  refine ⟨fun command command' read read' same relogged => ?_, fun relevels => ⟨?_, ?_⟩⟩
  · have ran : r = command.invocation.run w := World.run_of_ok read
    have ran' : r' = command'.invocation.run w' := World.run_of_ok read'
    rw [ran, ran']
    exact run_akin akin same relogged
  · intro command read
    obtain ⟨i, read', same⟩ :=
      (Invocation.parse_alike akin.environment relevels called).exists_ok read
    cases i with
    | rate o => exact ⟨.rate o, read', same⟩
    | history o => exact ⟨.history o, read', same⟩
    | init o => cases command <;> cases same
    | completions shell => cases command <;> cases same
  · intro fault failed complaint
    obtain ⟨fault', failed', alike⟩ :=
      (Invocation.parse_alike akin.environment relevels called).exists_error failed
    have complaint' : fault'.isAnswer = false := alike.symm.trans complaint
    have ran : r = .stopped w (.refused fault) := World.run_of_error failed
    have ran' : r' = .stopped w' (.refused fault') := World.run_of_error failed'
    have output {w : World} {fault : Fault} (complaint : fault.isAnswer = false) :
        (Run.stopped w (.refused fault)).output = "" := by
      simp [Run.output, Run.stopped, Ending.output, outputOf, complaint]
    have exitCode {w : World} {fault : Fault} (complaint : fault.isAnswer = false) :
        (Run.stopped w (.refused fault)).exitCode = 2 := by
      simp [Run.exitCode, Run.stopped, Ending.exitCode, CommandLine.Fault.exitCode, complaint]
    rw [ran, ran']
    exact ⟨⟨(output complaint).trans (output complaint').symm,
      (exitCode complaint).trans (exitCode complaint').symm, akin.network⟩, output complaint,
      exitCode complaint, rfl, rfl⟩

/-- A level that is no level, a filter that cannot be read and a section about the log change
nothing. -/
theorem Asking.unaffected_by_logging_nonsense :
    let w := World.usual [.response ⟨200, [], [0x37], 1⟩]
    let w' := { w with
      environment := fun name => if name = "RUST_LOG" then some "=,=" else none
      disk := .ofFiles [(["ingest-metrics.toml"], "logging.level = 'loud'".toUTF8.toList)] }
    w.Akin w' ∧
      (w.run ["ingest-metrics", "rate", "--once", "--log-level", "debug"]).Akin
        (w'.run ["ingest-metrics", "rate", "--once", "--log-level", "-"]) := by
  intro w w'
  have akin : w.Akin w' := by
    refine ⟨fun name other => ?_, rfl, rfl, rfl⟩
    have filter : name ≠ "RUST_LOG" := by
      rintro rfl
      exact other (by decide)
    exact (if_neg filter).symm
  let o : RateOptions := ⟨"ingest-metrics.toml", none, none, true, none, false, some "debug"⟩
  have read : Invocation.parse w.environment
      ["ingest-metrics", "rate", "--once", "--log-level", "debug"] =
        .ok (Asking.rate o).invocation := by
    decide +kernel
  have relevels : Relevels ["rate", "--once", "--log-level", "debug"]
      ["rate", "--once", "--log-level", "-"] :=
    .same _ (.same _ (.apart (Or.inl rfl) (Or.inr (by decide)) (Or.inl rfl) .nil))
  have nothing : w.disk.place "ingest-metrics.toml" = .nothing := by decide +kernel
  have file : w'.disk.place "ingest-metrics.toml" =
      .file "logging.level = 'loud'".toUTF8.toList := by decide +kernel
  have document : Config.table? (.file "logging.level = 'loud'".toUTF8.toList) =
      some [("logging", .table [("level", .str "loud")])] := by
    cbv
  have relogged : Relogged (w.disk.place "ingest-metrics.toml")
      (w'.disk.place "ingest-metrics.toml") := by
    rw [nothing, file]
    exact .sections rfl document rfl (Or.inl rfl) (Or.inr ⟨_, ⟨"loud", .pretty, none⟩, rfl, rfl⟩)
  obtain ⟨runs, reads⟩ := unaffected_by_logging w w' akin "ingest-metrics"
    ["rate", "--once", "--log-level", "debug"] ["rate", "--once", "--log-level", "-"]
  obtain ⟨command', read', same⟩ := (reads relevels).1 _ read
  exact ⟨akin, runs _ command' read read' same relogged⟩

end IngestWatch
