import IngestWatch.Program.Settings
import IngestWatch.Proofs.CommandLine.Flags
import IngestWatch.Proofs.Config.Overlay
import IngestWatch.Proofs.Decimal.Whole

/-!
Where the settings of a command come from. Each source is a layer that says some settings and
leaves the others open: the flags of the command, the variables, the file, and below them the
defaults. The configuration of a command says for each setting what the uppermost layer says
that says anything of it.
-/

namespace IngestWatch

open CommandLine (unset)

namespace Config

/-- What one source says of the settings. -/
structure Layer where
  baseUrl : Option String := none
  pathPrefix : Option String := none
  timeoutSeconds : Option UInt64 := none
  intervalMillis : Option UInt64 := none
  statisticType : Option String := none
  ingestType : Option String := none
  lookbackDays : Option UInt32 := none
  level : Option String := none
  format : Option LogFormat := none
  componentLevels : Option (List (String × String)) := none
deriving DecidableEq

namespace Layer

/-- Two layers as one: the lower one counts where the upper one says nothing. -/
def above (upper lower : Layer) : Layer where
  baseUrl := upper.baseUrl.or lower.baseUrl
  pathPrefix := upper.pathPrefix.or lower.pathPrefix
  timeoutSeconds := upper.timeoutSeconds.or lower.timeoutSeconds
  intervalMillis := upper.intervalMillis.or lower.intervalMillis
  statisticType := upper.statisticType.or lower.statisticType
  ingestType := upper.ingestType.or lower.ingestType
  lookbackDays := upper.lookbackDays.or lower.lookbackDays
  level := upper.level.or lower.level
  format := upper.format.or lower.format
  componentLevels := upper.componentLevels.or lower.componentLevels

/-- A layer over the defaults. -/
def complete (l : Layer) : Config where
  service := ⟨l.baseUrl.getD Service.default.baseUrl, l.pathPrefix.getD Service.default.pathPrefix,
    l.timeoutSeconds.or Service.default.timeoutSeconds⟩
  rate := ⟨l.intervalMillis.getD Rate.default.intervalMillis,
    l.statisticType.getD Rate.default.statisticType⟩
  history := ⟨l.ingestType.getD History.default.ingestType,
    l.lookbackDays.getD History.default.lookbackDays⟩
  logging := ⟨l.level.getD Logging.default.level, l.format.getD Logging.default.format,
    l.componentLevels.or Logging.default.componentLevels⟩

/-! ## The variables -/

/-- The number of 64 bits that all of a text names: digits, perhaps behind a plus sign. -/
def uint64? (text : String) : Option UInt64 :=
  (Decimal.number? 0xffffffffffffffff (Decimal.unsigned text)).map UInt64.ofNat

/-- The form of the log that a text without the blanks around it names, in letters of any case. -/
def format? (text : String) : Option LogFormat :=
  LogFormat.named.lookup (String.ofList ((Text.trimBlanks text.toList).map Char.toLower))

def ofVariables (env : Environment) : Layer where
  baseUrl := env "INGEST_METRICS_URL"
  intervalMillis := (env "INGEST_METRICS_POLL_INTERVAL").bind uint64?
  ingestType := env "INGEST_METRICS_INGEST_TYPE"
  level := env "INGEST_METRICS_LOG_LEVEL"
  format := (env "INGEST_METRICS_LOG_FORMAT").bind format?

theorem toOption_read (text : String) : (LogFormat.read text).toOption = format? text := by
  have same (name : String) (lower : name.toList.map Char.toLower = name.toList)
      (cs : List Char) :
      LogFormat.sameLetters name.toList cs = (String.ofList (cs.map Char.toLower) == name) := by
    rw [LogFormat.sameLetters, lower, Bool.eq_iff_iff, beq_iff_eq, beq_iff_eq]
    constructor
    · intro equal
      rw [← equal, String.ofList_toList]
    · intro equal
      rw [← equal, String.toList_ofList]
  have found : (LogFormat.read text).toOption =
      (LogFormat.named.find? fun f =>
        LogFormat.sameLetters f.1.toList (Text.trimBlanks text.toList)).map Prod.snd := by
    unfold LogFormat.read
    cases LogFormat.named.find? fun f =>
      LogFormat.sameLetters f.1.toList (Text.trimBlanks text.toList) <;> rfl
  rw [found]
  simp only [format?, LogFormat.named, List.find?_cons, List.lookup_cons,
    same "pretty" (by decide), same "compact" (by decide), same "json" (by decide)]
  repeat' split
  all_goals rfl

/-! ## The file -/

/-- What a document says of a setting: the value of a field in one of its sections. -/
def setting? {ρ α : Type} (doc : Toml) (name : String) (r : Record ρ) (field : String)
    (c : Codec α) : Option α :=
  ((record.given? doc name).bind (r.given? · field)).bind c.value?

def ofToml (doc : Toml) : Layer where
  baseUrl := setting? doc "service" Service.record "base_url" .text
  pathPrefix := setting? doc "service" Service.record "path_prefix" .text
  timeoutSeconds := setting? doc "service" Service.record "timeout_seconds" .uint64
  intervalMillis := setting? doc "rate" Rate.record "interval_millis" .uint64
  statisticType := setting? doc "rate" Rate.record "statistic_type" .text
  ingestType := setting? doc "history" History.record "ingest_type" .text
  lookbackDays := setting? doc "history" History.record "lookback_days" .uint32
  level := setting? doc "logging" Logging.record "level" .text
  format := setting? doc "logging" Logging.record "format" formatCodec
  componentLevels := setting? doc "logging" Logging.record "component_levels" .texts

/-- The document that stands at a place, if there is one. -/
def document? : Place → Option Toml
  | .file bytes => do
    let cs ← Text.utf8Decode? bytes
    (Toml.parse (String.ofList cs)).toOption
  | _ => none

/-- What the file at a place says; where there is none nothing is said. -/
def ofPlace (place : Place) : Layer :=
  match document? place with
  | some doc => ofToml doc
  | none => {}

/-- A setting of a configuration that is read from a document. -/
theorem overlaid_setting {ρ α : Type} {r : Record ρ} {part : Config → ρ} {name field : String}
    {value? : Toml → Option α} {get : ρ → α} {doc : Toml} {config : Config}
    (read : record.ofToml doc = .ok config) (outer : record.Tells name part r.codec.value?)
    (start : part .default = r.start) (distinct : (r.fields.map Field.name).Nodup)
    (inner : r.Tells field get value?) :
    Record.Overlaid value? ((record.given? doc name).bind (r.given? · field)) (get r.start)
      (get (part config)) := by
  have section_ := Record.get_of_ofToml outer (by decide) read
  cases given : record.given? doc name with
  | none =>
    rw [given] at section_
    have same : part config = part .default := section_
    exact congrArg get (same.trans start)
  | some v =>
    rw [given] at section_
    have taken : r.ofToml v = .ok (part config) := toOption_eq_some_iff.mp section_
    exact Record.get_of_ofToml inner distinct taken

/-- A document that is read as a configuration is a layer over the defaults. -/
theorem complete_ofToml {doc : Toml} {c : Config} (read : record.ofToml doc = .ok c) :
    c = (ofToml doc).complete := by
  have service : record.Tells "service" Config.service Service.record.codec.value? := by
    constructor <;> simp [record]
  have rate : record.Tells "rate" Config.rate Rate.record.codec.value? := by
    constructor <;> simp [record]
  have history : record.Tells "history" Config.history History.record.codec.value? := by
    constructor <;> simp [record]
  have logging : record.Tells "logging" Config.logging Logging.record.codec.value? := by
    constructor <;> simp [record]
  have baseUrl : c.service.baseUrl = (ofToml doc).baseUrl.getD Service.default.baseUrl :=
    (overlaid_setting read service rfl (by decide)
      (by constructor <;> simp [Service.record])).eq_getD
  have pathPrefix : c.service.pathPrefix =
      (ofToml doc).pathPrefix.getD Service.default.pathPrefix :=
    (overlaid_setting read service rfl (by decide)
      (by constructor <;> simp [Service.record])).eq_getD
  have timeout : c.service.timeoutSeconds =
      (ofToml doc).timeoutSeconds.or Service.default.timeoutSeconds :=
    (overlaid_setting read service rfl (by decide)
      (by constructor <;> simp [Service.record])).eq_or
  have interval : c.rate.intervalMillis =
      (ofToml doc).intervalMillis.getD Rate.default.intervalMillis :=
    (overlaid_setting read rate rfl (by decide)
      (by constructor <;> simp [Rate.record])).eq_getD
  have statistic : c.rate.statisticType =
      (ofToml doc).statisticType.getD Rate.default.statisticType :=
    (overlaid_setting read rate rfl (by decide)
      (by constructor <;> simp [Rate.record])).eq_getD
  have ingestType : c.history.ingestType =
      (ofToml doc).ingestType.getD History.default.ingestType :=
    (overlaid_setting read history rfl (by decide)
      (by constructor <;> simp [History.record])).eq_getD
  have lookback : c.history.lookbackDays =
      (ofToml doc).lookbackDays.getD History.default.lookbackDays :=
    (overlaid_setting read history rfl (by decide)
      (by constructor <;> simp [History.record])).eq_getD
  have level : c.logging.level = (ofToml doc).level.getD Logging.default.level :=
    (overlaid_setting read logging rfl (by decide)
      (by constructor <;> simp [Logging.record])).eq_getD
  have format : c.logging.format = (ofToml doc).format.getD Logging.default.format :=
    (overlaid_setting read logging rfl (by decide)
      (by constructor <;> simp [Logging.record])).eq_getD
  have components : c.logging.componentLevels =
      (ofToml doc).componentLevels.or Logging.default.componentLevels :=
    (overlaid_setting read logging rfl (by decide)
      (by constructor <;> simp [Logging.record])).eq_or
  rw [complete, ← baseUrl, ← pathPrefix, ← timeout, ← interval, ← statistic, ← ingestType,
    ← lookback, ← level, ← format, ← components]

theorem complete_ofPlace {path : String} {place : Place} {c : Config}
    (loads : loadOrDefault path place = .ok c) : c = (ofPlace place).complete := by
  cases place with
  | nothing => exact (Except.ok.inj loads).symm
  | directory => cases loads
  | closed reason => cases loads
  | file bytes =>
    obtain ⟨text, found, read⟩ := bind_eq_ok.mp loads
    rw [readText] at found
    cases decoded : Text.utf8Decode? bytes with
    | none => simp [decoded] at found
    | some cs =>
      simp only [decoded] at found
      obtain rfl := Except.ok.inj found
      obtain ⟨doc, parsed, taken⟩ := bind_eq_ok.mp (mapError_eq_ok.mp read)
      have document : document? (.file bytes) = some doc := by
        simp [document?, decoded, parsed, Except.toOption]
      rw [ofPlace, document]
      exact complete_ofToml (mapError_eq_ok.mp taken)

/-! ## One over the other -/

theorem getD_getD {α : Type} (upper lower : Option α) (d : α) :
    upper.getD (lower.getD d) = (upper.or lower).getD d := by
  cases upper <;> rfl

/-- What is said twice over counts once. -/
theorem or_or_self {α : Type} (upper lower : Option α) :
    upper.or (upper.or lower) = upper.or lower := by
  cases upper <;> rfl

theorem withEnvironment_complete (l : Layer) (env : Environment) :
    l.complete.withEnvironment env = ((ofVariables env).above l).complete := by
  have number : (fun s => (Decimal.readUInt64 s).toOption) = uint64? :=
    funext Decimal.toOption_readUInt64
  have form : (fun s => (LogFormat.read s).toOption) = format? := funext toOption_read
  simp only [withEnvironment, complete, above, ofVariables, getD_getD, number, form]
  rfl

end Layer

end Config

/-! ## The commands -/

def RateOptions.layer (flags : RateOptions) : Config.Layer :=
  { baseUrl := flags.url, level := flags.logLevel, intervalMillis := flags.interval }

def HistoryOptions.layer (flags : HistoryOptions) : Config.Layer :=
  { baseUrl := flags.url
    level := flags.logLevel
    ingestType := flags.ingestType
    lookbackDays := flags.lookbackDays }

open Config

theorem loadForCommand_under {path : String} {place : Place} {file : Config}
    (loads : loadOrDefault path place = .ok file) (env : Environment) (url level : Option String) :
    loadForCommand path place env (url.or (env urlVariable)) (level.or (env levelVariable)) =
      .ok ((Layer.above { baseUrl := url, level := level } (.ofVariables env)).above
        (.ofPlace place)).complete := by
  -- Both the reader of flags and the configuration look at a variable; to look twice does no harm.
  obtain rfl := Layer.complete_ofPlace loads
  rw [loadForCommand, loads, ok_bind, Layer.withEnvironment_complete]
  refine congrArg Except.ok ?_
  simp only [withFlags, Layer.complete, Layer.above, Layer.ofVariables, urlVariable, levelVariable,
    Layer.getD_getD, Option.none_or, Option.or_assoc, Layer.or_or_self]

theorem RateOptions.settings_under {flags : RateOptions} {env : Environment} {place : Place}
    {file : Config} (loads : loadOrDefault flags.config place = .ok file) :
    (flags.under env).settings env place =
      ((flags.layer.above (.ofVariables env)).above (.ofPlace place)).complete.checked := by
  have loaded : loadForCommand (flags.under env).config place env (flags.under env).url
      (flags.under env).logLevel = _ := loadForCommand_under loads env flags.url flags.logLevel
  rw [settings, loaded, ok_bind]
  refine congrArg Config.checked ?_
  simp only [apply, under, layer, Layer.complete, Layer.above, Layer.getD_getD, Option.none_or,
    Option.or_assoc]

theorem HistoryOptions.settings_under {flags : HistoryOptions} {env : Environment} {place : Place}
    {file : Config} (loads : loadOrDefault flags.config place = .ok file) :
    (flags.under env).settings env place =
      ((flags.layer.above (.ofVariables env)).above (.ofPlace place)).complete.checked := by
  have loaded : loadForCommand (flags.under env).config place env (flags.under env).url
      (flags.under env).logLevel = _ := loadForCommand_under loads env flags.url flags.logLevel
  rw [settings, loaded, ok_bind]
  refine congrArg Config.checked ?_
  simp only [apply, under, layer, Layer.complete, Layer.above, Layer.getD_getD, Option.none_or,
    Option.or_assoc]

/-- The configuration of the two commands that ask the service, for any arguments, variables and
file. Arguments are read as one of them under the variables if and only if they are without
them, and what they say then is the flags. If there is no file or it can be read, the command
goes by the flags over the variables over the file over the defaults, setting by setting,
provided that this passes the check. A variable whose text is no number or no form of the log
says nothing. -/
theorem settings_by_precedence (env : Environment) (arguments : List String) (place : Place)
    (file : Config) :
    (∀ o, Invocation.parse env arguments = .ok (.rate o) ↔
        ∃ flags, Invocation.parse unset arguments = .ok (.rate flags) ∧ o = flags.under env) ∧
      (∀ flags : RateOptions, loadOrDefault flags.config place = .ok file →
        (flags.under env).settings env place =
          ((flags.layer.above (.ofVariables env)).above (.ofPlace place)).complete.checked) ∧
      (∀ o, Invocation.parse env arguments = .ok (.history o) ↔
        ∃ flags, Invocation.parse unset arguments = .ok (.history flags) ∧ o = flags.under env) ∧
      ∀ flags : HistoryOptions, loadOrDefault flags.config place = .ok file →
        (flags.under env).settings env place =
          ((flags.layer.above (.ofVariables env)).above (.ofPlace place)).complete.checked :=
  ⟨fun _ => Invocation.parse_eq_rate_iff, fun _ => RateOptions.settings_under,
    fun _ => Invocation.parse_eq_history_iff, fun _ => HistoryOptions.settings_under⟩

/-- Every source says something, and a variable that is no number says nothing. -/
theorem settings_by_precedence_mixed :
    let env : Environment := fun name =>
      if name = "INGEST_METRICS_URL" then some "http://variable"
      else if name = "INGEST_METRICS_POLL_INTERVAL" then some "12 "
      else if name = "INGEST_METRICS_LOG_LEVEL" then some "warn"
      else if name = "INGEST_METRICS_LOG_FORMAT" then some " JSON\t"
      else none
    let place := Place.file
      "[rate]\ninterval_millis = 7\n[service]\nbase_url = \"http://file\"\n".toUTF8.toList
    ∃ o, Invocation.parse env ["ingest-metrics", "rate", "--url=http://flag"] = .ok (.rate o) ∧
      o.settings env place = .ok
        ⟨⟨"http://flag", "/DataWave/Ingest/Metrics", none⟩, ⟨7, "queryRate"⟩, ⟨"bulk", 14⟩,
          ⟨"warn", .json, none⟩⟩ := by
  intro env place
  have read : Invocation.parse unset ["ingest-metrics", "rate", "--url=http://flag"] = .ok (.rate
      ⟨"ingest-metrics.toml", some "http://flag", none, false, none, false, none⟩) := by
    decide +kernel
  have loads : loadOrDefault "ingest-metrics.toml" place = .ok
      ⟨⟨"http://file", "/DataWave/Ingest/Metrics", none⟩, ⟨7, "queryRate"⟩, .default,
        .default⟩ := by
    decide +kernel
  obtain ⟨parsed, settings, -⟩ := settings_by_precedence env
    ["ingest-metrics", "rate", "--url=http://flag"] place _
  refine ⟨_, (parsed _).mpr ⟨_, read, rfl⟩, (settings _ loads).trans ?_⟩
  decide +kernel

end IngestWatch
