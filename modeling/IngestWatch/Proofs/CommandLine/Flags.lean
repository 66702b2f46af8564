import IngestWatch.Invocation.Reader
import IngestWatch.Proofs.CommandLine.Variables

/-!
What the two commands that ask the service are told. Their flags are what the arguments say
when no variable is set; under any variables the same arguments tell the same, but that the
base URL and the log level come from their variables where no flag says them.
-/

namespace IngestWatch

open CommandLine

def urlVariable : String := "INGEST_METRICS_URL"

def levelVariable : String := "INGEST_METRICS_LOG_LEVEL"

namespace Invocation

theorem open_rateCommand : rateCommand.Open :=
  ⟨by decide, by decide, by decide, by decide⟩

theorem open_historyCommand : historyCommand.Open :=
  ⟨by decide, by decide, by decide, by decide⟩

theorem exists_matches {env : Variables} {arguments : List String} {i : Invocation}
    (parsed : parse env arguments = .ok i) :
    ∃ m, program.parse env arguments = .ok m ∧ ofMatches? m = some i := by
  obtain ⟨m, read, rest⟩ := bind_eq_ok.mp parsed
  split at rest
  · next found => exact ⟨m, read, found.trans (congrArg some (Except.ok.inj rest))⟩
  · cases rest

theorem parse_of_matches {env : Variables} {arguments : List String} {m : Matches} {i : Invocation}
    (read : program.parse env arguments = .ok m) (found : ofMatches? m = some i) :
    parse env arguments = .ok i := by
  rw [parse, read, ok_bind, found]
  rfl

theorem ofMatches?_eq_rate {m : Matches} {o : RateOptions} (found : ofMatches? m = some (.rate o)) :
    m.command = ["rate"] ∧ o = .ofMatches m := by
  unfold ofMatches? at found
  split at found
  · next command => exact ⟨command, by simpa using found.symm⟩
  all_goals simp [Option.bind_eq_some_iff] at found

theorem ofMatches?_eq_history {m : Matches} {o : HistoryOptions}
    (found : ofMatches? m = some (.history o)) :
    m.command = ["history"] ∧ o = .ofMatches m := by
  unfold ofMatches? at found
  split at found
  · simp at found
  · next command => exact ⟨command, by simpa using found.symm⟩
  all_goals simp [Option.bind_eq_some_iff] at found

end Invocation

/-! ## Each command -/

section
variable {s : State} {env : Variables}

/-- What variables add to the flags of the command for the query rate. -/
def RateOptions.under (env : Variables) (flags : RateOptions) : RateOptions :=
  { flags with
    url := flags.url.or (env urlVariable)
    logLevel := flags.logLevel.or (env levelVariable) }

/-- What variables add to the flags of the command for the history. -/
def HistoryOptions.under (env : Variables) (flags : HistoryOptions) : HistoryOptions :=
  { flags with
    url := flags.url.or (env urlVariable)
    logLevel := flags.logLevel.or (env levelVariable) }

theorem RateOptions.ofMatches_told (sound : s.Sound Invocation.rateCommand) (names : List String) :
    ofMatches ⟨names, Invocation.rateCommand.told env s⟩ =
      (ofMatches ⟨names, Invocation.rateCommand.told unset s⟩).under env := by
  have opened := Invocation.open_rateCommand
  have config := Command.text?_told_of_silent opened (n := "config") rfl sound rfl rfl names env
  have url := Command.text?_told opened (n := "url") rfl sound rfl names env
  have interval := Command.text?_told_of_silent opened (n := "interval") rfl sound rfl rfl names env
  have once := Command.isSet_told opened (n := "once") (s := s) rfl rfl names env
  have count := Command.text?_told_of_silent opened (n := "count") rfl sound rfl rfl names env
  have json := Command.isSet_told opened (n := "json") (s := s) rfl rfl names env
  have level := Command.text?_told opened (n := "log-level") rfl sound rfl names env
  simp only [ofMatches, under, numberOf?, config, url, interval, once, count, json, level]
  rfl

theorem HistoryOptions.ofMatches_told (sound : s.Sound Invocation.historyCommand)
    (names : List String) :
    ofMatches ⟨names, Invocation.historyCommand.told env s⟩ =
      (ofMatches ⟨names, Invocation.historyCommand.told unset s⟩).under env := by
  have opened := Invocation.open_historyCommand
  have config := Command.text?_told_of_silent opened (n := "config") rfl sound rfl rfl names env
  have url := Command.text?_told opened (n := "url") rfl sound rfl names env
  have start := Command.text?_told_of_silent opened (n := "start") rfl sound rfl rfl names env
  have stop := Command.text?_told_of_silent opened (n := "end") rfl sound rfl rfl names env
  have ingestType :=
    Command.text?_told_of_silent opened (n := "ingest-type") rfl sound rfl rfl names env
  have lookback :=
    Command.text?_told_of_silent opened (n := "lookback-days") rfl sound rfl rfl names env
  have json := Command.isSet_told opened (n := "json") (s := s) rfl rfl names env
  have level := Command.text?_told opened (n := "log-level") rfl sound rfl names env
  simp only [ofMatches, under, numberOf?, config, url, start, stop, ingestType, lookback, json,
    level]
  rfl

end

namespace Invocation

variable {arguments : List String}

/-- If variables only add to what a command is told, then arguments tell it the same without them
and under them, but for what they add. -/
theorem parse_eq_ok_iff {ω : Type} {c : Command} {n : List String} {f : ω → Invocation}
    (make : Matches → ω) (under : Variables → ω → ω) (here : program.at? n = some c)
    (opened : c.Open) (injective : Function.Injective f)
    (made : ∀ values, ofMatches? ⟨n, values⟩ = some (f (make ⟨n, values⟩)))
    (named : ∀ m o, ofMatches? m = some (f o) → m.command = n)
    (adds : ∀ s env, s.Sound c →
      make ⟨n, c.told env s⟩ = under env (make ⟨n, c.told unset s⟩))
    {env : Variables} {o : ω} :
    parse env arguments = .ok (f o) ↔
      ∃ flags, parse unset arguments = .ok (f flags) ∧ o = under env flags := by
  -- What was given is the same under all variables.
  have told {env : Variables} {o : ω} (parsed : parse env arguments = .ok (f o)) :
      ∃ s : State, s.Sound c ∧ o = make ⟨n, c.told env s⟩ ∧
        ∀ env', parse env' arguments = .ok (f (make ⟨n, c.told env' s⟩)) := by
    obtain ⟨⟨command, values⟩, read, found⟩ := exists_matches parsed
    obtain rfl : command = n := named _ _ found
    obtain ⟨s, sound, -, rfl, all⟩ := Command.exists_told read here opened
    have same := Option.some.inj (found.symm.trans (made (c.told env s)))
    exact ⟨s, sound, injective same, fun env' => parse_of_matches (all env') (made _)⟩
  constructor
  · intro parsed
    obtain ⟨s, sound, rfl, all⟩ := told parsed
    exact ⟨_, all unset, adds s env sound⟩
  · rintro ⟨flags, parsed, rfl⟩
    obtain ⟨s, sound, rfl, all⟩ := told parsed
    rw [all env, adds s env sound]

theorem parse_eq_rate_iff {env : Variables} {o : RateOptions} :
    parse env arguments = .ok (.rate o) ↔
      ∃ flags, parse unset arguments = .ok (.rate flags) ∧ o = flags.under env :=
  parse_eq_ok_iff (n := ["rate"]) .ofMatches RateOptions.under rfl open_rateCommand
    (fun _ _ => Invocation.rate.inj) (fun _ => rfl)
    (fun _ _ found => (ofMatches?_eq_rate found).1)
    fun _ _ sound => RateOptions.ofMatches_told sound _

theorem parse_eq_history_iff {env : Variables} {o : HistoryOptions} :
    parse env arguments = .ok (.history o) ↔
      ∃ flags, parse unset arguments = .ok (.history flags) ∧ o = flags.under env :=
  parse_eq_ok_iff (n := ["history"]) .ofMatches HistoryOptions.under rfl open_historyCommand
    (fun _ _ => Invocation.history.inj) (fun _ => rfl)
    (fun _ _ found => (ofMatches?_eq_history found).1)
    fun _ _ sound => HistoryOptions.ofMatches_told sound _

end Invocation

end IngestWatch
