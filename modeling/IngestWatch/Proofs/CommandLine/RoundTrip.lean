import IngestWatch.Proofs.CommandLine.Written

/-!
What the commands that ask the service are told, written as arguments and read again. A table says
for each option of a command what is given for it; the arguments for what is given, in any order,
lead back to the command with exactly these options. The command for the query rate is never told
both to ask once and how often to ask.
-/

namespace IngestWatch

open CommandLine

/-! ## What is written -/

/-- What is given for the options of the command for the query rate. -/
def RateOptions.table (o : RateOptions) : List (String × Option (Option String)) :=
  [("config", some (some o.config)), ("url", o.url.map some),
    ("interval", o.interval.map fun n => some (toString n)), ("once", switched o.once),
    ("count", o.count.map fun n => some (toString n)), ("json", switched o.json),
    ("log-level", o.logLevel.map some)]

/-- What is given for the options of the command for the history. -/
def HistoryOptions.table (o : HistoryOptions) : List (String × Option (Option String)) :=
  [("config", some (some o.config)), ("url", o.url.map some),
    ("start", o.start.map fun n => some (toString n)),
    ("end", o.stop.map fun n => some (toString n)), ("ingest-type", o.ingestType.map some),
    ("lookback-days", o.lookbackDays.map fun n => some (toString n)), ("json", switched o.json),
    ("log-level", o.logLevel.map some)]

/-- Both ends of the window, if they are given, fit 64 bits with a sign. -/
structure HistoryOptions.Fits (o : HistoryOptions) : Prop where
  start : ∀ n ∈ o.start, -0x8000000000000000 ≤ n ∧ n ≤ 0x7fffffffffffffff
  stop : ∀ n ∈ o.stop, -0x8000000000000000 ≤ n ∧ n ≤ 0x7fffffffffffffff

namespace CommandLine

theorem check_uint64 (argument : String) (n : UInt64) :
    Kind.uint64.check argument (toString n) = .ok () := by
  simp only [Kind.check, Decimal.readUInt64_toString]
  rfl

theorem check_int64 (argument : String) {n : Int}
    (fits : -0x8000000000000000 ≤ n ∧ n ≤ 0x7fffffffffffffff) :
    Kind.int64.check argument (toString n) = .ok () := by
  simp only [Kind.check, Decimal.readInt64_toString fits.1 fits.2]
  rfl

theorem readInt64_toString_uint32 (n : UInt32) :
    Decimal.readInt64 (toString n) = .ok (n.toNat : Int) := by
  have small := n.toNat_lt
  exact Decimal.readInt64_toString (n := n.toNat) (by omega) (by omega)

theorem check_uint32_of_read {argument text : String} {n : Int}
    (read : Decimal.readInt64 text = .ok n) (within : 0 ≤ n ∧ n < 0x100000000) :
    Kind.uint32.check argument text = .ok () := by
  simp only [Kind.check, read]
  change (if 0 ≤ n ∧ n < 0x100000000 then (pure () : Except Fault Unit) else _) = _
  rw [if_pos within]
  rfl

theorem check_path (argument : String) {path : String} (some : path ≠ "") :
    Kind.path.check argument path = .ok () := by
  simp [Kind.check, some]

/-- A path is always given. -/
theorem Command.takes_path {c : Command} {apart : List String} {name path : String} {o : Opt}
    (found : c.options.find? (·.name = name) = some o) {v : Value} (valued : o.value = some v)
    (kind : v.kind = .path) (named : path ≠ "") (signed : name ∈ apart → v.signed = true) :
    ∀ text, some (some path) = some text → c.Takes apart (name, text) := by
  rintro _ ⟨rfl⟩
  refine .text found valued ?_ signed
  rw [kind]
  exact check_path _ named

end CommandLine

namespace Invocation

theorem spells_rateCommand : rateCommand.Spells where
  lays := (levelled_program.find? (show program.find? "rate" = some rateCommand from rfl)).own
  single := rfl
  bare := rfl
  named := by decide

theorem spells_historyCommand : historyCommand.Spells where
  lays := (levelled_program.find? (show program.find? "history" = some historyCommand from rfl)).own
  single := rfl
  bare := rfl
  named := by decide

theorem parse_below {name : String} {sub : Command} (found : program.find? name = some sub)
    (env : Variables) (called : String) (arguments : List String) :
    ∃ path, program.parse env (called :: name :: arguments) =
      sub.read ⟨env, path⟩ [name] false .initial arguments := by
  refine ⟨(calledName? called).toList ++ [name], ?_⟩
  rw [Command.parse, Command.read]
  simp [State.awaited, State.initial, found, Context.below]

end Invocation

/-! ## What is read -/

theorem numberOf?_eq {α : Type} {read : String → Except Decimal.NumberFault α} {x : Option α}
    {write : α → String} (exact_ : ∀ a ∈ x, read (write a) = .ok a) {m : Matches} {name : String}
    (text : m.text? name = x.map write) : numberOf? read m name = x := by
  rw [numberOf?, text]
  cases x with
  | none => rfl
  | some a => simp [exact_ a rfl, Except.toOption]

theorem RateOptions.takes {o : RateOptions} (path : o.config ≠ "") :
    ∀ row ∈ o.table, ∀ text, row.2 = some text → Invocation.rateCommand.Takes [] (row.1, text) := by
  have joined {name : String} {v : Value} : name ∈ ([] : List String) → v.signed = true := by simp
  simp only [table, List.forall_mem_cons, List.not_mem_nil, IsEmpty.forall_iff, implies_true,
    and_true]
  refine ⟨?_, ?_, ?_, ?_, ?_, ?_, ?_⟩
  · exact Command.takes_path rfl rfl rfl path joined
  · exact Command.takes_written rfl id rfl (fun _ _ => rfl) joined
  · exact Command.takes_written rfl toString rfl (fun _ _ => check_uint64 _ _) joined
  · exact Command.takes_switched rfl rfl _
  · exact Command.takes_written rfl toString rfl (fun _ _ => check_uint64 _ _) joined
  · exact Command.takes_switched rfl rfl _
  · exact Command.takes_written rfl id rfl (fun _ _ => rfl) joined

theorem HistoryOptions.takes {o : HistoryOptions} (path : o.config ≠ "") (fits : o.Fits)
    {apart : List String} (numbers : apart ⊆ ["start", "end"]) :
    ∀ row ∈ o.table, ∀ text, row.2 = some text →
      Invocation.historyCommand.Takes apart (row.1, text) := by
  have joined {name : String} {v : Value} (other : name ∉ ["start", "end"]) :
      name ∈ apart → v.signed = true := by
    intro two
    exact absurd (numbers two) other
  simp only [table, List.forall_mem_cons, List.not_mem_nil, IsEmpty.forall_iff, implies_true,
    and_true]
  refine ⟨?_, ?_, ?_, ?_, ?_, ?_, ?_, ?_⟩
  · exact Command.takes_path rfl rfl rfl path (joined (by decide))
  · exact Command.takes_written rfl id rfl (fun _ _ => rfl) (joined (by decide))
  · refine Command.takes_written rfl toString rfl (fun n start => ?_) fun _ => rfl
    exact check_int64 _ (fits.start n start)
  · refine Command.takes_written rfl toString rfl (fun n stop => ?_) fun _ => rfl
    exact check_int64 _ (fits.stop n stop)
  · exact Command.takes_written rfl id rfl (fun _ _ => rfl) (joined (by decide))
  · refine Command.takes_written rfl toString rfl (fun n _ => ?_) (joined (by decide))
    have small := n.toNat_lt
    exact check_uint32_of_read (readInt64_toString_uint32 n) (by omega)
  · exact Command.takes_switched rfl rfl _
  · exact Command.takes_written rfl id rfl (fun _ _ => rfl) (joined (by decide))

theorem RateOptions.nodup_table (o : RateOptions) : (o.table.map Prod.fst).Nodup := by
  change ["config", "url", "interval", "once", "count", "json", "log-level"].Nodup
  decide

theorem HistoryOptions.nodup_table (o : HistoryOptions) : (o.table.map Prod.fst).Nodup := by
  change ["config", "url", "start", "end", "ingest-type", "lookback-days", "json",
    "log-level"].Nodup
  decide

section
variable {order : List (String × Option String)} (names : List String)

theorem RateOptions.ofMatches_table {o : RateOptions} (perm : order.Perm (given o.table)) :
    ofMatches ⟨names, Invocation.rateCommand.told unset (State.initial.put order)⟩ = o := by
  have opened := Invocation.open_rateCommand
  have once := o.nodup_table
  have config := Command.text?_of_row (x := some o.config) once perm opened (n := "config") rfl
    names id rfl nofun
  have url := Command.text?_of_row once perm opened (n := "url") rfl names id rfl fun _ => rfl
  have interval := Command.text?_of_row once perm opened (n := "interval") rfl names toString rfl
    fun _ => rfl
  have ask := Command.isSet_of_row once perm opened (n := "once") rfl names rfl rfl
  have count := Command.text?_of_row once perm opened (n := "count") rfl names toString rfl
    fun _ => rfl
  have json := Command.isSet_of_row once perm opened (n := "json") rfl names rfl rfl
  have level := Command.text?_of_row once perm opened (n := "log-level") rfl names id rfl
    fun _ => rfl
  have number (n : UInt64) : Decimal.readUInt64 (toString n) = .ok n :=
    Decimal.readUInt64_toString n
  simp only [ofMatches, config, url, numberOf?_eq (fun n _ => number n) interval, ask,
    numberOf?_eq (fun n _ => number n) count, json, level, Option.map_id_fun, id, Option.getD_some]

theorem HistoryOptions.ofMatches_table {o : HistoryOptions} (fits : o.Fits)
    (perm : order.Perm (given o.table)) :
    ofMatches ⟨names, Invocation.historyCommand.told unset (State.initial.put order)⟩ = o := by
  have opened := Invocation.open_historyCommand
  have once := o.nodup_table
  have config := Command.text?_of_row (x := some o.config) once perm opened (n := "config") rfl
    names id rfl nofun
  have url := Command.text?_of_row once perm opened (n := "url") rfl names id rfl fun _ => rfl
  have start := Command.text?_of_row once perm opened (n := "start") rfl names toString rfl
    fun _ => rfl
  have stop := Command.text?_of_row once perm opened (n := "end") rfl names toString rfl
    fun _ => rfl
  have ingestType := Command.text?_of_row once perm opened (n := "ingest-type") rfl names id rfl
    fun _ => rfl
  have lookback := Command.text?_of_row once perm opened (n := "lookback-days") rfl names toString
    rfl fun _ => rfl
  have json := Command.isSet_of_row once perm opened (n := "json") rfl names rfl rfl
  have level := Command.text?_of_row once perm opened (n := "log-level") rfl names id rfl
    fun _ => rfl
  have starts : ∀ n ∈ o.start, Decimal.readInt64 (toString n) = .ok n := by
    intro n given
    obtain ⟨low, high⟩ := fits.start n given
    exact Decimal.readInt64_toString low high
  have stops : ∀ n ∈ o.stop, Decimal.readInt64 (toString n) = .ok n := by
    intro n given
    obtain ⟨low, high⟩ := fits.stop n given
    exact Decimal.readInt64_toString low high
  have days : (numberOf? Decimal.readInt64
      ⟨names, Invocation.historyCommand.told unset (State.initial.put order)⟩
        "lookback-days").map (fun n => UInt32.ofNat n.toNat) = o.lookbackDays := by
    rw [numberOf?, lookback]
    cases o.lookbackDays with
    | none => rfl
    | some n => simp [readInt64_toString_uint32, Except.toOption]
  simp only [ofMatches, config, url, numberOf?_eq starts start, numberOf?_eq stops stop, ingestType,
    days, json, level, Option.map_id_fun, id, Option.getD_some]

end

/-! ## Back and forth -/

namespace Invocation

theorem parse_of_table {ω : Type} {c : Command} {n : String} {f : ω → Invocation} {o : ω}
    (make : Matches → ω) (here : program.find? n = some c) (spells : c.Spells)
    (made : ∀ values, ofMatches? ⟨[n], values⟩ = some (f (make ⟨[n], values⟩)))
    {table : List (String × Option (Option String))} (once : (table.map Prod.fst).Nodup)
    {apart : List String}
    (takes : ∀ row ∈ table, ∀ text, row.2 = some text → c.Takes apart (row.1, text))
    (single : ∀ p ∈ c.exclusive,
      ¬ ((table.lookup p.1).join.isSome = true ∧ (table.lookup p.2).join.isSome = true))
    {order : List (String × Option String)} (perm : order.Perm (given table))
    (back : make ⟨[n], c.told unset (State.initial.put order)⟩ = o) (called : String) :
    parse unset (called :: n :: order.flatMap (words apart)) = .ok (f o) := by
  obtain ⟨path, below⟩ := parse_below here unset called (order.flatMap (words apart))
  have read := Command.read_table once perm spells takes single unset path [n]
  refine parse_of_matches (below.trans read) ?_
  rw [made, back]

theorem parse_rate_words {o : RateOptions} (path : o.config ≠ "")
    (one : ¬ (o.once = true ∧ o.count.isSome = true)) {order : List (String × Option String)}
    (perm : order.Perm (given o.table)) (called : String) :
    parse unset (called :: "rate" :: order.flatMap (words [])) = .ok (.rate o) := by
  refine parse_of_table (f := .rate) .ofMatches rfl spells_rateCommand (fun _ => rfl) o.nodup_table
    (o.takes path) ?_ perm (o.ofMatches_table _ perm) called
  intro p pair
  obtain rfl : p = ("once", "count") := List.mem_singleton.mp pair
  rintro ⟨ask, count⟩
  change (switched o.once).isSome = true at ask
  change (o.count.map fun n => some (toString n)).isSome = true at count
  apply one
  constructor
  · unfold switched at ask
    split at ask
    · assumption
    · cases ask
  · rwa [Option.isSome_map] at count

theorem parse_history_words {o : HistoryOptions} (path : o.config ≠ "") (fits : o.Fits)
    {apart : List String} (numbers : apart ⊆ ["start", "end"])
    {order : List (String × Option String)} (perm : order.Perm (given o.table)) (called : String) :
    parse unset (called :: "history" :: order.flatMap (words apart)) = .ok (.history o) :=
  parse_of_table (f := .history) .ofMatches rfl spells_historyCommand (fun _ => rfl) o.nodup_table
    (o.takes path fits numbers) (List.forall_mem_nil _) perm (o.ofMatches_table _ fits perm) called

/-- What excludes each other was not given together, whatever the arguments and the variables. -/
theorem not_once_and_count {env : Variables} {arguments : List String} {o : RateOptions}
    (parsed : parse env arguments = .ok (.rate o)) :
    ¬ (o.once = true ∧ o.count.isSome = true) := by
  obtain ⟨⟨names, values⟩, read, found⟩ := exists_matches parsed
  obtain ⟨command, rfl⟩ := ofMatches?_eq_rate found
  obtain rfl : names = ["rate"] := command
  obtain ⟨s, -, enough, rfl, -⟩ := Command.exists_told read rfl open_rateCommand
  have apart := Command.clash?_eq_none_iff.mp enough.clashless ("once", "count") (.head _)
  rintro ⟨ask, count⟩
  have named (n : String) {p : Opt} (option : rateCommand.options.find? (·.name = n) = some p) :=
    Command.isSet_told_of_silent (s := s) open_rateCommand option
  apply apart
  constructor
  · rw [← named "once" rfl rfl rfl ["rate"] env]
    exact ask
  · rw [← named "count" rfl rfl rfl ["rate"] env]
    change ((Matches.text? _ "count").bind _).isSome = true at count
    obtain ⟨n, read⟩ := Option.isSome_iff_exists.mp count
    obtain ⟨text, told, -⟩ := Option.bind_eq_some_iff.mp read
    rw [Matches.isSet, Option.join_eq_some_iff.mp told]
    rfl

/-- The options of both commands that ask the service, written as arguments in any order, are read
back as they were, if no variable speaks for them: each option as one argument with whatever text,
or the ends of a window as two, below zero or not. And no arguments at all, under no variables,
tell the command for the query rate both to ask once and how often to ask. -/
theorem arguments_read_back (env : Variables) (url : env urlVariable = none)
    (level : env levelVariable = none) (called : String) :
    (∀ o : RateOptions, o.config ≠ "" → ¬ (o.once = true ∧ o.count.isSome = true) →
      ∀ order : List (String × Option String), order.Perm (given o.table) →
        parse env (called :: "rate" :: order.flatMap (words [])) = .ok (.rate o)) ∧
    (∀ o : HistoryOptions, o.config ≠ "" → o.Fits →
      ∀ order : List (String × Option String), order.Perm (given o.table) →
        ∀ apart ⊆ ["start", "end"],
          parse env (called :: "history" :: order.flatMap (words apart)) = .ok (.history o)) ∧
    ∀ (env : Variables) (arguments : List String) (o : RateOptions),
      parse env arguments = .ok (.rate o) → ¬ (o.once = true ∧ o.count.isSome = true) := by
  refine ⟨?_, ?_, fun env arguments o => not_once_and_count⟩
  · intro o path one order perm
    refine parse_eq_rate_iff.mpr ⟨o, parse_rate_words path one perm called, ?_⟩
    rw [RateOptions.under, url, level, Option.or_none, Option.or_none]
  · intro o path fits order perm apart numbers
    refine parse_eq_history_iff.mpr ⟨o, parse_history_words path fits numbers perm called, ?_⟩
    rw [HistoryOptions.under, url, level, Option.or_none, Option.or_none]

/-- Texts that are empty, begin with a hyphen or hold an equals sign, the greatest and the least
numbers, and one end of the window apart from its option. -/
theorem arguments_read_back_hyphens :
    let env : Variables := fun name => if name = "HOME" then some "/root" else none
    let rate : RateOptions :=
      ⟨"--config", some "", some 0xffffffffffffffff, false, some 0, true, some "a=b"⟩
    let history : HistoryOptions :=
      ⟨"=", none, some (-0x8000000000000000), some 0x7fffffffffffffff, some "-x=-y",
        some 0xffffffff, true, none⟩
    env urlVariable = none ∧ env levelVariable = none ∧
    rate.config ≠ "" ∧ ¬ (rate.once = true ∧ rate.count.isSome = true) ∧
    parse env ["ingest-metrics", "rate", "--log-level=a=b", "--count=0", "--json", "--url=",
      "--interval=18446744073709551615", "--config=--config"] = .ok (.rate rate) ∧
    history.config ≠ "" ∧ history.Fits ∧
    parse env ["ingest-metrics", "history", "--ingest-type=-x=-y", "--end=9223372036854775807",
      "--json", "--config==", "--start", "-9223372036854775808",
      "--lookback-days=4294967295"] = .ok (.history history) := by
  intro env rate history
  have one : ¬ (rate.once = true ∧ rate.count.isSome = true) := by decide
  have fits : history.Fits := ⟨by decide, by decide⟩
  obtain ⟨rates, histories, -⟩ := arguments_read_back env rfl rfl "ingest-metrics"
  have first := rates rate (by decide) one
    [("log-level", some "a=b"), ("count", some "0"), ("json", none), ("url", some ""),
      ("interval", some "18446744073709551615"), ("config", some "--config")] (by decide +kernel)
  have second := histories history (by decide) fits
    [("ingest-type", some "-x=-y"), ("end", some "9223372036854775807"), ("json", none),
      ("config", some "="), ("start", some "-9223372036854775808"),
      ("lookback-days", some "4294967295")] (by decide +kernel) ["start"] (by decide)
  exact ⟨rfl, rfl, by decide, one, first, by decide, fits, second⟩

end Invocation

end IngestWatch
