import IngestWatch.Proofs.Program.Watch
import IngestWatch.Proofs.Report.Tables
import Mathlib

/-!
The command for the query rate, told from what its requests come to. It prints the records of
the requests that succeed, in their order, and it ends with the count it was given or with the
first failure. With a count of nought it does not look at what its one request comes to.
-/

namespace IngestWatch

open Http (Network)

attribute [local irreducible] Http.get Http.Exchange.fetched

namespace Config

def transport (c : Config) : Transport :=
  .new c.service.baseUrl (c.service.timeoutSeconds.map UInt64.toNat)

def statistics (c : Config) : String :=
  Target.statistics c.service.pathPrefix c.rate.statisticType

def statisticsGet (c : Config) : Http.Conversation Http.Exchange :=
  c.transport.exchange c.statistics

/-- What cycle number `k` comes to when the statistic is fetched again and again. -/
def cycle (c : Config) (n : Network) (k : Nat) : Fetched :=
  n.fetched c.statisticsGet k

/-- The first cycles succeed, and these are their records. -/
def Yields (c : Config) (n : Network) (k : Nat) (records : List Json) : Prop :=
  (List.range k).map (c.cycle n) = records.map .ok

end Config

theorem Watch.get_new (c : Config) (o : RateOptions) (display : Report.Display) :
    (new c o display).1.get = c.statisticsGet := by
  rw [new_fst, fresh]
  split <;> rfl

theorem Watch.printedBy_new (c : Config) (o : RateOptions) (display : Report.Display) :
    printedBy (new c o display).2 = [] := by
  unfold new
  dsimp only
  split <;> rfl

namespace RateOptions

/-- What is printed of a record. -/
def Shows (o : RateOptions) (w : World) (record : Json) (text : String) : Prop :=
  if o.json then
    text = (Json.obj [("fetched_at", .str w.clock.rfc3339), ("record", record)]).compact
  else Report.IsRateTableOf w.display w.clock record text

/-- What is printed are reports of some records, one for each in their order, and each on lines
of its own. -/
def Prints (o : RateOptions) (w : World) (records : List Json) (printed : List String) : Prop :=
  List.Forall₂ (fun record line => ∃ text, line = text ++ "\n" ∧ o.Shows w record text)
    records printed

/-- A report of a record, on lines of its own. -/
def lines (o : RateOptions) (w : World) (record : Json) : String :=
  (if o.json then Report.rateJson w.clock record
    else Report.rateTable w.display w.clock record) ++ "\n"

/-- What the requests that a run of the command makes come to, one after the other. -/
def cycles (o : RateOptions) (w : World) : List Fetched :=
  match o.settings w.environment (w.disk.place o.config) with
  | .error _ => []
  | .ok c => (Watch.new c o w.display).1.fetches w.clock w.network

variable {o : RateOptions} {w : World} {c : Config}

theorem prints_lines (o : RateOptions) (w : World) (records : List Json) :
    o.Prints w records (records.map (o.lines w)) := by
  refine List.forall₂_map_right_iff.mpr (List.forall₂_same.mpr fun record _ => ⟨_, rfl, ?_⟩)
  unfold Shows
  split
  · rfl
  · exact Report.isRateTableOf_rateTable _ _ _

/-- The watch that a run of the command is. -/
structure WatchedBy (o : RateOptions) (w : World) (c : Config) (watch : Watch) : Prop where
  ready : watch.IsReady
  limit : watch.limit = Limit.of o
  nothing : watch.printed = 0
  lines : (fun r => watch.report w.clock r ++ "\n") = o.lines w
  fetches : o.cycles w = watch.fetches w.clock w.network
  cycles : o.cycles w = (List.range (o.cycles w).length).map (c.cycle w.network)
  printed : Watch.printedBy (o.run w).remarks = Watch.printedBy (watch.run w.clock w.network).1
  ending : (o.run w).ending = .ofFetch (watch.run w.clock w.network).2.1
  network : (o.run w).world.network = w.network.after c.statisticsGet (o.cycles w).length

theorem exists_watch (accepted : o.settings w.environment (w.disk.place o.config) = .ok c) :
    ∃ watch, o.WatchedBy w c watch := by
  have state := Watch.new_fst c o w.display
  have fetches : o.cycles w = (Watch.new c o w.display).1.fetches w.clock w.network := by
    simp [cycles, accepted]
  obtain ⟨left, results⟩ := Watch.run_network (Watch.new c o w.display).1 w.clock w.network
    (Watch.isReady_new c o w.display)
  rw [Watch.get_new, ← fetches] at left results
  refine ⟨(Watch.new c o w.display).1, Watch.isReady_new c o w.display, by rw [state],
    by rw [state], ?_, fetches, results, ?_, ?_, ?_⟩
  · rw [state]
    rfl
  · simp [run, accepted, Watch.printedBy_new]
  · simp [run, accepted]
  · simp [run, accepted, ← left]

theorem isReached_zero_iff :
    (Limit.of o).isReached 0 = true ↔ o.once = false ∧ o.count = some 0 := by
  cases once : o.once with
  | true => simp [Limit.of, once, Limit.isReached]
  | false =>
    cases count : o.count with
    | none => simp [Limit.of, once, count, Limit.isReached]
    | some n => simp [Limit.of, once, count, Limit.isReached, ← UInt64.toNat_inj]

/-- What a run has come to that printed some records and made a number of requests. -/
structure Ended (o : RateOptions) (w : World) (c : Config) (records : List Json) (requests : Nat)
    (result : Except FetchFailure Unit) : Prop where
  printed : o.Prints w records (Watch.printedBy (o.run w).remarks)
  output : (o.run w).output = String.join (Watch.printedBy (o.run w).remarks)
  ending : (o.run w).ending = .ofFetch result
  cycles : o.cycles w = (List.range requests).map (c.cycle w.network)
  network : (o.run w).world.network = w.network.after c.statisticsGet requests

/-- A run that ends with what its requests came to has nothing on the standard output but what
its watch prints. -/
theorem output_of_ending {result : Except FetchFailure Unit}
    (ending : (o.run w).ending = .ofFetch result) :
    (o.run w).output = String.join (Watch.printedBy (o.run w).remarks) := by
  rw [Run.output, outputOf, ← Watch.printedBy, ending]
  cases result <;> simp [Ending.ofFetch, Ending.output]

theorem Ended.of_printed {records : List Json} {requests : Nat} {result : Except FetchFailure Unit}
    (printed : Watch.printedBy (o.run w).remarks = records.map (o.lines w))
    (ending : (o.run w).ending = .ofFetch result)
    (cycles : o.cycles w = (List.range requests).map (c.cycle w.network))
    (network : (o.run w).world.network = w.network.after c.statisticsGet requests) :
    o.Ended w c records requests result :=
  ⟨printed ▸ prints_lines o w records, output_of_ending ending, ending, cycles, network⟩

theorem Ended.exitCode {records : List Json} {requests : Nat} {result : Except FetchFailure Unit}
    (ended : o.Ended w c records requests result) :
    (o.run w).exitCode = if result.isOk then 0 else 1 := by
  rw [Run.exitCode, ended.ending]
  cases result <;> rfl

theorem Ended.cycles_of_error {records : List Json} {reason : FetchFailure}
    {result : Except FetchFailure Unit} (ended : o.Ended w c records (records.length + 1) result)
    (yields : c.Yields w.network records.length records)
    (failed : c.cycle w.network records.length = .error reason) :
    o.cycles w = records.map .ok ++ [.error reason] := by
  rw [ended.cycles, List.range_succ, List.map_append, List.map_singleton, failed]
  exact congrArg (· ++ _) yields

/-- Every run of the command that is to print something: some requests succeed, and then
either they were enough or the next one fails. -/
theorem exists_ended (accepted : o.settings w.environment (w.disk.place o.config) = .ok c)
    (wanting : (Limit.of o).isReached 0 = false) :
    ∃ records : List Json, c.Yields w.network records.length records ∧
      ((o.Ended w c records records.length (.ok ()) ∧
          (Limit.of o).quota = some records.length) ∨
        ∃ reason, c.cycle w.network records.length = .error reason ∧
          o.Ended w c records (records.length + 1) (.error reason) ∧
          ∀ q ∈ (Limit.of o).quota, records.length < q) := by
  obtain ⟨watch, watched⟩ := exists_watch accepted
  obtain ⟨records, course⟩ := watch.exists_course w.clock w.network watched.ready
    (by rw [watched.limit, watched.nothing, wanting])
  have printed := watched.printed.trans course.printed
  have cycles := watched.cycles
  have network := watched.network
  rw [watched.lines] at printed
  refine ⟨records, ?_⟩
  rcases course.ending with ⟨all, result, quota⟩ | ⟨reason, all, result, below⟩
  · have results := watched.fetches.trans all
    have count : (o.cycles w).length = records.length := by
      rw [results, List.length_map]
    rw [count] at cycles network
    rw [watched.limit, watched.nothing, Nat.zero_add] at quota
    exact ⟨cycles.symm.trans results,
      Or.inl ⟨.of_printed printed (by rw [watched.ending, result]) cycles network, quota⟩⟩
  · have results := watched.fetches.trans all
    have count : (o.cycles w).length = records.length + 1 := by
      rw [results, List.length_append, List.length_map, List.length_singleton]
    rw [count] at cycles network
    rw [watched.limit, watched.nothing, Nat.zero_add] at below
    have both := cycles.symm.trans results
    rw [List.range_succ, List.map_append, List.map_singleton] at both
    obtain ⟨succeeded, failed⟩ := List.append_inj' both rfl
    exact ⟨succeeded, Or.inr ⟨reason, List.singleton_injective failed,
      .of_printed printed (by rw [watched.ending, result]) cycles network, below⟩⟩

def polling (count : Option UInt64) : RateOptions :=
  ⟨"ingest-metrics.toml", none, none, false, count, true, none⟩

end RateOptions

/-- A world without files and variables where the service has its usual address. -/
def World.usual (answers : List Http.Answer) : World :=
  ⟨fun _ => none, .ofFiles [], ⟨"localhost:8080", answers, []⟩, .fixed 0, 0⟩

namespace World

def usualUrl : Url :=
  ⟨"http", some ⟨"", none, some (.domain "localhost"), some 8080⟩,
    .parts ["DataWave", "Ingest", "Metrics", "services", "statistics"], some "type=queryRate", none⟩

theorem opening?_usual (answers : List Http.Answer) :
    (usual answers).network.opening? (Config.default.transport.address Config.default.statistics) =
      some usualUrl := by
  have parsed : Url.parse (Config.default.transport.address Config.default.statistics) =
      .ok usualUrl := by decide +kernel
  have anonymous : Http.withoutCredentials usualUrl = usualUrl := by decide +kernel
  have requestable : Http.isRequestable usualUrl := by cbv
  have plain : (Http.Request.opening usualUrl).secure = false := by decide +kernel
  have place : (Http.Request.opening usualUrl).place = "localhost:8080" := by decide +kernel
  rw [Network.opening?, Http.opening?_of_parse parsed rfl anonymous requestable,
    Option.filter_some, plain, place]
  rfl

end World

namespace RateOptions

theorem settings_of_loaded {o : RateOptions} {env : Environment} {place : Place} {c : Config}
    (loaded : Config.loadForCommand o.config place env o.url o.logLevel = .ok c) :
    o.settings env place = (o.apply c).checked := by
  rw [settings, loaded]
  rfl

theorem settings_polling (count : Option UInt64) (answers : List Http.Answer) :
    (polling count).settings (World.usual answers).environment
      ((World.usual answers).disk.place (polling count).config) = .ok .default := by
  have noFile : (Disk.ofFiles []).place "ingest-metrics.toml" = .nothing := by decide +kernel
  have loaded : Config.loadForCommand "ingest-metrics.toml" .nothing (fun _ => none) none none =
      .ok .default := by decide +kernel
  have checked : Config.default.checked = .ok .default := by decide +kernel
  have applied : (polling count).apply .default = .default := rfl
  rw [World.usual, polling, noFile, settings_of_loaded loaded, ← polling, applied, checked]

/-- A command that is to print nothing makes one request and does not look at what it comes to. -/
theorem ended_of_nought {o : RateOptions} {w : World} {c : Config}
    (accepted : o.settings w.environment (w.disk.place o.config) = .ok c)
    (nought : (Limit.of o).isReached 0 = true) : o.Ended w c [] 1 (.ok ()) := by
  obtain ⟨watch, watched⟩ := exists_watch accepted
  have reached : watch.limit.isReached watch.printed = true := by
    rw [watched.limit, watched.nothing, nought]
  have received : watch.receive (watch.arrival w.clock w.network) = _ :=
    Watch.receive_of_reached reached
  obtain ⟨run, fetches⟩ := Watch.run_of_settled received
  have one : (o.cycles w).length = 1 := by
    rw [watched.fetches, fetches, List.length_singleton]
  refine .of_printed ?_ (by rw [watched.ending, run]) (one ▸ watched.cycles)
    (one ▸ watched.network)
  rw [watched.printed, run]
  simp

/-- A run with accepted settings makes the GET of its statistic at least once, and its cycles are
what that comes to time after time. -/
theorem exists_cycles {o : RateOptions} {w : World} {c : Config}
    (accepted : o.settings w.environment (w.disk.place o.config) = .ok c) :
    ∃ k, 0 < k ∧ o.cycles w = (List.range k).map (c.cycle w.network) ∧
      (o.run w).world.network = w.network.after c.statisticsGet k := by
  obtain ⟨watch, watched⟩ := exists_watch accepted
  refine ⟨(o.cycles w).length, ?_, watched.cycles, watched.network⟩
  rw [watched.fetches, Watch.fetches]
  exact Nat.succ_pos _

theorem cycle_refused (status : Nat) (final : status ∈ [404, 500]) :
    Config.default.cycle (World.usual [.response ⟨status, [], [], 0⟩]).network 0 =
      .error (.badStatus status) := by
  have direct : (Http.Answer.response ⟨status, [], [], 0⟩).IsDirect := by
    refine Http.Answer.isDirect_of_status ?_
    fin_cases final <;> decide
  obtain ⟨-, fetched⟩ := Network.gets_of_opening
    (World.opening?_usual [.response ⟨status, [], [], 0⟩]) (by simpa [World.usual] using direct) 0
  refine fetched.trans ?_
  fin_cases final <;> cbv

end RateOptions

end IngestWatch
