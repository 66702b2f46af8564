import IngestWatch.Proofs.History
import IngestWatch.Proofs.Program.Rate
import IngestWatch.Proofs.Url.Query

/-!
The command for the history. It makes one GET, for the window it was told, and what it prints is
a report of that window and of the records that came; with anything but a list of records it
prints nothing and fails.
-/

namespace IngestWatch

open Http (Network Request Exchange)

attribute [local irreducible] Http.get Http.Exchange.fetched

/-! ## Answers -/

/-- An exchange that ends in success with a document that is a list. -/
def Http.Exchange.Lists (e : Exchange) (items : List Json) : Prop :=
  ∃ status text, e = .answered status (some text) ∧ 200 ≤ status ∧ status ≤ 299 ∧
    Json.parse Json.usualDepth text = .ok (.arr items)

theorem Http.Exchange.fetched_eq_ok_iff {e : Exchange} {v : Json} :
    e.fetched = .ok v ↔ ∃ status text, e = .answered status (some text) ∧ 200 ≤ status ∧
      status ≤ 299 ∧ Json.parse Json.usualDepth text = .ok v := by
  unfold Exchange.fetched
  cases e with
  | failed failure => simp
  | answered status body =>
    have success : Exchange.isSuccess status = true ↔ 200 ≤ status ∧ status ≤ 299 := by
      simp [Exchange.isSuccess]
    cases body with
    | none => by_cases h : Exchange.isSuccess status = true <;> simp [h]
    | some text =>
      by_cases h : Exchange.isSuccess status = true
      · simp [h, mapError_eq_ok, success.mp h]
      · simp [h, ← and_assoc, ← success]

/-! ## The run of the command -/

namespace HistoryOptions

/-- The window that a command is told: the one that ends today and goes back as far as the
configuration says, where no other bounds are given. -/
def window (o : HistoryOptions) (w : World) (c : Config) : Window :=
  let usual := Window.endingToday w.zone w.now c.history.lookbackDays.toNat c.history.ingestType
  ⟨o.start.getD usual.start, o.stop.getD usual.stop, c.history.ingestType⟩

/-- The address at which the history of a window is. -/
def address (c : Config) (window : Window) : String :=
  c.transport.address
    (Target.history c.service.pathPrefix window.start window.stop window.ingestType)

/-- What is printed of the records of a window. -/
def Shows (o : HistoryOptions) (d : Report.Display) (window : Window) (records : List Json)
    (text : String) : Prop :=
  if o.json then
    text = (Json.obj [("records", .arr records),
      ("window", .obj [("end", .int window.stop), ("ingest_type", .str window.ingestType),
        ("start", .int window.start)])]).pretty
  else Report.IsTableOf d window records text

variable {o : HistoryOptions} {w : World} {c : Config}

theorem outputOf_append (first second : List Remark) :
    outputOf (first ++ second) = outputOf first ++ outputOf second := by
  simp [outputOf]

/-- Nothing is printed before the answer. -/
theorem outputOf_new (c : Config) (o : HistoryOptions) (display : Report.Display) (now : Int) :
    outputOf (Lookup.new c o display now).2 = "" := by
  unfold Lookup.new
  dsimp only
  split <;> rfl

/-- A run of the command is one GET and what its lookup makes of what comes of that. -/
theorem run_eq (accepted : o.settings w.environment (w.disk.place o.config) = .ok c) :
    let get := Http.get c.transport.timeoutSeconds (address c (o.window w c))
    let lookup := (Lookup.new c o w.display w.now).1
    let received := lookup.receive (w.network.converse get).1.fetched
    (o.run w).world.network = (w.network.converse get).2 ∧
      (o.run w).output = outputOf received.1 ∧
      (o.run w).exitCode = if received.2.isOk then 0 else 1 := by
  intro get lookup received
  have ran : o.run w = ⟨some c.logging, (Lookup.new c o w.display w.now).2 ++ received.1,
      .ofFetch received.2, { w with network := (w.network.converse get).2 }⟩ := by
    rw [run, accepted]
    rfl
  rw [ran]
  refine ⟨rfl, ?_, ?_⟩
  · rw [Run.output, outputOf_append, outputOf_new]
    cases received.2 <;> simp [Ending.ofFetch, Ending.output]
  · rw [Run.exitCode]
    cases received.2 <;> rfl

/-- A list is reported. -/
theorem receive_list (l : Lookup) (records : List Json) :
    outputOf (l.receive (.ok (.arr records))).1 = l.report records ++ "\n" ∧
      (l.receive (.ok (.arr records))).2 = .ok () := by
  refine ⟨?_, rfl⟩
  change String.join [l.report records ++ "\n"] = _
  rw [String.join_cons, String.join_nil, String.append_empty]

/-- Of anything else nothing is printed, and the command fails. -/
theorem receive_no_list (l : Lookup) {answer : Fetched}
    (no : ∀ records, answer ≠ .ok (.arr records)) :
    outputOf (l.receive answer).1 = "" ∧ ∃ failure, (l.receive answer).2 = .error failure := by
  have law := l.history.fetchLaw answer
  have result : (l.history.step (.fetch answer)).result = some (l.history.receive answer).2 := rfl
  unfold Lookup.receive
  cases received : (l.history.receive answer).2 with
  | error failure => exact ⟨rfl, failure, rfl⟩
  | ok records =>
    rw [received, law.ok_iff] at result
    exact absurd result (no records)

theorem shows_report {records : List Json} (ordered : ∀ r ∈ records, r.Ordered) :
    o.Shows w.display (o.window w c) records
      ((Lookup.new c o w.display w.now).1.report records) := by
  have window : (Lookup.new c o w.display w.now).1.history.window = o.window w c := rfl
  have json : (Lookup.new c o w.display w.now).1.json = o.json := rfl
  unfold Shows Lookup.report
  rw [window, json]
  cases o.json with
  | true => exact rfl
  | false => exact Report.isTableOf_historyTable _ _ ordered

theorem toList_address (c : Config) (window : Window) :
    (address c window).toList =
      ((Target.bare c.service.baseUrl).toList ++
        (Target.bare c.service.pathPrefix ++ "/services/ecs").toList) ++
          '?' :: ['&'].intercalate ((Target.windowPairs window).map Target.pairChars) := by
  rw [address, Transport.address, String.toList_append, Target.toList_history, List.append_assoc]
  rfl

/-- Below a plain base URL and a plain prefix the server is asked with the pairs of the window. -/
theorem pairs_of_asked {window : Window} {u : Url} {n : Network}
    (asked : n.opening? (address c window) = some u)
    (plainBase : Target.IsPlain c.service.baseUrl) (plain : Target.IsPlain c.service.pathPrefix) :
    (Target.read (Request.opening u).target).pairs = some (Target.windowPairs window) := by
  refine Http.pairs_of_opening (Option.filter_eq_some_iff.mp asked).1 (toList_address c window) ?_
    (by simp [Target.windowPairs]) ?_
  · intro ch member
    rw [String.toList_append, List.mem_append, List.mem_append] at member
    rcases member with base | pathPrefix | below
    · exact Target.isPlain_iff.mp plainBase ch base
    · exact Target.isPlain_iff.mp plain ch pathPrefix
    · have plain : "/services/ecs".toList.all Target.isPlain = true := by decide
      exact List.all_eq_true.mp plain ch below
  · simp only [Target.windowPairs, List.forall_mem_cons]
    exact ⟨by decide, by decide, by decide, by simp⟩

/-- The command shows what it asked for. Under a configuration that passes the check it makes
one GET; if the server has its address, the first request there carries the bounds that were
given, or the usual ones, and the ingest type of the configuration, provided that neither base
URL nor prefix holds a `?` or a `#`. What is printed is told by what comes of that GET: of a
success with a list, a report of the same window and of the records in their order, and the
command ends with 0; of anything else nothing, and it ends with 1. -/
theorem shows_what_it_asked (w : World) (arguments : List String) (o : HistoryOptions)
    (c : Config) (parsed : Invocation.parse w.environment arguments = .ok (.history o))
    (accepted : o.settings w.environment (w.disk.place o.config) = .ok c) :
    let window := o.window w c
    let timeout := c.transport.timeoutSeconds
    let fetch := w.network.converse (Http.get timeout (address c window))
    let r := w.run arguments
    r.world.network = fetch.2 ∧
      (∀ u, w.network.opening? (address c window) = some u →
        (∃ followed, r.world.network.requests =
            w.network.requests ++ (Request.opening u).target :: followed ∧
          (w.network.nextAnswer.IsDirect →
            followed = [] ∧ fetch.1 = w.network.nextAnswer.exchange timeout u.text)) ∧
        (Target.IsPlain c.service.baseUrl → Target.IsPlain c.service.pathPrefix →
          (Target.read (Request.opening u).target).pairs = some (Target.windowPairs window))) ∧
      (w.network.opening? (address c window) = none →
        r.world.network = w.network ∧ ∃ failure, fetch.1 = .failed failure) ∧
      (∀ records, fetch.1.Lists records →
        r.exitCode = 0 ∧ ∃ text, r.output = text ++ "\n" ∧ o.Shows w.display window records text) ∧
      ((∀ records, ¬ fetch.1.Lists records) → r.exitCode = 1 ∧ r.output = "") := by
  intro window timeout fetch r
  have ran : r = o.run w := by
    change w.run arguments = _
    rw [World.run, parsed]
    rfl
  obtain ⟨network, output, exitCode⟩ := run_eq accepted
  rw [ran]
  refine ⟨network, fun u asked => ⟨?_, pairs_of_asked asked⟩, fun elsewhere => ?_,
    fun records lists => ?_, fun no => ?_⟩
  · obtain ⟨followed, requests, direct⟩ := Network.requests_get asked timeout
    refine ⟨followed, by rw [network]; exact requests, fun settled => ⟨direct settled, ?_⟩⟩
    exact congrArg Prod.fst (Network.converse_get_of_direct asked settled)
  · obtain ⟨failure, failed⟩ : ∃ failure, fetch = (.failed failure, w.network) :=
      Network.converse_get_of_elsewhere elsewhere
    rw [network]
    exact ⟨congrArg Prod.snd failed, failure, congrArg Prod.fst failed⟩
  · have list : fetch.1.fetched = .ok (.arr records) := Exchange.fetched_eq_ok_iff.mpr lists
    obtain ⟨_, _, -, -, -, read⟩ := lists
    have ordered := (Json.ordered_of_parse read).items
    obtain ⟨printed, done⟩ := receive_list (Lookup.new c o w.display w.now).1 records
    rw [list] at output exitCode
    exact ⟨by rw [exitCode, done]; rfl, _, output.trans printed, shows_report ordered⟩
  · have other : ∀ records, fetch.1.fetched ≠ .ok (.arr records) := fun records list =>
      no records (Exchange.fetched_eq_ok_iff.mp list)
    obtain ⟨printed, failure, failed⟩ :=
      receive_no_list (Lookup.new c o w.display w.now).1 other
    exact ⟨by rw [exitCode, failed]; rfl, output.trans printed⟩

/-- What a command is told to which both bounds are given. -/
def between (start stop : Int) : HistoryOptions :=
  ⟨"ingest-metrics.toml", none, some start, some stop, none, none, true, none⟩

/-- An address at the usual service. -/
def usualUrl (parts : List String) (query fragment : Option String) : Url :=
  ⟨"http", some ⟨"", none, some (.domain "localhost"), some 8080⟩, .parts parts, query, fragment⟩

/-- The usual service without records. -/
def vacant : World :=
  World.usual [.response ⟨200, [], [0x5B, 0x5D], 2⟩]

theorem parse_between :
    Invocation.parse (fun _ => none)
      ["ingest-metrics", "history", "--json", "--start=1", "--end=2"] =
        .ok (.history (between 1 2)) := by
  decide +kernel

theorem isDirect_vacant : vacant.network.nextAnswer.IsDirect :=
  Http.Answer.isDirect_of_status (by decide)

theorem opening?_vacant {address : String} {u : Url} (parsed : Url.parse address = .ok u)
    (anonymous : Http.withoutCredentials u = u) (requestable : Http.isRequestable u = true)
    (host : u.host?.isNone = false) (plain : (Request.opening u).secure = false)
    (place : (Request.opening u).place = "localhost:8080") :
    vacant.network.opening? address = some u := by
  rw [Network.opening?, Http.opening?_of_parse parsed host anonymous requestable,
    Option.filter_some, plain, place]
  rfl

/-- The service has no records between the bounds, and an empty list is printed. -/
theorem shows_what_it_asked_empty :
    let arguments := ["ingest-metrics", "history", "--json", "--start=1", "--end=2"]
    Invocation.parse vacant.environment arguments = .ok (.history (between 1 2)) ∧
      (between 1 2).settings vacant.environment (vacant.disk.place "ingest-metrics.toml") =
        .ok .default ∧
      (vacant.run arguments).world.network.requests =
        ["/DataWave/Ingest/Metrics/services/ecs?start=1&end=2&ingestType=bulk"] ∧
      (vacant.run arguments).exitCode = 0 := by
  intro arguments
  have accepted : (between 1 2).settings vacant.environment
      (vacant.disk.place "ingest-metrics.toml") = .ok .default := by
    decide +kernel
  let u := usualUrl ["DataWave", "Ingest", "Metrics", "services", "ecs"]
    (some "start=1&end=2&ingestType=bulk") none
  have opens : vacant.network.opening? (address .default ⟨1, 2, "bulk"⟩) = some u :=
    opening?_vacant (by decide +kernel) (by decide +kernel) (by cbv) (by decide +kernel)
      (by decide +kernel) (by decide +kernel)
  obtain ⟨-, asked, -, listed, -⟩ := shows_what_it_asked vacant arguments _ .default parse_between
    accepted
  obtain ⟨⟨followed, requests, direct⟩, -⟩ := asked u opens
  obtain ⟨rfl, exchange⟩ := direct isDirect_vacant
  refine ⟨parse_between, accepted, ?_, ?_⟩
  · rw [requests]
    decide +kernel
  · refine (listed [] ⟨200, "[]", ?_, by decide, by decide, rfl⟩).1
    rw [exchange]
    decide +kernel

/-- A prefix with a `#` in it passes the check; the command ends well, and what it was told has
not reached the service. -/
theorem marked_prefix_loses_window :
    let file := "[service]\npath_prefix = \"/m#x\"\n"
    let w := { vacant with
      disk := .ofFiles [(["ingest-metrics.toml"], file.toList.flatMap String.utf8EncodeChar)] }
    let r := w.run ["ingest-metrics", "history", "--json", "--start=1", "--end=2"]
    (Target.below "/m#x").validate = .ok () ∧ r.world.network.requests = ["/m"] ∧
      (Target.read "/m").pairs = none ∧ r.exitCode = 0 := by
  intro file w r
  have accepted : (between 1 2).settings w.environment (w.disk.place "ingest-metrics.toml") =
      .ok (Target.below "/m#x") := by
    decide +kernel
  let u := usualUrl ["m"] none (some "x/services/ecs?start=1&end=2&ingestType=bulk")
  have opens : w.network.opening? (address (Target.below "/m#x") ⟨1, 2, "bulk"⟩) = some u :=
    opening?_vacant (by decide +kernel) (by decide +kernel) (by cbv) (by decide +kernel)
      (by decide +kernel) (by decide +kernel)
  have ran : r = (between 1 2).run w := by
    have parsed : Invocation.parse w.environment _ = _ := parse_between
    change w.run _ = _
    rw [World.run, parsed]
    rfl
  obtain ⟨network, -, exitCode⟩ := run_eq accepted
  have fetch : w.network.converse (Http.get (Target.below "/m#x").transport.timeoutSeconds
      (address (Target.below "/m#x") ((between 1 2).window w (Target.below "/m#x")))) =
      (.answered 200 (some "[]"), w.network.asked "/m") := by
    refine (Network.converse_get_of_direct opens isDirect_vacant).trans (Prod.ext ?_ ?_)
    · decide +kernel
    · exact congrArg w.network.asked (by decide +kernel)
  have list : Exchange.fetched (.answered 200 (some "[]")) = .ok (.arr []) :=
    Exchange.fetched_eq_ok_iff.mpr ⟨200, "[]", rfl, by decide, by decide, rfl⟩
  refine ⟨by decide +kernel, ?_, by decide +kernel, ?_⟩
  · rw [ran, network, fetch]
    rfl
  · rw [ran, exitCode, fetch, list]
    rfl

end HistoryOptions

end IngestWatch
