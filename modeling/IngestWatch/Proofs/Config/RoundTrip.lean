import IngestWatch.Config
import IngestWatch.Proofs.Codec.Invariants
import IngestWatch.Proofs.Codec.RoundTrip
import IngestWatch.Proofs.Config.Documents

/-!
Windows and configurations, written and read again. Both written forms of every value give it
back, and so does every other text that stands for what is written, with its fields and component
levels in any order. What was read from any text at all is such a value, so after one round
nothing changes any more.
-/

namespace IngestWatch

open Document (said decode)
open Json (Denotes)

/-! ## Round trips -/

/-- A form writes proper values so that they are read again, and reads nothing but proper values. -/
structure Codec.RoundTrips {α : Type} (c : Codec α) (proper : α → Prop) : Prop where
  /-- The text on one line gives the value back. -/
  compact : ∀ v, proper v → c.parse (c.encode v).compact = .ok v
  /-- So does the text over several lines. -/
  pretty : ∀ v, proper v → c.parse (c.encode v).pretty = .ok v
  /-- So does every text that says the same, in whatever order its members come. -/
  spelled : ∀ v, proper v → ∀ text : String, Denotes (c.encode v) text.toList →
    c.parse text = .ok v
  /-- Whatever is accepted is a proper value. -/
  accepted : ∀ text v, c.parse text = .ok v → proper v
  /-- A text that is accepted settles: its value, written and read again, is the same value, and
  written once more it is the same text. -/
  settled : ∀ text v, c.parse text = .ok v →
    c.parse (c.encode v).compact = .ok v ∧
    (c.parse (c.encode v).compact).map (fun w => (c.encode w).compact) =
      .ok (c.encode v).compact

theorem Codec.roundTrips_of_restores {α : Type} {c : Codec α} {proper : α → Prop}
    (restores : ∀ v, proper v → c.Restores v) (gives : c.Gives proper) : c.RoundTrips proper := by
  have spelled : ∀ v, proper v → ∀ text : String, Denotes (c.encode v) text.toList →
      c.parse text = .ok v := by
    intro v fine text denotes
    have read := (restores v fine).reads denotes
    rw [String.ofList_toList] at read
    exact toOption_eq_some_iff.mp read
  have compact : ∀ v, proper v → c.parse (c.encode v).compact = .ok v := by
    intro v fine
    refine spelled v fine _ ?_
    rw [Json.compact, String.toList_ofList]
    exact (restores v fine).exact.denotes_compact
  refine ⟨compact, fun v fine => ?_, spelled, fun _ _ => gives.parse, fun text v read => ?_⟩
  · refine spelled v fine _ ?_
    rw [Json.pretty, String.toList_ofList]
    exact (restores v fine).exact.denotes_pretty 0
  · have again := compact v (gives.parse read)
    refine ⟨again, ?_⟩
    rw [again]
    rfl

theorem Codec.gives_anything {α : Type} (c : Codec α) : c.Gives fun _ => True :=
  fun _ => trivial

/-! ## Windows -/

namespace Window

open IngestWatch.Field IngestWatch.Codec

/-- Both ends fit 64 bits with a sign. -/
def Fits (w : Window) : Prop :=
  ∀ n ∈ [w.start, w.stop], -0x8000000000000000 ≤ n ∧ n ≤ 0x7fffffffffffffff

/-- The window as far as a document tells. -/
def laidOver (members : List (String × Document)) : Option Window := do
  let start ← said members "start" .int64 0
  let stop ← said members "end" .int64 0
  let ingestType ← said members "ingest_type" .text ""
  some { start, stop, ingestType }

theorem laid_eq {members : List (String × Document)} :
    record.laid decode members = laidOver members := by
  rw [Record.laid, record, Record.foldlM_always fun _ => rfl]
  refine congrArg _ (funext fun start => ?_)
  rw [Record.foldlM_always fun _ => rfl]
  refine congrArg _ (funext fun stop => ?_)
  rw [Record.foldlM_always fun _ => rfl]
  rfl

theorem piecewise : record.lenient.Piecewise 0 where
  lenient := rfl
  distinct := by decide
  apart := by
    simp only [Record.lenient, record, List.pairwise_cons, List.forall_mem_cons, List.not_mem_nil,
      IsEmpty.forall_iff, implies_true, and_true, List.Pairwise.nil]
    exact ⟨⟨puts_always.apart puts_always fun _ _ _ => rfl,
      puts_always.apart puts_always fun _ _ _ => rfl⟩,
      puts_always.apart puts_always fun _ _ _ => rfl⟩
  framed := by
    simp only [Record.lenient, record, List.forall_mem_cons, List.not_mem_nil, IsEmpty.forall_iff,
      implies_true, and_true]
    exact ⟨framed_always (framed_whole _ _ _), framed_always (framed_whole _ _ _),
      framed_always framed_text⟩

theorem restores {w : Window} (fits : w.Fits) : record.codec.Restores w := by
  obtain ⟨start, stop, -⟩ := List.forall_mem_cons.mp fits |>.imp_right List.forall_mem_cons.mp
  have start := restores_int64 start
  have stop := restores_int64 stop
  have ingestType := restores_text w.ingestType
  refine Record.restores_of_laid piecewise (by decide) (fun _ => ?_) ?_ fun members carries => ?_
  · simp [record, always]
  · simp only [record, List.forall_mem_cons, List.not_mem_nil, IsEmpty.forall_iff, implies_true,
      and_true]
    exact ⟨Record.exact_always start, Record.exact_always stop, Record.exact_always ingestType⟩
  · rw [laid_eq, laidOver, carries.said_always (.head _) start,
      carries.said_always (.tail _ (.head _)) stop,
      carries.said_always (.tail _ (.tail _ (.head _))) ingestType]
    rfl

/-- No window is read whose ends do not fit. -/
theorem gives_fits : record.codec.Gives Fits := by
  refine Record.gives_codec ?_ (by simp [record, Fits])
  simp only [record, List.forall_mem_cons, List.not_mem_nil, IsEmpty.forall_iff, implies_true,
    and_true]
  refine ⟨preserves_always (gives_whole _ _ _) ?_, preserves_always (gives_whole _ _ _) ?_,
    preserves_always text.gives_anything ?_⟩
  · rintro n w inside fits
    exact List.forall_mem_cons.mpr ⟨inside, (List.forall_mem_cons.mp fits).2⟩
  · rintro n w inside fits
    exact List.forall_mem_cons.mpr ⟨(List.forall_mem_cons.mp fits).1,
      List.forall_mem_singleton.mpr inside⟩
  · rintro n w - fits
    exact fits

end Window

/-! ## Configurations -/

namespace Config

open IngestWatch.Field IngestWatch.Codec

/-- The levels of the components are in ascending order of their names, each name once. -/
def Logging.Ordered (l : Logging) : Prop :=
  ∀ levels, l.componentLevels = some levels → Keyed.Ascending levels

theorem Service.restores (s : Service) : Service.record.codec.Restores s := by
  have baseUrl := restores_text s.baseUrl
  have pathPrefix := restores_text s.pathPrefix
  have timeout : ∀ n, s.timeoutSeconds = some n → uint64.Restores n := fun n _ =>
    restores_uint64 n
  refine Service.piecewise.restores (by decide) ?_ fun members carries => ?_
  · simp only [Service.record, List.forall_mem_cons, List.not_mem_nil, IsEmpty.forall_iff,
      implies_true, and_true]
    exact ⟨Record.exact_always baseUrl, Record.exact_always pathPrefix,
      Record.exact_whenSet timeout⟩
  · rw [Service.laid_eq, Service.laidOver, carries.said_always (.head _) baseUrl,
      carries.said_always (.tail _ (.head _)) pathPrefix,
      carries.said_whenSet (.tail _ (.tail _ (.head _))) timeout (by rintro _ ⟨⟩)
        Service.default.timeoutSeconds rfl]
    rfl

theorem Rate.restores (r : Rate) : Rate.record.codec.Restores r := by
  have interval := restores_uint64 r.intervalMillis
  have statisticType := restores_text r.statisticType
  refine Rate.piecewise.restores (by decide) ?_ fun members carries => ?_
  · simp only [Rate.record, List.forall_mem_cons, List.not_mem_nil, IsEmpty.forall_iff,
      implies_true, and_true]
    exact ⟨Record.exact_always interval, Record.exact_always statisticType⟩
  · rw [Rate.laid_eq, Rate.laidOver, carries.said_always (.head _) interval,
      carries.said_always (.tail _ (.head _)) statisticType]
    rfl

theorem History.restores (h : History) : History.record.codec.Restores h := by
  have ingestType := restores_text h.ingestType
  have lookback := restores_uint32 h.lookbackDays
  refine History.piecewise.restores (by decide) ?_ fun members carries => ?_
  · simp only [History.record, List.forall_mem_cons, List.not_mem_nil, IsEmpty.forall_iff,
      implies_true, and_true]
    exact ⟨Record.exact_always ingestType, Record.exact_always lookback⟩
  · rw [History.laid_eq, History.laidOver, carries.said_always (.head _) ingestType,
      carries.said_always (.tail _ (.head _)) lookback]
    rfl

theorem restores_format (format : LogFormat) : formatCodec.Restores format := by
  refine restores_choice ?_
  cases format <;> rfl

theorem Logging.restores {l : Logging} (ordered : l.Ordered) :
    Logging.record.codec.Restores l := by
  have level := restores_text l.level
  have format := restores_format l.format
  have levels : ∀ levels, l.componentLevels = some levels → texts.Restores levels :=
    fun levels set => restores_texts (ordered levels set)
  refine Logging.piecewise.restores (by decide) ?_ fun members carries => ?_
  · simp only [Logging.record, List.forall_mem_cons, List.not_mem_nil, IsEmpty.forall_iff,
      implies_true, and_true]
    exact ⟨Record.exact_always level, Record.exact_always format, Record.exact_whenSet levels⟩
  · rw [Logging.laid_eq, Logging.laidOver, carries.said_always (.head _) level,
      carries.said_always (.tail _ (.head _)) format,
      carries.said_whenSet (.tail _ (.tail _ (.head _))) levels (by rintro _ ⟨⟩)
        Logging.default.componentLevels rfl]
    rfl

theorem restores {c : Config} (ordered : c.logging.Ordered) : record.codec.Restores c := by
  have service := Service.restores c.service
  have rate := Rate.restores c.rate
  have history := History.restores c.history
  have logging := Logging.restores ordered
  refine piecewise.restores (by decide) ?_ fun members carries => ?_
  · simp only [record, List.forall_mem_cons, List.not_mem_nil, IsEmpty.forall_iff, implies_true,
      and_true]
    exact ⟨Record.exact_always service, Record.exact_always rate, Record.exact_always history,
      Record.exact_always logging⟩
  · rw [laid_eq, laidOver, carries.said_always (.head _) service,
      carries.said_always (.tail _ (.head _)) rate,
      carries.said_always (.tail _ (.tail _ (.head _))) history,
      carries.said_always (.tail _ (.tail _ (.tail _ (.head _)))) logging]
    rfl

/-- However the component levels come, they are in order once they are read. -/
theorem Logging.gives_ordered : Logging.record.codec.Gives Logging.Ordered := by
  refine Record.gives_codec ?_ (by rintro _ ⟨⟩)
  simp only [Logging.record, List.forall_mem_cons, List.not_mem_nil, IsEmpty.forall_iff,
    implies_true, and_true]
  refine ⟨preserves_always text.gives_anything ?_, preserves_always formatCodec.gives_anything ?_,
    preserves_whenSet gives_texts ?_⟩
  · rintro s l - ordered
    exact ordered
  · rintro f l - ordered
    exact ordered
  · rintro levels l sorted -
    exact sorted

theorem gives_ordered : record.codec.Gives fun c => c.logging.Ordered := by
  refine Record.gives_codec (I := fun c : Config => c.logging.Ordered) ?_ (by rintro _ ⟨⟩)
  simp only [record, List.forall_mem_cons, List.not_mem_nil, IsEmpty.forall_iff, implies_true,
    and_true]
  refine ⟨preserves_always (gives_anything _) ?_, preserves_always (gives_anything _) ?_,
    preserves_always (gives_anything _) ?_, preserves_always Logging.gives_ordered ?_⟩
  · rintro s c - ordered
    exact ordered
  · rintro r c - ordered
    exact ordered
  · rintro h c - ordered
    exact ordered
  · rintro l c ordered -
    exact ordered

/-- Windows, log formats, the sections of a configuration and configurations as a whole are read
again as they were written, and what was read from a text does not change any more. Of numbers
nothing is asked but that they fit their type, of component levels that no name comes twice and
that they are kept in order. -/
theorem written_and_read_again :
    Window.record.codec.RoundTrips Window.Fits ∧
    Service.record.codec.RoundTrips (fun _ => True) ∧
    Rate.record.codec.RoundTrips (fun _ => True) ∧
    History.record.codec.RoundTrips (fun _ => True) ∧
    Logging.record.codec.RoundTrips Logging.Ordered ∧
    formatCodec.RoundTrips (fun _ => True) ∧
    record.codec.RoundTrips (fun c => c.logging.Ordered) := by
  refine ⟨?_, ?_, ?_, ?_, ?_, ?_, ?_⟩
  · exact roundTrips_of_restores (fun _ => Window.restores) Window.gives_fits
  · exact roundTrips_of_restores (fun s _ => Service.restores s) (gives_anything _)
  · exact roundTrips_of_restores (fun r _ => Rate.restores r) (gives_anything _)
  · exact roundTrips_of_restores (fun h _ => History.restores h) (gives_anything _)
  · exact roundTrips_of_restores (fun _ => Logging.restores) Logging.gives_ordered
  · exact roundTrips_of_restores (fun f _ => restores_format f) (gives_anything _)
  · exact roundTrips_of_restores (fun _ => restores) gives_ordered

end Config

end IngestWatch
