import IngestWatch.Config
import IngestWatch.Proofs.Codec.Types
import IngestWatch.Proofs.Config.Overlay

/-!
The configuration and its sections, read from documents that say only a part of them. Each is
spelled out as its default overlaid by the document: a key that is there counts if its value can
be decoded as the type of its field, a key that is not there leaves the default.
-/

namespace IngestWatch

open Document (said)

/-! ## Fields laid over a record -/

namespace Record

variable {ρ α : Type} {members : List (String × Document)} {name : String} {c : Codec α}

/-- The first field is what is said of it or what it was, and the others come after it. -/
theorem foldlM_field {f : Field ρ} {get : ρ → α} {put : α → ρ → ρ}
    (decoded : ∀ doc, f.decode doc = (doc.decode c).map put) (same : ∀ x, put (get x) x = x)
    (fields : List (Field ρ)) (x : ρ) :
    (f :: fields).foldlM (layField Field.decode members) x =
      (said members f.name c (get x)).bind fun v =>
        fields.foldlM (layField Field.decode members) (put v x) := by
  rw [List.foldlM_cons, layField, said]
  cases members.lookup f.name with
  | none => simp only [Option.bind_some, same, Option.bind_eq_bind]
  | some doc =>
    simp only [decoded]
    cases doc.decode c <;> rfl

theorem foldlM_always {get : ρ → α} {put : α → ρ → ρ} (same : ∀ x, put (get x) x = x)
    (fields : List (Field ρ)) (x : ρ) :
    (Field.always name c get put :: fields).foldlM (layField Field.decode members) x =
      (said members name c (get x)).bind fun v =>
        fields.foldlM (layField Field.decode members) (put v x) :=
  foldlM_field (Field.decode_always name c get put) same fields x

theorem foldlM_whenSet {get : ρ → Option α} {put : Option α → ρ → ρ}
    (same : ∀ x, put (get x) x = x) (fields : List (Field ρ)) (x : ρ) :
    (Field.whenSet name c get put :: fields).foldlM (layField Field.decode members) x =
      (said members name c.option (get x)).bind fun v =>
        fields.foldlM (layField Field.decode members) (put v x) :=
  foldlM_field (Field.decode_whenSet name c get put) same fields x

end Record

namespace Config

open IngestWatch.Field IngestWatch.Codec Json

/-! ## The records -/

/-- The service as far as a document tells, and by default otherwise. -/
def Service.laidOver (members : List (String × Document)) : Option Service := do
  let baseUrl ← said members "base_url" .text Service.default.baseUrl
  let pathPrefix ← said members "path_prefix" .text Service.default.pathPrefix
  let timeoutSeconds ←
    said members "timeout_seconds" (.option .uint64) Service.default.timeoutSeconds
  some { baseUrl, pathPrefix, timeoutSeconds }

def Rate.laidOver (members : List (String × Document)) : Option Rate := do
  let intervalMillis ← said members "interval_millis" .uint64 Rate.default.intervalMillis
  let statisticType ← said members "statistic_type" .text Rate.default.statisticType
  some { intervalMillis, statisticType }

def History.laidOver (members : List (String × Document)) : Option History := do
  let ingestType ← said members "ingest_type" .text History.default.ingestType
  let lookbackDays ← said members "lookback_days" .uint32 History.default.lookbackDays
  some { ingestType, lookbackDays }

def Logging.laidOver (members : List (String × Document)) : Option Logging := do
  let level ← said members "level" .text Logging.default.level
  let format ← said members "format" formatCodec Logging.default.format
  let componentLevels ←
    said members "component_levels" (.option .texts) Logging.default.componentLevels
  some { level, format, componentLevels }

/-- The whole configuration; its sections are read as documents of their own. -/
def laidOver (members : List (String × Document)) : Option Config := do
  let service ← said members "service" Service.record.codec Service.default
  let rate ← said members "rate" Rate.record.codec Rate.default
  let history ← said members "history" History.record.codec History.default
  let logging ← said members "logging" Logging.record.codec Logging.default
  some { service, rate, history, logging }

variable {members : List (String × Document)}

theorem Service.laid_eq : Service.record.laid decode members = Service.laidOver members := by
  rw [Record.laid, Service.record, Record.foldlM_always fun _ => rfl]
  refine congrArg _ (funext fun baseUrl => ?_)
  rw [Record.foldlM_always fun _ => rfl]
  refine congrArg _ (funext fun pathPrefix => ?_)
  rw [Record.foldlM_whenSet fun _ => rfl]
  rfl

theorem Service.piecewise : Service.record.Piecewise 0 where
  lenient := rfl
  distinct := by decide
  apart := by
    simp only [Service.record, List.pairwise_cons, List.forall_mem_cons, List.not_mem_nil,
      IsEmpty.forall_iff, implies_true, and_true, List.Pairwise.nil]
    exact ⟨⟨puts_always.apart puts_always fun _ _ _ => rfl,
      puts_always.apart puts_whenSet fun _ _ _ => rfl⟩,
      puts_always.apart puts_whenSet fun _ _ _ => rfl⟩
  framed := by
    simp only [Service.record, List.forall_mem_cons, List.not_mem_nil, IsEmpty.forall_iff,
      implies_true, and_true]
    exact ⟨framed_always framed_text, framed_always framed_text, framed_whenSet framed_uint64⟩

/-! ## The rate -/

theorem Rate.laid_eq : Rate.record.laid decode members = Rate.laidOver members := by
  rw [Record.laid, Rate.record, Record.foldlM_always fun _ => rfl]
  refine congrArg _ (funext fun intervalMillis => ?_)
  rw [Record.foldlM_always fun _ => rfl]
  rfl

theorem Rate.piecewise : Rate.record.Piecewise 0 where
  lenient := rfl
  distinct := by decide
  apart := by
    simp only [Rate.record, List.pairwise_cons, List.forall_mem_cons, List.not_mem_nil,
      IsEmpty.forall_iff, implies_true, and_true, List.Pairwise.nil]
    exact puts_always.apart puts_always fun _ _ _ => rfl
  framed := by
    simp only [Rate.record, List.forall_mem_cons, List.not_mem_nil, IsEmpty.forall_iff,
      implies_true, and_true]
    exact ⟨framed_always framed_uint64, framed_always framed_text⟩

theorem History.laid_eq : History.record.laid decode members = History.laidOver members := by
  rw [Record.laid, History.record, Record.foldlM_always fun _ => rfl]
  refine congrArg _ (funext fun ingestType => ?_)
  rw [Record.foldlM_always fun _ => rfl]
  rfl

theorem History.piecewise : History.record.Piecewise 0 where
  lenient := rfl
  distinct := by decide
  apart := by
    simp only [History.record, List.pairwise_cons, List.forall_mem_cons, List.not_mem_nil,
      IsEmpty.forall_iff, implies_true, and_true, List.Pairwise.nil]
    exact puts_always.apart puts_always fun _ _ _ => rfl
  framed := by
    simp only [History.record, List.forall_mem_cons, List.not_mem_nil, IsEmpty.forall_iff,
      implies_true, and_true]
    exact ⟨framed_always framed_text, framed_always framed_uint32⟩

theorem Logging.laid_eq : Logging.record.laid decode members = Logging.laidOver members := by
  rw [Record.laid, Logging.record, Record.foldlM_always fun _ => rfl]
  refine congrArg _ (funext fun level => ?_)
  rw [Record.foldlM_always fun _ => rfl]
  refine congrArg _ (funext fun format => ?_)
  rw [Record.foldlM_whenSet fun _ => rfl]
  rfl

theorem Logging.piecewise : Logging.record.Piecewise 1 where
  lenient := rfl
  distinct := by decide
  apart := by
    simp only [Logging.record, List.pairwise_cons, List.forall_mem_cons, List.not_mem_nil,
      IsEmpty.forall_iff, implies_true, and_true, List.Pairwise.nil]
    exact ⟨⟨puts_always.apart puts_always fun _ _ _ => rfl,
      puts_always.apart puts_whenSet fun _ _ _ => rfl⟩,
      puts_always.apart puts_whenSet fun _ _ _ => rfl⟩
  framed := by
    simp only [Logging.record, List.forall_mem_cons, List.not_mem_nil, IsEmpty.forall_iff,
      implies_true, and_true]
    exact ⟨framed_always (framed_text.mono zero_le_one), framed_always (framed_choice _ _),
      framed_whenSet framed_texts⟩

theorem laid_eq : record.laid decode members = laidOver members := by
  rw [Record.laid, record, Record.foldlM_always fun _ => rfl]
  refine congrArg _ (funext fun service => ?_)
  rw [Record.foldlM_always fun _ => rfl]
  refine congrArg _ (funext fun rate => ?_)
  rw [Record.foldlM_always fun _ => rfl]
  refine congrArg _ (funext fun history => ?_)
  rw [Record.foldlM_always fun _ => rfl]
  rfl

theorem piecewise : record.Piecewise 2 where
  lenient := rfl
  distinct := by decide
  apart := by
    simp only [record, List.pairwise_cons, List.forall_mem_cons, List.not_mem_nil,
      IsEmpty.forall_iff, implies_true, and_true, List.Pairwise.nil]
    exact ⟨⟨puts_always.apart puts_always fun _ _ _ => rfl,
      puts_always.apart puts_always fun _ _ _ => rfl,
      puts_always.apart puts_always fun _ _ _ => rfl⟩,
      ⟨puts_always.apart puts_always fun _ _ _ => rfl,
      puts_always.apart puts_always fun _ _ _ => rfl⟩,
      puts_always.apart puts_always fun _ _ _ => rfl⟩
  framed := by
    have service := Service.record.framed_codec Service.piecewise.framed
    have rate := Rate.record.framed_codec Rate.piecewise.framed
    have history := History.record.framed_codec History.piecewise.framed
    have logging := Logging.record.framed_codec Logging.piecewise.framed
    simp only [record, List.forall_mem_cons, List.not_mem_nil, IsEmpty.forall_iff,
      implies_true, and_true]
    exact ⟨framed_always (service.mono one_le_two), framed_always (rate.mono one_le_two),
      framed_always (history.mono one_le_two), framed_always logging⟩

/-! ## Documents that say a part -/

/-- A section that is there is overlaid over its own defaults. -/
def SectionOverlaid {ρ : Type} (members : List (String × Document)) (name : String) (r : Record ρ)
    (default : ρ) (laidOver : List (String × Document) → Option ρ) : Prop :=
  ∀ {doc : Document} {inner : List (String × Document)}, members.lookup name = some doc →
    doc.Object inner → (inner.map Prod.fst).Nodup →
    said members name r.codec default = laidOver inner

theorem sectionOverlaid {ρ : Type} {r : Record ρ} {deep : Nat} (piecewise : r.Piecewise deep)
    (enough : deep < Json.usualDepth) {laidOver : List (String × Document) → Option ρ}
    (spelled : ∀ members, r.laid decode members = laidOver members) (name : String) (default : ρ) :
    SectionOverlaid members name r default laidOver := by
  intro doc inner found object once
  rw [said, found]
  exact (piecewise.overlays enough spelled object once).value

/-- A document that is an object is read as the configuration, or as one of its sections, by
laying what it says over the defaults, whatever the order of its keys and whatever else it says;
and so is a section inside it. The values count by the types of their fields. -/
theorem overlays_defaults {doc : Document} {members : List (String × Document)}
    (object : doc.Object members) (once : (members.map Prod.fst).Nodup) :
    record.Overlays laidOver doc members ∧
    Service.record.Overlays Service.laidOver doc members ∧
    Rate.record.Overlays Rate.laidOver doc members ∧
    History.record.Overlays History.laidOver doc members ∧
    Logging.record.Overlays Logging.laidOver doc members ∧
    SectionOverlaid members "service" Service.record .default Service.laidOver ∧
    SectionOverlaid members "rate" Rate.record .default Rate.laidOver ∧
    SectionOverlaid members "history" History.record .default History.laidOver ∧
    SectionOverlaid members "logging" Logging.record .default Logging.laidOver ∧
    ∀ m ∈ members, m.2.ByType := by
  have config := piecewise.overlays (by decide) (fun _ => laid_eq) object once
  have service := Service.piecewise.overlays (by decide) (fun _ => Service.laid_eq) object once
  have rate := Rate.piecewise.overlays (by decide) (fun _ => Rate.laid_eq) object once
  have history := History.piecewise.overlays (by decide) (fun _ => History.laid_eq) object once
  have logging := Logging.piecewise.overlays (by decide) (fun _ => Logging.laid_eq) object once
  refine ⟨config, service, rate, history, logging, ?_, ?_, ?_, ?_, ?_⟩
  · exact sectionOverlaid Service.piecewise (by decide) (fun _ => Service.laid_eq) _ _
  · exact sectionOverlaid Rate.piecewise (by decide) (fun _ => Rate.laid_eq) _ _
  · exact sectionOverlaid History.piecewise (by decide) (fun _ => History.laid_eq) _ _
  · exact sectionOverlaid Logging.piecewise (by decide) (fun _ => Logging.laid_eq) _ _
  · exact fun m member => (object.isValue m member).byType

/-- One section that is incomplete and one key that nobody knows, in each of the formats. -/
theorem overlays_defaults_rate :
    (Document.json "\x7b\"x\": 1e999, \"rate\":\x7b\"interval_millis\":250\x7d\x7d").decode
        record.codec = some { default with rate := { Rate.default with intervalMillis := 250 } } ∧
    (Document.value (.table [("x", .moment "07:32:00"),
        ("rate", .table [("interval_millis", .int 250)])])).decode record.codec =
      some { default with rate := { Rate.default with intervalMillis := 250 } } := by
  have large : Value ['1', 'e', '9', '9', '9'] :=
    .number (@Unsigned.mk ['1'] [] _ (.digits rfl (by decide) (List.all_eq_true.mp rfl)) .none
      (@Exponent.mark _ [] _ (.inl rfl) (.inl rfl) ⟨by decide, List.all_eq_true.mp rfl⟩))
  have number : Value ['2', '5', '0'] :=
    .number (@Unsigned.mk ['2', '5', '0'] [] []
      (.digits rfl (by decide) (List.all_eq_true.mp rfl)) .none .none)
  have x : Quoted ['x'] := quoted_of_plain rfl
  have rate : Quoted "rate".toList := quoted_of_plain rfl
  have interval : Quoted "interval_millis".toList := quoted_of_plain rfl
  have inside : Value "\x7b\"interval_millis\":250\x7d".toList :=
    .object (.last blank_nil interval blank_nil blank_nil number blank_nil)
  have space : Blank [' '] := List.forall_mem_singleton.mpr rfl
  have object : IsObject
      "\x7b\"x\": 1e999, \"rate\":\x7b\"interval_millis\":250\x7d\x7d".toList
      [("x", ['1', 'e', '9', '9', '9']), ("rate", "\x7b\"interval_millis\":250\x7d".toList)] :=
    .mk blank_nil (.members (.more blank_nil x blank_nil space large blank_nil
      (.last space rate blank_nil blank_nil inside blank_nil))) blank_nil rfl
  constructor
  · have laid := (overlays_defaults (.json object) (by decide)).1.value
    rw [laid]
    rfl
  · have table : (Document.value (.table [("x", .moment "07:32:00"),
        ("rate", .table [("interval_millis", .int 250)])])).Object
        (Document.ofToml [("x", .moment "07:32:00"),
          ("rate", .table [("interval_millis", .int 250)])]) := .value
    have laid := (overlays_defaults table (by decide)).1.value
    rw [laid]
    rfl

end Config

end IngestWatch
