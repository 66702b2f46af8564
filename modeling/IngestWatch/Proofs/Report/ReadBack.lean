import IngestWatch.Proofs.Config.RoundTrip
import IngestWatch.Proofs.Json.ReadBack
import IngestWatch.Report

/-!
What is printed as JSON can be read again. A record of the query rate is printed on one line,
whatever it holds, and both it and the records of a window come back from what is printed of them
as they were.
-/

namespace IngestWatch

open Calendar

namespace Json

/-! ## Objects of two members -/

section
variable {first second : String} {v w : Json}

theorem ordered_pair (ascending : first < second) (one : v.Ordered) (other : w.Ordered) :
    Ordered (.obj [(first, v), (second, w)]) :=
  .obj (List.pairwise_pair.mpr ascending)
    (List.forall_mem_cons.mpr ⟨one, List.forall_mem_singleton.mpr other⟩)

theorem exact_pair (one : v.Exact) (other : w.Exact) : Exact (.obj [(first, v), (second, w)]) :=
  .obj (List.forall_mem_cons.mpr ⟨one, List.forall_mem_singleton.mpr other⟩)

theorem nesting_pair :
    nesting (.obj [(first, v), (second, w)]) = max v.nesting w.nesting + 1 := by
  simp only [nesting, nestingMembers, Nat.max_zero]

end

end Json

namespace Window

variable {w : Window}

theorem ordered_toJson : w.toJson.Ordered := by
  refine .obj ?_ ?_
  · simp only [Keyed.Ascending, List.pairwise_cons, List.forall_mem_cons, List.not_mem_nil,
      IsEmpty.forall_iff, implies_true, and_true, List.Pairwise.nil]
    decide
  · simp only [List.forall_mem_cons, List.not_mem_nil, IsEmpty.forall_iff, implies_true, and_true]
    exact ⟨.int w.stop, .str w.ingestType, .int w.start⟩

theorem exact_toJson (fits : w.Fits) : w.toJson.Exact := by
  obtain ⟨start, others⟩ := List.forall_mem_cons.mp fits
  have stop := List.forall_mem_singleton.mp others
  have small : (0x7fffffffffffffff : Int) ≤ Json.maxInt := by decide
  refine .obj ?_
  simp only [List.forall_mem_cons, List.not_mem_nil, IsEmpty.forall_iff, implies_true, and_true]
  exact ⟨.int stop.1 (stop.2.trans small), .str w.ingestType, .int start.1 (start.2.trans small)⟩

end Window

namespace Report

open Json

/-- What is printed as JSON is read back by a reader that goes deep enough, with nothing more and
nothing less in it. A record of the query rate is on one line, whatever it holds. -/
theorem printed_json_read_back :
    (∀ (at_ : Moment) (record : Json), Printable (rateJson at_ record).toList ∧
      (record.Ordered → record.Exact → ∀ depth, record.nesting < depth →
        parse depth (rateJson at_ record) =
          .ok (.obj [("fetched_at", .str at_.rfc3339), ("record", record)]))) ∧
    ∀ (w : Window) (records : List Json), w.Fits → (∀ r ∈ records, r.Ordered ∧ r.Exact) →
      ∀ depth, (Json.arr records).nesting < depth →
        parse depth (historyJson w records) =
          .ok (.obj [("records", .arr records), ("window", .obj [("end", .int w.stop),
            ("ingest_type", .str w.ingestType), ("start", .int w.start)])]) := by
  constructor
  case left =>
    intro at_ record
    refine ⟨?_, fun ordered exact depth deep => ?_⟩
    · rw [rateJson, compact, String.toList_ofList]
      exact printable_compactChars _
    · refine parse_compact (exact_pair (.str _) exact)
        (ordered_pair (by decide) (.str _) ordered) ?_
      have flat : (Json.str at_.rfc3339).nesting = 0 := rfl
      rw [nesting_pair, flat, Nat.zero_max]
      exact deep
  case right =>
    intro w records fits each depth deep
    have ordered : Ordered (.arr records) := .arr fun r inside => (each r inside).1
    have exact : Exact (.arr records) := .arr fun r inside => (each r inside).2
    refine parse_pretty (exact_pair exact (w.exact_toJson fits))
      (ordered_pair (by decide) ordered w.ordered_toJson) ?_
    have shallow : w.toJson.nesting ≤ (Json.arr records).nesting := by
      simp [Window.toJson, nesting, nestingMembers]
    rw [nesting_pair, Nat.max_eq_left shallow]
    exact deep

/-- A record with a quote, a line break, a control character, a letter beyond ASCII and a fraction,
and beside it a value without fields. -/
theorem printed_json_read_back_nested :
    let record : Json := .obj [("a\"b", .arr [.str "l\nö\u0001", .null]),
      ("x", .real ⟨false, 7036874417766400, -49⟩)]
    let fetched : Moment := ⟨1700000000, 0, 3600⟩
    let w : Window := ⟨-1, 0x7fffffffffffffff, "büchse"⟩
    record.compact = "\x7b\"a\\\"b\":[\"l\\nö\\u0001\",null],\"x\":12.5\x7d" ∧
      parse 3 (rateJson fetched record) =
        .ok (.obj [("fetched_at", .str fetched.rfc3339), ("record", record)]) ∧
      parse 4 (historyJson w [record, .int 7]) =
        .ok (.obj [("records", .arr [record, .int 7]), ("window", .obj [("end", .int w.stop),
          ("ingest_type", .str w.ingestType), ("start", .int w.start)])]) := by
  intro record fetched w
  have figures : realChars ⟨false, 7036874417766400, -49⟩ = ['1', '2', '.', '5'] := by
    decide +kernel
  have fraction : Exact (.real ⟨false, 7036874417766400, -49⟩) := by
    refine (exact_real_iff 0).mpr ?_
    rw [compact, compactChars, figures]
    rfl
  have texts : ∀ v ∈ [Json.str "l\nö\u0001", .null], v.Ordered ∧ v.Exact := by
    simp [Ordered.str, Ordered.null, Exact.str, Exact.null]
  have ordered : record.Ordered :=
    ordered_pair (by decide) (.arr fun v inside => (texts v inside).1) (.real _)
  have exact : record.Exact := exact_pair (.arr fun v inside => (texts v inside).2) fraction
  have seven : Ordered (.int 7) ∧ Exact (.int 7) := ⟨.int 7, .int (by decide) (by decide)⟩
  have each : ∀ r ∈ [record, .int 7], r.Ordered ∧ r.Exact :=
    List.forall_mem_cons.mpr ⟨⟨ordered, exact⟩, List.forall_mem_singleton.mpr seven⟩
  exact ⟨by decide +kernel,
    (printed_json_read_back.1 fetched record).2 ordered exact 3 (by decide),
    printed_json_read_back.2 w [record, .int 7] (by unfold Window.Fits; decide) each 4 (by decide)⟩

end Report

end IngestWatch
