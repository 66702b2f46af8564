import IngestWatch.Dialogue
import IngestWatch.History
import Mathlib.Tactic

/-!
A window onto the history over any run of setters and fetches and whatever the service
answers: the records are those of the latest answer that was a list, the window is what
was last set, and every fetch makes one request, for the window as it is then.
-/

namespace IngestWatch.History

/-- What is done with a window: a part of it is set, or its records are fetched and the
service answers. -/
inductive Step where
  | setStart (start : Int)
  | setStop (stop : Int)
  | setIngestType (ingestType : String)
  | fetch (answer : Fetched)

/-- To fetch is to ask for the window as it is now and to receive the answer. -/
def fetch (h : History) : Dialogue String Fetched (History × Except FetchFailure (List Json)) :=
  .ask h.target fun answer => .done (h.receive answer)

/-- A service that gives an answer and keeps the requests made to it. -/
def recording (answer : Fetched) (target : String) (requests : List String) :
    Fetched × List String :=
  (answer, requests ++ [target])

/-- What a step comes to: the window after it, the requests made in it, and what a fetch
gives back. -/
structure Effect where
  history : History
  requests : List String
  result : Option (Except FetchFailure (List Json))

def step (h : History) : Step → Effect
  | .setStart start => ⟨h.setStart start, [], none⟩
  | .setStop stop => ⟨h.setStop stop, [], none⟩
  | .setIngestType ingestType => ⟨h.setIngestType ingestType, [], none⟩
  | .fetch answer =>
    let ((h, result), requests) := h.fetch.run (recording answer) []
    ⟨h, requests, some result⟩

def run (h : History) (steps : List Step) : History :=
  steps.foldl (fun h s => (h.step s).history) h

theorem run_concat (h : History) (steps : List Step) (s : Step) :
    h.run (steps ++ [s]) = ((h.run steps).step s).history :=
  List.foldl_concat ..

/-! ## Reading the steps -/

namespace Step

def start? : Step → Option Int
  | setStart start => some start
  | _ => none

def stop? : Step → Option Int
  | setStop stop => some stop
  | _ => none

def ingestType? : Step → Option String
  | setIngestType ingestType => some ingestType
  | _ => none

/-- The records of an answer that was a list. -/
def list? : Step → Option (List Json)
  | fetch (.ok (.arr items)) => some items
  | _ => none

end Step

/-- The latest value that steps bring, or the one there was before them. -/
def latest {α : Type} (value? : Step → Option α) (before : α) (steps : List Step) : α :=
  (steps.filterMap value?).getLast?.getD before

theorem latest_concat {α : Type} (value? : Step → Option α) (before : α) (steps : List Step)
    (s : Step) :
    latest value? before (steps ++ [s]) = (value? s).getD (latest value? before steps) := by
  unfold latest
  cases value : value? s with
  | none => simp [value]
  | some v => simp [value]

/-- The window that steps leave, told from the steps alone. -/
def windowAfter (w : Window) (steps : List Step) : Window :=
  ⟨latest Step.start? w.start steps, latest Step.stop? w.stop steps,
    latest Step.ingestType? w.ingestType steps⟩

/-! ## One step -/

/-- An answer is a list, a failure, or some other value. -/
theorem answer_cases (answer : Fetched) :
    (∃ items, answer = .ok (.arr items)) ∨ (∃ failure, answer = .error failure) ∨
      ∃ v, answer = .ok v ∧ ∀ items, v ≠ .arr items := by
  cases answer with
  | error failure => exact Or.inr (Or.inl ⟨failure, rfl⟩)
  | ok v =>
    cases v with
    | arr items => exact Or.inl ⟨items, rfl⟩
    | null => exact Or.inr (Or.inr ⟨_, rfl, by simp⟩)
    | bool value => exact Or.inr (Or.inr ⟨_, rfl, by simp⟩)
    | int value => exact Or.inr (Or.inr ⟨_, rfl, by simp⟩)
    | real value => exact Or.inr (Or.inr ⟨_, rfl, by simp⟩)
    | str value => exact Or.inr (Or.inr ⟨_, rfl, by simp⟩)
    | obj members => exact Or.inr (Or.inr ⟨_, rfl, by simp⟩)

/-- The failure that a value which is no list comes to. -/
def noList (v : Json) : FetchFailure :=
  .badBody ("expected a JSON array of history entries, got " ++ v.kind)

theorem step_list (h : History) (items : List Json) :
    h.step (.fetch (.ok (.arr items))) =
      ⟨{ h with records := items }, [h.target], some (.ok items)⟩ := rfl

theorem step_failure (h : History) (failure : FetchFailure) :
    h.step (.fetch (.error failure)) = ⟨h, [h.target], some (.error failure)⟩ := rfl

theorem step_other (h : History) {v : Json} (other : ∀ items, v ≠ .arr items) :
    h.step (.fetch (.ok v)) = ⟨h, [h.target], some (.error (noList v))⟩ := by
  cases v with
  | arr items => exact absurd rfl (other items)
  | null => rfl
  | bool value => rfl
  | int value => rfl
  | real value => rfl
  | str value => rfl
  | obj members => rfl

/-- What a fetch comes to: one request for the window as it is, which stays. A list
replaces the records and is given back; a failure, be it of the request or because the
answer is no list, is given back and leaves the records. -/
structure FetchLaw (h : History) (answer : Fetched) (e : Effect) : Prop where
  requests : e.requests = [h.target]
  window : e.history.window = h.window
  answered : e.result.isSome
  ok_iff : ∀ records, e.result = some (.ok records) ↔ answer = .ok (.arr records)
  replaced : ∀ records, e.result = some (.ok records) → e.history.records = records
  kept : ∀ failure, e.result = some (.error failure) → e.history.records = h.records
  passed_on : ∀ failure, answer = .error failure → e.result = some (.error failure)
  refused : ∀ v, answer = .ok v → (∀ items, v ≠ .arr items) →
    e.result = some (.error (noList v))

theorem fetchLaw (h : History) (answer : Fetched) :
    h.FetchLaw answer (h.step (.fetch answer)) := by
  rcases answer_cases answer with ⟨items, rfl⟩ | ⟨failure, rfl⟩ | ⟨v, rfl, other⟩
  · rw [step_list]
    constructor
    case refused => exact fun v same no => absurd (Except.ok.inj same).symm (no items)
    case ok_iff => simp
    all_goals simp
  · rw [step_failure]
    constructor
    all_goals simp
  · rw [step_other h other]
    constructor
    case refused => exact fun w same _ => by rw [Except.ok.inj same]
    case ok_iff => simp [other]
    all_goals simp

/-! ## Every run -/

theorem run_eq (pathPrefix : String) (window : Window) (steps : List Step) :
    (new pathPrefix window).run steps =
      ⟨pathPrefix, windowAfter window steps, latest Step.list? [] steps⟩ := by
  induction steps using List.reverseRecOn with
  | nil => rfl
  | append_singleton before s ih =>
    rw [run_concat, ih]
    simp only [windowAfter, latest_concat]
    cases s with
    | setStart start => rfl
    | setStop stop => rfl
    | setIngestType ingestType => rfl
    | fetch answer =>
      rcases answer_cases answer with ⟨items, rfl⟩ | ⟨failure, rfl⟩ | ⟨v, rfl, other⟩
      · rfl
      · rfl
      · have none : (Step.fetch (.ok v)).list? = none := by
          cases v with
          | arr items => exact absurd rfl (other items)
          | _ => rfl
        rw [step_other _ other, none]
        rfl

/-- After any steps the records are the items of the latest answer that was a list, and
the window is what was last set. The next fetch obeys `FetchLaw` and asks for that window;
setting a part of the window makes no request and changes nothing else. -/
theorem latest_records_and_window (pathPrefix : String) (window : Window)
    (steps : List Step) :
    let h := (new pathPrefix window).run steps
    let w := windowAfter window steps
    h.records = ((steps.filterMap Step.list?).getLast?).getD [] ∧
      h.records.length = ((steps.filterMap Step.list?).getLast?.map List.length).getD 0 ∧
      h.records.isEmpty = ((steps.filterMap Step.list?).getLast?.map List.isEmpty).getD true ∧
      h.window = w ∧
      (∀ answer, h.FetchLaw answer (h.step (.fetch answer)) ∧
        (h.step (.fetch answer)).requests =
          [Target.history pathPrefix w.start w.stop w.ingestType]) ∧
      (∀ start, h.step (.setStart start) = ⟨{ h with window := { w with start } }, [], none⟩) ∧
      (∀ stop, h.step (.setStop stop) = ⟨{ h with window := { w with stop } }, [], none⟩) ∧
      (∀ ingestType, h.step (.setIngestType ingestType) =
        ⟨{ h with window := { w with ingestType } }, [], none⟩) := by
  intro h w
  have reached : h = ⟨pathPrefix, w, latest Step.list? [] steps⟩ := run_eq ..
  refine ⟨?_, ?_, ?_, ?_, ?_, ?_, ?_, ?_⟩
  · rw [reached, latest]
  · rw [reached, latest]
    cases (steps.filterMap Step.list?).getLast? <;> rfl
  · rw [reached, latest]
    cases (steps.filterMap Step.list?).getLast? <;> rfl
  · rw [reached]
  · intro answer
    have law := h.fetchLaw answer
    refine ⟨law, ?_⟩
    rw [law.requests, reached, target]
  · intro start
    rw [reached]
    rfl
  · intro stop
    rw [reached]
    rfl
  · intro ingestType
    rw [reached]
    rfl

end IngestWatch.History
