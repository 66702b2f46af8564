import IngestWatch.Proofs.History

/-!
What the steps of a run come to, one after the other, and what they ask the service for: the
history of windows below one path prefix, whatever is set and whatever is answered.
-/

namespace IngestWatch.History

/-- What each step of a run comes to. -/
def effects (h : History) : List Step → List Effect
  | [] => []
  | s :: rest => h.step s :: (h.step s).history.effects rest

/-- The requests of a run, in their order. -/
def requests (h : History) (steps : List Step) : List String :=
  (h.effects steps).flatMap Effect.requests

/-- A step leaves the path prefix, and what it asks for is the history of a window below it. -/
theorem requests_step (h : History) (s : Step) :
    (h.step s).history.pathPrefix = h.pathPrefix ∧
      ∀ target ∈ (h.step s).requests, target = h.target := by
  cases s with
  | setStart start => exact ⟨rfl, by simp [step]⟩
  | setStop stop => exact ⟨rfl, by simp [step]⟩
  | setIngestType ingestType => exact ⟨rfl, by simp [step]⟩
  | fetch answer =>
    have asked := (h.fetchLaw answer).requests
    refine ⟨?_, by simp [asked]⟩
    rcases answer_cases answer with ⟨items, rfl⟩ | ⟨failure, rfl⟩ | ⟨v, rfl, other⟩
    · rw [step_list]
    · rw [step_failure]
    · rw [step_other h other]

/-- A run asks for nothing but the history of windows below its path prefix. -/
theorem exists_window_of_mem_requests {h : History} {steps : List Step} {target : String}
    (asked : target ∈ h.requests steps) :
    ∃ w : Window, target = Target.history h.pathPrefix w.start w.stop w.ingestType := by
  induction steps generalizing h with
  | nil => simp [requests, effects] at asked
  | cons s rest ih =>
    obtain ⟨kept, now⟩ := h.requests_step s
    rw [requests, effects, List.flatMap_cons, List.mem_append] at asked
    rcases asked with first | later
    · exact ⟨h.window, now target first⟩
    · obtain ⟨w, same⟩ := ih later
      exact ⟨w, kept ▸ same⟩

end IngestWatch.History
