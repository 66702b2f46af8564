import IngestWatch.Http.Network

/-!
A conversation never adds to the answers that a server has left, and one that comes to a
value uses up at least one of them: a server without answers reports a failure.
-/

namespace IngestWatch.Http

namespace Network

theorem length_answers_ask_le (request : Request) (n : Network) :
    (ask request n).2.answers.length ≤ n.answers.length := by
  obtain ⟨place, answers, requests⟩ := n
  by_cases h : request.secure = true ∨ request.place ≠ place
  · simp [ask, h]
  · cases answers <;> simp [ask, h]

/-- An answer that shows a connection and is not the one of an exhausted server was one of
those left. -/
theorem length_answers_ask_lt (request : Request) (n : Network)
    (reached : (ask request n).1 ≠ .broken) (scripted : (ask request n).1 ≠ exhausted) :
    (ask request n).2.answers.length < n.answers.length := by
  obtain ⟨place, answers, requests⟩ := n
  by_cases h : request.secure = true ∨ request.place ≠ place
  · simp [ask, h] at reached
  · cases answers with
    | nil => simp [ask, h] at scripted
    | cons answer rest => simp [ask, h]

theorem length_answers_run_le {Result : Type} (work : Conversation Result) (n : Network) :
    (work.run ask n).2.answers.length ≤ n.answers.length := by
  induction work generalizing n with
  | done _ => exact Nat.le_refl _
  | ask request next ih =>
    exact Nat.le_trans (ih _ _) (length_answers_ask_le request n)

/-- Work that begins with a request leaves no more answers than the request does. -/
theorem length_answers_run_ask_le {Result : Type} (request : Request)
    (next : Answer → Conversation Result) (n : Network) :
    (Dialogue.run ask (.ask request next) n).2.answers.length ≤
      (ask request n).2.answers.length :=
  length_answers_run_le (next (ask request n).1) (ask request n).2

end Network

/-- An exhausted server does not send on, and gives no value. -/
theorem turn_exhausted (read : Reading) (timeout : Option Nat) (first : String)
    (here : Url.Reference) :
    ∃ exchange, Turn.of read timeout first here Network.exhausted = .settled exchange ∧
      ∀ value, exchange.fetched ≠ .ok value := by
  by_cases h : timeout = some 0
  · exact ⟨_, by simp [Network.exhausted, Turn.of, h]; rfl, by simp [Exchange.fetched]⟩
  · refine ⟨.ofResponse read ⟨500, [], [], 0⟩, ?_, ?_⟩
    · simp [Network.exhausted, Turn.of, h, Response.isFinal, Response.redirect?]
    · simp [Exchange.ofResponse, Exchange.fetched, Exchange.isSuccess]

/-- The value of a conversation comes from an answer that was left. -/
theorem Network.length_answers_follow_lt {read : Reading} {timeout : Option Nat}
    {first : String} {left : Nat} {here : Url.Reference} {n : Network} {value : Json}
    (h : ((follow read timeout first left here).run ask n).1.fetched = .ok value) :
    ((follow read timeout first left here).run ask n).2.answers.length < n.answers.length := by
  by_cases broken : (ask (.ofReference here) n).1 = .broken
  · cases left <;> simp [follow, Dialogue.run, broken, Turn.of, Exchange.fetched] at h
  · by_cases scripted : (ask (.ofReference here) n).1 = exhausted
    · obtain ⟨exchange, settled, failed⟩ := turn_exhausted read timeout first here
      cases left <;> simp [follow, Dialogue.run, scripted, settled] at h <;> exact absurd h (failed _)
    · have used := length_answers_ask_lt _ n broken scripted
      cases left with
      | zero => exact Nat.lt_of_le_of_lt (length_answers_run_ask_le _ _ n) used
      | succ left => exact Nat.lt_of_le_of_lt (length_answers_run_ask_le _ _ n) used

/-- A request that comes to a value uses up an answer. -/
theorem Network.length_answers_converse_lt {timeout : Option Nat} {address : String}
    {n : Network} {value : Json}
    (h : (n.converse (get timeout address)).1.fetched = .ok value) :
    (n.converse (get timeout address)).2.answers.length < n.answers.length := by
  unfold converse get getBy at *
  split at h
  · simp [Dialogue.run, Exchange.fetched] at h
  · split at h
    · simp [Dialogue.run, Exchange.fetched] at h
    · dsimp only at *
      split at h
      · simp_all
        exact length_answers_follow_lt h
      · simp [Dialogue.run, Exchange.fetched] at h

end IngestWatch.Http
