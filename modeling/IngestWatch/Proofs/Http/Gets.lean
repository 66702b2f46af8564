import IngestWatch.Http.Network
import Mathlib.Tactic

/-!
GETs of one address, one after the other. Where the server has the address and sends nobody
on, every GET makes exactly one request and comes to what the next answer says; where the
server does not have it, no GET reaches the server and each of them fails.
-/

namespace IngestWatch.Http

/-! ## What a GET begins with -/

/-- The address that a GET asks first, if it is one that can be asked. -/
def opening? (address : String) : Option Url :=
  match Url.parse address with
  | .error _ => none
  | .ok u =>
    if u.host?.isNone then none
    else if isRequestable (withoutCredentials u) then some (withoutCredentials u)
    else none

theorem getBy_of_opening {address : String} {u : Url} (asked : opening? address = some u)
    (read : Reading) (timeout : Option Nat) :
    getBy read timeout address = follow read timeout u.text redirectLimit (.ofUrl u) := by
  unfold opening? at asked
  unfold getBy
  cases parsed : Url.parse address with
  | error fault => simp [parsed] at asked
  | ok v =>
    simp only [parsed] at asked ⊢
    split at asked
    · cases asked
    · next host =>
      split at asked
      · next requestable =>
        rw [if_neg host, if_pos requestable]
        obtain rfl := Option.some.inj asked
        rfl
      · cases asked

theorem opening?_of_parse {address : String} {u : Url} (parsed : Url.parse address = .ok u)
    (host : u.host?.isNone = false) (anonymous : withoutCredentials u = u)
    (requestable : isRequestable u = true) : opening? address = some u := by
  simp [opening?, parsed, host, anonymous, requestable]

/-- A GET of an address that cannot be asked has failed before it begins. -/
theorem getBy_of_not_opening {address : String} (asked : opening? address = none)
    (read : Reading) (timeout : Option Nat) :
    ∃ reason, getBy read timeout address = .done (.failed (.noConnection reason)) := by
  unfold opening? at asked
  unfold getBy
  cases parsed : Url.parse address with
  | error fault => exact ⟨_, rfl⟩
  | ok v =>
    simp only [parsed] at asked ⊢
    split at asked
    · next host => exact ⟨_, if_pos host⟩
    · next host =>
      split at asked
      · cases asked
      · next requestable => exact ⟨_, (if_neg host).trans (if_neg requestable)⟩

def Request.opening (u : Url) : Request :=
  .ofReference (.ofUrl u)

/-- The address that a GET asks first, if it is one of the server. -/
def Network.opening? (n : Network) (address : String) : Option Url :=
  (Http.opening? address).filter fun u =>
    !(Request.opening u).secure && (Request.opening u).place = n.place

/-! ## One GET -/

/-- An answer that sends nobody on to another address. -/
def Answer.IsDirect (a : Answer) : Prop :=
  ∀ r, a = .response r → ∀ here, r.redirect? here = none

theorem Answer.isDirect_of_status {r : Response}
    (status : r.status ∉ [301, 302, 303, 307, 308]) : (Answer.response r).IsDirect := by
  rintro _ ⟨⟩ here
  have other : ¬ [301, 302, 303, 307, 308].contains r.status = true := by simpa using status
  rw [Response.redirect?, if_neg other]

/-- What the answer to a request comes to that sends nobody on. -/
def Answer.exchange (timeout : Option Nat) (first : String) : Answer → Exchange
  | .broken => .failed (noResponseFrom first)
  | .silent => .failed (.timedOut (timeout.getD 0))
  | .response r =>
    if timeout = some 0 then .failed (.timedOut 0)
    else if r.isFinal then .ofResponse Response.text? r
    else .failed (noResponseFrom first)

theorem Turn.of_direct {a : Answer} (direct : a.IsDirect) (timeout : Option Nat) (first : String)
    (here : Url.Reference) :
    Turn.of Response.text? timeout first here a = .settled (a.exchange timeout first) := by
  cases a with
  | broken => rfl
  | silent => rfl
  | response r =>
    simp only [Turn.of, Answer.exchange, direct r rfl here]
    split
    · rfl
    · by_cases final : r.isFinal = true <;> simp [final]

theorem Network.run_follow_of_settled {read : Reading} {timeout : Option Nat} {first : String}
    {here : Url.Reference} {n : Network} {exchange : Exchange} (left : Nat)
    (settled : Turn.of read timeout first here (n.ask (.ofReference here)).1 =
      .settled exchange) :
    n.converse (follow read timeout first left here) =
      (exchange, (n.ask (.ofReference here)).2) := by
  cases left <;> simp [converse, follow, Dialogue.run, settled]

namespace Network

def nextAnswer (n : Network) : Answer :=
  n.answers.headD exhausted

def asked (n : Network) (target : String) : Network :=
  { n with answers := n.answers.tail, requests := n.requests ++ [target] }

theorem ask_of_place {n : Network} {request : Request} (plain : request.secure = false)
    (here : request.place = n.place) :
    ask request n = (n.nextAnswer, n.asked request.target) := by
  obtain ⟨place, answers, requests⟩ := n
  have reached : ¬ (request.secure = true ∨ request.place ≠ place) := by simp [plain, here]
  rw [ask, if_neg reached]
  cases answers <;> rfl

theorem ask_of_elsewhere {n : Network} {request : Request}
    (elsewhere : request.secure = true ∨ request.place ≠ n.place) :
    ask request n = (.broken, n) :=
  if_pos elsewhere

variable {n : Network} {address : String} {timeout : Option Nat} {u : Url}

/-- A GET that the server is asked for makes one request if the answer sends it nowhere else,
and comes to what that answer says. -/
theorem converse_get_of_direct (opens : n.opening? address = some u)
    (direct : n.nextAnswer.IsDirect) :
    n.converse (get timeout address) =
      (n.nextAnswer.exchange timeout u.text, n.asked (Request.opening u).target) := by
  rw [opening?, Option.filter_eq_some_iff, Bool.and_eq_true, Bool.not_eq_true',
    decide_eq_true_eq] at opens
  obtain ⟨opens, plain, here⟩ := opens
  have first : n.ask (.ofReference (.ofUrl u)) =
      (n.nextAnswer, n.asked (Request.opening u).target) := ask_of_place plain here
  have settled : Turn.of Response.text? timeout u.text (.ofUrl u)
      (n.ask (.ofReference (.ofUrl u))).1 = .settled (n.nextAnswer.exchange timeout u.text) := by
    rw [first]
    exact Turn.of_direct direct ..
  rw [get, getBy_of_opening opens, run_follow_of_settled _ settled, first]

/-- A GET that the server is not asked for fails and leaves the server as it is. -/
theorem converse_get_of_elsewhere (elsewhere : n.opening? address = none) :
    ∃ failure, n.converse (get timeout address) = (.failed failure, n) := by
  cases opens : Http.opening? address with
  | none =>
    obtain ⟨reason, failed⟩ := getBy_of_not_opening opens Response.text? timeout
    exact ⟨.noConnection reason, by rw [get, failed]; rfl⟩
  | some u =>
    have other : (Request.opening u).secure = true ∨ (Request.opening u).place ≠ n.place := by
      rw [opening?, opens, Option.filter_some] at elsewhere
      by_contra same
      rw [not_or, not_not, Bool.not_eq_true] at same
      simp [same] at elsewhere
    have broken : n.ask (.ofReference (.ofUrl u)) = (.broken, n) := ask_of_elsewhere other
    have settled : Turn.of Response.text? timeout u.text (.ofUrl u)
        (n.ask (.ofReference (.ofUrl u))).1 = .settled (.failed (noResponseFrom u.text)) := by
      rw [broken]
      rfl
    exact ⟨_, by rw [get, getBy_of_opening opens, run_follow_of_settled _ settled, broken]⟩

/-! ## One after the other -/

/-- The network after so many conversations of one kind. -/
def after (work : Conversation Exchange) (k : Nat) (n : Network) : Network :=
  (fun n => (n.converse work).2)^[k] n

/-- What conversation number `k` of one kind gives, counted from nought. -/
def fetched (work : Conversation Exchange) (n : Network) (k : Nat) : Fetched :=
  ((n.after work k).converse work).1.fetched

theorem after_succ (work : Conversation Exchange) (k : Nat) (n : Network) :
    n.after work (k + 1) = (n.converse work).2.after work k := rfl

theorem fetched_succ (work : Conversation Exchange) (n : Network) (k : Nat) :
    n.fetched work (k + 1) = (n.converse work).2.fetched work k := rfl

/-- Number `k` of the answers that a server gives. -/
def answerAt (n : Network) (k : Nat) : Answer :=
  n.answers.getD k exhausted

theorem isDirect_exhausted : exhausted.IsDirect :=
  Answer.isDirect_of_status (by decide)

theorem isDirect_nextAnswer (direct : ∀ a ∈ n.answers, a.IsDirect) : n.nextAnswer.IsDirect := by
  obtain ⟨place, answers, requests⟩ := n
  cases answers with
  | nil => exact isDirect_exhausted
  | cons a rest => exact direct a List.mem_cons_self

/-- As often as a GET is made, so many requests reach the server that has its address, all for
the same target; and what it gives is what the answer with its number says. -/
theorem gets_of_opening (opens : n.opening? address = some u)
    (direct : ∀ a ∈ n.answers, a.IsDirect) (k : Nat) :
    (n.after (get timeout address) k).requests =
        n.requests ++ List.replicate k (Request.opening u).target ∧
      n.fetched (get timeout address) k = ((n.answerAt k).exchange timeout u.text).fetched := by
  induction k generalizing n with
  | zero =>
    refine ⟨by simp [after], ?_⟩
    have next : n.answerAt 0 = n.nextAnswer := by
      rw [answerAt, nextAnswer, List.getD_eq_getElem?_getD, List.headD_eq_head?_getD,
        List.head?_eq_getElem?]
    rw [next]
    exact congrArg (·.1.fetched)
      (converse_get_of_direct opens (isDirect_nextAnswer direct))
  | succ k ih =>
    have turn : n.converse (get timeout address) = _ :=
      converse_get_of_direct opens (isDirect_nextAnswer direct)
    -- The address stays one of the server, whatever it was asked before.
    obtain ⟨requests, fetched⟩ := ih (n := n.asked (Request.opening u).target) opens
      fun a member => direct a (List.mem_of_mem_tail member)
    rw [after_succ, fetched_succ, turn]
    refine ⟨?_, ?_⟩
    · rw [requests, asked, List.append_assoc, List.singleton_append, ← List.replicate_succ]
    · rw [fetched, answerAt, answerAt, asked, List.getD_eq_getElem?_getD,
        List.getD_eq_getElem?_getD, List.getElem?_tail]

end Network

end IngestWatch.Http
