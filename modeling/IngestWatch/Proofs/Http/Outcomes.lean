import IngestWatch.Proofs.Http.Gets
import IngestWatch.Proofs.Json.Documents
import IngestWatch.Proofs.Text
import IngestWatch.Transport

/-!
What one request comes to. However a partner answers, an exchange ends in time with a last response
or without one, or it ends late; and which of the five kinds of results the request gives follows
from this, from the status and from the body, in both directions.
-/

namespace IngestWatch

namespace Dialogue

variable {Request Answer Result State : Type}

/-- The answers that work hears from a partner. -/
def heard (partner : Request → State → Answer × State) :
    Dialogue Request Answer Result → State → List Answer
  | .done _, _ => []
  | .ask request next, s =>
    let (answer, s) := partner request s
    answer :: (next answer).heard partner s

end Dialogue

namespace Http

/-! ## How an exchange ends -/

/-- No response came in time. Where there is no time to wait, every response is late. -/
def Answer.IsLate (timeout : Option Nat) : Answer → Prop
  | .broken => False
  | .silent => True
  | .response _ => timeout = some 0

def Late (timeout : Option Nat) (last : Option Answer) : Prop :=
  ∃ a ∈ last, a.IsLate timeout

/-- The answer is a response that can be the last one and sends nobody on. -/
def Answer.IsLast (a : Answer) : Prop :=
  ∃ r, a = .response r ∧ r.isFinal = true ∧ a.IsDirect

/-- An exchange as it is delivered after the last answer, if there was any: late, without a
response, or with a last response whose text may be readable. -/
inductive Delivered (read : Reading) (timeout : Option Nat) (last : Option Answer) :
    Exchange → Prop where
  | late (late : Late timeout last) :
      Delivered read timeout last (.failed (.timedOut (timeout.getD 0)))
  | unreached {reason : String} (inTime : ¬ Late timeout last) (none : ∀ a ∈ last, ¬ a.IsLast) :
      Delivered read timeout last (.failed (.noConnection reason))
  | answered {r : Response} (response : last = some (.response r)) (final : r.isFinal = true)
      (inTime : ¬ Late timeout last) : Delivered read timeout last (.answered r.status (read r))

theorem late_some {timeout : Option Nat} {a : Answer} :
    Late timeout (some a) ↔ a.IsLate timeout := by
  simp [Late]

section
variable {read : Reading} {timeout : Option Nat} {first reason : String}
  {here next : Url.Reference} {a : Answer} {r : Response}

theorem delivered_of_not_last (inTime : ¬ a.IsLate timeout) (none : ¬ a.IsLast) :
    Delivered read timeout (some a) (.failed (.noConnection reason)) := by
  refine .unreached (late_some.not.mpr inTime) ?_
  rintro _ ⟨⟩
  exact none

theorem not_isLast_of_redirect (sent : r.redirect? here = some next) :
    ¬ (Answer.response r).IsLast := by
  rintro ⟨_, ⟨⟩, -, direct⟩
  rw [direct r rfl here] at sent
  cases sent

theorem Turn.delivered_of_settled {e : Exchange}
    (settled : Turn.of read timeout first here a = .settled e) :
    Delivered read timeout (some a) e := by
  cases a with
  | broken =>
    obtain rfl := Turn.settled.inj settled
    exact delivered_of_not_last (fun late => late) (by rintro ⟨r, ⟨⟩, -⟩)
  | silent =>
    obtain rfl := Turn.settled.inj settled
    exact .late (late_some.mpr trivial)
  | response r =>
    rw [Turn.of] at settled
    split at settled
    · next noTime =>
      obtain rfl := Turn.settled.inj settled
      subst noTime
      exact .late (late_some.mpr rfl)
    · next time =>
      split at settled
      · next notFinal =>
        obtain rfl := Turn.settled.inj settled
        refine delivered_of_not_last time ?_
        rintro ⟨_, ⟨⟩, final, -⟩
        exact notFinal final
      · next final =>
        rw [not_not] at final
        split at settled
        · obtain rfl := Turn.settled.inj settled
          exact .answered rfl final (late_some.not.mpr time)
        · next sent =>
          split at settled
          · obtain rfl := Turn.settled.inj settled
            exact delivered_of_not_last time (not_isLast_of_redirect sent)
          · cases settled

/-- A response that sends a request on is in time, and it is not the last. -/
theorem Turn.delivered_of_onward {address : Url}
    (onward : Turn.of read timeout first here a = .onward next address) :
    Delivered read timeout (some a) (.failed (.noConnection reason)) := by
  cases a with
  | broken => cases onward
  | silent => cases onward
  | response r =>
    rw [Turn.of] at onward
    split at onward
    · cases onward
    · next time =>
      split at onward
      · cases onward
      · split at onward
        · cases onward
        · next sent => exact delivered_of_not_last time (not_isLast_of_redirect sent)

end

section
variable {State : Type} (partner : Request → State → Answer × State) (read : Reading)
  (timeout : Option Nat) (first : String)

theorem heard_follow (left : Nat) (here : Url.Reference) (s : State) :
    ∃ a more, (follow read timeout first left here).heard partner s = a :: more := by
  cases left <;> exact ⟨_, _, rfl⟩

/-- However often a request is sent on, the exchange ends as its last answer says. -/
theorem delivered_follow (left : Nat) (here : Url.Reference) (s : State) :
    Delivered read timeout ((follow read timeout first left here).heard partner s).getLast?
      ((follow read timeout first left here).run partner s).1 := by
  induction left generalizing here s with
  | zero =>
    simp only [follow, Dialogue.heard, Dialogue.run]
    cases turn : Turn.of read timeout first here (partner (.ofReference here) s).1 with
    | settled e => exact Turn.delivered_of_settled turn
    | onward next address => exact Turn.delivered_of_onward turn
  | succ left ih =>
    simp only [follow, Dialogue.heard, Dialogue.run]
    cases turn : Turn.of read timeout first here (partner (.ofReference here) s).1 with
    | settled e => exact Turn.delivered_of_settled turn
    | onward next address =>
      dsimp only
      split
      · have onwards := ih next (partner (.ofReference here) s).2
        obtain ⟨a, more, heard⟩ :=
          heard_follow partner read timeout first left next (partner (.ofReference here) s).2
        rw [heard] at onwards ⊢
        rwa [List.getLast?_cons_cons]
      · exact Turn.delivered_of_onward turn

theorem delivered_getBy (address : String) (s : State) :
    Delivered read timeout ((getBy read timeout address).heard partner s).getLast?
      ((getBy read timeout address).run partner s).1 := by
  cases opens : opening? address with
  | none =>
    obtain ⟨reason, failed⟩ := getBy_of_not_opening opens read timeout
    rw [failed]
    exact .unreached (by simp [Late, Dialogue.heard]) (by simp [Dialogue.heard])
  | some u =>
    rw [getBy_of_opening opens]
    exact delivered_follow partner read timeout u.text redirectLimit (.ofUrl u) s

end

/-! ## What a result says of the exchange -/

namespace Exchange

def Answered (e : Exchange) : Prop :=
  ∃ status body, e = .answered status body

def InRange (status : Nat) : Prop :=
  200 ≤ status ∧ status ≤ 299

/-- The text of a body is one document, and this is its value. -/
def BodyHolds (body : Option String) (v : Json) : Prop :=
  ∃ text, body = some text ∧ Json.Document Json.usualDepth v text.toList

/-- Each kind of result stands for one kind of exchange, and each kind of exchange gives one kind
of result. -/
structure Classified (timeout : Option Nat) (last : Option Answer) (e : Exchange) : Prop where
  value : ∀ v, e.fetched = .ok v ↔
    ∃ status body, e = .answered status body ∧ InRange status ∧ BodyHolds body v
  badStatus : ∀ status, e.fetched = .error (.badStatus status) ↔
    ∃ body, e = .answered status body ∧ ¬ InRange status
  badBody : (∃ reason, e.fetched = .error (.badBody reason)) ↔
    ∃ status body, e = .answered status body ∧ InRange status ∧ ¬ ∃ v, BodyHolds body v
  timedOut : ∀ seconds, e.fetched = .error (.timedOut seconds) ↔
    ¬ e.Answered ∧ Late timeout last ∧ seconds = timeout.getD 0
  noConnection : (∃ reason, e.fetched = .error (.noConnection reason)) ↔
    ¬ e.Answered ∧ ¬ Late timeout last

theorem inRange_iff {status : Nat} : InRange status ↔ isSuccess status = true := by
  simp [InRange, isSuccess]

theorem fetched_out_of_range {status : Nat} {body : Option String} (out : ¬ InRange status) :
    (answered status body).fetched = .error (.badStatus status) :=
  if_neg (inRange_iff.not.mp out)

/-- In the range a body is read as one document or not at all. -/
theorem fetched_in_range {status : Nat} {body : Option String} (inside : InRange status) :
    (∃ v, BodyHolds body v ∧ (answered status body).fetched = .ok v) ∨
      (¬ ∃ v, BodyHolds body v) ∧
        ∃ reason, (answered status body).fetched = .error (.badBody reason) := by
  unfold fetched
  simp only [if_pos (inRange_iff.mp inside)]
  cases body with
  | none => exact .inr ⟨by simp [BodyHolds], _, rfl⟩
  | some text =>
    dsimp only
    cases read : Json.parse Json.usualDepth text with
    | ok v => exact .inl ⟨v, ⟨text, rfl, Json.parse_eq_ok_iff.mp read⟩, rfl⟩
    | error reason =>
      refine .inr ⟨?_, reason, rfl⟩
      rintro ⟨v, _, ⟨⟩, document⟩
      rw [Json.parse_eq_ok_iff.mpr document] at read
      cases read

theorem BodyHolds.unique {body : Option String} {v w : Json} (holds : BodyHolds body v)
    (other : BodyHolds body w) : v = w := by
  obtain ⟨text, rfl, document⟩ := holds
  obtain ⟨_, ⟨⟩, same⟩ := other
  exact document.value_unique same

theorem classified_of_answered (timeout : Option Nat) (last : Option Answer) (status : Nat)
    (body : Option String) : Classified timeout last (.answered status body) := by
  by_cases inside : InRange status
  · rcases fetched_in_range inside with ⟨v, holds, read⟩ | ⟨none, reason, read⟩
    · have only (w : Json) : BodyHolds body w ↔ v = w := ⟨holds.unique, fun same => same ▸ holds⟩
      constructor <;> simp [read, inside, only, Answered]
    · rw [not_exists] at none
      constructor <;> simp [read, inside, none, Answered]
  · have read : (answered status body).fetched = .error (.badStatus status) :=
      fetched_out_of_range inside
    constructor <;> simp [read, inside, Answered]

end Exchange

theorem Delivered.classified {read : Reading} {timeout : Option Nat} {last : Option Answer}
    {e : Exchange} (delivered : Delivered read timeout last e) : e.Classified timeout last := by
  cases delivered with
  | late late =>
    constructor <;> simp [Exchange.fetched, Exchange.Answered, late, eq_comm]
  | unreached inTime _ =>
    constructor <;> simp [Exchange.fetched, Exchange.Answered, inTime]
  | answered _ _ _ => exact Exchange.classified_of_answered ..

end Http

/-! ## The text of a response -/

namespace Text.Charset

theorem decodeMarked_of_unmarked {cs : List Char} (unmarked : cs.head? ≠ some '\ufeff')
    (set : Charset) : set.decodeMarked (utf8Bytes cs) = set.decode (utf8Bytes cs) := by
  cases cs with
  | nil => rfl
  | cons c rest =>
    have front := utf8Front_utf8Bytes c rest
    unfold decodeMarked
    split
    · next more bytes =>
      have mark : utf8Front (0xEF :: 0xBB :: 0xBF :: more) = .char '\ufeff' more := rfl
      rw [bytes, mark] at front
      cases front
      simp at unmarked
    · next bytes =>
      -- No character begins with the first byte of this mark, nor with that of the next one.
      rw [bytes] at front
      cases front
    · next bytes =>
      rw [bytes] at front
      cases front
    · rfl

theorem decodeMarked_of_marked (cs : List Char) (set : Charset) :
    set.decodeMarked (utf8Bytes ('\ufeff' :: cs)) = cs :=
  utf8DecodeLossy_utf8Bytes cs

end Text.Charset

namespace Http

/-- The text of a body is there if all of the body is, or if the status says that there is none.
It is what the character set makes of the bytes, unless its table is not kept; and what was
written in UTF-8, where no other set is named or a mark says so, is read as it was written. -/
structure TextLaws (read : Reading) : Prop where
  bodiless : ∀ r : Response, r.isBodiless = true → read r = some ""
  cut : ∀ r : Response, r.isBodiless = false → (read r = none ↔ r.body.length < r.length)
  whole : ∀ r : Response, r.isBodiless = false → r.length ≤ r.body.length →
    r.charset ≠ .foreign →
    read r = some (String.ofList (r.charset.decodeMarked (r.body.take r.length)))
  unnamed : ∀ r : Response, r.header? "content-type" = none → r.charset = .utf8
  plain : ∀ (r : Response) (text : String), r.isBodiless = false → r.length ≤ r.body.length →
    r.charset = .utf8 → text.toList.head? ≠ some '\ufeff' →
    r.body.take r.length = Text.utf8Bytes text.toList → read r = some text
  marked : ∀ (r : Response) (text : String), r.isBodiless = false → r.length ≤ r.body.length →
    r.body.take r.length = Text.utf8Bytes ('\ufeff' :: text.toList) → read r = some text

theorem Response.text?_of_whole {r : Response} (bodied : r.isBodiless = false)
    (whole : r.length ≤ r.body.length) :
    r.text? = some (String.ofList (r.charset.decodeMarked (r.body.take r.length))) := by
  rw [text?, if_neg (by simp [bodied]), if_neg (Nat.not_lt.mpr whole)]

theorem Response.text?_eq_none_iff {r : Response} (bodied : r.isBodiless = false) :
    r.text? = none ↔ r.body.length < r.length := by
  simp [text?, bodied]

theorem textLaws : TextLaws Response.text? where
  bodiless _ bodiless := if_pos bodiless
  cut _ bodied := Response.text?_eq_none_iff bodied
  whole _ bodied whole _ := Response.text?_of_whole bodied whole
  unnamed r none := by rw [Response.charset, none]; rfl
  plain r text bodied whole set unmarked bytes := by
    rw [Response.text?_of_whole bodied whole, bytes, set,
      Text.Charset.decodeMarked_of_unmarked unmarked, Text.Charset.decode,
      Text.utf8DecodeLossy_utf8Bytes, String.ofList_toList]
  marked r text bodied whole bytes := by
    rw [Response.text?_of_whole bodied whole, bytes, Text.Charset.decodeMarked_of_marked,
      String.ofList_toList]

end Http

/-- Against any partner, and in whichever way the text of a response is read, the exchange is
delivered as its last answer tells, and the result says in both directions which kind of exchange
it was: one document under a status in the range, another status with any body, a body that
cannot be read or is no document, or no response, late or not. A value is usually fetched with
the reading of which the text laws hold. -/
theorem Transport.result_exact {State : Type} (read : Http.Reading)
    (partner : Http.Request → State → Http.Answer × State) (t : Transport) (target : String)
    (s : State) :
    let ended := ((t.exchangeBy read target).run partner s).1
    let last := ((t.exchangeBy read target).heard partner s).getLast?
    Http.Delivered read t.timeoutSeconds last ended ∧ ended.Classified t.timeoutSeconds last ∧
      Json.DocumentLaws Json.usualDepth ∧
      t.exchange target = t.exchangeBy Http.Response.text? target ∧
      Http.TextLaws Http.Response.text? := by
  intro ended last
  have delivered : Http.Delivered read t.timeoutSeconds last ended :=
    Http.delivered_getBy partner read t.timeoutSeconds (t.address target) s
  exact ⟨delivered, delivered.classified, Json.documentLaws Json.usualDepth, rfl, Http.textLaws⟩

end IngestWatch
