import IngestWatch.Dialogue
import IngestWatch.Http.Exchange
import IngestWatch.Url.Reader
import IngestWatch.Url.Reference

/-!
Asking for an address and following the responses that refer to another one.
-/

namespace IngestWatch.Http

/-- Work that asks servers. -/
abbrev Conversation := Dialogue Request Answer

/-! ## Addresses -/

def isHttp (scheme : String) : Bool :=
  scheme = "http" || scheme = "https"

/-- A part of an address in characters of its own. -/
def plain? (coded : String) : Option String :=
  (Text.utf8Decode? (Url.percentDecode coded.toList)).map String.ofList

/-- The address as it is asked and told: without its user and password. A user that is no
text stays. -/
def withoutCredentials (u : Url) : Url :=
  match u.authority with
  | none => u
  | some a =>
    match plain? a.user with
    | some user =>
      if user ≠ "" ∨ (a.password.bind plain?).isSome then
        { u with authority := some { a with user := "", password := none } }
      else u
    | none => u

/-- No request is longer. -/
def longestAddress : Nat := 65534

/-- Can a request be sent to the address? Some names of hosts cannot be asked. -/
def isRequestable (u : Url) : Bool :=
  isHttp u.scheme && u.text.utf8ByteSize ≤ longestAddress
    && !u.host?.any fun h => h.text.any fun c => "\"`\x7b\x7d".toList.contains c

/-- What is asked at an address. -/
def Request.ofReference (r : Url.Reference) : Request :=
  ⟨(r.scheme.getD "").toLower = "https", r.place, r.target⟩

/-! ## Failures -/

def cannotAsk : FetchFailure :=
  .noConnection "builder error"

def cannotAskFor (address : String) : FetchFailure :=
  .noConnection s!"builder error for url ({address})"

def noResponseFrom (address : String) : FetchFailure :=
  .noConnection s!"error sending request for url ({address})"

def tooManyRedirects (address : String) : FetchFailure :=
  .noConnection s!"error following redirect for url ({address})"

/-! ## Asking -/

/-- How often a request is sent on to another address. -/
def redirectLimit : Nat := 10

/-- The address that a response found at an address refers to. -/
def Response.redirect? (r : Response) (here : Url.Reference) : Option Url.Reference := do
  if [301, 302, 303, 307, 308].contains r.status then
    let reference ← Url.Reference.parse? (← r.header? "location").toList
    let _ ← Url.Reference.parse? here.text.toList
    let next := Url.Reference.resolve here reference
    if next.isAddress ∧ next.text.utf8ByteSize ≤ longestAddress then some next else none
  else none

/-- An address in the form in which it is reported. -/
def reported (r : Url.Reference) : String :=
  match Url.parse r.text with
  | .ok u => u.text
  | .error _ => r.text

/-- What comes of an answer: the end, or another address that the response refers to. -/
inductive Turn where
  | settled (exchange : Exchange)
  | onward (next : Url.Reference) (address : Url)

/-- Takes the answer to a request that was made on behalf of a first address. Where there
is no time to wait, every response is late. -/
def Turn.of (read : Reading) (timeout : Option Nat) (first : String) (here : Url.Reference) :
    Answer → Turn
  | .broken => .settled (.failed (noResponseFrom first))
  | .silent => .settled (.failed (.timedOut (timeout.getD 0)))
  | .response r =>
    if timeout = some 0 then .settled (.failed (.timedOut 0))
    else if ¬r.isFinal then .settled (.failed (noResponseFrom first))
    else
      match r.redirect? here with
      | none => .settled (.ofResponse read r)
      | some next =>
        match Url.parse next.text with
        | .error _ => .settled (.failed (cannotAskFor first))
        | .ok address => .onward next address

/-- Asks for an address on behalf of a first one, and may be sent on a number of times. -/
def follow (read : Reading) (timeout : Option Nat) (first : String) :
    Nat → Url.Reference → Conversation Exchange
  | 0, here =>
    .ask (.ofReference here) fun answer =>
      match Turn.of read timeout first here answer with
      | .settled exchange => .done exchange
      | .onward _ _ => .done (.failed (tooManyRedirects (reported here)))
  | left + 1, here =>
    .ask (.ofReference here) fun answer =>
      match Turn.of read timeout first here answer with
      | .settled exchange => .done exchange
      | .onward next address =>
        if isHttp address.scheme then follow read timeout first left next
        else .done (.failed (cannotAskFor address.text))

/-- Asks for an address, with a way to read the text of the last response. -/
def getBy (read : Reading) (timeout : Option Nat) (address : String) : Conversation Exchange :=
  match Url.parse address with
  | .error _ => .done (.failed cannotAsk)
  | .ok u =>
    if u.host?.isNone then .done (.failed (cannotAskFor u.text))
    else
      let u := withoutCredentials u
      if isRequestable u then follow read timeout u.text redirectLimit (.ofUrl u)
      else .done (.failed (cannotAskFor u.text))

/-- Asks for an address. -/
def get (timeout : Option Nat) (address : String) : Conversation Exchange :=
  getBy Response.text? timeout address

end IngestWatch.Http
