import IngestWatch.Http.Client

/-!
A network with one server, which has a script of answers. Nobody else can be reached.
-/

namespace IngestWatch.Http

/-- A server at a host and port with the answers it has left, and what it was asked. -/
structure Network where
  place : String
  answers : List Answer
  requests : List String
deriving Repr

namespace Network

/-- What a server answers that has nothing left to say. -/
def exhausted : Answer :=
  .response ⟨500, [], [], 0⟩

/-- The next answer of the server, if it is the one that is asked. -/
def ask (request : Request) (n : Network) : Answer × Network :=
  if request.secure ∨ request.place ≠ n.place then (.broken, n)
  else
    let n := { n with requests := n.requests ++ [request.target] }
    match n.answers with
    | [] => (exhausted, n)
    | answer :: rest => (answer, { n with answers := rest })

/-- Carries a conversation out. -/
def converse {Result : Type} (work : Conversation Result) (n : Network) : Result × Network :=
  work.run ask n

end Network

end IngestWatch.Http
