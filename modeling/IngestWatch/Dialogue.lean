/-!
Work that needs answers from outside: it has come to a result, or it asks something and
goes on with the answer. What answers is left open, so the same work can be carried out
against any partner, and counted or traced on the way.
-/

namespace IngestWatch

/-- Work that asks requests until it has a result. -/
inductive Dialogue (Request Answer Result : Type) where
  | done (result : Result)
  | ask (request : Request) (next : Answer → Dialogue Request Answer Result)

namespace Dialogue

variable {Request Answer Result State : Type}

/-- Carries work out with a partner that has a state. -/
def run (partner : Request → State → Answer × State) :
    Dialogue Request Answer Result → State → Result × State
  | .done result, s => (result, s)
  | .ask request next, s =>
    let (answer, s) := partner request s
    (next answer).run partner s

/-- Carries work out with a partner that acts. -/
def perform {m : Type → Type} [Monad m] (partner : Request → m Answer) :
    Dialogue Request Answer Result → m Result
  | .done result => pure result
  | .ask request next => do (next (← partner request)).perform partner

end Dialogue

end IngestWatch
