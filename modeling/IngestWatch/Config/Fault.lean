/-!
Why a configuration cannot be used.
-/

namespace IngestWatch.Config

inductive Fault where
  | unreadable (path reason : String)
  | notFound (path : String)
  | malformed (path reason : String)
  | invalid (field reason : String)
deriving DecidableEq, Repr

def Fault.message : Fault → String
  | .unreadable path reason => s!"cannot read {path}: {reason}"
  | .notFound path => s!"config file not found: {path}"
  | .malformed path reason => s!"invalid TOML in {path}: {reason}"
  | .invalid field reason => s!"invalid value for '{field}': {reason}"

end IngestWatch.Config
