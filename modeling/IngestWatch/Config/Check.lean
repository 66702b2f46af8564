import IngestWatch.Config.Overrides
import IngestWatch.Url.Reader

/-!
What a configuration must satisfy before it is used.
-/

namespace IngestWatch

namespace Config

/-- What is wrong with a base URL. -/
def urlFault? (baseUrl : String) : Option String :=
  if baseUrl.isEmpty then some "URL cannot be empty"
  else
    match Url.parse baseUrl with
    | .ok _ => none
    | .error fault => some fault.message

/-- The first rule that a configuration breaks. -/
def validate (c : Config) : Except Fault Unit :=
  match urlFault? c.service.baseUrl with
  | some reason => .error (.invalid "service.base_url" reason)
  | none =>
    if ¬ c.service.pathPrefix.startsWith "/" then
      .error (.invalid "service.path_prefix" "prefix must start with '/'")
    else if c.rate.intervalMillis = 0 then
      .error (.invalid "rate.interval_millis" "interval must be non-zero")
    else .ok ()

end Config

end IngestWatch
