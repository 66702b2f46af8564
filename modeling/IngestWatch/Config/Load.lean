import IngestWatch.Config
import IngestWatch.Config.Fault
import IngestWatch.Disk
import IngestWatch.Text.Utf8

/-!
Loading a configuration from a file.
-/

namespace IngestWatch

namespace Config

/-- The text of what stands at a path. -/
def readText (path : String) : Place → Except Fault String
  | .nothing => .error (.notFound path)
  | .directory => .error (.unreadable path "Is a directory (os error 21)")
  | .closed reason => .error (.unreadable path reason)
  | .file bytes =>
    match Text.utf8Decode? bytes with
    | some cs => .ok (String.ofList cs)
    | none => .error (.unreadable path "stream did not contain valid UTF-8")

/-- The configuration in a file that has to be there. -/
def load (path : String) (place : Place) : Except Fault Config := do
  (record.codec.parseToml (← readText path place)).mapError (.malformed path)

/-- The configuration in a file, or the defaults if there is none. -/
def loadOrDefault (path : String) (place : Place) : Except Fault Config :=
  match place with
  | .nothing => .ok .default
  | place => load path place

end Config

end IngestWatch
