import IngestWatch.Config.Template
import IngestWatch.Disk
import IngestWatch.Invocation
import IngestWatch.Program.Remark
import IngestWatch.Text.Utf8

/-!
Writing the configuration file that a new user starts from.
-/

namespace IngestWatch.InitOptions

/-- Why no file is written. -/
inductive Fault where
  /-- There is something already, and nobody said to overwrite it. -/
  | taken (path : String)
  | unwritable (reason : String)
deriving DecidableEq, Repr

def Fault.message : Fault → String
  | .taken path => s!"File already exists: {path}. Use --force to overwrite."
  | .unwritable reason => reason

def contents : List UInt8 :=
  Text.utf8Bytes Config.template.toList

/-- May the file be written where `place` stands? -/
def permit (o : InitOptions) (place : Place) : Except Fault Unit :=
  if place ≠ .nothing ∧ ¬o.force then .error (.taken o.output) else .ok ()

/-- The disk with the file on it. -/
def write (o : InitOptions) (d : Disk) : Except Fault Disk := do
  o.permit (d.place o.output)
  (d.write o.output contents).mapError fun fault => .unwritable fault.message

/-- What is said once the file is there. -/
def remarks (o : InitOptions) : List Remark :=
  [.line s!"✓ Configuration file created: {o.output}",
    .line "  Point [service].base_url at your ingest-metrics server."]

end IngestWatch.InitOptions
