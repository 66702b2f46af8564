import IngestWatch.Text.Blank

/-!
A working directory and what is known outside of it: what stands at a path, and what writing to
a path comes to.
-/

namespace IngestWatch

/-- What stands at a path. -/
inductive Place where
  | nothing
  | directory
  | file (bytes : List UInt8)
  /-- A file that cannot be opened, and why. -/
  | closed (reason : String)
deriving DecidableEq, Repr

/-- The directories and files below a working directory. Names are paths without empty
parts and dots; every directory on the way to an entry is there. -/
structure Disk where
  directories : List (List String)
  files : List (List String × List UInt8)
  /-- The files that cannot be opened, each with the reason. -/
  closed : List (List String × String)
  /-- What stands at paths that lead out of the working directory. At one where nothing stands
  a file can be made, and of a path that is not listed its directory is not there either. -/
  outside : List (String × Place)
deriving Repr

namespace Disk

/-- Files that can be opened, and nothing else. -/
def ofFiles (files : List (List String × List UInt8)) : Disk :=
  ⟨[], files, [], []⟩

/-- Why nothing can be written to a path. -/
inductive Fault where
  | noDirectory
  | notDirectory
  | isDirectory
  | nameTooLong
  | closed (reason : String)
deriving DecidableEq, Repr

def Fault.message : Fault → String
  | .noDirectory => "No such file or directory (os error 2)"
  | .notDirectory => "Not a directory (os error 20)"
  | .isDirectory => "Is a directory (os error 21)"
  | .nameTooLong => "File name too long (os error 36)"
  | .closed reason => reason

/-- The parts of a path between its slashes. -/
def parts (path : String) : List String :=
  (Text.splitAt '/' path.toList).map String.ofList

/-- What stands at a name; the empty name is the directory itself. -/
def entry (d : Disk) (name : List String) : Place :=
  if name.isEmpty ∨ d.directories.contains name then .directory
  else
    match d.files.lookup name, d.closed.lookup name with
    | some bytes, _ => .file bytes
    | none, some reason => .closed reason
    | none, none => .nothing

/-- Does a part of a path lead nowhere else? -/
def stays (part : String) : Bool :=
  part = "" || part = "."

/-- Follows the parts of a path from a directory. The way leads through directories
only; above the working directory nothing is known but that it is a directory. -/
def follow (d : Disk) : List String → List String → Except Fault (List String)
  | name, [] => .ok name
  | name, part :: rest =>
    match d.entry name with
    | .nothing => if (part :: rest).all (· = "") then .ok name else .error .noDirectory
    | .file _ | .closed _ => .error .notDirectory
    | .directory =>
      if stays part then d.follow name rest
      else if part = ".." then
        match name with
        | [] => if rest.all stays then .ok [] else .error .noDirectory
        | _ :: _ => d.follow name.dropLast rest
      else if 255 < part.utf8ByteSize then .error .nameTooLong
      else d.follow (name ++ [part]) rest

/-- The name that a path leads to below the working directory. -/
def resolve (d : Disk) (path : String) : Except Fault (List String) :=
  match path.toList with
  | [] => .error .noDirectory
  | '/' :: _ => if (parts path).all stays then .ok [] else .error .noDirectory
  | _ => d.follow [] (parts path)

/-- What stands at a path. -/
def place (d : Disk) (path : String) : Place :=
  match d.resolve path with
  | .ok name => d.entry name
  | .error _ => (d.outside.lookup path).getD .nothing

/-- Puts a file at a name, over what was there. -/
def put (d : Disk) (name : List String) (bytes : List UInt8) : Disk :=
  { d with files := d.files.filter (fun f => f.1 ≠ name) ++ [(name, bytes)] }

/-- Puts a file at a path that leads out of the working directory. -/
def putOutside (d : Disk) (path : String) (bytes : List UInt8) : Disk :=
  { d with outside := d.outside.filter (fun f => f.1 ≠ path) ++ [(path, .file bytes)] }

/-- What becomes of the place that a file is written to. Its path must not end as only that of
a directory can, unless there is a file. -/
def overwrite (path : String) : Place → Except Fault Unit
  | .directory => .error .isDirectory
  | .closed reason => .error (.closed reason)
  | .file _ => .ok ()
  | .nothing => if (parts path).getLast? = some "" then .error .isDirectory else .ok ()

/-- Writes a file, whose directory has to be there. -/
def write (d : Disk) (path : String) (bytes : List UInt8) : Except Fault Disk :=
  match d.resolve path, d.outside.lookup path with
  | .ok name, _ => do
    overwrite path (d.entry name)
    pure (d.put name bytes)
  | .error _, some place => do
    overwrite path place
    pure (d.putOutside path bytes)
  | .error fault, none => .error fault

end Disk

end IngestWatch
