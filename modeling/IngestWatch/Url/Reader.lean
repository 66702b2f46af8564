import IngestWatch.Text.Utf8
import IngestWatch.Url
import IngestWatch.Url.Domain
import IngestWatch.Url.Dots
import IngestWatch.Url.Percent

/-!
Reading an address from a text that people write: the scheme and the host are brought to
one form, dots in the path are followed, and what may not stand in a part is percent-coded.
-/

namespace IngestWatch.Url

/-! ## Schemes -/

/-- The port that need not be said for a scheme of the web. -/
def webPort? (scheme : String) : Option Nat :=
  [("http", 80), ("https", 443), ("ws", 80), ("wss", 443), ("ftp", 21)].lookup scheme

/-- The schemes that are read alike. -/
inductive Family where
  | web
  | file
  | other
deriving DecidableEq, Repr

def Family.ofScheme (scheme : String) : Family :=
  if scheme = "file" then .file else if (webPort? scheme).isSome then .web else .other

/-- In a family that people write, a backslash stands for a slash. -/
def Family.isSlash (f : Family) (c : Char) : Bool :=
  c = '/' || (f ≠ .other && c = '\\')

/-- A scheme in small letters and what follows its colon. -/
def readScheme (cs : List Char) : Option (String × List Char) :=
  let name := cs.takeWhile fun c => c.isAlphanum || c = '+' || c = '-' || c = '.'
  match name, cs.drop name.length with
  | c :: _, ':' :: rest =>
    if c.isAlpha then some (String.ofList (name.map Char.toLower), rest) else none
  | _, _ => none

/-! ## The characters of a part -/

/-- Everything of ASCII that can be seen, and the space. -/
def staysInPlain (c : Char) : Bool :=
  0x20 ≤ c.toNat && c.toNat < 0x7F

def staysInFragment (c : Char) : Bool :=
  staysInPlain c && !" \"<>`".toList.contains c

def staysInPath (c : Char) : Bool :=
  staysInFragment c && !"#?\x7b\x7d".toList.contains c

def staysInCredentials (c : Char) : Bool :=
  staysInPath c && !"/:;=@[\\]^|".toList.contains c

def Family.staysInQuery (f : Family) (c : Char) : Bool :=
  staysInPlain c && !" \"#<>".toList.contains c && (f = .other || c ≠ '\'')

/-- A part in its coded form. -/
def coded (stays : Char → Bool) (cs : List Char) : String :=
  String.ofList (cs.flatMap (percentChar stays))

/-! ## Hosts -/

/-- The address between brackets. -/
def readBracketed (cs : List Char) : Except Fault Host :=
  match cs.getLast?, readIpv6 (cs.drop 1).dropLast with
  | some ']', some groups => .ok (.ipv6 groups)
  | _, _ => .error .badIpv6

/-- A host of the web: a domain name, percent-coded or not, or an address. -/
def readHost (cs : List Char) : Except Fault Host :=
  if cs.head? = some '[' then readBracketed cs
  else
    match (Text.utf8Decode? (percentDecode cs)).bind Domain.toAscii with
    | none => .error .badDomain
    | some [] => .error .emptyHost
    | some name =>
      if endsInNumber name then
        match readIpv4 name with
        | some address => .ok (.ipv4 address)
        | none => .error .badIpv4
      else .ok (.domain (String.ofList name))

/-- The characters that may not stand in the host of another scheme. -/
def isRefusedInHost (c : Char) : Bool :=
  "\x00\t\n\r #/:<>?@[\\]^|".toList.contains c

/-- A host of another scheme is taken as it is; it may be empty. -/
def readOtherHost (cs : List Char) : Except Fault (Option Host) :=
  if cs.isEmpty then .ok none
  else if cs.head? = some '[' then (readBracketed cs).map some
  else if cs.any isRefusedInHost then .error .badDomainCharacter
  else .ok (some (.domain (coded staysInPlain cs)))

/-- The characters of a host, up to the colon of a port that is not between brackets. -/
def hostLength (within : Bool) : List Char → Nat
  | [] => 0
  | c :: rest =>
    if c = ':' ∧ ¬within then 0
    else hostLength (if c = '[' then true else if c = ']' then false else within) rest + 1

/-! ## Authorities -/

/-- A port and what follows it. Without digits there is none, and the usual one of a scheme
is left out. Only a backslash may follow. -/
def readPort (scheme : String) (cs : List Char) : Except Fault (Option Nat × List Char) :=
  let digits := cs.takeWhile Char.isDigit
  let n := digits.foldl (fun n c => n * 10 + (c.toNat - 0x30)) 0
  let rest := cs.drop digits.length
  if 65535 < n ∨ rest.head?.any (· ≠ '\\') then .error .badPort
  else .ok (if digits.isEmpty ∨ webPort? scheme = some n then none else some n, rest)

/-- Cuts credentials at the last `@`. -/
def cutCredentials (cs : List Char) : Option (List Char × List Char) :=
  if cs.contains '@' then
    let host := (cs.reverse.takeWhile (· ≠ '@')).reverse
    some (cs.take (cs.length - host.length - 1), host)
  else none

/-- A user, and the password behind a colon if it is not empty. -/
def readCredentials (cs : List Char) : String × Option String :=
  match Text.cutAt? ':' cs with
  | none => (coded staysInCredentials cs, none)
  | some (user, password) =>
    (coded staysInCredentials user,
      if password.isEmpty then none else some (coded staysInCredentials password))

/-- The authority of a scheme of the web or another one, and what of the text belongs to
the path already. `more` says whether something follows the text: nothing at all between
`@` and what follows is no host. -/
def readAuthority (scheme : String) (more : Bool) (cs : List Char) :
    Except Fault (Authority × List Char) := do
  let (before, cs) := match cutCredentials cs with
    | some (before, host) => (some before, host)
    | none => (none, cs)
  if before = some [] ∧ cs.isEmpty ∧ more then throw .emptyHost
  let (user, password) := readCredentials (before.getD [])
  let length := hostLength false cs
  let host ←
    if Family.ofScheme scheme = .web then
      if length = 0 then throw .emptyHost else some <$> readHost (cs.take length)
    else readOtherHost (cs.take length)
  let port := cs.drop length
  if host = none ∧ ¬port.isEmpty then throw .emptyHost
  let (port, rest) ← readPort scheme (port.drop 1)
  if host = none ∧ (user ≠ "" ∨ password ≠ none) then throw .emptyHost
  pure (⟨user, password, host, port⟩, rest)

/-! ## Paths -/

/-- The letter of a drive and a colon or a bar. -/
def isDrive : List Char → Bool
  | [c, d] => c.isAlpha && (d = ':' || d = '|')
  | _ => false

/-- The first part of the path of a file may be a drive, which is written with a colon. -/
def Family.enter (f : Family) (done : List String) (part : String) : List String :=
  if f = .file ∧ done.isEmpty ∧ isDrive part.toList then [String.ofList (part.toList.take 1) ++ ":"]
  else done ++ [part]

/-- Dots may be percent-coded, and a drive is not left. -/
def Family.dots (f : Family) : Dots where
  isHere part := [".", "%2e"].contains part.toLower
  isUp part := ["..", ".%2e", "%2e.", "%2e%2e"].contains part.toLower
  leave done := if done.getLast?.any (isDrive ·.toList) then done else done.dropLast
  enter := f.enter

/-- The parts between the slashes of a text. -/
def Family.split (f : Family) (cs : List Char) : List String :=
  (Text.splitAt '/' (cs.map fun c => if f.isSlash c then '/' else c)).map (coded staysInPath)

/-- The parts of a path without its first slash. -/
def Family.readPath (f : Family) (cs : List Char) : List String :=
  f.dots.follow [] (f.split cs)

/-- Without a slash in front of the first. -/
def Family.withoutSlash (f : Family) : List Char → List Char
  | c :: rest => if f.isSlash c then rest else c :: rest
  | [] => []

/-- The path behind an authority. That of a scheme of the web is never empty. -/
def Family.readPathAfter (f : Family) (cs : List Char) : Path :=
  if f = .other ∧ cs.isEmpty then .parts []
  else .parts (f.readPath (f.withoutSlash cs))

/-! ## Files -/

/-- Without the empty parts at its start; an empty path is a slash. -/
def dropEmptyParts (names : List String) : List String :=
  match names.dropWhile (· = "") with
  | [] => [""]
  | names => names

/-- The host of a file. The name of this machine is no host. -/
def readFileHost (cs : List Char) : Except Fault (Option Host) := do
  if cs.isEmpty then pure none
  else
    match ← readHost cs with
    | .domain "localhost" => pure none
    | host => pure (some host)

/-- The host and path of a file. A drive is on this machine. -/
def readFile (cs : List Char) : Except Fault (Option Host × List String) := do
  let isSlash := Family.isSlash .file
  match cs with
  | a :: b :: rest =>
    if isSlash a ∧ isSlash b then
      let name := rest.takeWhile (!isSlash ·)
      if isDrive name then pure (none, Family.readPath .file rest)
      else
        let host ← readFileHost name
        let path := Family.readPath .file (Family.withoutSlash .file (rest.drop name.length))
        pure (if path.head?.any (isDrive ·.toList) then none else host, path)
    else pure (none, Family.readPath .file (Family.withoutSlash .file cs))
  | cs => pure (none, Family.readPath .file (Family.withoutSlash .file cs))

/-! ## The whole -/

/-- An authority and the path behind it. -/
def readBehindSlashes (scheme : String) (more : Bool) (cs : List Char) :
    Except Fault (Option Authority × Path) := do
  let f := Family.ofScheme scheme
  let authority := cs.takeWhile (!f.isSlash ·)
  let rest := cs.drop authority.length
  let (authority, left) ← readAuthority scheme (more || !rest.isEmpty) authority
  pure (some authority, f.readPathAfter (left ++ rest))

/-- An address behind its scheme and without its query and fragment; `more` says whether
there is either. -/
def readFront (scheme : String) (more : Bool) (cs : List Char) :
    Except Fault (Option Authority × Path) :=
  match Family.ofScheme scheme, cs with
  | .file, cs => do
    let (host, path) ← readFile cs
    pure (some ⟨"", none, host, none⟩, .parts (dropEmptyParts path))
  | .web, cs => readBehindSlashes scheme more (cs.dropWhile (Family.isSlash .web))
  | .other, '/' :: '/' :: rest => readBehindSlashes scheme more rest
  | .other, '/' :: rest => pure (none, .parts (Family.readPath .other rest))
  | .other, cs => pure (none, .plain (coded staysInPlain cs))

/-- Controls and spaces around a text, and line ends and tabs within, do not count. -/
def tidy (cs : List Char) : List Char :=
  let blank (c : Char) : Bool := c.toNat ≤ 0x20
  (Text.dropEndWhile blank (cs.dropWhile blank)).filter fun c =>
    c ≠ '\t' && c ≠ '\n' && c ≠ '\r'

/-- Cuts the part behind the first occurrence of a mark. -/
def cutMarked (mark : Char) (cs : List Char) : List Char × Option (List Char) :=
  match Text.cutAt? mark cs with
  | some (front, back) => (front, some back)
  | none => (cs, none)

/-- The address that a text stands for. -/
def parse (s : String) : Except Fault Url :=
  match readScheme (tidy s.toList) with
  | none => .error .noScheme
  | some (scheme, cs) => do
    let (cs, fragment) := cutMarked '#' cs
    let (front, query) := cutMarked '?' cs
    let (authority, path) ← readFront scheme (query.isSome || fragment.isSome) front
    pure ⟨scheme, authority, path, query.map (coded (Family.ofScheme scheme).staysInQuery),
      fragment.map (coded staysInFragment)⟩

end IngestWatch.Url
