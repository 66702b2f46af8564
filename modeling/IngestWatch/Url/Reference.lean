import IngestWatch.Text.Blank
import IngestWatch.Url
import IngestWatch.Url.Address
import IngestWatch.Url.Dots
import IngestWatch.Url.Percent

/-!
References to resources as services write them: an address, or a part of one that is
completed from the address where it was found. Unlike a text that people write, a
reference must be in its coded form already, and it is not changed but for its dots.
-/

namespace IngestWatch.Url

/-- A reference without its fragment, which is not sent to a server. -/
structure Reference where
  scheme : Option String
  authority : Option String
  path : String
  query : Option String
deriving DecidableEq, Repr

namespace Reference

/-! ## Reading -/

/-- Is every character one of a set or part of a percent-coded byte? -/
def isCoded (allowed : Char → Bool) : List Char → Bool
  | '%' :: h :: l :: rest =>
    (hexValue? h).isSome && (hexValue? l).isSome && isCoded allowed rest
  | c :: rest => allowed c && isCoded allowed rest
  | [] => true

/-- The characters of a name. -/
def isNameChar (c : Char) : Bool :=
  isUnreserved c || "!$&'()*+,;=".toList.contains c

/-- The characters of a path, without the slash. -/
def isPathChar (c : Char) : Bool :=
  isNameChar c || c = ':' || c = '@'

def isQueryChar (c : Char) : Bool :=
  isPathChar c || c = '/' || c = '?'

/-- An address between brackets, of eight groups or of a kind to come. -/
def isBracketed (cs : List Char) : Bool :=
  match cs with
  | 'v' :: rest | 'V' :: rest =>
    match Text.cutAt? '.' rest with
    | some (version, name) =>
      !version.isEmpty && version.all (fun c => (hexValue? c).isSome)
        && !name.isEmpty && name.all fun c => isNameChar c || c = ':'
    | none => false
  | cs => (readIpv6 cs).isSome

/-- A host and a port. -/
def isPlace (cs : List Char) : Bool :=
  match cs with
  | '[' :: rest =>
    match Text.cutAt? ']' rest with
    | some (inner, []) => isBracketed inner
    | some (inner, ':' :: port) => isBracketed inner && port.all Char.isDigit
    | _ => false
  | cs =>
    let name := cs.takeWhile (· ≠ ':')
    isCoded isNameChar name && ((cs.drop name.length).drop 1).all Char.isDigit

def isAuthority (cs : List Char) : Bool :=
  match Text.cutAt? '@' cs with
  | some (user, place) => isCoded (fun c => isNameChar c || c = ':') user && isPlace place
  | none => isPlace cs

/-- A scheme and what follows its colon. -/
def cutScheme (cs : List Char) : Option String × List Char :=
  let name := cs.takeWhile fun c => c.isAlphanum || c = '+' || c = '-' || c = '.'
  match cs.drop name.length with
  | ':' :: rest =>
    if name.head?.any Char.isAlpha then (some (String.ofList name), rest) else (none, cs)
  | _ => (none, cs)

/-- The authority behind two slashes and what follows it. -/
def cutAuthority : List Char → Option String × List Char
  | '/' :: '/' :: rest =>
    let name := rest.takeWhile (· ≠ '/')
    (some (String.ofList name), rest.drop name.length)
  | cs => (none, cs)

/-- The reference that a text is. Without a scheme and an authority, no colon may stand in
the first part of its path. -/
def parse? (cs : List Char) : Option Reference :=
  let (cs, fragment) := match Text.cutAt? '#' cs with
    | some (front, fragment) => (front, fragment)
    | none => (cs, [])
  let (front, query) := match Text.cutAt? '?' cs with
    | some (front, query) => (front, some query)
    | none => (cs, none)
  let (scheme, rest) := cutScheme front
  let (authority, path) := cutAuthority rest
  let bare := scheme.isNone && authority.isNone && (path.takeWhile (· ≠ '/')).contains ':'
  if isCoded isQueryChar fragment ∧ isCoded isQueryChar (query.getD [])
      ∧ authority.all (isAuthority ·.toList) ∧ isCoded (fun c => isPathChar c || c = '/') path
      ∧ ¬bare then
    some ⟨scheme, authority, String.ofList path, query.map String.ofList⟩
  else none

/-! ## Completing -/

/-- Only dots themselves say how to go. -/
def dots : Dots where
  isHere := (· = ".")
  isUp := (· = "..")
  leave := List.dropLast
  enter done part := done ++ [part]

/-- A path without dots. -/
def withoutDots (path : String) : String :=
  match path.toList with
  | '/' :: rest =>
    Path.text (.parts (dots.follow [] ((Text.splitAt '/' rest).map String.ofList)))
  | _ => path

/-- The part of a path up to its last slash. -/
def folder (path : String) : String :=
  String.ofList (Text.dropEndWhile (· ≠ '/') path.toList)

/-- What a reference found at an address refers to: what it says itself, and from the
address all that stands before that. -/
def resolve (here r : Reference) : Reference :=
  if r.scheme.isSome then { r with path := withoutDots r.path }
  else if r.authority.isSome then { r with scheme := here.scheme, path := withoutDots r.path }
  else if r.path.isEmpty then { here with query := r.query <|> here.query }
  else
    let path :=
      if r.path.startsWith "/" then r.path
      else if here.path.isEmpty then "/" ++ r.path
      else folder here.path ++ r.path
    { here with path := withoutDots path, query := r.query }

/-! ## Writing -/

def text (r : Reference) : String :=
  (match r.scheme with | some s => s ++ ":" | none => "")
    ++ marked "//" r.authority ++ r.path ++ marked "?" r.query

/-- An address as it is asked for. -/
def ofUrl (u : Url) : Reference :=
  ⟨some u.scheme, u.authority.map Authority.place, u.path.text, u.query⟩

/-- What a server is asked for: a path, at least a slash, and the query. -/
def target (r : Reference) : String :=
  (if r.path.isEmpty then "/" else r.path) ++ marked "?" r.query

/-- The host and the port. -/
def place (r : Reference) : String :=
  match r.authority with
  | none => ""
  | some a =>
    match Text.cutAt? '@' a.toList with
    | some (_, place) => String.ofList place
    | none => a

/-- Can a server be asked for it? -/
def isAddress (r : Reference) : Bool :=
  r.scheme.isSome && !r.place.isEmpty && !r.place.toList.contains '%'

end Reference

end IngestWatch.Url
