import IngestWatch.Url.Address

/-!
Addresses of resources: a scheme, then where to find the resource and its path, a query
and a fragment. All texts are in their coded form, so `text` only puts them together.
-/

namespace IngestWatch

namespace Url

/-- A host: a name, or an address of four bytes or of eight groups. -/
inductive Host where
  | domain (name : String)
  | ipv4 (address : Nat)
  | ipv6 (groups : List Nat)
deriving DecidableEq, Repr

def Host.text : Host → String
  | .domain name => name
  | .ipv4 address => ipv4Text address
  | .ipv6 groups => s!"[{ipv6Text groups}]"

/-- What stands between two slashes and the path. The host may be empty. -/
structure Authority where
  user : String
  password : Option String
  host : Option Host
  port : Option Nat
deriving DecidableEq, Repr

/-- The user and the password with the sign that ends them, if there is either. -/
def Authority.credentials (a : Authority) : String :=
  match a.user, a.password with
  | "", none => ""
  | user, none => user ++ "@"
  | user, some password => user ++ ":" ++ password ++ "@"

/-- The host and the port. -/
def Authority.place (a : Authority) : String :=
  let host := match a.host with
    | some h => h.text
    | none => ""
  match a.port with
  | some p => s!"{host}:{p}"
  | none => host

/-- A path: parts behind a slash each, or a text without structure. -/
inductive Path where
  | parts (names : List String)
  | plain (text : String)
deriving DecidableEq, Repr

def Path.text : Path → String
  | .parts names => String.join (names.map ("/" ++ ·))
  | .plain text => text

/-- Why a text is no address. -/
inductive Fault where
  | noScheme
  | emptyHost
  | badPort
  | badDomain
  | badDomainCharacter
  | badIpv4
  | badIpv6
deriving DecidableEq, Repr

def Fault.message : Fault → String
  | .noScheme => "relative URL without a base"
  | .emptyHost => "empty host"
  | .badPort => "invalid port number"
  | .badDomain => "invalid international domain name"
  | .badDomainCharacter => "invalid domain character"
  | .badIpv4 => "invalid IPv4 address"
  | .badIpv6 => "invalid IPv6 address"

end Url

/-- The address of a resource. -/
structure Url where
  scheme : String
  authority : Option Url.Authority
  path : Url.Path
  query : Option String
  fragment : Option String
deriving DecidableEq, Repr

namespace Url

/-- The host, if there is one. -/
def host? (u : Url) : Option Host :=
  u.authority.bind Authority.host

/-- Scheme, authority and path. Without an authority, two slashes at the start of the
path would be read as those of one, so `/.` stands in front of them. -/
def front (u : Url) : String :=
  match u.authority with
  | some a => u.scheme ++ "://" ++ a.credentials ++ a.place ++ u.path.text
  | none =>
    u.scheme ++ ":" ++ (if u.path.text.startsWith "//" then "/." else "") ++ u.path.text

/-- A part that begins with a mark, if it is there. -/
def marked (mark : String) : Option String → String
  | some text => mark ++ text
  | none => ""

def text (u : Url) : String :=
  u.front ++ marked "?" u.query ++ marked "#" u.fragment

end Url

end IngestWatch
