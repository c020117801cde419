import PluginRecovery.Text.Percent
import PluginRecovery.Url.Address

/-!
Addresses of pages: a scheme, an authority, a path, a query and a fragment, each as it is written,
with what has to be encoded in its place already encoded.
-/

set_option autoImplicit false
set_option relaxedAutoImplicit false

namespace PluginRecovery

inductive UrlError
  | relativeWithoutBase
  | relativeToFlatBase
  | emptyHost
  | invalidPort
  | invalidIpv4
  | invalidIpv6
  | invalidDomain
  | invalidDomainCharacter
  deriving DecidableEq, Repr

def UrlError.message : UrlError → String
  | .relativeWithoutBase => "relative URL without a base"
  | .relativeToFlatBase => "relative URL with a cannot-be-a-base base"
  | .emptyHost => "empty host"
  | .invalidPort => "invalid port number"
  | .invalidIpv4 => "invalid IPv4 address"
  | .invalidIpv6 => "invalid IPv6 address"
  | .invalidDomain => "invalid international domain name"
  | .invalidDomainCharacter => "invalid domain character"

/-- What answers at an address. -/
inductive Host
  | name (text : String)
  | ipv4 (address : Nat)
  | ipv6 (pieces : List Nat)
  deriving DecidableEq, Repr

def Host.text : Host → String
  | .name text => text
  | .ipv4 address => Address.ipv4Text address
  | .ipv6 pieces => "[" ++ Address.ipv6Text pieces ++ "]"

/-- The path of an address: segments, of which each begins with a slash, or a text that has no
segments and to which nothing is relative. -/
inductive UrlPath
  | segments (list : List String)
  | flat (text : String)
  deriving DecidableEq, Repr

/-- The segments of a path, none for a text without. -/
def UrlPath.list : UrlPath → List String
  | .segments list => list
  | .flat _ => []

def UrlPath.text : UrlPath → String
  | .segments list => String.join (list.map ("/" ++ ·))
  | .flat text => text

structure Url where
  scheme : String
  username : String := ""
  password : String := ""
  host : Option Host := none
  port : Option Nat := none
  path : UrlPath
  query : Option String := none
  fragment : Option String := none
  deriving DecidableEq, Repr

namespace Url

/-- The schemes whose addresses have a host and in whose addresses a backslash is a slash. -/
def isSpecial (scheme : String) : Bool :=
  ["http", "https", "ws", "wss", "ftp", "file"].contains scheme

/-- The port that a scheme stands for. -/
def defaultPort? (scheme : String) : Option Nat :=
  match scheme with
  | "http" | "ws" => some 80
  | "https" | "wss" => some 443
  | "ftp" => some 21
  | _ => none

/-- The user name and password, as far as there are any, with the sign that ends them. -/
def credentials (url : Url) : String :=
  if url.username.isEmpty && url.password.isEmpty then ""
  else url.username ++ (if url.password.isEmpty then "" else ":" ++ url.password) ++ "@"

/-- What stands between the scheme and the path. A path that begins with two slashes is set off by
a dot, so that it is not read as a host. -/
def authority (url : Url) : String :=
  match url.host, url.path with
  | some host, _ =>
    "//" ++ url.credentials ++ host.text ++
      (match url.port with
      | none => ""
      | some port => ":" ++ toString port)
  | none, .segments ("" :: _ :: _) => "/."
  | none, _ => ""

def text (url : Url) : String :=
  url.scheme ++ ":" ++ url.authority ++ url.path.text ++
    (match url.query with
    | none => ""
    | some query => "?" ++ query) ++
    (match url.fragment with
    | none => ""
    | some fragment => "#" ++ fragment)

end Url

end PluginRecovery
