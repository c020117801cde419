import PluginRecovery.Url.Domain
import PluginRecovery.Url.Path

/-!
The part of an address that names a host: a user name and a password up to the last `@`, the host,
and a port after a colon.
-/

set_option autoImplicit false
set_option relaxedAutoImplicit false

namespace PluginRecovery.Url

open PluginRecovery.Text

/-- What the authority part of an address says. -/
structure Authority where
  username : String := ""
  password : String := ""
  host : Host
  port : Option Nat := none

/-- The address in brackets at the front of a host; its bracket has to end the host. -/
def bracketed? (text : List Char) : Except UrlError Host :=
  match text.getLast?, Address.ipv6? text.dropLast with
  | some ']', some pieces => .ok (.ipv6 pieces)
  | _, _ => .error .invalidIpv6

/-- The host of an address whose scheme gives hosts no meaning: only encoded. -/
def plainHost? (text : List Char) : Except UrlError Host :=
  let forbidden := ['\x00', ' ', '#', '/', ':', '<', '>', '?', '@', '[', '\\', ']', '^', '|']
  match text with
  | '[' :: rest => bracketed? rest
  | _ =>
    if text.any forbidden.contains then .error .invalidDomainCharacter
    else
      let printable (c : Char) : Bool := isPlain c
      .ok (.name (String.ofList (percentEncode printable text)))

/-- The host of an address with a special scheme: a numeric address, or a name brought into its one
form. -/
def namedHost? (text : List Char) : Except UrlError Host :=
  match text with
  | '[' :: rest => bracketed? rest
  | _ =>
    match Domain.ascii? (decode (percentDecode (bytes text))) with
    | none => .error .invalidDomain
    | some [] => .error .emptyHost
    | some name =>
      if Address.endsInNumber name then
        match Address.ipv4? name with
        | some address => .ok (.ipv4 address)
        | none => .error .invalidIpv4
      else .ok (.name (String.ofList name))

/-- A port: none for no digits, and none for the one the scheme stands for. -/
def port? (scheme : String) (text : List Char) : Except UrlError (Option Nat) :=
  if !text.all Char.isDigit then .error .invalidPort
  else
    match text.foldl (fun value c => min (value * 10 + (c.toNat - '0'.toNat)) 65536) 0 with
    | 65536 => .error .invalidPort
    | value => .ok (if text.isEmpty || defaultPort? scheme == some value then none else some value)

/-- The parts before and after the first colon outside brackets. -/
def splitPort (inside : Bool) : List Char → List Char × Option (List Char)
  | [] => ([], none)
  | c :: rest =>
    if c == ':' && !inside then ([], some rest)
    else
      let (host, port) := splitPort (if c == '[' then true else if c == ']' then false else inside)
        rest
      (c :: host, port)

/-- The parts before and after the last `@`. -/
def splitCredentials (text : List Char) : Option (List Char) × List Char :=
  let host := (text.reverse.takeWhile (· != '@')).reverse
  (if host.length < text.length then some (text.take (text.length - host.length - 1)) else none,
    host)

/-- The user name and the password, parted by the first colon. -/
def namePassword (text : List Char) : String × String :=
  let name := text.takeWhile (· != ':')
  let encoded (part : List Char) : String := String.ofList (percentEncode inCredentials part)
  (encoded name, encoded (text.drop (name.length + 1)))

/-- The host that an authority names, with the port after it. -/
def hostPort? (scheme : String) (text : List Char) : Except UrlError (Host × Option Nat) := do
  let (hostText, portText) := splitPort false text
  if hostText.isEmpty && (isSpecial scheme || portText.isSome) then .error .emptyHost
  else
    let host ← if isSpecial scheme then namedHost? hostText else plainHost? hostText
    let port ← port? scheme (portText.getD [])
    return (host, port)

/-- Read the authority of an address. Who names a user has to name a host. -/
def authority? (scheme : String) (text : List Char) : Except UrlError Authority := do
  let (credentials, hostText) := splitCredentials text
  if credentials.isSome && hostText.isEmpty then .error .emptyHost
  else
    let (username, password) := namePassword (credentials.getD [])
    let (host, port) ← hostPort? scheme hostText
    return { username, password, host, port }

/-- Read the authority of a file's address: only a host, and none when it is this machine. -/
def fileHost? (text : List Char) : Except UrlError Host :=
  if text.isEmpty then .ok (.name "")
  else do
    let host ← namedHost? text
    return if host == .name "localhost" then .name "" else host

end PluginRecovery.Url
