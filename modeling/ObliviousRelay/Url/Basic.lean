import ObliviousRelay.Net.Ip

/-!
# URLs

A URL in normal form: scheme, authority, path, query and fragment, each as it is written. The port
is kept only where it is not the default of the scheme.

- `Url.text` writes a URL.
- `Url.Fault` names why a text is no URL.
-/

namespace ObliviousRelay

namespace Url

/-- The host of a URL. -/
inductive Host where
  | domain (name : String)
  | ipv4 (ip : Net.Ipv4)
  | ipv6 (ip : Net.Ipv6)
  deriving DecidableEq, Repr

/-- A host as it is written in a URL, an address of version six in brackets. -/
def Host.text : Host → String
  | domain name => name
  | ipv4 ip => ip.text
  | ipv6 ip => "[" ++ ip.compressed ++ "]"

/-- What stands between the two slashes and the path. -/
structure Authority where
  /-- User name and password, as written before the at sign. -/
  userinfo : String := ""
  /-- A scheme that is not special may have none. -/
  host : Option Host := none
  /-- The port, where it is not the default of the scheme. -/
  port : Option UInt16 := none
  deriving DecidableEq, Repr

/-- Why a text is no URL. -/
inductive Fault where
  | emptyHost
  | internationalName
  | port
  | ipv4Address
  | ipv6Address
  | domainCharacter
  | relative
  deriving DecidableEq, Repr

/-- The wording of a fault. -/
def Fault.message : Fault → String
  | emptyHost => "empty host"
  | internationalName => "invalid international domain name"
  | port => "invalid port number"
  | ipv4Address => "invalid IPv4 address"
  | ipv6Address => "invalid IPv6 address"
  | domainCharacter => "invalid domain character"
  | relative => "relative URL without a base"

end Url

/-- A URL in normal form. -/
structure Url where
  scheme : String
  authority : Option Url.Authority := none
  path : String := ""
  query : Option String := none
  fragment : Option String := none
  deriving DecidableEq, Repr

namespace Url

/-- The port of the schemes that have a default one. -/
def defaultPort? (scheme : String) : Option UInt16 :=
  match scheme with
  | "http" | "ws" => some 80
  | "https" | "wss" => some 443
  | "ftp" => some 21
  | _ => none

/-- The host of a URL, if it has one. -/
def host? (u : Url) : Option Host := u.authority.bind (·.host)

/-- The port that is written in a URL. -/
def port? (u : Url) : Option UInt16 := u.authority.bind (·.port)

/-- The port that a URL stands for. -/
def effectivePort? (u : Url) : Option UInt16 := u.port?.or (defaultPort? u.scheme)

/-- An authority as it is written. -/
def Authority.text (a : Authority) : String :=
  (if a.userinfo.isEmpty then "" else a.userinfo ++ "@") ++
  (match a.host with | some h => h.text | none => "") ++
  (match a.port with | some p => ":" ++ toString p.toNat | none => "")

/-- A URL as it is written. A path that would read as an authority is set apart by a dot segment. -/
def text (u : Url) : String :=
  u.scheme ++ ":" ++
  (match u.authority with
    | some a => "//" ++ a.text
    | none => if u.path.startsWith "//" then "/." else "") ++
  u.path ++
  (match u.query with | some q => "?" ++ q | none => "") ++
  (match u.fragment with | some f => "#" ++ f | none => "")

end Url

end ObliviousRelay
