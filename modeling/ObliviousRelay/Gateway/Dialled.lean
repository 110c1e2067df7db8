import ObliviousRelay.Net.SocketAddress
import ObliviousRelay.Routing.Target

/-!
# Where a target is dialled

The host and the port that a connection to a target is made to, and the ways in which making one
fails.

- `Target.dialled?` gives host and port; a host of version six has no brackets here.
-/

namespace ObliviousRelay

namespace Gateway

/-- A host and a port to connect to. -/
structure Dialled where
  host : String
  port : UInt16
  deriving DecidableEq, Repr

/-- Why no connection was made. -/
inductive ConnectFault where
  | missingHost
  | missingPort
  /-- What the system said of the transport. -/
  | transport (error : String)
  | tls (error : String)
  deriving DecidableEq, Repr

/-- The wording of a fault. -/
def ConnectFault.message : ConnectFault → String
  | missingHost => "invalid endpoint: missing host"
  | missingPort => "invalid endpoint: missing port"
  | transport error => "TCP connect failed: " ++ error
  | tls error => "TLS handshake failed: " ++ error

/-- The fault of a target that asks for TLS where none was set up. -/
def ConnectFault.tlsMissing : ConnectFault := tls "TLS not configured"

end Gateway

namespace Target

open Gateway (Dialled ConnectFault)

/-- The name or address that is dialled for a host. -/
def dialledHost : Url.Host → String
  | .domain name => name
  | .ipv4 ip => ip.text
  | .ipv6 ip => ip.text

/-- The host and the port that a connection is made to: the port of the endpoint, or the one of its
scheme. -/
def dialled? (t : Target) : Except ConnectFault Dialled :=
  match t.endpoint.host? with
  | none => .error .missingHost
  | some host => match t.endpoint.effectivePort? with
    | none => .error .missingPort
    | some port => .ok ⟨dialledHost host, port⟩

end Target

end ObliviousRelay
