import ObliviousRelay.Gateway.Dialled
import ObliviousRelay.Net.Ip
import ObliviousRelay.Text.Ascii

/-!
# The network of a rehearsal

A host without a network, or one with three ports on its loopback address: at one a gateway listens,
one refuses, and one never lets a connection through. All other addresses refuse.

- `Network.connect` tells what becomes of an attempt to connect.
-/

namespace ObliviousRelay.Rehearsal

open Gateway (ConnectFault Dialled)

/-- The port at which the gateway listens. -/
def gatewayPort : UInt16 := 40001

/-- The port that never lets a connection through. -/
def stuckPort : UInt16 := 40003

/-- The network and the gateway's side of it. -/
structure Network where
  /-- Whether there is a network at all. -/
  wired : Bool := false
  /-- How many of the next connections the gateway refuses. -/
  refusals : Nat := 0
  /-- Whether the gateway speaks TLS. -/
  gatewayTls : Bool := false
  /-- Whether the relay has TLS set up. -/
  relayTls : Bool := false
  deriving DecidableEq, Repr

/-- What becomes of an attempt to connect. -/
inductive Attempt where
  | fails (f : ConnectFault)
  /-- The gateway accepts, and then the attempt fails. -/
  | acceptedThenFails (f : ConnectFault)
  /-- Nothing more comes. -/
  | hangs
  /-- The gateway accepts, and nothing more comes. -/
  | acceptedThenHangs
  /-- The gateway accepts, and speaks the language of the relay or not. -/
  | connects (understood : Bool)
  deriving DecidableEq, Repr

namespace Network

/-- What the system says where there is no network. -/
def unreachable : String := "Network is unreachable (os error 101)"

/-- What the system says where nobody listens. -/
def refused : String := "Connection refused (os error 111)"

/-- What the resolver says of a name that it does not know. -/
def unresolved : String :=
  "failed to lookup address information: Temporary failure in name resolution"

/-- Whether a host is the loopback address of the three ports. -/
def isLoopback (host : String) : Bool :=
  host = "127.0.0.1" || Text.lowerCase host = "localhost"

/-- Whether a host needs no resolver, or is known to it. -/
def isKnown (host : String) : Bool :=
  isLoopback host || (Net.Ipv4.parse? host.toList).isSome || (Net.Ipv6.parse? host.toList).isSome

/-- What becomes of a connection that the gateway accepted. -/
def handshake (n : Network) (secure : Bool) : Attempt :=
  if !secure then .connects (!n.gatewayTls)
  else if !n.relayTls then .acceptedThenFails .tlsMissing
  else if n.gatewayTls then .connects true
  else .acceptedThenHangs

/-- What becomes of an attempt to connect, and the network after it. -/
def connect (n : Network) (d : Dialled) (secure : Bool) : Network × Attempt :=
  if !isKnown d.host then (n, .fails (.transport unresolved))
  else if !n.wired then (n, .fails (.transport unreachable))
  else if !isLoopback d.host then (n, .fails (.transport refused))
  else if d.port = stuckPort then (n, .hangs)
  else if d.port ≠ gatewayPort then (n, .fails (.transport refused))
  else if 0 < n.refusals then ({ n with refusals := n.refusals - 1 }, .fails (.transport refused))
  else (n, n.handshake secure)

end Network

end ObliviousRelay.Rehearsal
