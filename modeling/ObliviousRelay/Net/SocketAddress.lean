import ObliviousRelay.Net.Ip

/-!
# Socket addresses

An address and a port. An address of version six stands in brackets and may carry a numeric scope.
-/

namespace ObliviousRelay.Net

/-- An address of either version with a port. -/
inductive SocketAddress where
  | v4 (ip : Ipv4) (port : UInt16)
  | v6 (ip : Ipv6) (scope : UInt32) (port : UInt16)
  deriving DecidableEq, Repr

namespace SocketAddress

/-- Takes a colon and a port. -/
def takePort? (cs : List Char) : Option (UInt16 × List Char) := do
  let cs ← takeChar? ':' cs
  let (n, rest) ← takeNumber? 10 none true 65536 cs
  some (UInt16.ofNat n, rest)

/-- Takes a scope, which is zero where none is written. -/
def takeScope (cs : List Char) : UInt32 × List Char :=
  match (takeChar? '%' cs).bind (takeNumber? 10 none true (Nat.pow 2 32)) with
  | some (n, rest) => (UInt32.ofNat n, rest)
  | none => (0, cs)

/-- Takes an address of version four with its port. -/
def takeV4? (cs : List Char) : Option (SocketAddress × List Char) := do
  let (ip, cs) ← Ipv4.take? cs
  let (port, rest) ← takePort? cs
  some (v4 ip port, rest)

/-- Takes a bracketed address of version six with its port. -/
def takeV6? (cs : List Char) : Option (SocketAddress × List Char) := do
  let cs ← takeChar? '[' cs
  let (ip, cs) ← Ipv6.take? cs
  let (scope, cs) := takeScope cs
  let cs ← takeChar? ']' cs
  let (port, rest) ← takePort? cs
  some (v6 ip scope port, rest)

/-- Reads a whole text as a socket address. -/
def parse? (s : String) : Option SocketAddress :=
  match (takeV4? s.toList).orElse fun _ => takeV6? s.toList with
  | some (address, []) => some address
  | _ => none

/-- The port. -/
def port : SocketAddress → UInt16
  | v4 _ port => port
  | v6 _ _ port => port

/-- The text of the address without its port, a bracketed one for version six. -/
def hostText : SocketAddress → String
  | v4 ip _ => ip.text
  | v6 ip scope _ =>
    "[" ++ ip.text ++ (if scope = 0 then "" else "%" ++ toString scope.toNat) ++ "]"

end SocketAddress

end ObliviousRelay.Net
