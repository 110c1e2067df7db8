import ObliviousRelay.Config.Schema
import ObliviousRelay.Net.FileTree
import ObliviousRelay.Net.SocketAddress

/-!
# Listeners

A relay listens on a Unix socket, if a path for one is configured, or else on an address and port.
A socket that stands at the path is taken for one that an earlier run left, and removed; any other
entry there is left alone and prevents the binding. A listener that is dropped leaves its socket
behind.

- `Host.bind` binds, `Host.drop` ends a listener.
-/

namespace ObliviousRelay.Net

/-- What a relay listens on. -/
inductive Listener where
  | tcp (address : SocketAddress)
  /-- A socket in the file tree, by the path it was bound to and its place. -/
  | unix (path : String) (place : Place)
  /-- A Unix socket outside the file tree, by its name there. -/
  | abstract (name : String)
  /-- A Unix socket outside the file tree that the system named. -/
  | unnamed
  deriving DecidableEq, Repr

/-- Why a listener cannot be bound. -/
inductive ListenerFault where
  | address
  | bind (fault : SystemFault)
  deriving DecidableEq, Repr

/-- The wording of a fault. -/
def ListenerFault.message : ListenerFault → String
  | address => "Invalid bind address: invalid socket address syntax"
  | bind fault => "Failed to bind: " ++ fault.message

namespace Listener

/-- What a listener calls itself, with its port as text. -/
def describe (port : String) : Listener → String
  | tcp address => "tcp://" ++ address.hostText ++ ":" ++ port
  | unix path _ => "unix://" ++ path
  | abstract _ | unnamed => "unix://?"

/-- The address of a listener that has one. -/
def ip? : Listener → Option String
  | tcp (.v4 ip _) => some ip.text
  | tcp (.v6 ip _ _) => some ip.text
  | _ => none

end Listener

/-- The machine that a relay runs on: its files and the listeners alive on it. -/
structure Host where
  tree : FileTree := {}
  listeners : List (String × Listener) := []
  deriving DecidableEq, Repr

namespace Host

/-- The bytes that the path of a Unix socket has to stay below. -/
def maxSocketPath : Nat := 108

/-- Whether an address is one of the machine's own: the unspecified and the loopback ones. -/
def isLocal : SocketAddress → Bool
  | .v4 ip _ => ip.text = "0.0.0.0" || (ip.text.splitOn ".").head? = some "127"
  | .v6 ip _ _ => ip.text = "::" || ip.text = "::1"

/-- Whether an address stands for all addresses of its version. -/
def isUnspecified : SocketAddress → Bool
  | .v4 ip _ => ip.text = "0.0.0.0"
  | .v6 ip _ _ => ip.text = "::"

/-- Whether a listener occupies the port that an address asks for. -/
def occupies (l : Listener) (wanted : SocketAddress) : Bool :=
  match l with
  | .tcp a => wanted.port ≠ 0 && a.port = wanted.port &&
      (a = wanted || isUnspecified a || isUnspecified wanted)
  | _ => false

/-- Binds an address and port; port zero is any free one. -/
def bindTcp (h : Host) (address : SocketAddress) : Except SystemFault Listener :=
  if !isLocal address then .error .notLocal
  else if h.listeners.any fun l => occupies l.2 address then .error .inUse
  else .ok (.tcp address)

/-- Makes a socket at a path where there is no entry. A path that is empty or begins with a zero
character is a name outside the file tree, which one listener at a time can have. -/
def makeSocket (t : FileTree) (listeners : List (String × Listener)) (path : String) :
    Except SystemFault (FileTree × Listener) :=
  match path.toList with
  | [] => .ok (t, .unnamed)
  | c :: _ =>
    if c = Char.ofNat 0 then
      if maxSocketPath < path.utf8ByteSize then .error .nameLength
      else if listeners.any fun l => l.2 = .abstract path then .error .inUse
      else .ok (t, .abstract path)
    else if path.toList.contains (Char.ofNat 0) then .error .pathText
    else if maxSocketPath ≤ path.utf8ByteSize then .error .pathLength
    else match t.place path with
      | .error fault => .error fault
      | .ok p =>
        if (t.find? p).isSome then .error .inUse
        else if FileTree.asksForDirectory path then .error .missing
        else .ok (t.insert p .socket, .unix path p)

/-- The files after a stale socket at a path was cleared away. -/
def clearSocket (t : FileTree) (path : String) : FileTree :=
  if t.lookup? path = some .socket then (t.remove path).getD t else t

/-- Ends a listener; its socket stays. -/
def drop (h : Host) (id : String) : Host :=
  { h with listeners := h.listeners.filter (·.1 ≠ id) }

/-- Keeps a listener under a name, in the place of one that had the name. -/
def keep (h : Host) (id : String) (l : Listener) : Host :=
  { h with listeners := (id, l) :: (h.drop id).listeners }

/-- Binds a listener under a name. A Unix socket goes before an address. The files may have changed
also where binding fails. -/
def bind (h : Host) (id : String) (c : Config.Listener) : Host × Except ListenerFault Listener :=
  match c.unixSocket with
  | some path =>
    let tree := clearSocket h.tree path
    match makeSocket tree h.listeners path with
    | .ok (tree, l) => ({ h with tree }.keep id l, .ok l)
    | .error fault => ({ h with tree }, .error (.bind fault))
  | none =>
    match SocketAddress.parse? c.bindAddress with
    | none => (h, .error .address)
    | some address =>
      match h.bindTcp address with
      | .ok l => (h.keep id l, .ok l)
      | .error fault => (h, .error (.bind fault))

end Host

end ObliviousRelay.Net
