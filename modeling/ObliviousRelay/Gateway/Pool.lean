import ObliviousRelay.Gateway.Slots
import ObliviousRelay.Url.Basic

/-!
# Pools of connections

The connections to one gateway: a bounded number of slots, the connections that lie idle, and two
counters. Who holds a slot may own one connection; an idle connection needs none.

- `Pool.search` finds the connection to use again: the one pooled last among those that are neither
  closed nor too old. The unusable ones pooled after it are closed on the way.
- `Pool.stats` is what a pool tells about itself.
-/

namespace ObliviousRelay.Gateway

/-- A connection to a gateway. -/
structure Connection where
  /-- How many connections the pool had made before this one. -/
  serial : Nat
  /-- Where it leads. -/
  endpoint : Url
  /-- When it was last put aside, or made. -/
  idleSince : Nat
  deriving DecidableEq, Repr

/-- The connections to one gateway. -/
structure Pool where
  slots : Slots Nat
  /-- The connections that lie idle, the one pooled last first. -/
  idle : List Connection := []
  openCount : Nat := 0
  created : Nat := 0
  deriving DecidableEq, Repr

/-- What a pool tells about itself. -/
structure Pool.Stats where
  openCount : Nat
  idle : Nat
  leased : Nat
  created : Nat
  deriving DecidableEq, Repr

namespace Pool

/-- The bytes that a pool keeps ready for each connection it may hold. -/
def connectionRoom : Nat := 48

/-- Whether the room for a pool of a size fits into an address space of 64 bits. That the machine has so
much memory left is taken for granted: a pool that fits is always made. -/
def canHold (size : Nat) : Bool := size * connectionRoom < Nat.pow 2 63

/-- A pool without connections. -/
def ofSize (size : Nat) : Pool := { slots := .ofSize size }

/-- The counters of a pool. -/
def stats (p : Pool) : Stats := ⟨p.openCount, p.idle.length, p.slots.leased, p.created⟩

/-- What a search among idle connections comes to. -/
structure Search where
  found : Option Connection
  left : List Connection
  dropped : List Connection
  deriving DecidableEq, Repr

/-- Whether an idle connection can be used again: it is not closed, and has lain idle for less than
the idle timeout. -/
def isUsable (closed : Nat → Bool) (idleTimeout now : Nat) (c : Connection) : Bool :=
  !closed c.serial && now - c.idleSince < idleTimeout

/-- Looks for a connection to use again, from the one pooled last on. -/
def search (closed : Nat → Bool) (idleTimeout now : Nat) (idle : List Connection) : Search :=
  let usable := isUsable closed idleTimeout now
  let rest := idle.dropWhile (!usable ·)
  ⟨rest.head?, rest.tail, idle.takeWhile (!usable ·)⟩

end Pool

end ObliviousRelay.Gateway
