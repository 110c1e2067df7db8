/-!
# The shutdown signal

A signal from any of several handles to any number of listeners. The line holds one signal: a
listener that missed more is told how many it missed, once, and then gets the newest. A listener
sees only signals sent after it began to listen.

- `Shutdown.trigger` sends, `Shutdown.receive` reads without waiting.
- `Reading.wakes` tells which readings end a wait for the signal: all but the empty one.
-/

namespace ObliviousRelay.Lifecycle

/-- The line: the signals sent so far, the handles that can send, and for each listener how many
signals lie behind it. -/
structure Shutdown where
  sent : Nat := 0
  /-- Handles ever made; their numbers count from zero. -/
  made : Nat := 1
  handles : List Nat := [0]
  listeners : List (String × Nat) := []
  deriving DecidableEq, Repr

/-- What a listener reads. -/
inductive Reading where
  | signal
  | empty
  | closed
  /-- So many signals were missed. -/
  | lagged (missed : Nat)
  deriving DecidableEq, Repr

/-- Whether a wait for the signal ends with this reading. -/
def Reading.wakes (r : Reading) : Bool := r ≠ .empty

namespace Shutdown

/-- The number of signals that the line holds. -/
def capacity : Nat := 1

/-- Makes one more handle and tells its number. -/
def clone (s : Shutdown) : Shutdown × Nat :=
  ({ s with made := s.made + 1, handles := s.handles ++ [s.made] }, s.made)

/-- Gives a handle up. -/
def dropHandle (s : Shutdown) (handle : Nat) : Shutdown :=
  { s with handles := s.handles.filter (· ≠ handle) }

/-- The number of listeners. -/
def count (s : Shutdown) : Nat := s.listeners.length

/-- Stops listening. -/
def drop (s : Shutdown) (id : String) : Shutdown :=
  { s with listeners := s.listeners.filter (·.1 ≠ id) }

/-- Begins to listen, anew if it did before. -/
def subscribe (s : Shutdown) (id : String) : Shutdown :=
  { s with listeners := (s.drop id).listeners ++ [(id, s.sent)] }

/-- Sends a signal. Without listeners it is lost. -/
def trigger (s : Shutdown) : Shutdown :=
  if s.listeners.isEmpty then s else { s with sent := s.sent + 1 }

/-- What a listener behind which so many signals lie reads next, and how many lie behind it then. -/
def reading (s : Shutdown) (seen : Nat) : Reading × Nat :=
  let unread := s.sent - seen
  if unread = 0 then (if s.handles.isEmpty then .closed else .empty, seen)
  else if capacity < unread then (.lagged (unread - capacity), s.sent - capacity)
  else (.signal, seen + 1)

/-- Reads without waiting; none if no such listener exists. -/
def receive? (s : Shutdown) (id : String) : Option (Shutdown × Reading) :=
  (s.listeners.lookup id).map fun seen =>
    let (r, seen) := s.reading seen
    ({ s with listeners := s.listeners.map fun l => if l.1 = id then (id, seen) else l }, r)

end Shutdown

end ObliviousRelay.Lifecycle
