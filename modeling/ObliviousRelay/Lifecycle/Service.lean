import ObliviousRelay.Lifecycle.Shutdown
import ObliviousRelay.Log.Entry

/-!
# The end of a service

The parties to a shutdown share one line. The main part makes it, starts the watcher with a handle
of its own, and then serves: the server listens on the line, and stops when its wait for the signal
is over. The watcher waits until the system asks the program to end, or until it turns out that it
cannot be told, and triggers then. Guests have handles and listeners of their own.

- `Service.step?` is one move of one party, where this party can make it.
- `Service.run?` is the effect of moves of all parties, in the order in which they come.
-/

namespace ObliviousRelay.Lifecycle

/-- How far the main part is. -/
inductive Main where
  /-- The line is made. -/
  | started
  /-- The watcher is started. -/
  | watched
  /-- The server listens for the signal and has not heard it. -/
  | serving
  /-- The server's wait for the signal is over. -/
  | stopping (heard : Reading)
  deriving DecidableEq, Repr

/-- Whether the server's wait is over. -/
def Main.isStopping : Main → Bool
  | stopping _ => true
  | started | watched | serving => false

/-- What the watcher is at, with its handle as long as it has one. -/
inductive Watcher where
  | absent
  | waiting (handle : Nat)
  /-- The wait is over, and the signal not yet sent. -/
  | awake (handle : Nat)
  | done
  deriving DecidableEq, Repr

/-- The handle of a watcher. -/
def Watcher.handle? : Watcher → Option Nat
  | waiting handle | awake handle => some handle
  | absent | done => none

/-- What a guest does with a handle or a listener. -/
inductive Guest where
  | clone (handle : Nat)
  | trigger (handle : Nat)
  | dropHandle (handle : Nat)
  | subscribe (handle : Nat) (id : String)
  | receive (id : String)
  | drop (id : String)
  deriving DecidableEq, Repr

/-- A move of one party. -/
inductive Move where
  /-- The main part starts the watcher. -/
  | watch
  /-- The main part makes the server listen. -/
  | subscribe
  /-- The server looks whether its wait is over. -/
  | poll
  /-- The watcher's wait ends, with a fault if it could not wait. -/
  | wake (fault : Option String)
  /-- The watcher triggers, and gives its handle up. -/
  | trigger
  | guest (g : Guest)
  deriving DecidableEq, Repr

/-- Whether a move triggers the signal. -/
def Move.triggers : Move → Bool
  | trigger | guest (.trigger _) => true
  | _ => false

/-- A program from the time when it has made its line. -/
structure Service where
  line : Shutdown := {}
  main : Main := .started
  watcher : Watcher := .absent
  log : List Log.Entry := []
  deriving DecidableEq, Repr

namespace Service

/-- The name of the server among the listeners. -/
def server : String := "server"

/-- The handle of the main part, which it keeps to its end. -/
def mainHandle : Nat := 0

/-- Whether a handle is the main part's or the watcher's. -/
def isTaken (s : Service) (handle : Nat) : Bool :=
  handle = mainHandle || s.watcher.handle? = some handle

/-- The line after a guest did something, which it can do with its own listeners only. -/
def guestStep? (s : Service) : Guest → Option Shutdown
  | .clone handle => if s.line.handles.contains handle then some s.line.clone.1 else none
  | .trigger handle => if s.line.handles.contains handle then some s.line.trigger else none
  | .dropHandle handle =>
    if s.line.handles.contains handle && !s.isTaken handle then some (s.line.dropHandle handle)
    else none
  | .subscribe handle id =>
    if s.line.handles.contains handle && id ≠ server then some (s.line.subscribe id) else none
  | .receive id => if id ≠ server then (s.line.receive? id).map (·.1) else none
  | .drop id => if id ≠ server then some (s.line.drop id) else none

/-- The server looks whether its wait for the signal is over: any reading but the empty one ends it,
and with it the listening. -/
def poll (s : Service) : Option Service :=
  (s.line.receive? server).map fun (line, reading) =>
    if reading.wakes then
      { s with line := line.drop server, main := .stopping reading, log := s.log ++ [.stopping] }
    else { s with line }

/-- The entry that tells why the watcher woke up. -/
def wakeEntry : Option String → Log.Entry
  | none => .terminated
  | some error => .unwatched error

/-- One move, if it is possible. -/
def step? (s : Service) (m : Move) : Option Service :=
  match m, s.main, s.watcher with
  | .watch, .started, _ =>
    let (line, handle) := s.line.clone
    some { s with line, main := .watched, watcher := .waiting handle }
  | .subscribe, .watched, _ => some { s with line := s.line.subscribe server, main := .serving }
  | .poll, .serving, _ => s.poll
  | .wake fault, _, .waiting handle =>
    some { s with watcher := .awake handle, log := s.log ++ [wakeEntry fault] }
  | .trigger, _, .awake handle =>
    some { s with line := s.line.trigger.dropHandle handle, watcher := .done }
  | .guest g, _, _ => (s.guestStep? g).map fun line => { s with line }
  | _, _, _ => none

/-- Several moves, each of which is possible at its time. -/
def run? (s : Service) : List Move → Option Service
  | [] => some s
  | m :: rest => (s.step? m).bind (·.run? rest)

end Service

end ObliviousRelay.Lifecycle
