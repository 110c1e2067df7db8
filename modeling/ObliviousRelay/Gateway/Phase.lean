import ObliviousRelay.Gateway.Exchange
import ObliviousRelay.Gateway.Pool
import ObliviousRelay.Timing.Deadline
import ObliviousRelay.Timing.Retry

/-!
# Phases of an exchange with a gateway

An exchange asks for a slot, obtains a connection, offers its message, reads the reply and gives
everything back. Its phase holds just what it owns at that point: a queued exchange owns nothing, a
dialling one a slot, all later ones a slot and one connection, and a spent one a slot again.
-/

namespace ObliviousRelay.Gateway

open Timing (Deadline Expired)

/-- Where the making of a connection stands. -/
inductive Stage where
  /-- An attempt is under way, until it is stopped by one of its two bounds. -/
  | connecting (bound : Nat) (stops : Expired)
  /-- A pause after a failed attempt. It ends with the next attempt, or with the deadline. -/
  | pausing (ending : Nat) (inTime : Bool)
  deriving DecidableEq, Repr

/-- The making of a connection: the number of the attempt, counted from one, and its stage. -/
structure Dial where
  attempt : Nat
  stage : Stage
  deriving DecidableEq, Repr

/-- What a connection is made for. -/
inductive Purpose where
  /-- For a new lease. -/
  | lease
  /-- In the place of a pooled connection that had been closed, before a message is offered. -/
  | offer (o : Outbound)
  /-- In the place of a connection that gave a message back unsent. -/
  | offerAgain (r : WireRequest)
  deriving DecidableEq

/-- What a lease carries besides its connection. -/
structure Terms where
  /-- Fixed when the slot was granted. -/
  deadline : Deadline
  /-- The connection was in the pool before. -/
  reused : Bool
  /-- The last exchange on the connection was clean. -/
  reusable : Bool
  deriving DecidableEq, Repr

/-- Where an exchange stands. -/
inductive Phase where
  /-- It waits for a slot. -/
  | queued (timeout : Nat)
  /-- It has been given a slot and goes on at once. -/
  | granted (timeout : Nat)
  | dialling (deadline : Deadline) (purpose : Purpose) (dial : Dial)
  /-- A lease that is not in use. -/
  | held (c : Connection) (t : Terms)
  /-- A lease that has lost its connection for good. -/
  | spent
  /-- A message is about to be offered; the connection has to take it. -/
  | readying (c : Connection) (t : Terms) (o : Outbound)
  /-- The request is on its way; it may have been offered before, on another connection. -/
  | offering (c : Connection) (t : Terms) (r : WireRequest) (again : Bool)
  /-- The head of the reply has come, and this much of its body. -/
  | reading (c : Connection) (t : Terms) (status : Http.Status) (contentType : Option String)
    (body : ByteArray)
  deriving DecidableEq

/-- An exchange, known by a number. -/
structure Exchange where
  id : Nat
  phase : Phase
  deriving DecidableEq

namespace Phase

/-- The connection that an exchange owns. -/
def connection? : Phase → Option Connection
  | held c _ => some c
  | readying c _ _ => some c
  | offering c _ _ _ => some c
  | reading c _ _ _ _ => some c
  | _ => none

/-- Whether an exchange holds a slot. -/
def hasSlot : Phase → Bool
  | queued _ => false
  | _ => true

/-- Whether an exchange is making a connection. -/
def isDialling : Phase → Bool
  | dialling _ _ _ => true
  | _ => false

/-- The deadline of an exchange that is bounded by one now. -/
def deadline? : Phase → Option Deadline
  | dialling d _ _ => some d
  | readying _ t _ => some t.deadline
  | offering _ t _ _ => some t.deadline
  | reading _ t _ _ _ => some t.deadline
  | _ => none

/-- The moment at which an exchange that holds a slot is stopped or goes on by itself. -/
def timer? : Phase → Option Nat
  | dialling _ _ ⟨_, .connecting bound _⟩ => some bound
  | dialling _ _ ⟨_, .pausing ending _⟩ => some ending
  | p => p.deadline?.map (·.moment)

end Phase

end ObliviousRelay.Gateway
