import ObliviousRelay.Gateway.Exchange
import ObliviousRelay.Log.Entry

/-!
# Events and effects

What can happen to the exchanges with one gateway, and what each happening brings about. Events come
from those who use the exchanges, from the gateway and the network, and from the clock; effects are
what others get to see.
-/

namespace ObliviousRelay.Gateway

/-- Something that happens. Exchanges are named by their numbers. -/
inductive Event where
  /-- A lease is asked for, with the time allowed from the grant of a slot on. -/
  | request (x timeout : Nat)
  /-- An exchange that was given a slot goes on. -/
  | proceed (x : Nat)
  /-- The attempt to connect succeeds. -/
  | connected (x : Nat)
  /-- The attempt to connect fails; the draw settles the random part of a pause. -/
  | refused (x : Nat) (error : String) (draw : Nat)
  /-- A message is to be sent on a lease. -/
  | send (x : Nat) (o : Outbound)
  /-- The connection takes messages. -/
  | ready (x : Nat)
  /-- The connection takes no message, for it is closed. -/
  | unready (x : Nat) (error : String)
  /-- The request comes back, and no byte of it was written. -/
  | returned (x : Nat) (error : String)
  /-- The connection fails after the request was taken. -/
  | failed (x : Nat) (error : String)
  /-- The head of the reply comes. -/
  | answered (x : Nat) (status : Http.Status) (contentType : Option String)
  /-- A piece of the reply's body comes. -/
  | received (x : Nat) (piece : ByteArray)
  /-- The reply's body is complete. -/
  | ended (x : Nat)
  /-- The reply's body breaks off. -/
  | cutOff (x : Nat) (error : String)
  /-- The lease is given back. -/
  | release (x : Nat)
  /-- The exchange is given up, wherever it stands. -/
  | drop (x : Nat)
  /-- The clock has reached the moment that the exchange waits for, if it has. -/
  | expire (x draw : Nat)
  /-- The gateway has closed a connection. -/
  | lose (serial : Nat)
  /-- Time passes. -/
  | elapse (duration : Nat)
  deriving DecidableEq

/-- How an attempt to connect ended. -/
inductive AttemptResult where
  | ok
  | error
  /-- The deadline of the exchange stopped it. -/
  | timeout
  deriving DecidableEq, Repr

/-- The written name of a result. -/
def AttemptResult.text : AttemptResult → String
  | ok => "ok"
  | error => "error"
  | timeout => "timeout"

/-- Something that an event brings about. -/
inductive Effect where
  | logged (e : Log.Entry)
  /-- An exchange was given a slot. -/
  | granted (x : Nat)
  /-- A slot was given back. -/
  | freed (x : Nat)
  /-- An attempt to connect begins. -/
  | dialling (x : Nat)
  | attempted (r : AttemptResult)
  | opened (serial : Nat)
  | closed (serial : Nat)
  /-- A connection was put aside. -/
  | pooled (serial : Nat)
  /-- A connection is asked whether it takes messages. -/
  | readying (x serial : Nat)
  /-- A request was handed to a connection. -/
  | offered (x serial : Nat) (r : WireRequest)
  /-- A lease was obtained, perhaps with a connection from the pool. -/
  | leased (x : Nat) (reused : Bool)
  /-- A message was answered. -/
  | replied (x : Nat) (r : Reply) (reused : Bool)
  /-- A lease or a message failed. -/
  | failed (x : Nat) (f : Failure)
  /-- An exchange broke down over a pause whose length is no word. -/
  | overflowed (x : Nat)
  deriving DecidableEq

end ObliviousRelay.Gateway
