import ObliviousRelay.Gateway.Event
import ObliviousRelay.Gateway.Phase

/-!
# The exchanges with one gateway

A station is one gateway's pool with all exchanges that use it. It moves by events; an event that
does not fit what it speaks of changes nothing. Time does not pass an exchange's moment before that
exchange was told.

- `Station.step` is the effect of one event.
- A request is offered on at most two connections, the second made after the first gave the request
  back unsent.
- A slot is given back after its connection was put aside or closed.
-/

namespace ObliviousRelay.Gateway

open Timing (Deadline Expired)

/-- The bounds that all gateways share. -/
structure Policy where
  connectTimeout : Nat
  idleTimeout : Nat
  maxResponseSize : Nat
  retry : Timing.Retry
  deriving DecidableEq, Repr

/-- The policy of a configuration. -/
def Policy.ofConfig (c : Config) : Policy where
  connectTimeout := c.timeouts.connectMs.toNat
  idleTimeout := c.timeouts.idleMs.toNat
  maxResponseSize := c.limits.maxResponseSize.toNat
  retry := .ofConfig c.retries

/-- One gateway's pool and the exchanges that use it. -/
structure Station where
  target : Target
  policy : Policy
  pool : Pool
  now : Nat := 0
  /-- The connections that the gateway is known to have closed. -/
  lost : List Nat := []
  exchanges : List Exchange := []
  deriving DecidableEq

namespace Station

/-- A station without exchanges. -/
def ofTarget (target : Target) (policy : Policy) : Station :=
  { target, policy, pool := .ofSize target.poolSize }

/-- A station and what led to it brought about. -/
abbrev Outcome := Station × List Effect

/-- Goes on after some effects. -/
def Outcome.andThen (o : Outcome) (next : Station → Outcome) : Outcome :=
  let (s, effects) := next o.1
  (s, o.2 ++ effects)

/-! ## Exchanges and their phases -/

/-- The phase of an exchange. -/
def phase? (s : Station) (x : Nat) : Option Phase :=
  (s.exchanges.find? (·.id = x)).map (·.phase)

/-- Moves an exchange to a phase. -/
def setPhase (s : Station) (x : Nat) (p : Phase) : Station :=
  { s with exchanges := s.exchanges.map fun e => if e.id = x then ⟨x, p⟩ else e }

/-- Adds an exchange. -/
def insert (s : Station) (x : Nat) (p : Phase) : Station :=
  { s with exchanges := s.exchanges ++ [⟨x, p⟩] }

/-- Takes an exchange away. -/
def erase (s : Station) (x : Nat) : Station :=
  { s with exchanges := s.exchanges.filter (·.id ≠ x) }

/-- Whether the gateway is known to have closed a connection. -/
def isLost (s : Station) (serial : Nat) : Bool := s.lost.contains serial

/-! ## Connections and slots -/

/-- Closes a connection. -/
def close (s : Station) (c : Connection) : Outcome :=
  ({ s with pool := { s.pool with openCount := s.pool.openCount - 1 } }, [.closed c.serial])

/-- Closes several connections. -/
def closeAll (s : Station) (cs : List Connection) : Outcome :=
  cs.foldl (fun o c => o.andThen (·.close c)) (s, [])

/-- Closes the connection that an exchange owns, if it owns one. -/
def closeOwn (s : Station) (p : Phase) : Outcome := s.closeAll p.connection?.toList

/-- Puts a connection aside, unless it is closed already. -/
def putAside (s : Station) (c : Connection) : Outcome :=
  if s.isLost c.serial then s.close c
  else ({ s with pool := { s.pool with idle := { c with idleSince := s.now } :: s.pool.idle } },
    [.pooled c.serial])

/-- Counts a new connection. -/
def opened (s : Station) : Connection × Outcome :=
  let c : Connection := ⟨s.pool.created, s.target.endpoint, s.now⟩
  (c, { s with pool := { s.pool with
          created := s.pool.created + 1, openCount := s.pool.openCount + 1 } },
    [.logged (.connected s.target.name), .opened c.serial, .attempted .ok])

/-- Gives the exchange at the head of the queue the slot that became free. -/
def grant (s : Station) (x : Nat) : Outcome :=
  match s.phase? x with
  | some (.queued timeout) => (s.setPhase x (.granted timeout), [.granted x])
  | _ => (s, [])

/-- Gives a slot back. -/
def freeSlot (s : Station) (x : Nat) : Outcome :=
  let (slots, next) := s.pool.slots.giveBack x
  Outcome.andThen ({ s with pool := { s.pool with slots } }, [.freed x]) fun s =>
    -- Who has waited longest takes it over at once.
    match next with
    | some y => s.grant y
    | none => (s, [])

/-- Ends an exchange that holds a slot. -/
def finish (s : Station) (x : Nat) : Outcome := (s.erase x).freeSlot x

/-- Ends a sending with a failure. The lease has lost its connection. -/
def spend (s : Station) (x : Nat) (f : Failure) : Outcome := (s.setPhase x .spent, [.failed x f])

/-! ## Making connections -/

/-- Begins an attempt to connect. -/
def dial (s : Station) (x : Nat) (d : Deadline) (purpose : Purpose) (attempt : Nat) : Outcome :=
  let (bound, stops) := d.cap s.now s.policy.connectTimeout
  (s.setPhase x (.dialling d purpose ⟨attempt, .connecting bound stops⟩), [.dialling x])

/-- Gives up making a connection. A lease that was only asked for ends. -/
def giveUp (s : Station) (x : Nat) (purpose : Purpose) (f : Failure) : Outcome :=
  match purpose with
  | .lease => (s.finish x).andThen fun s => (s, [.failed x f])
  | _ => s.spend x f

/-- Ends an exchange that makes a connection and cannot go on. -/
def breakDown (s : Station) (x : Nat) : Outcome :=
  (s.finish x).andThen fun s => (s, [.overflowed x])

/-- What follows a failed attempt: a pause and another one, or the end. -/
def attemptFailed (s : Station) (x : Nat) (d : Deadline) (purpose : Purpose) (attempt : Nat)
    (error : String) (draw : Nat) : Outcome :=
  match s.policy.retry.nextDelay attempt with
  | some delay =>
    match Timing.Backoff.withDraw? delay draw with
    | some length =>
      let pause := d.run s.now (some length)
      let inTime := pause.result matches .ok ()
      (s.setPhase x (.dialling d purpose ⟨attempt, .pausing pause.moment inTime⟩),
        [.attempted .error, .logged (.retrying s.target.name attempt error)])
    -- The delay and its random part make no word together.
    | none => Outcome.andThen (s, [.attempted .error]) (·.breakDown x)
  -- It was the last attempt.
  | none =>
    Outcome.andThen
      (s, [.attempted .error, .logged (.unreachable s.target.name attempt error)])
      (·.giveUp x purpose (.gatewayUnreachable error))

/-! ## Sending -/

/-- Hands a request to a connection. -/
def handOver (s : Station) (x : Nat) (c : Connection) (t : Terms) (r : WireRequest)
    (again : Bool) : Outcome :=
  (s.setPhase x (.offering c t r again), [.offered x c.serial r])

/-- Offers a message on a connection that takes it. A message that no request can carry leaves the
lease as it is. -/
def offer (s : Station) (x : Nat) (c : Connection) (t : Terms) (o : Outbound) : Outcome :=
  match wireRequest s.target o with
  | .error f => (s.setPhase x (.held c t), [.failed x f])
  | .ok r => s.handOver x c t r false

/-- Ends a sending with a failure and closes the connection. -/
def discard (s : Station) (x : Nat) (c : Connection) (f : Failure) : Outcome :=
  (s.close c).andThen (·.spend x f)

/-- Closes the connection of a lease and makes another one under the same deadline. -/
def redial (s : Station) (x : Nat) (c : Connection) (t : Terms) (purpose : Purpose)
    (e : Log.Entry) : Outcome :=
  Outcome.andThen (s, [.logged e]) fun s => (s.close c).andThen (·.dial x t.deadline purpose 1)

/-! ## Events -/

/-- Asks for a lease. -/
def request (s : Station) (x timeout : Nat) : Outcome :=
  if (s.phase? x).isSome then (s, [])
  else
    let (slots, reception) := s.pool.slots.request x s.now s.target.queueWait
    let s := { s with pool := { s.pool with slots } }
    match reception with
    | .granted => (s.insert x (.granted timeout), [.granted x])
    | .queued => (s.insert x (.queued timeout), [])
    | .refused => (s, [.logged (.poolExhausted s.target.name), .failed x .gatewayBusy])

/-- An exchange with a slot takes a connection from the pool, or makes one. Its deadline starts. -/
def proceed (s : Station) (x timeout : Nat) : Outcome :=
  let d := Deadline.after s.now timeout
  let search := Pool.search s.isLost s.policy.idleTimeout s.now s.pool.idle
  let s := { s with pool := { s.pool with idle := search.left } }
  (s.closeAll search.dropped).andThen fun s =>
    match search.found with
    | some c => (s.setPhase x (.held c ⟨d, true, false⟩), [.leased x true])
    | none => s.dial x d .lease 1

/-- A connection has been made. -/
def connected (s : Station) (x : Nat) (d : Deadline) (purpose : Purpose) : Outcome :=
  let (c, o) := s.opened
  let t : Terms := ⟨d, false, false⟩
  o.andThen fun s =>
    match purpose with
    | .lease => (s.setPhase x (.held c t), [.leased x false])
    | .offer o => s.offer x c t o
    | .offerAgain r => s.handOver x c t r true

/-- The connection is closed before the message was offered. -/
def unready (s : Station) (x : Nat) (c : Connection) (t : Terms) (o : Outbound)
    (error : String) : Outcome :=
  if t.reused then s.redial x c t (.offer o) (.stale error)
  else s.discard x c (.gatewayUnreachable error)

/-- The request has come back unsent. -/
def returned (s : Station) (x : Nat) (c : Connection) (t : Terms) (r : WireRequest)
    (again : Bool) (error : String) : Outcome :=
  if again then s.discard x c (.gatewayUnreachable error)
  else s.redial x c t (.offerAgain r) (.closedBeforeSend error)

/-- More of the reply's body has come. -/
def received (s : Station) (x : Nat) (c : Connection) (t : Terms) (status : Http.Status)
    (contentType : Option String) (body piece : ByteArray) : Outcome :=
  if s.policy.maxResponseSize < body.size + piece.size then
    s.discard x c (.gatewayError "length limit exceeded")
  else (s.setPhase x (.reading c t status contentType (body ++ piece)), [])

/-- The reply is complete. -/
def ended (s : Station) (x : Nat) (c : Connection) (t : Terms) (r : Reply) : Outcome :=
  (s.setPhase x (.held c { t with reusable := true }), [.replied x r t.reused])

/-- A lease is given back with its connection. -/
def release (s : Station) (x : Nat) (c : Connection) (t : Terms) : Outcome :=
  (if t.reusable then s.putAside c else s.close c).andThen (·.finish x)

/-- An exchange is given up. -/
def drop (s : Station) (x : Nat) (p : Phase) : Outcome :=
  match p with
  -- Who still waits holds no slot that would be given back.
  | .queued _ =>
    ({ s.erase x with pool := { s.pool with slots := s.pool.slots.withdraw x } }, [])
  | p => (s.closeOwn p).andThen (·.finish x)

/-- A wait for a slot has ended. -/
def overdue (s : Station) (x : Nat) : Outcome :=
  ({ s.erase x with pool := { s.pool with slots := s.pool.slots.withdraw x } },
    [.logged (.poolExhausted s.target.name), .failed x .gatewayBusy])

/-- The moment of an exchange: of one in the queue, of one in any other phase. -/
def timer? (s : Station) (e : Exchange) : Option Nat :=
  match e.phase with
  | .queued _ => (s.pool.slots.waiting.find? (·.holder = e.id)).map (·.expires)
  | p => p.timer?

/-- The moment of an exchange has come. -/
def expire (s : Station) (x : Nat) (p : Phase) (draw : Nat) : Outcome :=
  match p with
  | .queued _ => s.overdue x
  -- An attempt has a limit of its own; where that comes before the deadline, another may follow.
  | .dialling d purpose ⟨attempt, .connecting _ .limit⟩ =>
    s.attemptFailed x d purpose attempt "connect timed out" draw
  | .dialling _ purpose ⟨_, .connecting _ .deadline⟩ =>
    Outcome.andThen (s, [.attempted .timeout]) (·.giveUp x purpose .gatewayTimeout)
  -- A pause that ends within the deadline is followed by another attempt.
  | .dialling d purpose ⟨attempt, .pausing _ true⟩ => s.dial x d purpose (attempt + 1)
  | .dialling _ purpose ⟨_, .pausing _ false⟩ => s.giveUp x purpose .gatewayTimeout
  | p => match p.connection? with
    | some c => s.discard x c .gatewayTimeout
    | none => (s, [])

/-- Whether the moment of an exchange has come. -/
def isDue (s : Station) (e : Exchange) : Bool :=
  match s.timer? e with
  | some moment => moment ≤ s.now
  | none => false

/-- Whether time may pass up to a moment: nobody goes on at once, and no exchange's moment lies
before. -/
def mayElapse (s : Station) (moment : Nat) : Bool :=
  s.exchanges.all fun e =>
    match e.phase with
    | .granted _ => false
    | _ => match s.timer? e with
      | some m => moment ≤ m
      | none => true

/-- Whether the deadline of a request that was offered lies behind. Its timer has run out before the
sending is looked at, and stops it then, so whatever the gateway says to it comes too late.

Where nobody is late this is about a request that was offered after its deadline, and no other: time
does not pass the deadline of one that is on its way (`mayElapse`). Of one that is told of its deadline
late, this is the stricter reading. A reply that is there in the meantime might still be taken before
the timer is looked at; here it is not. -/
def isOverdue (s : Station) (p : Phase) : Bool :=
  match p with
  | .offering _ t _ _ => t.deadline.moment < s.now
  | .reading _ t _ _ _ => t.deadline.moment < s.now
  | _ => false

/-- What an event about one exchange does to it in its phase. -/
def act (s : Station) (x : Nat) (p : Phase) : Event → Outcome
  | .proceed _ => match p with
    | .granted timeout => s.proceed x timeout
    | _ => (s, [])
  | .connected _ => match p with
    | .dialling d purpose ⟨_, .connecting _ _⟩ => s.connected x d purpose
    | _ => (s, [])
  | .refused _ error draw => match p with
    | .dialling d purpose ⟨attempt, .connecting _ _⟩ =>
      s.attemptFailed x d purpose attempt error draw
    | _ => (s, [])
  | .send _ o => match p with
    | .held c t => (s.setPhase x (.readying c t o), [.readying x c.serial])
    | .spent => (s, [.failed x (.gatewayUnreachable "lease discarded")])
    | _ => (s, [])
  | .ready _ => match p with
    | .readying c t o => s.offer x c t o
    | _ => (s, [])
  | .unready _ error => match p with
    | .readying c t o => s.unready x c t o error
    | _ => (s, [])
  | .returned _ error => match p with
    | .offering c t r again => s.returned x c t r again error
    | _ => (s, [])
  | .failed _ error => match p with
    | .offering c _ _ _ => s.discard x c (.gatewayUnreachable error)
    | _ => (s, [])
  | .answered _ status contentType => match p with
    | .offering c t _ _ => (s.setPhase x (.reading c t status contentType .empty), [])
    | _ => (s, [])
  | .received _ piece => match p with
    | .reading c t status contentType body => s.received x c t status contentType body piece
    | _ => (s, [])
  | .ended _ => match p with
    | .reading c t status contentType body => s.ended x c t ⟨status, contentType, body⟩
    | _ => (s, [])
  | .cutOff _ error => match p with
    | .reading c _ _ _ _ => s.discard x c (.gatewayError error)
    | _ => (s, [])
  | .release _ => match p with
    | .held c t => s.release x c t
    | .spent => s.finish x
    | _ => (s, [])
  | .drop _ => s.drop x p
  | .expire _ draw => if s.isDue ⟨x, p⟩ then s.expire x p draw else (s, [])
  | _ => (s, [])

/-- The exchange that an event speaks of. -/
def subject? : Event → Option Nat
  | .request _ _ | .lose _ | .elapse _ => none
  | .proceed x | .connected x | .refused x _ _ | .send x _ | .ready x | .unready x _
  | .returned x _ | .failed x _ | .answered x _ _ | .received x _ | .ended x | .cutOff x _
  | .release x | .drop x | .expire x _ => some x

/-- Whether an event is what became of a request that was offered. -/
def isWord : Event → Bool
  | .returned _ _ | .failed _ _ | .answered _ _ _ | .received _ _ | .ended _ | .cutOff _ _ => true
  | _ => false

/-- The effect of one event. A word about a request whose deadline lies behind changes nothing: only
its timer is left to it. -/
def step (s : Station) (e : Event) : Outcome :=
  match e with
  | .request x timeout => s.request x timeout
  | .lose serial => ({ s with lost := serial :: s.lost }, [])
  | .elapse duration =>
    if s.mayElapse (s.now + duration) then ({ s with now := s.now + duration }, []) else (s, [])
  | e => match subject? e with
    | none => (s, [])
    | some x => match s.phase? x with
      | some p => if isWord e && s.isOverdue p then (s, []) else s.act x p e
      | none => (s, [])

end Station

end ObliviousRelay.Gateway
