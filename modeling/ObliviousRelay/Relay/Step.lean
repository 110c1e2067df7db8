import ObliviousRelay.Relay.Basic

/-!
# What happens to a relay

Events come from clients, from the clock, and through the stations from gateways. The relay goes on
by itself where it can: a lease that was obtained is sent on, a lease that was used is given back,
the answer goes out, and the next visit gets its turn.

- `Relay.step` is the effect of one event.
- A visit whose request reached the relay's handler and was answered by it is counted once; no
  other visit is counted.
-/

namespace ObliviousRelay

/-- Something that happens to a relay. -/
inductive RelayEvent where
  /-- The head of a request arrives. -/
  | arrive (v : Nat) (head : Http.RequestHead)
  /-- A piece of a request's body arrives. -/
  | piece (v : Nat) (p : Http.Piece)
  /-- A request's body is complete. -/
  | uploaded (v : Nat)
  /-- The client is gone. -/
  | leave (v : Nat)
  /-- The clock has reached the moment at which a visit is late, if it has. -/
  | late (v : Nat)
  /-- Something happens at a gateway's station. -/
  | station (gateway : String) (e : Gateway.Event)
  /-- Time passes. -/
  | elapse (duration : Nat)
  deriving DecidableEq

/-- Something that an event brings about. -/
inductive RelayEffect where
  /-- The body of a request is being read. -/
  | receiving (v : Nat)
  /-- A request is answered. -/
  | answered (v : Nat) (r : Http.Response)
  /-- A request is broken off without an answer. -/
  | brokenOff (v : Nat)
  /-- Something is brought about at a gateway's station. -/
  | station (gateway : String) (e : Gateway.Effect)
  deriving DecidableEq

namespace Relay

/-- A relay and what led to it brought about. -/
abbrev Outcome := Relay × List RelayEffect

/-- Goes on after some effects. -/
def Outcome.andThen (o : Outcome) (next : Relay → Outcome) : Outcome :=
  let (r, effects) := next o.1
  (r, o.2 ++ effects)

/-- Goes on for each of several things in turn. -/
def forAll (r : Relay) (xs : List α) (next : Relay → α → Outcome) : Outcome :=
  xs.foldl (fun o x => o.andThen (next · x)) (r, [])

/-! ## Answers and turns -/

/-- Answers a visit without counting it. -/
def reply (r : Relay) (v : Visit) (response : Http.Response) : Outcome :=
  (r.erase v.id, [.answered v.id (response.forMethod v.method)])

/-- Answers a visit that reached the handler, and counts it. -/
def conclude (r : Relay) (v : Visit) (result : Except Failure Message) : Outcome :=
  { r with metrics := r.metrics.countExchange (Metrics.outcomeOf result) }.reply v
    (.ofAnswer (.ofResult result))

/-- The turn of a visit has come: it is answered at once, or its body is read. -/
def start (r : Relay) (v : Visit) (head : Http.RequestHead) : Outcome :=
  match r.routes.find? head.method head.path with
  | none => r.reply v (.unrouted head.method)
  | some .health => r.reply v (.probe head.method r.engine.registry.size)
  | some .relay =>
    match Http.Inbound.screen r.route head with
    | .error f => r.conclude v (.error f)
    | .ok a =>
      (r.setPhase v.id (.uploading (r.now + r.inboundTimeout) a []), [.receiving v.id])

/-- Gives a waiting visit its turn if one more may run. -/
def startIfFree (r : Relay) (v : Visit) : Outcome :=
  match v.phase with
  | .waiting head => if r.running < r.maxInflight then r.start v head else (r, [])
  | _ => (r, [])

/-- Gives waiting visits their turns, in order of arrival. -/
def startWaiting (r : Relay) : Outcome := r.forAll r.visits startIfFree

/-! ## Stations -/

/-- Lets something happen at a station, without going on. -/
def atStation (r : Relay) (gateway : String) (e : Gateway.Event) : Outcome :=
  let (client, effects) := r.client.step gateway e
  ({ r with client, metrics := effects.foldl (·.observe gateway ·) r.metrics },
    effects.map (.station gateway))

/-- Ends the exchange of a visit: the lease is given back and the visit answered. -/
def conclusion (r : Relay) (gateway : String) (v : Visit) (result : Except Failure Message) :
    Outcome :=
  ((r.atStation gateway (.release v.id)).andThen (·.conclude v result)).andThen startWaiting

/-- Breaks a visit off whose exchange broke down. -/
def breakOff (r : Relay) (v : Visit) : Outcome :=
  Outcome.andThen (r.erase v.id, [.brokenOff v.id]) startWaiting

/-- Goes on after something was brought about at a station: a lease is used, a reply judged, a
failure passed on. -/
def follow (r : Relay) (gateway : String) (e : Gateway.Effect) : Outcome :=
  match e with
  | .leased x _ => match (r.visit? x).map Visit.phase with
    | some (.exchanging _ _ m) => r.atStation gateway (.send x (.ofMessage m))
    | _ => (r, [])
  | .replied x reply _ => match r.visit? x with
    | some v => r.conclusion gateway v (r.engine.interpret reply)
    | none => (r, [])
  | .failed x f => match r.visit? x with
    | some v => r.conclusion gateway v (.error f)
    | none => (r, [])
  | .overflowed x => match r.visit? x with
    | some v => r.breakOff v
    | none => (r, [])
  | _ => (r, [])

/-- Lets something happen at a station, and goes on. -/
def station (r : Relay) (gateway : String) (e : Gateway.Event) : Outcome :=
  let effects := (r.client.step gateway e).2
  (r.atStation gateway e).andThen (·.forAll effects fun r e => r.follow gateway e)

/-! ## Visits -/

/-- A visit has been uploaded: it becomes an exchange, if its message passes. -/
def exchange (r : Relay) (v : Visit) (due : Nat) (a : Http.Admission) (body : Http.Body) : Outcome :=
  let prepared := do
    let i ← Http.Inbound.receive r.route a body
    return (i.message, ← r.engine.prepare i.selector i.message)
  match prepared with
  | .error f => (r.conclude v (.error f)).andThen startWaiting
  | .ok (m, t) => match r.client.stationFor t with
    | .error f => (r.conclude v (.error f)).andThen startWaiting
    | .ok _ => (r.setPhase v.id (.exchanging due t.name m)).station t.name
        (.request v.id t.requestTimeout)

/-- Ends a visit that was not answered by the handler, with its exchange. -/
def abandon (r : Relay) (v : Visit) : Outcome :=
  match v.phase with
  -- Nothing goes on after a drop, so the relay does not follow it.
  | .exchanging _ gateway _ => (r.erase v.id).atStation gateway (.drop v.id)
  | _ => (r.erase v.id, [])

/-- More of a visit's body has come. A body that cannot become a message any more is refused before
its end. -/
def receivePiece (r : Relay) (v : Visit) (due : Nat) (a : Http.Admission) (body : Http.Body) :
    Outcome :=
  match body.collect r.route.maxBodySize with
  | none => (r.conclude v (.error (.malformedMessage .tooLarge))).andThen startWaiting
  | some _ => (r.setPhase v.id (.uploading due a body), [])

/-- Whether time may pass up to a moment. -/
def mayElapse (r : Relay) (moment : Nat) : Bool :=
  r.client.mayElapse moment && r.visits.all fun v => match v.due? with
    | some due => moment ≤ due
    | none => true

/-- The effect of one event. -/
def step (r : Relay) : RelayEvent → Outcome
  | .arrive v head =>
    if (r.visit? v).isSome then (r, [])
    else
      let visit : Visit := ⟨v, head.method, .waiting head⟩
      { r with visits := r.visits ++ [visit] }.startWaiting
  | .piece v p => match r.visit? v with
    | some w => match w.phase with
      | .uploading due a body => r.receivePiece w due a (body ++ [p])
      | _ => (r, [])
    | none => (r, [])
  | .uploaded v => match r.visit? v with
    | some w => match w.phase with
      | .uploading due a body => r.exchange w due a body
      | _ => (r, [])
    | none => (r, [])
  | .leave v => match r.visit? v with
    | some w => (r.abandon w).andThen startWaiting
    | none => (r, [])
  | .late v => match r.visit? v with
    | some w =>
      if w.due?.any (· ≤ r.now) then
        ((r.abandon w).andThen fun r =>
          (r, [.answered v (Http.Response.tooLate.forMethod w.method)])).andThen startWaiting
      else (r, [])
    | none => (r, [])
  | .station gateway e => match e with
    | .elapse _ => (r, [])
    | e => r.station gateway e
  | .elapse duration =>
    if r.mayElapse (r.now + duration) then
      ({ r with now := r.now + duration, client := r.client.elapse duration }, [])
    else (r, [])

end Relay

end ObliviousRelay
