import ObliviousRelay.Http.ReplyReader
import ObliviousRelay.Rehearsal.Network
import ObliviousRelay.Rehearsal.Script
import ObliviousRelay.Relay.Step

/-!
# The world of a rehearsal

A relay, a network and a gateway that follows a script, with a clock that moves only when nothing
else can. Within one moment things come in this order: what the relay does at once; exchanges whose
moment has come; what the network and the gateway do; visits that are late.

- `World.feed` lets one thing happen to the relay and takes up what it brings about.
- `World.settle` lets everything happen that can happen now, `World.advance` lets time pass, and
  `World.runUntil` waits for something.
- A connection that the gateway has closed is noticed when the relay next waits.
-/

namespace ObliviousRelay.Rehearsal

open Gateway (WireRequest Station)

/-- A connection between the relay and the gateway, as the gateway knows it. -/
structure Line where
  /-- Its place in the order in which the gateway accepted connections. -/
  number : Nat
  gateway : String
  serial : Nat
  /-- Whether the gateway understands what is sent. -/
  understood : Bool
  /-- The exchange whose request the gateway has and has not answered to the end. -/
  exchange : Option Nat := none
  /-- A request that waits for a gate. -/
  held : Option (String × Act × ByteArray) := none
  /-- Whether the reply goes on until the gateway hangs up. -/
  endsByHangingUp : Bool := false
  /-- Whether the gateway neither reads nor writes any more. -/
  stalled : Bool := false
  /-- Whether the gateway has hung up, and the relay has not noticed. -/
  hungUp : Bool := false

/-- A request that the gateway received. -/
structure Sighting where
  line : Nat
  exchange : Nat
  request : WireRequest

/-- What the network or the gateway does next. -/
inductive Pending where
  | event (e : RelayEvent)
  /-- A connection is made for an exchange. -/
  | connection (gateway : String) (x number : Nat) (understood : Bool)
  /-- A request comes to the gateway. -/
  | arrival (line x : Nat) (r : WireRequest)

/-- How a lease or a sending ended. -/
inductive Result where
  | leased (reused : Bool)
  | replied (r : Gateway.Reply) (reused : Bool)
  | failed (f : Failure)
  | overflowed

/-- A body as a client sends it: pieces, and whether the client sends it to its end. -/
structure Upload where
  pieces : Http.Body
  completes : Bool

/-- A relay, a network and a gateway. -/
structure World where
  relay : Relay
  network : Network
  script : List Act
  accepted : Nat := 0
  lines : List Line := []
  sightings : List Sighting := []
  gates : List String := []
  /-- The moments at which the gateway hangs up, with the numbers of lines. -/
  closings : List (Nat × Nat) := []
  /-- The number of the line that is being opened, and whether it is understood. -/
  opening : Nat × Bool := (0, true)
  urgent : List RelayEvent := []
  soon : List Pending := []
  uploads : List (Nat × Upload) := []
  results : List (Nat × Result) := []
  responses : List (Nat × Http.Response) := []
  /-- The visits that were broken off. -/
  brokenOff : List Nat := []
  journal : List Log.Entry := []
  /-- Whether the signal to stop has come, and whether the relay has ended. -/
  stopping : Bool := false
  stopped : Bool := false

namespace World

/-! ## Lines -/

/-- The line of a connection. -/
def lineOf? (w : World) (gateway : String) (serial : Nat) : Option Line :=
  w.lines.find? fun l => l.gateway = gateway && l.serial = serial

/-- The line of a number. -/
def line? (w : World) (number : Nat) : Option Line := w.lines.find? (·.number = number)

/-- Puts a line in the place of the one of its number. -/
def setLine (w : World) (l : Line) : World :=
  { w with lines := w.lines.map fun old => if old.number = l.number then l else old }

/-- Takes lines away. -/
def dropLines (w : World) (gone : Line → Bool) : World :=
  { w with lines := w.lines.filter (!gone ·) }

/-- Adds an entry to the journal. -/
def note (w : World) (e : Log.Entry) : World := { w with journal := w.journal ++ [e] }

/-- Adds what the network or the gateway does next. -/
def later (w : World) (ps : List Pending) : World := { w with soon := w.soon ++ ps }

/-- What the relay learns of a line that the gateway closed: whichever of these fits. -/
def lossOf (l : Line) : List RelayEvent :=
  let events : List Gateway.Event := match l.exchange with
    | some x => [.failed x "connection closed before message completed", .lose l.serial,
        if l.endsByHangingUp then .ended x else .cutOff x "error reading a body from connection"]
    | none => [.lose l.serial]
  events.map (.station l.gateway)

/-! ## What the relay brings about -/

/-- What settles the random part of a pause: it is not zero, unless it has to be. -/
def draw : Nat := 1

/-- An attempt to connect is made. -/
def connect (w : World) (gateway : String) (x : Nat) : World :=
  let refuse (w : World) (f : Gateway.ConnectFault) : World :=
    { w with urgent := w.urgent ++ [.station gateway (.refused x f.message draw)] }
  match w.relay.client.station? gateway with
  | none => w
  | some s =>
    match s.target.dialled? with
    | .error f => refuse w f
    | .ok d =>
      let (network, attempt) := w.network.connect d s.target.isSecure
      let w := { w with network }
      let accepting := { w with accepted := w.accepted + 1 }
      match attempt with
      | .fails f => refuse w f
      | .hangs => w
      | .acceptedThenFails f => accepting.later [.event (.station gateway (.refused x f.message draw))]
      | .acceptedThenHangs => accepting
      | .connects understood => accepting.later [.connection gateway x w.accepted understood]

/-- A request is handed to a connection. -/
def offer (w : World) (gateway : String) (x serial : Nat) (r : WireRequest) : World :=
  match w.lineOf? gateway serial with
  | none => w
  | some l =>
    if l.hungUp then
      w.later [.event (.station gateway (.returned x "operation was canceled"))]
    else if !l.understood then
      w.later [.event (.station gateway (.failed x "connection closed before message completed")),
        .event (.station gateway (.lose serial))]
    else w.later [.arrival l.number x r]

/-- Takes up what happened at a gateway's station. -/
def takeUpStation (w : World) (gateway : String) : Gateway.Effect → World
  | .logged e => w.note e
  | .granted x => { w with urgent := w.urgent ++ [.station gateway (.proceed x)] }
  | .dialling x => w.connect gateway x
  | .opened serial =>
    let l : Line := { number := w.opening.1, gateway, serial, understood := w.opening.2 }
    { w with lines := w.lines ++ [l] }
  | .closed serial => w.dropLines fun l => l.gateway = gateway && l.serial = serial
  | .readying x serial =>
    let lost := match w.relay.client.station? gateway with
      | some s => s.isLost serial
      | none => false
    let e : Gateway.Event := if lost then .unready x "channel closed" else .ready x
    { w with urgent := w.urgent ++ [.station gateway e] }
  | .offered x serial r => w.offer gateway x serial r
  | .leased x reused => { w with results := w.results ++ [(x, .leased reused)] }
  | .replied x r reused => { w with results := w.results ++ [(x, .replied r reused)] }
  | .failed x f => { w with results := w.results ++ [(x, .failed f)] }
  | .overflowed x => { w with results := w.results ++ [(x, .overflowed)] }
  | _ => w

/-- Takes up what the relay brought about. -/
def takeUp (w : World) : RelayEffect → World
  | .station gateway e => w.takeUpStation gateway e
  | .receiving v =>
    match w.uploads.lookup v with
    | some u => w.later (u.pieces.map (fun p => .event (.piece v p)) ++
        if u.completes then [.event (.uploaded v)] else [])
    | none => w
  | .answered v r => { w with responses := w.responses ++ [(v, r)] }
  | .brokenOff v => { w with brokenOff := v :: w.brokenOff }

/-- Lets something happen to the relay. -/
def feed (w : World) (e : RelayEvent) : World :=
  let (relay, effects) := w.relay.step e
  effects.foldl takeUp { w with relay }

/-! ## What the gateway does -/

/-- How long after its reply the gateway hangs up. -/
def closingDelay : Nat := 12

/-- What the relay learns from the bytes of a reply. -/
def replyEvents (l : Line) (x : Nat) (out : Written) : List Gateway.Event :=
  let closed := out.aftermath = .hangsUp
  match Http.ReplyReader.readHead 16 out.bytes.toList with
  | .incomplete => []
  | .fault f => [.failed x f.message, .lose l.serial]
  | .found h =>
    let body := Http.ReplyReader.readBody h.framing closed h.rest
    let piece : List Gateway.Event :=
      if body.bytes.isEmpty then [] else [.received x ⟨body.bytes.toArray⟩]
    [.answered x h.status (h.fields.text? .contentType)] ++ piece ++
      match body.ending with
      | .complete more =>
        (if more || !h.persists || h.framing = .untilClose then [.lose l.serial] else []) ++
          [.ended x]
      | .unfinished => []
      | .broken => [.cutOff x "error reading a body from connection", .lose l.serial]

/-- Whether a reply that was written goes on until the gateway hangs up. -/
def endsByHangingUp (out : Written) : Bool :=
  match Http.ReplyReader.readHead 16 out.bytes.toList with
  | .found h => h.framing = .untilClose
  | _ => false

/-- The gateway writes to a line, and does what comes after it. -/
def write (w : World) (l : Line) (x : Nat) (a : Act) (request : ByteArray) : World :=
  match a.written request with
  | none => w.setLine { l with stalled := true, held := none }
  | some out =>
    let events := replyEvents l x out
    let isOver := events.contains (.ended x)
    let l := { l with
      held := none, exchange := if isOver then none else some x
      endsByHangingUp := endsByHangingUp out
      stalled := out.aftermath = .stalls }
    let w := (w.setLine l).later (events.map fun e => .event (.station l.gateway e))
    let w := if a.closesAfter then
        { w with closings := w.closings ++ [(w.relay.now + closingDelay, l.number)] }
      else w
    if out.aftermath = .hangsUp then w.later ((lossOf l).map .event) else w

/-- The gateway receives a request. -/
def arrive (w : World) (number x : Nat) (r : WireRequest) : World :=
  match w.line? number with
  | none => w
  | some l =>
    if l.stalled then w.setLine { l with exchange := some x }
    else
      let a := Act.ofScript w.script w.sightings.length
      let sighting : Sighting := ⟨number, x, r⟩
      let w := { w with sightings := w.sightings ++ [sighting] }
      let l := { l with exchange := some x }
      match a.gate with
      | some gate =>
        if w.gates.contains gate then w.write l x a r.body
        else w.setLine { l with held := some (gate, a, r.body) }
      | none => w.write l x a r.body

/-- A gate is opened; the requests that wait for it are answered. -/
def openGate (w : World) (gate : String) : World :=
  let w := { w with gates := gate :: w.gates }
  w.lines.foldl (fun w l => match l.held, l.exchange with
    | some (g, a, request), some x => if g = gate then w.write l x a request else w
    | _, _ => w) w

/-- The gateway hangs up on all lines. -/
def hangUp (w : World) : World :=
  { w with lines := w.lines.map fun l => { l with hungUp := true } }

/-- The relay notices the lines on which the gateway has hung up. -/
def notice (w : World) : World :=
  let gone := w.lines.filter (·.hungUp)
  (w.dropLines (·.hungUp)).later (gone.flatMap fun l => (lossOf l).map .event)

/-- The gateway hangs up on the lines whose time has come. -/
def closeDue (w : World) : World :=
  let due := (w.closings.filter (·.1 ≤ w.relay.now)).map (·.2)
  { w with
    closings := w.closings.filter (w.relay.now < ·.1)
    lines := w.lines.map fun l => if due.contains l.number then { l with hungUp := true } else l }

/-- Lets the network or the gateway do something. -/
def perform (w : World) : Pending → World
  | .event e => w.feed e
  | .connection gateway x number understood =>
    { w with opening := (number, understood) }.feed (.station gateway (.connected x))
  | .arrival line x r => w.arrive line x r

/-! ## Time -/

/-- The moments of exchanges at a station. -/
def momentsAt (s : Station) : List (Nat × String × Nat) :=
  s.exchanges.filterMap fun e => (s.timer? e).map fun m => (m, s.target.name, e.id)

/-- The moments of all exchanges. -/
def moments (w : World) : List (Nat × String × Nat) := w.relay.client.stations.flatMap momentsAt

/-- The exchange whose moment came first, if one has come. -/
def due? (w : World) : Option (String × Nat) :=
  let due := (w.moments.filter (·.1 ≤ w.relay.now)).mergeSort fun a b => a.1 ≤ b.1
  due.head?.map (·.2)

/-- A visit that is late. -/
def late? (w : World) : Option Nat :=
  (w.relay.visits.find? fun v => v.due?.any (· ≤ w.relay.now)).map (·.id)

/-- The next moment after now at which something happens by itself. -/
def nextMoment? (w : World) : Option Nat :=
  let all := w.moments.map (·.1) ++ w.relay.visits.filterMap (·.due?) ++ w.closings.map (·.1)
  (all.filter (w.relay.now < ·)).min?

/-- The next thing that happens at this moment; none if nothing is left, or if what is waited for
has come before anyone had to wait. -/
def next? (stop : World → Bool) (w : World) : Option World :=
  match w.urgent with
  | e :: rest => some ({ w with urgent := rest }.feed e)
  | [] => match w.due? with
    | some (gateway, x) => some (w.feed (.station gateway (.expire x draw)))
    | none =>
      if stop w then none
      else if w.closings.any (·.1 ≤ w.relay.now) then some w.closeDue
      else if w.lines.any (·.hungUp) then some w.notice
      else match w.soon with
        | p :: rest => some ({ w with soon := rest }.perform p)
        | [] => match w.late? with
          | some v => some (w.feed (.late v))
          | none =>
            if w.stopping && !w.stopped && w.relay.visits.isEmpty then
              some ({ w with stopped := true }.note .stopped)
            else none

/-- The rounds that a rehearsal may take before it is given up. -/
def patience : Nat := 1000000

/-- Lets everything happen that can happen at this moment. -/
def settleWithin (stop : World → Bool) : Nat → World → World
  | 0, w => w
  | n + 1, w => match w.next? stop with
    | some w => settleWithin stop n w
    | none => w

/-- Lets everything happen that can happen at this moment. -/
def settle (w : World) : World := settleWithin (fun _ => false) patience w

/-- Lets time pass up to a moment. -/
def elapseTo (w : World) (moment : Nat) : World := w.feed (.elapse (moment - w.relay.now))

/-- Lets things happen and time pass until something has come; `bound` is as far as time goes. -/
def runWithin (stop : World → Bool) (bound : Option Nat) : Nat → World → World
  | 0, w => w
  | n + 1, w =>
    let w := settleWithin stop patience w
    if stop w then w
    else
      let next := match w.nextMoment?, bound with
        | some m, some b => some (min m b)
        | some m, none => some m
        | none, b => b
      match next with
      | none => w
      | some m => if m ≤ w.relay.now then w else runWithin stop bound n (w.elapseTo m)

/-- Waits for something. -/
def runUntil (w : World) (stop : World → Bool) : World := runWithin stop none patience w

/-- Lets time pass. -/
def advance (w : World) (duration : Nat) : World :=
  runWithin (fun _ => false) (some (w.relay.now + duration)) patience w

end World

end ObliviousRelay.Rehearsal
