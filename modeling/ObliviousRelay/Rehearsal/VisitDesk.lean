import ObliviousRelay.Http.RequestTarget
import ObliviousRelay.Rehearsal.LeaseDesk
import ObliviousRelay.Relay.Startup

/-!
# Rehearsing visits

A whole relay with clients in front of it. A client sends one request on a connection of its own,
and waits for the answer or leaves.

- Each step gives the desk after it, and what it came to.
-/

namespace ObliviousRelay.Rehearsal

/-- A request as a client sends it. -/
structure Sending where
  method : String := "POST"
  target : String := "/gateway/g1"
  contentType : Option String := some "message/ohttp-req"
  /-- More fields, after the content type. -/
  extra : List (String × ByteArray) := []
  body : Option ByteArray := none
  /-- A length to declare in the place of the true one. -/
  declared : Option Nat := none
  chunked : Bool := false

/-- A relay with clients, known by name. -/
structure VisitDesk where
  world : World
  /-- Whether clients can reach the relay. -/
  reachable : Bool := true
  /-- The visits that are going on, each with its number if the client could connect. -/
  visits : List (String × Option Nat) := []
  /-- Visits ever begun. -/
  made : Nat := 0

namespace Sending

/-- A value without blanks at its ends. -/
def trimmed (value : ByteArray) : ByteArray := ⟨(Http.ReplyReader.trimBytes value.toList).toArray⟩

/-- The field of a name and a value, if they are ones. -/
def field? (name : String) (value : ByteArray) : Option Http.Field := do
  let name ← Http.FieldName.ofText? name
  if value.toList.all Http.isValueByte then some ⟨name, trimmed value⟩ else none

/-- The length that is sent along. -/
def length? (s : Sending) : Option Nat :=
  if s.chunked then none else s.declared.or (s.body.map (·.size))

/-- The fields of a request, or the status with which a server refuses them. -/
def fields (s : Sending) : Except Http.Status Http.Fields :=
  let type := s.contentType.toList.map fun t => ("content-type", t.toUTF8)
  let length := s.length?.toList.map fun n => ("content-length", (toString n).toUTF8)
  let coding := if s.chunked then [("transfer-encoding", "chunked".toUTF8)] else []
  let all := [("host", "relay".toUTF8), ("connection", "close".toUTF8)] ++ type ++ s.extra ++
    length ++ coding
  match (all.take Http.maxFields).mapM fun (name, value) => field? name value with
  | none => .error .badRequest
  | some fields => if Http.maxFields < all.length then .error .fieldsTooLarge else .ok fields

/-- Whether a request line can be read: of its parts, the target may at most be too long. -/
def hasLine (s : Sending) : Bool :=
  Http.isMethod s.method &&
    match Http.RequestTarget.path s.target with
    | .error .length => true
    | path => path.isOk

/-- The head of a request as a server reads it, with how the end of the body is told, or the status
with which the server refuses it. -/
def head (s : Sending) : Except Http.Status (Http.RequestHead × Http.Framing) := do
  if !s.hasLine then .error .badRequest
  let fields ← s.fields
  let path ← (Http.RequestTarget.path s.target).mapError fun _ => .targetTooLong
  let (fields, framing) ← Http.Framing.ofRequest fields
  return (⟨s.method, path, fields⟩, framing)

/-- A body of which these bytes arrive. -/
def uploadOf (bytes : ByteArray) (ending : Http.ReplyReader.Ending) : Upload where
  pieces := (if bytes.isEmpty then [] else [.bytes bytes]) ++
    if ending = .broken then [.broken] else []
  completes := ending matches .complete _

/-- The body of a request: what belongs to it of what is sent, and whether that is all of it. A body
that only its fields claim to come in chunks is read as if it did. -/
def upload (s : Sending) (framing : Http.Framing) : Upload :=
  let sent := s.body.getD .empty
  match framing with
  | .length n =>
    uploadOf (sent.extract 0 n) (if sent.size < n then .unfinished else .complete false)
  | _ =>
    if s.chunked then uploadOf sent (.complete false)
    else
      let body := Http.ReplyReader.readBody framing false sent.toList
      uploadOf ⟨body.bytes.toArray⟩ body.ending

end Sending

namespace VisitDesk

/-- Opens a relay to clients, known by an address. -/
def start (c : Config) (certificates : List Gateway.Certificate) (network : Network)
    (script : List Act) (address : String) (reachable : Bool) : Except StartupFault VisitDesk :=
  match Relay.build c certificates with
  | .error fault => .error fault
  | .ok relay =>
    .ok { reachable, world := {
      relay, script
      network := { network with relayTls := Relay.needsTls relay.engine.registry }
      journal := Relay.buildEntries c certificates ++ [.bound address, .starting address] } }

/-- Whether a client can connect. -/
def takesClients (d : VisitDesk) : Bool := d.reachable && !d.world.stopping

/-- The response to a visit. -/
def responseTo? (w : World) (v : Nat) : Option Http.Response := w.responses.lookup v

/-- Whether a visit was broken off. -/
def isBrokenOff (w : World) (v : Nat) : Bool := w.brokenOff.contains v

/-- Whether a visit is over for its client. -/
def isOver (w : World) (v : Nat) : Bool := (responseTo? w v).isSome || isBrokenOff w v

/-- Whether the gateway has received the request of a visit. -/
def isAtGateway (w : World) (v : Nat) : Bool := w.sightings.any (·.exchange = v)

/-- A client connects and sends a request. What is no request is refused at once. -/
def begin (d : VisitDesk) (s : Sending) : VisitDesk × Nat :=
  let v := d.made
  let w := d.world.settle
  let world := match s.head with
    | .ok (head, framing) =>
      { w with uploads := (v, s.upload framing) :: w.uploads }.feed (.arrive v head)
    | .error status =>
      { w with responses := w.responses ++ [(v, ({ status } : Http.Response))] }
  ({ d with world, made := v + 1 }, v)

/-- What has come of a visit that was waited for. -/
def resultFor (w : World) (v : Nat) : StepResult :=
  match responseTo? w v with
  | some r => .response r
  | none => if isBrokenOff w v then .brokenOff else .unanswered

/-- A request and its answer. -/
def request (d : VisitDesk) (s : Sending) : VisitDesk × StepResult :=
  if !d.takesClients then (d, .unconnected)
  else
    let (d, v) := d.begin s
    let world := d.world.runUntil (isOver · v)
    ({ d with world }, resultFor world v)

/-- How long a request is given to come to its place in a queue. -/
def queueingTime : Nat := 15

/-- A request whose answer is not waited for. -/
def startVisit (d : VisitDesk) (id : String) (s : Sending) (queued : Bool) :
    VisitDesk × StepResult :=
  if !d.takesClients then
    ({ d with visits := (id, none) :: d.visits },
      .word (if queued then "queued" else "not at gateway"))
  else
    let (d, v) := d.begin s
    let d := { d with visits := (id, some v) :: d.visits }
    if queued then ({ d with world := d.world.advance queueingTime }, .word "queued")
    else
      let world := d.world.runUntil fun w => isAtGateway w v || isOver w v
      ({ d with world }, .word (if isAtGateway world v then "at gateway" else "not at gateway"))

/-- How long a relay is given to tidy up after an answer. -/
def tidyingTime : Nat := 10

/-- The visit of a name that is going on. -/
def visit? (d : VisitDesk) (id : String) : Option (Option Nat) := d.visits.lookup id

/-- The desk without the visit of a name. -/
def without (d : VisitDesk) (id : String) : VisitDesk :=
  { d with visits := d.visits.eraseP (·.1 = id) }

/-- The answer to a request that was started. -/
def await (d : VisitDesk) (id : String) (visit : Option Nat) : VisitDesk × StepResult :=
  let d := d.without id
  match visit with
  | none => ({ d with world := d.world.advance tidyingTime }, .unconnected)
  | some v =>
    let world := (d.world.runUntil (isOver · v)).advance tidyingTime
    ({ d with world }, resultFor world v)

/-- How long a relay is given to notice that a client in its queue has left. -/
def leavingTime : Nat := 30

/-- Whether no slot of any pool is held. -/
def nothingLeased (w : World) : Bool := w.relay.client.stats.all (·.2.leased = 0)

/-- A client leaves. -/
def abort (d : VisitDesk) (id : String) (visit : Option Nat) (queued : Bool) :
    VisitDesk × StepResult :=
  let w := match visit with
    | some v => d.world.settle.feed (.leave v)
    | none => d.world
  let world := if queued then w.advance leavingTime else w.settle.runUntil nothingLeased
  ({ d.without id with world }, .word "aborted")

/-- How long a relay is given to end. -/
def stoppingTime : Nat := 20

/-- The signal to stop. -/
def shutdown (d : VisitDesk) : VisitDesk × StepResult :=
  let w := if d.world.stopping then d.world else { d.world with stopping := true }.note .stopping
  let world := w.advance stoppingTime
  ({ d with world }, .stopped world.stopped)

/-- Waits for the relay to end. -/
def join (d : VisitDesk) : VisitDesk × StepResult :=
  let world := d.world.runUntil (·.stopped)
  ({ d with world }, .stopped world.stopped)

end VisitDesk

end ObliviousRelay.Rehearsal
