import ObliviousRelay.Gateway.Slots

/-!
# A desk for slots

The slots of one pool with a clock and the history of everyone who asked for one: the queue seen
from outside, without connections.

- `SlotDesk.acquire`, `SlotDesk.drop` and `SlotDesk.advance` are the three steps.
-/

namespace ObliviousRelay.Rehearsal

open Gateway (Slots)

/-- What has become of someone who asked for a slot. -/
inductive Standing where
  | waiting
  | held
  /-- The wait ended without a slot. -/
  | overdue
  /-- The slot was given back. -/
  | returned
  /-- The queue was left. -/
  | withdrawn
  deriving DecidableEq, Repr

/-- Slots, a clock, and everyone who asked, in order of arrival. -/
structure SlotDesk where
  slots : Slots String
  /-- How long a request waits. -/
  wait : Nat
  now : Nat := 0
  standings : List (String × Standing) := []
  deriving DecidableEq, Repr

namespace SlotDesk

/-- The standing of someone. -/
def standing? (d : SlotDesk) (id : String) : Option Standing := d.standings.lookup id

/-- Changes the standing of someone. -/
def mark (d : SlotDesk) (id : String) (s : Standing) : SlotDesk :=
  { d with standings := d.standings.map fun (other, t) => (other, if other = id then s else t) }

/-- Asks for a slot; none if the name has been used. -/
def acquire? (d : SlotDesk) (id : String) : Option SlotDesk :=
  if (d.standing? id).isSome then none
  else
    let (slots, reception) := d.slots.request id d.now d.wait
    let standing := match reception with
      | .granted => Standing.held
      | .queued => .waiting
      | .refused => .overdue
    some { d with slots, standings := d.standings ++ [(id, standing)] }

/-- Gives a slot back or leaves the queue; otherwise nothing changes. -/
def drop (d : SlotDesk) (id : String) : SlotDesk :=
  match d.standing? id with
  | some .held =>
    let (slots, next) := d.slots.giveBack id
    let d := { d.mark id .returned with slots }
    match next with
    | some other => d.mark other .held
    | none => d
  | some .waiting => { d.mark id .withdrawn with slots := d.slots.withdraw id }
  | _ => d

/-- Lets time pass. -/
def advance (d : SlotDesk) (duration : Nat) : SlotDesk :=
  let now := d.now + duration
  let d := (d.slots.overdue now).foldl (·.mark · .overdue) d
  { d with now, slots := d.slots.expire now }

end SlotDesk

end ObliviousRelay.Rehearsal
