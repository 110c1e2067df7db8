/-!
# Slots

A bounded number of slots, each held by at most one holder. Who finds none free waits in a queue,
first come first served, up to a moment of its own; a slot that becomes free passes straight to the
head of the queue.

- `Slots.request`, `Slots.giveBack`, `Slots.withdraw` and `Slots.expire` are all that happens to
  them.
- A wait of no time is refused at once unless a slot is free.
-/

namespace ObliviousRelay.Gateway

/-- Someone in the queue, and the moment at which it gives up. -/
structure Waiter (ι : Type) where
  holder : ι
  expires : Nat
  deriving DecidableEq, Repr

/-- The slots of a pool. -/
structure Slots (ι : Type) where
  size : Nat
  free : Nat
  /-- Who holds a slot, the latest first. -/
  held : List ι
  /-- Who waits, in order of arrival. -/
  waiting : List (Waiter ι)
  deriving DecidableEq, Repr

/-- What a request for a slot comes to. -/
inductive Reception where
  | granted
  | queued
  | refused
  deriving DecidableEq, Repr

namespace Slots

variable {ι : Type} [DecidableEq ι]

/-- All slots free. -/
def ofSize (size : Nat) : Slots ι := ⟨size, size, [], []⟩

/-- The number of slots that are not free. -/
def leased (s : Slots ι) : Nat := s.size - s.free

/-- Asks for a slot, at a moment and with some time to wait. -/
def request (s : Slots ι) (holder : ι) (now wait : Nat) : Slots ι × Reception :=
  if 0 < s.free then ({ s with free := s.free - 1, held := holder :: s.held }, .granted)
  else if wait = 0 then (s, .refused)
  else ({ s with waiting := s.waiting ++ [⟨holder, now + wait⟩] }, .queued)

/-- Gives a slot back. It passes to the head of the queue, which is named. -/
def giveBack (s : Slots ι) (holder : ι) : Slots ι × Option ι :=
  if s.held.contains holder then
    let held := s.held.erase holder
    match s.waiting with
    | [] => ({ s with free := s.free + 1, held }, none)
    | w :: rest => ({ s with held := w.holder :: held, waiting := rest }, some w.holder)
  else (s, none)

/-- Leaves the queue. -/
def withdraw (s : Slots ι) (holder : ι) : Slots ι :=
  { s with waiting := s.waiting.filter (·.holder ≠ holder) }

/-- Those whose wait has ended without a slot. -/
def overdue (s : Slots ι) (now : Nat) : List ι :=
  (s.waiting.filter (·.expires ≤ now)).map (·.holder)

/-- Sends those away whose wait has ended. -/
def expire (s : Slots ι) (now : Nat) : Slots ι :=
  { s with waiting := s.waiting.filter (now < ·.expires) }

end Slots

end ObliviousRelay.Gateway
