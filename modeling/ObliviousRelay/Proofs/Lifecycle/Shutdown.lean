import ObliviousRelay.Lifecycle.Shutdown
import ObliviousRelay.Proofs.Lookup

/-!
# What lies before a listener

How many signals a listener has not read: none when it begins, one more for each signal that is
sent, whoever sends it, and the same whatever others do with the line.

- `Shutdown.Unread` is this number; there is one lemma for each thing that is done with a line.
- `Shutdown.receive?_of_unread`: what the listener reads, told by the number alone.
-/

namespace ObliviousRelay.Lifecycle

/-- What is read by a listener before whom so many signals lie, while there are handles. -/
def Reading.ofUnread : Nat → Reading
  | 0 => .empty
  | 1 => .signal
  | missed + 2 => .lagged (missed + 1)

theorem Reading.wakes_ofUnread {n : Nat} : (ofUnread n).wakes = true ↔ 0 < n := by
  rcases n with - | - | n <;> simp [ofUnread, wakes]

namespace Shutdown

variable {line next : Shutdown} {id other : String} {n handle : Nat} {r : Reading}

/-- So many signals lie before a listener. -/
def Unread (line : Shutdown) (id : String) (n : Nat) : Prop :=
  ∃ seen, line.listeners.lookup id = some seen ∧ line.sent = seen + n

/-! ## What changes the number -/

/-- Nothing lies before a listener when it begins. -/
theorem unread_subscribe (line : Shutdown) (id : String) : (line.subscribe id).Unread id 0 := by
  refine ⟨line.sent, ?_, rfl⟩
  have hgone : (line.drop id).listeners.lookup id = none :=
    (lookup_filter_ne line.listeners id id).trans (if_pos rfl)
  rw [subscribe, List.lookup_append, hgone, List.lookup_cons_self]
  rfl

/-- A signal that is sent while somebody listens lies before all who listen. -/
theorem Unread.trigger (h : line.Unread id n) : line.trigger.Unread id (n + 1) := by
  obtain ⟨seen, hlookup, hsent⟩ := h
  -- The listener itself is one of those for whom the signal is sent.
  have hsome : line.listeners.isEmpty = false := by
    cases hlisteners : line.listeners with
    | nil => rw [hlisteners] at hlookup; cases hlookup
    | cons => rfl
  rw [Shutdown.trigger, hsome, if_neg Bool.false_ne_true]
  exact ⟨seen, hlookup, by rw [hsent, Nat.add_assoc]⟩

/-! ## What does not -/

theorem Unread.clone (h : line.Unread id n) : line.clone.1.Unread id n := h

theorem Unread.dropHandle (h : line.Unread id n) : (line.dropHandle handle).Unread id n := h

theorem Unread.drop (h : line.Unread id n) (hne : id ≠ other) : (line.drop other).Unread id n := by
  obtain ⟨seen, hlookup, hsent⟩ := h
  exact ⟨seen, (lookup_filter_ne line.listeners other id).trans ((if_neg hne).trans hlookup), hsent⟩

theorem Unread.subscribe (h : line.Unread id n) (hne : id ≠ other) :
    (line.subscribe other).Unread id n := by
  obtain ⟨seen, hlookup, hsent⟩ := h.drop hne
  refine ⟨seen, ?_, hsent⟩
  rw [Shutdown.subscribe, List.lookup_append, hlookup]
  rfl

/-! ## Reading -/

/-- What a listener reads moves only what lies before itself. -/
theorem receive?_eq_some (h : line.receive? id = some (next, r)) : ∃ seen now,
    line.listeners.lookup id = some seen ∧ line.reading seen = (r, now) ∧
      next = { line with
        listeners := line.listeners.map fun l => if l.1 = id then (id, now) else l } := by
  obtain ⟨seen, hlookup, heq⟩ := Option.map_eq_some_iff.mp h
  obtain ⟨hnext, hr⟩ := Prod.mk.inj heq
  exact ⟨seen, (line.reading seen).2, hlookup, Prod.ext hr rfl, hnext.symm⟩

theorem Unread.receive (h : line.Unread id n) (hne : id ≠ other)
    (hreceive : line.receive? other = some (next, r)) : next.Unread id n := by
  obtain ⟨seen, hlookup, hsent⟩ := h
  obtain ⟨-, now, -, -, rfl⟩ := receive?_eq_some hreceive
  exact ⟨seen, (lookup_map_of_key line.listeners other id now).trans
    ((if_neg hne).trans hlookup), hsent⟩

theorem reading_of_unread {seen : Nat} (hsent : line.sent = seen + n)
    (hhandle : handle ∈ line.handles) :
    (line.reading seen).1 = .ofUnread n ∧ (n = 0 → (line.reading seen).2 = seen) := by
  -- While there is a handle, nothing unread means empty and not closed.
  have hsome : line.handles.isEmpty = false := by
    cases hhandles : line.handles with
    | nil => rw [hhandles] at hhandle; cases hhandle
    | cons => rfl
  have hunread : line.sent - seen = n := by omega
  rcases n with - | - | n <;> simp [reading, hunread, hsome, capacity, Reading.ofUnread]

/-- **What a listener reads** is told by the number of signals before it: nothing, the signal, or
how many it missed. An empty reading leaves nothing before it. -/
theorem receive?_of_unread (h : line.Unread id n) (hhandle : handle ∈ line.handles) :
    ∃ next, line.receive? id = some (next, .ofUnread n) ∧ next.handles = line.handles ∧
      next.made = line.made ∧ (n = 0 → next.Unread id 0) := by
  obtain ⟨seen, hlookup, hsent⟩ := h
  obtain ⟨hreading, hsame⟩ := reading_of_unread hsent hhandle
  refine ⟨{ line with listeners := line.listeners.map fun l =>
    if l.1 = id then (id, (line.reading seen).2) else l }, ?_, rfl, rfl, ?_⟩
  · -- What it reads is set by the number alone.
    rw [receive?, hlookup, Option.map_some, ← hreading]
  · -- With nothing unread its mark stays where it was.
    rintro rfl
    refine ⟨seen, ?_, hsent⟩
    rw [hsame rfl]
    exact (lookup_map_of_key line.listeners id id seen).trans
      ((if_pos rfl).trans (by rw [hlookup]; rfl))

end Shutdown

end ObliviousRelay.Lifecycle
