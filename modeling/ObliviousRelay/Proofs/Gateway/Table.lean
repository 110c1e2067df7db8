import Mathlib.Algebra.GroupWithZero.Nat
import Mathlib.Algebra.Order.BigOperators.Group.List
import Mathlib.Algebra.Order.Group.Nat
import Mathlib.Data.List.Nodup
import ObliviousRelay.Gateway.Station

/-!
# The table of exchanges

A station keeps its exchanges in a list, each known by a number. This module says what the four
operations on that list (`phase?`, `setPhase`, `insert`, `erase`) do to each other, and to anything
that is added up over the exchanges.

- `Station.tally` adds up a measure over all exchanges; every count of the later modules is one.
- `tally_setPhase`, `tally_erase` and `tally_insert` tell how an operation changes a tally. They need
  that no number is taken twice (`Station.HasDistinctIds`).
- `Station.queuedIds` lists who waits for a slot, in order of arrival.
-/

namespace ObliviousRelay.Gateway.Station

variable {s : Station} {x y : Nat} {p q : Phase}

/-! ## What the table is not about -/

@[simp] theorem setPhase_pool : (s.setPhase x q).pool = s.pool := rfl

/-! ## Finding an exchange -/

/-- No number is taken by two exchanges. -/
def HasDistinctIds (s : Station) : Prop := (s.exchanges.map (·.id)).Nodup

/-- Nobody has the number just when no phase is found for it. -/
theorem phase?_eq_none_iff : s.phase? x = none ↔ ∀ e ∈ s.exchanges, e.id ≠ x := by
  simp [phase?]

/-- An exchange that is found stands somewhere in the table, and nobody before it has its number. -/
theorem exists_split (h : s.phase? x = some p) :
    ∃ before after, s.exchanges = before ++ ⟨x, p⟩ :: after ∧ ∀ e ∈ before, e.id ≠ x := by
  obtain ⟨⟨i, r⟩, hfind, rfl⟩ := Option.map_eq_some_iff.mp h
  obtain ⟨hid, before, after, hsplit, hbefore⟩ := List.find?_eq_some_iff_append.mp hfind
  obtain rfl : i = x := by simpa using hid
  exact ⟨before, after, hsplit, fun e he => by simpa using hbefore e he⟩

/-- With distinct numbers, nobody else in the table has the number of an exchange that is found. -/
theorem HasDistinctIds.exists_split (hd : s.HasDistinctIds) (h : s.phase? x = some p) :
    ∃ before after, s.exchanges = before ++ ⟨x, p⟩ :: after ∧
      (∀ e ∈ before, e.id ≠ x) ∧ ∀ e ∈ after, e.id ≠ x := by
  obtain ⟨before, after, hsplit, hbefore⟩ := Station.exists_split h
  refine ⟨before, after, hsplit, hbefore, fun e he heq => ?_⟩
  rw [HasDistinctIds, hsplit, List.map_append, List.map_cons, List.nodup_append] at hd
  -- The number stands where the exchange was found, so it stands nowhere behind.
  have hnotin : x ∉ after.map (·.id) := (List.nodup_cons.mp hd.2.1).1
  exact hnotin (heq ▸ List.mem_map_of_mem he)

/-- Who is found stands in the table. -/
theorem mem_exchanges_of_phase? (h : s.phase? x = some p) : (⟨x, p⟩ : Exchange) ∈ s.exchanges := by
  obtain ⟨before, after, hsplit, -⟩ := exists_split h
  simp [hsplit]

/-- With distinct numbers, whoever stands in the table is found. -/
theorem HasDistinctIds.phase?_of_mem (hd : s.HasDistinctIds)
    (h : (⟨x, p⟩ : Exchange) ∈ s.exchanges) : s.phase? x = some p := by
  cases hfind : s.phase? x with
  | none => exact absurd rfl (phase?_eq_none_iff.mp hfind _ h)
  | some r =>
    obtain ⟨before, after, hsplit, hbefore, hafter⟩ := hd.exists_split hfind
    rw [hsplit, List.mem_append, List.mem_cons] at h
    -- Before the place where it was found, at it, or behind it.
    rcases h with h | h | h
    · exact absurd rfl (hbefore _ h)
    · rw [Exchange.mk.injEq] at h
      rw [h.2]
    · exact absurd rfl (hafter _ h)

/-! ## Looking up after an operation -/

/-- The phase that is set is found. -/
theorem phase?_setPhase_self (h : s.phase? x = some p) : (s.setPhase x q).phase? x = some q := by
  obtain ⟨before, after, hsplit, hbefore⟩ := exists_split h
  -- The setting passes by whoever stands before.
  have hmap : ∀ e ∈ before, (if e.id = x then (⟨x, q⟩ : Exchange) else e).id ≠ x := by
    intro e he
    rw [if_neg (hbefore e he)]
    exact hbefore e he
  simp only [phase?, setPhase, hsplit, List.map_append, List.map_cons, List.find?_append, if_true]
  rw [List.find?_eq_none.mpr (by simpa using hmap)]
  simp

/-- Nobody else's phase is touched. -/
theorem phase?_setPhase_of_ne (h : y ≠ x) : (s.setPhase x q).phase? y = s.phase? y := by
  -- Whoever looks for `y` does not see what becomes of `x`.
  have hid : (fun e : Exchange => decide (e.id = y)) ∘
      (fun e => if e.id = x then (⟨x, q⟩ : Exchange) else e) = fun e => decide (e.id = y) := by
    funext e
    by_cases hx : e.id = x <;> simp [hx]
  simp only [phase?, setPhase, List.find?_map, hid]
  cases hfind : s.exchanges.find? (·.id = y) with
  | none => rfl
  | some e =>
    have hy : e.id = y := by simpa using List.find?_some hfind
    simp [hy, h]

@[simp] theorem phase?_erase_self : (s.erase x).phase? x = none := by
  simp [phase?_eq_none_iff, erase]

theorem phase?_erase_of_ne (h : y ≠ x) : (s.erase x).phase? y = s.phase? y := by
  simp only [phase?, erase, List.find?_filter]
  congr 2
  funext e
  by_cases hy : e.id = y <;> simp [hy, h]

/-- A new exchange is found by its number. -/
theorem phase?_insert_self (h : s.phase? x = none) : (s.insert x p).phase? x = some p := by
  have hfind : s.exchanges.find? (·.id = x) = none := by simpa [phase?] using h
  simp [phase?, insert, List.find?_append, hfind]

theorem phase?_insert_of_ne (h : y ≠ x) : (s.insert x p).phase? y = s.phase? y := by
  simp [phase?, insert, List.find?_append, Ne.symm h]

/-! ## Numbers stay distinct -/

/-- Setting a phase leaves the numbers. -/
theorem map_id_setPhase : (s.setPhase x q).exchanges.map (·.id) = s.exchanges.map (·.id) := by
  simp only [setPhase, List.map_map]
  refine List.map_congr_left (fun e _ => ?_)
  by_cases h : e.id = x <;> simp [h]

theorem HasDistinctIds.setPhase (hd : s.HasDistinctIds) : (s.setPhase x q).HasDistinctIds := by
  rw [HasDistinctIds, map_id_setPhase]
  exact hd

theorem HasDistinctIds.erase (hd : s.HasDistinctIds) : (s.erase x).HasDistinctIds :=
  hd.sublist (List.filter_sublist.map _)

theorem HasDistinctIds.insert (hd : s.HasDistinctIds) (h : s.phase? x = none) :
    (s.insert x p).HasDistinctIds := by
  have hnotin : x ∉ s.exchanges.map (·.id) := by
    simpa using fun e he => phase?_eq_none_iff.mp h e he
  rw [HasDistinctIds, Station.insert, List.map_append, List.map_singleton]
  exact List.nodup_append.mpr ⟨hd, List.nodup_singleton x, by simpa using hnotin⟩

/-! ## Tallies -/

/-- A measure of exchanges, added up over all of them. -/
def tally (f : Exchange → Nat) (s : Station) : Nat := (s.exchanges.map f).sum

/-- A tally is told by the table alone. -/
theorem tally_congr {f : Exchange → Nat} {t : Station} (h : s.exchanges = t.exchanges) :
    tally f s = tally f t := by
  rw [tally, h, tally]

@[simp] theorem tally_insert (f : Exchange → Nat) :
    tally f (s.insert x p) = tally f s + f ⟨x, p⟩ := by
  simp [tally, insert]

/-- A tally changes by what one exchange brought to it and brings now. -/
theorem tally_setPhase (f : Exchange → Nat) (hd : s.HasDistinctIds) (h : s.phase? x = some p) :
    tally f (s.setPhase x q) + f ⟨x, p⟩ = tally f s + f ⟨x, q⟩ := by
  obtain ⟨before, after, hsplit, hbefore, hafter⟩ := hd.exists_split h
  -- Only the place of `x` changes; what stands before it and behind it is kept.
  have hkeep : ∀ l : List Exchange, (∀ e ∈ l, e.id ≠ x) →
      l.map (fun e => f (if e.id = x then ⟨x, q⟩ else e)) = l.map f := fun l hl =>
    List.map_congr_left fun e he => by rw [if_neg (hl e he)]
  simp only [tally, setPhase, hsplit, List.map_append, List.map_cons, List.map_map,
    Function.comp_def, hkeep before hbefore, hkeep after hafter, List.sum_append, List.sum_cons,
    if_true]
  omega

/-- Erasing takes what the exchange brought. -/
theorem tally_erase (f : Exchange → Nat) (hd : s.HasDistinctIds) (h : s.phase? x = some p) :
    tally f (s.erase x) + f ⟨x, p⟩ = tally f s := by
  obtain ⟨before, after, hsplit, hbefore, hafter⟩ := hd.exists_split h
  -- Only the place of the exchange is left out.
  have hkeep : ∀ l : List Exchange, (∀ e ∈ l, e.id ≠ x) → l.filter (·.id ≠ x) = l := fun l hl =>
    List.filter_eq_self.mpr fun e he => by simpa using hl e he
  simp only [tally, erase, hsplit, List.filter_append, List.filter_cons, hkeep before hbefore,
    hkeep after hafter, List.map_append, List.map_cons, List.sum_append, List.sum_cons]
  simp
  omega

/-- A tally is at least what one exchange brings to it. -/
theorem le_tally (f : Exchange → Nat) (h : s.phase? x = some p) : f ⟨x, p⟩ ≤ tally f s :=
  List.single_le_sum (by simp) _ (List.mem_map_of_mem (mem_exchanges_of_phase? h))

theorem tally_le_tally {f g : Exchange → Nat} (h : ∀ e ∈ s.exchanges, f e ≤ g e) :
    tally f s ≤ tally g s :=
  List.sum_le_sum h

/-! ## Who waits -/

/-- The exchanges that wait for a slot, in order of arrival. -/
def queuedIds (s : Station) : List Nat := (s.exchanges.filter (!·.phase.hasSlot)).map (·.id)

theorem queuedIds_congr {t : Station} (h : s.exchanges = t.exchanges) :
    s.queuedIds = t.queuedIds := by
  rw [queuedIds, h, queuedIds]

theorem queuedIds_erase : (s.erase x).queuedIds = s.queuedIds.filter (· ≠ x) := by
  simp only [queuedIds, erase, List.filter_filter, List.filter_map]
  congr 2
  funext e
  exact Bool.and_comm _ _

theorem queuedIds_insert : (s.insert x p).queuedIds =
    s.queuedIds ++ if p.hasSlot then [] else [x] := by
  cases hp : p.hasSlot <;> simp [queuedIds, insert, hp]

/-- Nobody else's waiting changes when an exchange comes to hold a slot. -/
theorem queuedIds_setPhase (hq : q.hasSlot = true) :
    (s.setPhase x q).queuedIds = s.queuedIds.filter (· ≠ x) := by
  simp only [queuedIds, setPhase]
  -- Along the table: who has another number stays in the queue, or out of it, as before.
  induction s.exchanges with
  | nil => rfl
  | cons e rest ih =>
    by_cases hx : e.id = x
    · -- The exchange itself leaves the queue, if it was there.
      cases he : e.phase.hasSlot <;> simpa [hx, he, hq] using ih
    · -- Any other one stays as it is.
      cases he : e.phase.hasSlot <;> simpa [hx, he] using ih

theorem mem_queuedIds_of_phase? (h : s.phase? x = some p) (hp : p.hasSlot = false) :
    x ∈ s.queuedIds :=
  List.mem_map_of_mem (List.mem_filter.mpr ⟨mem_exchanges_of_phase? h, by simpa using hp⟩)

/-- Whoever waits is an exchange without a slot. -/
theorem HasDistinctIds.hasSlot_of_mem_queuedIds (hd : s.HasDistinctIds) (h : x ∈ s.queuedIds) :
    ∃ p, s.phase? x = some p ∧ p.hasSlot = false := by
  obtain ⟨⟨i, p⟩, he, rfl⟩ := List.mem_map.mp h
  obtain ⟨hmem, hp⟩ := List.mem_filter.mp he
  exact ⟨p, hd.phase?_of_mem hmem, by simpa using hp⟩

/-- Whoever is gone does not wait: the queue names exchanges only. -/
theorem HasDistinctIds.not_mem_queuedIds_of_none (hd : s.HasDistinctIds) (h : s.phase? x = none) :
    x ∉ s.queuedIds := by
  intro hmem
  obtain ⟨p, hp, -⟩ := hd.hasSlot_of_mem_queuedIds hmem
  rw [h] at hp
  cases hp

end ObliviousRelay.Gateway.Station
