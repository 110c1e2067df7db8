import ObliviousRelay.Proofs.Gateway.Clients
import ObliviousRelay.Proofs.Gateway.SlotConservation
import ObliviousRelay.Proofs.Lookup
import ObliviousRelay.Relay.Step

/-!
# The visits of a relay

What the operations of a relay do to its visits, looked up by number.

- `Relay.Keeps`: an operation is about one visit and no station.
- `Relay.Advances`: waiting visits get their turns, and nothing else happens;
  `startWaiting_advances`.
-/

namespace ObliviousRelay.Relay

open Gateway (Station)

variable {r r' : Relay} {u v : Nat} {w : Visit} {g : String} {e : Gateway.Event}

@[simp] theorem andThen_eq (o : Outcome) (next : Relay → Outcome) :
    o.andThen next = ((next o.1).1, o.2 ++ (next o.1).2) := rfl

theorem client_atStation (r : Relay) (g : String) (e : Gateway.Event) :
    (r.atStation g e).1.client = (r.client.step g e).1 := rfl

theorem effects_atStation (r : Relay) (g : String) (e : Gateway.Event) :
    (r.atStation g e).2 = (r.client.step g e).2.map (.station g) := rfl

/-! ## Visits by number -/

/-- No number is taken by two visits. -/
def HasDistinctVisits (r : Relay) : Prop := (r.visits.map (·.id)).Nodup

theorem id_of_visit? (h : r.visit? v = some w) : w.id = v := by
  simpa using List.find?_some h

theorem visit?_of_mem (hd : r.HasDistinctVisits) (h : w ∈ r.visits) : r.visit? w.id = some w :=
  find?_of_nodup hd h

@[simp] theorem visit?_erase_self : (r.erase v).visit? v = none := by
  simp [visit?, erase]

theorem visit?_erase_of_ne (h : u ≠ v) : (r.erase v).visit? u = r.visit? u := by
  simp only [visit?, erase, List.find?_filter]
  congr 1
  funext w
  by_cases hw : w.id = u <;> simp [hw, h]

theorem visit?_setPhase (r : Relay) (v u : Nat) (p : VisitPhase) :
    (r.setPhase v p).visit? u =
      (r.visit? u).map fun w => if u = v then { w with phase := p } else w := by
  -- A visit keeps its number in every phase.
  have hid : (fun w : Visit => decide (w.id = u)) ∘
      (fun w => if w.id = v then { w with phase := p } else w) = fun w => decide (w.id = u) := by
    funext w
    by_cases h : w.id = v <;> simp [h]
  simp only [visit?, setPhase, List.find?_map, hid]
  cases hfind : r.visits.find? (·.id = u) with
  | none => rfl
  | some w =>
    have hw : w.id = u := by simpa using List.find?_some hfind
    simp [hw]

theorem visit?_append_of_ne (h : u ≠ w.id) :
    ({ r with visits := r.visits ++ [w] } : Relay).visit? u = r.visit? u := by
  simp [visit?, List.find?_append, Ne.symm h]

/-! ## Operations on one visit -/

/-- An operation that is about one visit and no station. -/
structure Keeps (r r' : Relay) (v : Nat) : Prop where
  client : r'.client = r.client
  others : ∀ u, u ≠ v → r'.visit? u = r.visit? u
  distinct : r.HasDistinctVisits → r'.HasDistinctVisits

theorem keeps_erase (r : Relay) (v : Nat) : Keeps r (r.erase v) v where
  client := rfl
  others _ hu := visit?_erase_of_ne hu
  distinct hd := hd.sublist (List.filter_sublist.map _)

theorem keeps_setPhase (r : Relay) (v : Nat) (p : VisitPhase) : Keeps r (r.setPhase v p) v where
  client := rfl
  others u hu := by
    rw [visit?_setPhase]
    simp [hu]
  distinct hd := by
    have hids : (r.setPhase v p).visits.map (·.id) = r.visits.map (·.id) := by
      simp only [setPhase, List.map_map]
      apply List.map_congr_left
      intro w _
      by_cases h : w.id = v <;> simp [h]
    rw [HasDistinctVisits, hids]
    exact hd

theorem keeps_append (r : Relay) (w : Visit) (h : r.visit? w.id = none) :
    Keeps r { r with visits := r.visits ++ [w] } w.id where
  client := rfl
  others _ hu := visit?_append_of_ne hu
  distinct hd := by
    have hnot : ∀ z ∈ r.visits, z.id ≠ w.id := by simpa [visit?] using h
    rw [HasDistinctVisits, List.map_append, List.map_singleton]
    exact List.nodup_append.mpr ⟨hd, List.nodup_singleton _, by simpa using hnot⟩

theorem keeps_conclude (r : Relay) (w : Visit) (result : Except Failure Message) :
    Keeps r (r.conclude w result).1 w.id :=
  ⟨rfl, (keeps_erase r w.id).others, (keeps_erase r w.id).distinct⟩

/-- Effects that are not about stations. -/
def NoStation (effects : List RelayEffect) : Prop := ∀ g f, .station g f ∉ effects

theorem noStation_conclude (r : Relay) (w : Visit) (result : Except Failure Message) :
    NoStation (r.conclude w result).2 := by
  simp [NoStation, conclude, reply]

/-! ## Turns -/

theorem forAll_nil (r : Relay) (next : Relay → α → Outcome) : r.forAll [] next = (r, []) := rfl

/-- To go on for several things is to go on for the first and then for the others. -/
theorem forAll_cons (r : Relay) (x : α) (xs : List α) (next : Relay → α → Outcome) :
    r.forAll (x :: xs) next = (next r x).andThen (·.forAll xs next) := by
  -- The fold is followed from any outcome so far.
  have hfold : ∀ (xs : List α) (o : Outcome), xs.foldl (fun o x => o.andThen (next · x)) o =
      ((o.1.forAll xs next).1, o.2 ++ (o.1.forAll xs next).2) := by
    intro xs
    induction xs with
    | nil => intro o; simp [forAll]
    | cons x rest ih =>
      intro o
      rw [forAll, List.foldl_cons, List.foldl_cons, ih, ih]
      simp
  rw [forAll, List.foldl_cons, hfold]
  simp

/-- Waiting visits got their turns, or were answered at once. -/
structure Advances (r r' : Relay) : Prop where
  client : r'.client = r.client
  visits : ∀ u, r'.visit? u = r.visit? u ∨
    (∃ w head, r.visit? u = some w ∧ w.phase = .waiting head) ∧
      (r'.visit? u = none ∨
        ∃ w due a body, r'.visit? u = some w ∧ w.phase = .uploading due a body)
  distinct : r.HasDistinctVisits → r'.HasDistinctVisits

theorem Advances.refl (r : Relay) : Advances r r := ⟨rfl, fun _ => .inl rfl, id⟩

theorem Advances.trans {r₁ r₂ r₃ : Relay} (h : Advances r₁ r₂) (h' : Advances r₂ r₃) :
    Advances r₁ r₃ where
  client := h'.client.trans h.client
  visits u := by
    -- A visit advances once: who uploads or is gone is not given another turn.
    rcases h.visits u with hu | ⟨hwaiting, hu⟩
    · rw [← hu]
      exact h'.visits u
    · refine .inr ⟨hwaiting, ?_⟩
      rcases h'.visits u with hu' | ⟨-, hu'⟩
      · rw [hu']
        exact hu
      · exact hu'
  distinct := h'.distinct ∘ h.distinct

/-- A waiting visit that gets its turn is answered or begins its upload; it touches no other visit. -/
theorem startIfFree_advances (hw : r.visit? w.id = some w) :
    Advances r (r.startIfFree w).1 ∧ Keeps r (r.startIfFree w).1 w.id ∧
      NoStation (r.startIfFree w).2 := by
  have hstill : Advances r r ∧ Keeps r r w.id ∧ NoStation [] :=
    ⟨.refl r, ⟨rfl, fun _ _ => rfl, id⟩, by simp [NoStation]⟩
  unfold startIfFree
  split
  · next head hphase =>
    -- Whoever is answered is gone, and whoever is not uploads.
    have hgone : ∀ r' : Relay, Keeps r r' w.id → r'.visit? w.id = none → Advances r r' :=
      fun r' hkeeps hnone => ⟨hkeeps.client, fun u => by
        by_cases hu : u = w.id
        · subst hu
          exact .inr ⟨⟨w, head, hw, hphase⟩, .inl hnone⟩
        · exact .inl (hkeeps.others u hu), hkeeps.distinct⟩
    have hreply : ∀ response, Advances r (r.reply w response).1 ∧
        Keeps r (r.reply w response).1 w.id ∧ NoStation (r.reply w response).2 := fun response =>
      ⟨hgone _ (keeps_erase r w.id) visit?_erase_self, keeps_erase r w.id, by simp [NoStation, reply]⟩
    split
    · unfold start
      split
      · exact hreply _
      · exact hreply _
      · split
        · next f hscreen =>
          exact ⟨hgone _ (keeps_conclude r w _) visit?_erase_self, keeps_conclude r w _,
            noStation_conclude r w _⟩
        · next a hscreen =>
          have hkeeps := keeps_setPhase r w.id (.uploading (r.now + r.inboundTimeout) a [])
          refine ⟨⟨rfl, fun u => ?_, hkeeps.distinct⟩, hkeeps, by simp [NoStation]⟩
          by_cases hu : u = w.id
          · subst hu
            have hnow : (r.setPhase w.id (.uploading (r.now + r.inboundTimeout) a [])).visit? w.id =
                some { w with phase := .uploading (r.now + r.inboundTimeout) a [] } := by
              rw [visit?_setPhase, hw]
              simp
            exact .inr ⟨⟨w, head, hw, hphase⟩, .inr ⟨_, _, _, _, hnow, rfl⟩⟩
          · exact .inl (hkeeps.others u hu)
    · exact hstill
  · exact hstill

/-- **Turns are all that `startWaiting` gives.** -/
theorem startWaiting_advances (hd : r.HasDistinctVisits) :
    Advances r r.startWaiting.1 ∧ NoStation r.startWaiting.2 := by
  -- Each visit of the list is still as it was when its turn comes, for all before it are others.
  have hlist : ∀ (ws : List Visit) (r : Relay), (ws.map (·.id)).Nodup →
      (∀ w ∈ ws, r.visit? w.id = some w) →
      Advances r (r.forAll ws startIfFree).1 ∧ NoStation (r.forAll ws startIfFree).2 := by
    intro ws
    induction ws with
    | nil => exact fun r _ _ => ⟨.refl r, by simp [NoStation, forAll_nil]⟩
    | cons w rest ih =>
      intro r hnodup hall
      rw [List.map_cons, List.nodup_cons] at hnodup
      obtain ⟨hfirst, hkeeps, hquiet⟩ := startIfFree_advances (hall w List.mem_cons_self)
      have hrest : ∀ z ∈ rest, (r.startIfFree w).1.visit? z.id = some z := by
        intro z hz
        have hne : z.id ≠ w.id := fun heq => hnodup.1 (heq ▸ List.mem_map_of_mem hz)
        rw [hkeeps.others _ hne]
        exact hall z (List.mem_cons_of_mem _ hz)
      obtain ⟨hlater, hquietLater⟩ := ih _ hnodup.2 hrest
      rw [forAll_cons, andThen_eq]
      exact ⟨hfirst.trans hlater, fun g f => by simp [hquiet g f, hquietLater g f]⟩
  exact hlist r.visits r hd fun w hw => visit?_of_mem hd hw

end ObliviousRelay.Relay
