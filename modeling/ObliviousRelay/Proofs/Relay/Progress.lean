import ObliviousRelay.Proofs.Relay.Ties

/-!
# The progress of a message

How far the message of a visit has come is its `Standing`: not offered, offered once, returned, or
settled. A standing moves in few ways, listed in `Progress`, whatever happens to the relay.

- `Course.progress`: what an event does to one exchange moves its message so.
- `Relay.Quiet`: what the relay does by itself offers nothing.
- `Relay.step_progress` and `Relay.occur_progress`: everything from outside moves every message so.
-/

namespace ObliviousRelay

open Gateway (Station WireRequest)
open Gateway.Station (Course Fate isAtRest)

/-! ## Standings -/

/-- How far the message of a visit has come. -/
inductive Standing where
  /-- It has not been offered, and may be. -/
  | ahead
  /-- It was offered once, on a connection, and what became of that is not known. -/
  | offered (gateway : String) (serial : Nat) (request : WireRequest)
  /-- It came back unsent, and another connection is being made for it. -/
  | returned (gateway : String) (request : WireRequest)
  /-- It will not be offered any more. -/
  | settled
  deriving DecidableEq

namespace Standing

/-- The standing of a message whose exchange is in a phase. -/
def ofPhase (gateway : String) : Option Gateway.Phase → Standing
  | none => .settled
  | some (.queued _) | some (.granted _) | some (.readying _ _ _) => .ahead
  | some (.dialling _ (.offerAgain request) _) => .returned gateway request
  | some (.dialling _ _ _) => .ahead
  | some (.held _ t) => if t.reusable then .settled else .ahead
  | some (.offering c _ request false) => .offered gateway c.serial request
  | some (.offering _ _ _ true) | some (.reading _ _ _ _ _) | some .spent => .settled

/-- How many offers a standing leaves. -/
def chances : Standing → Nat
  | ahead => 2
  | offered _ _ _ => 1
  | returned _ _ => 1
  | settled => 0

theorem chances_le (σ : Standing) : σ.chances ≤ 2 := by
  cases σ <;> simp [chances]

end Standing

/-- An offer of a message. -/
structure Offer where
  gateway : String
  serial : Nat
  request : WireRequest
  deriving DecidableEq

/-- The offer of a visit's message that an effect shows. -/
def RelayEffect.offer? (v : Nat) : RelayEffect → Option Offer
  | .station g (.offered x n request) => if x = v then some ⟨g, n, request⟩ else none
  | _ => none

/-- The offers of a visit's message. -/
def offersOf (v : Nat) (effects : List RelayEffect) : List Offer := effects.filterMap (·.offer? v)

/-- What an occurrence can do to the message of a visit. -/
inductive Progress (v : Nat) :
    Standing → RelayOccurrence → List RelayEffect → Standing → Prop where
  | stay (σ : Standing) (e : RelayOccurrence) (effects : List RelayEffect)
      (hno : offersOf v effects = []) : Progress v σ e effects σ
  | close (σ : Standing) (e : RelayOccurrence) (effects : List RelayEffect)
      (hno : offersOf v effects = []) : Progress v σ e effects .settled
  | first (e : RelayOccurrence) (effects : List RelayEffect) (g : String) (n : Nat) (w : WireRequest)
      (τ : Standing)
      (he : e = .event (.station g (.ready v)) ∨ e = .event (.station g (.connected v)))
      (hone : offersOf v effects = [⟨g, n, w⟩]) (hτ : τ = .offered g n w ∨ τ = .settled) :
      Progress v .ahead e effects τ
  | giveBack (effects : List RelayEffect) (g : String) (n : Nat) (w : WireRequest) (error : String)
      (τ : Standing) (hno : offersOf v effects = []) (hclosed : .station g (.closed n) ∈ effects)
      (hdial : .station g (.dialling v) ∈ effects) (hτ : τ = .returned g w ∨ τ = .settled) :
      Progress v (.offered g n w) (.event (.station g (.returned v error))) effects τ
  | second (effects : List RelayEffect) (g : String) (n : Nat) (w : WireRequest)
      (hone : offersOf v effects = [⟨g, n, w⟩]) (hopened : .station g (.opened n) ∈ effects) :
      Progress v (.returned g w) (.event (.station g (.connected v))) effects .settled

variable {r r' : Relay} {u v x : Nat} {g : String} {e : Gateway.Event} {σ τ : Standing}
  {ev : RelayOccurrence} {effects more : List RelayEffect}

@[simp] theorem offersOf_append (v : Nat) (effects more : List RelayEffect) :
    offersOf v (effects ++ more) = offersOf v effects ++ offersOf v more :=
  List.filterMap_append

theorem offersOf_of_noStation (h : Relay.NoStation effects) : offersOf v effects = [] := by
  apply List.filterMap_eq_nil_iff.mpr
  intro f hf
  cases f with
  | station g f => exact absurd hf (h g f)
  | _ => rfl

/-- Effects at a station that are not about a visit offer none of its message. -/
theorem offersOf_station (g : String) {fs : List Gateway.Effect}
    (h : ∀ n w, .offered v n w ∉ fs) : offersOf v (fs.map (.station g)) = [] := by
  apply List.filterMap_eq_nil_iff.mpr
  intro f hf
  obtain ⟨f, hmem, rfl⟩ := List.mem_map.mp hf
  cases f with
  | offered y n w =>
    have hne : y ≠ v := fun heq => h n w (heq ▸ hmem)
    simp [RelayEffect.offer?, hne]
  | _ => rfl

namespace Progress

/-- What happens to the message may be followed by more that offers nothing. -/
theorem andThen (h : Progress v σ ev effects τ) (hmore : offersOf v more = []) {τ' : Standing}
    (hτ : τ' = τ ∨ τ' = .settled) : Progress v σ ev (effects ++ more) τ' := by
  have hsame : offersOf v (effects ++ more) = offersOf v effects := by simp [hmore]
  cases h with
  -- What is added may settle the message: then it does not stay, it is closed.
  | stay σ e effects hno =>
    rcases hτ with rfl | rfl
    · exact .stay _ _ _ (hsame.trans hno)
    · exact .close _ _ _ (hsame.trans hno)
  | close σ e effects hno =>
    rcases hτ with rfl | rfl <;> exact .close _ _ _ (hsame.trans hno)
  | first e effects g n w τ he hone hτ₀ =>
    refine .first _ _ g n w τ' he (hsame.trans hone) ?_
    rcases hτ with rfl | rfl
    · exact hτ₀
    · exact .inr rfl
  | giveBack effects g n w error τ hno hclosed hdial hτ₀ =>
    refine .giveBack _ g n w error τ' (hsame.trans hno) (List.mem_append_left _ hclosed)
      (List.mem_append_left _ hdial) ?_
    rcases hτ with rfl | rfl
    · exact hτ₀
    · exact .inr rfl
  -- The second offer settles it anyhow.
  | second effects g n w hone hopened =>
    rcases hτ with rfl | rfl <;>
      exact .second _ g n w (hsame.trans hone) (List.mem_append_left _ hopened)

/-- Each offer uses up a chance. -/
theorem chances (h : Progress v σ ev effects τ) :
    (offersOf v effects).length + τ.chances ≤ σ.chances := by
  cases h with
  | stay σ e effects hno => simp [hno]
  | close σ e effects hno => simp [hno, Standing.chances]
  | first e effects g n w τ he hone hτ => rcases hτ with rfl | rfl <;> simp [hone, Standing.chances]
  | giveBack effects g n w error τ hno hclosed hdial hτ =>
    rcases hτ with rfl | rfl <;> simp [hno, Standing.chances]
  | second effects g n w hone hopened => simp [hone, Standing.chances]

/-- No two offers are made at once. -/
theorem length_offersOf_le (h : Progress v σ ev effects τ) : (offersOf v effects).length ≤ 1 := by
  cases h with
  | stay _ _ _ hno | close _ _ _ hno | giveBack _ _ _ _ _ _ hno => simp [hno]
  | first _ _ _ _ _ _ _ hone | second _ _ _ _ hone => simp [hone]

/-- Only three events at the visit's own station offer its message or give it back. -/
theorem quiet (h : Progress v σ (.event (.station g e)) effects τ) (hready : e ≠ .ready v)
    (hconnected : e ≠ .connected v) (hreturned : ∀ error, e ≠ .returned v error) :
    offersOf v effects = [] ∧ (τ = σ ∨ τ = .settled) := by
  generalize hev : RelayOccurrence.event (.station g e) = ev at h
  cases h with
  | stay σ ev effects hno => exact ⟨hno, .inl rfl⟩
  | close σ ev effects hno => exact ⟨hno, .inr rfl⟩
  | first ev effects g' n w τ he hone hτ =>
    subst hev
    rcases he with he | he
    · exact absurd (RelayEvent.station.inj (RelayOccurrence.event.inj he)).2 hready
    · exact absurd (RelayEvent.station.inj (RelayOccurrence.event.inj he)).2 hconnected
  | giveBack effects g' n w error τ hno hclosed hdial hτ =>
    exact absurd (RelayEvent.station.inj (RelayOccurrence.event.inj hev)).2 (hreturned error)
  | second effects g' n w hone hopened =>
    exact absurd (RelayEvent.station.inj (RelayOccurrence.event.inj hev)).2 hconnected

end Progress

/-! ## One exchange at its station -/

namespace Gateway.Station

variable {s : Station} {fs : List Effect}

theorem GivesUp.not_offered {dial : Dial} {f : Failure} (h : GivesUp s x e dial fs f) (n : Nat)
    (w : WireRequest) : .offered v n w ∉ fs := by
  cases h <;> simp

theorem offered_not_mem_finish (s : Station) (x n : Nat) (w : WireRequest) :
    .offered v n w ∉ (s.finish x).2 := by
  rcases s.effects_finish x with heq | ⟨y, heq⟩ <;> simp [heq]

theorem Ending.not_offered {p : Phase} {disposal : Outcome} {tail : List Effect}
    (h : Ending s x e p disposal tail) (n : Nat) (w : WireRequest) :
    .offered v n w ∉ disposal.2 ++ (disposal.1.finish x).2 ++ tail := by
  have hfinish : .offered v n w ∉ (disposal.1.finish x).2 := offered_not_mem_finish _ x n w
  have hdisposal : .offered v n w ∉ disposal.2 := by
    cases h with
    | releaseClean c t hclean =>
      unfold putAside
      split <;> simp [close]
    | drop p hslot =>
      rw [closeOwn, closeAll_eq]
      simp
    | giveUp d hgives => exact hgives.not_offered n w
    | _ => simp [close]
  have htail : .offered v n w ∉ tail := by cases h <;> simp
  simp [hfinish, hdisposal, htail]

/-- **The course of an exchange moves its message as it may.** The exchange is not just asked for,
and only a lease that has not been used is sent on. -/
theorem Course.progress {p q : Option Phase} (h : Course s v e p q fs) (g : String)
    (hrequest : ∀ timeout, e ≠ .request v timeout)
    (hsend : ∀ m, e = .send v m → Standing.ofPhase g p = .ahead) :
    Progress v (.ofPhase g p) (.event (.station g e)) (fs.map (.station g)) (.ofPhase g q) := by
  cases h with
  | still => exact .stay _ _ _ rfl
  | dead m => exact .stay _ _ _ rfl
  | accept timeout | enqueue timeout | refuse timeout => exact absurd rfl (hrequest timeout)
  | withdraw | overdue => exact .close _ _ _ rfl
  | reuse | dial => exact .stay _ _ _ (offersOf_station g (by simp))
  | pass hpass =>
    cases hpass with
    | send c t m =>
      rw [hsend m rfl]
      exact .stay .ahead _ _ rfl
    | offer c t m w hw =>
      exact .first _ _ g c.serial w _ (.inl rfl) (by simp [offersOf, RelayEffect.offer?]) (.inl rfl)
    | unsendable c t m f hf =>
      -- The message cannot be sent. The lease stays as it was, and its flag tells if it was used.
      cases ht : t.reusable with
      | false => simpa [Standing.ofPhase, ht] using Progress.stay .ahead _ _ rfl
      | true => simpa [Standing.ofPhase, ht] using Progress.close .ahead _ _ rfl
    | answer => exact .close _ _ _ rfl
    | receive => exact .stay .settled _ _ rfl
    | complete => exact .close _ _ _ rfl
    | pause d purpose => cases purpose <;> exact .stay _ _ _ rfl
    | retry d purpose => cases purpose <;> exact .stay _ _ _ rfl
  | loss hloss =>
    cases hloss with
    | stale => exact .stay .ahead _ _ rfl
    | returned c t w error =>
      exact .giveBack _ g _ w error _ rfl (by simp) (by simp) (.inl rfl)
    | discard => exact .close _ _ _ (offersOf_station g (by simp))
  | gain d purpose attempt bound stops hgain =>
    cases hgain with
    | lease => exact .stay .ahead _ _ rfl
    | offer m w hw =>
      exact .first _ _ g s.opened.1.serial w _ (.inr rfl)
        (by simp [offersOf, RelayEffect.offer?, opened]) (.inl rfl)
    | unsendable => exact .stay .ahead _ _ rfl
    | offerAgain w =>
      exact .second _ g s.opened.1.serial w (by simp [offersOf, RelayEffect.offer?, opened])
        (by simp [opened])
  | surrender hsurrender =>
    obtain ⟨d, purpose, hpurpose, hgives⟩ := hsurrender
    exact .close _ _ _ (offersOf_station g fun n w => by simp [hgives.not_offered n w])
  | ending hending => exact .close _ _ _ (offersOf_station g hending.not_offered)

theorem Fate.progress {p q : Option Phase} (h : Fate s v (.event e) p q fs) (g : String)
    (hrequest : ∀ timeout, e ≠ .request v timeout)
    (hsend : ∀ m, e = .send v m → Standing.ofPhase g p = .ahead) :
    Progress v (.ofPhase g p) (.event (.station g e)) (fs.map (.station g)) (.ofPhase g q) := by
  cases h with
  | aside o p fs hquiet =>
    exact .stay _ _ _ (offersOf_station g fun n w hmem => hquiet _ hmem rfl)
  | granted o timeout fs honly =>
    exact .stay .ahead _ _ (offersOf_station g fun n w hmem => absurd (honly _ hmem rfl) (by simp))
  | own hcourse => exact hcourse.progress g hrequest hsend

end Gateway.Station

/-! ## One visit of a relay -/

namespace Relay

variable {w : Visit} {o : Outcome} {next : Relay → Outcome}

/-- How far the message of a visit has come. -/
def standing (r : Relay) (v : Nat) : Standing :=
  match r.visit? v with
  | none => .settled
  | some w => match w.phase with
    | .exchanging _ g _ => .ofPhase g ((r.client.station? g).bind (·.phase? v))
    | _ => .ahead

theorem standing_of_none (h : r.visit? v = none) : r.standing v = .settled := by
  rw [standing, h]

theorem standing_of_exchanges (h : r.Exchanges v g) :
    r.standing v = .ofPhase g ((r.client.station? g).bind (·.phase? v)) := by
  obtain ⟨w, due, m, hw, hphase⟩ := h
  simp only [standing, hw, hphase]

/-- The standing of a visit is told by the visit and the stations. -/
theorem standing_congr (hv : r'.visit? v = r.visit? v)
    (hphase : ∀ g, (r'.client.station? g).bind (·.phase? v) =
      (r.client.station? g).bind (·.phase? v)) : r'.standing v = r.standing v := by
  simp only [standing, hv, hphase]

/-- An outcome that offers nothing of a visit's message and leaves it where it stands, or ends it. -/
def Quiet (v : Nat) (r : Relay) (o : Outcome) : Prop :=
  offersOf v o.2 = [] ∧ (o.1.standing v = r.standing v ∨ o.1.standing v = .settled)

namespace Quiet

theorem refl (v : Nat) (r : Relay) : Quiet v r (r, []) := ⟨rfl, .inl rfl⟩

theorem andThen (h : Quiet v r o) (hnext : Quiet v o.1 (next o.1)) : Quiet v r (o.andThen next) := by
  refine ⟨by simp [h.1, hnext.1], ?_⟩
  rcases hnext.2 with hsame | hsettled
  · rw [andThen_eq, hsame]
    exact h.2
  · exact .inr hsettled

theorem progress (h : Quiet v r o) (ev : RelayOccurrence) :
    Progress v (r.standing v) ev o.2 (o.1.standing v) := by
  rcases h.2 with hsame | hsettled
  · rw [hsame]
    exact .stay _ _ _ h.1
  · rw [hsettled]
    exact .close _ _ _ h.1

theorem of_advances (hadv : Advances r o.1) (hno : NoStation o.2) : Quiet v r o := by
  refine ⟨offersOf_of_noStation hno, ?_⟩
  rcases hadv.visits v with hsame | ⟨⟨w, head, hw, hphase⟩, hgone | ⟨w', due, a, body, hw', hphase'⟩⟩
  · exact .inl (standing_congr hsame fun g => by rw [hadv.client])
  · exact .inr (standing_of_none hgone)
  · left
    simp only [standing, hw, hphase, hw', hphase']

/-- To take a visit away. -/
theorem of_keeps {u : Nat} (hkeeps : Keeps r o.1 u) (hgone : o.1.visit? u = none)
    (hno : NoStation o.2) : Quiet v r o := by
  refine ⟨offersOf_of_noStation hno, ?_⟩
  by_cases hv : v = u
  · exact .inr (standing_of_none (hv ▸ hgone))
  · exact .inl (standing_congr (hkeeps.others v hv) fun g => by rw [hkeeps.client])

theorem startWaiting (hd : r.HasDistinctVisits) : Quiet v r r.startWaiting :=
  of_advances (startWaiting_advances hd).1 (startWaiting_advances hd).2

theorem conclude (w : Visit) (result : Except Failure Message) :
    Quiet v r (r.conclude w result) :=
  of_keeps (keeps_conclude r w result) visit?_erase_self (noStation_conclude r w result)

end Quiet

/-- Progress that is followed by more that offers nothing. -/
theorem progress_andThen (h : Progress v (r.standing v) ev o.2 (o.1.standing v))
    (hnext : Quiet v o.1 (next o.1)) :
    Progress v (r.standing v) ev (o.andThen next).2 ((o.andThen next).1.standing v) :=
  h.andThen hnext.1 hnext.2

/-! ## Stations -/

/-- What happens at a station that has no exchange of a visit offers nothing of its message. -/
theorem offersOf_atStation (h : r.Tied) (hnone : ∀ s, r.client.station? g = some s →
    s.phase? v = none) (hrequest : ∀ timeout, e ≠ .request v timeout) :
    offersOf v (r.atStation g e).2 = [] := by
  rw [effects_atStation]
  cases hs : r.client.station? g with
  | none =>
    rw [Gateway.Client.step_of_none hs]
    rfl
  | some s =>
    rw [Gateway.Client.effects_step hs]
    have hfate := Station.step_fate (h.slots g s hs) e v
    rw [hnone s hs] at hfate
    generalize (s.step e).1.phase? v = q, (s.step e).2 = fs at hfate
    cases hfate with
    | aside o p fs hquiet => exact offersOf_station g fun n w hmem => hquiet _ hmem rfl
    | own hcourse =>
      cases hcourse with
      | still => rfl
      | accept timeout | enqueue timeout | refuse timeout => exact absurd rfl (hrequest timeout)

/-- **An event at a station moves the message of a visit as it may.** -/
theorem atStation_progress (h : r.Tied) (v : Nat) (g : String) (e : Gateway.Event)
    (hrequest : ∀ timeout, e ≠ .request v timeout)
    (hsend : ∀ m, e = .send v m → r.Exchanges v g ∧ r.standing v = .ahead) :
    Progress v (r.standing v) (.event (.station g e)) (r.atStation g e).2
      ((r.atStation g e).1.standing v) := by
  have hvisit : ∀ u, (r.atStation g e).1.visit? u = r.visit? u := fun _ => rfl
  by_cases hv : r.Exchanges v g
  · have hv' : (r.atStation g e).1.Exchanges v g := hv
    rw [standing_of_exchanges hv, standing_of_exchanges hv', client_atStation, effects_atStation]
    cases hs : r.client.station? g with
    | none =>
      rw [Gateway.Client.step_of_none hs, hs]
      exact .stay _ _ _ rfl
    | some s =>
      rw [Gateway.Client.effects_step hs, Gateway.Client.station?_step_self hs]
      -- What happens at the visit's own station is a fate of its exchange.
      apply (Station.step_fate (h.slots g s hs) e v).progress g hrequest
      intro m hm
      have hahead := (hsend m hm).2
      rwa [standing_of_exchanges hv, hs] at hahead
  · -- The visit is no exchange with this gateway, which has none of its number either.
    have hnone : ∀ s, r.client.station? g = some s → s.phase? v = none := by
      intro s hs
      cases hp : s.phase? v with
      | none => rfl
      | some p => exact absurd (h.owned g s v p hs hp) hv
    have hsame : (r.atStation g e).1.standing v = r.standing v := by
      unfold standing
      rw [hvisit]
      cases hw : r.visit? v with
      | none => rfl
      | some w =>
        cases hphase : w.phase with
        | waiting | uploading => simp only [hphase]
        | exchanging due g' m =>
          have hne : g' ≠ g := fun heq => hv ⟨w, due, m, hw, by rw [hphase, heq]⟩
          simp only [hphase]
          rw [client_atStation, Gateway.Client.station?_step_of_ne hne]
    rw [hsame]
    exact .stay _ _ _ (offersOf_atStation h hnone hrequest)

theorem Quiet.atStation (h : r.Tied) (v : Nat) (g : String) (e : Gateway.Event)
    (hrequest : ∀ timeout, e ≠ .request v timeout)
    (hsend : ∀ m, e = .send v m → r.Exchanges v g ∧ r.standing v = .ahead)
    (hready : e ≠ .ready v) (hconnected : e ≠ .connected v)
    (hreturned : ∀ error, e ≠ .returned v error) : Quiet v r (r.atStation g e) :=
  (atStation_progress h v g e hrequest hsend).quiet hready hconnected hreturned

/-! ## Going on is quiet -/

namespace Quiet

theorem conclusion (h : r.Tied) (w : Visit) (result : Except Failure Message) :
    Quiet v r (r.conclusion g w result) := by
  have hrelease : Quiet v r (r.atStation g (.release w.id)) :=
    .atStation h v g _ (by simp) (by simp) (by simp) (by simp) (by simp)
  have hconclude : Quiet v r ((r.atStation g (.release w.id)).andThen (·.conclude w result)) :=
    hrelease.andThen (.conclude w result)
  refine hconclude.andThen (.startWaiting ?_)
  exact (keeps_conclude (r.atStation g (.release w.id)).1 w result).distinct h.distinct

/-- To go on after an effect at a station offers nothing. -/
theorem follow (h : r.Tied) {f : Gateway.Effect} (hx : f.about? = some x) (hx' : r.Exchanges x g)
    (hleaves : ∀ s, r.client.station? g = some s → f.Leaves (s.phase? x)) :
    Quiet v r (r.follow g f) := by
  cases f with
  | leased y reused =>
    obtain rfl : y = x := Option.some.inj hx
    simp only [Relay.follow]
    split
    · next due g' m hphase =>
      cases hs : r.client.station? g with
      | none =>
        have hstill : r.atStation g (.send y (.ofMessage m)) = (r, []) := by
          simp [Relay.atStation, Gateway.Client.step_of_none hs]
        rw [hstill]
        exact .refl v r
      | some s =>
        -- A lease that was just obtained has carried nothing yet.
        refine .atStation h v g _ (by simp) (fun m' hm => ?_) (by simp) (by simp) (by simp)
        obtain ⟨rfl, -⟩ := Gateway.Event.send.inj hm
        obtain ⟨c, t, hheld, hunused⟩ := hleaves s hs
        refine ⟨hx', ?_⟩
        rw [standing_of_exchanges hx', hs, Option.bind_some, hheld]
        simp [Standing.ofPhase, hunused]
    · exact .refl v r
  | replied y reply reused =>
    simp only [Relay.follow]
    split
    · exact .conclusion h _ _
    · exact .refl v r
  | failed y f =>
    simp only [Relay.follow]
    split
    · exact .conclusion h _ _
    · exact .refl v r
  | overflowed y =>
    simp only [Relay.follow]
    split
    · next w hw =>
      have herase : Quiet v r (r.erase w.id, [.brokenOff w.id]) :=
        of_keeps (keeps_erase r w.id) visit?_erase_self (by simp [NoStation])
      exact herase.andThen (.startWaiting ((keeps_erase r w.id).distinct h.distinct))
    · exact .refl v r
  | _ => exact .refl v r

end Quiet

/-- **What happens at a station and after it moves the message of a visit as it may.** -/
theorem station_progress (h : r.Tied) (v : Nat) (g : String) (e : Gateway.Event)
    (htied : ∀ x timeout, e = .request x timeout → r.Exchanges x g)
    (hrequest : ∀ timeout, e ≠ .request v timeout)
    (hsend : ∀ m, e = .send v m → r.Exchanges v g ∧ r.standing v = .ahead) :
    Progress v (r.standing v) (.event (.station g e)) (r.station g e).2
      ((r.station g e).1.standing v) := by
  have hprogress := atStation_progress h v g e hrequest hsend
  rcases station_cases h g e htied with ⟨-, heq⟩ | ⟨f, x, -, hx, hx', hleaves, heq⟩
  · rw [heq]
    exact hprogress
  · rw [heq]
    exact progress_andThen hprogress (.follow (h.atStation g e htied) hx hx' hleaves)

/-- A visit that becomes an exchange asks for a lease, and nothing is offered by that. -/
theorem quiet_request (h : r.Tied) (hv : r.Exchanges v g) (hnone : r.HasNoExchange v)
    (timeout : Nat) : offersOf v (r.station g (.request v timeout)).2 = [] ∧
      ((r.station g (.request v timeout)).1.standing v = .ahead ∨
        (r.station g (.request v timeout)).1.standing v = .settled) := by
  have htied : ∀ x t, Gateway.Event.request v timeout = .request x t → r.Exchanges x g :=
    fun x t hx => (Gateway.Event.request.inj hx).1 ▸ hv
  -- To ask for a lease grants a slot, joins the queue or fails; nothing is offered by any of it.
  have hat : offersOf v (r.atStation g (.request v timeout)).2 = [] ∧
      ((r.atStation g (.request v timeout)).1.standing v = .ahead ∨
        (r.atStation g (.request v timeout)).1.standing v = .settled) := by
    have hv' : (r.atStation g (.request v timeout)).1.Exchanges v g := hv
    rw [standing_of_exchanges hv', client_atStation, effects_atStation]
    cases hs : r.client.station? g with
    | none =>
      rw [Gateway.Client.step_of_none hs, hs]
      exact ⟨rfl, .inr rfl⟩
    | some s =>
      rw [Gateway.Client.effects_step hs, Gateway.Client.station?_step_self hs, Option.bind_some]
      have hfate := Station.step_fate (h.slots g s hs) (.request v timeout) v
      rw [hnone g s hs] at hfate
      generalize (s.step (.request v timeout)).1.phase? v = q,
        (s.step (.request v timeout)).2 = fs at hfate
      cases hfate with
      | aside o p fs hquiet =>
        exact ⟨offersOf_station g fun n w hmem => hquiet _ hmem rfl, .inr rfl⟩
      | own hcourse =>
        cases hcourse with
        | still | refuse => exact ⟨rfl, .inr rfl⟩
        | accept | enqueue => exact ⟨rfl, .inl rfl⟩
  rcases station_cases h g _ htied with ⟨-, heq⟩ | ⟨f, x, -, hx, hx', hleaves, heq⟩
  · rw [heq]
    exact hat
  · have hfollow : Quiet v (r.atStation g (.request v timeout)).1
        ((r.atStation g (.request v timeout)).1.follow g f) :=
      .follow (h.atStation g _ htied) hx hx' hleaves
    rw [heq, andThen_eq]
    refine ⟨by simp [hat.1, hfollow.1], ?_⟩
    rcases hfollow.2 with hsame | hsettled
    · rw [hsame]
      exact hat.2
    · exact .inr hsettled

/-! ## Every event from outside -/

namespace Quiet

/-- A visit that becomes an exchange and asks for a lease. -/
theorem exchange (h : r.Tied) (hw : r.visit? w.id = some w) {due : Nat} {a : Http.Admission}
    {body : Http.Body} (hphase : w.phase = .uploading due a body) (g : String) (m : Message)
    (timeout : Nat) : Quiet v r
      ((r.setPhase w.id (.exchanging due g m)).station g (.request w.id timeout)) := by
  have hnone : r.HasNoExchange w.id := h.hasNoExchange_of_phase hw (by simp [hphase])
  have hkeeps := keeps_setPhase r w.id (.exchanging due g m)
  have hset := h.of_keeps hkeeps hnone
  have hexchanges := exchanges_setPhase (g := g) hw due m
  -- The message of this visit is ahead, before and after; other visits look on.
  by_cases hv : v = w.id
  · subst hv
    have hahead : r.standing w.id = .ahead := by simp only [standing, hw, hphase]
    have hasked := quiet_request hset hexchanges hnone timeout
    exact ⟨hasked.1, by rw [hahead]; exact hasked.2⟩
  · have hsame : (r.setPhase w.id (.exchanging due g m)).standing v = r.standing v :=
      standing_congr (hkeeps.others v hv) fun g => by rw [hkeeps.client]
    have hprogress := station_progress hset v g (.request w.id timeout)
      (fun x timeout hx => (Gateway.Event.request.inj hx).1 ▸ hexchanges)
      (fun timeout heq => hv (Gateway.Event.request.inj heq).1.symm) (by simp)
    have hquiet := hprogress.quiet (by simp) (by simp) (by simp)
    rw [hsame] at hquiet
    exact hquiet

/-- A visit that ends with its exchange. -/
theorem abandon (h : r.Tied) (w : Visit) : Quiet v r (r.abandon w) := by
  unfold Relay.abandon
  split
  · next due gateway m hphase =>
    have hdrop : Quiet v r (r.atStation gateway (.drop w.id)) :=
      .atStation h v gateway _ (by simp) (by simp) (by simp) (by simp) (by simp)
    have hquiet : Quiet v r ((r.atStation gateway (.drop w.id)).andThen
        fun r => (r.erase w.id, [])) :=
      hdrop.andThen (of_keeps (keeps_erase _ w.id) visit?_erase_self (by simp [NoStation]))
    rw [andThen_eq, List.append_nil] at hquiet
    exact hquiet
  · exact of_keeps (keeps_erase r w.id) visit?_erase_self (by simp [NoStation])

theorem distinct_abandon (h : r.HasDistinctVisits) (w : Visit) :
    (r.abandon w).1.HasDistinctVisits := by
  unfold Relay.abandon
  split <;> exact (keeps_erase r w.id).distinct h

/-- More of a visit's body. -/
theorem grow (hw : r.visit? w.id = some w) {due due' : Nat} {a a' : Http.Admission}
    {body body' : Http.Body} (hphase : w.phase = .uploading due' a' body') :
    Quiet v r (r.setPhase w.id (.uploading due a body), []) := by
  have hkeeps := keeps_setPhase r w.id (.uploading due a body)
  refine ⟨rfl, .inl ?_⟩
  by_cases hv : v = w.id
  · subst hv
    have hnow : (r.setPhase w.id (.uploading due a body)).visit? w.id =
        some { w with phase := .uploading due a body } := by
      rw [visit?_setPhase, hw]
      simp
    simp only [standing, hw, hnow, hphase]
  · exact standing_congr (hkeeps.others v hv) fun g => by rw [hkeeps.client]

end Quiet

theorem standing_elapse (r : Relay) (now duration v : Nat) :
    ({ r with now, client := r.client.elapse duration } : Relay).standing v = r.standing v := by
  refine standing_congr rfl ?_
  intro g
  rw [Gateway.Client.station?_elapse]
  cases r.client.station? g with
  | none => rfl
  | some s => exact phase?_step_elapse s duration v

/-- **Every event from outside moves the message of a visit as it may.** -/
theorem step_progress (h : r.Tied) (ev : RelayEvent) (hout : ev.isOutside = true)
    (hv : ∀ head, ev ≠ .arrive v head) :
    Progress v (r.standing v) (.event ev) (r.step ev).2 ((r.step ev).1.standing v) := by
  have hmove := step_move r ev hout
  generalize r.step ev = o at hmove ⊢
  cases hmove with
  | still => exact .stay _ _ _ rfl
  | arrive u head hnew =>
    have hkeeps := keeps_append r ⟨u, head.method, .waiting head⟩ hnew
    have hne : v ≠ u := fun heq => hv head (by rw [heq])
    have hsame : ({ r with visits := r.visits ++ [⟨u, head.method, .waiting head⟩] } :
        Relay).standing v = r.standing v :=
      standing_congr (hkeeps.others v hne) fun g => by rw [hkeeps.client]
    rw [← hsame]
    exact (Quiet.startWaiting (hkeeps.distinct h.distinct)).progress _
  | grow w due a body p hw hphase => exact (Quiet.grow hw hphase).progress _
  | refuse ev w due a body f =>
    have hdistinct := (keeps_conclude r w (.error f)).distinct h.distinct
    exact ((Quiet.conclude w _).andThen (.startWaiting hdistinct)).progress _
  | exchange w due a body i t s hw hphase =>
    exact (Quiet.exchange h hw hphase t.name i.message t.requestTimeout).progress _
  | abandon ev w answer hw hanswer =>
    have hanswered : Quiet v r ((r.abandon w).andThen fun r => (r, answer)) :=
      (Quiet.abandon h w).andThen ⟨offersOf_of_noStation hanswer, .inl rfl⟩
    exact (hanswered.andThen (.startWaiting (Quiet.distinct_abandon h.distinct w))).progress _
  | station g e hown =>
    -- What the relay asks of its own stations comes after other events only.
    exact station_progress h v g e
      (fun x timeout heq => absurd hown (by simp [heq, Gateway.Event.isOwn]))
      (fun timeout heq => absurd hown (by simp [heq, Gateway.Event.isOwn]))
      (fun m heq => absurd hown (by simp [heq, Gateway.Event.isOwn]))
  | elapse duration =>
    rw [standing_elapse]
    exact .stay _ _ _ rfl

/-- **Every occurrence from outside moves the message of a visit as it may.** -/
theorem occur_progress (h : r.Tied) (ev : RelayOccurrence) (hout : ev.isOutside = true)
    (hv : ∀ head, ev ≠ .event (.arrive v head)) :
    Progress v (r.standing v) ev (r.occur ev).2 ((r.occur ev).1.standing v) := by
  cases ev with
  | event ev => exact step_progress h ev hout fun head heq => hv head (by rw [heq])
  | delay duration =>
    have hsame : (r.occur (.delay duration)).1.standing v = r.standing v := by
      refine standing_congr rfl ?_
      intro g
      show ((r.client.wait duration).station? g).bind (·.phase? v) = _
      rw [Gateway.Client.station?_wait]
      cases r.client.station? g <;> rfl
    rw [hsame]
    exact .stay _ _ _ rfl

end Relay

end ObliviousRelay
