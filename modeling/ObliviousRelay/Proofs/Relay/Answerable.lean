import ObliviousRelay.Proofs.Relay.Pending

/-!
# The clock ends every exchange

A visit that waits for the end of its exchange hears of it, whatever else happens or does not: even if
its gateway says nothing any more, the clock can always go on, and brings the exchange to its end.

- `Relay.Answerable`: the client of a visit can still hear something while it stays.
- `Pending.tick`: what the clock tells an exchange brings it nearer to its end.
- `Relay.Lone`: a visit that waits is the only one; `Lone.elapse`: the clock goes on up to its moment.
- `Pending.answerable`: all others may leave, so every visit that waits is answerable.
-/

namespace ObliviousRelay

open Gateway (Station Effect Phase Occurrence)
open Gateway.Station (Ticks rank isAtRest)

/-- What happens without a word of any gateway and without new requests: the clock goes on, and tells
the exchange of a visit; the clients of others leave. -/
def RelayEvent.isLapse (v : Nat) : RelayEvent → Bool
  | .leave u => u ≠ v
  | .elapse _ => true
  | .station _ (.proceed x) | .station _ (.expire x _) => x = v
  | _ => false

theorem RelayEvent.of_isLapse {v : Nat} {ev : RelayEvent} (h : ev.isLapse v = true) :
    ev.isOutside = true ∧ ev ≠ .leave v ∧ ev ≠ .late v := by
  unfold isLapse at h
  split at h <;> simp_all [isOutside, Gateway.Event.isOwn]

namespace Relay

variable {r : Relay} {v : Nat} {w : Visit} {g : String} {last : Nat} {ev : RelayEvent}

/-- The client of a visit can hear of the end of its exchange, by the lapse of time alone. -/
def Answerable (r : Relay) (w : Visit) : Prop :=
  ∃ evs : List RelayEvent, (∀ ev ∈ evs, ev.isLapse w.id = true) ∧
    ∃ word, (voiced w.id (r.after evs).2).head? = some word ∧ w.IsEnd word

/-- A visit that waits is answerable if it is after a lapse at which it hears nothing. -/
theorem Pending.answerable_of_step (h : r.Pending w g last) (hlapse : ev.isLapse w.id = true)
    (hnext : (r.step ev).1.Pending w g last → (r.step ev).1.Answerable w) : r.Answerable w := by
  obtain ⟨hout, hstays, hlate⟩ := RelayEvent.of_isLapse hlapse
  rcases h.step hout hstays with ⟨hpending, hquiet⟩ | ⟨word, hword, hend⟩
  · obtain ⟨evs, hlapses, word, hheard, hend⟩ := hnext hpending
    refine ⟨ev :: evs, List.forall_mem_cons.mpr ⟨hlapse, hlapses⟩, word, ?_, hend⟩
    rw [after, List.map_cons, history_cons, voiced_append,
      show voiced w.id (r.occur (.event ev)).2 = [] from hquiet]
    exact hheard
  · refine ⟨[ev], by simpa using hlapse, word, ?_, hend.resolve_right fun hlate' => hlate hlate'.1⟩
    rw [after, List.map_cons, history_cons, voiced_append,
      show voiced w.id (r.occur (.event ev)).2 = [word] from hword]
    rfl

/-! ## Stations by name -/

/-- All stations have names of their own. -/
def HasDistinctStations (r : Relay) : Prop := (r.client.stations.map (·.target.name)).Nodup

theorem HasDistinctStations.step (h : r.HasDistinctStations) (ev : RelayEvent) :
    (r.step ev).1.HasDistinctStations := by
  by_cases helapse : ∃ duration, ev = .elapse duration
  · obtain ⟨duration, rfl⟩ := helapse
    simp only [Relay.step]
    split
    · show ((r.client.elapse duration).stations.map (·.target.name)).Nodup
      have hnames : (r.client.elapse duration).stations.map (·.target.name) =
          r.client.stations.map (·.target.name) := by
        rw [Gateway.Client.elapse, List.map_map]
        refine List.map_congr_left fun s _ => ?_
        exact congrArg Target.name (Station.step_transition s (.elapse duration)).target.1
      rw [hnames]
      exact h
    · exact h
  · have hframe : (r.step ev).1.client.stations.map (·.target.name) =
        r.client.stations.map (·.target.name) :=
      congrArg Frame.gateways (frame_step r fun duration heq => helapse ⟨duration, heq⟩)
    rw [HasDistinctStations, hframe]
    exact h

/-! ## The only visit -/

/-- A visit that waits is the only one. -/
structure Lone (r : Relay) (w : Visit) (g : String) (last : Nat) : Prop where
  pending : r.Pending w g last
  stations : r.HasDistinctStations
  alone : ∀ v, v ≠ w.id → r.visit? v = none

namespace Lone

/-- Nobody else comes but by an arrival. -/
theorem step (h : r.Lone w g last) (hout : ev.isOutside = true)
    (hno : ∀ v head, ev ≠ .arrive v head) (hpending : (r.step ev).1.Pending w g last) :
    (r.step ev).1.Lone w g last := by
  refine ⟨hpending, h.stations.step ev, fun v hv => ?_⟩
  exact (still_gone (o := .event ev) h.pending.tied hout
    (fun head heq => hno v head (RelayOccurrence.event.inj heq)) (h.alone v hv)).1

/-- **The clock may go on** up to the moment of the exchange. -/
theorem mayElapse (h : r.Lone w g last) {s : Station} {p : Phase} {moment : Nat}
    (hs : r.client.station? g = some s) (hp : s.phase? w.id = some p)
    (htimer : s.timer? ⟨w.id, p⟩ = some moment) : r.mayElapse moment = true := by
  obtain ⟨due, m, hphase, hdue⟩ := h.pending.due
  obtain ⟨s', told, p', hs', hpunctual, hp', hends⟩ := h.pending.station
  obtain rfl := Option.some.inj (hs.symm.trans hs')
  obtain rfl := Option.some.inj (hp.symm.trans hp')
  have hlast := (hends.timer_le hpunctual.onTime hp htimer).2
  -- Every exchange belongs to a visit, so there is no other one anywhere.
  have honly : ∀ s' ∈ r.client.stations, ∀ e ∈ s'.exchanges, s' = s ∧ e = ⟨w.id, p⟩ := by
    intro s' hmem e he
    have hs' : r.client.station? s'.target.name = some s' := find?_of_nodup h.stations hmem
    have hp' := (h.pending.tied.slots _ s' hs').distinct.phase?_of_mem (x := e.id) (p := e.phase) he
    obtain ⟨w', due', m', hw', hphase'⟩ := h.pending.tied.owned _ s' e.id e.phase hs' hp'
    have hid : e.id = w.id := by
      by_contra hne
      exact absurd (hw'.symm.trans (h.alone _ hne)) (by simp)
    rw [hid, h.pending.visit] at hw'
    obtain rfl := Option.some.inj hw'
    rw [hphase, VisitPhase.exchanging.injEq] at hphase'
    rw [← hphase'.2.1, hs] at hs'
    obtain rfl := Option.some.inj hs'
    rw [hid, hp] at hp'
    obtain rfl := Option.some.inj hp'
    exact ⟨rfl, by rw [← hid]⟩
  refine Bool.and_eq_true _ _ ▸ ⟨List.all_eq_true.mpr fun s' hs' => List.all_eq_true.mpr fun e he => ?_,
    List.all_eq_true.mpr fun w' hw' => ?_⟩
  · obtain ⟨rfl, rfl⟩ := honly s' hs' e he
    cases p with
    | granted => cases htimer
    | _ => simp [htimer]
  · have hfound := visit?_of_mem h.pending.tied.distinct hw'
    have hid : w'.id = w.id := by
      by_contra hne
      exact absurd (hfound.symm.trans (h.alone _ hne)) (by simp)
    rw [hid, h.pending.visit] at hfound
    obtain rfl := Option.some.inj hfound
    simp [Visit.due?, hphase, hlast.trans hdue]

end Lone

/-- **What the clock tells an exchange brings it nearer to its end**, if the visit waits on. -/
theorem Pending.tick {s : Station} {p : Phase} {e : Gateway.Event} (h : r.Tied)
    (hs : r.client.station? g = some s) (hp : s.phase? w.id = some p) (hticks : Ticks s w.id p e)
    (hafter : (r.step (.station g e)).1.Pending w g last) :
    ∃ s' q, (r.step (.station g e)).1.client.station? g = some s' ∧ s'.phase? w.id = some q ∧
      rank s'.policy.retry.maxAttempts q < rank s.policy.retry.maxAttempts p := by
  obtain ⟨hown, hno, hv⟩ : e.isOwn = false ∧ (∀ duration, e ≠ .elapse duration) ∧
      e.about? = some w.id := by
    cases hticks <;> exact ⟨rfl, by simp, rfl⟩
  have hslots := h.slots g s hs
  obtain ⟨es, hround, hstation, -⟩ := occur_round h (.event (.station g e)) (by
    simp [RelayOccurrence.isOutside, RelayEvent.isOutside, hown]) hs
  obtain ⟨s', told, q, hs', hpunctual, hq, -⟩ := hafter.station
  obtain rfl := Option.some.inj (hstation.symm.trans hs')
  have hrest := hpunctual.inUse w.id q hq
  refine ⟨_, q, hs', hq, ?_⟩
  rw [(Station.history_target s es).2]
  cases hround with
  | idle _ _ hword => exact absurd rfl (hword e hown hno)
  | dropped _ _ ho => rcases ho with ho | ho <;> cases ho
  | told e more _ _ hreaction =>
    have hstep : (s.step e).1.SlotAccount := hslots.transition (Station.step_transition s e)
    rw [Station.history_cons] at hq
    cases hreaction with
    | quiet =>
      rcases Station.rank_of_ticks hslots hp hticks hq with rfl | hless
      · cases hrest
      · exact hless
    | use x reused w' due m hone =>
      -- The lease was got now, and is in use.
      obtain ⟨habout, c, t, hheld, -⟩ := Round.leaves_of_followed hslots hone rfl
      obtain rfl := Option.some.inj (habout.symm.trans hv)
      rcases Station.rank_of_ticks hslots hp hticks hheld with heq | hless
      · cases heq
      · obtain rfl := Option.some.inj ((Station.phase?_send hheld).symm.trans hq)
        exact hless
    | giveBack x f hone hf =>
      have hfx : f.about? = some x := by rcases hf with ⟨_, _, rfl⟩ | ⟨_, rfl⟩ <;> rfl
      obtain ⟨habout, hleaves⟩ := Round.leaves_of_followed hslots hone hfx
      obtain rfl := Option.some.inj (hv.symm.trans habout)
      have hat : isAtRest ((s.step e).1.phase? w.id) = true := by
        rcases hf with ⟨_, _, rfl⟩ | ⟨_, rfl⟩ <;> exact hleaves
      exact absurd ((Station.gone_of_release hstep hat).symm.trans hq) (by simp)
    | breakDown x hone =>
      obtain ⟨habout, hgone⟩ := Round.leaves_of_followed hslots hone rfl
      obtain rfl := Option.some.inj (hv.symm.trans habout)
      have hnone : (s.step e).1.phase? w.id = none := hgone
      exact absurd (hnone.symm.trans hq) (by simp)

namespace Lone

/-- By the moment of an exchange it stands where it stood, and its moment has come. -/
theorem elapse {s : Station} {p : Phase} {moment : Nat} (h : r.Lone w g last)
    (hs : r.client.station? g = some s) (hp : s.phase? w.id = some p)
    (htimer : s.timer? ⟨w.id, p⟩ = some moment)
    (hafter : (r.step (.elapse (moment - r.now))).1.Pending w g last) :
    ∃ s', (r.step (.elapse (moment - r.now))).1.client.station? g = some s' ∧
      s'.phase? w.id = some p ∧ s'.policy = s.policy ∧ Ticks s' w.id p (.expire w.id 0) := by
  obtain ⟨s', told, p', hs', hpunctual, hp', hends⟩ := h.pending.station
  obtain rfl := Option.some.inj (hs.symm.trans hs')
  obtain rfl := Option.some.inj (hp.symm.trans hp')
  have hahead : r.now ≤ moment := hpunctual.clock ▸ (hends.timer_le hpunctual.onTime hp htimer).1
  have hmay : r.mayElapse (r.now + (moment - r.now)) = true := by
    rw [Nat.add_sub_cancel' hahead]
    exact h.mayElapse hs hp htimer
  have hstep : (r.step (.elapse (moment - r.now))).1 = { r with
      now := r.now + (moment - r.now), client := r.client.elapse (moment - r.now) } := by
    simp only [Relay.step, if_pos hmay]
  have hstation : (r.step (.elapse (moment - r.now))).1.client.station? g =
      some (s.step (.elapse (moment - r.now))).1 := by
    rw [hstep, Gateway.Client.station?_elapse, hs]
    rfl
  refine ⟨_, hstation, (phase?_step_elapse s (moment - r.now) w.id).trans hp,
    (Station.step_transition s _).target.2, .due moment 0 ?_ ?_⟩
  · rw [← htimer]
    simp only [Station.step]
    split <;> rfl
  · -- The station shows the time of its relay.
    obtain ⟨s', told', p', hs', hpunctual', -⟩ := hafter.station
    obtain rfl := Option.some.inj (hstation.symm.trans hs')
    rw [hpunctual'.clock, hstep]
    exact (Nat.add_sub_cancel' hahead).ge

/-- **A visit that is alone hears of its end by the clock.** -/
theorem answerable {s : Station} {p : Phase} (h : r.Lone w g last)
    (hs : r.client.station? g = some s) (hp : s.phase? w.id = some p) : r.Answerable w := by
  induction hn : rank s.policy.retry.maxAttempts p using Nat.strong_induction_on
    generalizing r s p with
  | _ n ih =>
    -- What the clock tells the exchange ends it, or brings it nearer to its end.
    have hlater : ∀ {r : Relay} {s : Station} {p : Phase} {e : Gateway.Event}, r.Lone w g last →
        r.client.station? g = some s → s.phase? w.id = some p →
        rank s.policy.retry.maxAttempts p = n → Ticks s w.id p e → r.Answerable w := by
      intro r s p e h hs hp hn hticks
      have hlapse : RelayEvent.isLapse w.id (.station g e) = true := by
        cases hticks <;> simp [RelayEvent.isLapse]
      have hout := (RelayEvent.of_isLapse hlapse).1
      refine h.pending.answerable_of_step hlapse fun hafter => ?_
      obtain ⟨s', q, hs', hq, hless⟩ := Pending.tick h.pending.tied hs hp hticks hafter
      exact ih _ (hn ▸ hless) (h.step hout (by simp) hafter) hs' hq rfl
    obtain ⟨s', told, p', hs', hpunctual, hp', -⟩ := h.pending.station
    obtain rfl := Option.some.inj (hs.symm.trans hs')
    obtain rfl := Option.some.inj (hp.symm.trans hp')
    rcases Station.granted_or_timer hpunctual.onTime.slots hp (hpunctual.inUse w.id p hp) with
      ⟨timeout, rfl⟩ | ⟨moment, htimer⟩
    · exact hlater h hs hp hn (.slot timeout)
    · -- The clock goes on up to the moment of the exchange, and tells it.
      have hlapse : RelayEvent.isLapse w.id (.elapse (moment - r.now)) = true := rfl
      refine h.pending.answerable_of_step hlapse fun hafter => ?_
      obtain ⟨s', hs', hp', hpolicy, hticks⟩ := h.elapse hs hp htimer hafter
      exact hlater (h.step rfl (by simp) hafter) hs' hp' (hpolicy ▸ hn) hticks

end Lone

/-- Whoever leaves is gone. -/
theorem gone_of_leave (h : r.HasDistinctVisits) (v : Nat) : (r.step (.leave v)).1.visit? v = none := by
  cases hw : r.visit? v with
  | none => simp [Relay.step, hw]
  | some w =>
    obtain rfl := id_of_visit? hw
    have hquiet : ∀ v, v ≠ w.id → voiced v [] = [] := fun _ _ => rfl
    simpa [Relay.step, hw] using (abandon_closes h hquiet).1.1

/-- **A visit that waits hears of its end**, if need be after all others have left. -/
theorem Pending.answerable (h : r.Pending w g last) (hstations : r.HasDistinctStations) :
    r.Answerable w := by
  -- By induction on those who are still to leave.
  have hlist : ∀ (others : List Nat) (r : Relay), r.Pending w g last → r.HasDistinctStations →
      (∀ v, v ∉ others → v ≠ w.id → r.visit? v = none) → r.Answerable w := by
    intro others
    induction others with
    | nil =>
      intro r h hstations halone
      obtain ⟨s, -, p, hs, -, hp, -⟩ := h.station
      exact Lone.answerable ⟨h, hstations, fun v hv => halone v List.not_mem_nil hv⟩ hs hp
    | cons u rest ih =>
      intro r h hstations halone
      by_cases hu : u = w.id
      · exact ih r h hstations fun v hv hne =>
          halone v (by simp [hv, show v ≠ u from hu ▸ hne]) hne
      · have hlapse : RelayEvent.isLapse w.id (.leave u) = true := by
          simpa [RelayEvent.isLapse] using hu
        refine h.answerable_of_step hlapse fun hafter => ?_
        refine ih _ hafter (hstations.step _) fun v hv hne => ?_
        by_cases hvu : v = u
        · exact hvu ▸ gone_of_leave h.tied.distinct u
        · exact (still_gone (o := .event (.leave u)) h.tied rfl (by simp)
            (halone v (by simp [hv, hvu]) hne)).1
  refine hlist (r.visits.map (·.id)) r h hstations fun v hv hne => ?_
  rw [visit?, List.find?_eq_none]
  exact fun u hu heq => hv (List.mem_map.mpr ⟨u, hu, by simpa using heq⟩)

end Relay

end ObliviousRelay
