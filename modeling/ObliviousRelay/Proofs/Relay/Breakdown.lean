import ObliviousRelay.Proofs.Gateway.Connecting
import ObliviousRelay.Proofs.Relay.Gauges
import ObliviousRelay.Proofs.Relay.Masking
import ObliviousRelay.Proofs.Timing.Delays

/-!
# How a visit comes to be broken off

A visit is broken off, without an answer, for one reason only: its exchange was about to pause before
another attempt to connect, and the length of the pause was no word. That can be only where some
attempt that is not the last one has a delay that leaves no room for its random part.

- `Course.of_overflowed`: when an exchange breaks down.
- `Relay.overflowed_of_brokenOff`: a visit is broken off just after its exchange broke down.
- `Relay.brokenOff_of_build`: the configurations that allow it, over every history.
-/

namespace ObliviousRelay

open Gateway (Station Effect attemptsOf delayOf)
open Gateway.Station (Course)
open Timing.Backoff (longest)

namespace Gateway.Station

variable {s : Station} {x : Nat} {e : Event} {p q : Option Phase} {effects : List Effect}

/-- **An exchange breaks down over a delay without room**, before an attempt that is allowed. -/
theorem Course.of_overflowed (h : Course s x e p q effects) (hmem : .overflowed x ∈ effects) :
    ∃ attempt delay, s.policy.retry.nextDelay attempt = some delay ∧ longest < delay := by
  cases h with
  | still | dead | accept | enqueue | refuse | withdraw | overdue => simp at hmem
  | reuse | dial => simp at hmem
  | pass hpass => cases hpass <;> simp at hmem
  | loss hloss => cases hloss <;> simp at hmem
  | gain d purpose attempt bound stops hgain => cases hgain <;> simp [opened] at hmem
  | surrender hsurrender =>
    obtain ⟨d, purpose, hpurpose, hgives⟩ := hsurrender
    cases hgives <;> simp at hmem
  | @ending e p disposal tail hending =>
    -- That an exchange broke down is what is seen of it last.
    have htail : .overflowed x ∈ tail := by
      have hfollowed := List.mem_filter.mpr ⟨hmem, show Effect.isFollowed (.overflowed x) = true from rfl⟩
      rw [List.filter_append, List.filter_append, hending.filter_isFollowed,
        filter_isFollowed_finish] at hfollowed
      exact List.mem_of_mem_filter hfollowed
    cases hending with
    | releaseClean | releaseUsed | releaseSpent | drop => cases htail
    | giveUp => simp at htail
    | breakDown d purpose attempt bound delay hfails hdelay hlength =>
      exact ⟨attempt, delay, hdelay, Timing.Backoff.longest_lt_of_withDraw? hlength⟩

end Gateway.Station

namespace Relay

variable {r r₀ : Relay} {v : Nat} {g : String} {ev : RelayEvent} {os : List RelayOccurrence}

/-! ## From the visit to its exchange -/

theorem brokenOff_mem_iff {effects : List RelayEffect} :
    .brokenOff v ∈ effects ↔ .brokenOff v ∈ voiced v effects := by
  simp [voiced, RelayEffect.isVoiced]

/-- Turns break no visit off. -/
theorem brokenOff_not_mem_of_turn {c : Setup} {w w' : Option Visit} {effects : List RelayEffect}
    (h : Turn c v w effects w') : .brokenOff v ∉ effects := by
  rw [brokenOff_mem_iff]
  cases h with
  | aside _ _ hquiet => simp [hquiet]
  | receive _ _ _ _ _ _ _ hone => simp [hone]
  | dismiss _ _ _ _ _ _ hone => simp [hone]

/-- What breaks no visit off breaks none off while the others get their turns. -/
theorem brokenOff_not_mem_startWaiting {o : Outcome} (hd : o.1.HasDistinctVisits)
    (ho : .brokenOff v ∉ o.2) : .brokenOff v ∉ (o.andThen startWaiting).2 := by
  rw [andThen_eq, List.mem_append, not_or]
  exact ⟨ho, brokenOff_not_mem_of_turn (startWaiting_turn hd v)⟩

theorem brokenOff_not_mem_conclude (h : r.Tied) (w : Visit) (result : Except Failure Message) :
    .brokenOff v ∉ ((r.conclude w result).andThen startWaiting).2 :=
  brokenOff_not_mem_startWaiting ((keeps_conclude r w result).distinct h.distinct)
    (by simp [conclude, reply])

theorem brokenOff_not_mem_abandon (h : r.Tied) (w : Visit) {answer : List RelayEffect}
    (hanswer : .brokenOff v ∉ answer) :
    .brokenOff v ∉ (((r.abandon w).andThen fun r => (r, answer)).andThen startWaiting).2 := by
  refine brokenOff_not_mem_startWaiting (Quiet.distinct_abandon h.distinct w) ?_
  rw [andThen_eq, List.mem_append, not_or]
  refine ⟨?_, hanswer⟩
  -- To drop an exchange is heard of at its station only.
  unfold abandon
  split
  · simp [effects_atStation]
  · exact List.not_mem_nil

/-- A visit is broken off by what happens at a station only if its exchange has broken down there. -/
theorem overflowed_of_brokenOff_station (h : r.Tied) {e : Gateway.Event}
    (hrequest : ∀ x timeout, e = .request x timeout → r.Exchanges x g)
    (hmem : .brokenOff v ∈ (r.station g e).2) : .station g (.overflowed v) ∈ (r.station g e).2 := by
  rcases station_turn_or_closes h g e hrequest v with hturn | ⟨w, hw, -, -, hcloses⟩
  · exact absurd hmem (brokenOff_not_mem_of_turn hturn)
  · obtain rfl := id_of_visit? hw
    rw [brokenOff_mem_iff] at hmem
    cases hcloses with
    | replied _ _ _ hone | failed _ _ hone => simp [hone, Visit.answer] at hmem
    | overflowed hf =>
      rw [station, andThen_eq, effects_atStation]
      exact List.mem_append_left _ (List.mem_map_of_mem hf)

/-- The same of a visit that becomes an exchange. -/
theorem overflowed_of_brokenOff_exchange (h : r.Tied) {w : Visit} {due : Nat} {a : Http.Admission}
    {body : Http.Body} (hw : r.visit? w.id = some w) (hphase : w.phase = .uploading due a body)
    (hmem : .brokenOff v ∈ (r.exchange w due a body).2) :
    ∃ g, .station g (.overflowed v) ∈ (r.exchange w due a body).2 := by
  rcases r.exchange_cases w due a body with ⟨f, heq⟩ | ⟨i, t, s, -, -, -, heq⟩ <;>
    rw [heq] at hmem ⊢
  · exact absurd hmem (brokenOff_not_mem_conclude h w (.error f))
  · have hnone := h.hasNoExchange_of_phase hw (by simp [hphase])
    have hset := h.of_keeps (keeps_setPhase r w.id (.exchanging due t.name i.message)) hnone
    exact ⟨t.name, overflowed_of_brokenOff_station hset
      (exchanges_of_request hw due i.message t.requestTimeout) hmem⟩

/-- **A visit is broken off just after its exchange broke down.** -/
theorem overflowed_of_brokenOff (h : r.Tied) (hout : ev.isOutside = true)
    (hmem : .brokenOff v ∈ (r.step ev).2) : ∃ g, .station g (.overflowed v) ∈ (r.step ev).2 := by
  -- Nothing but what happens at a station breaks a visit off.
  cases ev with
  | arrive u head =>
    refine absurd hmem ?_
    simp only [step]
    split
    · exact List.not_mem_nil
    · next hnew =>
      have hkeeps := keeps_append r ⟨u, head.method, .waiting head⟩ (by simpa using hnew)
      exact brokenOff_not_mem_of_turn (startWaiting_turn (hkeeps.distinct h.distinct) v)
  | piece u p =>
    refine absurd hmem ?_
    simp only [step]
    split
    · split
      · unfold receivePiece
        split
        · exact brokenOff_not_mem_conclude h _ _
        · exact List.not_mem_nil
      · exact List.not_mem_nil
    · exact List.not_mem_nil
  | uploaded u =>
    simp only [step] at hmem ⊢
    split at hmem
    · next w hw =>
      obtain rfl := id_of_visit? hw
      split at hmem
      · next due a body hphase => exact overflowed_of_brokenOff_exchange h hw hphase hmem
      · cases hmem
    · cases hmem
  | leave u =>
    refine absurd hmem ?_
    simp only [step]
    split
    · next w hw =>
      have hquiet : .brokenOff v ∉ ([] : List RelayEffect) := List.not_mem_nil
      simpa using brokenOff_not_mem_abandon h w hquiet
    · exact List.not_mem_nil
  | late u =>
    refine absurd hmem ?_
    simp only [step]
    split
    · split
      · exact brokenOff_not_mem_abandon h _ (by simp)
      · exact List.not_mem_nil
    · exact List.not_mem_nil
  | station g e =>
    have hown : e.isOwn = false := by simpa [RelayEvent.isOutside] using hout
    have hstation := overflowed_of_brokenOff_station (v := v) h (exchanges_of_outside (g := g) hown)
    cases e with
    | elapse duration => cases hmem
    | _ => exact ⟨g, hstation hmem⟩
  | elapse duration =>
    simp only [step] at hmem
    split at hmem <;> cases hmem

/-- So it is in the course of a history. -/
theorem overflowed_of_brokenOff_history (h : r.Tied) (hout : ∀ o ∈ os, o.isOutside = true)
    (hmem : .brokenOff v ∈ (r.history os).2) :
    ∃ g, .station g (.overflowed v) ∈ (r.history os).2 := by
  induction os generalizing r with
  | nil => cases hmem
  | cons o rest ih =>
    obtain ⟨ho, hrest⟩ := List.forall_mem_cons.mp hout
    rw [history_cons] at hmem ⊢
    rcases List.mem_append.mp hmem with hmem | hmem
    · cases o with
      | delay duration => cases hmem
      | event ev =>
        obtain ⟨g, hg⟩ := overflowed_of_brokenOff h ho hmem
        exact ⟨g, List.mem_append_left _ hg⟩
    · obtain ⟨g, hg⟩ := ih (h.occur o ho) hrest hmem
      exact ⟨g, List.mem_append_right _ hg⟩

/-! ## The configurations that allow it -/

/-- What is brought about at a station of a relay that was built is what a history of a new station
brings about, the one of a target. -/
theorem mem_history_of_build {config : Config} {certificates : List Gateway.Certificate}
    (hbuild : build config certificates = .ok r₀) {f : Effect}
    (hmem : .station g f ∈ (r₀.history os).2) :
    ∃ t es, t ∈ (Registry.ofConfig config).targets ∧
      f ∈ ((Station.ofTarget t (.ofConfig config)).history es).2 := by
  -- All that is seen at a gateway is what its station does, which the configuration made.
  obtain ⟨cos, hdrives, -⟩ := r₀.history_drives os
  have hf := mem_effectsAt.mpr hmem
  rw [hdrives.effects g] at hf
  cases hs : r₀.client.station? g with
  | none =>
    rw [(Gateway.Client.station?_history_of_none hs cos).2] at hf
    cases hf
  | some s =>
    obtain ⟨-, -, hclient, -⟩ := parts_of_build hbuild
    have hin : s ∈ (Gateway.Client.ofRegistry (.ofConfig config) (.ofConfig config)).stations :=
      hclient ▸ List.mem_of_find?_eq_some hs
    obtain ⟨t, ht, rfl⟩ := List.mem_map.mp hin
    rw [(Gateway.Client.station?_history hs cos).2] at hf
    exact ⟨t, _, ht, hf⟩

/-- **An exchange breaks down only where a delay leaves no room** for its random part, the delay after
an attempt that is not the last one. -/
theorem overflowed_of_build {config : Config} {certificates : List Gateway.Certificate}
    (hbuild : build config certificates = .ok r₀) {x : Nat}
    (hmem : .station g (.overflowed x) ∈ (r₀.history os).2) :
    ∃ k < attemptsOf config, longest < delayOf config k := by
  obtain ⟨t, es, -, hf⟩ := mem_history_of_build hbuild hmem
  obtain ⟨before, o, after, rfl, heffect⟩ := Station.exists_occur_of_mem_history hf
  obtain ⟨hslots, -⟩ := Station.accounts_ofTarget t (.ofConfig config) before
  obtain ⟨e, rfl, hcourse⟩ := Station.course_of_effect hslots o heffect rfl (by simp)
  obtain ⟨k, delay, hdelay, hlong⟩ := hcourse.of_overflowed heffect
  rw [(Station.history_target _ before).2] at hdelay
  change (Gateway.Policy.ofConfig config).retry.nextDelay k = some delay at hdelay
  rw [Gateway.nextDelay_ofConfig] at hdelay
  split at hdelay
  · cases hdelay
  · next hmore =>
    obtain rfl := Option.some.inj hdelay
    exact ⟨k, Nat.not_le.mp hmore, hlong⟩

/-- **A visit is broken off only where an exchange can break down.** -/
theorem brokenOff_of_build {config : Config} {certificates : List Gateway.Certificate}
    (hbuild : build config certificates = .ok r₀) (hout : ∀ o ∈ os, o.isOutside = true)
    (hmem : .brokenOff v ∈ (r₀.history os).2) :
    ∃ k < attemptsOf config, longest < delayOf config k := by
  obtain ⟨g, hg⟩ := overflowed_of_brokenOff_history (isFresh_of_build hbuild).tied hout hmem
  exact overflowed_of_build hbuild hg

end Relay

end ObliviousRelay
