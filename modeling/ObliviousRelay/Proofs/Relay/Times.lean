import ObliviousRelay.Config.Rules
import ObliviousRelay.Proofs.Gateway.Moments
import ObliviousRelay.Proofs.Relay.Breakdown
import ObliviousRelay.Proofs.Relay.Dues
import ObliviousRelay.Proofs.Routing.Registry

/-!
# Configured times and what holds them

The times of a configuration are words of milliseconds. Sums of them are durations, whose seconds are
a word, and a duration from now on ends at a moment, whose seconds are a signed word. All that a relay
computes of its times fits, with one exception: the random part that is added to a delay.

- `maxDuration` and `maxMoment`: what a duration and a clock can hold.
- `Station.near_of_build`: the moments that a station has noted are at most a word ahead.
- `Relay.Fits`: what a relay has noted, and is about to note, fits; `Relay.configured_times_fit`.
-/

namespace ObliviousRelay

open Gateway (Station attemptsOf delayOf)
open Timing (maxWord saturate saturatingPower)
open Timing.Backoff (IsJitter withJitter? longest)

namespace Timing

/-- The longest duration: as many seconds as a word counts, and a part of one. -/
def maxDuration : Nat := maxWord * 1000 + 999

/-- The latest moment that a clock shows: as many seconds as a signed word counts, and a part of
one. -/
def maxMoment : Nat := (Nat.pow 2 63 - 1) * 1000 + 999

/-- The most attempts that can be counted. -/
def maxAttempt : Nat := Nat.pow 2 32 - 1

theorem toNat_le_maxWord (n : UInt64) : n.toNat ≤ maxWord := Nat.le_sub_one_of_lt n.toNat_lt

end Timing

open Timing (maxDuration maxMoment maxAttempt toNat_le_maxWord)

namespace Registry

variable {config : Config} {t : Target}

/-- **The times of a target are words.** -/
theorem times_le_maxWord (ht : t ∈ (ofConfig config).targets) :
    t.queueWait ≤ maxWord ∧ t.requestTimeout ≤ maxWord := by
  obtain ⟨g, -, hg⟩ := exists_gateway_of_mem ht
  obtain ⟨endpoint, -, rfl⟩ := Target.eq_of_ofGateway hg
  exact ⟨toNat_le_maxWord _, toNat_le_maxWord _⟩

end Registry

/-- No more attempts are allowed than can be counted. -/
theorem maxAttempts_le (c : Config.Retries) : (Timing.Retry.ofConfig c).maxAttempts ≤ maxAttempt :=
  max_le (Nat.le_sub_one_of_lt c.connectAttempts.toNat_lt) (by decide)

/-- In a round a station is asked for leases of the times of targets only. -/
theorem Round.asksWithin {r : Relay} {g : String} {s : Station} {o : RelayOccurrence}
    {es : List Gateway.Occurrence} {span : Nat} (h : Round r g s o es)
    (htimes : ∀ t ∈ r.engine.registry.targets, t.requestTimeout ≤ span) :
    ∀ o ∈ es, Station.AsksWithin span o := by
  have hnot : ∀ {e : Gateway.Event}, (∀ x timeout, e ≠ .request x timeout) →
      Station.AsksWithin span (.event e) := fun hne x timeout heq =>
    absurd (Gateway.Occurrence.event.inj heq) (hne x timeout)
  cases h with
  | idle => simp
  | told e more hown hno hreaction =>
    refine List.forall_mem_cons.mpr ⟨hnot ?_, ?_⟩
    · rintro x timeout rfl
      cases hown
    · cases hreaction with
      | quiet | breakDown => simp
      | use | giveBack => exact List.forall_mem_singleton.mpr (hnot (by simp))
  | asked v selector m t more hprepared hname hnone hmore =>
    refine List.forall_mem_cons.mpr ⟨?_, ?_⟩
    · -- The one lease that is asked for is for the target that was prepared.
      intro x timeout heq
      obtain ⟨-, rfl⟩ := Gateway.Event.request.inj (Gateway.Occurrence.event.inj heq)
      obtain ⟨hfind, -⟩ := Engine.of_prepare hprepared
      exact htimes t (List.mem_of_find?_eq_some hfind)
    · rcases hmore with rfl | rfl
      · simp
      · exact List.forall_mem_singleton.mpr (hnot (by simp))
  | dropped | elapse => exact List.forall_mem_singleton.mpr (hnot (by simp))
  | delay duration => exact List.forall_mem_singleton.mpr fun x timeout heq => by cases heq

namespace Relay

variable {r r₀ : Relay} {g : String} {s s' : Station} {os : List RelayOccurrence}
  {config : Config} {certificates : List Gateway.Certificate}

/-! ## What stations have noted -/

/-- Whatever happens to a relay keeps what its stations have noted near. -/
theorem near_history {span : Nat} (htied : r.Tied)
    (htimes : ∀ t ∈ r.engine.registry.targets, t.requestTimeout ≤ span)
    (hs : r.client.station? g = some s) (hnear : s.Near span)
    (hout : ∀ o ∈ os, o.isOutside = true)
    (hs' : (r.history os).1.client.station? g = some s') : s'.Near span := by
  induction os generalizing r s with
  | nil =>
    obtain rfl := Option.some.inj (hs.symm.trans hs')
    exact hnear
  | cons o rest ih =>
    obtain ⟨ho, hrest⟩ := List.forall_mem_cons.mp hout
    obtain ⟨es, hround, hstation, -⟩ := occur_round htied o ho hs
    refine ih (htied.occur o ho) ?_ hstation (hnear.history (hround.asksWithin htimes)) hrest hs'
    rwa [engine_occur]

/-- **The stations of a relay that was built** serve its targets under its policy, show its time, and
have noted nothing that is more than a word ahead. -/
theorem near_of_build (hbuild : build config certificates = .ok r₀)
    (hout : ∀ o ∈ os, o.isOutside = true)
    (hs : (r₀.history os).1.client.station? g = some s) :
    s.target ∈ (Registry.ofConfig config).targets ∧ s.policy = .ofConfig config ∧
      s.now = (r₀.history os).1.now ∧ s.Near maxWord := by
  have htied := (isFresh_of_build hbuild).tied
  obtain ⟨hengine, -, -, hnow⟩ := parts_of_build hbuild
  obtain ⟨t, ht, es, hs₀, rfl⟩ := origin_of_build hbuild hout hs
  obtain ⟨htarget, hpolicy⟩ := Station.history_target (.ofTarget t (.ofConfig config)) es
  refine ⟨htarget ▸ ht, hpolicy, clock_history htied hs₀ hnow.symm hout hs, ?_⟩
  refine near_history htied (fun t ht => ?_) hs₀ (Station.near_ofTarget ?_ ?_) hout hs
  · rw [hengine] at ht
    exact (Registry.times_le_maxWord ht).2
  · exact Nat.lt_of_lt_of_le Nat.one_pos (Nat.le_max_right _ _)
  · exact (Registry.times_le_maxWord ht).1

/-! ## Everything fits -/

/-- What a relay has noted, and what it is about to note of its clock and its times, can be held: all
moments by a clock, and the numbers of attempts, also of the next ones, by their counter. -/
structure Fits (r : Relay) : Prop where
  dues : ∀ v w due, r.visit? v = some w → w.due? = some due → due ≤ maxMoment
  turn : r.now + r.inboundTimeout ≤ maxMoment
  waits : ∀ g s w, r.client.station? g = some s → w ∈ s.pool.slots.waiting → w.expires ≤ maxMoment
  wait : ∀ g s, r.client.station? g = some s → s.now + s.target.queueWait ≤ maxMoment
  deadlines : ∀ g s x p d, r.client.station? g = some s → s.phase? x = some p →
    p.term? = some d → d.moment ≤ maxMoment
  deadline : ∀ g s x timeout, r.client.station? g = some s →
    s.phase? x = some (.granted timeout) → (Timing.Deadline.after s.now timeout).moment ≤ maxMoment
  bounds : ∀ g s x p moment, r.client.station? g = some s → s.phase? x = some p →
    p.timer? = some moment → moment ≤ maxMoment
  bound : ∀ g s, r.client.station? g = some s → s.now + s.policy.connectTimeout ≤ maxMoment
  attempts : ∀ g s x d purpose dial, r.client.station? g = some s →
    s.phase? x = some (.dialling d purpose dial) → dial.IsCounted maxAttempt

/-- The time of a visit is at most three words. -/
theorem inboundTimeoutOf_le_words (config : Config) :
    inboundTimeoutOf (.ofConfig config) config.timeouts.requestMs.toNat ≤ 3 * maxWord := by
  have hupload := toNat_le_maxWord config.timeouts.requestMs
  have hslowest : ∀ t ∈ (Registry.ofConfig config).targets,
      t.queueWait + t.requestTimeout ≤ 2 * maxWord := by
    intro t ht
    have htimes := Registry.times_le_maxWord ht
    omega
  have hmost : inboundTimeoutOf (.ofConfig config) config.timeouts.requestMs.toNat ≤
      2 * maxWord + config.timeouts.requestMs.toNat := inboundTimeoutOf_le hslowest
  omega

/-- **All moments fit**, as long as the clock is three words from its end. -/
theorem fits_of_build (hbuild : build config certificates = .ok r₀)
    (hout : ∀ o ∈ os, o.isOutside = true)
    (hroom : (r₀.history os).1.now + 3 * maxWord ≤ maxMoment) : (r₀.history os).1.Fits := by
  have htimeout : (r₀.history os).1.inboundTimeout ≤ 3 * maxWord := by
    rw [inboundTimeout_history hout]
    obtain ⟨routes, -, rfl⟩ := eq_of_build hbuild
    exact inboundTimeoutOf_le_words config
  -- A word from now on ends before the clock does.
  have hword : ∀ {g s}, (r₀.history os).1.client.station? g = some s →
      s.Near maxWord ∧ s.now + maxWord ≤ maxMoment := by
    intro g s hs
    obtain ⟨-, -, hclock, hnear⟩ := near_of_build hbuild hout hs
    exact ⟨hnear, by omega⟩
  refine ⟨fun v w due hw hdue => ?_, by omega, fun g s w hs hw => ?_, fun g s hs => ?_,
    fun g s x p d hs hp hd => ?_, fun g s x timeout hs hp => ?_, fun g s x p moment hs hp ht => ?_,
    fun g s hs => ?_, fun g s x d purpose dial hs hp => ?_⟩
  · obtain ⟨start, -, hstart, rfl⟩ := due_of_build hbuild hout hw hdue
    have hmost := inboundTimeoutOf_le_words config
    omega
  · obtain ⟨hnear, hroom⟩ := hword hs
    exact (hnear.queue w hw).trans hroom
  · obtain ⟨hnear, hroom⟩ := hword hs
    exact (Nat.add_le_add_left hnear.wait s.now).trans hroom
  · obtain ⟨hnear, hroom⟩ := hword hs
    exact ((hnear.phases x p hp).term d hd).trans hroom
  · obtain ⟨hnear, hroom⟩ := hword hs
    exact (Nat.add_le_add_left ((hnear.phases x _ hp).allowed timeout (.inr rfl)) s.now).trans hroom
  · obtain ⟨hnear, hroom⟩ := hword hs
    exact ((hnear.phases x p hp).timer moment ht).trans hroom
  · obtain ⟨-, hpolicy, -, -⟩ := near_of_build hbuild hout hs
    have hlimit : s.policy.connectTimeout ≤ maxWord := by
      rw [hpolicy]
      exact toNat_le_maxWord config.timeouts.connectMs
    exact (Nat.add_le_add_left hlimit s.now).trans (hword hs).2
  · obtain ⟨-, hpolicy, -, hnear⟩ := near_of_build hbuild hout hs
    have hcounted := (hnear.phases x _ hp).counted d purpose dial rfl
    have hmost : s.policy.retry.maxAttempts ≤ maxAttempt := by
      rw [hpolicy]
      exact maxAttempts_le config.retries
    obtain ⟨attempt, stage⟩ := dial
    cases stage with
    | connecting bound stops => exact Nat.le_trans hcounted hmost
    | pausing ending inTime => exact Nat.lt_of_lt_of_le hcounted hmost

/-- **Configured times fit, but for the random part of a delay.** For every configuration, whether or
not it meets its rules:

- The power and the product in a delay saturate: they are what they should be, or the largest word.
- The delay after every attempt has room in a word for every random part just under these settings:
  there is no delay at all, or none is above the longest one that has room.
- The longest wait and exchange of every target is a duration, and so is the time of a visit.
- In a relay that was built, whatever happens and whoever is late, every moment that was noted or is
  about to be noted is one that the clock can show, while it is three words from its end; and the
  attempts can be counted.
- No exchange breaks down and no visit is broken off, unless the delay after some attempt that is not
  the last one has no room for its random part. -/
theorem configured_times_fit (config : Config) :
    let base := config.retries.baseDelayMs
    let bound := config.retries.maxDelayMs
    (∀ exponent, saturatingPower exponent = saturate (2 ^ exponent) ∧
      saturatingPower exponent ≤ maxWord ∧
      saturate (base.toNat * saturatingPower exponent) ≤ maxWord) ∧
    ((∀ (attempt : UInt32) (jitter : Nat), IsJitter (delayOf config attempt.toNat) jitter →
      (withJitter? (delayOf config attempt.toNat) jitter).isSome = true) ↔
        base = 0 ∨ bound.toNat ≤ longest) ∧
    (∀ t ∈ (Registry.ofConfig config).targets, t.queueWait + t.requestTimeout ≤ maxDuration) ∧
    inboundTimeoutOf (.ofConfig config) config.timeouts.requestMs.toNat ≤ maxDuration ∧
    ∀ certificates r₀, build config certificates = .ok r₀ →
      ∀ os : List RelayOccurrence, (∀ o ∈ os, o.isOutside = true) →
        let r := (r₀.history os).1
        let effects := (r₀.history os).2
        (r.now + 3 * maxWord ≤ maxMoment → r.Fits) ∧
        (((∃ g x, .station g (.overflowed x) ∈ effects) ∨ ∃ v, .brokenOff v ∈ effects) →
          ∃ k < attemptsOf config, longest < delayOf config k) := by
  intro base bound
  have hduration : 3 * maxWord ≤ maxDuration := by decide
  refine ⟨fun exponent => ⟨Timing.saturatingPower_eq exponent, Timing.saturatingPower_le exponent,
    Timing.saturate_le _⟩, Timing.Backoff.delays_fit_iff base bound, fun t ht => ?_,
    (inboundTimeoutOf_le_words config).trans hduration, fun certificates r₀ hbuild os hout => ?_⟩
  -- A duration has room for three words, and these are two.
  · obtain ⟨hwait, htimeout⟩ := Registry.times_le_maxWord ht
    omega
  · refine ⟨fits_of_build hbuild hout, ?_⟩
    rintro (⟨g, x, hmem⟩ | ⟨v, hmem⟩)
    · exact overflowed_of_build hbuild hmem
    · exact brokenOff_of_build hbuild hout hmem

/-- All fits of a relay that has long been late with a visit that dials; its delays have room. -/
theorem configured_times_fit_overdue :
    let os : List RelayOccurrence := [.event (.arrive 0 { sampleHead with path := "/gateway" }),
      .event (.piece 0 (.bytes ⟨#[1]⟩)), .event (.uploaded 0),
      .event (.station "gateway" (.proceed 0)), .delay 1000000]
    (sampleBuilt.history os).1.Fits ∧ ∀ v, .brokenOff v ∉ (sampleBuilt.history os).2 := by
  intro os
  obtain ⟨-, -, -, -, hbuilt⟩ := configured_times_fit sampleConfig
  have hout : os.all (·.isOutside) = true := by decide
  obtain ⟨hfits, hbreaks⟩ := hbuilt _ _ build_sampleConfig os (List.all_eq_true.mp hout)
  refine ⟨hfits (by decide +kernel), fun v hmem => ?_⟩
  obtain ⟨k, -, hlong⟩ := hbreaks (.inr ⟨v, hmem⟩)
  -- No delay of this configuration is longer than half a second.
  have hshort : delayOf sampleConfig k ≤ 500 := Timing.Backoff.capped_le_bound _ _ _
  exact absurd (Nat.lt_of_lt_of_le hlong hshort) (by decide)

/-- The delays of this configuration are as long as a word allows. It breaks no rule. -/
def longestDelays : Config where
  retries := { connectAttempts := 2, baseDelayMs := 18446744073709551615
               maxDelayMs := 18446744073709551615 }
  gateways := [{ name := "gateway", endpoint := "http://[::1]/gateway" }]

/-- **The random part of a delay need not fit**, although the rules allow the delay: of two attempts,
the first one is followed by it. -/
theorem configured_delay_overflows :
    longestDelays.isValid = true ∧ 1 < attemptsOf longestDelays ∧
      ∃ jitter, IsJitter (delayOf longestDelays 1) jitter ∧
        withJitter? (delayOf longestDelays 1) jitter = none :=
  ⟨by decide +kernel, by decide, 1, .inl (by decide), by decide⟩

end Relay

end ObliviousRelay
