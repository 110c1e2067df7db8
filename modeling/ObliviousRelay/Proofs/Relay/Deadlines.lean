import ObliviousRelay.Proofs.Gateway.Failing
import ObliviousRelay.Proofs.Relay.Prompt

/-!
# One deadline for each exchange

A relay sends on a lease at once and gives it back at once, so the deadline of its exchange, which
was fixed when the slot was granted, bounds all of it. The clock does not pass the deadline before
the exchange was told; it is cut short then, whatever it waits for, and its connection is closed.

- `Phase.isCut`: what stops an exchange is its deadline; `Station.step_expire_of_isCut`.
- `Relay.Punctual`: all exchanges at a station are on time; `Punctual.history`.
- `Relay.one_deadline`: all of it, for every relay that is built.
-/

namespace ObliviousRelay

open Gateway (Station Effect Occurrence Chronicle Phase Connection Purpose Dial)
open Gateway.Station (Course GivesUp Discards IsBusy isAtRest TakesNoTime OnTime IsTimely)
open Timing (Deadline)

/-! ## Cut short by the deadline -/

/-- Whether it is the deadline that stops an exchange, if nothing else happens to it. -/
def Gateway.Phase.isCut : Phase → Bool
  | .dialling _ _ ⟨_, .connecting _ stops⟩ => stops = .deadline
  | .dialling _ _ ⟨_, .pausing _ inTime⟩ => !inTime
  | .readying _ _ _ | .offering _ _ _ _ | .reading _ _ _ _ _ => true
  | .queued _ | .granted _ | .held _ _ | .spent => false

/-- Whether an exchange is asking for its lease. -/
def Gateway.Phase.isLeasing : Phase → Bool
  | .dialling _ .lease _ => true
  | _ => false

namespace Gateway.Station

variable {s : Station} {x : Nat} {p : Phase} {e : Event} {effects : List Effect} {d : Deadline}

/-- An exchange that its deadline stops is due at the deadline. -/
theorem IsTimely.isDue {now : Nat} (h : IsTimely now p) (hcut : p.isCut = true)
    (hd : p.deadline? = some d) : p.timer? = some d.moment := by
  cases p with
  | queued | granted | held | spent => cases hcut
  | dialling d' purpose dial =>
    obtain rfl := Option.some.inj hd
    obtain ⟨attempt, stage⟩ := dial
    cases stage with
    | connecting bound stops =>
      cases stops with
      | limit => cases hcut
      | deadline => exact congrArg some h.2
    | pausing ending inTime =>
      cases inTime with
      | true => cases hcut
      | false => exact congrArg some (h.2.2 rfl)
  | readying | offering | reading => exact congrArg (Option.map _) hd

/-- To give up dialling at the deadline. -/
theorem giveUp_timeout (hs : s.SlotAccount) {purpose : Purpose} {dial : Dial}
    (hp : s.phase? x = some (.dialling d purpose dial)) :
    let out := s.giveUp x purpose .gatewayTimeout
    out.2.filter Effect.isFollowed = [.failed x .gatewayTimeout] ∧
      out.1.phase? x = if (Phase.dialling d purpose dial).isLeasing then none else some .spent := by
  cases purpose with
  | lease =>
    refine ⟨?_, hs.phase?_finish_self hp rfl⟩
    simp only [giveUp, andThen_eq, List.filter_append, filter_isFollowed_finish]
    rfl
  | offer | offerAgain => exact ⟨rfl, phase?_setPhase_self hp⟩

/-- **What the deadline does to an exchange.** It fails with a timeout and nothing else. A lease that
was only asked for is none, one that was in use has lost its connection, which is closed. -/
theorem step_expire_of_isCut (hs : s.SlotAccount) (hp : s.phase? x = some p)
    (htimely : IsTimely s.now p) (hcut : p.isCut = true) (hd : p.deadline? = some d)
    (hnow : s.now = d.moment) (draw : Nat) :
    let out := s.step (.expire x draw)
    out.2.filter Effect.isFollowed = [.failed x .gatewayTimeout] ∧
      out.1.phase? x = (if p.isLeasing then none else some .spent) ∧
      ∀ c, p.connection? = some c → .closed c.serial ∈ out.2 := by
  have hslot : p.hasSlot = true := by cases p <;> first | rfl | cases hcut
  rw [step_expire hp hslot (htimely.isDue hcut hd) hnow.ge]
  -- Dialling is given up, and a connection in use is closed.
  cases p with
  | queued | granted | held | spent => cases hcut
  | dialling d' purpose dial =>
    obtain ⟨hfailed, hphase⟩ := giveUp_timeout hs hp
    obtain ⟨attempt, stage⟩ := dial
    cases stage with
    | connecting bound stops =>
      cases stops with
      | limit => cases hcut
      | deadline => exact ⟨hfailed, hphase, by simp [Phase.connection?]⟩
    | pausing ending inTime =>
      cases inTime with
      | true => cases hcut
      | false => exact ⟨hfailed, hphase, by simp [Phase.connection?]⟩
  | readying c t | offering c t | reading c t =>
    refine ⟨rfl, phase?_setPhase_self (s := (s.close c).1) hp, fun c' hc' => ?_⟩
    obtain rfl := Option.some.inj hc'
    exact List.mem_cons_self

theorem GivesUp.isCut {dial : Dial} {f : Failure} (h : GivesUp s x e dial effects f)
    (hf : f = .gatewayTimeout) (d : Deadline) (purpose : Purpose) :
    ∃ draw, e = .expire x draw ∧ (Phase.dialling d purpose dial).isCut = true := by
  cases h with
  | exhausted => cases hf
  | deadline attempt bound draw => exact ⟨draw, rfl, rfl⟩
  | pause attempt ending draw => exact ⟨draw, rfl, rfl⟩

theorem Discards.isCut {c : Connection} {f : Failure} (h : Discards s x e p c f)
    (hf : f = .gatewayTimeout) : ∃ draw, e = .expire x draw ∧ p.isCut = true := by
  cases h with
  | timeout p c d draw hc hd =>
    refine ⟨draw, rfl, ?_⟩
    cases p with
    | readying | offering | reading => rfl
    | held => cases hd
    | queued | granted | dialling | spent => cases hc
  | _ => cases hf

/-- **Only who is told of its moment fails by the deadline**, and only where it is stopped by it. -/
theorem Course.of_timeout {p q : Option Phase} (h : Course s x e p q effects)
    (hmem : .failed x .gatewayTimeout ∈ effects) :
    ∃ r draw, e = .expire x draw ∧ p = some r ∧ r.isCut = true := by
  have hfailing := h.failing hmem
  generalize hf : Failure.gatewayTimeout = f at hfailing
  cases hfailing with
  | refuse | overdue | dead => cases hf
  | unsendable _ _ _ herror | unsendableAnew _ _ _ _ herror =>
    -- A message that cannot be sent fails otherwise.
    obtain ⟨detail, rfl⟩ := exists_of_wireRequest_error herror
    cases hf
  | discard hdiscards =>
    obtain ⟨draw, rfl, hcut⟩ := hdiscards.isCut hf.symm
    exact ⟨_, draw, rfl, rfl, hcut⟩
  | giveUp d purpose hgives =>
    obtain ⟨draw, rfl, hcut⟩ := hgives.isCut hf.symm d purpose
    exact ⟨_, draw, rfl, rfl, hcut⟩

/-- An exchange fails by the deadline at the deadline. -/
theorem now_of_timeout (hs : s.SlotAccount) (htimely : s.Timely)
    (hmem : .failed x .gatewayTimeout ∈ (s.step e).2) (hx : e.about? = some x) :
    ∃ p d, s.phase? x = some p ∧ p.isCut = true ∧ p.deadline? = some d ∧ s.now = d.moment := by
  obtain ⟨p, draw, rfl, hp, hcut⟩ := ((step_transition s e).course hs hx).of_timeout hmem
  have hslot : p.hasSlot = true := by cases p <;> first | rfl | cases hcut
  obtain ⟨d, hd⟩ : ∃ d, p.deadline? = some d := by
    cases p <;> first | exact ⟨_, rfl⟩ | cases hcut
  refine ⟨p, d, hp, hcut, hd, ?_⟩
  have hnow := (htimely x p hp).le_deadline (Phase.term?_of_deadline? hd)
  have htimer : s.timer? ⟨x, p⟩ = some d.moment :=
    (timer?_of_hasSlot hslot).trans ((htimely x p hp).isDue hcut hd)
  have hdue := isDue_of_timer? htimer
  by_cases hlate : d.moment ≤ s.now
  · exact Nat.le_antisymm hnow hlate
  · -- Who is not due is not stopped.
    rw [step_eq_act (x := x) rfl, hp] at hmem
    simp [isWord, act, hdue, hlate] at hmem

end Gateway.Station

/-! ## Relays that are on time -/

namespace Relay

variable {r r₀ : Relay} {g : String} {s s₀ : Station} {ev : RelayEvent} {evs : List RelayEvent}
  {told : Chronicle}

/-- What events bring about at a station of a relay, each effect with its moment. -/
def chronicle (r : Relay) (g : String) : List RelayEvent → Chronicle
  | [] => []
  | ev :: rest => .at r.now (effectsAt g (r.step ev).2) ++ (r.step ev).1.chronicle g rest

/-- What becomes of a relay by some events. Time passes only as far as nobody is late. -/
abbrev after (r : Relay) (evs : List RelayEvent) : Outcome := r.history (evs.map .event)

theorem outside_of_events (h : ∀ ev ∈ evs, ev.isOutside = true) :
    ∀ o ∈ evs.map RelayOccurrence.event, o.isOutside = true := by
  intro o ho
  obtain ⟨ev, hev, rfl⟩ := List.mem_map.mp ho
  exact h ev hev

/-- A station shows the time of its relay, has no unused lease, and all its exchanges are on time. -/
structure Punctual (r : Relay) (told : Chronicle) (s : Station) : Prop where
  clock : s.now = r.now
  inUse : s.InUse
  onTime : s.OnTime s.target.requestTimeout told

/-- **What happens in time keeps a station punctual.** -/
theorem Punctual.step (h : r.Punctual told s) (htied : r.Tied) (hserves : r.Serves)
    (hs : r.client.station? g = some s) (hout : ev.isOutside = true) :
    ∃ s', (r.step ev).1.client.station? g = some s' ∧
      (r.step ev).1.Punctual (told ++ .at r.now (effectsAt g (r.step ev).2)) s' := by
  by_cases helapse : ∃ duration, ev = .elapse duration
  · obtain ⟨duration, rfl⟩ := helapse
    by_cases hmay : r.mayElapse (r.now + duration) = true
    · -- The stations let the time pass, too.
      simp only [Relay.step, if_pos hmay]
      refine ⟨_, by rw [Gateway.Client.station?_elapse, hs]; rfl, ?_⟩
      rw [show told ++ .at r.now (effectsAt g []) = told from List.append_nil told]
      have hall := (Bool.and_eq_true _ _ ▸ hmay).1
      have hstation := List.all_eq_true.mp hall s (List.mem_of_find?_eq_some hs)
      rw [← h.clock] at hstation
      have htarget := (Station.step_transition s (.elapse duration)).target.1
      refine ⟨?_, h.inUse.step h.onTime.slots (by rw [Station.effects_of_about_none rfl]; rfl), ?_⟩
      · simp only [Station.step, if_pos hstation]
        exact congrArg (· + duration) h.clock
      · rw [htarget]
        exact h.onTime.elapse h.inUse duration
    · simp only [Relay.step, if_neg hmay]
      refine ⟨s, hs, ?_⟩
      rwa [show told ++ .at r.now (effectsAt g []) = told from List.append_nil told]
  · have hno : ∀ duration, ev ≠ .elapse duration := fun duration heq => helapse ⟨duration, heq⟩
    obtain ⟨es, hround, hstation, heffects⟩ := occur_round htied (.event ev) hout hs
    have hnone : ∀ duration, RelayOccurrence.event ev ≠ .delay duration := by simp
    obtain ⟨hontime, hnow⟩ := h.onTime.events
      (hround.takesNoTime hserves hs hnone fun duration heq =>
        hno duration (RelayOccurrence.event.inj heq))
    refine ⟨_, hstation, (hnow.trans h.clock).trans (now_step r hno).symm,
      hround.inUse h.onTime.slots h.inUse hnone, ?_⟩
    change effectsAt g (r.step ev).2 = _ at heffects
    rw [(Station.history_target s es).1, heffects, ← h.clock]
    exact hontime

/-- **A punctual station remains so**, whatever happens in time. -/
theorem Punctual.history (h : r.Punctual told s) (htied : r.Tied) (hserves : r.Serves)
    (hs : r.client.station? g = some s) (hout : ∀ ev ∈ evs, ev.isOutside = true) :
    ∃ s', (r.after evs).1.client.station? g = some s' ∧
      (r.after evs).1.Punctual (told ++ r.chronicle g evs) s' := by
  induction evs generalizing r s told with
  | nil => exact ⟨s, hs, by rwa [chronicle, List.append_nil]⟩
  | cons ev rest ih =>
    have hev := hout ev List.mem_cons_self
    obtain ⟨s', hs', hpunctual⟩ := h.step htied hserves hs hev
    have hone : ∀ o ∈ [RelayOccurrence.event ev], o.isOutside = true :=
      fun o ho => List.mem_singleton.mp ho ▸ hev
    have hserves' : (r.step ev).1.Serves := hserves.history htied hone
    have hrest := ih hpunctual (htied.step ev hev) hserves' hs' fun ev hmem =>
      hout ev (List.mem_cons_of_mem _ hmem)
    rwa [chronicle, ← List.append_assoc]

/-- No station comes or goes. -/
theorem isSome_station?_step (r : Relay) (ev : RelayEvent) (g : String) :
    ((r.step ev).1.client.station? g).isSome = (r.client.station? g).isSome := by
  by_cases helapse : ∃ duration, ev = .elapse duration
  · obtain ⟨duration, rfl⟩ := helapse
    simp only [step]
    split
    · rw [Gateway.Client.station?_elapse, Option.isSome_map]
    · rfl
  · have hno : ∀ duration, ev ≠ .elapse duration := fun duration heq => helapse ⟨duration, heq⟩
    have hframe := congrArg Frame.gateways (frame_step r hno)
    change (r.step ev).1.client.stations.map (·.target.name) = _ at hframe
    rw [Bool.eq_iff_iff, Gateway.Client.isSome_station?_iff, Gateway.Client.isSome_station?_iff,
      hframe]
    rfl

theorem isSome_station?_after (r : Relay) (evs : List RelayEvent) (g : String) :
    ((r.after evs).1.client.station? g).isSome = (r.client.station? g).isSome := by
  induction evs generalizing r with
  | nil => rfl
  | cons ev rest ih => exact (ih (r.step ev).1).trans (isSome_station?_step r ev g)

/-- Every station of a relay that was built is punctual, whatever has happened in time. -/
theorem punctual_of_build {config : Config} {certificates : List Gateway.Certificate}
    (hbuild : build config certificates = .ok r₀) (hout : ∀ ev ∈ evs, ev.isOutside = true)
    (hs : (r₀.after evs).1.client.station? g = some s) :
    ∃ s₀, r₀.client.station? g = some s₀ ∧ (r₀.after evs).1.Punctual (r₀.chronicle g evs) s := by
  have hfresh := isFresh_of_build hbuild
  obtain ⟨-, -, -, hnow⟩ := parts_of_build hbuild
  obtain ⟨s₀, hs₀⟩ : ∃ s₀, r₀.client.station? g = some s₀ := by
    rw [← Option.isSome_iff_exists, ← isSome_station?_after r₀ evs g, hs]
    rfl
  obtain ⟨target, policy, rfl⟩ := hfresh.stations g s₀ hs₀
  have hpunctual : r₀.Punctual [] (.ofTarget target policy) :=
    ⟨hnow.symm, fun _ _ hp => (by cases hp), Station.onTime_ofTarget target policy _⟩
  obtain ⟨s', hs', hlater⟩ := hpunctual.history hfresh.tied (serves_of_build hbuild) hs₀ hout
  obtain rfl := Option.some.inj (hs.symm.trans hs')
  exact ⟨_, hs₀, by rwa [List.nil_append] at hlater⟩

/-! ## The deadline -/

/-- A chronicle tells what is brought about. -/
theorem mem_chronicle {entry : Nat × Effect} (h : entry ∈ r.chronicle g evs) :
    entry.2 ∈ effectsAt g (r.after evs).2 := by
  induction evs generalizing r with
  | nil => cases h
  | cons ev rest ih =>
    have hcons : effectsAt g (r.after (ev :: rest)).2 =
        effectsAt g (r.step ev).2 ++ effectsAt g ((r.step ev).1.after rest).2 :=
      effectsAt_append g _ _
    rw [hcons, List.mem_append]
    rcases List.mem_append.mp h with h | h
    · obtain ⟨f, hf, rfl⟩ := List.mem_map.mp h
      exact .inl hf
    · exact .inr (ih h)

/-- An exchange that keeps its slot is not granted another one. -/
theorem slotSince_of_unfreed {x : Nat} (htied : r.Tied) (hs : r.client.station? g = some s)
    (hholds : s.holdsSlot x = true) (hout : ∀ ev ∈ evs, ev.isOutside = true)
    (hfreed : .freed x ∉ effectsAt g (r.after evs).2) :
    Chronicle.slotSince (told ++ r.chronicle g evs) x = told.slotSince x := by
  obtain ⟨es, -, heffects⟩ := history_does htied hs (outside_of_events hout)
  have hbalance : (effectsAt g (r.after evs).2).count (.granted x) + (s.holdsSlot x).toNat =
      (effectsAt g (r.after evs).2).count (.freed x) + ((s.history es).1.holdsSlot x).toNat := by
    rw [heffects]
    exact Station.count_slots_history (htied.slots g s hs) es x
  -- So the slots granted meanwhile are none.
  have hgranted : (effectsAt g (r.after evs).2).count (.granted x) = 0 := by
    have hone := Bool.toNat_le ((s.history es).1.holdsSlot x)
    rw [List.count_eq_zero.mpr hfreed, hholds, Bool.toNat_true] at hbalance
    omega
  apply Chronicle.slotSince_append_of_quiet
  intro entry hentry
  have hmem := mem_chronicle hentry
  exact ⟨fun heq => List.count_eq_zero.mp hgranted (heq ▸ hmem), fun heq => hfreed (heq ▸ hmem)⟩

/-- Two events that do the same at their station make the relay do the same. -/
theorem station_congr {e e' : Gateway.Event} (hs : r.client.station? g = some s)
    (h : s.step e = s.step e') : r.station g e = r.station g e' := by
  have hclient : r.client.step g e = r.client.step g e' := by
    simp only [Gateway.Client.step, hs, h]
  simp only [station, atStation, hclient]

/-- The deadline cuts an exchange short: its lease or its message fails with a timeout and with
nothing else. A lease that was in use is left without a connection, and the relay is done with the
exchange. Its connection is closed, and is neither idle nor in use ever after. -/
structure CutShort (r : Relay) (g : String) (s : Station) (x : Nat) (p : Phase) (draw : Nat) :
    Prop where
  failed : (effectsAt g (r.step (.station g (.expire x draw))).2).filter Effect.isFollowed =
    [.failed x .gatewayTimeout]
  lease : (s.step (.expire x draw)).1.phase? x = if p.isLeasing then none else some .spent
  gone : ∀ s', (r.step (.station g (.expire x draw))).1.client.station? g = some s' →
    s'.phase? x = none
  unpooled : ∀ c, p.connection? = some c → ∀ more : List RelayOccurrence,
    (∀ o ∈ more, o.isOutside = true) → ∀ s',
    ((r.step (.station g (.expire x draw))).1.history more).1.client.station? g = some s' →
      s'.idleCount c.serial = 0 ∧ s'.ownersOf c.serial = 0

/-- An attempt to connect is cut short by its own limit, before the deadline: it has failed like one
that is refused, and uses up one of the attempts. -/
structure SpendsAttempt (r : Relay) (g : String) (s : Station) (x : Nat) (d : Deadline)
    (purpose : Purpose) (attempt draw : Nat) : Prop where
  refused : r.step (.station g (.expire x draw)) =
    r.step (.station g (.refused x "connect timed out" draw))
  untimed : .failed x .gatewayTimeout ∉ effectsAt g (r.step (.station g (.expire x draw))).2
  spent : isAtRest ((s.step (.expire x draw)).1.phase? x) = true ∨
    (attempt < s.policy.retry.maxAttempts ∧ ∃ ending inTime, (s.step (.expire x draw)).1.phase? x =
      some (.dialling d purpose ⟨attempt, .pausing ending inTime⟩))

/-- What a relay does when the deadline of an exchange cuts it short. -/
theorem expire_round {x draw : Nat} (htied : r.Tied) (hs : r.client.station? g = some s)
    (hone : (s.step (.expire x draw)).2.filter Effect.isFollowed = [.failed x .gatewayTimeout]) :
    Does g s (r.step (.station g (.expire x draw)))
      [.event (.expire x draw), .event (.release x)] := by
  obtain ⟨es, hround, hdoes⟩ := occur_round htied (.event (.station g (.expire x draw))) rfl hs
  -- Of the reactions, only to give the lease back fits what failed.
  cases hround with
  | idle o hdelay hword => exact absurd rfl (hword (.expire x draw) rfl (by simp))
  | dropped v o ho => rcases ho with ho | ho <;> cases ho
  | told e more hown helapse hreaction =>
    cases hreaction with
    | quiet hquiet => exact absurd (hquiet.symm.trans hone) (by simp)
    | use y reused w due m hone' => exact absurd (hone'.symm.trans hone) (by simp)
    | breakDown y hone' => exact absurd (hone'.symm.trans hone) (by simp)
    | giveBack y f hone' hf =>
      obtain rfl : f = .failed x .gatewayTimeout := List.singleton_inj.mp (hone'.symm.trans hone)
      obtain ⟨reply, reused, heq⟩ | ⟨failure, heq⟩ := hf
      · cases heq
      · obtain ⟨rfl, -⟩ := Effect.failed.inj heq
        exact hdoes

/-- **The deadline cuts short** whatever an exchange waits for. -/
theorem cutShort_of_isCut {x draw : Nat} {p : Phase} {d : Deadline} {evs : List RelayEvent}
    (hfresh : r₀.IsFresh) (hout : ∀ ev ∈ evs, ev.isOutside = true)
    (hs : (r₀.after evs).1.client.station? g = some s) (h : (r₀.after evs).1.Punctual told s)
    (hs₀ : r₀.client.station? g = some s₀)
    (hp : s.phase? x = some p) (hcut : p.isCut = true)
    (hd : p.deadline? = some d) (hnow : s.now = d.moment) :
    (r₀.after evs).1.CutShort g s x p draw := by
  have hpast := outside_of_events hout
  have htied : (r₀.after evs).1.Tied := hfresh.tied.history hpast
  obtain ⟨hfailed, hlease, hclosed⟩ :=
    Station.step_expire_of_isCut h.onTime.slots hp (h.onTime.timely x p hp) hcut hd hnow draw
  have hslots : (s.step (.expire x draw)).1.SlotAccount :=
    h.onTime.slots.transition (Station.step_transition s _)
  obtain ⟨hstation, heffects⟩ := expire_round htied hs hfailed
  refine ⟨?_, hlease, fun s' hs' => ?_, fun c hc more hmore s' hs' => ?_⟩
  · -- To give the lease back is not followed.
    have hcourse := (Station.step_transition _ (.release x)).course (x := x) hslots rfl
    have hquiet := hcourse.filter_isFollowed rfl (by simp) (by simp)
    rw [heffects]
    show ((s.step (.expire x draw)).2 ++
      (((s.step (.expire x draw)).1.step (.release x)).2 ++ [])).filter Effect.isFollowed = _
    rw [List.append_nil, List.filter_append, hfailed, hquiet]
    rfl
  · obtain rfl := Option.some.inj (hstation.symm.trans hs')
    apply Station.gone_of_release hslots
    rw [hlease]
    split <;> rfl
  · obtain ⟨target, policy, rfl⟩ := hfresh.stations g s₀ hs₀
    -- The whole past of the station tells where its connections are.
    have hall : ∀ o ∈ evs.map RelayOccurrence.event ++
        .event (.station g (.expire x draw)) :: more, o.isOutside = true := by
      intro o ho
      rcases List.mem_append.mp ho with ho | ho
      · exact hpast o ho
      · rcases List.mem_cons.mp ho with rfl | ho
        · rfl
        · exact hmore o ho
    obtain ⟨es, hlater, htold⟩ := history_does hfresh.tied hs₀ hall
    rw [history_append, history_cons] at hlater htold
    obtain rfl := Option.some.inj (hlater.symm.trans hs')
    obtain ⟨-, hconn⟩ := Station.accounts_ofTarget target policy es
    apply hconn.of_closed
    rw [← htold, effectsAt_append, effectsAt_append]
    refine List.mem_append_right _ (List.mem_append_left _ ?_)
    show _ ∈ effectsAt g ((r₀.after evs).1.step (.station g (.expire x draw))).2
    rw [heffects]
    exact List.mem_append_left _ (hclosed c hc)

/-- **A deadline is not moved** as long as the slot is held. -/
theorem deadline_unmoved {x : Nat} {p p' : Phase} {d d' : Deadline} {s' : Station}
    (h : r.Punctual told s) (htied : r.Tied) (hserves : r.Serves)
    (hs : r.client.station? g = some s) (hp : s.phase? x = some p) (hd : p.deadline? = some d)
    (hout : ∀ ev ∈ evs, ev.isOutside = true) (hfreed : .freed x ∉ effectsAt g (r.after evs).2)
    (hs' : (r.after evs).1.client.station? g = some s') (hp' : s'.phase? x = some p')
    (hd' : p'.deadline? = some d') : d' = d := by
  obtain ⟨s'', hs'', hlater⟩ := h.history htied hserves hs hout
  obtain rfl := Option.some.inj (hs'.symm.trans hs'')
  -- Both are told by the grant of the slot and the time that the target allows.
  have hfixed := (h.onTime.dated x p hp).deadline d (Phase.term?_of_deadline? hd)
  have hlaterFixed := (hlater.onTime.dated x p' hp').deadline d' (Phase.term?_of_deadline? hd')
  have hslot : p.hasSlot = true := by cases p <;> first | rfl | cases hd
  have hholds := (Station.holdsSlot_of_phase? hp).trans hslot
  have htarget : s'.target = s.target := by
    obtain ⟨es, hstation, -⟩ := history_does htied hs (outside_of_events hout)
    obtain rfl := Option.some.inj (hstation.symm.trans hs')
    exact (Station.history_target s es).1
  rw [slotSince_of_unfreed htied hs hholds hout hfreed, htarget, hfixed] at hlaterFixed
  exact congrArg Deadline.mk (Option.some.inj hlaterFixed).symm

/-- **Nothing but the deadline makes a lease or a message fail with a timeout.** -/
theorem isCut_of_timeout {x : Nat} (htied : r.Tied) (hs : r.client.station? g = some s)
    (h : r.Punctual told s) (hout : ev.isOutside = true)
    (hmem : .station g (.failed x .gatewayTimeout) ∈ (r.step ev).2) :
    ∃ p d, s.phase? x = some p ∧ p.isCut = true ∧ p.deadline? = some d ∧ r.now = d.moment := by
  obtain ⟨es, hround, hdoes⟩ := occur_round htied (.event ev) hout hs
  have hfailed := mem_effectsAt.mpr hmem
  rw [show effectsAt g (r.step ev).2 = (s.history es).2 from hdoes.2] at hfailed
  obtain ⟨before, o, after, hes, heffect⟩ := Station.exists_occur_of_mem_history hfailed
  obtain ⟨e, rfl, hcourse⟩ :=
    Station.course_of_effect (h.onTime.slots.history before) o heffect rfl (by simp)
  obtain ⟨p, draw, rfl, -, -⟩ := hcourse.of_timeout heffect
  -- That the moment has come is told from outside, so it is what the round begins with.
  obtain ⟨rfl, -, -⟩ := hround.front hes rfl (by simp)
  rw [← h.clock]
  exact Station.now_of_timeout h.onTime.slots h.onTime.timely heffect rfl

/-- **One deadline bounds the whole exchange.** For every relay that is built from a configuration,
whatever clients, gateways and the network do and in whatever time, an exchange that is bounded by a
deadline has the one of the grant of its slot:

- It lies as far behind that grant as the target allows, and is the same as long as the slot is held.
- The clock does not pass it while a lease is asked for or a message is under way.
- It cuts short whatever is under way, and nothing else fails with a timeout.
- An attempt to connect that has a limit of its own has it before the deadline. It is not cut short by
  the deadline, but spends one of the attempts; the next one has the next number. -/
theorem one_deadline {config : Config} {certificates : List Gateway.Certificate}
    (hbuild : build config certificates = .ok r₀) (evs : List RelayEvent)
    (hout : ∀ ev ∈ evs, ev.isOutside = true) (g : String) (s : Station) (x : Nat) (p : Phase)
    (d : Deadline) (hs : (r₀.after evs).1.client.station? g = some s)
    (hp : s.phase? x = some p) (hd : p.deadline? = some d) :
    let r := (r₀.after evs).1
    ((r₀.chronicle g evs).slotSince x).map (· + s.target.requestTimeout) = some d.moment ∧
    (∀ more : List RelayEvent, (∀ ev ∈ more, ev.isOutside = true) →
      .freed x ∉ effectsAt g (r.after more).2 → ∀ s' p' d',
      (r.after more).1.client.station? g = some s' → s'.phase? x = some p' →
      p'.deadline? = some d' → d' = d) ∧
    r.now ≤ d.moment ∧
    (p.isCut = true → r.now = d.moment → ∀ draw, r.CutShort g s x p draw) ∧
    (∀ ev : RelayEvent, ev.isOutside = true →
      .station g (.failed x .gatewayTimeout) ∈ (r.step ev).2 → p.isCut = true ∧ r.now = d.moment) ∧
    (∀ purpose attempt bound, p = .dialling d purpose ⟨attempt, .connecting bound .limit⟩ →
      bound < d.moment ∧
        (r.now = bound → ∀ draw, r.SpendsAttempt g s x d purpose attempt draw)) ∧
    ∀ purpose attempt ending, p = .dialling d purpose ⟨attempt, .pausing ending true⟩ →
      r.now = ending → ∀ draw, ∃ bound stops, (s.step (.expire x draw)).1.phase? x =
        some (.dialling d purpose ⟨attempt + 1, .connecting bound stops⟩) := by
  intro r
  have hfresh := isFresh_of_build hbuild
  obtain ⟨s₀, hs₀, h⟩ := punctual_of_build hbuild hout hs
  have hpast := outside_of_events hout
  have htied : r.Tied := hfresh.tied.history hpast
  have hterm := Phase.term?_of_deadline? hd
  have htimely := h.onTime.timely x p hp
  have hfixed := (h.onTime.dated x p hp).deadline d hterm
  have hclock : s.now = r.now := h.clock
  -- A timeout is of an exchange that the deadline cuts short; this is the only one of its number.
  have honly : ∀ ev : RelayEvent, ev.isOutside = true →
      .station g (.failed x .gatewayTimeout) ∈ (r.step ev).2 →
      p.isCut = true ∧ r.now = d.moment := by
    intro ev hev hmem
    obtain ⟨p', d', hp', hcut, hd', hnow⟩ := isCut_of_timeout htied hs h hev hmem
    obtain rfl := Option.some.inj (hp.symm.trans hp')
    obtain rfl := Option.some.inj (hd.symm.trans hd')
    exact ⟨hcut, hnow⟩
  refine ⟨hfixed, fun more hmore hfreed s' p' d' hs' hp' hd' => ?_,
    hclock ▸ htimely.le_deadline hterm, fun hcut hnow draw => ?_, honly, ?_, ?_⟩
  · have hserves : r.Serves := (serves_of_build hbuild).history hfresh.tied hpast
    exact deadline_unmoved h htied hserves hs hp hd hmore hfreed hs' hp' hd'
  · exact cutShort_of_isCut hfresh hout hs h hs₀ hp hcut hd (hclock.trans hnow)
  · rintro purpose attempt bound rfl
    refine ⟨htimely.2, fun hnow draw => ?_⟩
    -- What the limit stops is treated as if it had been refused.
    have hstep := Station.step_expire_of_limit hp (hclock.trans hnow).ge draw
    refine ⟨station_congr hs hstep, fun hmem => ?_, ?_⟩
    · obtain ⟨hcut, -⟩ := honly (.station g (.expire x draw)) rfl (mem_effectsAt.mp hmem)
      cases hcut
    · rw [hstep]
      exact Station.phase?_of_refused h.onTime.slots hp _ draw
  · rintro purpose attempt ending rfl hnow draw
    exact Station.phase?_of_pause hp (hclock.trans hnow).ge draw

/-- A message that is sent is cut short by the deadline; an attempt to connect, by its own limit. -/
theorem one_deadline_twice :
    let atGateway (e : Gateway.Event) : RelayEvent := .station "gateway" e
    let asked := [.arrive 0 { sampleHead with path := "/gateway" }, .piece 0 (.bytes ⟨#[1]⟩),
      .uploaded 0, atGateway (.proceed 0)]
    let sent := (sampleBuilt.after (asked ++ [atGateway (.connected 0), .elapse 10000])).1
    let dialled := (sampleBuilt.after (asked ++ [.elapse 2000])).1
    (∃ s p, sent.CutShort "gateway" s 0 p 0) ∧
      ∃ s d, dialled.SpendsAttempt "gateway" s 0 d .lease 1 0 := by
  intro atGateway asked sent dialled
  have houtside : ∀ more : List RelayEvent, (∀ ev ∈ more, ev.isOutside = true) →
      ∀ ev ∈ asked ++ more, ev.isOutside = true := by
    intro more hmore ev hev
    rcases List.mem_append.mp hev with hev | hev
    · have hasked : asked.all (·.isOutside) = true := by decide
      exact List.all_eq_true.mp hasked ev hev
    · exact hmore ev hev
  constructor
  · -- The message is sent, and at its deadline it is cut short.
    have hlook : ((sent.client.station? "gateway").bind (·.phase? 0)).map
        (fun p => (p.deadline?, p.isCut)) = some (some ⟨10000⟩, true) := by decide +kernel
    obtain ⟨p, hphase, hparts⟩ := Option.map_eq_some_iff.mp hlook
    obtain ⟨s, hs, hp⟩ := Option.bind_eq_some_iff.mp hphase
    obtain ⟨hd, hcut⟩ := Prod.mk.inj hparts
    obtain ⟨-, -, -, hshort, -⟩ := one_deadline build_sampleConfig _
      (houtside _ (by simp [atGateway, RelayEvent.isOutside, Gateway.Event.isOwn])) "gateway" s 0 p
      ⟨10000⟩ hs hp hd
    exact ⟨s, p, hshort hcut (by decide +kernel) 0⟩
  · -- The attempt is still going on at its own limit, long before the deadline.
    have hlook : (dialled.client.station? "gateway").bind (·.phase? 0) =
        some (.dialling ⟨10000⟩ .lease ⟨1, .connecting 2000 .limit⟩) := by decide +kernel
    obtain ⟨s, hs, hp⟩ := Option.bind_eq_some_iff.mp hlook
    obtain ⟨-, -, -, -, -, hlimit, -⟩ := one_deadline build_sampleConfig _
      (houtside _ (by simp [RelayEvent.isOutside])) "gateway" s 0 _ ⟨10000⟩ hs hp rfl
    exact ⟨s, ⟨10000⟩, (hlimit .lease 1 2000 rfl).2 (by decide +kernel) 0⟩

end Relay

end ObliviousRelay
