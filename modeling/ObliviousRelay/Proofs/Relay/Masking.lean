import ObliviousRelay.Proofs.Relay.Answers
import ObliviousRelay.Proofs.Relay.Deadlines

/-!
# What a gateway says is not passed on

A client that waits for the reply of its gateway is answered with the judgement on what the gateway
says, and with nothing else. Whatever is not an encapsulated response is judged alike, so a gateway
can tell the client nothing but by an answer with success.

- `Speech`: a reply in full, as it is said; `Speech.judge`: how it is judged.
- `Relay.Awaits`: a visit waits for a reply, in time; `Awaits.judged`: it is answered with the
  judgement.
- `Relay.detail_not_revealed`: all of it, for every relay that is built.
-/

namespace ObliviousRelay

open Gateway (Station Effect Occurrence Phase Connection Terms)
open Gateway.Station (isWord)
open Timing (Deadline)

/-! ## Replies -/

theorem joined_cons (chunk : ByteArray) (rest : List ByteArray) :
    joined (chunk :: rest) = chunk ++ joined rest := by
  have hfold : ∀ (rest : List ByteArray) (read : ByteArray),
      rest.foldl (· ++ ·) read = read ++ joined rest := by
    intro rest
    induction rest with
    | nil => exact fun read => ByteArray.append_empty.symm
    | cons b rest ih =>
      intro read
      rw [joined, List.foldl_cons, List.foldl_cons, ih, ih, ByteArray.append_assoc,
        ByteArray.empty_append]
  rw [joined, List.foldl_cons, hfold, ByteArray.empty_append]

/-- What a gateway says in reply to a request: a head, a body in pieces, and its end. -/
structure Speech where
  status : Http.Status
  contentType : Option String
  pieces : List ByteArray
  /-- With which error the body is broken off, if it is. -/
  broken : Option String := none

namespace Speech

variable {e : Engine} {ρ : Speech}

/-- The whole body. -/
def body (ρ : Speech) : ByteArray := joined ρ.pieces

/-- How the body ends. -/
def ending (ρ : Speech) (v : Nat) : Gateway.Event :=
  match ρ.broken with
  | none => .ended v
  | some error => .cutOff v error

/-- A reply as it is said, word by word. -/
def words (ρ : Speech) (v : Nat) : List Gateway.Event :=
  .answered v ρ.status ρ.contentType :: (ρ.pieces.map (.received v ·) ++ [ρ.ending v])

/-- How a reply is judged: its body has to be read first. -/
def judge (ρ : Speech) (e : Engine) : Except Failure Message :=
  if e.maxResponseSize < ρ.body.size then .error (.gatewayError "length limit exceeded")
  else match ρ.broken with
    | some error => .error (.gatewayError error)
    | none => e.interpret ⟨ρ.status, ρ.contentType, ρ.body⟩

/-- A reply that is no encapsulated response within a bound. -/
inductive IsRejected (bound : Nat) (ρ : Speech) : Prop where
  | status (h : ρ.status.isSuccess = false)
  | untyped (h : ρ.contentType = none)
  /-- The declared type cannot be parsed, or is another one. -/
  | mistyped (declared : String) (h : ρ.contentType = some declared)
      (hparse : MediaType.parse? declared ≠ some .response)
  | empty (h : ρ.body.size = 0)
  | tooLong (h : bound < ρ.body.size)
  | brokenOff (error : String) (h : ρ.broken = some error)

/-- **A rejected reply is judged the gateway's error.** -/
theorem judge_of_isRejected (h : ρ.IsRejected e.maxResponseSize) :
    ∃ detail, ρ.judge e = .error (.gatewayError detail) := by
  unfold judge
  -- What is too long or breaks off fails while it is read; the rest is interpreted.
  split
  · exact ⟨_, rfl⟩
  · next hbound =>
    split
    · next error hbroken => exact ⟨error, rfl⟩
    · next hwhole =>
      cases hjudged : e.interpret ⟨ρ.status, ρ.contentType, ρ.body⟩ with
      | error f =>
        obtain ⟨detail, -, rfl⟩ := Engine.interpret_eq_error_iff.mp hjudged
        exact ⟨detail, rfl⟩
      | ok m =>
        -- What passes has none of the faults.
        exfalso
        obtain ⟨hsuccess, hdeclared, -, hpos, -⟩ := Engine.of_interpret hjudged
        cases h with
        | status h => exact absurd hsuccess (by simp [h])
        | untyped h =>
          have hnone : MediaType.parse? "" ≠ some .response := by decide
          rw [h] at hdeclared
          exact hnone hdeclared
        | mistyped declared h hparse =>
          rw [h] at hdeclared
          exact hparse hdeclared
        | empty h => exact absurd h (Nat.ne_of_gt hpos)
        | tooLong h => exact hbound h
        | brokenOff error h => exact absurd (hwhole.symm.trans h) (by simp)

end Speech

/-! ## One station -/

/-- The deadline of a reply that is awaited, or has begun. -/
def Gateway.Phase.reply? : Phase → Option Deadline
  | .offering _ t _ _ => some t.deadline
  | .reading _ t _ _ _ => some t.deadline
  | _ => none

namespace Gateway.Station

variable {s : Station} {x : Nat} {p : Phase} {d : Deadline} {e : Event} {es : List Occurrence}

/-- As long as there is time, an exchange that waits for a reply goes on by the gateway's words
only. -/
theorem step_of_not_word (hp : s.phase? x = some p) (hd : p.reply? = some d)
    (hnow : s.now < d.moment) (hx : e.about? = some x) (hown : e.isOwn = false)
    (hword : isWord e = false) : s.step e = (s, []) := by
  -- Its timer is the deadline, so the clock has nothing to say yet.
  have hdue : s.isDue ⟨x, p⟩ = false := by
    cases p with
    | offering c t r again | reading c t status contentType body =>
      obtain rfl := Option.some.inj hd
      simpa [isDue, timer?, Phase.timer?, Phase.deadline?] using hnow
    | _ => cases hd
  cases e with
  | request | send | release | drop => cases hown
  | returned | failed | answered | received | ended | cutOff => cases hword
  | lose | elapse => cases hx
  | proceed y | connected y | refused y | ready y | unready y | expire y =>
    obtain rfl := Option.some.inj hx
    rw [step_eq_act (x := y) rfl, hp]
    cases p with
    | offering | reading => simp [isWord, act, hdue]
    | _ => cases hd

/-- What is about others leaves an exchange with its reply. -/
theorem phase?_of_others (hs : s.SlotAccount) (hp : s.phase? x = some p) (hd : p.reply? = some d)
    (hx : e.about? ≠ some x) : (s.step e).1.phase? x = some p := by
  rcases (step_transition s e).others hs hx with ⟨hsame, -⟩ | ⟨timeout, hqueued, -⟩
  · rw [hsame, hp]
  · -- Who waits for a reply does not wait for a slot.
    obtain rfl := Option.some.inj (hp.symm.trans hqueued)
    cases hd

theorem now_history_of_events (h : ∀ o ∈ es, ∃ e, o = .event e ∧ ∀ duration, e ≠ .elapse duration) :
    (s.history es).1.now = s.now := by
  induction es generalizing s with
  | nil => rfl
  | cons o rest ih =>
    obtain ⟨e, rfl, helapse⟩ := h o List.mem_cons_self
    rw [history_cons]
    exact (ih fun o ho => h o (List.mem_cons_of_mem _ ho)).trans
      ((step_transition s e).now helapse)

end Gateway.Station

/-! ## Words -/

/-- What a gateway says to a visit in an occurrence. -/
def RelayOccurrence.word? (g : String) (v : Nat) : RelayOccurrence → Option Gateway.Event
  | .event (.station g' e) => if g' = g ∧ isWord e = true ∧ e.about? = some v then some e else none
  | _ => none

/-- What a gateway says to a visit in the course of some occurrences. -/
def saidTo (g : String) (v : Nat) (os : List RelayOccurrence) : List Gateway.Event :=
  os.filterMap (·.word? g v)

theorem RelayOccurrence.of_word? {g : String} {v : Nat} {o : RelayOccurrence} {e : Gateway.Event}
    (h : o.word? g v = some e) :
    o = .event (.station g e) ∧ isWord e = true ∧ e.about? = some v := by
  unfold word? at h
  split at h
  · split at h
    · next hall =>
      obtain ⟨rfl, hword, habout⟩ := hall
      obtain rfl := Option.some.inj h
      exact ⟨rfl, hword, habout⟩
    · cases h
  · cases h

section Rounds

variable {r : Relay} {g : String} {s : Station} {o : RelayOccurrence} {e : Gateway.Event}
  {es more : List Occurrence} {v : Nat} {p : Phase} {d : Deadline}

/-- Where nothing was brought about, a relay does nothing. -/
theorem Reaction.eq_nil (h : Reaction r g [] more) : more = [] := by
  cases h with
  | quiet | breakDown => rfl
  | use x reused w due m hone | giveBack x f hone => cases hone

/-- What a relay does about an event leaves the exchanges that the event is not about with their
replies. -/
theorem Reaction.phase?_of_others (h : Reaction r g (s.step e).2 more) (hs : s.SlotAccount)
    (hp : s.phase? v = some p) (hd : p.reply? = some d) (hx : e.about? ≠ some v) :
    ((s.step e).1.history more).1.phase? v = some p := by
  have hkept := Station.phase?_of_others hs hp hd hx
  have hstep : (s.step e).1.SlotAccount := hs.transition (Station.step_transition s e)
  cases h with
  | quiet | breakDown => exact hkept
  | use x reused w due m hone =>
    obtain ⟨habout, -⟩ := Round.leaves_of_followed hs hone rfl
    exact Station.phase?_of_others hstep hkept hd (e := .send x (.ofMessage m))
      fun heq => hx (habout.trans heq)
  | giveBack x f hone hf =>
    have hfx : f.about? = some x := by rcases hf with ⟨_, _, rfl⟩ | ⟨_, rfl⟩ <;> rfl
    obtain ⟨habout, -⟩ := Round.leaves_of_followed hs hone hfx
    exact Station.phase?_of_others hstep hkept hd (e := .release x)
      fun heq => hx (habout.trans heq)

/-- **A reply is awaited on** in a round without a word of the gateway, as long as there is time and
the visit stays. -/
theorem Round.phase?_of_no_word (h : Round r g s o es) (hs : s.SlotAccount)
    (hp : s.phase? v = some p) (hd : p.reply? = some d) (hnow : s.now < d.moment)
    (hword : o.word? g v = none) (hstays : o ≠ .event (.leave v))
    (hlate : o ≠ .event (.late v)) : (s.history es).1.phase? v = some p := by
  cases h with
  | idle => exact hp
  | told e more hown helapse hreaction =>
    by_cases hx : e.about? = some v
    · -- The event does nothing, so the relay does nothing about it.
      have hstill : s.step e = (s, []) := by
        apply Station.step_of_not_word hp hd hnow hx hown
        simpa [RelayOccurrence.word?, hx] using hword
      rw [hstill] at hreaction
      rw [hreaction.eq_nil, Station.history_cons]
      show (s.step e).1.phase? v = some p
      rw [hstill, hp]
    · rw [Station.history_cons]
      exact hreaction.phase?_of_others hs hp hd hx
  | asked u selector m t more hprepared hname hnone hmore =>
    -- Who asks for a lease has no exchange yet.
    have hne : u ≠ v := fun heq => by simp [← heq, hnone] at hp
    have hkept : (s.step (.request u t.requestTimeout)).1.phase? v = some p :=
      Station.phase?_of_others hs hp hd fun heq => hne (Option.some.inj heq)
    have hstep := hs.transition (Station.step_transition s (.request u t.requestTimeout))
    rcases hmore with rfl | rfl
    · exact hkept
    · exact Station.phase?_of_others hstep hkept hd (e := .release u)
        fun heq => hne (Option.some.inj heq)
  | dropped u o ho =>
    have hne : u ≠ v := by
      rintro rfl
      rcases ho with rfl | rfl
      · exact hstays rfl
      · exact hlate rfl
    exact Station.phase?_of_others hs hp hd (e := .drop u) fun heq => hne (Option.some.inj heq)
  | elapse duration => exact (Relay.phase?_step_elapse s duration v).trans hp
  | delay duration => exact hp

/-- In a round only time that passes takes time. -/
theorem Round.now_eq (h : Round r g s o es) (hdelay : ∀ duration, o ≠ .delay duration)
    (helapse : ∀ duration, o ≠ .event (.elapse duration)) : (s.history es).1.now = s.now := by
  apply Station.now_history_of_events
  cases h with
  | idle => simp
  | told e more hown hno hreaction =>
    refine List.forall_mem_cons.mpr ⟨⟨e, rfl, hno⟩, fun o ho => ?_⟩
    obtain ⟨e', rfl, hmine⟩ := Round.isOwn_of_reaction hreaction o ho
    refine ⟨e', rfl, ?_⟩
    rintro duration rfl
    cases hmine
  | asked u selector m t more hprepared hname hnone hmore =>
    rcases hmore with rfl | rfl <;> simp
  | dropped => simp
  | elapse duration => exact absurd rfl (helapse duration)
  | delay duration => exact absurd rfl (hdelay duration)

end Rounds

/-! ## Clocks -/

namespace Relay

variable {r r₀ : Relay} {g : String} {s s' : Station} {o : RelayOccurrence} {v : Nat}
  {os : List RelayOccurrence}

/-- A station that shows the time of its relay goes on doing so. -/
theorem clock_occur (h : r.Tied) (hs : r.client.station? g = some s) (hclock : s.now = r.now)
    (hout : o.isOutside = true) (hs' : (r.occur o).1.client.station? g = some s') :
    s'.now = (r.occur o).1.now := by
  -- A delay and the passing of time move both clocks, and nothing else moves either.
  by_cases hdelay : ∃ duration, o = .delay duration
  · obtain ⟨duration, rfl⟩ := hdelay
    change (r.client.wait duration).station? g = some s' at hs'
    rw [Gateway.Client.station?_wait, hs] at hs'
    obtain rfl := Option.some.inj hs'
    exact congrArg (· + duration) hclock
  · by_cases helapse : ∃ duration, o = .event (.elapse duration)
    · obtain ⟨duration, rfl⟩ := helapse
      change (r.step (.elapse duration)).1.client.station? g = some s' at hs'
      show s'.now = (r.step (.elapse duration)).1.now
      by_cases hmay : r.mayElapse (r.now + duration) = true
      · simp only [step, if_pos hmay] at hs' ⊢
        rw [Gateway.Client.station?_elapse, hs] at hs'
        obtain rfl := Option.some.inj hs'
        -- Where time may pass for the relay it may for each station.
        have hall := List.all_eq_true.mp (Bool.and_eq_true _ _ ▸ hmay).1 s
          (List.mem_of_find?_eq_some hs)
        rw [← hclock] at hall
        simp only [Station.step, if_pos hall]
        exact congrArg (· + duration) hclock
      · simp only [step, if_neg hmay] at hs' ⊢
        obtain rfl := Option.some.inj (hs.symm.trans hs')
        exact hclock
    · have hno : ∀ duration, o ≠ .delay duration := fun duration heq => hdelay ⟨duration, heq⟩
      obtain ⟨es, hround, hstation, -⟩ := occur_round h o hout hs
      obtain rfl := Option.some.inj (hstation.symm.trans hs')
      rw [hround.now_eq hno fun duration heq => helapse ⟨duration, heq⟩, hclock]
      cases o with
      | delay duration => exact absurd rfl (hno duration)
      | event ev => exact (now_step r fun duration heq => helapse ⟨duration, by rw [heq]⟩).symm

theorem clock_history (h : r.Tied) (hs : r.client.station? g = some s) (hclock : s.now = r.now)
    (hout : ∀ o ∈ os, o.isOutside = true)
    (hs' : (r.history os).1.client.station? g = some s') : s'.now = (r.history os).1.now := by
  induction os generalizing r s with
  | nil =>
    obtain rfl := Option.some.inj (hs.symm.trans hs')
    exact hclock
  | cons o rest ih =>
    have ho := hout o List.mem_cons_self
    obtain ⟨es, -, hstation, -⟩ := occur_round h o ho hs
    exact ih (h.occur o ho) hstation (clock_occur h hs hclock ho hstation)
      (fun o ho => hout o (List.mem_cons_of_mem _ ho)) hs'

theorem isSome_station?_history (r : Relay) (os : List RelayOccurrence) (g : String) :
    ((r.history os).1.client.station? g).isSome = (r.client.station? g).isSome := by
  induction os generalizing r with
  | nil => rfl
  | cons o rest ih =>
    apply (ih (r.occur o).1).trans
    cases o with
    | event ev => exact isSome_station?_step r ev g
    | delay duration =>
      show ((r.client.wait duration).station? g).isSome = _
      rw [Gateway.Client.station?_wait, Option.isSome_map]

/-- A station has been there from the start, as a new one. -/
theorem origin_of_build {config : Config} {certificates : List Gateway.Certificate}
    (hbuild : build config certificates = .ok r₀) (hout : ∀ o ∈ os, o.isOutside = true)
    (hs : (r₀.history os).1.client.station? g = some s) :
    ∃ t ∈ (Registry.ofConfig config).targets, ∃ es,
      r₀.client.station? g = some (.ofTarget t (.ofConfig config)) ∧
        ((Station.ofTarget t (.ofConfig config)).history es).1 = s := by
  obtain ⟨-, -, hclient, -⟩ := parts_of_build hbuild
  obtain ⟨s₀, hs₀⟩ : ∃ s₀, r₀.client.station? g = some s₀ := by
    rw [← Option.isSome_iff_exists, ← isSome_station?_history r₀ os g, hs]
    rfl
  have hmem : s₀ ∈ (Gateway.Client.ofRegistry (.ofConfig config) (.ofConfig config)).stations :=
    hclient ▸ List.mem_of_find?_eq_some hs₀
  obtain ⟨t, ht, rfl⟩ := List.mem_map.mp hmem
  obtain ⟨es, hstation, -⟩ := history_does (isFresh_of_build hbuild).tied hs₀ hout
  exact ⟨t, ht, es, hs₀, Option.some.inj (hstation.symm.trans hs)⟩

/-- **A station shows the time of its relay and reads as much of a reply as passes**, whatever has
happened since the relay was built. -/
theorem station_of_build {config : Config} {certificates : List Gateway.Certificate}
    (hbuild : build config certificates = .ok r₀) (hout : ∀ o ∈ os, o.isOutside = true)
    (hs : (r₀.history os).1.client.station? g = some s) : s.now = (r₀.history os).1.now ∧
      s.policy.maxResponseSize = (r₀.history os).1.engine.maxResponseSize := by
  have htied := (isFresh_of_build hbuild).tied
  obtain ⟨-, -, -, hnow⟩ := parts_of_build hbuild
  obtain ⟨t, -, es, hs₀, rfl⟩ := origin_of_build hbuild hout hs
  refine ⟨clock_history htied hs₀ hnow.symm hout hs, ?_⟩
  rw [(Station.history_target _ es).2, engine_of_build hbuild]
  rfl

theorem now_le_occur (r : Relay) (o : RelayOccurrence) : r.now ≤ (r.occur o).1.now := by
  cases o with
  | delay duration => exact Nat.le_add_right r.now duration
  | event ev =>
    by_cases helapse : ∃ duration, ev = .elapse duration
    · obtain ⟨duration, rfl⟩ := helapse
      show r.now ≤ (r.step (.elapse duration)).1.now
      simp only [step]
      split
      · exact Nat.le_add_right r.now duration
      · exact Nat.le_refl r.now
    · exact (now_step r fun duration heq => helapse ⟨duration, heq⟩).ge

theorem now_le_history (r : Relay) (os : List RelayOccurrence) :
    r.now ≤ (r.history os).1.now := by
  induction os generalizing r with
  | nil => exact Nat.le_refl r.now
  | cons o rest ih => exact (now_le_occur r o).trans (ih (r.occur o).1)

/-- A visit that is gone does not come back but by an arrival. -/
theorem still_gone (h : r.Tied) (hout : o.isOutside = true)
    (hno : ∀ head, o ≠ .event (.arrive v head)) (hgone : r.visit? v = none) :
    (r.occur o).1.visit? v = none ∧ voiced v (r.occur o).2 = [] := by
  have hstride := occur_stride h o hout hno
  rw [hgone] at hstride
  generalize (r.occur o).1.visit? v = w', (r.occur o).2 = effects at hstride ⊢
  cases hstride with
  | turn w w' effects hturn => exact hturn.of_not_waiting (by simp)

/-- Of a visit that is gone nothing is seen any more. -/
theorem voiced_of_gone (h : r.Tied) (hspares : Spares v os) (hgone : r.visit? v = none) :
    voiced v (r.history os).2 = [] := by
  induction os generalizing r with
  | nil => rfl
  | cons o rest ih =>
    obtain ⟨hout, hno⟩ := hspares o List.mem_cons_self
    obtain ⟨hstill, hquiet⟩ := still_gone h hout hno hgone
    rw [history_cons, voiced_append, hquiet, ih (hspares.tied h) hspares.tail hstill]
    rfl

/-- **Whose exchange is in progress after an occurrence** has been left as it was, and its client has
seen nothing. -/
theorem unmoved_of_phase? {w : Visit} {due : Nat} {g' : String} {m : Message} {p : Phase}
    (h : r.Tied) (hw : r.visit? v = some w) (hphase : w.phase = .exchanging due g' m)
    (hout : o.isOutside = true) (hno : ∀ head, o ≠ .event (.arrive v head))
    (hs : (r.occur o).1.client.station? g = some s) (hp : s.phase? v = some p) :
    (r.occur o).1.visit? v = some w ∧ voiced v (r.occur o).2 = [] := by
  -- Whose exchange is in progress is not gone.
  obtain ⟨w', due', m', hw', -⟩ := (h.occur o hout).owned g s v p hs hp
  have hstride := occur_stride h o hout hno
  rw [hw, hw'] at hstride
  rw [hw']
  generalize (r.occur o).2 = effects at hstride ⊢
  cases hstride with
  | turn w w' effects hturn =>
    exact hturn.of_not_waiting fun u head hu => by simp [← Option.some.inj hu, hphase]
  | grow w due a body p effects ho hphase' | exchange w due a body i t effects ho hphase' =>
    rw [hphase] at hphase'
    cases hphase'

/-- The client of a visit stays in the course of some occurrences, which are over before a limit. -/
structure Patient (r : Relay) (limit v : Nat) (os : List RelayOccurrence) : Prop where
  spares : Spares v os
  stays : .event (.leave v) ∉ os
  inTime : (r.history os).1.now < limit

namespace Patient

variable {limit : Nat} {before : List RelayOccurrence}

theorem now_lt (h : r.Patient limit v os) : r.now < limit :=
  (now_le_history r os).trans_lt h.inTime

theorem after (h : r.Patient limit v (before ++ os)) : (r.history before).1.Patient limit v os where
  spares := h.spares.of_append.2
  stays hmem := h.stays (List.mem_append_right _ hmem)
  inTime := by
    have hinTime := h.inTime
    rwa [history_append] at hinTime

theorem tail (h : r.Patient limit v (o :: os)) : (r.occur o).1.Patient limit v os where
  spares := h.spares.tail
  stays hmem := h.stays (List.mem_cons_of_mem _ hmem)
  inTime := h.inTime

end Patient

/-! ## Who waits for a reply -/

/-- A visit waits for the reply of its gateway, in a phase of its exchange, and neither is too late
before a limit. -/
structure Awaits (r : Relay) (limit : Nat) (w : Visit) (g : String) (p : Phase) : Prop where
  tied : r.Tied
  visit : r.visit? w.id = some w
  due : ∃ due m, w.phase = .exchanging due g m ∧ limit ≤ due
  station : ∃ s, r.client.station? g = some s ∧ s.phase? w.id = some p ∧ s.now = r.now ∧
    s.policy.maxResponseSize = r.engine.maxResponseSize
  deadline : ∃ d, p.reply? = some d ∧ limit ≤ d.moment

namespace Awaits

variable {limit : Nat} {w : Visit} {p p' : Phase}

/-- As long as its exchange waits for a reply, a visit does so, and its client sees nothing. -/
theorem of_phase (h : r.Awaits limit w g p) (hout : o.isOutside = true)
    (hno : ∀ head, o ≠ .event (.arrive w.id head))
    (hs' : (r.occur o).1.client.station? g = some s') (hp' : s'.phase? w.id = some p')
    (hd' : ∃ d, p'.reply? = some d ∧ limit ≤ d.moment) :
    (r.occur o).1.Awaits limit w g p' ∧ voiced w.id (r.occur o).2 = [] := by
  obtain ⟨due, m, hphase, hdue⟩ := h.due
  obtain ⟨s, hs, -, hclock, hbound⟩ := h.station
  have htied : (r.occur o).1.Tied := h.tied.occur o hout
  have hlater := unmoved_of_phase? h.tied h.visit hphase hout hno hs' hp'
  refine ⟨⟨htied, hlater.1, ⟨due, m, hphase, hdue⟩, ⟨s', hs', hp', ?_, ?_⟩, hd'⟩, hlater.2⟩
  · exact clock_occur h.tied hs hclock hout hs'
  · obtain ⟨es, -, hstation, -⟩ := occur_round h.tied o hout hs
    obtain rfl := Option.some.inj (hstation.symm.trans hs')
    rw [(Station.history_target s es).2, hbound, engine_occur]

/-- **A visit waits on** where its gateway says nothing to it. -/
theorem passed (h : r.Awaits limit w g p) (hnow : r.now < limit) (hout : o.isOutside = true)
    (hno : ∀ head, o ≠ .event (.arrive w.id head)) (hstays : o ≠ .event (.leave w.id))
    (hword : o.word? g w.id = none) :
    (r.occur o).1.Awaits limit w g p ∧ voiced w.id (r.occur o).2 = [] := by
  obtain ⟨s, hs, hp, hclock, -⟩ := h.station
  obtain ⟨d, hd, hlimit⟩ := h.deadline
  by_cases hlate : o = .event (.late w.id)
  · -- It is not too late yet.
    obtain ⟨due, m, hphase, hdue⟩ := h.due
    have hstill : r.occur o = (r, []) := by
      subst hlate
      show r.step (.late w.id) = (r, [])
      simp only [step, h.visit, Visit.due?, hphase]
      simp [Nat.not_le.mpr (hnow.trans_le hdue)]
    rw [hstill]
    exact ⟨h, rfl⟩
  · obtain ⟨es, hround, hstation, -⟩ := occur_round h.tied o hout hs
    apply h.of_phase hout hno hstation ?_ h.deadline
    exact hround.phase?_of_no_word (h.tied.slots g s hs) hp hd (hclock ▸ hnow.trans_le hlimit) hword
      hstays hlate

/-- **A visit waits until its gateway says something to it.** -/
theorem next {e : Gateway.Event} {more : List Gateway.Event} (h : r.Awaits limit w g p)
    (hpatient : r.Patient limit w.id os) (hsaid : saidTo g w.id os = e :: more) :
    ∃ before after, os = before ++ .event (.station g e) :: after ∧
      (r.history before).1.Awaits limit w g p ∧ voiced w.id (r.history before).2 = [] ∧
      saidTo g w.id after = more := by
  -- Each occurrence in turn is the word that is waited for, or the visit waits on after it.
  induction os generalizing r with
  | nil => cases hsaid
  | cons o rest ih =>
    cases hword : o.word? g w.id with
    | some e' =>
      rw [saidTo, List.filterMap_cons_some hword] at hsaid
      obtain ⟨rfl, hrest⟩ := List.cons.inj hsaid
      obtain ⟨rfl, -, -⟩ := RelayOccurrence.of_word? hword
      exact ⟨[], rest, rfl, h, rfl, hrest⟩
    | none =>
      rw [saidTo, List.filterMap_cons_none hword] at hsaid
      obtain ⟨hout, hno⟩ := hpatient.spares o List.mem_cons_self
      have hstays : o ≠ .event (.leave w.id) := fun heq =>
        hpatient.stays (heq ▸ List.mem_cons_self)
      obtain ⟨hawaits, hquiet⟩ := h.passed hpatient.now_lt hout hno hstays hword
      obtain ⟨before, after, rfl, hbefore, hvoiced, hafter⟩ := ih hawaits hpatient.tail hsaid
      refine ⟨o :: before, after, rfl, hbefore, ?_, hafter⟩
      rw [history_cons, voiced_append, hquiet, hvoiced]
      rfl

/-! ### The words -/

/-- A word that the relay does nothing about. -/
theorem word {e : Gateway.Event} (h : r.Awaits limit w g p) (hown : e.isOwn = false)
    (helapse : ∀ duration, e ≠ .elapse duration)
    (hstep : ∀ s : Station, s.phase? w.id = some p → s.now = r.now →
      s.policy.maxResponseSize = r.engine.maxResponseSize →
      s.step e = (s.setPhase w.id p', []))
    (hd' : ∃ d, p'.reply? = some d ∧ limit ≤ d.moment) :
    (r.occur (.event (.station g e))).1.Awaits limit w g p' ∧
      voiced w.id (r.occur (.event (.station g e))).2 = [] := by
  obtain ⟨s, hs, hp, hclock, hbound⟩ := h.station
  have hquiet := hstep s hp hclock hbound
  have hout : (RelayOccurrence.event (.station g e)).isOutside = true := by
    simp [RelayOccurrence.isOutside, RelayEvent.isOutside, hown]
  obtain ⟨es, hround, hstation, -⟩ := occur_round h.tied _ hout hs
  -- The round is over with the event, for it brings nothing about that is followed.
  have hes : es = [.event e] := by
    cases hround with
    | idle o hdelay hnone => exact absurd rfl (hnone e hown helapse)
    | dropped u o ho => rcases ho with ho | ho <;> cases ho
    | told e more hown' helapse' hreaction =>
      rw [hquiet] at hreaction
      rw [hreaction.eq_nil]
  rw [hes] at hstation
  change _ = some (s.step e).1 at hstation
  rw [hquiet] at hstation
  exact h.of_phase hout (by simp) hstation (Station.phase?_setPhase_self hp) hd'

variable {c : Connection} {t : Terms} {status : Http.Status} {contentType : Option String}
  {read : ByteArray}

theorem deadline_of_reading (h : r.Awaits limit w g (.reading c t status contentType read)) :
    limit ≤ t.deadline.moment := by
  obtain ⟨d, hd, hlimit⟩ := h.deadline
  obtain rfl := Option.some.inj hd
  exact hlimit

/-- The head of a reply comes. -/
theorem answered {request : Gateway.WireRequest} {again : Bool}
    (h : r.Awaits limit w g (.offering c t request again)) (hnow : r.now < limit)
    (status : Http.Status) (contentType : Option String) :
    let o := RelayOccurrence.event (.station g (.answered w.id status contentType))
    (r.occur o).1.Awaits limit w g (.reading c t status contentType .empty) ∧
      voiced w.id (r.occur o).2 = [] := by
  obtain ⟨d, hd, hlimit⟩ := h.deadline
  obtain rfl := Option.some.inj hd
  refine h.word rfl (by simp) (fun s hp hclock _ => ?_) ⟨_, rfl, hlimit⟩
  have hintime : ¬ t.deadline.moment < s.now := by omega
  rw [Station.step_eq_act (x := w.id) rfl, hp]
  simp [isWord, Station.isOverdue, hintime, Station.act]

/-- A piece of a reply comes, and is read. -/
theorem received (h : r.Awaits limit w g (.reading c t status contentType read))
    (hnow : r.now < limit) (piece : ByteArray)
    (hsize : read.size + piece.size ≤ r.engine.maxResponseSize) :
    let o := RelayOccurrence.event (.station g (.received w.id piece))
    (r.occur o).1.Awaits limit w g (.reading c t status contentType (read ++ piece)) ∧
      voiced w.id (r.occur o).2 = [] := by
  have hlimit := h.deadline_of_reading
  refine h.word rfl (by simp) (fun s hp hclock hbound => ?_) ⟨_, rfl, hlimit⟩
  rw [Station.step_received piece hp (by omega), Station.received, if_neg (by omega)]

/-- **A word that ends the reply ends the exchange**, which is answered with its result. -/
theorem concluded {e : Gateway.Event} {f : Effect} {result : Except Failure Message}
    (h : r.Awaits limit w g p) (hown : e.isOwn = false)
    (helapse : ∀ duration, e ≠ .elapse duration)
    (hmem : ∀ s : Station, s.phase? w.id = some p → s.now = r.now →
      s.policy.maxResponseSize = r.engine.maxResponseSize → f ∈ (s.step e).2)
    (hx : f.about? = some w.id) (hresult : r.engine.resultOf? f = some result) :
    let o := RelayOccurrence.event (.station g e)
    (r.occur o).1.visit? w.id = none ∧ voiced w.id (r.occur o).2 = [w.answer result] := by
  obtain ⟨s, hs, hp, hclock, hbound⟩ := h.station
  have hstep : r.step (.station g e) = r.station g e := by
    cases e with
    | elapse duration => exact absurd rfl (helapse duration)
    | _ => rfl
  have hout : RelayEvent.isOutside (.station g e) = true := by simp [RelayEvent.isOutside, hown]
  -- What the station brings about concludes the visit that it is about.
  have hin : .station g f ∈ (r.step (.station g e)).2 :=
    hstep ▸ mem_step_of_station hs (hmem s hp hclock hbound)
  obtain ⟨w', hw', -, hgone, hone⟩ := concluded_of_result h.tied hout hin hx hresult
  obtain rfl := Option.some.inj (h.visit.symm.trans hw')
  exact ⟨hgone, hone⟩

/-- A piece of a reply comes, and is too much. -/
theorem overrun (h : r.Awaits limit w g (.reading c t status contentType read))
    (hnow : r.now < limit) (piece : ByteArray)
    (hsize : r.engine.maxResponseSize < read.size + piece.size) :
    let o := RelayOccurrence.event (.station g (.received w.id piece))
    (r.occur o).1.visit? w.id = none ∧
      voiced w.id (r.occur o).2 = [w.answer (.error (.gatewayError "length limit exceeded"))] := by
  have hlimit := h.deadline_of_reading
  refine h.concluded (f := .failed w.id (.gatewayError "length limit exceeded")) rfl (by simp)
    (fun s hp hclock hbound => ?_) rfl rfl
  rw [Station.step_received piece hp (by omega), Station.received, if_pos (by omega)]
  simp [Station.discard, Station.spend]

/-- A reply is over: it is judged as it has been read. -/
theorem ended {ρ : Speech} (h : r.Awaits limit w g (.reading c t ρ.status ρ.contentType ρ.body))
    (hnow : r.now < limit) (hsize : ρ.body.size ≤ r.engine.maxResponseSize) :
    let o := RelayOccurrence.event (.station g (ρ.ending w.id))
    (r.occur o).1.visit? w.id = none ∧
      voiced w.id (r.occur o).2 = [w.answer (ρ.judge r.engine)] := by
  have hlimit := h.deadline_of_reading
  have hnot : ¬ r.engine.maxResponseSize < ρ.body.size := Nat.not_lt.mpr hsize
  unfold Speech.ending Speech.judge
  rw [if_neg hnot]
  cases ρ.broken with
  | some error =>
    refine h.concluded (f := .failed w.id (.gatewayError error)) rfl (by simp)
      (fun s hp hclock _ => ?_) rfl rfl
    have hintime : ¬ t.deadline.moment < s.now := by omega
    rw [Station.step_eq_act (x := w.id) rfl, hp]
    simp [isWord, Station.isOverdue, hintime, Station.act, Station.discard, Station.spend]
  | none =>
    refine h.concluded (f := .replied w.id ⟨ρ.status, ρ.contentType, ρ.body⟩ t.reused) rfl (by simp)
      (fun s hp hclock _ => ?_) rfl rfl
    have hintime : ¬ t.deadline.moment < s.now := by omega
    rw [Station.step_eq_act (x := w.id) rfl, hp]
    simp [isWord, Station.isOverdue, hintime, Station.act, Station.ended]

/-! ### Replies in full -/

/-- A client that has heard of nothing so far hears what comes after. -/
theorem voiced_of_quiet {before after : List RelayOccurrence}
    (hbefore : voiced v (r.history before).2 = [])
    (hquiet : voiced v ((r.history before).1.occur o).2 = []) :
    voiced v (r.history (before ++ o :: after)).2 =
      voiced v (((r.history before).1.occur o).1.history after).2 := by
  rw [history_append, history_cons, voiced_append, voiced_append, hbefore, hquiet]
  rfl

/-- What ends a visit is all that its client sees, where it has seen nothing before. -/
theorem voiced_of_end {before after : List RelayOccurrence} {f : RelayEffect} (h : r.Tied)
    (hspares : Spares v (before ++ o :: after)) (hbefore : voiced v (r.history before).2 = [])
    (hend : ((r.history before).1.occur o).1.visit? v = none ∧
      voiced v ((r.history before).1.occur o).2 = [f]) :
    voiced v (r.history (before ++ o :: after)).2 = [f] := by
  obtain ⟨hpast, hrest⟩ := hspares.of_append
  have htied := hrest.tied (h.history fun o ho => (hpast o ho).1)
  rw [history_append, history_cons, voiced_append, voiced_append, hbefore, hend.2,
    voiced_of_gone htied hrest.tail hend.1]
  rfl

/-- **A reply that has begun is judged when it is over.** -/
theorem judged_of_reading {ρ : Speech} {rest : List ByteArray}
    (h : r.Awaits limit w g (.reading c t ρ.status ρ.contentType read))
    (hread : read.size ≤ r.engine.maxResponseSize) (hbody : ρ.body = read ++ joined rest)
    (hpatient : r.Patient limit w.id os)
    (hsaid : saidTo g w.id os = rest.map (.received w.id ·) ++ [ρ.ending w.id]) :
    voiced w.id (r.history os).2 = [w.answer (ρ.judge r.engine)] := by
  -- By induction on what is still to be said, from whatever has been read.
  induction rest generalizing r os read with
  | nil =>
    obtain ⟨before, after, rfl, hbefore, hvoiced, -⟩ := h.next hpatient hsaid
    have hengine : (r.history before).1.engine = r.engine := engine_history r before
    apply voiced_of_end h.tied hpatient.spares hvoiced
    rw [show joined [] = ByteArray.empty from rfl, ByteArray.append_empty] at hbody
    rw [← hbody] at hbefore hread
    rw [← hengine] at hread ⊢
    exact hbefore.ended hpatient.after.now_lt hread
  | cons piece rest ih =>
    obtain ⟨before, after, rfl, hbefore, hvoiced, hafter⟩ := h.next hpatient hsaid
    have hengine : (r.history before).1.engine = r.engine := engine_history r before
    have hlater := hpatient.after
    by_cases hsize : r.engine.maxResponseSize < read.size + piece.size
    · -- The body is too long already, whatever else is said.
      apply voiced_of_end h.tied hpatient.spares hvoiced
      have hlong : r.engine.maxResponseSize < ρ.body.size := by
        rw [hbody, joined_cons, ByteArray.size_append, ByteArray.size_append]
        omega
      rw [Speech.judge, if_pos hlong]
      exact hbefore.overrun hlater.now_lt piece (hengine ▸ hsize)
    · obtain ⟨hmore, hquiet⟩ :=
        hbefore.received hlater.now_lt piece (hengine ▸ Nat.not_lt.mp hsize)
      have hfits : (read ++ piece).size ≤ ((r.history before).1.occur
          (.event (.station g (.received w.id piece)))).1.engine.maxResponseSize := by
        rw [engine_occur, hengine, ByteArray.size_append]
        exact Nat.not_lt.mp hsize
      have hrest := ih hmore hfits (by rw [hbody, joined_cons, ByteArray.append_assoc]) hlater.tail
        hafter
      rw [voiced_of_quiet hvoiced hquiet, hrest, engine_occur, hengine]

/-- **A visit that waits for a reply is answered with the judgement on it**, and with nothing
else. -/
theorem judged {ρ : Speech} {request : Gateway.WireRequest} {again : Bool}
    (h : r.Awaits limit w g (.offering c t request again)) (hpatient : r.Patient limit w.id os)
    (hsaid : saidTo g w.id os = ρ.words w.id) :
    voiced w.id (r.history os).2 = [w.answer (ρ.judge r.engine)] := by
  obtain ⟨before, after, rfl, hbefore, hvoiced, hafter⟩ := h.next hpatient hsaid
  have hlater := hpatient.after
  obtain ⟨hreading, hquiet⟩ := hbefore.answered hlater.now_lt ρ.status ρ.contentType
  have hrest := hreading.judged_of_reading (Nat.zero_le _) ByteArray.empty_append.symm hlater.tail
    hafter
  rw [voiced_of_quiet hvoiced hquiet, hrest, engine_occur, engine_history]

end Awaits

/-! ## A relay that is built -/

/-- A request is on offer to a gateway, which replies to it in the course of some occurrences. Its
client stays, and the reply is over before the deadline of the exchange and before the visit has
taken too long. -/
structure Replied (r : Relay) (g : String) (v : Nat) (ρ : Speech) (os : List RelayOccurrence) :
    Prop where
  offered : ∃ w due m s c t request again, r.visit? v = some w ∧ w.phase = .exchanging due g m ∧
    r.client.station? g = some s ∧ s.phase? v = some (.offering c t request again) ∧
    (r.history os).1.now < t.deadline.moment ∧ (r.history os).1.now < due
  spares : Spares v os
  stays : .event (.leave v) ∉ os
  said : saidTo g v os = ρ.words v

/-- **What a gateway says reaches no client but by an answer with success.** For every relay that is
built from a configuration, and whatever gateways, network, clock and clients do:

- A reply that is no encapsulated response is answered with 502 and the reason of this status, the
  same whatever has been said.
- Exchanges that fail for failures of one kind are answered alike, whatever the failures' details.
- Whatever is answered without success is one of a few responses that are fixed. -/
theorem detail_not_revealed {config : Config} {certificates : List Gateway.Certificate}
    {r₀ : Relay} (hbuild : build config certificates = .ok r₀) :
    (∀ past : List RelayOccurrence, (∀ o ∈ past, o.isOutside = true) → ∀ g v ρ os,
      ρ.IsRejected config.limits.maxResponseSize.toNat → (r₀.history past).1.Replied g v ρ os →
      voiced v ((r₀.history past).1.history os).2 = [.answered v .badGateway]) ∧
    (∀ past past' : List RelayOccurrence, (∀ o ∈ past, o.isOutside = true) →
      (∀ o ∈ past', o.isOutside = true) → ∀ v v' ev ev' f f', ev.isOutside = true →
      ev'.isOutside = true → (r₀.history past).1.Fails v ev f →
      (r₀.history past').1.Fails v' ev' f' → f.SameKind f' → ∃ response,
        voiced v ((r₀.history past).1.step ev).2 = [.answered v response] ∧
        voiced v' ((r₀.history past').1.step ev').2 = [.answered v' response]) ∧
    ∀ past v response, .answered v response ∈ (r₀.history past).2 →
      response.status = .ok ∨ response ∈ Http.Response.fixed := by
  have hfresh : r₀.Tied := (isFresh_of_build hbuild).tied
  refine ⟨fun past hpast g v ρ os hrejected hreplied => ?_,
    fun past past' hpast hpast' v v' ev ev' f f' hev hev' hfails hfails' hkind => ?_,
    fun past v response hmem => discreet_history r₀ past v response hmem⟩
  -- A reply that does not pass: the visit awaits it, so it is answered with the judgement.
  · have htied := hfresh.history hpast
    obtain ⟨w, due, m, s, c, t, request, again, hw, hphase, hs, hp, hdeadline, hdue⟩ :=
      hreplied.offered
    obtain rfl := id_of_visit? hw
    have hawaits : (r₀.history past).1.Awaits (min t.deadline.moment due) w g
        (.offering c t request again) :=
      ⟨htied, hw, ⟨due, m, hphase, Nat.min_le_right _ _⟩,
        ⟨s, hs, hp, station_of_build hbuild hpast hs⟩, ⟨t.deadline, rfl, Nat.min_le_left _ _⟩⟩
    have hpatient : (r₀.history past).1.Patient (min t.deadline.moment due) w.id os :=
      ⟨hreplied.spares, hreplied.stays, Nat.lt_min.mpr ⟨hdeadline, hdue⟩⟩
    have hengine := engine_of_build hbuild past
    have hbound : ρ.IsRejected (r₀.history past).1.engine.maxResponseSize := by
      rw [hengine]
      exact hrejected
    obtain ⟨detail, hjudged⟩ := Speech.judge_of_isRejected hbound
    have hposted := posted_of_build hbuild hpast w.id w hw
    rw [hawaits.judged hpatient hreplied.said, hjudged,
      answer_of_isPosted hposted (by simp [Visit.isRunning, hphase])]
    rfl
  · exact hfails.answered_alike hfails' hkind (hfresh.history hpast) (hfresh.history hpast')
      (posted_of_build hbuild hpast) (posted_of_build hbuild hpast') hev hev'

/-- A refusal and a body that breaks off are answered alike, by replies or as failures. -/
theorem detail_not_revealed_broken :
    let atGateway (e : Gateway.Event) : RelayEvent := .station "gateway" e
    let past := [.arrive 0 { sampleHead with path := "/gateway" }, .piece 0 (.bytes ⟨#[1]⟩),
      .uploaded 0, atGateway (.proceed 0), atGateway (.connected 0), atGateway (.ready 0)]
    let refusal : Speech := { status := ⟨500⟩, contentType := none, pieces := [⟨#[2]⟩] }
    let fragment : Speech := { status := .ok, contentType := some "message/ohttp-res"
                               pieces := [⟨#[3]⟩], broken := some "reset" }
    let said (ρ : Speech) := (ρ.words 0).map (atGateway ·)
    let r := (sampleBuilt.after past).1
    voiced 0 (r.after (said refusal)).2 = [.answered 0 .badGateway] ∧
      voiced 0 (r.after (said fragment)).2 = [.answered 0 .badGateway] ∧
      ∃ response,
        voiced 0 ((sampleBuilt.after (past ++ (said refusal).dropLast)).1.step
          (atGateway (.ended 0))).2 = [.answered 0 response] ∧
        voiced 0 ((sampleBuilt.after (past ++ (said fragment).dropLast)).1.step
          (atGateway (.cutOff 0 "reset"))).2 = [.answered 0 response] := by
  intro atGateway past refusal fragment said r
  have houtside : ∀ evs : List RelayEvent, evs.all (·.isOutside) = true →
      ∀ o ∈ evs.map RelayOccurrence.event, o.isOutside = true := fun evs hall =>
    outside_of_events (List.all_eq_true.mp hall)
  -- The request is on offer, and both limits are ahead.
  have hreplied : ∀ ρ, saidTo "gateway" 0 ((said ρ).map .event) = ρ.words 0 →
      Spares 0 ((said ρ).map .event) → .event (.leave 0) ∉ (said ρ).map RelayOccurrence.event →
      (r.after (said ρ)).1.now = 0 → r.Replied "gateway" 0 ρ ((said ρ).map .event) := by
    intro ρ hsaid hspares hstays hnow
    have hvisit : (r.visit? 0).map (·.phase) =
        some (.exchanging 21000 "gateway" ⟨.request, ⟨#[1]⟩⟩) := by decide +kernel
    have hstation : (r.client.station? "gateway").isSome = true := by decide +kernel
    have hoffers : ∀ s ∈ r.client.station? "gateway", s.phase? 0 = some (.offering
        ⟨0, s.target.endpoint, 0⟩ ⟨⟨10000⟩, false, false⟩ ⟨"POST", "/", [("host", "[::1]"),
          ("content-type", "message/ohttp-req"), ("content-length", "1")], ⟨#[1]⟩⟩ false) := by
      decide +kernel
    obtain ⟨w, hw, hphase⟩ := Option.map_eq_some_iff.mp hvisit
    obtain ⟨s, hs⟩ := Option.isSome_iff_exists.mp hstation
    refine ⟨⟨w, _, _, s, _, _, _, _, hw, hphase, hs, hoffers s hs, ?_, ?_⟩, hspares, hstays, hsaid⟩
    · rw [hnow]
      decide
    · rw [hnow]
      decide
  obtain ⟨hmasked, halike, -⟩ := detail_not_revealed build_sampleConfig
  refine ⟨?_, ?_, ?_⟩
  · refine hmasked _ (houtside past (by decide)) "gateway" 0 refusal _ (.status rfl)
      (hreplied refusal ?_ ?_ ?_ ?_)
    · decide
    · simp [Spares, said, refusal, Speech.words, Speech.ending, atGateway,
        RelayOccurrence.isOutside, RelayEvent.isOutside, Gateway.Event.isOwn]
    · decide
    · decide +kernel
  · refine hmasked _ (houtside past (by decide)) "gateway" 0 fragment _ (.brokenOff "reset" rfl)
      (hreplied fragment ?_ ?_ ?_ ?_)
    · decide
    · simp [Spares, said, fragment, Speech.words, Speech.ending, atGateway,
        RelayOccurrence.isOutside, RelayEvent.isOutside, Gateway.Event.isOwn]
    · decide
    · decide +kernel
  · refine halike _ _ (houtside _ (by decide)) (houtside _ (by decide)) 0 0 _ _
      (.gatewayError "status 500") (.gatewayError "reset") rfl rfl ?_ ?_ (.gatewayError ..)
    · exact .rejected _ "gateway" ⟨⟨500⟩, none, ⟨#[2]⟩⟩ false _ (by decide +kernel) rfl
    · exact .failed _ "gateway" _ (by decide +kernel)

end Relay

end ObliviousRelay
