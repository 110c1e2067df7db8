import ObliviousRelay.Proofs.Relay.Ties

/-!
# The life of a visit

A visit waits for its turn, uploads, and is an exchange until it is answered; it may end earlier.
What its client gets to see of it is that its body is read, its answer, or that it is broken off.

- `Relay.frame_step`: what a relay was built with stays, and time passes by itself only.
- `Turn`: what happens to a visit while turns are given.
- `Stride`: what an occurrence does to a visit; `Relay.occur_stride`: nothing else happens to it.
-/

namespace ObliviousRelay

open Gateway (Effect)

/-- What a relay was built with. -/
structure Setup where
  engine : Engine
  route : Http.Route
  routes : Http.Routes

/-- What is no concern of the visits: how the relay was built, its clock, and whom it serves. -/
structure Frame where
  setup : Setup
  now : Nat
  gateways : List String

/-- Whether a client sees an effect of a visit. -/
def RelayEffect.isVoiced (v : Nat) : RelayEffect → Bool
  | .receiving u | .answered u _ | .brokenOff u => u = v
  | .station _ _ => false

/-- What the client of a visit sees of some effects. -/
def voiced (v : Nat) (effects : List RelayEffect) : List RelayEffect :=
  effects.filter (·.isVoiced v)

/-- The answer that the handler of the relay's route gives a visit. -/
def Visit.answer (w : Visit) (result : Except Failure Message) : RelayEffect :=
  .answered w.id ((Http.Response.ofAnswer (.ofResult result)).forMethod w.method)

/-- What happens to a visit while turns are given: nothing, or its own turn comes. -/
inductive Turn (c : Setup) (v : Nat) : Option Visit → List RelayEffect → Option Visit → Prop where
  | aside (w : Option Visit) (effects : List RelayEffect) (h : voiced v effects = []) :
      Turn c v w effects w
  /-- Its body is read. -/
  | receive (w : Visit) (head : Http.RequestHead) (due : Nat) (a : Http.Admission)
      (effects : List RelayEffect) (hphase : w.phase = .waiting head)
      (hscreen : Http.Inbound.screen c.route head = .ok a)
      (h : voiced v effects = [.receiving w.id]) :
      Turn c v (some w) effects (some { w with phase := .uploading due a [] })
  /-- It is answered at once; on the relay's route, with the failure that its head is refused for. -/
  | dismiss (w : Visit) (head : Http.RequestHead) (response : Http.Response)
      (effects : List RelayEffect) (hphase : w.phase = .waiting head)
      (hresponse : c.routes.find? head.method head.path = some .relay →
        ∃ f, Http.Inbound.screen c.route head = .error f ∧ response = .ofAnswer (.ofFailure f))
      (h : voiced v effects = [.answered w.id (response.forMethod w.method)]) :
      Turn c v (some w) effects none

/-- What an occurrence does to a visit. -/
inductive Stride (c : Setup) (v : Nat) (o : RelayOccurrence) :
    Option Visit → List RelayEffect → Option Visit → Prop where
  /-- Nothing, or its turn comes. No piece of a body that is read is passed by. -/
  | turn (w w' : Option Visit) (effects : List RelayEffect) (h : Turn c v w effects w')
      (hpiece : ∀ u due a body p, w = some u → u.phase = .uploading due a body →
        o ≠ .event (.piece v p)) : Stride c v o w effects w'
  | grow (w : Visit) (due : Nat) (a : Http.Admission) (body : Http.Body) (p : Http.Piece)
      (effects : List RelayEffect) (ho : o = .event (.piece v p))
      (hphase : w.phase = .uploading due a body) (h : voiced v effects = []) :
      Stride c v o (some w) effects (some { w with phase := .uploading due a (body ++ [p]) })
  /-- Its body or its message is refused. -/
  | refuse (w : Visit) (due : Nat) (a : Http.Admission) (body : Http.Body) (f : Failure)
      (effects : List RelayEffect) (hphase : w.phase = .uploading due a body)
      (h : voiced v effects = [w.answer (.error f)]) : Stride c v o (some w) effects none
  | exchange (w : Visit) (due : Nat) (a : Http.Admission) (body : Http.Body) (i : Http.Inbound)
      (t : Target) (effects : List RelayEffect) (ho : o = .event (.uploaded v))
      (hphase : w.phase = .uploading due a body)
      (hreceived : Http.Inbound.receive c.route a body = .ok i)
      (hprepared : c.engine.prepare i.selector i.message = .ok t) (h : voiced v effects = []) :
      Stride c v o (some w) effects (some { w with phase := .exchanging due t.name i.message })
  /-- Its exchange is over: a reply is judged, or a failure passed on. -/
  | conclude (w : Visit) (due : Nat) (g : String) (m : Message) (result : Except Failure Message)
      (effects : List RelayEffect) (hphase : w.phase = .exchanging due g m)
      (hresult : (∃ f, result = .error f) ∨ ∃ reply reused,
        .station g (.replied v reply reused) ∈ effects ∧ result = c.engine.interpret reply)
      (h : voiced v effects = [w.answer result]) : Stride c v o (some w) effects none
  | breakOff (w : Visit) (effects : List RelayEffect) (hrunning : w.isRunning = true)
      (h : voiced v effects = [.brokenOff w.id]) : Stride c v o (some w) effects none
  /-- Its client is gone, or it took too long once its turn had come. -/
  | abandon (w : Visit) (effects : List RelayEffect)
      (hleave : w.isRunning = true ∨ o = .event (.leave v))
      (h : voiced v effects = [] ∨
        voiced v effects = [.answered w.id (Http.Response.tooLate.forMethod w.method)]) :
      Stride c v o (some w) effects none

variable {c : Setup} {v u : Nat} {w w' w'' : Option Visit} {effects more : List RelayEffect}

@[simp] theorem voiced_append (v : Nat) (effects more : List RelayEffect) :
    voiced v (effects ++ more) = voiced v effects ++ voiced v more :=
  List.filter_append ..

@[simp] theorem voiced_station (v : Nat) (g : String) (fs : List Effect) :
    voiced v (fs.map (.station g)) = [] := by
  simp [voiced, RelayEffect.isVoiced]

/-- The answer to a visit is heard by its client. -/
theorem mem_voiced_of_answered {response : Http.Response} (h : .answered v response ∈ effects) :
    .answered v response ∈ voiced v effects :=
  List.mem_filter.mpr ⟨h, by simp [RelayEffect.isVoiced]⟩

namespace Turn

/-- Nobody who is not waiting is given a turn. -/
theorem of_not_waiting (h : Turn c v w effects w')
    (hw : ∀ u head, w = some u → u.phase ≠ .waiting head) : w' = w ∧ voiced v effects = [] := by
  cases h with
  | aside w effects h => exact ⟨rfl, h⟩
  | receive w head due a effects hphase => exact absurd hphase (hw w head rfl)
  | dismiss w head response effects hphase => exact absurd hphase (hw w head rfl)

/-- A visit is given one turn. -/
theorem trans (h : Turn c v w effects w') (h' : Turn c v w' more w'') :
    Turn c v w (effects ++ more) w'' := by
  cases h with
  | aside w effects hno =>
    -- If a turn comes at all, it is the second one.
    cases h' with
    | aside _ _ hno' => exact .aside _ _ (by simp [hno, hno'])
    | receive w head due a more hphase hscreen hone =>
      exact .receive w head due a _ hphase hscreen (by simp [hno, hone])
    | dismiss w head response more hphase hresponse hone =>
      exact .dismiss w head response _ hphase hresponse (by simp [hno, hone])
  | receive w head due a effects hphase hscreen hone =>
    obtain ⟨rfl, hno⟩ := h'.of_not_waiting (by
      intro u head hu
      simp [← Option.some.inj hu])
    exact .receive w head due a _ hphase hscreen (by simp [hno, hone])
  | dismiss w head response effects hphase hresponse hone =>
    obtain ⟨rfl, hno⟩ := h'.of_not_waiting (by simp)
    exact .dismiss w head response _ hphase hresponse (by simp [hno, hone])

end Turn

/-- Where no piece of a body comes, turns are strides. -/
theorem Stride.of_turn {o : RelayOccurrence} (h : Turn c v w effects w')
    (ho : ∀ p, o ≠ .event (.piece v p)) : Stride c v o w effects w' :=
  .turn _ _ _ h fun _ _ _ _ p _ _ => ho p

namespace Relay

variable {r : Relay} {g : String} {e : Gateway.Event}

/-- What a relay was built with. -/
def setup (r : Relay) : Setup := ⟨r.engine, r.route, r.routes⟩

/-- What is no concern of the visits. -/
def frame (r : Relay) : Frame := ⟨r.setup, r.now, r.client.stations.map (·.target.name)⟩

/-! ## What stays -/

theorem forAll_keeps {α β : Type} {part : Relay → β} {next : Relay → α → Outcome}
    (h : ∀ r x, part (next r x).1 = part r) (r : Relay) (xs : List α) :
    part (r.forAll xs next).1 = part r := by
  induction xs generalizing r with
  | nil => rfl
  | cons x rest ih => rw [forAll_cons, andThen_eq, ih, h]

theorem frame_startIfFree (r : Relay) (w : Visit) : (r.startIfFree w).1.frame = r.frame := by
  unfold startIfFree
  split
  · split
    · unfold start
      split
      · rfl
      · rfl
      · split <;> rfl
    · rfl
  · rfl

theorem frame_startWaiting (r : Relay) : r.startWaiting.1.frame = r.frame :=
  forAll_keeps frame_startIfFree r r.visits

theorem frame_atStation (r : Relay) (g : String) (e : Gateway.Event) :
    (r.atStation g e).1.frame = r.frame := by
  show Frame.mk r.setup r.now ((r.client.step g e).1.stations.map (·.target.name)) = _
  rw [Gateway.Client.names_step]
  rfl

theorem frame_conclusion (r : Relay) (g : String) (w : Visit) (result : Except Failure Message) :
    (r.conclusion g w result).1.frame = r.frame := by
  rw [conclusion, andThen_eq, frame_startWaiting]
  -- The visit is answered after the lease was given back.
  show (r.atStation g (.release w.id)).1.frame = r.frame
  exact frame_atStation r g _

theorem frame_follow (r : Relay) (g : String) (f : Effect) : (r.follow g f).1.frame = r.frame := by
  cases f <;> simp only [follow] <;> split <;>
    first
      | rfl
      | exact frame_atStation r g _
      | exact frame_conclusion r g _ _
      | exact frame_startWaiting _

theorem frame_station (r : Relay) (g : String) (e : Gateway.Event) :
    (r.station g e).1.frame = r.frame := by
  rw [station, andThen_eq, forAll_keeps fun r f => frame_follow r g f]
  exact frame_atStation r g e

theorem frame_abandon (r : Relay) (w : Visit) : (r.abandon w).1.frame = r.frame := by
  unfold abandon
  split
  · exact frame_atStation (r.erase w.id) _ _
  · rfl

theorem frame_exchange (r : Relay) (w : Visit) (due : Nat) (a : Http.Admission)
    (body : Http.Body) : (r.exchange w due a body).1.frame = r.frame := by
  rcases r.exchange_cases w due a body with ⟨f, heq⟩ | ⟨i, t, s, -, -, -, heq⟩ <;> rw [heq]
  · exact frame_startWaiting _
  · exact frame_station _ _ _

theorem frame_receivePiece (r : Relay) (w : Visit) (due : Nat) (a : Http.Admission)
    (body : Http.Body) : (r.receivePiece w due a body).1.frame = r.frame := by
  unfold receivePiece
  split
  · exact frame_startWaiting _
  · rfl

/-- **Events leave what is no concern of the visits alone**, but for time that passes. -/
theorem frame_step (r : Relay) {ev : RelayEvent} (hev : ∀ duration, ev ≠ .elapse duration) :
    (r.step ev).1.frame = r.frame := by
  cases ev with
  | arrive v head =>
    simp only [step]
    split
    · rfl
    · exact frame_startWaiting _
  | piece v p | uploaded v =>
    simp only [step]
    split
    · split
      · first | exact frame_receivePiece r _ _ _ _ | exact frame_exchange r _ _ _ _
      · rfl
    · rfl
  | leave v =>
    simp only [step]
    split
    -- Others get their turns after it.
    · exact (frame_startWaiting _).trans (frame_abandon r _)
    · rfl
  | late v =>
    simp only [step]
    split
    · split
      · exact (frame_startWaiting _).trans (frame_abandon r _)
      · rfl
    · rfl
  | station g e =>
    cases e with
    | elapse duration => rfl
    | _ => exact frame_station r g _
  | elapse duration => exact absurd rfl (hev duration)

theorem setup_step (r : Relay) (ev : RelayEvent) : (r.step ev).1.setup = r.setup := by
  by_cases hev : ∃ duration, ev = .elapse duration
  · obtain ⟨duration, rfl⟩ := hev
    simp only [step]
    split <;> rfl
  · exact congrArg Frame.setup (frame_step r fun duration heq => hev ⟨duration, heq⟩)

theorem now_step (r : Relay) {ev : RelayEvent} (hev : ∀ duration, ev ≠ .elapse duration) :
    (r.step ev).1.now = r.now :=
  congrArg Frame.now (frame_step r hev)

/-- **What a relay was built with stays.** -/
theorem setup_occur (r : Relay) (o : RelayOccurrence) : (r.occur o).1.setup = r.setup := by
  cases o with
  | event ev => exact setup_step r ev
  | delay duration => rfl

theorem setup_history (r : Relay) (os : List RelayOccurrence) :
    (r.history os).1.setup = r.setup := by
  induction os generalizing r with
  | nil => rfl
  | cons o rest ih => rw [history_cons, ih, setup_occur]

@[simp] theorem route_step (r : Relay) (ev : RelayEvent) : (r.step ev).1.route = r.route :=
  congrArg Setup.route (setup_step r ev)

@[simp] theorem route_occur (r : Relay) (o : RelayOccurrence) : (r.occur o).1.route = r.route :=
  congrArg Setup.route (setup_occur r o)

@[simp] theorem route_history (r : Relay) (os : List RelayOccurrence) :
    (r.history os).1.route = r.route :=
  congrArg Setup.route (setup_history r os)

@[simp] theorem engine_occur (r : Relay) (o : RelayOccurrence) : (r.occur o).1.engine = r.engine :=
  congrArg Setup.engine (setup_occur r o)

@[simp] theorem engine_history (r : Relay) (os : List RelayOccurrence) :
    (r.history os).1.engine = r.engine :=
  congrArg Setup.engine (setup_history r os)

/-! ## Turns -/

/-- A reply to one visit is heard by its client only. -/
theorem voiced_of_ne {w : Visit} (h : w.id ≠ v) {f : RelayEffect}
    (hf : f.isVoiced w.id = true) : voiced v [f] = [] := by
  cases f <;> simp_all [voiced, RelayEffect.isVoiced]

theorem startIfFree_turn {w : Visit} (hw : r.visit? w.id = some w) (v : Nat) :
    Turn r.setup v (r.visit? v) (r.startIfFree w).2 ((r.startIfFree w).1.visit? v) := by
  unfold startIfFree
  split
  · next head hphase =>
    split
    · -- Who is answered is gone, and nobody else is touched.
      have hreply : ∀ (r' : Relay) (response : Http.Response), r'.visits = r.visits →
          (r.routes.find? head.method head.path = some .relay →
            ∃ f, Http.Inbound.screen r.route head = .error f ∧
              response = .ofAnswer (.ofFailure f)) →
          Turn r.setup v (r.visit? v) (r'.reply w response).2
            ((r'.reply w response).1.visit? v) := by
        intro r' response hvisits hresponse
        have hsame : ∀ u, r'.visit? u = r.visit? u := fun u => by rw [visit?, hvisits, visit?]
        by_cases hv : v = w.id
        · subst hv
          rw [reply, visit?_erase_self, hw]
          exact .dismiss w head response _ hphase hresponse (by simp [voiced, RelayEffect.isVoiced])
        · rw [reply, visit?_erase_of_ne hv, hsame]
          exact .aside _ _ (voiced_of_ne (Ne.symm hv) (by simp [RelayEffect.isVoiced]))
      unfold start
      split
      · next hnone => exact hreply r _ rfl (by simp [hnone])
      · next hhealth => exact hreply r _ rfl (by simp [hhealth])
      · split
        · next f hscreen =>
          exact hreply { r with metrics := _ } (.ofAnswer (.ofFailure f)) rfl fun _ =>
            ⟨f, hscreen, rfl⟩
        · next a hscreen =>
          rw [visit?_setPhase]
          by_cases hv : v = w.id
          · subst hv
            rw [hw, Option.map_some, if_pos rfl]
            exact .receive w head _ a _ hphase hscreen (by simp [voiced, RelayEffect.isVoiced])
          · simp only [hv, if_false, Option.map_id']
            exact .aside _ _ (voiced_of_ne (Ne.symm hv) (by simp [RelayEffect.isVoiced]))
    · exact .aside _ _ rfl
  · exact .aside _ _ rfl

/-- **Turns are all that a visit is given.** -/
theorem startWaiting_turn (hd : r.HasDistinctVisits) (v : Nat) :
    Turn r.setup v (r.visit? v) r.startWaiting.2 (r.startWaiting.1.visit? v) := by
  have hlist : ∀ (ws : List Visit) (r : Relay), (ws.map (·.id)).Nodup →
      (∀ w ∈ ws, r.visit? w.id = some w) →
      Turn r.setup v (r.visit? v) (r.forAll ws startIfFree).2
        ((r.forAll ws startIfFree).1.visit? v) := by
    intro ws
    induction ws with
    | nil => exact fun r _ _ => .aside _ _ rfl
    | cons w rest ih =>
      intro r hnodup hall
      rw [List.map_cons, List.nodup_cons] at hnodup
      have hw := hall w List.mem_cons_self
      have hkeeps := (startIfFree_advances hw).2.1
      -- Each visit of the list is as it was when its turn comes, for all before it are others.
      have hrest : ∀ z ∈ rest, (r.startIfFree w).1.visit? z.id = some z := by
        intro z hz
        have hne : z.id ≠ w.id := fun heq => hnodup.1 (heq ▸ List.mem_map_of_mem hz)
        rw [hkeeps.others _ hne]
        exact hall z (List.mem_cons_of_mem _ hz)
      have hlater := ih (r.startIfFree w).1 hnodup.2 hrest
      have hsetup : (r.startIfFree w).1.setup = r.setup :=
        congrArg Frame.setup (frame_startIfFree r w)
      rw [hsetup] at hlater
      rw [forAll_cons, andThen_eq]
      exact (startIfFree_turn hw v).trans hlater
  exact hlist r.visits r hd fun w hw => visit?_of_mem hd hw

theorem visit?_append_self {w : Visit} (h : r.visit? w.id = none) :
    ({ r with visits := r.visits ++ [w] } : Relay).visit? w.id = some w := by
  have hnone : r.visits.find? (·.id = w.id) = none := h
  simp [visit?, List.find?_append, hnone]

theorem step_arrive (hnew : r.visit? v = none) (head : Http.RequestHead) :
    r.step (.arrive v head) =
      ({ r with visits := r.visits ++ [⟨v, head.method, .waiting head⟩] } : Relay).startWaiting := by
  simp [step, hnew]

/-- **A visit that arrives waits for its turn**, which may come at once. -/
theorem arrive_turn (h : r.HasDistinctVisits) (hnew : r.visit? v = none) (head : Http.RequestHead) :
    Turn r.setup v (some ⟨v, head.method, .waiting head⟩) (r.step (.arrive v head)).2
      ((r.step (.arrive v head)).1.visit? v) := by
  have hkeeps := keeps_append r ⟨v, head.method, .waiting head⟩ hnew
  have hturn := startWaiting_turn (hkeeps.distinct h) v
  rwa [visit?_append_self (w := ⟨v, head.method, .waiting head⟩) hnew, ← step_arrive hnew] at hturn

/-! ## Ends -/

/-- What a visit's end is heard of, when others get their turns after it. -/
theorem startWaiting_of_end {o : Outcome} {x : Nat}
    (hkeeps : ∀ u, u ≠ x → o.1.visit? u = r.visit? u) (hgone : o.1.visit? x = none)
    (hd : o.1.HasDistinctVisits) (hsetup : o.1.setup = r.setup)
    (hquiet : ∀ u, u ≠ x → voiced u o.2 = []) :
    ((o.andThen startWaiting).1.visit? x = none ∧
      voiced x (o.andThen startWaiting).2 = voiced x o.2) ∧
    ∀ u, u ≠ x →
      Turn r.setup u (r.visit? u) (o.andThen startWaiting).2
        ((o.andThen startWaiting).1.visit? u) := by
  have hturn := startWaiting_turn hd
  rw [hsetup] at hturn
  rw [andThen_eq]
  constructor
  · obtain ⟨hsame, hno⟩ := (hturn x).of_not_waiting (by simp [hgone])
    exact ⟨hsame.trans hgone, by simp [hno]⟩
  · intro u hu
    rw [← hkeeps u hu]
    exact Turn.trans (.aside _ _ (hquiet u hu)) (hturn u)

/-- The end of a visit that the handler answers. -/
theorem startWaiting_of_conclude (r₀ : Relay) (fs : List RelayEffect) (w : Visit)
    (result : Except Failure Message) (hvisits : r.visits = r₀.visits) (hsetup : r.setup = r₀.setup)
    (hd : r.HasDistinctVisits) (hfs : ∀ u, voiced u fs = []) :
    let o := (Outcome.andThen (r, fs) (·.conclude w result)).andThen startWaiting
    (o.1.visit? w.id = none ∧ voiced w.id o.2 = [w.answer result]) ∧
    ∀ u, u ≠ w.id → Turn r₀.setup u (r₀.visit? u) o.2 (o.1.visit? u) := by
  intro o
  have hkeeps := keeps_conclude r w result
  have hsame : ∀ u, r.visit? u = r₀.visit? u := fun u => by rw [visit?, hvisits, visit?]
  have hend := startWaiting_of_end (r := r₀) (x := w.id)
    (o := Outcome.andThen (r, fs) (·.conclude w result))
    (fun u hu => (hkeeps.others u hu).trans (hsame u)) visit?_erase_self (hkeeps.distinct hd) hsetup
    (fun u hu => by
      rw [andThen_eq, voiced_append, hfs, List.nil_append]
      exact voiced_of_ne (Ne.symm hu) (by simp [RelayEffect.isVoiced]))
  refine ⟨⟨hend.1.1, hend.1.2.trans ?_⟩, hend.2⟩
  rw [andThen_eq, voiced_append, hfs]
  simp [voiced, conclude, reply, Visit.answer, RelayEffect.isVoiced]

/-! ## Stations -/

/-- How an exchange closes its visit: by a reply, a failure or a breakdown. -/
inductive Closes (c : Setup) (w : Visit) (fs : List Effect) (effects : List RelayEffect) : Prop where
  | replied (reply : Gateway.Reply) (reused : Bool) (hf : .replied w.id reply reused ∈ fs)
      (h : voiced w.id effects = [w.answer (c.engine.interpret reply)])
  | failed (f : Failure) (hf : .failed w.id f ∈ fs)
      (h : voiced w.id effects = [w.answer (.error f)])
  | overflowed (hf : .overflowed w.id ∈ fs) (h : voiced w.id effects = [.brokenOff w.id])

/-- The exchange of a visit ends: the visit is answered, and others get their turns. -/
theorem conclusion_closes {w : Visit} (hd : r.HasDistinctVisits) (result : Except Failure Message) :
    ((r.conclusion g w result).1.visit? w.id = none ∧
      voiced w.id (r.conclusion g w result).2 = [w.answer result]) ∧
    ∀ u, u ≠ w.id → Turn r.setup u (r.visit? u) (r.conclusion g w result).2
      ((r.conclusion g w result).1.visit? u) :=
  startWaiting_of_conclude (r := (r.atStation g (.release w.id)).1) r _ w result rfl rfl hd
    fun u => voiced_station u g _

/-- The exchange of a visit breaks down: the visit is broken off, and others get their turns. -/
theorem breakOff_closes {w : Visit} (hd : r.HasDistinctVisits) :
    ((r.breakOff w).1.visit? w.id = none ∧ voiced w.id (r.breakOff w).2 = [.brokenOff w.id]) ∧
    ∀ u, u ≠ w.id → Turn r.setup u (r.visit? u) (r.breakOff w).2 ((r.breakOff w).1.visit? u) := by
  have hkeeps := keeps_erase r w.id
  obtain ⟨⟨hgone, hone⟩, hothers⟩ := startWaiting_of_end (r := r) (x := w.id)
    (o := (r.erase w.id, [.brokenOff w.id])) hkeeps.others visit?_erase_self (hkeeps.distinct hd)
    rfl (fun u hu => voiced_of_ne (Ne.symm hu) (by simp [RelayEffect.isVoiced]))
  exact ⟨⟨hgone, hone.trans (by simp [voiced, RelayEffect.isVoiced])⟩, hothers⟩

/-- What the relay does after something was brought about at a station closes the visit that it is
about, or gives turns. -/
theorem follow_turn_or_closes (hd : r.HasDistinctVisits) (f : Effect) (v : Nat) :
    Turn r.setup v (r.visit? v) (r.follow g f).2 ((r.follow g f).1.visit? v) ∨
      ∃ w, r.visit? v = some w ∧ (r.follow g f).1.visit? v = none ∧
        Closes r.setup w [f] (r.follow g f).2 := by
  have hstill : Turn r.setup v (r.visit? v) [] (r.visit? v) := .aside _ _ rfl
  -- Whoever is concluded is closed by this, and the others get turns.
  have hconclusion : ∀ {w : Visit} (result : Except Failure Message), r.visit? w.id = some w →
      (voiced w.id (r.conclusion g w result).2 = [w.answer result] →
        Closes r.setup w [f] (r.conclusion g w result).2) →
      Turn r.setup v (r.visit? v) (r.conclusion g w result).2
          ((r.conclusion g w result).1.visit? v) ∨
        ∃ w', r.visit? v = some w' ∧ (r.conclusion g w result).1.visit? v = none ∧
          Closes r.setup w' [f] (r.conclusion g w result).2 := by
    intro w result hw hcloses
    obtain ⟨⟨hgone, hone⟩, hothers⟩ := conclusion_closes (g := g) (w := w) hd result
    by_cases hv : v = w.id
    · subst hv
      exact .inr ⟨w, hw, hgone, hcloses hone⟩
    · exact .inl (hothers v hv)
  cases f with
  | leased x reused =>
    simp only [follow]
    split
    · exact .inl (.aside _ _ (voiced_station v g _))
    · exact .inl hstill
  | replied x reply reused =>
    simp only [follow]
    split
    · next w hw =>
      obtain rfl := id_of_visit? hw
      exact hconclusion _ hw fun hone => .replied reply reused (by simp) hone
    · exact .inl hstill
  | failed x f =>
    simp only [follow]
    split
    · next w hw =>
      obtain rfl := id_of_visit? hw
      exact hconclusion _ hw fun hone => .failed f (by simp) hone
    · exact .inl hstill
  | overflowed x =>
    simp only [follow]
    split
    · next w hw =>
      obtain rfl := id_of_visit? hw
      obtain ⟨⟨hgone, hone⟩, hothers⟩ := breakOff_closes (w := w) hd
      by_cases hv : v = w.id
      · subst hv
        exact .inr ⟨w, hw, hgone, .overflowed (by simp) hone⟩
      · exact .inl (hothers v hv)
    · exact .inl hstill
  | _ => exact .inl hstill

/-- **What happens at a station closes one visit, or gives turns.** -/
theorem station_turn_or_closes (h : r.Tied) (g : String) (e : Gateway.Event)
    (hrequest : ∀ x timeout, e = .request x timeout → r.Exchanges x g) (v : Nat) :
    Turn r.setup v (r.visit? v) (r.station g e).2 ((r.station g e).1.visit? v) ∨
      ∃ w, r.visit? v = some w ∧ r.Exchanges v g ∧ (r.station g e).1.visit? v = none ∧
        Closes r.setup w (r.client.step g e).2 (r.station g e).2 := by
  have hat : Turn r.setup v (r.visit? v) (r.atStation g e).2 ((r.atStation g e).1.visit? v) :=
    .aside _ _ (voiced_station v g _)
  rcases station_cases h g e hrequest with ⟨-, heq⟩ | ⟨f, x, hone, hx, hv, -, heq⟩
  · rw [heq]
    exact .inl hat
  · rw [heq, andThen_eq]
    have hmem : f ∈ (r.client.step g e).2 :=
      List.mem_of_mem_filter (hone ▸ List.mem_singleton_self f)
    have hquiet : ∀ u, voiced u (r.atStation g e).2 = [] := fun u => voiced_station u g _
    rcases follow_turn_or_closes (r := (r.atStation g e).1) (g := g) h.distinct f v with
      hturn | ⟨w, hw, hgone, hcloses⟩
    · exact .inl (hat.trans hturn)
    · obtain rfl := id_of_visit? hw
      -- The effect that closes the visit is about its exchange.
      have hmine : ∀ {f' : Effect}, f' ∈ [f] → f'.about? = some w.id → r.Exchanges w.id g := by
        intro f' hf' habout
        obtain rfl := List.mem_singleton.mp hf'
        obtain rfl := Option.some.inj (habout.symm.trans hx)
        exact hv
      have hvoice : voiced w.id ((r.atStation g e).2 ++ ((r.atStation g e).1.follow g f).2) =
          voiced w.id ((r.atStation g e).1.follow g f).2 := by
        rw [voiced_append, hquiet, List.nil_append]
      have hall : ∀ {f' : Effect}, f' ∈ [f] → f' ∈ (r.client.step g e).2 := by
        intro f' hf'
        obtain rfl := List.mem_singleton.mp hf'
        exact hmem
      cases hcloses with
      | replied reply reused hf hone =>
        exact .inr ⟨w, hw, hmine hf rfl, hgone, .replied reply reused (hall hf) (hvoice.trans hone)⟩
      | failed f' hf hone =>
        exact .inr ⟨w, hw, hmine hf rfl, hgone, .failed f' (hall hf) (hvoice.trans hone)⟩
      | overflowed hf hone =>
        exact .inr ⟨w, hw, hmine hf rfl, hgone, .overflowed (hall hf) (hvoice.trans hone)⟩

/-! ## Every occurrence -/

/-- A lease that is asked for is got later, or refused now. -/
theorem effects_request (h : r.Tied) (hnone : r.HasNoExchange v) (timeout : Nat) {f : Effect}
    (hf : f ∈ (r.client.step g (.request v timeout)).2) (hfollowed : f.isFollowed = true) :
    f = .failed v .gatewayBusy := by
  cases hs : r.client.station? g with
  | none =>
    rw [Gateway.Client.step_of_none hs] at hf
    cases hf
  | some s =>
    rw [Gateway.Client.effects_step hs] at hf
    have hcourse := (Gateway.Station.step_transition s (.request v timeout)).course (x := v)
      (h.slots g s hs) rfl
    rw [hnone g s hs] at hcourse
    generalize (s.step (.request v timeout)).1.phase? v = q,
      (s.step (.request v timeout)).2 = effects at hcourse hf
    cases hcourse with
    | still | enqueue => cases hf
    | accept timeout =>
      -- A slot that is granted has not become a lease yet.
      obtain rfl := List.mem_singleton.mp hf
      cases hfollowed
    | refuse timeout =>
      rcases List.mem_cons.mp hf with rfl | hf
      · cases hfollowed
      · exact List.mem_singleton.mp hf

/-- A visit whose upload is refused. -/
theorem refuse_stride (h : r.Tied) {ev : RelayEvent} {w : Visit} {due : Nat} {a : Http.Admission}
    {body : Http.Body} (f : Failure) (hw : r.visit? w.id = some w)
    (hphase : w.phase = .uploading due a body) (hno : v ≠ w.id → ∀ p, ev ≠ .piece v p) :
    let out := (r.conclude w (.error f)).andThen startWaiting
    Stride r.setup v (.event ev) (r.visit? v) out.2 (out.1.visit? v) := by
  intro out
  obtain ⟨⟨hgone, hone⟩, hothers⟩ :=
    startWaiting_of_conclude r [] w (.error f) rfl rfl h.distinct fun _ => rfl
  by_cases hv : v = w.id
  · subst hv
    rw [hw]
    have hnone : out.1.visit? w.id = none := hgone
    rw [hnone]
    exact .refuse w due a body f _ hphase hone
  · exact .of_turn (hothers v hv) fun p heq => hno hv p (RelayOccurrence.event.inj heq)

/-- A piece of a body that is read is kept, or the body is refused. -/
theorem piece_stride (h : r.Tied) (x : Nat) (p : Http.Piece) :
    Stride r.setup v (.event (.piece x p)) (r.visit? v) (r.step (.piece x p)).2
      ((r.step (.piece x p)).1.visit? v) := by
  have hstill : (∀ w due a body, r.visit? x = some w → w.phase ≠ .uploading due a body) →
      Stride r.setup v (.event (.piece x p)) (r.visit? v) [] (r.visit? v) := by
    intro hnot
    refine .turn _ _ _ (.aside _ _ rfl) fun w due a body q hw hphase heq => ?_
    obtain ⟨rfl, -⟩ := RelayEvent.piece.inj (RelayOccurrence.event.inj heq)
    exact hnot w due a body hw hphase
  simp only [step]
  split
  · next w hw =>
    obtain rfl := id_of_visit? hw
    split
    · next due a body hphase =>
      unfold receivePiece
      split
      -- What has come cannot become a message any more.
      · refine refuse_stride h _ hw hphase fun hv q heq => hv ?_
        exact (RelayEvent.piece.inj heq).1.symm
      · by_cases hv : v = w.id
        · subst hv
          rw [visit?_setPhase, hw, Option.map_some, if_pos rfl]
          exact .grow w due a body p _ rfl hphase rfl
        · rw [(keeps_setPhase r w.id _).others v hv]
          exact .of_turn (.aside _ _ rfl) fun q heq =>
            hv (RelayEvent.piece.inj (RelayOccurrence.event.inj heq)).1.symm
    · next hphase =>
      refine hstill fun w' due a body hw' hphase' => hphase due a body ?_
      obtain rfl := Option.some.inj (hw.symm.trans hw')
      exact hphase'
  · next hnone => exact hstill fun w due a body hw => by rw [hnone] at hw; cases hw

/-- A visit ends early, perhaps with an answer, and others get their turns. -/
theorem abandon_closes {w : Visit} {answer : List RelayEffect} (hd : r.HasDistinctVisits)
    (hanswer : ∀ u, u ≠ w.id → voiced u answer = []) :
    let out := ((r.abandon w).andThen fun r => (r, answer)).andThen startWaiting
    (out.1.visit? w.id = none ∧ voiced w.id out.2 = voiced w.id answer) ∧
    ∀ u, u ≠ w.id → Turn r.setup u (r.visit? u) out.2 (out.1.visit? u) := by
  intro out
  have hkeeps := keeps_erase r w.id
  -- To drop an exchange is heard of by no client.
  have hvisits : (r.abandon w).1.visits = (r.erase w.id).visits := by
    unfold abandon
    split <;> rfl
  have hsame : ∀ u, (r.abandon w).1.visit? u = (r.erase w.id).visit? u := fun u => by
    rw [visit?, hvisits, visit?]
  have hsetup : (r.abandon w).1.setup = r.setup := congrArg Frame.setup (frame_abandon r w)
  have hquiet : ∀ u, voiced u (r.abandon w).2 = [] := by
    intro u
    unfold abandon
    split
    · exact voiced_station u _ _
    · rfl
  have hdistinct : (r.abandon w).1.HasDistinctVisits := by
    show ((r.abandon w).1.visits.map (·.id)).Nodup
    rw [hvisits]
    exact hkeeps.distinct hd
  obtain ⟨⟨hgone, hone⟩, hothers⟩ := startWaiting_of_end (r := r) (x := w.id)
    (o := (r.abandon w).andThen fun r => (r, answer))
    (fun u hu => (hsame u).trans (hkeeps.others u hu)) ((hsame w.id).trans visit?_erase_self)
    hdistinct hsetup (fun u hu => by simp [hquiet u, hanswer u hu])
  exact ⟨⟨hgone, hone.trans (by simp [hquiet])⟩, hothers⟩

/-- A visit that ends early, or another one that does. -/
theorem abandon_stride (h : r.Tied) (ev : RelayEvent) (answer : List RelayEffect) {w : Visit}
    (hw : r.visit? w.id = some w) (hleave : w.isRunning = true ∨ ev = .leave w.id)
    (hanswer : answer = [] ∨ answer = [.answered w.id (Http.Response.tooLate.forMethod w.method)])
    (hno : ∀ p, ev ≠ .piece v p) :
    let out := ((r.abandon w).andThen fun r => (r, answer)).andThen startWaiting
    Stride r.setup v (.event ev) (r.visit? v) out.2 (out.1.visit? v) := by
  intro out
  have hanswered : ∀ u, u ≠ w.id → voiced u answer = [] := by
    intro u hu
    rcases hanswer with rfl | rfl
    · rfl
    · exact voiced_of_ne (Ne.symm hu) (by simp [RelayEffect.isVoiced])
  obtain ⟨⟨hgone, hone⟩, hothers⟩ := abandon_closes (w := w) h.distinct hanswered
  by_cases hv : v = w.id
  · subst hv
    have hnone : out.1.visit? w.id = none := hgone
    rw [hw, hnone]
    refine .abandon w _ (hleave.imp_right (congrArg _)) (hanswer.imp (fun heq => ?_) fun heq => ?_) <;>
      refine hone.trans ?_ <;> rw [heq]
    · rfl
    · simp [voiced, RelayEffect.isVoiced]
  · exact .of_turn (hothers v hv) fun p heq => hno p (RelayOccurrence.event.inj heq)

/-- A visit whose message passes becomes an exchange, unless there is no slot for it. -/
theorem request_stride (h : r.Tied) {w : Visit} {due : Nat} {a : Http.Admission} {body : Http.Body}
    {i : Http.Inbound} {t : Target} (hw : r.visit? w.id = some w)
    (hphase : w.phase = .uploading due a body)
    (hreceived : Http.Inbound.receive r.route a body = .ok i)
    (hprepared : r.engine.prepare i.selector i.message = .ok t) :
    let out := (r.setPhase w.id (.exchanging due t.name i.message)).station t.name
      (.request w.id t.requestTimeout)
    Stride r.setup v (.event (.uploaded w.id)) (r.visit? v) out.2 (out.1.visit? v) := by
  intro out
  have hnone := h.hasNoExchange_of_phase hw (by simp [hphase])
  have hkeeps := keeps_setPhase r w.id (.exchanging due t.name i.message)
  have hset := h.of_keeps hkeeps hnone
  have hrequest := exchanges_of_request (g := t.name) hw due i.message t.requestTimeout
  have hnow : (r.setPhase w.id (.exchanging due t.name i.message)).visit? w.id =
      some { w with phase := .exchanging due t.name i.message } := by
    rw [visit?_setPhase, hw]
    simp
  rcases station_turn_or_closes hset t.name _ hrequest v with hturn | ⟨w', hw', -, hgone, hcloses⟩
  · by_cases hv : v = w.id
    · subst hv
      rw [hnow] at hturn
      obtain ⟨hsame, hquiet⟩ := hturn.of_not_waiting (by
        intro u head hu
        simp [← Option.some.inj hu])
      rw [hw, hsame]
      exact .exchange w due a body i t _ rfl hphase hreceived hprepared hquiet
    · rw [hkeeps.others v hv] at hturn
      exact .of_turn hturn (by simp)
  · obtain rfl := id_of_visit? hw'
    -- What closes a visit at once is that no lease is to be had.
    have hbusy : ∀ {f : Effect}, f ∈ (r.client.step t.name (.request w.id t.requestTimeout)).2 →
        f.isFollowed = true → f = .failed w.id .gatewayBusy := fun hf hfollowed =>
      effects_request h hnone _ hf hfollowed
    cases hcloses with
    | replied reply reused hf => exact absurd (hbusy hf rfl) (by simp)
    | overflowed hf => exact absurd (hbusy hf rfl) (by simp)
    | failed f hf hone =>
      have heq := hbusy hf rfl
      obtain ⟨hid, -⟩ := Effect.failed.inj heq
      rw [hid] at hw' hgone hone ⊢
      obtain rfl := Option.some.inj (hnow.symm.trans hw')
      have hnone : out.1.visit? w.id = none := hgone
      rw [hw, hnone]
      exact .refuse w due a body f _ hphase hone

/-- A visit that has been uploaded is refused, or becomes an exchange. -/
theorem exchange_stride (h : r.Tied) {w : Visit} {due : Nat} {a : Http.Admission} {body : Http.Body}
    (hw : r.visit? w.id = some w) (hphase : w.phase = .uploading due a body) :
    Stride r.setup v (.event (.uploaded w.id)) (r.visit? v) (r.exchange w due a body).2
      ((r.exchange w due a body).1.visit? v) := by
  rcases r.exchange_cases w due a body with ⟨f, heq⟩ | ⟨i, t, s, hreceived, hprepared, -, heq⟩ <;>
    rw [heq]
  · exact refuse_stride h f hw hphase (by simp)
  · exact request_stride h hw hphase hreceived hprepared

/-- What happens at a station, as the visits see it. -/
theorem station_stride (h : r.Tied) (g : String) (e : Gateway.Event) (hown : e.isOwn = false) :
    Stride r.setup v (.event (.station g e)) (r.visit? v) (r.station g e).2
      ((r.station g e).1.visit? v) := by
  rcases station_turn_or_closes h g e (exchanges_of_outside hown) v with
    hturn | ⟨w, hw, ⟨w', due, m, hw', hphase⟩, hgone, hcloses⟩
  · exact .of_turn hturn (by simp)
  · obtain rfl := Option.some.inj (hw.symm.trans hw')
    obtain rfl := id_of_visit? hw
    rw [hw, hgone]
    cases hcloses with
    | replied reply reused hf hone =>
      refine .conclude w due g m _ _ hphase (.inr ⟨reply, reused, ?_, rfl⟩) hone
      -- The reply is among what the station brought about.
      rw [station, andThen_eq, effects_atStation]
      exact List.mem_append_left _ (List.mem_map_of_mem hf)
    | failed f hf hone => exact .conclude w due g m _ _ hphase (.inl ⟨f, rfl⟩) hone
    | overflowed hf hone => exact .breakOff w _ (by simp [Visit.isRunning, hphase]) hone

/-- **Every occurrence from outside is such a stride of each visit**, unless the visit arrives. -/
theorem occur_stride (h : r.Tied) (o : RelayOccurrence) (hout : o.isOutside = true)
    (hno : ∀ head, o ≠ .event (.arrive v head)) :
    Stride r.setup v o (r.visit? v) (r.occur o).2 ((r.occur o).1.visit? v) := by
  have hstill : (∀ p, o ≠ .event (.piece v p)) → Stride r.setup v o (r.visit? v) [] (r.visit? v) :=
    .of_turn (.aside _ _ rfl)
  cases o with
  | delay duration => exact hstill (by simp)
  | event ev =>
    show Stride r.setup v (.event ev) (r.visit? v) (r.step ev).2 ((r.step ev).1.visit? v)
    cases ev with
    | arrive u head =>
      simp only [step]
      split
      · exact hstill (by simp)
      · next hnew =>
        have hne : v ≠ u := fun heq => hno head (by rw [heq])
        have hkeeps := keeps_append r ⟨u, head.method, .waiting head⟩ (by simpa using hnew)
        have hturn := startWaiting_turn (hkeeps.distinct h.distinct) v
        rw [hkeeps.others v hne] at hturn
        exact .of_turn hturn (by simp)
    | piece u p => exact piece_stride h u p
    | uploaded u =>
      simp only [step]
      split
      · next w hw =>
        obtain rfl := id_of_visit? hw
        split
        · next due a body hphase => exact exchange_stride h hw hphase
        · exact hstill (by simp)
      · exact hstill (by simp)
    | leave u =>
      simp only [step]
      split
      · next w hw =>
        obtain rfl := id_of_visit? hw
        have habandon := abandon_stride (v := v) h (.leave w.id) [] hw (.inr rfl) (.inl rfl)
          (by simp)
        simpa using habandon
      · exact hstill (by simp)
    | late u =>
      simp only [step]
      split
      · next w hw =>
        obtain rfl := id_of_visit? hw
        split
        · next hdue =>
          -- Who waits is never late.
          have hrunning : w.isRunning = true := by
            cases hphase : w.phase with
            | waiting => simp [Visit.due?, hphase] at hdue
            | uploading | exchanging => simp [Visit.isRunning, hphase]
          exact abandon_stride h _ _ hw (.inl hrunning) (.inr rfl) (by simp)
        · exact hstill (by simp)
      · exact hstill (by simp)
    | station g e =>
      have hown : e.isOwn = false := by simpa [RelayOccurrence.isOutside, RelayEvent.isOutside]
        using hout
      have hstation := station_stride (v := v) h g e hown
      -- A single station's clock is not moved.
      cases e with
      | elapse duration => exact hstill (by simp)
      | _ => exact hstation
    | elapse duration =>
      simp only [step]
      split
      · exact hstill (by simp)
      · exact hstill (by simp)

end Relay

end ObliviousRelay
