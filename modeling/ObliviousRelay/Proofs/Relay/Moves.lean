import ObliviousRelay.Proofs.Relay.Visits

/-!
# The moves of a relay

What an event from outside does to a relay, told once. A visit arrives, uploads, becomes an exchange,
is answered or abandoned; something happens at a station; time passes.

- `Move` lists what can happen, `step_move` says that nothing else does.
- `occur` and `history` also let time pass although something is due.
-/

namespace ObliviousRelay

/-- Whether the relay itself makes an event happen: it asks for leases, sends on them and gives them
up. -/
def Gateway.Event.isOwn : Gateway.Event → Bool
  | .request _ _ | .send _ _ | .release _ | .drop _ => true
  | _ => false

/-- Whether an event comes from a gateway, the network, the clock or a client, and not from the
relay itself. -/
def RelayEvent.isOutside : RelayEvent → Bool
  | .station _ e => !e.isOwn
  | _ => true

/-- Something that happens to a relay, or time that passes although something is due. -/
inductive RelayOccurrence where
  | event (ev : RelayEvent)
  | delay (duration : Nat)
  deriving DecidableEq

/-- Whether an occurrence does not come from the relay itself. -/
def RelayOccurrence.isOutside : RelayOccurrence → Bool
  | .event ev => ev.isOutside
  | .delay _ => true

namespace Relay

variable {r : Relay}

/-! ## Histories -/

/-- The effect of one occurrence. -/
def occur (r : Relay) : RelayOccurrence → Outcome
  | .event ev => r.step ev
  | .delay duration =>
    ({ r with now := r.now + duration, client := r.client.wait duration }, [])

/-- The effect of several occurrences. -/
def history (r : Relay) : List RelayOccurrence → Outcome
  | [] => (r, [])
  | ev :: rest => (r.occur ev).andThen (·.history rest)

theorem history_cons (r : Relay) (ev : RelayOccurrence) (rest : List RelayOccurrence) :
    r.history (ev :: rest) =
      (((r.occur ev).1.history rest).1, (r.occur ev).2 ++ ((r.occur ev).1.history rest).2) :=
  rfl

/-- A history may be cut in two anywhere. -/
theorem history_append (r : Relay) (past future : List RelayOccurrence) :
    r.history (past ++ future) = (((r.history past).1.history future).1,
      (r.history past).2 ++ ((r.history past).1.history future).2) := by
  induction past generalizing r with
  | nil => rfl
  | cons ev rest ih => rw [List.cons_append, history_cons, ih, history_cons, List.append_assoc]

/-! ## Moves -/

/-- What an event from outside can do to a relay. -/
inductive Move (r : Relay) : RelayEvent → Outcome → Prop where
  /-- The event does not fit what it speaks of. -/
  | still (ev : RelayEvent) : Move r ev (r, [])
  | arrive (v : Nat) (head : Http.RequestHead) (hnew : r.visit? v = none) :
      Move r (.arrive v head)
        ({ r with visits := r.visits ++ [⟨v, head.method, .waiting head⟩] } : Relay).startWaiting
  | grow (w : Visit) (due : Nat) (a : Http.Admission) (body : Http.Body) (p : Http.Piece)
      (hw : r.visit? w.id = some w) (hphase : w.phase = .uploading due a body) :
      Move r (.piece w.id p) (r.setPhase w.id (.uploading due a (body ++ [p])), [])
  /-- The body of a visit is refused, before its end or at its end. -/
  | refuse (ev : RelayEvent) (w : Visit) (due : Nat) (a : Http.Admission) (body : Http.Body)
      (f : Failure) (hw : r.visit? w.id = some w) (hphase : w.phase = .uploading due a body) :
      Move r ev ((r.conclude w (.error f)).andThen startWaiting)
  | exchange (w : Visit) (due : Nat) (a : Http.Admission) (body : Http.Body) (i : Http.Inbound)
      (t : Target) (s : Gateway.Station) (hw : r.visit? w.id = some w)
      (hphase : w.phase = .uploading due a body)
      (hreceived : Http.Inbound.receive r.route a body = .ok i)
      (hprepared : r.engine.prepare i.selector i.message = .ok t)
      (hstation : r.client.stationFor t = .ok s) :
      Move r (.uploaded w.id) ((r.setPhase w.id (.exchanging due t.name i.message)).station t.name
        (.request w.id t.requestTimeout))
  /-- The client is gone, or the visit is late and is told so. -/
  | abandon (ev : RelayEvent) (w : Visit) (answer : List RelayEffect)
      (hw : r.visit? w.id = some w) (hanswer : NoStation answer) :
      Move r ev (((r.abandon w).andThen fun r => (r, answer)).andThen startWaiting)
  | station (g : String) (e : Gateway.Event) (hown : e.isOwn = false) :
      Move r (.station g e) (r.station g e)
  | elapse (duration : Nat) (hmay : r.mayElapse (r.now + duration) = true) :
      Move r (.elapse duration)
        ({ r with now := r.now + duration, client := r.client.elapse duration }, [])

/-- **What becomes of an upload that is complete.** It is refused, or its message is for a target that
was prepared and has a station, where a lease is asked for. -/
theorem exchange_cases (r : Relay) (w : Visit) (due : Nat) (a : Http.Admission) (body : Http.Body) :
    (∃ f, r.exchange w due a body = (r.conclude w (.error f)).andThen startWaiting) ∨
      ∃ i t s, Http.Inbound.receive r.route a body = .ok i ∧
        r.engine.prepare i.selector i.message = .ok t ∧ r.client.stationFor t = .ok s ∧
        r.exchange w due a body = (r.setPhase w.id (.exchanging due t.name i.message)).station
          t.name (.request w.id t.requestTimeout) := by
  unfold exchange
  cases hreceived : Http.Inbound.receive r.route a body with
  | error f => exact .inl ⟨f, rfl⟩
  | ok i =>
    -- The message is whole; the target's policy decides next, and then whether it has a station.
    cases hprepared : r.engine.prepare i.selector i.message with
    | error f =>
      simp only [hprepared, bind, Except.bind]
      exact .inl ⟨f, rfl⟩
    | ok t =>
      simp only [hprepared, bind, Except.bind, pure, Except.pure]
      cases hstation : r.client.stationFor t with
      | error f => exact .inl ⟨f, rfl⟩
      | ok s => exact .inr ⟨i, t, s, rfl, hprepared, hstation, rfl⟩

/-- A visit that has been uploaded is answered at once, or becomes an exchange. -/
theorem exchange_move {w : Visit} {due : Nat} {a : Http.Admission} {body : Http.Body}
    (hw : r.visit? w.id = some w) (hphase : w.phase = .uploading due a body) :
    Move r (.uploaded w.id) (r.exchange w due a body) := by
  rcases r.exchange_cases w due a body with ⟨f, heq⟩ |
    ⟨i, t, s, hreceived, hprepared, hstation, heq⟩ <;> rw [heq]
  · exact .refuse _ w due a body f hw hphase
  · exact .exchange w due a body i t s hw hphase hreceived hprepared hstation

/-- **Every step is a move.** -/
theorem step_move (r : Relay) (ev : RelayEvent) (hout : ev.isOutside = true) :
    Move r ev (r.step ev) := by
  cases ev with
  | arrive v head =>
    simp only [step]
    split
    · exact .still _
    · next hnew => exact .arrive v head (by simpa using hnew)
  | piece v p =>
    simp only [step]
    split
    · next w hw =>
      obtain rfl := id_of_visit? hw
      split
      · next due a body hphase =>
        unfold receivePiece
        split
        · exact .refuse _ w due a body _ hw hphase
        · exact .grow w due a body p hw hphase
      · exact .still _
    · exact .still _
  | uploaded v =>
    simp only [step]
    split
    · next w hw =>
      obtain rfl := id_of_visit? hw
      split
      · next due a body hphase => exact exchange_move hw hphase
      · exact .still _
    · exact .still _
  | leave v =>
    simp only [step]
    split
    · next w hw =>
      obtain rfl := id_of_visit? hw
      have habandon := Move.abandon (.leave w.id) w [] hw (by simp [NoStation])
      simpa using habandon
    · exact .still _
  | late v =>
    simp only [step]
    split
    · next w hw =>
      obtain rfl := id_of_visit? hw
      split
      · exact .abandon _ w _ hw (by simp [NoStation])
      · exact .still _
    · exact .still _
  | station g e =>
    have hown : e.isOwn = false := by simpa [RelayEvent.isOutside] using hout
    -- A single station's clock is not moved: time passes for all of them.
    cases e with
    | elapse duration => exact .still _
    | _ => exact .station g _ hown
  | elapse duration =>
    simp only [step]
    split
    · next hmay => exact .elapse duration hmay
    · exact .still _

end Relay

end ObliviousRelay
