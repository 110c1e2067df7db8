import ObliviousRelay.Proofs.Gateway.Table

/-!
# Transitions of a station

Everything that one event can do to a station, said once as a relation. The laws of the later
modules follow from its cases and do not open `Station.step` again.

The cases are grouped by what becomes of the connection and the slot of the exchange in question:

- `Passage`: it keeps both and changes its phase.
- `Loss`: its connection is closed, its slot stays.
- `Gain`: the connection that it was dialling has been made.
- `Surrender`: it stops dialling and keeps its slot.
- `Ending`: its connection is disposed of, then its slot is given back.

`Transition` joins them to the events that concern the queue, the idle connections and the clock.
Main statement: `step_transition`, every step is a transition.
-/

namespace ObliviousRelay.Gateway.Station

open Timing (Deadline Expired)

variable {s : Station} {x : Nat} {p q : Phase} {e : Event}

/-! ## Parts of a state -/

/-- A station with other slots. -/
def withSlots (s : Station) (slots : Slots Nat) : Station := { s with pool := { s.pool with slots } }

/-- A station with other idle connections, after so many connections were closed. -/
def withIdle (s : Station) (idle : List Connection) (closed : Nat) : Station :=
  { s with pool := { s.pool with idle, openCount := s.pool.openCount - closed } }

section Parts

variable (slots : Slots Nat) (idle : List Connection) (closed : Nat)

@[simp] theorem withSlots_slots : (s.withSlots slots).pool.slots = slots := rfl

@[simp] theorem phase?_withSlots : (s.withSlots slots).phase? x = s.phase? x := rfl

@[simp] theorem tally_withSlots (f : Exchange → Nat) : tally f (s.withSlots slots) = tally f s := rfl

@[simp] theorem queuedIds_withSlots : (s.withSlots slots).queuedIds = s.queuedIds := rfl

@[simp] theorem tally_withIdle (f : Exchange → Nat) :
    tally f (s.withIdle idle closed) = tally f s := rfl

end Parts

/-! ## Composed operations -/

@[simp] theorem andThen_eq (o : Outcome) (next : Station → Outcome) :
    o.andThen next = ((next o.1).1, o.2 ++ (next o.1).2) := rfl

/-- Closing several connections lowers the number of open ones by as many. -/
theorem closeAll_eq (s : Station) (cs : List Connection) :
    s.closeAll cs = (s.withIdle s.pool.idle cs.length, cs.map (.closed ·.serial)) := by
  have hfold : ∀ (cs : List Connection) (s : Station) (effects : List Effect),
      cs.foldl (fun o c => Outcome.andThen o (·.close c)) (s, effects) =
        (s.withIdle s.pool.idle cs.length, effects ++ cs.map (.closed ·.serial)) := by
    -- The fold is followed from any state and any effects so far.
    intro cs
    induction cs with
    | nil => intro s effects; simp [withIdle]
    | cons c rest ih =>
      intro s effects
      rw [List.foldl_cons, andThen_eq, ih]
      simp [close, withIdle, Nat.sub_sub, Nat.add_comm]
  exact hfold cs s []

/-- The end of an exchange: its slot is given back, and perhaps granted to one that waited. -/
theorem finish_shape (s : Station) (x : Nat) :
    (∃ slots, s.finish x = ((s.erase x).withSlots slots, [.freed x])) ∨
      ∃ slots y timeout, s.finish x =
        (((s.erase x).setPhase y (.granted timeout)).withSlots slots, [.freed x, .granted y]) := by
  unfold finish freeSlot
  cases hnext : ((s.erase x).pool.slots.giveBack x).2 with
  | none =>
    simp only [andThen_eq, hnext]
    exact .inl ⟨_, rfl⟩
  | some y =>
    simp only [andThen_eq, hnext, grant]
    split
    · next timeout hqueued => exact .inr ⟨_, y, timeout, rfl⟩
    · exact .inl ⟨_, rfl⟩

/-- Giving a slot back tells that it is free, and to whom it went. -/
theorem effects_finish (s : Station) (x : Nat) :
    (s.finish x).2 = [.freed x] ∨ ∃ y, (s.finish x).2 = [.freed x, .granted y] := by
  rcases s.finish_shape x with ⟨slots, heq⟩ | ⟨slots, y, timeout, heq⟩
  · exact .inl (by rw [heq])
  · exact .inr ⟨y, by rw [heq]⟩

/-! ## What becomes of one exchange -/

/-- The ways in which an attempt to connect fails without ending the exchange: it is refused, or its
own limit comes before the deadline. -/
inductive AttemptFails (x : Nat) : Event → Expired → String → Nat → Prop where
  | refused (stops : Expired) (error : String) (draw : Nat) :
      AttemptFails x (.refused x error draw) stops error draw
  | limit (draw : Nat) : AttemptFails x (.expire x draw) .limit "connect timed out" draw

/-- The ways in which an exchange stops dialling: what has been noted by then, and the failure. -/
inductive GivesUp (s : Station) (x : Nat) : Event → Dial → List Effect → Failure → Prop where
  | exhausted {e : Event} {stops : Expired} {error : String} {draw : Nat} (attempt bound : Nat)
      (hfails : AttemptFails x e stops error draw)
      (hnone : s.policy.retry.nextDelay attempt = none) :
      GivesUp s x e ⟨attempt, .connecting bound stops⟩
        [.attempted .error, .logged (.unreachable s.target.name attempt error)]
        (.gatewayUnreachable error)
  | deadline (attempt bound draw : Nat) :
      GivesUp s x (.expire x draw) ⟨attempt, .connecting bound .deadline⟩ [.attempted .timeout]
        .gatewayTimeout
  | pause (attempt ending draw : Nat) :
      GivesUp s x (.expire x draw) ⟨attempt, .pausing ending false⟩ [] .gatewayTimeout

/-- An exchange changes its phase and keeps its slot and its connection, if it has one. -/
inductive Passage (s : Station) (x : Nat) : Event → Phase → Phase → List Effect → Prop where
  | send (c : Connection) (t : Terms) (o : Outbound) :
      Passage s x (.send x o) (.held c t) (.readying c t o) [.readying x c.serial]
  | offer (c : Connection) (t : Terms) (o : Outbound) (r : WireRequest)
      (hr : wireRequest s.target o = .ok r) :
      Passage s x (.ready x) (.readying c t o) (.offering c t r false) [.offered x c.serial r]
  | unsendable (c : Connection) (t : Terms) (o : Outbound) (f : Failure)
      (hf : wireRequest s.target o = .error f) :
      Passage s x (.ready x) (.readying c t o) (.held c t) [.failed x f]
  | answer (c : Connection) (t : Terms) (r : WireRequest) (again : Bool) (status : Http.Status)
      (contentType : Option String) :
      Passage s x (.answered x status contentType) (.offering c t r again)
        (.reading c t status contentType .empty) []
  | receive (c : Connection) (t : Terms) (status : Http.Status) (contentType : Option String)
      (body piece : ByteArray) (hsize : body.size + piece.size ≤ s.policy.maxResponseSize) :
      Passage s x (.received x piece) (.reading c t status contentType body)
        (.reading c t status contentType (body ++ piece)) []
  | complete (c : Connection) (t : Terms) (status : Http.Status) (contentType : Option String)
      (body : ByteArray) (hnow : s.now ≤ t.deadline.moment) :
      Passage s x (.ended x) (.reading c t status contentType body)
        (.held c { t with reusable := true }) [.replied x ⟨status, contentType, body⟩ t.reused]
  | pause {e : Event} {stops : Expired} {error : String} {draw : Nat} (d : Deadline)
      (purpose : Purpose) (attempt bound delay length : Nat)
      (hfails : AttemptFails x e stops error draw)
      (hdelay : s.policy.retry.nextDelay attempt = some delay)
      (hlength : Timing.Backoff.withDraw? delay draw = some length) :
      Passage s x e (.dialling d purpose ⟨attempt, .connecting bound stops⟩)
        (.dialling d purpose ⟨attempt, .pausing (d.run s.now (some length)).moment
          ((d.run s.now (some length)).result matches .ok ())⟩)
        [.attempted .error, .logged (.retrying s.target.name attempt error)]
  | retry (d : Deadline) (purpose : Purpose) (attempt ending draw : Nat) :
      Passage s x (.expire x draw) (.dialling d purpose ⟨attempt, .pausing ending true⟩)
        (.dialling d purpose ⟨attempt + 1, .connecting (d.cap s.now s.policy.connectTimeout).1
          (d.cap s.now s.policy.connectTimeout).2⟩)
        [.dialling x]

/-- The events at which a connection is closed and the sending fails. -/
inductive Discards (s : Station) (x : Nat) : Event → Phase → Connection → Failure → Prop where
  | unready (c : Connection) (t : Terms) (o : Outbound) (error : String)
      (hfresh : t.reused = false) :
      Discards s x (.unready x error) (.readying c t o) c (.gatewayUnreachable error)
  | returned (c : Connection) (t : Terms) (r : WireRequest) (error : String) :
      Discards s x (.returned x error) (.offering c t r true) c (.gatewayUnreachable error)
  | failed (c : Connection) (t : Terms) (r : WireRequest) (again : Bool) (error : String) :
      Discards s x (.failed x error) (.offering c t r again) c (.gatewayUnreachable error)
  | tooLong (c : Connection) (t : Terms) (status : Http.Status) (contentType : Option String)
      (body piece : ByteArray) (hsize : s.policy.maxResponseSize < body.size + piece.size) :
      Discards s x (.received x piece) (.reading c t status contentType body) c
        (.gatewayError "length limit exceeded")
  | cutOff (c : Connection) (t : Terms) (status : Http.Status) (contentType : Option String)
      (body : ByteArray) (error : String) :
      Discards s x (.cutOff x error) (.reading c t status contentType body) c (.gatewayError error)
  | timeout (p : Phase) (c : Connection) (d : Deadline) (draw : Nat)
      (hc : p.connection? = some c) (hd : p.deadline? = some d) :
      Discards s x (.expire x draw) p c .gatewayTimeout

/-- An exchange loses its connection and keeps its slot: what is noted before the connection is
closed, and what comes after. -/
inductive Loss (s : Station) (x : Nat) :
    Event → Phase → Connection → Phase → List Effect → List Effect → Prop where
  | stale (c : Connection) (t : Terms) (o : Outbound) (error : String) (hreused : t.reused = true) :
      Loss s x (.unready x error) (.readying c t o) c
        (.dialling t.deadline (.offer o)
          ⟨1, .connecting (t.deadline.cap s.now s.policy.connectTimeout).1
            (t.deadline.cap s.now s.policy.connectTimeout).2⟩)
        [.logged (.stale error)] [.dialling x]
  | returned (c : Connection) (t : Terms) (r : WireRequest) (error : String) :
      Loss s x (.returned x error) (.offering c t r false) c
        (.dialling t.deadline (.offerAgain r)
          ⟨1, .connecting (t.deadline.cap s.now s.policy.connectTimeout).1
            (t.deadline.cap s.now s.policy.connectTimeout).2⟩)
        [.logged (.closedBeforeSend error)] [.dialling x]
  | discard {e : Event} {p : Phase} {c : Connection} {f : Failure} (h : Discards s x e p c f) :
      Loss s x e p c .spent [] [.failed x f]

/-- A connection has been made for an exchange: the phase after it, and what others see. -/
inductive Gain (s : Station) (x : Nat) (c : Connection) (d : Deadline) :
    Purpose → Phase → List Effect → Prop where
  | lease : Gain s x c d .lease (.held c ⟨d, false, false⟩) [.leased x false]
  | offer (o : Outbound) (r : WireRequest) (hr : wireRequest s.target o = .ok r) :
      Gain s x c d (.offer o) (.offering c ⟨d, false, false⟩ r false) [.offered x c.serial r]
  | unsendable (o : Outbound) (f : Failure) (hf : wireRequest s.target o = .error f) :
      Gain s x c d (.offer o) (.held c ⟨d, false, false⟩) [.failed x f]
  | offerAgain (r : WireRequest) :
      Gain s x c d (.offerAgain r) (.offering c ⟨d, false, false⟩ r true) [.offered x c.serial r]

/-- An exchange stops dialling in the midst of a sending: its lease is left without a connection. -/
inductive Surrender (s : Station) (x : Nat) : Event → Phase → List Effect → Failure → Prop where
  | intro {e : Event} {dial : Dial} {before : List Effect} {f : Failure} (d : Deadline)
      (purpose : Purpose) (hpurpose : purpose ≠ .lease) (h : GivesUp s x e dial before f) :
      Surrender s x e (.dialling d purpose dial) before f

/-- An exchange with a slot ends: how its connection is disposed of, and what is seen after the slot
was given back. -/
inductive Ending (s : Station) (x : Nat) : Event → Phase → Outcome → List Effect → Prop where
  | releaseClean (c : Connection) (t : Terms) (hclean : t.reusable = true) :
      Ending s x (.release x) (.held c t) (s.putAside c) []
  | releaseUsed (c : Connection) (t : Terms) (hused : t.reusable = false) :
      Ending s x (.release x) (.held c t) (s.close c) []
  | releaseSpent : Ending s x (.release x) .spent (s, []) []
  | drop (p : Phase) (hslot : p.hasSlot = true) : Ending s x (.drop x) p (s.closeOwn p) []
  | giveUp {e : Event} {dial : Dial} {before : List Effect} {f : Failure} (d : Deadline)
      (h : GivesUp s x e dial before f) :
      Ending s x e (.dialling d .lease dial) (s, before) [.failed x f]
  | breakDown {e : Event} {stops : Expired} {error : String} {draw : Nat} (d : Deadline)
      (purpose : Purpose) (attempt bound delay : Nat) (hfails : AttemptFails x e stops error draw)
      (hdelay : s.policy.retry.nextDelay attempt = some delay)
      (hlength : Timing.Backoff.withDraw? delay draw = none) :
      Ending s x e (.dialling d purpose ⟨attempt, .connecting bound stops⟩)
        (s, [.attempted .error]) [.overflowed x]

/-! ## Who holds a slot, who owns a connection -/

theorem hasSlot_of_connection? {c : Connection} (h : p.connection? = some c) : p.hasSlot = true := by
  cases p <;> simp_all [Phase.connection?, Phase.hasSlot]

/-- A passage is between phases that have a slot. -/
theorem Passage.hasSlot {effects : List Effect} (h : Passage s x e p q effects) :
    p.hasSlot = true ∧ q.hasSlot = true := by
  cases h <;> exact ⟨rfl, rfl⟩

/-- A passage keeps its connection. -/
theorem Passage.connection?_eq {effects : List Effect} (h : Passage s x e p q effects) :
    q.connection? = p.connection? := by
  cases h <;> rfl

theorem Discards.connection?_eq {c : Connection} {f : Failure} (h : Discards s x e p c f) :
    p.connection? = some c := by
  cases h with
  | timeout p c d draw hc hd => exact hc
  | _ => rfl

/-- A loss is one of the connection, which the new phase has not. -/
theorem Loss.connection?_eq {c : Connection} {before after : List Effect}
    (h : Loss s x e p c q before after) : p.connection? = some c ∧ q.connection? = none := by
  cases h with
  | stale | returned => exact ⟨rfl, rfl⟩
  | discard h => exact ⟨h.connection?_eq, rfl⟩

theorem Loss.hasSlot {c : Connection} {before after : List Effect}
    (h : Loss s x e p c q before after) : p.hasSlot = true ∧ q.hasSlot = true := by
  refine ⟨hasSlot_of_connection? h.connection?_eq.1, ?_⟩
  cases h <;> rfl

/-- A gain ends with its new connection. -/
theorem Gain.connection?_eq {c : Connection} {d : Deadline} {purpose : Purpose}
    {effects : List Effect} (h : Gain s x c d purpose q effects) : q.connection? = some c := by
  cases h <;> rfl

theorem Gain.hasSlot {c : Connection} {d : Deadline} {purpose : Purpose} {effects : List Effect}
    (h : Gain s x c d purpose q effects) : q.hasSlot = true :=
  hasSlot_of_connection? h.connection?_eq

theorem Surrender.connection?_eq {before : List Effect} {f : Failure}
    (h : Surrender s x e p before f) : p.connection? = none := by
  cases h
  rfl

theorem Surrender.hasSlot {before : List Effect} {f : Failure} (h : Surrender s x e p before f) :
    p.hasSlot = true := by
  cases h
  rfl

/-- Only an exchange with a slot can end. -/
theorem Ending.hasSlot {disposal : Outcome} {tail : List Effect} (h : Ending s x e p disposal tail) :
    p.hasSlot = true := by
  cases h with
  | drop p hslot => exact hslot
  | _ => rfl

/-- To dispose of a connection touches neither the exchanges nor the slots. -/
theorem Ending.disposal_same {disposal : Outcome} {tail : List Effect}
    (h : Ending s x e p disposal tail) : disposal.1.exchanges = s.exchanges ∧
      disposal.1.pool.slots = s.pool.slots ∧ disposal.1.target = s.target := by
  cases h with
  | releaseClean c t hclean =>
    unfold putAside
    split <;> exact ⟨rfl, rfl, rfl⟩
  | drop p hslot =>
    rw [closeOwn, closeAll_eq]
    exact ⟨rfl, rfl, rfl⟩
  | _ => exact ⟨rfl, rfl, rfl⟩

/-- Disposing of a connection touches nobody's phase. -/
theorem Ending.phase?_disposal {disposal : Outcome} {tail : List Effect}
    (h : Ending s x e p disposal tail) (y : Nat) : disposal.1.phase? y = s.phase? y := by
  rw [phase?, h.disposal_same.1, phase?]

/-! ## What becomes of a station -/

/-- Everything that one event can do to a station. -/
inductive Transition (s : Station) : Event → Outcome → Prop where
  /-- The event does not fit. -/
  | still (e : Event) : Transition s e (s, [])
  /-- A lease that has lost its connection is used. -/
  | dead (x : Nat) (o : Outbound) (hp : s.phase? x = some .spent) :
      Transition s (.send x o) (s, [.failed x (.gatewayUnreachable "lease discarded")])
  | lose (serial : Nat) : Transition s (.lose serial) ({ s with lost := serial :: s.lost }, [])
  | elapse (duration : Nat) (h : s.mayElapse (s.now + duration) = true) :
      Transition s (.elapse duration) ({ s with now := s.now + duration }, [])
  | accept (x timeout : Nat) (hx : s.phase? x = none) (hfree : 0 < s.pool.slots.free) :
      Transition s (.request x timeout)
        ((s.insert x (.granted timeout)).withSlots { s.pool.slots with
            free := s.pool.slots.free - 1, held := x :: s.pool.slots.held }, [.granted x])
  | enqueue (x timeout : Nat) (hx : s.phase? x = none) (hfree : s.pool.slots.free = 0)
      (hwait : s.target.queueWait ≠ 0) :
      Transition s (.request x timeout)
        ((s.insert x (.queued timeout)).withSlots { s.pool.slots with
            waiting := s.pool.slots.waiting ++ [⟨x, s.now + s.target.queueWait⟩] }, [])
  | refuse (x timeout : Nat) (hx : s.phase? x = none) (hfree : s.pool.slots.free = 0)
      (hwait : s.target.queueWait = 0) :
      Transition s (.request x timeout)
        (s, [.logged (.poolExhausted s.target.name), .failed x .gatewayBusy])
  | withdraw (x timeout : Nat) (hp : s.phase? x = some (.queued timeout)) :
      Transition s (.drop x) ((s.erase x).withSlots (s.pool.slots.withdraw x), [])
  | overdue (x timeout draw : Nat) (hp : s.phase? x = some (.queued timeout)) :
      Transition s (.expire x draw) ((s.erase x).withSlots (s.pool.slots.withdraw x),
        [.logged (.poolExhausted s.target.name), .failed x .gatewayBusy])
  /-- An idle connection is used again; those found unusable before it are closed. -/
  | reuse (x timeout : Nat) (c : Connection) (unusable left : List Connection)
      (hp : s.phase? x = some (.granted timeout)) (hidle : s.pool.idle = unusable ++ c :: left) :
      Transition s (.proceed x)
        ((s.withIdle left unusable.length).setPhase x (.held c ⟨.after s.now timeout, true, false⟩),
          unusable.map (.closed ·.serial) ++ [.leased x true])
  /-- No idle connection can be used: all are closed, and a new one is dialled. -/
  | dial (x timeout : Nat) (hp : s.phase? x = some (.granted timeout)) :
      Transition s (.proceed x)
        ((s.withIdle [] s.pool.idle.length).setPhase x
          (.dialling (.after s.now timeout) .lease
            ⟨1, .connecting ((Deadline.after s.now timeout).cap s.now s.policy.connectTimeout).1
              ((Deadline.after s.now timeout).cap s.now s.policy.connectTimeout).2⟩),
          s.pool.idle.map (.closed ·.serial) ++ [.dialling x])
  | pass {e : Event} {p q : Phase} {effects : List Effect} (x : Nat) (hp : s.phase? x = some p)
      (h : Passage s x e p q effects) : Transition s e (s.setPhase x q, effects)
  | lossOf {e : Event} {p q : Phase} {c : Connection} {before after : List Effect} (x : Nat)
      (hp : s.phase? x = some p) (h : Loss s x e p c q before after) :
      Transition s e ((s.close c).1.setPhase x q, before ++ .closed c.serial :: after)
  | gain {q : Phase} {effects : List Effect} (x : Nat) (d : Deadline) (purpose : Purpose)
      (attempt bound : Nat) (stops : Expired)
      (hp : s.phase? x = some (.dialling d purpose ⟨attempt, .connecting bound stops⟩))
      (h : Gain s x s.opened.1 d purpose q effects) :
      Transition s (.connected x) (s.opened.2.1.setPhase x q, s.opened.2.2 ++ effects)
  | surrender {e : Event} {p : Phase} {before : List Effect} {f : Failure} (x : Nat)
      (hp : s.phase? x = some p) (h : Surrender s x e p before f) :
      Transition s e (s.setPhase x .spent, before ++ [.failed x f])
  | ending {e : Event} {p : Phase} {disposal : Outcome} {tail : List Effect} (x : Nat)
      (hp : s.phase? x = some p) (h : Ending s x e p disposal tail) :
      Transition s e ((disposal.1.finish x).1, disposal.2 ++ (disposal.1.finish x).2 ++ tail)

/-! ## Every step is a transition -/

/-- What a search finds: the unusable connections, the one to use, and those left make up the list. -/
theorem search_found {closed : Nat → Bool} {idleTimeout now : Nat} {idle : List Connection}
    {c : Connection} (h : (Pool.search closed idleTimeout now idle).found = some c) :
    idle = (Pool.search closed idleTimeout now idle).dropped ++
      c :: (Pool.search closed idleTimeout now idle).left := by
  -- What is found is the head of what remains after the unusable ones.
  have hrest : idle.dropWhile (!Pool.isUsable closed idleTimeout now ·) =
      c :: (Pool.search closed idleTimeout now idle).left := List.eq_cons_of_mem_head? h
  rw [← hrest]
  exact List.takeWhile_append_dropWhile.symm

/-- A search that finds nothing has dropped all there was. -/
theorem search_none {closed : Nat → Bool} {idleTimeout now : Nat} {idle : List Connection}
    (h : (Pool.search closed idleTimeout now idle).found = none) :
    (Pool.search closed idleTimeout now idle).dropped = idle ∧
      (Pool.search closed idleTimeout now idle).left = [] := by
  have hrest : idle.dropWhile (!Pool.isUsable closed idleTimeout now ·) = [] :=
    List.head?_eq_none_iff.mp h
  have hsplit := List.takeWhile_append_dropWhile
    (p := (!Pool.isUsable closed idleTimeout now ·)) (l := idle)
  rw [hrest, List.append_nil] at hsplit
  exact ⟨hsplit, by simp [Pool.search, hrest]⟩

/-- Whoever has its slot reuses a connection or dials. -/
theorem proceed_transition {timeout : Nat} (hp : s.phase? x = some (.granted timeout)) :
    Transition s (.proceed x) (s.proceed x timeout) := by
  simp only [proceed, closeAll_eq, andThen_eq]
  cases hfound : (Pool.search s.isLost s.policy.idleTimeout s.now s.pool.idle).found with
  | some c => exact .reuse x timeout c _ _ hp (search_found hfound)
  | none =>
    obtain ⟨hdropped, hleft⟩ := search_none hfound
    rw [hdropped, hleft]
    exact .dial x timeout hp

/-- To give up dialling either ends the exchange or leaves its lease without a connection. -/
theorem giveUp_transition {d : Deadline} {purpose : Purpose} {dial : Dial} {before : List Effect}
    {f : Failure} (hp : s.phase? x = some (.dialling d purpose dial))
    (h : GivesUp s x e dial before f) :
    Transition s e (Outcome.andThen (s, before) (·.giveUp x purpose f)) := by
  cases purpose with
  | lease => simpa [giveUp, spend] using Transition.ending x hp (.giveUp d h)
  | offer o => exact .surrender x hp (.intro d (.offer o) (by simp) h)
  | offerAgain r => exact .surrender x hp (.intro d (.offerAgain r) (by simp) h)

/-- A failed attempt leads to a pause, to an end for good or to giving up. -/
theorem attemptFailed_transition {d : Deadline} {purpose : Purpose} {attempt bound draw : Nat}
    {stops : Expired} {error : String}
    (hp : s.phase? x = some (.dialling d purpose ⟨attempt, .connecting bound stops⟩))
    (h : AttemptFails x e stops error draw) :
    Transition s e (s.attemptFailed x d purpose attempt error draw) := by
  unfold attemptFailed
  split
  · next delay hdelay =>
    split
    · next length hlength =>
      exact .pass x hp (.pause d purpose attempt bound delay length h hdelay hlength)
    · next hlength =>
      simpa [breakDown] using
        Transition.ending x hp (.breakDown d purpose attempt bound delay h hdelay hlength)
  · next hnone => exact giveUp_transition hp (.exhausted attempt bound h hnone)

theorem discard_transition {c : Connection} {f : Failure} (hp : s.phase? x = some p)
    (h : Discards s x e p c f) : Transition s e (s.discard x c f) :=
  .lossOf x hp (.discard h)

/-- A request is granted, refused or made to wait. -/
theorem request_transition (timeout : Nat) : Transition s (.request x timeout)
    (s.request x timeout) := by
  unfold request Slots.request
  cases hx : s.phase? x with
  -- The number is taken, and nothing happens.
  | some p => exact .still _
  | none =>
    -- A slot is free; or the queue takes it, unless the target allows no waiting.
    by_cases hfree : 0 < s.pool.slots.free
    · simpa [hfree, withSlots, Station.insert] using Transition.accept x timeout hx hfree
    · have hzero : s.pool.slots.free = 0 := by omega
      by_cases hwait : s.target.queueWait = 0
      · simpa [hfree, hwait] using Transition.refuse x timeout hx hzero hwait
      · simpa [hfree, hwait, withSlots, Station.insert] using
          Transition.enqueue x timeout hx hzero hwait

/-- The new connection goes to whatever it was made for. -/
theorem connected_transition {d : Deadline} {purpose : Purpose} {attempt bound : Nat}
    {stops : Expired}
    (hp : s.phase? x = some (.dialling d purpose ⟨attempt, .connecting bound stops⟩)) :
    Transition s (.connected x) (s.connected x d purpose) := by
  have htarget : s.opened.2.1.target = s.target := rfl
  cases purpose with
  -- A lease, and a request that is sent again, need nothing more.
  | lease => exact .gain x d .lease attempt bound stops hp .lease
  | offerAgain r => exact .gain x d (.offerAgain r) attempt bound stops hp (.offerAgain r)
  -- A first request is written for the target now.
  | offer o =>
    cases hr : wireRequest s.target o with
    | ok r =>
      have h := Transition.gain x d (.offer o) attempt bound stops hp (.offer o r hr)
      simpa [connected, offer, handOver, Outcome.andThen, htarget, hr] using h
    | error f =>
      have h := Transition.gain x d (.offer o) attempt bound stops hp (.unsendable o f hr)
      simpa [connected, offer, Outcome.andThen, htarget, hr] using h

/-- Whatever is due ends by the move of its phase. -/
theorem expire_transition (hp : s.phase? x = some p) (hdue : s.isDue ⟨x, p⟩ = true) (draw : Nat) :
    Transition s (.expire x draw) (s.expire x p draw) := by
  cases p with
  | queued timeout => exact .overdue x timeout draw hp
  | granted timeout => exact .still _
  -- An attempt or a pause: its end is the deadline's or its own.
  | dialling d purpose dial =>
    obtain ⟨attempt, stage⟩ := dial
    cases stage with
    | connecting bound stops =>
      cases stops with
      | deadline => exact giveUp_transition hp (.deadline attempt bound draw)
      | limit => exact attemptFailed_transition hp (.limit draw)
    | pausing ending inTime =>
      cases inTime with
      | true => exact .pass x hp (.retry d purpose attempt ending draw)
      | false => exact giveUp_transition hp (.pause attempt ending draw)
  -- A lease that is not in use has no moment, so it is never due.
  | held c t => exact absurd hdue (by simp [isDue, timer?, Phase.timer?, Phase.deadline?])
  | spent => exact .still _
  -- In use, it is discarded when its time is over.
  | readying c t o => exact discard_transition hp (.timeout _ c t.deadline draw rfl rfl)
  | offering c t r again => exact discard_transition hp (.timeout _ c t.deadline draw rfl rfl)
  | reading c t status contentType body =>
    exact discard_transition hp (.timeout _ c t.deadline draw rfl rfl)

/-- What an event does to the exchange that it speaks of is a transition. -/
theorem act_transition (hp : s.phase? x = some p) (hx : subject? e = some x)
    (htime : (isWord e && s.isOverdue p) = false) : Transition s e (s.act x p e) := by
  -- One case for each event. In a phase that it does not fit, an event does nothing.
  cases e <;> simp only [subject?, reduceCtorEq, Option.some.injEq] at hx <;> subst hx
  case proceed y =>
    cases p
    case granted timeout => exact proceed_transition hp
    all_goals exact .still _
  case connected y =>
    cases p
    case dialling d purpose dial =>
      obtain ⟨attempt, stage⟩ := dial
      cases stage with
      | connecting bound stops => exact connected_transition hp
      | pausing ending inTime => exact .still _
    all_goals exact .still _
  case refused y error draw =>
    cases p
    case dialling d purpose dial =>
      obtain ⟨attempt, stage⟩ := dial
      cases stage with
      | connecting bound stops => exact attemptFailed_transition hp (.refused stops error draw)
      | pausing ending inTime => exact .still _
    all_goals exact .still _
  -- A message is taken by a lease that is held, and refused by one that is spent.
  case send y o =>
    cases p
    case held c t => exact .pass y hp (.send c t o)
    case spent => exact .dead y o hp
    all_goals exact .still _
  case ready y =>
    cases p
    -- The request is written now, and may turn out to be one that cannot be.
    case readying c t o =>
      simp only [act, offer]
      cases hr : wireRequest s.target o with
      | ok r => exact .pass y hp (.offer c t o r hr)
      | error f => exact .pass y hp (.unsendable c t o f hr)
    all_goals exact .still _
  case unready y error =>
    cases p
    case readying c t o =>
      simp only [act, unready]
      -- A connection from the pool may have gone stale; a fresh one is at fault.
      cases hreused : t.reused with
      | true => exact .lossOf y hp (.stale c t o error hreused)
      | false => exact discard_transition hp (.unready c t o error hreused)
    all_goals exact .still _
  case returned y error =>
    cases p
    case offering c t r again =>
      -- One resend is allowed, and no second one.
      cases again with
      | true => exact discard_transition hp (.returned c t r error)
      | false => exact .lossOf y hp (.returned c t r error)
    all_goals exact .still _
  case failed y error =>
    cases p
    case offering c t r again => exact discard_transition hp (.failed c t r again error)
    all_goals exact .still _
  case answered y status contentType =>
    cases p
    case offering c t r again => exact .pass y hp (.answer c t r again status contentType)
    all_goals exact .still _
  case received y piece =>
    cases p
    case reading c t status contentType body =>
      simp only [act, received]
      -- A reply beyond the bound is not read on.
      by_cases hsize : s.policy.maxResponseSize < body.size + piece.size
      · rw [if_pos hsize]
        exact discard_transition hp (.tooLong c t status contentType body piece hsize)
      · rw [if_neg hsize]
        exact .pass y hp (.receive c t status contentType body piece (by omega))
    all_goals exact .still _
  case ended y =>
    cases p
    case reading c t status contentType body =>
      -- A reply that is completed after its deadline is not heard.
      have hnow : s.now ≤ t.deadline.moment := by simpa [isWord, isOverdue] using htime
      exact .pass y hp (.complete c t status contentType body hnow)
    all_goals exact .still _
  case cutOff y error =>
    cases p
    case reading c t status contentType body =>
      exact discard_transition hp (.cutOff c t status contentType body error)
    all_goals exact .still _
  case release y =>
    cases p
    case held c t =>
      simp only [act, release]
      -- Clean or not, the connection goes to the pool or is closed.
      cases hclean : t.reusable with
      | true => simpa [hclean] using Transition.ending y hp (.releaseClean c t hclean)
      | false => simpa [hclean] using Transition.ending y hp (.releaseUsed c t hclean)
    case spent => simpa [act] using Transition.ending y hp .releaseSpent
    all_goals exact .still _
  case drop y =>
    -- Who waits has no slot to give back, and only leaves the queue.
    cases hslot : p.hasSlot with
    | true =>
      have h := Transition.ending y hp (.drop p hslot)
      cases p
      case queued timeout => exact absurd hslot (by simp [Phase.hasSlot])
      all_goals simpa [act, drop] using h
    | false =>
      cases p
      case queued timeout => exact .withdraw y timeout hp
      all_goals exact absurd hslot (by simp [Phase.hasSlot])
  case expire y draw =>
    simp only [act]
    by_cases hdue : s.isDue ⟨y, p⟩ = true
    · rw [if_pos hdue]
      exact expire_transition hp hdue draw
    · rw [if_neg hdue]
      exact .still _

/-- An event about one exchange does nothing but act on it. -/
theorem step_eq_act (hx : subject? e = some x) : s.step e = match s.phase? x with
    | some p => if isWord e && s.isOverdue p then (s, []) else s.act x p e
    | none => (s, []) := by
  cases e <;> simp only [subject?, reduceCtorEq, Option.some.injEq] at hx <;> subst hx <;> rfl

/-- **Every step is a transition.** -/
theorem step_transition (s : Station) (e : Event) : Transition s e (s.step e) := by
  cases hx : subject? e with
  -- An event that is no exchange's own.
  | none =>
    cases e <;> simp only [subject?, reduceCtorEq] at hx
    case request x timeout => exact request_transition timeout
    case lose serial => exact .lose serial
    case elapse duration =>
      simp only [step]
      by_cases h : s.mayElapse (s.now + duration) = true
      · rw [if_pos h]
        exact .elapse duration h
      · rw [if_neg h]
        exact .still _
  | some x =>
    rw [step_eq_act hx]
    cases hp : s.phase? x with
    -- Nobody of this number is there.
    | none => exact .still e
    | some p =>
      -- A word that comes after the deadline is not heard.
      cases htime : isWord e && s.isOverdue p with
      | true =>
        simp only [htime, if_true]
        exact .still e
      | false =>
        simp only [htime, Bool.false_eq_true, if_false]
        exact act_transition hp hx htime

end ObliviousRelay.Gateway.Station
