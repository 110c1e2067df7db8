import ObliviousRelay.Proofs.Gateway.Attempts
import ObliviousRelay.Proofs.Gateway.Own
import ObliviousRelay.Proofs.Gateway.Timely

/-!
# What an exchange may spend

An exchange can dial for its lease, in the place of a pooled connection that was closed, and once
more when a message came back unsent. How often it does all that is bounded by a budget: an exchange
is given so much when it asks for a lease and so much when it sends a message, it pays for what it
does, and what its phase is worth covers all that it can still do.

- `Deeds` counts what an exchange does, `Station.deeds` over some occurrences.
- `Tariff` is a price for each deed with a budget that suffices; `Tariff.worth` is what a phase may
  still spend, `Course.affordable` the law of one event and `affordable_history` that of a history.
- `Tariff.attempts`, `successes`, `resends` and `moves` have one kind of deed paid each, which gives
  `deeds_bounded`.
-/

namespace ObliviousRelay.Gateway

open Timing (Deadline Expired Retry)

/-! ## Deeds -/

/-- How often an exchange did something. -/
structure Deeds where
  /-- Attempts to connect that it began. -/
  attempts : Nat
  /-- Connections that were made for it. -/
  successes : Nat
  /-- Messages that came back unsent and for which it dialled again. -/
  resends : Nat
  /-- Changes of its phase; more of a reply's body is none. -/
  moves : Nat
  deriving DecidableEq

namespace Deeds

/-- Nothing was done. -/
def none : Deeds := ⟨0, 0, 0, 0⟩

/-- One after the other. -/
def add (d more : Deeds) : Deeds where
  attempts := d.attempts + more.attempts
  successes := d.successes + more.successes
  resends := d.resends + more.resends
  moves := d.moves + more.moves

end Deeds

/-- Whether a phase is that of a reply being read. -/
def Phase.isReading : Phase → Bool
  | .reading _ _ _ _ _ => true
  | _ => false

/-- Whether an exchange has gone on from a phase to another. -/
def isMove (p q : Option Phase) : Bool :=
  decide (p ≠ q) && !(p.any (·.isReading) && q.any (·.isReading))

/-- Whether an event is a message that has come back. -/
def Event.isReturn : Event → Bool
  | .returned _ _ => true
  | _ => false

/-- What an exchange does at an event about it, given its phases before and after and the effects. -/
def deedsOf (x : Nat) (e : Event) (p q : Option Phase) (effects : List Effect) : Deeds where
  attempts := effects.count (.dialling x)
  successes := openings effects
  resends := if e.isReturn then effects.count (.dialling x) else 0
  moves := (isMove p q).toNat

/-- What an exchange does at an occurrence. -/
def Station.deedsAt (x : Nat) (s : Station) : Occurrence → Deeds
  | .event e =>
    if e.about? = some x then deedsOf x e (s.phase? x) ((s.step e).1.phase? x) (s.step e).2
    else .none
  | .delay _ => .none

/-- What an exchange does in the course of some occurrences. -/
def Station.deeds (x : Nat) (s : Station) : List Occurrence → Deeds
  | [] => .none
  | o :: rest => (s.deedsAt x o).add ((s.occur o).1.deeds x rest)

/-! ## Tariffs -/

/-- Prices for what an exchange does, with a budget for its lease and one for each message. What the
making of a connection may still cost covers each step of it. -/
structure Tariff (r : Retry) where
  attempt : Nat
  success : Nat
  resend : Nat
  move : Nat
  /-- What a lease costs at most, moves to and from it apart. -/
  lease : Nat
  /-- What a message costs at most, likewise. -/
  message : Nat
  /-- What the making of a connection costs while the attempt of a number is under way. -/
  connecting : Nat → Nat
  /-- The same in the pause after it. -/
  pausing : Nat → Nat
  lease_begins : attempt + move + connecting 1 ≤ lease
  message_begins : attempt + resend + move + connecting 1 ≤ message
  pauses : ∀ k delay, r.nextDelay k = some delay → move + pausing k ≤ connecting k
  repeats : ∀ k, attempt + move + connecting (k + 1) ≤ pausing k
  succeeds : ∀ k, success + move ≤ connecting k
  lease_le_message : lease ≤ message

namespace Tariff

variable {r : Retry} {τ : Tariff r}

/-- What some deeds cost. -/
def cost (τ : Tariff r) (d : Deeds) : Nat :=
  τ.attempt * d.attempts + τ.success * d.successes + τ.resend * d.resends + τ.move * d.moves

theorem cost_none (τ : Tariff r) : τ.cost .none = 0 := by
  simp [cost, Deeds.none]

/-- What two courses of deeds cost adds up. -/
theorem cost_add (τ : Tariff r) (d more : Deeds) :
    τ.cost (d.add more) = τ.cost d + τ.cost more := by
  simp only [cost, Deeds.add, Nat.mul_add]
  omega

/-- What a lease has left of its budget: all of it, where its connection was in the pool. -/
def unspent (τ : Tariff r) (t : Terms) : Nat := if t.reused then τ.lease else 0

/-- What the making of a connection may still cost. -/
def left (τ : Tariff r) : Dial → Nat
  | ⟨k, .connecting _ _⟩ => τ.connecting k
  | ⟨k, .pausing _ _⟩ => τ.pausing k

/-- What an exchange may still spend. -/
def worth (τ : Tariff r) : Option Phase → Nat
  | none => 0
  | some (.queued _) => τ.lease + 3 * τ.move
  | some (.granted _) => τ.lease + 2 * τ.move
  -- A lease that is dialled for has no budget left, one from the pool has all of it.
  | some (.dialling _ .lease dial) => τ.left dial + τ.move
  | some (.dialling _ (.offer _) dial) => τ.left dial + τ.message + 3 * τ.move
  | some (.dialling _ (.offerAgain _) dial) => τ.left dial + 3 * τ.move
  | some (.held _ t) => τ.unspent t + τ.move
  | some .spent => τ.move
  | some (.readying _ t _) => τ.unspent t + τ.message + 4 * τ.move
  -- A message that is offered first may come back; then its budget pays for the second offer.
  | some (.offering _ _ _ false) => τ.message + 3 * τ.move
  | some (.offering _ t _ true) => τ.unspent t + 3 * τ.move
  | some (.reading _ t _ _ _) => τ.unspent t + 2 * τ.move

/-- What an exchange is given at an event about it. -/
def income (τ : Tariff r) : Event → Nat
  | .request _ _ => τ.lease + 4 * τ.move
  | .send _ _ => τ.message + 4 * τ.move
  | _ => 0

theorem unspent_le_message (τ : Tariff r) (t : Terms) : τ.unspent t ≤ τ.message := by
  have hle := τ.lease_le_message
  unfold unspent
  split <;> omega

end Tariff

namespace Station

variable {s : Station} {x : Nat} {p q : Phase} {e : Event} {effects more : List Effect}

/-! ## What the effects of an event cost -/

/-- Effects by which an exchange neither dials nor gets a connection. -/
def Undialled (x : Nat) (effects : List Effect) : Prop :=
  effects.count (.dialling x) = 0 ∧ openings effects = 0

theorem Undialled.append (h : Undialled x effects) (hmore : Undialled x more) :
    Undialled x (effects ++ more) := by
  refine ⟨?_, ?_⟩
  · rw [List.count_append, h.1, hmore.1]
  · rw [openings_append, h.2, hmore.2]

/-- Closing dials nobody and opens nothing. -/
theorem undialled_closed (x : Nat) (cs : List Connection) :
    Undialled x (cs.map (.closed ·.serial)) := by
  refine ⟨List.count_eq_zero.mpr ?_, openings_closed cs⟩
  simp

theorem undialled_finish (s : Station) (x y : Nat) : Undialled y (s.finish x).2 := by
  rcases s.effects_finish x with heq | ⟨z, heq⟩ <;> rw [heq] <;> exact ⟨rfl, rfl⟩

theorem GivesUp.undialled {dial : Dial} {f : Failure} (h : GivesUp s x e dial effects f) (y : Nat) :
    Undialled y effects := by
  cases h <;> exact ⟨rfl, rfl⟩

/-- Neither does the end of an exchange. -/
theorem Ending.undialled {disposal : Outcome} {tail : List Effect}
    (h : Ending s x e p disposal tail) (y : Nat) :
    Undialled y (disposal.2 ++ (disposal.1.finish x).2 ++ tail) := by
  -- What is done with the connection dials nobody.
  have hdisposal : Undialled y disposal.2 ∧ Undialled y tail := by
    cases h with
    | releaseClean c t hclean =>
      refine ⟨?_, rfl, rfl⟩
      unfold putAside
      split <;> exact ⟨rfl, rfl⟩
    | releaseUsed | releaseSpent => exact ⟨⟨rfl, rfl⟩, rfl, rfl⟩
    | drop p hslot =>
      rw [closeOwn, closeAll_eq]
      exact ⟨undialled_closed y _, rfl, rfl⟩
    | giveUp d hgives => exact ⟨hgives.undialled y, rfl, rfl⟩
    | breakDown => exact ⟨⟨rfl, rfl⟩, rfl, rfl⟩
  exact (hdisposal.1.append (undialled_finish _ x y)).append hdisposal.2

section Costs

variable {r : Retry} (τ : Tariff r) {b c : Option Phase} {earlier later : Nat}

/-- An event costs no more than a move, an attempt for each time that the exchange dials, and a
connection for each that is opened. -/
theorem cost_le (x : Nat) (e : Event) (b c : Option Phase) (effects : List Effect) :
    τ.cost (deedsOf x e b c effects) ≤ τ.attempt * effects.count (.dialling x) +
      τ.success * openings effects + τ.resend * (deedsOf x e b c effects).resends + τ.move := by
  have hmove : τ.move * (isMove b c).toNat ≤ τ.move := by
    cases isMove b c <;> simp
  show τ.attempt * _ + τ.success * _ + τ.resend * _ + τ.move * (isMove b c).toNat ≤ _
  exact Nat.add_le_add_left hmove _

/-- **An event without dialling is paid** by what a move costs. -/
theorem pays_of_undialled (h : Undialled x effects) (hpay : τ.move + later ≤ earlier) :
    τ.cost (deedsOf x e b c effects) + later ≤ earlier := by
  have hcost : τ.cost (deedsOf x e b c effects) ≤ τ.move := by
    simpa [deedsOf, h.1, h.2] using cost_le τ x e b c effects
  omega

/-- What leaves an exchange as it is costs nothing. -/
theorem pays_of_still (h : Undialled x effects) (hsame : isMove b c = false)
    (hpay : later ≤ earlier) : τ.cost (deedsOf x e b c effects) + later ≤ earlier := by
  have hcost : τ.cost (deedsOf x e b c effects) = 0 := by
    simp [Tariff.cost, deedsOf, h.1, h.2, hsame]
  omega

/-- An exchange that begins an attempt pays for it. -/
theorem pays_of_dialling (hcount : effects.count (.dialling x) = 1) (hopen : openings effects = 0)
    (he : e.isReturn = false) (hpay : τ.attempt + τ.move + later ≤ earlier) :
    τ.cost (deedsOf x e b c effects) + later ≤ earlier := by
  have hcost : τ.cost (deedsOf x e b c effects) ≤ τ.attempt + τ.move := by
    simpa [deedsOf, hcount, hopen, he] using cost_le τ x e b c effects
  omega

/-- One that begins it because its message came back pays for that too. -/
theorem pays_of_return (hcount : effects.count (.dialling x) = 1) (hopen : openings effects = 0)
    (hpay : τ.attempt + τ.resend + τ.move + later ≤ earlier) :
    τ.cost (deedsOf x e b c effects) + later ≤ earlier := by
  have hcost := cost_le τ x e b c effects
  have hresends : (deedsOf x e b c effects).resends ≤ 1 := by
    simp only [deedsOf, hcount]
    split <;> omega
  have hpaid : τ.resend * (deedsOf x e b c effects).resends ≤ τ.resend := by
    simpa using Nat.mul_le_mul_left τ.resend hresends
  rw [hcount, hopen] at hcost
  omega

/-- One whose attempt succeeds pays for its connection. -/
theorem pays_of_opening (hcount : effects.count (.dialling x) = 0) (hopen : openings effects = 1)
    (hpay : τ.success + τ.move + later ≤ earlier) :
    τ.cost (deedsOf x e b c effects) + later ≤ earlier := by
  have hcost : τ.cost (deedsOf x e b c effects) ≤ τ.success + τ.move := by
    simpa [deedsOf, hcount, hopen] using cost_le τ x e b c effects
  omega

end Costs

/-! ## The law of one event -/

variable {r : Retry} (τ : Tariff r)

/-- What an exchange does on its way is paid. -/
theorem Passage.affordable (hr : s.policy.retry = r) (h : Passage s x e p q effects) :
    τ.cost (deedsOf x e (some p) (some q) effects) + τ.worth (some q) ≤
      τ.worth (some p) + τ.income e := by
  -- Each passage pays for its move out of what its phase loses in worth.
  cases h with
  | send | offer | unsendable | complete =>
    refine pays_of_undialled τ ⟨rfl, rfl⟩ ?_
    simp only [Tariff.worth, Tariff.income, Tariff.unspent]
    omega
  -- A resend would have to be paid out of the message, and that was not spent yet.
  | answer c t r again status contentType =>
    refine pays_of_undialled τ ⟨rfl, rfl⟩ ?_
    have hle := τ.unspent_le_message t
    cases again <;> simp only [Tariff.worth, Tariff.income] <;> omega
  -- To read on is no move.
  | receive c t status contentType body piece hsize =>
    refine pays_of_still τ ⟨rfl, rfl⟩ (by simp [isMove, Phase.isReading]) ?_
    simp only [Tariff.worth, Tariff.income]
    omega
  -- A pause costs less than the attempts that it leaves.
  | pause d purpose attempt bound delay length hfails hdelay hlength =>
    refine pays_of_undialled τ ⟨rfl, rfl⟩ ?_
    have hpause := τ.pauses attempt delay (hr ▸ hdelay)
    cases purpose <;> simp only [Tariff.worth, Tariff.left] <;> omega
  -- The next attempt is paid by the pause before it.
  | retry d purpose attempt ending draw =>
    refine pays_of_dialling τ (by simp) rfl rfl ?_
    have hrepeat := τ.repeats attempt
    cases purpose <;> simp only [Tariff.worth, Tariff.left] <;> omega

/-- What ends an exchange, or leaves it without a connection, is one more move. -/
theorem move_le_worth (τ : Tariff r) (p : Phase) : τ.move ≤ τ.worth (some p) := by
  cases p with
  | dialling d purpose dial => cases purpose <;> simp only [Tariff.worth] <;> omega
  | offering c t r again => cases again <;> simp only [Tariff.worth] <;> omega
  | _ => simp only [Tariff.worth]; omega

/-- Whoever owns a connection, or dials for a message, has two moves left. -/
theorem two_moves_le_worth (τ : Tariff r) (hp : p.hasSlot = true)
    (hheld : isAtRest (some p) = false) : 2 * τ.move ≤ τ.worth (some p) := by
  cases p with
  | queued => cases hp
  | held | spent => cases hheld
  | dialling d purpose dial =>
    -- What is left for dialling pays for the move that ends it, whatever that is.
    have hleft : τ.move ≤ τ.left dial := by
      obtain ⟨k, stage⟩ := dial
      have hconnecting := τ.succeeds k
      have hpausing := τ.repeats k
      cases stage <;> simp only [Tariff.left] <;> omega
    cases purpose <;> simp only [Tariff.worth] <;> omega
  -- A request that was sent again has only its reading left.
  | offering c t r again => cases again <;> simp only [Tariff.worth] <;> omega
  | granted | readying | reading => simp only [Tariff.worth]; omega

/-- No lease that lies unused is discarded. -/
theorem Discards.isBusy {c : Connection} {f : Failure} (h : Discards s x e p c f) :
    isAtRest (some p) = false := by
  cases h with
  | timeout p c d draw hc hd =>
    cases p with
    | held => cases hd
    | spent => cases hc
    | _ => rfl
  | _ => rfl

/-- What an exchange does that loses its connection is paid. -/
theorem Loss.affordable {c : Connection} (h : Loss s x e p c q effects more) :
    τ.cost (deedsOf x e (some p) (some q) (effects ++ .closed c.serial :: more)) +
      τ.worth (some q) ≤ τ.worth (some p) := by
  cases h with
  | stale c t o error hreused =>
    -- A pooled connection has left the lease its whole budget.
    refine pays_of_dialling τ (by simp) rfl rfl ?_
    have hbegins := τ.lease_begins
    simp only [Tariff.worth, Tariff.left, Tariff.unspent, hreused, if_true]
    omega
  -- The message is sent again, which costs a lease's worth of attempts.
  | returned c t r error =>
    refine pays_of_return τ (by simp) rfl ?_
    have hbegins := τ.message_begins
    simp only [Tariff.worth, Tariff.left]
    omega
  -- Discarded, the lease keeps only its last move.
  | discard hdiscards =>
    refine pays_of_undialled τ ⟨rfl, rfl⟩ ?_
    have htwo := two_moves_le_worth τ (hasSlot_of_connection? hdiscards.connection?_eq)
      hdiscards.isBusy
    rw [show τ.worth (some .spent) = τ.move from rfl]
    omega

/-- What an exchange does that gets its connection is paid. -/
theorem Gain.affordable {d : Deadline} {purpose : Purpose} {k bound : Nat} {stops : Expired}
    (h : Gain s x s.opened.1 d purpose q effects) :
    τ.cost (deedsOf x (.connected x) (some (.dialling d purpose ⟨k, .connecting bound stops⟩))
      (some q) (s.opened.2.2 ++ effects)) + τ.worth (some q) ≤
      τ.worth (some (.dialling d purpose ⟨k, .connecting bound stops⟩)) := by
  have hopened : openings (s.opened.2.2 ++ effects) = 1 := by
    rw [openings_append, h.uncounted.1]
    rfl
  have hsucceeds := τ.succeeds k
  cases h with
  | lease | offer | unsendable | offerAgain =>
    refine pays_of_opening τ (by simp [opened]) hopened ?_
    simp only [Tariff.worth, Tariff.left, Tariff.unspent, Bool.false_eq_true, if_false]
    omega

/-- What an exchange does that gives up its connection is paid. -/
theorem Surrender.affordable {f : Failure} (h : Surrender s x e p effects f) :
    τ.cost (deedsOf x e (some p) (some .spent) (effects ++ [.failed x f])) +
      τ.worth (some .spent) ≤ τ.worth (some p) := by
  have htwo : isAtRest (some p) = false → 2 * τ.move ≤ τ.worth (some p) :=
    two_moves_le_worth τ h.hasSlot
  obtain ⟨d, purpose, hpurpose, hgives⟩ := h
  refine pays_of_undialled τ ((hgives.undialled x).append ⟨rfl, rfl⟩) ?_
  have hspare := htwo rfl
  rw [show τ.worth (some .spent) = τ.move from rfl]
  omega

/-- **What an exchange pays at an event about it, and what its phase is worth afterwards**, is
covered by what its phase was worth and what it is given. -/
theorem Course.affordable {b c : Option Phase} (hr : s.policy.retry = r)
    (h : Course s x e b c effects)
    (hfirst : ∀ timeout d purpose dial, b = some (.granted timeout) →
      c = some (.dialling d purpose dial) → τ.left dial = τ.connecting 1) :
    τ.cost (deedsOf x e b c effects) + τ.worth c ≤ τ.worth b + τ.income e := by
  -- What does not move its exchange costs nothing.
  cases h with
  | still | dead | refuse =>
    exact pays_of_still τ ⟨rfl, rfl⟩ (by simp [isMove]) (Nat.le_add_right _ _)
  -- One move is paid by what a request brings in, or by what it has left.
  | accept | enqueue | withdraw | overdue =>
    refine pays_of_undialled τ ⟨rfl, rfl⟩ ?_
    simp only [Tariff.worth, Tariff.income]
    omega
  -- The pooled connection leaves the lease unspent.
  | reuse timeout c unusable =>
    refine pays_of_undialled τ ((undialled_closed x unusable).append ⟨rfl, rfl⟩) ?_
    simp only [Tariff.worth, Tariff.unspent, if_true]
    omega
  -- The first attempt is paid out of the lease.
  | dial timeout stage unusable =>
    refine pays_of_dialling τ (by simp [List.count_eq_zero]) (by simp [openings]) rfl ?_
    have hbegins := τ.lease_begins
    have hleft := hfirst timeout _ _ stage rfl rfl
    simp only [Tariff.worth, hleft]
    omega
  | pass hpass => exact hpass.affordable τ hr
  | loss hloss => exact (hloss.affordable τ).trans (Nat.le_add_right _ _)
  | gain d purpose attempt bound stops hgain =>
    exact (hgain.affordable τ).trans (Nat.le_add_right _ _)
  | surrender hsurrender => exact (hsurrender.affordable τ).trans (Nat.le_add_right _ _)
  -- The last move is left in every phase.
  | @ending e p disposal tail hending =>
    refine pays_of_undialled τ (hending.undialled x) ?_
    have hone := move_le_worth τ p
    rw [show τ.worth none = 0 from rfl]
    omega

/-- A lease that has to be dialled for begins with the first attempt. -/
theorem left_of_granted (τ : Tariff r) (h : s.SlotAccount) (hx : e.about? = some x)
    {timeout : Nat} {d : Deadline} {purpose : Purpose} {dial : Dial}
    (hp : s.phase? x = some (.granted timeout))
    (hq : (s.step e).1.phase? x = some (.dialling d purpose dial)) :
    τ.left dial = τ.connecting 1 := by
  have hcourse := (step_transition s e).course h hx
  rw [hp, hq] at hcourse
  obtain rfl : e = .proceed x := by
    generalize (s.step e).2 = effects at hcourse
    -- Only its own turn with the slot makes a granted exchange dial.
    cases hcourse with
    | dial => rfl
    | pass hpass => cases hpass
    | loss hloss => cases hloss
  rcases phase?_proceed hp with ⟨c, hheld⟩ | hdialling
  · cases hheld.symm.trans hq
  · cases hdialling.symm.trans hq
    rfl

end Station

/-! ## Histories -/

/-- Whether an occurrence is that an exchange asks for a lease. -/
def Occurrence.isRequest (x : Nat) : Occurrence → Bool
  | .event (.request y _) => y = x
  | _ => false

/-- Whether an occurrence is that an exchange sends a message. -/
def Occurrence.isSend (x : Nat) : Occurrence → Bool
  | .event (.send y _) => y = x
  | _ => false

namespace Station

variable {s : Station} {x : Nat} {r : Retry} (τ : Tariff r)

/-- Requests and messages are what brings in anything. -/
theorem income_eq {e : Event} (hx : e.about? = some x) : τ.income e =
    (τ.lease + 4 * τ.move) * ((Occurrence.event e).isRequest x).toNat +
      (τ.message + 4 * τ.move) * ((Occurrence.event e).isSend x).toNat := by
  cases e with
  | request | send =>
    obtain rfl := Option.some.inj hx
    simp [Tariff.income, Occurrence.isRequest, Occurrence.isSend]
  | _ => simp [Tariff.income, Occurrence.isRequest, Occurrence.isSend]

theorem deedsAt_of_own {o : Occurrence} (hx : o.about? = some x) :
    (s.deedsAt x o).attempts = (s.occur o).2.count (.dialling x) ∧
      (s.deedsAt x o).successes = openings (s.occur o).2 := by
  cases o with
  | delay duration => cases hx
  | event e =>
    rw [deedsAt, if_pos (show e.about? = some x from hx)]
    exact ⟨rfl, rfl⟩

/-- What is about another exchange is no deed of this one. -/
theorem deedsAt_of_other {o : Occurrence} (hx : o.about? ≠ some x) : s.deedsAt x o = .none := by
  cases o with
  | delay duration => rfl
  | event e => exact if_neg hx

/-- An exchange is worth no more for what is not about it. -/
theorem worth_occur_aside (h : s.SlotAccount) {o : Occurrence} (ho : o.about? ≠ some x) :
    τ.worth ((s.occur o).1.phase? x) ≤ τ.worth (s.phase? x) := by
  rcases occur_aside h ho with hsame | ⟨timeout, hqueued, hgranted⟩
  · rw [hsame]
  · rw [hqueued, hgranted]
    simp only [Tariff.worth]
    omega

/-- One occurrence: what an exchange does is paid from what it had and what it is given. -/
theorem affordable_occur (h : s.SlotAccount) (hr : s.policy.retry = r) (o : Occurrence) :
    τ.cost (s.deedsAt x o) + τ.worth ((s.occur o).1.phase? x) ≤ τ.worth (s.phase? x) +
      ((τ.lease + 4 * τ.move) * (o.isRequest x).toNat +
        (τ.message + 4 * τ.move) * (o.isSend x).toNat) := by
  by_cases hx : o.about? = some x
  · cases o with
    | delay duration => cases hx
    | event e =>
      rw [deedsAt, if_pos (show e.about? = some x from hx), ← income_eq τ hx]
      exact ((step_transition s e).course h hx).affordable τ hr fun timeout d purpose dial hp hq =>
        left_of_granted τ h hx hp hq
  · rw [deedsAt_of_other hx, τ.cost_none, Nat.zero_add]
    exact (worth_occur_aside τ h hx).trans (Nat.le_add_right _ _)

/-- **Whatever an exchange does is paid from what it is given**, over every history. -/
theorem affordable_history (h : s.SlotAccount) (hr : s.policy.retry = r) (os : List Occurrence) :
    τ.cost (s.deeds x os) + τ.worth ((s.history os).1.phase? x) ≤ τ.worth (s.phase? x) +
      ((τ.lease + 4 * τ.move) * os.countP (·.isRequest x) +
        (τ.message + 4 * τ.move) * os.countP (·.isSend x)) := by
  -- By induction on the history: the worth of each phase is what the rest of it can still cost.
  induction os generalizing s with
  | nil =>
    show τ.cost .none + _ ≤ _
    rw [τ.cost_none, Nat.zero_add]
    exact Nat.le_add_right _ _
  | cons o rest ih =>
    have hfirst := affordable_occur τ (x := x) h hr o
    have hrest := ih (h.occur o) ((congrArg Policy.retry (occur_target s o).2).trans hr)
    -- The requests and the messages are counted one by one.
    have hcount : ∀ test : Occurrence → Bool,
        (o :: rest).countP test = rest.countP test + (test o).toNat := fun test => by
      rw [List.countP_cons]
      cases test o <;> rfl
    rw [deeds, τ.cost_add, hcount, hcount, Nat.mul_add, Nat.mul_add]
    simp only [history_cons]
    omega

/-! ## The deeds of a history, counted -/

/-- Attempts and successes are those that an exchange itself brings about. -/
theorem deeds_counted (s : Station) (x : Nat) (os : List Occurrence) :
    (s.deeds x os).attempts = (s.ownEffects x os).count (.dialling x) ∧
      (s.deeds x os).successes = openings (s.ownEffects x os) := by
  induction os generalizing s with
  | nil => exact ⟨rfl, rfl⟩
  | cons o rest ih =>
    obtain ⟨hattempts, hsuccesses⟩ := ih (s.occur o).1
    by_cases hx : o.about? = some x
    · obtain ⟨hattempt, hsuccess⟩ := deedsAt_of_own (s := s) hx
      rw [ownEffects_cons_own hx, List.count_append, openings_append, ← hattempts, ← hsuccesses,
        ← hattempt, ← hsuccess]
      exact ⟨rfl, rfl⟩
    · rw [ownEffects_cons_other hx, ← hattempts, ← hsuccesses, deeds, deedsAt_of_other hx]
      exact ⟨Nat.zero_add _, Nat.zero_add _⟩

end Station

/-! ## What one kind of deed costs -/

namespace Tariff

variable (r : Retry)

/-- Attempts to connect are paid: for a lease and for a message so many as the policy allows. -/
def attempts : Tariff r where
  attempt := 1
  success := 0
  resend := 0
  move := 0
  lease := max 1 r.maxAttempts
  message := max 1 r.maxAttempts
  connecting k := max 1 r.maxAttempts - k
  pausing k := max 1 r.maxAttempts - (k + 1) + 1
  lease_begins := by omega
  message_begins := by omega
  pauses k delay h := by
    have hlt := Retry.lt_of_nextDelay h
    omega
  repeats k := by omega
  succeeds k := by omega
  lease_le_message := Nat.le_refl _

/-- Connections that are made are paid: one for a lease and one for a message. -/
def successes : Tariff r where
  attempt := 0
  success := 1
  resend := 0
  move := 0
  lease := 1
  message := 1
  connecting _ := 1
  pausing _ := 1
  lease_begins := by omega
  message_begins := by omega
  pauses _ _ _ := by omega
  repeats _ := by omega
  succeeds _ := by omega
  lease_le_message := Nat.le_refl _

/-- Messages for which an exchange dials again are paid. -/
def resends : Tariff r where
  attempt := 0
  success := 0
  resend := 1
  move := 0
  lease := 0
  message := 1
  connecting _ := 0
  pausing _ := 0
  lease_begins := by omega
  message_begins := by omega
  pauses _ _ _ := by omega
  repeats _ := by omega
  succeeds _ := by omega
  lease_le_message := Nat.zero_le _

/-- Moves are paid: each attempt but the last is followed by a pause. -/
def moves : Tariff r where
  attempt := 0
  success := 0
  resend := 0
  move := 1
  lease := 2 * max 1 r.maxAttempts
  message := 2 * max 1 r.maxAttempts
  connecting k := 2 * (max 1 r.maxAttempts - k) + 1
  pausing k := 2 * (max 1 r.maxAttempts - (k + 1)) + 2
  lease_begins := by omega
  message_begins := by omega
  pauses k delay h := by
    have hlt := Retry.lt_of_nextDelay h
    omega
  repeats k := by omega
  succeeds k := by omega
  lease_le_message := Nat.le_refl _

end Tariff

namespace Station

variable {s : Station} {x : Nat} {os : List Occurrence}

/-- **What an exchange does at most**, by how often it asks for a lease and sends a message. -/
theorem deeds_bounded (h : s.SlotAccount) (hx : s.phase? x = none) (os : List Occurrence) :
    let n := max 1 s.policy.retry.maxAttempts
    let leases := os.countP (·.isRequest x)
    let messages := os.countP (·.isSend x)
    (s.deeds x os).attempts ≤ n * (leases + messages) ∧
      (s.deeds x os).successes ≤ leases + messages ∧
      (s.deeds x os).resends ≤ messages ∧
      (s.deeds x os).moves ≤ (2 * n + 4) * (leases + messages) := by
  intro n leases messages
  -- What is unknown to a station is worth nothing, so all that is spent was given.
  have hpaid : ∀ τ : Tariff s.policy.retry, τ.cost (s.deeds x os) ≤
      (τ.lease + 4 * τ.move) * leases + (τ.message + 4 * τ.move) * messages := fun τ => by
    have hlaw := affordable_history τ (x := x) h rfl os
    rw [hx, show τ.worth none = 0 from rfl, Nat.zero_add] at hlaw
    exact (Nat.le_add_right _ _).trans hlaw
  refine ⟨?_, ?_, ?_, ?_⟩
  -- The four tariffs charge for one thing each.
  · simpa [Tariff.cost, Tariff.attempts, Nat.mul_add] using hpaid (.attempts _)
  · simpa [Tariff.cost, Tariff.successes] using hpaid (.successes _)
  · simpa [Tariff.cost, Tariff.resends] using hpaid (.resends _)
  · simpa [Tariff.cost, Tariff.moves, Nat.mul_add] using hpaid (.moves _)

end Station

end ObliviousRelay.Gateway
