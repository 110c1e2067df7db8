import Mathlib.Data.List.Induction
import ObliviousRelay.Proofs.Gateway.Frame

/-!
# Only clean connections are pooled

A connection comes to lie idle in one way: its lease is released, a message was answered on it, and
nothing failed on the lease since. A connection on which an exchange failed or was dropped is closed,
and whatever is closed is used no more.

The flag that lets a lease put its connection aside says that the last message on it was answered. A
later sending keeps the flag until it ends. It can fail without closing the connection in one way
only, when no request can be addressed to the target, and then no message was ever answered. So the
flag is right (`answered_of_reusable`).

- `IsSound` is what the phase of an exchange says about the target and the reply,
  `Sound.history`: every phase is sound.
- `AnsweredCleanly`: the last message on a lease was answered and nothing failed since.
- `Retired`: a connection is closed, or at the end of a lease that nothing can be sent on.
- `only_clean_pooled`: all of it, after every history.
-/

namespace ObliviousRelay.Gateway.Station

variable {s s₀ : Station} {x : Nat} {p q : Phase} {e : Event} {o : Outcome} {c : Connection}
  {effects more : List Effect} {past : List Occurrence}

/-! ## Sound phases -/

/-- Whether requests can be addressed to a target. -/
def isAddressable (t : Target) : Bool := (Http.RequestTarget.path t.requestPath).isOk

/-- Whether a message can become a request is up to the target, not to the message. -/
theorem isAddressable_of_wireRequest {t : Target} {m : Outbound} {r : WireRequest}
    (h : wireRequest t m = .ok r) : isAddressable t = true := by
  unfold wireRequest at h
  unfold isAddressable
  split at h
  · cases h
  · next heq => rw [heq]; rfl

/-- A request that cannot be written tells that the target is at fault. -/
theorem not_isAddressable_of_wireRequest {t : Target} {m : Outbound} {f : Failure}
    (h : wireRequest t m = .error f) : isAddressable t = false := by
  unfold wireRequest at h
  unfold isAddressable
  split at h
  · next heq => rw [heq]; rfl
  · cases h

/-- What a phase says: a request that was offered, or is to be offered again, can be addressed to the
target, and so can one that was answered; the part of a reply that has come is within the bound. -/
def IsSound (target : Target) (policy : Policy) : Phase → Prop
  | .held _ t => t.reusable = true → isAddressable target = true
  | .readying _ t _ => t.reusable = true → isAddressable target = true
  | .offering _ _ _ _ => isAddressable target = true
  | .dialling _ (.offerAgain _) _ => isAddressable target = true
  | .reading _ _ _ _ body => isAddressable target = true ∧ body.size ≤ policy.maxResponseSize
  | _ => True

/-- A course leads from sound phases to sound phases. -/
theorem Course.sound {p q : Option Phase} (h : Course s x e p q effects)
    (hp : ∀ r, p = some r → IsSound s.target s.policy r) :
    ∀ r, q = some r → IsSound s.target s.policy r := by
  intro r hr
  -- Wherever an exchange has moved, its new phase is sound because the old one was, or by what was
  -- checked in this move.
  cases h with
  | still => exact hp r hr
  -- What has no connection of its own yet is sound.
  | dead | accept | enqueue | surrender => obtain rfl := Option.some.inj hr; exact trivial
  | refuse | withdraw | overdue | ending => cases hr
  -- A connection from the pool begins a lease that is not reusable yet.
  | reuse =>
    obtain rfl := Option.some.inj hr
    exact fun hreusable => absurd hreusable (by simp)
  | dial => obtain rfl := Option.some.inj hr; exact trivial
  | pass hpass =>
    have hold := hp _ rfl
    obtain rfl := Option.some.inj hr
    cases hpass with
    | send => exact hold
    | offer c t m r hwire => exact isAddressable_of_wireRequest hwire
    | unsendable => exact hold
    | answer => exact ⟨hold, by simp⟩
    | receive c t status contentType body piece hsize =>
      refine ⟨hold.1, ?_⟩
      rw [ByteArray.size_append]
      exact hsize
    -- What was read was answered to a request that was addressed to the target.
    | complete => exact fun _ => hold.1
    | pause d purpose => cases purpose <;> exact hold
    | retry d purpose => cases purpose <;> exact hold
  | loss hloss =>
    have hold := hp _ rfl
    obtain rfl := Option.some.inj hr
    cases hloss with
    | stale => exact trivial
    | returned => exact hold
    | discard => exact trivial
  -- So does a new connection.
  | gain d purpose attempt bound stops hgain =>
    have hold := hp _ rfl
    obtain rfl := Option.some.inj hr
    cases hgain with
    | lease => exact fun hreusable => absurd hreusable (by simp)
    | offer m r hwire => exact isAddressable_of_wireRequest hwire
    | unsendable => exact fun hreusable => absurd hreusable (by simp)
    | offerAgain => exact hold

/-- All exchanges of a station are in sound phases. -/
def Sound (s : Station) : Prop := ∀ x p, s.phase? x = some p → IsSound s.target s.policy p

/-- An occurrence keeps a station sound. -/
theorem Sound.occur (h : s.Sound) (hs : s.SlotAccount) (o : Occurrence) : (s.occur o).1.Sound := by
  intro x r hr
  rw [(occur_target s o).1, (occur_target s o).2]
  have hfate := occur_fate hs o x
  have hold := h x
  rw [hr] at hfate
  generalize s.phase? x = p, (s.occur o).2 = effects at hfate hold
  cases hfate with
  | aside => exact hold r rfl
  | granted => exact trivial
  | own hcourse => exact hcourse.sound hold r rfl

/-- So does a history. -/
theorem Sound.history (h : s.Sound) (hs : s.SlotAccount) (os : List Occurrence) :
    (s.history os).1.Sound :=
  (history_induction (P := fun r _ => r.SlotAccount ∧ r.Sound) [] ⟨hs, h⟩
    (fun _ _ o h => ⟨h.1.occur o, h.2.occur h.1 o⟩) os).2

/-- A station without exchanges is sound. -/
theorem sound_ofTarget (target : Target) (policy : Policy) : (ofTarget target policy).Sound :=
  fun _ _ hp => by cases hp

/-! ## Answered leases -/

/-- The last message that was sent on a lease was answered: at some time in the past the whole body
of the reply had come on this connection, within the bound and, where nobody had been late until then,
before the deadline. Nothing has failed on the lease since, and it was not given back.

Of an exchange that is told of its deadline late, nothing is said about the moment of its reply: who
looks at both at once may find the reply complete and the time over. -/
def AnsweredCleanly (s₀ : Station) (past : List Occurrence) (x : Nat) (c : Connection) : Prop :=
  ∃ before after t status contentType body,
    past = before ++ .event (.ended x) :: after ∧
    (s₀.history before).1.phase? x = some (.reading c t status contentType body) ∧
    ((∀ duration, .delay duration ∉ before) → (s₀.history before).1.now ≤ t.deadline.moment) ∧
    body.size ≤ (s₀.history before).1.policy.maxResponseSize ∧
    ((s₀.history before).1.occur (.event (.ended x))).2 =
      [.replied x ⟨status, contentType, body⟩ t.reused] ∧
    ∀ f ∈ ((((s₀.history before).1.occur (.event (.ended x))).1).history after).2,
      f ≠ .freed x ∧ ∀ g, f ≠ .failed x g

/-- An answered lease remains one while nothing fails on it and it is not given back. -/
theorem AnsweredCleanly.extend (h : AnsweredCleanly s₀ past x c) (o : Occurrence)
    (hquiet : ∀ f ∈ ((s₀.history past).1.occur o).2, f ≠ .freed x ∧ ∀ g, f ≠ .failed x g) :
    AnsweredCleanly s₀ (past ++ [o]) x c := by
  obtain ⟨before, after, t, status, contentType, body, rfl, hp, hnow, hsize, hreply, hsince⟩ := h
  refine ⟨before, after ++ [o], t, status, contentType, body, by simp, hp, hnow, hsize, hreply, ?_⟩
  intro f hf
  rw [history_concat, List.mem_append] at hf
  rcases hf with hf | hf
  · exact hsince f hf
  · rw [history_append, history_cons] at hquiet
    exact hquiet f hf

/-- The connection and the terms of a lease. -/
def terms? : Phase → Option (Connection × Terms)
  | .held c t => some (c, t)
  | .readying c t _ => some (c, t)
  | .offering c t _ _ => some (c, t)
  | .reading c t _ _ _ => some (c, t)
  | _ => none

/-- A course that leads to a reusable lease leaves one as it was, or its message was just
answered. -/
theorem Course.reusable {p q : Option Phase} (h : Course s x e p q effects) {t : Terms}
    (hp : ∀ r, p = some r → IsSound s.target s.policy r)
    (hq : q.bind terms? = some (c, t)) (hreusable : t.reusable = true) :
    (p.bind terms? = some (c, t) ∧ ∀ f ∈ effects, f ≠ .freed x ∧ ∀ g, f ≠ .failed x g) ∨
      ∃ t status contentType body, e = .ended x ∧
        p = some (.reading c t status contentType body) ∧ s.now ≤ t.deadline.moment ∧
        effects = [.replied x ⟨status, contentType, body⟩ t.reused] := by
  cases h with
  | still => exact .inl ⟨hq, by simp⟩
  | dead | accept | enqueue | surrender => cases hq
  | refuse | withdraw | overdue | ending => cases hq
  | dial => cases hq
  -- A connection from the pool comes without the flag.
  | reuse =>
    obtain ⟨rfl, rfl⟩ := Prod.mk.inj (Option.some.inj hq)
    exact absurd hreusable (by simp)
  | pass hpass =>
    cases hpass with
    | send | offer | answer | receive => exact .inl ⟨hq, by simp⟩
    | unsendable c' t' m f hf =>
      -- A lease that was answered once has a target to which requests can be addressed.
      obtain ⟨rfl, rfl⟩ := Prod.mk.inj (Option.some.inj hq)
      have hyes := hp _ rfl hreusable
      rw [not_isAddressable_of_wireRequest hf] at hyes
      cases hyes
    | complete c' t' status contentType body hnow =>
      obtain ⟨rfl, rfl⟩ := Prod.mk.inj (Option.some.inj hq)
      exact .inr ⟨t', status, contentType, body, rfl, rfl, hnow, rfl⟩
    | pause | retry => cases hq
  -- A lost connection is held by nobody.
  | loss hloss => cases hloss <;> cases hq
  -- A new connection comes without the flag, too.
  | gain d purpose attempt bound stops hgain =>
    cases hgain <;> obtain ⟨rfl, rfl⟩ := Prod.mk.inj (Option.some.inj hq) <;>
      exact absurd hreusable (by simp)

/-- **The flag of a lease is right:** the last message on a reusable lease was answered, and nothing
failed since. -/
theorem answered_of_reusable (hs : s₀.SlotAccount) (hsound : s₀.Sound) (hempty : s₀.exchanges = [])
    (past : List Occurrence) {t : Terms}
    (hterms : ((s₀.history past).1.phase? x).bind terms? = some (c, t))
    (hreusable : t.reusable = true) : AnsweredCleanly s₀ past x c := by
  -- By induction on the past, with the latest occurrence in front.
  induction past using List.reverseRecOn generalizing t with
  -- Nothing holds a connection before anything has happened.
  | nil =>
    have hnone : (s₀.history []).1.phase? x = none := by simp [history, phase?, hempty]
    rw [hnone] at hterms
    cases hterms
  | append_singleton past o ih =>
    have hfate := occur_fate (hs.history past) o x
    have hold := hsound.history hs past x
    rw [history_concat] at hterms
    dsimp only at hterms
    generalize hp : (s₀.history past).1.phase? x = p at hfate hold ih
    generalize ((s₀.history past).1.occur o).1.phase? x = q at hfate hterms
    generalize heffects : ((s₀.history past).1.occur o).2 = effects at hfate
    cases hfate with
    -- It was no turn of the exchange, whose past goes on unchanged.
    | aside o p effects hquiet =>
      apply (ih hterms hreusable).extend o
      intro f hf
      rw [heffects] at hf
      constructor
      · rintro rfl
        exact hquiet _ hf rfl
      · rintro g rfl
        exact hquiet _ hf rfl
    -- A slot alone has no connection.
    | granted => cases hterms
    | own hcourse =>
      rcases hcourse.reusable hold hterms hreusable with ⟨hkeep, hquiet⟩ | hanswer
      -- The flag was there before, or the reply has just been completed.
      · exact (ih hkeep hreusable).extend _ (by rwa [heffects])
      · obtain ⟨t', status, contentType, body, rfl, rfl, hnow, rfl⟩ := hanswer
        have hsize := (hold _ rfl).2
        exact ⟨past, [], t', status, contentType, body, rfl, hp, fun _ => hnow, hsize, heffects,
          fun f hf => absurd hf List.not_mem_nil⟩

/-! ## Becoming idle -/

/-- Only the release of a reusable lease makes a connection lie idle. -/
theorem Transition.released_of_idle (h : s.SlotAccount) (ht : Transition s e o) {n : Nat}
    (hmore : s.idleCount n < o.1.idleCount n) : ∃ x c t, e = .release x ∧ c.serial = n ∧
      s.phase? x = some (.held c t) ∧ t.reusable = true := by
  have hsame : ∀ {t : Station}, t.pool.idle = s.pool.idle → ¬ s.idleCount n < t.idleCount n :=
    fun heq => by simp [idleCount, heq]
  -- Most transitions leave the idle connections as they are.
  cases ht with
  | still | dead | refuse | lose | elapse => exact absurd hmore (hsame rfl)
  | accept | enqueue | withdraw | overdue => exact absurd hmore (hsame rfl)
  | pass | lossOf | gain | surrender => exact absurd hmore (hsame rfl)
  -- To reuse one takes it out of the pool.
  | reuse x timeout c unusable left hp hidle =>
    exfalso
    change _ < left.countP (·.serial = n) at hmore
    rw [idleCount, hidle, List.countP_append, List.countP_cons] at hmore
    omega
  -- To dial one drops what was in the pool.
  | dial => exact absurd hmore (Nat.not_lt_zero _)
  | @ending e p disposal tail x hp hending =>
    have hs : disposal.1.SlotAccount := h.disposal hending
    have hp' : disposal.1.phase? x = some p := (hending.phase?_disposal x).trans hp
    -- To end the exchange adds nothing to what its connection's disposal left idle.
    have hidle : (disposal.1.finish x).1.idleCount n = disposal.1.idleCount n := by
      rw [idleCount, (hs.finish_pool hp' hending.hasSlot).1, idleCount]
    dsimp only at hmore
    rw [hidle] at hmore
    cases hending with
    -- Only a clean release puts its connection aside, unless this one is too old already.
    | releaseClean c t hclean =>
      refine ⟨x, c, t, rfl, ?_, hp, hclean⟩
      by_contra hn
      unfold putAside at hmore
      split at hmore
      · exact absurd hmore (hsame rfl)
      · simp [idleCount, hn] at hmore
    -- The other endings close or keep what they held.
    | releaseUsed | releaseSpent | giveUp | breakDown => exact absurd hmore (hsame rfl)
    | drop p hslot =>
      rw [closeOwn, closeAll_eq] at hmore
      exact absurd hmore (hsame rfl)

/-! ## Retired connections -/

/-- An exchange has a connection on which nothing was answered, and does nothing with it. -/
def IsStranded (c : Connection) : Option Phase → Prop
  | some (.held c' t) => c' = c ∧ t.reusable = false
  | some (.readying c' t _) => c' = c ∧ t.reusable = false
  | _ => False

/-- A stranded connection is held. -/
theorem IsStranded.connection? {p : Option Phase} (h : IsStranded c p) :
    ∃ r, p = some r ∧ r.connection? = some c := by
  cases p with
  | none => cases h
  | some r =>
    cases r with
    | held c' t | readying c' t m => exact ⟨_, rfl, congrArg some h.1⟩
    | _ => cases h

/-- Giving a slot back fails nobody. -/
theorem failed_not_mem_finish (s : Station) (x y : Nat) (f : Failure) :
    .failed y f ∉ (s.finish x).2 := by
  rcases s.effects_finish x with heq | ⟨z, heq⟩ <;> simp [heq]

/-- A connection on which an exchange fails is closed, or nothing can be sent on it. -/
theorem Course.closed_or_stranded {p : Phase} {q : Option Phase} {f : Failure}
    (h : Course s x e (some p) q effects) (hsound : IsSound s.target s.policy p)
    (hc : p.connection? = some c) (hf : .failed x f ∈ effects) :
    .closed c.serial ∈ effects ∨
      (isAddressable s.target = false ∧ IsStranded c q ∧ .freed x ∉ effects) := by
  -- Only an exchange that holds the connection can lose it, and a failure tells how.
  cases h with
  | still => exact absurd hf List.not_mem_nil
  | dead | withdraw | overdue | reuse | dial | gain => cases hc
  | pass hpass =>
    cases hpass with
    | unsendable c' t m f' hwire =>
      -- The flag would say that requests can be addressed to the target.
      have hno := not_isAddressable_of_wireRequest hwire
      have hnot : t.reusable = false := by
        by_contra hreusable
        rw [hsound (by simpa using hreusable)] at hno
        cases hno
      exact .inr ⟨hno, ⟨Option.some.inj hc, hnot⟩, by simp⟩
    | _ => exact absurd hf (by simp)
  -- The connection was lost, and closed at once.
  | loss hloss =>
    obtain rfl := Option.some.inj (hc.symm.trans hloss.connection?_eq.1)
    exact .inl (by simp)
  | surrender hsurrender => exact absurd (hc.symm.trans hsurrender.connection?_eq) (by simp)
  -- The endings of a lease fail nobody.
  | ending hending =>
    have hfinish := failed_not_mem_finish
    cases hending with
    | releaseClean c' t hclean =>
      exfalso
      unfold putAside at hf
      split at hf <;> simp [close, hfinish] at hf
    | releaseUsed c' t hused => exact absurd hf (by simp [close, hfinish])
    | drop p hslot =>
      rw [closeOwn, closeAll_eq] at hf
      exact absurd hf (by simp [hfinish])
    | releaseSpent | giveUp | breakDown => cases hc

/-- A connection that nothing can be sent on stays with its exchange until it is closed. -/
theorem Course.stranded {p q : Option Phase} (h : Course s x e p q effects)
    (hno : isAddressable s.target = false) (hp : IsStranded c p) :
    .closed c.serial ∈ effects ∨ (IsStranded c q ∧ .freed x ∉ effects) := by
  obtain ⟨r, hr, hc⟩ := hp.connection?
  -- An exchange that cannot send has few moves left: to try again, or to end.
  cases h with
  | still => exact .inr ⟨hp, List.not_mem_nil⟩
  | dead | accept | enqueue | refuse | withdraw | overdue | reuse | dial | gain => cases hp
  | pass hpass =>
    cases hpass with
    | send => exact .inr ⟨hp, by simp⟩
    -- An offer would have been written for the target.
    | offer c' t m w hwire =>
      rw [isAddressable_of_wireRequest hwire] at hno
      cases hno
    | unsendable => exact .inr ⟨hp, by simp⟩
    | answer | receive | complete | pause | retry => cases hp
  -- The connection was lost, and closed with it.
  | loss hloss =>
    obtain rfl := Option.some.inj hr
    obtain rfl := Option.some.inj (hc.symm.trans hloss.connection?_eq.1)
    exact .inl (by simp)
  | surrender hsurrender =>
    obtain rfl := Option.some.inj hr
    exact absurd (hc.symm.trans hsurrender.connection?_eq) (by simp)
  | ending hending =>
    obtain rfl := Option.some.inj hr
    -- A lease that was never reusable is not put aside when it ends.
    cases hending with
    | releaseClean c' t hclean => exact absurd hp.2 (by simp [hclean])
    | releaseUsed c' t hused =>
      obtain rfl := Option.some.inj hc
      exact .inl (by simp [close])
    | drop p hslot =>
      rw [closeOwn, closeAll_eq, hc]
      exact .inl (by simp)
    | releaseSpent | giveUp | breakDown => cases hc

/-- A dropped exchange closes its connection. -/
theorem closed_of_drop (hp : s.phase? x = some p) (hc : p.connection? = some c) :
    .closed c.serial ∈ (s.step (.drop x)).2 := by
  rw [step_eq_act (x := x) rfl, hp]
  show .closed c.serial ∈ (s.drop x p).2
  have hdrop : s.drop x p = (s.closeOwn p).andThen (·.finish x) := by
    -- Only a wait in the queue is dropped otherwise, and it has no connection.
    cases p with
    | queued => cases hc
    | _ => rfl
  rw [hdrop, closeOwn, closeAll_eq, hc]
  simp

/-- A connection is closed and used by nobody, or it is at the end of a lease on which nothing can be
sent, and is not put aside. -/
def Retired (t : Station) (x : Nat) (c : Connection) (since : List Effect) : Prop :=
  t.idleCount c.serial = 0 ∧
    ((.closed c.serial ∈ since ∧ t.ownersOf c.serial = 0) ∨
      (isAddressable t.target = false ∧ .freed x ∉ since ∧ t.ownersOf c.serial = 1 ∧
        ∃ r, t.phase? x = some r ∧ r.connection? = some c))

/-- Whatever happens after a failure on a connection, it is closed, or it stays where it is. -/
theorem closed_or_stranded_history (hs : s.SlotAccount) (hno : isAddressable s.target = false)
    (hstart : .closed c.serial ∈ effects ∨ (IsStranded c (s.phase? x) ∧ .freed x ∉ effects))
    (os : List Occurrence) :
    .closed c.serial ∈ effects ++ (s.history os).2 ∨
      (IsStranded c ((s.history os).1.phase? x) ∧ .freed x ∉ effects ++ (s.history os).2) := by
  -- By induction on the history: closed it stays, and stranded it stays until it is closed.
  refine (history_induction (P := fun t since => t.SlotAccount ∧ isAddressable t.target = false ∧
    (.closed c.serial ∈ since ∨ (IsStranded c (t.phase? x) ∧ .freed x ∉ since))) effects
    ⟨hs, hno, hstart⟩ (fun t since o ⟨ht, hno, hsince⟩ => ?_) os).2.2
  refine ⟨ht.occur o, by rwa [(occur_target t o).1], ?_⟩
  -- Closed before, and told already.
  rcases hsince with hclosed | ⟨hstranded, hfreed⟩
  · -- Still stranded: each kind of occurrence keeps it so or closes it.
    exact .inl (List.mem_append_left _ hclosed)
  · have hfate := occur_fate ht o x
    generalize t.phase? x = p, (t.occur o).1.phase? x = q, (t.occur o).2 = now at hfate hstranded
    cases hfate with
    | aside o p now hquiet =>
      refine .inr ⟨hstranded, fun hmem => ?_⟩
      rcases List.mem_append.mp hmem with hmem | hmem
      · exact hfreed hmem
      · exact hquiet _ hmem rfl
    | granted => cases hstranded
    | own hcourse =>
      rcases hcourse.stranded hno hstranded with hclosed | ⟨hstill, hquiet⟩
      · exact .inl (List.mem_append_right _ hclosed)
      · exact .inr ⟨hstill, by simp [hfreed, hquiet]⟩

/-- What is closed is neither idle nor owned. -/
theorem ConnectionAccount.of_closed (h : s.ConnectionAccount effects) {n : Nat}
    (hclosed : .closed n ∈ effects) : s.idleCount n = 0 ∧ s.ownersOf n = 0 := by
  have hplaced := h.placed n
  have hcount : 0 < effects.count (.closed n) := List.count_pos_iff.mpr hclosed
  have hone : (decide (n < s.pool.created)).toNat ≤ 1 := Bool.toNat_le _
  omega

/-- An exchange that has a connection is one of its owners. -/
theorem one_le_ownersOf {r : Phase} (hp : s.phase? x = some r) (hc : r.connection? = some c) :
    1 ≤ s.ownersOf c.serial := by
  have hmine : (ownsSerial c.serial r).toNat = 1 := by simp [ownsSerial, hc]
  rw [← hmine]
  exact le_tally (fun e => (ownsSerial c.serial e.phase).toNat) hp

/-- What an exchange owns is not idle, and nobody else owns it. -/
theorem ConnectionAccount.of_owned (h : s.ConnectionAccount effects) {r : Phase}
    (hp : s.phase? x = some r) (hc : r.connection? = some c) :
    s.idleCount c.serial = 0 ∧ s.ownersOf c.serial = 1 := by
  have hplaced := h.placed c.serial
  have howned := one_le_ownersOf hp hc
  have hone : (decide (c.serial < s.pool.created)).toNat ≤ 1 := Bool.toNat_le _
  omega

/-- **A connection on which an exchange failed or was dropped is retired for good.** -/
theorem retired (hs : s.SlotAccount) (hsound : s.Sound) (hconn : s.ConnectionAccount effects)
    (o : Occurrence) (hp : s.phase? x = some p) (hc : p.connection? = some c)
    (hfail : (∃ f, .failed x f ∈ (s.occur o).2) ∨ o = .event (.drop x))
    (future : List Occurrence) :
    Retired ((s.occur o).1.history future).1 x c
      ((s.occur o).2 ++ ((s.occur o).1.history future).2) := by
  have hlater := (hconn.occur hs o).history (hs.occur o) future
  rw [List.append_assoc] at hlater
  -- Closed at once, or left with an exchange that cannot send.
  have hnow : .closed c.serial ∈ (s.occur o).2 ∨
      (isAddressable s.target = false ∧ IsStranded c ((s.occur o).1.phase? x) ∧
        .freed x ∉ (s.occur o).2) := by
    rcases hfail with ⟨f, hf⟩ | rfl
    · obtain ⟨e, -, hcourse⟩ := course_of_effect hs o hf rfl (by simp)
      rw [hp] at hcourse
      exact hcourse.closed_or_stranded (hsound x p hp) hc hf
    · exact .inl (closed_of_drop hp hc)
  -- Once closed, a connection is idle nowhere and owned by nobody.
  have hclosed : .closed c.serial ∈ (s.occur o).2 ++ ((s.occur o).1.history future).2 →
      Retired ((s.occur o).1.history future).1 x c
        ((s.occur o).2 ++ ((s.occur o).1.history future).2) := by
    intro hmem
    obtain ⟨hidle, howners⟩ := hlater.of_closed (List.mem_append_right _ hmem)
    exact ⟨hidle, .inl ⟨hmem, howners⟩⟩
  rcases hnow with hnow | ⟨hno, hstranded, hfreed⟩
  · exact hclosed (List.mem_append_left _ hnow)
  · have hno' : isAddressable (s.occur o).1.target = false := by rwa [(occur_target s o).1]
    -- Left with its exchange, it stays there until it is closed.
    rcases closed_or_stranded_history (hs.occur o) hno' (.inr ⟨hstranded, hfreed⟩) future with
      hmem | ⟨hstill, hquiet⟩
    · exact hclosed hmem
    · obtain ⟨r, hr, hrc⟩ := hstill.connection?
      obtain ⟨hidle, howners⟩ := hlater.of_owned hr hrc
      refine ⟨hidle, .inr ⟨?_, hquiet, howners, r, hr, hrc⟩⟩
      rwa [(history_target _ future).1]

/-! ## Clean connections -/

/-- A connection leaves its exchange by being closed, or by the release of a reusable lease. -/
theorem Course.closed_or_released {p : Phase} {q : Option Phase}
    (h : Course s x e (some p) q effects) (hc : p.connection? = some c)
    (hq : q.bind Phase.connection? ≠ some c) :
    .closed c.serial ∈ effects ∨ ∃ t, e = .release x ∧ p = .held c t ∧ t.reusable = true := by
  cases h with
  | still => exact absurd hc hq
  | dead | withdraw | overdue | reuse | dial | gain => cases hc
  | pass hpass => exact absurd (hpass.connection?_eq.trans hc) hq
  -- The connection was lost, and is closed.
  | loss hloss =>
    obtain rfl := Option.some.inj (hc.symm.trans hloss.connection?_eq.1)
    exact .inl (by simp)
  | surrender hsurrender => exact absurd (hc.symm.trans hsurrender.connection?_eq) (by simp)
  | ending hending =>
    cases hending with
    -- A clean release is the one way in which it is not closed.
    | releaseClean c' t hclean =>
      obtain rfl := Option.some.inj hc
      exact .inr ⟨t, rfl, rfl, hclean⟩
    | releaseUsed c' t hused =>
      obtain rfl := Option.some.inj hc
      exact .inl (by simp [close])
    | drop p hslot =>
      rw [closeOwn, closeAll_eq, hc]
      exact .inl (by simp)
    | releaseSpent | giveUp | breakDown => cases hc

/-- A connection that its exchange no longer has was closed, or released cleanly. -/
theorem closed_or_released_occur (h : s.SlotAccount) (o : Occurrence) (hp : s.phase? x = some p)
    (hc : p.connection? = some c)
    (hq : ((s.occur o).1.phase? x).bind Phase.connection? ≠ some c) :
    .closed c.serial ∈ (s.occur o).2 ∨
      ∃ t, o = .event (.release x) ∧ p = .held c t ∧ t.reusable = true := by
  have hfate := occur_fate h o x
  rw [hp] at hfate
  generalize (s.occur o).1.phase? x = q, (s.occur o).2 = effects at hfate hq ⊢
  cases hfate with
  | aside => exact absurd hc hq
  | granted => cases hc
  | own hcourse =>
    rcases hcourse.closed_or_released hc hq with hclosed | ⟨t, rfl, hheld, hclean⟩
    · exact .inl hclosed
    · exact .inr ⟨t, rfl, hheld, hclean⟩

/-- **Only clean connections are pooled, and each has one owner.** After every history:

- A connection comes to lie idle only when a lease is released on which the last message was answered
  cleanly, on this connection.
- A connection leaves its lease by such a release or by being closed.
- A connection on which an exchange fails or is dropped is retired, whatever happens next.
- What was opened and not closed is in one place, once among the idle ones or with one exchange, and
  nothing else is anywhere. -/
theorem only_clean_pooled (target : Target) (policy : Policy) (past : List Occurrence) :
    let s := ((ofTarget target policy).history past).1
    let effects := ((ofTarget target policy).history past).2
    (∀ o n, s.idleCount n < (s.occur o).1.idleCount n → ∃ x c t, o = .event (.release x) ∧
      c.serial = n ∧ s.phase? x = some (.held c t) ∧
      AnsweredCleanly (ofTarget target policy) past x c) ∧
    (∀ x p c o, s.phase? x = some p → p.connection? = some c →
      ((s.occur o).1.phase? x).bind Phase.connection? ≠ some c →
      .closed c.serial ∈ (s.occur o).2 ∨ (∃ t, o = .event (.release x) ∧ p = .held c t ∧
        AnsweredCleanly (ofTarget target policy) past x c)) ∧
    (∀ x p c o, s.phase? x = some p → p.connection? = some c →
      ((∃ f, .failed x f ∈ (s.occur o).2) ∨ o = .event (.drop x)) →
      ∀ future, Retired ((s.occur o).1.history future).1 x c
        ((s.occur o).2 ++ ((s.occur o).1.history future).2)) ∧
    (∀ n, s.idleCount n + s.ownersOf n =
      if .opened n ∈ effects ∧ .closed n ∉ effects then 1 else 0) := by
  intro s effects
  obtain ⟨hs, hconn⟩ := accounts_ofTarget target policy past
  have hslots := SlotAccount.ofTarget target policy
  have hsound := sound_ofTarget target policy
  refine ⟨fun o n hmore => ?_, fun x p c o hp hc hq => ?_, fun x p c o hp hc hfail future => ?_,
    fun n => ?_⟩
  · -- An idle connection more: it was released, and its record tells how it was used.
    cases o with
    | delay duration => exact absurd hmore (Nat.lt_irrefl _)
    | event e =>
      obtain ⟨x, c, t, rfl, hn, hp, hclean⟩ := (step_transition s e).released_of_idle hs hmore
      have hterms : (s.phase? x).bind terms? = some (c, t) := by rw [hp]; rfl
      exact ⟨x, c, t, rfl, hn, hp, answered_of_reusable hslots hsound rfl past hterms hclean⟩
  · -- A connection that is given up: closed, or released with this record.
    rcases closed_or_released_occur hs o hp hc hq with hclosed | ⟨t, ho, rfl, hclean⟩
    · exact .inl hclosed
    · have hterms : (s.phase? x).bind terms? = some (c, t) := by rw [hp]; rfl
      exact .inr ⟨t, ho, rfl, answered_of_reusable hslots hsound rfl past hterms hclean⟩
  · -- A failed exchange, or one that was dropped.
    exact retired hs (hsound.history hslots past) hconn o hp hc hfail future
  · -- Where a connection is at the end: idle or owned just when it is open.
    have hplaced := hconn.placed n
    have hopened := hconn.opened n
    by_cases hclosed : .closed n ∈ effects
    · -- Closed ones are neither.
      rw [if_neg (fun h => h.2 hclosed), (hconn.of_closed hclosed).1, (hconn.of_closed hclosed).2]
    · rw [List.count_eq_zero.mpr hclosed, ← hopened] at hplaced
      -- Opened once, it is at exactly one place.
      by_cases hmem : .opened n ∈ effects
      · have hpos : 0 < effects.count (.opened n) := List.count_pos_iff.mpr hmem
        have hone : effects.count (.opened n) ≤ 1 := hopened.trans_le (Bool.toNat_le _)
        rw [if_pos ⟨hmem, hclosed⟩]
        change s.idleCount n + s.ownersOf n + 0 = effects.count (.opened n) at hplaced
        omega
      · -- Never opened, it is nowhere.
        rw [if_neg (fun h => hmem h.1)]
        rw [List.count_eq_zero.mpr hmem] at hplaced
        exact hplaced

/-- Two exchanges: the connection of the first is answered on and pooled, the second is dropped with
it in the midst of its request. -/
theorem only_clean_pooled_twice :
    let first : List Occurrence := [.event (.request 0 1000), .event (.proceed 0),
      .event (.connected 0), .event (.send 0 ⟨.request, .empty⟩), .event (.ready 0),
      .event (.answered 0 .ok none), .event (.ended 0)]
    let second : List Occurrence := first ++ [.event (.release 0), .event (.request 1 1000),
      .event (.proceed 1), .event (.send 1 ⟨.request, .empty⟩), .event (.ready 1)]
    let t := ((ofTarget sampleTarget samplePolicy).history second).1
    (∃ x c, c.serial = 0 ∧ AnsweredCleanly (ofTarget sampleTarget samplePolicy) first x c) ∧
    (∃ c : Connection, c.serial = 0 ∧ Retired (t.occur (.event (.drop 1))).1 1 c
      (t.occur (.event (.drop 1))).2) := by
  intro first second t
  obtain ⟨hidle, -, -, -⟩ := only_clean_pooled sampleTarget samplePolicy first
  obtain ⟨-, -, hretired, -⟩ := only_clean_pooled sampleTarget samplePolicy second
  constructor
  · -- Its connection is released after a clean reply.
    obtain ⟨x, c, -, -, hserial, -, hclean⟩ := hidle (.event (.release 0)) 0 (by decide)
    exact ⟨x, c, hserial, hclean⟩
  · -- The second exchange has the same connection, and is dropped in the middle.
    have howner : ((t.phase? 1).bind Phase.connection?).map (·.serial) = some 0 := by decide
    obtain ⟨c, hbind, hserial⟩ := Option.map_eq_some_iff.mp howner
    obtain ⟨p, hp, hc⟩ := Option.bind_eq_some_iff.mp hbind
    have h := hretired 1 p c (.event (.drop 1)) hp hc (.inr rfl) []
    rw [history, List.append_nil] at h
    exact ⟨c, hserial, h⟩

end ObliviousRelay.Gateway.Station
