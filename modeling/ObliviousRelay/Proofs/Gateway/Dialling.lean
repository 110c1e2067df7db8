import ObliviousRelay.Proofs.Gateway.Tariff

/-!
# How often one exchange dials

One exchange asks for a lease and sends a message on it. It may dial for the lease, or in the place
of a pooled connection that was closed, but not both; and it may dial once more for a message that
came back unsent. Whatever the gateway does, that comes to an end.

- `IsFrugal`: who has its connection from the pool has not dialled; `Course.frugal`.
- `isMove_of_due`: whoever is due goes on, so an exchange comes to rest by itself (`comes_to_rest`).
- `dialling_bounded`: what one exchange does at most.
-/

namespace ObliviousRelay.Gateway

open Timing (Deadline Retry)

/-- Whether an exchange has a connection that was in the pool before. -/
def Phase.isReused : Phase → Bool
  | .held _ t | .readying _ t _ | .offering _ t _ _ | .reading _ t _ _ _ => t.reused
  | .queued _ | .granted _ | .dialling _ _ _ | .spent => false

/-- Whether an occurrence is time that passes, or an exchange that goes on by itself. -/
def Occurrence.isOwnClock (x : Nat) : Occurrence → Bool
  | .delay _ => true
  | .event (.proceed y) | .event (.expire y _) => y = x
  | .event _ => false

namespace Station

variable {s : Station} {x : Nat} {p q : Phase} {e : Event} {effects : List Effect}
  {told more : List Effect} {b c : Option Phase} {os : List Occurrence}

/-! ## A lease from the pool -/

/-- What an exchange tells of the dialling so far: who waits for its slot, or has its connection from
the pool, has not dialled. -/
def IsFrugal (x : Nat) (told : List Effect) : Option Phase → Prop
  | none => True
  | some (.queued _) | some (.granted _) => .dialling x ∉ told
  | some p => p.isReused = true → .leased x true ∈ told ∧ .dialling x ∉ told

/-- What is told besides does not matter, if it is no dialling. -/
theorem IsFrugal.append (h : IsFrugal x told b)
    (hmore : .dialling x ∉ more) : IsFrugal x (told ++ more) b := by
  have hno : .dialling x ∉ told → .dialling x ∉ told ++ more := fun hold => by simp [hold, hmore]
  cases b with
  | none => trivial
  | some p =>
    cases p with
    | queued | granted => exact hno h
    | dialling | held | spent | readying | offering | reading =>
      exact fun hreused => ⟨List.mem_append_left _ (h hreused).1, hno (h hreused).2⟩

/-- **Who has its connection from the pool has not dialled**, as long as it asks for one lease
only. -/
theorem Course.frugal (h : Course s x e b c effects)
    (he : ∀ timeout, e ≠ .request x timeout) (hb : IsFrugal x told b) :
    IsFrugal x (told ++ effects) c := by
  cases h with
  | still => exact hb.append (by simp)
  | accept timeout | enqueue timeout => exact absurd rfl (he timeout)
  | refuse | withdraw | overdue | ending => trivial
  -- From the pool: it is told of as leased from there, and has not dialled.
  | reuse timeout c unusable =>
    have hno : .dialling x ∉ told := hb
    exact fun _ => ⟨by simp, by simp [hno]⟩
  -- A passage tells of no dialling unless it pauses or tries again, and then no connection from the
  -- pool is left.
  | pass hpass =>
    cases hpass with
    | send c t o => exact IsFrugal.append (b := some (.held c t)) hb (by simp)
    | offer c t o | unsendable c t o =>
      exact IsFrugal.append (b := some (.readying c t o)) hb (by simp)
    | answer c t r again => exact IsFrugal.append (b := some (.offering c t r again)) hb (by simp)
    | receive c t status contentType body | complete c t status contentType body =>
      exact IsFrugal.append (b := some (.reading c t status contentType body)) hb (by simp)
    | pause | retry => exact nofun
  -- Who loses its connection, or gets a fresh one, has none from the pool any more.
  | loss hloss => cases hloss <;> exact nofun
  | gain d purpose attempt bound stops hgain => cases hgain <;> exact nofun
  | dead | dial | surrender => exact nofun

/-- An occurrence other than a request keeps an exchange frugal. -/
theorem frugal_occur {o : Occurrence} (h : s.SlotAccount)
    (ho : o.isRequest x = false) (hb : IsFrugal x told (s.phase? x)) :
    IsFrugal x (told ++ (s.occur o).2) ((s.occur o).1.phase? x) := by
  have hfate := occur_fate h o x
  generalize s.phase? x = b, (s.occur o).1.phase? x = c, (s.occur o).2 = effects at hfate hb ⊢
  cases hfate with
  | aside o b effects hquiet => exact hb.append fun hmem => hquiet _ hmem rfl
  | granted o timeout effects honly =>
    exact IsFrugal.append (b := some (.queued timeout)) hb fun hmem => by cases honly _ hmem rfl
  | own hcourse =>
    refine hcourse.frugal (fun timeout heq => ?_) hb
    rw [heq] at ho
    simp [Occurrence.isRequest] at ho

/-- So does a history. -/
theorem frugal_history (h : s.SlotAccount)
    (hos : ∀ o ∈ os, o.isRequest x = false) (hb : IsFrugal x told (s.phase? x)) :
    IsFrugal x (told ++ (s.history os).2) ((s.history os).1.phase? x) := by
  induction os generalizing s told with
  | nil => simpa [history] using hb
  | cons o rest ih =>
    rw [history_cons, ← List.append_assoc]
    exact ih (h.occur o) (fun o ho => hos o (List.mem_cons_of_mem _ ho))
      (frugal_occur h (hos o List.mem_cons_self) hb)

/-- Who asks for a lease has not dialled for it. -/
theorem frugal_request (h : s.SlotAccount) (hx : s.phase? x = none) (timeout : Nat) :
    IsFrugal x (s.step (.request x timeout)).2 ((s.step (.request x timeout)).1.phase? x) := by
  have hcourse := (step_transition s (.request x timeout)).course h rfl
  rw [hx] at hcourse
  generalize (s.step (.request x timeout)).1.phase? x = b, (s.step (.request x timeout)).2 = effects
    at hcourse ⊢
  cases hcourse with
  | accept => exact fun hmem => by simp at hmem
  | enqueue => exact List.not_mem_nil
  | still | refuse => trivial

/-- Who dials because its connection is closed before a message was offered has it from the pool. -/
theorem Course.isReused_of_redial {error : String}
    (h : Course s x (.unready x error) b c effects) (hdials : .dialling x ∈ effects) :
    ∃ c t m, b = some (.readying c t m) ∧ t.reused = true := by
  cases h with
  | still => cases hdials
  | pass hpass =>
    cases hpass with
    | pause d purpose attempt bound delay length hfails => cases hfails
  | loss hloss =>
    cases hloss with
    -- Only a connection from the pool is dialled anew when it turns out to be stale.
    | stale _ _ _ _ hreused => exact ⟨_, _, _, rfl, hreused⟩
    -- All other losses dial nobody.
    | discard hdiscards => simp at hdials
  | surrender hsurrender =>
    obtain ⟨d, purpose, hpurpose, hgives⟩ := hsurrender
    have hno := List.count_eq_zero.mp (hgives.undialled x).1
    simp [hno] at hdials
  | ending hending => exact absurd hdials (List.count_eq_zero.mp (hending.undialled x).1)

/-! ## Nobody waits for ever -/

/-- Whoever is reading no reply and leaves its phase has moved. -/
theorem isMove_of_ne (hreading : p.isReading = false)
    (h : c ≠ some p) : isMove (some p) c = true := by
  simp [isMove, hreading, Ne.symm h]

/-- **Who is due goes on**: to the next attempt, or to the end. -/
theorem isMove_of_due (h : s.SlotAccount) {moment : Nat} (hp : s.phase? x = some p)
    (htimer : s.timer? ⟨x, p⟩ = some moment) (hnow : moment ≤ s.now) (draw : Nat) :
    isMove (some p) ((s.step (.expire x draw)).1.phase? x) = true := by
  have hafter := afterTimer_of_due h hp htimer hnow draw
  generalize (s.step (.expire x draw)).1.phase? x = q at hafter ⊢
  cases hafter with
  | ends => simp [isMove]
  | spends hspent => simp [isMove, hspent, Phase.isReading]
  | pauses | retries => exact isMove_of_ne rfl (by simp)

/-- An exchange that is not at rest moves by itself, sooner or later. -/
theorem exists_move (h : s.SlotAccount) (hp : s.phase? x = some p)
    (hbusy : isAtRest (some p) = false) : ∃ duration e,
      (Occurrence.event e).isOwnClock x = true ∧ (Occurrence.event e).about? = some x ∧
        isMove (some p) (((s.wait duration).step e).1.phase? x) = true := by
  rcases granted_or_timer h hp hbusy with ⟨timeout, rfl⟩ | ⟨moment, htimer⟩
  · refine ⟨0, .proceed x, by simp [Occurrence.isOwnClock], rfl, isMove_of_ne rfl ?_⟩
    rcases phase?_proceed (s := s.wait 0) hp with ⟨c, heq⟩ | heq <;> rw [heq] <;> simp
  · exact ⟨moment, .expire x 0, by simp [Occurrence.isOwnClock], rfl,
      isMove_of_due (s := s.wait moment) (h.of_same rfl rfl rfl) hp htimer (Nat.le_add_left _ _) 0⟩

/-- **An exchange comes to rest by itself**, even if it hears of nothing any more. -/
theorem comes_to_rest {r : Retry} (h : s.SlotAccount) (hr : s.policy.retry = r) (x : Nat) :
    ∃ more, (∀ o ∈ more, o.isOwnClock x = true) ∧
      isAtRest ((s.history more).1.phase? x) = true := by
  -- Each move by itself lowers what its phase is worth in moves.
  induction hn : (Tariff.moves r).worth (s.phase? x) using Nat.strong_induction_on
    generalizing s with
  | _ n ih =>
    -- At rest already, or one more move of the clock is due.
    by_cases hrest : isAtRest (s.phase? x) = true
    · exact ⟨[], by simp, hrest⟩
    · obtain ⟨p, hp⟩ : ∃ p, s.phase? x = some p := by
        cases hp : s.phase? x with
        | none => exact absurd (hp ▸ rfl) hrest
        | some p => exact ⟨p, rfl⟩
      obtain ⟨duration, e, hclock, habout, hmove⟩ :=
        exists_move h hp (Bool.eq_false_iff.mpr (hp ▸ hrest))
      have hlater : (s.wait duration).SlotAccount := h.occur (.delay duration)
      have hpaid := affordable_occur (Tariff.moves r) (x := x) hlater hr (.event e)
      -- The move costs what it lowers the worth by.
      have hcost : (Tariff.moves r).cost ((s.wait duration).deedsAt x (.event e)) = 1 := by
        have hphase : (s.wait duration).phase? x = some p := hp
        rw [deedsAt, if_pos (show e.about? = some x from habout)]
        simp [Tariff.cost, Tariff.moves, deedsOf, hphase, hmove]
      have hgiven : (Occurrence.event e).isRequest x = false ∧
          (Occurrence.event e).isSend x = false := by
        cases e <;> first | exact ⟨rfl, rfl⟩ | cases hclock
      rw [hcost, hgiven.1, hgiven.2, show (s.wait duration).phase? x = s.phase? x from rfl] at hpaid
      -- With nothing given in between, the worth has fallen.
      have hless : (Tariff.moves r).worth (((s.wait duration).step e).1.phase? x) < n := by
        change 1 + (Tariff.moves r).worth (((s.wait duration).step e).1.phase? x) ≤ _ at hpaid
        simp only [Bool.toNat_false, Nat.mul_zero, Nat.add_zero] at hpaid
        omega
      obtain ⟨more, hmore, hend⟩ := ih _ hless (hlater.occur (.event e))
        ((congrArg Policy.retry (occur_target _ (.event e)).2).trans hr) rfl
      refine ⟨.delay duration :: .event e :: more, fun o ho => ?_, hend⟩
      -- All that has been added is the clock's, for this exchange.
      rcases List.mem_cons.mp ho with rfl | ho
      · rfl
      · rcases List.mem_cons.mp ho with rfl | ho
        · exact hclock
        · exact hmore o ho

/-! ## One exchange -/

/-- **One exchange dials a bounded number of times.** An exchange asks for a lease and sends one
message on it at most; the gateway does what it likes, and so do all others.

- It begins at most twice as many attempts to connect as the policy allows for one connection, and
  at most two of them succeed.
- It dials in the place of a connection that is closed before its message was offered only where
  that connection was in the pool, so that nothing was dialled for the lease; and it dials at most
  once because its message came back unsent.
- It ends: it moves a bounded number of times, and wherever it stands it comes to rest by itself. -/
theorem dialling_bounded (c : Config) (target : Target) (past rest : List Occurrence)
    (x timeout : Nat) (hx : ((ofTarget target (.ofConfig c)).history past).1.phase? x = none)
    (hrequest : ∀ o ∈ rest, o.isRequest x = false) (hsend : rest.countP (·.isSend x) ≤ 1) :
    let s := ((ofTarget target (.ofConfig c)).history past).1
    let os := .event (.request x timeout) :: rest
    let n := max 1 c.retries.connectAttempts.toNat
    ((s.history os).2.count (.dialling x) ≤ 2 * n ∧ openings (s.ownEffects x os) ≤ 2) ∧
    ((∀ before error after, rest = before ++ .event (.unready x error) :: after →
      let told := s.history (.event (.request x timeout) :: before)
      .dialling x ∈ (told.1.step (.unready x error)).2 →
        .leased x true ∈ told.2 ∧ .dialling x ∉ told.2) ∧
      (s.deeds x os).resends ≤ 1) ∧
    (s.deeds x os).moves ≤ 4 * n + 8 ∧
    ∃ more, (∀ o ∈ more, o.isOwnClock x = true) ∧
      isAtRest ((s.history (os ++ more)).1.phase? x) = true := by
  intro s os n
  have hs : s.SlotAccount := (accounts_ofTarget target (.ofConfig c) past).1
  have hretry : s.policy.retry.maxAttempts = max c.retries.connectAttempts.toNat 1 := by
    rw [(history_target _ past).2]
    rfl
  have hleases : os.countP (·.isRequest x) = 1 := by
    rw [List.countP_cons_of_pos (by simp [Occurrence.isRequest]),
      List.countP_eq_zero.mpr fun o ho => by simp [hrequest o ho]]
  have hmessages : os.countP (·.isSend x) ≤ 1 := by
    rwa [List.countP_cons_of_neg (by simp [Occurrence.isSend])]
  obtain ⟨hattempts, hsuccesses, hresends, hmoves⟩ := deeds_bounded hs hx os
  have hmax : max 1 s.policy.retry.maxAttempts = n := by
    rw [hretry]
    omega
  rw [hmax, hleases] at hattempts hmoves
  rw [hleases] at hsuccesses
  refine ⟨⟨?_, ?_⟩, ⟨?_, ?_⟩, ?_, ?_⟩
  · -- An attempt is told of with its exchange, so the whole history may be counted.
    rw [← count_ownEffects hs rfl (by simp), ← (deeds_counted s x os).1]
    have htwo := Nat.mul_le_mul_left n (Nat.add_le_add_left hmessages 1)
    omega
  · -- An own connection follows a success.
    rw [← (deeds_counted s x os).2]
    omega
  · -- Who dials here had its connection from the pool, and such an exchange has not dialled yet.
    intro before error after hrest told hdials
    have htold : told.1.SlotAccount := hs.history _
    have hfrugal : IsFrugal x told.2 (told.1.phase? x) :=
      frugal_history (hs.occur _) (fun o ho => hrequest o (by simp [hrest, ho]))
        (frugal_request hs hx timeout)
    have hcourse := (step_transition told.1 (.unready x error)).course htold rfl
    obtain ⟨c, t, m, hp, hreused⟩ := hcourse.isReused_of_redial hdials
    rw [hp] at hfrugal
    exact hfrugal hreused
  · -- One message can be sent again once.
    omega
  · -- The moves, with two messages at most.
    have htwo := Nat.mul_le_mul_left (2 * n + 4) (Nat.add_le_add_left hmessages 1)
    omega
  · -- The clock alone brings it to rest.
    obtain ⟨more, hmore, hend⟩ := comes_to_rest (hs.history os) rfl x
    refine ⟨more, hmore, ?_⟩
    rw [history_append]
    exact hend

/-- The bound is met: the pooled connection of a lease was closed, the message comes back from the
next one, and of two attempts each time the second succeeds. -/
theorem dialling_bounded_met :
    let c : Config := { retries := { connectAttempts := 2 } }
    let past : List Occurrence := [.event (.request 0 9000), .event (.proceed 0),
      .event (.connected 0), .event (.send 0 default), .event (.ready 0),
      .event (.answered 0 Http.Status.ok none), .event (.ended 0), .event (.release 0)]
    let rest : List Occurrence := [.event (.proceed 1), .event (.send 1 default),
      .event (.unready 1 "closed"), .event (.refused 1 "refused" 0), .delay 50,
      .event (.expire 1 0), .event (.connected 1), .event (.returned 1 "closed"),
      .event (.refused 1 "refused" 0), .delay 50, .event (.expire 1 0), .event (.connected 1)]
    let s := ((ofTarget sampleTarget (.ofConfig c)).history past).1
    let os := .event (.request 1 9000) :: rest
    ((s.history os).2.count (.dialling 1) ≤ 4 ∧ openings (s.ownEffects 1 os) ≤ 2) ∧
      (s.history os).2.count (.dialling 1) = 4 ∧ openings (s.ownEffects 1 os) = 2 := by
  intro c past rest s os
  obtain ⟨hbounds, -⟩ := dialling_bounded c sampleTarget past rest 1 9000 (by decide) (by decide)
    (by decide)
  -- Both bounds are met: two attempts to replace the stale connection, and two for the resend.
  exact ⟨hbounds, by decide, by decide⟩

end Station

end ObliviousRelay.Gateway
