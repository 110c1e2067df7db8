import ObliviousRelay.Proofs.Gateway.CleanPool

/-!
# What exchanges carry

An exchange carries one message to its gateway, as it is, and one reply back. Whatever is offered is
the request of the message that was sent on the lease; whatever is replied is what the gateway said
since it began to answer.

- `wireRequest_eq`: the request that offers a message is told by the target and the message.
- `carries_history`: an exchange carries the message that is sent on it, and offers nothing else.
- `told_of_reading`: what has been read of a reply was told by the gateway.
-/

namespace ObliviousRelay.Gateway

/-- **The request that offers a message**, told by the target and the message alone. -/
theorem wireRequest_eq {t : Target} {o : Outbound} {w : WireRequest} (h : wireRequest t o = .ok w) :
    w = { method := "POST", target := t.requestPath
          fields := [("host", t.hostHeader), ("content-type", o.mediaType.text),
            ("content-length", toString o.body.size)]
          body := o.body } := by
  unfold wireRequest at h
  split at h
  · cases h
  · exact (Except.ok.inj h).symm

namespace Station

variable {s : Station} {x : Nat} {e : Event} {o : Occurrence} {m : Outbound}
  {effects : List Effect} {os : List Occurrence}

/-! ## Where an effect comes from -/

/-- What a history brings about is brought about by one of its occurrences. -/
theorem exists_occur_of_mem_history {f : Effect} (hf : f ∈ (s.history os).2) :
    ∃ before o after, os = before ++ o :: after ∧ f ∈ ((s.history before).1.occur o).2 := by
  induction os generalizing s with
  | nil => cases hf
  | cons o rest ih =>
    rcases List.mem_append.mp hf with hf | hf
    · exact ⟨[], o, rest, rfl, hf⟩
    · obtain ⟨before, o', after, rfl, hmem⟩ := ih hf
      exact ⟨o :: before, o', after, rfl, hmem⟩

/-- **What is seen of an exchange when it ends**: that its slot is given back, and what it failed
with. -/
theorem Ending.mem_about {disposal : Outcome} {p : Phase} {tail : List Effect} {f : Effect}
    (h : Ending s x e p disposal tail)
    (hf : f ∈ disposal.2 ++ (disposal.1.finish x).2 ++ tail) (hx : f.about? = some x) :
    f = .freed x ∨ f = .granted x ∨ (∃ g, f = .failed x g) ∨ f = .overflowed x := by
  -- What is done with the connection is about no exchange.
  have hdisposal : ∀ f ∈ disposal.2, f.about? = none := by
    cases h with
    | releaseClean c t hclean =>
      unfold putAside
      split <;> simp [close, Effect.about?]
    | drop p hslot =>
      rw [closeOwn, closeAll_eq]
      simp [Effect.about?]
    | giveUp d hgives => cases hgives <;> simp [Effect.about?]
    | releaseUsed | releaseSpent | breakDown => simp [close, Effect.about?]
  rcases List.mem_append.mp hf with hmem | htail
  · rcases List.mem_append.mp hmem with hmem | hmem
    · rw [hdisposal f hmem] at hx
      cases hx
    · -- The slot is free, or goes to the next one in the queue.
      rcases disposal.1.effects_finish x with heq | ⟨y, heq⟩ <;> rw [heq] at hmem
      · exact .inl (List.mem_singleton.mp hmem)
      · rcases List.mem_cons.mp hmem with rfl | hgrant
        · exact .inl rfl
        · obtain rfl := List.mem_singleton.mp hgrant
          obtain rfl := Option.some.inj hx
          exact .inr (.inl rfl)
  · -- After the slot, the failure is told of, if there is one.
    cases h with
    | giveUp => exact .inr (.inr (.inl ⟨_, List.mem_singleton.mp htail⟩))
    | breakDown => exact .inr (.inr (.inr (List.mem_singleton.mp htail)))
    | releaseClean | releaseUsed | releaseSpent | drop => cases htail

/-! ## Messages -/

/-- What an exchange in a phase has at hand is one message, or the request of it. -/
def Carries (t : Target) (m : Outbound) : Phase → Prop
  | .readying _ _ o => o = m
  | .dialling _ (.offer o) _ => o = m
  | .dialling _ (.offerAgain r) _ => wireRequest t m = .ok r
  | .offering _ _ r _ => wireRequest t m = .ok r
  | _ => True

/-- An exchange carries a message in the phase that it is in, if it is in progress. -/
def CarriesIn (t : Target) (m : Outbound) (p : Option Phase) : Prop :=
  ∀ r, p = some r → Carries t m r

/-- **A course carries the message that is sent**, and offers no other. -/
theorem Course.carries {p q : Option Phase} (h : Course s x e p q effects)
    (hp : CarriesIn s.target m p) (hsend : ∀ o, e = .send x o → o = m) :
    CarriesIn s.target m q ∧ ∀ n r, .offered x n r ∈ effects → wireRequest s.target m = .ok r := by
  -- Nothing is carried by an exchange that is gone.
  have hnone : CarriesIn s.target m none := fun r hr => by cases hr
  cases h with
  | still => exact ⟨hp, by simp⟩
  | dead | accept | enqueue => exact ⟨fun r hr => Option.some.inj hr ▸ trivial, by simp⟩
  | refuse | withdraw | overdue => exact ⟨hnone, by simp⟩
  | reuse | dial => exact ⟨fun r hr => Option.some.inj hr ▸ trivial, by simp⟩
  -- What moves on carries what it carried.
  | pass hpass =>
    have hold := hp _ rfl
    suffices hboth : Carries s.target m _ ∧ ∀ n r, .offered x n r ∈ effects →
        wireRequest s.target m = .ok r from
      ⟨fun r hr => Option.some.inj hr ▸ hboth.1, hboth.2⟩
    cases hpass with
    | send c t o => exact ⟨hsend o rfl, by simp⟩
    | offer c t o r hwire =>
      -- What is ready to be offered is the message that was sent.
      obtain rfl : o = m := hold
      exact ⟨hwire, by simp [hwire]⟩
    | unsendable | answer | receive | complete => exact ⟨trivial, by simp⟩
    | pause d purpose | retry d purpose => cases purpose <;> exact ⟨hold, by simp⟩
  -- A request that is sent again is the one that was not taken.
  | loss hloss =>
    have hold := hp _ rfl
    cases hloss with
    | stale | returned => exact ⟨fun r hr => Option.some.inj hr ▸ hold, by simp⟩
    | discard => exact ⟨fun r hr => Option.some.inj hr ▸ trivial, by simp⟩
  -- The new connection takes what it was made for.
  | gain d purpose attempt bound stops hgain =>
    have hold := hp _ rfl
    cases hgain with
    | lease => exact ⟨fun r hr => Option.some.inj hr ▸ trivial, by simp [opened]⟩
    | offer o r hwire =>
      obtain rfl : o = m := hold
      exact ⟨fun r hr => Option.some.inj hr ▸ hwire, by simp [opened, hwire]⟩
    | unsendable => exact ⟨fun r hr => Option.some.inj hr ▸ trivial, by simp [opened]⟩
    | offerAgain r =>
      have hwire : wireRequest s.target m = .ok r := hold
      exact ⟨fun r hr => Option.some.inj hr ▸ hold, by simp [opened, hwire]⟩
  | surrender hsurrender =>
    obtain ⟨d, purpose, hpurpose, hgives⟩ := hsurrender
    refine ⟨fun r hr => Option.some.inj hr ▸ trivial, ?_⟩
    cases hgives <;> simp
  -- Ending offers nothing.
  | ending hending =>
    refine ⟨hnone, fun n r hmem => ?_⟩
    rcases hending.mem_about hmem rfl with heq | heq | ⟨g, heq⟩ | heq <;> cases heq

/-- How a request comes to be offered: the connection of an exchange takes it, or has been made. -/
theorem Course.of_offered {p q : Option Phase} (h : Course s x e p q effects) {n : Nat}
    {r : WireRequest} (hmem : .offered x n r ∈ effects) :
    (e = .ready x ∨ e = .connected x) ∧ p ≠ none := by
  cases h with
  | still | dead | accept | enqueue | refuse | withdraw | overdue | reuse | dial => simp at hmem
  | pass hpass =>
    cases hpass with
    | offer => exact ⟨.inl rfl, by simp⟩
    | _ => simp at hmem
  | loss hloss => cases hloss <;> simp at hmem
  | gain => exact ⟨.inr rfl, by simp⟩
  | surrender hsurrender =>
    obtain ⟨d, purpose, hpurpose, hgives⟩ := hsurrender
    cases hgives <;> simp at hmem
  | ending hending =>
    rcases hending.mem_about hmem rfl with heq | heq | ⟨g, heq⟩ | heq <;> cases heq

/-- An occurrence lets an exchange carry on what it carries. -/
theorem occur_carries (hs : s.SlotAccount) (hp : CarriesIn s.target m (s.phase? x))
    (hsend : ∀ o', o = .event (.send x o') → o' = m) :
    CarriesIn s.target m ((s.occur o).1.phase? x) ∧
      ∀ n r, .offered x n r ∈ (s.occur o).2 → wireRequest s.target m = .ok r := by
  have hfate := occur_fate hs o x
  generalize s.phase? x = p, (s.occur o).1.phase? x = q, (s.occur o).2 = effects at hfate hp
  cases hfate with
  | aside o p effects hquiet => exact ⟨hp, fun n r hmem => absurd rfl (hquiet _ hmem)⟩
  | granted o timeout effects honly =>
    exact ⟨fun r hr => Option.some.inj hr ▸ trivial, fun n r hmem => by cases honly _ hmem rfl⟩
  | own hcourse => exact hcourse.carries hp fun o' ho => hsend o' (by rw [ho])

/-- **An exchange carries the message that is sent on it**, and offers no other. -/
theorem carries_history (hs : s.SlotAccount) (hp : CarriesIn s.target m (s.phase? x))
    (os : List Occurrence) (hsend : ∀ o', .event (.send x o') ∈ os → o' = m) :
    CarriesIn s.target m ((s.history os).1.phase? x) ∧
      ∀ n r, .offered x n r ∈ (s.history os).2 → wireRequest s.target m = .ok r := by
  induction os generalizing s with
  | nil => exact ⟨hp, by simp [history]⟩
  | cons o rest ih =>
    obtain ⟨hnow, hoffered⟩ := occur_carries hs hp fun o' ho =>
      hsend o' (ho ▸ List.mem_cons_self)
    -- The target stays, so the request of the message is the same later.
    have htarget := (occur_target s o).1
    rw [← htarget] at hnow
    obtain ⟨hlater, hofferedLater⟩ := ih (hs.occur o) hnow fun o' ho =>
      hsend o' (List.mem_cons_of_mem _ ho)
    rw [htarget] at hlater hofferedLater
    rw [history_cons]
    refine ⟨hlater, fun n r hmem => ?_⟩
    rcases List.mem_append.mp hmem with hmem | hmem
    · -- Offered in the first occurrence.
      exact hoffered n r hmem
    · -- Offered later, when the target is still the same.
      exact hofferedLater n r hmem

/-! ## Replies -/

/-- What an occurrence adds to the body of the reply to an exchange. -/
def pieceTold (x : Nat) : Occurrence → ByteArray
  | .event (.received y piece) => if y = x then piece else .empty
  | _ => .empty

/-- What is told of the body of a reply, piece by piece. -/
def bodyTold (x : Nat) (os : List Occurrence) : ByteArray :=
  os.foldl (fun body o => body ++ pieceTold x o) .empty

/-- How so much of a reply came to be read in the course of some occurrences: its head came to a
request that was offered, and all of it since; or it had begun before, and then more of it came. -/
inductive Told (s : Station) (x : Nat) (os : List Occurrence) (r : Reply) : Prop where
  | whole (before after : List Occurrence) (c : Connection) (t : Terms) (w : WireRequest)
      (again : Bool) (hos : os = before ++ .event (.answered x r.status r.contentType) :: after)
      (hp : (s.history before).1.phase? x = some (.offering c t w again))
      (hbody : r.body = bodyTold x after) : Told s x os r
  | more (c : Connection) (t : Terms) (read : ByteArray)
      (hp : s.phase? x = some (.reading c t r.status r.contentType read))
      (hnow : s.now ≤ t.deadline.moment) (hbody : r.body = read ++ bodyTold x os) : Told s x os r

/-- What is told in the end adds to the body. -/
theorem bodyTold_concat (x : Nat) (os : List Occurrence) (o : Occurrence) :
    bodyTold x (os ++ [o]) = bodyTold x os ++ pieceTold x o := by
  rw [bodyTold, List.foldl_append]
  rfl

/-- Two courses of occurrences tell one body after the other. -/
theorem bodyTold_append (x : Nat) (os more : List Occurrence) :
    bodyTold x (os ++ more) = bodyTold x os ++ bodyTold x more := by
  induction more using List.reverseRecOn with
  | nil => simp [bodyTold]
  | append_singleton more o ih =>
    rw [← List.append_assoc, bodyTold_concat, bodyTold_concat, ih, ByteArray.append_assoc]

/-- A reply grows by what is told next. -/
theorem Told.extend {r : Reply} (h : Told s x os r) (o : Occurrence) :
    Told s x (os ++ [o]) { r with body := r.body ++ pieceTold x o } := by
  cases h with
  | whole before after c t w again hos hp hbody =>
    refine .whole before (after ++ [o]) c t w again (by simp [hos]) hp ?_
    rw [hbody, bodyTold_concat]
  | more c t read hp hnow hbody =>
    refine .more c t read hp hnow ?_
    rw [hbody, bodyTold_concat, ByteArray.append_assoc]

/-- Nothing else makes it grow. -/
theorem Told.extend_quiet {r : Reply} (h : Told s x os r) (o : Occurrence)
    (ho : ∀ piece, o ≠ .event (.received x piece)) : Told s x (os ++ [o]) r := by
  have hnone : pieceTold x o = .empty := by
    unfold pieceTold
    split
    · next y piece =>
      rw [if_neg]
      rintro rfl
      exact ho piece rfl
    · rfl
  have hboth := h.extend o
  rwa [hnone, ByteArray.append_empty] at hboth

/-- How an exchange comes to read a reply: it read it before, or the reply began or went on now. -/
theorem Course.reading {p : Option Phase} {c : Connection} {t : Terms} {status : Http.Status}
    {contentType : Option String} {body : ByteArray}
    (h : Course s x e p (some (.reading c t status contentType body)) effects) :
    p = some (.reading c t status contentType body) ∨
      (∃ r again, e = .answered x status contentType ∧ p = some (.offering c t r again) ∧
        body = .empty) ∨
      ∃ read piece, e = .received x piece ∧ p = some (.reading c t status contentType read) := by
  cases h with
  | still => exact .inl rfl
  | pass hpass =>
    cases hpass with
    | answer c t r again => exact .inr (.inl ⟨r, again, rfl, rfl, rfl⟩)
    | receive c t status contentType read piece => exact .inr (.inr ⟨read, piece, rfl, rfl⟩)
  | loss hloss => cases hloss
  | gain d purpose attempt bound stops hgain => cases hgain

/-- A piece that comes in time is read, or the reply is too long. -/
theorem step_received {c : Connection} {t : Terms} {status : Http.Status}
    {contentType : Option String} {body : ByteArray} (piece : ByteArray)
    (hp : s.phase? x = some (.reading c t status contentType body))
    (hnow : s.now ≤ t.deadline.moment) :
    s.step (.received x piece) = s.received x c t status contentType body piece := by
  rw [step_eq_act (x := x) rfl, hp]
  simp [isOverdue, hnow, act]

/-- A piece in time is read at the end of the body, if it is not too long. -/
theorem reading_of_received {c c' : Connection} {t t' : Terms} {status status' : Http.Status}
    {contentType contentType' : Option String} {body body' piece : ByteArray}
    (hp : s.phase? x = some (.reading c t status contentType body))
    (hnow : s.now ≤ t.deadline.moment)
    (hq : (s.step (.received x piece)).1.phase? x =
      some (.reading c' t' status' contentType' body')) :
    t' = t ∧ status' = status ∧ contentType' = contentType ∧ body' = body ++ piece := by
  rw [step_received piece hp hnow, received] at hq
  split at hq
  · -- What is too long is not read any more.
    have hspent : ((s.discard x c (.gatewayError "length limit exceeded")).1).phase? x =
        some .spent := phase?_setPhase_self (s := (s.close c).1) hp
    rw [hspent] at hq
    cases hq
  · rw [phase?_setPhase_self hp] at hq
    cases hq
    exact ⟨rfl, rfl, rfl, rfl⟩

/-- **What an exchange has read was told**, unless its deadline has passed. -/
theorem told_of_reading (hs : s.SlotAccount) (os : List Occurrence) {c : Connection} {t : Terms}
    {r : Reply}
    (hp : (s.history os).1.phase? x = some (.reading c t r.status r.contentType r.body)) :
    t.deadline.moment < (s.history os).1.now ∨ Told s x os r := by
  -- By induction on the occurrences, with the latest one in front.
  induction os using List.reverseRecOn generalizing c t r with
  | nil =>
    -- At the beginning, all of it has been read before, or the deadline has passed already.
    by_cases hnow : t.deadline.moment < s.now
    · exact .inl hnow
    · exact .inr (.more c t r.body hp (Nat.le_of_not_lt hnow) ByteArray.append_empty.symm)
  | append_singleton os o ih =>
    rw [history_concat] at hp ⊢
    dsimp only at hp ⊢
    have hclock := now_le_occur (s.history os).1 o
    have hlate : t.deadline.moment < (s.history os).1.now →
        t.deadline.moment < ((s.history os).1.occur o).1.now := fun h => h.trans_le hclock
    -- A piece that comes in time adds to what was heard before.
    have hgrow : ∀ {read piece}, o = .event (.received x piece) →
        (s.history os).1.phase? x = some (.reading c t r.status r.contentType read) →
        t.deadline.moment < ((s.history os).1.occur o).1.now ∨ Told s x (os ++ [o]) r := by
      rintro read piece rfl hread
      by_cases hnow : t.deadline.moment < (s.history os).1.now
      · exact .inl (hlate hnow)
      · obtain ⟨-, -, -, hbody⟩ := reading_of_received hread (Nat.le_of_not_lt hnow) hp
        have htold := (ih (r := { r with body := read }) hread).resolve_left hnow
        have hmore := htold.extend (.event (.received x piece))
        rw [pieceTold, if_pos rfl] at hmore
        simp only [← hbody] at hmore
        exact .inr hmore
    -- Who still reads the same has heard a piece of nothing, or nothing.
    have hkeep : (s.history os).1.phase? x =
        some (.reading c t r.status r.contentType r.body) →
        t.deadline.moment < ((s.history os).1.occur o).1.now ∨ Told s x (os ++ [o]) r := by
      intro hsame
      by_cases hpiece : ∃ piece, o = .event (.received x piece)
      · obtain ⟨piece, ho⟩ := hpiece
        exact hgrow ho hsame
      · rcases ih hsame with hpast | htold
        · exact .inl (hlate hpast)
        · exact .inr (htold.extend_quiet o fun piece ho => hpiece ⟨piece, ho⟩)
    have hfate := occur_fate (hs.history os) o x
    rw [hp] at hfate
    generalize hold : (s.history os).1.phase? x = old, hq : some _ = q,
      ((s.history os).1.occur o).2 = effects at hfate
    cases hfate with
    -- It was not about the exchange, which reads on as it was.
    | aside o p effects hquiet => exact hkeep (hold.trans hq.symm)
    | granted => cases hq
    | own hcourse =>
      subst hq
      rcases hcourse.reading with rfl | ⟨w, again, rfl, rfl, hbody⟩ | ⟨read, piece, rfl, rfl⟩
      · -- It was about the exchange, and the reply is as it was.
        exact hkeep hold
      · -- The reply begins now, with nothing in its body.
        exact .inr (.whole os [] c t w again rfl hold hbody)
      · -- It goes on with one more piece.
        exact hgrow rfl hold

/-- How an exchange comes to be answered: it has read the reply, and its deadline has not passed. -/
theorem Course.of_replied {p q : Option Phase} (h : Course s x e p q effects) {r : Reply}
    {reused : Bool} (hmem : .replied x r reused ∈ effects) :
    e = .ended x ∧ ∃ c t, p = some (.reading c t r.status r.contentType r.body) ∧
      s.now ≤ t.deadline.moment := by
  cases h with
  | still | dead | accept | enqueue | refuse | withdraw | overdue | reuse | dial => simp at hmem
  | pass hpass =>
    -- A reply is told of when it is complete.
    cases hpass with
    | complete c t status contentType body hnow =>
      obtain ⟨-, rfl, -⟩ := Effect.replied.inj (List.mem_singleton.mp hmem)
      exact ⟨rfl, c, t, rfl, hnow⟩
    | _ => simp at hmem
  | loss hloss => cases hloss <;> simp at hmem
  | gain d purpose attempt bound stops hgain => cases hgain <;> simp [opened] at hmem
  | surrender hsurrender =>
    obtain ⟨d, purpose, hpurpose, hgives⟩ := hsurrender
    cases hgives <;> simp at hmem
  | ending hending =>
    rcases hending.mem_about hmem rfl with heq | heq | ⟨g, heq⟩ | heq <;> cases heq

end Station

end ObliviousRelay.Gateway
