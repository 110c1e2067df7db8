import ObliviousRelay.Proofs.Relay.Masking

/-!
# The time that a visit may take

The time of a visit begins with its turn and is the same for all visits. Nothing but a turn sets the
moment at which a visit has taken too long, and nothing moves it.

- `Relay.Schedules`: what happens within one moment leaves the visits at the moments that they had,
  or gives them their turns; `step_schedules`.
- `Relay.record` are the effects of a history, each with its moment; `turnOf` reads off when a visit
  got its turn.
- `Relay.due_of_build`: the moment of a visit is told by its turn, after every history.
- `Relay.le_inboundTimeoutOf`: the time of a visit has room for an upload and for an exchange with
  any of the targets; `inboundTimeoutOf_le`: it is the least such time.
-/

namespace ObliviousRelay

namespace Relay

/-! ## How much time it is -/

section Extent

variable {registry : Registry} {t : Target} {upload most : Nat}

/-- The fold over the targets is bounded by what bounds its start and each of them. -/
theorem foldl_targets_le_iff (ts : List Target) (start : Nat) :
    ts.foldl (fun most t => max most (t.queueWait + t.requestTimeout)) start ≤ most ↔
      start ≤ most ∧ ∀ t ∈ ts, t.queueWait + t.requestTimeout ≤ most := by
  induction ts generalizing start with
  | nil => simp
  | cons t rest ih => rw [List.foldl_cons, ih, Nat.max_le, List.forall_mem_cons, and_assoc]

/-- **A visit has time for its upload and for an exchange with any target.** -/
theorem le_inboundTimeoutOf (ht : t ∈ registry.targets) (upload : Nat) :
    upload + t.queueWait + t.requestTimeout ≤ inboundTimeoutOf registry upload := by
  have hfold := (foldl_targets_le_iff registry.targets 0).mp (Nat.le_refl _)
  have hslowest := hfold.2 t ht
  unfold inboundTimeoutOf
  omega

theorem inboundTimeoutOf_le (h : ∀ t ∈ registry.targets, t.queueWait + t.requestTimeout ≤ most) :
    inboundTimeoutOf registry upload ≤ most + upload :=
  Nat.add_le_add_right ((foldl_targets_le_iff _ _).mpr ⟨Nat.zero_le _, h⟩) _

end Extent

variable {r r' r'' r₀ : Relay} {v : Nat} {g : String} {w : Visit} {ev : RelayEvent}
  {o : RelayOccurrence} {os : List RelayOccurrence}

/-! ## What sets the moment of a visit -/

/-- What happens within one moment: whoever runs has the moment that it had, or has got its turn
now. -/
structure Schedules (r r' : Relay) : Prop where
  now : r'.now = r.now
  timeout : r'.inboundTimeout = r.inboundTimeout
  dues : ∀ w' ∈ r'.visits, ∀ due, w'.due? = some due →
    due = r.now + r.inboundTimeout ∨ ∃ w ∈ r.visits, w.id = w'.id ∧ w.due? = some due

namespace Schedules

theorem trans (h : Schedules r r') (h' : Schedules r' r'') : Schedules r r'' where
  now := h'.now.trans h.now
  timeout := h'.timeout.trans h.timeout
  dues w'' hw'' due hdue := by
    rcases h'.dues w'' hw'' due hdue with hnow | ⟨w', hw', hid, hdue'⟩
    · left
      rw [hnow, h.now, h.timeout]
    · rcases h.dues w' hw' due hdue' with hnow | ⟨w, hw, hid', hdue''⟩
      · exact .inl hnow
      · exact .inr ⟨w, hw, hid'.trans hid, hdue''⟩

/-- Visits may go. -/
theorem of_subset (hnow : r'.now = r.now) (htimeout : r'.inboundTimeout = r.inboundTimeout)
    (hvisits : r'.visits ⊆ r.visits) : Schedules r r' :=
  ⟨hnow, htimeout, fun w hw _ hdue => .inr ⟨w, hvisits hw, rfl, hdue⟩⟩

theorem refl (r : Relay) : Schedules r r := of_subset rfl rfl (List.Subset.refl _)

theorem erase (r : Relay) (v : Nat) : Schedules r (r.erase v) :=
  of_subset rfl rfl fun _ hw => List.mem_of_mem_filter hw

theorem conclude (r : Relay) (w : Visit) (result : Except Failure Message) :
    Schedules r (r.conclude w result).1 :=
  of_subset rfl rfl fun _ hw => List.mem_of_mem_filter hw

theorem atStation (r : Relay) (g : String) (e : Gateway.Event) :
    Schedules r (r.atStation g e).1 :=
  of_subset rfl rfl (List.Subset.refl _)

/-- A visit moves to a phase in which it has the moment that it had, or one that is set now. -/
theorem setPhase {p : VisitPhase} (h : ∀ due, (Visit.mk v w.method p).due? = some due →
      due = r.now + r.inboundTimeout ∨ ∃ w ∈ r.visits, w.id = v ∧ w.due? = some due) :
    Schedules r (r.setPhase v p) := by
  refine ⟨rfl, rfl, fun w' hw' due hdue => ?_⟩
  obtain ⟨u, hu, rfl⟩ := List.mem_map.mp hw'
  by_cases hv : u.id = v
  · rw [if_pos hv] at hdue ⊢
    subst hv
    exact h due hdue
  · rw [if_neg hv] at hdue ⊢
    exact .inr ⟨u, hu, rfl, hdue⟩

theorem forAll {α : Type} {next : Relay → α → Outcome} (h : ∀ r x, Schedules r (next r x).1)
    (r : Relay) (xs : List α) : Schedules r (r.forAll xs next).1 := by
  induction xs generalizing r with
  | nil => exact refl r
  | cons x rest ih =>
    rw [forAll_cons, andThen_eq]
    exact (h r x).trans (ih _)

/-- **A turn sets the moment of its visit**, and of no other one. -/
theorem startIfFree (r : Relay) (w : Visit) : Schedules r (r.startIfFree w).1 := by
  unfold Relay.startIfFree
  split
  · split
    · unfold start
      split
      · exact erase r w.id
      · exact erase r w.id
      · split
        · exact conclude r w _
        · exact setPhase (w := w) fun due hdue => .inl (Option.some.inj hdue).symm
    · exact refl r
  · exact refl r

theorem startWaiting (r : Relay) : Schedules r r.startWaiting.1 := forAll startIfFree r r.visits

theorem conclusion (r : Relay) (g : String) (w : Visit) (result : Except Failure Message) :
    Schedules r (r.conclusion g w result).1 :=
  ((atStation r g (.release w.id)).trans (conclude _ w result)).trans (startWaiting _)

theorem breakOff (r : Relay) (w : Visit) : Schedules r (r.breakOff w).1 :=
  (erase r w.id).trans (startWaiting _)

theorem follow (r : Relay) (g : String) (f : Gateway.Effect) : Schedules r (r.follow g f).1 := by
  cases f with
  | leased x reused =>
    simp only [Relay.follow]
    split
    · exact atStation r g _
    · exact refl r
  | replied x reply reused | failed x f =>
    simp only [Relay.follow]
    split
    · exact conclusion r g _ _
    · exact refl r
  | overflowed x =>
    simp only [Relay.follow]
    split
    · exact breakOff r _
    · exact refl r
  | _ => exact refl r

theorem station (r : Relay) (g : String) (e : Gateway.Event) : Schedules r (r.station g e).1 :=
  (atStation r g e).trans (forAll (fun r f => follow r g f) _ _)

theorem abandon (r : Relay) (w : Visit) : Schedules r (r.abandon w).1 := by
  unfold Relay.abandon
  split
  · exact (erase r w.id).trans (atStation _ _ _)
  · exact erase r w.id

end Schedules

/-- A visit that was found is one of the visits. -/
theorem mem_of_visit? (h : r.visit? v = some w) : w ∈ r.visits := List.mem_of_find?_eq_some h

/-- **Events leave the visits at their moments**, or give them their turns. -/
theorem step_schedules (r : Relay) (hout : ev.isOutside = true)
    (hev : ∀ duration, ev ≠ .elapse duration) : Schedules r (r.step ev).1 := by
  have hmove := step_move r ev hout
  generalize r.step ev = out at hmove ⊢
  -- A visit that uploads keeps its moment when it becomes an exchange.
  have hkept : ∀ {w due a body p}, r.visit? w.id = some w → w.phase = .uploading due a body →
      (Visit.mk w.id w.method p).due? = some due → Schedules r (r.setPhase w.id p) := by
    intro w due a body p hw hphase hp
    refine Schedules.setPhase (w := w) fun due' hdue' => .inr ⟨w, mem_of_visit? hw, rfl, ?_⟩
    obtain rfl := Option.some.inj (hp.symm.trans hdue')
    simp [Visit.due?, hphase]
  cases hmove with
  | still => exact .refl r
  | arrive u head hnew =>
    have harrives : Schedules r { r with visits := r.visits ++ [⟨u, head.method, .waiting head⟩] } := by
      refine ⟨rfl, rfl, fun w' hw' due hdue => ?_⟩
      -- Whoever has just arrived has no moment yet.
      rcases List.mem_append.mp hw' with hw' | hw'
      · exact .inr ⟨w', hw', rfl, hdue⟩
      · obtain rfl := List.mem_singleton.mp hw'
        cases hdue
    exact harrives.trans (.startWaiting _)
  | grow w due a body p hw hphase => exact hkept hw hphase rfl
  | refuse ev w => exact (Schedules.conclude r w _).trans (.startWaiting _)
  | exchange w due a body i t s hw hphase => exact (hkept hw hphase rfl).trans (.station _ _ _)
  | abandon ev w answer =>
    exact (Schedules.abandon r w).trans (.startWaiting _)
  | station g e => exact .station r g e
  | elapse duration => exact absurd rfl (hev duration)

theorem inboundTimeout_occur (hout : o.isOutside = true) :
    (r.occur o).1.inboundTimeout = r.inboundTimeout := by
  cases o with
  | delay duration => rfl
  | event ev =>
    by_cases helapse : ∃ duration, ev = .elapse duration
    · obtain ⟨duration, rfl⟩ := helapse
      show (r.step (.elapse duration)).1.inboundTimeout = _
      simp only [step]
      split <;> rfl
    · exact (step_schedules r hout fun duration heq => helapse ⟨duration, heq⟩).timeout

/-- **The time that visits may take stays.** -/
theorem inboundTimeout_history (hout : ∀ o ∈ os, o.isOutside = true) :
    (r.history os).1.inboundTimeout = r.inboundTimeout := by
  induction os generalizing r with
  | nil => rfl
  | cons o rest ih =>
    obtain ⟨ho, hrest⟩ := List.forall_mem_cons.mp hout
    exact (ih hrest).trans (inboundTimeout_occur ho)

/-! ## Records -/

/-- Effects, each with the moment at which it was seen. -/
abbrev Record := List (Nat × RelayEffect)

/-- What occurrences bring about, each effect with its moment. -/
def record (r : Relay) : List RelayOccurrence → Record
  | [] => []
  | o :: rest => (r.occur o).2.map (r.now, ·) ++ (r.occur o).1.record rest

/-- When a visit got its turn, of all that bore its number the last one. -/
def Record.turnOf (told : Record) (v : Nat) : Option Nat :=
  told.foldl (fun since entry => if entry.2 = .receiving v then some entry.1 else since) none

theorem record_append (r : Relay) (os more : List RelayOccurrence) :
    r.record (os ++ more) = r.record os ++ (r.history os).1.record more := by
  induction os generalizing r with
  | nil => rfl
  | cons o rest ih => rw [List.cons_append, record, record, ih, List.append_assoc, history_cons]

/-- A record has the effects of a history. -/
theorem map_record (r : Relay) (os : List RelayOccurrence) :
    (r.record os).map (·.2) = (r.history os).2 := by
  induction os generalizing r with
  | nil => rfl
  | cons o rest ih => simp [record, history_cons, ih]

/-- Nothing was seen later than now. -/
theorem le_now_of_mem_record {entry : Nat × RelayEffect} (h : entry ∈ r.record os) :
    entry.1 ≤ (r.history os).1.now := by
  induction os generalizing r with
  | nil => cases h
  | cons o rest ih =>
    rcases List.mem_append.mp h with h | h
    · obtain ⟨f, -, rfl⟩ := List.mem_map.mp h
      exact now_le_history r (o :: rest)
    · exact ih h

namespace Record

variable {told : Record} {now : Nat} {effects : List RelayEffect}

theorem turnOf_append_of_quiet (h : .receiving v ∉ effects) :
    turnOf (told ++ effects.map (now, ·)) v = told.turnOf v := by
  rw [turnOf, List.foldl_append]
  induction effects with
  | nil => rfl
  | cons f rest ih =>
    rw [List.mem_cons, not_or] at h
    rw [List.map_cons, List.foldl_cons, if_neg (Ne.symm h.1)]
    exact ih h.2

theorem turnOf_append_of_mem (h : .receiving v ∈ effects) :
    turnOf (told ++ effects.map (now, ·)) v = some now := by
  -- After a turn at this moment there can only be another one at this moment.
  have hlist : ∀ (effects : List RelayEffect) (since : Option Nat),
      .receiving v ∈ effects ∨ since = some now →
      (effects.map (now, ·)).foldl (fun since entry =>
        if entry.2 = .receiving v then some entry.1 else since) since = some now := by
    intro effects
    induction effects with
    | nil => exact fun since h => h.resolve_left List.not_mem_nil
    | cons f rest ih =>
      intro since h
      apply ih
      by_cases hf : f = .receiving v
      · exact .inr (if_pos hf)
      · refine h.imp (fun hmem => (List.mem_cons.mp hmem).resolve_left (Ne.symm hf)) fun hsince => ?_
        exact (if_neg hf).trans hsince
  rw [turnOf, List.foldl_append]
  exact hlist effects _ (.inl h)

/-- A turn was recorded at its moment. -/
theorem mem_of_turnOf {start : Nat} (h : told.turnOf v = some start) :
    (start, .receiving v) ∈ told := by
  induction told using List.reverseRecOn with
  | nil => cases h
  | append_singleton told entry ih =>
    rw [turnOf, List.foldl_append, List.foldl_cons, List.foldl_nil] at h
    split at h
    · next hentry =>
      obtain rfl := Option.some.inj h
      exact List.mem_append_right _ (List.mem_singleton.mpr (by rw [← hentry]))
    · exact List.mem_append_left _ (ih h)

end Record

/-! ## Moments told by turns -/

/-- The moment of a visit, if it runs, is told by its turn. -/
def Record.Tells (told : Record) (timeout v : Nat) (w : Option Visit) : Prop :=
  ∀ u due, w = some u → u.due? = some due → (told.turnOf v).map (· + timeout) = some due

/-- The moment of every visit that runs is told by its turn. -/
def Told (told : Record) (r : Relay) : Prop := ∀ v, told.Tells r.inboundTimeout v (r.visit? v)

theorem receiving_mem_iff {effects : List RelayEffect} :
    .receiving v ∈ effects ↔ .receiving v ∈ voiced v effects := by
  simp [voiced, RelayEffect.isVoiced]

namespace Record.Tells

variable {told : Record} {c : Setup} {w w' : Option Visit} {effects : List RelayEffect}
  {now timeout : Nat}

/-- A visit of which nothing is heard keeps the moment that it has. -/
theorem quiet (h : told.Tells timeout v w) (hquiet : voiced v effects = [])
    (hkept : ∀ u due, w' = some u → u.due? = some due → ∃ u, w = some u ∧ u.due? = some due) :
    Record.Tells (told ++ effects.map (now, ·)) timeout v w' := by
  intro u due hu hdue
  obtain ⟨u', hu', hdue'⟩ := hkept u due hu hdue
  rw [turnOf_append_of_quiet (by rw [receiving_mem_iff, hquiet]; simp)]
  exact h u' due hu' hdue'

/-- Where a visit has the moment that it had or one that is set now, a turn tells it. -/
theorem turn (h : told.Tells timeout v w) (hturn : Turn c v w effects w')
    (hdues : ∀ u due, w' = some u → u.due? = some due →
      due = now + timeout ∨ ∃ u, w = some u ∧ u.due? = some due) :
    Record.Tells (told ++ effects.map (now, ·)) timeout v w' := by
  cases hturn with
  | aside _ _ hquiet => exact h.quiet hquiet fun u due hu hdue => ⟨u, hu, hdue⟩
  | receive w head due' a _ hphase hscreen hone =>
    intro u due hu hdue
    have hwid : w.id = v := by
      have hmem : RelayEffect.receiving w.id ∈ voiced v effects := hone ▸ List.mem_singleton_self _
      simpa [RelayEffect.isVoiced] using (List.mem_filter.mp hmem).2
    rw [turnOf_append_of_mem (by rw [receiving_mem_iff, hone, hwid]; simp)]
    -- Before its turn the visit had no moment.
    rcases hdues u due hu hdue with rfl | ⟨u', hu', hdue'⟩
    · rfl
    · obtain rfl := Option.some.inj hu'
      simp [Visit.due?, hphase] at hdue'
  | dismiss => exact fun u due hu => by cases hu

theorem stride {o : RelayOccurrence} (h : told.Tells timeout v w) (hstride : Stride c v o w effects w')
    (hdues : ∀ u due, w' = some u → u.due? = some due →
      due = now + timeout ∨ ∃ u, w = some u ∧ u.due? = some due) :
    Record.Tells (told ++ effects.map (now, ·)) timeout v w' := by
  cases hstride with
  | turn w w' effects hturn => exact h.turn hturn hdues
  | grow w due a body p effects ho hphase hquiet =>
    refine h.quiet hquiet fun u due' hu hdue => ⟨w, rfl, ?_⟩
    obtain rfl := Option.some.inj hu
    simpa [Visit.due?, hphase] using hdue
  | exchange w due a body i t effects ho hphase _ _ hquiet =>
    refine h.quiet hquiet fun u due' hu hdue => ⟨w, rfl, ?_⟩
    obtain rfl := Option.some.inj hu
    simpa [Visit.due?, hphase] using hdue
  | refuse | conclude | breakOff | abandon => exact fun u due hu => by cases hu

end Record.Tells

/-- A visit has the moment that it had, or has just got its turn. -/
theorem dues_of_step (htied : r.Tied) (hout : (RelayOccurrence.event ev).isOutside = true)
    (hev : ∀ duration, ev ≠ .elapse duration) (u : Visit) (due : Nat)
    (hu : (r.step ev).1.visit? v = some u) (hdue : u.due? = some due) :
    due = r.now + r.inboundTimeout ∨ ∃ u, r.visit? v = some u ∧ u.due? = some due := by
  have hschedules := step_schedules r hout hev
  refine (hschedules.dues u (mem_of_visit? hu) due hdue).imp_right ?_
  rintro ⟨w, hw, hid, hdue'⟩
  refine ⟨w, ?_, hdue'⟩
  rw [← id_of_visit? hu, ← hid]
  exact visit?_of_mem htied.distinct hw

namespace Told

variable {told : Record}

/-- Where nothing happens to the visits and nothing is said, nothing has to be told. -/
theorem still (h : r.Told told) (out : Outcome) (hvisits : out.1.visits = r.visits)
    (htimeout : out.1.inboundTimeout = r.inboundTimeout) (hquiet : out.2 = []) :
    out.1.Told (told ++ out.2.map (r.now, ·)) := by
  intro v
  rw [visit?, hvisits, htimeout, hquiet, List.map_nil, List.append_nil]
  exact h v

theorem step (h : r.Told told) (htied : r.Tied) (hout : (RelayOccurrence.event ev).isOutside = true)
    (hev : ∀ duration, ev ≠ .elapse duration) :
    (r.step ev).1.Told (told ++ (r.step ev).2.map (r.now, ·)) := by
  intro v
  have htimeout : (r.step ev).1.inboundTimeout = r.inboundTimeout :=
    inboundTimeout_occur hout
  rw [htimeout]
  have hdues := dues_of_step (v := v) htied hout hev
  by_cases harrives : ∃ head, ev = .arrive v head
  · obtain ⟨head, rfl⟩ := harrives
    cases hw : r.visit? v with
    | none =>
      have harrived : told.Tells r.inboundTimeout v (some ⟨v, head.method, .waiting head⟩) := by
        intro u due hu hdue
        obtain rfl := Option.some.inj hu
        cases hdue
      refine harrived.turn (arrive_turn htied.distinct hw head) fun u due hu hdue => ?_
      exact (hdues u due hu hdue).imp_right fun hhad => absurd hhad (by simp [hw])
    | some w =>
      -- Nobody arrives under a number that is taken.
      have hnothing : r.step (.arrive v head) = (r, []) := by simp [Relay.step, hw]
      rw [hnothing, List.map_nil, List.append_nil]
      exact h v
  · have hstride := occur_stride htied (.event ev) hout fun head heq =>
      harrives ⟨head, RelayOccurrence.event.inj heq⟩
    exact (h v).stride hstride hdues

/-- **An occurrence keeps every moment told.** -/
theorem occur (h : r.Told told) (htied : r.Tied) (hout : o.isOutside = true) :
    (r.occur o).1.Told (told ++ (r.occur o).2.map (r.now, ·)) := by
  cases o with
  | delay duration => exact h.still (r.occur (.delay duration)) rfl rfl rfl
  | event ev =>
    by_cases helapse : ∃ duration, ev = .elapse duration
    · obtain ⟨duration, rfl⟩ := helapse
      refine h.still (r.step (.elapse duration)) ?_ ?_ ?_ <;>
        simp only [Relay.step] <;> split <;> rfl
    · exact h.step htied hout fun duration heq => helapse ⟨duration, heq⟩

theorem history (h : r.Told told) (htied : r.Tied)
    (hout : ∀ o ∈ os, o.isOutside = true) : (r.history os).1.Told (told ++ r.record os) := by
  induction os generalizing r told with
  | nil => rwa [record, List.append_nil]
  | cons o rest ih =>
    obtain ⟨ho, hrest⟩ := List.forall_mem_cons.mp hout
    rw [record, ← List.append_assoc]
    exact ih (h.occur htied ho) (htied.occur o ho) hrest

end Told

/-- **The moment at which a visit has taken too long is told by its turn**, whatever has happened
since the relay was built. -/
theorem due_of_build {config : Config} {certificates : List Gateway.Certificate}
    (hbuild : build config certificates = .ok r₀) (hout : ∀ o ∈ os, o.isOutside = true)
    {due : Nat} (hw : (r₀.history os).1.visit? v = some w) (hdue : w.due? = some due) :
    ∃ start, (r₀.record os).turnOf v = some start ∧ start ≤ (r₀.history os).1.now ∧
      due = start + inboundTimeoutOf (.ofConfig config) config.timeouts.requestMs.toNat := by
  have hfresh := isFresh_of_build hbuild
  have htold : r₀.Told [] := by
    intro v w due hw
    rw [visit?, hfresh.visits] at hw
    cases hw
  have hlater := htold.history hfresh.tied hout v w due hw hdue
  rw [List.nil_append, inboundTimeout_history hout] at hlater
  obtain ⟨start, hstart, rfl⟩ := Option.map_eq_some_iff.mp hlater
  obtain ⟨routes, -, rfl⟩ := eq_of_build hbuild
  exact ⟨start, hstart, le_now_of_mem_record (Record.mem_of_turnOf hstart), rfl⟩

end Relay

end ObliviousRelay
