import ObliviousRelay.Proofs.Relay.Gauges
import ObliviousRelay.Proofs.Relay.Tunnel

/-!
# What the exchange counters tell

A relay counts the exchanges that its handler has answered, each under a label. The label says no
less than the status of the answer, and nothing but answers of the handler is counted: no probe, no
path without a route, no visit that left or took too long.

- `Metrics.statusOf?` is the status that a label stands for; `Metrics.IsTrueOf`.
- `Relay.handlerAnswers` are the answers of the handler in the course of a history.
- `Relay.Accounts`: what an operation counts are the answers of the handler that it gives.
- `Relay.exchange_counters_true`: the counters in every state that a relay reaches.
-/

namespace ObliviousRelay

open Gateway (Effect)

/-! ## Labels and statuses -/

namespace Metrics

/-- A failure of each kind that has a label of its own. -/
def failureKinds : List Failure :=
  [.malformedMessage .tooLarge, .malformedMessage .empty, .unsupportedMediaType, .methodNotAllowed,
    .unknownGateway, .policyViolation, .gatewayBusy, .gatewayTimeout, .gatewayUnreachable "",
    .gatewayError ""]

/-- The status that a label stands for, if it is a label of exchanges. -/
def statusOf? (label : String) : Option Http.Status :=
  (("ok", Http.Status.ok) :: failureKinds.map fun f => (f.outcome, Http.statusOf f)).lookup label

/-- A label tells the truth about an answer: it stands for the answer's status, and is the label of
success just when the answer is one. -/
structure IsTrueOf (label : String) (response : Http.Response) : Prop where
  status : statusOf? label = some response.status
  ok : label = "ok" ↔ response.status = .ok

theorem statusOf?_outcome (f : Failure) : statusOf? f.outcome = some (Http.statusOf f) := by
  cases f with
  | malformedMessage fault => cases fault <;> rfl
  | _ => rfl

theorem outcome_ne_ok (f : Failure) : f.outcome ≠ "ok" := by
  intro hok
  -- Otherwise a failure would be answered with success.
  have hstatus := statusOf?_outcome f
  rw [hok] at hstatus
  exact Http.statusOf_ne_ok f (Option.some.inj hstatus).symm

/-- **The label of a result is true of its answer.** -/
theorem isTrueOf_outcomeOf (method : String) (result : Except Failure Message) :
    IsTrueOf (outcomeOf result) ((Http.Response.ofAnswer (.ofResult result)).forMethod method) := by
  cases result with
  | ok m =>
    constructor <;> rw [Http.Response.status_forMethod]
    · rfl
    · exact iff_of_true rfl rfl
  | error f =>
    constructor <;> rw [Http.Response.status_forMethod]
    · exact statusOf?_outcome f
    · exact iff_of_false (outcome_ne_ok f) (Http.statusOf_ne_ok f)

/-! ## Counting -/

/-- The series after some labels were counted. -/
def tally (series : List (String × Nat)) (labels : List String) : List (String × Nat) :=
  labels.foldl (fun series label => adjust label (· + 1) 0 series) series

/-- How many exchanges were counted under a label. -/
def exchangesAt (m : Metrics) (label : String) : Nat := value label 0 m.exchanges

/-- How many exchanges were counted under the labels of a kind. -/
def exchangesWhere (m : Metrics) (p : String → Bool) : Nat :=
  ((m.exchanges.filter (p ·.1)).map (·.2)).sum

/-- To count one more under a label adds one to the labels of its kind. -/
theorem sum_adjust (p : String → Bool) (label : String) (series : List (String × Nat)) :
    (((adjust label (· + 1) 0 series).filter (p ·.1)).map (·.2)).sum =
      ((series.filter (p ·.1)).map (·.2)).sum + if p label then 1 else 0 := by
  induction series with
  | nil => cases h : p label <;> simp [adjust, h]
  | cons entry rest ih =>
    obtain ⟨k, n⟩ := entry
    rw [adjust]
    by_cases hk : k = label
    · subst hk
      cases h : p k <;> simp [h]
      omega
    · rw [if_neg (by simpa using hk)]
      cases h : p k <;> simp [h, ih]
      omega

theorem value_tally (series : List (String × Nat)) (labels : List String) (label : String) :
    value label 0 (tally series labels) = value label 0 series + labels.count label := by
  induction labels generalizing series with
  | nil => rfl
  | cons first rest ih =>
    rw [tally, List.foldl_cons, ← tally, ih, value_adjust, List.count_cons]
    by_cases h : label = first
    · simp [h]
      omega
    · simp [h, Ne.symm h]

theorem sum_tally (p : String → Bool) (series : List (String × Nat)) (labels : List String) :
    (((tally series labels).filter (p ·.1)).map (·.2)).sum =
      ((series.filter (p ·.1)).map (·.2)).sum + labels.countP p := by
  induction labels generalizing series with
  | nil => rfl
  | cons first rest ih =>
    rw [tally, List.foldl_cons, ← tally, ih, sum_adjust, List.countP_cons]
    omega

variable {m m' : Metrics} {labels : List String}

theorem exchangesAt_of_tally (h : m'.exchanges = tally m.exchanges labels) (label : String) :
    m'.exchangesAt label = m.exchangesAt label + labels.count label := by
  rw [exchangesAt, h, value_tally, exchangesAt]

theorem exchangesWhere_of_tally (h : m'.exchanges = tally m.exchanges labels)
    (p : String → Bool) : m'.exchangesWhere p = m.exchangesWhere p + labels.countP p := by
  rw [exchangesWhere, h, sum_tally, exchangesWhere]

theorem tally_append (series : List (String × Nat)) (labels more : List String) :
    tally series (labels ++ more) = tally (tally series labels) more :=
  List.foldl_append

/-- What happens at a station is no exchange. -/
theorem exchanges_observed (m : Metrics) (g : String) (effects : List Effect) :
    (effects.foldl (·.observe g ·) m).exchanges = m.exchanges := by
  induction effects generalizing m with
  | nil => rfl
  | cons f rest ih =>
    rw [List.foldl_cons, ih]
    cases f <;> rfl

end Metrics

/-! ## Answers of the handler -/

/-- Whether a visit is the handler's: it has come there, or its head leads there. -/
def Visit.isHandled (routes : Http.Routes) (w : Visit) : Bool :=
  match w.phase with
  | .waiting head => routes.find? head.method head.path = some .relay
  | _ => true

/-- The answers that go to some visits. -/
def answersTo (ours : Nat → Bool) (effects : List RelayEffect) : List Http.Response :=
  effects.filterMap fun
    | .answered v response => if ours v then some response else none
    | _ => none

@[simp] theorem answersTo_append (ours : Nat → Bool) (effects more : List RelayEffect) :
    answersTo ours (effects ++ more) = answersTo ours effects ++ answersTo ours more :=
  List.filterMap_append

@[simp] theorem answersTo_station (ours : Nat → Bool) (g : String) (fs : List Effect) :
    answersTo ours (fs.map (.station g)) = [] := by
  simp [answersTo]

namespace Relay

/-- The visit of a number that an occurrence finds or brings. -/
def met? (r : Relay) (o : RelayOccurrence) (v : Nat) : Option Visit :=
  match r.visit? v, o with
  | some w, _ => some w
  | none, .event (.arrive u head) => if u = v then some ⟨u, head.method, .waiting head⟩ else none
  | none, _ => none

/-- Whether a visit that is answered in the course of an occurrence is answered by the handler: it is
the handler's, and is not told that it took too long. -/
def isHandlers (r : Relay) (o : RelayOccurrence) (v : Nat) : Bool :=
  (r.met? o v).any (·.isHandled r.routes) && o ≠ .event (.late v)

/-- The answers that the handler gives in the course of an occurrence. -/
def handlerAnswersOf (r : Relay) (o : RelayOccurrence) : List Http.Response :=
  answersTo (r.isHandlers o) (r.occur o).2

/-- The answers that the handler gives in the course of several occurrences. -/
def handlerAnswers (r : Relay) : List RelayOccurrence → List Http.Response
  | [] => []
  | o :: rest => r.handlerAnswersOf o ++ (r.occur o).1.handlerAnswers rest

variable {r : Relay} {o : Outcome} {w : Visit} {g : String} {ours : Nat → Bool}

/-- The visits that are the handler's are told apart by their numbers. -/
def Sorts (ours : Nat → Bool) (r : Relay) : Prop :=
  ∀ w ∈ r.visits, ours w.id = w.isHandled r.routes

/-- What an operation counts are these answers, one by one and under true labels. -/
def Counts (r : Relay) (o : Outcome) (answers : List Http.Response) : Prop :=
  ∃ labels, o.1.metrics.exchanges = Metrics.tally r.metrics.exchanges labels ∧
    List.Forall₂ Metrics.IsTrueOf labels answers

/-- What an operation counts are the answers that it gives to the handler's visits, and it leaves
these visits told apart. -/
structure Accounts (ours : Nat → Bool) (r : Relay) (o : Outcome) : Prop where
  sorts : Sorts ours o.1
  counts : Counts r o (answersTo ours o.2)

theorem Counts.nothing (hsame : o.1.metrics.exchanges = r.metrics.exchanges) : Counts r o [] :=
  ⟨[], hsame, .nil⟩

theorem Counts.andThen {answers more : List Http.Response} (h : Counts r o answers)
    (next : Relay → Outcome) (hnext : Counts o.1 (next o.1) more) :
    Counts r (o.andThen next) (answers ++ more) := by
  obtain ⟨labels, hcounted, htrue⟩ := h
  obtain ⟨later, hlater, htrueLater⟩ := hnext
  refine ⟨labels ++ later, ?_, List.rel_append htrue htrueLater⟩
  rw [andThen_eq, hlater, hcounted, Metrics.tally_append]

namespace Accounts

/-- An operation that counts nothing and answers none of the handler's visits. -/
theorem nothing (hsorts : Sorts ours o.1) (hsame : o.1.metrics.exchanges = r.metrics.exchanges)
    (hno : answersTo ours o.2 = []) : Accounts ours r o :=
  ⟨hsorts, hno ▸ .nothing hsame⟩

theorem andThen (h : Accounts ours r o) (next : Relay → Outcome)
    (hnext : Accounts ours o.1 (next o.1)) : Accounts ours r (o.andThen next) where
  sorts := hnext.sorts
  counts := by
    rw [andThen_eq, answersTo_append]
    exact h.counts.andThen next hnext.counts

/-- It does not matter what else there was before. -/
theorem of_same {r' : Relay} (h : Accounts ours r' o)
    (hsame : r'.metrics.exchanges = r.metrics.exchanges) : Accounts ours r o :=
  ⟨h.sorts, by rw [Counts, ← hsame]; exact h.counts⟩

end Accounts

/-! ## Single operations -/

theorem still_accounts (h : Sorts ours r) : Accounts ours r (r, []) := .nothing h rfl rfl

/-- Whoever is left when a visit is taken away. -/
theorem sorts_erase {v : Nat} (h : ∀ w ∈ r.visits, w.id ≠ v → ours w.id = w.isHandled r.routes) :
    Sorts ours (r.erase v) := by
  intro w hw
  obtain ⟨hmem, hne⟩ := List.mem_filter.mp hw
  exact h w hmem (by simpa using hne)

/-- A visit of the handler's may be read or exchanged. -/
theorem sorts_setPhase (h : Sorts ours r) {v : Nat} (hv : ours v = true) {p : VisitPhase}
    (hp : ∀ head, p ≠ .waiting head) : Sorts ours (r.setPhase v p) := by
  intro w hw
  obtain ⟨u, hu, rfl⟩ := List.mem_map.mp hw
  split
  · next hid =>
    cases p with
    | waiting head => exact absurd rfl (hp head)
    | uploading | exchanging => exact (congrArg ours hid).trans hv
  · exact h u hu

theorem reply_accounts (h : Sorts ours r) (hw : ours w.id = false) (response : Http.Response) :
    Accounts ours r (r.reply w response) :=
  .nothing (sorts_erase fun u hu _ => h u hu) rfl (by simp [reply, answersTo, hw])

/-- **The handler counts the answer that it gives.** -/
theorem conclude_accounts (h : Sorts ours r) (hw : ours w.id = true)
    (result : Except Failure Message) : Accounts ours r (r.conclude w result) := by
  refine ⟨sorts_erase fun u hu _ => h u hu, [Metrics.outcomeOf result], rfl, ?_⟩
  have hone : answersTo ours (r.conclude w result).2 =
      [(Http.Response.ofAnswer (.ofResult result)).forMethod w.method] := by
    simp [conclude, reply, answersTo, hw]
  rw [hone]
  exact .cons (Metrics.isTrueOf_outcomeOf w.method result) .nil

theorem atStation_accounts (h : Sorts ours r) (g : String) (e : Gateway.Event) :
    Accounts ours r (r.atStation g e) :=
  .nothing h (Metrics.exchanges_observed _ g _) (by simp [effects_atStation])

/-! ## Turns -/

theorem startIfFree_accounts (h : Sorts ours r) (hw : ours w.id = w.isHandled r.routes) :
    Accounts ours r (r.startIfFree w) := by
  unfold startIfFree
  split
  · next head hphase =>
    rw [Visit.isHandled, hphase] at hw
    split
    · unfold start
      split
      -- Whom the probe or no route answers is not the handler's.
      · next hnone => exact reply_accounts h (by simpa [hnone] using hw) _
      · next hhealth => exact reply_accounts h (by simpa [hhealth] using hw) _
      · next hrelay =>
        have hhandled : ours w.id = true := by simpa [hrelay] using hw
        split
        · exact conclude_accounts h hhandled _
        · exact .nothing (sorts_setPhase h hhandled (by simp)) rfl (by simp [answersTo])
    · exact still_accounts h
  · exact still_accounts h

theorem startWaiting_accounts (h : Sorts ours r) : Accounts ours r r.startWaiting := by
  -- Each visit of the list is met as it was, and nobody's routes change.
  have hlist : ∀ (ws : List Visit) (r' : Relay), Sorts ours r' → r'.routes = r.routes →
      (∀ w ∈ ws, ours w.id = w.isHandled r.routes) → Accounts ours r' (r'.forAll ws startIfFree) := by
    intro ws
    induction ws with
    | nil => exact fun r' hsorts _ _ => still_accounts hsorts
    | cons w rest ih =>
      intro r' hsorts hroutes hall
      obtain ⟨hw, hrest⟩ := List.forall_mem_cons.mp hall
      have hfirst := startIfFree_accounts hsorts (hroutes ▸ hw)
      have hsame : (r'.startIfFree w).1.routes = r'.routes :=
        congrArg (·.setup.routes) (frame_startIfFree r' w)
      rw [forAll_cons]
      exact hfirst.andThen _ (ih _ hfirst.sorts (hsame.trans hroutes) hrest)
  exact hlist r.visits r h rfl h

theorem refuse_accounts (h : Sorts ours r) (hw : ours w.id = true) (f : Failure) :
    Accounts ours r ((r.conclude w (.error f)).andThen startWaiting) :=
  have hfirst := conclude_accounts h hw (.error f)
  hfirst.andThen startWaiting (startWaiting_accounts hfirst.sorts)

/-! ## Stations -/

theorem conclusion_accounts (h : Sorts ours r) (hw : ours w.id = true) (g : String)
    (result : Except Failure Message) : Accounts ours r (r.conclusion g w result) := by
  have hreleased := atStation_accounts h g (.release w.id)
  have hconcluded := hreleased.andThen (·.conclude w result)
    (conclude_accounts hreleased.sorts hw result)
  exact hconcluded.andThen startWaiting (startWaiting_accounts hconcluded.sorts)

/-- Whoever is broken off is not answered. -/
theorem breakOff_accounts (h : Sorts ours r) (w : Visit) : Accounts ours r (r.breakOff w) := by
  have hgone : Accounts ours r (r.erase w.id, [.brokenOff w.id]) :=
    .nothing (sorts_erase fun u hu _ => h u hu) rfl rfl
  exact hgone.andThen startWaiting (startWaiting_accounts hgone.sorts)

/-- A visit that runs is the handler's. -/
theorem isHandlers_of_running (h : Sorts ours r) {v : Nat} (hw : r.visit? v = some w)
    (hrunning : w.isRunning = true) : ours w.id = true := by
  rw [h w (List.mem_of_find?_eq_some hw), Visit.isHandled]
  unfold Visit.isRunning at hrunning
  split
  · next head hphase => simp [hphase] at hrunning
  · rfl

theorem follow_accounts (h : Sorts ours r) (g : String) {f : Effect} {x : Nat} (hx : f.about? = some x)
    (hv : r.Exchanges x g) : Accounts ours r (r.follow g f) := by
  -- The exchange is one of a visit that runs, which is the handler's.
  obtain ⟨w, due, m, hw, hphase⟩ := hv
  have hhandled := isHandlers_of_running h hw (by simp [Visit.isRunning, hphase])
  cases f with
  | leased y reused =>
    obtain rfl : y = x := Option.some.inj hx
    simp only [follow, hw, Option.map_some, hphase]
    exact atStation_accounts h g _
  | replied y reply reused =>
    obtain rfl : y = x := Option.some.inj hx
    simp only [follow, hw]
    exact conclusion_accounts h hhandled g _
  | failed y f =>
    obtain rfl : y = x := Option.some.inj hx
    simp only [follow, hw]
    exact conclusion_accounts h hhandled g _
  | overflowed y =>
    obtain rfl : y = x := Option.some.inj hx
    simp only [follow, hw]
    exact breakOff_accounts h w
  | _ => exact still_accounts h

theorem station_accounts (htied : r.Tied) (h : Sorts ours r) (g : String) (e : Gateway.Event)
    (hrequest : ∀ x timeout, e = .request x timeout → r.Exchanges x g) :
    Accounts ours r (r.station g e) := by
  have hat := atStation_accounts h g e
  rcases station_cases htied g e hrequest with ⟨-, heq⟩ | ⟨f, x, -, hx, hv, -, heq⟩
  · rw [heq]
    exact hat
  · rw [heq]
    exact hat.andThen _ (follow_accounts hat.sorts g hx hv)

/-! ## Everything that happens to a relay -/

section Occurrences

variable {ev : RelayOccurrence} {os : List RelayOccurrence}

/-- Whoever is there is the handler's by the own phase, unless told to have taken too long. -/
theorem isHandlers_of_visit (hw : r.visit? w.id = some w) (hlate : ev ≠ .event (.late w.id)) :
    r.isHandlers ev w.id = w.isHandled r.routes := by
  simp [isHandlers, met?, hw, hlate]

theorem sorts_isHandlers (hd : r.HasDistinctVisits) (hlate : ∀ v, ev ≠ .event (.late v)) :
    Sorts (r.isHandlers ev) r :=
  fun _ hw => isHandlers_of_visit (visit?_of_mem hd hw) (hlate _)

theorem exchange_accounts (htied : r.Tied) (h : Sorts ours r) (hw : r.visit? w.id = some w)
    {due : Nat} {a : Http.Admission} {body : Http.Body} (hphase : w.phase = .uploading due a body) :
    Accounts ours r (r.exchange w due a body) := by
  have hhandled := isHandlers_of_running h hw (by simp [Visit.isRunning, hphase])
  rcases r.exchange_cases w due a body with ⟨f, heq⟩ | ⟨i, t, s, -, -, -, heq⟩ <;> rw [heq]
  · exact refuse_accounts h hhandled f
  · -- The visit becomes an exchange first, so that its station's answer finds it as one.
    have hnone := htied.hasNoExchange_of_phase hw (by simp [hphase])
    have hset := htied.of_keeps (keeps_setPhase r w.id (.exchanging due t.name i.message)) hnone
    exact (station_accounts hset (sorts_setPhase h hhandled (by simp)) t.name _
      (exchanges_of_request hw due i.message t.requestTimeout)).of_same rfl

theorem abandon_accounts (h : ∀ u ∈ r.visits, u.id ≠ w.id → ours u.id = u.isHandled r.routes) :
    Accounts ours r (r.abandon w) := by
  unfold abandon
  split
  · next due gateway m hphase =>
    exact (atStation_accounts (sorts_erase h) gateway (.drop w.id)).of_same rfl
  · exact .nothing (sorts_erase h) rfl rfl

theorem arrive_accounts (hd : r.HasDistinctVisits) {v : Nat} (hnew : r.visit? v = none)
    (head : Http.RequestHead) :
    Accounts (r.isHandlers (.event (.arrive v head))) r (r.step (.arrive v head)) := by
  rw [step_arrive hnew]
  refine (startWaiting_accounts fun u hu => ?_).of_same rfl
  rcases List.mem_append.mp hu with hu | hu
  · exact sorts_isHandlers hd (by simp) u hu
  · -- Who arrives is not there yet, and is met as the occurrence brings it.
    obtain rfl := List.mem_singleton.mp hu
    simp [isHandlers, met?, hnew]

theorem late_counts (hd : r.HasDistinctVisits) (v : Nat) :
    Counts r (r.step (.late v)) (r.handlerAnswersOf (.event (.late v))) := by
  show Counts r (r.step (.late v)) (answersTo (r.isHandlers (.event (.late v))) (r.step (.late v)).2)
  have hself : r.isHandlers (.event (.late v)) v = false := by simp [isHandlers]
  simp only [step]
  split
  · next w hw =>
    obtain rfl := id_of_visit? hw
    split
    · -- The late visit counts as nobody's; all others are told apart as ever.
      have hgone : Accounts (r.isHandlers (.event (.late w.id))) r (r.abandon w) :=
        abandon_accounts fun u hu hne =>
          isHandlers_of_visit (visit?_of_mem hd hu) (by simpa using Ne.symm hne)
      have htold := hgone.andThen
        (fun r' => (r', [.answered w.id (Http.Response.tooLate.forMethod w.method)]))
        (.nothing hgone.sorts rfl (by simp [answersTo, hself]))
      exact (htold.andThen startWaiting (startWaiting_accounts htold.sorts)).counts
    · exact .nothing rfl
  · exact .nothing rfl

/-- An occurrence other than that a visit is late. -/
theorem occur_accounts (htied : r.Tied) (ev : RelayOccurrence) (hout : ev.isOutside = true)
    (hlate : ∀ v, ev ≠ .event (.late v)) : Accounts (r.isHandlers ev) r (r.occur ev) := by
  have h := sorts_isHandlers htied.distinct hlate
  cases ev with
  | delay duration => exact .nothing h rfl rfl
  | event ev =>
    show Accounts _ r (r.step ev)
    cases ev with
    | arrive v head =>
      cases hw : r.visit? v with
      | some w =>
        simp only [step, hw, Option.isSome_some, if_true]
        exact still_accounts h
      | none => exact arrive_accounts htied.distinct hw head
    | piece v p =>
      simp only [step]
      split
      · next w hw =>
        obtain rfl := id_of_visit? hw
        split
        · next due a body hphase =>
          have hhandled := isHandlers_of_running h hw (by simp [Visit.isRunning, hphase])
          unfold receivePiece
          split
          · exact refuse_accounts h hhandled _
          · exact .nothing (sorts_setPhase h hhandled (by simp)) rfl rfl
        · exact still_accounts h
      · exact still_accounts h
    | uploaded v =>
      simp only [step]
      split
      · next w hw =>
        obtain rfl := id_of_visit? hw
        split
        · next due a body hphase => exact exchange_accounts htied h hw hphase
        · exact still_accounts h
      · exact still_accounts h
    | leave v =>
      simp only [step]
      split
      · next w hw =>
        have hgone := abandon_accounts (w := w) fun u hu _ => h u hu
        exact hgone.andThen startWaiting (startWaiting_accounts hgone.sorts)
      · exact still_accounts h
    | late v => exact absurd rfl (hlate v)
    | station g e =>
      have hown : e.isOwn = false := by
        simpa [RelayOccurrence.isOutside, RelayEvent.isOutside] using hout
      have hstation := station_accounts htied h g e (exchanges_of_outside hown)
      -- A single station's clock is not moved.
      cases e with
      | elapse duration => exact still_accounts h
      | _ => exact hstation
    | elapse duration =>
      simp only [step]
      split
      · exact .nothing h rfl rfl
      · exact still_accounts h

/-- **What is counted in the course of an occurrence are the answers of the handler.** -/
theorem occur_counts (htied : r.Tied) (ev : RelayOccurrence) (hout : ev.isOutside = true) :
    Counts r (r.occur ev) (r.handlerAnswersOf ev) := by
  by_cases hlate : ∃ v, ev = .event (.late v)
  · obtain ⟨v, rfl⟩ := hlate
    exact late_counts htied.distinct v
  · exact (occur_accounts htied ev hout fun v hv => hlate ⟨v, hv⟩).counts

/-- **So it is in the course of a whole history.** -/
theorem history_counts (htied : r.Tied) (hout : ∀ o ∈ os, o.isOutside = true) :
    Counts r (r.history os) (r.handlerAnswers os) := by
  induction os generalizing r with
  | nil => exact .nothing rfl
  | cons ev rest ih =>
    obtain ⟨hev, hrest⟩ := List.forall_mem_cons.mp hout
    exact (occur_counts htied ev hev).andThen (·.history rest) (ih (htied.occur ev hev) hrest)

end Occurrences

/-! ## What the counters tell -/

theorem countP_eq_of_forall₂ {α β : Type} {R : α → β → Prop} {p : α → Bool} {q : β → Bool}
    (hpq : ∀ a b, R a b → p a = q b) {as : List α} {bs : List β} (h : List.Forall₂ R as bs) :
    as.countP p = bs.countP q := by
  induction h with
  | nil => rfl
  | cons hab _ ih => rw [List.countP_cons, List.countP_cons, ih, hpq _ _ hab]

namespace Counts

variable {answers : List Http.Response}

/-- All that was counted is as many as the answers. -/
theorem total (h : Counts r o answers) : o.1.metrics.exchangesWhere (fun _ => true) =
    r.metrics.exchangesWhere (fun _ => true) + answers.length := by
  obtain ⟨labels, hcounted, htrue⟩ := h
  rw [Metrics.exchangesWhere_of_tally hcounted, List.countP_true, htrue.length_eq]

/-- What was counted under the labels of a status is as many as the answers with it. -/
theorem ofStatus (h : Counts r o answers) (s : Http.Status) :
    o.1.metrics.exchangesWhere (Metrics.statusOf? · = some s) =
      r.metrics.exchangesWhere (Metrics.statusOf? · = some s) + answers.countP (·.status = s) := by
  obtain ⟨labels, hcounted, htrue⟩ := h
  rw [Metrics.exchangesWhere_of_tally hcounted, countP_eq_of_forall₂ _ htrue]
  intro label response htells
  simp [htells.status]

/-- What was counted as success is as many as the answers with success. -/
theorem ofOk (h : Counts r o answers) : o.1.metrics.exchangesAt "ok" =
    r.metrics.exchangesAt "ok" + answers.countP (·.status = .ok) := by
  obtain ⟨labels, hcounted, htrue⟩ := h
  rw [Metrics.exchangesAt_of_tally hcounted, List.count, countP_eq_of_forall₂ _ htrue]
  intro label response htells
  simp only [← htells.ok, beq_eq_decide]

end Counts

/-- **The exchange counters tell the truth.** For every relay that is built from a configuration,
and in every state that it reaches, whatever gateways, network, clock and clients do:

- Whatever happens next, each answer of the handler is counted once, under a label that stands for
  its status and is `ok` just for success. Nothing else is counted.
- All counters together are the answers that the handler has given, those under `ok` its successes,
  and those under the labels of a status its answers with this status. -/
theorem exchange_counters_true {c : Config} {certificates : List Gateway.Certificate} {r₀ : Relay}
    (hbuild : build c certificates = .ok r₀) {os : List RelayOccurrence}
    (hout : ∀ o ∈ os, o.isOutside = true) :
    let r := (r₀.history os).1
    (∀ o, o.isOutside = true → ∃ labels,
      List.Forall₂ Metrics.IsTrueOf labels (r.handlerAnswersOf o) ∧
        ∀ label, (r.occur o).1.metrics.exchangesAt label =
          r.metrics.exchangesAt label + labels.count label) ∧
    r.metrics.exchangesWhere (fun _ => true) = (r₀.handlerAnswers os).length ∧
    r.metrics.exchangesAt "ok" = (r₀.handlerAnswers os).countP (·.status = .ok) ∧
    ∀ s, r.metrics.exchangesWhere (Metrics.statusOf? · = some s) =
      (r₀.handlerAnswers os).countP (·.status = s) := by
  intro r
  have hfresh : r₀.Tied := (isFresh_of_build hbuild).tied
  have hcounts := history_counts hfresh hout
  have hzero : r₀.metrics = {} := by
    obtain ⟨routes, -, rfl⟩ := eq_of_build hbuild
    rfl
  refine ⟨fun o ho => ?_, ?_, ?_, fun s => ?_⟩
  · obtain ⟨labels, hcounted, htrue⟩ := occur_counts (hfresh.history hout) o ho
    exact ⟨labels, htrue, Metrics.exchangesAt_of_tally hcounted⟩
  · -- All labels together.
    rw [hcounts.total, hzero]
    exact Nat.zero_add _
  · -- The label of a success.
    rw [hcounts.ofOk, hzero]
    exact Nat.zero_add _
  · -- The labels of one status.
    rw [hcounts.ofStatus, hzero]
    exact Nat.zero_add _

/-- Of a probe, a path without a route, a request without a media type, one for an unknown gateway,
one that leaves and one that is answered with success, three are counted. -/
theorem exchange_counters_true_three :
    let post (path : String) : Http.RequestHead := { sampleHead with path }
    let atGateway (e : Gateway.Event) : RelayEvent := .station "gateway" e
    let os := [.arrive 0 ⟨"GET", "/health", []⟩, .arrive 1 (post "/nowhere"),
      .arrive 2 ⟨"POST", "/gateway", []⟩, .arrive 3 (post "/gateway/other"),
      .piece 3 (.bytes ⟨#[1]⟩), .uploaded 3, .arrive 4 (post "/gateway"), .leave 4,
      .arrive 5 (post "/gateway"), .piece 5 (.bytes ⟨#[1]⟩), .uploaded 5, atGateway (.proceed 5),
      atGateway (.connected 5), atGateway (.ready 5),
      atGateway (.answered 5 ⟨200⟩ (some "message/ohttp-res")), atGateway (.received 5 ⟨#[2]⟩),
      atGateway (.ended 5)].map RelayOccurrence.event
    (sampleBuilt.handlerAnswers os).map (·.status) = [.unsupportedMediaType, .notFound, .ok] ∧
      (sampleBuilt.history os).1.metrics.exchangesWhere (fun _ => true) = 3 ∧
      (sampleBuilt.history os).1.metrics.exchangesAt "ok" = 1 := by
  intro post atGateway os
  have hout : ∀ o ∈ os, o.isOutside = true := by decide
  have hstatuses : (sampleBuilt.handlerAnswers os).map (·.status) =
      [.unsupportedMediaType, .notFound, .ok] := by decide +kernel
  obtain ⟨-, htotal, hok, -⟩ := exchange_counters_true build_sampleConfig hout
  refine ⟨hstatuses, ?_, ?_⟩
  · rw [htotal, ← List.length_map (·.status), hstatuses]
    rfl
  · have hsuccesses : (sampleBuilt.handlerAnswers os).countP (·.status = .ok) =
        ((sampleBuilt.handlerAnswers os).map (·.status)).countP (· = .ok) := by
      rw [List.countP_map]
      rfl
    rw [hok, hsuccesses, hstatuses]
    rfl

end Relay

end ObliviousRelay
