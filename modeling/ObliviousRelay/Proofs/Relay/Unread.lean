import ObliviousRelay.Proofs.Relay.Life

/-!
# What is not read of a request

Of the head of a request a relay reads the method, the path and three header fields, each the first
of its name. Of an upload that is not complete it reads nothing: only where a piece comes, and where
the upload is declared complete, does the body matter.

To blank a visit is to strike out the rest: the other header fields while it waits, and what has come
of its body. All else that a relay does, it does to the blanked relay in the same way.

- `Fields.first?_seen` and `Inbound.screen_seen`: what is struck out of a head is not read.
- `Relay.step_blank`: a relay and its blanked one do the same.
- `Relay.exchange_congr`: a complete body is read as a whole.
-/

namespace ObliviousRelay

namespace Http

/-! ## Heads -/

/-- The first field of each of some names. -/
def Fields.seen (names : List FieldName) (fields : Fields) : Fields :=
  names.filterMap fun name => (fields.first? name).map (⟨name, ·⟩)

theorem Fields.first?_seen (names : List FieldName) (fields : Fields) (name : FieldName) :
    Fields.first? (fields.seen names) name = if name ∈ names then fields.first? name else none := by
  induction names with
  | nil => rfl
  | cons other rest ih =>
    -- The field of the first name stands in front, if there is one.
    cases hother : fields.first? other with
    | none =>
      have hskip : fields.seen (other :: rest) = fields.seen rest := by simp [seen, hother]
      rw [hskip, ih]
      by_cases h : name = other
      · subst h
        simp [hother]
      · simp [h]
    | some value =>
      have hfront : fields.seen (other :: rest) = ⟨other, value⟩ :: fields.seen rest := by
        simp [seen, hother]
      rw [hfront]
      by_cases h : name = other
      · subst h
        rw [if_pos List.mem_cons_self, hother]
        simp [first?]
      · have hne : (other == name) = false := by simpa using Ne.symm h
        simp only [first?, List.find?_cons, hne, List.mem_cons, h, false_or]
        exact ih

/-- The names of the fields that are read of a request on a route. -/
def Route.readNames (route : Route) : List FieldName :=
  [.contentType, .contentLength, route.selectorHeader]

/-- A head with only the fields that are read. -/
def RequestHead.seen (route : Route) (head : RequestHead) : RequestHead :=
  { head with fields := head.fields.seen route.readNames }

/-- **The first fields of three names are all that is read of a head**, besides method and path. -/
theorem Inbound.screen_seen (route : Route) (head : RequestHead) :
    screen route (head.seen route) = screen route head := by
  have hfirst : ∀ name ∈ route.readNames,
      Fields.text? (head.seen route).fields name = head.fields.text? name := by
    intro name hname
    rw [Fields.text?, RequestHead.seen, Fields.first?_seen, if_pos hname, Fields.text?]
  have htype := hfirst .contentType (by simp [Route.readNames])
  have hlength := hfirst .contentLength (by simp [Route.readNames])
  have hselector := hfirst route.selectorHeader (by simp [Route.readNames])
  have hrest : ∀ rest, Selector.ofRest? rest (head.seen route).fields route.selectorHeader =
      Selector.ofRest? rest head.fields route.selectorHeader := by
    intro rest
    simp only [Selector.ofRest?, Selector.ofHeader, hselector]
  simp only [screen, Selector.ofRequest?, hrest, declaredType?, declaresTooMuch, declaredLength?,
    htype, hlength]
  rfl

end Http

/-! ## Visits -/

variable (route : Http.Route) (v : Nat)

/-- A phase without what is not read of it. -/
def VisitPhase.blank : VisitPhase → VisitPhase
  | .waiting head => .waiting (head.seen route)
  | .uploading due a _ => .uploading due a []
  | .exchanging due g m => .exchanging due g m

/-- A visit without what is not read of it, if it is the one of a number. -/
def Visit.blank (w : Visit) : Visit :=
  if w.id = v then { w with phase := w.phase.blank route } else w

namespace Visit

variable (w : Visit)

@[simp] theorem id_blank : (w.blank route v).id = w.id := by
  unfold blank; split <;> rfl

@[simp] theorem method_blank : (w.blank route v).method = w.method := by
  unfold blank; split <;> rfl

theorem phase_blank :
    (w.blank route v).phase = if w.id = v then w.phase.blank route else w.phase := by
  unfold blank; split <;> rfl

theorem blank_of_ne (h : w.id ≠ v) : w.blank route v = w := if_neg h

@[simp] theorem isRunning_blank : (w.blank route v).isRunning = w.isRunning := by
  unfold blank
  split
  · cases h : w.phase <;> simp [isRunning, VisitPhase.blank, h]
  · rfl

@[simp] theorem due?_blank : (w.blank route v).due? = w.due? := by
  unfold blank
  split
  · cases h : w.phase <;> simp [due?, VisitPhase.blank, h]
  · rfl

end Visit

/-- An event without what is not read of the request that it brings. -/
def RelayEvent.seen : RelayEvent → RelayEvent
  | .arrive u head => .arrive u (if u = v then head.seen route else head)
  | ev => ev

/-- The same for an occurrence. -/
def RelayOccurrence.seen : RelayOccurrence → RelayOccurrence
  | .event ev => .event (ev.seen route v)
  | .delay duration => .delay duration

namespace Relay

/-- A relay without what is not read of one visit. -/
def blank (r : Relay) : Relay := { r with visits := r.visits.map (·.blank route v) }

/-- The same for a relay and what led to it brought about. -/
def Outcome.blank (o : Outcome) : Outcome := (o.1.blank route v, o.2)

variable (r : Relay) (w : Visit)

/-! ## Operations -/

theorem visit?_blank (u : Nat) :
    (r.blank route v).visit? u = (r.visit? u).map (·.blank route v) := by
  have hid : (fun w : Visit => decide (w.id = u)) ∘ (fun w : Visit => w.blank route v) =
      fun w => decide (w.id = u) := by
    funext w
    simp
  simp only [visit?, blank, List.find?_map, hid]

theorem running_blank : (r.blank route v).running = r.running := by
  simp only [running, blank, List.countP_map]
  congr 1
  funext w
  simp

theorem erase_blank (u : Nat) : (r.blank route v).erase u = (r.erase u).blank route v := by
  simp only [erase, blank, List.filter_map]
  congr 2
  apply List.filter_congr
  intro w _
  simp

/-- A visit is moved to a phase in which nothing is left to blank. -/
theorem setPhase_blank (u : Nat) {p : VisitPhase} (h : p.blank route = p) :
    (r.blank route v).setPhase u p = (r.setPhase u p).blank route v := by
  simp only [setPhase, blank, List.map_map]
  congr 1
  apply List.map_congr_left
  intro w _
  by_cases hw : w.id = u
  · subst hw
    by_cases hv : w.id = v <;> simp [Visit.blank, hv, h]
  · simp [hw]

/-- A visit other than the blanked one is moved to a phase. -/
theorem setPhase_blank_of_ne {u : Nat} (hu : u ≠ v) (p : VisitPhase) :
    (r.blank route v).setPhase u p = (r.setPhase u p).blank route v := by
  simp only [setPhase, blank, List.map_map]
  congr 1
  apply List.map_congr_left
  intro w _
  by_cases hw : w.id = u
  · subst hw
    simp [Visit.blank, hu]
  · simp [hw]

theorem reply_blank (response : Http.Response) :
    (r.blank route v).reply (w.blank route v) response =
      (r.reply w response).blank route v := by
  simp only [reply, Outcome.blank, Visit.id_blank, Visit.method_blank, erase_blank]

theorem conclude_blank (result : Except Failure Message) :
    (r.blank route v).conclude (w.blank route v) result =
      (r.conclude w result).blank route v :=
  reply_blank route v { r with metrics := r.metrics.countExchange (Metrics.outcomeOf result) } w _

/-- What goes on in the same way may be gone on to. -/
theorem andThen_blank {o : Outcome} {next next' : Relay → Outcome}
    (h : next' (o.1.blank route v) = (next o.1).blank route v) :
    (o.blank route v).andThen next' = (o.andThen next).blank route v := by
  simp only [andThen_eq, Outcome.blank, h]

/-! ## Turns -/

/-- **A waiting visit gets its turn by what is read of its head.** -/
theorem start_blank {head head' : Http.RequestHead} (hroute : r.route = route)
    (hmethod : head'.method = head.method) (hpath : head'.path = head.path)
    (hscreen : Http.Inbound.screen route head' = Http.Inbound.screen route head) :
    (r.blank route v).start (w.blank route v) head' = (r.start w head).blank route v := by
  obtain ⟨method, path, fields⟩ := head
  obtain ⟨method', path', fields'⟩ := head'
  obtain rfl : method' = method := hmethod
  obtain rfl : path' = path := hpath
  have hscreen' : Http.Inbound.screen (r.blank route v).route ⟨method', path', fields'⟩ =
      Http.Inbound.screen r.route ⟨method', path', fields⟩ := by
    show Http.Inbound.screen r.route _ = _
    rw [hroute]
    exact hscreen
  have hfind : (r.blank route v).routes.find? method' path' = r.routes.find? method' path' := rfl
  simp only [start, hfind, hscreen']
  -- Both find the same handler, and the relay's screens them alike.
  cases r.routes.find? method' path' with
  | none => exact reply_blank route v r w _
  | some handler =>
    cases handler with
    | health => exact reply_blank route v r w _
    | relay =>
      cases Http.Inbound.screen r.route ⟨method', path', fields⟩ with
      | error f => exact conclude_blank route v r w _
      | ok a =>
        simp only [Outcome.blank, Visit.id_blank]
        rw [← setPhase_blank route v r w.id rfl]
        rfl

theorem startIfFree_blank (hroute : r.route = route) :
    (r.blank route v).startIfFree (w.blank route v) = (r.startIfFree w).blank route v := by
  have hfree : ((r.blank route v).running < (r.blank route v).maxInflight) =
      (r.running < r.maxInflight) := by
    rw [running_blank]
    rfl
  have hphase := Visit.phase_blank route v w
  -- Whether one more may run is not up to what is blanked.
  cases hw : w.phase with
  | waiting head =>
    rw [hw] at hphase
    by_cases hv : w.id = v
    · rw [if_pos hv, VisitPhase.blank] at hphase
      simp only [startIfFree, hphase, hw, hfree]
      split
      · exact start_blank route v r w hroute rfl rfl (Http.Inbound.screen_seen route head)
      · rfl
    · rw [if_neg hv] at hphase
      simp only [startIfFree, hphase, hw, hfree]
      split
      · exact start_blank route v r w hroute rfl rfl rfl
      · rfl
  | uploading due a body | exchanging due g m =>
    rw [hw, VisitPhase.blank] at hphase
    by_cases hv : w.id = v <;> simp only [startIfFree, hphase, hw, hv, if_true, if_false] <;> rfl

/-- **Turns are given in the same way.** -/
theorem startWaiting_blank (hroute : r.route = route) :
    (r.blank route v).startWaiting = r.startWaiting.blank route v := by
  have hlist : ∀ (ws : List Visit) (r : Relay), r.route = route →
      (r.blank route v).forAll (ws.map (·.blank route v)) startIfFree =
        (r.forAll ws startIfFree).blank route v := by
    intro ws
    induction ws with
    | nil => exact fun _ _ => rfl
    | cons w rest ih =>
      intro r hroute
      have hroute' : (r.startIfFree w).1.route = route :=
        (congrArg (·.setup.route) (frame_startIfFree r w)).trans hroute
      rw [List.map_cons, forAll_cons, forAll_cons, startIfFree_blank route v r w hroute]
      exact andThen_blank route v (ih _ hroute')
  exact hlist r.visits r hroute

/-! ## Stations -/

theorem atStation_blank (g : String) (e : Gateway.Event) :
    (r.blank route v).atStation g e = (r.atStation g e).blank route v := rfl

theorem conclusion_blank (hroute : r.route = route) (g : String)
    (result : Except Failure Message) :
    (r.blank route v).conclusion g (w.blank route v) result =
      (r.conclusion g w result).blank route v := by
  have hfirst : ((r.atStation g (.release w.id)).blank route v).andThen
      (·.conclude (w.blank route v) result) =
        ((r.atStation g (.release w.id)).andThen (·.conclude w result)).blank route v :=
    andThen_blank route v (conclude_blank route v _ w result)
  unfold conclusion
  rw [Visit.id_blank, atStation_blank, hfirst]
  exact andThen_blank route v (startWaiting_blank route v _ hroute)

theorem breakOff_blank (hroute : r.route = route) :
    (r.blank route v).breakOff (w.blank route v) = (r.breakOff w).blank route v := by
  unfold breakOff
  rw [Visit.id_blank, erase_blank]
  exact andThen_blank (o := (r.erase w.id, [.brokenOff w.id])) route v
    (startWaiting_blank route v _ hroute)

/-- What a visit sends is not blanked. -/
theorem follow_blank (hroute : r.route = route) (g : String) (f : Gateway.Effect) :
    (r.blank route v).follow g f = (r.follow g f).blank route v := by
  cases f with
  | leased x reused =>
    simp only [follow, visit?_blank]
    cases r.visit? x with
    | none => rfl
    | some w =>
      -- A message is not struck out, so the same is sent on the lease.
      by_cases hv : w.id = v <;> cases hw : w.phase <;>
        simp [Visit.blank, hv, hw, VisitPhase.blank] <;> rfl
  | replied x reply reused | failed x f =>
    simp only [follow, visit?_blank]
    cases r.visit? x with
    | none => rfl
    | some w => exact conclusion_blank route v r w hroute g _
  | overflowed x =>
    simp only [follow, visit?_blank]
    cases r.visit? x with
    | none => rfl
    | some w => exact breakOff_blank route v r w hroute
  | _ => rfl

theorem station_blank (hroute : r.route = route) (g : String) (e : Gateway.Event) :
    (r.blank route v).station g e = (r.station g e).blank route v := by
  have hlist : ∀ (fs : List Gateway.Effect) (r : Relay), r.route = route →
      (r.blank route v).forAll fs (·.follow g ·) = (r.forAll fs (·.follow g ·)).blank route v := by
    intro fs
    induction fs with
    | nil => exact fun _ _ => rfl
    | cons f rest ih =>
      intro r hroute
      have hroute' : (r.follow g f).1.route = route :=
        (congrArg (·.setup.route) (frame_follow r g f)).trans hroute
      rw [forAll_cons, forAll_cons, follow_blank route v r hroute]
      exact andThen_blank route v (ih _ hroute')
  simp only [station]
  rw [atStation_blank]
  exact andThen_blank route v (hlist _ _ hroute)

/-! ## Uploads -/

/-- What is refused is refused in the same way. -/
theorem refuse_blank (hroute : r.route = route) (f : Failure) :
    ((r.blank route v).conclude (w.blank route v) (.error f)).andThen startWaiting =
      ((r.conclude w (.error f)).andThen startWaiting).blank route v := by
  rw [conclude_blank]
  exact andThen_blank route v (startWaiting_blank route v _ hroute)

/-- **A complete body is read as a whole**, however it was cut. -/
theorem exchange_congr {body body' : Http.Body} (due : Nat) (a : Http.Admission)
    (h : body'.collect r.route.maxBodySize = body.collect r.route.maxBodySize) :
    r.exchange w due a body' = r.exchange w due a body := by
  have hreceive : Http.Inbound.receive r.route a body' = Http.Inbound.receive r.route a body := by
    rw [Http.Inbound.receive, Http.Inbound.receive, h]
  rw [exchange, exchange, hreceive]

theorem exchange_blank (hroute : r.route = route) (due : Nat) (a : Http.Admission)
    (body : Http.Body) :
    (r.blank route v).exchange (w.blank route v) due a body =
      (r.exchange w due a body).blank route v := by
  have hrefuse := refuse_blank route v r w hroute
  have hreceive : Http.Inbound.receive (r.blank route v).route a body =
      Http.Inbound.receive r.route a body := rfl
  have hengine : (r.blank route v).engine = r.engine := rfl
  have hclient : (r.blank route v).client = r.client := rfl
  simp only [exchange, hreceive, hengine, hclient, Visit.id_blank]
  -- Nothing that decides what becomes of the upload was struck out.
  cases hreceived : Http.Inbound.receive r.route a body with
  | error f => exact hrefuse f
  | ok i =>
    cases hprepared : r.engine.prepare i.selector i.message with
    | error f =>
      simp only [hprepared, bind, Except.bind]
      exact hrefuse f
    | ok t =>
      simp only [hprepared, bind, Except.bind, pure, Except.pure]
      cases r.client.stationFor t with
      | error f => exact hrefuse f
      | ok s =>
        simp only
        rw [setPhase_blank route v r w.id rfl]
        exact station_blank route v (r.setPhase w.id (.exchanging due t.name i.message)) hroute _ _

theorem receivePiece_blank_of_ne (hroute : r.route = route) (hv : w.id ≠ v) (due : Nat)
    (a : Http.Admission) (body : Http.Body) :
    (r.blank route v).receivePiece w due a body = (r.receivePiece w due a body).blank route v := by
  have hbound : (r.blank route v).route = r.route := rfl
  simp only [receivePiece, hbound]
  split
  · have hrefuse := refuse_blank route v r w hroute (.malformedMessage .tooLarge)
    rwa [Visit.blank_of_ne route v w hv] at hrefuse
  · rw [setPhase_blank_of_ne route v r hv]
    rfl

theorem abandon_blank :
    (r.blank route v).abandon (w.blank route v) = (r.abandon w).blank route v := by
  have hphase := Visit.phase_blank route v w
  cases hw : w.phase with
  | waiting head | uploading due a body | exchanging due g m =>
    rw [hw, VisitPhase.blank] at hphase
    by_cases hv : w.id = v <;>
      simp only [abandon, hphase, hw, hv, if_true, if_false, Visit.id_blank, erase_blank] <;> rfl

/-! ## Occurrences -/

theorem mayElapse_blank (moment : Nat) :
    (r.blank route v).mayElapse moment = r.mayElapse moment := by
  simp only [mayElapse, blank, List.all_map]
  congr 2
  funext w
  simp

/-- **A relay and its blanked one do the same**, except where the body of the visit is read. -/
theorem step_blank (hroute : r.route = route) (ev : RelayEvent) (hpiece : ∀ p, ev ≠ .piece v p)
    (huploaded : ev ≠ .uploaded v) :
    (r.blank route v).step (ev.seen route v) = (r.step ev).blank route v := by
  cases ev with
  | arrive u head =>
    simp only [step, RelayEvent.seen, visit?_blank, Option.isSome_map]
    split
    · rfl
    · -- The arrival itself is blanked: the visit joins the others with what is read of its head.
      have happend : ({ r.blank route v with visits := (r.blank route v).visits ++
          [⟨u, (if u = v then head.seen route else head).method,
            .waiting (if u = v then head.seen route else head)⟩] } : Relay) =
          ({ r with visits := r.visits ++ [⟨u, head.method, .waiting head⟩] } : Relay).blank
            route v := by
        by_cases hu : u = v
        · simp [blank, Visit.blank, VisitPhase.blank, hu]
          rfl
        · simp [blank, Visit.blank, hu]
      rw [happend]
      exact startWaiting_blank route v _ hroute
  | piece u p =>
    have hne : u ≠ v := fun heq => hpiece p (by rw [heq])
    simp only [step, RelayEvent.seen, visit?_blank]
    cases hw : r.visit? u with
    | none => rfl
    | some w =>
      obtain rfl := id_of_visit? hw
      simp only [Option.map_some, Visit.blank_of_ne route v w hne]
      split
      · exact receivePiece_blank_of_ne route v r w hroute hne _ _ _
      · rfl
  | uploaded u =>
    have hne : u ≠ v := fun heq => huploaded (by rw [heq])
    simp only [step, RelayEvent.seen, visit?_blank]
    cases hw : r.visit? u with
    | none => rfl
    | some w =>
      obtain rfl := id_of_visit? hw
      simp only [Option.map_some, Visit.blank_of_ne route v w hne]
      split
      · have hexchange := exchange_blank route v r w hroute
        rw [Visit.blank_of_ne route v w hne] at hexchange
        exact hexchange _ _ _
      · rfl
  | leave u =>
    simp only [step, RelayEvent.seen, visit?_blank]
    cases hw : r.visit? u with
    | none => rfl
    | some w =>
      simp only [Option.map_some, abandon_blank]
      exact andThen_blank route v (startWaiting_blank route v _
        ((congrArg (·.setup.route) (frame_abandon r w)).trans hroute))
  | late u =>
    simp only [step, RelayEvent.seen, visit?_blank]
    cases hw : r.visit? u with
    | none => rfl
    | some w =>
      have hnow : (r.blank route v).now = r.now := rfl
      simp only [Option.map_some, Visit.due?_blank, Visit.method_blank, hnow]
      split
      · have hfirst : ((r.blank route v).abandon (w.blank route v)).andThen
            (fun r => (r, [.answered u (Http.Response.tooLate.forMethod w.method)])) =
              ((r.abandon w).andThen fun r =>
                (r, [.answered u (Http.Response.tooLate.forMethod w.method)])).blank route v := by
          rw [abandon_blank]
          exact andThen_blank route v rfl
        rw [hfirst]
        exact andThen_blank route v (startWaiting_blank route v _
          ((congrArg (·.setup.route) (frame_abandon r w)).trans hroute))
      · rfl
  | station g e =>
    cases e with
    | elapse duration => rfl
    | _ => exact station_blank route v r hroute g _
  | elapse duration =>
    have hnow : (r.blank route v).now = r.now := rfl
    simp only [step, RelayEvent.seen, hnow, mayElapse_blank]
    split <;> rfl

end Relay

end ObliviousRelay
