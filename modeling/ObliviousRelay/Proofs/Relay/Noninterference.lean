import ObliviousRelay.Proofs.Http.Inbound
import ObliviousRelay.Proofs.Relay.Delivery
import ObliviousRelay.Proofs.Relay.Unread

/-!
# Two requests that look alike

Two requests look alike if they agree on what is read of them. In two runs of a relay that differ in
nothing but which of two such requests comes, and in how its body is cut into pieces and when these
come, everybody sees the same.

The two runs are compared where something else than a piece happens. There the blanked relays are
the same, and the relay has read of the body what has come of it (`Reads`).

- `Recut`: two courses of events that bring the same body, each in pieces of its own.
- `Relay.history_pieces`: what pieces do is told by the bytes that have come.
- `Relay.history_recut` and `Relay.Twins.history_eq`: the two runs have the same effects.
-/

namespace ObliviousRelay

open Http (Body Piece)

/-! ## Requests -/

/-- The head of a request as its client sends it. -/
structure Request where
  method : String
  /-- What is asked for, with a query. -/
  target : String
  fields : Http.Fields

namespace Request

/-- The head of a request as it is handed to the relay: the query is cut off. -/
def head (q : Request) : Except Http.RequestTarget.Fault Http.RequestHead :=
  (Http.RequestTarget.path q.target).map fun path => ⟨q.method, path, q.fields⟩

/-- Two requests that agree on what is read of them. -/
structure LooksLike (route : Http.Route) (q₁ q₂ : Request) : Prop where
  method : q₁.method = q₂.method
  path : Http.RequestTarget.path q₁.target = Http.RequestTarget.path q₂.target
  contentType : q₁.fields.first? .contentType = q₂.fields.first? .contentType
  contentLength : q₁.fields.first? .contentLength = q₂.fields.first? .contentLength
  selector : q₁.fields.first? route.selectorHeader = q₂.fields.first? route.selectorHeader

theorem LooksLike.seen {route : Http.Route} {q₁ q₂ : Request} (h : LooksLike route q₁ q₂)
    {head₁ head₂ : Http.RequestHead} (h₁ : q₁.head = .ok head₁) (h₂ : q₂.head = .ok head₂) :
    head₁.seen route = head₂.seen route := by
  unfold head at h₁ h₂
  rw [h.method, h.path] at h₁
  -- The path is told in both or in none, and is the same.
  cases hpath : Http.RequestTarget.path q₂.target with
  | error fault =>
    rw [hpath] at h₂
    cases h₂
  | ok path =>
    rw [hpath] at h₁ h₂
    obtain rfl := Except.ok.inj h₁
    obtain rfl := Except.ok.inj h₂
    -- Of each name that is read, only the first field counts.
    have hfirst : ∀ name ∈ route.readNames, q₁.fields.first? name = q₂.fields.first? name := by
      simp [Http.Route.readNames, h.contentType, h.contentLength, h.selector]
    have hseen : q₁.fields.seen route.readNames = q₂.fields.seen route.readNames :=
      List.filterMap_congr fun name hname => by rw [hfirst name hname]
    simp only [Http.RequestHead.seen, hseen]

end Request

/-! ## Two runs -/

/-- The pieces of a visit's body, one after the other. -/
def pieces (v : Nat) (body : Body) : List RelayOccurrence := body.map fun p => .event (.piece v p)

theorem isOutside_of_mem_pieces {v : Nat} {body : Body} {o : RelayOccurrence}
    (h : o ∈ pieces v body) : o.isOutside = true := by
  obtain ⟨p, -, rfl⟩ := List.mem_map.mp h
  rfl

/-- Two courses of events that bring the same body, each in pieces of its own, after so much of it
has come. Something else happens in both at the same time. By then neither body can be read where
the other one cannot, and where the upload is complete both are the same bytes. -/
inductive Recut (bound v : Nat) :
    Body → Body → List RelayOccurrence → List RelayOccurrence → Prop where
  | last (b₁ b₂ ps₁ ps₂ : Body)
      (hfate : (Body.collect bound (b₁ ++ ps₁)).isSome = (Body.collect bound (b₂ ++ ps₂)).isSome) :
      Recut bound v b₁ b₂ (pieces v ps₁) (pieces v ps₂)
  | next (b₁ b₂ ps₁ ps₂ : Body) (o : RelayOccurrence) (os₁ os₂ : List RelayOccurrence)
      (hpiece : ∀ p, o ≠ .event (.piece v p))
      (hfate : (Body.collect bound (b₁ ++ ps₁)).isSome = (Body.collect bound (b₂ ++ ps₂)).isSome)
      (hwhole : o = .event (.uploaded v) →
        Body.collect bound (b₁ ++ ps₁) = Body.collect bound (b₂ ++ ps₂))
      (h : Recut bound v (b₁ ++ ps₁) (b₂ ++ ps₂) os₁ os₂) :
      Recut bound v b₁ b₂ (pieces v ps₁ ++ o :: os₁) (pieces v ps₂ ++ o :: os₂)

theorem recut_of_no_piece {bound v : Nat} {b₁ b₂ : Body} {rest : List RelayOccurrence}
    (h : Body.collect bound b₁ = Body.collect bound b₂) (hrest : ∀ p, .event (.piece v p) ∉ rest) :
    Recut bound v b₁ b₂ rest rest := by
  have hsame : Body.collect bound (b₁ ++ []) = Body.collect bound (b₂ ++ []) := by simpa using h
  induction rest with
  | nil => exact .last b₁ b₂ [] [] (congrArg Option.isSome hsame)
  | cons o rest ih =>
    have hlater : Recut bound v (b₁ ++ []) (b₂ ++ []) rest rest := by
      simpa using ih fun p hp => hrest p (List.mem_cons_of_mem _ hp)
    exact .next b₁ b₂ [] [] o rest rest (fun p hp => hrest p (hp ▸ List.mem_cons_self))
      (congrArg Option.isSome hsame) (fun _ => hsame) hlater

/-- Two cuts of the same bytes, each sent as a whole. -/
theorem recut_of_joined {bound v : Nat} {chunks₁ chunks₂ : List ByteArray}
    (h : joined chunks₁ = joined chunks₂) {rest : List RelayOccurrence}
    (hrest : ∀ p, .event (.piece v p) ∉ rest) :
    Recut bound v [] [] (pieces v (chunks₁.map .bytes) ++ .event (.uploaded v) :: rest)
      (pieces v (chunks₂.map .bytes) ++ .event (.uploaded v) :: rest) := by
  have hsame :
      Body.collect bound (chunks₁.map .bytes) = Body.collect bound (chunks₂.map .bytes) := by
    rw [Body.collect_chunks, Body.collect_chunks, h]
  exact .next [] [] _ _ _ rest rest (by simp) (congrArg Option.isSome hsame) (fun _ => hsame)
    (recut_of_no_piece hsame hrest)

namespace Relay

variable {r r₁ r₂ : Relay} {v : Nat} {b b₁ b₂ : Body} {o : RelayOccurrence}
  {os os₁ os₂ past future : List RelayOccurrence}

/-- The pieces of a visit's body come only once its turn has come. -/
def SendsInTurn (r : Relay) (v : Nat) (os : List RelayOccurrence) : Prop :=
  ∀ past p rest, os = past ++ .event (.piece v p) :: rest →
    ∀ w, (r.history past).1.visit? v = some w → w.isRunning = true

theorem SendsInTurn.after (h : SendsInTurn r v (past ++ os)) :
    SendsInTurn (r.history past).1 v os := by
  rintro more p rest rfl w hw
  apply h (past ++ more) p rest (by simp) w
  rw [history_append]
  exact hw

theorem SendsInTurn.tail (h : SendsInTurn r v (o :: os)) : SendsInTurn (r.occur o).1 v os := by
  rintro past p rest rfl w hw
  exact h (o :: past) p rest rfl w hw

theorem SendsInTurn.of_append (h : SendsInTurn r v (past ++ os)) : SendsInTurn r v past := by
  rintro more p rest rfl
  exact h more p (rest ++ os) (by simp)

theorem SendsInTurn.cons {rest : List RelayOccurrence} (h : (r.occur o).1.SendsInTurn v rest)
    (ho : ∀ p, o = .event (.piece v p) → ∀ w, r.visit? v = some w → w.isRunning = true) :
    SendsInTurn r v (o :: rest) := by
  intro past p after hos w hw
  cases past with
  | nil =>
    obtain ⟨rfl, -⟩ := List.cons.inj hos
    exact ho p rfl w hw
  | cons o' past =>
    obtain ⟨rfl, rfl⟩ := List.cons.inj hos
    exact h past p after rfl w hw

theorem sendsInTurn_of_no_piece (h : ∀ p, .event (.piece v p) ∉ os) : SendsInTurn r v os := by
  rintro past p rest rfl
  exact absurd (by simp) (h p)

/-- Where pieces come next, the visit's turn has come. -/
theorem SendsInTurn.isRunning {ps : Body} (h : SendsInTurn r v (pieces v ps)) (hps : ps ≠ []) :
    ∀ w, r.visit? v = some w → w.isRunning = true := by
  obtain ⟨p, rest, rfl⟩ := List.exists_cons_of_ne_nil hps
  exact h [] p (pieces v rest) rfl

/-- What has come of a body is what the relay has read, if it reads, and nothing before. -/
def Reads (r : Relay) (v : Nat) (b : Body) : Prop :=
  ∀ w, r.visit? v = some w → (∀ head, w.phase = .waiting head → b = []) ∧
    ∀ due a body, w.phase = .uploading due a body →
      body = b ∧ (Body.collect r.route.maxBodySize b).isSome = true

/-- Refuses the body that a visit uploads, if it does. -/
def refuseBody (r : Relay) (v : Nat) : Outcome :=
  match r.visit? v with
  | some w => match w.phase with
    | .uploading _ _ _ => (r.conclude w (.error (.malformedMessage .tooLarge))).andThen startWaiting
    | _ => (r, [])
  | none => (r, [])

theorem refuseBody_blank (r : Relay) (v : Nat) :
    (r.blank r.route v).refuseBody v = (r.refuseBody v).blank r.route v := by
  simp only [refuseBody, visit?_blank]
  cases hw : r.visit? v with
  | none => rfl
  | some w =>
    have hphase := Visit.phase_blank r.route v w
    rw [if_pos (id_of_visit? hw)] at hphase
    cases hp : w.phase with
    | waiting head | exchanging due g m =>
      rw [hp, VisitPhase.blank] at hphase
      simp only [Option.map_some, hphase, hp]
      rfl
    | uploading due a body =>
      rw [hp, VisitPhase.blank] at hphase
      simp only [Option.map_some, hphase, hp]
      exact refuse_blank r.route v r w rfl _

/-- How far an upload has come is struck out. -/
theorem blank_setPhase_uploading {w : Visit} {due : Nat} {a : Http.Admission} {body : Body}
    (body' : Body) (hd : r.HasDistinctVisits) (hw : r.visit? v = some w)
    (hphase : w.phase = .uploading due a body) :
    (r.setPhase v (.uploading due a body')).blank r.route v = r.blank r.route v := by
  simp only [blank, setPhase, List.map_map]
  congr 1
  apply List.map_congr_left
  intro u hu
  by_cases hv : u.id = v
  · -- The visit is the only one of its number.
    have hfound := visit?_of_mem hd hu
    rw [hv, hw] at hfound
    obtain rfl := Option.some.inj hfound
    simp [Visit.blank, hv, hphase, VisitPhase.blank]
  · simp [hv]

theorem visit?_refuseBody {w : Visit} {due : Nat} {a : Http.Admission} {body : Body}
    (hd : r.HasDistinctVisits) (hw : r.visit? v = some w)
    (hphase : w.phase = .uploading due a body) :
    (r.refuseBody v).1.visit? v = none := by
  obtain rfl := id_of_visit? hw
  simp only [refuseBody, hw, hphase]
  exact (startWaiting_of_conclude r [] w _ rfl rfl hd fun _ => rfl).1.1

theorem history_pieces_cons (r : Relay) (v : Nat) (p : Piece) (ps : Body) :
    r.history (pieces v (p :: ps)) = (((r.step (.piece v p)).1.history (pieces v ps)).1,
      (r.step (.piece v p)).2 ++ ((r.step (.piece v p)).1.history (pieces v ps)).2) := rfl

/-- Whether a visit uploads. -/
def Uploads (r : Relay) (v : Nat) : Prop :=
  ∃ w due a body, r.visit? v = some w ∧ w.phase = .uploading due a body

theorem refuseBody_of_not_uploads (h : ¬ r.Uploads v) : r.refuseBody v = (r, []) := by
  unfold refuseBody
  split
  · next w hw =>
    split
    · next due a body hphase => exact absurd ⟨w, due, a, body, hw, hphase⟩ h
    · rfl
  · rfl

/-- Pieces of a body that is not read are passed by. -/
theorem history_pieces_of_not_uploads (h : ¬ r.Uploads v) (ps : Body) :
    r.history (pieces v ps) = (r, []) := by
  induction ps with
  | nil => rfl
  | cons p rest ih =>
    have hstep : r.step (.piece v p) = (r, []) := by
      simp only [step]
      split
      · next w hw =>
        split
        · next due a body hphase => exact absurd ⟨w, due, a, body, hw, hphase⟩ h
        · rfl
      · rfl
    rw [history_pieces_cons, hstep, ih]
    rfl

/-- One more piece is kept where what has come can be read, and refused with it otherwise. -/
theorem step_piece {w : Visit} {due : Nat} {a : Http.Admission} {body : Body} (p : Piece)
    (hw : r.visit? v = some w) (hphase : w.phase = .uploading due a body) :
    r.step (.piece v p) =
      if (Body.collect r.route.maxBodySize (body ++ [p])).isSome = true then
        (r.setPhase v (.uploading due a (body ++ [p])), []) else r.refuseBody v := by
  obtain rfl := id_of_visit? hw
  simp only [step, refuseBody, hw, hphase, receivePiece]
  cases Body.collect r.route.maxBodySize (body ++ [p]) <;> rfl

/-- **What pieces do is told by what has come with them**: nothing is seen of them, or the body is
refused. -/
theorem history_pieces (hd : r.HasDistinctVisits) (hreads : r.Reads v b) (ps : Body)
    (hturn : ps ≠ [] → ∀ w, r.visit? v = some w → w.isRunning = true) :
    (r.history (pieces v ps)).blank r.route v =
      Outcome.blank r.route v (if (Body.collect r.route.maxBodySize (b ++ ps)).isSome = true
        then (r, []) else r.refuseBody v) ∧
    (r.history (pieces v ps)).1.Reads v (b ++ ps) := by
  by_cases hup : r.Uploads v
  · induction ps generalizing r b with
    | nil =>
      obtain ⟨w, due, a, body, hw, hphase⟩ := hup
      obtain ⟨-, hsome⟩ := (hreads w hw).2 due a body hphase
      rw [List.append_nil, if_pos hsome]
      exact ⟨rfl, hreads⟩
    | cons p rest ih =>
      obtain ⟨w, due, a, body, hw, hphase⟩ := hup
      obtain ⟨rfl, -⟩ := (hreads w hw).2 due a body hphase
      have happend : body ++ p :: rest = (body ++ [p]) ++ rest := by simp
      rw [history_pieces_cons, step_piece p hw hphase, happend]
      cases hsome : (Body.collect r.route.maxBodySize (body ++ [p])).isSome with
      | true =>
        -- The piece is kept, and the others come to the visit as it is now.
        simp only [if_true, List.nil_append]
        have hkeeps := keeps_setPhase r v (.uploading due a (body ++ [p]))
        have hnow : (r.setPhase v (.uploading due a (body ++ [p]))).visit? v =
            some { w with phase := .uploading due a (body ++ [p]) } := by
          rw [visit?_setPhase, hw]
          simp
        have hblank := blank_setPhase_uploading (body ++ [p]) hd hw hphase
        obtain ⟨hlater, hreads'⟩ := ih (r := r.setPhase v (.uploading due a (body ++ [p])))
          (b := body ++ [p]) (hkeeps.distinct hd)
          (fun u hu => by
            obtain rfl := Option.some.inj (hnow.symm.trans hu)
            refine ⟨by simp, fun due' a' body' heq => ?_⟩
            obtain ⟨-, -, rfl⟩ := VisitPhase.uploading.inj heq
            exact ⟨rfl, hsome⟩)
          (fun _ u hu => by
            obtain rfl := Option.some.inj (hnow.symm.trans hu)
            rfl)
          ⟨_, due, a, _, hnow, rfl⟩
        refine ⟨hlater.trans ?_, hreads'⟩
        change Outcome.blank r.route v (if (Body.collect r.route.maxBodySize
          (body ++ [p] ++ rest)).isSome = true then _ else _) = _
        cases (Body.collect r.route.maxBodySize (body ++ [p] ++ rest)).isSome with
        | true => exact congrArg (·, []) hblank
        | false =>
          exact (refuseBody_blank _ v).symm.trans
            ((congrArg (fun r' : Relay => r'.refuseBody v) hblank).trans (refuseBody_blank r v))
      | false =>
        -- The piece is refused with the body, and the visit is gone.
        have hnone : Body.collect r.route.maxBodySize (body ++ [p]) = none := by
          simpa using hsome
        have hgone := visit?_refuseBody hd hw hphase
        rw [Http.Body.collect_append_of_none hnone]
        simp only [Bool.false_eq_true, if_false, Option.isSome_none]
        rw [history_pieces_of_not_uploads (fun ⟨u, _, _, _, hu, _⟩ => by rw [hgone] at hu; cases hu),
          List.append_nil]
        exact ⟨rfl, fun u hu => by rw [hgone] at hu; cases hu⟩
  · rw [history_pieces_of_not_uploads hup, refuseBody_of_not_uploads hup, ite_self]
    refine ⟨rfl, fun w hw => ⟨fun head hphase => ?_, fun due a body hphase => ?_⟩⟩
    · -- Nothing comes of the body of a visit that waits.
      have hps : ps = [] := by
        by_contra hne
        have hrunning := hturn hne w hw
        simp [Visit.isRunning, hphase] at hrunning
      rw [hps, List.append_nil]
      exact (hreads w hw).1 head hphase
    · exact absurd ⟨w, due, a, body, hw, hphase⟩ hup

/-! ## What else happens -/

/-- An occurrence other than a piece leaves what has come of a body as it is. -/
theorem Reads.occur (hreads : r.Reads v b) (h : r.Tied) (hout : o.isOutside = true)
    (hno : ∀ head, o ≠ .event (.arrive v head)) (hpiece : ∀ p, o ≠ .event (.piece v p)) :
    (r.occur o).1.Reads v b := by
  have hstride := occur_stride h o hout hno
  unfold Reads at hreads
  intro w hw
  rw [route_occur]
  rw [hw] at hstride
  generalize r.visit? v = old, (r.occur o).2 = effects, hnew : some w = new at hstride hreads
  cases hstride with
  | turn old new effects hturn =>
    cases hturn with
    | aside => exact hreads w hnew.symm
    | receive u head due a effects hphase =>
      -- A visit whose turn comes has had no piece of its body read.
      obtain rfl := (hreads u rfl).1 head hphase
      obtain rfl := Option.some.inj hnew
      refine ⟨by simp, fun due' a' body heq => ?_⟩
      obtain ⟨-, -, rfl⟩ := VisitPhase.uploading.inj heq
      exact ⟨rfl, rfl⟩
    | dismiss => cases hnew
  | grow u due a body p effects ho => exact absurd ho (hpiece p)
  | exchange u due a body i t effects ho hphase =>
    obtain rfl := Option.some.inj hnew
    exact ⟨by simp, by simp⟩
  | refuse | conclude | breakOff | abandon => cases hnew

theorem occur_blank {route : Http.Route} (hroute : r.route = route)
    (hpiece : ∀ p, o ≠ .event (.piece v p)) (huploaded : o ≠ .event (.uploaded v)) :
    (r.blank route v).occur (o.seen route v) = (r.occur o).blank route v := by
  cases o with
  | delay duration => rfl
  | event ev =>
    exact step_blank route v r hroute ev (fun p hp => hpiece p (by rw [hp]))
      (fun hu => huploaded (by rw [hu]))

/-- The upload of a visit is complete with a body. -/
def complete (r : Relay) (v : Nat) (b : Body) : Outcome :=
  match r.visit? v with
  | some w => match w.phase with
    | .uploading due a _ => r.exchange w due a b
    | _ => (r, [])
  | none => (r, [])

/-- A visit is uploaded with what has come of its body. -/
theorem step_uploaded_blank (hreads : r.Reads v b) :
    (r.step (.uploaded v)).blank r.route v = (r.blank r.route v).complete v b := by
  simp only [step, complete, visit?_blank]
  cases hw : r.visit? v with
  | none => rfl
  | some w =>
    have hphase := Visit.phase_blank r.route v w
    rw [if_pos (id_of_visit? hw)] at hphase
    cases hp : w.phase with
    | waiting head | exchanging due g m =>
      rw [hp, VisitPhase.blank] at hphase
      simp only [Option.map_some, hphase, hp]
      rfl
    | uploading due a body =>
      rw [hp, VisitPhase.blank] at hphase
      obtain ⟨rfl, -⟩ := (hreads w hw).2 due a body hp
      simp only [Option.map_some, hphase, hp]
      exact (exchange_blank r.route v r w rfl due a body).symm

theorem complete_congr
    (h : Body.collect r.route.maxBodySize b₁ = Body.collect r.route.maxBodySize b₂) :
    r.complete v b₁ = r.complete v b₂ := by
  unfold complete
  split
  · split
    · exact exchange_congr r _ _ _ h
    · rfl
  · rfl

/-! ## The two runs -/

/-- Two relays at a moment at which they are the same but for what is not read of a visit. -/
structure Alike (v : Nat) (r₁ r₂ : Relay) (b₁ b₂ : Body) : Prop where
  blank : r₁.blank r₁.route v = r₂.blank r₁.route v
  tied₁ : r₁.Tied
  tied₂ : r₂.Tied
  reads₁ : r₁.Reads v b₁
  reads₂ : r₂.Reads v b₂

namespace Alike

theorem route (h : Alike v r₁ r₂ b₁ b₂) : r₂.route = r₁.route := (congrArg Relay.route h.blank).symm

/-- Pieces that can be read in both runs or in none. -/
theorem pieces (h : Alike v r₁ r₂ b₁ b₂) {ps₁ ps₂ : Body}
    (hturn₁ : ps₁ ≠ [] → ∀ w, r₁.visit? v = some w → w.isRunning = true)
    (hturn₂ : ps₂ ≠ [] → ∀ w, r₂.visit? v = some w → w.isRunning = true)
    (hfate : (Body.collect r₁.route.maxBodySize (b₁ ++ ps₁)).isSome =
      (Body.collect r₁.route.maxBodySize (b₂ ++ ps₂)).isSome) :
    (r₁.history (pieces v ps₁)).2 = (r₂.history (pieces v ps₂)).2 ∧
      Alike v (r₁.history (ObliviousRelay.pieces v ps₁)).1
        (r₂.history (ObliviousRelay.pieces v ps₂)).1 (b₁ ++ ps₁) (b₂ ++ ps₂) := by
  -- Each run is told by whether its body can still become a message, and that is the same in both.
  obtain ⟨hruns₁, hreads₁⟩ := history_pieces h.tied₁.distinct h.reads₁ ps₁ hturn₁
  obtain ⟨hruns₂, hreads₂⟩ := history_pieces h.tied₂.distinct h.reads₂ ps₂ hturn₂
  rw [h.route] at hruns₂
  rw [← hfate] at hruns₂
  have hsame : (r₁.history (ObliviousRelay.pieces v ps₁)).blank r₁.route v =
      (r₂.history (ObliviousRelay.pieces v ps₂)).blank r₁.route v := by
    rw [hruns₁, hruns₂]
    cases (Body.collect r₁.route.maxBodySize (b₁ ++ ps₁)).isSome with
    | true => exact congrArg (·, []) h.blank
    | false =>
      -- The body is refused in both.
      have hrefuse₂ := refuseBody_blank r₂ v
      rw [h.route] at hrefuse₂
      exact (refuseBody_blank r₁ v).symm.trans
        ((congrArg (fun r : Relay => r.refuseBody v) h.blank).trans hrefuse₂)
  obtain ⟨hrelay, heffects⟩ := Prod.mk.inj hsame
  refine ⟨heffects, ?_, ?_, ?_, hreads₁, hreads₂⟩
  · rwa [route_history]
  · exact h.tied₁.history fun o ho => isOutside_of_mem_pieces ho
  · exact h.tied₂.history fun o ho => isOutside_of_mem_pieces ho

/-- The same occurrence in both runs, where the bodies are not read or are the same. -/
theorem occur (h : Alike v r₁ r₂ b₁ b₂) (hout : o.isOutside = true)
    (hno : ∀ head, o ≠ .event (.arrive v head)) (hpiece : ∀ p, o ≠ .event (.piece v p))
    (hwhole : o = .event (.uploaded v) →
      Body.collect r₁.route.maxBodySize b₁ = Body.collect r₁.route.maxBodySize b₂) :
    (r₁.occur o).2 = (r₂.occur o).2 ∧ Alike v (r₁.occur o).1 (r₂.occur o).1 b₁ b₂ := by
  have hsame : (r₁.occur o).blank r₁.route v = (r₂.occur o).blank r₁.route v := by
    by_cases hup : o = .event (.uploaded v)
    · -- The bodies are read now, and as wholes they are the same.
      subst hup
      have hstep₂ := step_uploaded_blank h.reads₂
      rw [h.route, ← h.blank] at hstep₂
      have hcomplete := complete_congr (r := r₁.blank r₁.route v) (v := v) (hwhole rfl)
      exact (step_uploaded_blank h.reads₁).trans (hcomplete.trans hstep₂.symm)
    · rw [← occur_blank rfl hpiece hup, ← occur_blank h.route hpiece hup, h.blank]
  obtain ⟨hrelay, heffects⟩ := Prod.mk.inj hsame
  refine ⟨heffects, ?_, h.tied₁.occur o hout, h.tied₂.occur o hout,
    h.reads₁.occur h.tied₁ hout hno hpiece, h.reads₂.occur h.tied₂ hout hno hpiece⟩
  rwa [route_occur]

end Alike

/-- **The same is seen of two runs that bring the same body in pieces of their own.** -/
theorem history_recut {bound : Nat} (hcut : Recut bound v b₁ b₂ os₁ os₂)
    (hbound : bound = r₁.route.maxBodySize) (h : Alike v r₁ r₂ b₁ b₂) (hspares₁ : Spares v os₁)
    (hspares₂ : Spares v os₂) (hturn₁ : r₁.SendsInTurn v os₁) (hturn₂ : r₂.SendsInTurn v os₂) :
    (r₁.history os₁).2 = (r₂.history os₂).2 := by
  -- By induction on the two courses, from one occurrence that they share to the next.
  induction hcut generalizing r₁ r₂ with
  | last b₁ b₂ ps₁ ps₂ hfate =>
    subst hbound
    exact (h.pieces hturn₁.isRunning hturn₂.isRunning hfate).1
  | next b₁ b₂ ps₁ ps₂ o os₁ os₂ hpiece hfate hwhole hrest ih =>
    subst hbound
    have ho := hspares₁ o (by simp)
    obtain ⟨hpieces, hmeet⟩ := h.pieces hturn₁.of_append.isRunning hturn₂.of_append.isRunning hfate
    obtain ⟨hshared, hgo⟩ := hmeet.occur ho.1 ho.2 hpiece fun hup => by
      rw [route_history]
      exact hwhole hup
    have hlater := ih (by rw [route_occur, route_history]) hgo hspares₁.of_append.2.tail
      hspares₂.of_append.2.tail hturn₁.after.tail hturn₂.after.tail
    rw [history_append, history_append, history_cons, history_cons, hpieces, hshared, hlater]

/-! ## Arrivals -/

/-- A visit that has just arrived has had nothing of its body read. -/
theorem reads_arrive (h : r.Tied) (hnew : r.visit? v = none) (head : Http.RequestHead) :
    (r.step (.arrive v head)).1.Reads v [] := by
  have hturn := arrive_turn h.distinct hnew head
  unfold Reads
  rw [route_step]
  refine fun w hw => ⟨fun _ _ => rfl, fun due a body hphase => ?_⟩
  rw [hw] at hturn
  generalize hnow : some w = now at hturn
  -- Whoever uploads by now was given its turn just now.
  cases hturn with
  | aside =>
    obtain rfl := Option.some.inj hnow
    cases hphase
  | receive u head due' a' =>
    obtain rfl := Option.some.inj hnow
    obtain ⟨-, -, rfl⟩ := VisitPhase.uploading.inj hphase
    exact ⟨rfl, rfl⟩
  | dismiss => cases hnow

/-- Heads of which the same is read arrive in the same way. -/
theorem arrive_alike (h : r.Tied) (hnew : r.visit? v = none) {head₁ head₂ : Http.RequestHead}
    (hseen : head₁.seen r.route = head₂.seen r.route) :
    (r.step (.arrive v head₁)).2 = (r.step (.arrive v head₂)).2 ∧
      Alike v (r.step (.arrive v head₁)).1 (r.step (.arrive v head₂)).1 [] [] := by
  -- Blanked, a visit arrives with what is read of its head.
  have hblank : ∀ head : Http.RequestHead, (r.step (.arrive v head)).blank r.route v =
      (r.blank r.route v).step (.arrive v (head.seen r.route)) := by
    intro head
    rw [← step_blank r.route v r rfl (.arrive v head) (by simp) (by simp)]
    simp [RelayEvent.seen]
  have hsame : (r.step (.arrive v head₁)).blank r.route v =
      (r.step (.arrive v head₂)).blank r.route v := by
    rw [hblank, hblank, hseen]
  obtain ⟨hrelay, heffects⟩ := Prod.mk.inj hsame
  refine ⟨heffects, ?_, h.step _ rfl, h.step _ rfl, reads_arrive h hnew head₁,
    reads_arrive h hnew head₂⟩
  rwa [route_step]

/-- Two courses of events from the arrival of a request on that differ in nothing but this request:
one of two that agree on what is read of them, with the same body in pieces of its own. -/
structure Twins (r : Relay) (v : Nat) (head₁ head₂ : Http.RequestHead)
    (os₁ os₂ : List RelayOccurrence) : Prop where
  alike : ∃ q₁ q₂ : Request, q₁.LooksLike r.route q₂ ∧ q₁.head = .ok head₁ ∧ q₂.head = .ok head₂
  recut : Recut r.route.maxBodySize v [] [] os₁ os₂
  spares₁ : Spares v os₁
  spares₂ : Spares v os₂
  inTurn₁ : r.SendsInTurn v (.event (.arrive v head₁) :: os₁)
  inTurn₂ : r.SendsInTurn v (.event (.arrive v head₂) :: os₂)

/-- **The same is seen of two requests that look alike**, from their arrival on. -/
theorem Twins.history_eq {head₁ head₂ : Http.RequestHead} (htwins : r.Twins v head₁ head₂ os₁ os₂)
    (h : r.Tied) (hnew : r.visit? v = none) :
    (r.history (.event (.arrive v head₁) :: os₁)).2 =
      (r.history (.event (.arrive v head₂) :: os₂)).2 := by
  obtain ⟨q₁, q₂, hlook, h₁, h₂⟩ := htwins.alike
  obtain ⟨harrival, halike⟩ := arrive_alike h hnew (hlook.seen h₁ h₂)
  have hlater := history_recut htwins.recut (by rw [route_step]) halike
    htwins.spares₁ htwins.spares₂ htwins.inTurn₁.tail htwins.inTurn₂.tail
  rw [history_cons, history_cons]
  show (r.step _).2 ++ _ = (r.step _).2 ++ _
  rw [harrival]
  exact congrArg _ hlater

end Relay

end ObliviousRelay
