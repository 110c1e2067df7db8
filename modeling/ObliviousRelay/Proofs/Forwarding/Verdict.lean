import Mathlib.Logic.ExistsUnique
import Mathlib.Tactic.MkIffOfInductiveProp
import ObliviousRelay.Proofs.Forwarding.Protocol
import ObliviousRelay.Proofs.Message

/-!
# What comes of an exchange

An exchange goes through six stages: its selector is resolved, the type and the size of its message
are checked, a connection is leased, the message is sent and the reply is judged. It is answered
where all of them pass, and fails as the first that does not. What is wrong with a reply is said in
the words of the operator and is always the gateway's error.

- `Gateway.Reply.Passes`, `Gateway.Reply.Complains`: which replies pass, and what is said of others.
- `Engine.FailsAt`: the stage at which an exchange fails, and how it fails there.
- `Engine.forward_verdict`: success, failure and their stages, for every transport.
-/

namespace ObliviousRelay

open Gateway (Outbound Reply)

/-! ## Replies -/

namespace Gateway.Reply

/-- The type that is declared of a reply is the one of an encapsulated response. -/
def IsDeclared (r : Reply) : Prop :=
  ∃ declared, r.contentType = some declared ∧ MediaType.parse? declared = some .response

/-- A successful reply that carries an encapsulated response within a bound. -/
structure Passes (bound : Nat) (r : Reply) : Prop where
  success : 200 ≤ r.status.code ∧ r.status.code ≤ 299
  declared : r.IsDeclared
  nonempty : 0 < r.body.size
  bounded : r.body.size ≤ bound

/-- What is said of a reply that does not pass. Its status is looked at first, then the declared
type, and the body last. -/
inductive Complains (bound : Nat) (r : Reply) : String → Prop
  | status (h : r.status.code < 200 ∨ 299 < r.status.code) :
      Complains bound r ("status " ++ toString r.status.code)
  | mediaType (hstatus : 200 ≤ r.status.code ∧ r.status.code ≤ 299) (h : ¬ r.IsDeclared) :
      Complains bound r "unexpected media type"
  | empty (hstatus : 200 ≤ r.status.code ∧ r.status.code ≤ 299) (htype : r.IsDeclared)
      (h : r.body.size = 0) : Complains bound r "malformed message: empty payload"
  | tooLarge (hstatus : 200 ≤ r.status.code ∧ r.status.code ≤ 299) (htype : r.IsDeclared)
      (hne : 0 < r.body.size) (h : bound < r.body.size) :
      Complains bound r "malformed message: payload too large"

variable {bound : Nat} {r : Reply}

/-- The words of the envelope, which are those of a client's message too. -/
theorem envelope_words :
    (Failure.malformedMessage .empty).message = "malformed message: empty payload" ∧
      (Failure.malformedMessage .tooLarge).message = "malformed message: payload too large" := by
  decide

/-- A status is a success just when its code is in the two hundreds. -/
theorem isSuccess_iff : r.status.isSuccess = true ↔ 200 ≤ r.status.code ∧ r.status.code ≤ 299 := by
  simp only [Http.Status.isSuccess, Bool.and_eq_true, decide_eq_true_eq]
  omega

/-- A reply without a content type is read as one whose content type is empty. -/
theorem isDeclared_iff :
    r.IsDeclared ↔ MediaType.parse? (r.contentType.getD "") = some .response := by
  have hempty : MediaType.parse? "" ≠ some .response := by decide
  unfold IsDeclared
  cases r.contentType <;> simp [hempty]

/-- A reply passes, or there is a complaint about it. -/
theorem passes_or_complains (bound : Nat) (r : Reply) :
    r.Passes bound ∨ ∃ detail, r.Complains bound detail := by
  -- the conditions in the order in which they are looked at
  by_cases hstatus : 200 ≤ r.status.code ∧ r.status.code ≤ 299
  · by_cases htype : r.IsDeclared
    · rcases Nat.eq_zero_or_pos r.body.size with hempty | hne
      · exact .inr ⟨_, .empty hstatus htype hempty⟩
      · rcases Nat.lt_or_ge bound r.body.size with hlarge | hbound
        · exact .inr ⟨_, .tooLarge hstatus htype hne hlarge⟩
        · exact .inl ⟨hstatus, htype, hne, hbound⟩
    · exact .inr ⟨_, .mediaType hstatus htype⟩
  · exact .inr ⟨_, .status (by omega)⟩

end Gateway.Reply

namespace Engine

section Interpretation

variable {e : Engine} {r : Reply} {m : Message} {failure : Failure}

/-- A reply that passes is decoded to the answer. -/
theorem interpret_of_passes (h : r.Passes e.maxResponseSize) :
    e.interpret r = .ok ⟨.response, r.body⟩ := by
  have htype := Reply.isDeclared_iff.mp h.declared
  have hbody := Nat.ne_of_gt h.nonempty
  simp [interpret, Reply.isSuccess_iff.mpr h.success, htype, Message.decode_of_parse? htype, hbody,
    Nat.not_lt.mpr h.bounded]

/-- What is complained about is the gateway's error. -/
theorem interpret_of_complains {detail : String} (h : r.Complains e.maxResponseSize detail) :
    e.interpret r = .error (.gatewayError detail) := by
  unfold interpret
  cases h with
  | status h =>
    have hstatus : r.status.isSuccess = false :=
      Bool.eq_false_iff.mpr fun hsuccess => by
        have := Reply.isSuccess_iff.mp hsuccess
        omega
    simp [hstatus]
  | mediaType hstatus h =>
    simp [Reply.isSuccess_iff.mpr hstatus, mt Reply.isDeclared_iff.mpr h]
  | empty hstatus htype h =>
    -- The type is the one declared, so that only the body can be at fault.
    have htype := Reply.isDeclared_iff.mp htype
    simp [Reply.isSuccess_iff.mpr hstatus, htype, Message.decode_of_parse? htype, h,
      Reply.envelope_words.1]
  | tooLarge hstatus htype hne h =>
    have htype := Reply.isDeclared_iff.mp htype
    simp [Reply.isSuccess_iff.mpr hstatus, htype, Message.decode_of_parse? htype, h,
      Nat.ne_of_gt hne, Reply.envelope_words.2]

/-- A reply becomes a message exactly where it passes. -/
theorem interpret_eq_ok_iff :
    e.interpret r = .ok m ↔ r.Passes e.maxResponseSize ∧ m = ⟨.response, r.body⟩ := by
  constructor
  · intro h
    rcases r.passes_or_complains e.maxResponseSize with hpasses | ⟨detail, hcomplains⟩
    · exact ⟨hpasses, Except.ok.inj (h.symm.trans (interpret_of_passes hpasses))⟩
    · cases h.symm.trans (interpret_of_complains hcomplains)
  · rintro ⟨hpasses, rfl⟩
    exact interpret_of_passes hpasses

/-- All else is the gateway's error. -/
theorem interpret_eq_error_iff : e.interpret r = .error failure ↔
    ∃ detail, r.Complains e.maxResponseSize detail ∧ failure = .gatewayError detail := by
  constructor
  · intro h
    rcases r.passes_or_complains e.maxResponseSize with hpasses | ⟨detail, hcomplains⟩
    · cases h.symm.trans (interpret_of_passes hpasses)
    · have hresult := h.symm.trans (interpret_of_complains hcomplains)
      exact ⟨detail, hcomplains, Except.error.inj hresult⟩
  · rintro ⟨detail, hcomplains, rfl⟩
    exact interpret_of_complains hcomplains

end Interpretation

/-! ## Stages -/

/-- What an exchange has to get through, in this order. -/
inductive Stage where
  | resolving
  | typing
  | sizing
  | leasing
  | sending
  | judging
  deriving DecidableEq, Repr

/-- A selector asks for a target, and a message meets its policy. -/
@[mk_iff]
structure Permits (e : Engine) (s : Selector) (m : Message) (t : Target) : Prop where
  resolved : e.registry.resolve s = .ok t
  accepted : m.mediaType ∈ t.acceptedMediaTypes
  bounded : m.length ≤ t.maxBodySize

section Stages

variable {Lease : Type} (e : Engine) (transport : Transport Lease) (s : Selector) (m : Message)

/-- The stage at which an exchange fails after all before it have passed, and how it fails there.
The transport's own failures are passed on as they are. -/
inductive FailsAt : Stage → Failure → Prop
  | resolving (h : ∀ t, e.registry.resolve s ≠ .ok t) : FailsAt .resolving .unknownGateway
  | typing {t} (hresolve : e.registry.resolve s = .ok t) (h : m.mediaType ∉ t.acceptedMediaTypes) :
      FailsAt .typing .policyViolation
  | sizing {t} (hresolve : e.registry.resolve s = .ok t)
      (htype : m.mediaType ∈ t.acceptedMediaTypes) (h : t.maxBodySize < m.length) :
      FailsAt .sizing (.malformedMessage .tooLarge)
  | leasing {t failure} (hpermits : e.Permits s m t) (h : transport.lease t = .error failure) :
      FailsAt .leasing failure
  | sending {t lease failure} (hpermits : e.Permits s m t) (hlease : transport.lease t = .ok lease)
      (h : transport.send lease ⟨m.mediaType, m.payload⟩ = .error failure) :
      FailsAt .sending failure
  | judging {t lease reply detail} (hpermits : e.Permits s m t)
      (hlease : transport.lease t = .ok lease)
      (hsend : transport.send lease ⟨m.mediaType, m.payload⟩ = .ok reply)
      (h : reply.Complains e.maxResponseSize detail) : FailsAt .judging (.gatewayError detail)

end Stages

end Engine

/-- What resolves to nothing is unknown. -/
theorem Registry.resolve_of_forall_ne {r : Registry} {s : Selector} (h : ∀ t, r.resolve s ≠ .ok t) :
    r.resolve s = .error .unknownGateway := by
  unfold resolve at h ⊢
  split
  · next t hfind => exact absurd (by rw [hfind]) (h t)
  · rfl

/-- Two transports that give the same leases and fail to send alike. Only what gateways reply may
differ. -/
structure Transport.AgreesButReplies {Lease : Type} (a b : Transport Lease) : Prop where
  lease : a.lease = b.lease
  send : ∀ lease o failure, a.send lease o = .error failure ↔ b.send lease o = .error failure

namespace Engine

variable {Lease : Type} {e : Engine} {transport : Transport Lease} {s : Selector}
  {m answer : Message} {t : Target} {stage : Stage} {failure : Failure}

/-- Preparing succeeds just when the request is permitted. -/
theorem prepare_eq_ok_iff_permits : e.prepare s m = .ok t ↔ e.Permits s m t := by
  rw [prepare_eq_ok, Target.check_eq_ok_iff]
  exact ⟨fun ⟨h, htype, hsize⟩ => ⟨h, htype, hsize⟩, fun h => ⟨h.resolved, h.accepted, h.bounded⟩⟩

/-- What the target's policy refuses is refused. -/
theorem prepare_of_check_error (hresolve : e.registry.resolve s = .ok t)
    (hcheck : t.check m = .error failure) : e.prepare s m = .error failure := by
  rw [prepare, hresolve]
  simp only [hcheck]

/-! ## Runs -/

/-- An exchange that is refused before it begins fails with this. -/
theorem result_of_prepare_error (h : e.prepare s m = .error failure) :
    (e.forward transport s m).result = .error failure := by
  rw [forward_eq, h]

/-- So does one without a lease. -/
theorem result_of_lease_error (hpermits : e.Permits s m t)
    (hlease : transport.lease t = .error failure) :
    (e.forward transport s m).result = .error failure := by
  rw [forward_eq, prepare_eq_ok_iff_permits.mpr hpermits]
  simp only [hlease]

/-- With a lease of its target, an exchange ends as its sending does, or as the reply is judged. -/
theorem result_of_lease {lease : Lease} (hpermits : e.Permits s m t)
    (hlease : transport.lease t = .ok lease) :
    (e.forward transport s m).result =
      (transport.send lease ⟨m.mediaType, m.payload⟩).bind e.interpret := by
  rw [forward_eq, prepare_eq_ok_iff_permits.mpr hpermits]
  simp only [hlease]
  rfl

/-- One whose reply passes gives the reply's body. -/
theorem result_of_passes {lease : Lease} {reply : Reply} (hpermits : e.Permits s m t)
    (hlease : transport.lease t = .ok lease)
    (hsend : transport.send lease ⟨m.mediaType, m.payload⟩ = .ok reply)
    (h : reply.Passes e.maxResponseSize) :
    (e.forward transport s m).result = .ok ⟨.response, reply.body⟩ := by
  rw [result_of_lease hpermits hlease, hsend]
  exact interpret_of_passes h

/-- An exchange that fails at a stage fails as it is said for this stage. -/
theorem result_of_failsAt (h : FailsAt e transport s m stage failure) :
    (e.forward transport s m).result = .error failure := by
  cases h with
  -- nothing is called at the first three stages
  | resolving h =>
    apply result_of_prepare_error
    rw [prepare, Registry.resolve_of_forall_ne h]
  | typing hresolve h =>
    apply result_of_prepare_error
    apply prepare_of_check_error hresolve
    exact Target.check_eq_error_iff.mpr (.inl ⟨h, rfl⟩)
  | sizing hresolve htype h =>
    apply result_of_prepare_error
    apply prepare_of_check_error hresolve
    exact Target.check_eq_error_iff.mpr (.inr ⟨htype, h, rfl⟩)
  | leasing hpermits h => exact result_of_lease_error hpermits h
  | sending hpermits hlease h =>
    rw [result_of_lease hpermits hlease, h]
    rfl
  | judging hpermits hlease hsend h =>
    rw [result_of_lease hpermits hlease, hsend]
    exact interpret_of_complains h

/-- An exchange gets through all stages, or fails at one. -/
theorem passes_or_failsAt (e : Engine) (transport : Transport Lease) (s : Selector) (m : Message) :
    (∃ t lease reply, e.Permits s m t ∧ transport.lease t = .ok lease ∧
      transport.send lease ⟨m.mediaType, m.payload⟩ = .ok reply ∧
      reply.Passes e.maxResponseSize) ∨
    ∃ stage failure, FailsAt e transport s m stage failure := by
  -- Each condition in its turn: the first one that fails is the stage.
  by_cases hresolve : ∃ t, e.registry.resolve s = .ok t
  · obtain ⟨t, hresolve⟩ := hresolve
    by_cases htype : m.mediaType ∈ t.acceptedMediaTypes
    · rcases Nat.lt_or_ge t.maxBodySize m.length with hlarge | hbound
      · exact .inr ⟨_, _, .sizing hresolve htype hlarge⟩
      · have hpermits : e.Permits s m t := ⟨hresolve, htype, hbound⟩
        cases hlease : transport.lease t with
        | error failure => exact .inr ⟨_, _, .leasing hpermits hlease⟩
        | ok lease =>
          cases hsend : transport.send lease ⟨m.mediaType, m.payload⟩ with
          | error failure => exact .inr ⟨_, _, .sending hpermits hlease hsend⟩
          | ok reply =>
            rcases reply.passes_or_complains e.maxResponseSize with hpasses | ⟨detail, hcomplains⟩
            · exact .inl ⟨t, lease, reply, hpermits, hlease, hsend, hpasses⟩
            · exact .inr ⟨_, _, .judging hpermits hlease hsend hcomplains⟩
    · exact .inr ⟨_, _, .typing hresolve htype⟩
  · exact .inr ⟨_, _, .resolving (not_exists.mp hresolve)⟩

/-- An exchange gives an answer just when all stages are passed. -/
theorem result_eq_ok_iff : (e.forward transport s m).result = .ok answer ↔
    ∃ t lease reply, e.Permits s m t ∧ transport.lease t = .ok lease ∧
      transport.send lease ⟨m.mediaType, m.payload⟩ = .ok reply ∧
      reply.Passes e.maxResponseSize ∧ answer = ⟨.response, reply.body⟩ := by
  constructor
  · intro h
    rcases passes_or_failsAt e transport s m with
      ⟨t, lease, reply, hpermits, hlease, hsend, hpasses⟩ | ⟨stage, failure, hfails⟩
    · -- this is how it ends, so the answer is the one that was given
      refine ⟨t, lease, reply, hpermits, hlease, hsend, hpasses, ?_⟩
      exact Except.ok.inj (h.symm.trans (result_of_passes hpermits hlease hsend hpasses))
    · -- It would have failed otherwise.
      cases h.symm.trans (result_of_failsAt hfails)
  · rintro ⟨t, lease, reply, hpermits, hlease, hsend, hpasses, rfl⟩
    exact result_of_passes hpermits hlease hsend hpasses

/-- No exchange fails at two stages. -/
theorem FailsAt.stage_eq {stage' : Stage} {failure' : Failure}
    (h : FailsAt e transport s m stage failure) (h' : FailsAt e transport s m stage' failure') :
    stage = stage' := by
  -- what a stage finds is found once, so it fails or passes whichever stage is looked at
  cases h <;> cases h' <;> grind [permits_iff]

/-- It fails with a failure just when exactly one stage fails with it. -/
theorem result_eq_error_iff : (e.forward transport s m).result = .error failure ↔
    ∃! stage, FailsAt e transport s m stage failure := by
  constructor
  · intro h
    rcases passes_or_failsAt e transport s m with
      ⟨t, lease, reply, hpermits, hlease, hsend, hpasses⟩ | ⟨stage, failure', hfails⟩
    · cases h.symm.trans (result_of_passes hpermits hlease hsend hpasses)
    · obtain rfl := Except.error.inj (h.symm.trans (result_of_failsAt hfails))
      exact ⟨stage, hfails, fun stage' h' => h'.stage_eq hfails⟩
  · rintro ⟨stage, hfails, -⟩
    exact result_of_failsAt hfails

/-- With a reply in hand, nothing else can be said than what is said of the reply. -/
theorem result_of_reply {lease : Lease} {reply : Reply} (hpermits : e.Permits s m t)
    (hlease : transport.lease t = .ok lease)
    (hsend : transport.send lease ⟨m.mediaType, m.payload⟩ = .ok reply) :
    (reply.Passes e.maxResponseSize ∧
      (e.forward transport s m).result = .ok ⟨.response, reply.body⟩) ∨
    ∃ detail, reply.Complains e.maxResponseSize detail ∧
      (e.forward transport s m).result = .error (.gatewayError detail) := by
  rcases reply.passes_or_complains e.maxResponseSize with hpasses | ⟨detail, hcomplains⟩
  · exact .inl ⟨hpasses, result_of_passes hpermits hlease hsend hpasses⟩
  · exact .inr ⟨detail, hcomplains, result_of_failsAt (.judging hpermits hlease hsend hcomplains)⟩

/-- What gateways reply matters at the last stage only. -/
theorem FailsAt.of_agrees {other : Transport Lease} (h : FailsAt e transport s m stage failure)
    (hagrees : transport.AgreesButReplies other) (hstage : stage ≠ .judging) :
    FailsAt e other s m stage failure := by
  cases h with
  | resolving h => exact .resolving h
  | typing hresolve h => exact .typing hresolve h
  | sizing hresolve htype h => exact .sizing hresolve htype h
  | leasing hpermits h => exact .leasing hpermits (hagrees.lease ▸ h)
  | sending hpermits hlease h =>
    exact .sending hpermits (hagrees.lease ▸ hlease) ((hagrees.send _ _ _).mp h)
  | judging => exact absurd rfl hstage

/-- **The verdict.** An exchange is answered exactly where the selector asks for a target, the
message has a type that it accepts and is not too long for it, a connection is leased, the message
is sent, and the reply is a successful one that is declared as an encapsulated response, not empty
and within the bound; the answer is then the body of this reply. It fails otherwise, at one stage,
as is said for the first stage that does not pass. A reply that does not pass is the gateway's
error, and what is replied does not change how the stages before it fail. -/
theorem forward_verdict {Lease : Type} (e : Engine) (transport : Transport Lease) (s : Selector)
    (m : Message) :
    let result := (e.forward transport s m).result
    (∀ answer, result = .ok answer ↔
      ∃ t lease reply, e.Permits s m t ∧ transport.lease t = .ok lease ∧
        transport.send lease ⟨m.mediaType, m.payload⟩ = .ok reply ∧
        reply.Passes e.maxResponseSize ∧ answer = ⟨.response, reply.body⟩) ∧
    (∀ failure, result = .error failure ↔ ∃! stage, FailsAt e transport s m stage failure) ∧
    (∀ t lease reply, e.Permits s m t → transport.lease t = .ok lease →
      transport.send lease ⟨m.mediaType, m.payload⟩ = .ok reply →
      (reply.Passes e.maxResponseSize ∧ result = .ok ⟨.response, reply.body⟩) ∨
        ∃ detail, reply.Complains e.maxResponseSize detail ∧
          result = .error (.gatewayError detail)) ∧
    ∀ other : Transport Lease, transport.AgreesButReplies other → ∀ stage failure,
      FailsAt e transport s m stage failure → stage ≠ .judging →
        (e.forward other s m).result = .error failure := by
  intro result
  refine ⟨fun answer => result_eq_ok_iff, fun failure => result_eq_error_iff, ?_, ?_⟩
  · -- A reply that was received decides alone.
    exact fun t lease reply hpermits hlease hsend => result_of_reply hpermits hlease hsend
  · -- Up to the reply, only what it is read from counts.
    exact fun other hagrees stage failure h hstage =>
      result_of_failsAt (h.of_agrees hagrees hstage)

/-- A reply as plain text is the gateway's error, and is not looked at where the message is of a
type that the gateway does not accept. -/
theorem forward_verdict_plain :
    let t : Target := { name := "gateway", endpoint := { scheme := "http" }, poolSize := 1,
                        acceptedMediaTypes := [.request], maxBodySize := 2, requestTimeout := 1,
                        queueWait := 1 }
    let e : Engine := ⟨⟨[t], some "gateway"⟩, 4⟩
    let replying (declared : String) : Transport Unit :=
      ⟨fun _ => .ok (), fun _ _ => .ok ⟨⟨200⟩, some declared, ⟨#[1]⟩⟩⟩
    let m : Message := ⟨.request, ⟨#[7, 8]⟩⟩
    (e.forward (replying " Message/OHTTP-Res") .unnamed m).result = .ok ⟨.response, ⟨#[1]⟩⟩ ∧
      (e.forward (replying "text/plain") .unnamed m).result =
        .error (.gatewayError "unexpected media type") ∧
      (e.forward (replying "text/plain") .unnamed { m with mediaType := .response }).result =
        .error .policyViolation := by
  intro t e replying m
  have hresolve : e.registry.resolve .unnamed = .ok t := rfl
  have hpermits : e.Permits .unnamed m t := ⟨hresolve, by decide, by decide⟩
  refine ⟨?_, ?_, ?_⟩
  · -- The reply passes, its type spelt with a blank and in capitals.
    obtain ⟨hok, -⟩ := forward_verdict e (replying " Message/OHTTP-Res") .unnamed m
    refine (hok _).mpr ⟨t, (), _, hpermits, rfl, rfl, ⟨by decide, ?_, by decide, by decide⟩, rfl⟩
    exact ⟨_, rfl, by decide⟩
  · -- Its type is another one, and this is the complaint.
    obtain ⟨-, -, hreply, -⟩ := forward_verdict e (replying "text/plain") .unnamed m
    have htype : ¬ Reply.IsDeclared ⟨⟨200⟩, some "text/plain", ⟨#[1]⟩⟩ := by
      rw [Reply.isDeclared_iff]
      decide
    rcases hreply t () _ hpermits rfl rfl with ⟨hpasses, -⟩ | ⟨detail, hcomplains, hresult⟩
    · exact absurd hpasses.declared htype
    · rw [hresult]
      cases hcomplains with
      -- Status, size and bound are in order.
      | status h => exact absurd h (by decide)
      | mediaType => rfl
      | empty _ h | tooLarge _ h => exact absurd h htype
  · -- The message is refused before any transport is asked.
    obtain ⟨-, -, -, hother⟩ :=
      forward_verdict e (replying "message/ohttp-res") .unnamed { m with mediaType := .response }
    exact hother _ ⟨rfl, by simp [replying]⟩ .typing _ (.typing hresolve (by decide)) (by decide)

end Engine

end ObliviousRelay
