import ObliviousRelay.Http.Response
import ObliviousRelay.Proofs.Framing.Grammar
import ObliviousRelay.Proofs.Message

/-!
# Framing round trip

What is decoded is encoded as it was, and what is encoded is decoded as it was: directly, and by way
of the response that carries it.

- `Message.Shows` is what may be wrong with a body; `Message.decode_eq_error_iff`: the first of it,
  in the order of `FramingFault.rank`, is what is said.
- `Message.isDecoded_iff`: every message that is not empty can be decoded.
- `Message.decode_encode`, `Message.decode_response`: the way back.
-/

namespace ObliviousRelay

/-- The order in which the faults of an envelope are looked for. -/
def FramingFault.rank : FramingFault → Nat
  | mediaType => 0
  | empty => 1
  | tooLarge => 2

namespace Message

variable {m : Message} {body : ByteArray} {declared : String} {bound : Nat} {failure : Failure}

/-! ## What is refused -/

/-- A body with its declared type shows a fault, whether or not another one comes first. -/
def Shows (body : ByteArray) (declared : String) (bound : Nat) : FramingFault → Prop
  | .mediaType => MediaType.parse? declared = none
  | .empty => body.size = 0
  | .tooLarge => bound < body.size

/-- A fault that a body shows, and none shown comes before it. -/
structure IsFirst (body : ByteArray) (declared : String) (bound : Nat) (fault : FramingFault) :
    Prop where
  shown : Shows body declared bound fault
  least : ∀ other, Shows body declared bound other → fault.rank ≤ other.rank

/-- There is only one first fault. -/
theorem IsFirst.eq {fault other : FramingFault} (h : IsFirst body declared bound fault)
    (hother : IsFirst body declared bound other) : fault = other := by
  have hrank := Nat.le_antisymm (h.least _ hother.shown) (hother.least _ h.shown)
  cases fault <;> cases other <;> first | rfl | cases hrank

/-- A body is decoded, or refused for the first fault that it shows. -/
theorem decode_cases (body : ByteArray) (declared : String) (bound : Nat) :
    (∃ m, decode body declared bound = .ok m ∧ ∀ fault, ¬ Shows body declared bound fault) ∨
      ∃ fault, decode body declared bound = .error (.malformedMessage fault) ∧
        IsFirst body declared bound fault := by
  -- The type is looked at first.
  cases hparse : MediaType.parse? declared with
  | none =>
    exact .inr ⟨.mediaType, by rw [decode, hparse], hparse, fun _ _ => Nat.zero_le _⟩
  | some mediaType =>
    have htype : ¬ Shows body declared bound .mediaType := fun h => by
      rw [Shows, hparse] at h
      cases h
    rw [decode_of_parse? hparse]
    split
    -- Then it is looked at whether there is a body at all.
    · next hempty =>
      refine .inr ⟨.empty, rfl, hempty, fun other hother => ?_⟩
      cases other with
      | mediaType => exact absurd hother htype
      | empty | tooLarge => decide
    · next hne =>
      split
      -- Last, whether it is within the bound.
      · next hlong =>
        refine .inr ⟨.tooLarge, rfl, hlong, fun other hother => ?_⟩
        cases other with
        | mediaType => exact absurd hother htype
        | empty => exact absurd hother hne
        | tooLarge => decide
      -- Nothing is left to find fault with.
      · next hfits =>
        refine .inl ⟨_, rfl, fun fault => ?_⟩
        cases fault with
        | mediaType => exact htype
        | empty => exact hne
        | tooLarge => exact hfits

/-- **What is refused is refused for its first fault**: for its type before its emptiness, and for
that before its length. -/
theorem decode_eq_error_iff : decode body declared bound = .error failure ↔
    ∃ fault, failure = .malformedMessage fault ∧ IsFirst body declared bound fault := by
  -- Decoding gives a message, and shows no fault, or ends with the first one.
  rcases decode_cases body declared bound with ⟨m, hok, hnone⟩ | ⟨fault, herror, hfirst⟩
  · rw [hok]
    constructor
    · intro h
      cases h
    · rintro ⟨fault, -, hfirst⟩
      exact absurd hfirst.shown (hnone fault)
  · rw [herror, Except.error.injEq]
    constructor
    · rintro rfl
      exact ⟨fault, rfl, hfirst⟩
    · rintro ⟨other, rfl, hother⟩
      rw [hfirst.eq hother]

/-! ## The way back -/

/-- A message that comes of decoding. -/
def IsDecoded (m : Message) : Prop := ∃ body declared bound, decode body declared bound = .ok m

/-- Encoding a message keeps its length. -/
theorem size_encode (m : Message) : m.encode.size = m.length := rfl

/-- A message that is not empty is decoded from its own bytes and type, or it is too large. -/
theorem decode_encode (hpos : 0 < m.length) (bound : Nat) :
    decode m.encode m.mediaType.text bound =
      if m.length ≤ bound then .ok m else .error (.malformedMessage .tooLarge) := by
  rw [decode_of_parse? (MediaType.parse?_of_spells (.refl _)), size_encode,
    if_neg (Nat.pos_iff_ne_zero.mp hpos)]
  by_cases hfits : m.length ≤ bound
  · rw [if_pos hfits, if_neg (Nat.not_lt.mpr hfits)]
    rfl
  · rw [if_neg hfits, if_pos (Nat.lt_of_not_le hfits)]

/-- **The messages that can be decoded are those with a payload.** -/
theorem isDecoded_iff : IsDecoded m ↔ 0 < m.length := by
  constructor
  · rintro ⟨body, declared, bound, h⟩
    obtain ⟨-, rfl, hpos, -⟩ := decode_eq_ok_iff.mp h
    exact hpos
  · intro hpos
    exact ⟨m.encode, m.mediaType.text, m.length, by rw [decode_encode hpos, if_pos (Nat.le_refl _)]⟩

/-- The response that carries a message. -/
def response (m : Message) : Http.Response := .ofAnswer (.encapsulated m)

/-- A response shows the type and the bytes of its message, and tells their number. -/
theorem response_eq (m : Message) :
    m.response = { status := .ok, contentType := some m.mediaType.text,
                   contentLength := some m.length, body := m.encode } := rfl

/-- **Framing round trip.**

- A body is decoded just when its type is known, it is not empty and it keeps the bound. The message
  is encoded as that body and has that type.
- Otherwise it is refused for its first fault: its type, its emptiness, its length.
- What came of decoding is decoded from its encoding and the written form of its type, under every
  bound that it keeps, and is too large for every other.
- It is decoded as well from the body of the response that carries it, under the type that the
  response declares. -/
theorem framing_round_trip (body : ByteArray) (declared : String) (bound : Nat) (m : Message) :
    ((∃ m, decode body declared bound = .ok m) ↔
      (∃ mediaType, MediaType.parse? declared = some mediaType) ∧ 0 < body.size ∧
        body.size ≤ bound) ∧
    (decode body declared bound = .ok m →
      m.encode = body ∧ MediaType.parse? declared = some m.mediaType) ∧
    (∀ failure, decode body declared bound = .error failure ↔
      ∃ fault, failure = .malformedMessage fault ∧ IsFirst body declared bound fault) ∧
    (IsDecoded m → ∀ bound,
      (m.length ≤ bound → decode m.encode m.mediaType.text bound = .ok m) ∧
      (bound < m.length →
        decode m.encode m.mediaType.text bound = .error (.malformedMessage .tooLarge))) ∧
    (IsDecoded m → ∀ bound, m.length ≤ bound → ∃ declared, m.response.contentType = some declared ∧
      decode m.response.body declared bound = .ok m) := by
  refine ⟨⟨?_, ?_⟩, fun h => ?_, fun failure => decode_eq_error_iff, fun h bound => ?_,
    fun h bound hfits => ⟨m.mediaType.text, rfl, ?_⟩⟩
  · -- What can be decoded has a type, a body and a length within the bound.
    rintro ⟨m, h⟩
    obtain ⟨hparse, -, hpos, hfits⟩ := decode_eq_ok_iff.mp h
    exact ⟨⟨m.mediaType, hparse⟩, hpos, hfits⟩
  · -- What has these can be decoded.
    rintro ⟨⟨mediaType, hparse⟩, hpos, hfits⟩
    exact ⟨⟨mediaType, body⟩, decode_eq_ok_iff.mpr ⟨hparse, rfl, hpos, hfits⟩⟩
  · -- The message holds the body and the type.
    obtain ⟨hparse, hpayload, -, -⟩ := decode_eq_ok_iff.mp h
    exact ⟨hpayload, hparse⟩
  · -- Encoded again, it can be decoded under the bounds that it fits.
    rw [decode_encode (isDecoded_iff.mp h)]
    exact ⟨fun hfits => if_pos hfits, fun hlong => if_neg (Nat.not_le.mpr hlong)⟩
  · -- So can the response that carries it.
    rw [response_eq, decode_encode (isDecoded_iff.mp h), if_pos hfits]

/-- Two bytes that were declared in capitals and between blanks come back from the response that
carries them. -/
theorem framing_round_trip_padded :
    decode ⟨#[1, 2]⟩ " Message/OHTTP-Res " 2 = .ok ⟨.response, ⟨#[1, 2]⟩⟩ ∧
    ∃ declared, (response ⟨.response, ⟨#[1, 2]⟩⟩).contentType = some declared ∧
      decode (response ⟨.response, ⟨#[1, 2]⟩⟩).body declared 2 = .ok ⟨.response, ⟨#[1, 2]⟩⟩ := by
  have hdecoded : decode ⟨#[1, 2]⟩ " Message/OHTTP-Res " 2 = .ok ⟨.response, ⟨#[1, 2]⟩⟩ := by
    decide +kernel
  exact ⟨hdecoded, (framing_round_trip ⟨#[1, 2]⟩ " Message/OHTTP-Res " 2
    ⟨.response, ⟨#[1, 2]⟩⟩).2.2.2.2 ⟨_, _, _, hdecoded⟩ 2 (by decide)⟩

/-- An empty body of an unknown type is refused for its type, and one of two bytes keeps a bound of
two and none of one. -/
example : decode .empty "text/plain" 0 = .error (.malformedMessage .mediaType) ∧
    decode ⟨#[1, 2]⟩ "message/ohttp-res" 2 = .ok ⟨.response, ⟨#[1, 2]⟩⟩ ∧
    decode ⟨#[1, 2]⟩ "message/ohttp-res" 1 = .error (.malformedMessage .tooLarge) := by
  decide +kernel

end Message

end ObliviousRelay
