import ObliviousRelay.Routing.Target

/-!
# What is asked of a message

A message is asked for twice: as an envelope where bytes come in, and by the policy of the target
that it is meant for. Both are told here as what is accepted and what is said of the rest, so that
neither is looked into again.

- `Message.decode_eq_ok_iff`, `Message.decode_of_parse?` are for the envelope.
- `Target.check_eq_ok_iff`, `Target.check_eq_error_iff` are for the policy.
-/

namespace ObliviousRelay

variable {m : Message} {failure : Failure}

namespace Message

variable {body : ByteArray} {declared : String} {bound : Nat} {mediaType : MediaType}

/-- How a body is judged whose declared type is known. -/
theorem decode_of_parse? (h : MediaType.parse? declared = some mediaType) :
    decode body declared bound =
      if body.size = 0 then .error (.malformedMessage .empty)
      else if bound < body.size then .error (.malformedMessage .tooLarge)
      else .ok ⟨mediaType, body⟩ := by
  rw [decode, h]

/-- What is accepted has a known type, is not empty and keeps its bound; it becomes a message as it
is. -/
theorem decode_eq_ok_iff : decode body declared bound = .ok m ↔
    MediaType.parse? declared = some m.mediaType ∧ m.payload = body ∧ 0 < body.size ∧
      body.size ≤ bound := by
  cases hparse : MediaType.parse? declared with
  | none => simp [decode, hparse]
  | some mediaType =>
    rw [decode_of_parse? hparse]
    split
    · -- An empty body is no message.
      simp_all
    · split
      · -- Nor is one that is over the bound.
        simp only [reduceCtorEq, false_iff]
        omega
      · cases m
        simp only [Except.ok.injEq, mk.injEq, Option.some.injEq]
        -- It is kept as it came, under the type that was read.
        constructor
        · rintro ⟨rfl, rfl⟩
          exact ⟨rfl, rfl, by omega, by omega⟩
        · rintro ⟨rfl, rfl, -, -⟩
          exact ⟨rfl, rfl⟩

end Message

namespace Target

variable {t : Target}

/-- The policy is met by a message of an accepted type that is not too long. -/
theorem check_eq_ok_iff :
    t.check m = .ok () ↔ m.mediaType ∈ t.acceptedMediaTypes ∧ m.length ≤ t.maxBodySize := by
  by_cases htype : m.mediaType ∈ t.acceptedMediaTypes
  · by_cases hsize : t.maxBodySize < m.length <;>
      simp [check, accepts, htype, hsize, Nat.le_of_not_lt]
  · simp [check, accepts, htype]

/-- A message of another type is refused for its type, and only then one that is too long. -/
theorem check_eq_error_iff : t.check m = .error failure ↔
    m.mediaType ∉ t.acceptedMediaTypes ∧ failure = .policyViolation ∨
      m.mediaType ∈ t.acceptedMediaTypes ∧ t.maxBodySize < m.length ∧
        failure = .malformedMessage .tooLarge := by
  by_cases htype : m.mediaType ∈ t.acceptedMediaTypes
  · by_cases hsize : t.maxBodySize < m.length <;>
      simp [check, accepts, htype, hsize, eq_comm]
  · simp [check, accepts, htype, eq_comm]

end Target

end ObliviousRelay
