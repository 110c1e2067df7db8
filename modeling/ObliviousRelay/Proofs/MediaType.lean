import ObliviousRelay.MediaType
import ObliviousRelay.Proofs.Text.Trim

/-!
# Spellings of media types

A media type is recognised by its letters, whatever their case and whatever blank characters stand
around them. No letter of a media type is blank in either case, so trimming stops at its ends.

- `Text.trimChars_padded`: padding is trimmed off, and nothing else.
- `Text.Spells` is a spelling of a text; `MediaType.parse?_of_spells` recognises those of a media
  type.
-/

namespace ObliviousRelay

namespace Text

/-! ## Letter case -/

theorem isUpper_iff {c : Char} : isUpper c = true ↔ 65 ≤ c.toNat ∧ c.toNat ≤ 90 := by
  simp only [isUpper, Bool.and_eq_true, decide_eq_true_eq]
  rfl

theorem toNat_ofNat {n : Nat} (h : n < 0xd800) : (Char.ofNat n).toNat = n := by
  rw [Char.ofNat, dif_pos (Or.inl h)]
  rfl

/-- The small forms are those of the ASCII letters. -/
theorem lower_eq_toLower (c : Char) : lower c = c.toLower := by
  have hupper : isUpper c = true ↔ c.val ≥ 'A'.val ∧ c.val ≤ 'Z'.val := isUpper_iff
  rw [lower]
  change _ = dite (c.val ≥ 'A'.val ∧ c.val ≤ 'Z'.val) _ _
  split
  · -- A capital letter moves by 32 in both definitions, and stays below the end of a word.
    next h =>
    obtain ⟨-, hmost⟩ := isUpper_iff.mp h
    rw [dif_pos (hupper.mp h)]
    apply Char.ext
    apply UInt32.toNat_inj.mp
    have hsum : (c.val + ('a'.val - 'A'.val)).toNat = c.toNat + 32 := by
      rw [UInt32.toNat_add]
      show (c.toNat + 32) % 2 ^ 32 = c.toNat + 32
      omega
    exact (toNat_ofNat (by omega)).trans hsum.symm
  · -- Any other character stays.
    next h => rw [dif_neg (mt hupper.mpr h)]

/-- A letter and its small form are not blank, so they are alike in this. -/
theorem isBlank_lower (c : Char) : isBlank (lower c) = isBlank c := by
  rw [lower]
  split
  · -- Neither a capital letter nor its small form is blank.
    next h =>
    obtain ⟨hleast, hmost⟩ := isUpper_iff.mp h
    rw [Bool.eq_iff_iff]
    simp only [isBlank, toNat_ofNat (show c.toNat + 32 < 0xd800 by omega), Bool.or_eq_true,
      Bool.and_eq_true, decide_eq_true_eq, beq_iff_eq]
    omega
  · rfl

/-! ## Padding -/

variable {w u v : List Char}

/-- **Padding is trimmed off**, and a text without blank characters is left of it. -/
theorem trimChars_padded (hw : ∀ c ∈ w, isBlank c = true) (hv : ∀ c ∈ v, isBlank c = true)
    (hu : ∀ c ∈ u, isBlank c = false) : trimChars (w ++ u ++ v) = u := by
  have hleft : Trims (w ++ u ++ v) u :=
    ⟨⟨w, v, rfl, hw, hv⟩, fun c hc => hu c (List.mem_of_head? hc),
      fun c hc => hu c (List.mem_of_getLast? hc)⟩
  exact hleft.trimChars_eq

/-! ## Spellings -/

/-- A text spells another if it is written as that one is, up to the case of ASCII letters, between
blank characters. -/
def Spells (written s : String) : Prop :=
  ∃ w u v, s.toList = w ++ u ++ v ∧ (∀ c ∈ w, isBlank c = true) ∧ (∀ c ∈ v, isBlank c = true) ∧
    u.map Char.toLower = written.toList.map Char.toLower

theorem Spells.refl (s : String) : Spells s s :=
  ⟨[], s.toList, [], by simp, by simp, by simp, rfl⟩

end Text

namespace MediaType

variable {m : MediaType} {s : String} {u : List Char}

/-- No character of a media type is blank, in either case. -/
theorem isBlank_of_letters (hu : u.map Text.lower = m.text.toList.map Text.lower) :
    ∀ c ∈ u, Text.isBlank c = false := by
  intro c hc
  have hlower : Text.lower c ∈ m.text.toList.map Text.lower := hu ▸ List.mem_map_of_mem hc
  -- a character is blank where its small form is, and the small forms are known
  have hall : (m.text.toList.map Text.lower).all (!Text.isBlank ·) = true := by
    cases m <;> decide
  rw [← Text.isBlank_lower]
  simpa using List.all_eq_true.mp hall _ hlower

/-- **Every spelling of a media type is recognised as this one.** -/
theorem parse?_of_spells (h : Text.Spells m.text s) : parse? s = some m := by
  obtain ⟨w, u, v, hs, hw, hv, hletters⟩ := h
  have hu : u.map Text.lower = m.text.toList.map Text.lower := by
    rw [funext Text.lower_eq_toLower]
    exact hletters
  have htrim : Text.trimChars s.toList = u := by
    rw [hs, Text.trimChars_padded hw hv (isBlank_of_letters hu)]
  simp only [parse?, htrim, Text.sameLetters, hu]
  -- The two media types differ in more than case.
  cases m <;> decide

end MediaType

end ObliviousRelay
