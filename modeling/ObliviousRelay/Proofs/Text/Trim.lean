import Mathlib.Data.List.DropRight
import ObliviousRelay.Text.Blank

/-!
# Trimming

Trimming takes the blank characters off both ends of a text and stops at the first character that is
not blank. What is left is told without the trimming: blank characters were on both sides of it, and
it has none at its own ends.

- `Text.Trims` is this relation between a text and what is left of it.
- `Text.trimChars_eq_iff`: trimming gives exactly what is left.
-/

namespace ObliviousRelay

/-! ## Taking off the end -/

section Ends

variable {α : Type} {p : α → Bool} {u v : List α}

/-- What is taken off the end may have been added there. -/
theorem rdropWhile_append_of_forall (hv : ∀ x ∈ v, p x = true) :
    (u ++ v).rdropWhile p = u.rdropWhile p := by
  have hend : (v.reverse ++ u.reverse).dropWhile p = u.reverse.dropWhile p :=
    List.dropWhile_append_of_pos fun x hx => hv x (List.mem_reverse.mp hx)
  rw [List.rdropWhile, List.reverse_append, hend, List.rdropWhile]

theorem rdropWhile_of_getLast? (hu : ∀ x, u.getLast? = some x → p x = false) :
    u.rdropWhile p = u := by
  rw [List.rdropWhile_eq_self_iff]
  intro hne
  simp [hu _ (List.getLast?_eq_some_getLast hne)]

end Ends

namespace Text

variable {cs w u v : List Char}

/-- A text is what trimming leaves of another: blank characters stood on both sides of it, and it
neither begins nor ends with one. -/
structure Trims (cs u : List Char) : Prop where
  padded : ∃ w v, cs = w ++ u ++ v ∧ (∀ c ∈ w, isBlank c = true) ∧ ∀ c ∈ v, isBlank c = true
  front : ∀ c, u.head? = some c → isBlank c = false
  back : ∀ c, u.getLast? = some c → isBlank c = false

theorem dropBlankEnd_eq (cs : List Char) : dropBlankEnd cs = cs.rdropWhile isBlank := rfl

/-- What trimming leaves is left by it. -/
theorem Trims.trimChars_eq (h : Trims cs u) : trimChars cs = u := by
  obtain ⟨⟨w, v, rfl, hw, hv⟩, hfront, hback⟩ := h
  have hpadding : dropBlank (w ++ (u ++ v)) = dropBlank (u ++ v) := List.dropWhile_append_of_pos hw
  rw [trimChars, List.append_assoc, hpadding]
  rcases u with - | ⟨c, rest⟩
  · -- There is nothing but padding.
    have hall : dropBlank v = [] := List.dropWhile_eq_nil_iff.mpr hv
    rw [List.nil_append, hall]
    rfl
  · -- The first character is not blank, and so the text starts with it.
    have hkept : dropBlank (c :: rest ++ v) = c :: rest ++ v :=
      List.dropWhile_cons_of_neg (by simp [hfront c rfl])
    rw [hkept, dropBlankEnd_eq, rdropWhile_append_of_forall hv, rdropWhile_of_getLast? hback]

/-- Trimming leaves something of every text. -/
theorem trims_trimChars (cs : List Char) : Trims cs (trimChars cs) := by
  have hfront : cs.takeWhile isBlank ++ dropBlank cs = cs := List.takeWhile_append_dropWhile
  have hback : trimChars cs ++ (dropBlank cs).rtakeWhile isBlank = dropBlank cs :=
    List.rdropWhile_append_rtakeWhile
  refine ⟨⟨cs.takeWhile isBlank, (dropBlank cs).rtakeWhile isBlank, ?_, ?_, ?_⟩, fun c hc => ?_,
    fun c hc => ?_⟩
  · rw [List.append_assoc, hback, hfront]
  · exact fun c => List.mem_takeWhile_imp
  · exact fun c => List.mem_rtakeWhile_imp
  · -- It begins as the text does after its blank characters.
    have hhead : (dropBlank cs).head? = some c := by
      rw [← hback, List.head?_append, hc]
      rfl
    have hnot := List.head?_dropWhile_not isBlank cs
    rw [show (cs.dropWhile isBlank).head? = some c from hhead] at hnot
    simpa using hnot
  · -- What is left is not empty, and it ends where dropping from the end stops.
    have hne : trimChars cs ≠ [] := by
      intro hnil
      rw [hnil] at hc
      cases hc
    have hlast := List.rdropWhile_last_not isBlank (dropBlank cs) hne
    rw [List.getLast?_eq_some_getLast hne, Option.some.injEq] at hc
    subst hc
    exact Bool.eq_false_iff.mpr hlast

/-- **Trimming gives what is left** of a text between its blank characters. -/
theorem trimChars_eq_iff : trimChars cs = u ↔ Trims cs u :=
  ⟨fun h => h ▸ trims_trimChars cs, Trims.trimChars_eq⟩

end Text

end ObliviousRelay
