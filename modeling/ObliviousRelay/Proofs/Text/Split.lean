import Mathlib.Data.List.TakeWhile

/-!
# Splitting texts

A text comes apart at the first place at which a test fails, or at the last one, and nothing of it is
lost.

- `takeWhile_append_stop` and `dropWhile_append_stop`: the first place, where it is known.
- `exists_split_last`: the last place, found from the end of the text.
- `marked`: a part that is told apart by the mark before it.
-/

namespace ObliviousRelay

variable {α : Type} {p : α → Bool} {u v : List α}

/-- A list at whose front a test fails, if it has any. -/
def StopsAtFront (p : α → Bool) (v : List α) : Prop := ∀ x ∈ v.head?, p x = false

theorem stopsAtFront_nil : StopsAtFront p [] := fun _ hx => by cases hx

theorem stopsAtFront_cons {x : α} (h : p x = false) : StopsAtFront p (x :: v) := fun y hy => by
  obtain rfl := Option.some.inj hy
  exact h

theorem StopsAtFront.takeWhile_eq (h : StopsAtFront p v) : v.takeWhile p = [] := by
  cases v with
  | nil => rfl
  | cons x v => exact List.takeWhile_cons_of_neg (by simp [h x rfl])

theorem StopsAtFront.dropWhile_eq (h : StopsAtFront p v) : v.dropWhile p = v := by
  cases v with
  | nil => rfl
  | cons x v => exact List.dropWhile_cons_of_neg (by simp [h x rfl])

theorem takeWhile_append_stop (hu : ∀ x ∈ u, p x = true) (hv : StopsAtFront p v) :
    (u ++ v).takeWhile p = u := by
  rw [List.takeWhile_append_of_pos hu, hv.takeWhile_eq, List.append_nil]

theorem dropWhile_append_stop (hu : ∀ x ∈ u, p x = true) (hv : StopsAtFront p v) :
    (u ++ v).dropWhile p = v := by
  rw [List.dropWhile_append_of_pos hu, hv.dropWhile_eq]

theorem forall_bne_of_notMem [DecidableEq α] {x : α} (h : x ∉ u) : ∀ y ∈ u, (y != x) = true := by
  rintro y hy
  by_contra heq
  obtain rfl : y = x := by simpa using heq
  exact h hy

/-- What is found from the end is a whole list, or follows the last place at which the test fails. -/
theorem exists_split_last (p : α → Bool) (l : List α) :
    let last := (l.reverse.takeWhile p).reverse
    (∀ x ∈ last, p x = true) ∧
      (l = last ∨ ∃ x, p x = false ∧ l = l.take (l.length - last.length - 1) ++ x :: last) := by
  intro last
  have hlast : ∀ x ∈ last, p x = true := fun x hx =>
    List.mem_takeWhile_imp (List.mem_reverse.mp hx)
  -- The text is what the search from the end leaves and what it takes.
  have hall : l = (l.reverse.dropWhile p).reverse ++ last := by
    rw [← List.reverse_append, List.takeWhile_append_dropWhile, List.reverse_reverse]
  refine ⟨hlast, ?_⟩
  cases hfront : l.reverse.dropWhile p with
  | nil =>
    rw [hfront, List.reverse_nil, List.nil_append] at hall
    -- The test holds everywhere.
    exact .inl hall
  | cons x front =>
    right
    -- What stops the search is the last place at which the test fails.
    have hx : p x = false := by
      have hhead := List.head?_dropWhile_not p l.reverse
      rw [hfront] at hhead
      simpa using hhead
    rw [hfront, List.reverse_cons, List.append_assoc, List.singleton_append] at hall
    -- In front of it there is the rest of the text, and so the cut is there.
    have hlength : l.length - last.length - 1 = front.reverse.length := by
      have hcount := congrArg List.length hall
      rw [List.length_append, List.length_cons] at hcount
      omega
    refine ⟨x, hx, ?_⟩
    have htake : l.take front.reverse.length = front.reverse := by rw [hall, List.take_left]
    rw [hlength, htake]
    exact hall

/-! ## Parts after a mark -/

/-- A part of a text that is written after a mark, if there is one. -/
def marked (mark : α) : Option (List α) → List α
  | none => []
  | some part => mark :: part

theorem stopsAtFront_marked {mark : α} (h : p mark = false) (part : Option (List α)) :
    StopsAtFront p (marked mark part) := by
  cases part with
  | none => exact stopsAtFront_nil
  | some part => exact stopsAtFront_cons h

theorem forall_mem_marked {P : α → Prop} {mark : α} {part : Option (List α)} (hmark : P mark)
    (hpart : ∀ v, part = some v → ∀ x ∈ v, P x) : ∀ x ∈ marked mark part, P x := by
  cases part with
  | none => exact fun x hx => by cases hx
  | some part => exact List.forall_mem_cons.mpr ⟨hmark, hpart part rfl⟩

end ObliviousRelay
