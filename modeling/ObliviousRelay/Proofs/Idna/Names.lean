import ObliviousRelay.Idna.Domain
import ObliviousRelay.Proofs.Text.Ascii
import ObliviousRelay.Proofs.Text.Split

/-!
# The characters of a domain name

The ASCII form of a name holds no character that is forbidden in one, neither in a label that is
written as it is nor in one that is written in ASCII.

- `Punycode.mem_encode` and `Punycode.mem_of_decode?`: what a label that is written in ASCII is made
  of, and one that is read from ASCII.
- `permitted_of_toAscii?`: no character of the ASCII form is forbidden.
-/

namespace ObliviousRelay.Idna

/-- Characters that may stand in a name. -/
def Permitted (cs : List Char) : Prop := ∀ c ∈ cs, isForbidden c = false

instance (cs : List Char) : Decidable (Permitted cs) := List.decidableBAll _ cs

variable {c : Char} {cs label : List Char}

theorem permitted_of_isAlphanumeric (h : Text.isAlphanumeric c = true) : isForbidden c = false := by
  have hall : ∀ n ∈ List.range 128, Text.isAlphanumeric (Char.ofNat n) = true →
      isForbidden (Char.ofNat n) = false := by decide +kernel
  exact Text.forall_ascii (P := fun c => Text.isAlphanumeric c = true → isForbidden c = false) hall
    (Text.lt_of_isAlphanumeric h) h

namespace Punycode

/-! ## Written labels -/

theorem threshold_le (position bias : Nat) : threshold position bias ≤ 26 := by
  unfold threshold
  split
  · omega
  · split <;> omega

theorem permitted_digit {n : Nat} (h : n < 36) : isForbidden (digit n) = false := by
  have hall : ∀ m ∈ List.range 36, isForbidden (digit m) = false := by decide
  exact hall n (List.mem_range.mpr h)

theorem permitted_digits (n position bias : Nat) : Permitted (digits n position bias) := by
  fun_induction digits n position bias with
  -- Below its threshold the number is one digit, the last.
  | case1 n position t hlt =>
    intro c hc
    obtain rfl := List.mem_singleton.mp hc
    exact permitted_digit (by have := threshold_le position bias; omega)
  -- Otherwise the digit is the threshold and a remainder of what lies above it, below the base.
  | case2 n position t hge ih =>
    have ht := threshold_le position bias
    have hmod : (n - t) % (36 - t) < 36 - t := Nat.mod_lt _ (by omega)
    intro c hc
    rcases List.mem_cons.mp hc with rfl | hc
    · exact permitted_digit (by omega)
    · exact ih c hc

theorem permitted_pass {codePoint basic : Nat} {w : Writing} (h : Permitted w.text) (c : Char) :
    Permitted (pass codePoint basic w c).text := by
  unfold pass
  split
  · exact h
  · split
    · -- What is written anew are digits.
      intro d hd
      rcases List.mem_append.mp hd with hd | hd
      · exact h d hd
      · exact permitted_digits _ _ _ d hd
    · exact h

theorem permitted_writeCodePoint {basic : Nat} {state : Writing × Nat} (label : List Char)
    (h : Permitted state.1.text) (codePoint : Nat) :
    Permitted (writeCodePoint label basic state codePoint).1.text :=
  List.foldlRecOn (motive := fun w : Writing => Permitted w.text) label (pass codePoint basic) h
    fun _ hw c _ => permitted_pass hw c

/-- A label that is written in ASCII is made of its own characters and of permitted ones. -/
theorem mem_encode (h : c ∈ encode label) : c ∈ label ∨ isForbidden c = false := by
  -- The code points are written one after another, each after the text of those before.
  have hfold : ∀ (points : List Nat) (basic : Nat) (state : Writing × Nat), Permitted state.1.text →
      Permitted (points.foldl (writeCodePoint label basic) state).1.text :=
    fun points basic state hstate =>
      List.foldlRecOn (motive := fun state : Writing × Nat => Permitted state.1.text) points _ hstate
        fun _ h point _ => permitted_writeCodePoint label h point
  unfold encode at h
  simp only [List.mem_append] at h
  rcases h with (h | h) | h
  · -- An ASCII character of the label itself.
    exact .inl ((List.mem_filter.mp h).1)
  · -- The hyphen behind these, written only if there are any.
    right
    split at h
    · cases h
    · obtain rfl := List.mem_singleton.mp h
      decide
  · -- A digit of a character that is not ASCII.
    exact .inr (hfold _ _ _ (fun c hc => by cases hc) c h)

/-! ## Labels that are read -/

theorem permitted_of_digitValue? {d : Nat} (h : digitValue? c = some d) : isForbidden c = false := by
  refine permitted_of_isAlphanumeric ?_
  by_contra hother
  simp only [Text.isAlphanumeric, Text.isLetter, Bool.or_eq_true, not_or] at hother
  simp [digitValue?, hother] at h

theorem subset_of_insert? {r r' : Reading} (h : insert? r = some r') : r.label ⊆ r'.label := by
  obtain ⟨inserted, -, rfl⟩ := Option.map_eq_some_iff.mp h
  intro c hc
  simp only [List.mem_append, List.mem_cons]
  rw [← List.take_append_drop (r.place % (r.label.length + 1)) r.label] at hc
  exact (List.mem_append.mp hc).imp_right .inr

/-- What is read is a digit, and nothing is taken out of the label. -/
theorem subset_of_readDigit? {r r' : Reading} (h : readDigit? r c = some r') :
    isForbidden c = false ∧ r.label ⊆ r'.label := by
  unfold readDigit? at h
  split at h
  · cases h
  · next d hd =>
    refine ⟨permitted_of_digitValue? hd, ?_⟩
    simp only at h
    split at h
    · cases h
    · split at h
      · -- The number ends here, and its character goes into the label.
        have hinsert := subset_of_insert? h
        exact hinsert
      · -- The number goes on: the label stays as it is.
        split at h
        · cases h
        · obtain rfl := Option.some.inj h
          exact List.Subset.refl _

theorem subset_of_foldlM {r r' : Reading} (h : cs.foldlM readDigit? r = some r') :
    Permitted cs ∧ r.label ⊆ r'.label := by
  induction cs generalizing r with
  | nil =>
    obtain rfl := Option.some.inj h
    exact ⟨fun _ hc => absurd hc List.not_mem_nil, List.Subset.refl _⟩
  | cons c cs ih =>
    rw [List.foldlM_cons] at h
    obtain ⟨next, hstep, hrest⟩ := Option.bind_eq_some_iff.mp h
    obtain ⟨hc, hnext⟩ := subset_of_readDigit? hstep
    obtain ⟨hcs, hlast⟩ := ih hrest
    exact ⟨List.forall_mem_cons.mpr ⟨hc, hcs⟩, List.Subset.trans hnext hlast⟩

/-- The two parts of a label, with a hyphen between them, are all of it. -/
theorem mem_splitLabel (h : c ∈ cs) :
    c ∈ (splitLabel cs).1 ∨ c = '-' ∨ c ∈ (splitLabel cs).2 := by
  obtain ⟨-, hwhole | ⟨x, hx, hsplit⟩⟩ := exists_split_last (fun d => decide (d ≠ '-')) cs
  · rw [hwhole] at h
    exact .inr (.inr h)
  · rw [hsplit, List.mem_append, List.mem_cons] at h
    obtain rfl : x = '-' := by simpa using hx
    exact h

/-- A label that is read from ASCII was made of its own characters and of permitted ones. -/
theorem mem_of_decode? (h : decode? cs = some label) (hc : c ∈ cs) :
    c ∈ label ∨ isForbidden c = false := by
  unfold decode? at h
  simp only at h
  split at h
  · split at h
    · next r hfold =>
      obtain ⟨hdigits, hbasic⟩ := subset_of_foldlM hfold
      split at h
      · obtain rfl := Option.some.inj h
        -- A cut at the last hyphen leaves the part before it, the hyphen and the digits.
        rcases mem_splitLabel hc with hc | rfl | hc
        · exact .inl (hbasic hc)
        · exact .inr (by decide)
        · exact .inr (hdigits c hc)
      · cases h
    · cases h
  · cases h

end Punycode

/-! ## Names -/

/-- The ASCII form of a label is permitted if its characters are. -/
theorem permitted_of_ofMapped? {l : Label} (h : Label.ofMapped? cs = some l)
    (hl : Permitted l.characters) : Permitted l.ascii := by
  have hmarker : Permitted marker := by decide
  unfold Label.ofMapped? at h
  split at h
  · next hmarked =>
    -- The label was written in ASCII already.
    obtain ⟨written, rfl⟩ := List.isPrefixOf_iff_prefix.mp hmarked
    unfold Label.ofMarked? at h
    rw [List.drop_left] at h
    simp only at h
    split at h
    · cases h
    · split at h
      · cases h
      · next label hdecode =>
        split at h
        · cases h
        · obtain rfl := Option.some.inj h
          intro c hc
          rcases List.mem_append.mp hc with hc | hc
          · exact hmarker c hc
          · exact (Punycode.mem_of_decode? hdecode hc).elim (hl c) id
  -- It was not: it stays if all of it is ASCII, and is encoded if not.
  · split at h
    · obtain rfl := Option.some.inj h
      exact hl
    · split at h
      · cases h
      · obtain rfl := Option.some.inj h
        intro c hc
        rcases List.mem_append.mp hc with hc | hc
        · exact hmarker c hc
        · exact (Punycode.mem_encode hc).elim (hl c) id

theorem permitted_of_areName {labels : List Label} (h : areName labels = true) :
    ∀ l ∈ labels, Permitted l.characters := by
  intro l hl c hc
  have hlabel := List.all_eq_true.mp h l.characters (List.mem_map_of_mem hl)
  simp only [Bool.and_eq_true, Bool.not_eq_true', List.any_eq_false] at hlabel
  simpa using hlabel.1.1 c hc

/-- Each label comes from a part of the name. -/
theorem exists_of_ofMapped? {parts : List (List Char)} {labels : List Label}
    (h : parts.mapM Label.ofMapped? = some labels) {l : Label} (hl : l ∈ labels) :
    ∃ part, Label.ofMapped? part = some l := by
  induction parts generalizing labels with
  | nil =>
    obtain rfl := Option.some.inj h
    cases hl
  | cons part parts ih =>
    rw [List.mapM_cons] at h
    obtain ⟨first, hfirst, hrest⟩ := Option.bind_eq_some_iff.mp h
    obtain ⟨rest, hparts, heq⟩ := Option.bind_eq_some_iff.mp hrest
    obtain rfl := Option.some.inj heq
    rcases List.mem_cons.mp hl with rfl | hl
    · exact ⟨part, hfirst⟩
    · exact ih hparts hl

theorem permitted_intercalate {labels : List (List Char)} (h : ∀ l ∈ labels, Permitted l) :
    Permitted (['.'].intercalate labels) := by
  induction labels with
  | nil => exact fun c hc => by cases hc
  | cons l labels ih =>
    obtain ⟨hl, hlabels⟩ := List.forall_mem_cons.mp h
    by_cases hne : labels = []
    · simpa [hne, List.intercalate] using hl
    · rw [List.intercalate_cons_of_ne_nil hne]
      intro c hc
      rcases List.mem_append.mp hc with hc | hc
      · rcases List.mem_append.mp hc with hc | hc
        · exact hl c hc
        · obtain rfl := List.mem_singleton.mp hc
          decide
      · exact ih hlabels c hc

/-- **No character of an ASCII form is forbidden.** -/
theorem permitted_of_toAscii? {name : List Char} (h : toAscii? name = some cs) : Permitted cs := by
  unfold toAscii? at h
  split at h
  · cases h
  · split at h
    · cases h
    · next labels hlabels =>
      split at h
      · next hname =>
        obtain rfl := Option.some.inj h
        have hall : ∀ l ∈ labels, Permitted l.ascii := by
          intro l hl
          obtain ⟨part, hmapped⟩ := exists_of_ofMapped? hlabels hl
          exact permitted_of_ofMapped? hmapped (permitted_of_areName hname l hl)
        exact permitted_intercalate (by simpa using hall)
      · cases h

end ObliviousRelay.Idna
