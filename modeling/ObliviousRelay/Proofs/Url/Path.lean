import ObliviousRelay.Proofs.Url.Encoding
import ObliviousRelay.Url.Parser

/-!
# Paths in normal form

The path of a URL with a special scheme is made of segments that are encoded, hold no separator and are
no dot segments. Such a path is read as it is.

- `IsSegment` and `IsPath`: what a segment is, and a path in normal form.
- `isPath_parsePath`: what is read has the normal form; `parsePath_of_isPath`: it is read again.
-/

namespace ObliviousRelay.Url

variable {s cs rest p : List Char} {segments : List (List Char)} {c : Char}

/-- A piece of a segment: encoded, and without separators. -/
def IsPiece (cs : List Char) : Prop := ∀ c ∈ cs, pathSet c = false ∧ isSeparator .special c = false

/-- A segment that is left as it is. -/
structure IsSegment (s : List Char) : Prop where
  piece : IsPiece s
  double : isDoubleDot s = false
  single : isSingleDot s = false

/-- A path in normal form. -/
def IsPath (p : List Char) : Prop :=
  ∃ ss : List (List Char), ss ≠ [] ∧ (∀ s ∈ ss, IsSegment s) ∧ p = ss.flatMap ('/' :: ·)

/-! ## What is read -/

theorem isPiece_nil : IsPiece [] := fun _ hc => absurd hc List.not_mem_nil

theorem isSegment_nil : IsSegment [] := ⟨isPiece_nil, by decide, by decide⟩

theorem mem_of_dropSegment (h : s ∈ dropSegment segments) : s ∈ segments := by
  unfold dropSegment at h
  split at h
  · split at h
    · exact h
    · exact List.mem_cons_of_mem _ h
  · exact h

theorem isSegment_of_pushSegment (hall : ∀ s ∈ segments, IsSegment s) (hcs : IsPiece cs)
    (hs : s ∈ pushSegment .special segments cs) : IsSegment s := by
  unfold pushSegment at hs
  split at hs
  -- Two dots take the last segment away.
  · exact hall s (mem_of_dropSegment hs)
  · next hdouble =>
    -- One dot adds no segment.
    split at hs
    · exact hall s hs
    · next hsingle =>
      rw [if_neg (by simp)] at hs
      rcases List.mem_cons.mp hs with rfl | hs
      · exact ⟨hcs, by simpa using hdouble, by simpa using hsingle⟩
      · exact hall s hs

theorem isSegment_of_endSegment (hall : ∀ s ∈ segments, IsSegment s) (hcs : IsPiece cs)
    (hs : s ∈ endSegment .special segments cs) : IsSegment s := by
  unfold endSegment at hs
  split at hs
  -- After two dots, at the end, an empty segment follows what is left.
  · rcases List.mem_cons.mp hs with rfl | hs
    · exact isSegment_nil
    · exact hall s (mem_of_dropSegment hs)
  -- After one dot an empty segment follows as well.
  · split at hs
    · rcases List.mem_cons.mp hs with rfl | hs
      · exact isSegment_nil
      · exact hall s hs
    · exact isSegment_of_pushSegment hall hcs hs

theorem endSegment_ne_nil : endSegment .special segments cs ≠ [] := by
  unfold endSegment
  split
  · exact List.cons_ne_nil _ _
  · next hdouble =>
    split
    · exact List.cons_ne_nil _ _
    · next hsingle => simp [pushSegment, hdouble, hsingle]

/-- An encoded character is no separator, unless it was one. -/
theorem isPiece_encodeChar (h : isSeparator .special c = false) : IsPiece (encodeChar pathSet c) := by
  intro d hd
  refine ⟨isEncoded_encodeChar isProper_pathSet c d hd, ?_⟩
  unfold encodeChar at hd
  split at hd
  -- An encoded character is written with a percent sign and digits.
  · obtain ⟨b, -, hb⟩ := List.mem_flatMap.mp hd
    have hdigit : ∀ n < 16, isSeparator .special (Text.hexDigitCapital n) = false := by decide
    obtain rfl | ⟨n, hn, rfl⟩ := mem_percentByte hb
    · rfl
    · exact hdigit n hn
  -- One that is kept is the character itself.
  · obtain rfl := List.mem_singleton.mp hd
    exact h

theorem readSegments_spec (hall : ∀ s ∈ segments, IsSegment s) (hcs : IsPiece cs.reverse)
    (rest : List Char) : readSegments .special segments cs rest ≠ [] ∧
      ∀ s ∈ readSegments .special segments cs rest, IsSegment s := by
  induction rest generalizing segments cs with
  | nil => exact ⟨endSegment_ne_nil, fun s hs => isSegment_of_endSegment hall hcs hs⟩
  | cons c rest ih =>
    rw [readSegments]
    split
    -- A slash ends the segment and begins an empty one.
    · exact ih (fun s hs => isSegment_of_pushSegment hall hcs hs) isPiece_nil
    · next hc =>
      -- Any other character goes on with the segment, encoded.
      refine ih hall fun d hd => ?_
      rw [List.reverse_append, List.reverse_reverse] at hd
      rcases List.mem_append.mp hd with hd | hd
      · exact hcs d hd
      · exact isPiece_encodeChar (by simpa using hc) d hd

/-- **A path that was read has the normal form.** -/
theorem isPath_parsePath (cs : List Char) : IsPath (parsePath .special cs) := by
  have hread : ∀ rest, IsPath (pathText (readSegments .special [] [] rest)) := by
    intro rest
    have hnone : ∀ s ∈ ([] : List (List Char)), IsSegment s := fun s hs => by cases hs
    have hnothing : IsPiece ([] : List Char).reverse := isPiece_nil
    obtain ⟨hne, hall⟩ := readSegments_spec hnone hnothing rest
    exact ⟨_, by simpa using hne, fun s hs => hall s (List.mem_reverse.mp hs), rfl⟩
  cases cs <;> exact hread _

/-! ## What is read again -/

theorem readSegments_append (h : IsPiece s) (cs rest : List Char) :
    readSegments .special segments cs (s ++ rest) =
      readSegments .special segments (s.reverse ++ cs) rest := by
  induction s generalizing cs with
  | nil => rfl
  | cons c s ih =>
    obtain ⟨⟨hset, hseparator⟩, hs⟩ := List.forall_mem_cons.mp h
    have hkept : encodeChar pathSet c = [c] := if_neg (by simp [hset])
    rw [List.cons_append, readSegments, if_neg (by simp [hseparator]), hkept, ih hs]
    simp

theorem pushSegment_of_isSegment (h : IsSegment s) :
    pushSegment .special segments s = s :: segments := by
  simp [pushSegment, h.double, h.single]

theorem endSegment_of_isSegment (h : IsSegment s) :
    endSegment .special segments s = s :: segments := by
  simp [endSegment, h.double, h.single, pushSegment_of_isSegment h]

/-- Segments are read as they are. -/
theorem readSegments_of_isSegment (s : List Char) (ss : List (List Char))
    (h : ∀ t ∈ s :: ss, IsSegment t) :
    readSegments .special segments [] (s ++ ss.flatMap ('/' :: ·)) = (s :: ss).reverse ++ segments := by
  induction ss generalizing s segments with
  -- The last segment ends with the text.
  | nil =>
    have hs := h s List.mem_cons_self
    rw [readSegments_append hs.piece, List.flatMap_nil, readSegments]
    simp [endSegment_of_isSegment hs]
  -- A segment before others ends at the slash of the next.
  | cons t ss ih =>
    have hs := h s List.mem_cons_self
    rw [readSegments_append hs.piece, List.flatMap_cons, List.cons_append, readSegments,
      if_pos (by decide), List.append_nil, List.reverse_reverse, pushSegment_of_isSegment hs,
      ih t fun u hu => h u (List.mem_cons_of_mem _ hu)]
    simp

/-- **A path in normal form is read as it is.** -/
theorem parsePath_of_isPath (h : IsPath p) : parsePath .special p = p := by
  obtain ⟨ss, hne, hall, rfl⟩ := h
  cases ss with
  | nil => exact absurd rfl hne
  | cons s ss =>
    have hread : readSegments .special [] [] (s ++ ss.flatMap ('/' :: ·)) = (s :: ss).reverse ++ [] :=
      readSegments_of_isSegment s ss hall
    show pathText (readSegments .special [] [] (s ++ ss.flatMap ('/' :: ·))) = _
    rw [hread, List.append_nil, pathText, List.reverse_reverse]

/-! ## Its characters -/

theorem IsPath.exists_slash (h : IsPath p) : ∃ rest, p = '/' :: rest := by
  obtain ⟨ss, hne, -, rfl⟩ := h
  cases ss with
  | nil => exact absurd rfl hne
  | cons s ss => exact ⟨_, rfl⟩

theorem IsPath.isEncoded (h : IsPath p) : IsEncoded pathSet p := by
  obtain ⟨ss, -, hall, rfl⟩ := h
  intro c hc
  obtain ⟨s, hs, hc⟩ := List.mem_flatMap.mp hc
  rcases List.mem_cons.mp hc with rfl | hc
  · decide
  · exact ((hall s hs).piece c hc).1

end ObliviousRelay.Url
