import Mathlib.Data.List.TakeWhile
import ObliviousRelay.Url.Percent

/-!
# What has been encoded stays as it is

No character of an encoded component is one that has to be encoded, so that a component can be encoded
again and is not changed by it.

- `IsEncoded`: a text without characters of a set.
- `EncodeSet.IsProper`: a set of which controls and the space are, but nothing that stands in escapes.
- `isEncoded_percentEncode` and `percentEncode_of_isEncoded`.
-/

namespace ObliviousRelay.Url

variable {set : EncodeSet} {c : Char} {cs : List Char}

/-- A text that holds no character of a set. -/
def IsEncoded (set : EncodeSet) (cs : List Char) : Prop := ∀ c ∈ cs, set c = false

/-- What needs no encoding is left alone by it. -/
theorem percentEncode_of_isEncoded (h : IsEncoded set cs) : percentEncode set cs = cs := by
  induction cs with
  | nil => rfl
  | cons c cs ih =>
    obtain ⟨hc, hcs⟩ := List.forall_mem_cons.mp h
    have hkept : encodeChar set c = [c] := if_neg (by simp [hc])
    rw [percentEncode, List.flatMap_cons, hkept, ← percentEncode, ih hcs]
    rfl

/-- A set of characters to encode: controls and the space are among them, a percent sign and the digits
of an escape are not. -/
structure EncodeSet.IsProper (set : EncodeSet) : Prop where
  control : ∀ c, controlSet c = true → set c = true
  space : set ' ' = true
  percent : set '%' = false
  digit : ∀ n < 16, set (Text.hexDigitCapital n) = false

/-- The fragment set is proper. -/
theorem isProper_fragmentSet : fragmentSet.IsProper :=
  ⟨fun c h => by simp [fragmentSet, h], by decide, by decide, by decide⟩

/-- The path set is proper, as it holds the fragment set. -/
theorem isProper_pathSet : pathSet.IsProper :=
  ⟨fun c h => by simp [pathSet, fragmentSet, h], by decide, by decide, by decide⟩

/-- The userinfo set is proper, as it holds the path set. -/
theorem isProper_userinfoSet : userinfoSet.IsProper :=
  ⟨fun c h => by simp [userinfoSet, pathSet, fragmentSet, h], by decide, by decide, by decide⟩

/-- The query set of special schemes is proper. -/
theorem isProper_specialQuerySet : specialQuerySet.IsProper :=
  ⟨fun c h => by simp [specialQuerySet, querySet, h], by decide, by decide, by decide⟩

/-- An escape is a percent sign and two digits. -/
theorem mem_percentByte {b : UInt8} (hc : c ∈ percentByte b) :
    c = '%' ∨ ∃ n < 16, c = Text.hexDigitCapital n := by
  have hlt := b.toNat_lt
  simp only [percentByte, List.mem_cons, List.not_mem_nil, or_false] at hc
  rcases hc with rfl | rfl | rfl
  · exact .inl rfl
  · exact .inr ⟨_, by omega, rfl⟩
  · exact .inr ⟨_, by omega, rfl⟩

/-- An escape is encoded in every proper set: neither its sign nor its digits are to be encoded. -/
theorem isEncoded_percentByte (h : set.IsProper) (b : UInt8) : IsEncoded set (percentByte b) := by
  intro c hc
  obtain rfl | ⟨n, hn, rfl⟩ := mem_percentByte hc
  · exact h.percent
  · exact h.digit n hn

/-- Encoding one character leaves nothing to encode, whether it was escaped or kept. -/
theorem isEncoded_encodeChar (h : set.IsProper) (c : Char) : IsEncoded set (encodeChar set c) := by
  unfold encodeChar
  split
  · intro d hd
    obtain ⟨b, -, hb⟩ := List.mem_flatMap.mp hd
    exact isEncoded_percentByte h b d hb
  · next hc => simpa [IsEncoded] using hc

/-- **An encoded text holds nothing that has to be encoded.** -/
theorem isEncoded_percentEncode (h : set.IsProper) (cs : List Char) :
    IsEncoded set (percentEncode set cs) := by
  intro d hd
  obtain ⟨c, -, hc⟩ := List.mem_flatMap.mp hd
  exact isEncoded_encodeChar h c d hc

/-! ## Nothing is lost -/

/-- An array that holds a byte has a list that is not empty. -/
theorem toList_ne_nil {bs : ByteArray} (h : 0 < bs.size) : bs.toList ≠ [] := by
  -- Generalized to any index and any list collected so far, by induction on what is left to read.
  have hloop : ∀ n i r, bs.size - i = n → (i < bs.size ∨ r ≠ []) →
      ByteArray.toList.loop bs i r ≠ [] := by
    intro n
    induction n with
    | zero =>
      intro i r hi hr
      -- No byte is left, so that something has been collected.
      rw [ByteArray.toList.loop.eq_def, if_neg (by omega)]
      simpa using hr.resolve_left (by omega)
    | succ n ih =>
      intro i r hi hr
      rw [ByteArray.toList.loop.eq_def, if_pos (by omega)]
      -- One more byte is collected, so that the rest is settled by the second case.
      exact ih _ _ (by omega) (.inr (List.cons_ne_nil _ _))
  exact hloop _ 0 [] rfl (.inl h)

/-- No character is lost by encoding, whatever its bytes are. -/
theorem encodeChar_ne_nil (set : EncodeSet) (c : Char) : encodeChar set c ≠ [] := by
  unfold encodeChar
  split
  · -- Escaped: one escape for each byte of the character, and it has at least one.
    have hsize : 0 < (String.singleton c).toUTF8.size := by
      show 0 < (String.singleton c).utf8ByteSize
      rw [String.utf8ByteSize_singleton]
      exact c.utf8Size_pos
    obtain ⟨b, bs, hbytes⟩ := List.exists_cons_of_ne_nil (toList_ne_nil hsize)
    rw [hbytes, List.flatMap_cons]
    exact List.cons_ne_nil _ _
  · -- Kept as it is.
    exact List.cons_ne_nil _ _

/-- Only the empty text is encoded to the empty text. -/
theorem percentEncode_eq_nil_iff : percentEncode set cs = [] ↔ cs = [] := by
  cases cs with
  | nil => exact ⟨fun _ => rfl, fun _ => rfl⟩
  | cons c cs => simp [percentEncode, encodeChar_ne_nil]

/-! ## Characters that may stand in a URL -/

/-- A character that may stand in the text of a URL: neither a control nor the space. -/
def IsGraphic (c : Char) : Prop := 0x20 < c.toNat

instance (c : Char) : Decidable (IsGraphic c) := inferInstanceAs (Decidable (0x20 < c.toNat))

/-- What a proper set lets pass is neither a control nor the space. -/
theorem isGraphic_of_proper (h : set.IsProper) (hc : set c = false) : IsGraphic c := by
  have hcontrol : controlSet c = false := by
    cases hset : controlSet c with
    | false => rfl
    | true => exact (h.control c hset).symm.trans hc
  have hspace : c.toNat ≠ 0x20 := fun heq => by
    have hblank : c = ' ' := Char.toNat_inj.mp heq
    rw [hblank, h.space] at hc
    cases hc
  simp only [controlSet, Bool.or_eq_false_iff, decide_eq_false_iff_not] at hcontrol
  unfold IsGraphic
  omega

/-- An encoded text holds no controls and no spaces. -/
theorem IsEncoded.isGraphic (h : set.IsProper) (hcs : IsEncoded set cs) : ∀ c ∈ cs, IsGraphic c :=
  fun c hc => isGraphic_of_proper h (hcs c hc)

end ObliviousRelay.Url
