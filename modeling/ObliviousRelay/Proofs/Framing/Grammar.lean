import ObliviousRelay.Config.Decode
import ObliviousRelay.Proofs.MediaType

/-!
# The grammar of media types

Which texts name a media type: its written form up to the case of ASCII letters, between blank
characters, and nothing else. A text is compared by its core, that is, by what trimming leaves of
it, in small letters.

- `Text.core_of_spells`: padding a text and changing the case of its letters leave its core alone.
- `MediaType.parse?_eq_some_iff_spells`: what is recognised are the spellings.
- `MediaType.Strict` is what a recognised text has nothing beside.
- `MediaType.media_type_grammar`: the grammar, and the two ways to read a text by it.
-/

namespace ObliviousRelay

namespace Text

variable {cs w u v : List Char} {s t : String}

/-! ## Trimming, padding and letter case -/

/-- Blank characters around a text are trimmed. -/
theorem trimChars_append_blank (hw : ∀ c ∈ w, isBlank c = true) (hv : ∀ c ∈ v, isBlank c = true) :
    trimChars (w ++ u ++ v) = trimChars u := by
  obtain ⟨⟨w', v', hu, hw', hv'⟩, hfront, hback⟩ := trims_trimChars u
  refine Trims.trimChars_eq ⟨⟨w ++ w', v' ++ v, ?_, ?_, ?_⟩, hfront, hback⟩
  · conv_lhs => rw [hu]
    simp only [List.append_assoc]
  · exact fun c hc => (List.mem_append.mp hc).elim (hw c) (hw' c)
  · exact fun c hc => (List.mem_append.mp hc).elim (hv' c) (hv c)

/-- Lowering leaves blank characters blank. -/
theorem forall_isBlank_map_lower (hw : ∀ c ∈ w, isBlank c = true) :
    ∀ c ∈ w.map lower, isBlank c = true := by
  intro c hc
  obtain ⟨b, hb, rfl⟩ := List.mem_map.mp hc
  rw [isBlank_lower]
  exact hw b hb

/-- Trimming does not look at the case of letters. -/
theorem trimChars_map_lower (cs : List Char) :
    trimChars (cs.map lower) = (trimChars cs).map lower := by
  -- The padding is lowered with the text, and stays padding.
  obtain ⟨⟨w, v, hcs, hw, hv⟩, hfront, hback⟩ := trims_trimChars cs
  refine Trims.trimChars_eq ⟨⟨w.map lower, v.map lower, ?_, forall_isBlank_map_lower hw,
    forall_isBlank_map_lower hv⟩, fun c hc => ?_, fun c hc => ?_⟩
  · conv_lhs => rw [hcs]
    simp only [List.map_append]
  · -- Lowering makes no blank character in front.
    obtain ⟨b, hb, rfl⟩ := Option.map_eq_some_iff.mp (List.head?_map ▸ hc)
    rw [isBlank_lower]
    exact hfront b hb
  · -- Nor at the end.
    obtain ⟨b, hb, rfl⟩ := Option.map_eq_some_iff.mp (List.getLast?_map ▸ hc)
    rw [isBlank_lower]
    exact hback b hb

/-! ## The core of a text -/

/-- What a text is compared by: what trimming leaves of it, in small letters. -/
def core (s : String) : List Char := (trimChars s.toList).map lower

/-- **Every spelling of a text has its core**, whatever the text. -/
theorem core_of_spells (h : Spells s t) : core t = core s := by
  obtain ⟨w, u, v, ht, hw, hv, hletters⟩ := h
  have hlower : u.map lower = s.toList.map lower := by
    rw [funext lower_eq_toLower]
    exact hletters
  rw [core, core, ht, trimChars_append_blank hw hv, ← trimChars_map_lower, hlower,
    trimChars_map_lower]

/-- A text whose core is another one, in small letters, is a spelling of it. -/
theorem spells_of_core (h : core t = s.toList.map lower) : Spells s t := by
  obtain ⟨⟨w, v, ht, hw, hv⟩, -, -⟩ := trims_trimChars t.toList
  refine ⟨w, trimChars t.toList, v, ht, hw, hv, ?_⟩
  rw [← funext lower_eq_toLower]
  exact h

end Text

namespace MediaType

open Text (isBlank lower Spells core)

variable {m other : MediaType} {s t : String} {d : Config.Dialect}

/-! ## What is recognised -/

/-- The written forms are in small letters. -/
theorem map_lower_text (m : MediaType) : m.text.toList.map lower = m.text.toList := by
  cases m <;> decide

/-- No two types have the same text. -/
theorem text_inj (h : m.text.toList = other.text.toList) : m = other := by
  cases m <;> cases other <;> first | rfl | exact absurd h (by decide)

/-- A text is recognised by its core alone. -/
theorem parse?_eq_some_iff_core : parse? s = some m ↔ core s = m.text.toList := by
  -- The written forms are in small letters already: only the text has to be lowered.
  have hsame (m : MediaType) : Text.sameLetters (Text.trimChars s.toList) m.text.toList =
      (core s == m.text.toList) := by
    rw [Text.sameLetters, map_lower_text, core]
  simp only [parse?, hsame, beq_iff_eq]
  split
  -- The text is that of the request type.
  · next hrequest =>
    rw [hrequest, Option.some.injEq]
    exact ⟨fun h => h ▸ rfl, text_inj⟩
  · next hrequest =>
    split
    -- The text is that of the response type.
    · next hresponse =>
      rw [hresponse, Option.some.injEq]
      exact ⟨fun h => h ▸ rfl, text_inj⟩
    -- The text is neither, and there is no other type.
    · next hresponse =>
      constructor
      · intro h
        cases h
      · intro h
        cases m
        · exact absurd h hrequest
        · exact absurd h hresponse

/-- **What is recognised as a media type are its spellings.** -/
theorem parse?_eq_some_iff_spells : parse? s = some m ↔ Spells m.text s := by
  refine ⟨fun h => Text.spells_of_core ?_, parse?_of_spells⟩
  rw [map_lower_text]
  exact parse?_eq_some_iff_core.mp h

/-- Texts of one core are recognised alike. -/
theorem parse?_of_core_eq (h : core t = core s) : parse? t = parse? s := by
  ext m
  rw [parse?_eq_some_iff_core, parse?_eq_some_iff_core, h]

/-! ## What is not -/

/-- A text holds nothing beside a media type and the blank characters around it: each character is
blank or, up to case, one of the ASCII characters of the type, and none that is blank stands between
others. So there is no room for a parameter, a suffix or a letter that only looks the same. -/
structure Strict (m : MediaType) (s : String) : Prop where
  letters : ∀ c ∈ s.toList, isBlank c = true ∨ c.toNat < 128 ∧ c.toLower ∈ m.text.toList
  unbroken : ∀ before c after, s.toList = before ++ c :: after → isBlank c = true →
    (∀ b ∈ before, isBlank b = true) ∨ ∀ b ∈ after, isBlank b = true
  alone : ∀ more : String, (∃ c ∈ more.toList, isBlank c = false) →
    parse? (s ++ more) = none ∧ parse? (more ++ s) = none

/-- The characters of a text that are not blank. -/
def visible (s : String) : List Char := s.toList.filter (!isBlank ·)

/-- What is visible of two texts is visible of both together. -/
theorem visible_append (s t : String) : visible (s ++ t) = visible s ++ visible t := by
  rw [visible, String.toList_append, List.filter_append, visible, visible]

/-- A spelling of a media type shows the letters of the type, one after another. -/
theorem visible_of_parse? (h : parse? s = some m) : (visible s).map lower = m.text.toList := by
  -- Of what is written, the padding is not visible and the type is visible as a whole.
  obtain ⟨w, u, v, hs, hw, hv, hletters⟩ := parse?_eq_some_iff_spells.mp h
  have hu : u.map lower = m.text.toList.map lower := by
    rw [funext Text.lower_eq_toLower]
    exact hletters
  have hnone {w : List Char} (hw : ∀ c ∈ w, isBlank c = true) : w.filter (!isBlank ·) = [] :=
    List.filter_eq_nil_iff.mpr fun c hc => by simp [hw c hc]
  have hall : u.filter (!isBlank ·) = u :=
    List.filter_eq_self.mpr fun c hc => by simp [isBlank_of_letters hu c hc]
  rw [visible, hs, List.filter_append, List.filter_append, hnone hw, hnone hv, hall,
    List.nil_append, List.append_nil, hu, map_lower_text]

/-- Both media types have as many letters. -/
theorem length_visible (h : parse? s = some m) : (visible s).length = 17 := by
  have hlength := congrArg List.length (visible_of_parse? h)
  rw [List.length_map] at hlength
  rw [hlength]
  cases m <;> decide

/-- The letters of a type are plain ones. -/
theorem toNat_of_lower_mem {c : Char} (h : lower c ∈ m.text.toList) : c.toNat < 128 := by
  rw [lower] at h
  split at h
  · next hupper =>
    have := (Text.isUpper_iff.mp hupper).2
    omega
  · have hall : m.text.toList.all (·.toNat < 128) = true := by cases m <;> decide
    simpa using List.all_eq_true.mp hall c h

/-- **Nothing else stands in what is recognised.** -/
theorem strict_of_parse? (h : parse? s = some m) : Strict m s := by
  -- Whatever is visible is a letter of the type, once lowered.
  have hletters : ∀ c ∈ s.toList, isBlank c = false → lower c ∈ m.text.toList := by
    intro c hc hblank
    rw [← visible_of_parse? h]
    exact List.mem_map_of_mem (List.mem_filter.mpr ⟨hc, by simp [hblank]⟩)
  refine ⟨fun c hc => ?_, fun before c after hs hblank => ?_, fun more hmore => ?_⟩
  -- Each character is blank or a letter of the type.
  · cases hblank : isBlank c with
    | true => exact .inl rfl
    | false =>
      have hlower := hletters c hc hblank
      exact .inr ⟨toNat_of_lower_mem hlower, Text.lower_eq_toLower c ▸ hlower⟩
  · -- The blank character belongs to the padding on one of the two sides.
    obtain ⟨w, u, v, hpadded, hw, hv, hu⟩ := parse?_eq_some_iff_spells.mp h
    rw [← funext Text.lower_eq_toLower] at hu
    rw [hpadded] at hs
    rcases List.append_eq_append_iff.mp hs with ⟨inner, -, hrest⟩ | ⟨inner, hwu, hrest⟩
    · refine .inr fun b hb => hv b ?_
      rw [hrest]
      exact List.mem_append_right _ (List.mem_cons_of_mem _ hb)
    · rcases List.append_eq_append_iff.mp hwu with ⟨rest, -, hinner⟩ | ⟨rest, hw', -⟩
      · -- It would be a letter of the type, or it follows all of them.
        cases inner with
        | nil =>
          refine .inr fun b hb => hv b ?_
          rw [List.nil_append] at hrest
          rw [← hrest]
          exact List.mem_cons_of_mem _ hb
        | cons c' inner =>
          obtain ⟨rfl, -⟩ := List.cons.inj hrest
          have hmem : c ∈ u := hinner ▸ List.mem_append_right _ List.mem_cons_self
          rw [isBlank_of_letters hu c hmem] at hblank
          cases hblank
      · -- It stands in the padding in front, and so does all before it.
        refine .inl fun b hb => hw b ?_
        rw [hw']
        exact List.mem_append_left _ hb
  -- Something visible is added in front or at the end.
  · obtain ⟨c, hc, hvisible⟩ := hmore
    have hpos : 0 < (visible more).length :=
      List.length_pos_of_mem (List.mem_filter.mpr ⟨hc, by simp [hvisible]⟩)
    have hlength := length_visible h
    -- With any more of them there are too many letters.
    have htoo : ∀ t : String, (visible t).length = (visible s).length + (visible more).length →
        parse? t = none := by
      intro t ht
      refine Option.eq_none_iff_forall_ne_some.mpr fun other hother => ?_
      have := length_visible hother
      omega
    refine ⟨htoo _ ?_, htoo _ ?_⟩
    · rw [visible_append, List.length_append]
    · rw [visible_append, List.length_append, Nat.add_comm]

/-! ## Reading and reporting -/

/-- Converting succeeds just when the text can be read. -/
theorem ofText_eq_ok_iff : ofText s = .ok m ↔ parse? s = some m := by
  rw [ofText]
  cases parse? s <;> simp

/-- It fails with the text as it was given otherwise. -/
theorem ofText_eq_error_iff {message : String} :
    ofText s = .error message ↔ parse? s = none ∧ message = unrecognized s := by
  rw [ofText]
  cases parse? s <;> simp [eq_comm]

/-- A configuration reads a media type just when the text can be read. -/
theorem readMediaType_eq_ok_iff :
    Config.readMediaType d (.text s) = .ok m ↔ parse? s = some m := by
  simp only [Config.readMediaType, Config.readText, bind, Except.bind]
  cases parse? s <;> simp

/-- Its fault holds the text as it was given. -/
theorem readMediaType_eq_error_iff {fault : Config.Fault} :
    Config.readMediaType d (.text s) = .error fault ↔ parse? s = none ∧ fault = .mediaType s := by
  simp only [Config.readMediaType, Config.readText, bind, Except.bind]
  cases parse? s <;> simp [eq_comm]

/-- **The grammar of media types.**

- A text is recognised as a media type just when it is a spelling of its written form: that form up
  to the case of ASCII letters, between blank characters.
- The written form is recognised, no text spells two types, and no text becomes or ceases to be
  recognised by a change of padding or case.
- A recognised text holds nothing else (`Strict`).
- Both ways to read a text, the type's own and the one of settings, accept the same texts and name a
  text that they do not accept as it was given. -/
theorem media_type_grammar (m : MediaType) (s : String) :
    (parse? s = some m ↔ Spells m.text s) ∧
    parse? m.text = some m ∧
    (∀ other : MediaType, Spells m.text s → Spells other.text s → m = other) ∧
    (∀ t, Spells s t → parse? t = parse? s) ∧
    (parse? s = some m → Strict m s) ∧
    (ofText s = .ok m ↔ parse? s = some m) ∧
    (∀ d, Config.readMediaType d (.text s) = .ok m ↔ parse? s = some m) ∧
    (∀ message, ofText s = .error message ↔
      (∀ other : MediaType, ¬ Spells other.text s) ∧
        message = "unrecognized OHTTP media type: " ++ s) ∧
    ∀ d fault, Config.readMediaType d (.text s) = .error fault ↔
      (∀ other : MediaType, ¬ Spells other.text s) ∧ fault = .mediaType s ∧
        fault.message = "unrecognized OHTTP media type: " ++ s := by
  -- A text cannot be read just when it spells no type.
  have hnone : parse? s = none ↔ ∀ other : MediaType, ¬ Spells other.text s := by
    simp only [← parse?_eq_some_iff_spells, Option.eq_none_iff_forall_ne_some, ne_eq]
  refine ⟨parse?_eq_some_iff_spells, parse?_of_spells (.refl _), fun other h hother => ?_,
    fun t h => parse?_of_core_eq (Text.core_of_spells h), strict_of_parse?, ofText_eq_ok_iff,
    fun d => readMediaType_eq_ok_iff, fun message => ?_, fun d fault => ?_⟩
  · -- One text spells at most one type.
    exact Option.some.inj ((parse?_of_spells h).symm.trans (parse?_of_spells hother))
  · -- The fault of the conversion.
    rw [ofText_eq_error_iff, hnone]
    rfl
  · -- The fault of the configuration.
    rw [readMediaType_eq_error_iff, hnone]
    constructor
    · rintro ⟨hno, rfl⟩
      exact ⟨hno, rfl, rfl⟩
    · rintro ⟨hno, hfault, -⟩
      exact ⟨hno, hfault⟩

/-- Wide blank characters and capitals do no harm; a letter that only looks like one of the type is
none of it. -/
example : parse? "\u2003 Message/OHTTP-Req\u0085" = some .request ∧
    parse? "me\u017fsage/ohttp-req" = none ∧ parse? "message/ohttp-req;" = none := by
  decide +kernel

end MediaType

end ObliviousRelay
