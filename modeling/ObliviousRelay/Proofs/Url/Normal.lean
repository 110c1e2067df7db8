import ObliviousRelay.Proofs.Url.Authority
import ObliviousRelay.Proofs.Url.Path

/-!
# URLs in normal form

What is read from a text is in normal form: nothing of it has to be encoded, resolved or left out.
Reading the text of a URL in normal form again changes nothing but, perhaps, its host.

- `Url.IsNormal`: a URL of a special scheme in normal form; `isNormal_of_parse`.
- `parse_text`: what the text of such a URL is read as.
-/

namespace ObliviousRelay

namespace Url

variable {c : Char} {cs p rest : List Char} {host : Host} {s scheme : String} {u : Url}
  {query fragment : Option (List Char)}

/-! ## Clean texts -/

/-- A text without controls and spaces is left as it is. -/
theorem cleaned_of_graphic (hs : ∀ c ∈ s.toList, IsGraphic c) : cleaned s = s.toList := by
  -- Neither end is blank, and nothing is taken away there.
  have hstop : ∀ cs : List Char, (∀ c ∈ cs, IsGraphic c) →
      StopsAtFront (fun c : Char => decide (c.toNat ≤ 0x20)) cs := by
    intro cs hcs c hc
    simpa using Nat.not_le.mpr (hcs c (List.mem_of_head? hc))
  have hback : ∀ c ∈ s.toList.reverse, IsGraphic c := fun c hc => hs c (List.mem_reverse.mp hc)
  -- Nor is there a tabulator or an end of line within.
  have hblank : ∀ d : Char, d.toNat ≤ 0x20 → ∀ c ∈ s.toList, c ≠ d := by
    rintro d hd c hc rfl
    exact Nat.not_lt.mpr hd (hs c hc)
  rw [cleaned]
  simp only [(hstop _ hs).dropWhile_eq, (hstop _ hback).dropWhile_eq, List.reverse_reverse]
  rw [List.filter_eq_self]
  intro c hc
  simp [hblank '\t' (by decide) c hc, hblank '\n' (by decide) c hc, hblank '\r' (by decide) c hc]

/-! ## Schemes -/

/-- The special schemes. -/
theorem special_cases (hscheme : SchemeKind.of scheme = .special) :
    scheme ∈ ["http", "https", "ws", "wss", "ftp"] := by
  unfold SchemeKind.of at hscheme
  split at hscheme
  all_goals first | decide | cases hscheme

theorem takeScheme?_special (hscheme : SchemeKind.of scheme = .special) (rest : List Char) :
    takeScheme? (scheme.toList ++ ':' :: rest) = some (scheme, rest) := by
  have hcases := special_cases hscheme
  simp only [List.mem_cons, List.not_mem_nil, or_false] at hcases
  rcases hcases with rfl | rfl | rfl | rfl | rfl <;> rfl

theorem isGraphic_special (hscheme : SchemeKind.of scheme = .special) :
    ∀ c ∈ scheme.toList, IsGraphic c := by
  have hcases := special_cases hscheme
  simp only [List.mem_cons, List.not_mem_nil, or_false] at hcases
  have hall : scheme.toList.all (fun c => decide (IsGraphic c)) = true := by
    rcases hcases with rfl | rfl | rfl | rfl | rfl <;> decide
  exact fun c hc => of_decide_eq_true (List.all_eq_true.mp hall c hc)

/-! ## Path, query and fragment -/

/-- **Path, query and fragment come apart.** -/
theorem splitTail_parts (hpath : ∀ c ∈ p, c ≠ '?' ∧ c ≠ '#') (hquery : ∀ q ∈ query, '#' ∉ q) :
    splitTail (p ++ (marked '?' query ++ marked '#' fragment)) = (p, query, fragment) := by
  -- The path ends at the first mark, be it that of the query or that of the fragment.
  have hinside : ∀ c ∈ p, (c != '?' && c != '#') = true := fun c hc => by simp [hpath c hc]
  have htail : StopsAtFront (fun c => c != '?' && c != '#')
      (marked '?' query ++ marked '#' fragment) := by
    cases query with
    | some q => exact stopsAtFront_cons rfl
    | none => exact stopsAtFront_marked rfl fragment
  unfold splitTail
  simp only [takeWhile_append_stop hinside htail, dropWhile_append_stop hinside htail]
  cases query with
  | none => cases fragment <;> rfl
  | some q =>
    -- The query ends at the mark of the fragment.
    have hq : ∀ c ∈ q, (c != '#') = true := forall_bne_of_notMem (hquery q rfl)
    have hfragment : StopsAtFront (· != '#') (marked '#' fragment) :=
      stopsAtFront_marked (by decide) fragment
    rw [show marked '?' (some q) = '?' :: q from rfl]
    simp only [List.cons_append, takeWhile_append_stop hq hfragment,
      dropWhile_append_stop hq hfragment]
    cases fragment <;> rfl

/-! ## Normal form -/

/-- A URL of a special scheme in normal form. -/
structure IsNormal (u : Url) : Prop where
  scheme : SchemeKind.of u.scheme = .special
  authority : ∃ a, u.authority = some a ∧ a.IsNormal u.scheme
  path : IsPath u.path.toList
  query : ∀ q, u.query = some q → IsEncoded specialQuerySet q.toList
  fragment : ∀ f, u.fragment = some f → IsEncoded fragmentSet f.toList

/-- A URL with the path, query and fragment that are read from the text after its authority. -/
def withParts (u : Url) (cs : List Char) : Url :=
  withTail .special (splitTail cs).2.1 (splitTail cs).2.2
    { u with path := String.ofList (parsePath .special (splitTail cs).1) }

/-- What is read after the slashes of a special scheme. -/
theorem afterSlashes_special (scheme : String) (cs : List Char) :
    afterSlashes scheme .special cs =
      (parseAuthority scheme .special (!(cs.dropWhile (!endsAuthority .special ·)).isEmpty)
        (cs.takeWhile (!endsAuthority .special ·))).map fun a =>
          withParts { scheme, authority := some a } (cs.dropWhile (!endsAuthority .special ·)) := by
  unfold afterSlashes
  simp only
  cases parseAuthority scheme .special (!(cs.dropWhile (!endsAuthority .special ·)).isEmpty)
    (cs.takeWhile (!endsAuthority .special ·)) <;> rfl

theorem isNormal_of_afterSlashes (hscheme : SchemeKind.of scheme = .special)
    (hparse : afterSlashes scheme .special cs = .ok u) : u.IsNormal := by
  rw [afterSlashes_special] at hparse
  cases hauthority : parseAuthority scheme .special (!(cs.dropWhile (!endsAuthority .special ·)).isEmpty)
    (cs.takeWhile (!endsAuthority .special ·)) with
  | error fault =>
    rw [hauthority] at hparse
    cases hparse
  | ok a =>
    rw [hauthority] at hparse
    obtain rfl := Except.ok.inj hparse
    -- The three texts of the tail are encoded when they are read.
    refine ⟨hscheme, ⟨a, rfl, isNormal_of_parseAuthority hauthority⟩, ?_, ?_, ?_⟩
    · show IsPath (String.ofList _).toList
      rw [String.toList_ofList]
      exact isPath_parsePath _
    · intro q hq
      obtain ⟨q', -, rfl⟩ := Option.map_eq_some_iff.mp hq
      rw [String.toList_ofList]
      exact isEncoded_percentEncode isProper_specialQuerySet q'
    · intro f hf
      obtain ⟨f', -, rfl⟩ := Option.map_eq_some_iff.mp hf
      rw [String.toList_ofList]
      exact isEncoded_percentEncode isProper_fragmentSet f'

theorem scheme_of_afterSlashes {kind : SchemeKind} (hparse : afterSlashes scheme kind cs = .ok u) :
    u.scheme = scheme := by
  unfold afterSlashes at hparse
  simp only at hparse
  cases hauthority : parseAuthority scheme kind (!(cs.dropWhile (!endsAuthority kind ·)).isEmpty)
    (cs.takeWhile (!endsAuthority kind ·)) with
  | error fault =>
    rw [hauthority] at hparse
    cases hparse
  | ok a =>
    rw [hauthority] at hparse
    obtain rfl := Except.ok.inj hparse
    rfl

theorem scheme_of_parseOther (hparse : parseOther scheme cs = .ok u) : u.scheme = scheme := by
  unfold parseOther at hparse
  split at hparse
  · exact scheme_of_afterSlashes hparse
  · obtain rfl := Except.ok.inj hparse
    rfl

theorem scheme_of_parseFile (hparse : parseFile cs = .ok u) : u.scheme = "file" := by
  unfold parseFile at hparse
  simp only at hparse
  split at hparse
  · split at hparse
    · obtain rfl := Except.ok.inj hparse
      rfl
    · cases hhost : parseFileHost ((cs.drop 2).takeWhile (!endsAuthority .file ·)) with
      | error fault =>
        rw [hhost] at hparse
        cases hparse
      | ok host =>
        rw [hhost] at hparse
        obtain rfl := Except.ok.inj hparse
        rfl
  · obtain rfl := Except.ok.inj hparse
    rfl

/-- **A URL of a special scheme that was read is in normal form.** -/
theorem isNormal_of_parse (hparse : parse s = .ok u) (hscheme : SchemeKind.of u.scheme = .special) :
    u.IsNormal := by
  unfold parse at hparse
  split at hparse
  · cases hparse
  · next scheme rest htake =>
    split at hparse
    -- A scheme that is special is not the one of files.
    · rw [scheme_of_parseFile hparse] at hscheme
      cases hscheme
    · next hkind => exact isNormal_of_afterSlashes hkind hparse
    · next hkind =>
      rw [scheme_of_parseOther hparse, hkind] at hscheme
      cases hscheme

/-! ## Reading again -/

/-- What follows the authority of a URL. -/
def tailPart (u : Url) : List Char :=
  u.path.toList ++
    (marked '?' (u.query.map (·.toList)) ++ marked '#' (u.fragment.map (·.toList)))

theorem text_toList {a : Authority} (ha : u.authority = some a) :
    u.text.toList = u.scheme.toList ++ ':' :: '/' :: '/' :: (a.text.toList ++ u.tailPart) := by
  rw [text, ha]
  cases hquery : u.query <;> cases hfragment : u.fragment <;>
    simp [tailPart, marked, hquery, hfragment]

/-- No control and no space stands in the text of a URL in normal form. -/
theorem IsNormal.isGraphic (hu : u.IsNormal) : ∀ c ∈ u.text.toList, IsGraphic c := by
  obtain ⟨a, ha, hauthority⟩ := hu.authority
  rw [text_toList ha]
  simp only [tailPart, List.forall_mem_append, List.forall_mem_cons]
  refine ⟨isGraphic_special hu.scheme, by decide, by decide, by decide,
    fun c hc => (hauthority.inside hc).1, hu.path.isEncoded.isGraphic isProper_pathSet,
    forall_mem_marked (by decide) fun cs hcs => ?_, forall_mem_marked (by decide) fun cs hcs => ?_⟩
  · obtain ⟨q, hq, rfl⟩ := Option.map_eq_some_iff.mp hcs
    exact (hu.query q hq).isGraphic isProper_specialQuerySet
  · obtain ⟨f, hf, rfl⟩ := Option.map_eq_some_iff.mp hcs
    exact (hu.fragment f hf).isGraphic isProper_fragmentSet

/-- What follows the authority is read as it is. -/
theorem IsNormal.withParts_tailPart (hu : u.IsNormal) (v : Url) :
    v.withParts u.tailPart =
      { v with path := u.path, query := u.query, fragment := u.fragment } := by
  -- The two marks are encoded within a path, so that they end it.
  have hpath : ∀ c ∈ u.path.toList, c ≠ '?' ∧ c ≠ '#' := by
    intro c hc
    have hset := hu.path.isEncoded c hc
    constructor <;> rintro rfl <;> exact absurd hset (by decide)
  -- The query ends at the next mark, which it cannot hold itself.
  have hquery : ∀ q ∈ u.query.map (·.toList), '#' ∉ q := by
    intro q hq hmem
    obtain ⟨text, htext, rfl⟩ := Option.map_eq_some_iff.mp hq
    exact absurd (hu.query text htext '#' hmem) (by decide)
  -- Parts that are encoded already are read as they are.
  have hkept : ∀ {set : EncodeSet} {part : Option String},
      (∀ x, part = some x → IsEncoded set x.toList) →
      (part.map (·.toList)).map (fun x => String.ofList (percentEncode set x)) = part := by
    intro set part hpart
    cases part with
    | none => rfl
    | some x =>
      simp [percentEncode_of_isEncoded (hpart x rfl)]
  rw [withParts, tailPart, splitTail_parts hpath hquery]
  simp only [withTail, parsePath_of_isPath hu.path, String.ofList_toList, hkept hu.fragment]
  rw [if_neg (by decide), hkept hu.query]

/-- **The text of a URL in normal form is read back as soon as its host is.** -/
theorem parse_text (hu : u.IsNormal) {a : Authority} (ha : u.authority = some a)
    (hhost : a.host = some host) :
    parse u.text = (Host.parse host.text.toList).map fun host =>
      { u with authority := some { a with host := some host } } := by
  obtain ⟨a', ha', hauthority⟩ := hu.authority
  obtain rfl := Option.some.inj (ha.symm.trans ha')
  -- The authority ends where the tail begins, with a slash.
  have hinside : ∀ c ∈ a.text.toList, (!endsAuthority .special c) = true := fun c hc => by
    rw [(hauthority.inside hc).2]
    rfl
  have htail : StopsAtFront (!endsAuthority .special ·) u.tailPart := by
    obtain ⟨rest, hpath⟩ := hu.path.exists_slash
    rw [tailPart, hpath, List.cons_append]
    exact stopsAtFront_cons rfl
  -- After the two slashes there is neither a slash nor a backslash.
  have hslashes : ('/' :: '/' :: (a.text.toList ++ u.tailPart)).dropWhile
      (fun c => c == '/' || c == '\\') = a.text.toList ++ u.tailPart := by
    obtain ⟨c, cs, htext⟩ := List.exists_cons_of_ne_nil hauthority.text_ne_nil
    have hc := (hauthority.inside (htext ▸ List.mem_cons_self)).2
    have hstop : StopsAtFront (fun c => c == '/' || c == '\\') (a.text.toList ++ u.tailPart) := by
      rw [htext]
      refine stopsAtFront_cons ?_
      simp only [endsAuthority, Bool.or_eq_false_iff, Bool.and_eq_false_iff] at hc
      rw [hc.1.1.1, hc.2.resolve_left (by decide)]
      rfl
    exact dropWhile_append_stop (u := ['/', '/']) (by simp) hstop
  unfold parse
  rw [cleaned_of_graphic hu.isGraphic, text_toList ha, takeScheme?_special hu.scheme]
  simp only [hu.scheme, hslashes]
  rw [afterSlashes_special, takeWhile_append_stop hinside htail, dropWhile_append_stop hinside htail,
    parseAuthority_text hauthority hhost]
  simp only [hu.withParts_tailPart]
  cases Host.parse host.text.toList <;> rfl

end Url

end ObliviousRelay
