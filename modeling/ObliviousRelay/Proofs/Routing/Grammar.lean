import ObliviousRelay.Proofs.Http.Inbound
import ObliviousRelay.Proofs.Routing.Selector
import ObliviousRelay.Proofs.Text.Trim

/-!
# The grammar of selectors

Which selector a request has, told by texts alone. The route without its trailing slashes is its
base. Behind the base stands nothing, a slash, or a slash and a name; a slash may follow the name.
The header is read only where the path has no name.

- `Selector.IsBase` is the base of a route, of which each has one; `Selector.HeaderGives` is what the
  header names, `Selector.PathGives` what the path does.
- `Selector.selector_grammar`: the selector of every path, and the paths of every selector.
-/

namespace ObliviousRelay.Selector

variable {route base path name : String} {fields : Http.Fields} {header : Http.FieldName}

/-! ## The base of a route -/

/-- A text is the base of a route: it has no slash at its end, and the route has nothing but slashes
after it. -/
structure IsBase (route base : String) : Prop where
  slashes : ∃ count, route.toList = base.toList ++ List.replicate count '/'
  bare : base.toList.getLast? ≠ some '/'

/-- **Every route has one base**, which is the route without its trailing slashes. -/
theorem isBase_iff : IsBase route base ↔ routeBase route = base.toList := by
  have hbase : routeBase route = route.toList.rdropWhile (· = '/') := rfl
  rw [hbase]
  constructor
  · rintro ⟨⟨count, hroute⟩, hbare⟩
    rw [hroute, rdropWhile_append_of_forall fun c hc => decide_eq_true (List.eq_of_mem_replicate hc)]
    -- What is left does not end with a slash.
    apply rdropWhile_of_getLast?
    intro c hc
    exact decide_eq_false fun hslash => hbare (hslash ▸ hc)
  · intro h
    have hsplit := List.rdropWhile_append_rtakeWhile (p := (· = '/')) (l := route.toList)
    have hslashes : ∀ c ∈ route.toList.rtakeWhile (· = '/'), c = '/' := fun c hc => by
      simpa using List.mem_rtakeWhile_imp hc
    refine ⟨⟨(route.toList.rtakeWhile (· = '/')).length, ?_⟩, fun hlast => ?_⟩
    · rw [← h, ← List.eq_replicate_of_mem hslashes, hsplit]
    · -- What is left does not end with what was taken off.
      have hne : base.toList ≠ [] := by
        intro hnil
        rw [hnil] at hlast
        cases hlast
      rw [← h] at hlast hne
      have hnot := List.rdropWhile_last_not (· = '/') route.toList hne
      rw [List.getLast?_eq_some_getLast hne, Option.some.injEq] at hlast
      exact hnot (decide_eq_true hlast)

/-! ## The header -/

/-- The header names a gateway: its first value is a text, and the name is what trimming leaves of
it, which is not nothing. -/
def HeaderGives (fields : Http.Fields) (header : Http.FieldName) (name : String) : Prop :=
  ∃ value text, fields.first? header = some value ∧ Http.ReadsAs value text ∧
    Text.Trims text.toList name.toList ∧ name ≠ ""

theorem headerGives_iff :
    HeaderGives fields header name ↔
      (fields.text? header).map Text.trim = some name ∧ name ≠ "" := by
  simp only [HeaderGives, Http.Fields.text?, Option.map_eq_some_iff, Option.bind_eq_some_iff,
    Http.valueText?_eq_some_iff, ← Text.trimChars_eq_iff, Text.trim, String.ext_iff,
    String.toList_ofList]
  constructor
  · rintro ⟨value, text, hvalue, hreads, htrim, hne⟩
    exact ⟨⟨text, ⟨value, hvalue, hreads⟩, htrim⟩, hne⟩
  · rintro ⟨⟨text, ⟨value, hvalue, hreads⟩, htrim⟩, hne⟩
    exact ⟨value, text, hvalue, hreads, htrim, hne⟩

theorem ofHeader_eq_named_iff :
    ofHeader fields header = named name ↔ HeaderGives fields header name := by
  rw [headerGives_iff, ofHeader]
  split
  · next given hgiven =>
    rw [hgiven, Option.some.injEq]
    split
    -- An empty name is none.
    · next hempty => simp [hempty, eq_comm]
    · next hne =>
      rw [Selector.named.injEq]
      exact ⟨fun h => ⟨h, h ▸ hne⟩, And.left⟩
  · next hnone => simp [hnone]

theorem ofHeader_of_none (h : ∀ name, ¬ HeaderGives fields header name) :
    ofHeader fields header = unnamed := by
  cases hselector : ofHeader fields header with
  | unnamed => rfl
  | named name => exact absurd (ofHeader_eq_named_iff.mp hselector) (h name)

/-- A request without fields names nothing by its header. -/
theorem ofHeader_nil : ofHeader [] header = unnamed := rfl

/-! ## The paths as texts -/

/-- A path has a name: it stands behind the base and a slash, and a slash may follow it. -/
structure PathGives (base path name : String) : Prop where
  nonempty : name ≠ ""
  segment : '/' ∉ name.toList
  place : path = base ++ "/" ++ name ∨ path = base ++ "/" ++ name ++ "/"

theorem asks_none_iff : Asks base.toList path.toList none ↔ path = base ∨ path = base ++ "/" := by
  simp only [String.ext_iff, String.toList_append]
  constructor
  · intro h
    -- The two shapes of a path without a name.
    generalize path.toList = cs at h ⊢
    cases h with
    | plain => exact .inl rfl
    | plainSlash => exact .inr rfl
  · rintro (h | h)
    · rw [h]
      exact .plain
    · rw [h]
      exact .plainSlash

theorem asks_some_iff :
    Asks base.toList path.toList (some name.toList) ↔ PathGives base path name := by
  have hname : name ≠ "" ↔ name.toList ≠ [] := by simp
  have hone : (base ++ "/" ++ name).toList = base.toList ++ '/' :: name.toList := by simp
  have htwo : (base ++ "/" ++ name ++ "/").toList =
      base.toList ++ '/' :: (name.toList ++ ['/']) := by simp
  constructor
  · intro h
    generalize hpath : path.toList = cs, hasked : some name.toList = asked at h
    -- A path of this shape has no name at all.
    cases h with
    | plain | plainSlash => cases hasked
    | named hne hsegment =>
      obtain rfl := Option.some.inj hasked
      exact ⟨hname.mpr hne, hsegment, .inl (String.ext (hpath.trans hone.symm))⟩
    | namedSlash hne hsegment =>
      obtain rfl := Option.some.inj hasked
      exact ⟨hname.mpr hne, hsegment, .inr (String.ext (hpath.trans htwo.symm))⟩
  · rintro ⟨hne, hsegment, rfl | rfl⟩
    · rw [hone]
      exact .named (hname.mp hne) hsegment
    · rw [htwo]
      exact .namedSlash (hname.mp hne) hsegment

/-! ## Selectors -/

/-- The selector of a path with a name is this name, whatever the header says. -/
theorem ofRequest?_of_pathGives (hbase : IsBase route base) (h : PathGives base path name) :
    ofRequest? route path fields header = some (named name) := by
  refine ofRequest?_eq_some_iff.mpr ⟨some name.toList, ?_, ?_⟩
  · rw [isBase_iff.mp hbase]
    exact asks_some_iff.mpr h
  · rw [ofSegment, String.ofList_toList]

/-- The selector of a path without a name is the header's. -/
theorem ofRequest?_of_plain (hbase : IsBase route base) (h : path = base ∨ path = base ++ "/") :
    ofRequest? route path fields header = some (ofHeader fields header) := by
  refine ofRequest?_eq_some_iff.mpr ⟨none, ?_, rfl⟩
  rw [isBase_iff.mp hbase]
  exact asks_none_iff.mpr h

/-- A path with a selector has a name or none. -/
theorem pathGives_or_plain (hbase : IsBase route base) {s : Selector}
    (h : ofRequest? route path fields header = some s) :
    (∃ name, PathGives base path name ∧ s = named name) ∨ path = base ∨ path = base ++ "/" := by
  obtain ⟨asked, hasks, hs⟩ := ofRequest?_eq_some_iff.mp h
  rw [isBase_iff.mp hbase] at hasks
  cases asked with
  | none => exact .inr (asks_none_iff.mp hasks)
  | some segment =>
    refine .inl ⟨String.ofList segment, asks_some_iff.mp ?_, hs⟩
    rwa [String.toList_ofList]

/-- **The grammar of selectors.** With the base of the route:

- A path gives a name, whatever the headers, just when the name stands behind the base.
- A path without a name has the selector that the header gives, or else the default.
- No other path has a selector.

So every name that a segment can carry is selected by its own path, a name is never empty and has a
slash only if the header gives it, and routes of one base are alike. -/
theorem selector_grammar (hbase : IsBase route base) (path : String) (fields : Http.Fields)
    (header : Http.FieldName) :
    (∀ name, (∀ anyFields anyHeader,
      ofRequest? route path anyFields anyHeader = some (named name)) ↔ PathGives base path name) ∧
    (path = base ∨ path = base ++ "/" → ∀ name,
      ofRequest? route path fields header = some (named name) ↔ HeaderGives fields header name) ∧
    (path = base ∨ path = base ++ "/" → (∀ name, ¬ HeaderGives fields header name) →
      ofRequest? route path fields header = some unnamed) ∧
    (path ≠ base → path ≠ base ++ "/" → (∀ name, ¬ PathGives base path name) →
      ofRequest? route path fields header = none) ∧
    (∀ name, name ≠ "" → '/' ∉ name.toList →
      ofRequest? route (base ++ "/" ++ name) fields header = some (named name)) ∧
    (∀ name, ofRequest? route path fields header = some (named name) →
      name ≠ "" ∧ ('/' ∈ name.toList → path = base ∨ path = base ++ "/")) ∧
    ∀ other, IsBase other base →
      ofRequest? other path fields header = ofRequest? route path fields header := by
  have hplain : path = base ∨ path = base ++ "/" → ∀ fields header,
      ofRequest? route path fields header = some (ofHeader fields header) := fun h _ _ =>
    ofRequest?_of_plain hbase h
  refine ⟨fun name => ⟨fun h => ?_, fun h _ _ => ofRequest?_of_pathGives hbase h⟩, ?_, ?_, ?_, ?_,
    ?_, ?_⟩
  · -- A path without a name would have the default for a request without fields.
    rcases pathGives_or_plain hbase (h [] header) with ⟨given, hgiven, hname⟩ | hnone
    · obtain rfl := Selector.named.inj hname
      exact hgiven
    · have hdefault := (hplain hnone [] header).symm.trans (h [] header)
      rw [ofHeader_nil] at hdefault
      cases hdefault
  · -- Without a name the header decides.
    intro h name
    rw [hplain h, Option.some.injEq, ofHeader_eq_named_iff]
  -- A header that gives no name leaves the default.
  · intro h hnone
    rw [hplain h, ofHeader_of_none hnone]
  -- Any other path is one of another handler.
  · intro hne hneSlash hno
    refine Option.eq_none_iff_forall_ne_some.mpr fun s hs => ?_
    rcases pathGives_or_plain hbase hs with ⟨name, hgiven, -⟩ | h | h
    · exact hno name hgiven
    · exact hne h
    · exact hneSlash h
  · exact fun name hne hsegment => ofRequest?_of_pathGives hbase ⟨hne, hsegment, .inl rfl⟩
  -- A name comes from the path, or from the header where the path has none.
  · intro name h
    rcases pathGives_or_plain hbase h with ⟨given, hgiven, hname⟩ | hnone
    · obtain rfl := Selector.named.inj hname
      exact ⟨hgiven.nonempty, fun hslash => absurd hslash hgiven.segment⟩
    · rw [hplain hnone, Option.some.injEq, ofHeader_eq_named_iff] at h
      obtain ⟨-, -, -, -, -, hne⟩ := h
      exact ⟨hne, fun _ => hnone⟩
  · -- The selector looks at the base alone.
    intro other hother
    rw [ofRequest?, isBase_iff.mp hother, ofRequest?, isBase_iff.mp hbase]

/-- Under the root, and under a route with a slash too many, a path names its gateway and the header
does not. -/
theorem selector_grammar_root :
    (∀ fields header, ofRequest? "/" "/g1/" fields header = some (named "g1")) ∧
    ofRequest? "/relay//" "/relay" [⟨⟨"gateway"⟩, "\t a/b ".toUTF8⟩] ⟨"gateway"⟩ =
      some (named "a/b") ∧
    ofRequest? "/relay//" "/relayg1" [] ⟨"gateway"⟩ = none := by
  have hroot : IsBase "/" "" := ⟨⟨1, by decide⟩, by decide⟩
  have hrelay : IsBase "/relay//" "/relay" := ⟨⟨2, by decide⟩, by decide⟩
  obtain ⟨hnamed, -⟩ := selector_grammar hroot "/g1/" [] ⟨"gateway"⟩
  obtain ⟨-, hheader, -⟩ :=
    selector_grammar hrelay "/relay" [⟨⟨"gateway"⟩, "\t a/b ".toUTF8⟩] ⟨"gateway"⟩
  refine ⟨(hnamed "g1").mpr ⟨by decide, by decide, .inr (by decide)⟩, ?_, by decide⟩
  refine (hheader (.inl rfl) "a/b").mpr ⟨_, "\t a/b ", rfl,
    ⟨by decide +kernel, by decide +kernel⟩, ?_, by decide⟩
  exact Text.trimChars_eq_iff.mp (by decide)

end ObliviousRelay.Selector
