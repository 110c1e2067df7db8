import Mathlib.Data.List.Basic
import ObliviousRelay.Routing.Selector

/-!
# The paths of a selector

The selector takes a path apart from the left: first the route without its trailing slashes, then
what follows it. Read as a grammar, a relay's path is the route or the route with one segment, each
of them with or without a slash at the end.

- `Selector.Asks` is this grammar, with the segment that names the gateway.
- `Selector.ofRequest?_eq_some_iff`: a request has a selector just when its path is in the grammar.
-/

namespace ObliviousRelay.Selector

variable {base cs rest name segment : List Char} {fields : Http.Fields} {header : Http.FieldName}

/-! ## Beginnings and ends -/

theorem stripFront?_eq_some : stripFront? base cs = some rest ↔ cs = base ++ rest := by
  induction base generalizing cs with
  | nil => simp [stripFront?]
  | cons b base ih =>
    cases cs with
    | nil => simp [stripFront?]
    | cons c cs =>
      rw [stripFront?]
      split
      · next heq => simp [ih, heq]
      · next hne => simp [Ne.symm hne]

/-- A segment without a slash inside, as it was before one trailing slash was taken off. -/
theorem stripSlash_eq (hname : '/' ∉ name) :
    stripSlash segment = name ↔ segment = name ∨ segment = name ++ ['/'] := by
  constructor
  · intro h
    unfold stripSlash at h
    split at h
    · next hlast =>
      obtain ⟨before, rfl⟩ := List.getLast?_eq_some_iff.mp hlast
      rw [List.dropLast_concat] at h
      exact .inr (congrArg (· ++ ['/']) h)
    · exact .inl h
  · rintro (rfl | rfl)
    · -- The segment has no slash at its end.
      exact if_neg fun hlast => hname (List.mem_of_getLast? hlast)
    · simp [stripSlash]

/-! ## The grammar of a relay's paths -/

/-- The paths of a relay by its route's text without trailing slashes, and the segment that names
the gateway, if there is one. -/
inductive Asks (base : List Char) : List Char → Option (List Char) → Prop
  | plain : Asks base base none
  | plainSlash : Asks base (base ++ ['/']) none
  | named {name : List Char} (hne : name ≠ []) (hname : '/' ∉ name) :
    Asks base (base ++ '/' :: name) (some name)
  | namedSlash {name : List Char} (hne : name ≠ []) (hname : '/' ∉ name) :
    Asks base (base ++ '/' :: (name ++ ['/'])) (some name)

/-- What a path asks for, by the segment that it has for a name. -/
def ofSegment (fields : Http.Fields) (header : Http.FieldName) : Option (List Char) → Selector
  | none => ofHeader fields header
  | some name => named (String.ofList name)

theorem ofRest?_slash (hne : segment ≠ []) : ofRest? ('/' :: segment) fields header =
    if stripSlash segment = [] ∨ '/' ∈ stripSlash segment then none
      else some (named (String.ofList (stripSlash segment))) := by
  rw [ofRest?]
  · simp
  · rintro rfl
    exact hne rfl

theorem ofRest?_named (hne : name ≠ []) (hname : '/' ∉ name)
    (hsegment : segment = name ∨ segment = name ++ ['/']) :
    ofRest? ('/' :: segment) fields header = some (named (String.ofList name)) := by
  have hstrip := (stripSlash_eq hname).mpr hsegment
  have hsegmentNe : segment ≠ [] := by
    rcases hsegment with rfl | rfl
    · exact hne
    · simp
  rw [ofRest?_slash hsegmentNe, hstrip, if_neg (not_or.mpr ⟨hne, hname⟩)]

/-- What follows the route, where it is followed by something that makes a relay's path. -/
theorem ofRest?_eq_some {s : Selector} (h : ofRest? rest fields header = some s) :
    ∃ asked, Asks base (base ++ rest) asked ∧ s = ofSegment fields header asked := by
  -- Nothing follows the base, or a slash alone does, or one with a segment behind it.
  rcases rest with - | ⟨c, segment⟩
  · rw [List.append_nil]
    exact ⟨none, .plain, (Option.some.inj h).symm⟩
  · by_cases hslash : c = '/'
    · subst hslash
      by_cases hempty : segment = []
      · subst hempty
        exact ⟨none, .plainSlash, (Option.some.inj h).symm⟩
      · rw [ofRest?_slash hempty] at h
        split at h
        · cases h
        · next hwell =>
          obtain ⟨hne, hname⟩ := not_or.mp hwell
          generalize hstrip : stripSlash segment = name at h hne hname
          refine ⟨some name, ?_, (Option.some.inj h).symm⟩
          -- The name is what is left of the segment, which may have had a slash at its end.
          rcases (stripSlash_eq hname).mp hstrip with rfl | rfl
          · exact .named hne hname
          · exact .namedSlash hne hname
    · simp [ofRest?, hslash] at h

/-- **A request has a selector just when its path is the relay's**, and the selector is the one that
the path asks for. -/
theorem ofRequest?_eq_some_iff {route path : String} {s : Selector} :
    ofRequest? route path fields header = some s ↔
      ∃ asked, Asks (routeBase route) path.toList asked ∧ s = ofSegment fields header asked := by
  rw [ofRequest?, Option.bind_eq_some_iff]
  constructor
  · rintro ⟨rest, hstrip, hrest⟩
    -- What follows the base is one of the four shapes.
    rw [stripFront?_eq_some.mp hstrip]
    exact ofRest?_eq_some hrest
  · rintro ⟨asked, hasks, rfl⟩
    simp only [stripFront?_eq_some]
    generalize hpath : path.toList = cs at hasks
    cases hasks with
    | plain => exact ⟨[], (List.append_nil _).symm, rfl⟩
    | plainSlash => exact ⟨['/'], rfl, rfl⟩
    | named hne hname => exact ⟨_, rfl, ofRest?_named hne hname (.inl rfl)⟩
    | namedSlash hne hname => exact ⟨_, rfl, ofRest?_named hne hname (.inr rfl)⟩

/-- Whether a request has a selector is a matter of its path alone. -/
theorem isSome_ofRequest?_iff {route path : String} :
    (ofRequest? route path fields header).isSome = true ↔
      ∃ asked, Asks (routeBase route) path.toList asked := by
  simp only [Option.isSome_iff_exists, ofRequest?_eq_some_iff]
  constructor
  · rintro ⟨_, asked, hasks, -⟩
    exact ⟨asked, hasks⟩
  · rintro ⟨asked, hasks⟩
    exact ⟨_, asked, hasks, rfl⟩

end ObliviousRelay.Selector
