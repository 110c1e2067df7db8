import Mathlib.Data.List.DropRight
import ObliviousRelay.Config.Rules
import ObliviousRelay.Http.Routes
import ObliviousRelay.Proofs.Routing.Selector

/-!
# The paths that are served

A relay reads the path of a request twice. The routes decide who serves it, segment by segment, and
the selector takes the gateway's name out of it, from the left. Here the routes of a literal route
are told as texts, as the selector has them, and the two readings are compared.

- `segments_append` and `segments_inj`: segments are a faithful picture of a text.
- `Routes.isSome_ofRoute?_iff`: which valid routes can be served; `Routes.serves_of_literal`.
- `Routes.Serves`: what the routes of a literal route accept.
- `Routes.post_relayed_iff`: the paths that go to the relay, among those that have a selector.
-/

namespace ObliviousRelay.Http

variable {cs ds s rest path : List Char} {route : String}

/-! ## Segments -/

/-- The segments of a path are its parts between slashes. -/
theorem segments_eq_splitOn (cs : List Char) : segments cs = cs.splitOn '/' := by
  induction cs with
  | nil => rfl
  | cons c cs ih =>
    rw [List.splitOn] at ih ⊢
    rw [List.splitOnP_cons_eq_if_modifyHead, ← ih]
    -- A slash begins a new segment, any other character belongs to the first one.
    by_cases hslash : c = '/'
    · subst hslash
      rfl
    · rw [segments, if_neg (by simpa using hslash)]
      · cases hsegments : segments cs with
        | nil => exact absurd (ih.symm.trans hsegments) (List.splitOnP_ne_nil _ _)
        | cons _ _ => rfl
      · exact hslash

/-- A text without slashes is one segment. -/
theorem segments_of_notMem (h : '/' ∉ cs) : segments cs = [cs] := by
  rw [segments_eq_splitOn, List.splitOn_eq_singleton h]

/-- A slash ends the segments before it. -/
theorem segments_append (cs ds : List Char) :
    segments (cs ++ '/' :: ds) = segments cs ++ segments ds := by
  simp only [segments_eq_splitOn, List.splitOn]
  exact List.splitOnP_append_cons cs ds (beq_self_eq_true '/')

/-- Texts of the same segments are the same. -/
theorem segments_inj : segments cs = segments ds ↔ cs = ds := by
  refine ⟨fun h => ?_, congrArg segments⟩
  -- The segments of a text and the slashes between them make up the text.
  have hjoined : ∀ cs : List Char, ['/'].intercalate (segments cs) = cs := by
    intro cs
    rw [segments_eq_splitOn, List.intercalate_splitOn]
  rw [← hjoined cs, h, hjoined]

/-- No segment holds a slash. -/
theorem slash_notMem_of_mem_segments (h : s ∈ segments cs) : '/' ∉ s := by
  induction cs generalizing s with
  | nil =>
    obtain rfl := List.mem_singleton.mp h
    exact List.not_mem_nil
  | cons c cs ih =>
    by_cases hslash : c = '/'
    · subst hslash
      rcases List.mem_cons.mp h with rfl | h
      · exact List.not_mem_nil
      · exact ih h
    · -- The character belongs to the first segment of the rest.
      rw [segments.eq_3 c cs hslash] at h
      split at h
      · obtain rfl := List.mem_singleton.mp h
        simpa using Ne.symm hslash
      · next first more hsegments =>
        rcases List.mem_cons.mp h with rfl | h
        · have hfirst : '/' ∉ first := ih (hsegments ▸ List.mem_cons_self)
          simpa [Ne.symm hslash] using hfirst
        · exact ih (hsegments ▸ List.mem_cons_of_mem _ h)

/-! ## Literal routes -/

/-- A segment that is nothing but its text: it has no braces, and starts neither with a colon nor
with an asterisk. -/
def RouteSegment.IsLiteral (cs : List Char) : Prop :=
  '{' ∉ cs ∧ '}' ∉ cs ∧ cs.head? ≠ some ':' ∧ cs.head? ≠ some '*'
  deriving Decidable

/-- A route all of whose segments are literal. -/
def RoutePattern.IsLiteral (route : String) : Prop :=
  ∀ s ∈ segments route.toList, RouteSegment.IsLiteral s
  deriving Decidable

theorem RouteSegment.read?_of_noBrace {seen : List Char} (hopen : '{' ∉ cs) (hclose : '}' ∉ cs) :
    read? seen cs = some (.literal (seen ++ cs)) := by
  induction cs generalizing seen with
  | nil => rw [read?, List.append_nil]
  | cons c cs ih =>
    rw [List.mem_cons, not_or] at hopen hclose
    rw [read?, ih hopen.2 hclose.2, List.append_assoc, List.singleton_append]
    all_goals grind

/-- A literal segment is read as its own text. -/
theorem RouteSegment.ofText?_of_literal (h : IsLiteral cs) : ofText? cs = some (.literal cs) := by
  obtain ⟨hopen, hclose, hcolon, hasterisk⟩ := h
  rw [ofText?, read?_of_noBrace hopen hclose, List.nil_append]
  · rintro rest rfl
    exact hcolon rfl
  · rintro rest rfl
    exact hasterisk rfl

/-- A route of literal segments can be read. -/
theorem mapM_of_literal {ss : List (List Char)} (h : ∀ s ∈ ss, RouteSegment.IsLiteral s) :
    ss.mapM RouteSegment.ofText? = some (ss.map .literal) := by
  induction ss with
  | nil => rfl
  | cons s ss ih =>
    obtain ⟨hs, hss⟩ := List.forall_mem_cons.mp h
    rw [List.mapM_cons, RouteSegment.ofText?_of_literal hs, ih hss]
    rfl

/-! ## What the routes accept -/

namespace RoutePattern

/-- A pattern accepts a path that begins with a slash and whose segments it accepts. -/
theorem accepts_iff {p : RoutePattern} :
    p.accepts path = true ↔ ∃ rest, path = '/' :: rest ∧ p.acceptsAll (segments rest) = true := by
  unfold accepts
  split
  · simp
  · next hslash =>
    simp only [Bool.false_eq_true, false_iff, not_exists, not_and]
    rintro rest rfl
    exact absurd rfl (hslash rest)

/-- Literal segments accept themselves. -/
theorem acceptsAll_literal {ss path : List (List Char)} {p : RoutePattern} :
    acceptsAll (ss.map .literal ++ p) path = true ↔
      ∃ more, path = ss ++ more ∧ p.acceptsAll more = true := by
  induction ss generalizing path with
  | nil => simp
  -- Segment by segment: each one has to be the same text.
  | cons s ss ih =>
    cases path with
    | nil => simp [acceptsAll]
    | cons t path =>
      rw [List.map_cons, List.cons_append, acceptsAll, RouteSegment.accepts, Bool.and_eq_true,
        beq_iff_eq, ih]
      constructor
      · rintro ⟨rfl, more, rfl, hmore⟩
        exact ⟨more, rfl, hmore⟩
      · rintro ⟨more, heq, hmore⟩
        obtain ⟨rfl, rfl⟩ := List.cons.inj heq
        exact ⟨rfl, more, rfl, hmore⟩

theorem acceptsAll_nil {path : List (List Char)} : acceptsAll [] path = true ↔ path = [] := by
  cases path <;> simp [acceptsAll]

/-- A capture without a beginning accepts any segment but the empty one. -/
theorem acceptsAll_capture {path : List (List Char)} :
    acceptsAll [.capture []] path = true ↔ ∃ name, name ≠ [] ∧ path = [name] := by
  rcases path with - | ⟨s, path⟩
  · simp [acceptsAll]
  · simp [acceptsAll, RouteSegment.accepts, acceptsAll_nil, List.length_pos_iff]

/-- The route of literal segments accepts one path. -/
theorem accepts_literal : accepts ((segments rest).map .literal) path = true ↔
    path = '/' :: rest := by
  rw [accepts_iff, ← List.append_nil (List.map _ _)]
  simp only [acceptsAll_literal, acceptsAll_nil]
  constructor
  · rintro ⟨r, rfl, more, hsegments, rfl⟩
    rw [List.append_nil] at hsegments
    rw [segments_inj.mp hsegments]
  · rintro rfl
    exact ⟨rest, rfl, [], (List.append_nil _).symm, rfl⟩

/-- A capture after them accepts any one segment more. -/
theorem accepts_literal_capture :
    accepts ((segments rest).map .literal ++ [.capture []]) path = true ↔
      ∃ name, name ≠ [] ∧ '/' ∉ name ∧ path = '/' :: rest ++ '/' :: name := by
  simp only [accepts_iff, acceptsAll_literal, acceptsAll_capture]
  constructor
  -- The last segment is the name.
  · rintro ⟨r, rfl, -, hsegments, name, hne, rfl⟩
    have hname : '/' ∉ name :=
      slash_notMem_of_mem_segments (hsegments ▸ List.mem_append_right _ List.mem_cons_self)
    refine ⟨name, hne, hname, ?_⟩
    -- Route and name are again the segments of a text, with a slash between them.
    rw [← segments_of_notMem hname, ← segments_append] at hsegments
    rw [segments_inj.mp hsegments, List.cons_append]
  · rintro ⟨name, hne, hname, rfl⟩
    refine ⟨rest ++ '/' :: name, rfl, [name], ?_, name, hne, rfl⟩
    rw [segments_append, segments_of_notMem hname]

/-- Of the root, a capture accepts any one segment. -/
theorem accepts_capture : accepts [.capture []] path = true ↔
    ∃ name, name ≠ [] ∧ '/' ∉ name ∧ path = '/' :: name := by
  simp only [accepts_iff, acceptsAll_capture]
  constructor
  · rintro ⟨r, rfl, name, hne, hsegments⟩
    have hname : '/' ∉ name := slash_notMem_of_mem_segments (hsegments ▸ List.mem_cons_self)
    rw [← segments_of_notMem hname] at hsegments
    exact ⟨name, hne, hname, congrArg _ (segments_inj.mp hsegments)⟩
  · rintro ⟨name, hne, hname, rfl⟩
    exact ⟨name, rfl, name, hne, segments_of_notMem hname⟩

end RoutePattern

/-! ## Configured routes -/

/-- A text ends with a slash just when this is its last character. -/
theorem endsWith_slash_iff {text : String} :
    text.endsWith "/" = true ↔ text.toList.getLast? = some '/' := by
  rw [String.endsWith_eq_endsWith_toSlice, String.Slice.endsWith_string_iff, String.copy_toSlice,
    List.getLast?_eq_some_iff]
  exact exists_congr fun before => eq_comm

theorem getLast?_named {base name : List Char} (h : name ≠ []) :
    (base ++ '/' :: name).getLast? = name.getLast? := by
  rw [List.getLast?_append, List.getLast?_cons_of_ne_nil h, List.getLast?_eq_some_getLast h]
  rfl

theorem slash_of_isRoute (h : Config.isRoute route = true) : ∃ rest, route.toList = '/' :: rest := by
  rw [Config.isRoute, Bool.and_eq_true, String.startsWith_string_iff] at h
  obtain ⟨⟨rest, hrest⟩, -⟩ := h
  exact ⟨rest, hrest.symm⟩

/-- But for the root, a valid route has no slash at its end to be taken off. -/
theorem routeBase_of_isRoute (h : Config.isRoute route = true) (hroot : route ≠ "/") :
    Selector.routeBase route = route.toList := by
  show List.rdropWhile (· = '/') route.toList = route.toList
  rw [List.rdropWhile_eq_self_iff]
  intro hne hlast
  have hends : route.endsWith "/" = true := by
    rw [endsWith_slash_iff, List.getLast?_eq_some_getLast hne, of_decide_eq_true hlast]
  simp [Config.isRoute, hroot, hends] at h

/-- What the routes of a relay accept, told of its configured route as a text. -/
structure Routes.Serves (routes : Routes) (route : String) : Prop where
  plain : ∀ path, routes.plain.accepts path = true ↔ path = route.toList
  named : ∀ path, routes.named.accepts path = true ↔ ∃ name, name ≠ [] ∧ '/' ∉ name ∧
    path = Selector.routeBase route ++ '/' :: name
  shared : routes.isShared = true ↔ route = healthPath

namespace Routes

/-- The liveness probe shares its path with the route of the same text, and with no other literal
route. -/
theorem isShared_literal {named : RoutePattern} :
    isShared ⟨(segments rest).map .literal, named⟩ = true ↔ '/' :: rest = healthPath.toList := by
  rw [isShared, Bool.and_eq_true, RoutePattern.accepts_literal, eq_comm (a := healthPath.toList)]
  refine ⟨And.right, fun h => ⟨?_, h⟩⟩
  obtain rfl : rest = "health".toList := (List.cons.inj h).2
  rfl

/-- The route with one more segment is read as the route and a capture. -/
theorem ofText?_withName (hrest : route.toList = '/' :: rest) (hroot : route ≠ "/") :
    RoutePattern.ofText? (withName route).toList =
      (RoutePattern.ofText? route.toList).map (· ++ [.capture []]) := by
  rw [withName, if_neg hroot, String.toList_append, hrest]
  show (segments (rest ++ '/' :: "\x7bgateway\x7d".toList)).mapM RouteSegment.ofText? =
    ((segments rest).mapM RouteSegment.ofText?).map _
  rw [segments_append, List.mapM_append]
  cases (segments rest).mapM RouteSegment.ofText? <;> rfl

/-- **A valid and literal route is served.** -/
theorem serves_of_literal (hroute : Config.isRoute route = true)
    (hliteral : RoutePattern.IsLiteral route) :
    ∃ routes, ofRoute? route = some routes ∧ routes.Serves route := by
  obtain ⟨rest, hrest⟩ := slash_of_isRoute hroute
  rw [RoutePattern.IsLiteral, hrest] at hliteral
  have hplain : RoutePattern.ofText? route.toList = some ((segments rest).map .literal) := by
    rw [hrest]
    exact mapM_of_literal fun s hs => hliteral s (List.mem_cons_of_mem _ hs)
  by_cases hroot : route = "/"
  · subst hroot
    -- The root's own segment is empty, so that a name stands right after the first slash.
    obtain rfl : rest = [] := (List.cons.inj hrest).2.symm
    refine ⟨_, rfl, fun path => ?_, fun path => ?_, by decide⟩
    · -- The route itself.
      exact @RoutePattern.accepts_literal [] path
    · -- A route with a name.
      exact RoutePattern.accepts_capture
  · have hnamed : RoutePattern.ofText? (withName route).toList =
        some ((segments rest).map .literal ++ [.capture []]) := by
      rw [ofText?_withName hrest hroot, hplain, Option.map_some]
    refine ⟨_, by rw [ofRoute?, hplain, hnamed]; rfl, fun path => ?_, fun path => ?_, ?_⟩
    · -- The route itself, then a route with a name.
      rw [hrest]
      exact RoutePattern.accepts_literal
    · rw [routeBase_of_isRoute hroute hroot, hrest]
      exact RoutePattern.accepts_literal_capture
    · -- The route is shared with the probe just when it is the probe's path.
      rw [isShared_literal, ← hrest, String.toList_inj]

/-! ## Routes and selectors -/

namespace Serves

variable {routes : Routes} {path : String}

/-- A path is the relay's just when it is the route, or the route with a name. -/
theorem isRelay_iff (h : routes.Serves route) : routes.isRelay path = true ↔ path = route ∨
    ∃ name, name ≠ [] ∧ '/' ∉ name ∧ path.toList = Selector.routeBase route ++ '/' :: name := by
  rw [isRelay, Bool.or_eq_true, h.plain, h.named, String.toList_inj]

/-- The path of the liveness probe is the relay's where it is the route itself, and where the root is
the route and the probe's path looks like a gateway's name. -/
theorem isRelay_health (h : routes.Serves route) (hroute : Config.isRoute route = true)
    (hrelay : routes.isRelay healthPath = true) : route = healthPath ∨ route = "/" := by
  rcases h.isRelay_iff.mp hrelay with heq | ⟨name, -, hname, hpath⟩
  · exact .inl heq.symm
  · by_contra hother
    obtain ⟨-, hroot⟩ := not_or.mp hother
    obtain ⟨rest, hrest⟩ := slash_of_isRoute hroute
    rw [routeBase_of_isRoute hroute hroot, hrest] at hpath
    -- The probe's path has one slash only, the first.
    have hfirst : healthPath.toList = '/' :: "health".toList := rfl
    have hhealth : "health".toList = rest ++ '/' :: name :=
      (List.cons.inj (hfirst.symm.trans hpath)).2
    have hslash : '/' ∈ "health".toList := by
      rw [hhealth]
      exact List.mem_append_right _ List.mem_cons_self
    exact absurd hslash (by decide)

/-- A post is the relay's on all of the relay's paths, but where the root is the route and the probe
answers on its own path. -/
theorem find?_post_iff (h : routes.Serves route) (hroute : Config.isRoute route = true) :
    routes.find? "POST" path = some .relay ↔
      routes.isRelay path = true ∧ ¬ (route = "/" ∧ path = healthPath) := by
  unfold find?
  by_cases hhealth : path = healthPath
  -- On the probe's path, a post is the relay's only if the route is shared.
  · subst hhealth
    have hmethods : decide ("POST" ≠ "GET") && decide ("POST" ≠ "HEAD") := by decide
    rw [if_pos rfl, Bool.and_assoc, hmethods, Bool.and_true]
    constructor
    · intro hfind
      have hshared : routes.isShared = true := by
        by_contra hnot
        rw [if_neg hnot] at hfind
        cases hfind
      obtain rfl := h.shared.mp hshared
      exact ⟨h.isRelay_iff.mpr (.inl rfl), fun hroot => absurd hroot.1 (by decide)⟩
    -- The route is the probe's path or the root; at the root the probe comes first.
    · rintro ⟨hrelay, hnot⟩
      rcases h.isRelay_health hroute hrelay with heq | hroot
      · rw [if_pos (h.shared.mpr heq)]
      · exact absurd ⟨hroot, rfl⟩ hnot
  · simp [hhealth]

/-- The relay's paths are those of the selector, without the empty one and without those that got a
slash at their end. -/
theorem isRelay_iff_asks (h : routes.Serves route) (hroute : Config.isRoute route = true) :
    routes.isRelay path = true ↔
      (∃ asked, Selector.Asks (Selector.routeBase route) path.toList asked) ∧ path ≠ "" ∧
        (path.endsWith "/" = true → path = route) := by
  rw [h.isRelay_iff]
  constructor
  · rintro (rfl | ⟨name, hne, hname, hpath⟩)
    · -- The path is the route.
      obtain ⟨rest, hrest⟩ := slash_of_isRoute hroute
      refine ⟨⟨none, ?_⟩, ?_, fun _ => rfl⟩
      · by_cases hroot : path = "/"
        · subst hroot
          exact .plainSlash
        · rw [routeBase_of_isRoute hroute hroot]
          exact .plain
      · rintro rfl
        cases hrest
    · -- The path is the route with a name.
      refine ⟨⟨some name, hpath ▸ .named hne hname⟩, ?_, fun hends => ?_⟩
      · rintro rfl
        simp at hpath
      · -- Such a path ends as its name does, and there is no slash in the name.
        rw [endsWith_slash_iff, hpath, getLast?_named hne] at hends
        exact absurd (List.mem_of_getLast? hends) hname
  · rintro ⟨⟨asked, hasks⟩, hne, hends⟩
    -- A slash at the end is the route's own, or the path is one of the two forms without it.
    by_cases hslash : path.endsWith "/" = true
    · exact .inl (hends hslash)
    · rw [endsWith_slash_iff] at hslash
      generalize hpath : path.toList = cs at hasks hslash
      cases hasks with
      | plain =>
        by_cases hroot : route = "/"
        · subst hroot
          exact absurd (String.toList_inj.mp hpath) hne
        · rw [routeBase_of_isRoute hroute hroot] at hpath
          exact .inl (String.toList_inj.mp hpath)
      | plainSlash => exact absurd List.getLast?_concat hslash
      | named hnamed hname => exact .inr ⟨_, hnamed, hname, rfl⟩
      | namedSlash hnamed hname =>
        rw [← List.cons_append, ← List.append_assoc] at hslash
        exact absurd List.getLast?_concat hslash

end Serves

/-- **Router and selector compared.** A valid and literal route can be served. Whatever the path and
the fields of a post, it goes to the relay just when it has a selector, with three exceptions, which
the selector reads and the router does not serve:

- the empty path, under the root;
- a path with a slash at its end, unless it is the route;
- under the root, the path of the liveness probe. -/
theorem post_relayed_iff (hroute : Config.isRoute route = true)
    (hliteral : RoutePattern.IsLiteral route) :
    ∃ routes, ofRoute? route = some routes ∧ ∀ path fields header,
      routes.find? "POST" path = some .relay ↔
        (Selector.ofRequest? route path fields header).isSome = true ∧
          path ≠ "" ∧ (path.endsWith "/" = true → path = route) ∧
            ¬ (route = "/" ∧ path = healthPath) := by
  obtain ⟨routes, hroutes, hserves⟩ := serves_of_literal hroute hliteral
  refine ⟨routes, hroutes, fun path fields header => ?_⟩
  rw [hserves.find?_post_iff hroute, hserves.isRelay_iff_asks hroute,
    Selector.isSome_ofRequest?_iff, and_assoc, and_assoc]

/-- Served as a gateway's path: one segment after the route. -/
theorem post_relayed_named : ∃ routes, ofRoute? "/gateway" = some routes ∧
    routes.find? "POST" "/gateway/g1" = some .relay := by
  have hroute : Config.isRoute "/gateway" = true := by decide +kernel
  obtain ⟨routes, hroutes, hrelayed⟩ := post_relayed_iff hroute (by decide)
  exact ⟨routes, hroutes, (hrelayed "/gateway/g1" [] ⟨"ohttp-gateway"⟩).mpr (by decide +kernel)⟩

/-- Read and not served: the same path with a slash at its end asks for the same gateway, and nothing
answers there. -/
theorem trailing_slash_unserved :
    Config.isRoute "/gateway" = true ∧ RoutePattern.IsLiteral "/gateway" ∧
      Selector.ofRequest? "/gateway" "/gateway/g1/" [] ⟨"ohttp-gateway"⟩ = some (.named "g1") ∧
      ∃ routes, ofRoute? "/gateway" = some routes ∧ routes.find? "POST" "/gateway/g1/" = none :=
  ⟨by decide +kernel, by decide, by decide, _, rfl, by decide⟩

end Routes

end ObliviousRelay.Http
