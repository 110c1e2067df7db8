import ObliviousRelay.Proofs.Relay.Story
import ObliviousRelay.Proofs.Text.Split

/-!
# What is revealed of a client

Nothing of a client but its payload reaches a gateway, and nothing of what a relay does depends on
anything in a request but its method, its path, three header fields and the bytes of its body.

- `Request.looksLike_withQuery`: a request looks like itself with a query, as the query is not part
  of the path (`Http.RequestTarget.pathOf_query`).
- `requestTo`: the one request that carries a payload to a target.
- `Relay.client_not_revealed`: all of it, for every relay that is built.
-/

namespace ObliviousRelay

open Gateway (WireRequest wireRequest)

/-! ## Queries -/

namespace Http.RequestTarget

/-- A text without the mark of a fragment has none. -/
theorem withoutFragment_of_ne {cs : List Char} (h : ∀ c ∈ cs, c ≠ '#') : withoutFragment cs = cs := by
  rw [withoutFragment, List.takeWhile_eq_self_iff]
  simpa using h

/-- **A query is cut off**, whatever it says. -/
theorem pathOf_query {path query : List Char} (hpath : ∀ c ∈ path, c ≠ '?' ∧ c ≠ '#')
    (hquery : query.all isQueryChar = true) : pathOf (path ++ '?' :: query) = pathOf path := by
  -- Neither the path nor the query has a mark that begins a fragment.
  have hmark : ∀ c ∈ query, c ≠ '#' := by
    rintro c hc rfl
    exact absurd (List.all_eq_true.mp hquery '#' hc) (by decide)
  have hplain : withoutFragment path = path := withoutFragment_of_ne fun c hc => (hpath c hc).2
  have hwhole : withoutFragment (path ++ '?' :: query) = path ++ '?' :: query :=
    withoutFragment_of_ne (List.forall_mem_append.mpr
      ⟨fun c hc => (hpath c hc).2, List.forall_mem_cons.mpr ⟨by decide, hmark⟩⟩)
  -- The path ends at the first question mark, if there is any.
  have hinside : ∀ c ∈ path, decide (c ≠ '?') = true := fun c hc => decide_eq_true (hpath c hc).1
  have htake : path.takeWhile (· ≠ '?') = path := List.takeWhile_eq_self_iff.mpr hinside
  have htake' : (path ++ '?' :: query).takeWhile (· ≠ '?') = path :=
    takeWhile_append_stop hinside (stopsAtFront_cons (by decide))
  simp only [pathOf, hwhole, hplain, htake, htake']
  simp [hquery]

/-- A target within the bound that begins with a slash is a path with a query. -/
theorem path_of_toList {target : String} {path : List Char} (h : target.toList = '/' :: path)
    (hlength : target.utf8ByteSize ≤ maxLength) :
    RequestTarget.path target = (pathOf ('/' :: path)).map String.ofList := by
  rw [RequestTarget.path, if_neg (not_lt.mpr hlength), h]
  rfl

end Http.RequestTarget

namespace Request

/-- The request with a query at the end of its target. -/
def withQuery (q : Request) (query : String) : Request :=
  { q with target := q.target ++ "?" ++ query }

/-- **A request looks like itself with a query.** Its target is a path, and stays within the bound
with the query. -/
theorem looksLike_withQuery {q : Request} {path : List Char} (htarget : q.target.toList = '/' :: path)
    (hpath : ∀ c ∈ path, c ≠ '?' ∧ c ≠ '#') {query : String}
    (hquery : query.toList.all Http.RequestTarget.isQueryChar = true)
    (hlength : (q.withQuery query).target.utf8ByteSize ≤ Http.RequestTarget.maxLength)
    (route : Http.Route) : q.LooksLike route (q.withQuery query) := by
  refine ⟨rfl, ?_, rfl, rfl, rfl⟩
  have hlong : (q.withQuery query).target.toList = '/' :: (path ++ '?' :: query.toList) := by
    simp [withQuery, String.toList_append, htarget]
  have hshort : q.target.utf8ByteSize ≤ Http.RequestTarget.maxLength := by
    refine le_trans ?_ hlength
    simp only [withQuery, String.utf8ByteSize_append]
    omega
  have hcut : Http.RequestTarget.pathOf ('/' :: (path ++ '?' :: query.toList)) =
      Http.RequestTarget.pathOf ('/' :: path) :=
    Http.RequestTarget.pathOf_query (List.forall_mem_cons.mpr ⟨by decide, hpath⟩) hquery
  -- Both targets are read as paths, and the query is cut off the longer one.
  rw [Http.RequestTarget.path_of_toList htarget hshort,
    Http.RequestTarget.path_of_toList hlong hlength, hcut]

end Request

/-! ## What is revealed -/

/-- The one request that carries a payload to a target. -/
def requestTo (t : Target) (payload : ByteArray) : WireRequest where
  method := "POST"
  target := t.requestPath
  fields := [("host", t.hostHeader), ("content-type", "message/ohttp-req"),
    ("content-length", toString payload.size)]
  body := payload

namespace Relay

variable {v : Nat}

/-- **Nothing of a client but its payload is revealed.** For every relay that is built from a
configuration, in every state that it comes to, and whatever gateways, network and clock do:

- The same is seen of two requests that agree on what is read of them: the same is offered to
  gateways, and the same is answered.
- A request and the same request with a query agree on what is read of them.
- What is offered to a gateway is told by the target and the payload. -/
theorem client_not_revealed {config : Config} {certificates : List Gateway.Certificate}
    {r₀ : Relay} (hbuild : build config certificates = .ok r₀) (before : List RelayOccurrence)
    (hbefore : ∀ o ∈ before, o.isOutside = true) (hnew : (r₀.history before).1.visit? v = none) :
    let r := (r₀.history before).1
    (∀ head₁ head₂ os₁ os₂, r.Twins v head₁ head₂ os₁ os₂ →
      (r.history (.event (.arrive v head₁) :: os₁)).2 =
        (r.history (.event (.arrive v head₂) :: os₂)).2) ∧
    (∀ (q : Request) (path : List Char) (query : String), q.target.toList = '/' :: path →
      (∀ c ∈ path, c ≠ '?' ∧ c ≠ '#') →
      query.toList.all Http.RequestTarget.isQueryChar = true →
      (q.withQuery query).target.utf8ByteSize ≤ Http.RequestTarget.maxLength →
      q.LooksLike r.route (q.withQuery query)) ∧
    ∀ head past, Spares v past → (r.step (.arrive v head)).1.SendsInTurn v past →
      ∀ o, o.isOutside = true → (∀ head, o ≠ .event (.arrive v head)) → ∀ g n w,
      .station g (.offered v n w) ∈ (((r.step (.arrive v head)).1.history past).1.occur o).2 →
      ∃ t m, Made r₀.setup v head past t m ∧ (Registry.ofConfig config).find? g = some t ∧
        w = requestTo t m.payload := by
  intro r
  have hfresh : r₀.Tied := (isFresh_of_build hbuild).tied
  have htied : r.Tied := hfresh.history hbefore
  have hsetup : r.setup = r₀.setup := setup_history r₀ before
  refine ⟨?_, ?_, ?_⟩
  · exact fun head₁ head₂ os₁ os₂ htwins => htwins.history_eq htied hnew
  · exact fun q path query htarget hpath hquery hlength =>
      Request.looksLike_withQuery htarget hpath hquery hlength r.route
  · intro head past hspares hturn o hout hno g n w hmem
    have hfollows := (follows_of_build hbuild).history hfresh hbefore
    obtain ⟨t, m, hmade, rfl, hwire⟩ :=
      offered_made htied hfollows.serves hnew head hspares hturn hout hno hmem
    -- The message has the type of requests, whatever the client called it.
    obtain ⟨upload, more, chunks, -, -, hm, -, -, hfind, -⟩ := hmade.message
    change r.engine.registry.find? t.name = some t at hfind
    rw [hfollows.engine] at hfind
    refine ⟨t, m, hsetup ▸ hmade, hfind, ?_⟩
    rw [Gateway.wireRequest_eq hwire, hm]
    rfl

/-- A plain request with a body of one piece, and one with a query and other fields whose body comes
in two pieces: the same is seen of both, and what is offered is told by target and payload. -/
theorem client_not_revealed_twice :
    let atGateway (e : Gateway.Event) : RelayOccurrence := .event (.station "gateway" e)
    let type : Http.Field := ⟨.contentType, MediaType.request.text.toUTF8⟩
    let plain : Http.RequestHead := ⟨"POST", "/gateway", [type]⟩
    let adorned : Http.RequestHead := ⟨"POST", "/gateway", [⟨⟨"cookie"⟩, ⟨#[7]⟩⟩, type, type]⟩
    let upload (chunks : List ByteArray) : List RelayOccurrence := pieces 0 (chunks.map .bytes) ++
      .event (.uploaded 0) :: [atGateway (.proceed 0), atGateway (.connected 0)]
    let seen (head : Http.RequestHead) (chunks : List ByteArray) : List RelayEffect :=
      (sampleBuilt.history (.event (.arrive 0 head) :: upload chunks)).2
    let request : WireRequest := ⟨"POST", "/", [("host", "[::1]"),
      ("content-type", "message/ohttp-req"), ("content-length", "2")], ⟨#[1, 2]⟩⟩
    seen plain [⟨#[1, 2]⟩] = seen adorned [⟨#[1]⟩, ⟨#[2]⟩] ∧
      ∃ t payload, request = requestTo t payload := by
  intro atGateway type plain adorned upload seen request
  obtain ⟨hsame, hquery, htold⟩ := client_not_revealed (v := 0) build_sampleConfig [] (by simp) rfl
  have hspares : ∀ chunks, Spares 0 (upload chunks) := by
    intro chunks o ho
    rcases List.mem_append.mp ho with ho | ho
    · obtain ⟨p, -, rfl⟩ := List.mem_map.mp ho
      exact ⟨rfl, by simp⟩
    · simp only [List.mem_cons, List.not_mem_nil, or_false] at ho
      rcases ho with rfl | rfl | rfl <;> exact ⟨rfl, by simp [atGateway]⟩
  have hrunning : ∀ {r : Relay}, (r.visit? 0).all (·.isRunning) = true →
      ∀ w, r.visit? 0 = some w → w.isRunning = true := by
    intro r hall w hw
    rwa [hw] at hall
  have hrest : ∀ r : Relay, r.SendsInTurn 0
      [.event (.uploaded 0), atGateway (.proceed 0), atGateway (.connected 0)] := fun r =>
    sendsInTurn_of_no_piece (by simp [atGateway])
  have hwhole : sampleBuilt.SendsInTurn 0 (.event (.arrive 0 plain) :: upload [⟨#[1, 2]⟩]) :=
    ((hrest _).cons fun _ _ => hrunning (by decide +kernel)).cons (by simp)
  have hcut : sampleBuilt.SendsInTurn 0
      (.event (.arrive 0 adorned) :: upload [⟨#[1]⟩, ⟨#[2]⟩]) :=
    (((hrest _).cons fun _ _ => hrunning (by decide +kernel)).cons
      fun _ _ => hrunning (by decide +kernel)).cons (by simp)
  constructor
  · refine hsame plain adorned _ _ ⟨⟨⟨"POST", "/gateway", [type]⟩, ⟨"POST", "/gateway?from=here",
      [⟨⟨"cookie"⟩, ⟨#[7]⟩⟩, type, type]⟩, ⟨rfl, ?_, rfl, rfl, rfl⟩, ?_, ?_⟩,
      recut_of_joined (by decide +kernel) (by simp [atGateway]), hspares _, hspares _, hwhole, hcut⟩
    · -- The query is cut off.
      exact (hquery ⟨"POST", "/gateway", []⟩ "gateway".toList "from=here" rfl (by simp) (by decide)
        (by decide +kernel)).path
    all_goals decide +kernel
  · obtain ⟨t, m, -, -, hrequest⟩ := htold plain (upload [⟨#[1, 2]⟩]) (hspares _) hwhole.tail
      (atGateway (.ready 0)) rfl (by simp [atGateway]) "gateway" 0 request (by decide +kernel)
    exact ⟨t, m.payload, hrequest⟩

end Relay

end ObliviousRelay
