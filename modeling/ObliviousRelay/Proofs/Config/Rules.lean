import ObliviousRelay.Proofs.Config.Accepted
import ObliviousRelay.Proofs.Http.Routes

/-!
# Rules and reports

A configuration is judged by some rules, each about one field. Here every rule is told by itself, by
what breaks it, and the list of problems is compared with the rules: it reports just the broken ones,
each of them once and in the order of the rules, whatever else is broken.

- `Rule` names the rules, `Rule.field` what they are about and `Rule.IsBroken` what breaks them;
  `rules` has those of a configuration in their order.
- `Reports`: some problems report the broken ones among some rules; `reports_problems`.
- `problems_report`: all of it, with the names that are given more than once.
-/

namespace ObliviousRelay.Config

variable {c : Config} {g : Gateway} {before rest : List Gateway} {earlier : List String}

/-! ## Rules -/

/-- The rules about one gateway. -/
inductive GatewayRule where
  | name
  | endpoint
  | acceptedMediaTypes
  | poolSize
  | maxBodySize
  | requestTimeout
  | queueWait
  deriving DecidableEq

/-- The rules about a configuration. -/
inductive Rule where
  | bindAddress
  | maxInflight
  | pathPrefix
  | selectorHeader
  | maxBodySize
  | maxResponseSize
  | connectTimeout
  | requestTimeout
  | queueWait
  | idleTimeout
  | connectAttempts
  | gateway (position : Nat) (rule : GatewayRule)
  | defaultGateway
  deriving DecidableEq

/-- The field of a gateway that a rule is about. -/
def GatewayRule.field : GatewayRule → String
  | name => "name"
  | endpoint => "endpoint"
  | acceptedMediaTypes => "accepted_media_types"
  | poolSize => "pool_size"
  | maxBodySize => "max_body_size"
  | requestTimeout => "request_timeout_ms"
  | queueWait => "queue_wait_ms"

/-- The field that a rule is about. -/
def Rule.field : Rule → String
  | bindAddress => "listener.bind_address"
  | maxInflight => "listener.max_inflight"
  | pathPrefix => "routing.path_prefix"
  | selectorHeader => "routing.selector_header"
  | maxBodySize => "limits.max_body_size"
  | maxResponseSize => "limits.max_response_size"
  | connectTimeout => "timeouts.connect_ms"
  | requestTimeout => "timeouts.request_ms"
  | queueWait => "timeouts.queue_wait_ms"
  | idleTimeout => "timeouts.idle_ms"
  | connectAttempts => "retries.connect_attempts"
  | gateway position rule => "gateways[" ++ toString position ++ "]." ++ rule.field
  | defaultGateway => "routing.default_gateway"

/-- A gateway breaks a rule, given the gateways before it. -/
def GatewayRule.IsBroken (before : List Gateway) (g : Gateway) : GatewayRule → Prop
  | name => g.name = "" ∨ '/' ∈ g.name.toList ∨ ∃ other ∈ before, other.name = g.name
  | endpoint => ¬ ∃ url, Url.parse g.endpoint = .ok url ∧
      (url.scheme = "http" ∨ url.scheme = "https") ∧ url.host?.isSome = true
  | acceptedMediaTypes => g.acceptedMediaTypes = []
  | poolSize => g.poolSize = 0
  | maxBodySize => g.maxBodySize = some 0
  | requestTimeout => g.requestTimeoutMs = some 0
  | queueWait => g.queueWaitMs = some 0

/-- A configuration breaks a rule. -/
def Rule.IsBroken (c : Config) : Rule → Prop
  | bindAddress => c.listener.unixSocket = none ∧
      Net.SocketAddress.parse? c.listener.bindAddress = none
  | maxInflight => c.listener.maxInflight = 0
  | pathPrefix => c.routing.pathPrefix.toList.head? ≠ some '/' ∨
      1 < c.routing.pathPrefix.length ∧ c.routing.pathPrefix.toList.getLast? = some '/'
  | selectorHeader => Http.FieldName.ofText? c.routing.selectorHeader = none
  | maxBodySize => c.limits.maxBodySize = 0
  | maxResponseSize => c.limits.maxResponseSize = 0
  | connectTimeout => c.timeouts.connectMs = 0
  | requestTimeout => c.timeouts.requestMs = 0
  | queueWait => c.timeouts.queueWaitMs = 0
  | idleTimeout => c.timeouts.idleMs = 0
  | connectAttempts => c.retries.connectAttempts = 0
  | gateway position rule => ∃ g, c.gateways[position]? = some g ∧
      rule.IsBroken (c.gateways.take position) g
  | defaultGateway => ∃ name, c.routing.defaultGateway = some name ∧
      ∀ g ∈ c.gateways, g.name ≠ name

/-- What a report says of a gateway that breaks a rule. -/
def GatewayRule.message (g : Gateway) : GatewayRule → String
  | name => if isName g.name then "duplicate name '" ++ g.name ++ "'"
      else "must be non-empty and contain no '/'"
  | endpoint => match Url.parse g.endpoint with
    | .error fault => fault.message
    | .ok _ => "must be an http or https URL with a host"
  | acceptedMediaTypes => "must not be empty"
  | poolSize | maxBodySize | requestTimeout | queueWait => "must be greater than 0"

/-- What a report says of a configuration that breaks a rule. -/
def Rule.message (c : Config) : Rule → String
  | bindAddress => "not a socket address"
  | pathPrefix => "must start with '/' and have no trailing '/'"
  | selectorHeader => "not a valid header name"
  | maxInflight | maxBodySize | maxResponseSize | connectTimeout | requestTimeout | queueWait
  | idleTimeout => "must be greater than 0"
  | connectAttempts => "must be at least 1"
  | gateway position rule => (c.gateways[position]?.map rule.message).getD ""
  | defaultGateway => "no gateway named '" ++ c.routing.defaultGateway.getD "" ++ "'"

/-- The report of a broken rule. -/
def Rule.report (c : Config) (r : Rule) : Problem := ⟨r.field, r.message c⟩

/-- The report of a gateway whose name was given before. -/
def duplicate (position : Nat) (name : String) : Problem :=
  ⟨(Rule.gateway position .name).field, "duplicate name '" ++ name ++ "'"⟩

/-- The rules about one gateway, in their order. -/
def GatewayRule.all : List GatewayRule :=
  [name, endpoint, acceptedMediaTypes, poolSize, maxBodySize, requestTimeout, queueWait]

/-- The rules about the sections, in their order. -/
def sectionRules : List Rule :=
  [.bindAddress, .maxInflight, .pathPrefix, .selectorHeader, .maxBodySize, .maxResponseSize,
    .connectTimeout, .requestTimeout, .queueWait, .idleTimeout, .connectAttempts]

/-- The rules about the gateway at a position. -/
def gatewayRules (position : Nat) : List Rule := GatewayRule.all.map (.gateway position)

/-- The rules of a configuration, in their order. -/
def rules (c : Config) : List Rule :=
  sectionRules ++ (List.range c.gateways.length).flatMap gatewayRules ++ [.defaultGateway]

/-! ## No two rules are about the same field -/

/-- No two rules of a gateway are about the same field. -/
theorem GatewayRule.field_injective : Function.Injective field := by
  intro r r' h
  cases r <;> cases r' <;> first | rfl | exact absurd h (by decide)

/-- Decimals hold no bracket, so that a position ends where its bracket closes. -/
theorem bracket_not_mem_toString (n : Nat) : ']' ∉ (toString n).toList := by
  rw [Nat.toString_eq_ofList_toDigits, String.toList_ofList]
  intro hmem
  have hdigit := Nat.isDigit_of_mem_toDigits (by decide) (by decide) hmem
  exact absurd hdigit (by decide)

/-- A number is read back from its digits. -/
theorem toString_toList_inj {i j : Nat} (h : (toString i).toList = (toString j).toList) : i = j := by
  rw [Nat.toString_eq_ofList_toDigits, Nat.toString_eq_ofList_toDigits, String.toList_ofList,
    String.toList_ofList] at h
  calc i = Nat.ofDigitChars 10 (Nat.toDigits 10 i) 0 := Nat.ofDigitChars_ten_toDigits.symm
    _ = Nat.ofDigitChars 10 (Nat.toDigits 10 j) 0 := by rw [h]
    _ = j := Nat.ofDigitChars_ten_toDigits

/-- A text is cut in one way at the first place of a character. -/
theorem eq_of_append_cons {a : Char} {xs ys zs ws : List Char} (hx : a ∉ xs) (hy : a ∉ ys)
    (h : xs ++ a :: zs = ys ++ a :: ws) : xs = ys ∧ zs = ws := by
  induction xs generalizing ys with
  | nil =>
    -- One text ends at once, and the other one would have to begin with the mark.
    cases ys with
    | nil => exact ⟨rfl, (List.cons.inj h).2⟩
    | cons y ys => exact absurd ((List.cons.inj h).1 ▸ List.mem_cons_self) hy
  | cons x xs ih =>
    cases ys with
    | nil => exact absurd ((List.cons.inj h).1 ▸ List.mem_cons_self) hx
    -- Both go on with the same character.
    | cons y ys =>
      obtain ⟨rfl, htail⟩ := List.cons.inj h
      obtain ⟨rfl, hrest⟩ := ih (fun hmem => hx (List.mem_cons_of_mem _ hmem))
        (fun hmem => hy (List.mem_cons_of_mem _ hmem)) htail
      exact ⟨rfl, hrest⟩

/-- The field of a gateway tells its position and its name. -/
theorem gatewayField_inj {i j : Nat} {s t : String}
    (h : "gateways[" ++ toString i ++ "]." ++ s = "gateways[" ++ toString j ++ "]." ++ t) :
    i = j ∧ s = t := by
  simp only [String.ext_iff, String.toList_append, List.append_assoc,
    List.append_right_inj] at h
  change (toString i).toList ++ ']' :: '.' :: s.toList =
    (toString j).toList ++ ']' :: '.' :: t.toList at h
  -- The bracket ends the number on both sides.
  obtain ⟨hposition, hrest⟩ :=
    eq_of_append_cons (bracket_not_mem_toString i) (bracket_not_mem_toString j) h
  exact ⟨toString_toList_inj hposition, String.ext (List.cons.inj hrest).2⟩

/-- The field of a gateway is of no other kind. -/
theorem gatewayField_ne {i : Nat} {s t : String} (ht : t.toList.head? ≠ some 'g') :
    "gateways[" ++ toString i ++ "]." ++ s ≠ t := by
  rintro rfl
  simp at ht

/-- No two rules are about the same field. -/
theorem Rule.field_injective : Function.Injective field := by
  intro r r' h
  cases r with
  | gateway i rule =>
    cases r' with
    -- Two fields of gateways have the same position and the same rule.
    | gateway j rule' =>
      obtain ⟨rfl, hfield⟩ := gatewayField_inj h
      rw [GatewayRule.field_injective hfield]
    -- A field of a gateway is none of a section.
    | _ => exact absurd h (gatewayField_ne (by decide))
  | _ =>
    cases r' with
    | gateway j rule' => exact absurd h.symm (gatewayField_ne (by decide))
    -- Two fields of sections are two different texts.
    | _ => first | rfl | exact absurd h (by decide)

/-- The rules of one gateway are listed once each. -/
theorem nodup_gatewayRules (position : Nat) : (gatewayRules position).Nodup :=
  List.Nodup.map (fun _ _ h => (Rule.gateway.inj h).2) (by decide)

/-- The rules of a position are rules of the gateway that stands there. -/
theorem mem_gatewayRules {position : Nat} {r : Rule} (h : r ∈ gatewayRules position) :
    ∃ rule, r = .gateway position rule := by
  obtain ⟨rule, -, rfl⟩ := List.mem_map.mp h
  exact ⟨rule, rfl⟩

/-- Every rule of a gateway is listed. -/
theorem GatewayRule.mem_all (rule : GatewayRule) : rule ∈ all := by
  cases rule <;> decide

/-- No rule stands twice among the rules of a configuration. -/
theorem nodup_rules (c : Config) : (rules c).Nodup := by
  -- The rules of two positions are different ones, since the position is part of them.
  have hgateways : ((List.range c.gateways.length).flatMap gatewayRules).Nodup := by
    rw [List.nodup_flatMap]
    refine ⟨fun position _ => nodup_gatewayRules position, ?_⟩
    refine List.nodup_range.imp fun {i j} hne r hi hj => hne ?_
    obtain ⟨rule, rfl⟩ := mem_gatewayRules hi
    obtain ⟨rule', heq⟩ := mem_gatewayRules hj
    exact (Rule.gateway.inj heq).1
  have hmem : ∀ r ∈ (List.range c.gateways.length).flatMap gatewayRules,
      ∃ position rule, r = .gateway position rule := by
    intro r hr
    obtain ⟨position, -, hr⟩ := List.mem_flatMap.mp hr
    exact ⟨position, mem_gatewayRules hr⟩
  rw [rules, List.nodup_append', List.nodup_append']
  refine ⟨⟨by decide, hgateways, fun r hsection hr => ?_⟩, List.nodup_singleton _,
    fun r hr hd => ?_⟩
  · -- A rule of a section is none of a gateway.
    obtain ⟨position, rule, rfl⟩ := hmem r hr
    simp [sectionRules] at hsection
  · -- The rule about the default gateway is neither.
    obtain rfl := List.mem_singleton.mp hd
    rcases List.mem_append.mp hr with hr | hr
    · exact absurd hr (by decide)
    · obtain ⟨position, rule, heq⟩ := hmem _ hr
      cases heq

/-- A rule that is broken is one of the rules. -/
theorem mem_rules {r : Rule} (h : r.IsBroken c) : r ∈ rules c := by
  cases r with
  | gateway position rule =>
    obtain ⟨g, hg, -⟩ := h
    -- A rule is broken only where there is a gateway, so that its position is among those walked.
    obtain ⟨hposition, -⟩ := List.getElem?_eq_some_iff.mp hg
    refine List.mem_append_left _ (List.mem_append_right _
      (List.mem_flatMap.mpr ⟨position, ?_, ?_⟩))
    · exact List.mem_range.mpr hposition
    · exact List.mem_map_of_mem rule.mem_all
  | defaultGateway => exact List.mem_append_right _ List.mem_cons_self
  -- The rules of sections are all listed.
  | _ => exact List.mem_append_left _ (List.mem_append_left _ (by decide))

/-! ## Reports -/

/-- Some problems report the broken ones among some rules, in the order of the rules. -/
def Reports (c : Config) (rs : List Rule) (ps : List Problem) : Prop :=
  ∃ found : List Rule, found.Sublist rs ∧ ps = found.map (·.report c) ∧
    ∀ r ∈ rs, r ∈ found ↔ r.IsBroken c

/-- Reports on two lists of rules make one on both. -/
theorem Reports.append {rs rs' : List Rule} {ps ps' : List Problem} (h : Reports c rs ps)
    (h' : Reports c rs' ps') : Reports c (rs ++ rs') (ps ++ ps') := by
  obtain ⟨found, hsub, rfl, hbroken⟩ := h
  obtain ⟨found', hsub', rfl, hbroken'⟩ := h'
  refine ⟨found ++ found', hsub.append hsub', List.map_append.symm, fun r hr => ?_⟩
  rw [List.mem_append]
  constructor
  · -- What is found among either is broken.
    rintro (hfound | hfound)
    · exact (hbroken r (hsub.subset hfound)).mp hfound
    · exact (hbroken' r (hsub'.subset hfound)).mp hfound
  -- What is broken is found in the list where it stands.
  · intro hb
    exact (List.mem_append.mp hr).imp (fun hr => (hbroken r hr).mpr hb)
      fun hr => (hbroken' r hr).mpr hb

/-- A broken rule is reported. -/
theorem reports_one {r : Rule} (h : r.IsBroken c) : Reports c [r] [r.report c] :=
  ⟨[r], List.Sublist.refl _, rfl, fun s hs => by
    obtain rfl := List.mem_singleton.mp hs
    simp [h]⟩

/-- A rule that is kept is not. -/
theorem reports_none {r : Rule} (h : ¬ r.IsBroken c) : Reports c [r] [] :=
  ⟨[], List.nil_sublist _, rfl, fun s hs => by
    obtain rfl := List.mem_singleton.mp hs
    simp [h]⟩

/-- A rule that is tested reports whether it is broken. -/
theorem reports_broken {r : Rule} {isBroken : Bool} {message : String}
    (h : isBroken = true ↔ r.IsBroken c) (hmessage : r.message c = message) :
    Reports c [r] (broken isBroken r.field message) := by
  subst hmessage
  cases isBroken with
  | true => exact reports_one (h.mp rfl)
  | false => exact reports_none fun hb => absurd (h.mpr hb) (by decide)

/-- The first rule is tested, and the others are reported on. -/
theorem Reports.cons {r : Rule} {rs : List Rule} {ps : List Problem} {isBroken : Bool}
    {message : String} (h : Reports c rs ps) (hbroken : isBroken = true ↔ r.IsBroken c)
    (hmessage : r.message c = message) :
    Reports c (r :: rs) (broken isBroken r.field message ++ ps) :=
  (reports_broken hbroken hmessage).append h

/-- The test of a route finds just what breaks its rule. -/
theorem not_isRoute_iff :
    (!isRoute c.routing.pathPrefix) = true ↔ Rule.pathPrefix.IsBroken c := by
  rw [Rule.IsBroken]
  generalize c.routing.pathPrefix = s
  have hstarts : s.startsWith "/" = true ↔ s.toList.head? = some '/' := by
    rw [String.startsWith_string_iff, List.head?_eq_some_iff]
    exact exists_congr fun rest => eq_comm
  rw [Bool.not_eq_true', Bool.eq_false_iff, isRoute, Ne, Bool.and_eq_true, Bool.or_eq_true,
    beq_iff_eq, Bool.not_eq_true', Bool.eq_false_iff, hstarts, Ne, Http.endsWith_slash_iff,
    ← String.length_toList]
  by_cases hhead : s.toList.head? = some '/'
  · -- A text that starts with a slash is longer than one just when it is not the root.
    obtain ⟨rest, hrest⟩ := List.head?_eq_some_iff.mp hhead
    have hroot : s = "/" ↔ rest = [] := by
      rw [String.ext_iff, hrest]
      simp
    rw [hroot, hrest]
    cases rest <;> simp
  · -- Without a leading slash both say that the rule is broken.
    simp [hhead]

/-- **The problems of the sections report their broken rules.** -/
theorem reports_sections (c : Config) : Reports c sectionRules (sectionProblems c) := by
  simp only [sectionProblems, List.append_assoc]
  -- Each rule is tested by itself.
  iterate 2 refine .cons ?_ (by simp [Rule.IsBroken]) rfl
  refine .cons ?_ not_isRoute_iff rfl
  iterate 7 refine .cons ?_ (by simp [Rule.IsBroken]) rfl
  exact reports_broken (by simp [Rule.IsBroken]) rfl

/-! ## The gateways -/

/-- The gateway that stands behind some others has their number as its position. -/
theorem getElem?_of_split (hc : c.gateways = before ++ g :: rest) :
    c.gateways[before.length]? = some g := by
  simp [hc]

/-- What a gateway breaks, told from the place where it stands in the list. -/
theorem isBroken_gateway_iff (hc : c.gateways = before ++ g :: rest) (rule : GatewayRule) :
    (Rule.gateway before.length rule).IsBroken c ↔ rule.IsBroken before g := by
  simp [Rule.IsBroken, hc]

/-- What is said of a gateway's rule is told by the gateway alone. -/
theorem message_gateway {position : Nat} (hg : c.gateways[position]? = some g)
    (rule : GatewayRule) : (Rule.gateway position rule).message c = rule.message g := by
  show (c.gateways[position]?.map rule.message).getD "" = _
  rw [hg, Option.map_some, Option.getD_some]

/-- The problem of a name reports whether its rule is broken. -/
theorem reports_name (hc : c.gateways = before ++ g :: rest)
    (hearlier : ∀ name, name ∈ earlier ↔ ∃ other ∈ before, other.name = name)
    {field : String → String} (hfield : field "name" = (Rule.gateway before.length .name).field) :
    Reports c [.gateway before.length .name] (nameProblem field earlier g.name) := by
  have hbroken := isBroken_gateway_iff hc .name
  have hmessage := message_gateway (getElem?_of_split hc) .name
  rw [GatewayRule.IsBroken, ← hearlier] at hbroken
  rw [GatewayRule.message] at hmessage
  unfold nameProblem
  rw [hfield]
  -- A text that is no name is reported first; only then it is looked for among the earlier ones.
  by_cases hname : isName g.name = true
  · have hsound : g.name ≠ "" ∧ '/' ∉ g.name.toList := by simpa [isName] using hname
    rw [if_pos hname] at hmessage
    simp only [hname, Bool.not_true, Bool.false_eq_true, if_false, List.contains_iff_mem]
    split
    · -- The name is known already, and it is broken for this reason alone.
      next hmem =>
      rw [← hmessage]
      exact reports_one (hbroken.mpr (.inr (.inr hmem)))
    · -- The name is new, and none of the three reasons applies.
      next hnew =>
      refine reports_none fun hb => ?_
      rcases hbroken.mp hb with h | h | h
      · exact hsound.1 h
      · exact hsound.2 h
      · exact hnew h
  -- A text that is no name is empty or holds a slash.
  · have hunsound : g.name = "" ∨ '/' ∈ g.name.toList := by
      simpa [isName, or_iff_not_imp_left] using hname
    rw [if_neg hname] at hmessage
    simp only [Bool.eq_false_iff.mpr hname, Bool.not_false, if_true]
    rw [← hmessage]
    exact reports_one (hbroken.mpr (hunsound.imp_right .inl))

/-- The problem of an endpoint reports whether its rule is broken. -/
theorem reports_endpoint (hc : c.gateways = before ++ g :: rest) {field : String → String}
    (hfield : field "endpoint" = (Rule.gateway before.length .endpoint).field) :
    Reports c [.gateway before.length .endpoint] (endpointProblem field g.endpoint) := by
  have hbroken := isBroken_gateway_iff hc .endpoint
  have hmessage := message_gateway (getElem?_of_split hc) .endpoint
  rw [GatewayRule.IsBroken] at hbroken
  rw [GatewayRule.message] at hmessage
  unfold endpointProblem
  rw [hfield]
  -- What cannot be parsed is reported with the parser's fault, the rest with what it lacks.
  cases hparse : Url.parse g.endpoint with
  | error fault =>
    simp only [hparse] at hmessage ⊢
    rw [← hmessage]
    exact reports_one (hbroken.mpr (by simp [hparse]))
  | ok url =>
    simp only [hparse] at hmessage ⊢
    exact reports_broken (by rw [hbroken]; simp [hparse, or_iff_not_imp_left]) hmessage

/-- **The problems of a gateway report the rules that it breaks**, given the names before it. -/
theorem reports_gateway (hc : c.gateways = before ++ g :: rest)
    (hearlier : ∀ name, name ∈ earlier ↔ ∃ other ∈ before, other.name = name) :
    Reports c (gatewayRules before.length) (gatewayProblems before.length earlier g) := by
  have hmessage := message_gateway (getElem?_of_split hc)
  have htested : ∀ {rule : GatewayRule} {isBroken : Bool},
      (isBroken = true ↔ rule.IsBroken before g) →
        (isBroken = true ↔ (Rule.gateway before.length rule).IsBroken c) :=
    fun h => h.trans (isBroken_gateway_iff hc _).symm
  simp only [gatewayProblems, List.append_assoc]
  refine (reports_name hc hearlier rfl).append ((reports_endpoint hc rfl).append ?_)
  -- The other rules are tested each by itself.
  iterate 4 refine .cons ?_ (htested (by simp [GatewayRule.IsBroken])) (hmessage _)
  exact reports_broken (htested (by simp [GatewayRule.IsBroken])) (hmessage _)

/-- The problems of a list of gateways report the broken rules of each, from a position on. -/
theorem reports_gatewayList (gs : List Gateway) (hc : c.gateways = before ++ gs)
    (hearlier : ∀ name, name ∈ earlier ↔ ∃ other ∈ before, other.name = name) :
    Reports c ((List.range' before.length gs.length).flatMap gatewayRules)
      (gatewayListProblems before.length earlier gs) := by
  -- By induction on the gateways that are left; those before them have given the earlier names.
  induction gs generalizing before earlier with
  | nil => exact ⟨[], List.nil_sublist _, rfl, by simp⟩
  | cons g rest ih =>
    -- The name of this gateway is an earlier one for those that follow.
    have hnext : ∀ name, name ∈ g.name :: earlier ↔
        ∃ other ∈ before ++ [g], other.name = name := fun name => by
      rw [List.mem_cons, hearlier]
      simp [or_and_right, exists_or, or_comm, eq_comm]
    have hrest := ih (by simp [hc]) hnext
    rw [List.length_append, List.length_singleton] at hrest
    rw [List.length_cons, List.range'_succ, List.flatMap_cons, gatewayListProblems]
    exact (reports_gateway hc hearlier).append hrest

/-- The problem of the default gateway reports whether one of this name is missing. -/
theorem reports_default (c : Config) : Reports c [.defaultGateway] (defaultProblem c) := by
  have hmessage : Rule.defaultGateway.message c =
      "no gateway named '" ++ c.routing.defaultGateway.getD "" ++ "'" := rfl
  have hbroken : Rule.defaultGateway.IsBroken c ↔ ∃ name, c.routing.defaultGateway = some name ∧
      ∀ g ∈ c.gateways, g.name ≠ name := Iff.rfl
  unfold defaultProblem
  split
  -- A default is named: it is looked for.
  · next name hname =>
    rw [hname, Option.getD_some] at hmessage
    exact reports_broken (by rw [hbroken, hname]; simp) hmessage
  -- No default is named, and nothing is broken.
  · next hnone => exact reports_none (by rw [hbroken, hnone]; simp)

/-- **The problems of a configuration report its broken rules.** -/
theorem reports_problems (c : Config) : Reports c (rules c) (problems c) := by
  have hgateways : Reports c _ (gatewayListProblems ([] : List Gateway).length [] c.gateways) :=
    reports_gatewayList c.gateways rfl (by simp)
  rw [List.length_nil, ← List.range_eq_range'] at hgateways
  exact ((reports_sections c).append hgateways).append (reports_default c)

/-! ## Names that are given more than once -/

/-- A report of a broken rule is one of the problems, and there are no others. -/
theorem mem_problems_iff {p : Problem} :
    p ∈ problems c ↔ ∃ r : Rule, r.IsBroken c ∧ p = r.report c := by
  obtain ⟨found, hsub, hproblems, hbroken⟩ := reports_problems c
  rw [hproblems, List.mem_map]
  constructor
  · rintro ⟨r, hr, rfl⟩
    exact ⟨r, (hbroken r (hsub.subset hr)).mp hr, rfl⟩
  · rintro ⟨r, hr, rfl⟩
    exact ⟨r, (hbroken r (mem_rules hr)).mpr hr, rfl⟩

/-- A name is reported as given before where it is, if it is a name at all. -/
theorem duplicate_mem_iff {position : Nat} {name : String} : duplicate position name ∈ problems c ↔
    name ≠ "" ∧ '/' ∉ name.toList ∧ ∃ g, c.gateways[position]? = some g ∧ g.name = name ∧
      ∃ other ∈ c.gateways.take position, other.name = name := by
  have hsound : isName name = true ↔ name ≠ "" ∧ '/' ∉ name.toList := by simp [isName]
  rw [mem_problems_iff]
  constructor
  · rintro ⟨r, hb, hreport⟩
    obtain rfl : Rule.gateway position .name = r :=
      -- The report is about a name, so that the gateway of this position broke the rule about
      -- names.
      Rule.field_injective (congrArg Problem.field hreport)
    obtain ⟨g, hg, hbroken⟩ := hb
    have hmessage : "duplicate name '" ++ name ++ "'" = GatewayRule.message g .name :=
      (congrArg Problem.message hreport).trans (message_gateway hg .name)
    rw [GatewayRule.message] at hmessage
    split at hmessage
    -- What is said is that the name is a duplicate, so that it is a name and was given before.
    · next hname =>
      obtain rfl : name = g.name := by simpa [String.ext_iff] using hmessage
      obtain ⟨hne, hsegment⟩ := hsound.mp hname
      refine ⟨hne, hsegment, g, hg, rfl, ?_⟩
      rcases hbroken with h | h | h
      · exact absurd h hne
      · exact absurd h hsegment
      · exact h
    · -- What is said of a text that is no name begins otherwise.
      simp [String.ext_iff] at hmessage
  -- A name that was given before breaks the rule, and is said to be a duplicate.
  · rintro ⟨hne, hsegment, g, hg, rfl, hbefore⟩
    refine ⟨.gateway position .name, ⟨g, hg, .inr (.inr hbefore)⟩, ?_⟩
    have hmessage := message_gateway hg .name
    rw [GatewayRule.message, if_pos (hsound.mpr ⟨hne, hsegment⟩)] at hmessage
    rw [Rule.report, hmessage]
    rfl

/-- An earlier gateway of this name stands at an earlier position. -/
theorem exists_earlier_iff {gs : List Gateway} {position : Nat} {name : String} :
    (∃ other ∈ gs.take position, other.name = name) ↔
      ∃ j other, j < position ∧ gs[j]? = some other ∧ other.name = name := by
  simp only [List.mem_take_iff_getElem, List.getElem?_eq_some_iff]
  constructor
  · rintro ⟨other, ⟨j, hj, rfl⟩, hname⟩
    obtain ⟨hposition, hlength⟩ := Nat.lt_min.mp hj
    exact ⟨j, _, hposition, ⟨hlength, rfl⟩, hname⟩
  · rintro ⟨j, other, hposition, ⟨hlength, rfl⟩, hname⟩
    exact ⟨_, ⟨j, Nat.lt_min.mpr ⟨hposition, hlength⟩, rfl⟩, hname⟩

/-- All places of a text but the first are places where it stood before. -/
theorem countP_repeated (names : List String) (name : String) :
    (List.range names.length).countP
      (fun i => decide (names[i]? = some name ∧ name ∈ names.take i)) = names.count name - 1 := by
  -- By induction from the end: what counts for a place is what stands before it.
  induction names using List.reverseRecOn with
  | nil => rfl
  | append_singleton names last ih =>
    -- The places before the last one are as they were.
    have hbefore : (List.range names.length).countP
        (fun i => decide ((names ++ [last])[i]? = some name ∧ name ∈ (names ++ [last]).take i)) =
        names.count name - 1 := by
      rw [← ih]
      refine List.countP_congr fun i hi => ?_
      have hi := List.mem_range.mp hi
      rw [List.getElem?_append_left hi, List.take_append_of_le_length hi.le]
    have hlast : (names ++ [last])[names.length]? = some last := by simp
    have htake : (names ++ [last]).take names.length = names := by simp
    rw [List.length_append, List.length_singleton, List.range_succ, List.countP_append, hbefore,
      List.countP_singleton, hlast, htake, List.count_append, List.count_singleton]
    have hmem := List.count_pos_iff (a := name) (l := names)
    by_cases heq : last = name
    -- The last name is counted if it is this name and stands before, just as the count grows by one
    -- then.
    · by_cases hin : name ∈ names
      · have hpos := hmem.mpr hin
        simp only [heq, hin, and_self, decide_true, if_true, beq_self_eq_true]
        omega
      · simp [heq, hin, List.count_eq_zero.mpr hin]
    · simp [heq]

/-- **The problems of a configuration are those of its broken rules.**

- There are none just when no rule is broken, and a field is reported just when its rule is broken,
  whatever else is.
- No field is reported twice, and the reports come in the order of the rules: the sections, the
  gateways by their positions, the default gateway.
- A gateway's name is reported as given before just when it is a name and stands earlier in the list;
  so of several gateways with one name all but one are reported.
- The default gateway is reported just when no gateway has its name. -/
theorem problems_report (c : Config) :
    (isValid c = true ↔ ∀ r : Rule, ¬ r.IsBroken c) ∧
    (∀ r : Rule, r.field ∈ (problems c).map (·.field) ↔ r.IsBroken c) ∧
    (∀ p ∈ problems c, ∃ r : Rule, r.IsBroken c ∧ p = r.report c) ∧
    ((problems c).map (·.field)).Nodup ∧
    ((problems c).map (·.field)).Sublist ((rules c).map Rule.field) ∧
    (∀ position name, duplicate position name ∈ problems c ↔
      name ≠ "" ∧ '/' ∉ name.toList ∧ ∃ g, c.gateways[position]? = some g ∧ g.name = name ∧
        ∃ j other, j < position ∧ c.gateways[j]? = some other ∧ other.name = name) ∧
    (∀ name, name ≠ "" → '/' ∉ name.toList →
      (List.range c.gateways.length).countP (fun i => decide (duplicate i name ∈ problems c)) =
        c.gateways.countP (fun g => decide (g.name = name)) - 1) ∧
    ∀ name, c.routing.defaultGateway = some name →
      ("routing.default_gateway" ∈ (problems c).map (·.field) ↔
        ∀ g ∈ c.gateways, g.name ≠ name) := by
  obtain ⟨found, hsub, hproblems, hfound⟩ := reports_problems c
  have hfields : (problems c).map (·.field) = found.map Rule.field := by
    rw [hproblems, List.map_map]
    rfl
  -- What was found is what is broken, since every broken rule is listed.
  have hbroken : ∀ r : Rule, r ∈ found ↔ r.IsBroken c := fun r =>
    ⟨fun hr => (hfound r (hsub.subset hr)).mp hr, fun hb => (hfound r (mem_rules hb)).mpr hb⟩
  have hreported : ∀ r : Rule, r.field ∈ (problems c).map (·.field) ↔ r.IsBroken c := by
    intro r
    rw [hfields, List.mem_map_of_injective Rule.field_injective, hbroken]
  refine ⟨?_, hreported, fun p hp => mem_problems_iff.mp hp, ?_, ?_, fun position name => ?_,
    fun name hne hsegment => ?_, fun name hname => ?_⟩
  · -- Valid just when no rule is broken.
    rw [isValid, hproblems, List.isEmpty_iff, List.map_eq_nil_iff, List.eq_nil_iff_forall_not_mem]
    exact forall_congr' fun r => not_congr (hbroken r)
  · -- No field is reported twice.
    rw [hfields]
    exact (hsub.nodup (nodup_rules c)).map Rule.field_injective
  · -- The fields come in the order of the rules.
    rw [hfields]
    exact hsub.map Rule.field
  · -- A duplicate is reported just where a name stands a second time.
    rw [duplicate_mem_iff]
    simp only [exists_earlier_iff]
  -- A name is reported as often as it is repeated.
  · have hcount : c.gateways.countP (fun g => decide (g.name = name)) =
        (c.gateways.map (·.name)).count name := by
      rw [List.count, List.countP_map]
      exact List.countP_congr fun g _ => by simp
    rw [hcount, ← countP_repeated, List.length_map]
    refine List.countP_congr fun i _ => ?_
    simp only [decide_eq_true_eq, duplicate_mem_iff, hne, hsegment, ne_eq, not_false_eq_true,
      true_and, List.getElem?_map, Option.map_eq_some_iff, ← List.map_take, List.mem_map]
    exact ⟨fun ⟨g, hg, hname, hearlier⟩ => ⟨⟨g, hg, hname⟩, hearlier⟩,
      fun ⟨⟨g, hg, hname⟩, hearlier⟩ => ⟨g, hg, hname, hearlier⟩⟩
  -- The default gateway is reported just when it is none of those listed.
  · have hrule : Rule.defaultGateway.IsBroken c ↔ ∃ name, c.routing.defaultGateway = some name ∧
        ∀ g ∈ c.gateways, g.name ≠ name := Iff.rfl
    rw [show "routing.default_gateway" = Rule.defaultGateway.field from rfl, hreported, hrule, hname]
    simp

end ObliviousRelay.Config
