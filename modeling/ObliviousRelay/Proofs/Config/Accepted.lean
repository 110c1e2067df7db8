import Mathlib.Data.List.Nodup
import ObliviousRelay.Config.Load
import ObliviousRelay.Routing.Target

/-!
# Accepted configurations

What can be relied on once no rule is found broken. The rules are written as a list of problems;
here each is turned round into what its absence says, for all gateways of the list at once.

- `Sound` gathers what holds of one gateway, `Accepted` what holds of the whole configuration.
- `accepted_of_problems`: a configuration without problems is accepted.
- `isRoute_of_problems` and `isName_of_problems`: its route and the names of its gateways.
- `accepted_of_parse` and `accepted_of_builtIn`: so is every configuration that is loaded, whatever
  the environment overrides.
-/

namespace ObliviousRelay.Config

variable {c : Config} {g : Gateway}

/-! ## Single rules -/

/-- A check reports nothing just when it finds nothing broken. -/
theorem broken_eq_nil {isBroken : Bool} {field message : String} :
    broken isBroken field message = [] ↔ isBroken = false := by
  cases isBroken <;> simp [broken]

/-- A number passes the check against zero just when it is not zero. -/
theorem zero_eq_nil {isZero : Bool} {field : String} :
    zero isZero field = [] ↔ isZero = false :=
  broken_eq_nil

/-- A gateway whose own settings break no rule. -/
structure Sound (g : Gateway) : Prop where
  endpoint : ∃ url, Url.parse g.endpoint = .ok url ∧
    (url.scheme = "http" ∨ url.scheme = "https") ∧ url.host?.isSome = true
  poolSize : g.poolSize ≠ 0
  maxBodySize : g.maxBodySize ≠ some 0
  requestTimeout : g.requestTimeoutMs ≠ some 0
  queueWait : g.queueWaitMs ≠ some 0

/-- An endpoint without problems is a web address with a host. -/
theorem endpoint_of_problem {field : String → String} {endpoint : String}
    (h : endpointProblem field endpoint = []) : ∃ url, Url.parse endpoint = .ok url ∧
      (url.scheme = "http" ∨ url.scheme = "https") ∧ url.host?.isSome = true := by
  unfold endpointProblem at h
  split at h
  · cases h
  · next url hurl =>
    have hrule := broken_eq_nil.mp h
    exact ⟨url, hurl, by simpa [or_iff_not_imp_left] using hrule⟩

/-- A name without problems is none of the earlier ones. -/
theorem fresh_of_nameProblem {field : String → String} {earlier : List String} {name : String}
    (h : nameProblem field earlier name = []) : name ∉ earlier := by
  unfold nameProblem at h
  split at h
  · cases h
  · split at h
    · cases h
    · next hfresh => simpa using hfresh

/-- A gateway without problems is sound, and its name is new. -/
theorem sound_of_problems {position : Nat} {earlier : List String}
    (h : gatewayProblems position earlier g = []) : Sound g ∧ g.name ∉ earlier := by
  simp only [gatewayProblems, List.append_eq_nil_iff, zero_eq_nil, beq_eq_false_iff_ne] at h
  obtain ⟨⟨⟨⟨⟨⟨hname, hendpoint⟩, -⟩, hpool⟩, hbody⟩, hrequest⟩, hwait⟩ := h
  exact ⟨⟨endpoint_of_problem hendpoint, hpool, hbody, hrequest, hwait⟩,
    fresh_of_nameProblem hname⟩

/-- Gateways without problems are sound and have distinct names, none of which was given before. -/
theorem sound_of_listProblems {gs : List Gateway} {position : Nat} {earlier : List String}
    (h : gatewayListProblems position earlier gs = []) :
    (∀ g ∈ gs, Sound g) ∧ (gs.map (·.name)).Nodup ∧ ∀ g ∈ gs, g.name ∉ earlier := by
  -- By induction on the list, whose earlier names grow as it is walked.
  induction gs generalizing position earlier with
  | nil => simp
  | cons g rest ih =>
    rw [gatewayListProblems, List.append_eq_nil_iff] at h
    obtain ⟨hsound, hnew⟩ := sound_of_problems h.1
    obtain ⟨hrest, hnodup, hlater⟩ := ih h.2
    -- A later gateway avoids the names before it, the name of this one among them.
    have hnotin : g.name ∉ rest.map (·.name) := by
      intro hmem
      obtain ⟨g', hg', heq⟩ := List.mem_map.mp hmem
      apply hlater g' hg'
      rw [heq]
      exact List.mem_cons_self
    refine ⟨List.forall_mem_cons.mpr ⟨hsound, hrest⟩, List.nodup_cons.mpr ⟨hnotin, hnodup⟩, ?_⟩
    intro g' hg'
    rcases List.mem_cons.mp hg' with rfl | hg'
    · -- The first gateway: its own check found its name to be new.
      exact hnew
    · -- A later one: what it avoids holds the earlier names and one more.
      exact fun hmem => hlater g' hg' (List.mem_cons_of_mem _ hmem)

/-! ## The whole configuration -/

/-- A configuration that breaks no rule, as far as the targets and the selection of a gateway
depend on it. -/
structure Accepted (c : Config) : Prop where
  sound : ∀ g ∈ c.gateways, Sound g
  names : (c.gateways.map (·.name)).Nodup
  default : ∀ name, c.routing.defaultGateway = some name → ∃ g ∈ c.gateways, g.name = name
  selectorHeader : ∃ header, Http.FieldName.ofText? c.routing.selectorHeader = some header
  maxBodySize : c.limits.maxBodySize ≠ 0
  requestTimeout : c.timeouts.requestMs ≠ 0
  queueWait : c.timeouts.queueWaitMs ≠ 0

/-- **A configuration without problems is accepted.** -/
theorem accepted_of_problems (h : problems c = []) : Accepted c := by
  rw [problems, List.append_eq_nil_iff, List.append_eq_nil_iff] at h
  obtain ⟨⟨hsections, hgateways⟩, hdefault⟩ := h
  simp only [sectionProblems, List.append_eq_nil_iff, zero_eq_nil, broken_eq_nil,
    beq_eq_false_iff_ne] at hsections
  -- Of the sections, the header and the numbers that a relay computes with are needed later.
  obtain ⟨⟨⟨⟨⟨⟨⟨⟨⟨-, -⟩, hheader⟩, hbody⟩, -⟩, -⟩, hrequest⟩, hwait⟩, -⟩, -⟩ := hsections
  obtain ⟨hsound, hnodup, -⟩ := sound_of_listProblems hgateways
  refine ⟨hsound, hnodup, fun name hname => ?_, ?_, hbody, hrequest, hwait⟩
  · -- The default gateway is one of those that are listed.
    rw [defaultProblem, hname] at hdefault
    simpa using broken_eq_nil.mp hdefault
  · -- The header's name can be written in a request.
    apply Option.isSome_iff_exists.mp
    simpa using hheader

/-! ## Routes and names -/

/-- The route of a configuration without problems. -/
theorem isRoute_of_problems (h : problems c = []) : isRoute c.routing.pathPrefix = true := by
  rw [problems, List.append_eq_nil_iff, List.append_eq_nil_iff] at h
  obtain ⟨⟨hsections, -⟩, -⟩ := h
  simp only [sectionProblems, List.append_eq_nil_iff, broken_eq_nil] at hsections
  obtain ⟨⟨⟨⟨⟨⟨⟨⟨⟨-, hroute⟩, -⟩, -⟩, -⟩, -⟩, -⟩, -⟩, -⟩, -⟩ := hsections
  simpa using hroute

/-- A name without problems is not empty and holds no slash. -/
theorem isName_of_problem {field : String → String} {earlier : List String} {name : String}
    (h : nameProblem field earlier name = []) : isName name = true := by
  unfold nameProblem at h
  split at h
  · cases h
  · next hname => simpa using hname

/-- So is every name of a list without problems. -/
theorem isName_of_listProblems {gs : List Gateway} {position : Nat} {earlier : List String}
    (h : gatewayListProblems position earlier gs = []) : ∀ g ∈ gs, isName g.name = true := by
  induction gs generalizing position earlier with
  | nil => simp
  | cons g rest ih =>
    rw [gatewayListProblems, List.append_eq_nil_iff] at h
    obtain ⟨hfirst, hrest⟩ := h
    simp only [gatewayProblems, List.append_eq_nil_iff] at hfirst
    obtain ⟨⟨⟨⟨⟨⟨hname, -⟩, -⟩, -⟩, -⟩, -⟩, -⟩ := hfirst
    exact List.forall_mem_cons.mpr ⟨isName_of_problem hname, ih hrest⟩

/-- The names of a configuration without problems can be carried by a path segment. -/
theorem isName_of_problems (h : problems c = []) (hg : g ∈ c.gateways) : isName g.name = true := by
  rw [problems, List.append_eq_nil_iff, List.append_eq_nil_iff] at h
  exact isName_of_listProblems h.1.2 g hg

/-! ## Loaded configurations -/

/-- Whatever is finished breaks no rule. -/
theorem problems_of_finish {env : Environment} {c' : Config} (h : finish env c' = .ok c) :
    problems c = [] := by
  unfold finish at h
  dsimp only at h
  split at h
  · next hempty =>
    obtain rfl := Except.ok.inj h
    exact List.isEmpty_iff.mp hempty
  · cases h

/-- A configuration that is read without a fault is accepted. -/
theorem accepted_of_parse {env : Environment} {text : String} (h : parse env text = .ok c) :
    Accepted c := by
  unfold parse at h
  split at h
  · cases h
  · split at h
    · cases h
    · exact accepted_of_problems (problems_of_finish h)

/-- So is the one that is built in. -/
theorem accepted_of_builtIn {env : Environment} (h : builtIn env = .ok c) : Accepted c :=
  accepted_of_problems (problems_of_finish h)

end ObliviousRelay.Config
