import ObliviousRelay.Proofs.Gateway.Counters
import ObliviousRelay.Proofs.Relay.Story

/-!
# The gauges of a relay

A relay tells how many connections to each gateway are open and how many attempts to connect came to
what. It counts these next to the pools, which count for themselves; both agree at all times.

- `Drives`: what a relay does to its stations and to its gauges is what its client lives through, and
  what came of that.
- `occur_drives` and `history_drives`: everything that happens to a relay does no more.
- `counters_agree`: the idle list, the leases, the counters of the pool and the gauges, after
  everything that can happen to a relay.
-/

namespace ObliviousRelay

open Gateway (Station Effect Client ClientOccurrence openings closings successes)

/-! ## Reading the gauges -/

namespace Metrics

variable {κ ν : Type} [BEq κ] [LawfulBEq κ]

/-- The value of a key, which starts at zero. -/
def value (key : κ) (zero : ν) (series : List (κ × ν)) : ν := (series.lookup key).getD zero

theorem value_cons_self (key : κ) (zero v : ν) (rest : List (κ × ν)) :
    value key zero ((key, v) :: rest) = v := by
  simp [value]

theorem value_cons_of_ne {key k : κ} (h : key ≠ k) (zero v : ν) (rest : List (κ × ν)) :
    value key zero ((k, v) :: rest) = value key zero rest := by
  rw [value, List.lookup_cons, beq_eq_false_iff_ne.mpr h, value]

/-- To change the value of a key changes that value only. -/
theorem value_adjust [DecidableEq κ] (key key' : κ) (change : ν → ν) (zero : ν)
    (series : List (κ × ν)) : value key' zero (adjust key change zero series) =
      if key' = key then change (value key' zero series) else value key' zero series := by
  induction series with
  | nil =>
    rw [adjust]
    split
    · next h => rw [h, value_cons_self]; rfl
    · next h => rw [value_cons_of_ne h]
  | cons entry rest ih =>
    obtain ⟨k, v⟩ := entry
    rw [adjust]
    by_cases hk : k = key
    -- The key stands here, so what comes behind stays as it is.
    · subst hk
      rw [if_pos (beq_self_eq_true k)]
      split
      · next h => rw [h, value_cons_self, value_cons_self]
      · next h => rw [value_cons_of_ne h, value_cons_of_ne h]
    · rw [if_neg (by simpa using hk)]
      by_cases h : key' = k
      · rw [h, if_neg hk, value_cons_self, value_cons_self]
      · rw [value_cons_of_ne h, value_cons_of_ne h]
        exact ih

/-- How many connections to a gateway are open, as the gauge tells. -/
def openAt (m : Metrics) (g : String) : Int := value g 0 m.connectionsOpen

/-- How many attempts to connect to a gateway came to a result, as the counter tells. -/
def connectsAt (m : Metrics) (g : String) (r : Gateway.AttemptResult) : Nat :=
  value (g, r) 0 m.connects

/-- The gauge follows what is opened and closed at its gateway. -/
theorem openAt_observed (m : Metrics) (g g' : String) (effects : List Effect) :
    (effects.foldl (·.observe g ·) m).openAt g' =
      m.openAt g' + if g' = g then (openings effects : Int) - closings effects else 0 := by
  induction effects generalizing m with
  | nil => by_cases h : g' = g <;> simp [openings, closings, h]
  | cons f rest ih =>
    rw [List.foldl_cons, ih]
    cases f with
    | opened n | closed n =>
      simp only [observe, openAt, value_adjust]
      by_cases h : g' = g
      · simp [openings, closings, h]
        omega
      · simp [h]
    | _ => simp [observe, openAt, openings, closings]

/-- The counter follows the attempts that succeed at its gateway. -/
theorem connectsAt_observed (m : Metrics) (g g' : String) (effects : List Effect) :
    (effects.foldl (·.observe g ·) m).connectsAt g' .ok =
      m.connectsAt g' .ok + if g' = g then successes effects else 0 := by
  induction effects generalizing m with
  | nil => by_cases h : g' = g <;> simp [successes, h]
  | cons f rest ih =>
    rw [List.foldl_cons, ih]
    cases f with
    -- Only an attempt counts, and only one that connects under this label.
    | attempted r =>
      simp only [observe, connectsAt, value_adjust]
      by_cases h : g' = g
      · cases r with
        | ok =>
          simp [successes, h]
          omega
        | error | timeout => simp [successes, h]
      · simp [h]
    | _ => simp [observe, connectsAt, successes]

end Metrics

/-! ## What a relay does to its stations -/

/-- Whether the relay itself makes an occurrence happen. -/
def Gateway.ClientOccurrence.isOwn : ClientOccurrence → Bool
  | .event _ e => e.isOwn
  | _ => false

namespace Relay

variable {r : Relay} {g : String} {o : Outcome} {next : Relay → Outcome}
  {cos more : List ClientOccurrence}

/-- What a relay did to its stations, in order. Its gauges have followed what came of it. -/
structure Drives (r : Relay) (o : Outcome) (cos : List ClientOccurrence) : Prop where
  client : o.1.client = (r.client.history cos).1
  effects : ∀ g, effectsAt g o.2 = Client.effectsAt g (r.client.history cos).2
  openAt : ∀ g, o.1.metrics.openAt g =
    r.metrics.openAt g + (openings (effectsAt g o.2) - closings (effectsAt g o.2))
  connectsAt : ∀ g, o.1.metrics.connectsAt g .ok =
    r.metrics.connectsAt g .ok + successes (effectsAt g o.2)

/-- An operation that is about no station. -/
theorem Drives.nothing (hclient : o.1.client = r.client)
    (hopen : o.1.metrics.connectionsOpen = r.metrics.connectionsOpen)
    (hconnects : o.1.metrics.connects = r.metrics.connects) (hno : NoStation o.2) :
    Drives r o [] where
  client := hclient
  effects g := effectsAt_of_noStation hno
  openAt g := by
    rw [effectsAt_of_noStation hno, Metrics.openAt, hopen]
    exact (Int.add_zero _).symm
  connectsAt g := by
    rw [effectsAt_of_noStation hno, Metrics.connectsAt, hconnects]
    rfl

theorem Drives.andThen (h : Drives r o cos) (next : Relay → Outcome)
    (hnext : Drives o.1 (next o.1) more) :
    Drives r (o.andThen next) (cos ++ more) where
  client := by
    rw [Client.history_append, ← h.client]
    exact hnext.client
  effects g := by
    rw [andThen_eq, effectsAt_append, Client.history_append, Client.effectsAt_append, h.effects,
      hnext.effects, h.client]
  openAt g := by
    rw [andThen_eq, hnext.openAt, h.openAt, effectsAt_append, Gateway.openings_append,
      Gateway.closings_append]
    omega
  connectsAt g := by
    rw [andThen_eq, hnext.connectsAt, h.connectsAt, effectsAt_append, Gateway.successes_append,
      Nat.add_assoc]

/-- What happens at a station is told to the gauges. -/
theorem atStation_drives (r : Relay) (g : String) (e : Gateway.Event) :
    Drives r (r.atStation g e) [.event g e] where
  client := rfl
  effects g' := by
    rw [effects_atStation, Client.history_cons]
    show _ = Client.effectsAt g' ((r.client.step g e).2.map (g, ·) ++ [])
    rw [List.append_nil]
    -- What happens at one gateway is seen at no other.
    by_cases h : g = g'
    · rw [h, effectsAt_self, Client.effectsAt_self]
    · rw [effectsAt_of_ne h, Client.effectsAt_of_ne h]
  openAt g' := by
    rw [effects_atStation]
    show Metrics.openAt ((r.client.step g e).2.foldl (·.observe g ·) r.metrics) g' = _
    rw [Metrics.openAt_observed]
    by_cases h : g = g'
    · rw [h, effectsAt_self, if_pos rfl]
    · rw [effectsAt_of_ne h, if_neg (Ne.symm h)]
      rfl
  connectsAt g' := by
    rw [effects_atStation]
    show Metrics.connectsAt ((r.client.step g e).2.foldl (·.observe g ·) r.metrics) g' .ok = _
    rw [Metrics.connectsAt_observed]
    by_cases h : g = g'
    · rw [h, effectsAt_self, if_pos rfl]
    · rw [effectsAt_of_ne h, if_neg (Ne.symm h)]
      rfl

/-- Whatever a relay did to its stations it did of itself. -/
def ByItself (r : Relay) (o : Outcome) : Prop :=
  ∃ cos, (∀ co ∈ cos, co.isOwn = true) ∧ Drives r o cos

theorem ByItself.of_nothing (h : Drives r o []) : ByItself r o := ⟨[], by simp, h⟩

theorem ByItself.andThen (h : ByItself r o) (hnext : ByItself o.1 (next o.1)) :
    ByItself r (o.andThen next) := by
  obtain ⟨cos, hown, hdrives⟩ := h
  obtain ⟨more, hmore, hlater⟩ := hnext
  refine ⟨cos ++ more, fun co hco => ?_, hdrives.andThen next hlater⟩
  exact (List.mem_append.mp hco).elim (hown co) (hmore co)

theorem ByItself.forAll {α : Type} {next : Relay → α → Outcome}
    (h : ∀ r x, ByItself r (next r x)) (r : Relay) (xs : List α) :
    ByItself r (r.forAll xs next) := by
  induction xs generalizing r with
  | nil => exact .of_nothing (.nothing rfl rfl rfl (by simp [forAll_nil, NoStation]))
  | cons x rest ih =>
    rw [forAll_cons]
    exact (h r x).andThen (ih _)

theorem still_byItself (r : Relay) : ByItself r (r, []) :=
  .of_nothing (.nothing rfl rfl rfl (by simp [NoStation]))

theorem atStation_byItself (r : Relay) (g : String) {e : Gateway.Event} (h : e.isOwn = true) :
    ByItself r (r.atStation g e) :=
  ⟨_, by simpa [ClientOccurrence.isOwn] using h, atStation_drives r g e⟩

theorem reply_byItself (r : Relay) (w : Visit) (response : Http.Response) :
    ByItself r (r.reply w response) :=
  .of_nothing (.nothing rfl rfl rfl (by simp [reply, NoStation]))

theorem conclude_byItself (r : Relay) (w : Visit) (result : Except Failure Message) :
    ByItself r (r.conclude w result) :=
  .of_nothing (.nothing rfl rfl rfl (noStation_conclude r w result))

theorem startWaiting_byItself (r : Relay) : ByItself r r.startWaiting := by
  apply ByItself.forAll
  intro r w
  unfold startIfFree
  -- A visit is started only while it waits and there is room.
  split
  · split
    · unfold start
      split
      · exact reply_byItself r w _
      · exact reply_byItself r w _
      · split
        · exact conclude_byItself r w _
        · exact .of_nothing (.nothing rfl rfl rfl (by simp [NoStation]))
    · exact still_byItself r
  · exact still_byItself r

theorem conclusion_byItself (r : Relay) (g : String) (w : Visit)
    (result : Except Failure Message) : ByItself r (r.conclusion g w result) :=
  ((atStation_byItself r g rfl).andThen (conclude_byItself _ w result)).andThen
    (startWaiting_byItself _)

theorem follow_byItself (r : Relay) (g : String) (f : Effect) : ByItself r (r.follow g f) := by
  cases f with
  | leased x reused =>
    simp only [follow]
    split
    · exact atStation_byItself r g rfl
    · exact still_byItself r
  | replied x reply reused | failed x f =>
    simp only [follow]
    split
    · exact conclusion_byItself r g _ _
    · exact still_byItself r
  | overflowed x =>
    simp only [follow]
    split
    · exact ByItself.andThen (.of_nothing (.nothing rfl rfl rfl (by simp [NoStation])))
        (startWaiting_byItself _)
    · exact still_byItself r
  | _ => exact still_byItself r

/-- An event at a station comes first, and all that follows the relay does of itself. -/
theorem station_drives (r : Relay) (g : String) (e : Gateway.Event) :
    ∃ own, (∀ co ∈ own, co.isOwn = true) ∧ Drives r (r.station g e) (.event g e :: own) := by
  obtain ⟨own, hown, hdrives⟩ := ByItself.forAll (fun r f => follow_byItself r g f)
    (r.atStation g e).1 (r.client.step g e).2
  exact ⟨own, hown, (atStation_drives r g e).andThen
    (·.forAll (r.client.step g e).2 fun r f => r.follow g f) hdrives⟩

/-- It does not matter which visits there were before. -/
theorem ByItself.of_same {r' : Relay} (h : ByItself r' o) (hclient : r'.client = r.client)
    (hmetrics : r'.metrics = r.metrics) : ByItself r o := by
  obtain ⟨cos, hown, hdrives⟩ := h
  refine ⟨cos, hown, ?_, ?_, ?_, ?_⟩
  · rw [← hclient, hdrives.client]
  · rw [← hclient]
    exact hdrives.effects
  · rw [← hmetrics]
    exact hdrives.openAt
  · rw [← hmetrics]
    exact hdrives.connectsAt

theorem refuse_byItself (r : Relay) (w : Visit) (f : Failure) :
    ByItself r ((r.conclude w (.error f)).andThen startWaiting) :=
  (conclude_byItself r w _).andThen (startWaiting_byItself _)

theorem exchange_byItself (r : Relay) (w : Visit) (due : Nat) (a : Http.Admission)
    (body : Http.Body) : ByItself r (r.exchange w due a body) := by
  rcases r.exchange_cases w due a body with ⟨f, heq⟩ | ⟨i, t, s, -, -, -, heq⟩ <;> rw [heq]
  · exact refuse_byItself r w f
  -- The request for a lease is the relay's own, and so is what follows it.
  · obtain ⟨own, hown, hdrives⟩ := station_drives
      (r.setPhase w.id (.exchanging due t.name i.message)) t.name (.request w.id t.requestTimeout)
    have hset : ByItself (r.setPhase w.id (.exchanging due t.name i.message)) _ :=
      ⟨_, List.forall_mem_cons.mpr ⟨rfl, hown⟩, hdrives⟩
    exact hset.of_same rfl rfl

theorem abandon_byItself (r : Relay) (w : Visit) : ByItself r (r.abandon w) := by
  unfold abandon
  split
  · exact (atStation_byItself (r.erase w.id) _ rfl).of_same rfl rfl
  · exact .of_nothing (.nothing rfl rfl rfl (by simp [NoStation]))

/-! ## Everything that happens to a relay -/

/-- What an occurrence is to the stations, before the relay does anything of itself. -/
def told (r : Relay) : RelayOccurrence → List ClientOccurrence
  | .event (.station g e) => match e with
    | .elapse _ => []
    | e => [.event g e]
  | .event (.elapse duration) =>
    if r.mayElapse (r.now + duration) then [.elapse duration] else []
  | .event _ => []
  | .delay duration => [.delay duration]

/-- **A relay does to its stations what it is told, and what it does of itself.** -/
theorem occur_drives (r : Relay) (ev : RelayOccurrence) :
    ∃ own, (∀ co ∈ own, co.isOwn = true) ∧ Drives r (r.occur ev) (r.told ev ++ own) := by
  have hstill := still_byItself r
  cases ev with
  | delay duration =>
    refine ⟨[], by simp, rfl, fun g => rfl, fun g => (Int.add_zero _).symm, fun g => rfl⟩
  | event ev =>
    show ∃ own, _ ∧ Drives r (r.step ev) _
    cases ev with
    | arrive v head =>
      simp only [step]
      split
      · exact hstill
      · exact (startWaiting_byItself _).of_same rfl rfl
    | piece v p =>
      simp only [step]
      split
      · next w hw =>
        split
        · unfold receivePiece
          split
          · exact refuse_byItself r w _
          · exact ByItself.of_nothing (.nothing rfl rfl rfl (by simp [NoStation]))
        · exact hstill
      · exact hstill
    | uploaded v =>
      simp only [step]
      split
      · split
        · exact exchange_byItself r _ _ _ _
        · exact hstill
      · exact hstill
    | leave v =>
      simp only [step]
      split
      · exact (abandon_byItself r _).andThen (startWaiting_byItself _)
      · exact hstill
    | late v =>
      simp only [step]
      split
      · split
        · refine ((abandon_byItself r _).andThen ?_).andThen (startWaiting_byItself _)
          exact .of_nothing (.nothing rfl rfl rfl (by simp [NoStation]))
        · exact hstill
      · exact hstill
    | station g e =>
      cases e with
      | elapse duration => exact hstill
      | _ => exact station_drives r g _
    | elapse duration =>
      simp only [step, told]
      split
      · exact ⟨[], by simp, rfl, fun g => rfl, fun g => (Int.add_zero _).symm, fun g => rfl⟩
      · exact hstill

/-- Whether an occurrence is the success of an attempt to connect to a gateway. -/
def completes (r : Relay) (g : String) : RelayOccurrence → Bool
  | .event (.station g' e) => g' = g && (r.client.station? g).any (·.completes e)
  | _ => false

/-- How many attempts to connect to a gateway succeed in the course of some occurrences. -/
def completions (r : Relay) (g : String) : List RelayOccurrence → Nat
  | [] => 0
  | ev :: rest => (r.completes g ev).toNat + (r.occur ev).1.completions g rest

/-- An attempt succeeds by an occurrence at its gateway. -/
theorem completions_told {s : Station} (hs : r.client.station? g = some s)
    (ev : RelayOccurrence) :
    s.completions (Client.partOf g (r.told ev)) = (r.completes g ev).toNat := by
  cases ev with
  | delay duration => rfl
  | event ev =>
    cases ev with
    | station g' e =>
      by_cases hg : g' = g
      · subst hg
        cases e <;> simp [told, completes, Client.partOf, ClientOccurrence.at?, hs,
          Station.completions, Station.completes]
      · cases e <;> simp [told, completes, Client.partOf, ClientOccurrence.at?, hg,
          Station.completions]
    | elapse duration =>
      simp only [told]
      split <;> rfl
    | _ => rfl

/-- No attempt succeeds by what the relay does of itself. -/
theorem completions_own (s : Station) {own : List ClientOccurrence}
    (hown : ∀ co ∈ own, co.isOwn = true) : s.completions (Client.partOf g own) = 0 := by
  induction own generalizing s with
  | nil => rfl
  | cons co rest ih =>
    obtain ⟨hco, hrest⟩ := List.forall_mem_cons.mp hown
    cases co with
    -- Nothing that the relay does by itself completes an attempt.
    | event g' e =>
      have hquiet : s.completes e = false := by
        cases e <;> first | rfl | cases hco
      by_cases hg : g' = g
      · rw [Client.partOf, List.filterMap_cons_some (by rw [ClientOccurrence.at?, if_pos hg]),
          Station.completions, hquiet]
        exact (Nat.zero_add _).trans (ih _ hrest)
      · rw [Client.partOf, List.filterMap_cons_none (by rw [ClientOccurrence.at?, if_neg hg])]
        exact ih s hrest
    | elapse | delay => cases hco

/-- **What becomes of a relay's stations and gauges in the course of time.** -/
theorem history_drives (r : Relay) (os : List RelayOccurrence) :
    ∃ cos, Drives r (r.history os) cos ∧ ∀ g s, r.client.station? g = some s →
      s.completions (Client.partOf g cos) = r.completions g os := by
  induction os generalizing r with
  | nil => exact ⟨[], .nothing rfl rfl rfl (by simp [NoStation, history]), fun _ _ _ => rfl⟩
  | cons ev rest ih =>
    obtain ⟨own, hown, hfirst⟩ := r.occur_drives ev
    obtain ⟨cos, hlater, hcount⟩ := ih (r.occur ev).1
    refine ⟨_, hfirst.andThen (·.history rest) hlater, fun g s hs => ?_⟩
    have hstation : (r.occur ev).1.client.station? g =
        some (s.history (Client.partOf g (r.told ev ++ own))).1 := by
      rw [hfirst.client]
      exact (Client.station?_history hs _).1
    rw [Client.partOf_append, Station.completions_append, hcount g _ hstation,
      Client.partOf_append, Station.completions_append, completions_told hs,
      completions_own _ hown, Nat.add_zero, completions]

/-! ## The counters agree -/

/-- **All counters of connections agree.** After everything that can happen to a relay that was built
from a configuration, for each of its gateways:

- The pool counts as open what lies idle and what leases own. It has made as many connections as
  attempts to connect have succeeded; those are open or have been closed.
- The gauge of open connections and the counter of successful attempts tell what the pool does.
- Nothing is ever counted down below zero: at no time have more connections been closed than opened,
  and slots in use and free ones make up the size of the pool. -/
theorem counters_agree {c : Config} {certificates : List Gateway.Certificate} {r₀ : Relay}
    (hbuild : build c certificates = .ok r₀) (os : List RelayOccurrence) (g : String) (s : Station)
    (hs : (r₀.history os).1.client.station? g = some s) :
    let metrics := (r₀.history os).1.metrics
    let effects := effectsAt g (r₀.history os).2
    (s.pool.openCount = s.pool.idle.length + s.ownerCount ∧
      s.pool.created = r₀.completions g os ∧
      s.pool.created = s.pool.openCount + closings effects) ∧
    (metrics.openAt g = s.pool.openCount ∧ metrics.connectsAt g .ok = s.pool.created) ∧
    ((∀ past future, effects = past ++ future → closings past ≤ openings past ∧
        0 ≤ (past.foldl (·.observe g ·) r₀.metrics).openAt g) ∧
      s.pool.stats.leased + s.pool.slots.free = s.target.poolSize) := by
  intro metrics effects
  obtain ⟨cos, hdrives, hcount⟩ := r₀.history_drives os
  rw [hdrives.client] at hs
  cases hfirst : r₀.client.station? g with
  | none =>
    rw [(Client.station?_history_of_none hfirst cos).1] at hs
    cases hs
  | some s₀ =>
    obtain ⟨hstation, heffects⟩ := Client.station?_history hfirst cos
    obtain rfl := Option.some.inj (hs.symm.trans hstation)
    have htold : effects = (s₀.history (Client.partOf g cos)).2 :=
      (hdrives.effects g).trans heffects
    -- The station was new, with all its counters at zero.
    obtain ⟨target, policy, rfl⟩ := (isFresh_of_build hbuild).stations g s₀ hfirst
    obtain ⟨hslots, hconnections⟩ := Station.accounts_ofTarget target policy (Client.partOf g cos)
    obtain ⟨hbalanced, hopened⟩ := Station.balanced_history (.ofTarget target policy)
      (.ofTarget target policy) (Client.partOf g cos)
    rw [hcount g _ hfirst] at hopened
    rw [← htold] at hbalanced hopened
    have hmetrics : r₀.metrics = {} := by
      obtain ⟨routes, -, rfl⟩ := eq_of_build hbuild
      rfl
    have hopen := hdrives.openAt g
    have hconnects := hdrives.connectsAt g
    have hcreated := hbalanced.created
    have hbalance := hbalanced.openCount
    have hattempts := hbalanced.attempts
    rw [hmetrics] at hopen hconnects
    change metrics.openAt g = 0 + ((openings effects : Int) - closings effects) at hopen
    change metrics.connectsAt g .ok = 0 + successes effects at hconnects
    change _ = 0 + openings effects at hcreated
    change _ = 0 + openings effects at hbalance
    refine ⟨⟨hconnections.openCount, by omega, by omega⟩, ⟨by omega, by omega⟩,
      fun past future hsplit => ?_, ?_⟩
    · -- At every moment no more were closed than opened, and so the gauge is not below zero.
      have hcovered := hbalanced.covered past future hsplit
      change closings past ≤ 0 + openings past at hcovered
      refine ⟨by omega, ?_⟩
      rw [hmetrics, Metrics.openAt_observed, if_pos rfl]
      show (0 : Int) ≤ 0 + _
      omega
    · -- The slots in use and the free ones are all there are.
      have hleased := hslots.leased_eq
      have hconserved := hslots.conserved
      have hsize := hslots.size
      omega

/-- Of two leases one after the other the first is given back unused, so its connection is closed and
the second dials again. -/
theorem counters_agree_redialled :
    let atGateway (e : Gateway.Event) : RelayOccurrence := .event (.station "gateway" e)
    let os := [atGateway (.request 0 1000), atGateway (.proceed 0), atGateway (.connected 0),
      atGateway (.release 0), atGateway (.request 1 1000), atGateway (.proceed 1),
      atGateway (.refused 1 "refused" 0), .delay 1000, atGateway (.expire 1 0),
      atGateway (.connected 1)]
    let r := (sampleBuilt.history os).1
    ∃ s, r.client.station? "gateway" = some s ∧ s.pool.created = 2 ∧ s.pool.openCount = 1 ∧
      s.pool.openCount = s.pool.idle.length + s.ownerCount ∧
      r.metrics.openAt "gateway" = 1 ∧ r.metrics.connectsAt "gateway" .ok = 2 := by
  intro atGateway os r
  have hsome : (r.client.station? "gateway").isSome = true := by decide +kernel
  obtain ⟨s, hs⟩ := Option.isSome_iff_exists.mp hsome
  obtain ⟨⟨hopen, hcreated, hclosed⟩, ⟨hgauge, hcounter⟩, -⟩ :=
    counters_agree build_sampleConfig os "gateway" s hs
  -- Both attempts that connected are counted, and one of the two connections was closed.
  have htwo : sampleBuilt.completions "gateway" os = 2 := by decide +kernel
  have hone : closings (effectsAt "gateway" (sampleBuilt.history os).2) = 1 := by decide +kernel
  change r.metrics.openAt "gateway" = s.pool.openCount at hgauge
  change r.metrics.connectsAt "gateway" .ok = s.pool.created at hcounter
  exact ⟨s, hs, by omega, by omega, hopen, by omega, by omega⟩

end Relay

end ObliviousRelay
