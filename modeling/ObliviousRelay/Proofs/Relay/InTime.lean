import ObliviousRelay.Proofs.Relay.Answerable
import ObliviousRelay.Proofs.Relay.Times
import ObliviousRelay.Proofs.Routing.Registry

/-!
# The time of a visit has room for its exchange

A visit has so much time that it can be uploaded in the time for requests, wait for a slot and have an
exchange with any target, whatever times each gateway has of its own. So a visit that is uploaded in
this time is answered by its exchange, and not told that it has taken too long.

- `Record.firstWord`: what a client hears first, and when.
- `Pending.heard`: a visit that waits hears of its end in time, over every history.
- `Relay.Hears`, `Relay.InTime`: what the client of a visit can hear, and by when;
  `Relay.exchange_answered_in_time`.
- `Relay.exchange_breaks_down` and `Relay.exchange_tied_with_limit`: neither of the two exceptions can
  be left out.
-/

namespace ObliviousRelay

open Gateway (attemptsOf delayOf)
open Timing.Backoff (longest)

namespace Relay

variable {r r₀ : Relay} {v : Nat} {w : Visit} {g : String} {last : Nat} {evs more : List RelayEvent}
  {os : List RelayOccurrence}

/-! ## First words -/

/-- What a client hears first, and when. -/
def Record.firstWord (told : Record) (v : Nat) : Option (Nat × RelayEffect) :=
  told.find? (·.2.isVoiced v)

/-- The first word is one of this moment, or comes later. -/
theorem Record.firstWord_append (now : Nat) (effects : List RelayEffect) (told : Record) (v : Nat) :
    firstWord (effects.map (now, ·) ++ told) v =
      ((voiced v effects).head?.map (now, ·)).or (told.firstWord v) := by
  rw [firstWord, List.find?_append, List.find?_map, voiced, List.head?_filter]
  rfl

theorem Record.map_firstWord (told : Record) (v : Nat) :
    (told.firstWord v).map (·.2) = (voiced v (told.map (·.2))).head? := by
  rw [firstWord, voiced, List.head?_filter, List.find?_map]
  rfl

/-- The first word of a record is one of the effects. -/
theorem mem_of_firstWord {moment : Nat} {word : RelayEffect}
    (h : (r.record os).firstWord v = some (moment, word)) : word ∈ (r.history os).2 := by
  rw [← map_record]
  exact List.mem_map_of_mem (List.mem_of_find?_eq_some h)

/-- An event that says nothing to a client leaves the first word to what follows. -/
theorem firstWord_of_quiet {ev : RelayEvent} (h : voiced v (r.step ev).2 = []) :
    (r.record ((ev :: more).map .event)).firstWord v =
      ((r.step ev).1.record (more.map .event)).firstWord v := by
  rw [List.map_cons, record, Record.firstWord_append, show voiced v (r.occur (.event ev)).2 = [] from h]
  rfl

theorem firstWord_of_voiced {ev : RelayEvent} {word : RelayEffect}
    (h : voiced v (r.step ev).2 = [word]) :
    (r.record ((ev :: more).map .event)).firstWord v = some (r.now, word) := by
  rw [List.map_cons, record, Record.firstWord_append,
    show voiced v (r.occur (.event ev)).2 = [word] from h]
  rfl

/-- A visit that can hear of its end hears of it first, where it has heard nothing before. -/
theorem Answerable.firstWord (h : (r.after evs).1.Answerable w)
    (hquiet : (r.record (evs.map .event)).firstWord w.id = none) :
    ∃ rest : List RelayEvent, (∀ ev ∈ rest, ev.isLapse w.id = true) ∧ ∃ moment word,
      (r.record ((evs ++ rest).map .event)).firstWord w.id = some (moment, word) ∧ w.IsEnd word := by
  obtain ⟨rest, hlapse, word, hheard, hend⟩ := h
  rw [← map_record, ← Record.map_firstWord] at hheard
  obtain ⟨⟨moment, word'⟩, hword, rfl⟩ := Option.map_eq_some_iff.mp hheard
  refine ⟨rest, hlapse, moment, word', ?_, hend⟩
  rw [List.map_append, record_append, Record.firstWord, List.find?_append]
  rw [Record.firstWord] at hquiet
  rw [hquiet]
  exact hword

/-- **A visit that waits hears of its end in time**, or in the very moment in which it has taken too
long. As long as it hears nothing it waits. -/
theorem Pending.heard (h : r.Pending w g last) (hout : ∀ ev ∈ more, ev.isOutside = true)
    (hleave : .leave w.id ∉ more) :
    ((r.record (more.map .event)).firstWord w.id = none → (r.after more).1.Pending w g last) ∧
      ∀ moment word, (r.record (more.map .event)).firstWord w.id = some (moment, word) →
        moment ≤ last ∧ (w.IsEnd word ∨
          (word = .answered w.id (Http.Response.tooLate.forMethod w.method) ∧
            w.due? = some moment ∧ moment = last)) := by
  induction more generalizing r with
  | nil => exact ⟨fun _ => h, fun moment word hword => by cases hword⟩
  | cons ev rest ih =>
    obtain ⟨hev, hrest⟩ := List.forall_mem_cons.mp hout
    obtain ⟨hstays, hleave⟩ := not_or.mp (fun heq => hleave (List.mem_cons.mpr heq))
    rcases h.step hev (Ne.symm hstays) with ⟨hpending, hquiet⟩ | ⟨word, hword, hend⟩
    · rw [firstWord_of_quiet hquiet]
      exact ih hpending hrest hleave
    · rw [firstWord_of_voiced hword]
      refine ⟨by simp, fun moment word' hword' => ?_⟩
      obtain ⟨rfl, rfl⟩ := Prod.mk.inj (Option.some.inj hword')
      exact ⟨h.now_le, hend.imp_right fun hlate => hlate.2⟩

/-! ## A relay that is built -/

theorem HasDistinctStations.after (h : r.HasDistinctStations) (evs : List RelayEvent) :
    (r.after evs).1.HasDistinctStations := by
  induction evs generalizing r with
  | nil => exact h
  | cons ev rest ih => exact ih (h.step ev)

theorem distinctStations_of_build {config : Config} {certificates : List Gateway.Certificate}
    (hbuild : build config certificates = .ok r₀) : r₀.HasDistinctStations := by
  obtain ⟨-, -, hclient, -⟩ := parts_of_build hbuild
  rw [HasDistinctStations, hclient, Gateway.Client.ofRegistry, List.map_map]
  exact Registry.nodup_names config

/-- What the client of a visit can hear first at a moment, if the exchange is over by some moment at
the latest and the visit has time until a limit. -/
inductive Hears (config : Config) (w : Visit) (limit last moment : Nat) : RelayEffect → Prop where
  /-- The relay's own answer. -/
  | answer (result : Except Failure Message) : Hears config w limit last moment (w.answer result)
  /-- Nothing more, for the exchange broke down over a delay without room for its random part. -/
  | brokenOff (k : Nat) (hk : k < attemptsOf config) (hlong : longest < delayOf config k) :
      Hears config w limit last moment (.brokenOff w.id)
  /-- That it has taken too long, at the limit: the exchange is over in the same moment. -/
  | tie (hmoment : moment = limit) (hlast : last = limit) :
      Hears config w limit last moment
        (.answered w.id (Http.Response.tooLate.forMethod w.method))

/-- What becomes of a visit that is uploaded now, if more happens and its client stays. -/
structure InTime (config : Config) (r : Relay) (w : Visit) (limit last : Nat)
    (more : List RelayEvent) : Prop where
  /-- As long as the client hears nothing the clock does not pass the last moment, and the clock alone
  can bring the exchange to its end. -/
  waits : (r.record ((.uploaded w.id :: more).map .event)).firstWord w.id = none →
    (r.after (.uploaded w.id :: more)).1.now ≤ last ∧
      ∃ rest : List RelayEvent, (∀ ev ∈ rest, ev.isLapse w.id = true) ∧ ∃ moment word,
        (r.record ((.uploaded w.id :: more ++ rest).map .event)).firstWord w.id =
          some (moment, word) ∧ w.IsEnd word
  /-- What it hears first it hears by this moment. -/
  hears : ∀ moment word,
    (r.record ((.uploaded w.id :: more).map .event)).firstWord w.id = some (moment, word) →
      moment ≤ last ∧ Hears config w limit last moment word

section Built

variable {config : Config} {certificates : List Gateway.Certificate} {past : List RelayEvent}
  {limit : Nat} {t : Target}

/-- The time of a visit has room for an exchange with each target, after an upload in time. -/
theorem target_within_limit {now start : Nat} (ht : t ∈ (Registry.ofConfig config).targets)
    (hupload : now ≤ start + config.timeouts.requestMs.toNat) :
    now + t.queueWait + t.requestTimeout ≤
      start + inboundTimeoutOf (.ofConfig config) config.timeouts.requestMs.toNat := by
  have hslowest := le_inboundTimeoutOf ht config.timeouts.requestMs.toNat
  omega

/-- A visit hears of its end by an answer, or its exchange broke down over a delay that is too long. -/
theorem hears_of_isEnd (hbuild : build config certificates = .ok r₀)
    (hpast : ∀ ev ∈ past, ev.isOutside = true) (hevs : ∀ ev ∈ evs, ev.isOutside = true)
    {moment : Nat} {word : RelayEffect} (hmem : word ∈ ((r₀.after past).1.after evs).2)
    (hend : w.IsEnd word) : Hears config w limit last moment word := by
  obtain ⟨result, rfl⟩ | rfl := hend
  · exact .answer result
  · have hall : ∀ o ∈ (past ++ evs).map RelayOccurrence.event, o.isOutside = true :=
      outside_of_events fun ev hev => (List.mem_append.mp hev).elim (hpast ev) (hevs ev)
    have hbroken : .brokenOff w.id ∈ (r₀.history ((past ++ evs).map .event)).2 := by
      rw [List.map_append, history_append]
      exact List.mem_append_right _ hmem
    obtain ⟨k, hk, hlong⟩ := brokenOff_of_build hbuild hall hbroken
    exact .brokenOff k hk hlong

/-- A visit may hear of its end at once. -/
theorem inTime_of_concludes (hlast : r.now ≤ last) {word : RelayEffect}
    (hword : voiced w.id (r.step (.uploaded w.id)).2 = [word])
    (hhears : Hears config w limit last r.now word) : InTime config r w limit last more := by
  refine ⟨fun hnone => ?_, fun moment word' hword' => ?_⟩
  · rw [firstWord_of_voiced hword] at hnone
    cases hnone
  · rw [firstWord_of_voiced hword] at hword'
    obtain ⟨rfl, rfl⟩ := Prod.mk.inj (Option.some.inj hword')
    exact ⟨hlast, hhears⟩

/-- If it waits instead, it hears in time of what it waits for. -/
theorem inTime_of_pending (hbuild : build config certificates = .ok r₀)
    (hpast : ∀ ev ∈ past, ev.isOutside = true) {m : Message}
    (hquiet : voiced w.id ((r₀.after past).1.step (.uploaded w.id)).2 = [])
    (hpending : ((r₀.after past).1.step (.uploaded w.id)).1.Pending
      { w with phase := .exchanging limit g m } g last)
    (hmore : ∀ ev ∈ more, ev.isOutside = true) (hleave : .leave w.id ∉ more) :
    InTime config (r₀.after past).1 w limit last more := by
  obtain ⟨hwaits, hheard⟩ := hpending.heard hmore hleave
  have hstations : ((r₀.after past).1.after (.uploaded w.id :: more)).1.HasDistinctStations :=
    ((distinctStations_of_build hbuild).after past).after _
  refine ⟨fun hnone => ?_, fun moment word hword => ?_⟩
  · have hlater : ((r₀.after past).1.after (.uploaded w.id :: more)).1.Pending
        { w with phase := .exchanging limit g m } g last :=
      hwaits ((firstWord_of_quiet hquiet).symm.trans hnone)
    exact ⟨hlater.now_le, Answerable.firstWord (hlater.answerable hstations) hnone⟩
  · obtain ⟨hlast, hend⟩ := hheard moment word ((firstWord_of_quiet hquiet).symm.trans hword)
    refine ⟨hlast, ?_⟩
    obtain hend | ⟨rfl, hmoment, rfl⟩ := hend
    · exact hears_of_isEnd hbuild hpast (List.forall_mem_cons.mpr ⟨rfl, hmore⟩)
        (mem_of_firstWord hword) hend
    · obtain rfl : limit = moment := Option.some.inj hmoment
      exact .tie rfl rfl

end Built

/-- **Exchanges are answered in time.** For every relay that is built from a configuration, whatever
times the configuration sets for all gateways and for each of them, and whatever has happened: a visit
that is uploaded, with the time for requests not over since its turn, has a moment at which it will be
over at the latest. This moment lies within the time of the visit, and leaves the visit's target its
wait for a slot and its exchange. Whatever happens from then on, as long as the client stays, its wait
and its end are in time (`InTime`), and what it hears first is the relay's own answer. There are two
exceptions (`Hears`). The exchange may break down, if the configuration has a delay without room for
its random part. And where the exchange is over only in the very moment at which the visit has taken
too long, for it had no time left from its upload on, the client may be told so.

While the visit is being uploaded in this time it is not told that it has taken too long, if there is
any target with time for an exchange. -/
theorem exchange_answered_in_time {config : Config} {certificates : List Gateway.Certificate}
    (hbuild : build config certificates = .ok r₀) {past : List RelayEvent}
    (hpast : ∀ ev ∈ past, ev.isOutside = true) {due start : Nat} {a : Http.Admission}
    {body : Http.Body} (hw : (r₀.after past).1.visit? v = some w)
    (hphase : w.phase = .uploading due a body)
    (hstart : (r₀.record (past.map .event)).turnOf v = some start)
    (hupload : (r₀.after past).1.now ≤ start + config.timeouts.requestMs.toNat) :
    let r := (r₀.after past).1
    let limit := start + inboundTimeoutOf (.ofConfig config) config.timeouts.requestMs.toNat
    due = limit ∧
    ((∃ t ∈ (Registry.ofConfig config).targets, 0 < t.queueWait + t.requestTimeout) →
      r.step (.late v) = (r, [])) ∧
    ∃ last ≤ limit, (last = r.now ∨ ∃ t ∈ (Registry.ofConfig config).targets,
        last = r.now + t.queueWait + t.requestTimeout) ∧
      ∀ more : List RelayEvent, (∀ ev ∈ more, ev.isOutside = true) → .leave v ∉ more →
        InTime config r w limit last more := by
  intro r limit
  obtain rfl := id_of_visit? hw
  have hout := outside_of_events hpast
  have hfresh := isFresh_of_build hbuild
  change r.now ≤ _ at hupload
  have hdue : w.due? = some due := by simp [Visit.due?, hphase]
  obtain ⟨start', hstart', -, hsum⟩ := due_of_build hbuild hout hw hdue
  obtain rfl := Option.some.inj (hstart.symm.trans hstart')
  have hlimit : due = limit := hsum
  refine ⟨hlimit, ?_, ?_⟩
  · rintro ⟨t, ht, htime⟩
    -- A visit that has time for some target has not taken too long.
    have hearly : ¬ due ≤ r.now := by
      have hroom := target_within_limit ht hupload
      omega
    have hw' : r.visit? w.id = some w := hw
    simp [Relay.step, hw', hdue, hearly]
  have hregistry : r.engine.registry = .ofConfig config :=
    congrArg Engine.registry (engine_of_build hbuild _)
  have htied : r.Tied := hfresh.tied.history hout
  have hserves : r.Serves := (serves_of_build hbuild).history hfresh.tied hout
  have hpunctual : ∀ g s, r.client.station? g = some s → ∃ told, r.Punctual told s := by
    intro g s hs
    obtain ⟨-, -, hpunctual⟩ := punctual_of_build hbuild hpast hs
    exact ⟨_, hpunctual⟩
  have hroom : ∀ t ∈ r.engine.registry.targets, r.now + t.queueWait + t.requestTimeout ≤ due := by
    rw [hregistry, hlimit]
    exact fun t ht => target_within_limit ht hupload
  rcases pending_of_exchange htied hserves hpunctual hw hphase hroom with
    ⟨word, hword, hend⟩ | ⟨hquiet, t, ht, m, hpending⟩
  · -- The exchange was over at once, and its word came with the end of the upload.
    have hinbound : r.now ≤ limit :=
      hupload.trans (Nat.add_le_add_left (Nat.le_add_left _ _) start)
    have hfirst : (r.record ([.uploaded w.id].map .event)).firstWord w.id = some (r.now, word) :=
      firstWord_of_voiced hword
    have hhears : ∀ last, Hears config w limit last r.now word := fun last =>
      hears_of_isEnd hbuild hpast (List.forall_mem_cons.mpr ⟨rfl, by simp⟩)
        (mem_of_firstWord hfirst) hend
    exact ⟨r.now, hinbound, .inl rfl, fun more _ _ =>
      inTime_of_concludes (Nat.le_refl _) hword (hhears _)⟩
  · -- It goes on, and its target has told how long it may take.
    have hlast := hroom t ht
    rw [hregistry] at ht
    rw [hlimit] at hlast hpending
    exact ⟨_, hlast, .inr ⟨t, ht, rfl⟩, fun more hmore hleave =>
      inTime_of_pending hbuild hpast hquiet hpending hmore hleave⟩

/-- A visit whose first attempt to connect goes on until its limit waits, and hears of its end. -/
theorem exchange_answered_in_time_dialling :
    let asked := [.arrive 0 { sampleHead with path := "/gateway" }, .piece 0 (.bytes ⟨#[1]⟩)]
    let dialled := [.uploaded 0, .station "gateway" (.proceed 0), .elapse 2000]
    let r := (sampleBuilt.after asked).1
    (r.after dialled).1.now ≤ 21000 ∧ ∃ rest moment word w, r.visit? 0 = some w ∧
      (r.record ((dialled ++ rest).map .event)).firstWord 0 = some (moment, word) ∧
      w.IsEnd word := by
  intro asked dialled r
  have hlook : (r.visit? 0).map (·.phase) =
      some (.uploading 21000 ⟨.unnamed, MediaType.request.text⟩ [.bytes ⟨#[1]⟩]) := by decide +kernel
  obtain ⟨w, hw, hphase⟩ := Option.map_eq_some_iff.mp hlook
  have hpast : asked.all (·.isOutside) = true := by decide
  have hstart : (sampleBuilt.record (asked.map .event)).turnOf 0 = some 0 := by decide +kernel
  obtain ⟨-, -, last, hlast, -, hmore⟩ := exchange_answered_in_time build_sampleConfig
    (List.all_eq_true.mp hpast) hw hphase hstart (by decide +kernel)
  obtain ⟨hwaits, -⟩ := hmore [.station "gateway" (.proceed 0), .elapse 2000]
    (by simp [RelayEvent.isOutside, Gateway.Event.isOwn]) (by simp)
  have hid : w.id = 0 := id_of_visit? hw
  rw [hid] at hwaits
  obtain ⟨hnow, rest, -, moment, word, hword, hend⟩ := hwaits (by decide +kernel)
  have hlimit : 0 + inboundTimeoutOf (.ofConfig sampleConfig) sampleConfig.timeouts.requestMs.toNat =
      21000 := by decide +kernel
  exact ⟨hnow.trans (hlast.trans hlimit.le), rest, moment, word, w, hw, hword, hend⟩

/-- What can be seen of a relay that a configuration leads to is seen of one that is built from it. -/
theorem exists_built {α : Type} {config : Config} {certificates : List Gateway.Certificate}
    {look : Relay → α} {seen : α} (h : (build config certificates).toOption.map look = some seen) :
    ∃ r₀, build config certificates = .ok r₀ ∧ look r₀ = seen := by
  cases hbuilt : build config certificates with
  | ok r =>
    rw [hbuilt] at h
    exact ⟨r, rfl, Option.some.inj h⟩
  | error fault =>
    rw [hbuilt] at h
    cases h

/-- **An exchange need not be answered at all**, although the rules allow its configuration: its first
attempt to connect is refused, and the delay after it has no room for its random part. -/
theorem exchange_breaks_down :
    let asked := [.arrive 0 { sampleHead with path := "/gateway/gateway" },
      .piece 0 (.bytes ⟨#[1]⟩)]
    let refused := [.uploaded 0, .station "gateway" (.proceed 0),
      .station "gateway" (.refused 0 "refused" 1)]
    longestDelays.isValid = true ∧ ∃ r₀ w, build longestDelays [] = .ok r₀ ∧
      (r₀.after asked).1.visit? 0 = some w ∧ (r₀.after asked).1.now = 0 ∧
      ∃ word, ((r₀.after asked).1.record (refused.map .event)).firstWord 0 = some (0, word) ∧
        ∀ result, word ≠ w.answer result := by
  intro asked refused
  have hbreaks : (build longestDelays []).toOption.map (fun r₀ =>
      let r := (r₀.after asked).1
      ((r.visit? 0).isSome, r.now, (r.record (refused.map .event)).firstWord 0)) =
        some (true, 0, some (0, .brokenOff 0)) := by decide +kernel
  obtain ⟨r₀, hbuild, hparts⟩ := exists_built hbreaks
  obtain ⟨hvisit, hrest⟩ := Prod.mk.inj hparts
  obtain ⟨hnow, hword⟩ := Prod.mk.inj hrest
  obtain ⟨w, hw⟩ := Option.isSome_iff_exists.mp hvisit
  exact ⟨by decide +kernel, r₀, w, hbuild, hw, hnow, _, hword,
    fun result hanswer => by cases hanswer⟩

/-- One slot, and times without slack: an upload, a wait and an exchange of full length fill the time
of a visit. It breaks no rule. -/
def tightConfig : Config where
  timeouts := { requestMs := 10, queueWaitMs := 1 }
  gateways := [{ name := "gateway", endpoint := "http://[::1]", poolSize := 1 }]

/-- The server's word on lateness is no answer of the handler, which always has a type. -/
theorem answer_ne_tooLate (w : Visit) (result : Except Failure Message) :
    w.answer result ≠ .answered w.id (Http.Response.tooLate.forMethod w.method) := by
  have htype : ∀ response : Http.Response,
      (response.forMethod w.method).contentType = response.contentType := by
    intro response
    unfold Http.Response.forMethod
    split <;> rfl
  intro hsame
  obtain ⟨-, hresponse⟩ := RelayEffect.answered.inj hsame
  have hnone := congrArg Http.Response.contentType hresponse
  rw [htype, htype] at hnone
  cases hnone

/-- **The limit of a visit can come before its answer**, in the very moment of both, although the
upload was in time and nobody is late. A visit is uploaded in the last moment, waits for the only slot
as long as it may, and its exchange dials until the deadline: that is the moment at which the visit has
taken too long, and its client is told so. -/
theorem exchange_tied_with_limit :
    let head := { sampleHead with path := "/gateway/gateway" }
    let asked := [.arrive 0 head, .arrive 1 head, .piece 0 (.bytes ⟨#[1]⟩),
      .piece 1 (.bytes ⟨#[1]⟩), .elapse 5, .uploaded 0, .station "gateway" (.proceed 0), .elapse 5]
    let tied := [.uploaded 1, .elapse 1, .leave 0, .station "gateway" (.proceed 1), .elapse 10,
      .late 1]
    let limit := inboundTimeoutOf (.ofConfig tightConfig) tightConfig.timeouts.requestMs.toNat
    tightConfig.isValid = true ∧ ∃ r₀ w, build tightConfig [] = .ok r₀ ∧
      (r₀.after asked).1.visit? 1 = some w ∧ (r₀.record (asked.map .event)).turnOf 1 = some 0 ∧
      (r₀.after asked).1.now ≤ tightConfig.timeouts.requestMs.toNat ∧
      ∃ word, ((r₀.after asked).1.record (tied.map .event)).firstWord 1 = some (limit, word) ∧
        ∀ result, word ≠ w.answer result := by
  intro head asked tied limit
  have hseen : (build tightConfig []).toOption.map (fun r₀ =>
      let r := (r₀.after asked).1
      ((r.visit? 1).map (·.method), (r₀.record (asked.map .event)).turnOf 1, r.now,
        (r.record (tied.map .event)).firstWord 1)) =
        some (some "POST", some 0, 10, some (limit, .answered 1 .tooLate)) := by decide +kernel
  obtain ⟨r₀, hbuild, hparts⟩ := exists_built hseen
  obtain ⟨hvisit, hrest⟩ := Prod.mk.inj hparts
  obtain ⟨hturn, hrest⟩ := Prod.mk.inj hrest
  obtain ⟨hnow, hword⟩ := Prod.mk.inj hrest
  obtain ⟨w, hw, hmethod⟩ := Option.map_eq_some_iff.mp hvisit
  refine ⟨by decide +kernel, r₀, w, hbuild, hw, hturn, hnow.le, _, hword, fun result hanswer => ?_⟩
  -- The word that was heard is the server's, for the method of this visit.
  refine answer_ne_tooLate w result (hanswer.symm.trans ?_)
  rw [id_of_visit? hw, hmethod]
  rfl

end Relay

end ObliviousRelay
