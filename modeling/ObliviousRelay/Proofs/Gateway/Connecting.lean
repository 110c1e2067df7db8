import ObliviousRelay.Proofs.Gateway.Attempts
import ObliviousRelay.Proofs.Gateway.Own
import ObliviousRelay.Proofs.Timing.Delays

/-!
# Making a connection

A connection is attempted again and again until an attempt succeeds, the attempts are used up or the
deadline strikes. `Tries` says so of any sequence of attempts, without regard to how a station goes
about it, and a station does just that.

- `Fortune` is what becomes of an attempt that is left alone; `Tries` what the making of a connection
  comes to, with its end and the results of its attempts.
- `Plays` are the occurrences in which an exchange makes a connection: its own at their moments, and
  anything else in between.
- `connecting_matches`: what an exchange shows in a play is what `Tries` says.
-/

namespace ObliviousRelay.Gateway

open Timing (Deadline Expired maxWord)
open Timing.Backoff (capped IsJitter withDraw? jitterOf jitterBound range? rangeOf isJitter_jitterOf
  withDraw?_eq_some withDraw?_eq_none)

/-! ## What the making of a connection comes to -/

/-- What becomes of an attempt to connect that is left alone. -/
inductive Fortune where
  | connects (after : Nat)
  | fails (after : Nat) (error : String)
  | hangs

/-- How long an attempt takes, if it ends at all. -/
def Fortune.work : Fortune → Option Nat
  | connects after | fails after _ => some after
  | hangs => none

/-- What the making of a connection comes to. -/
inductive Verdict where
  | connected
  | unreachable (error : String)
  | timedOut
  /-- The length of a pause is no word. -/
  | brokenDown
  deriving DecidableEq

/-- The making of a connection: what it comes to, when, and how each attempt ended. -/
structure Trial where
  verdict : Verdict
  moment : Nat
  results : List AttemptResult
  deriving DecidableEq

section Reference

variable (c : Config) (d : Deadline) (fate : Nat → Fortune)

/-- The attempts that a configuration allows, one at least. -/
def attemptsOf : Nat := max 1 c.retries.connectAttempts.toNat

/-- The delay after the attempt of a number, without its random part. -/
def delayOf (k : Nat) : Nat :=
  capped k c.retries.baseDelayMs.toNat c.retries.maxDelayMs.toNat

/-- An attempt that begins now and takes so long ends by itself: within the time for one attempt, and
by the deadline. One that takes no time always does. -/
def EndsByItself (now : Nat) (after : Nat) : Prop :=
  after = 0 ∨ after ≤ c.timeouts.connectMs.toNat ∧ now + after ≤ d.moment

/-- An attempt is stopped before it ends by itself. -/
def IsStopped (now : Nat) (f : Fortune) : Prop :=
  ∀ after, f.work = some after → ¬ EndsByItself c d now after

/-- An attempt that begins now fails, with a text and at a moment, and leaves time for more. -/
inductive Fails (now : Nat) : Fortune → String → Nat → Prop where
  | itself (after : Nat) (error : String) (h : EndsByItself c d now after) :
      Fails now (.fails after error) error (now + after)
  | limit (f : Fortune) (h : IsStopped c d now f)
      (hlimit : now + c.timeouts.connectMs.toNat < d.moment) :
      Fails now f "connect timed out" (now + c.timeouts.connectMs.toNat)

/-- What the making of a connection comes to, from the attempt of a number on, which begins at a
moment. -/
inductive Tries : Nat → Nat → Trial → Prop where
  | connects {k now : Nat} (after : Nat) (hfate : fate k = .connects after)
      (h : EndsByItself c d now after) : Tries k now ⟨.connected, now + after, [.ok]⟩
  | struck {k now : Nat} (h : IsStopped c d now (fate k))
      (hdeadline : d.moment ≤ now + c.timeouts.connectMs.toNat) :
      Tries k now ⟨.timedOut, max now d.moment, [.timeout]⟩
  | exhausted {k now moment : Nat} {error : String} (h : Fails c d now (fate k) error moment)
      (hlast : attemptsOf c ≤ k) : Tries k now ⟨.unreachable error, moment, [.error]⟩
  | again {k now moment : Nat} {error : String} {trial : Trial} (jitter : Nat)
      (h : Fails c d now (fate k) error moment) (hmore : k < attemptsOf c)
      (hjitter : IsJitter (delayOf c k) jitter) (hfits : delayOf c k + jitter ≤ maxWord)
      (htime : delayOf c k + jitter = 0 ∨ moment + (delayOf c k + jitter) ≤ d.moment)
      (hrest : Tries (k + 1) (moment + (delayOf c k + jitter)) trial) :
      Tries k now { trial with results := .error :: trial.results }
  | struckInPause {k now moment : Nat} {error : String} (jitter : Nat)
      (h : Fails c d now (fate k) error moment) (hmore : k < attemptsOf c)
      (hjitter : IsJitter (delayOf c k) jitter) (hfits : delayOf c k + jitter ≤ maxWord)
      (hpause : 0 < delayOf c k + jitter) (htime : d.moment < moment + (delayOf c k + jitter)) :
      Tries k now ⟨.timedOut, max moment d.moment, [.error]⟩
  | breaksDown {k now moment : Nat} {error : String} (jitter : Nat)
      (h : Fails c d now (fate k) error moment) (hmore : k < attemptsOf c)
      (hjitter : IsJitter (delayOf c k) jitter) (hword : maxWord < delayOf c k + jitter) :
      Tries k now ⟨.brokenDown, moment, [.error]⟩

end Reference

namespace Tries

variable {c : Config} {d : Deadline} {fate : Nat → Fortune} {k now : Nat} {trial : Trial}

/-- **All attempts but the last fail**, and there are no more than the configuration allows. -/
theorem results_eq (h : Tries c d fate k now trial) (hk : k ≤ attemptsOf c) :
    ∃ failures last, trial.results = List.replicate failures .error ++ [last] ∧
      k + failures ≤ attemptsOf c ∧ (last = .ok ↔ trial.verdict = .connected) ∧
        (last = .timeout → trial.verdict = .timedOut) := by
  induction h with
  | connects | struck | exhausted | struckInPause | breaksDown =>
    exact ⟨0, _, rfl, hk, by simp, by simp⟩
  | again jitter h hmore hjitter hfits htime hrest ih =>
    obtain ⟨failures, last, hresults, hle, hok, htimeout⟩ := ih hmore
    refine ⟨failures + 1, last, ?_, by omega, hok, htimeout⟩
    rw [hresults, List.replicate_succ]
    rfl

/-- **It breaks down only where the range of a delay does not fit in a word.** -/
theorem range?_of_brokenDown (h : Tries c d fate k now trial)
    (hverdict : trial.verdict = .brokenDown) : ∃ j, k ≤ j ∧ j < attemptsOf c ∧
      range? j c.retries.baseDelayMs.toNat c.retries.maxDelayMs.toNat = none := by
  -- By induction on the trial; only its last step can break down.
  induction h with
  | connects | struck | exhausted | struckInPause => cases hverdict
  -- The break comes later, after an attempt of a higher number.
  | again jitter h hmore hjitter hfits htime hrest ih =>
    obtain ⟨j, hle, hlt, hrange⟩ := ih hverdict
    exact ⟨j, by omega, hlt, hrange⟩
  | @breaksDown k now moment error jitter h hmore hjitter hword =>
    refine ⟨k, Nat.le_refl k, hmore, ?_⟩
    -- The random part lies in the range, so the end of the range is no word either.
    have hgreatest : delayOf c k + jitter ≤ (rangeOf (delayOf c k)).greatest := by
      show _ ≤ delayOf c k + (jitterBound (delayOf c k) - 1)
      rcases hjitter with hlt | ⟨-, rfl⟩ <;> omega
    exact if_neg (by show ¬ (rangeOf (delayOf c k)).greatest ≤ maxWord; omega)

end Tries

/-! ## Bounds and pauses -/

section Bounds

variable {c : Config} {d : Deadline} {now k : Nat}

/-- An attempt ends by itself just when the earlier of its two bounds leaves it the time. -/
theorem endsByItself_iff (after : Nat) : EndsByItself c d now after ↔
    after = 0 ∨ now + after ≤ (d.cap now c.timeouts.connectMs.toNat).1 := by
  unfold EndsByItself Deadline.cap
  split <;> dsimp only <;> omega

/-- The limit of an attempt stops it only strictly before the deadline. -/
theorem cap_of_limit (h : now + c.timeouts.connectMs.toNat < d.moment) :
    d.cap now c.timeouts.connectMs.toNat = (now + c.timeouts.connectMs.toNat, .limit) :=
  if_pos h

/-- The deadline stops it otherwise. -/
theorem cap_of_deadline (h : d.moment ≤ now + c.timeouts.connectMs.toNat) :
    d.cap now c.timeouts.connectMs.toNat = (d.moment, .deadline) :=
  if_neg (Nat.not_lt.mpr h)

/-- A pause that the deadline leaves time for ends after its length. -/
theorem run_of_inTime {length : Nat} (h : length = 0 ∨ now + length ≤ d.moment) :
    d.run now (some length) = ⟨.ok (), now + length⟩ := by
  have hends : Deadline.endsBy d.moment now (some length) = true := by
    simpa [Deadline.endsBy] using h
  exact if_pos hends

/-- A longer one ends with the deadline. -/
theorem run_of_late {length : Nat} (hlength : 0 < length) (h : d.moment < now + length) :
    d.run now (some length) = ⟨.error .deadline, max now d.moment⟩ := by
  have hends : ¬ Deadline.endsBy d.moment now (some length) = true := by
    simp only [Deadline.endsBy, Bool.or_eq_true, beq_iff_eq, decide_eq_true_eq]
    omega
  exact if_neg hends

/-- The policy of a configuration allows another attempt after the delay, or none after the last. -/
theorem nextDelay_ofConfig (c : Config) (k : Nat) :
    (Policy.ofConfig c).retry.nextDelay k =
      if attemptsOf c ≤ k then none else some (delayOf c k) := by
  have hmax : (Policy.ofConfig c).retry.maxAttempts = attemptsOf c := Nat.max_comm _ _
  rw [Timing.Retry.nextDelay, hmax]
  rfl

end Bounds

/-! ## Plays -/

/-- How an attempt that is bounded by a moment ends: when, and by which event. -/
inductive Fortune.Ends (x bound now draw : Nat) : Fortune → Nat → Event → Prop where
  | connects (after : Nat) (h : after = 0 ∨ now + after ≤ bound) :
      Ends x bound now draw (.connects after) (now + after) (.connected x)
  | fails (after : Nat) (error : String) (h : after = 0 ∨ now + after ≤ bound) :
      Ends x bound now draw (.fails after error) (now + after) (.refused x error draw)
  | stopped (f : Fortune) (h : ∀ after, f.work = some after → ¬ (after = 0 ∨ now + after ≤ bound)) :
      Ends x bound now draw f (max now bound) (.expire x draw)

/-- Whatever ends an attempt is about its exchange. -/
theorem Fortune.Ends.about {f : Fortune} {x bound now draw moment : Nat} {e : Event}
    (h : f.Ends x bound now draw moment e) : e.about? = some x := by
  cases h <;> rfl

/-- The occurrences in which an exchange makes a connection. Its attempts and pauses end in time, and
in between there is anything that is not about it. The draws settle the random parts of its
pauses. -/
inductive Plays (x : Nat) (fate : Nat → Fortune) (draws : Nat → Nat) :
    Station → List Occurrence → Prop where
  | left {s : Station} (h : ∀ d purpose dial, s.phase? x ≠ some (.dialling d purpose dial)) :
      Plays x fate draws s []
  | attempt {s : Station} {d : Deadline} {purpose : Purpose} {k bound : Nat} {stops : Expired}
      {aside rest : List Occurrence} {e : Event}
      (hp : s.phase? x = some (.dialling d purpose ⟨k, .connecting bound stops⟩))
      (haside : ∀ o ∈ aside, o.about? ≠ some x)
      (hends : (fate k).Ends x bound s.now (draws k) (s.history aside).1.now e)
      (hrest : Plays x fate draws ((s.history aside).1.step e).1 rest) :
      Plays x fate draws s (aside ++ .event e :: rest)
  | pause {s : Station} {d : Deadline} {purpose : Purpose} {k ending : Nat} {inTime : Bool}
      {aside rest : List Occurrence} (draw : Nat)
      (hp : s.phase? x = some (.dialling d purpose ⟨k, .pausing ending inTime⟩))
      (haside : ∀ o ∈ aside, o.about? ≠ some x) (hends : (s.history aside).1.now = ending)
      (hrest : Plays x fate draws ((s.history aside).1.step (.expire x draw)).1 rest) :
      Plays x fate draws s (aside ++ .event (.expire x draw) :: rest)

/-- Nothing is left to do for an exchange that makes no connection. -/
theorem Plays.eq_nil {x : Nat} {fate : Nat → Fortune} {draws : Nat → Nat} {s : Station}
    {os : List Occurrence} (h : Plays x fate draws s os)
    (hover : ∀ d purpose dial, s.phase? x ≠ some (.dialling d purpose dial)) : os = [] := by
  cases h with
  | left => rfl
  | attempt hp | pause draw hp => exact absurd hp (hover _ _ _)

/-- The results of the attempts that are told of. -/
def attemptResults (effects : List Effect) : List AttemptResult :=
  effects.filterMap fun
    | .attempted r => some r
    | _ => none

namespace Station

variable {s t : Station} {x : Nat} {d : Deadline} {purpose : Purpose} {k : Nat}
  {os aside rest : List Occurrence} {e : Event} {effects more : List Effect} {trial : Trial}

/-- What an exchange that made a connection shows at its end, by what that came to. -/
def Concludes (x : Nat) (purpose : Purpose) (t : Station) (effects : List Effect) : Verdict → Prop
  | .connected => ∃ c p, t.phase? x = some p ∧ p.connection? = some c ∧ .opened c.serial ∈ effects
  | .unreachable error => t.phase? x = purpose.remains ∧
      ∀ f, .failed x f ∈ effects ↔ f = .gatewayUnreachable error
  | .timedOut => t.phase? x = purpose.remains ∧ ∀ f, .failed x f ∈ effects ↔ f = .gatewayTimeout
  | .brokenDown => t.phase? x = none ∧ .overflowed x ∈ effects ∧ ∀ f, .failed x f ∉ effects

/-- What an exchange shows that makes a connection in the course of some occurrences, of whose
attempts so many have begun: when it ends, how its attempts ended, and what came of it. -/
structure Shows (x : Nat) (purpose : Purpose) (begun : Nat) (s : Station) (os : List Occurrence)
    (trial : Trial) : Prop where
  moment : (s.history os).1.now = trial.moment
  results : attemptResults (s.ownEffects x os) = trial.results
  begins : (s.ownEffects x os).count (.dialling x) + begun = trial.results.length
  opened : openings (s.ownEffects x os) = if trial.verdict = .connected then 1 else 0
  concludes : Concludes x purpose (s.history os).1 (s.ownEffects x os) trial.verdict

/-! ## What an exchange shows in its turns -/

/-- Results are told one after the other. -/
@[simp] theorem attemptResults_append (effects more : List Effect) :
    attemptResults (effects ++ more) = attemptResults effects ++ attemptResults more :=
  List.filterMap_append

/-- An exchange has its turn after others had theirs. -/
theorem history_turn (s : Station) (aside rest : List Occurrence) (e : Event) :
    (s.history (aside ++ .event e :: rest)).1 =
      (((s.history aside).1.step e).1.history rest).1 := by
  rw [history_append, history_cons]
  rfl

/-- What is seen of an exchange's own in a turn is what its event tells. -/
theorem ownEffects_turn (haside : ∀ o ∈ aside, o.about? ≠ some x) (he : e.about? = some x) :
    s.ownEffects x (aside ++ .event e :: rest) = ((s.history aside).1.step e).2 ++
      ((s.history aside).1.step e).1.ownEffects x rest := by
  have hquiet : s.ownEffects x aside = [] :=
    effectsWhere_eq_nil fun o ho => decide_eq_false (haside o ho)
  calc s.ownEffects x (aside ++ .event e :: rest)
      = s.ownEffects x aside ++ (s.history aside).1.ownEffects x (.event e :: rest) :=
        effectsWhere_append _ _ _ _
    _ = (s.history aside).1.ownEffects x (.event e :: rest) := by rw [hquiet, List.nil_append]
    _ = _ := ownEffects_cons_own he

/-- What is shown later is shown after a turn that ended so many attempts and did not fail. -/
theorem Shows.turn {begun later : Nat} {ended : List AttemptResult}
    (h : Shows x purpose later ((s.history aside).1.step e).1 rest trial)
    (haside : ∀ o ∈ aside, o.about? ≠ some x) (he : e.about? = some x)
    (hended : attemptResults ((s.history aside).1.step e).2 = ended)
    (hbegins : ((s.history aside).1.step e).2.count (.dialling x) + begun = ended.length + later)
    (hopened : openings ((s.history aside).1.step e).2 = 0)
    (hfailed : ∀ f, .failed x f ∉ ((s.history aside).1.step e).2) :
    Shows x purpose begun s (aside ++ .event e :: rest)
      { trial with results := ended ++ trial.results } := by
  obtain ⟨hmoment, hresults, hcount, hopen, hend⟩ := h
  have hown : s.ownEffects x (aside ++ .event e :: rest) = ((s.history aside).1.step e).2 ++
      ((s.history aside).1.step e).1.ownEffects x rest := ownEffects_turn haside he
  have hstays := history_turn s aside rest e
  refine ⟨?_, ?_, ?_, ?_, ?_⟩
  · -- The moment is the one at which the rest ends.
    rw [hstays, hmoment]
  · -- The attempts that ended in this turn come first.
    rw [hown, attemptResults_append, hended, hresults]
  · -- Attempts that begin and that end are balanced turn by turn.
    rw [hown, List.count_append, List.length_append]
    omega
  · -- Nothing is opened in this turn.
    rw [hown, openings_append, hopened, Nat.zero_add, hopen]
  · -- How the trial ends is told by the rest, with no failure before.
    rw [hown, hstays]
    generalize trial.verdict = verdict at hend
    cases verdict with
    | connected =>
      obtain ⟨c, p, hp, hc, hmem⟩ := hend
      exact ⟨c, p, hp, hc, List.mem_append_right _ hmem⟩
    | unreachable | timedOut =>
      obtain ⟨hp, hfails⟩ := hend
      exact ⟨hp, fun f => by rw [List.mem_append, ← hfails f]; simp [hfailed f]⟩
    | brokenDown =>
      obtain ⟨hp, hmem, hfails⟩ := hend
      exact ⟨hp, List.mem_append_right _ hmem, fun f => by simp [hfailed f, hfails f]⟩

/-- A turn after which nothing more is done is the last one. -/
theorem shows_last {begun : Nat} (haside : ∀ o ∈ aside, o.about? ≠ some x) (he : e.about? = some x)
    (hmoment : (s.history aside).1.now = trial.moment)
    (hresults : attemptResults ((s.history aside).1.step e).2 = trial.results)
    (hbegins : ((s.history aside).1.step e).2.count (.dialling x) + begun = trial.results.length)
    (hopened : openings ((s.history aside).1.step e).2 =
      if trial.verdict = .connected then 1 else 0)
    (hend : Concludes x purpose ((s.history aside).1.step e).1 ((s.history aside).1.step e).2
      trial.verdict) : Shows x purpose begun s (aside ++ [.event e]) trial := by
  have hown : s.ownEffects x (aside ++ [.event e]) = ((s.history aside).1.step e).2 := by
    rw [ownEffects_turn haside he]
    exact List.append_nil _
  have hstays : (s.history (aside ++ [.event e])).1 = ((s.history aside).1.step e).1 :=
    history_turn s aside [] e
  have hnow : ((s.history aside).1.step e).1.now = (s.history aside).1.now := now_step he
  exact ⟨by rw [hstays, hnow, hmoment], by rw [hown, hresults], by rw [hown, hbegins],
    by rw [hown, hopened], by rwa [hown, hstays]⟩

/-! ## The turns of an exchange that makes a connection -/

/-- **An attempt that succeeds** gives the exchange its connection. -/
theorem connected_turn {bound : Nat} {stops : Expired}
    (hp : s.phase? x = some (.dialling d purpose ⟨k, .connecting bound stops⟩)) :
    attemptResults (s.step (.connected x)).2 = [.ok] ∧
      (s.step (.connected x)).2.count (.dialling x) = 0 ∧
      openings (s.step (.connected x)).2 = 1 ∧
      Concludes x purpose (s.step (.connected x)).1 (s.step (.connected x)).2 .connected := by
  have hstep : s.step (.connected x) = s.connected x d purpose := by
    rw [step_eq_act (x := x) rfl, hp]
    rfl
  have hphase : ∀ q, (s.opened.2.1.setPhase x q).phase? x = some q := fun q =>
    phase?_setPhase_self (s := s.opened.2.1) hp
  rw [hstep]
  -- With the connection the exchange goes on as it was meant to: the lease, a request that is sent
  -- again, or the first one.
  cases purpose with
  | lease => exact ⟨rfl, by simp [connected, opened], rfl, s.opened.1, _, hphase _, rfl, by
      simp [connected, opened]⟩
  | offerAgain r => exact ⟨rfl, by simp [connected, opened, handOver], rfl, s.opened.1, _, hphase _,
      rfl, by simp [connected, opened]⟩
  | offer o =>
    simp only [connected, offer, andThen_eq]
    -- The request may be one that cannot be written. The connection is made all the same.
    split
    · exact ⟨rfl, by simp [opened], rfl, s.opened.1, _, hphase _, rfl, by simp [opened]⟩
    · exact ⟨rfl, by simp [opened, handOver], rfl, s.opened.1, _, hphase _, rfl, by simp [opened]⟩

/-- What remains after giving up is no attempt. -/
theorem remains_ne_dialling (purpose : Purpose) (d : Deadline) (other : Purpose) (dial : Dial) :
    purpose.remains ≠ some (.dialling d other dial) := by
  cases purpose <;> simp [Purpose.remains]

/-- What is seen when an exchange gives up: its failure, and nothing else that counts. -/
theorem giveUp_turn (h : s.SlotAccount) {dial : Dial}
    (hp : s.phase? x = some (.dialling d purpose dial)) (f : Failure) :
    (s.giveUp x purpose f).1.phase? x = purpose.remains ∧
      attemptResults (s.giveUp x purpose f).2 = [] ∧
      (s.giveUp x purpose f).2.count (.dialling x) = 0 ∧ openings (s.giveUp x purpose f).2 = 0 ∧
      ∀ g, .failed x g ∈ (s.giveUp x purpose f).2 ↔ g = f := by
  obtain ⟨before, heq, hbefore⟩ := effects_giveUp s x purpose f
  refine ⟨phase?_giveUp h hp f, ?_⟩
  rw [heq]
  rcases hbefore with rfl | rfl
  · exact ⟨rfl, by simp, rfl, by simp⟩
  -- The slot that is freed goes to nobody or to the next in the queue.
  · rcases s.effects_finish x with hfinish | ⟨y, hfinish⟩ <;> rw [hfinish] <;>
      exact ⟨rfl, by simp, rfl, by simp⟩

/-! ## What an exchange shows in a play -/

variable {c : Config} {fate : Nat → Fortune} {draws : Nat → Nat} {bound draw : Nat}
  {stops : Expired} {error : String}

/-- What an exchange shows in the course of some occurrences is what its attempts come to, wherever
it stands in the making of its connection. -/
structure Explained (c : Config) (x : Nat) (fate : Nat → Fortune) (s : Station)
    (os : List Occurrence) : Prop where
  connecting : ∀ d purpose k, s.phase? x = some (.dialling d purpose
      ⟨k, .connecting (d.cap s.now c.timeouts.connectMs.toNat).1
        (d.cap s.now c.timeouts.connectMs.toNat).2⟩) →
    ∃ trial, Tries c d fate k s.now trial ∧ Shows x purpose 1 s os trial
  pausing : ∀ d purpose k ending,
    s.phase? x = some (.dialling d purpose ⟨k, .pausing ending true⟩) →
      ∃ trial, Tries c d fate (k + 1) ending trial ∧ Shows x purpose 0 s os trial
  late : ∀ d purpose k ending,
    s.phase? x = some (.dialling d purpose ⟨k, .pausing ending false⟩) →
      Shows x purpose 0 s os ⟨.timedOut, ending, []⟩

/-- What an exchange shows after a failed attempt, given what it shows after the turn. -/
theorem shows_of_failure (ht : (s.history aside).1 = t) (h : t.SlotAccount)
    (hpolicy : t.policy = .ofConfig c)
    (hp : t.phase? x = some (.dialling d purpose ⟨k, .connecting bound stops⟩))
    (haside : ∀ o ∈ aside, o.about? ≠ some x) (he : e.about? = some x)
    (hafter : AfterFailure t x d purpose k error draw ((t.step e).1.phase? x) (t.step e).2)
    (hfails : Fails c d s.now (fate k) error t.now)
    (hplays : Plays x fate draws (t.step e).1 rest)
    (hlater : Explained c x fate (t.step e).1 rest) :
    ∃ trial, Tries c d fate k s.now trial ∧
      Shows x purpose 1 s (aside ++ .event e :: rest) trial := by
  -- What the policy gives as a delay is the reference's, and there is none after the last attempt.
  subst ht
  have hnext : ∀ delay, (s.history aside).1.policy.retry.nextDelay k = some delay →
      k < attemptsOf c ∧ delay = delayOf c k := fun delay hdelay => by
    rw [hpolicy, nextDelay_ofConfig] at hdelay
    split at hdelay
    · cases hdelay
    · next hmore => exact ⟨Nat.not_le.mp hmore, (Option.some.inj hdelay).symm⟩
  have hretry := hlater.pausing d purpose k
  have hlate := hlater.late d purpose k
  generalize hphase : ((s.history aside).1.step e).1.phase? x = q at hafter hretry hlate
  generalize heffects : ((s.history aside).1.step e).2 = effects at hafter
  cases hafter with
  -- Another attempt is allowed, and there is room for its random part.
  | pauses delay length hdelay hlength =>
    obtain ⟨hmore, rfl⟩ := hnext delay hdelay
    obtain ⟨rfl, hfits⟩ := withDraw?_eq_some hlength
    have hjitter := isJitter_jitterOf (delayOf c k) draw
    generalize jitterOf (delayOf c k) draw = jitter at hfits hjitter hretry hlate hphase
    have hended : attemptResults ((s.history aside).1.step e).2 = [.error] := by
      rw [heffects]
      rfl
    have hcount : ((s.history aside).1.step e).2.count (.dialling x) + 1 =
        [AttemptResult.error].length + 0 := by
      rw [heffects]
      simp
    have hopened : openings ((s.history aside).1.step e).2 = 0 := by
      rw [heffects]
      rfl
    have hfailed : ∀ f, .failed x f ∉ ((s.history aside).1.step e).2 := by
      rw [heffects]
      simp
    -- The pause ends in time, or the deadline strikes in it.
    by_cases htime : delayOf c k + jitter = 0 ∨
        (s.history aside).1.now + (delayOf c k + jitter) ≤ d.moment
    · obtain ⟨trial, htries, hshows⟩ := hretry _ (by rw [run_of_inTime htime])
      exact ⟨_, .again jitter hfails hmore hjitter hfits htime htries,
        hshows.turn haside he hended hcount hopened hfailed⟩
    · obtain ⟨hpause, hpast⟩ := not_or.mp htime
      have hlong := Nat.pos_of_ne_zero hpause
      have hover := Nat.not_le.mp hpast
      have hshows := hlate _ (by rw [run_of_late hlong hover])
      exact ⟨_, .struckInPause jitter hfails hmore hjitter hfits hlong hover,
        hshows.turn haside he hended hcount hopened hfailed⟩
  -- The delay has no room for its random part, and the exchange breaks down.
  | breaksDown delay hdelay hlength =>
    obtain ⟨hmore, rfl⟩ := hnext delay hdelay
    obtain rfl := hplays.eq_nil fun d purpose dial heq => by rw [hphase] at heq; cases heq
    refine ⟨_, .breaksDown _ hfails hmore (isJitter_jitterOf _ draw) (withDraw?_eq_none hlength),
      shows_last haside he rfl ?_ ?_ ?_ ⟨hphase, ?_, ?_⟩⟩
    all_goals rw [heffects]
    all_goals rcases (s.history aside).1.effects_finish x with hfinish | ⟨y, hfinish⟩ <;>
      rw [hfinish] <;> simp [attemptResults, openings]
  -- It was the last attempt.
  | givesUp hnone =>
    have hlast : attemptsOf c ≤ k := by
      rw [hpolicy, nextDelay_ofConfig] at hnone
      by_contra hmore
      rw [if_neg hmore] at hnone
      cases hnone
    obtain ⟨-, hresults, hcount, hopened, hfailed⟩ :=
      giveUp_turn h hp (.gatewayUnreachable error)
    obtain rfl := hplays.eq_nil fun d other dial heq =>
      remains_ne_dialling purpose d other dial (hphase.symm.trans heq)
    refine ⟨_, .exhausted hfails hlast, shows_last haside he rfl ?_ ?_ ?_ ⟨hphase, fun f => ?_⟩⟩
    · rw [heffects, attemptResults_append, hresults]
      rfl
    · rw [heffects, List.count_append, hcount]
      simp
    · rw [heffects, openings_append, hopened]
      rfl
    · rw [heffects, List.mem_append, hfailed]
      simp

/-- The turn at which an exchange gives up, for want of time. -/
theorem shows_of_timeout {begun : Nat} {dial : Dial} {ended : List AttemptResult}
    {effects : List Effect} (ht : (s.history aside).1 = t) (h : t.SlotAccount)
    (hp : t.phase? x = some (.dialling d purpose dial))
    (haside : ∀ o ∈ aside, o.about? ≠ some x)
    (hstep : t.step (.expire x draw) =
      Outcome.andThen (t, effects) (·.giveUp x purpose .gatewayTimeout))
    (hended : attemptResults effects = ended) (hbegins : begun = ended.length)
    (hquiet : effects.count (.dialling x) = 0 ∧ openings effects = 0 ∧ ∀ f, .failed x f ∉ effects)
    (hplays : Plays x fate draws (t.step (.expire x draw)).1 rest) :
    Shows x purpose begun s (aside ++ .event (.expire x draw) :: rest)
      ⟨.timedOut, t.now, ended⟩ := by
  subst ht
  obtain ⟨hphase, hresults, hcount, hopened, hfailed⟩ := giveUp_turn h hp .gatewayTimeout
  -- Giving up is all that is left of the play.
  obtain ⟨hnone, hclosed, hquiet⟩ := hquiet
  have hover : ((s.history aside).1.step (.expire x draw)).1.phase? x = purpose.remains := by
    rw [hstep]
    exact hphase
  obtain rfl := hplays.eq_nil fun d other dial heq =>
    remains_ne_dialling purpose d other dial (hover.symm.trans heq)
  refine shows_last haside rfl rfl ?_ ?_ ?_ ⟨hover, fun f => ?_⟩
  all_goals rw [hstep, andThen_eq]
  · rw [attemptResults_append, hresults, List.append_nil, hended]
  · rw [List.count_append, hnone, hcount, Nat.zero_add]
    exact hbegins
  · rw [openings_append, hclosed, hopened]
    rfl
  · rw [List.mem_append, hfailed]
    simp [hquiet f]

/-- What an exchange shows that has an attempt under way. -/
theorem shows_of_attempt (h : s.SlotAccount) (hpolicy : s.policy = .ofConfig c)
    (hp : s.phase? x = some (.dialling d purpose
      ⟨k, .connecting (d.cap s.now c.timeouts.connectMs.toNat).1
        (d.cap s.now c.timeouts.connectMs.toNat).2⟩))
    (haside : ∀ o ∈ aside, o.about? ≠ some x)
    (hends : (fate k).Ends x (d.cap s.now c.timeouts.connectMs.toNat).1 s.now (draws k)
      (s.history aside).1.now e)
    (hplays : Plays x fate draws ((s.history aside).1.step e).1 rest)
    (hlater : Explained c x fate ((s.history aside).1.step e).1 rest) :
    ∃ trial, Tries c d fate k s.now trial ∧
      Shows x purpose 1 s (aside ++ .event e :: rest) trial := by
  have hhere := history_aside h hp rfl haside
  have hslots : (s.history aside).1.SlotAccount := h.history aside
  have hsame : (s.history aside).1.policy = .ofConfig c := (history_target s aside).2.trans hpolicy
  generalize hfate : fate k = f, hmoment : (s.history aside).1.now = moment at hends
  cases hends with
  -- It connects in time, and the trial ends so.
  | connects after hafter =>
    obtain ⟨hresults, hcount, hopened, hend⟩ := connected_turn hhere
    obtain rfl := hplays.eq_nil fun d other dial heq => by
      obtain ⟨c, p, hphase, hc, -⟩ := hend
      obtain rfl := Option.some.inj (hphase.symm.trans heq)
      cases hc
    exact ⟨_, .connects after hfate ((endsByItself_iff after).mpr hafter),
      shows_last haside rfl hmoment hresults (by rw [hcount]; rfl) hopened hend⟩
  -- It fails in time.
  | fails after error hafter =>
    refine shows_of_failure rfl hslots hsame hhere haside rfl
      (afterFailure_of_refused hslots hhere error (draws k)) ?_ hplays hlater
    rw [hfate, hmoment]
    exact .itself after error ((endsByItself_iff after).mpr hafter)
  -- It is stopped before.
  | stopped _ hstopped =>
    have hlonger : IsStopped c d s.now (fate k) := fun after hwork hends =>
      hstopped after (hfate ▸ hwork) ((endsByItself_iff after).mp hends)
    by_cases hlimit : s.now + c.timeouts.connectMs.toNat < d.moment
    · -- Its own limit stops the attempt, which has failed then.
      rw [cap_of_limit hlimit] at hhere hmoment
      rw [show max s.now (s.now + c.timeouts.connectMs.toNat) =
        s.now + c.timeouts.connectMs.toNat by omega] at hmoment
      have hrefused := step_expire_of_limit hhere hmoment.ge (draws k)
      refine shows_of_failure rfl hslots hsame hhere haside rfl
        (hrefused ▸ afterFailure_of_refused hslots hhere "connect timed out" (draws k)) ?_ hplays
        hlater
      rw [hmoment]
      exact .limit _ hlonger hlimit
    · -- The deadline strikes first, which leaves no time for another attempt.
      have hdeadline := Nat.not_lt.mp hlimit
      rw [cap_of_deadline hdeadline] at hhere hmoment
      have hstep := step_expire hhere rfl rfl (hmoment ▸ Nat.le_max_right _ _) (draws k)
      refine ⟨_, .struck hlonger hdeadline, ?_⟩
      rw [← hmoment]
      exact shows_of_timeout rfl hslots hhere haside hstep rfl rfl ⟨rfl, rfl, by simp⟩ hplays

/-- What an exchange shows whose pause ends in time. -/
theorem shows_of_pause {ending : Nat} (h : s.SlotAccount) (hpolicy : s.policy = .ofConfig c)
    (hp : s.phase? x = some (.dialling d purpose ⟨k, .pausing ending true⟩))
    (haside : ∀ o ∈ aside, o.about? ≠ some x) (hends : (s.history aside).1.now = ending)
    (hlater : Explained c x fate ((s.history aside).1.step (.expire x draw)).1 rest) :
    ∃ trial, Tries c d fate (k + 1) ending trial ∧
      Shows x purpose 0 s (aside ++ .event (.expire x draw) :: rest) trial := by
  have hhere := history_aside h hp rfl haside
  have hstep := step_expire hhere rfl rfl hends.ge draw
  have hnow : ((s.history aside).1.step (.expire x draw)).1.now = (s.history aside).1.now :=
    now_step (x := x) rfl
  have hlimit : (s.history aside).1.policy.connectTimeout = c.timeouts.connectMs.toNat := by
    rw [(history_target s aside).2, hpolicy]
    rfl
  obtain ⟨trial, htries, hshows⟩ := hlater.connecting d purpose (k + 1) (by
    rw [hnow, hstep, ← hlimit]
    exact phase?_setPhase_self hhere)
  rw [hnow, hends] at htries
  -- The next attempt has begun, and that is all that is seen.
  have heffects : ((s.history aside).1.step (.expire x draw)).2 = [.dialling x] := by
    rw [hstep]
    rfl
  have hcount : ((s.history aside).1.step (.expire x draw)).2.count (.dialling x) + 0 =
      ([] : List AttemptResult).length + 1 := by
    rw [heffects]
    simp
  exact ⟨trial, htries, hshows.turn haside rfl (congrArg attemptResults heffects) hcount
    (by rw [heffects]; rfl) (by rw [heffects]; simp)⟩

/-- **What an exchange shows in a play is what its attempts come to**, from wherever it stands in
the making of its connection. -/
theorem explained_of_plays (hplays : Plays x fate draws s os) (h : s.SlotAccount)
    (hpolicy : s.policy = .ofConfig c) : Explained c x fate s os := by
  -- By induction on the play, whose first turn is told given what is shown in the rest.
  induction hplays with
  | left hover =>
    exact ⟨fun _ _ _ hp => absurd hp (hover _ _ _), fun _ _ _ _ hp => absurd hp (hover _ _ _),
      fun _ _ _ _ hp => absurd hp (hover _ _ _)⟩
  | attempt hp haside hends hrest ih =>
    have hlater := ih ((h.history _).occur (.event _))
      ((occur_target _ (.event _)).2.trans ((history_target _ _).2.trans hpolicy))
    refine ⟨fun d' purpose' k' hp' => ?_, fun _ _ _ _ hp' => (by rw [hp] at hp'; cases hp'),
      fun _ _ _ _ hp' => (by rw [hp] at hp'; cases hp')⟩
    have heq := Option.some.inj (hp.symm.trans hp')
    simp only [Phase.dialling.injEq, Dial.mk.injEq, Stage.connecting.injEq] at heq
    obtain ⟨rfl, rfl, rfl, rfl, rfl⟩ := heq
    exact shows_of_attempt h hpolicy hp haside hends hrest hlater
  | @pause s d purpose k ending inTime aside rest draw hp haside hends hrest ih =>
    have hlater := ih ((h.history aside).occur (.event _))
      ((occur_target _ (.event _)).2.trans ((history_target _ _).2.trans hpolicy))
    refine ⟨fun _ _ _ hp' => (by rw [hp] at hp'; cases hp'), fun d' purpose' k' ending' hp' => ?_,
      fun d' purpose' k' ending' hp' => ?_⟩
    all_goals
      have heq := Option.some.inj (hp.symm.trans hp')
      simp only [Phase.dialling.injEq, Dial.mk.injEq, Stage.pausing.injEq] at heq
      obtain ⟨rfl, rfl, rfl, rfl, rfl⟩ := heq
    -- A pause in time: another attempt follows.
    · exact shows_of_pause h hpolicy hp haside hends hlater
    -- A late one: the deadline strikes when it ends.
    · have hhere := history_aside h hp rfl haside
      have hstep : (s.history aside).1.step (.expire x draw) =
          Outcome.andThen ((s.history aside).1, []) (·.giveUp x purpose .gatewayTimeout) :=
        step_expire hhere rfl rfl hends.ge draw
      rw [← hends]
      exact shows_of_timeout rfl (h.history aside) hhere haside hstep rfl rfl
        ⟨rfl, rfl, by simp⟩ hrest

/-! ## Plays come to an end -/

/-- Whatever becomes of an attempt, it ends after some time. -/
theorem exists_ends (f : Fortune) (x bound now draw : Nat) :
    ∃ length e, f.Ends x bound now draw (now + length) e := by
  have hstopped : (∀ after, f.work = some after → ¬ (after = 0 ∨ now + after ≤ bound)) →
      ∃ length e, f.Ends x bound now draw (now + length) e := fun hlonger => by
    refine ⟨max now bound - now, .expire x draw, ?_⟩
    rw [Nat.add_sub_cancel' (Nat.le_max_left now bound)]
    exact .stopped f hlonger
  -- An attempt takes as long as its work does, or is stopped at its bound.
  cases f with
  | hangs => exact hstopped (by simp [Fortune.work])
  | connects after =>
    by_cases hends : after = 0 ∨ now + after ≤ bound
    · exact ⟨after, _, .connects after hends⟩
    · exact hstopped fun _ hwork => Option.some.inj hwork ▸ hends
  | fails after error =>
    by_cases hends : after = 0 ∨ now + after ≤ bound
    · exact ⟨after, _, .fails after error hends⟩
    · exact hstopped fun _ hwork => Option.some.inj hwork ▸ hends

/-- After a failed attempt the exchange makes its connection no more, or it pauses before another
attempt that its configuration allows. -/
theorem AfterFailure.turn {q : Option Phase} (hpolicy : t.policy = .ofConfig c)
    (h : AfterFailure t x d purpose k error draw q effects) :
    (∀ d' other dial, q ≠ some (.dialling d' other dial)) ∨
      ∃ ending inTime, k < attemptsOf c ∧ t.now ≤ ending ∧
        q = some (.dialling d purpose ⟨k, .pausing ending inTime⟩) := by
  -- After a failure the play is over, or there is a pause with an attempt to follow.
  cases h with
  | pauses delay length hdelay =>
    have hmore := Timing.Retry.lt_of_nextDelay hdelay
    rw [hpolicy, show (Policy.ofConfig c).retry.maxAttempts = attemptsOf c from Nat.max_comm _ _]
      at hmore
    refine .inr ⟨_, _, hmore, ?_, rfl⟩
    by_cases htime : length = 0 ∨ t.now + length ≤ d.moment
    · rw [run_of_inTime htime]
      exact Nat.le_add_right _ _
    · obtain ⟨hlong, hpast⟩ := not_or.mp htime
      rw [run_of_late (Nat.pos_of_ne_zero hlong) (Nat.not_le.mp hpast)]
      exact Nat.le_max_left _ _
  | breaksDown => exact .inl fun _ _ _ => by simp
  | givesUp => exact .inl fun _ _ _ => remains_ne_dialling _ _ _ _

/-- When an attempt has ended, the exchange makes its connection no more, or it pauses before another
attempt that its configuration allows. -/
theorem attempt_turn {f : Fortune} {now : Nat} (h : t.SlotAccount) (hpolicy : t.policy = .ofConfig c)
    (hp : t.phase? x = some (.dialling d purpose ⟨k, .connecting bound stops⟩))
    (hends : f.Ends x bound now draw t.now e) :
    (∀ d' other dial, (t.step e).1.phase? x ≠ some (.dialling d' other dial)) ∨
      ∃ ending inTime, k < attemptsOf c ∧ t.now ≤ ending ∧
        (t.step e).1.phase? x = some (.dialling d purpose ⟨k, .pausing ending inTime⟩) := by
  generalize hmoment : t.now = moment at hends
  cases hends with
  -- Connected, and no longer dialling.
  | connects after =>
    left
    obtain ⟨-, -, -, conn, p, hphase, hconn, -⟩ := connected_turn hp
    intro d' other dial heq
    obtain rfl := Option.some.inj (hphase.symm.trans heq)
    cases hconn
  | fails after error =>
    rw [← hmoment]
    exact (afterFailure_of_refused h hp error draw).turn hpolicy
  -- Stopped by its own limit, it counts as a failure. By the deadline, the exchange gives up.
  | stopped =>
    have hpast : bound ≤ t.now := hmoment ▸ Nat.le_max_right _ _
    cases stops with
    | limit =>
      rw [← hmoment]
      rw [step_expire_of_limit hp hpast draw]
      exact (afterFailure_of_refused h hp "connect timed out" draw).turn hpolicy
    | deadline =>
      left
      rw [step_expire hp rfl rfl hpast draw]
      intro d' other dial heq
      exact remains_ne_dialling purpose d' other dial
        ((phase?_giveUp h hp .gatewayTimeout).symm.trans heq)

/-- A pause is played to its end, where the next attempt is played if one follows. -/
theorem exists_plays_of_pause {ending : Nat} {inTime : Bool} (h : s.SlotAccount)
    (hpolicy : s.policy = .ofConfig c)
    (hp : s.phase? x = some (.dialling d purpose ⟨k, .pausing ending inTime⟩))
    (hnow : s.now ≤ ending)
    (hnext : ∀ t : Station, t.SlotAccount → t.policy = .ofConfig c → ∀ bound stops,
      t.phase? x = some (.dialling d purpose ⟨k + 1, .connecting bound stops⟩) →
        ∃ os, Plays x fate draws t os) : ∃ os, Plays x fate draws s os := by
  -- The play waits for the end of the pause.
  have hwait : (s.wait (ending - s.now)).SlotAccount := h.occur (.delay _)
  have hend : (s.wait (ending - s.now)).now = ending := Nat.add_sub_cancel' hnow
  suffices hrest : ∃ rest, Plays x fate draws
      ((s.wait (ending - s.now)).step (.expire x 0)).1 rest by
    obtain ⟨rest, hrest⟩ := hrest
    have hplay : Plays x fate draws s
        ([.delay (ending - s.now)] ++ .event (.expire x 0) :: rest) :=
      .pause 0 hp (by simp [Occurrence.about?]) hend hrest
    exact ⟨_, hplay⟩
  cases inTime with
  | true =>
    obtain ⟨bound, stops, hphase⟩ := phase?_of_pause (s := s.wait (ending - s.now)) hp hend.ge 0
    exact hnext _ (hwait.occur (.event _))
      ((occur_target (s.wait (ending - s.now)) (.event (.expire x 0))).2.trans hpolicy) _ _ hphase
  | false =>
    refine ⟨[], .left fun d' other dial heq => ?_⟩
    rw [step_expire (s := s.wait (ending - s.now)) hp rfl rfl hend.ge 0] at heq
    exact remains_ne_dialling purpose d' other dial
      ((phase?_giveUp (s := s.wait (ending - s.now)) hwait hp .gatewayTimeout).symm.trans heq)

/-- **Every making of a connection ends**, whatever becomes of its attempts. -/
theorem exists_plays (h : s.SlotAccount) (hpolicy : s.policy = .ofConfig c)
    (hp : s.phase? x = some (.dialling d purpose ⟨k, .connecting bound stops⟩))
    (fate : Nat → Fortune) (draws : Nat → Nat) : ∃ os, Plays x fate draws s os := by
  -- Each pause is followed by one of the attempts that are left.
  induction hn : attemptsOf c - k using Nat.strong_induction_on
    generalizing s k bound stops with
  -- An attempt first, as long as its fortune makes it.
  | _ n ih =>
    obtain ⟨length, e, hends⟩ := exists_ends (fate k) x bound s.now (draws k)
    have hwait : (s.wait length).SlotAccount := h.occur (.delay length)
    have hnext : ((s.wait length).step e).1.SlotAccount := hwait.occur (.event e)
    have hnow : ((s.wait length).step e).1.now = (s.wait length).now := now_step hends.about
    have hkept : ((s.wait length).step e).1.policy = .ofConfig c :=
      (occur_target (s.wait length) (.event e)).2.trans hpolicy
    suffices hrest : ∃ rest, Plays x fate draws ((s.wait length).step e).1 rest by
      obtain ⟨rest, hrest⟩ := hrest
      have hplay : Plays x fate draws s ([.delay length] ++ .event e :: rest) :=
        .attempt hp (by simp [Occurrence.about?]) hends hrest
      exact ⟨_, hplay⟩
    -- It may be the last one; otherwise the pause is played, with fewer attempts left.
    rcases attempt_turn hwait hpolicy hp hends with hover | ⟨ending, inTime, hmore, hahead, hpause⟩
    · exact ⟨[], .left hover⟩
    · exact exists_plays_of_pause hnext hkept hpause (hnow.le.trans hahead)
        fun t ht hpolicy bound stops hp =>
          ih (attemptsOf c - (k + 1)) (by omega) ht hpolicy hp rfl

/-! ## The making of a connection -/

/-- **A connection is made as its attempts go.** An exchange has just begun its first attempt to
connect; each attempt succeeds, fails or hangs as it likes, and the draws settle the random parts of
the pauses.

- The making of the connection ends, and every play shows what `Tries` says: the same end, at the
  same moment, with one result for each attempt. One connection is made if an attempt succeeds, and
  none otherwise.
- All attempts but the last have failed, and there are no more than the configuration allows, so
  that a word of 32 bits counts them.
- It breaks down only where the range of a delay exceeds the words of 64 bits. -/
theorem connecting_matches (c : Config) (target : Target) (past : List Occurrence) (x : Nat)
    (d : Deadline) (purpose : Purpose) (fate : Nat → Fortune) (draws : Nat → Nat)
    (hp : ((ofTarget target (.ofConfig c)).history past).1.phase? x = some (.dialling d purpose
      ⟨1, .connecting (d.cap ((ofTarget target (.ofConfig c)).history past).1.now
          c.timeouts.connectMs.toNat).1
        (d.cap ((ofTarget target (.ofConfig c)).history past).1.now
          c.timeouts.connectMs.toNat).2⟩)) :
    let s := ((ofTarget target (.ofConfig c)).history past).1
    (∃ os, Plays x fate draws s os) ∧
    (∀ os, Plays x fate draws s os → ∃ trial, Tries c d fate 1 s.now trial ∧
      Shows x purpose 1 s os trial ∧
      (s.history os).1.pool.created = s.pool.created + openings (s.otherEffects x os) +
        if trial.verdict = .connected then 1 else 0) ∧
    ∀ trial, Tries c d fate 1 s.now trial →
      (∃ failures last, trial.results = List.replicate failures .error ++ [last] ∧
        failures + 1 ≤ attemptsOf c ∧ attemptsOf c < 2 ^ 32 ∧
        (last = .ok ↔ trial.verdict = .connected) ∧
        (last = .timeout → trial.verdict = .timedOut)) ∧
      (trial.verdict = .brokenDown → ∃ k, k < attemptsOf c ∧ range? k
        c.retries.baseDelayMs.toNat c.retries.maxDelayMs.toNat = none) := by
  intro s
  obtain ⟨hs, hconnections⟩ := accounts_ofTarget target (.ofConfig c) past
  have hpolicy : s.policy = .ofConfig c := (history_target _ past).2
  refine ⟨exists_plays hs hpolicy hp fate draws, fun os hplays => ?_, fun trial htries => ⟨?_, ?_⟩⟩
  · -- Each play shows what a trial of the reference tells.
    obtain ⟨trial, htries, hshows⟩ :=
      (explained_of_plays hplays hs hpolicy).connecting d purpose 1 hp
    refine ⟨trial, htries, hshows, ?_⟩
    -- Every connection is counted, and it is one of the exchange's own or another's.
    have hcreated : (s.history os).1.pool.created = s.pool.created + openings (s.history os).2 :=
      (balanced_history hconnections hs os).1.created
    have hsplit : openings (s.ownEffects x os) + openings (s.otherEffects x os) =
        openings (s.history os).2 := countP_own_add_other _ s x os
    rw [← hshows.opened]
    omega
  · -- A trial is failures with a last result, at most as many as are allowed.
    obtain ⟨failures, last, hresults, hle, hok, htimeout⟩ :=
      htries.results_eq (Nat.le_max_left _ _)
    have hword : attemptsOf c < 2 ^ 32 :=
      Nat.max_lt.mpr ⟨by omega, c.retries.connectAttempts.toNat_lt⟩
    exact ⟨failures, last, hresults, by omega, hword, hok, htimeout⟩
  · -- It breaks down only with a delay that has no room.
    intro hverdict
    obtain ⟨k, -, hlt, hrange⟩ := htries.range?_of_brokenDown hverdict
    exact ⟨k, hlt, hrange⟩

/-- The first attempt is refused, and the second one succeeds. -/
theorem connecting_matches_second :
    let c : Config := { retries := { connectAttempts := 2 } }
    let past : List Occurrence := [.event (.request 0 9000), .event (.proceed 0)]
    let s := ((ofTarget sampleTarget (.ofConfig c)).history past).1
    let fate : Nat → Fortune := fun k => if k = 1 then .fails 10 "refused" else .connects 20
    let os : List Occurrence := [.delay 10, .event (.refused 0 "refused" 3), .delay 53,
      .event (.expire 0 0), .delay 20, .event (.connected 0)]
    ∃ trial, Tries c ⟨9000⟩ fate 1 s.now trial ∧ Shows 0 .lease 1 s os trial ∧
      trial.moment = 83 ∧ trial.results = [.error, .ok] := by
  intro c past s fate os
  obtain ⟨-, hmatches, -⟩ := connecting_matches c sampleTarget past 0 ⟨9000⟩ .lease fate
    (fun _ => 3) (by decide)
  -- The first attempt fails after ten milliseconds, and the second one connects after a pause.
  have hplays : Plays 0 fate (fun _ => 3) s os := by
    show Plays 0 fate (fun _ => 3) s ([.delay 10] ++ .event (.refused 0 "refused" 3) ::
      ([.delay 53] ++ .event (.expire 0 0) :: ([.delay 20] ++ .event (.connected 0) :: [])))
    let paused : Station := ((s.history [.delay 10]).1.step (.refused 0 "refused" 3)).1
    let again : Station := ((paused.history [.delay 53]).1.step (.expire 0 0)).1
    let done : Station := ((again.history [.delay 20]).1.step (.connected 0)).1
    have hfirst : s.phase? 0 = some (.dialling ⟨9000⟩ .lease ⟨1, .connecting 2000 .limit⟩) := by
      decide
    have hpause : paused.phase? 0 = some (.dialling ⟨9000⟩ .lease ⟨1, .pausing 63 true⟩) := by
      decide
    have hsecond : again.phase? 0 =
        some (.dialling ⟨9000⟩ .lease ⟨2, .connecting 2063 .limit⟩) := by
      decide
    have hdone : (done.phase? 0).any (·.isDialling) = false := by decide
    have hover : Plays 0 fate (fun _ => 3) done [] := .left fun d purpose dial heq => by
      rw [heq] at hdone
      cases hdone
    exact .attempt hfirst (by decide) (.fails 10 "refused" (.inr (by decide)))
      (.pause 0 hpause (by decide) (by decide)
        (.attempt hsecond (by decide) (.connects 20 (.inr (by decide))) hover))
  obtain ⟨trial, htries, hshows, -⟩ := hmatches os hplays
  refine ⟨trial, htries, hshows, ?_, ?_⟩
  · -- Ten, the pause of fifty-three, and twenty.
    rw [← hshows.moment]
    decide
  · rw [← hshows.results]
    decide

/-- Where the delays are as long as a word allows, the exchange breaks down after the first of two
attempts: there is no pause and no failure that it could tell of. -/
theorem connecting_breaks_down :
    let c : Config := { retries :=
      { connectAttempts := 2, baseDelayMs := 18446744073709551615,
        maxDelayMs := 18446744073709551615 } }
    let past : List Occurrence := [.event (.request 0 200), .event (.proceed 0)]
    let s := ((ofTarget sampleTarget (.ofConfig c)).history past).1
    let os : List Occurrence := [.event (.refused 0 "refused" 1)]
    s.phase? 0 = some (.dialling ⟨200⟩ .lease ⟨1, .connecting 200 .deadline⟩) ∧
      1 < attemptsOf c ∧ Plays 0 (fun _ => .fails 0 "refused") (fun _ => 1) s os ∧
      (s.history os).1.phase? 0 = none ∧
      (s.history os).2 = [.attempted .error, .freed 0, .overflowed 0] := by
  intro c past s os
  have hfirst : s.phase? 0 = some (.dialling ⟨200⟩ .lease ⟨1, .connecting 200 .deadline⟩) := by
    decide
  -- The delay is the greatest word, and the draw asks for one more.
  let done : Station := (s.step (.refused 0 "refused" 1)).1
  have hdone : done.phase? 0 = none := by decide
  have hover : Plays 0 (fun _ => .fails 0 "refused") (fun _ => 1) done [] :=
    .left fun d purpose dial heq => by cases hdone.symm.trans heq
  have hturn : Plays 0 (fun _ => .fails 0 "refused") (fun _ => 1) s
      ([] ++ .event (.refused 0 "refused" 1) :: []) :=
    .attempt hfirst (by simp) (.fails 0 "refused" (.inl rfl)) hover
  exact ⟨hfirst, by decide, hturn, hdone, by decide⟩

end Station

end ObliviousRelay.Gateway
