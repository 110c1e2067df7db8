import ObliviousRelay.Gateway.Client
import ObliviousRelay.Proofs.Gateway.History

/-!
# Histories of a client

What happens to the stations of all gateways, looked up by name. Each station lives a history of its
own, which is what happens there and the passing of time; nothing else reaches it.

- `station?_step_self` and `station?_step_of_ne`: an event at one station leaves the others alone.
- `Client.occur` is the effect of one occurrence, `Client.history` of several.
- `station?_history`: a station after a history of the client is what its own part of the history
  makes of it.
-/

namespace ObliviousRelay.Gateway

/-- Something that happens at one station, or time that passes at all of them. A delay passes
although somebody is due. -/
inductive ClientOccurrence where
  | event (gateway : String) (e : Event)
  | elapse (duration : Nat)
  | delay (duration : Nat)
  deriving DecidableEq

/-- What an occurrence is to the station of one gateway. -/
def ClientOccurrence.at? (g : String) : ClientOccurrence → Option Occurrence
  | .event g' e => if g' = g then some (.event e) else none
  | .elapse duration => some (.event (.elapse duration))
  | .delay duration => some (.delay duration)

namespace Client

variable {c : Client} {g g' : String} {s : Station} {e : Event}

/-! ## Stations by name -/

/-- A station that is found by a name has it. -/
theorem station?_name (h : c.station? g = some s) : s.target.name = g := by
  simpa using List.find?_some h

/-- To put a station in its place changes the station of its name only. -/
theorem station?_update (c : Client) (t : Station) (g : String) :
    (c.update t).station? g = (c.station? g).map fun s => if g = t.target.name then t else s := by
  -- Whichever station is looked for, the others are passed by as before.
  have hname : (fun s : Station => decide (s.target.name = g)) ∘
      (fun old => if old.target.name = t.target.name then t else old) =
        fun s => decide (s.target.name = g) := by
    funext old
    by_cases h : old.target.name = t.target.name <;> simp [h]
  simp only [station?, update, List.find?_map, hname]
  cases hfind : c.stations.find? (·.target.name = g) with
  | none => rfl
  | some s =>
    have hs : s.target.name = g := by simpa using List.find?_some hfind
    simp [hs]

/-- Nothing happens at a gateway without a station. -/
theorem step_of_none (h : c.station? g = none) : c.step g e = (c, []) := by
  rw [step, h]

/-- What is told of a step at a gateway is what its station tells. -/
theorem effects_step (h : c.station? g = some s) : (c.step g e).2 = (s.step e).2 := by
  rw [step, h]

/-- A step at a gateway is one of its station. -/
theorem station?_step_self (h : c.station? g = some s) :
    (c.step g e).1.station? g = some (s.step e).1 := by
  have htarget : (s.step e).1.target.name = g := by
    rw [(Station.step_transition s e).target.1, station?_name h]
  simp [step, h, station?_update, htarget]

/-- An event at one station leaves the others alone. -/
theorem station?_step_of_ne (h : g' ≠ g) : (c.step g e).1.station? g' = c.station? g' := by
  cases hs : c.station? g with
  | none => rw [step_of_none hs]
  | some s =>
    have htarget : (s.step e).1.target.name = g := by
      rw [(Station.step_transition s e).target.1, station?_name hs]
    simp [step, hs, station?_update, htarget, h]

/-- A station is found just for the names that are listed. -/
theorem isSome_station?_iff : (c.station? g).isSome ↔ g ∈ c.stations.map (·.target.name) := by
  simp [station?]

/-- The stations keep their names. -/
theorem names_step (c : Client) (g : String) (e : Event) :
    (c.step g e).1.stations.map (·.target.name) = c.stations.map (·.target.name) := by
  cases hs : c.station? g with
  | none => rw [step_of_none hs]
  | some s =>
    simp only [step, hs, update, List.map_map]
    refine List.map_congr_left fun old _ => ?_
    by_cases h : old.target.name = (s.step e).1.target.name
    · rw [Function.comp_apply, if_pos h, h]
    · rw [Function.comp_apply, if_neg h]

/-- The clock passes at each station alike. -/
theorem station?_elapse (c : Client) (duration : Nat) (g : String) :
    (c.elapse duration).station? g =
      (c.station? g).map fun s => (s.step (.elapse duration)).1 := by
  have hname : (fun s : Station => decide (s.target.name = g)) ∘
      (fun s : Station => (s.step (.elapse duration)).1) =
        fun s => decide (s.target.name = g) := by
    funext s
    simp [(Station.step_transition s (.elapse duration)).target.1]
  simp only [station?, elapse, List.find?_map, hname]

/-- Lets time pass at every station, whoever is due. -/
def wait (c : Client) (duration : Nat) : Client := ⟨c.stations.map (·.wait duration)⟩

/-- So does a delay. -/
theorem station?_wait (c : Client) (duration : Nat) (g : String) :
    (c.wait duration).station? g = (c.station? g).map (·.wait duration) := by
  have hname : (fun s : Station => decide (s.target.name = g)) ∘
      (fun s : Station => s.wait duration) = fun s => decide (s.target.name = g) := rfl
  simp only [station?, wait, List.find?_map, hname]

/-! ## Histories -/

/-- A client and what led to it brought about, each effect with the gateway that it is about. -/
abbrev Outcome := Client × List (String × Effect)

/-- The effect of one occurrence. -/
def occur (c : Client) : ClientOccurrence → Outcome
  | .event g e => ((c.step g e).1, (c.step g e).2.map (g, ·))
  | .elapse duration => (c.elapse duration, [])
  | .delay duration => (c.wait duration, [])

/-- The effect of several occurrences. -/
def history (c : Client) : List ClientOccurrence → Outcome
  | [] => (c, [])
  | o :: rest => (((c.occur o).1.history rest).1, (c.occur o).2 ++ ((c.occur o).1.history rest).2)

/-- A history is its first occurrence and the rest. -/
theorem history_cons (c : Client) (o : ClientOccurrence) (rest : List ClientOccurrence) :
    c.history (o :: rest) =
      (((c.occur o).1.history rest).1, (c.occur o).2 ++ ((c.occur o).1.history rest).2) := rfl

/-- A history may be cut in two anywhere. -/
theorem history_append (c : Client) (past future : List ClientOccurrence) :
    c.history (past ++ future) = (((c.history past).1.history future).1,
      (c.history past).2 ++ ((c.history past).1.history future).2) := by
  induction past generalizing c with
  | nil => rfl
  | cons o rest ih => rw [List.cons_append, history_cons, ih, history_cons, List.append_assoc]

/-! ## One station of a history -/

/-- What is brought about at one station. -/
def effectsAt (g : String) (effects : List (String × Effect)) : List Effect :=
  (effects.filter (·.1 = g)).map (·.2)

/-- What happens to one station in the course of some occurrences. -/
def partOf (g : String) (os : List ClientOccurrence) : List Occurrence := os.filterMap (·.at? g)

/-- The part of a gateway in two histories, one after the other. -/
theorem partOf_append (g : String) (before after : List ClientOccurrence) :
    partOf g (before ++ after) = partOf g before ++ partOf g after :=
  List.filterMap_append

/-- The effects at a gateway of two histories, one after the other. -/
theorem effectsAt_append (g : String) (effects more : List (String × Effect)) :
    effectsAt g (effects ++ more) = effectsAt g effects ++ effectsAt g more := by
  rw [effectsAt, List.filter_append, List.map_append, effectsAt, effectsAt]

/-- All effects of a gateway are at it. -/
theorem effectsAt_self (g : String) (fs : List Effect) : effectsAt g (fs.map (g, ·)) = fs := by
  simp [effectsAt, List.filter_map, Function.comp_def]

/-- None of another gateway's are. -/
theorem effectsAt_of_ne (h : g' ≠ g) (fs : List Effect) : effectsAt g (fs.map (g', ·)) = [] := by
  simp [effectsAt, List.filter_map, Function.comp_def, h]

/-- An occurrence is to a station what it is to that station by itself. -/
theorem station?_occur (hs : c.station? g = some s) (o : ClientOccurrence) :
    (c.occur o).1.station? g = some (s.history (o.at? g).toList).1 ∧
      effectsAt g (c.occur o).2 = (s.history (o.at? g).toList).2 := by
  cases o with
  | event g' e =>
    by_cases hg : g' = g
    · -- An event at this gateway is one of its station.
      subst hg
      rw [ClientOccurrence.at?, if_pos rfl]
      refine ⟨station?_step_self hs, ?_⟩
      rw [occur, effectsAt_self, effects_step hs]
      exact (List.append_nil _).symm
    · -- An event at another gateway passes this station by.
      rw [ClientOccurrence.at?, if_neg hg]
      exact ⟨(station?_step_of_ne (Ne.symm hg)).trans hs, effectsAt_of_ne hg _⟩
  | elapse duration =>
    refine ⟨?_, ?_⟩
    -- The clock: the station itself is quiet about it.
    · rw [occur, station?_elapse, hs]
      rfl
    · have hquiet : (s.step (.elapse duration)).2 = [] := by
        simp only [Station.step]
        split <;> rfl
      show [] = (s.step (.elapse duration)).2 ++ []
      rw [hquiet, List.append_nil]
  | delay duration =>
    refine ⟨?_, rfl⟩
    rw [occur, station?_wait, hs]
    rfl

/-- **Each station lives a history of its own.** -/
theorem station?_history (hs : c.station? g = some s) (os : List ClientOccurrence) :
    (c.history os).1.station? g = some (s.history (partOf g os)).1 ∧
      effectsAt g (c.history os).2 = (s.history (partOf g os)).2 := by
  induction os generalizing c s with
  | nil => exact ⟨hs, rfl⟩
  | cons o rest ih =>
    obtain ⟨hstation, heffects⟩ := station?_occur hs o
    obtain ⟨hlater, hmore⟩ := ih hstation
    have hpart : partOf g (o :: rest) = (o.at? g).toList ++ partOf g rest := by
      cases h : o.at? g <;> simp [partOf, h]
    rw [hpart, Station.history_append, history_cons, effectsAt_append, heffects, hmore]
    exact ⟨hlater, rfl⟩

/-- A gateway without a station gets none, and nothing is brought about there. -/
theorem station?_history_of_none (hnone : c.station? g = none) (os : List ClientOccurrence) :
    (c.history os).1.station? g = none ∧ effectsAt g (c.history os).2 = [] := by
  induction os generalizing c with
  | nil => exact ⟨hnone, rfl⟩
  | cons o rest ih =>
    have hoccur : (c.occur o).1.station? g = none ∧ effectsAt g (c.occur o).2 = [] := by
      cases o with
      -- An event of this gateway, which has no station, or of another one.
      | event g' e =>
        by_cases hg : g' = g
        · subst hg
          rw [occur, step_of_none hnone]
          exact ⟨hnone, rfl⟩
        · exact ⟨(station?_step_of_ne (Ne.symm hg)).trans hnone, effectsAt_of_ne hg _⟩
      | elapse duration => exact ⟨by rw [occur, station?_elapse, hnone]; rfl, rfl⟩
      | delay duration => exact ⟨by rw [occur, station?_wait, hnone]; rfl, rfl⟩
    obtain ⟨hlater, hmore⟩ := ih hoccur.1
    rw [history_cons, effectsAt_append, hoccur.2, hmore]
    exact ⟨hlater, rfl⟩

end Client

end ObliviousRelay.Gateway
