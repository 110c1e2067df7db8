import ObliviousRelay.Lifecycle.Service
import ObliviousRelay.Proofs.Lifecycle.Shutdown

/-!
# Whether the signal is heard

The server's wait ends just when somebody has triggered since it began to listen, in whatever order
the moves of all parties came, and however often the signal was sent. What was triggered before lies
before nobody: the line forgets it, and the watcher triggers only once.

- `Service.Steps` has one case for each kind of move, and `Service.GuestSteps` for each thing that a
  guest does.
- `Service.Kept` holds of every program: the line never closes, for the main part keeps its handle.
- `Service.Stands` counts the signals since the server began to listen; `Service.Stands.run`.
- `Service.signal_heard_iff`: which orders of moves the signal is heard in, and
  `Service.early_trigger_lost`, one in which it is not.
-/

namespace ObliviousRelay.Lifecycle

namespace Shutdown

variable {line : Shutdown} {id : String}

@[simp] theorem trigger_handles (line : Shutdown) : line.trigger.handles = line.handles := by
  rw [trigger]
  split <;> rfl

@[simp] theorem trigger_made (line : Shutdown) : line.trigger.made = line.made := by
  rw [trigger]
  split <;> rfl

end Shutdown

namespace Service

variable {s t : Service} {m : Move} {g : Guest} {line : Shutdown} {n : Nat} {ms rest : List Move}

/-! ## What a move does -/

/-- What a guest makes of the line, and what it needs for that. -/
inductive GuestSteps (s : Service) : Guest → Shutdown → Prop
  | clone {handle : Nat} (hhandle : handle ∈ s.line.handles) :
      GuestSteps s (.clone handle) s.line.clone.1
  | trigger {handle : Nat} (hhandle : handle ∈ s.line.handles) :
      GuestSteps s (.trigger handle) s.line.trigger
  | dropHandle {handle : Nat} (hhandle : handle ∈ s.line.handles) (hmain : mainHandle ≠ handle)
      (hwatcher : s.watcher.handle? ≠ some handle) :
      GuestSteps s (.dropHandle handle) (s.line.dropHandle handle)
  | subscribe {handle : Nat} {id : String} (hhandle : handle ∈ s.line.handles)
      (hne : server ≠ id) : GuestSteps s (.subscribe handle id) (s.line.subscribe id)
  | receive {id : String} {line : Shutdown} {r : Reading} (hne : server ≠ id)
      (hreceive : s.line.receive? id = some (line, r)) : GuestSteps s (.receive id) line
  | drop {id : String} (hne : server ≠ id) : GuestSteps s (.drop id) (s.line.drop id)

theorem guestSteps_of_guestStep? (h : s.guestStep? g = some line) : GuestSteps s g line := by
  cases g with
  | clone handle =>
    obtain ⟨hhandle, heq⟩ := Option.ite_none_right_eq_some.mp h
    exact Option.some.inj heq ▸ .clone (List.contains_iff_mem.mp hhandle)
  | trigger handle =>
    obtain ⟨hhandle, heq⟩ := Option.ite_none_right_eq_some.mp h
    exact Option.some.inj heq ▸ .trigger (List.contains_iff_mem.mp hhandle)
  | dropHandle handle =>
    obtain ⟨hmay, heq⟩ := Option.ite_none_right_eq_some.mp h
    -- The handle is none of the two that a guest may not drop.
    obtain ⟨hhandle, hmain, hwatcher⟩ : handle ∈ s.line.handles ∧ handle ≠ mainHandle ∧
        s.watcher.handle? ≠ some handle := by
      simpa [isTaken] using hmay
    exact Option.some.inj heq ▸ .dropHandle hhandle hmain.symm hwatcher
  | subscribe handle id =>
    obtain ⟨hmay, heq⟩ := Option.ite_none_right_eq_some.mp h
    obtain ⟨hhandle, hne⟩ : handle ∈ s.line.handles ∧ id ≠ server := by simpa using hmay
    exact Option.some.inj heq ▸ .subscribe hhandle hne.symm
  | receive id =>
    obtain ⟨hne, heq⟩ := Option.ite_none_right_eq_some.mp h
    obtain ⟨⟨next, r⟩, hreceive, rfl⟩ := Option.map_eq_some_iff.mp heq
    exact .receive hne.symm hreceive
  | drop id =>
    obtain ⟨hne, heq⟩ := Option.ite_none_right_eq_some.mp h
    exact Option.some.inj heq ▸ .drop hne.symm

/-- What the moves do, and what each of them needs. -/
inductive Steps (s : Service) : Move → Service → Prop
  | watch (hmain : s.main = .started) : Steps s .watch
      { s with line := s.line.clone.1, main := .watched, watcher := .waiting s.line.made }
  | subscribe (hmain : s.main = .watched) : Steps s .subscribe
      { s with line := s.line.subscribe server, main := .serving }
  | poll {t : Service} (hmain : s.main = .serving) (hpoll : s.poll = some t) : Steps s .poll t
  | wake {fault : Option String} {handle : Nat} (hwatcher : s.watcher = .waiting handle) :
      Steps s (.wake fault)
        { s with watcher := .awake handle, log := s.log ++ [wakeEntry fault] }
  | trigger {handle : Nat} (hwatcher : s.watcher = .awake handle) : Steps s .trigger
      { s with line := s.line.trigger.dropHandle handle, watcher := .done }
  | guest {g : Guest} {line : Shutdown} (hguest : GuestSteps s g line) :
      Steps s (.guest g) { s with line }

theorem steps_of_step? (h : s.step? m = some t) : Steps s m t := by
  rw [step?.eq_def] at h
  split at h
  · next hmain => cases h; exact .watch hmain
  · next hmain => cases h; exact .subscribe hmain
  · next hmain => exact .poll hmain h
  · next fault _ handle hwatcher => cases h; exact .wake hwatcher
  · next handle hwatcher => cases h; exact .trigger hwatcher
  · next g =>
    obtain ⟨line, hguest, rfl⟩ := Option.map_eq_some_iff.mp h
    exact .guest (guestSteps_of_guestStep? hguest)
  · cases h

theorem step?_poll (hmain : s.main = .serving) : s.step? .poll = s.poll := by
  rw [step?.eq_def, hmain]

/-- The server's look changes nothing but the line, or it ends the wait. -/
theorem poll_eq_some (h : s.poll = some t) : ∃ line reading,
    s.line.receive? server = some (line, reading) ∧
      (reading.wakes = true ∧ t = { s with line := line.drop server, main := .stopping reading,
                                           log := s.log ++ [.stopping] } ∨
        reading.wakes = false ∧ t = { s with line }) := by
  obtain ⟨⟨line, reading⟩, hreceive, rfl⟩ := Option.map_eq_some_iff.mp h
  refine ⟨line, reading, hreceive, ?_⟩
  cases hwakes : reading.wakes with
  | true => exact .inl ⟨rfl, by simp [hwakes]⟩
  | false => exact .inr ⟨rfl, by simp [hwakes]⟩

/-! ## The line never closes -/

/-- What holds whatever moves were made: the main part has its handle, the watcher another one, and
the watcher is not there before it was started. -/
structure Kept (s : Service) : Prop where
  main : mainHandle ∈ s.line.handles
  made : mainHandle < s.line.made
  watcher : ∀ handle, s.watcher.handle? = some handle → handle ≠ mainHandle
  started : s.main = .started → s.watcher = .absent

theorem kept_start : Kept {} where
  main := List.mem_cons_self
  made := Nat.zero_lt_one
  watcher := fun _ h => by cases h
  started := fun _ => rfl

theorem receive?_keeps {id : String} {r : Reading} (h : s.line.receive? id = some (line, r)) :
    line.handles = s.line.handles ∧ line.made = s.line.made := by
  obtain ⟨-, -, -, -, rfl⟩ := Shutdown.receive?_eq_some h
  exact ⟨rfl, rfl⟩

/-- A guest takes no handle away but its own. -/
theorem GuestSteps.keeps (h : GuestSteps s g line) (hmain : mainHandle ∈ s.line.handles) :
    mainHandle ∈ line.handles ∧ s.line.made ≤ line.made := by
  cases h with
  | clone => exact ⟨List.mem_append_left _ hmain, Nat.le_succ _⟩
  | trigger => simpa using hmain
  | dropHandle _ hne => exact ⟨List.mem_filter.mpr ⟨hmain, by simpa using hne⟩, Nat.le_refl _⟩
  | subscribe | drop => exact ⟨hmain, Nat.le_refl _⟩
  | receive _ hreceive =>
    obtain ⟨hhandles, hmade⟩ := receive?_keeps hreceive
    exact ⟨hhandles ▸ hmain, Nat.le_of_eq hmade.symm⟩

theorem Kept.steps (h : Kept s) (hsteps : Steps s m t) : Kept t := by
  cases hsteps with
  | watch hmain =>
    -- The new handle goes to the watcher, and the main part keeps its own, an older one.
    refine ⟨List.mem_append_left _ h.main, Nat.lt_succ_of_lt h.made, fun handle hhandle => ?_,
      nofun⟩
    obtain rfl := Option.some.inj hhandle
    exact Nat.ne_of_gt h.made
  | subscribe hmain => exact ⟨h.main, h.made, h.watcher, nofun⟩
  | poll hmain hpoll =>
    obtain ⟨line, reading, hreceive, hends⟩ := poll_eq_some hpoll
    obtain ⟨hhandles, hmade⟩ := receive?_keeps hreceive
    rcases hends with ⟨-, rfl⟩ | ⟨-, rfl⟩
    · exact ⟨hhandles ▸ h.main, hmade ▸ h.made, h.watcher, nofun⟩
    · exact ⟨hhandles ▸ h.main, hmade ▸ h.made, h.watcher, h.started⟩
  | wake hwatcher =>
    -- A watcher that waits was started, so the main part has left its start.
    refine ⟨h.main, h.made, fun other hother => h.watcher other ?_, fun hstarted => ?_⟩
    · rw [hwatcher]
      exact hother
    · cases (h.started hstarted).symm.trans hwatcher
  | @trigger handle hwatcher =>
    -- What the watcher gives up with its trigger is its own handle.
    have hne : mainHandle ≠ handle := (h.watcher handle (by rw [hwatcher]; rfl)).symm
    refine ⟨List.mem_filter.mpr ⟨by simpa using h.main, by simpa using hne⟩, ?_,
      nofun, fun hstarted => ?_⟩
    · exact (Shutdown.trigger_made s.line).symm ▸ h.made
    · cases (h.started hstarted).symm.trans hwatcher
  | guest hguest =>
    obtain ⟨hmain, hmade⟩ := hguest.keeps h.main
    exact ⟨hmain, Nat.lt_of_lt_of_le h.made hmade, h.watcher, h.started⟩

theorem run?_append (s : Service) (ms rest : List Move) :
    s.run? (ms ++ rest) = (s.run? ms).bind (·.run? rest) := by
  induction ms generalizing s with
  | nil => rfl
  | cons m ms ih =>
    rw [List.cons_append, run?, run?, Option.bind_assoc]
    exact congrArg _ (funext ih)

theorem run?_cons_eq_some (h : s.run? (m :: ms) = some t) :
    ∃ next, Steps s m next ∧ next.run? ms = some t := by
  obtain ⟨next, hstep, hrest⟩ := Option.bind_eq_some_iff.mp h
  exact ⟨next, steps_of_step? hstep, hrest⟩

theorem Kept.run (h : Kept s) (hrun : s.run? ms = some t) : Kept t := by
  induction ms generalizing s with
  | nil => exact Option.some.inj hrun ▸ h
  | cons m ms ih =>
    obtain ⟨next, hsteps, hrest⟩ := run?_cons_eq_some hrun
    exact ih (h.steps hsteps) hrest

/-! ## The watcher triggers once -/

/-- A watcher that is done stays so, and triggers no more: it is started only where none was. -/
theorem Kept.done (h : Kept s) (hdone : s.watcher = .done) (hsteps : Steps s m t) :
    m ≠ .trigger ∧ t.watcher = .done := by
  cases hsteps with
  -- Whoever starts the watcher finds none.
  | watch hmain => exact absurd (h.started hmain) (by simp [hdone])
  | subscribe | guest => exact ⟨nofun, hdone⟩
  | poll hmain hpoll =>
    obtain ⟨line, reading, -, ⟨-, rfl⟩ | ⟨-, rfl⟩⟩ := poll_eq_some hpoll <;> exact ⟨nofun, hdone⟩
  | wake hwatcher | trigger hwatcher => simp [hdone] at hwatcher

theorem Kept.not_mem_of_done (h : Kept s) (hdone : s.watcher = .done)
    (hrun : s.run? ms = some t) : Move.trigger ∉ ms := by
  induction ms generalizing s with
  | nil => exact List.not_mem_nil
  | cons m ms ih =>
    obtain ⟨next, hsteps, hrest⟩ := run?_cons_eq_some hrun
    obtain ⟨hne, hdone⟩ := h.done hdone hsteps
    exact List.not_mem_cons_of_ne_of_not_mem hne.symm (ih (h.steps hsteps) hdone hrest)

/-- The watcher triggers at most once. -/
theorem Kept.trigger_once (h : Kept s) (hrun : s.run? ms = some t) :
    ms.count .trigger ≤ 1 := by
  induction ms generalizing s with
  | nil => exact Nat.zero_le _
  | cons m ms ih =>
    obtain ⟨next, hsteps, hrest⟩ := run?_cons_eq_some hrun
    have hkept := h.steps hsteps
    cases hsteps with
    | trigger hwatcher =>
      -- The watcher is done now, so that the rest of the moves has no trigger of its own.
      have hnone := List.count_eq_zero.mpr (hkept.not_mem_of_done rfl hrest)
      exact Nat.le_of_eq (by rw [List.count_cons_self, hnone])
    | watch | subscribe | poll | wake | guest =>
      rw [List.count_cons_of_ne (by simp)]
      exact ih hkept hrest

/-! ## Counting from the beginning of the wait -/

/-- What a guest does adds a signal to those before the server just when it triggers. -/
theorem GuestSteps.unread (h : GuestSteps s g line) (hunread : s.line.Unread server n) :
    line.Unread server (n + if (Move.guest g).triggers then 1 else 0) := by
  cases h with
  | clone => exact hunread.clone
  | trigger => exact hunread.trigger
  | dropHandle => exact hunread.dropHandle
  | subscribe _ hne => exact hunread.subscribe hne
  | receive hne hreceive => exact hunread.receive hne hreceive
  | drop hne => exact hunread.drop hne

/-- Where the server stands when so many signals were sent since it began to listen: they all lie
before it, or it has heard of those that were sent until its wait was over. -/
inductive Stands (s : Service) (n : Nat) : Prop
  | serving (hmain : s.main = .serving) (hunread : s.line.Unread server n)
  | stopping {heard : Nat} (hmain : s.main = .stopping (.ofUnread heard)) (hpos : 0 < heard)
      (hle : heard ≤ n)

/-- The server's look tells it of all that lies before it. -/
theorem poll_of_unread (hkept : Kept s) (hunread : s.line.Unread server n) : ∃ t,
    s.poll = some t ∧ (n = 0 → t.main = s.main ∧ t.line.Unread server 0) ∧
      (0 < n → t.main = .stopping (.ofUnread n)) := by
  obtain ⟨line, hreceive, -, -, hempty⟩ := Shutdown.receive?_of_unread hunread hkept.main
  refine ⟨_, by rw [poll, hreceive]; rfl, ?_, fun hpos => ?_⟩
  · rintro rfl
    exact ⟨rfl, hempty rfl⟩
  · simp only [Reading.wakes_ofUnread.mpr hpos, if_pos]

theorem Stands.step (hkept : Kept s) (h : Stands s n) (hsteps : Steps s m t) :
    Stands t (n + if m.triggers then 1 else 0) := by
  cases h with
  | serving hmain hunread =>
    cases hsteps with
    | watch hstarted => simp [hmain] at hstarted
    | subscribe hwatched => simp [hmain] at hwatched
    | poll _ hpoll =>
      -- Either nothing lay before the server, or it hears of all that did.
      obtain ⟨t', ht, hzero, hpos⟩ := poll_of_unread hkept hunread
      obtain rfl := Option.some.inj (ht.symm.trans hpoll)
      rcases Nat.eq_zero_or_pos n with rfl | hn
      · exact .serving ((hzero rfl).1.trans hmain) (hzero rfl).2
      · exact .stopping (hpos hn) hn (Nat.le_refl n)
    | wake => exact .serving hmain hunread
    | trigger => exact .serving hmain hunread.trigger.dropHandle
    | guest hguest => exact .serving hmain (hguest.unread hunread)
  | stopping hmain hpos hle =>
    -- What is sent after the wait only adds to what the server has not heard.
    have hle' := Nat.le_add_right_of_le (k := if m.triggers then 1 else 0) hle
    cases hsteps with
    | watch hstarted => simp [hmain] at hstarted
    | subscribe hwatched => simp [hmain] at hwatched
    | poll hserving => simp [hmain] at hserving
    | wake | trigger | guest => exact .stopping hmain hpos hle'

theorem Stands.run (hkept : Kept s) (h : Stands s n) (hrun : s.run? ms = some t) :
    Stands t (n + ms.countP Move.triggers) := by
  -- The induction is on the moves; the number is generalized, since each move may add to it.
  induction ms generalizing s n with
  | nil => exact Option.some.inj hrun ▸ h
  | cons m ms ih =>
    obtain ⟨next, hsteps, hrest⟩ := run?_cons_eq_some hrun
    have hnext := ih (hkept.steps hsteps) (h.step hkept hsteps) hrest
    rwa [Nat.add_assoc, Nat.add_comm (ite _ _ _), ← List.countP_cons] at hnext

/-! ## Whether the signal is heard -/

/-- Whether the wait for the signal is over, or ends as soon as the server looks. -/
def isReady (s : Service) : Bool :=
  s.main.isStopping || (s.step? .poll).any (·.main.isStopping)

theorem Stands.isReady_iff (hkept : Kept s) (h : Stands s n) : s.isReady = true ↔ 0 < n := by
  cases h with
  -- While the server waits, its next look decides.
  | serving hmain hunread =>
    obtain ⟨t, ht, hzero, hpos⟩ := poll_of_unread hkept hunread
    rw [isReady, step?_poll hmain, ht, hmain]
    rcases Nat.eq_zero_or_pos n with rfl | hn
    · simp [(hzero rfl).1, hmain, Main.isStopping]
    · simp [hpos hn, hn, Main.isStopping]
  | stopping hmain hpos hle =>
    -- The wait is over, which only a signal does.
    simp [isReady, hmain, Main.isStopping, Nat.lt_of_lt_of_le hpos hle]

/-- Where a program stands that has begun to listen, told by the moves that came after. -/
theorem stands_of_run (hrun : run? {} (ms ++ .subscribe :: rest) = some s) :
    Kept s ∧ Stands s (rest.countP Move.triggers) := by
  rw [run?_append] at hrun
  obtain ⟨early, hearly, hlate⟩ := Option.bind_eq_some_iff.mp hrun
  obtain ⟨next, hsteps, hrest⟩ := run?_cons_eq_some hlate
  -- Whatever came before, the server begins with nothing before it.
  have hkept := (kept_start.run hearly).steps hsteps
  have hstands : Stands next 0 := by
    cases hsteps with
    | subscribe => exact .serving rfl (Shutdown.unread_subscribe _ _)
  exact ⟨hkept.run hrest, Nat.zero_add (rest.countP Move.triggers) ▸ hstands.run hkept hrest⟩

/-- **Whether the signal is heard.** In whatever order the moves of the main part, of the watcher
and of any guests come, once the server listens:

- its wait is over, or ends as soon as it looks, just when somebody has triggered since it began to
  listen, be it once or several times;
- while it waits, its next look ends the wait with all these signals, or leaves it waiting if there
  are none; and when its wait is over, it has heard one or more of them;
- the watcher triggers at most once, so that nothing makes up for its signal if it came before. -/
theorem signal_heard_iff (before after : List Move) (s : Service)
    (hrun : run? {} (before ++ .subscribe :: after) = some s) :
    (s.isReady = true ↔ 0 < after.countP Move.triggers) ∧
    ((s.main = .serving ∧ ∃ t, s.step? .poll = some t ∧
        t.main = if after.countP Move.triggers = 0 then .serving
          else .stopping (.ofUnread (after.countP Move.triggers))) ∨
      ∃ heard, s.main = .stopping (.ofUnread heard) ∧ 0 < heard ∧
        heard ≤ after.countP Move.triggers) ∧
    (before ++ .subscribe :: after).count .trigger ≤ 1 := by
  obtain ⟨hkept, hstands⟩ := stands_of_run hrun
  refine ⟨hstands.isReady_iff hkept, ?_, kept_start.trigger_once hrun⟩
  cases hstands with
  | serving hmain hunread =>
    obtain ⟨t, ht, hzero, hpos⟩ := poll_of_unread hkept hunread
    refine .inl ⟨hmain, t, (step?_poll hmain).trans ht, ?_⟩
    split
    · next hnone => exact (hzero hnone).1.trans hmain
    · next hsome => exact hpos (Nat.pos_of_ne_zero hsome)
  | stopping hmain hpos hle => exact .inr ⟨_, hmain, hpos, hle⟩

/-- A guest and then the watcher trigger while the server listens: it is told that it missed one. -/
theorem signal_heard_twice : ∃ s,
    run? {} ([.watch, .guest (.clone 0)] ++
      .subscribe :: [.poll, .guest (.trigger 2), .wake none, .trigger]) = some s ∧
    s.isReady = true ∧ (s.step? .poll).map (·.main) = some (.stopping (.lagged 1)) :=
  ⟨_, rfl, (signal_heard_iff [.watch, .guest (.clone 0)]
    [.poll, .guest (.trigger 2), .wake none, .trigger] _ rfl).1.mpr (by decide), rfl⟩

/-- A trigger after the watcher was started is not always heard: between this and the beginning of
the server's wait nobody listens, and the signal is lost. -/
theorem early_trigger_lost :
    ¬ ∀ (before after : List Move) (s : Service),
      run? {} (before ++ .watch :: after) = some s → .subscribe ∈ after →
      0 < after.countP Move.triggers → s.isReady = true :=
  fun h =>
    absurd (h [] [.wake none, .trigger, .subscribe] _ rfl (by decide) (by decide)) (by decide)

end Service

end ObliviousRelay.Lifecycle
