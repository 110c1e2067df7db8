import Mathlib.Data.List.Count
import ObliviousRelay.Proofs.Net.Binding

/-!
# Listeners that come and go

Whatever listeners are bound and dropped, a bind touches the one place that its path speaks of, and
there nothing but a socket. Whether somebody listens on that socket is not looked at.

- `Host.history` is a machine after some binds and drops.
- `Host.Spares` is what every bind leaves alone; `Host.bind_spares`.
- `Host.Sound`: the live listeners have their sockets, and each a place of its own. It is kept as
  long as no bind asks for a place that is served (`Host.IsConsiderate`).
- `Host.bind_replaces_sockets_only` puts both together and tells the binds that break the peace;
  `Host.served_socket_unlinked` is one.
-/

namespace ObliviousRelay.Net.Host

variable {h : Host} {id path : String} {c : Config.Listener} {p q : Place} {e : Entry}
  {l : Listener}

/-! ## Binds and drops -/

/-- Something done with a listener. -/
inductive Action where
  | bind (id : String) (c : Config.Listener)
  | drop (id : String)
  deriving DecidableEq

/-- A machine after one action. -/
def act (h : Host) : Action → Host
  | .bind id c => (h.bind id c).1
  | .drop id => h.drop id

/-- A machine after some actions. -/
def history (h : Host) (actions : List Action) : Host := actions.foldl act h

/-! ## What a bind leaves alone -/

/-- A bind asks for a place: the path of its Unix socket speaks of it. -/
def AsksFor (h : Host) (c : Config.Listener) (p : Place) : Prop :=
  ∃ path, c.unixSocket = some path ∧ h.tree.place path = .ok p

theorem bind_find?_of_not_asksFor (hq : ¬ h.AsksFor c q) :
    (h.bind id c).1.tree.find? q = h.tree.find? q := by
  cases hpath : c.unixSocket with
  -- A listener on an address touches no files.
  | none => rw [bind_tcp_tree hpath]
  | some path =>
    have hne : h.tree.place path ≠ .ok q := fun hplace => hq ⟨path, hpath, hplace⟩
    -- From here on a bind is what `Binding` says of it, and its definition stays closed.
    have hbinding := binding h id hpath
    generalize h.bind id c = outcome at hbinding ⊢
    cases hbinding with
    | refused hcleared => exact hcleared.find?_of_ne hne
    | outside => rfl
    | @made u p hcleared hplace hfree =>
      -- The socket is made at the place that the path speaks of, and that is another one.
      have hqp : q ≠ p := fun heq => hne (heq ▸ hplace)
      exact (FileTree.find?_insert hfree).trans
        ((if_neg hqp).trans (hcleared.find?_of_ne hne))

/-- **What is not a socket stays**, and nothing but sockets is made. -/
theorem bind_find?_eq_some_iff (he : e ≠ .socket) :
    (h.bind id c).1.tree.find? q = some e ↔ h.tree.find? q = some e := by
  cases hpath : c.unixSocket with
  | none => rw [bind_tcp_tree hpath]
  | some path =>
    have hbinding := binding h id hpath
    generalize h.bind id c = outcome at hbinding ⊢
    cases hbinding with
    | refused hcleared => exact hcleared.find?_eq_some_iff he
    | outside => rfl
    | @made u p hcleared hplace hfree =>
      rw [← hcleared.find?_eq_some_iff he]
      show (u.insert p .socket).find? q = some e ↔ _
      rw [FileTree.find?_insert hfree]
      -- Where the socket is made there was no file and no directory before.
      by_cases hq : q = p
      · rw [if_pos hq, hq, hfree]
        simp [he.symm]
      · rw [if_neg hq]

/-- A bind where something else than a socket stands is refused, and changes nothing. -/
theorem bind_of_occupied (hpath : c.unixSocket = some path) (hinside : ¬ IsOutside path)
    (hplace : h.tree.place path = .ok p) (hp : h.tree.find? p = some e) (he : e ≠ .socket) :
    ∃ fault, h.bind id c = (h, .error (.bind fault)) := by
  have hbinding := binding h id hpath
  -- The path speaks of one place, and what stands there is no socket: nothing was cleared.
  have hkept {u : FileTree} (hcleared : Cleared h.tree path u) : u = h.tree := by
    cases hcleared with
    | kept => rfl
    | removed hsocket hother hsocketAt =>
      rw [hplace, Except.ok.injEq] at hother
      rw [← hother, hp, Option.some.injEq] at hsocketAt
      exact absurd hsocketAt he
  generalize h.bind id c = outcome at hbinding ⊢
  cases hbinding with
  | @refused u fault hcleared =>
    rw [hkept hcleared]
    exact ⟨fault, rfl⟩
  | outside houtside => exact absurd houtside hinside
  | made hcleared hother hfree =>
    rw [hplace, Except.ok.injEq] at hother
    rw [hkept hcleared, ← hother, hp] at hfree
    cases hfree

/-- A bind unlinks a place: its path speaks of an entry there, and clearing the path away takes this
entry off. -/
def Unlinks (h : Host) (c : Config.Listener) (p : Place) : Prop :=
  ∃ path, c.unixSocket = some path ∧ h.tree.find? p ≠ none ∧
    (clearSocket h.tree path).find? p = none

/-- **What is unlinked is a socket that the path speaks of**, and every such socket is. -/
theorem unlinks_iff : h.Unlinks c p ↔ ∃ path, c.unixSocket = some path ∧
    h.tree.lookup? path = some .socket ∧ h.tree.place path = .ok p := by
  refine exists_congr fun path => and_congr_right fun _ => ?_
  constructor
  · rintro ⟨hthere, hgone⟩
    have hcleared := cleared h.tree path
    generalize clearSocket h.tree path = u at hcleared hgone
    cases hcleared with
    -- Nothing was cleared, so nothing is gone.
    | kept => exact absurd hgone hthere
    | @removed r hsocket hplace hr =>
      -- One place was erased, and it is the only one where something can be gone.
      rw [FileTree.find?_erase (FileTree.ne_nil_of_socket hr)] at hgone
      split at hgone
      · next heq => exact ⟨hsocket, heq ▸ hplace⟩
      · exact absurd hgone hthere
  · rintro ⟨hsocket, hplace⟩
    have hp := FileTree.find?_of_socket hsocket hplace
    rw [clearSocket_of_socket hsocket hplace,
      FileTree.find?_erase (FileTree.ne_nil_of_socket hp), if_pos rfl, hp]
    exact ⟨Option.some_ne_none _, rfl⟩

/-- What a bind leaves alone: every place but the one that it asks for, and there everything but a
socket, in which case it is refused and nothing at all has changed. -/
structure Spares (h : Host) (id : String) (c : Config.Listener) : Prop where
  others : ∀ q, ¬ h.AsksFor c q → (h.bind id c).1.tree.find? q = h.tree.find? q
  occupied : ∀ path p e, c.unixSocket = some path → ¬ IsOutside path → h.tree.place path = .ok p →
    h.tree.find? p = some e → e ≠ .socket → ∃ fault, h.bind id c = (h, .error (.bind fault))
  unlinked : ∀ p, h.Unlinks c p → h.AsksFor c p ∧ h.tree.find? p = some .socket

theorem bind_spares (h : Host) (id : String) (c : Config.Listener) : h.Spares id c := by
  refine ⟨fun q => bind_find?_of_not_asksFor, fun path p e hpath hinside hplace hp he =>
    bind_of_occupied hpath hinside hplace hp he, fun p hunlinks => ?_⟩
  obtain ⟨path, hpath, hsocket, hplace⟩ := unlinks_iff.mp hunlinks
  exact ⟨⟨path, hpath, hplace⟩, FileTree.find?_of_socket hsocket hplace⟩

/-- Through all binds and drops, what is not a socket stays where it is, and nothing but sockets
comes. -/
theorem history_find?_eq_some_iff (actions : List Action) (he : e ≠ .socket) :
    (h.history actions).tree.find? q = some e ↔ h.tree.find? q = some e := by
  induction actions generalizing h with
  | nil => rfl
  | cons action rest ih =>
    refine (ih (h := h.act action)).trans ?_
    cases action with
    | bind id c => exact bind_find?_eq_some_iff he
    | drop id => rfl

/-! ## Who is served -/

/-- The places of the sockets on which a listener is alive, one for each of them. -/
def served (h : Host) : List Place := h.listeners.filterMap (·.2.place?)

theorem served_keep : (h.keep id l).served = l.place?.toList ++ (h.drop id).served := by
  rw [served, keep, List.filterMap_cons, served]
  cases l.place? <;> rfl

theorem served_drop_sublist (h : Host) (id : String) : (h.drop id).served.Sublist h.served :=
  List.filter_sublist.filterMap _

/-- Every live listener has its socket, and no two have the same place. -/
structure Sound (h : Host) : Prop where
  apart : h.served.Nodup
  backed : ∀ p ∈ h.served, h.tree.find? p = some .socket

/-- A machine without listeners. -/
theorem sound_of_no_listeners (hnone : h.listeners = []) : h.Sound := by
  constructor <;> simp [served, hnone]

theorem Sound.drop (hsound : h.Sound) : (h.drop id).Sound where
  apart := hsound.apart.sublist (served_drop_sublist h id)
  backed := fun p hp => hsound.backed p ((served_drop_sublist h id).subset hp)

/-- What is served is not cleared away by a bind that asks for other places. -/
theorem Sound.cleared (hsound : h.Sound) (hno : ∀ p ∈ h.served, ¬ h.AsksFor c p)
    (hpath : c.unixSocket = some path) {u : FileTree} (hcleared : Cleared h.tree path u) :
    ∀ p ∈ h.served, u.find? p = some .socket := by
  intro p hp
  rw [hcleared.find?_of_ne fun hplace => hno p hp ⟨path, hpath, hplace⟩]
  exact hsound.backed p hp

/-- A listener outside the file tree makes no difference to who is served. -/
theorem Sound.keep_outside (hsound : h.Sound) (hl : l.place? = none) : (h.keep id l).Sound := by
  have hserved : (h.keep id l).served = (h.drop id).served := by rw [served_keep, hl]; rfl
  exact ⟨hserved ▸ hsound.drop.apart, hserved ▸ hsound.drop.backed⟩

/-- **A bind that asks for no place that is served keeps the peace.** -/
theorem Sound.bind (hsound : h.Sound) (hno : ∀ p ∈ h.served, ¬ h.AsksFor c p) :
    (h.bind id c).1.Sound := by
  cases hpath : c.unixSocket with
  | none =>
    rcases bind_tcp id hpath with heq | ⟨l, hl, heq⟩ <;> rw [heq]
    · -- The address was refused, and the host is as it was.
      exact hsound
    · exact hsound.keep_outside hl
  | some path =>
    have hbinding := binding h id hpath
    generalize h.bind id c = outcome at hbinding ⊢
    cases hbinding with
    -- The old listeners stand as they did, over a tree in which none of their sockets was cleared.
    | refused hcleared => exact ⟨hsound.apart, hsound.cleared hno hpath hcleared⟩
    | outside houtside hl => exact hsound.keep_outside hl
    | @made u p hcleared hplace hfree =>
      have hbacked := hsound.cleared hno hpath hcleared
      -- No listener serves the place yet: this bind would have asked for it.
      have hfresh : p ∉ (h.drop id).served := fun hp =>
        hno p ((served_drop_sublist h id).subset hp) ⟨path, hpath, hplace⟩
      -- The new listener stands in front of those that were not replaced.
      have hserved :
          (({ h with tree := u.insert p .socket } : Host).keep id (.unix path p)).served =
            p :: (h.drop id).served := served_keep
      refine ⟨?_, fun q hq => ?_⟩
      -- Every listener has a place of its own still.
      · rw [hserved]
        exact List.nodup_cons.mpr ⟨hfresh, hsound.drop.apart⟩
      -- Every place still has its socket.
      · rw [hserved] at hq
        refine (FileTree.find?_insert hfree).trans ?_
        rcases List.mem_cons.mp hq with rfl | hq
        · exact if_pos rfl
        · have hne : q ≠ p := fun heq => hfresh (heq ▸ hq)
          rw [if_neg hne]
          exact hbacked q ((served_drop_sublist h id).subset hq)

/-- No bind among the actions asks for a place that is served at its time. -/
def IsConsiderate (h : Host) : List Action → Prop
  | [] => True
  | action :: rest =>
    (∀ id c, action = .bind id c → ∀ p ∈ h.served, ¬ h.AsksFor c p) ∧
      (h.act action).IsConsiderate rest

theorem Sound.history {actions : List Action} (hsound : h.Sound)
    (hconsiderate : h.IsConsiderate actions) : (h.history actions).Sound := by
  induction actions generalizing h with
  | nil => exact hsound
  | cons action rest ih =>
    obtain ⟨hno, hrest⟩ := hconsiderate
    refine ih ?_ hrest
    cases action with
    | bind id c => exact hsound.bind (hno id c rfl)
    | drop id => exact hsound.drop

/-- A listener that was bound keeps its place where others are dropped. -/
theorem mem_served_of_bind {other : String} (hpath : c.unixSocket = some path)
    (hbound : (h.bind id c).2 = .ok (.unix path p)) (hne : id ≠ other) :
    p ∈ ((h.bind id c).1.drop other).served := by
  have hbinding := binding h id hpath
  generalize h.bind id c = outcome at hbinding hbound ⊢
  cases hbinding with
  | refused => cases hbound
  | outside _ hl =>
    obtain rfl := Except.ok.inj hbound
    cases hl
  | @made u q =>
    obtain rfl : q = p := by simpa using hbound
    simp [served, drop, keep, hne, Listener.place?]

/-- A bind at a place where another listens: its socket is unlinked, and both listeners are alive at
one place. -/
theorem served_twice_of_asksFor (hsound : h.Sound) (hpath : c.unixSocket = some path)
    (hfits : FitsAddress path) (hplace : h.tree.place path = .ok p)
    (hserved : p ∈ (h.drop id).served) :
    h.Unlinks c p ∧ (h.bind id c).2 = .ok (.unix path p) ∧ 2 ≤ (h.bind id c).1.served.count p := by
  have hsocket := hsound.drop.backed p hserved
  have hok := bind_of_free id hpath hfits hplace (.inr hsocket)
  refine ⟨unlinks_iff.mpr ⟨path, hpath, FileTree.lookup?_eq_socket_iff.mpr
    ⟨hfits.isPath, hfits.noSlash, p, hplace, hsocket⟩, hplace⟩, hok, ?_⟩
  have hbinding := binding h id hpath
  generalize h.bind id c = outcome at hbinding hok ⊢
  cases hbinding with
  -- Such a bind is not refused.
  | refused => cases hok
  -- A path that fits the address of a socket is a path of the tree.
  | outside houtside hl =>
    have hpath' := hfits.isPath
    rw [not_isPath_of_isOutside houtside] at hpath'
    cases hpath'
  | @made u q hcleared hplace' hfree =>
    rw [hplace, Except.ok.injEq] at hplace'
    subst hplace'
    -- The new listener and the one that was served before stand at one place.
    have hserved' : (({ h with tree := u.insert p .socket } : Host).keep id (.unix path p)).served =
        p :: (h.drop id).served := served_keep
    rw [hserved', List.count_cons_self]
    exact Nat.succ_le_succ (List.count_pos_iff.mpr hserved)

/-- **Sockets that are bound.** After any binds and drops:

- A bind changes no place but the one that its path speaks of. Something else than a socket there
  stays, and the bind is refused and changes nothing (`Spares`); so all that is not a socket stays.
- A bind unlinks the socket that its path speaks of, and never anything else.
- As long as no bind asks for a place where somebody listens, every live listener keeps its socket
  and has a place of its own.
- A bind that does ask for such a place unlinks the socket there, and two listeners have one
  place. -/
theorem bind_replaces_sockets_only (h : Host) (actions : List Action) :
    (∀ id c, (h.history actions).Spares id c) ∧
    (∀ q e, e ≠ .socket → ((h.history actions).tree.find? q = some e ↔ h.tree.find? q = some e)) ∧
    (∀ c p, (h.history actions).Unlinks c p ↔ ∃ path, c.unixSocket = some path ∧
      (h.history actions).tree.lookup? path = some .socket ∧
      (h.history actions).tree.place path = .ok p) ∧
    (h.Sound → h.IsConsiderate actions → (h.history actions).Sound) ∧
    ((h.history actions).Sound → ∀ id c path p, c.unixSocket = some path → FitsAddress path →
      (h.history actions).tree.place path = .ok p → p ∈ ((h.history actions).drop id).served →
      (h.history actions).Unlinks c p ∧
        ((h.history actions).bind id c).2 = .ok (.unix path p) ∧
        2 ≤ ((h.history actions).bind id c).1.served.count p) :=
  ⟨bind_spares _, fun _ _ he => history_find?_eq_some_iff actions he, fun _ _ => unlinks_iff,
    Sound.history, fun hsound _ _ _ _ hpath hfits hplace hserved =>
      served_twice_of_asksFor hsound hpath hfits hplace hserved⟩

theorem fitsAddress_sample : FitsAddress "/s" :=
  ⟨by decide +kernel, by decide +kernel, by decide +kernel⟩

theorem place_sample (t : FileTree) : t.place "/s" = .ok ["s"] :=
  FileTree.place_of_name t (by decide +kernel) (by decide) (by decide)

/-- The first listener on a machine keeps its place while there is no other of its name. -/
theorem mem_served_sample : ["s"] ∈
    ((({} : Host).bind "first" { unixSocket := some "/s" }).1.drop "second").served :=
  mem_served_of_bind rfl (bind_of_free _ rfl fitsAddress_sample (place_sample _) (.inl rfl))
    (by decide)

/-- One listener is bound where no other is alive, and all is well. A second one is then bound to
the same path. -/
theorem bind_replaces_sockets_only_twice :
    let h := ({} : Host).history [.bind "first" { unixSocket := some "/s" }]
    h.Sound ∧ h.Unlinks { unixSocket := some "/s" } ["s"] ∧
      2 ≤ (h.bind "second" { unixSocket := some "/s" }).1.served.count ["s"] := by
  intro h
  obtain ⟨-, -, -, hkept, hbroken⟩ :=
    bind_replaces_sockets_only {} [.bind "first" { unixSocket := some "/s" }]
  have hsound : h.Sound :=
    hkept (sound_of_no_listeners rfl) ⟨fun _ _ _ _ hp => absurd hp List.not_mem_nil, trivial⟩
  obtain ⟨hunlinks, -, htwice⟩ := hbroken hsound "second" { unixSocket := some "/s" } "/s" ["s"] rfl
    fitsAddress_sample (place_sample _) mem_served_sample
  exact ⟨hsound, hunlinks, htwice⟩

/-- Two listeners that are bound to one path, one after the other: the second unlinks the socket of
the first, and both are alive. -/
theorem served_socket_unlinked :
    ¬ ∀ (h : Host) (actions : List Action), h.Sound →
      (∀ c, ∀ p ∈ (h.history actions).served, ¬ (h.history actions).Unlinks c p) ∧
        (h.history actions).served.Nodup := by
  intro hclaim
  have hnone : ({} : Host).Sound := sound_of_no_listeners rfl
  have hfirst : (({} : Host).bind "first" { unixSocket := some "/s" }).1.Sound :=
    hnone.bind fun _ hp => absurd hp List.not_mem_nil
  obtain ⟨-, -, htwice⟩ := served_twice_of_asksFor (c := { unixSocket := some "/s" }) hfirst rfl
    fitsAddress_sample (place_sample _) mem_served_sample
  have hapart := (hclaim {} [.bind "first" { unixSocket := some "/s" },
    .bind "second" { unixSocket := some "/s" }] hnone).2
  exact absurd (List.nodup_iff_count_le_one.mp hapart ["s"]) (Nat.not_le.mpr htwice)

end ObliviousRelay.Net.Host
