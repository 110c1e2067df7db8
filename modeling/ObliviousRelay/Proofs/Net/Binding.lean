import ObliviousRelay.Net.Listener
import ObliviousRelay.Proofs.Net.FileTree

/-!
# Binding a listener

What one bind does to the files and to the listeners, told once: the socket that the path speaks of
is cleared away, and then a new one is made where nothing is left, or the bind is refused.

- `Host.Cleared` is what clearing leaves of a tree.
- `Host.Binding` has one case for each way in which the bind of a Unix socket ends, and
  `Host.binding` says that each bind ends in one of them; `Host.bind_tcp` is for addresses.
- `Host.bind_of_free`: where no other entry is in the way, a listener is bound.
-/

namespace ObliviousRelay.Net

/-- The place of a listener's socket, if it is in the file tree. -/
def Listener.place? : Listener → Option Place
  | .unix _ p => some p
  | _ => none

namespace Host

variable {t u : FileTree} {h : Host} {id path : String} {c : Config.Listener} {p q : Place}
  {e : Entry} {ls : List (String × Listener)}

/-! ## Clearing away -/

/-- What is left of a tree after the socket that a path speaks of was cleared away: all of it, if
the path speaks of none. -/
inductive Cleared (t : FileTree) (path : String) : FileTree → Prop
  | kept (hno : t.lookup? path ≠ some .socket) : Cleared t path t
  | removed {p : Place} (hsocket : t.lookup? path = some .socket) (hplace : t.place path = .ok p)
      (hp : t.find? p = some .socket) : Cleared t path (t.erase p)

theorem clearSocket_of_socket (hsocket : t.lookup? path = some .socket)
    (hplace : t.place path = .ok p) : clearSocket t path = t.erase p := by
  rw [clearSocket, if_pos hsocket, FileTree.remove_of_socket hsocket hplace, Option.getD_some]

theorem cleared (t : FileTree) (path : String) : Cleared t path (clearSocket t path) := by
  by_cases hsocket : t.lookup? path = some .socket
  · obtain ⟨-, -, p, hplace, hp⟩ := FileTree.lookup?_eq_socket_iff.mp hsocket
    rw [clearSocket_of_socket hsocket hplace]
    exact .removed hsocket hplace hp
  · rw [clearSocket, if_neg hsocket]
    exact .kept hsocket

/-- Clearing away touches one place at most. -/
theorem Cleared.find?_of_ne (hcleared : Cleared t path u) (hq : t.place path ≠ .ok q) :
    u.find? q = t.find? q := by
  cases hcleared with
  | kept => rfl
  | @removed p hsocket hplace hp =>
    rw [FileTree.find?_erase (FileTree.ne_nil_of_socket hp), if_neg]
    rintro rfl
    exact hq hplace

/-- What is not a socket is not cleared away. -/
theorem Cleared.find?_eq_some_iff (hcleared : Cleared t path u) (he : e ≠ .socket) :
    u.find? q = some e ↔ t.find? q = some e := by
  cases hcleared with
  | kept => rfl
  | @removed p hsocket hplace hp =>
    rw [FileTree.find?_erase (FileTree.ne_nil_of_socket hp)]
    -- At the cleared place there was a socket, and now there is nothing.
    by_cases hq : q = p
    · rw [if_pos hq, hq, hp]
      simp [he.symm]
    · rw [if_neg hq]

theorem Cleared.place (hcleared : Cleared t path u) (hp : t.place path = .ok p) :
    u.place path = .ok p := by
  cases hcleared with
  | kept => exact hp
  | removed hsocket hplace hsocketAt =>
    exact FileTree.place_of_keepsWays (FileTree.keepsWays_erase hsocketAt) hp

theorem Cleared.place_of_place (hcleared : Cleared t path u) (hp : u.place path = .ok p) :
    t.place path = .ok p := by
  cases hcleared with
  | kept => exact hp
  | removed hsocket hplace hsocketAt =>
    -- The place that was cleared away is still the one that the path speaks of.
    have hsame := FileTree.place_of_keepsWays (FileTree.keepsWays_erase hsocketAt) hplace
    rw [hsame] at hp
    rwa [← hp]

/-! ## Making a socket -/

/-- A text that names a socket outside the file tree: it is empty, or begins with a zero
character. -/
def IsOutside (path : String) : Prop := ∀ c, path.toList.head? = some c → c = Char.ofNat 0

theorem not_isPath_of_isOutside (houtside : IsOutside path) : FileTree.isPath path = false := by
  rw [FileTree.isPath]
  cases hpath : path.toList with
  | nil =>
    have hempty : path = "" := String.toList_eq_nil_iff.mp hpath
    simp [hempty]
  | cons c rest =>
    have hzero : c = Char.ofNat 0 := houtside c (by rw [hpath]; rfl)
    simp [hzero]

/-- A text outside the file tree has nothing to be cleared away. -/
theorem Cleared.eq_of_isOutside (hcleared : Cleared t path u) (houtside : IsOutside path) :
    u = t := by
  cases hcleared with
  | kept => rfl
  | removed hsocket hplace hp =>
    have hpath := (FileTree.lookup?_eq_socket_iff.mp hsocket).1
    rw [not_isPath_of_isOutside houtside] at hpath
    cases hpath

/-- A socket is refused, or is outside the file tree, or is made where the path speaks of
nothing. -/
theorem makeSocket_cases (t : FileTree) (ls : List (String × Listener)) (path : String) :
    (∃ fault, makeSocket t ls path = .error fault) ∨
    (IsOutside path ∧ ∃ l : Listener, l.place? = none ∧ makeSocket t ls path = .ok (t, l)) ∨
    ∃ p, t.place path = .ok p ∧ t.find? p = none ∧
      makeSocket t ls path = .ok (t.insert p .socket, .unix path p) := by
  rw [makeSocket]
  split
  · -- An empty path asks for a socket without a name.
    next hempty =>
    refine .inr (.inl ⟨fun c hc => ?_, .unnamed, rfl, rfl⟩)
    rw [hempty] at hc
    cases hc
  · next c rest hpath =>
    split
    -- A path that begins with a zero character is a name outside the tree.
    · next hzero =>
      split
      · exact .inl ⟨_, rfl⟩
      · split
        · exact .inl ⟨_, rfl⟩
        · refine .inr (.inl ⟨fun b hb => ?_, .abstract path, rfl, rfl⟩)
          rw [hpath] at hb
          exact Option.some.inj hb ▸ hzero
    · -- Any other path is one of the tree: it passes the checks in turn, or one of them is its
      -- fault.
      split
      · exact .inl ⟨_, rfl⟩
      · split
        · exact .inl ⟨_, rfl⟩
        · split
          · exact .inl ⟨_, rfl⟩
          · next p hp =>
            split
            · exact .inl ⟨_, rfl⟩
            · next hfree =>
              split
              · exact .inl ⟨_, rfl⟩
              · exact .inr (.inr ⟨p, hp, by simpa using hfree, rfl⟩)

/-! ## One bind -/

/-- How the bind of a Unix socket ends. -/
inductive Binding (h : Host) (id path : String) : Host × Except ListenerFault Listener → Prop
  | refused {u : FileTree} {fault : SystemFault} (hcleared : Cleared h.tree path u) :
      Binding h id path ({ h with tree := u }, .error (.bind fault))
  | outside {l : Listener} (houtside : IsOutside path) (hl : l.place? = none) :
      Binding h id path (h.keep id l, .ok l)
  | made {u : FileTree} {p : Place} (hcleared : Cleared h.tree path u)
      (hplace : h.tree.place path = .ok p) (hfree : u.find? p = none) :
      Binding h id path
        ({ h with tree := u.insert p .socket }.keep id (.unix path p), .ok (.unix path p))

/-- **Every bind of a Unix socket ends in one of these ways.** -/
theorem binding (h : Host) (id : String) (hpath : c.unixSocket = some path) :
    Binding h id path (h.bind id c) := by
  -- The tree is cleared before anything is checked: a bind that is refused may have unlinked.
  have hcleared := cleared h.tree path
  rw [bind, hpath]
  rcases makeSocket_cases (clearSocket h.tree path) h.listeners path with
    ⟨fault, hmake⟩ | ⟨houtside, l, hl, hmake⟩ | ⟨p, hp, hfree, hmake⟩ <;> simp only [hmake]
  · exact .refused hcleared
  · rw [hcleared.eq_of_isOutside houtside]
    exact .outside houtside hl
  · exact .made hcleared (hcleared.place_of_place hp) hfree

/-- The bind of an address leaves the files alone, and what it adds has no place in them. -/
theorem bind_tcp (id : String) (hpath : c.unixSocket = none) :
    (h.bind id c).1 = h ∨ ∃ l : Listener, l.place? = none ∧ (h.bind id c).1 = h.keep id l := by
  rw [bind, hpath]
  simp only
  split
  · exact .inl rfl
  · next address haddress =>
    split
    · next l hl =>
      refine .inr ⟨l, ?_, rfl⟩
      rw [bindTcp] at hl
      split at hl
      · cases hl
      · split at hl
        · cases hl
        · cases hl
          rfl
    · exact .inl rfl

theorem bind_tcp_tree (hpath : c.unixSocket = none) : (h.bind id c).1.tree = h.tree := by
  rcases bind_tcp id hpath with heq | ⟨l, -, heq⟩
  · rw [heq]
  · rw [heq]
    rfl

/-- A text fits as the address of a socket in the file tree. -/
structure FitsAddress (path : String) : Prop where
  isPath : FileTree.isPath path = true
  short : path.utf8ByteSize < maxSocketPath
  noSlash : FileTree.asksForDirectory path = false

/-- **A listener is bound where nothing but a socket is in the way.** -/
theorem bind_of_free (id : String) (hpath : c.unixSocket = some path) (hfits : FitsAddress path)
    (hplace : h.tree.place path = .ok p)
    (hp : h.tree.find? p = none ∨ h.tree.find? p = some .socket) :
    (h.bind id c).2 = .ok (.unix path p) := by
  have hcleared := cleared h.tree path
  have hfree : (clearSocket h.tree path).find? p = none := by
    cases hp with
    -- Nothing stood there, so nothing was cleared.
    | inl hnone =>
      rw [clearSocket, if_neg]
      · exact hnone
      · intro hsocket
        have hsocketAt := FileTree.find?_of_socket hsocket hplace
        rw [hnone] at hsocketAt
        cases hsocketAt
    -- A socket stood there, and it was cleared.
    | inr hsocket =>
      have hentry := FileTree.lookup?_eq_socket_iff.mpr
        ⟨hfits.isPath, hfits.noSlash, p, hplace, hsocket⟩
      rw [clearSocket_of_socket hentry hplace,
        FileTree.find?_erase (FileTree.ne_nil_of_socket hsocket), if_pos rfl]
  obtain ⟨⟨hne, -⟩, hzero⟩ : (path ≠ "" ∧ path.utf8ByteSize < FileTree.maxPath) ∧
      Char.ofNat 0 ∉ path.toList := by
    -- A path that the tree takes is not empty and holds no zero character.
    simpa [FileTree.isPath] using hfits.isPath
  -- None of the checks is in the way: the last one looks at the place after clearing.
  have hmake : makeSocket (clearSocket h.tree path) h.listeners path =
      .ok ((clearSocket h.tree path).insert p .socket, .unix path p) := by
    rw [makeSocket]
    split
    · next hempty => exact absurd (String.toList_eq_nil_iff.mp hempty) hne
    · next c rest hchars =>
      have hfirst : c ≠ Char.ofNat 0 := by
        rintro rfl
        exact hzero (hchars ▸ List.mem_cons_self)
      rw [if_neg hfirst, if_neg (by simpa using hzero), if_neg (Nat.not_le.mpr hfits.short),
        hcleared.place hplace]
      simp [hfree, hfits.noSlash]
  rw [bind, hpath]
  simp only [hmake]

end Host

end ObliviousRelay.Net
