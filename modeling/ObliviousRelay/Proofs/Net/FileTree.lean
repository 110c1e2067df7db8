import ObliviousRelay.Net.FileTree
import ObliviousRelay.Proofs.Lookup

/-!
# Facts about file trees

What a place holds after an entry was removed or made, and which changes leave the ways through a
tree alone: those that keep its directories and links.

- `FileTree.find?_erase`, `FileTree.find?_insert`: what stands where, after a change.
- `FileTree.place_of_keepsWays`: a path speaks of the same place in a tree with the same ways.
- `FileTree.lookup?_eq_some_iff`: what it takes to be the entry that a path speaks of.
-/

namespace ObliviousRelay.Net.FileTree

variable {t u : FileTree} {p q start : Place} {e : Entry} {links : Nat} {way : List String}
  {path : String}

/-! ## Entries -/

theorem find?_of_ne_nil (hq : q ≠ []) : t.find? q = t.entries.lookup q :=
  if_neg (by simpa using hq)

/-- Erasing the entry at a place leaves the others. -/
theorem find?_erase (hp : p ≠ []) : (t.erase p).find? q = if q = p then none else t.find? q := by
  cases q with
  | nil => rw [if_neg hp.symm]; rfl
  | cons name rest =>
    rw [find?_of_ne_nil (List.cons_ne_nil _ _), find?_of_ne_nil (List.cons_ne_nil _ _)]
    exact lookup_filter_ne t.entries p (name :: rest)

/-- An entry that is put where there was none is found there, and the others where they were. -/
theorem find?_insert (hp : t.find? p = none) :
    (t.insert p e).find? q = if q = p then some e else t.find? q := by
  -- The root is a directory in every tree and stands in no list of entries.
  cases q with
  | nil =>
    have hne : [] ≠ p := fun h => by rw [← h] at hp; cases hp
    rw [if_neg hne]; rfl
  | cons name rest =>
    have hne : p ≠ [] := fun h => by rw [h] at hp; cases hp
    rw [find?_of_ne_nil hne] at hp
    rw [find?_of_ne_nil (List.cons_ne_nil _ _), insert, List.lookup_append,
      find?_of_ne_nil (List.cons_ne_nil _ _)]
    by_cases hq : name :: rest = p
    · rw [if_pos hq, hq, hp, List.lookup_cons_self]
      rfl
    · rw [if_neg hq, List.lookup_cons, beq_eq_false_iff_ne.mpr hq, List.lookup_nil, Option.or_none]

theorem ne_nil_of_socket (h : t.find? p = some .socket) : p ≠ [] := by
  rintro rfl
  cases h

/-! ## Ways -/

/-- A tree keeps the ways of another: all its directories and links are where they were. -/
def KeepsWays (t u : FileTree) : Prop :=
  ∀ p, t.find? p = some .directory ∨ (∃ target, t.find? p = some (.link target)) →
    u.find? p = t.find? p

/-- A walk that arrives does so as well where the ways were kept. -/
theorem walk_of_keepsWays (hways : KeepsWays t u) (h : t.walk links start way = .ok q) :
    u.walk links start way = .ok q := by
  -- The induction follows the walk through the first tree.
  induction links, start, way using walk.induct t with
  | case1 => rwa [walk] at h ⊢
  | case2 links start rest ih =>
    rw [walk, if_pos rfl] at h ⊢
    exact ih h
  | case3 links start rest hdot ih =>
    rw [walk, if_neg hdot, if_pos rfl] at h ⊢
    exact ih h
  -- Both walks end here, for want of the next name.
  | case4 links start name rest hdot hup hnone =>
    rw [walk, if_neg hdot, if_neg hup, hnone] at h
    cases h
  -- The other tree has the same directory.
  | case5 links start name rest hdot hup hdirectory ih =>
    rw [walk, if_neg hdot, if_neg hup, hdirectory] at h
    rw [walk, if_neg hdot, if_neg hup, hways _ (.inl hdirectory), hdirectory]
    exact ih h
  | case6 start name rest hdot hup target hlink =>
    rw [walk, if_neg hdot, if_neg hup, hlink] at h
    cases h
  -- The other tree has the same link, and both walks go on along its target.
  | case7 start name rest hdot hup target hlink links ih =>
    rw [walk, if_neg hdot, if_neg hup, hlink] at h
    rw [walk, if_neg hdot, if_neg hup, hways _ (.inr ⟨target, hlink⟩), hlink]
    exact ih h
  -- A walk does not pass through what is no directory.
  | case8 links start name rest hdot hup e hdirectory hlink he =>
    rw [walk, if_neg hdot, if_neg hup, he] at h
    cases e with
    | directory => exact absurd rfl hdirectory
    | link target => exact absurd rfl (hlink target)
    | file | socket => cases h

/-- A name alone is one of the root. -/
theorem place_of_name {name : String} (t : FileTree) (hnames : names path = [name])
    (hstay : name ≠ ".") (hup : name ≠ "..") : t.place path = .ok [name] := by
  rw [place, placeFrom, hnames]
  simp [hstay, hup, walk]

/-- **A path speaks of the same place in a tree with the same ways.** -/
theorem place_of_keepsWays (hways : KeepsWays t u) (h : t.place path = .ok p) :
    u.place path = .ok p := by
  rw [place, placeFrom] at h ⊢
  split at h
  · exact h
  · next name hlast =>
    split at h
    · next hstays => exact (if_pos hstays).trans (walk_of_keepsWays hways h)
    · next hnamed =>
      -- Only the names before the last one are walked.
      rw [if_neg hnamed]
      split at h
      · cases h
      · next directory hdirectory => rw [walk_of_keepsWays hways hdirectory]; exact h

/-- Erasing a socket keeps the ways. -/
theorem keepsWays_erase (hp : t.find? p = some .socket) : KeepsWays t (t.erase p) := by
  intro q hq
  rw [find?_erase (ne_nil_of_socket hp), if_neg]
  rintro rfl
  rw [hp] at hq
  rcases hq with h | ⟨target, h⟩ <;> cases h

/-! ## What a path speaks of -/

/-- The entry that a path speaks of stands at its place; a path with a slash at its end speaks of
directories only. -/
theorem lookup?_eq_some_iff : t.lookup? path = some e ↔
    isPath path = true ∧ (asksForDirectory path = true → e = .directory) ∧
      ∃ p, t.place path = .ok p ∧ t.find? p = some e := by
  rw [lookup?]
  split
  · -- The system takes no such path.
    next hno =>
    simp only [Bool.not_eq_true', ← Bool.not_eq_true] at hno
    simp [hno]
  · next hpath =>
    simp only [Bool.not_eq_true', Bool.not_eq_false] at hpath
    split
    · next p hp =>
      simp only [hpath, hp, Option.filter_eq_some_iff, Except.ok.injEq, exists_eq_left', true_and,
        Bool.or_eq_true, Bool.not_eq_true', decide_eq_true_eq]
      constructor
      · rintro ⟨he, hasks⟩
        -- A path that asks for a directory finds nothing else.
        exact ⟨fun h => hasks.resolve_left (by simp [h]), he⟩
      · rintro ⟨hasks, he⟩
        cases hslash : asksForDirectory path with
        | false => exact ⟨he, .inl rfl⟩
        | true => exact ⟨he, .inr (hasks hslash)⟩
    · next fault hfault => simp [hfault]

/-- A path speaks of a socket: it is a path without a slash at its end, and one stands at its
place. -/
theorem lookup?_eq_socket_iff : t.lookup? path = some .socket ↔
    isPath path = true ∧ asksForDirectory path = false ∧
      ∃ p, t.place path = .ok p ∧ t.find? p = some .socket := by
  rw [lookup?_eq_some_iff]
  cases asksForDirectory path <;> simp

/-- The socket that a path speaks of stands at its place. -/
theorem find?_of_socket (h : t.lookup? path = some .socket) (hp : t.place path = .ok p) :
    t.find? p = some .socket := by
  obtain ⟨-, -, q, hq, hsocket⟩ := lookup?_eq_socket_iff.mp h
  rw [hp, Except.ok.injEq] at hq
  rwa [hq]

/-- Removing the entry that a path speaks of erases its place. -/
theorem remove_of_socket (h : t.lookup? path = some .socket) (hp : t.place path = .ok p) :
    t.remove path = some (t.erase p) := by
  rw [remove, h, hp]

end ObliviousRelay.Net.FileTree
