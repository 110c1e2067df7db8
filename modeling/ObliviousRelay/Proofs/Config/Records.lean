import Mathlib.Data.List.Nodup
import ObliviousRelay.Config.Decode

/-!
# Records read from edited tables

A record is read entry by entry, each of which takes one field from its default to the value that it
gives. So a table may be edited: what is read depends on which of the record's fields are still
there, and neither on their order nor on what else is in the table.

- `LeftOf` is what is left of a table after editing; `LeftOf.of_edit` gives such tables.
- `FillsIn` is what a record's members have to do, one at a time.
- `FillsIn.readEntries_eq` reads the entries, `FillsIn.readEntries_of_fails` finds what cannot be
  read; `readRecord_edited` is for the whole record.
-/

namespace ObliviousRelay.Config

/-- A choice of names. -/
abbrev Names := String → Bool

/-! ## Edited tables -/

/-- What is left of a table `full` after editing: its entries but for those of the names in `gone`,
each with a value that `alters` allows in the place of its own, and any entries of other names; in
any order, and no name of the table twice. -/
structure LeftOf (gone : Names) (alters : String → Tree → Tree → Prop)
    (full entries : List (String × Tree)) : Prop where
  kept : ∀ e ∈ full, gone e.1 = false → ∃ u, (e.1, u) ∈ entries
  altered : ∀ e ∈ full, ∀ u, (e.1, u) ∈ entries → gone e.1 = false ∧ alters e.1 e.2 u
  once : ∀ key ∈ full.map Prod.fst, (entries.map Prod.fst).count key ≤ 1

/-- A tree in the place of a table. -/
inductive Edited (gone : Names) (alters : String → Tree → Tree → Prop) : Tree → Tree → Prop
  | table {full entries : List (String × Tree)} (h : LeftOf gone alters full entries) :
    Edited gone alters (.table full) (.table entries)

variable {gone : Names} {alters : String → Tree → Tree → Prop}
  {full entries added : List (String × Tree)}

/-- What a table was edited to is a table again. -/
theorem Edited.exists_table {u : Tree} (h : Edited gone alters (.table full) u) :
    ∃ entries, u = .table entries ∧ LeftOf gone alters full entries := by
  cases h with
  | table h => exact ⟨_, rfl, h⟩

/-- Deleting entries, altering others and adding new ones is editing. -/
theorem LeftOf.of_edit (alter : String → Tree → Tree) (hnames : (full.map Prod.fst).Nodup)
    (halter : ∀ e ∈ full, alters e.1 e.2 (alter e.1 e.2))
    (hadded : ∀ e ∈ added, e.1 ∉ full.map Prod.fst) :
    LeftOf gone alters full
      ((full.filter (!gone ·.1)).map (fun e => (e.1, alter e.1 e.2)) ++ added) where
  -- An entry that stays is found among the altered ones.
  kept e hmem hgone := ⟨alter e.1 e.2, by
    simp only [List.mem_append, List.mem_map, List.mem_filter]
    exact .inl ⟨e, ⟨hmem, by simp [hgone]⟩, rfl⟩⟩
  altered e hmem u hu := by
    simp only [List.mem_append, List.mem_map, List.mem_filter] at hu
    -- what has this name is the entry itself, since none that is added has it
    rcases hu with ⟨e', ⟨he', hkept⟩, heq⟩ | hu
    · obtain ⟨hname, rfl⟩ := Prod.mk.inj heq
      obtain rfl : e = e' := List.inj_on_of_nodup_map hnames hmem he' hname.symm
      exact ⟨by simpa using hkept, halter e hmem⟩
    · exact absurd (List.mem_map_of_mem (f := Prod.fst) hmem) (hadded (e.1, u) hu)
  once key hkey := by
    -- the names that stay are some of those that were there, each once
    have hnew : (added.map Prod.fst).count key = 0 := by
      rw [List.count_eq_zero]
      intro hmem
      obtain ⟨e, he, rfl⟩ := List.mem_map.mp hmem
      exact hadded e he hkey
    have hold : ((full.filter (!gone ·.1)).map Prod.fst).Sublist (full.map Prod.fst) :=
      List.filter_sublist.map _
    rw [List.map_append, List.count_append, hnew, List.map_map]
    exact List.nodup_iff_count_le_one.mp (hnames.sublist hold) key

/-- Deleting entries and nothing else is editing. -/
theorem LeftOf.of_delete (hnames : (full.map Prod.fst).Nodup)
    (halters : ∀ e ∈ full, alters e.1 e.2 e.2) :
    LeftOf gone alters full (full.filter (!gone ·.1)) := by
  have h : LeftOf gone alters full
      ((full.filter (!gone ·.1)).map (fun e => (e.1, e.2)) ++ []) :=
    LeftOf.of_edit (fun _ t => t) hnames halters (by simp)
  simpa using h

/-! ## Reading -/

variable {σ : Type} {members : List (Member σ)} {d : Dialect} {fits : String → Tree → Prop}
  {partly : Names → σ} {fault : Fault}

/-- What the members of a record do, where `partly gone` is the record with the fields in `gone` at
their defaults. They are all that the record has, and from a tree that fits it, a member takes its
own field out of those at their defaults. -/
structure FillsIn (members : List (Member σ)) (d : Dialect) (fits : String → Tree → Prop)
    (partly : Names → σ) : Prop where
  congr : ∀ gone gone', (∀ m ∈ members, gone m.name = gone' m.name) → partly gone = partly gone'
  set : ∀ m ∈ members, ∀ t, fits m.name t → ∀ gone,
    m.set d t (partly gone) = .ok (partly fun name => gone name && m.name != name)

/-- An entry that its member can read. -/
def Readable (members : List (Member σ)) (fits : String → Tree → Prop) (e : String × Tree) : Prop :=
  ∀ m ∈ members, m.name = e.1 → fits e.1 e.2

/-- An entry that a member cannot read. -/
def Fails (members : List (Member σ)) (d : Dialect) (fault : Fault) (e : String × Tree) : Prop :=
  (∃ m ∈ members, m.name = e.1) ∧
    ∀ m ∈ members, m.name = e.1 → ∀ s, m.set d e.2 s = .error fault

/-- Reading entries ends with a first one that fails. -/
theorem readEntries_cons_of_fails {e : String × Tree} (he : Fails members d fault e) (s : σ) :
    readEntries members d s (e :: entries) = .error fault := by
  obtain ⟨⟨m, hm, hname⟩, hset⟩ := he
  rw [readEntries]
  cases hfind : members.find? (·.name == e.1) with
  | none => exact absurd (beq_iff_eq.mpr hname) (List.find?_eq_none.mp hfind m hm)
  | some m' =>
    -- whichever member of this name is found, it fails
    have hname' : m'.name = e.1 := by simpa using List.find?_some hfind
    simp only [hset m' (List.mem_of_find?_eq_some hfind) hname' s]
    rfl

namespace FillsIn

variable (h : FillsIn members d fits partly)

include h

/-- One entry is read, and the rest of the table after it. -/
theorem readEntries_cons {e : String × Tree} (he : Readable members fits e) :
    readEntries members d (partly gone) (e :: entries) =
      readEntries members d (partly fun name => gone name && e.1 != name) entries := by
  rw [readEntries]
  cases hfind : members.find? (·.name == e.1) with
  | none =>
    -- An entry that is none of the record's leaves all fields as they are.
    have hother : ∀ m ∈ members, m.name ≠ e.1 := by simpa using hfind
    rw [h.congr gone (fun name => gone name && e.1 != name) fun m hm => by
      simp [Ne.symm (hother m hm)]]
  | some m =>
    have hm : m ∈ members := List.mem_of_find?_eq_some hfind
    have hname : m.name = e.1 := by simpa using List.find?_some hfind
    have hset := h.set m hm e.2 (hname ▸ he m hm hname) gone
    rw [hname] at hset
    simp only [hset]
    rfl

/-- Each entry of the record that is there takes its field out of those at their defaults. -/
theorem readEntries_eq (hread : ∀ e ∈ entries, Readable members fits e) :
    readEntries members d (partly gone) entries =
      .ok (partly fun name => gone name && entries.all (·.1 != name)) := by
  -- the fields that are still at their defaults get fewer with each entry
  induction entries generalizing gone with
  | nil => simp [readEntries]
  | cons e rest ih =>
    obtain ⟨he, hrest⟩ := List.forall_mem_cons.mp hread
    rw [h.readEntries_cons he, ih hrest]
    simp only [List.all_cons, Bool.and_assoc]

/-- Reading ends with an entry that fails. -/
theorem readEntries_of_fails
    (hread : ∀ e ∈ entries, Readable members fits e ∨ Fails members d fault e)
    (hfails : ∃ e ∈ entries, Fails members d fault e) :
    readEntries members d (partly gone) entries = .error fault := by
  induction entries generalizing gone with
  | nil => simp at hfails
  | cons e rest ih =>
    -- Whether the head fails or is read, the other entries are as in the statement.
    obtain ⟨he, hrest⟩ := List.forall_mem_cons.mp hread
    by_cases hhead : Fails members d fault e
    · exact readEntries_cons_of_fails hhead _
    · -- the head can be read, so what fails comes later
      obtain ⟨e', he', hfails'⟩ := hfails
      have hlater : e' ∈ rest := by
        rcases List.mem_cons.mp he' with rfl | hlater
        · exact absurd hfails' hhead
        · exact hlater
      rw [h.readEntries_cons (he.resolve_right hhead), ih hrest ⟨e', hlater, hfails'⟩]

end FillsIn

/-! ## Records -/

/-- What may stand under a name in a table that is left of `full`. -/
def Allowed (alters : String → Tree → Tree → Prop) (full : List (String × Tree)) (key : String)
    (u : Tree) : Prop := ∃ t, (key, t) ∈ full ∧ alters key t u

/-- An entry that is left has a name that is not gone, and is what its field may be altered to. -/
theorem LeftOf.allowed (h : LeftOf gone alters full entries)
    (hnames : full.map Prod.fst = members.map Member.name) {e : String × Tree} (he : e ∈ entries)
    {m : Member σ} (hm : m ∈ members) (hname : m.name = e.1) :
    gone e.1 = false ∧ Allowed alters full e.1 e.2 := by
  have hmem : e.1 ∈ full.map Prod.fst := hname ▸ hnames ▸ List.mem_map_of_mem hm
  obtain ⟨⟨key, t⟩, hfull, hkey⟩ := List.mem_map.mp hmem
  obtain rfl : key = e.1 := hkey
  obtain ⟨hgone, halters⟩ := h.altered _ hfull e.2 he
  exact ⟨hgone, t, hfull, halters⟩

/-- **What is read of an edited table**: the record with the defaults of the fields that are
gone. -/
theorem FillsIn.readEntries_left {start : σ} (h : FillsIn members d fits partly)
    (hnames : full.map Prod.fst = members.map Member.name) (hstart : start = partly fun _ => true)
    (hleft : LeftOf gone alters full entries) (hread : ∀ e ∈ entries, Readable members fits e) :
    readEntries members d start entries = .ok (partly gone) := by
  -- All entries that are left are read, so that the record is told by the names that stand among
  -- them.
  rw [hstart, h.readEntries_eq hread]
  congr 1
  -- a field is at its default just where no entry of its name is left
  apply h.congr
  intro m hm
  cases hgone : gone m.name with
  -- The name stays, and with it an entry of this name.
  | false =>
    have hmem : m.name ∈ full.map Prod.fst := hnames ▸ List.mem_map_of_mem hm
    obtain ⟨⟨key, t⟩, hfull, hkey⟩ := List.mem_map.mp hmem
    obtain rfl : key = m.name := hkey
    obtain ⟨u, hu⟩ := hleft.kept _ hfull hgone
    simpa using ⟨u, hu⟩
  | true =>
    -- An entry of this name would not have been left.
    have hnone : ∀ e ∈ entries, e.1 ≠ m.name := by
      intro e he hkey
      have hkept := (hleft.allowed hnames he hm hkey.symm).1
      rw [hkey, hgone] at hkept
      cases hkept
    simpa using hnone

/-- A record is read from an edited tree if its members do what they should on what may stand
there. -/
theorem readRecord_edited {title : String} {start : σ} {u : Tree} (partly : Names → σ)
    (h : Edited gone alters (.table full) u)
    (hnames : full.map Prod.fst = members.map Member.name) (hstart : start = partly fun _ => true)
    (hfills : FillsIn members d (Allowed alters full) partly) :
    readRecord title members start d u = .ok (partly gone) := by
  obtain ⟨entries, rfl, hleft⟩ := h.exists_table
  exact hfills.readEntries_left hnames hstart hleft fun e he m hm hname =>
    (hleft.allowed hnames he hm hname).2

end ObliviousRelay.Config
