import ObliviousRelay.Proofs.Net.Numerals

/-!
# Addresses are read as they are written

The text of an address is read back as the address, in the canonical form and in the one that shows
no address of version four. No text is both: an address of version four has dots and no colon, one of
version six has colons.

- `Ipv4.parse?_text`, `Ipv6.parse?_text`, `Ipv6.parse?_compressed`.
- `Ipv4.parse?_eq_none`: no text is an address of both versions; `Ipv6.parse?_eq_none`: one without
  colons is none of version six.
- `Ipv4.exists_last`: an address of version four ends in a number after a dot.
-/

namespace ObliviousRelay.Net

variable {c : Char} {cs rest : List Char} {g : UInt16} {gs : List UInt16}

theorem takeChar?_eq_some_iff : takeChar? c cs = some rest ↔ cs = c :: rest := by
  cases cs with
  | nil => simp [takeChar?]
  | cons d cs =>
    rw [takeChar?]
    split
    · next h => simp [h]
    · next h => simp [h]

theorem takeChar?_eq_none (h : c ∉ cs) : takeChar? c cs = none := by
  cases htake : takeChar? c cs with
  | none => rfl
  | some rest => exact absurd (takeChar?_eq_some_iff.mp htake ▸ List.mem_cons_self) h

/-! ## Version four -/

/-- The octets of an address with dots between them. -/
theorem Ipv4.text_toList (ip : Ipv4) : ip.text.toList =
    Nat.toDigits 10 ip.a.toNat ++ '.' :: (Nat.toDigits 10 ip.b.toNat ++ '.' ::
      (Nat.toDigits 10 ip.c.toNat ++ '.' :: Nat.toDigits 10 ip.d.toNat)) := by
  simp [Ipv4.text]

theorem takeOctet?_toDigits (b : UInt8) (hrest : StopsAtFront (isDigitOf 10) rest) :
    takeOctet? (Nat.toDigits 10 b.toNat ++ rest) = some (b, rest) := by
  have hlt := b.toNat_lt
  have hlength : (Nat.toDigits 10 b.toNat).length ≤ 3 :=
    (Nat.length_toDigits_le_iff (by decide) (by decide)).mpr (by omega)
  rw [takeOctet?, takeNumber?_toDigits (by decide) (by decide) (by simpa using hlength) hlt hrest]
  simp

/-- **An address of version four is taken back.** -/
theorem Ipv4.take?_text (ip : Ipv4) (hrest : StopsAtFront (isDigitOf 10) rest) :
    take? (ip.text.toList ++ rest) = some (ip, rest) := by
  have hdot : ∀ more : List Char, StopsAtFront (isDigitOf 10) ('.' :: more) := fun more =>
    stopsAtFront_cons (by decide)
  simp only [take?, Ipv4.text_toList, List.append_assoc, List.cons_append]
  simp [takeOctet?_toDigits, hdot, hrest, takeChar?]

theorem Ipv4.parse?_text (ip : Ipv4) : parse? ip.text.toList = some ip := by
  have htake := Ipv4.take?_text ip stopsAtFront_nil
  rw [List.append_nil] at htake
  rw [parse?, htake]

theorem exists_digits_of_takeOctet? {b : UInt8} (h : takeOctet? cs = some (b, rest)) :
    ∃ digits, cs = digits ++ rest ∧ digits ≠ [] ∧ ∀ c ∈ digits, isDigitOf 10 c = true := by
  obtain ⟨⟨n, rest'⟩, hnumber, heq⟩ := Option.map_eq_some_iff.mp h
  obtain ⟨-, rfl⟩ := Prod.mk.inj heq
  exact exists_digits_of_takeNumber? hnumber

/-- An address of version four is taken from four runs of digits with dots between them. -/
theorem Ipv4.exists_octets {ip : Ipv4} (h : take? cs = some (ip, rest)) :
    ∃ first middle last, cs = first ++ '.' :: (middle ++ '.' :: (last ++ rest)) ∧ last ≠ [] ∧
      (∀ c ∈ first, isDigitOf 10 c = true) ∧ (∀ c ∈ middle, c = '.' ∨ isDigitOf 10 c = true) ∧
      ∀ c ∈ last, isDigitOf 10 c = true := by
  simp only [take?, Option.bind_eq_bind, Option.bind_eq_some_iff, Prod.exists] at h
  obtain ⟨a, cs₁, ha, cs₂, hdot₁, b, cs₃, hb, cs₄, hdot₂, e, cs₅, he, cs₆, hdot₃, d, cs₇, hd, heq⟩ := h
  obtain ⟨-, rfl⟩ := Prod.mk.inj (Option.some.inj heq)
  -- Each octet is a run of digits, and a dot stands behind each of the first three.
  obtain ⟨first, rfl, -, hfirst⟩ := exists_digits_of_takeOctet? ha
  obtain ⟨second, rfl, -, hsecond⟩ := exists_digits_of_takeOctet? hb
  obtain ⟨third, rfl, -, hthird⟩ := exists_digits_of_takeOctet? he
  obtain ⟨last, rfl, hne, hlast⟩ := exists_digits_of_takeOctet? hd
  obtain rfl := takeChar?_eq_some_iff.mp hdot₁
  obtain rfl := takeChar?_eq_some_iff.mp hdot₂
  obtain rfl := takeChar?_eq_some_iff.mp hdot₃
  refine ⟨first, second ++ '.' :: third, last, by simp, hne, hfirst, fun c hc => ?_, hlast⟩
  rcases List.mem_append.mp hc with hc | hc
  · exact .inr (hsecond c hc)
  · exact (List.mem_cons.mp hc).imp_right (hthird c)

/-- What is an address of version four is one of digits and dots. -/
theorem Ipv4.mem_of_parse? {ip : Ipv4} (h : parse? cs = some ip) (hc : c ∈ cs) :
    c = '.' ∨ isDigitOf 10 c = true := by
  unfold parse? at h
  split at h
  · next ip' htake =>
    obtain ⟨first, middle, last, rfl, -, hfirst, hmiddle, hlast⟩ := Ipv4.exists_octets htake
    simp only [List.append_nil, List.mem_append, List.mem_cons] at hc
    rcases hc with hc | rfl | hc | rfl | hc
    · exact .inr (hfirst c hc)
    · exact .inl rfl
    · exact hmiddle c hc
    · exact .inl rfl
    · exact .inr (hlast c hc)
  · cases h

/-- What is an address of version four ends in a number after a dot. -/
theorem Ipv4.exists_last {ip : Ipv4} (h : parse? cs = some ip) :
    ∃ front last, cs = front ++ '.' :: last ∧ last ≠ [] ∧ ∀ c ∈ last, isDigitOf 10 c = true := by
  unfold parse? at h
  split at h
  · next ip' htake =>
    obtain ⟨first, middle, last, rfl, hne, -, -, hlast⟩ := Ipv4.exists_octets htake
    exact ⟨first ++ '.' :: middle, last, by simp, hne, hlast⟩
  · cases h

/-- Where no dot follows the digits at the front no address of version four is taken. -/
theorem Ipv4.take?_eq_none (h : (cs.dropWhile (isDigitOf 10)).head? ≠ some '.') : take? cs = none := by
  cases htake : take? cs with
  | none => rfl
  | some found =>
    obtain ⟨ip, rest⟩ := found
    obtain ⟨first, middle, last, rfl, -, hfirst, -, -⟩ := Ipv4.exists_octets htake
    -- The digits of the first octet end at its dot, which is therefore the next character.
    have hdot : StopsAtFront (isDigitOf 10) ('.' :: (middle ++ '.' :: (last ++ rest))) :=
      stopsAtFront_cons (by decide)
    exact absurd (congrArg List.head? (dropWhile_append_stop hfirst hdot)) h

/-! ## Groups -/

/-- What may stand after groups: nothing, or the mark of a run of zeros. -/
def EndsRun (rest : List Char) : Prop := rest = [] ∨ ∃ more, rest = ':' :: ':' :: more

/-- What may stand after one group: nothing, or a colon. -/
def EndsGroup (rest : List Char) : Prop := ∀ c ∈ rest.head?, c = ':'

theorem EndsRun.endsGroup (h : EndsRun rest) : EndsGroup rest := by
  rcases h with rfl | ⟨more, rfl⟩
  · exact fun c hc => by cases hc
  · exact fun c hc => (Option.some.inj hc).symm

theorem EndsGroup.stopsAtFront {base : Nat} (h : EndsGroup rest) :
    StopsAtFront (isDigitOf base) rest := by
  intro c hc
  obtain rfl := h c hc
  rfl

theorem toList_groupText : (groupText g).toList = Nat.toDigits 16 g.toNat := by
  rw [groupText, String.toList_ofList]

/-- A group is no address of version four. -/
theorem Ipv4.take?_group (h : EndsGroup rest) : Ipv4.take? ((groupText g).toList ++ rest) = none := by
  refine Ipv4.take?_eq_none fun hhead => ?_
  rw [toList_groupText, List.dropWhile_append] at hhead
  split at hhead
  · -- All its digits are decimal ones.
    rw [h.stopsAtFront.dropWhile_eq] at hhead
    exact absurd (h '.' hhead) (by decide)
  · -- A digit above nine comes before the end of the group, and it is no dot.
    next hne =>
    obtain ⟨d, hd⟩ : ∃ d, ((Nat.toDigits 16 g.toNat).dropWhile (isDigitOf 10)).head? = some d := by
      cases hdrop : (Nat.toDigits 16 g.toNat).dropWhile (isDigitOf 10) with
      | nil => simp [hdrop] at hne
      | cons d _ => exact ⟨d, rfl⟩
    rw [List.head?_append, hd, Option.some_or] at hhead
    obtain rfl := Option.some.inj hhead
    have hmem := (List.dropWhile_suffix (isDigitOf 10)).subset (List.mem_of_head? hd)
    exact absurd (isDigitOf_of_mem_toDigits (by decide) (by decide) hmem) (by decide)

theorem takeNumber?_group (h : EndsGroup rest) :
    takeNumber? 16 (some 4) true 65536 ((groupText g).toList ++ rest) = some (g.toNat, rest) := by
  have hlt := g.toNat_lt
  have hlength : (Nat.toDigits 16 g.toNat).length ≤ 4 :=
    (Nat.length_toDigits_le_iff (by decide) (by decide)).mpr (by omega)
  rw [toList_groupText]
  exact takeNumber?_toDigits (by decide) (by decide) (by simpa using hlength) hlt h.stopsAtFront

/-- What separates a group from the ones before it. -/
def separator (isFirst : Bool) : List Char := if isFirst then [] else [':']

theorem takeSeparator?_separator (isFirst : Bool) :
    takeSeparator? isFirst (separator isFirst ++ rest) = some rest := by
  cases isFirst <;> rfl

/-- One group at the front is taken. -/
theorem takeRun_group (isFirst : Bool) (limit : Nat) (h : EndsGroup rest) :
    takeRun isFirst (limit + 1) (separator isFirst ++ ((groupText g).toList ++ rest)) =
      ⟨g :: (takeRun false limit rest).groups, (takeRun false limit rest).endsInV4,
        (takeRun false limit rest).rest⟩ := by
  simp [takeRun, takeSeparator?_separator, Ipv4.take?_group h, takeNumber?_group h]

theorem takeRun_of_endsRun (isFirst : Bool) (limit : Nat) (h : EndsRun rest) :
    takeRun isFirst limit rest = ⟨[], false, rest⟩ := by
  cases limit with
  | zero => rfl
  | succ limit =>
    -- No digit comes next, with a colon before it or without.
    have hnothing : ∀ cs, takeSeparator? isFirst rest = some cs →
        Ipv4.take? cs = none ∧ takeNumber? 16 (some 4) true 65536 cs = none := by
      intro cs hcs
      have hends : EndsGroup cs := by
        rcases h with rfl | ⟨more, rfl⟩
        -- At the end of the text a first group finds nothing, and a later one no colon.
        · cases isFirst with
          | true => exact Option.some.inj hcs ▸ fun c hc => by cases hc
          | false => cases hcs
        · -- Before two colons a first group finds a colon, and a later one the second of them.
          cases isFirst <;> exact Option.some.inj hcs ▸ fun c hc => (Option.some.inj hc).symm
      refine ⟨Ipv4.take?_eq_none fun hhead => ?_, takeNumber?_of_stopsAtFront hends.stopsAtFront⟩
      rw [hends.stopsAtFront.dropWhile_eq] at hhead
      exact absurd (hends '.' hhead) (by decide)
    rw [takeRun]
    cases hcs : takeSeparator? isFirst rest with
    | none => simp
    | some cs => simp [(hnothing cs hcs).1, (hnothing cs hcs).2]

/-- Groups as they are written after others, or as the first ones. -/
def joined : Bool → List UInt16 → List Char
  | _, [] => []
  | isFirst, g :: gs => separator isFirst ++ ((groupText g).toList ++ joined false gs)

theorem toList_groupsText (gs : List UInt16) : (groupsText gs).toList = joined true gs := by
  induction gs with
  | nil => rfl
  | cons g gs ih =>
    cases gs with
    | nil => simp [groupsText, joined, separator]
    | cons g' gs =>
      have hsplit : groupsText (g :: g' :: gs) = groupText g ++ ":" ++ groupsText (g' :: gs) :=
        String.intercalate_cons_cons
      rw [hsplit, String.toList_append, String.toList_append, ih]
      simp [joined, separator]

/-- **Groups are taken back**, as far as they are within the limit. -/
theorem takeRun_joined (isFirst : Bool) {limit : Nat} (hlimit : gs.length ≤ limit)
    (hrest : EndsRun rest) : takeRun isFirst limit (joined isFirst gs ++ rest) = ⟨gs, false, rest⟩ := by
  induction gs generalizing isFirst limit with
  | nil => exact takeRun_of_endsRun isFirst limit hrest
  | cons g gs ih =>
    obtain ⟨limit, rfl⟩ : ∃ m, limit = m + 1 := ⟨limit - 1, by simp at hlimit; omega⟩
    -- A further group begins with its colon, so this one ends before it.
    have hends : EndsGroup (joined false gs ++ rest) := by
      cases gs with
      | nil => exact hrest.endsGroup
      | cons g gs => exact fun c hc => (Option.some.inj hc).symm
    rw [joined, List.append_assoc, List.append_assoc, takeRun_group isFirst limit hends,
      ih false (by simpa using hlimit)]

theorem mem_joined {isFirst : Bool} (h : c ∈ joined isFirst gs) : c = ':' ∨ isDigitOf 16 c = true := by
  induction gs generalizing isFirst with
  | nil => cases h
  | cons g gs ih =>
    rw [joined, List.mem_append, List.mem_append, toList_groupText] at h
    rcases h with h | h | h
    · cases isFirst with
      | true => cases h
      | false => exact .inl (List.mem_singleton.mp h)
    · exact .inr (isDigitOf_of_mem_toDigits (by decide) (by decide) h)
    · exact ih h

/-! ## Runs of zeros -/

/-- The longest run of zeros stands where it is told to stand. -/
theorem longestZeros_spec (gs : List UInt16) (i : Nat) :
    let run := longestZeros gs i
    ∃ before after, gs = before ++ List.replicate run.2 0 ++ after ∧ run.1 = i + before.length := by
  induction gs generalizing i with
  | nil => exact ⟨[], [], rfl, rfl⟩
  | cons g gs ih =>
    intro run
    obtain ⟨before, after, hsplit, hstart⟩ := ih (i + 1)
    by_cases hlong : (longestZeros gs (i + 1)).2 ≤ zeroRun (g :: gs)
    -- The run that begins here is the longest, and nothing comes before it.
    · have hrun : run = (i, zeroRun (g :: gs)) := if_pos hlong
      have hzeros : (g :: gs).takeWhile (· = 0) = List.replicate (zeroRun (g :: gs)) 0 :=
        List.eq_replicate_of_mem fun x hx => by simpa using List.mem_takeWhile_imp hx
      refine ⟨[], (g :: gs).dropWhile (· = 0), ?_, by rw [hrun]; rfl⟩
      rw [hrun, List.nil_append, ← hzeros, List.takeWhile_append_dropWhile]
    -- A later run is longer, and this group is one of those before it.
    · have hrun : run = longestZeros gs (i + 1) := if_neg hlong
      refine ⟨g :: before, after, ?_, ?_⟩
      · rw [hrun, List.cons_append, List.cons_append, ← hsplit]
      · rw [hrun, hstart, List.length_cons]
        omega

/-! ## Version six -/

theorem Ipv6.ofGroups?_groups (ip : Ipv6) : ofGroups? ip.groups = some ip := by
  rw [ofGroups?, dif_pos ip.length_eq]

/-- Groups with a mark for zeros in between are taken as a whole. -/
theorem Ipv6.take?_marked {before back : List UInt16} {endsInV4 : Bool} (ip : Ipv6)
    (hback : takeRun true (7 - before.length) cs = ⟨back, endsInV4, rest⟩)
    (hgroups : ip.groups =
      before ++ List.replicate (8 - before.length - back.length) 0 ++ back)
    (hshort : before.length + back.length < 8) :
    take? (joined true before ++ ':' :: ':' :: cs) = some (ip, rest) := by
  have hfront : takeRun true 8 (joined true before ++ ':' :: ':' :: cs) =
      ⟨before, false, ':' :: ':' :: cs⟩ := takeRun_joined true (by omega) (.inr ⟨cs, rfl⟩)
  have hne : before.length ≠ 8 := by omega
  simp only [take?, hfront, if_neg hne, takeChar?, if_true, Bool.false_eq_true, if_false, hback,
    Option.bind_eq_bind, Option.bind_some]
  rw [← hgroups, Ipv6.ofGroups?_groups]
  rfl

/-- **An address of version six is read back.** -/
theorem Ipv6.parse?_compressed (ip : Ipv6) : parse? ip.compressed.toList = some ip := by
  obtain ⟨before, after, hsplit, hstart⟩ := longestZeros_spec ip.groups 0
  have hlength := ip.length_eq
  rw [compressed]
  generalize longestZeros ip.groups 0 = run at hsplit hstart
  obtain ⟨start, length⟩ := run
  rw [Nat.zero_add] at hstart
  subst hstart
  by_cases hlong : length < 2
  · -- All groups are written.
    have hrun : takeRun true 8 (joined true ip.groups ++ []) = ⟨ip.groups, false, []⟩ :=
      takeRun_joined true (Nat.le_of_eq hlength) (.inl rfl)
    rw [List.append_nil] at hrun
    simp only [if_pos hlong]
    rw [toList_groupsText, parse?, take?, hrun]
    simp [hlength, Ipv6.ofGroups?_groups]
  · -- The run of zeros is left out, and its length is what is missing to eight groups.
    have hcount : before.length + length + after.length = 8 := by
      rw [← hlength, hsplit, List.length_append, List.length_append, List.length_replicate]
    have htake : ip.groups.take before.length = before := by
      rw [hsplit, List.append_assoc, List.take_left]
    have hdrop : ip.groups.drop (before.length + length) = after := by
      rw [hsplit, List.drop_left']
      simp
    -- Behind the mark there is room for the groups that follow the run.
    have hback : takeRun true (7 - before.length) (joined true after ++ []) = ⟨after, false, []⟩ :=
      takeRun_joined true (by omega) (.inl rfl)
    rw [List.append_nil] at hback
    have hgap : 8 - before.length - after.length = length := by omega
    have htaken := Ipv6.take?_marked ip hback (by rw [hgap, hsplit]) (by omega)
    simp only [if_neg hlong, htake, hdrop]
    rw [String.toList_append, String.toList_append, toList_groupsText, toList_groupsText, parse?]
    simp [htaken]

/-- It is one of hexadecimal digits and colons. -/
theorem Ipv6.mem_compressed {ip : Ipv6} (h : c ∈ ip.compressed.toList) :
    c = ':' ∨ isDigitOf 16 c = true := by
  simp only [compressed] at h
  split at h
  · exact mem_joined (toList_groupsText _ ▸ h)
  · rw [String.toList_append, String.toList_append, toList_groupsText, toList_groupsText] at h
    rcases List.mem_append.mp h with h | h
    · rcases List.mem_append.mp h with h | h
      · exact mem_joined h
      · exact .inl (by simpa using h)
    · exact mem_joined h

/-- The groups of the address of version four that two groups stand for. -/
theorem Ipv4.groups_of_pair (x y : UInt16) :
    Ipv4.groups ⟨UInt8.ofNat (x.toNat / 256), UInt8.ofNat x.toNat, UInt8.ofNat (y.toNat / 256),
      UInt8.ofNat y.toNat⟩ = [x, y] := by
  have hpair : ∀ z : UInt16, UInt16.ofNat ((UInt8.ofNat (z.toNat / 256)).toNat * 256 +
      (UInt8.ofNat z.toNat).toNat) = z := by
    -- The two bytes of a group are its quotient and its remainder by 256.
    intro z
    have hlt := z.toNat_lt
    have hvalue : (UInt8.ofNat (z.toNat / 256)).toNat * 256 + (UInt8.ofNat z.toNat).toNat =
        z.toNat := by
      simp only [UInt8.toNat_ofNat']
      omega
    rw [hvalue, UInt16.ofNat_toNat]
  rw [Ipv4.groups, hpair, hpair]

/-- An address that stands for one of version four. -/
def Ipv6.IsMapped (ip : Ipv6) : Prop := ∃ x y, ip.groups = [0, 0, 0, 0, 0, 0xffff, x, y]

theorem Ipv6.text_of_mapped {ip : Ipv6} {x y : UInt16}
    (h : ip.groups = [0, 0, 0, 0, 0, 0xffff, x, y]) :
    ip.text = "::ffff:" ++ Ipv4.text ⟨UInt8.ofNat (x.toNat / 256), UInt8.ofNat x.toNat,
      UInt8.ofNat (y.toNat / 256), UInt8.ofNat y.toNat⟩ := by
  simp [Ipv6.text, h]

/-- Every other address has one text only. -/
theorem Ipv6.text_of_not_mapped {ip : Ipv6} (h : ¬ ip.IsMapped) : ip.text = ip.compressed := by
  rw [Ipv6.text]
  split
  · next x y hgroups => exact absurd ⟨x, y, hgroups⟩ h
  · rfl

/-- An address of version four ends a run of groups. -/
theorem takeRun_text (ip : Ipv4) {limit : Nat} (hlimit : 0 < limit) :
    takeRun false (limit + 1) (':' :: ip.text.toList) = ⟨ip.groups, true, []⟩ := by
  have htake := Ipv4.take?_text ip stopsAtFront_nil
  rw [List.append_nil] at htake
  simp [takeRun, takeSeparator?, takeChar?, hlimit, htake]

/-- **The text that shows an address of version four is read back, too.** -/
theorem Ipv6.parse?_text (ip : Ipv6) : parse? ip.text.toList = some ip := by
  by_cases hmapped : ip.IsMapped
  -- A mapped address is the mark, one group of ones and an address of version four.
  · obtain ⟨x, y, hgroups⟩ := hmapped
    rw [Ipv6.text_of_mapped hgroups]
    generalize hquad : (⟨UInt8.ofNat (x.toNat / 256), UInt8.ofNat x.toNat,
      UInt8.ofNat (y.toNat / 256), UInt8.ofNat y.toNat⟩ : Ipv4) = quad
    have hends : quad.groups = [x, y] := hquad ▸ Ipv4.groups_of_pair x y
    have hback : takeRun true 7 ((groupText 0xffff).toList ++ ':' :: quad.text.toList) =
        ⟨[0xffff, x, y], true, []⟩ := by
      -- The first group ends at the colon, and the address behind it ends the run.
      have hcolon : EndsGroup (':' :: quad.text.toList) := fun c hc => (Option.some.inj hc).symm
      have hgroup := takeRun_group (g := 0xffff) true 6 hcolon
      rw [takeRun_text quad (by decide), hends] at hgroup
      exact hgroup
    have htaken : take? (joined true [] ++ ':' :: ':' :: ((groupText 0xffff).toList ++
        ':' :: quad.text.toList)) = some (ip, []) := Ipv6.take?_marked ip hback hgroups (by simp)
    rw [joined, List.nil_append] at htaken
    have htext : ("::ffff:" ++ quad.text).toList =
        ':' :: ':' :: ((groupText 0xffff).toList ++ ':' :: quad.text.toList) := by
      rw [String.toList_append]
      rfl
    rw [htext, parse?, htaken]
  · rw [Ipv6.text_of_not_mapped hmapped]
    exact ip.parse?_compressed

/-- Without a colon there is one group at most, or an address of version four. -/
theorem takeRun_of_notMem (h : ':' ∉ cs) (limit : Nat) :
    (takeRun true limit cs).groups.length ≤ 2 ∧ ':' ∉ (takeRun true limit cs).rest := by
  -- Every group but the first needs a colon before it.
  have hno : ∀ limit, ∀ cs, ':' ∉ cs → takeRun false limit cs = ⟨[], false, cs⟩ := by
    intro limit cs hcs
    have hnone : takeSeparator? false cs = none := takeChar?_eq_none hcs
    cases limit <;> simp [takeRun, hnone]
  cases limit with
  | zero => exact ⟨by simp [takeRun], h⟩
  | succ limit =>
    -- Nothing that is taken at the front brings a colon behind it.
    have hquad : ∀ ip rest, Ipv4.take? cs = some (ip, rest) → ':' ∉ rest := by
      intro ip rest htake hmem
      obtain ⟨first, middle, last, rfl, -⟩ := Ipv4.exists_octets htake
      exact h (by simp [hmem])
    have hnumber : ∀ n rest, takeNumber? 16 (some 4) true 65536 cs = some (n, rest) → ':' ∉ rest := by
      intro n rest htake hmem
      obtain ⟨digits, rfl, -⟩ := exists_digits_of_takeNumber? htake
      exact h (by simp [hmem])
    simp only [takeRun, takeSeparator?, if_true, Option.bind_some]
    split
    -- The first group is an address of version four, which counts as two.
    · next ip rest hfound =>
      split at hfound
      · exact ⟨by simp [Ipv4.groups], hquad ip rest hfound⟩
      · cases hfound
    · split
      -- It is a number, and the next group lacks its colon.
      · next n rest hfound =>
        rw [hno limit rest (hnumber n rest hfound)]
        exact ⟨by simp, hnumber n rest hfound⟩
      · -- It is neither, and all the text is left.
        exact ⟨by simp, h⟩

theorem Ipv6.parse?_eq_none (h : ':' ∉ cs) : parse? cs = none := by
  obtain ⟨hshort, hrest⟩ := takeRun_of_notMem h 8
  have hne : (takeRun true 8 cs).groups.length ≠ 8 := by omega
  rw [parse?, take?]
  simp [hne, takeChar?_eq_none hrest]

/-- No text is an address of both versions. -/
theorem Ipv4.parse?_eq_none {ip : Ipv6} (h : Ipv6.parse? cs = some ip) : parse? cs = none := by
  cases hparse : parse? cs with
  | none => rfl
  | some quad =>
    -- All characters of such a text are digits and dots.
    have hcolon : ':' ∉ cs := fun hmem => by
      rcases Ipv4.mem_of_parse? hparse hmem with hdot | hdigit
      · exact absurd hdot (by decide)
      · exact absurd hdigit (by decide)
    rw [Ipv6.parse?_eq_none hcolon] at h
    cases h

end ObliviousRelay.Net
