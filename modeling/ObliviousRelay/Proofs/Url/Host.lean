import ObliviousRelay.Proofs.Idna.Names
import ObliviousRelay.Proofs.Net.Ip
import ObliviousRelay.Proofs.Text.Split
import ObliviousRelay.Proofs.Url.Encoding
import ObliviousRelay.Url.Parser

/-!
# The texts of hosts

The text of a host that was read stands in brackets if it is an address of version six, and otherwise
has neither brackets nor colons, so a port is told apart from it. A text without brackets names an
address in its strict form, or else a domain, and every host is named by its text.

- `IsHostText`: what the text of a host is.
- `splitHost_append`: a host and its port come apart.
- `Host.named`: the host that a text without brackets names.
- `Host.IsTold`: a host that is told by its text; `isTold_of_parse`: every host that is read is.
-/

namespace ObliviousRelay.Url

variable {c : Char} {cs h front last rest : List Char} {host : Host}

/-! ## Characters -/

/-- The text of a host, made of what it is without brackets. -/
inductive IsHostText (cs : List Char) : List Char → Prop where
  /-- A name or an address of version four. -/
  | plain (hne : cs ≠ []) (hcs : Idna.Permitted cs) : IsHostText cs cs
  /-- An address of version six. -/
  | bracketed (hcs : ∀ c ∈ cs, c = ':' ∨ Net.isDigitOf 16 c = true) :
      IsHostText cs ('[' :: (cs ++ [']']))

theorem isHex_of_isDigitOf {base : Nat} (hc : Net.isDigitOf base c = true) : Text.isHex c = true := by
  unfold Net.isDigitOf at hc
  split at hc
  · next d hd => simp [Text.isHex, hd]
  · cases hc

theorem permitted_of_isDigitOf {base : Nat} (hc : Net.isDigitOf base c = true) :
    Idna.isForbidden c = false :=
  Idna.permitted_of_isAlphanumeric (Text.isAlphanumeric_of_isHex (isHex_of_isDigitOf hc))

theorem not_closing_of_mem (hcs : ∀ c ∈ cs, c = ':' ∨ Net.isDigitOf 16 c = true) : ']' ∉ cs := by
  intro hmem
  rcases hcs ']' hmem with heq | hdigit
  · exact absurd heq (by decide)
  · exact absurd hdigit (by decide)

/-- A character that ends no authority and no user information, and is no control or space. -/
structure IsAuthorityChar (c : Char) : Prop where
  graphic : IsGraphic c
  inside : endsAuthority .special c = false
  sign : c ≠ '@'

/-- A character is one if a set has what ends an authority, and not the character. -/
theorem isAuthorityChar_of_set {set : Char → Bool} (hset : ['/', '?', '#', '\\', '@'].all set = true)
    (hgraphic : IsGraphic c) (hc : set c = false) : IsAuthorityChar c := by
  have hne : ∀ d ∈ ['/', '?', '#', '\\', '@'], c ≠ d := by
    rintro d hd rfl
    rw [List.all_eq_true.mp hset c hd] at hc
    cases hc
  refine ⟨hgraphic, ?_, hne '@' (by decide)⟩
  simp [endsAuthority, hne '/' (by decide), hne '?' (by decide), hne '#' (by decide),
    hne '\\' (by decide)]

theorem isAuthorityChar_of_permitted (hc : Idna.isForbidden c = false) : IsAuthorityChar c := by
  refine isAuthorityChar_of_set (by decide) ?_ hc
  simp only [Idna.isForbidden, Bool.or_eq_false_iff, decide_eq_false_iff_not] at hc
  exact Nat.not_le.mp hc.1.1

theorem isAuthorityChar_of_mark (hc : c ∈ ['[', ']', ':']) : IsAuthorityChar c := by
  simp only [List.mem_cons, List.not_mem_nil, or_false] at hc
  rcases hc with rfl | rfl | rfl <;> exact ⟨by decide, by decide, by decide⟩

theorem IsHostText.isAuthorityChar (hh : IsHostText cs h) (hc : c ∈ h) : IsAuthorityChar c := by
  cases hh with
  | plain hne hcs => exact isAuthorityChar_of_permitted (hcs c hc)
  | bracketed hcs =>
    rcases List.mem_cons.mp hc with rfl | hc
    · exact isAuthorityChar_of_mark (by decide)
    · rcases List.mem_append.mp hc with hc | hc
      -- A character of the address is a colon or a digit.
      · rcases hcs c hc with rfl | hdigit
        · exact isAuthorityChar_of_mark (by decide)
        · exact isAuthorityChar_of_permitted (permitted_of_isDigitOf hdigit)
      · obtain rfl := List.mem_singleton.mp hc
        exact isAuthorityChar_of_mark (by decide)

theorem IsHostText.ne_nil (hh : IsHostText cs h) : h ≠ [] := by
  cases hh with
  | plain hne hcs => exact hne
  | bracketed => exact List.cons_ne_nil _ _

/-! ## Host and port -/

theorem splitHost_plain (hcs : Idna.Permitted cs) (port : Option (List Char)) :
    splitHost false (cs ++ marked ':' port) = (cs, marked ':' port) := by
  induction cs with
  | nil => cases port <;> rfl
  | cons c cs ih =>
    obtain ⟨hc, hcs⟩ := List.forall_mem_cons.mp hcs
    have hcolon : c ≠ ':' := fun heq => by simp [heq, Idna.isForbidden] at hc
    have hopen : c ≠ '[' := fun heq => by simp [heq, Idna.isForbidden] at hc
    simp [splitHost, hcolon, hopen, ih hcs]

theorem splitHost_brackets (hcs : ']' ∉ cs) (port : Option (List Char)) :
    splitHost true (cs ++ ']' :: marked ':' port) = (cs ++ [']'], marked ':' port) := by
  induction cs with
  -- The closing bracket comes first, and behind it the host ends with the port.
  | nil =>
    have hrest : splitHost false ([] ++ marked ':' port) = ([], marked ':' port) :=
      splitHost_plain (fun _ hc => absurd hc List.not_mem_nil) port
    rw [List.nil_append] at hrest
    simp [splitHost, hrest]
  | cons c cs ih =>
    obtain ⟨hc, hcs⟩ := not_or.mp (mt List.mem_cons.mpr hcs)
    simp [splitHost, Ne.symm hc, ih hcs]

/-- **A host and its port come apart.** -/
theorem splitHost_append (hh : IsHostText cs h) (port : Option (List Char)) :
    splitHost false (h ++ marked ':' port) = (h, marked ':' port) := by
  cases hh with
  | plain hne hcs => exact splitHost_plain hcs port
  | bracketed hcs =>
    have hsplit := splitHost_brackets (not_closing_of_mem hcs) port
    simp [splitHost, hsplit]

/-! ## Names that are no addresses -/

theorem labels_of_notMem (hcs : '.' ∉ cs) : labels cs = [cs] := by
  induction cs with
  | nil => rfl
  | cons c cs ih =>
    obtain ⟨hc, hcs⟩ := not_or.mp (mt List.mem_cons.mpr hcs)
    rw [labels, List.foldr_cons, ← labels, ih hcs, if_neg (Ne.symm hc)]

/-- The labels after a dot are the last ones. -/
theorem labels_append_dot (front rest : List Char) :
    ∃ before, before ≠ [] ∧ labels (front ++ '.' :: rest) = before ++ labels rest := by
  induction front with
  -- The dot comes first: an empty label stands before it.
  | nil => exact ⟨[[]], by simp, rfl⟩
  | cons c front ih =>
    obtain ⟨before, hne, hbefore⟩ := ih
    rw [List.cons_append, labels, List.foldr_cons, ← labels, hbefore]
    split
    -- A further dot begins a label of its own.
    · exact ⟨[] :: before, by simp, rfl⟩
    -- Any other character is one of the label that comes first.
    · cases before with
      | nil => exact absurd rfl hne
      | cons l before => exact ⟨(c :: l) :: before, by simp, rfl⟩

theorem isDigit_of_isDigitOf (hc : Net.isDigitOf 10 c = true) : Text.isDigit c = true := by
  have hall : ∀ n ∈ List.range 128, Net.isDigitOf 10 (Char.ofNat n) = true →
      Text.isDigit (Char.ofNat n) = true := by decide +kernel
  exact Text.forall_ascii (P := fun c => Net.isDigitOf 10 c = true → Text.isDigit c = true) hall
    (Text.lt_of_isAlphanumeric (Text.isAlphanumeric_of_isHex (isHex_of_isDigitOf hc))) hc

/-- What is an address of version four in its strict form ends in a number. -/
theorem endsInNumber_of_parse? {ip : Net.Ipv4} (hcs : Net.Ipv4.parse? cs = some ip) :
    endsInNumber cs = true := by
  obtain ⟨front, last, rfl, hne, hlast⟩ := Net.Ipv4.exists_last hcs
  have hdot : '.' ∉ last := fun hmem => absurd (hlast '.' hmem) (by decide)
  obtain ⟨before, -, hlabels⟩ := labels_append_dot front last
  rw [labels_of_notMem hdot] at hlabels
  have hdigits : last.all Text.isDigit = true :=
    List.all_eq_true.mpr fun c hc => isDigit_of_isDigitOf (hlast c hc)
  simp [endsInNumber, significantLabels, hlabels, hne, hdigits]

/-! ## The host that a text names -/

/-- The host that a text without brackets names: an address in its strict form, or else a domain. -/
def Host.named (cs : List Char) : Host :=
  match Net.Ipv4.parse? cs with
  | some ip => .ipv4 ip
  | none => match Net.Ipv6.parse? cs with
    | some ip => .ipv6 ip
    | none => .domain (String.ofList cs)

theorem Host.named_v4 (ip : Net.Ipv4) : named ip.text.toList = .ipv4 ip := by
  rw [named, ip.parse?_text]

theorem Host.named_of_v6 {ip : Net.Ipv6} (hcs : Net.Ipv6.parse? cs = some ip) :
    named cs = .ipv6 ip := by
  rw [named, Net.Ipv4.parse?_eq_none hcs, hcs]

/-- A domain name that could be taken for an address is none. -/
theorem Host.named_domain (hcs : Idna.Permitted cs) (hnumber : endsInNumber cs = false) :
    named cs = .domain (String.ofList cs) := by
  -- A name has no colon, and is therefore no address of version six.
  have hcolon : ':' ∉ cs := fun hmem => by simpa [Idna.isForbidden] using hcs ':' hmem
  -- One that does not end in a number is no address of version four.
  have hquad : Net.Ipv4.parse? cs = none := by
    cases hparse : Net.Ipv4.parse? cs with
    | none => rfl
    | some ip =>
      rw [endsInNumber_of_parse? hparse] at hnumber
      cases hnumber
  rw [named, hquad, Net.Ipv6.parse?_eq_none hcolon]

/-! ## Hosts that are read -/

/-- The text of a host without its brackets. -/
def Host.bare : Host → String
  | domain name => name
  | ipv4 ip => ip.text
  | ipv6 ip => ip.compressed

/-- A host that is told by its text, with brackets for a port to follow it and without. -/
structure Host.IsTold (host : Host) : Prop where
  text : IsHostText host.bare.toList host.text.toList
  named : named host.bare.toList = host

theorem isTold_v4 (ip : Net.Ipv4) : (Host.ipv4 ip).IsTold where
  named := Host.named_v4 ip
  text := by
    refine .plain ?_ fun c hc => ?_
    · simp [Host.bare, Net.Ipv4.text_toList]
    · rcases Net.Ipv4.mem_of_parse? ip.parse?_text hc with rfl | hdigit
      · decide
      · exact permitted_of_isDigitOf hdigit

theorem isTold_v6 (ip : Net.Ipv6) : (Host.ipv6 ip).IsTold where
  named := Host.named_of_v6 ip.parse?_compressed
  text := by
    have htext : (Host.ipv6 ip).text.toList = '[' :: (ip.compressed.toList ++ [']']) := by
      rw [Host.text, String.toList_append, String.toList_append]
      rfl
    rw [htext]
    exact .bracketed fun c hc => Net.Ipv6.mem_compressed hc

/-- **Every host that is read is told by its text.** -/
theorem isTold_of_parse (hparse : Host.parse cs = .ok host) : host.IsTold := by
  unfold Host.parse at hparse
  split at hparse
  · -- In brackets there is an address of version six.
    unfold bracketed at hparse
    split at hparse
    · split at hparse
      · next ip hip =>
        obtain rfl := Except.ok.inj hparse
        exact isTold_v6 ip
      · cases hparse
    · cases hparse
  -- Anything else is a name in its ASCII form.
  · simp only at hparse
    split at hparse
    · cases hparse
    · next name hname =>
      obtain ⟨s, -, hascii⟩ := Option.bind_eq_some_iff.mp hname
      have hpermitted := Idna.permitted_of_toAscii? hascii
      split at hparse
      · cases hparse
      · next hempty =>
        split at hparse
        -- It ends in a number, and is an address of version four.
        · split at hparse
          · next ip hip =>
            obtain rfl := Except.ok.inj hparse
            exact isTold_v4 ip
          · cases hparse
        -- It is a domain.
        · next hnumber =>
          obtain rfl := Except.ok.inj hparse
          refine ⟨.plain ?_ ?_, ?_⟩
          · simpa [Host.bare] using hempty
          · simpa [Host.bare] using hpermitted
          · simpa [Host.bare] using Host.named_domain hpermitted (by simpa using hnumber)

end ObliviousRelay.Url
