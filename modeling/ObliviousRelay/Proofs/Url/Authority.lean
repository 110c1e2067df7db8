import ObliviousRelay.Proofs.Url.Host

/-!
# Authorities in normal form

User information that is encoded, a host that is told by its text, and a port that is not the default
one: such an authority is read back from its text as soon as its host is.

- `IsUserinfo`: user information in normal form.
- `Authority.IsNormal`: an authority in normal form; `isNormal_of_parseAuthority`.
- `parseAuthority_text`: what its text is read as.
-/

namespace ObliviousRelay.Url

variable {c : Char} {cs h front rest : List Char} {host : Host} {scheme : String} {a : Authority}
  {isFollowed : Bool}

/-! ## User information -/

/-- User information in normal form: a name, and a password that is not empty if there is one. -/
def IsUserinfo (cs : List Char) : Prop :=
  ∃ name password, IsEncoded userinfoSet name ∧ IsEncoded userinfoSet password ∧
    cs = name ++ if password.isEmpty then [] else ':' :: password

theorem isUserinfo_nil : IsUserinfo [] :=
  ⟨[], [], fun _ hc => absurd hc List.not_mem_nil, fun _ hc => absurd hc List.not_mem_nil, rfl⟩

theorem isUserinfo_userinfoText (cs : List Char) : IsUserinfo (userinfoText cs).toList := by
  rw [userinfoText, String.toList_ofList]
  refine ⟨percentEncode userinfoSet (cs.takeWhile (· != ':')),
    percentEncode userinfoSet ((cs.dropWhile (· != ':')).drop 1),
    isEncoded_percentEncode isProper_userinfoSet _, isEncoded_percentEncode isProper_userinfoSet _, ?_⟩
  simp only [List.isEmpty_iff, percentEncode_eq_nil_iff]

/-- **User information in normal form is read as it is.** -/
theorem userinfoText_of_isUserinfo (hcs : IsUserinfo cs) : userinfoText cs = String.ofList cs := by
  obtain ⟨name, password, hname, hpassword, rfl⟩ := hcs
  have hcolon : ∀ c ∈ name, (c != ':') = true :=
    forall_bne_of_notMem fun hmem => absurd (hname ':' hmem) (by decide)
  -- The colon after the name is the first of all, if there is one.
  have hstop : StopsAtFront (· != ':') (if password.isEmpty then [] else ':' :: password) := by
    split
    · exact stopsAtFront_nil
    · exact stopsAtFront_cons (by decide)
  have hrest : (if password.isEmpty then [] else ':' :: password).drop 1 = password := by
    cases password <;> rfl
  -- Both parts stay as they are, for their characters are encoded.
  rw [userinfoText, takeWhile_append_stop hcolon hstop, dropWhile_append_stop hcolon hstop, hrest,
    percentEncode_of_isEncoded hname, percentEncode_of_isEncoded hpassword]

theorem isAuthorityChar_of_userinfoSet (hc : userinfoSet c = false) : IsAuthorityChar c :=
  isAuthorityChar_of_set (by decide) (isGraphic_of_proper isProper_userinfoSet hc) hc

theorem IsUserinfo.isAuthorityChar (hcs : IsUserinfo cs) (hc : c ∈ cs) : IsAuthorityChar c := by
  obtain ⟨name, password, hname, hpassword, rfl⟩ := hcs
  rcases List.mem_append.mp hc with hc | hc
  · exact isAuthorityChar_of_userinfoSet (hname c hc)
  · split at hc
    · cases hc
    · rcases List.mem_cons.mp hc with rfl | hc
      · exact isAuthorityChar_of_mark (by decide)
      · exact isAuthorityChar_of_userinfoSet (hpassword c hc)

/-- An at sign at the end of user information, if there is any. -/
def userinfoPart (cs : List Char) : List Char := if cs.isEmpty then [] else cs ++ ['@']

theorem splitLastAt_of_notMem (hcs : '@' ∉ cs) : splitLastAt cs = (none, cs) := by
  have hall : ∀ c ∈ cs.reverse, (c != '@') = true :=
    forall_bne_of_notMem (mt List.mem_reverse.mp hcs)
  have htake := takeWhile_append_stop hall stopsAtFront_nil
  rw [List.append_nil] at htake
  simp [splitLastAt, htake]

theorem splitLastAt_append (front : List Char) (hrest : '@' ∉ rest) :
    splitLastAt (front ++ '@' :: rest) = (some front, rest) := by
  -- The at sign is the last of all: in the reversed text it is the first.
  have hall : ∀ c ∈ rest.reverse, (c != '@') = true :=
    forall_bne_of_notMem (mt List.mem_reverse.mp hrest)
  have hstop : StopsAtFront (· != '@') ('@' :: front.reverse) := stopsAtFront_cons (by decide)
  have htake : (front ++ '@' :: rest).reverse.takeWhile (· != '@') = rest.reverse := by
    rw [List.reverse_append, List.reverse_cons, List.append_assoc, List.singleton_append,
      takeWhile_append_stop hall hstop]
  have hlength : (front ++ '@' :: rest).length - rest.length - 1 = front.length := by
    rw [List.length_append, List.length_cons]
    omega
  have hne : rest.length ≠ (front ++ '@' :: rest).length := by
    rw [List.length_append, List.length_cons]
    omega
  simp only [splitLastAt, htake, List.reverse_reverse, if_neg hne, hlength, List.take_left]

/-- User information and what follows it come apart. -/
theorem splitLastAt_userinfoPart (cs : List Char) (hrest : '@' ∉ rest) :
    splitLastAt (userinfoPart cs ++ rest) = (if cs.isEmpty then none else some cs, rest) := by
  unfold userinfoPart
  split
  · exact splitLastAt_of_notMem hrest
  · rw [List.append_assoc, List.singleton_append]
    exact splitLastAt_append cs hrest

/-! ## Ports -/

/-- A port as it is written after its host. -/
def portPart (port : Option UInt16) : List Char :=
  marked ':' (port.map fun p => Nat.toDigits 10 p.toNat)

theorem digitsValue_toDigits (n : Nat) : Text.digitsValue (Nat.toDigits 10 n) = n := by
  have hvalue : Nat.ofDigitChars 10 (Nat.toDigits 10 n) 0 = n := Nat.ofDigitChars_ten_toDigits
  rw [Nat.ofDigitChars_eq_foldl] at hvalue
  simpa [Text.digitsValue, Nat.mul_comm] using hvalue

theorem isDigitOf_of_mem_port {p : UInt16} (hc : c ∈ Nat.toDigits 10 p.toNat) :
    Net.isDigitOf 10 c = true :=
  Net.isDigitOf_of_mem_toDigits (by decide) (by decide) hc

theorem isAuthorityChar_of_mem_portPart {port : Option UInt16} (hc : c ∈ portPart port) :
    IsAuthorityChar c := by
  refine forall_mem_marked (isAuthorityChar_of_mark (by decide)) (fun digits hdigits c hc => ?_) c hc
  obtain ⟨p, -, rfl⟩ := Option.map_eq_some_iff.mp hdigits
  exact isAuthorityChar_of_permitted (permitted_of_isDigitOf (isDigitOf_of_mem_port hc))

/-- **A port that is not the default one is read back.** -/
theorem parsePort_portPart {port : Option UInt16}
    (hport : ∀ p, port = some p → defaultPort? scheme ≠ some p) :
    parsePort scheme ((portPart port).drop 1) = .ok port := by
  cases port with
  | none => rfl
  | some p =>
    -- The port is a word, and its digits are read as what they were written for.
    have hlt := p.toNat_lt
    have hdigits : (Nat.toDigits 10 p.toNat).all Text.isDigit = true :=
      List.all_eq_true.mpr fun c hc => isDigit_of_isDigitOf (isDigitOf_of_mem_port hc)
    have hsmall : ¬ 65535 < p.toNat := by omega
    simp [portPart, marked, parsePort, hdigits, digitsValue_toDigits, hsmall, Nat.toDigits_ne_nil, hport p rfl]

theorem ne_default_of_parsePort {port : Option UInt16} (hparse : parsePort scheme cs = .ok port)
    (p : UInt16) (hp : port = some p) : defaultPort? scheme ≠ some p := by
  subst hp
  unfold parsePort at hparse
  split at hparse
  · cases hparse
  · split at hparse
    · cases hparse
    · split at hparse
      · cases hparse
      · simp only at hparse
        split at hparse
        · cases hparse
        · next hne =>
          obtain rfl := Option.some.inj (Except.ok.inj hparse)
          exact hne

/-! ## Authorities -/

/-- An authority in normal form. -/
structure Authority.IsNormal (scheme : String) (a : Authority) : Prop where
  userinfo : IsUserinfo a.userinfo.toList
  host : ∃ host, a.host = some host ∧ host.IsTold
  port : ∀ p, a.port = some p → defaultPort? scheme ≠ some p

theorem Authority.text_toList (hhost : a.host = some host) :
    a.text.toList = userinfoPart a.userinfo.toList ++ (host.text.toList ++ portPart a.port) := by
  have huser : (if a.userinfo.isEmpty then "" else a.userinfo ++ "@").toList =
      userinfoPart a.userinfo.toList := by
    unfold userinfoPart
    by_cases hempty : a.userinfo = ""
    · simp [hempty]
    · simp [hempty]
  rw [Authority.text, hhost, String.toList_append, String.toList_append, huser, List.append_assoc]
  cases a.port <;> simp [portPart, marked]

/-- The authority of a special scheme: there is a host, and what is around it. -/
theorem parseAuthority_special (scheme : String) (isFollowed : Bool) (cs : List Char) :
    parseAuthority scheme .special isFollowed cs =
      if (splitHost false (splitLastAt cs).2).1.isEmpty then .error .emptyHost
      else (Host.parse (splitHost false (splitLastAt cs).2).1).bind fun host =>
        (parsePort scheme ((splitHost false (splitLastAt cs).2).2.drop 1)).map fun port =>
          ⟨userinfoText ((splitLastAt cs).1.getD []), some host, port⟩ := by
  unfold parseAuthority
  simp only
  split
  · -- Without anything after the at sign there is no host, either.
    next hnothing =>
    have hrest : (splitLastAt cs).2 = [] := by
      simp only [Bool.and_eq_true] at hnothing
      simpa using hnothing.1.2
    rw [hrest]
    rfl
  · -- Otherwise the host is read, and then the port.
    split
    · rfl
    · cases Host.parse (splitHost false (splitLastAt cs).2).1 with
      | error fault => rfl
      | ok host =>
        cases parsePort scheme ((splitHost false (splitLastAt cs).2).2.drop 1) <;> rfl

/-- **An authority that was read has the normal form.** -/
theorem isNormal_of_parseAuthority
    (hparse : parseAuthority scheme .special isFollowed cs = .ok a) : a.IsNormal scheme := by
  rw [parseAuthority_special] at hparse
  split at hparse
  · cases hparse
  -- Each of the two parts that are read may be at fault.
  · cases hhost : Host.parse (splitHost false (splitLastAt cs).2).1 with
    | error fault =>
      rw [hhost] at hparse
      cases hparse
    | ok host =>
      cases hport : parsePort scheme ((splitHost false (splitLastAt cs).2).2.drop 1) with
      | error fault =>
        rw [hhost, hport] at hparse
        cases hparse
      | ok port =>
        rw [hhost, hport] at hparse
        obtain rfl := Except.ok.inj hparse
        exact ⟨isUserinfo_userinfoText _, ⟨host, rfl, isTold_of_parse hhost⟩,
          ne_default_of_parsePort hport⟩

/-- **The text of an authority is read back as soon as its host is.** -/
theorem parseAuthority_text (ha : a.IsNormal scheme) (hhost : a.host = some host) :
    parseAuthority scheme .special isFollowed a.text.toList =
      (Host.parse host.text.toList).map fun host => { a with host := some host } := by
  obtain ⟨host', hhost', htold⟩ := ha.host
  obtain rfl := Option.some.inj (hhost.symm.trans hhost')
  -- The host ends where the port begins.
  have hsplit : splitHost false (host.text.toList ++ portPart a.port) =
      (host.text.toList, portPart a.port) := splitHost_append htold.text _
  -- Neither of them has an at sign, so that the one before them is the last.
  have hsign : '@' ∉ host.text.toList ++ portPart a.port := fun hmem => by
    rcases List.mem_append.mp hmem with hmem | hmem
    · exact (htold.text.isAuthorityChar hmem).sign rfl
    · exact (isAuthorityChar_of_mem_portPart hmem).sign rfl
  -- The user's part is encoded already and stays as it is.
  have huser : userinfoText ((if a.userinfo.toList.isEmpty then none else some a.userinfo.toList).getD
      []) = a.userinfo := by
    split
    · next hempty =>
      have hnone : a.userinfo = "" := by simpa using hempty
      rw [hnone]
      exact userinfoText_of_isUserinfo isUserinfo_nil
    · exact (userinfoText_of_isUserinfo ha.userinfo).trans String.ofList_toList
  rw [Authority.text_toList hhost, parseAuthority_special, splitLastAt_userinfoPart _ hsign]
  simp only [hsplit, parsePort_portPart ha.port, huser]
  rw [if_neg (by simpa using htold.text.ne_nil)]
  cases Host.parse host.text.toList <;> rfl

/-- No character of an authority ends it. -/
theorem Authority.IsNormal.inside (ha : a.IsNormal scheme) (hc : c ∈ a.text.toList) :
    IsGraphic c ∧ endsAuthority .special c = false := by
  obtain ⟨host, hhost, htold⟩ := ha.host
  rw [Authority.text_toList hhost] at hc
  -- Every character stands in one of the three parts, or is the sign behind the first.
  have hchar : IsAuthorityChar c ∨ c = '@' := by
    rcases List.mem_append.mp hc with hc | hc
    · unfold userinfoPart at hc
      split at hc
      · cases hc
      · exact (List.mem_append.mp hc).imp ha.userinfo.isAuthorityChar List.mem_singleton.mp
    · rcases List.mem_append.mp hc with hc | hc
      · exact .inl (htold.text.isAuthorityChar hc)
      · exact .inl (isAuthorityChar_of_mem_portPart hc)
  rcases hchar with hchar | rfl
  · exact ⟨hchar.graphic, hchar.inside⟩
  · exact ⟨by decide, by decide⟩

theorem Authority.IsNormal.text_ne_nil (ha : a.IsNormal scheme) : a.text.toList ≠ [] := by
  obtain ⟨host, hhost, htold⟩ := ha.host
  rw [Authority.text_toList hhost]
  intro hnil
  exact htold.text.ne_nil (List.append_eq_nil_iff.mp (List.append_eq_nil_iff.mp hnil).2).1

end ObliviousRelay.Url
