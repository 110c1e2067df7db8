import ObliviousRelay.Gateway.Dialled
import ObliviousRelay.Gateway.Exchange
import ObliviousRelay.Net.SocketAddress
import ObliviousRelay.Proofs.Routing.Registry
import ObliviousRelay.Proofs.Url.Normal

/-!
# One endpoint, told in three ways

The Host field, the request target and the dialled address of a target are taken from its endpoint one
by one. They tell of the same endpoint: the Host field names the host and the port that are dialled, and
field and target together make up the endpoint again, without what is not sent.

- `HostField.read?`: the host and the port that the value of a Host field names; `read?_append`.
- `Url.stripped`: a URL without its user information and its fragment; `Url.parse_stripped`.
- `Target.hostHeader_names` and `Target.text_stripped`: what Host field and request target tell of.
- `Target.endpoint_described`: all of it, for every target of one of the two schemes.
-/

namespace ObliviousRelay

/-! ## Host fields -/

namespace HostField

/-- The port after a host, or the default one of a scheme. -/
def portAfter? (scheme : String) : List Char → Option UInt16
  | [] => Url.defaultPort? scheme
  | cs => match Net.SocketAddress.takePort? cs with
    | some (port, []) => some port
    | _ => none

/-- The host and what follows it, at the closing bracket or else at the colon. -/
def parts : List Char → List Char × List Char
  | '[' :: cs => (cs.takeWhile (· != ']'), (cs.dropWhile (· != ']')).drop 1)
  | cs => (cs.takeWhile (· != ':'), cs.dropWhile (· != ':'))

/-- The host and the port that the value of a Host field names, the host without its brackets. -/
def read? (scheme value : String) : Option (String × UInt16) :=
  let (host, rest) := parts value.toList
  (portAfter? scheme rest).map (String.ofList host, ·)

variable {scheme : String} {cs h : List Char}

theorem portAfter?_portPart (scheme : String) (port : Option UInt16) :
    portAfter? scheme (Url.portPart port) = port.or (Url.defaultPort? scheme) := by
  cases port with
  | none => rfl
  | some p =>
    have hlt := p.toNat_lt
    -- The digits of a port that was written are read as the port again.
    have htake : Net.takeNumber? 10 none true 65536 (Nat.toDigits 10 p.toNat ++ []) =
        some (p.toNat, []) :=
      Net.takeNumber?_toDigits (by decide) (by decide) (by simp) (by omega) stopsAtFront_nil
    rw [List.append_nil] at htake
    simp [Url.portPart, marked, portAfter?, Net.SocketAddress.takePort?, Net.takeChar?, htake]

/-- A host and the port after it come apart, without the brackets. -/
theorem parts_append (hh : Url.IsHostText cs h) (port : Option UInt16) :
    parts (h ++ Url.portPart port) = (cs, Url.portPart port) := by
  have hport : StopsAtFront (· != ':') (Url.portPart port) := stopsAtFront_marked (by decide) _
  cases hh with
  | plain hne hcs =>
    -- A name has no colon, and so the first one is that of the port.
    have hcolon : ∀ c ∈ cs, (c != ':') = true :=
      forall_bne_of_notMem fun hmem => absurd (hcs ':' hmem) (by decide)
    unfold parts
    split
    · next inside hinside =>
      -- The host begins with no bracket.
      obtain ⟨c, cs, rfl⟩ := List.exists_cons_of_ne_nil hne
      obtain rfl := (List.cons.inj hinside).1
      exact absurd (hcs '[' List.mem_cons_self) (by decide)
    · rw [takeWhile_append_stop hcolon hport, dropWhile_append_stop hcolon hport]
  | bracketed hcs =>
    -- In brackets the address ends at the closing one.
    have hclosing : ∀ c ∈ cs, (c != ']') = true :=
      forall_bne_of_notMem (Url.not_closing_of_mem hcs)
    have hstop : StopsAtFront (· != ']') (']' :: Url.portPart port) := stopsAtFront_cons (by decide)
    simp only [parts, List.cons_append, List.append_assoc, List.nil_append,
      takeWhile_append_stop hclosing hstop, dropWhile_append_stop hclosing hstop, List.drop_one,
      List.tail_cons]

/-- **A host with a port after it is read back.** -/
theorem read?_append (hh : Url.IsHostText cs h) (port : Option UInt16) :
    read? scheme (String.ofList (h ++ Url.portPart port)) =
      (port.or (Url.defaultPort? scheme)).map (String.ofList cs, ·) := by
  rw [read?, String.toList_ofList, parts_append hh]
  simp only [portAfter?_portPart]

end HostField

/-! ## What is left out -/

namespace Url

variable {u : Url} {a : Url.Authority} {host : Url.Host}

/-- A URL without its user information and its fragment. -/
def stripped (u : Url) : Url :=
  { u with authority := u.authority.map fun a => { a with userinfo := "" }, fragment := none }

@[simp]
theorem stripped_scheme (u : Url) : u.stripped.scheme = u.scheme := rfl

@[simp]
theorem stripped_path (u : Url) : u.stripped.path = u.path := rfl

@[simp]
theorem stripped_query (u : Url) : u.stripped.query = u.query := rfl

@[simp]
theorem stripped_host? (u : Url) : u.stripped.host? = u.host? := by
  cases h : u.authority <;> simp [stripped, host?, h]

@[simp]
theorem stripped_port? (u : Url) : u.stripped.port? = u.port? := by
  cases h : u.authority <;> simp [stripped, port?, h]

@[simp]
theorem stripped_stripped (u : Url) : u.stripped.stripped = u.stripped := by
  cases h : u.authority <;> simp [stripped, h]

theorem IsNormal.stripped (hu : u.IsNormal) : u.stripped.IsNormal := by
  obtain ⟨a, ha, hauthority⟩ := hu.authority
  refine ⟨hu.scheme, ⟨{ a with userinfo := "" }, by simp [Url.stripped, ha], ?_⟩, hu.path, hu.query,
    fun f hf => by cases hf⟩
  exact ⟨isUserinfo_nil, hauthority.host, hauthority.port⟩

/-- A URL in normal form is read back just where its host is. -/
theorem parse_text_iff (hu : u.IsNormal) (ha : u.authority = some a) (hhost : a.host = some host) :
    parse u.text = .ok u ↔ Host.parse host.text.toList = .ok host := by
  rw [parse_text hu ha hhost]
  cases hparse : Host.parse host.text.toList with
  | error fault =>
    constructor
    · intro h
      cases h
    · intro h
      cases h
  | ok host' =>
    -- The host is all that the two may differ in.
    constructor
    · intro h
      have hauthority := congrArg Url.authority (Except.ok.inj h)
      rw [ha] at hauthority
      have heq := congrArg Url.Authority.host (Option.some.inj hauthority)
      rw [hhost] at heq
      rw [Option.some.inj heq]
    · intro h
      obtain rfl := Except.ok.inj h
      have hsame : { a with host := some host' } = a := by rw [← hhost]
      have hurl : { u with authority := some a } = u := by rw [← ha]
      simp only [Except.map, hsame, hurl]

/-- At an address of version six it always is. -/
theorem parse_text_v6 {ip : Net.Ipv6} (hu : u.IsNormal) (ha : u.authority = some a)
    (hhost : a.host = some (.ipv6 ip)) : parse u.text = .ok u := by
  have htext : (Host.ipv6 ip).text.toList = '[' :: (ip.compressed.toList ++ [']']) := by
    simp [Host.text]
  have hbracketed : bracketed (ip.compressed.toList ++ [']']) = .ok (.ipv6 ip) := by
    simp [bracketed, ip.parse?_compressed]
  refine (parse_text_iff hu ha hhost).mpr ?_
  rw [htext]
  exact hbracketed

/-- **What is left of a URL is read back if the URL is.** -/
theorem parse_stripped (hu : u.IsNormal) (hread : parse u.text = .ok u) :
    parse u.stripped.text = .ok u.stripped := by
  obtain ⟨a, ha, hauthority⟩ := hu.authority
  obtain ⟨host, hhost, -⟩ := hauthority.host
  have hstripped : u.stripped.authority = some { a with userinfo := "" } := by simp [stripped, ha]
  exact (parse_text_iff hu.stripped hstripped hhost).mpr ((parse_text_iff hu ha hhost).mp hread)

end Url

/-! ## What is sent and what is dialled -/

namespace Target

variable {config : Config} {g : Config.Gateway} {t t' : Target} {a : Url.Authority} {host : Url.Host}

theorem isNormal_endpoint (hresolved : ofGateway config g = .ok t)
    (hscheme : t.endpoint.scheme = "http" ∨ t.endpoint.scheme = "https") : t.endpoint.IsNormal := by
  obtain ⟨endpoint, hendpoint, rfl⟩ := eq_of_ofGateway hresolved
  refine Url.isNormal_of_parse hendpoint ?_
  rcases hscheme with h | h <;> rw [h] <;> rfl

/-- Both schemes have a default port. -/
theorem exists_defaultPort (hscheme : t.endpoint.scheme = "http" ∨ t.endpoint.scheme = "https") :
    ∃ port, Url.defaultPort? t.endpoint.scheme = some port := by
  rcases hscheme with h | h
  · exact ⟨80, by rw [h]; rfl⟩
  · exact ⟨443, by rw [h]; rfl⟩

/-! ### The host -/

theorem hostHeader_eq (ha : t.endpoint.authority = some a) (hhost : a.host = some host) :
    t.hostHeader = String.ofList (host.text.toList ++ Url.portPart a.port) := by
  have hhost? : t.endpoint.host? = some host := by rw [Url.host?, ha, Option.bind_some, hhost]
  have hport? : t.endpoint.port? = a.port := by rw [Url.port?, ha, Option.bind_some]
  rw [hostHeader, hhost?, hport?]
  cases a.port <;> simp [Url.portPart, marked, String.ext_iff]

/-- **What is dialled for a host names the host.** -/
theorem named_dialledHost (htold : host.IsTold) :
    Url.Host.named (dialledHost host).toList = host := by
  cases host with
  | domain name => exact htold.named
  | ipv4 ip => exact htold.named
  -- The text that is dialled is read as the address, although it may end in one of version four.
  | ipv6 ip => exact Url.Host.named_of_v6 ip.parse?_text

/-- It is the text of the host without brackets, but for an address that stands for one of version
four. -/
theorem dialledHost_eq_bare_iff :
    dialledHost host = host.bare ↔ ¬ ∃ ip, host = .ipv6 ip ∧ ip.IsMapped := by
  cases host with
  | domain name => simp [dialledHost, Url.Host.bare]
  | ipv4 ip => simp [dialledHost, Url.Host.bare]
  | ipv6 ip =>
    constructor
    · rintro hsame ⟨ip', heq, x, y, hgroups⟩
      obtain rfl := Url.Host.ipv6.inj heq
      -- One text has a dot and the other one has none.
      have hdot : '.' ∈ ip.text.toList := by
        rw [Net.Ipv6.text_of_mapped hgroups, String.toList_append, Net.Ipv4.text_toList]
        simp
      rw [show ip.text = ip.compressed from hsame] at hdot
      rcases Net.Ipv6.mem_compressed hdot with heq | hdigit
      · exact absurd heq (by decide)
      · exact absurd hdigit (by decide)
    -- Any other address has one text for both.
    · intro hmapped
      exact Net.Ipv6.text_of_not_mapped fun h => hmapped ⟨ip, rfl, h⟩

/-- **The Host field names the host and the port that are dialled.** -/
theorem hostHeader_names (hnormal : t.endpoint.IsNormal)
    (hscheme : t.endpoint.scheme = "http" ∨ t.endpoint.scheme = "https") :
    ∃ host written d, t.endpoint.host? = some host ∧ t.dialled? = .ok d ∧
      HostField.read? t.endpoint.scheme t.hostHeader = some (written, d.port) ∧
      Url.Host.named written.toList = host ∧ Url.Host.named d.host.toList = host ∧
      (d.host = written ↔ ¬ ∃ ip, host = .ipv6 ip ∧ ip.IsMapped) := by
  obtain ⟨a, ha, hauthority⟩ := hnormal.authority
  obtain ⟨host, hhost, htold⟩ := hauthority.host
  obtain ⟨default, hdefault⟩ := exists_defaultPort hscheme
  have hhost? : t.endpoint.host? = some host := by rw [Url.host?, ha, Option.bind_some, hhost]
  -- The port that is dialled is the one written, or that of the scheme.
  have hport : t.endpoint.effectivePort? = some (a.port.getD default) := by
    rw [Url.effectivePort?, Url.port?, ha, hdefault]
    cases hwritten : a.port <;> simp [hwritten]
  refine ⟨host, host.bare, ⟨dialledHost host, a.port.getD default⟩, hhost?, ?_, ?_, htold.named,
    named_dialledHost htold, dialledHost_eq_bare_iff⟩
  · simp only [dialled?, hhost?, hport]
  · rw [hostHeader_eq ha hhost, HostField.read?_append htold.text, hdefault]
    cases a.port <;> simp

/-! ### The request target -/

theorem exists_slash_requestPath (hnormal : t.endpoint.IsNormal) :
    ∃ rest, t.requestPath = "/" ++ rest := by
  obtain ⟨rest, hpath⟩ := hnormal.path.exists_slash
  have hslash : t.endpoint.path = "/" ++ String.ofList rest := by
    -- The path begins with a slash, whatever follows in it or after it.
    simp [String.ext_iff, hpath]
  rw [requestPath, hslash]
  cases t.endpoint.query with
  | none => exact ⟨_, rfl⟩
  | some query =>
    refine ⟨String.ofList rest ++ ("?" ++ query), ?_⟩
    simp only [String.append_assoc]

/-- **Scheme, Host field and request target are the endpoint without what is not sent.** -/
theorem text_stripped (ha : t.endpoint.authority = some a) (hhost : a.host = some host) :
    t.endpoint.scheme ++ "://" ++ t.hostHeader ++ t.requestPath = t.endpoint.stripped.text := by
  have hstripped : t.endpoint.stripped.authority = some { a with userinfo := "" } := by
    simp [Url.stripped, ha]
  have hauthority : ({ a with userinfo := "" } : Url.Authority).text.toList =
      host.text.toList ++ Url.portPart a.port := by
    rw [Url.Authority.text_toList (a := { a with userinfo := "" }) hhost]
    rfl
  rw [String.ext_iff, Url.text_toList hstripped, hostHeader_eq ha hhost, hauthority]
  cases hquery : t.endpoint.query <;>
    simp [requestPath, Url.tailPart, Url.stripped, marked, hquery]

/-! ### What is not sent -/

/-- **User information and fragment make no difference.** -/
theorem same_of_stripped (h : t'.endpoint.stripped = t.endpoint.stripped) :
    t'.dialled? = t.dialled? ∧ t'.isSecure = t.isSecure ∧
      ∀ o, Gateway.wireRequest t' o = Gateway.wireRequest t o := by
  -- Host, port, scheme, path and query are all that is read of an endpoint.
  have hhost : t'.endpoint.host? = t.endpoint.host? := by simpa using congrArg Url.host? h
  have hport : t'.endpoint.port? = t.endpoint.port? := by simpa using congrArg Url.port? h
  have hscheme : t'.endpoint.scheme = t.endpoint.scheme := by simpa using congrArg Url.scheme h
  have hpath : t'.endpoint.path = t.endpoint.path := by simpa using congrArg Url.path h
  have hquery : t'.endpoint.query = t.endpoint.query := by simpa using congrArg Url.query h
  have hheader : t'.hostHeader = t.hostHeader := by rw [hostHeader, hostHeader, hhost, hport]
  have htarget : t'.requestPath = t.requestPath := by rw [requestPath, requestPath, hpath, hquery]
  refine ⟨?_, ?_, fun o => ?_⟩
  · rw [dialled?, dialled?, Url.effectivePort?, Url.effectivePort?, hhost, hport, hscheme]
  · rw [isSecure, isSecure, hscheme]
  · rw [Gateway.wireRequest, Gateway.wireRequest, hheader, htarget]

/-- **Host field, request target and dialled address tell of one endpoint.** The Host field names the
port that is dialled and the same domain or address. It does so by the same text, too, unless an address
that stands for one of version four is dialled in the notation that shows it. -/
theorem endpoint_described (hresolved : ofGateway config g = .ok t)
    (hscheme : t.endpoint.scheme = "http" ∨ t.endpoint.scheme = "https") :
    (∃ host written d, t.endpoint.host? = some host ∧ t.dialled? = .ok d ∧
      HostField.read? t.endpoint.scheme t.hostHeader = some (written, d.port) ∧
      Url.Host.named written.toList = host ∧ Url.Host.named d.host.toList = host ∧
      (d.host = written ↔ ¬ ∃ ip, host = .ipv6 ip ∧ ip.IsMapped)) ∧
    (∃ rest, t.requestPath = "/" ++ rest) ∧
    (Url.parse t.endpoint.text = .ok t.endpoint →
      Url.parse (t.endpoint.scheme ++ "://" ++ t.hostHeader ++ t.requestPath) =
        .ok t.endpoint.stripped) ∧
    ∀ t' : Target, t'.endpoint.stripped = t.endpoint.stripped →
      t'.dialled? = t.dialled? ∧ t'.isSecure = t.isSecure ∧
        ∀ o, Gateway.wireRequest t' o = Gateway.wireRequest t o := by
  have hnormal := isNormal_endpoint hresolved hscheme
  obtain ⟨a, ha, hauthority⟩ := hnormal.authority
  obtain ⟨host, hhost, -⟩ := hauthority.host
  refine ⟨hostHeader_names hnormal hscheme, exists_slash_requestPath hnormal, fun hread => ?_,
    fun t' => same_of_stripped⟩
  rw [text_stripped ha hhost]
  exact Url.parse_stripped hnormal hread

/-- An endpoint that is not written in normal form, at an address that stands for one of version
four. -/
def disguisedGateway : Config.Gateway where
  name := "disguised"
  endpoint := "HTTPS://user:secret@[::ffff:1.2.3.4]:8443/a/../b?q=1#top"

/-- The endpoint itself. -/
def disguisedEndpoint : Url where
  scheme := "https"
  authority := some {
    userinfo := "user:secret"
    host := some (.ipv6 ⟨[0, 0, 0, 0, 0, 0xffff, 0x102, 0x304], rfl⟩)
    port := some 8443 }
  path := "/b"
  query := some "q=1"
  fragment := some "top"

/-- Here the Host field has another text for the address than what is dialled. Neither shows who the
user is, and without user information the same is sent to the same address. -/
theorem endpoint_described_disguised :
    ∃ t, ofGateway {} disguisedGateway = .ok t ∧ t.endpoint = disguisedEndpoint ∧
      t.hostHeader = "[::ffff:102:304]:8443" ∧ t.dialled? = .ok ⟨"::ffff:1.2.3.4", 8443⟩ ∧
      Url.Host.named "::ffff:102:304".toList = Url.Host.named "::ffff:1.2.3.4".toList ∧
      (∃ rest, t.requestPath = "/" ++ rest) ∧
      Url.parse "https://[::ffff:102:304]:8443/b?q=1" = .ok t.endpoint.stripped ∧
      ∀ o, Gateway.wireRequest { t with endpoint := t.endpoint.stripped } o =
        Gateway.wireRequest t o := by
  have hparse : Url.parse disguisedGateway.endpoint = .ok disguisedEndpoint := by decide +kernel
  obtain ⟨t, hresolved, hendpoint⟩ :
      ∃ t, ofGateway {} disguisedGateway = .ok t ∧ t.endpoint = disguisedEndpoint := by
    rw [ofGateway, hparse]
    exact ⟨_, rfl, rfl⟩
  have hheader : t.hostHeader = "[::ffff:102:304]:8443" := by
    rw [hostHeader, hendpoint]
    decide +kernel
  have hpath : t.requestPath = "/b?q=1" := by
    rw [requestPath, hendpoint]
    rfl
  have hdialled : t.dialled? = .ok ⟨"::ffff:1.2.3.4", 8443⟩ := by
    rw [dialled?, hendpoint]
    decide +kernel
  obtain ⟨⟨host, written, d, -, hd, hread, hwritten, hnamed, -⟩, hslash, hback, hsame⟩ :=
    endpoint_described hresolved (.inr (by rw [hendpoint]; rfl))
  have hread' : HostField.read? t.endpoint.scheme t.hostHeader = some ("::ffff:102:304", 8443) := by
    rw [hheader, hendpoint]
    decide +kernel
  obtain rfl := Except.ok.inj (hdialled.symm.trans hd)
  obtain rfl := (Prod.mk.inj (Option.some.inj (hread'.symm.trans hread))).1
  have htext : t.endpoint.scheme ++ "://" ++ t.hostHeader ++ t.requestPath =
      "https://[::ffff:102:304]:8443/b?q=1" := by
    rw [hheader, hpath, hendpoint]
    rfl
  -- The text is read as the endpoint, since an address of version six is read as itself.
  refine ⟨t, hresolved, hendpoint, hheader, hdialled, hwritten.trans hnamed.symm, hslash, ?_,
    (hsame { t with endpoint := t.endpoint.stripped } (Url.stripped_stripped _)).2.2⟩
  rw [← htext]
  refine hback ?_
  rw [hendpoint]
  exact Url.parse_text_v6 (hendpoint ▸ isNormal_endpoint hresolved (.inr (by rw [hendpoint]; rfl))) rfl rfl

end Target

end ObliviousRelay
