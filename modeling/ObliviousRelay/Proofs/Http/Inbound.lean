import Mathlib.Logic.ExistsUnique
import ObliviousRelay.Http.Inbound
import ObliviousRelay.Proofs.Message

/-!
# Which requests are accepted

Of a request the method, the path and the declared media type are looked at, then the declared
length, then the length of what comes, and last whether anything came. What is accepted passes all
of these checks; what is refused is refused for the first that it does not pass. A body matters as a
whole: how it is cut into pieces is not to be seen.

- `Inbound.Admits`, `Inbound.RefusesHead`: what a head is admitted or refused for.
- `Inbound.RefusedAt`: the check that a request does not pass, and the failure this makes.
- `Inbound.read_verdict`: which requests are accepted, as what, and what is said of the rest.
-/

namespace ObliviousRelay

/-! ## Bodies -/

/-- Pieces of bytes, one after the other. -/
def joined (chunks : List ByteArray) : ByteArray := chunks.foldl (· ++ ·) .empty

namespace Http.Body

variable {bound : Nat} {read : ByteArray} {body more : Body}

/-- A body is read piece by piece, and the rest with what was read so far. -/
theorem collectFrom_append (bound : Nat) (read : ByteArray) (body more : Body) :
    collectFrom bound read (body ++ more) =
      (collectFrom bound read body).bind fun bytes => collectFrom bound bytes more := by
  induction body generalizing read with
  | nil => rfl
  | cons p rest ih =>
    cases p with
    | broken => rfl
    | bytes b =>
      simp only [List.cons_append, collectFrom]
      split
      · rfl
      · exact ih _

/-- What cannot be read cannot be read on. -/
theorem collect_append_of_none (h : collect bound body = none) :
    collect bound (body ++ more) = none := by
  rw [collect, collectFrom_append, ← collect, h, Option.bind_none]

/-- A body that can be read consists of bytes, and is read as it is. -/
theorem chunks_of_collect {bytes : ByteArray} (h : collect bound body = some bytes) :
    ∃ chunks : List ByteArray, body = chunks.map .bytes ∧ bytes = joined chunks := by
  -- The reading is followed from any bytes that were read before.
  have hfrom : ∀ (body : Body) (read : ByteArray), collectFrom bound read body = some bytes →
      ∃ chunks : List ByteArray, body = chunks.map .bytes ∧ bytes = chunks.foldl (· ++ ·) read := by
    intro body
    induction body with
    | nil => exact fun read h => ⟨[], rfl, (Option.some.inj h).symm⟩
    | cons p rest ih =>
      intro read h
      cases p with
      | broken => cases h
      -- A piece is read if all so far is within the bound.
      | bytes b =>
        rw [collectFrom] at h
        split at h
        · cases h
        · obtain ⟨chunks, rfl, rfl⟩ := ih _ h
          exact ⟨b :: chunks, rfl, rfl⟩
  exact hfrom body .empty h

/-- Reading adds to the bytes. -/
theorem size_le_foldl (chunks : List ByteArray) (read : ByteArray) :
    read.size ≤ (chunks.foldl (· ++ ·) read).size := by
  induction chunks generalizing read with
  | nil => exact Nat.le_refl _
  | cons b rest ih =>
    have hmore := ih (read ++ b)
    rw [ByteArray.size_append] at hmore
    exact Nat.le_trans (Nat.le_add_right _ _) hmore

/-- **How a body is cut into pieces does not matter to its reading**: it is read if its bytes stay
within the bound. -/
theorem collect_chunks (bound : Nat) (chunks : List ByteArray) :
    collect bound (chunks.map .bytes) =
      if (joined chunks).size ≤ bound then some (joined chunks) else none := by
  have hfrom : ∀ (chunks : List ByteArray) (read : ByteArray), read.size ≤ bound →
      collectFrom bound read (chunks.map .bytes) =
        if (chunks.foldl (· ++ ·) read).size ≤ bound then some (chunks.foldl (· ++ ·) read)
        else none := by
    intro chunks
    induction chunks with
    | nil => exact fun read hread => (if_pos hread).symm
    | cons b rest ih =>
      intro read hread
      rw [List.map_cons, collectFrom, List.foldl_cons]
      split
      · next hlong =>
        -- What is too long stays too long.
        have hmore := size_le_foldl rest (read ++ b)
        rw [ByteArray.size_append] at hmore
        rw [if_neg (by omega)]
      · exact ih _ (by rw [ByteArray.size_append]; omega)
  exact hfrom chunks .empty (Nat.zero_le _)

/-- A body consists of bytes or breaks off somewhere. -/
theorem chunks_or_broken (body : Body) :
    (∃ chunks : List ByteArray, body = chunks.map .bytes) ∨ .broken ∈ body := by
  induction body with
  | nil => exact .inl ⟨[], rfl⟩
  | cons p rest ih =>
    cases p with
    | broken => exact .inr List.mem_cons_self
    | bytes b =>
      rcases ih with ⟨chunks, rfl⟩ | hbroken
      · exact .inl ⟨b :: chunks, rfl⟩
      · exact .inr (List.mem_cons_of_mem _ hbroken)

/-- A body that breaks off is not read, wherever it does. -/
theorem collect_of_broken (h : .broken ∈ body) : collect bound body = none := by
  rw [Option.eq_none_iff_forall_ne_some]
  intro bytes hbytes
  obtain ⟨chunks, rfl, -⟩ := chunks_of_collect hbytes
  simp at h

end Http.Body

namespace Http

/-! ## Heads -/

/-- A field value that can be read as a text: each byte is visible, a space or a tab, and stands for
the character of its code. -/
def ReadsAs (value : ByteArray) (s : String) : Prop :=
  (∀ b ∈ value.toList, b = 0x09 ∨ 0x20 ≤ b ∧ b ≤ 0x7e) ∧
    s.toList = value.toList.map fun b => Char.ofNat b.toNat

/-- A header's value is a text just when it is read as one. -/
theorem valueText?_eq_some_iff {value : ByteArray} {s : String} :
    valueText? value = some s ↔ ReadsAs value s := by
  simp only [valueText?, ReadsAs, Option.ite_none_right_eq_some, List.all_eq_true, isTextByte,
    Bool.or_eq_true, beq_iff_eq, Bool.and_eq_true, decide_eq_true_eq, Option.some.injEq]
  rw [String.ext_iff, String.toList_ofList, eq_comm]

namespace Inbound

/-- The first Content-Type is a text, and is that of an encapsulated request. -/
def Declares (fields : Fields) (declared : String) : Prop :=
  (∃ value, fields.first? .contentType = some value ∧ ReadsAs value declared) ∧
    MediaType.parse? declared = some .request

/-- What an admitted head has been looked at for. -/
structure Admits (route : Route) (head : RequestHead) (a : Admission) : Prop where
  posted : head.method = "POST"
  selected : Selector.ofRequest? route.pathPrefix head.path head.fields route.selectorHeader =
    some a.selector
  declared : Declares head.fields a.declaredType
  within : ∀ n, declaredLength? head.fields = some n → n ≤ route.maxBodySize

/-- What a request has to pass, in this order. -/
inductive Check where
  | method
  | path
  | mediaType
  | declaredLength
  | length
  | emptiness
  deriving DecidableEq, Repr

section Verdict

variable (route : Route) (head : RequestHead)

/-- The check that a head does not pass after it has passed those before, and the failure. -/
inductive RefusesHead : Check → Failure → Prop
  | method (h : head.method ≠ "POST") : RefusesHead .method .methodNotAllowed
  | path (hposted : head.method = "POST")
      (h : Selector.ofRequest? route.pathPrefix head.path head.fields route.selectorHeader = none) :
      RefusesHead .path .unknownGateway
  | mediaType {selector} (hposted : head.method = "POST")
      (hselected : Selector.ofRequest? route.pathPrefix head.path head.fields route.selectorHeader =
        some selector)
      (h : ∀ declared, ¬ Declares head.fields declared) :
      RefusesHead .mediaType .unsupportedMediaType
  | declaredLength {selector declared n} (hposted : head.method = "POST")
      (hselected : Selector.ofRequest? route.pathPrefix head.path head.fields route.selectorHeader =
        some selector)
      (hdeclared : Declares head.fields declared) (hlength : declaredLength? head.fields = some n)
      (h : route.maxBodySize < n) : RefusesHead .declaredLength (.malformedMessage .tooLarge)

/-- The check that a request does not pass after it has passed those before, and the failure. A body
that breaks off has no length, and is taken for one that is too long. -/
inductive RefusedAt (body : Body) : Check → Failure → Prop
  | head {check failure} (h : RefusesHead route head check failure) : RefusedAt body check failure
  | length {a} (hadmits : Admits route head a)
      (h : .broken ∈ body ∨ ∃ chunks : List ByteArray, body = chunks.map .bytes ∧
        route.maxBodySize < (joined chunks).size) :
      RefusedAt body .length (.malformedMessage .tooLarge)
  | emptiness {a} {chunks : List ByteArray} (hadmits : Admits route head a)
      (hbody : body = chunks.map .bytes) (h : (joined chunks).size = 0) :
      RefusedAt body .emptiness (.malformedMessage .empty)

end Verdict

variable {route : Route} {head : RequestHead} {a : Admission} {body : Body} {check : Check}
  {failure : Failure}

/-- The declared type is what the request declares. -/
theorem declaredType?_eq_some_iff {fields : Fields} {declared : String} :
    declaredType? fields = some declared ↔ Declares fields declared := by
  simp only [declaredType?, Option.filter_eq_some_iff, Fields.text?, Option.bind_eq_some_iff,
    valueText?_eq_some_iff, decide_eq_true_eq, Declares]

theorem declaresTooMuch_iff {fields : Fields} {bound : Nat} :
    declaresTooMuch bound fields = true ↔ ∃ n, declaredLength? fields = some n ∧ bound < n := by
  unfold declaresTooMuch
  cases declaredLength? fields <;> simp

/-- What is admitted passes all checks of the head. -/
theorem screen_of_admits (h : Admits route head a) : screen route head = .ok a := by
  have hlength : declaresTooMuch route.maxBodySize head.fields = false := by
    rw [Bool.eq_false_iff]
    intro htoo
    obtain ⟨n, hn, hlong⟩ := declaresTooMuch_iff.mp htoo
    exact Nat.not_lt.mpr (h.within n hn) hlong
  simp [screen, h.posted, h.selected, declaredType?_eq_some_iff.mpr h.declared, hlength]

/-- What is refused fails at its check. -/
theorem screen_of_refusesHead (h : RefusesHead route head check failure) :
    screen route head = .error failure := by
  cases h with
  | method h => simp [screen, h]
  | path hposted h => simp [screen, hposted, h]
  | mediaType hposted hselected h =>
    have hnone : declaredType? head.fields = none :=
      Option.eq_none_iff_forall_ne_some.mpr fun declared hsome =>
        h declared (declaredType?_eq_some_iff.mp hsome)
    simp [screen, hposted, hselected, hnone]
  | declaredLength hposted hselected hdeclared hlength h =>
    have htoo := declaresTooMuch_iff.mpr ⟨_, hlength, h⟩
    simp [screen, hposted, hselected, declaredType?_eq_some_iff.mpr hdeclared, htoo]

/-- A head is admitted, or there is a check that it does not pass. -/
theorem admits_or_refusesHead (route : Route) (head : RequestHead) :
    (∃ a, Admits route head a) ∨ ∃ check failure, RefusesHead route head check failure := by
  -- The checks in their order; the first one that fails refuses.
  by_cases hposted : head.method = "POST"
  · cases hselected : Selector.ofRequest? route.pathPrefix head.path head.fields
        route.selectorHeader with
    | none => exact .inr ⟨_, _, .path hposted hselected⟩
    | some selector =>
      by_cases hdeclares : ∃ declared, Declares head.fields declared
      · obtain ⟨declared, hdeclared⟩ := hdeclares
        by_cases hlength : ∃ n, declaredLength? head.fields = some n ∧ route.maxBodySize < n
        · obtain ⟨n, hn, hlong⟩ := hlength
          exact .inr ⟨_, _, .declaredLength hposted hselected hdeclared hn hlong⟩
        · refine .inl ⟨⟨selector, declared⟩, hposted, hselected, hdeclared, fun n hn => ?_⟩
          exact Nat.not_lt.mp fun hlong => hlength ⟨n, hn, hlong⟩
      · exact .inr ⟨_, _, .mediaType hposted hselected (not_exists.mp hdeclares)⟩
  · exact .inr ⟨_, _, .method hposted⟩

theorem screen_eq_ok_iff : screen route head = .ok a ↔ Admits route head a := by
  refine ⟨fun h => ?_, screen_of_admits⟩
  rcases admits_or_refusesHead route head with ⟨a', hadmits⟩ | ⟨check, failure, hrefuses⟩
  · obtain rfl := Except.ok.inj (h.symm.trans (screen_of_admits hadmits))
    exact hadmits
  · cases h.symm.trans (screen_of_refusesHead hrefuses)

/-! ## Bodies of admitted requests -/

/-- What becomes of a body that comes as it should. -/
theorem receive_bytes {chunks : List ByteArray}
    (htype : MediaType.parse? a.declaredType = some .request) :
    receive route a (chunks.map .bytes) =
      if (joined chunks).size = 0 then .error (.malformedMessage .empty)
      else if route.maxBodySize < (joined chunks).size then .error (.malformedMessage .tooLarge)
      else .ok ⟨a.selector, ⟨.request, joined chunks⟩⟩ := by
  rw [receive, Body.collect_chunks]
  by_cases hbound : (joined chunks).size ≤ route.maxBodySize
  · rw [if_pos hbound]
    simp only [Message.decode_of_parse? htype, Nat.not_lt.mpr hbound, if_false]
    split <;> rfl
  · -- what overruns its bound is not empty
    rw [if_neg hbound, if_neg (by omega), if_pos (by omega)]

/-- A body that is not empty and within the bound becomes a message, unchanged. -/
theorem receive_chunks {chunks : List ByteArray}
    (htype : MediaType.parse? a.declaredType = some .request) (hpos : 0 < (joined chunks).size)
    (hbound : (joined chunks).size ≤ route.maxBodySize) :
    receive route a (chunks.map .bytes) = .ok ⟨a.selector, ⟨.request, joined chunks⟩⟩ := by
  rw [receive_bytes htype, if_neg (by omega), if_neg (by omega)]

theorem receive_of_broken (h : .broken ∈ body) :
    receive route a body = .error (.malformedMessage .tooLarge) := by
  rw [receive, Body.collect_of_broken h]

/-- The body of an admitted request is accepted where it comes in full, is not empty and is within
the bound. -/
theorem receive_eq_ok_iff (htype : MediaType.parse? a.declaredType = some .request)
    {i : Inbound} : receive route a body = .ok i ↔
      ∃ chunks : List ByteArray, body = chunks.map .bytes ∧ 0 < (joined chunks).size ∧
        (joined chunks).size ≤ route.maxBodySize ∧
        i = ⟨a.selector, ⟨.request, joined chunks⟩⟩ := by
  constructor
  · intro h
    -- The body is whole, and within bounds and not empty; or it breaks off.
    rcases body.chunks_or_broken with ⟨chunks, rfl⟩ | hbroken
    · rw [receive_bytes htype] at h
      split at h
      · cases h
      · split at h
        · cases h
        · exact ⟨chunks, rfl, by omega, by omega, (Except.ok.inj h).symm⟩
    · cases (receive_of_broken hbroken).symm.trans h
  · rintro ⟨chunks, rfl, hpos, hbound, rfl⟩
    exact receive_chunks htype hpos hbound

theorem read_of_admits (h : Admits route head a) : read route head body = receive route a body := by
  rw [read, screen_of_admits h]

/-! ## The verdict -/

theorem read_of_accepted {chunks : List ByteArray} (hadmits : Admits route head a)
    (hne : 0 < (joined chunks).size) (hbound : (joined chunks).size ≤ route.maxBodySize) :
    read route head (chunks.map .bytes) = .ok ⟨a.selector, ⟨.request, joined chunks⟩⟩ := by
  rw [read_of_admits hadmits, receive_chunks hadmits.declared.2 hne hbound]

/-- A request that is refused somewhere is not read. -/
theorem read_of_refusedAt (h : RefusedAt route head body check failure) :
    read route head body = .error failure := by
  cases h with
  | head h => rw [read, screen_of_refusesHead h]
  | length hadmits h =>
    rw [read_of_admits hadmits]
    rcases h with hbroken | ⟨chunks, rfl, hlong⟩
    · exact receive_of_broken hbroken
    · rw [receive_bytes hadmits.declared.2, if_neg (by omega), if_pos hlong]
  | emptiness hadmits hbody h =>
    rw [read_of_admits hadmits, hbody, receive_bytes hadmits.declared.2, if_pos h]

/-- A request passes all checks, or there is one that it does not pass. -/
theorem accepted_or_refusedAt (route : Route) (head : RequestHead) (body : Body) :
    (∃ a, ∃ chunks : List ByteArray, Admits route head a ∧ body = chunks.map .bytes ∧
      0 < (joined chunks).size ∧ (joined chunks).size ≤ route.maxBodySize) ∨
    ∃ check failure, RefusedAt route head body check failure := by
  rcases admits_or_refusesHead route head with ⟨a, hadmits⟩ | ⟨check, failure, hrefuses⟩
  · rcases body.chunks_or_broken with ⟨chunks, hbody⟩ | hbroken
    · -- the bound is looked at while the body comes, and emptiness only at its end
      rcases Nat.lt_or_ge route.maxBodySize (joined chunks).size with hlong | hbound
      · exact .inr ⟨_, _, .length hadmits (.inr ⟨chunks, hbody, hlong⟩)⟩
      · rcases Nat.eq_zero_or_pos (joined chunks).size with hempty | hne
        · exact .inr ⟨_, _, .emptiness hadmits hbody hempty⟩
        · exact .inl ⟨a, chunks, hadmits, hbody, hne, hbound⟩
    · exact .inr ⟨_, _, .length hadmits (.inl hbroken)⟩
  · exact .inr ⟨_, _, .head hrefuses⟩

theorem read_eq_ok_iff {i : Inbound} : read route head body = .ok i ↔
    ∃ a, ∃ chunks : List ByteArray, Admits route head a ∧ body = chunks.map .bytes ∧
      0 < (joined chunks).size ∧ (joined chunks).size ≤ route.maxBodySize ∧
      i = ⟨a.selector, ⟨.request, joined chunks⟩⟩ := by
  constructor
  · intro h
    rcases accepted_or_refusedAt route head body with
      ⟨a, chunks, hadmits, rfl, hne, hbound⟩ | ⟨check, failure, hrefused⟩
    · refine ⟨a, chunks, hadmits, rfl, hne, hbound, ?_⟩
      exact Except.ok.inj (h.symm.trans (read_of_accepted hadmits hne hbound))
    · cases h.symm.trans (read_of_refusedAt hrefused)
  · rintro ⟨a, chunks, hadmits, rfl, hne, hbound, rfl⟩
    exact read_of_accepted hadmits hne hbound

/-- No request is both admitted and refused. -/
theorem not_refusesHead_of_admits (h : Admits route head a) :
    ¬ RefusesHead route head check failure := by
  intro hrefuses
  cases (screen_of_admits h).symm.trans (screen_of_refusesHead hrefuses)

/-- No request is refused at two checks. -/
theorem RefusedAt.check_eq {check' : Check} (h : RefusedAt route head body check failure)
    (h' : RefusedAt route head body check' failure) : check = check' := by
  cases h with
  | head h =>
    -- a head that is refused is not admitted, so the body was not looked at
    cases h' with
    | head h' =>
      -- the checks of a head have failures of their own
      cases h <;> cases h' <;> rfl
    | length hadmits | emptiness hadmits => exact absurd h (not_refusesHead_of_admits hadmits)
  | length hadmits =>
    cases h' with
    | head h' => exact absurd h' (not_refusesHead_of_admits hadmits)
    | length => rfl
  | emptiness hadmits =>
    cases h' with
    | head h' => exact absurd h' (not_refusesHead_of_admits hadmits)
    | emptiness => rfl

/-- What is refused is refused at one check only. -/
theorem read_eq_error_iff : read route head body = .error failure ↔
    ∃! check, RefusedAt route head body check failure := by
  constructor
  · intro h
    rcases accepted_or_refusedAt route head body with
      ⟨a, chunks, hadmits, rfl, hne, hbound⟩ | ⟨check, failure', hrefused⟩
    · cases h.symm.trans (read_of_accepted hadmits hne hbound)
    · obtain rfl := Except.error.inj (h.symm.trans (read_of_refusedAt hrefused))
      exact ⟨check, hrefused, fun check' h' => h'.check_eq hrefused⟩
  · rintro ⟨check, hrefused, -⟩
    exact read_of_refusedAt hrefused

/-- Bodies of the same bytes are read alike. -/
theorem read_congr {chunks chunks' : List ByteArray} (h : joined chunks = joined chunks') :
    read route head (chunks.map .bytes) = read route head (chunks'.map .bytes) := by
  simp only [read, receive, Body.collect_chunks, h]

/-- **The verdict on a request.** It is accepted exactly where it is a post, its path and its fields
give a selector, its first Content-Type is a text and that of an encapsulated request, its first
Content-Length is no number of 64 bits or is within the bound, and its body does not break off, is
not empty and is within the bound; the message is then this body, with the selector. It is refused
otherwise, at one check, as is said for the first that it does not pass. How a body is cut into
pieces does not matter. -/
theorem read_verdict (route : Route) (head : RequestHead) (body : Body) :
    (∀ i, read route head body = .ok i ↔
      ∃ a, ∃ chunks : List ByteArray, Admits route head a ∧ body = chunks.map .bytes ∧
        0 < (joined chunks).size ∧ (joined chunks).size ≤ route.maxBodySize ∧
        i = ⟨a.selector, ⟨.request, joined chunks⟩⟩) ∧
    (∀ failure, read route head body = .error failure ↔
      ∃! check, RefusedAt route head body check failure) ∧
    ∀ chunks chunks' : List ByteArray, joined chunks = joined chunks' →
      read route head (chunks.map .bytes) = read route head (chunks'.map .bytes) :=
  ⟨fun _ => read_eq_ok_iff, fun _ => read_eq_error_iff, fun _ _ h => read_congr h⟩

/-- Two bytes are accepted in one piece and in three; a body that is empty or that breaks off is
refused, each for its own check. -/
theorem read_verdict_pieces :
    let route : Route := ⟨"/gateway", ⟨"ohttp-gateway"⟩, 2⟩
    let head : RequestHead :=
      ⟨"POST", "/gateway/g1", [⟨.contentType, "Message/OHTTP-Req".toUTF8⟩]⟩
    let accepted : Except Failure Inbound := .ok ⟨.named "g1", ⟨.request, ⟨#[1, 2]⟩⟩⟩
    read route head [.bytes ⟨#[1, 2]⟩] = accepted ∧
      read route head [.bytes ⟨#[1]⟩, .bytes .empty, .bytes ⟨#[2]⟩] = accepted ∧
      read route head [] = .error (.malformedMessage .empty) ∧
      read route head [.bytes ⟨#[1]⟩, .broken] = .error (.malformedMessage .tooLarge) := by
  intro route head accepted
  have hlength : declaredLength? head.fields = none := by decide
  have hadmits : Admits route head ⟨.named "g1", "Message/OHTTP-Req"⟩ :=
    ⟨rfl, by decide +kernel, declaredType?_eq_some_iff.mp (by decide +kernel), by simp [hlength]⟩
  obtain ⟨hok, -, hcut⟩ := read_verdict route head [.bytes ⟨#[1, 2]⟩]
  have hwhole : read route head [.bytes ⟨#[1, 2]⟩] = accepted :=
    (hok _).mpr ⟨_, [⟨#[1, 2]⟩], hadmits, rfl, by decide, by decide, rfl⟩
  refine ⟨hwhole, ?_, ?_, ?_⟩
  · -- The pieces do not matter.
    rw [← hwhole]
    exact hcut [⟨#[1]⟩, .empty, ⟨#[2]⟩] [⟨#[1, 2]⟩] (by decide)
  · -- Nothing at all.
    obtain ⟨-, herror, -⟩ := read_verdict route head []
    have hempty : RefusedAt route head [] .emptiness (.malformedMessage .empty) :=
      @RefusedAt.emptiness route head [] _ [] hadmits rfl rfl
    exact (herror _).mpr ⟨_, hempty, fun _ h => h.check_eq hempty⟩
  · -- The body breaks off after its first byte.
    obtain ⟨-, herror, -⟩ := read_verdict route head [.bytes ⟨#[1]⟩, .broken]
    have hbroken : RefusedAt route head [.bytes ⟨#[1]⟩, .broken] .length
        (.malformedMessage .tooLarge) := .length hadmits (.inl (by simp))
    exact (herror _).mpr ⟨_, hbroken, fun _ h => h.check_eq hbroken⟩

end Inbound

end Http

end ObliviousRelay
