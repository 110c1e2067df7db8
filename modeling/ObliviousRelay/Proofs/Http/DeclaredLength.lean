import ObliviousRelay.Proofs.Http.Inbound
import ObliviousRelay.Proofs.Routing.Selector

/-!
# What a declared length is looked at for

A request that declares too great a length is refused before its body is read. This saves the
reading, and nothing else: with a true length the result is the one that there is without any
Content-Length, and with a false one it differs only where the length exceeds the bound. One setting
makes more of the field: if the selector is read from Content-Length, and the path names no gateway,
then its value is also the name of a gateway.

- `RequestHead.undeclared`: a head without any Content-Length.
- `Inbound.SelectsByLength`: the selector is read from Content-Length.
- `Inbound.declared_length_redundant`: what the field can change in a result.
-/

namespace ObliviousRelay.Http

/-! ## Heads without a length -/

/-- The fields but for any Content-Length. -/
def Fields.undeclared (fields : Fields) : Fields := fields.filter (·.name ≠ .contentLength)

theorem Fields.first?_undeclared {name : FieldName} (hname : name ≠ .contentLength)
    (fields : Fields) : Fields.first? fields.undeclared name = fields.first? name := by
  simp only [first?, undeclared, List.find?_filter]
  -- a field of this name is not one that is left out
  congr 2
  funext f
  by_cases h : f.name = name <;> simp [h, hname]

/-- Without its length no length is declared. -/
theorem Fields.first?_undeclared_self (fields : Fields) :
    Fields.first? fields.undeclared .contentLength = none := by
  simp [undeclared, first?]

/-- A head but for any Content-Length. -/
def RequestHead.undeclared (head : RequestHead) : RequestHead :=
  { head with fields := head.fields.undeclared }

namespace Inbound

variable {route : Route} {head : RequestHead} {a : Admission} {body : Body} {check : Check}
  {failure : Failure}

/-- The selector of a request is read from Content-Length: this is the selector header, and the path
names no gateway. -/
def SelectsByLength (route : Route) (head : RequestHead) : Prop :=
  route.selectorHeader = .contentLength ∧
    Selector.Asks (Selector.routeBase route.pathPrefix) head.path.toList none

theorem ofHeader_undeclared (h : route.selectorHeader ≠ .contentLength) :
    Selector.ofHeader head.undeclared.fields route.selectorHeader =
      Selector.ofHeader head.fields route.selectorHeader := by
  simp only [Selector.ofHeader, Fields.text?, RequestHead.undeclared, Fields.first?_undeclared h]

/-- The length makes no other selector, unless it is what the selector is read from. -/
theorem ofRequest?_undeclared (h : ¬ SelectsByLength route head) :
    Selector.ofRequest? route.pathPrefix head.path head.undeclared.fields route.selectorHeader =
      Selector.ofRequest? route.pathPrefix head.path head.fields route.selectorHeader := by
  apply Option.ext
  intro selector
  -- a path that names a gateway asks for it, whatever the fields are
  simp only [Selector.ofRequest?_eq_some_iff]
  refine exists_congr fun asked => and_congr_right fun hasks => ?_
  cases asked with
  | some name => rfl
  | none =>
    have hother : route.selectorHeader ≠ .contentLength := fun hlength => h ⟨hlength, hasks⟩
    rw [Selector.ofSegment, Selector.ofSegment, ofHeader_undeclared hother]

/-- Whether there is a selector is a matter of the path, and not of the fields. -/
theorem exists_selected_undeclared (route : Route) (head : RequestHead) :
    (∃ selector, Selector.ofRequest? route.pathPrefix head.path head.undeclared.fields
      route.selectorHeader = some selector) ↔
    ∃ selector, Selector.ofRequest? route.pathPrefix head.path head.fields
      route.selectorHeader = some selector := by
  simp only [← Option.isSome_iff_exists, Selector.isSome_ofRequest?_iff]

/-- The type is declared all the same. -/
theorem declares_undeclared {declared : String} :
    Declares head.undeclared.fields declared ↔ Declares head.fields declared := by
  have hname : FieldName.contentType ≠ .contentLength := by decide
  rw [Declares, RequestHead.undeclared, Fields.first?_undeclared hname, Declares]

theorem declaredLength?_undeclared : declaredLength? head.undeclared.fields = none := by
  simp [declaredLength?, RequestHead.undeclared, Fields.text?, Fields.first?_undeclared_self]

/-! ## With a length and without -/

/-- What a head is refused for without a length, it is refused for with one. -/
theorem RefusesHead.of_undeclared (h : RefusesHead route head.undeclared check failure) :
    RefusesHead route head check failure := by
  cases h with
  | method h => exact .method h
  | path hposted h =>
    refine .path hposted (Option.eq_none_iff_forall_ne_some.mpr fun selector hselected => ?_)
    obtain ⟨_, hother⟩ := (exists_selected_undeclared route head).mpr ⟨selector, hselected⟩
    cases h.symm.trans hother
  | mediaType hposted hselected h =>
    obtain ⟨selector, hselected⟩ := (exists_selected_undeclared route head).mp ⟨_, hselected⟩
    exact .mediaType hposted hselected fun declared hdeclared =>
      h declared (declares_undeclared.mpr hdeclared)
  | declaredLength _ _ _ hlength => cases declaredLength?_undeclared.symm.trans hlength

theorem RefusesHead.ne_declaredLength (h : RefusesHead route head.undeclared check failure) :
    check ≠ .declaredLength := by
  rintro rfl
  cases h with
  | declaredLength _ _ _ hlength => cases declaredLength?_undeclared.symm.trans hlength

/-- A head that is admitted without a length is admitted with one, or cut short for it. -/
theorem Admits.of_undeclared (h : Admits route head.undeclared a) :
    (∃ selector, Admits route head ⟨selector, a.declaredType⟩) ∨
      (∃ n, declaredLength? head.fields = some n ∧ route.maxBodySize < n) ∧
        RefusesHead route head .declaredLength (.malformedMessage .tooLarge) := by
  obtain ⟨selector, hselected⟩ := (exists_selected_undeclared route head).mp ⟨_, h.selected⟩
  have hdeclared := declares_undeclared.mp h.declared
  by_cases hlength : ∃ n, declaredLength? head.fields = some n ∧ route.maxBodySize < n
  · obtain ⟨n, hn, hlong⟩ := hlength
    exact .inr ⟨⟨n, hn, hlong⟩, .declaredLength h.posted hselected hdeclared hn hlong⟩
  · refine .inl ⟨selector, h.posted, hselected, hdeclared, fun n hn => ?_⟩
    exact Nat.not_lt.mp fun hlong => hlength ⟨n, hn, hlong⟩

/-- The same message comes of a request with its length and without, or the same failure, unless the
length exceeds the bound and the body does not. -/
theorem same_message_or_cut (route : Route) (head : RequestHead) (body : Body) :
    (read route head body).map (·.message) =
        (read route head.undeclared body).map (·.message) ∨
      (∃ n, declaredLength? head.fields = some n ∧ route.maxBodySize < n) ∧
        read route head body = .error (.malformedMessage .tooLarge) ∧
        ∃ chunks : List ByteArray, body = chunks.map .bytes ∧
          (joined chunks).size ≤ route.maxBodySize := by
  -- the cases are those of the request without its length
  rcases accepted_or_refusedAt route head.undeclared body with
    ⟨a, chunks, hadmits, rfl, hne, hbound⟩ | ⟨check, failure, hrefused⟩
  · rw [read_of_accepted hadmits hne hbound]
    rcases hadmits.of_undeclared with ⟨selector, hadmits'⟩ | ⟨hlength, hcut⟩
    · rw [read_of_accepted hadmits' hne hbound]
      exact .inl rfl
    · -- The declared length alone refuses it.
      exact .inr ⟨hlength, read_of_refusedAt (.head hcut), chunks, rfl, hbound⟩
  · rw [read_of_refusedAt hrefused]
    cases hrefused with
    | head h =>
      rw [read_of_refusedAt (.head h.of_undeclared)]
      exact .inl rfl
    | length hadmits h =>
      -- too long by the field and too long by the body are the same failure
      rcases hadmits.of_undeclared with ⟨selector, hadmits'⟩ | ⟨-, hcut⟩
      · rw [read_of_refusedAt (.length hadmits' h)]
        exact .inl rfl
      · rw [read_of_refusedAt (.head hcut)]
        exact .inl rfl
    | @emptiness _ chunks hadmits hbody h =>
      -- an empty body is within any bound
      rcases hadmits.of_undeclared with ⟨selector, hadmits'⟩ | ⟨hlength, hcut⟩
      · rw [read_of_refusedAt (.emptiness hadmits' hbody h)]
        exact .inl rfl
      · exact .inr ⟨hlength, read_of_refusedAt (.head hcut), chunks, hbody, by omega⟩

/-- What is read asks for the selector of the request. -/
theorem selected_of_read {i : Inbound} (h : read route head body = .ok i) :
    Selector.ofRequest? route.pathPrefix head.path head.fields route.selectorHeader =
      some i.selector := by
  obtain ⟨a, chunks, hadmits, -, -, -, rfl⟩ := read_eq_ok_iff.mp h
  exact hadmits.selected

/-- Results with the same message have the same selector too. -/
theorem read_eq_of_message (hselects : ¬ SelectsByLength route head)
    (h : (read route head body).map (·.message) =
      (read route head.undeclared body).map (·.message)) :
    read route head body = read route head.undeclared body := by
  cases hwith : read route head body with
  -- Both fail, and with the same failure; or both are read, with the same message.
  | error failure =>
    cases hwithout : read route head.undeclared body with
    | error failure' =>
      rw [hwith, hwithout] at h
      rw [Except.error.inj h]
    | ok i' =>
      rw [hwith, hwithout] at h
      cases h
  | ok i =>
    -- The selectors agree, too, as the length is none of them.
    cases hwithout : read route head.undeclared body with
    | error failure' =>
      rw [hwith, hwithout] at h
      cases h
    | ok i' =>
      rw [hwith, hwithout] at h
      have hmessage : i.message = i'.message := Except.ok.inj h
      have hselector : i.selector = i'.selector := Option.some.inj <|
        calc some i.selector
          _ = Selector.ofRequest? route.pathPrefix head.path head.fields route.selectorHeader :=
            (selected_of_read hwith).symm
          _ = Selector.ofRequest? route.pathPrefix head.path head.undeclared.fields
              route.selectorHeader := (ofRequest?_undeclared hselects).symm
          _ = some i'.selector := selected_of_read hwithout
      rw [show i = i' from congr (congrArg Inbound.mk hselector) hmessage]

/-- Two results with the same message or the same failure, which are the same in full unless the
selector is read from Content-Length. -/
def Agree (route : Route) (head : RequestHead) (x y : Except Failure Inbound) : Prop :=
  x.map (·.message) = y.map (·.message) ∧ (¬ SelectsByLength route head → x = y)

/-- **A declared length only saves the reading.** Where a request declares its true length, or its
body breaks off, it gives the message or the failure that it gives without any Content-Length, and
the same result unless the selector is read from this field. Whatever it declares, the results
differ only if the length exceeds the bound, and the request is then refused as too large. A length
that exceeds the bound is not looked at where another check of the head fails before, and this makes
the same failure without it. -/
theorem declared_length_redundant (route : Route) (head : RequestHead) (body : Body) :
    ((∀ chunks : List ByteArray, body = chunks.map .bytes →
        declaredLength? head.fields = some (joined chunks).size) →
      Agree route head (read route head body) (read route head.undeclared body)) ∧
    (¬ Agree route head (read route head body) (read route head.undeclared body) →
      (∃ n, declaredLength? head.fields = some n ∧ route.maxBodySize < n) ∧
        read route head body = .error (.malformedMessage .tooLarge)) ∧
    ∀ n, declaredLength? head.fields = some n → route.maxBodySize < n →
      read route head body = .error (.malformedMessage .tooLarge) ∨
        ∃ check failure, RefusesHead route head check failure ∧ check ≠ .declaredLength ∧
          read route head body = .error failure ∧
          read route head.undeclared body = .error failure := by
  have hcases := same_message_or_cut route head body
  refine ⟨fun htrue => ?_, fun hdiffer => ?_, fun n hn hlong => ?_⟩
  · rcases hcases with hsame | ⟨⟨n, hn, hlong⟩, -, chunks, hbody, hbound⟩
    · -- The two requests are read alike.
      exact ⟨hsame, fun hselects => read_eq_of_message hselects hsame⟩
    · -- the body is as long as is declared, and within the bound
      obtain rfl := Option.some.inj (hn.symm.trans (htrue chunks hbody))
      exact absurd hbound (Nat.not_le.mpr hlong)
  · rcases hcases with hsame | ⟨hlength, hcut, -⟩
    · -- They differ, and what cuts the first one off is its length.
      exact absurd ⟨hsame, fun hselects => read_eq_of_message hselects hsame⟩ hdiffer
    · exact ⟨hlength, hcut⟩
  · rcases admits_or_refusesHead route head.undeclared with
      ⟨a, hadmits⟩ | ⟨check, failure, hrefuses⟩
    · rcases hadmits.of_undeclared with ⟨selector, hadmits'⟩ | ⟨-, hcut⟩
      · exact absurd (hadmits'.within n hn) (Nat.not_le.mpr hlong)
      · exact .inl (read_of_refusedAt (.head hcut))
    · have hrefuses' := hrefuses.of_undeclared
      exact .inr ⟨check, failure, hrefuses', hrefuses.ne_declaredLength,
        read_of_refusedAt (.head hrefuses'), read_of_refusedAt (.head hrefuses)⟩

/-- Two bytes are read alike with their length and without; with a length of three they are refused
unread. -/
theorem declared_length_redundant_two :
    let route : Route := ⟨"/gateway", ⟨"ohttp-gateway"⟩, 2⟩
    let head (length : String) : RequestHead := ⟨"POST", "/gateway",
      [⟨.contentType, "message/ohttp-req".toUTF8⟩, ⟨.contentLength, length.toUTF8⟩]⟩
    let body : Body := [.bytes ⟨#[1]⟩, .bytes ⟨#[2]⟩]
    read route (head "+2") body = read route (head "+2").undeclared body ∧
      read route (head "3") body = .error (.malformedMessage .tooLarge) := by
  intro route head body
  constructor
  · obtain ⟨htrue, -, -⟩ := declared_length_redundant route (head "+2") body
    have hother : ¬ SelectsByLength route (head "+2") := fun h => absurd h.1 (by decide)
    refine (htrue fun chunks hbody => ?_).2 hother
    obtain rfl : chunks = [⟨#[1]⟩, ⟨#[2]⟩] :=
      List.map_injective_iff.mpr (fun _ _ => Piece.bytes.inj) hbody.symm
    decide +kernel
  · obtain ⟨-, -, hlong⟩ := declared_length_redundant route (head "3") body
    rcases hlong 3 (by decide +kernel) (by decide) with hcut | ⟨check, failure, hrefuses, hne, -⟩
    · exact hcut
    · -- nothing else is wrong with this head
      cases hrefuses with
      | method h => exact absurd rfl h
      | path _ h => exact absurd h (by decide +kernel)
      | mediaType _ _ h =>
        exact absurd (declaredType?_eq_some_iff.mp (by decide +kernel)) (h "message/ohttp-req")
      | declaredLength => exact absurd rfl hne

/-- If the selector is read from Content-Length, a true length names a gateway. -/
theorem declared_length_selects :
    let route : Route := ⟨"/gateway", .contentLength, 16⟩
    let head : RequestHead := ⟨"POST", "/gateway",
      [⟨.contentType, "message/ohttp-req".toUTF8⟩, ⟨.contentLength, "2".toUTF8⟩]⟩
    let chunks : List ByteArray := [⟨#[1, 2]⟩]
    let m : Message := ⟨.request, ⟨#[1, 2]⟩⟩
    declaredLength? head.fields = some (joined chunks).size ∧
      read route head (chunks.map .bytes) = .ok ⟨.named "2", m⟩ ∧
      read route head.undeclared (chunks.map .bytes) = .ok ⟨.unnamed, m⟩ ∧
      read route head (chunks.map .bytes) ≠ read route head.undeclared (chunks.map .bytes) := by
  intro route head chunks m
  have hlength : declaredLength? head.fields = some 2 := by decide +kernel
  have hdeclared : Declares head.fields "message/ohttp-req" :=
    declaredType?_eq_some_iff.mp (by decide +kernel)
  have hwith : Admits route head ⟨.named "2", "message/ohttp-req"⟩ :=
    ⟨rfl, by decide +kernel, hdeclared, by simp [hlength, route]⟩
  have hwithout : Admits route head.undeclared ⟨.unnamed, "message/ohttp-req"⟩ :=
    ⟨rfl, by decide +kernel, declares_undeclared.mpr hdeclared, by
      simp [declaredLength?_undeclared]⟩
  have hread : read route head (chunks.map .bytes) = .ok ⟨.named "2", m⟩ :=
    read_of_accepted hwith (by decide) (by decide)
  have hread' : read route head.undeclared (chunks.map .bytes) = .ok ⟨.unnamed, m⟩ :=
    read_of_accepted hwithout (by decide) (by decide)
  refine ⟨hlength, hread, hread', ?_⟩
  rw [hread, hread']
  intro h
  cases Except.ok.inj h

end Inbound

end ObliviousRelay.Http
