import ObliviousRelay.Config.Encode
import ObliviousRelay.Proofs.Config.Records
import ObliviousRelay.Proofs.MediaType

/-!
# Reading what was written

A configuration is read back from its own tree. What is deleted from the tree, a whole section or a
single field, is read as its documented default, and all else as it was; only a gateway's name and
endpoint cannot be left out. Members that no record has do not matter, and a media type may be spelt
in any way.

- `Listener.without` and its like spell the defaults out, `without` those of a whole configuration.
- `Listener.read_edited` and its like read a section, `Gateway.read_edited` a gateway.
- `Cut` is what is deleted, `Cut.Leaves` what may then be left of a tree; `leaves_delete`.
- `reading_inverts_writing`: all of it, for every configuration.
-/

namespace ObliviousRelay.Config

/-! ## Settings left out -/

/-- Where a relay listens, with the documented defaults for what is left out. -/
def Listener.without (gone : Names) (s : Listener) : Listener where
  bindAddress := if gone "bind_address" then "0.0.0.0:3000" else s.bindAddress
  unixSocket := if gone "unix_socket" then none else s.unixSocket
  maxInflight := if gone "max_inflight" then 10000 else s.maxInflight

/-- The same for how requests name their gateway. -/
def Routing.without (gone : Names) (s : Routing) : Routing where
  pathPrefix := if gone "path_prefix" then "/gateway" else s.pathPrefix
  selectorHeader := if gone "selector_header" then "ohttp-gateway" else s.selectorHeader
  defaultGateway := if gone "default_gateway" then none else s.defaultGateway

/-- The same for the size limits. -/
def Limits.without (gone : Names) (s : Limits) : Limits where
  maxBodySize := if gone "max_body_size" then 64 * 1024 else s.maxBodySize
  maxResponseSize := if gone "max_response_size" then 1024 * 1024 else s.maxResponseSize

/-- The same for the time limits. -/
def Timeouts.without (gone : Names) (s : Timeouts) : Timeouts where
  connectMs := if gone "connect_ms" then 2000 else s.connectMs
  requestMs := if gone "request_ms" then 10000 else s.requestMs
  queueWaitMs := if gone "queue_wait_ms" then 1000 else s.queueWaitMs
  idleMs := if gone "idle_ms" then 60000 else s.idleMs

/-- The same for the repetition of connection attempts. -/
def Retries.without (gone : Names) (s : Retries) : Retries where
  connectAttempts := if gone "connect_attempts" then 3 else s.connectAttempts
  baseDelayMs := if gone "base_delay_ms" then 50 else s.baseDelayMs
  maxDelayMs := if gone "max_delay_ms" then 500 else s.maxDelayMs

/-- The same for logs and metrics. -/
def Observability.without (gone : Names) (s : Observability) : Observability where
  logLevel := if gone "log_level" then "info" else s.logLevel
  logFormat := if gone "log_format" then .pretty else s.logFormat
  metricsEnabled := if gone "metrics_enabled" then false else s.metricsEnabled
  metricsAddress := if gone "metrics_address" then "127.0.0.1:9090" else s.metricsAddress

/-- The same for a gateway, whose name and endpoint have no defaults. -/
def Gateway.without (gone : Names) (g : Gateway) : Gateway where
  name := g.name
  endpoint := g.endpoint
  acceptedMediaTypes :=
    if gone "accepted_media_types" then [.request] else g.acceptedMediaTypes
  maxBodySize := if gone "max_body_size" then none else g.maxBodySize
  poolSize := if gone "pool_size" then 16 else g.poolSize
  requestTimeoutMs := if gone "request_timeout_ms" then none else g.requestTimeoutMs
  queueWaitMs := if gone "queue_wait_ms" then none else g.queueWaitMs

/-! ## Scalars -/

variable {gone : Names} {d : Dialect} {t : Tree}

/-- A number within the width is read as it is written. -/
theorem readWord_toNat {width n : Nat} {expected : String} (h : n < Nat.pow 2 width) :
    readWord width expected d (.integer n) = .ok n := by
  rw [readWord, if_pos]
  · rfl
  · exact ⟨Int.natCast_nonneg n, h⟩

/-- Sizes are read as they are written. -/
@[simp] theorem readSize_wordTree (n : UInt64) : readSize d (wordTree n) = .ok n := by
  rw [readSize, wordTree, readWord_toNat n.toNat_lt]
  exact congrArg Except.ok (UInt64.ofNat_toNat)

/-- So are times. -/
@[simp] theorem readMillis_wordTree (n : UInt64) : readMillis d (wordTree n) = .ok n := by
  rw [readMillis, wordTree, readWord_toNat n.toNat_lt]
  exact congrArg Except.ok (UInt64.ofNat_toNat)

/-- So are counts. -/
@[simp] theorem readCount_toNat (n : UInt32) : readCount d (.integer n.toNat) = .ok n := by
  rw [readCount, readWord_toNat n.toNat_lt]
  exact congrArg Except.ok (UInt32.ofNat_toNat)

/-- An option is read as its value is, since no value is written as null. -/
theorem readOption_optionTree {α : Type} {read : Reader α} {write : α → Tree}
    (h : ∀ a, read d (write a) = .ok a) (hnull : ∀ a, write a ≠ .null) (o : Option α) :
    readOption read d (optionTree write o) = .ok o := by
  -- Nothing is written as null, and null is read as nothing; whatever is there is written
  -- otherwise.
  cases o with
  | none => rfl
  | some a =>
    have hread : readOption read d (write a) = some <$> read d (write a) := by
      cases hwrite : write a with
      | null => exact absurd hwrite (hnull a)
      | _ => rfl
    rw [optionTree, hread, h]
    rfl

/-- An optional text is read as it is written. -/
@[simp] theorem readText_optionTree (o : Option String) :
    readOption readText d (optionTree .text o) = .ok o :=
  readOption_optionTree (fun _ => rfl) (by simp) o

/-- So is an optional size. -/
@[simp] theorem readSize_optionTree (o : Option UInt64) :
    readOption readSize d (optionTree wordTree o) = .ok o :=
  readOption_optionTree readSize_wordTree (by simp [wordTree]) o

/-- So is an optional time. -/
@[simp] theorem readMillis_optionTree (o : Option UInt64) :
    readOption readMillis d (optionTree wordTree o) = .ok o :=
  readOption_optionTree readMillis_wordTree (by simp [wordTree]) o

/-- A log format is read by its name. -/
@[simp] theorem readLogFormat_name (f : LogFormat) : readLogFormat d (.text f.name) = .ok f := by
  cases f <;> cases d <;> rfl

/-! ## Sections -/

/-- No value is altered. -/
def Unaltered (_ : String) (t u : Tree) : Prop := u = t

@[simp] theorem name_member {α σ : Type} (name : String) (read : Reader α) (put : σ → α → σ) :
    (member name read put).name = name := rfl

@[simp] theorem set_member {α σ : Type} (name : String) (read : Reader α) (put : σ → α → σ)
    (s : σ) : (member name read put).set d t s = put s <$> read d t := rfl

@[simp] theorem map_ok {α β : Type} (f : α → β) (a : α) :
    f <$> (.ok a : Reading α) = .ok (f a) := rfl

@[simp] theorem readText_text (s : String) : readText d (.text s) = .ok s := rfl

@[simp] theorem readBool_boolean (b : Bool) : readBool d (.boolean b) = .ok b := rfl

/-- A listener is read back from what is left of it, with defaults for the rest. -/
theorem Listener.read_edited (s : Listener) (gone : Names)
    (h : Edited gone Unaltered s.tree t) : Listener.read d t = .ok (s.without gone) :=
  readRecord_edited s.without h rfl rfl
    ⟨by simp +contextual [without], by simp [Allowed, Unaltered, without]⟩

/-- So is the routing. -/
theorem Routing.read_edited (s : Routing) (gone : Names)
    (h : Edited gone Unaltered s.tree t) : Routing.read d t = .ok (s.without gone) :=
  readRecord_edited s.without h rfl rfl
    ⟨by simp +contextual [without], by simp [Allowed, Unaltered, without]⟩

/-- So are the limits. -/
theorem Limits.read_edited (s : Limits) (gone : Names)
    (h : Edited gone Unaltered s.tree t) : Limits.read d t = .ok (s.without gone) :=
  readRecord_edited s.without h rfl rfl
    ⟨by simp +contextual [without], by simp [Allowed, Unaltered, without]⟩

/-- So are the timeouts. -/
theorem Timeouts.read_edited (s : Timeouts) (gone : Names)
    (h : Edited gone Unaltered s.tree t) : Timeouts.read d t = .ok (s.without gone) :=
  readRecord_edited s.without h rfl rfl
    ⟨by simp +contextual [without], by simp [Allowed, Unaltered, without]⟩

/-- So are the retries. -/
theorem Retries.read_edited (s : Retries) (gone : Names)
    (h : Edited gone Unaltered s.tree t) : Retries.read d t = .ok (s.without gone) :=
  readRecord_edited s.without h rfl rfl
    ⟨by simp +contextual [without], by simp [Allowed, Unaltered, without]⟩

/-- So is the observability. -/
theorem Observability.read_edited (s : Observability) (gone : Names)
    (h : Edited gone Unaltered s.tree t) : Observability.read d t = .ok (s.without gone) :=
  readRecord_edited s.without h rfl rfl
    ⟨by simp +contextual [without], by simp [Allowed, Unaltered, without]⟩

/-! ## Gateways -/

/-- A text in the place of one that it spells. -/
inductive RespeltText : Tree → Tree → Prop
  | text {written s : String} (h : Text.Spells written s) : RespeltText (.text written) (.text s)

/-- A sequence of texts in the place of one that they spell. -/
inductive Respelt : Tree → Tree → Prop
  | sequence {items items' : List Tree} (h : List.Forall₂ RespeltText items items') :
    Respelt (.sequence items) (.sequence items')

/-- What may stand in the place of a gateway's field. -/
def Gateway.Alters (key : String) (t u : Tree) : Prop :=
  if key = "accepted_media_types" then Respelt t u else u = t

/-- A list is read by reading its members. -/
theorem mapM_ok {α β : Type} {f : α → Reading β} {xs : List α} {ys : List β}
    (h : List.Forall₂ (fun x y => f x = .ok y) xs ys) : xs.mapM f = .ok ys := by
  induction h with
  | nil => rfl
  | cons hhead _ ih =>
    rw [List.mapM_cons, hhead, ih]
    rfl

/-- Reading a list ends with its first member that cannot be read. -/
theorem mapM_error {α β : Type} {f : α → Reading β} {xs rest : List α} {x : α} {fault : Fault}
    (hread : ∀ y ∈ xs, ∃ z, f y = .ok z) (hx : f x = .error fault) :
    (xs ++ x :: rest).mapM f = .error fault := by
  induction xs with
  | nil =>
    rw [List.nil_append, List.mapM_cons, hx]
    rfl
  | cons y xs ih =>
    obtain ⟨⟨z, hz⟩, hrest⟩ := List.forall_mem_cons.mp hread
    rw [List.cons_append, List.mapM_cons, hz, ih hrest]
    rfl

/-- A media type is read by its name, however this is spelt. -/
theorem readMediaType_respelt {m : MediaType} (h : RespeltText (.text m.text) t) :
    readMediaType d t = .ok m := by
  cases h with
  | text h => simp [readMediaType, bind, Except.bind, MediaType.parse?_of_spells h]

/-- Media types are read as they are, however they are spelt. -/
theorem readMediaTypes_respelt {types : List MediaType}
    (h : Respelt (.sequence (types.map fun m => .text m.text)) t) :
    readList readMediaType d t = .ok types := by
  cases h with
  | sequence h =>
    rw [List.forall₂_map_left_iff] at h
    exact mapM_ok (h.flip.imp fun _ _ => readMediaType_respelt)

/-- A gateway while it is read, with some fields left out. -/
def Gateway.draft (g : Gateway) (gone : Names) : Gateway.Draft where
  name := if gone "name" then none else some g.name
  endpoint := if gone "endpoint" then none else some g.endpoint
  acceptedMediaTypes := (g.without gone).acceptedMediaTypes
  maxBodySize := (g.without gone).maxBodySize
  poolSize := (g.without gone).poolSize
  requestTimeoutMs := (g.without gone).requestTimeoutMs
  queueWaitMs := (g.without gone).queueWaitMs

/-- A gateway's draft is read back from what is left of the gateway. -/
theorem Gateway.readDraft_edited (g : Gateway) (h : Edited gone Gateway.Alters g.tree t) :
    readRecord "GatewayConfig" Gateway.members {} d t = .ok (g.draft gone) := by
  have htypes : ∀ t, Respelt (.sequence (g.acceptedMediaTypes.map fun m => .text m.text)) t →
      readList readMediaType d t = .ok g.acceptedMediaTypes := fun _ => readMediaTypes_respelt
  -- name and endpoint are left open in a draft, so here they are fields like the others
  refine readRecord_edited g.draft h rfl rfl ⟨?_, ?_⟩
  · simp +contextual [Gateway.members, without, draft]
  · simp +contextual [Gateway.members, Allowed, Gateway.Alters, without, draft, htypes]

/-- The first of the fields that a gateway must have, if it is gone. -/
def missing? (gone : Names) : Option String :=
  if gone "name" then some "name" else if gone "endpoint" then some "endpoint" else none

/-- **A gateway of which something is left out** is read with the defaults of that, but for the
fields that it must have. -/
theorem Gateway.read_edited (g : Gateway) (h : Edited gone Gateway.Alters g.tree t) :
    Gateway.read d t = match missing? gone with
      | some field => .error (.missingField field)
      | none => .ok (g.without gone) := by
  have hdraft : readRecord "GatewayConfig" Gateway.members {} d t = .ok (g.draft gone) :=
    g.readDraft_edited h
  obtain ⟨entries, rfl, -⟩ := h.exists_table
  rw [Gateway.read, hdraft]
  cases hname : gone "name" <;> cases hendpoint : gone "endpoint" <;>
    simp [bind, Except.bind, draft, missing?, hname, hendpoint, missing, without]

/-! ## Whole configurations -/

/-- A sequence in the place of another, with each item edited by its place. -/
inductive EditedItems (edits : Nat → Tree → Tree → Prop) : Tree → Tree → Prop
  | sequence {items items' : List Tree} (hlength : items.length = items'.length)
    (h : ∀ i t u, items[i]? = some t → items'[i]? = some u → edits i t u) :
    EditedItems edits (.sequence items) (.sequence items')

/-- What is deleted from a configuration's tree: whole sections, fields of sections by the names of
both, and fields of gateways by the gateway's place. -/
structure Cut where
  sections : Names
  fields : String → Names
  ofGateway : Nat → Names

namespace Cut

variable (cut : Cut)

/-- The fields of a section that are deleted, all of them with the section. -/
def ofSection (name : String) : Names :=
  if cut.sections name then fun _ => true else cut.fields name

/-- What may stand in the place of the list of gateways. -/
def AltersGateways : Tree → Tree → Prop :=
  EditedItems fun i => Edited (cut.ofGateway i) Gateway.Alters

/-- What may stand in the place of a section. -/
def Alters (name : String) (t u : Tree) : Prop :=
  if name = "gateways" then cut.AltersGateways t u else Edited (cut.fields name) Unaltered t u

/-- A tree in the place of a configuration's, of which just the cut is deleted. Members that no
record has may be added anywhere, and media types spelt in other ways. -/
def Leaves (t u : Tree) : Prop := Edited cut.sections cut.Alters t u

end Cut

/-- A configuration with the documented defaults for what is left out. -/
def without (cut : Cut) (c : Config) : Config where
  listener := c.listener.without (cut.ofSection "listener")
  routing := c.routing.without (cut.ofSection "routing")
  limits := c.limits.without (cut.ofSection "limits")
  timeouts := c.timeouts.without (cut.ofSection "timeouts")
  retries := c.retries.without (cut.ofSection "retries")
  observability := c.observability.without (cut.ofSection "observability")
  gateways := if cut.sections "gateways" then []
    else c.gateways.mapIdx fun i g => g.without (cut.ofGateway i)

variable {gateways : List Gateway} {cut : Cut} {c : Config} {i : Nat} {field : String}

/-- Each gateway is read from the item in its place. -/
theorem Cut.AltersGateways.read (h : cut.AltersGateways (.sequence (gateways.map Gateway.tree)) t) :
    ∃ items : List Tree, t = .sequence items ∧ items.length = gateways.length ∧
      ∀ i (hi : i < gateways.length) (hi' : i < items.length), Gateway.read d items[i] =
        match missing? (cut.ofGateway i) with
        | some field => .error (.missingField field)
        | none => .ok (gateways[i].without (cut.ofGateway i)) := by
  cases h with
  | @sequence _ items hlength h =>
    rw [List.length_map] at hlength
    refine ⟨items, rfl, hlength.symm, fun i hi hi' => ?_⟩
    exact gateways[i].read_edited (h i _ items[i] (by simp [hi]) (by simp [hi']))

/-- The gateways are read back, if none lacks a field that it must have. -/
theorem readGateways_of_kept (gateways : List Gateway) (cut : Cut)
    (h : cut.AltersGateways (.sequence (gateways.map Gateway.tree)) t)
    (hkept : ∀ i < gateways.length, missing? (cut.ofGateway i) = none) :
    readList Gateway.read d t = .ok (gateways.mapIdx fun i g => g.without (cut.ofGateway i)) := by
  obtain ⟨items, rfl, hlength, hread⟩ := h.read (d := d)
  apply mapM_ok
  rw [List.forall₂_iff_get]
  refine ⟨by simp [hlength], fun i hi _ => ?_⟩
  have hplace : i < gateways.length := hlength ▸ hi
  simpa [hkept i hplace] using hread i hplace hi

/-- Of gateways with a field missing, the first one is reported. -/
theorem readGateways_of_missing
    (h : cut.AltersGateways (.sequence (gateways.map Gateway.tree)) t)
    (hi : i < gateways.length) (hearlier : ∀ j < i, missing? (cut.ofGateway j) = none)
    (hmissing : missing? (cut.ofGateway i) = some field) :
    readList Gateway.read d t = .error (.missingField field) := by
  obtain ⟨items, rfl, hlength, hread⟩ := h.read (d := d)
  have hplace : i < items.length := hlength ▸ hi
  have hsplit : items = items.take i ++ items[i] :: items.drop (i + 1) := by simp
  have hbefore : ∀ y ∈ items.take i, ∃ g, Gateway.read d y = .ok g := by
    -- the gateways in the places before have all that they must have
    intro y hy
    obtain ⟨j, hj, rfl⟩ := List.mem_iff_getElem.mp hy
    have hj' : j < i := by rw [List.length_take] at hj; omega
    refine ⟨gateways[j].without (cut.ofGateway j), ?_⟩
    rw [List.getElem_take, hread j (by omega) (by omega), hearlier j hj']
  have hat : Gateway.read d items[i] = .error (.missingField field) := by
    rw [hread i hi hplace, hmissing]
  -- The list splits at the first gateway that cannot be read.
  rw [readList, hsplit]
  exact mapM_error hbefore hat

/-- The entries of a table. -/
def Tree.entries : Tree → List (String × Tree)
  | .table entries => entries
  | _ => []

/-- What can be read under a name of a configuration: its section, edited, where no gateway may lack
what it must have. -/
def Cut.Fits (cut : Cut) (c : Config) (key : String) (u : Tree) : Prop :=
  Allowed cut.Alters c.tree.entries key u ∧
    (key = "gateways" → ∀ i < c.gateways.length, missing? (cut.ofGateway i) = none)

/-- The sections of a configuration are filled in one by one, each with what is left of it. -/
theorem fillsIn_members (cut : Cut) (c : Config) :
    FillsIn members d (cut.Fits c) fun gone => c.without { cut with sections := gone } where
  -- Only whether a section's name is gone counts.
  congr gone gone' hgone := by
    simp only [members, List.forall_mem_cons, name_member] at hgone
    simp [without, Cut.ofSection, hgone]
  -- One goal for each section: what is left of it is read, and the rest is the default.
  set := by
    simp +contextual [members, Cut.Fits, Allowed, tree, Tree.entries, Cut.Alters, without,
      Cut.ofSection, c.listener.read_edited (cut.fields "listener"),
      c.routing.read_edited (cut.fields "routing"), c.limits.read_edited (cut.fields "limits"),
      c.timeouts.read_edited (cut.fields "timeouts"), c.retries.read_edited (cut.fields "retries"),
      c.observability.read_edited (cut.fields "observability"),
      readGateways_of_kept c.gateways cut]

/-- **What is left of a configuration is read** as the configuration with defaults for the rest. -/
theorem ofTree_of_kept (h : cut.Leaves c.tree t) (hkept : cut.sections "gateways" = true ∨
      ∀ i < c.gateways.length, missing? (cut.ofGateway i) = none) :
    ofTree d t = .ok (c.without cut) := by
  obtain ⟨entries, rfl, hleft⟩ := h.exists_table
  refine (fillsIn_members cut c).readEntries_left rfl rfl hleft fun e he m hm hname => ?_
  obtain ⟨hgone, hallowed⟩ := hleft.allowed rfl he hm hname
  refine ⟨hallowed, fun hkey => hkept.resolve_left ?_⟩
  simp [← hkey, hgone]

/-- The member for the gateways fails where one of them lacks a field. -/
theorem fails_gateways {e : String × Tree} (hkey : e.1 = "gateways")
    (hallowed : Allowed cut.Alters c.tree.entries e.1 e.2) (hi : i < c.gateways.length)
    (hearlier : ∀ j < i, missing? (cut.ofGateway j) = none)
    (hmissing : missing? (cut.ofGateway i) = some field) :
    Fails members d (.missingField field) e := by
  obtain ⟨t, hmem, halters⟩ := hallowed
  -- What was altered is the list of the gateways, as no other entry has this name.
  obtain rfl : t = .sequence (c.gateways.map Gateway.tree) := by
    simpa [hkey, tree, Tree.entries] using hmem
  have hgateways : cut.AltersGateways (.sequence (c.gateways.map Gateway.tree)) e.2 := by
    simpa [hkey, Cut.Alters] using halters
  have hread := readGateways_of_missing (d := d) hgateways hi hearlier hmissing
  constructor
  · simp [members, hkey]
  · simp [members, hkey, hread]

/-- **A gateway without what it must have** cannot be read, and neither can the configuration. -/
theorem ofTree_of_missing (h : cut.Leaves c.tree t) (hgateways : cut.sections "gateways" = false)
    (hi : i < c.gateways.length) (hearlier : ∀ j < i, missing? (cut.ofGateway j) = none)
    (hmissing : missing? (cut.ofGateway i) = some field) :
    ofTree d t = .error (.missingField field) := by
  obtain ⟨entries, rfl, hleft⟩ := h.exists_table
  have hstart : ({} : Config) = c.without { cut with sections := fun _ => true } := rfl
  show readEntries members d {} entries = _
  -- A reading starts from the defaults, which are what is left of the configuration without its
  -- sections.
  rw [hstart]
  -- the gateways fail and are there; all other sections can be read
  refine (fillsIn_members cut c).readEntries_of_fails (fun e he => ?_) ?_
  · by_cases hkey : e.1 = "gateways"
    · -- The entry of the gateways: the reader of this name fails on it.
      have hmem : ∃ m ∈ members, m.name = e.1 := by simp [members, hkey]
      obtain ⟨m, hm, hname⟩ := hmem
      exact .inr (fails_gateways hkey (hleft.allowed rfl he hm hname).2 hi hearlier hmissing)
    · -- Any other entry.
      exact .inl fun m hm hname =>
        ⟨(hleft.allowed rfl he hm hname).2, fun heq => absurd heq hkey⟩
  · -- What fails is there, since the gateways were kept.
    obtain ⟨u, hu⟩ := hleft.kept ("gateways", .sequence (c.gateways.map Gateway.tree)) (by simp)
      hgateways
    have hmem : ∃ m ∈ members, m.name = "gateways" := by simp [members]
    obtain ⟨m, hm, hname⟩ := hmem
    exact ⟨_, hu, fails_gateways rfl (hleft.allowed rfl hu hm hname).2 hi hearlier hmissing⟩

/-! ## Deleting -/

/-- A table without the entries of some names. -/
def Tree.delete (gone : Names) : Tree → Tree
  | .table entries => .table (entries.filter (!gone ·.1))
  | t => t

/-- A sequence with each item deleted from by its place. -/
def Tree.deleteItems (gone : Nat → Names) : Tree → Tree
  | .sequence items => .sequence (items.mapIdx fun i t => t.delete (gone i))
  | t => t

/-- A section without what is cut from it. -/
def Cut.deleteIn (cut : Cut) (name : String) (t : Tree) : Tree :=
  if name = "gateways" then t.deleteItems cut.ofGateway else t.delete (cut.fields name)

/-- A configuration's tree without what is cut from it. -/
def Cut.delete (cut : Cut) (t : Tree) : Tree :=
  .table ((t.entries.filter (!cut.sections ·.1)).map fun e => (e.1, cut.deleteIn e.1 e.2))

/-- Deleting fields of a table leaves an edited table. -/
theorem edited_delete {full : List (String × Tree)} (hnames : (full.map Prod.fst).Nodup) :
    Edited gone Unaltered (.table full) ((Tree.table full).delete gone) :=
  .table (LeftOf.of_delete hnames fun _ _ => rfl)

/-- Each spelling respells itself. -/
theorem Respelt.refl (types : List MediaType) :
    Respelt (.sequence (types.map fun m => .text m.text))
      (.sequence (types.map fun m => .text m.text)) := by
  refine .sequence (List.forall₂_same.mpr fun t ht => ?_)
  obtain ⟨m, -, rfl⟩ := List.mem_map.mp ht
  exact .text (Text.Spells.refl _)

/-- Deleting fields of a gateway leaves an edited gateway. -/
theorem Gateway.edited_delete (g : Gateway) :
    Edited gone Gateway.Alters g.tree (g.tree.delete gone) := by
  refine .table (LeftOf.of_delete (by simp) ?_)
  simp [Gateway.Alters, Respelt.refl]

/-- Deleting fields of each gateway leaves an altered list of gateways. -/
theorem altersGateways_delete (gateways : List Gateway) :
    cut.AltersGateways (.sequence (gateways.map Gateway.tree))
      ((Tree.sequence (gateways.map Gateway.tree)).deleteItems cut.ofGateway) := by
  refine .sequence (by simp) fun i t u ht hu => ?_
  rw [List.getElem?_mapIdx, ht] at hu
  obtain rfl : t.delete (cut.ofGateway i) = u := Option.some.inj hu
  obtain ⟨g, -, rfl⟩ := List.mem_map.mp (List.mem_of_getElem? ht)
  exact g.edited_delete

/-- **What a cut leaves is what deleting leaves**, other edits apart. -/
theorem leaves_delete (cut : Cut) (c : Config) : cut.Leaves c.tree (cut.delete c.tree) := by
  have hsections : ∀ e ∈ c.tree.entries, cut.Alters e.1 e.2 (cut.deleteIn e.1 e.2) := by
    -- one goal for each section, and the gateways last
    simp only [tree, Tree.entries, List.forall_mem_cons, List.not_mem_nil, false_imp_iff,
      implies_true, and_true]
    exact ⟨edited_delete (by simp), edited_delete (by simp), edited_delete (by simp),
      edited_delete (by simp), edited_delete (by simp), edited_delete (by simp),
      altersGateways_delete c.gateways⟩
  have hnames : (c.tree.entries.map Prod.fst).Nodup := by simp [tree, Tree.entries]
  have h : LeftOf cut.sections cut.Alters c.tree.entries (_ ++ []) :=
    LeftOf.of_edit cut.deleteIn hnames hsections (by simp)
  rw [List.append_nil] at h
  exact .table h

/-! ## The round trip -/

/-- Nothing is deleted. -/
def Cut.nothing : Cut := ⟨fun _ => false, fun _ _ => false, fun _ _ => false⟩

/-- Cutting nothing away leaves the configuration. -/
theorem without_nothing (c : Config) : c.without .nothing = c := by
  have hgateways : ∀ g : Gateway, g.without (fun _ => false) = g := fun _ => rfl
  obtain ⟨listener, routing, limits, timeouts, retries, observability, gateways⟩ := c
  simp [without, Cut.nothing, Cut.ofSection, Listener.without, Routing.without, Limits.without,
    Timeouts.without, Retries.without, Observability.without, hgateways, List.mapIdx_eq_zipIdx_map]

/-- Deleting nothing leaves a tree. -/
theorem Tree.delete_nothing (t : Tree) : t.delete (fun _ => false) = t := by
  cases t <;> simp [delete]

/-- Deleting nothing from its items leaves a sequence. -/
theorem Tree.deleteItems_nothing (t : Tree) : t.deleteItems (fun _ _ => false) = t := by
  cases t <;> simp [deleteItems, delete_nothing, List.mapIdx_eq_zipIdx_map]

/-- Deleting nothing from what is written leaves it. -/
theorem delete_nothing (c : Config) : Cut.nothing.delete c.tree = c.tree := by
  have hsection : ∀ name t, Cut.nothing.deleteIn name t = t := fun name t => by
    simp [Cut.deleteIn, Cut.nothing, Tree.delete_nothing, Tree.deleteItems_nothing]
  show Tree.table _ = Tree.table c.tree.entries
  simp only [hsection]
  simp [Cut.nothing]

/-- **Reading inverts writing, field by field.** A configuration is read back from its tree. If
sections, fields of sections and fields of gateways are deleted from the tree, in whatever choice,
members that no record has are added and media types are spelt in other ways, then it is read with
the documented defaults for just what was deleted, as long as each gateway keeps its name and its
endpoint; the first one that does not is the fault, by the field that is missing. -/
theorem reading_inverts_writing (c : Config) :
    ofTree .json c.tree = .ok c ∧
    ∀ cut : Cut, cut.Leaves c.tree (cut.delete c.tree) ∧ ∀ t, cut.Leaves c.tree t →
      (cut.sections "gateways" = true ∨
          (∀ i < c.gateways.length, missing? (cut.ofGateway i) = none) →
        ofTree .json t = .ok (c.without cut)) ∧
      (cut.sections "gateways" = false → ∀ i < c.gateways.length,
        (∀ j < i, missing? (cut.ofGateway j) = none) → ∀ field,
          missing? (cut.ofGateway i) = some field →
            ofTree .json t = .error (.missingField field)) := by
  refine ⟨?_, fun cut => ⟨leaves_delete cut c, fun t ht => ⟨ofTree_of_kept ht, ?_⟩⟩⟩
  · -- reading back what was written is reading it with nothing cut
    have hself : Cut.nothing.Leaves c.tree c.tree := by
      simpa only [delete_nothing] using leaves_delete .nothing c
    rw [ofTree_of_kept hself (.inr fun i _ => rfl), without_nothing]
  · exact fun hgateways i hi hearlier field hmissing =>
      ofTree_of_missing ht hgateways hi hearlier hmissing

/-- A configuration with one gateway, of whose tree only the gateway's name and endpoint, its media
types in another spelling and a remark are left; and the same without the endpoint. -/
theorem reading_inverts_writing_remarked :
    let g : Gateway := { name := "g1", endpoint := "http://h/", poolSize := 4 }
    let c : Config := { gateways := [g] }
    let cut (gone : Names) : Cut := ⟨(· != "gateways"), fun _ _ => false, fun _ => gone⟩
    let left : List (String × Tree) := [("remark", .null), ("name", .text "g1"),
      ("accepted_media_types", .sequence [.text " Message/OHTTP-Req "])]
    let t (entries : List (String × Tree)) : Tree :=
      .table [("gateways", .sequence [.table entries])]
    let gone : Names := fun name => !(["name", "endpoint", "accepted_media_types"].contains name)
    let more : Names := fun name => !(["name", "accepted_media_types"].contains name)
    (cut gone).Leaves c.tree (t (("endpoint", .text "http://h/") :: left)) ∧
      ofTree .json (t (("endpoint", .text "http://h/") :: left)) =
        .ok { gateways := [{ name := "g1", endpoint := "http://h/" }] } ∧
      (cut more).Leaves c.tree (t left) ∧
      ofTree .json (t left) = .error (.missingField "endpoint") := by
  intro g c cut left t gone more
  have htypes : Respelt (.sequence [.text MediaType.request.text])
      (.sequence [.text " Message/OHTTP-Req "]) :=
    .sequence (.cons (.text ⟨[' '], "Message/OHTTP-Req".toList, [' '], by decide,
      List.forall_mem_singleton.mpr (by decide), List.forall_mem_singleton.mpr (by decide),
      by decide⟩) .nil)
  -- What is left of the one gateway decides what is left of the configuration.
  have hleaves : ∀ gone entries, LeftOf gone Gateway.Alters g.tree.entries entries →
      (cut gone).Leaves c.tree (t entries) := by
    intro gone entries h
    have hitems : (cut gone).AltersGateways (.sequence [g.tree]) (.sequence [.table entries]) := by
      refine .sequence rfl fun i u u' hu hu' => ?_
      cases i with
      -- The first and only gateway.
      | zero =>
        obtain rfl : g.tree = u := Option.some.inj hu
        obtain rfl : .table entries = u' := Option.some.inj hu'
        exact .table h
      -- There is no second one.
      | succ i => simp at hu
    exact .table ⟨by simp [cut], by simpa [c, cut, Cut.Alters] using hitems, by simp⟩
  -- Once with the endpoint and once without, each with a remark and a respelt media type.
  have hkept := hleaves gone (("endpoint", .text "http://h/") :: left)
    ⟨by simp [g, Gateway.tree, Tree.entries, gone, left],
      by simpa [g, Gateway.tree, Tree.entries, gone, left, Gateway.Alters] using htypes,
      by simp [g, Gateway.tree, Tree.entries, left]⟩
  have hmore := hleaves more left
    ⟨by simp [g, Gateway.tree, Tree.entries, more, left],
      by simpa [g, Gateway.tree, Tree.entries, more, left, Gateway.Alters] using htypes,
      by simp [g, Gateway.tree, Tree.entries, left]⟩
  refine ⟨hkept, ?_, hmore, ?_⟩
  · -- Whatever is gone has a default.
    exact (((reading_inverts_writing c).2 (cut gone)).2 _ hkept).1 (.inr (by decide))
  · -- The endpoint has none.
    exact (((reading_inverts_writing c).2 (cut more)).2 _ hmore).2 rfl 0 (by decide) (by decide)
      "endpoint" rfl

end ObliviousRelay.Config
