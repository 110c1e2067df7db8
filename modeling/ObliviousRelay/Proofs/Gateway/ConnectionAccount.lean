import ObliviousRelay.Proofs.Gateway.SlotAccount

/-!
# The account of connections

Every connection that was ever made is in exactly one place: it lies idle, one exchange owns it, or
it has been closed. The account is kept against all that was brought about so far.

- `ConnectionAccount` is the invariant, `ConnectionAccount.transition` says that every transition
  keeps it.
- `ConnectionAccount.openCount` is the number of open connections, as the pool counts them.
-/

namespace ObliviousRelay.Gateway.Station

open Timing (Deadline Expired)

variable {s t : Station} {x : Nat} {p q : Phase} {e : Event} {o : Outcome}
  {effects more : List Effect}

/-! ## Where connections are -/

/-- Whether an exchange in a phase owns the connection of a number. -/
def ownsSerial (n : Nat) (p : Phase) : Bool := p.connection?.any (·.serial = n)

/-- How often the connection of a number lies idle. -/
def idleCount (s : Station) (n : Nat) : Nat := s.pool.idle.countP (·.serial = n)

/-- How many exchanges own the connection of a number. -/
def ownersOf (s : Station) (n : Nat) : Nat := s.tally fun e => (ownsSerial n e.phase).toNat

/-- How many exchanges own a connection. -/
def ownerCount (s : Station) : Nat := s.tally (·.phase.connection?.isSome.toNat)

/-- Every connection made so far is in one place, and the pool counts the open ones. -/
structure ConnectionAccount (s : Station) (effects : List Effect) : Prop where
  placed : ∀ n, s.idleCount n + s.ownersOf n + effects.count (.closed n) =
    (decide (n < s.pool.created)).toNat
  opened : ∀ n, effects.count (.opened n) = (decide (n < s.pool.created)).toNat
  openCount : s.pool.openCount = s.pool.idle.length + s.ownerCount

/-! ## Effects that are not about connections -/

/-- Effects that open and close nothing. -/
def LeaveConnections (effects : List Effect) : Prop :=
  ∀ n, effects.count (.closed n) = 0 ∧ effects.count (.opened n) = 0

/-- Giving up neither opens nor closes a connection. -/
theorem GivesUp.leaveConnections {dial : Dial} {f : Failure} (h : GivesUp s x e dial effects f) :
    LeaveConnections effects := by
  intro n
  cases h <;> simp

/-- Neither does a passage. -/
theorem Passage.leaveConnections (h : Passage s x e p q effects) : LeaveConnections effects := by
  intro n
  cases h <;> simp

/-- What a loss tells besides its one closing does neither. -/
theorem Loss.leaveConnections {c : Connection} (h : Loss s x e p c q effects more) :
    LeaveConnections effects ∧ LeaveConnections more := by
  constructor <;> intro n <;> cases h <;> simp

/-- What a gain tells besides its one opening does neither. -/
theorem Gain.leaveConnections {c : Connection} {d : Deadline} {purpose : Purpose}
    (h : Gain s x c d purpose q effects) : LeaveConnections effects := by
  intro n
  cases h <;> simp

/-- Neither does a surrender. -/
theorem Surrender.leaveConnections {f : Failure} (h : Surrender s x e p effects f) :
    LeaveConnections effects := by
  obtain ⟨d, purpose, hpurpose, hgives⟩ := h
  exact hgives.leaveConnections

/-- Neither does what is told after an exchange has ended. -/
theorem Ending.leaveConnections {disposal : Outcome} (h : Ending s x e p disposal effects) :
    LeaveConnections effects := by
  intro n
  cases h <;> simp

/-- Neither does giving a slot back. -/
theorem SlotAccount.leaveConnections_finish (h : s.SlotAccount) (hp : s.phase? x = some p)
    (hslot : p.hasSlot = true) : LeaveConnections (s.finish x).2 := by
  intro n
  obtain heq | ⟨w, timeout, -, -, heq⟩ := h.finish_effects hp hslot <;> simp [heq]

/-- Closing some connections is told once for each. -/
theorem count_closed_map (cs : List Connection) (n : Nat) :
    (cs.map (Effect.closed ·.serial)).count (.closed n) = cs.countP (·.serial = n) := by
  rw [List.count, List.countP_map]
  congr 1
  funext c
  by_cases hn : c.serial = n <;> simp [hn]

/-- Closing opens none. -/
theorem count_opened_map (cs : List Connection) (n : Nat) :
    (cs.map (Effect.closed ·.serial)).count (.opened n) = 0 := by
  simp [List.count_eq_zero]

/-! ## Owners after an operation -/

/-- An exchange that moves on is an owner as long as its phase has the connection. -/
theorem ownersOf_setPhase (hd : s.HasDistinctIds) (hp : s.phase? x = some p) (n : Nat) :
    (s.setPhase x q).ownersOf n + (ownsSerial n p).toNat = s.ownersOf n + (ownsSerial n q).toNat :=
  tally_setPhase (fun e => (ownsSerial n e.phase).toNat) hd hp

/-- The owners are counted by the phases. -/
theorem ownerCount_setPhase (hd : s.HasDistinctIds) (hp : s.phase? x = some p) :
    (s.setPhase x q).ownerCount + p.connection?.isSome.toNat =
      s.ownerCount + q.connection?.isSome.toNat :=
  tally_setPhase (·.phase.connection?.isSome.toNat) hd hp

/-- An exchange that leaves is no owner any more. -/
theorem SlotAccount.ownersOf_finish (h : s.SlotAccount) (hp : s.phase? x = some p)
    (hslot : p.hasSlot = true) (n : Nat) :
    (s.finish x).1.ownersOf n + (ownsSerial n p).toNat = s.ownersOf n :=
  h.tally_finish hp hslot (fun e => (ownsSerial n e.phase).toNat) fun _ _ => rfl

/-- There is one owner less, if it had a connection. -/
theorem SlotAccount.ownerCount_finish (h : s.SlotAccount) (hp : s.phase? x = some p)
    (hslot : p.hasSlot = true) :
    (s.finish x).1.ownerCount + p.connection?.isSome.toNat = s.ownerCount :=
  h.tally_finish hp hslot (·.phase.connection?.isSome.toNat) fun _ _ => rfl

/-! ## Disposing of a connection -/

/-- A phase has at most one connection. -/
theorem countP_toList_connection? (p : Phase) (n : Nat) :
    p.connection?.toList.countP (·.serial = n) = (ownsSerial n p).toNat := by
  cases h : p.connection? with
  | none => simp [ownsSerial, h]
  | some c => by_cases hn : c.serial = n <;> simp [ownsSerial, h, hn]

/-- The connection of an exchange that ends is put aside or closed, and nothing else happens to any
connection. -/
theorem Ending.disposal_placed {disposal : Outcome} {tail : List Effect}
    (h : Ending s x e p disposal tail) (n : Nat) :
    disposal.1.idleCount n + disposal.2.count (.closed n) = s.idleCount n + (ownsSerial n p).toNat ∧
      disposal.2.count (.opened n) = 0 ∧ disposal.1.pool.created = s.pool.created := by
  cases h with
  | releaseClean c t hclean =>
    unfold putAside
    split
    · -- Put aside too late, it is closed after all.
      by_cases hn : c.serial = n <;> simp [close, idleCount, ownsSerial, Phase.connection?, hn]
    -- Not closed yet, the connection joins the idle ones.
    · by_cases hn : c.serial = n <;> simp [idleCount, ownsSerial, Phase.connection?, hn]
  | releaseUsed c t hused =>
    by_cases hn : c.serial = n <;> simp [close, idleCount, ownsSerial, Phase.connection?, hn]
  | drop p hslot =>
    -- What a dropped exchange had is closed, and it had one connection at most.
    rw [closeOwn, closeAll_eq, count_closed_map, count_opened_map, countP_toList_connection?]
    exact ⟨rfl, rfl, rfl⟩
  | releaseSpent => exact ⟨rfl, rfl, rfl⟩
  | giveUp d hgives =>
    rw [(hgives.leaveConnections n).1, (hgives.leaveConnections n).2]
    exact ⟨rfl, rfl, rfl⟩
  | breakDown => simp [ownsSerial, Phase.connection?]

/-- The number of open connections falls with those closed. -/
theorem Ending.disposal_openCount {disposal : Outcome} {tail : List Effect}
    (h : Ending s x e p disposal tail)
    (hopen : s.pool.idle.length + p.connection?.isSome.toNat ≤ s.pool.openCount) :
    disposal.1.pool.openCount + s.pool.idle.length + p.connection?.isSome.toNat =
      s.pool.openCount + disposal.1.pool.idle.length := by
  cases h with
  | releaseClean c t hclean =>
    simp only [Phase.connection?, Option.isSome_some, Bool.toNat_true] at hopen ⊢
    unfold putAside
    split
    · -- Closed: one open connection less, and none more is idle.
      simp only [close]
      omega
    · -- Put aside: it stays open and is idle.
      simp only [List.length_cons]
      omega
  | releaseUsed c t hused =>
    simp only [Phase.connection?, Option.isSome_some, Bool.toNat_true, close] at hopen ⊢
    omega
  | drop p hslot =>
    rw [closeOwn, closeAll_eq]
    cases hc : p.connection? <;> simp [hc, withIdle] at hopen ⊢
    omega
  | releaseSpent => rfl
  | giveUp d hgives => rfl
  | breakDown => rfl

namespace ConnectionAccount

/-- A station without exchanges has no connection. -/
theorem ofTarget (target : Target) (policy : Policy) :
    (Station.ofTarget target policy).ConnectionAccount [] where
  placed _ := rfl
  opened _ := rfl
  openCount := rfl

/-- An exchange owns no more than is open. -/
theorem one_le_openCount (h : s.ConnectionAccount effects) (hp : s.phase? x = some p) :
    s.pool.idle.length + p.connection?.isSome.toNat ≤ s.pool.openCount := by
  rw [h.openCount]
  exact Nat.add_le_add_left (le_tally (·.phase.connection?.isSome.toNat) hp) _

/-- The account after effects that make no connection: what left the idle list and the exchanges has
been closed. -/
theorem extend (h : s.ConnectionAccount effects) (hcreated : t.pool.created = s.pool.created)
    (hplaced : ∀ n, t.idleCount n + t.ownersOf n + more.count (.closed n) =
      s.idleCount n + s.ownersOf n)
    (hopened : ∀ n, more.count (.opened n) = 0)
    (hopen : t.pool.openCount = t.pool.idle.length + t.ownerCount) :
    t.ConnectionAccount (effects ++ more) where
  placed n := by
    have hold := h.placed n
    have hnew := hplaced n
    rw [List.count_append, hcreated]
    omega
  opened n := by
    rw [List.count_append, hopened n, hcreated]
    exact h.opened n
  openCount := hopen

/-- The account after effects that are not about connections, where no connection changes hands. -/
theorem extend_quiet (h : s.ConnectionAccount effects) (hpool : t.pool.idle = s.pool.idle)
    (hopen : t.pool.openCount = s.pool.openCount) (hcreated : t.pool.created = s.pool.created)
    (howners : ∀ n, t.ownersOf n = s.ownersOf n) (hcount : t.ownerCount = s.ownerCount)
    (hmore : LeaveConnections more) : t.ConnectionAccount (effects ++ more) := by
  refine h.extend hcreated (fun n => ?_) (fun n => (hmore n).2) ?_
  · rw [(hmore n).1, howners, idleCount, hpool]
    rfl
  · rw [hopen, hpool, hcount]
    exact h.openCount

/-- An exchange takes a connection over from the idle list, after some others were closed. -/
theorem reuse (h : s.ConnectionAccount effects) (hd : s.HasDistinctIds) {timeout : Nat}
    {c : Connection} {t : Terms} {unusable left : List Connection}
    (hp : s.phase? x = some (.granted timeout)) (hidle : s.pool.idle = unusable ++ c :: left) :
    ((s.withIdle left unusable.length).setPhase x (.held c t)).ConnectionAccount
      (effects ++ (unusable.map (.closed ·.serial) ++ [.leased x true])) := by
  refine h.extend rfl (fun n => ?_) (fun n => ?_) ?_
  · have howners := ownersOf_setPhase (q := .held c t) hd hp n
    change (s.setPhase x (.held c t)).ownersOf n + 0 =
      s.ownersOf n + (decide (c.serial = n)).toNat at howners
    show left.countP (·.serial = n) + (s.setPhase x (.held c t)).ownersOf n + _ =
      s.pool.idle.countP (·.serial = n) + s.ownersOf n
    -- What lay before the connection was closed, and the connection has an owner now.
    rw [List.count_append, count_closed_map, hidle, List.countP_append, List.countP_cons]
    by_cases hn : c.serial = n <;> simp [hn] at howners ⊢ <;> omega
  · simp [List.count_append, count_opened_map]
  · -- The open connections: those that lay before are gone from the pool, one is taken out.
    have hcount := ownerCount_setPhase (q := .held c t) hd hp
    change (s.setPhase x (.held c t)).ownerCount + 0 = s.ownerCount + 1 at hcount
    have hopen := h.openCount
    rw [hidle, List.length_append, List.length_cons] at hopen
    show s.pool.openCount - unusable.length =
      left.length + (s.setPhase x (.held c t)).ownerCount
    omega

/-- All idle connections are closed, and an exchange without one dials. -/
theorem dial (h : s.ConnectionAccount effects) (hd : s.HasDistinctIds) {timeout : Nat}
    {d : Deadline} {purpose : Purpose} {dial : Dial}
    (hp : s.phase? x = some (.granted timeout)) :
    ((s.withIdle [] s.pool.idle.length).setPhase x (.dialling d purpose dial)).ConnectionAccount
      (effects ++ (s.pool.idle.map (.closed ·.serial) ++ [.dialling x])) := by
  refine h.extend rfl (fun n => ?_) (fun n => ?_) ?_
  · -- All idle connections are closed before a new one is made.
    have howners := ownersOf_setPhase (q := .dialling d purpose dial) hd hp n
    change (s.setPhase x (.dialling d purpose dial)).ownersOf n + 0 = s.ownersOf n + 0 at howners
    show 0 + (s.setPhase x (.dialling d purpose dial)).ownersOf n + _ =
      s.pool.idle.countP (·.serial = n) + s.ownersOf n
    simp only [List.count_append, count_closed_map, List.count_singleton]
    simp at howners ⊢
    omega
  · simp [List.count_append, count_opened_map]
  · have hcount := ownerCount_setPhase (q := .dialling d purpose dial) hd hp
    change (s.setPhase x (.dialling d purpose dial)).ownerCount + 0 = s.ownerCount + 0 at hcount
    -- The pool counts down by as many as were idle.
    have hopen := h.openCount
    show s.pool.openCount - s.pool.idle.length =
      0 + (s.setPhase x (.dialling d purpose dial)).ownerCount
    omega

/-- The connection of an exchange is closed and the exchange goes on without it. -/
theorem loss (h : s.ConnectionAccount effects) (hd : s.HasDistinctIds) {c : Connection}
    {before after : List Effect} (hp : s.phase? x = some p)
    (hloss : Loss s x e p c q before after) :
    ((s.close c).1.setPhase x q).ConnectionAccount
      (effects ++ (before ++ .closed c.serial :: after)) := by
  obtain ⟨hbefore, hafter⟩ := hloss.leaveConnections
  obtain ⟨hpc, hqc⟩ := hloss.connection?_eq
  refine h.extend rfl (fun n => ?_) (fun n => ?_) ?_
  · -- The lost connection had an owner, and is closed.
    have howners := ownersOf_setPhase (q := q) hd hp n
    simp only [ownsSerial, hpc, hqc, Option.any_some, Option.any_none, Bool.toNat_false] at howners
    show s.idleCount n + (s.setPhase x q).ownersOf n + _ = _
    rw [List.count_append, List.count_cons, (hbefore n).1, (hafter n).1]
    by_cases hn : c.serial = n <;> simp [hn] at howners ⊢ <;> omega
  · rw [List.count_append, List.count_cons, (hbefore n).2, (hafter n).2]
    simp
  · -- One open connection less, and one owner less.
    have hcount := ownerCount_setPhase (q := q) hd hp
    rw [hpc, hqc] at hcount
    have hopen := h.openCount
    show s.pool.openCount - 1 = s.pool.idle.length + (s.setPhase x q).ownerCount
    simp at hcount
    omega

/-- A connection is made for an exchange that dialled. -/
theorem gain (h : s.ConnectionAccount effects) (hd : s.HasDistinctIds) {d d' : Deadline}
    {purpose : Purpose} {dial : Dial} (hp : s.phase? x = some (.dialling d purpose dial))
    (hgain : Gain s x s.opened.1 d' purpose q more) :
    (s.opened.2.1.setPhase x q).ConnectionAccount (effects ++ (s.opened.2.2 ++ more)) := by
  have hmore := hgain.leaveConnections
  have hqc := hgain.connection?_eq
  constructor
  case placed =>
    intro n
    have hold := h.placed n
    have howners := ownersOf_setPhase (q := q) hd hp n
    rw [ownsSerial, ownsSerial, hqc] at howners
    show s.idleCount n + (s.setPhase x q).ownersOf n + _ =
      (decide (n < s.pool.created + 1)).toNat
    have hclosed : s.opened.2.2.count (.closed n) = 0 := by simp [Station.opened]
    rw [List.count_append, List.count_append, hclosed, (hmore n).1]
    -- The new connection bears the next number, which no older one has.
    change _ + 0 = _ + (decide (s.pool.created = n)).toNat at howners
    by_cases hlt : n < s.pool.created
    · simp [hlt, Nat.lt_succ_of_lt hlt, Nat.ne_of_gt hlt] at hold howners ⊢
      omega
    · by_cases hn : s.pool.created = n
      · simp [hn] at hold howners ⊢
        omega
      · have hge : ¬ n < s.pool.created + 1 := by omega
        simp [hlt, hn, hge] at hold howners ⊢
        omega
  case opened =>
    intro n
    have hold := h.opened n
    show _ = (decide (n < s.pool.created + 1)).toNat
    rw [List.count_append, List.count_append, (hmore n).2, hold]
    -- It is told of once, now.
    by_cases hn : s.pool.created = n
    · simp [Station.opened, hn]
    · have hiff : n < s.pool.created + 1 ↔ n < s.pool.created := by omega
      simp [Station.opened, hn, hiff]
  -- One open connection more, and one owner more.
  case openCount =>
    have hcount := ownerCount_setPhase (q := q) hd hp
    rw [hqc] at hcount
    change _ + 0 = s.ownerCount + 1 at hcount
    have hopen := h.openCount
    show s.pool.openCount + 1 = s.pool.idle.length + (s.setPhase x q).ownerCount
    omega

/-- An exchange ends, and what it owned is put aside or closed. -/
theorem ending (h : s.ConnectionAccount effects) (hs : s.SlotAccount) {disposal : Outcome}
    (hp : s.phase? x = some p) (hending : Ending s x e p disposal more) :
    (disposal.1.finish x).1.ConnectionAccount
      (effects ++ (disposal.2 ++ (disposal.1.finish x).2 ++ more)) := by
  have hs' : disposal.1.SlotAccount := hs.disposal hending
  have hp' : disposal.1.phase? x = some p := (hending.phase?_disposal x).trans hp
  have hex := hending.disposal_same.1
  obtain ⟨hidle, hopen, hcreated⟩ := hs'.finish_pool hp' hending.hasSlot
  have hfinish := hs'.leaveConnections_finish hp' hending.hasSlot
  have htail := hending.leaveConnections
  -- First the connection is disposed of, then the exchange leaves: the two steps add up.
  refine h.extend (hcreated.trans (hending.disposal_placed 0).2.2) (fun n => ?_) (fun n => ?_) ?_
  · -- Each connection: disposed of, it is idle or closed, and its exchange is gone.
    have howners := hs'.ownersOf_finish hp' hending.hasSlot n
    have hsame : disposal.1.ownersOf n = s.ownersOf n := tally_congr hex
    have hplaced := (hending.disposal_placed n).1
    have hidle' : (disposal.1.finish x).1.idleCount n = disposal.1.idleCount n := by
      rw [idleCount, hidle, idleCount]
    rw [List.count_append, List.count_append, (hfinish n).1, (htail n).1]
    omega
  · -- None is opened.
    rw [List.count_append, List.count_append, (hfinish n).2, (htail n).2,
      (hending.disposal_placed n).2.1]
  · -- The open connections are those that are idle or have an owner.
    have hcount := hs'.ownerCount_finish hp' hending.hasSlot
    have hsame : disposal.1.ownerCount = s.ownerCount := tally_congr hex
    have hdisposed := hending.disposal_openCount (h.one_le_openCount hp)
    have hold := h.openCount
    rw [hopen, hidle]
    omega

/-- A transition keeps the account of connections. -/
theorem transition (h : s.ConnectionAccount effects) (hs : s.SlotAccount)
    (ht : Transition s e o) : o.1.ConnectionAccount (effects ++ o.2) := by
  cases ht with
  | still | dead | refuse | lose | elapse =>
    exact h.extend_quiet rfl rfl rfl (fun _ => rfl) rfl (fun n => by simp)
  -- Who has just come has no connection.
  | accept x timeout | enqueue x timeout =>
    exact h.extend_quiet rfl rfl rfl (fun n => tally_insert _) (tally_insert _) (fun n => by simp)
  -- Who has waited in vain has none either.
  | withdraw x timeout hp | overdue x timeout _ hp =>
    exact h.extend_quiet rfl rfl rfl
      (fun n => tally_erase (fun e => (ownsSerial n e.phase).toNat) hs.distinct hp)
      (tally_erase (·.phase.connection?.isSome.toNat) hs.distinct hp) (fun n => by simp)
  | reuse x timeout c unusable left hp hidle => exact h.reuse hs.distinct hp hidle
  | dial x timeout hp => exact h.dial hs.distinct hp
  | @pass e p q more x hp hpass =>
    -- The connection stays with its exchange.
    have hsame := hpass.connection?_eq
    refine h.extend_quiet rfl rfl rfl (fun n => ?_) ?_ hpass.leaveConnections
    · have howners := ownersOf_setPhase (q := q) hs.distinct hp n
      simp only [ownsSerial, hsame] at howners
      exact Nat.add_right_cancel howners
    · have hcount := ownerCount_setPhase (q := q) hs.distinct hp
      rw [hsame] at hcount
      exact Nat.add_right_cancel hcount
  | lossOf x hp hloss => exact h.loss hs.distinct hp hloss
  | gain x d purpose attempt bound stops hp hgain => exact h.gain hs.distinct hp hgain
  | surrender x hp hsurrender =>
    -- While it dialled, the exchange had no connection.
    have hnone := hsurrender.connection?_eq
    refine h.extend_quiet rfl rfl rfl (fun n => ?_) ?_ fun n => ?_
    · have howners := ownersOf_setPhase (q := .spent) hs.distinct hp n
      simp only [ownsSerial, hnone] at howners
      exact Nat.add_right_cancel howners
    · have hcount := ownerCount_setPhase (q := .spent) hs.distinct hp
      rw [hnone] at hcount
      exact Nat.add_right_cancel hcount
    · -- It is told of a failure, and of no connection.
      have hbefore := hsurrender.leaveConnections n
      simp [List.count_append, hbefore]
  | ending x hp hending => exact h.ending hs hp hending

end ConnectionAccount

end ObliviousRelay.Gateway.Station
