import Gpucall.Dispatcher.Limits

/-! `PostgresAdmissionController` of `admission.py` beside the in-process controller. Both are called
under one clock, whose readings are not negative; the transactions of the shared one are single steps. A
table whose primary key is the kind and the name is a partial function of them. -/

namespace Gpucall

/-- The `kind` column of the two tables. -/
inductive AdmissionKind where
  | tuple | family | workloadScope
  deriving DecidableEq

/-- A row of `gpucall_admission_leases`. -/
structure LeaseRow where
  leaseId : String
  kind : AdmissionKind
  key : String
  expiresAt : ℚ

/-- The names that a lease occupies. -/
def leaseKeys (tupleName family : String) (workloadScope : Option String) :
    List (AdmissionKind × String) :=
  [(.tuple, tupleName), (.family, family)] ++
    match workloadScope with
    | none | some "" => []
    | some scope => [(.workloadScope, scope)]

/-- `round(x, 3)`, which rounds a half to the even neighbour. -/
def round3 (x : ℚ) : ℚ :=
  let whole := ⌊x * 1000⌋
  let part := x * 1000 - whole
  (if part < 1 / 2 ∨ part = 1 / 2 ∧ whole % 2 = 0 then whole else whole + 1) / 1000

/-- What a snapshot lists: the counts that are not zero, and for how long a name is suppressed. -/
@[ext]
structure AdmissionSnapshot where
  inflight : AdmissionKind → String → ℕ
  suppressedTuples : String → Option ℚ
  suppressedFamilies : String → Option ℚ

def AdmissionController.snapshot (c : AdmissionController) (now : ℚ) : AdmissionSnapshot where
  inflight
    | .tuple => c.tupleInflight
    | .family => c.familyInflight
    | .workloadScope => c.workloadScopeInflight
  suppressedTuples name :=
    let deadline := c.tupleSuppressedUntil name
    if now < deadline then some (round3 (deadline - now)) else none
  suppressedFamilies name :=
    let deadline := c.familySuppressedUntil name
    if now < deadline then some (round3 (deadline - now)) else none

/-- The settings of the base class, and the two tables. -/
structure PostgresAdmissionController extends AdmissionController where
  leaseTtlSeconds : ℚ := 3600
  leases : List LeaseRow := []
  suppressedUntil : AdmissionKind → String → Option ℚ := fun _ _ => none

namespace PostgresAdmissionController

variable (c : PostgresAdmissionController)

/-- `_cleanup_expired` -/
def cleanupExpired (now : ℚ) : PostgresAdmissionController :=
  { c with
    leases := c.leases.filter (now < ·.expiresAt)
    suppressedUntil := fun kind key => (c.suppressedUntil kind key).filter (now < ·) }

/-- `_lease_count` -/
def leaseCount (kind : AdmissionKind) (key : String) : ℕ :=
  c.leases.countP fun row => row.kind = kind ∧ row.key = key

/-- The deadline of a name that is suppressed. -/
def suppressedAfter (now : ℚ) (kind : AdmissionKind) (key : String) : Option ℚ :=
  (c.suppressedUntil kind key).filter (now < ·)

/-- The check of the workload scope in `_acquire_sync`. -/
def scopeCountFull (workloadScope : Option String) : Bool :=
  match workloadScope with
  | none | some "" => false
  | some scope =>
    0 < c.workloadScopeLimit && c.workloadScopeLimit ≤ c.leaseCount .workloadScope scope

/-- `_acquire_sync`, with the identifier that `uuid4` draws. -/
def acquireSync (leaseId : String) (now : ℚ) (tupleName : String) (workloadScope : Option String) :
    AdmissionDecision × PostgresAdmissionController :=
  let family := c.familyFor tupleName
  let c := c.cleanupExpired now
  match c.suppressedAfter now .tuple tupleName with
  | some deadline => (.rejected .tupleSuppressed (some (deadline - now)), c)
  | none =>
    match c.suppressedAfter now .family family with
    | some deadline => (.rejected .providerFamilySuppressed (some (deadline - now)), c)
    | none =>
      if 0 < c.tupleLimit && c.tupleLimit ≤ c.leaseCount .tuple tupleName then
        (.rejected .tupleInflightLimit, c)
      else if 0 < c.familyLimit && c.familyLimit ≤ c.leaseCount .family family then
        (.rejected .providerFamilyInflightLimit, c)
      else if c.scopeCountFull workloadScope then (.rejected .workloadScopeInflightLimit, c)
      else
        let rows := (leaseKeys tupleName family workloadScope).map fun (kind, key) =>
          { leaseId, kind, key, expiresAt := now + c.leaseTtlSeconds }
        (.allowed { tuple := tupleName, family, workloadScope }, { c with leases := c.leases ++ rows })

/-- `_release_sync` -/
def releaseSync (leaseId : String) : PostgresAdmissionController :=
  { c with leases := c.leases.filter (·.leaseId ≠ leaseId) }

/-- `INSERT .. ON CONFLICT DO UPDATE` with `GREATEST` -/
def upsertSuppression (kind : AdmissionKind) (key : String) (deadline : ℚ) :
    PostgresAdmissionController :=
  { c with suppressedUntil := fun kind' key' =>
      if kind' = kind ∧ key' = key then some ((c.suppressedUntil kind key).elim deadline (max · deadline))
      else c.suppressedUntil kind' key' }

/-- `_suppress_sync` -/
def suppressSync (now : ℚ) (tupleName : String) (suppressFamily : Bool) :
    PostgresAdmissionController :=
  let deadline := now + c.cooldownSeconds
  let c' := c.upsertSuppression .tuple tupleName deadline
  if suppressFamily then c'.upsertSuppression .family (c.familyFor tupleName) deadline else c'

/-- `_snapshot_sync` -/
def snapshotSync (now : ℚ) : AdmissionSnapshot × PostgresAdmissionController :=
  let c := c.cleanupExpired now
  ({ inflight := c.leaseCount
     suppressedTuples := fun name => (c.suppressedAfter now .tuple name).map fun deadline =>
       round3 (deadline - now)
     suppressedFamilies := fun name => (c.suppressedAfter now .family name).map fun deadline =>
       round3 (deadline - now) }, c)

end PostgresAdmissionController

/-! ## Calls -/

inductive AdmissionOp where
  | acquire (leaseId tupleName : String) (workloadScope : Option String)
  | release (leaseId : String)
  | suppress (tupleName : String) (suppressFamily : Bool)
  | snapshot

/-- An operation and the clock that it reads. -/
structure AdmissionCall where
  now : ℚ
  op : AdmissionOp

inductive AdmissionOutput where
  | decision (decision : AdmissionDecision)
  | snapshot (snapshot : AdmissionSnapshot)
  | done

def PostgresAdmissionController.call (c : PostgresAdmissionController) (call : AdmissionCall) :
    AdmissionOutput × PostgresAdmissionController :=
  match call.op with
  | .acquire leaseId tupleName workloadScope =>
    let (decision, c) := c.acquireSync leaseId call.now tupleName workloadScope
    (.decision decision, c)
  | .release leaseId => (.done, c.releaseSync leaseId)
  | .suppress tupleName suppressFamily => (.done, c.suppressSync call.now tupleName suppressFamily)
  | .snapshot =>
    let (snapshot, c) := c.snapshotSync call.now
    (.snapshot snapshot, c)

/-- A lease in the hands of a caller, under the identifier of its `acquire`. -/
structure HeldLease where
  leaseId : String
  lease : AdmissionLease
  grantedAt : ℚ

/-- The in-process controller and the leases of its callers. -/
structure LocalAdmission where
  controller : AdmissionController
  held : List HeldLease := []

def LocalAdmission.call (l : LocalAdmission) (call : AdmissionCall) : AdmissionOutput × LocalAdmission :=
  match call.op with
  | .acquire leaseId tupleName workloadScope =>
    let (decision, controller) := l.controller.acquire call.now tupleName workloadScope
    let granted := decision.lease.map fun lease => { leaseId, lease, grantedAt := call.now }
    (.decision decision, { controller, held := granted.toList ++ l.held })
  | .release leaseId =>
    let released := l.held.filter (·.leaseId = leaseId)
    (.done, { controller := released.foldl (fun c h => c.release h.lease) l.controller
              held := l.held.filter (·.leaseId ≠ leaseId) })
  | .suppress tupleName suppressFamily =>
    (.done, { l with controller := l.controller.suppress call.now tupleName suppressFamily })
  | .snapshot => (.snapshot (l.controller.snapshot call.now), l)

/-- The outputs of a sequence of calls. -/
def LocalAdmission.outputs (l : LocalAdmission) : List AdmissionCall → List AdmissionOutput
  | [] => []
  | call :: calls => (l.call call).1 :: outputs (l.call call).2 calls

def PostgresAdmissionController.outputs (c : PostgresAdmissionController) :
    List AdmissionCall → List AdmissionOutput
  | [] => []
  | call :: calls => (c.call call).1 :: outputs (c.call call).2 calls

/-- The clock does not go back, no lease in the hands of a caller outlives its time, a new lease has a new
identifier, and a lease is released while it is held. -/
structure LocalAdmission.Admits (l : LocalAdmission) (leaseTtlSeconds clock : ℚ) (call : AdmissionCall) :
    Prop where
  clock : clock ≤ call.now
  alive : ∀ h ∈ l.held, call.now < h.grantedAt + leaseTtlSeconds
  fresh : ∀ leaseId tupleName scope, call.op = .acquire leaseId tupleName scope →
    leaseId ∉ l.held.map (·.leaseId)
  held : ∀ leaseId, call.op = .release leaseId → leaseId ∈ l.held.map (·.leaseId)

def LocalAdmission.AdmitsAll (leaseTtlSeconds : ℚ) : ℚ → LocalAdmission → List AdmissionCall → Prop
  | _, _, [] => True
  | clock, l, call :: calls => l.Admits leaseTtlSeconds clock call ∧
    AdmitsAll leaseTtlSeconds call.now (l.call call).2 calls

/-! ## Simulation -/

/-- A deadline and its row agree after the clock: the row has the deadline, or both are past. -/
def DeadlineAgrees (clock deadline : ℚ) (row : Option ℚ) : Prop :=
  row = some deadline ∨ deadline ≤ clock ∧ ∀ d ∈ row, d ≤ clock

/-- The rows of a lease. -/
def HeldLease.rows (leaseTtlSeconds : ℚ) (h : HeldLease) : List LeaseRow :=
  (leaseKeys h.lease.tuple h.lease.family h.lease.workloadScope).map fun (kind, key) =>
    { leaseId := h.leaseId, kind, key, expiresAt := h.grantedAt + leaseTtlSeconds }

/-- The counts of the one controller are the rows of the other, lease by lease. -/
structure Simulates (leaseTtlSeconds clock : ℚ) (l : LocalAdmission)
    (p : PostgresAdmissionController) : Prop where
  settings : p.toAdmissionController.settings = l.controller.settings
  ttl : p.leaseTtlSeconds = leaseTtlSeconds
  counts : CountsHeld l.controller (l.held.map (·.lease))
  rows : p.leases.Perm (l.held.flatMap (·.rows leaseTtlSeconds))
  nodup : (l.held.map (·.leaseId)).Nodup
  tuples : ∀ name, DeadlineAgrees clock (l.controller.tupleSuppressedUntil name) (p.suppressedUntil .tuple name)
  families : ∀ name,
    DeadlineAgrees clock (l.controller.familySuppressedUntil name) (p.suppressedUntil .family name)

section

variable {ttl clock now deadline : ℚ} {row : Option ℚ} {l : LocalAdmission}
  {p : PostgresAdmissionController}

theorem DeadlineAgrees.filter (h : DeadlineAgrees clock deadline row) (hclock : clock ≤ now) :
    row.filter (now < ·) = if now < deadline then some deadline else none := by
  obtain rfl | ⟨hdeadline, hrow⟩ := h
  · by_cases hlt : now < deadline
    · simp [hlt]
    · simp [hlt, not_lt.mp hlt]
  · rw [if_neg (not_lt.mpr (hdeadline.trans hclock)), Option.filter_eq_none_iff]
    intro d hd
    simpa using (hrow d hd).trans hclock

/-- Cleaning up changes no deadline that is to come. -/
theorem DeadlineAgrees.cleanup (h : DeadlineAgrees clock deadline row) (hclock : clock ≤ now) :
    DeadlineAgrees now deadline (row.filter (now < ·)) := by
  rw [h.filter hclock]
  by_cases hlt : now < deadline
  · exact .inl (if_pos hlt)
  · rw [if_neg hlt]
    exact .inr ⟨not_lt.mp hlt, nofun⟩

/-- `GREATEST` and `max` with a default of zero agree. -/
theorem DeadlineAgrees.suppress (h : DeadlineAgrees clock deadline row) (hclock : clock ≤ now) (later : ℚ) :
    DeadlineAgrees now (max deadline later) (some (row.elim later (max · later))) := by
  obtain rfl | ⟨hdeadline, hrow⟩ := h
  · exact .inl rfl
  · cases row with
    | none =>
      by_cases hlater : later ≤ now
      · exact .inr ⟨max_le (hdeadline.trans hclock) hlater, by simpa using hlater⟩
      · have hmax := max_eq_right ((hdeadline.trans hclock).trans (not_le.mp hlater).le)
        exact .inl (congrArg some hmax.symm)
    | some d =>
      have hd : d ≤ now := (hrow d rfl).trans hclock
      by_cases hlater : later ≤ now
      · exact .inr ⟨max_le (hdeadline.trans hclock) hlater, by simpa using ⟨hd, hlater⟩⟩
      · have hmax := max_eq_right ((hdeadline.trans hclock).trans (not_le.mp hlater).le)
        have hmaxRow : max d later = later := max_eq_right (hd.trans (not_le.mp hlater).le)
        exact .inl (congrArg some (hmaxRow.trans hmax.symm))

theorem DeadlineAgrees.mono (h : DeadlineAgrees clock deadline row) (hclock : clock ≤ now) :
    DeadlineAgrees now deadline row := by
  obtain h | ⟨hdeadline, hrow⟩ := h
  · exact .inl h
  · exact .inr ⟨hdeadline.trans hclock, fun d hd => (hrow d hd).trans hclock⟩

/-! ### Rows -/

/-- A lease counts for a name of a kind. -/
def AdmissionLease.occupies (lease : AdmissionLease) : AdmissionKind → String → Bool
  | .tuple, key => lease.tuple = key
  | .family, key => lease.family = key
  | .workloadScope, key => key ≠ "" ∧ lease.workloadScope = some key

theorem count_leaseKeys (lease : AdmissionLease) (kind : AdmissionKind) (key : String) :
    (leaseKeys lease.tuple lease.family lease.workloadScope).countP
      (fun k => k.1 = kind ∧ k.2 = key) = if lease.occupies kind key then 1 else 0 := by
  unfold leaseKeys
  split
  · next hscope => cases kind <;> simp [AdmissionLease.occupies, hscope, List.countP_cons]
  · next hscope => cases kind <;> simp [AdmissionLease.occupies, hscope, List.countP_cons]
  · next scope hne hscope =>
    cases kind with
    | tuple | family => simp [AdmissionLease.occupies, List.countP_cons]
    | workloadScope =>
      have hkey : key ≠ "" ∧ scope = key ↔ scope = key :=
        and_iff_right_of_imp fun h => h ▸ hne
      simp [AdmissionLease.occupies, hscope, List.countP_cons, hkey]

theorem countP_rows (held : List HeldLease) (kind : AdmissionKind) (key : String) :
    (held.flatMap (·.rows ttl)).countP (fun row => row.kind = kind ∧ row.key = key) =
      (held.map (·.lease)).countP (·.occupies kind key) := by
  induction held with
  | nil => rfl
  | cons h held ih =>
    have hrows : (h.rows ttl).countP (fun row => row.kind = kind ∧ row.key = key) =
        if h.lease.occupies kind key then 1 else 0 := by
      rw [← count_leaseKeys, HeldLease.rows, List.countP_map]
      rfl
    rw [List.flatMap_cons, List.countP_append, ih, List.map_cons, List.countP_cons, hrows, Nat.add_comm]

/-- The counts of a controller as its snapshot lists them. -/
theorem CountsHeld.inflight {c : AdmissionController} {held : List AdmissionLease}
    (h : CountsHeld c held) (now : ℚ) (kind : AdmissionKind) (key : String) :
    (c.snapshot now).inflight kind key = held.countP (·.occupies kind key) := by
  cases kind with
  | tuple => exact h.tuple key
  | family => exact h.family key
  | workloadScope => exact h.scope key

theorem Simulates.leaseCount (h : Simulates ttl clock l p) (now : ℚ) (kind : AdmissionKind)
    (key : String) : p.leaseCount kind key = (l.controller.snapshot now).inflight kind key := by
  rw [h.counts.inflight, ← countP_rows, PostgresAdmissionController.leaseCount]
  exact h.rows.countP_eq _

/-! ### Operations -/

theorem HeldLease.expiresAt_of_mem {h : HeldLease} {row : LeaseRow} (hrow : row ∈ h.rows ttl) :
    row.leaseId = h.leaseId ∧ row.expiresAt = h.grantedAt + ttl := by
  obtain ⟨key, -, rfl⟩ := List.mem_map.mp hrow
  exact ⟨rfl, rfl⟩

/-- While no lease has outlived its time, cleaning up deletes no lease. -/
theorem Simulates.cleanup (h : Simulates ttl clock l p) (hclock : clock ≤ now)
    (halive : ∀ held ∈ l.held, now < held.grantedAt + ttl) :
    Simulates ttl now l (p.cleanupExpired now) where
  settings := h.settings
  ttl := h.ttl
  counts := h.counts
  rows := by
    have hall : p.leases.filter (now < ·.expiresAt) = p.leases := by
      refine List.filter_eq_self.mpr fun row hrow => decide_eq_true ?_
      obtain ⟨held, hheld, hmem⟩ := List.mem_flatMap.mp (h.rows.mem_iff.mp hrow)
      rw [(HeldLease.expiresAt_of_mem hmem).2]
      exact halive held hheld
    show (p.leases.filter (now < ·.expiresAt)).Perm _
    rw [hall]
    exact h.rows
  nodup := h.nodup
  tuples name := (h.tuples name).cleanup hclock
  families name := (h.families name).cleanup hclock

/-- Deleting the rows of an identifier deletes those of its lease. -/
theorem filter_rows (held : List HeldLease) (leaseId : String) :
    (held.flatMap (·.rows ttl)).filter (·.leaseId ≠ leaseId) =
      (held.filter (·.leaseId ≠ leaseId)).flatMap (·.rows ttl) := by
  induction held with
  | nil => rfl
  | cons h held ih =>
    rw [List.flatMap_cons, List.filter_append, ih]
    by_cases hid : h.leaseId = leaseId
    · have hnone : (h.rows ttl).filter (·.leaseId ≠ leaseId) = [] := by
        refine List.filter_eq_nil_iff.mpr fun row hrow => ?_
        simpa using (HeldLease.expiresAt_of_mem hrow).1.trans hid
      have hdrop : decide (h.leaseId ≠ leaseId) = false := by simpa using hid
      rw [hnone, List.filter_cons, hdrop]
      rfl
    · have hall : (h.rows ttl).filter (·.leaseId ≠ leaseId) = h.rows ttl := by
        refine List.filter_eq_self.mpr fun row hrow => ?_
        simpa [(HeldLease.expiresAt_of_mem hrow).1] using hid
      rw [hall, List.filter_cons, decide_eq_true hid]
      rfl

theorem filter_leaseId {held : List HeldLease} {h : HeldLease}
    (hnodup : (held.map (·.leaseId)).Nodup) (hmem : h ∈ held) :
    held.filter (·.leaseId = h.leaseId) = [h] := by
  induction held with
  | nil => cases hmem
  | cons first held ih =>
    obtain ⟨hfirst, hnodup⟩ := List.nodup_cons.mp hnodup
    obtain rfl | hmem := List.mem_cons.mp hmem
    · have hnone : held.filter (·.leaseId = h.leaseId) = [] := by
        refine List.filter_eq_nil_iff.mpr fun other hother heq => ?_
        exact hfirst (List.mem_map.mpr ⟨other, hother, of_decide_eq_true heq⟩)
      simp only [List.filter_cons, decide_true, if_true, hnone]
    · have hne : first.leaseId ≠ h.leaseId := fun heq =>
        hfirst (List.mem_map.mpr ⟨h, hmem, heq.symm⟩)
      simpa [List.filter_cons, hne] using ih hnodup hmem

theorem Simulates.release (h : Simulates ttl clock l p) (hclock : clock ≤ now) {leaseId : String}
    (hheld : leaseId ∈ l.held.map (·.leaseId)) :
    Simulates ttl now (l.call ⟨now, .release leaseId⟩).2 (p.releaseSync leaseId) := by
  obtain ⟨held, hmem, rfl⟩ := List.mem_map.mp hheld
  have hone := filter_leaseId h.nodup hmem
  have hperm : l.held.Perm (held :: l.held.filter (·.leaseId ≠ held.leaseId)) := by
    have hperm := List.filter_append_perm (fun other => decide (other.leaseId = held.leaseId)) l.held
    rw [hone] at hperm
    simpa using hperm.symm
  have hcounts := (h.counts.perm (hperm.map (·.lease))).release
  have hcall : (l.call ⟨now, .release held.leaseId⟩).2 =
      ⟨l.controller.release held.lease, l.held.filter (·.leaseId ≠ held.leaseId)⟩ := by
    simp [LocalAdmission.call, hone]
  rw [hcall]
  exact {
    settings := h.settings
    ttl := h.ttl
    counts := hcounts
    rows := filter_rows l.held held.leaseId ▸ h.rows.filter _
    nodup := h.nodup.sublist (List.filter_sublist.map _)
    tuples := fun name => (h.tuples name).mono hclock
    families := fun name => (h.families name).mono hclock }

theorem Simulates.familyFor (h : Simulates ttl clock l p) (tupleName : String) :
    p.familyFor tupleName = l.controller.familyFor tupleName := by
  have hfamilies : p.tupleFamilies = l.controller.tupleFamilies :=
    congrArg (·.tupleFamilies) h.settings
  simp only [AdmissionController.familyFor, hfamilies]

/-- An upsert and the update of a deadline. -/
theorem agrees_upsert {kind : AdmissionKind} {values : String → ℚ}
    (h : ∀ name, DeadlineAgrees clock (values name) (p.suppressedUntil kind name)) (hclock : clock ≤ now)
    (key : String) (later : ℚ) (name : String) :
    DeadlineAgrees now (Function.update values key (max (values key) later) name)
      ((p.upsertSuppression kind key later).suppressedUntil kind name) := by
  by_cases hname : name = key
  · subst hname
    simpa [PostgresAdmissionController.upsertSuppression] using (h name).suppress hclock later
  · simpa [PostgresAdmissionController.upsertSuppression, hname] using (h name).mono hclock

theorem agrees_upsert_of_ne {kind kind' : AdmissionKind} (hne : kind' ≠ kind) {values : String → ℚ}
    (h : ∀ name, DeadlineAgrees clock (values name) (p.suppressedUntil kind' name)) (hclock : clock ≤ now)
    (key : String) (later : ℚ) (name : String) :
    DeadlineAgrees now (values name) ((p.upsertSuppression kind key later).suppressedUntil kind' name) := by
  simpa [PostgresAdmissionController.upsertSuppression, hne] using (h name).mono hclock

theorem Simulates.suppress (h : Simulates ttl clock l p) (hclock : clock ≤ now) (tupleName : String)
    (suppressFamily : Bool) :
    Simulates ttl now (l.call ⟨now, .suppress tupleName suppressFamily⟩).2
      (p.suppressSync now tupleName suppressFamily) := by
  have hcooldown : p.cooldownSeconds = l.controller.cooldownSeconds :=
    congrArg (·.cooldownSeconds) h.settings
  have htuples := agrees_upsert h.tuples hclock tupleName (now + p.cooldownSeconds)
  have hfamilies : ∀ name, DeadlineAgrees now (l.controller.familySuppressedUntil name)
      ((p.upsertSuppression .tuple tupleName (now + p.cooldownSeconds)).suppressedUntil .family name) :=
    agrees_upsert_of_ne (by decide) h.families hclock tupleName (now + p.cooldownSeconds)
  rw [hcooldown] at htuples hfamilies
  cases suppressFamily with
  | false =>
    simp only [LocalAdmission.call, AdmissionController.suppress,
      PostgresAdmissionController.suppressSync, hcooldown]
    exact {
      settings := h.settings
      ttl := h.ttl
      counts := ⟨h.counts.tuple, h.counts.family, h.counts.scope⟩
      rows := h.rows
      nodup := h.nodup
      tuples := htuples
      families := hfamilies }
  | true =>
    simp only [LocalAdmission.call, AdmissionController.suppress,
      PostgresAdmissionController.suppressSync, hcooldown, h.familyFor, if_true]
    exact {
      settings := h.settings
      ttl := h.ttl
      counts := ⟨h.counts.tuple, h.counts.family, h.counts.scope⟩
      rows := h.rows
      nodup := h.nodup
      tuples := agrees_upsert_of_ne (by decide) htuples le_rfl _ _
      families := agrees_upsert hfamilies le_rfl _ _ }

/-- The names that are suppressed at the reading of the clock. -/
theorem Simulates.suppressedAfter (h : Simulates ttl now l p) (name : String) :
    (p.suppressedAfter now .tuple name = if now < l.controller.tupleSuppressedUntil name then
      some (l.controller.tupleSuppressedUntil name) else none) ∧
    p.suppressedAfter now .family name = if now < l.controller.familySuppressedUntil name then
      some (l.controller.familySuppressedUntil name) else none :=
  ⟨(h.tuples name).filter le_rfl, (h.families name).filter le_rfl⟩

theorem Simulates.snapshot (h : Simulates ttl now l (p.cleanupExpired now)) :
    (p.snapshotSync now).1 = l.controller.snapshot now := by
  unfold PostgresAdmissionController.snapshotSync
  refine AdmissionSnapshot.ext ?_ ?_ ?_
  · funext kind key
    exact h.leaseCount now kind key
  · funext name
    simp only [(h.suppressedAfter name).1, AdmissionController.snapshot]
    split <;> rfl
  · funext name
    simp only [(h.suppressedAfter name).2, AdmissionController.snapshot]
    split <;> rfl

theorem Simulates.scopeCountFull (h : Simulates ttl clock l p) (workloadScope : Option String) :
    p.scopeCountFull workloadScope = l.controller.scopeFull workloadScope := by
  have hlimit : p.workloadScopeLimit = l.controller.workloadScopeLimit :=
    congrArg (·.workloadScopeLimit) h.settings
  unfold PostgresAdmissionController.scopeCountFull
  split
  · rfl
  · rfl
  · next scope hne =>
    rw [hlimit, h.leaseCount 0 .workloadScope scope, AdmissionController.scopeFull.eq_3 _ scope hne]
    rfl

/-- The shared controller decides as the local one, and a lease that it grants is the rows it inserts. -/
theorem Simulates.acquireSync (h : Simulates ttl now l (p.cleanupExpired now))
    (leaseId tupleName : String) (workloadScope : Option String) :
    p.acquireSync leaseId now tupleName workloadScope =
      let decision := (l.controller.acquire now tupleName workloadScope).1
      (decision, { p.cleanupExpired now with
        leases := (p.cleanupExpired now).leases ++
          decision.lease.toList.flatMap fun lease => HeldLease.rows ttl ⟨leaseId, lease, now⟩ }) := by
  have htupleLimit : (p.cleanupExpired now).tupleLimit = l.controller.tupleLimit :=
    congrArg (·.tupleLimit) h.settings
  have hfamilyLimit : (p.cleanupExpired now).familyLimit = l.controller.familyLimit :=
    congrArg (·.familyLimit) h.settings
  have htupleCount : (p.cleanupExpired now).leaseCount .tuple tupleName =
      l.controller.tupleInflight tupleName := h.leaseCount now .tuple tupleName
  have hfamilyCount : (p.cleanupExpired now).leaseCount .family (l.controller.familyFor tupleName) =
      l.controller.familyInflight (l.controller.familyFor tupleName) := h.leaseCount now .family _
  have hfamily : p.familyFor tupleName = l.controller.familyFor tupleName := h.familyFor tupleName
  unfold PostgresAdmissionController.acquireSync AdmissionController.acquire
  simp only [hfamily, (h.suppressedAfter tupleName).1, (h.suppressedAfter _).2, htupleLimit,
    hfamilyLimit, htupleCount, hfamilyCount, h.scopeCountFull]
  -- the checks are those of the local controller, in the same order
  by_cases htuple : now < l.controller.tupleSuppressedUntil tupleName
  · simp [htuple, AdmissionDecision.lease]
  by_cases hsuppressed :
      now < l.controller.familySuppressedUntil (l.controller.familyFor tupleName)
  · simp [htuple, hsuppressed, AdmissionDecision.lease]
  simp only [htuple, hsuppressed, if_false]
  split_ifs
  · simp [AdmissionDecision.lease]
  · simp [AdmissionDecision.lease]
  · simp [AdmissionDecision.lease]
  · have httl : (p.cleanupExpired now).leaseTtlSeconds = ttl := h.ttl
    simp [AdmissionDecision.lease, HeldLease.rows, httl]

theorem Simulates.acquire (h : Simulates ttl clock l p) (hclock : clock ≤ now)
    (halive : ∀ held ∈ l.held, now < held.grantedAt + ttl) {leaseId : String}
    (hfresh : leaseId ∉ l.held.map (·.leaseId)) (tupleName : String) (workloadScope : Option String) :
    (p.acquireSync leaseId now tupleName workloadScope).1 =
      (l.controller.acquire now tupleName workloadScope).1 ∧
    Simulates ttl now (l.call ⟨now, .acquire leaseId tupleName workloadScope⟩).2
      (p.acquireSync leaseId now tupleName workloadScope).2 := by
  have hclean := h.cleanup hclock halive
  rw [hclean.acquireSync leaseId tupleName workloadScope]
  refine ⟨rfl, ?_⟩
  obtain ⟨reason, secs, hacquire⟩ | hacquire := l.controller.acquire_cases now tupleName workloadScope
  · simpa [LocalAdmission.call, hacquire, AdmissionDecision.lease] using hclean
  · have hcounts := hclean.counts.grant hacquire
    simp only [LocalAdmission.call, hacquire, AdmissionDecision.lease, Option.map_some,
      Option.toList_some, List.flatMap_singleton]
    exact {
      settings := hclean.settings
      ttl := hclean.ttl
      counts := hcounts
      rows := (hclean.rows.append_right _).trans List.perm_append_comm
      nodup := List.nodup_cons.mpr ⟨hfresh, hclean.nodup⟩
      tuples := hclean.tuples
      families := hclean.families }

/-! ### Runs -/

theorem Simulates.call (h : Simulates ttl clock l p) {call : AdmissionCall}
    (hadmits : l.Admits ttl clock call) :
    (p.call call).1 = (l.call call).1 ∧ Simulates ttl call.now (l.call call).2 (p.call call).2 := by
  obtain ⟨now, op⟩ := call
  cases op with
  | acquire leaseId tupleName workloadScope =>
    obtain ⟨hdecision, hafter⟩ := h.acquire hadmits.clock hadmits.alive
      (hadmits.fresh leaseId tupleName workloadScope rfl) tupleName workloadScope
    exact ⟨congrArg AdmissionOutput.decision hdecision, hafter⟩
  | release leaseId => exact ⟨rfl, h.release hadmits.clock (hadmits.held leaseId rfl)⟩
  | suppress tupleName suppressFamily => exact ⟨rfl, h.suppress hadmits.clock tupleName suppressFamily⟩
  | snapshot =>
    have hclean := h.cleanup hadmits.clock hadmits.alive
    exact ⟨congrArg AdmissionOutput.snapshot hclean.snapshot, hclean⟩

theorem Simulates.outputs {calls : List AdmissionCall} (h : Simulates ttl clock l p)
    (hadmits : l.AdmitsAll ttl clock calls) : p.outputs calls = l.outputs calls := by
  induction calls generalizing clock l p with
  | nil => rfl
  | cons call calls ih =>
    obtain ⟨hcall, hafter⟩ := h.call hadmits.1
    rw [PostgresAdmissionController.outputs, LocalAdmission.outputs, hcall, ih hafter hadmits.2]

end

/-- The shared controller answers every sequence of calls as the in-process one does. -/
theorem postgres_refines_local (tupleFamilies : Dict String)
    (tupleLimit familyLimit workloadScopeLimit : ℕ) (cooldownSeconds leaseTtlSeconds : ℚ)
    {calls : List AdmissionCall}
    (hadmits : LocalAdmission.AdmitsAll leaseTtlSeconds 0
      ⟨.new tupleFamilies tupleLimit familyLimit workloadScopeLimit cooldownSeconds, []⟩ calls) :
    PostgresAdmissionController.outputs
      { toAdmissionController :=
          .new tupleFamilies tupleLimit familyLimit workloadScopeLimit cooldownSeconds
        leaseTtlSeconds } calls =
    LocalAdmission.outputs
      ⟨.new tupleFamilies tupleLimit familyLimit workloadScopeLimit cooldownSeconds, []⟩ calls := by
  have hsim : Simulates leaseTtlSeconds 0
      ⟨.new tupleFamilies tupleLimit familyLimit workloadScopeLimit cooldownSeconds, []⟩
      { toAdmissionController :=
          .new tupleFamilies tupleLimit familyLimit workloadScopeLimit cooldownSeconds
        leaseTtlSeconds } := {
    settings := rfl
    ttl := rfl
    counts := ⟨fun _ => rfl, fun _ => rfl, fun _ => rfl⟩
    rows := .nil
    nodup := .nil
    tuples := fun _ => .inr ⟨le_rfl, nofun⟩
    families := fun _ => .inr ⟨le_rfl, nofun⟩ }
  exact hsim.outputs hadmits

/-- A lease is granted and released, and the tuple suppressed in between. -/
theorem postgres_refines_local_suppressed : ∃ calls : List AdmissionCall, calls.length = 4 ∧
    PostgresAdmissionController.outputs { toAdmissionController := .new {} 1 2 4 60 } calls =
      LocalAdmission.outputs ⟨.new {} 1 2 4 60, []⟩ calls := by
  refine ⟨[⟨0, .acquire "l1" "a100" (some "infer")⟩, ⟨1, .suppress "a100" true⟩, ⟨2, .release "l1"⟩,
    ⟨3, .acquire "l2" "a100" none⟩], rfl, postgres_refines_local {} 1 2 4 60 3600 ?_⟩
  obtain ⟨c, hacquire⟩ : ∃ c, (AdmissionController.new {} 1 2 4 60).acquire 0 "a100" (some "infer") =
      (.allowed ⟨"a100", "a100", some "infer"⟩, c) := by
    simp [AdmissionController.acquire, AdmissionController.new, AdmissionController.familyFor,
      AdmissionController.scopeFull, Dict.get?]
  have hcall : (LocalAdmission.call ⟨.new {} 1 2 4 60, []⟩
      ⟨0, .acquire "l1" "a100" (some "infer")⟩).2 =
      ⟨c, [⟨"l1", ⟨"a100", "a100", some "infer"⟩, 0⟩]⟩ := by
    simp [LocalAdmission.call, hacquire, AdmissionDecision.lease]
  refine ⟨⟨le_rfl, List.forall_mem_nil _, fun _ _ _ _ => List.not_mem_nil, by rintro _ ⟨⟩⟩, ?_⟩
  rw [hcall]
  refine ⟨⟨zero_le_one, ?_, by rintro _ _ _ ⟨⟩, by rintro _ ⟨⟩⟩, ⟨?_, ?_, by rintro _ _ _ ⟨⟩, ?_⟩,
    ⟨?_, ?_, ?_, by rintro _ ⟨⟩⟩, trivial⟩
  all_goals norm_num [LocalAdmission.call]

end Gpucall
