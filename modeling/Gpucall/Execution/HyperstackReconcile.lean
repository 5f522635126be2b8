import Gpucall.Execution.LeaseManifest
import Mathlib.Data.Rat.Defs
import Mathlib.Logic.Equiv.Nat

/-! `execution_surfaces/hyperstack_vm.py`: how VMs are started, destroyed and, when a gateway has lost
them, reconciled from the lease manifest and the list of the account's VMs. -/

namespace Gpucall

/-! ## Ids and instants -/

/-- The id of a VM: the API has numbers, the adapters of other versions had names. Neither is falsy. -/
inductive VmId where
  | number (n : ℕ) (h : n ≠ 0 := by decide)
  | name (text : String) (h : text ≠ "" := by decide)

def VmId.json : VmId → Json
  | .number n _ => .number (toString n)
  | .name text _ => .str text

theorem VmId.truthy_json (vmId : VmId) : vmId.json.truthy = true := by
  cases vmId with
  | name text h => simpa [VmId.json, Json.truthy] using h
  | number n h =>
    have hother : ∀ text : String, (∃ c ∈ text.toList, c.isDigit = false) → n.repr ≠ text := by
      rintro text ⟨c, hc, hdigit⟩ rfl
      rw [Nat.toList_repr] at hc
      have htrue := Nat.isDigit_of_mem_toDigits (by decide) (by decide) hc
      rw [htrue] at hdigit
      cases hdigit
    have hzero : n.repr ≠ "0" := fun heq => h (repr_injective heq)
    simp [VmId.json, Json.truthy, hzero, hother "-0" (by decide), hother "0.0" (by decide),
      hother "-0.0" (by decide)]

/-- `isoformat()` of an instant in UTC, in microseconds, and `datetime.fromisoformat`, which raises
`ValueError` on other texts. A result without a zone is taken to be in UTC. -/
structure IsoTime where
  isoformat : ℤ → String
  fromisoformat : String → Option ℤ

variable (py : Builtins) (iso : IsoTime)

/-- `text.replace("Z", "+00:00")` -/
def replaceZulu (text : String) : String :=
  String.ofList (text.toList.flatMap fun c => if c = 'Z' then "+00:00".toList else [c])

/-- `_parse_dt` -/
def parseDt (value : Option Json) : Option ℤ :=
  match value.filter Json.truthy with
  | none => none
  | some value => iso.fromisoformat (replaceZulu (pyStr py value))

/-! ## `_destroy_sync` -/

/-- One pass of the loop of `_destroy_sync`: the status of the delete call, unless it raises; what the
absence wait after it returns; whether the VM is gone by then. -/
structure DeleteAttempt where
  status : Option ℕ
  absent : Bool := false
  gone : Bool := false

/-- What one `_destroy_sync` meets: whether the security rule can be deleted, its passes, and the
readings of the clock, as texts. -/
structure DestroyRun where
  sgRuleDeleted : Bool := false
  attempt : ℕ → DeleteAttempt
  clock : ℕ → String

structure DestroyResult where
  /-- the number of delete calls -/
  deletes : ℕ
  rows : List ManifestRow
  gone : Bool
  /-- `CRITICAL LEAK` -/
  raised : Bool

def acceptedStatuses : List ℕ := [200, 202, 204, 404]

/-- The passes that are left. `delete_accepted` is set only in a pass that returns. -/
def destroyLoop (tuple : String) (vmId : Json) (run : DestroyRun) : List ℕ → DestroyResult
  | [] => { deletes := 0, rows := [], gone := false, raised := true }
  | n :: rest =>
    let attempt := run.attempt n
    let recordLease := fun i => recordLease tuple (run.clock (5 * n + i))
    let again :=
      let result := destroyLoop tuple vmId run rest
      { result with deletes := result.deletes + 1, gone := attempt.gone || result.gone }
    match attempt.status with
    | some status =>
      if status ∈ acceptedStatuses then
        { deletes := 1
          rows := [recordLease 0 (.destroyRequested vmId (run.clock (5 * n + 1)) status),
            if attempt.absent then recordLease 2 (.destroyed vmId (run.clock (5 * n + 3)))
            else recordLease 2 (.destroyPending vmId (run.clock (5 * n + 3)))]
          gone := attempt.gone
          raised := false }
      else again
    | none =>
      if attempt.absent then
        { deletes := 1
          rows := [recordLease 0 (.destroyed vmId (run.clock (5 * n + 1)))]
          gone := attempt.gone
          raised := false }
      else again

/-- `_destroy_sync`, after the SSH client is closed. -/
def destroySync (tuple : String) (vmId : Json) (sgRuleId : Option String) (run : DestroyRun) :
    DestroyResult :=
  if vmId.truthy then
    let result := destroyLoop tuple vmId run (List.range 5)
    match sgRuleId with
    | some sgRuleId =>
      if sgRuleId ≠ "" && run.sgRuleDeleted then
        { result with
          rows := recordLease tuple (run.clock 25) (.sgRuleDestroyed (pyStr py vmId) sgRuleId) ::
            result.rows }
      else result
    | none => result
  else { deletes := 0, rows := [], gone := false, raised := false }

/-! ## `_reconcile_orphans_sync` -/

/-- A VM of the account, with what the API lists of it besides its id. -/
structure Vm where
  id : VmId
  details : List (String × Json)

def Vm.row (vm : Vm) : List (String × Json) := ("id", vm.id.json) :: vm.details

/-- The answer to the list call; `body` is missing when it is not JSON. -/
inductive ListResponse where
  | failed
  | answered (status : ℕ) (body : Option Json)

def managedStem : String := "gpucall-managed-"

/-- The items of a value that is iterated over, or none if it cannot be. The items of an object or a
string are strings. -/
def iterate : Json → Option (List Json)
  | .arr items => some items
  | .obj fields => some (fields.map fun field => .str field.1)
  | .str text => some (text.toList.map fun c => .str (String.ofList [c]))
  | _ => none

/-- `_list_managed_vms`, or none if it raises. -/
def listManagedVms : ListResponse → Option (List (List (String × Json)))
  | .failed => some []
  | .answered status body =>
    if status ≠ 200 then some []
    else
      match body with
      | some (.obj data) =>
        let get := fun name => (data.lookup name).filter Json.truthy
        let rows := (((get "instances").or (get "virtual_machines")).or (get "data")).getD (.arr [])
        (iterate rows).map fun rows => rows.filterMap fun row =>
          match row with
          | .obj row => if startswith (strOrEmpty py (row.lookup "name")) managedStem then some row else none
          | _ => none
      | _ => none

/-- The ids that the first loop destroys: those of leases that have expired. -/
def expiredIds (now : ℤ) (leases : List ManifestRow) : List Json :=
  leases.filterMap fun lease =>
    match (lease.lookup "vm_id").filter Json.truthy, parseDt py iso (lease.lookup "expires_at") with
    | some vmId, some expiresAt => if expiresAt ≤ now then some vmId else none
    | _, _ => none

/-- `created_at` of the second loop. -/
def createdAt (vm : List (String × Json)) : Option ℤ :=
  parseDt py iso ((((vm.lookup "created_at").filter Json.truthy).or
    ((vm.lookup "created").filter Json.truthy)).or (vm.lookup "createdAt"))

/-- Whether the second loop takes the VM to be old enough; an unknown age is. -/
def pastGrace (graceSeconds : ℚ) (now : ℤ) (vm : List (String × Json)) : Bool :=
  match createdAt py iso vm with
  | none => true
  | some createdAt => graceSeconds ≤ ((now - createdAt : ℤ) : ℚ) / 1000000

/-- The ids that the second loop destroys. -/
def orphanIds (graceSeconds : ℚ) (now : ℤ) (leases : List ManifestRow)
    (vms : List (List (String × Json))) : List Json :=
  vms.filterMap fun vm =>
    match (vm.lookup "id").filter Json.truthy with
    | none => none
    | some vmId =>
      if !startswith (strOrEmpty py (vm.lookup "name")) managedStem then none
      else if leases.any fun lease => optEq py (lease.lookup "vm_id") (some vmId) then none
      else if pastGrace py iso graceSeconds now vm then some vmId
      else none

/-! ## Histories -/

/-- The account and the manifest, which is the list of the rows in it. -/
structure HyperstackState where
  vms : List Vm
  manifest : List ManifestRow := []

/-- A call of `_destroy_sync`, with the manifest before it. -/
structure DestroyCall where
  manifest : List ManifestRow
  vmId : Json
  run : DestroyRun

def HyperstackState.destroyed (s : HyperstackState) (vmId : Json) (result : DestroyResult) :
    HyperstackState where
  vms := if result.gone then s.vms.filter (pyStr py ·.id.json ≠ pyStr py vmId) else s.vms
  manifest := s.manifest ++ result.rows

/-- The loops of a reconciliation so far. -/
structure Sweep where
  state : HyperstackState
  calls : List DestroyCall := []
  /-- the ids of the delete calls -/
  deletes : List Json := []
  raised : Bool := false

/-- A loop body that calls `_destroy_sync`; after an exception there are no more of them. -/
def Sweep.destroy (tuple : String) (runs : ℕ → DestroyRun) (w : Sweep) (vmId : Json) : Sweep :=
  if w.raised then w
  else
    let run := runs w.calls.length
    let result := destroySync py tuple vmId none run
    { state := w.state.destroyed py vmId result
      calls := w.calls ++ [⟨w.state.manifest, vmId, run⟩]
      deletes := w.deletes ++ List.replicate result.deletes vmId
      raised := result.raised }

/-- What the list call meets. It may list only a part of the account (`shown`), under any of the names
that the adapter knows. -/
inductive ListAnswer where
  | failed
  | refused (status : ℕ) (h : status ≠ 200)
  | notJson
  | listed (name : String) (shown : Vm → Bool)
    (h : name ∈ ["instances", "virtual_machines", "data"] := by decide)

def ListAnswer.response (vms : List Vm) : ListAnswer → ListResponse
  | .failed => .failed
  | .refused status _ => .answered status none
  | .notJson => .answered 200 none
  | .listed name shown _ =>
    .answered 200 (some (.obj [(name, .arr ((vms.filter shown).map fun vm => .obj vm.row))]))

/-- What one `_reconcile_orphans_sync` meets. -/
structure ReconcileRun where
  tuple : String
  now : ℤ
  graceSeconds : ℚ
  answer : ListAnswer
  destroys : ℕ → DestroyRun

/-- `_active_manifest_leases` of a manifest without torn lines -/
def manifestLeases (manifest : List ManifestRow) : Except ManifestError (List ManifestRow) := do
  let active ← manifest.foldlM (adapterRow py) {}
  return active.values

/-- The first loop of `_reconcile_orphans_sync`. -/
def ReconcileRun.firstLoop (r : ReconcileRun) (s : HyperstackState) (leases : List ManifestRow) : Sweep :=
  (expiredIds py iso r.now leases).foldl (Sweep.destroy py r.tuple r.destroys) { state := s }

/-- `_reconcile_orphans_sync`; it has run to its end unless it has `raised`. -/
def reconcileOrphansSync (r : ReconcileRun) (s : HyperstackState) : Sweep :=
  match manifestLeases py s.manifest with
  | .error _ => { state := s, raised := true }
  | .ok leases =>
    let first := r.firstLoop py iso s leases
    if first.raised then first
    else
      match listManagedVms py (r.answer.response first.state.vms) with
      | none => { first with raised := true }
      | some vms =>
        (orphanIds py iso r.graceSeconds r.now leases vms).foldl
          (Sweep.destroy py r.tuple r.destroys) first

/-- What becomes of a start: the API refuses it, or there is a VM of which the gateway does not learn
(the call raises, or its answer has no id), or there is one that is recorded. -/
inductive StartOutcome where
  | refused
  | lost (vm : Vm)
  | created (vm : Vm)

/-- `_provision_and_start` up to the record of the VM. A failure after it is a destroy of its own. -/
structure StartRun where
  tuple : String
  vmName : String
  planId : String
  requestedExpiresAt : ℤ
  expiresAt : ℤ
  outcome : StartOutcome
  clock : ℕ → String

def StartRun.requestedRow (r : StartRun) : ManifestRow :=
  recordLease r.tuple (r.clock 0)
    (.provisionRequested r.vmName r.planId (iso.isoformat r.requestedExpiresAt))

def StartRun.createdRow (r : StartRun) (vm : Vm) : ManifestRow :=
  recordLease r.tuple (r.clock 1)
    (.provisionCreated r.vmName vm.id.json r.planId (iso.isoformat r.expiresAt))

inductive HyperstackOp where
  | start (r : StartRun)
  | destroy (tuple : String) (vmId : VmId) (sgRuleId : Option String) (run : DestroyRun)
  | reconcile (r : ReconcileRun)
  /-- the account changes by itself or through others -/
  | provider (vms : List Vm)

def HyperstackOp.exec (s : HyperstackState) : HyperstackOp → HyperstackState
  | .start r =>
    match r.outcome with
    | .refused => { s with manifest := s.manifest ++ [r.requestedRow iso] }
    | .lost vm => { vms := s.vms ++ [vm], manifest := s.manifest ++ [r.requestedRow iso] }
    | .created vm =>
      { vms := s.vms ++ [vm], manifest := s.manifest ++ [r.requestedRow iso, r.createdRow iso vm] }
  | .destroy tuple vmId sgRuleId run =>
    s.destroyed py vmId.json (destroySync py tuple vmId.json sgRuleId run)
  | .reconcile r => (reconcileOrphansSync py iso r s).state
  | .provider vms => { s with vms }

/-- The calls of `_destroy_sync` in an operation. -/
def HyperstackOp.calls (s : HyperstackState) : HyperstackOp → List DestroyCall
  | .destroy _ vmId _ run => [⟨s.manifest, vmId.json, run⟩]
  | .reconcile r => (reconcileOrphansSync py iso r s).calls
  | .start _ | .provider _ => []

/-- The state after a history. -/
def afterOps (s : HyperstackState) (ops : List HyperstackOp) : HyperstackState :=
  ops.foldl (HyperstackOp.exec py iso) s

/-! ## Orphans -/

/-- A lease of the manifest covers the VM beyond `now`. -/
def Covered (manifest : List ManifestRow) (now : ℤ) (vmId : VmId) : Prop :=
  ∃ leases, manifestLeases py manifest = .ok leases ∧
    ∃ lease ∈ leases, lease.lookup "vm_id" = some vmId.json ∧
      ∃ expiresAt, parseDt py iso (lease.lookup "expires_at") = some expiresAt ∧ now < expiresAt

/-- If the reconciliation runs to its end with a list that it can read, it has issued a delete for
every listed VM that is managed, old enough and not covered. -/
def OrphansDeleted (r : ReconcileRun) (s : HyperstackState) : Prop :=
  ∀ leases name shown hname, manifestLeases py s.manifest = .ok leases →
    r.answer = .listed name shown hname → (reconcileOrphansSync py iso r s).raised = false →
      ∀ vm ∈ (r.firstLoop py iso s leases).state.vms, shown vm = true →
        startswith (strOrEmpty py (vm.row.lookup "name")) managedStem = true →
        pastGrace py iso r.graceSeconds r.now vm.row = true →
        ¬ Covered py iso s.manifest r.now vm.id →
          vm.id.json ∈ (reconcileOrphansSync py iso r s).deletes

/-- The pass accepts the delete. -/
def DeleteAttempt.Accepted (attempt : DeleteAttempt) : Prop :=
  ∃ status ∈ acceptedStatuses, attempt.status = some status

/-- The pass is the last one. -/
def DeleteAttempt.Ends (attempt : DeleteAttempt) : Prop :=
  attempt.Accepted ∨ attempt.status = none ∧ attempt.absent = true

/-- The delete is accepted, but the VM is still there when the absence wait gives up. -/
def DestroyRun.LeavesPending (run : DestroyRun) : Prop :=
  ∃ n < 5, (run.attempt n).Accepted ∧ (run.attempt n).absent = false ∧
    ∀ m < n, ¬ (run.attempt m).Ends

/-- The manifest has an active lease for the id. -/
def Tracked (manifest : List ManifestRow) (vmId : Json) : Prop :=
  ∃ active, manifest.foldlM (adapterRow py) {} = .ok active ∧ pyStr py vmId ∈ active.keys

/-- Only of a VM with an active lease is a delete left pending. -/
def DestroyCall.Followed (call : DestroyCall) : Prop :=
  call.run.LeavesPending → Tracked py call.manifest call.vmId

/-! ## The rows of a destroy -/

theorem mem_acceptedStatuses_of_accepted {attempt : DeleteAttempt}
    (hstatus : attempt.status = some status) :
    attempt.Accepted ↔ status ∈ acceptedStatuses := by
  simp [DeleteAttempt.Accepted, hstatus]

/-- The rows that `_destroy_sync` appends after that of the security rule. -/
inductive DestroyRows (tuple : String) (vmId : Json) (run : DestroyRun) : List ManifestRow → Prop where
  | leaked : DestroyRows tuple vmId run []
  | destroyed (recordedAt destroyedAt : String) :
    DestroyRows tuple vmId run [recordLease tuple recordedAt (.destroyed vmId destroyedAt)]
  | confirmed (recordedAt requestedAt recordedAt' destroyedAt : String) (status : ℕ) :
    DestroyRows tuple vmId run
      [recordLease tuple recordedAt (.destroyRequested vmId requestedAt status),
        recordLease tuple recordedAt' (.destroyed vmId destroyedAt)]
  | pending (recordedAt requestedAt recordedAt' pendingAt : String) (status : ℕ)
    (h : run.LeavesPending) :
    DestroyRows tuple vmId run
      [recordLease tuple recordedAt (.destroyRequested vmId requestedAt status),
        recordLease tuple recordedAt' (.destroyPending vmId pendingAt)]

/-- The passes from `n` on, none of those before having been the last. -/
theorem destroyLoop_rows (tuple : String) (vmId : Json) (run : DestroyRun) {n count : ℕ}
    (hcount : n + count = 5) (hbefore : ∀ m < n, ¬ (run.attempt m).Ends) :
    DestroyRows tuple vmId run (destroyLoop tuple vmId run (List.range' n count)).rows := by
  induction count generalizing n with
  | zero => exact .leaked
  | succ count ih =>
    rw [List.range'_succ, destroyLoop]
    have hagain : ¬ (run.attempt n).Ends →
        DestroyRows tuple vmId run (destroyLoop tuple vmId run (List.range' (n + 1) count)).rows := by
      intro hends
      refine ih (by omega) fun m hm => ?_
      rcases Nat.lt_succ_iff_lt_or_eq.mp hm with hlt | rfl
      · exact hbefore m hlt
      · exact hends
    cases hstatus : (run.attempt n).status with
    | some status =>
      have haccepted := mem_acceptedStatuses_of_accepted hstatus
      by_cases hmem : status ∈ acceptedStatuses
      · simp only [hmem, if_true]
        cases habsent : (run.attempt n).absent with
        | true => exact .confirmed _ _ _ _ _
        | false =>
          have hn : n < 5 := by omega
          exact .pending _ _ _ _ _ ⟨n, hn, haccepted.mpr hmem, habsent, hbefore⟩
      · simp only [hmem, if_false]
        refine hagain ?_
        rintro (hacc | ⟨hnone, -⟩)
        · exact hmem (haccepted.mp hacc)
        · rw [hstatus] at hnone
          cases hnone
    | none =>
      cases habsent : (run.attempt n).absent with
      | true => exact .destroyed _ _
      | false =>
        refine hagain ?_
        rintro (⟨status, -, hsome⟩ | ⟨-, htrue⟩)
        · rw [hstatus] at hsome
          cases hsome
        · rw [habsent] at htrue
          cases htrue

/-- A security rule may be destroyed first. -/
theorem destroySync_rows (tuple : String) (vmId : VmId) (sgRuleId : Option String)
    (run : DestroyRun) :
    ∃ rows, DestroyRows tuple vmId.json run rows ∧
      ((destroySync py tuple vmId.json sgRuleId run).rows = rows ∨
        ∃ recordedAt id, (destroySync py tuple vmId.json sgRuleId run).rows =
          recordLease tuple recordedAt (.sgRuleDestroyed (pyStr py vmId.json) id) :: rows) := by
  have hrows := destroyLoop_rows tuple vmId.json run (Nat.zero_add 5) fun m hm => absurd hm m.not_lt_zero
  rw [← List.range_eq_range'] at hrows
  refine ⟨_, hrows, ?_⟩
  rw [destroySync, if_pos vmId.truthy_json]
  cases sgRuleId with
  | none => exact .inl rfl
  | some id =>
    dsimp only
    split
    · exact .inr ⟨_, _, rfl⟩
    · exact .inl rfl

theorem destroyLoop_deletes_pos (tuple : String) (vmId : Json) (run : DestroyRun) (n : ℕ)
    (rest : List ℕ) : 0 < (destroyLoop tuple vmId run (n :: rest)).deletes := by
  rw [destroyLoop]
  split
  · split <;> simp
  · split <;> simp

theorem destroySync_deletes_pos (tuple : String) (vmId : VmId) (run : DestroyRun) :
    0 < (destroySync py tuple vmId.json none run).deletes := by
  rw [destroySync, if_pos vmId.truthy_json]
  exact destroyLoop_deletes_pos tuple vmId.json run 0 [1, 2, 3, 4]

/-! ## The leases of a manifest -/

def LeaseEvent.name : LeaseEvent → String
  | .provisionRequested .. => "provision.requested"
  | .provisionCreated .. => "provision.created"
  | .destroyRequested .. => "destroy.requested"
  | .destroyPending .. => "destroy.pending"
  | .destroyed .. => "destroyed"
  | .sgRuleDestroyed .. => "sg_rule.destroyed"

theorem LeaseEvent.lookup_event (event : LeaseEvent) :
    event.fields.lookup "event" = some (.str event.name) := by
  cases event <;> rfl

theorem adapterRow_recordLease {vmId : Json} (htruthy : vmId.truthy = true) {event : LeaseEvent}
    (hid : event.vmId? = some vmId) (active : Dict ManifestRow) (tuple recordedAt : String) :
    adapterRow py active (recordLease tuple recordedAt event) =
      .ok (applyEvent ["provision.created"] active (pyStr py vmId) event.name
        (recordLease tuple recordedAt event)) := by
  have hvm : (recordLease tuple recordedAt event).lookup "vm_id" = some vmId := by
    rw [lookup_recordLease (by decide) (by decide)]
    exact hid
  have hevent : (recordLease tuple recordedAt event).lookup "event" = some (.str event.name) := by
    rw [lookup_recordLease (by decide) (by decide), event.lookup_event]
  simp only [adapterRow, hvm, hevent, Option.filter_some, htruthy, if_true]

/-- A lease that a reconciliation can act on: it has an id, which is its key, and an expiry. -/
structure LeaseSound (key : String) (lease : ManifestRow) : Prop where
  vmId : ∃ vmId : VmId, lease.lookup "vm_id" = some vmId.json ∧ pyStr py vmId.json = key
  expiresAt : ∃ expiresAt, parseDt py iso (lease.lookup "expires_at") = some expiresAt

def LeasesSound (active : Dict ManifestRow) : Prop :=
  ∀ key lease, active.get? key = some lease → LeaseSound py iso key lease

/-- The invariant of the manifest. -/
def ManifestSound (manifest : List ManifestRow) : Prop :=
  ∃ active, manifest.foldlM (adapterRow py) {} = .ok active ∧ LeasesSound py iso active

variable {py iso}

theorem LeasesSound.set (h : LeasesSound py iso active) (hlease : LeaseSound py iso key lease) :
    LeasesSound py iso (active.set key lease) := by
  intro other found hfound
  by_cases hkey : other = key
  · subst hkey
    rw [Dict.get?_set_self] at hfound
    cases hfound
    exact hlease
  · exact h other found ((Dict.get?_set_of_ne hkey).mp hfound)

theorem LeasesSound.pop (h : LeasesSound py iso active) : LeasesSound py iso (active.pop key) := by
  intro other found hfound
  exact h other found (Dict.get?_pop.mp hfound).2

/-- A lease that is started and ended leaves no trace. -/
theorem LeasesSound.set_pop (h : LeasesSound py iso active) (key : String) (lease : ManifestRow) :
    LeasesSound py iso ((active.set key lease).pop key) := by
  intro other found hfound
  obtain ⟨hkey, hfound⟩ := Dict.get?_pop.mp hfound
  exact h other found ((Dict.get?_set_of_ne hkey).mp hfound)

/-- An event of a destroy keeps the expiry of the lease that it is merged into. -/
theorem LeaseSound.merge {vmId : VmId} (h : LeaseSound py iso (pyStr py vmId.json) lease)
    {event : LeaseEvent} (hid : event.vmId? = some vmId.json)
    (hexpires : event.fields.lookup "expires_at" = none) (tuple recordedAt : String) :
    LeaseSound py iso (pyStr py vmId.json)
      (mergeFields lease (recordLease tuple recordedAt event)) := by
  have hlookup := lookup_mergeFields (nodup_recordLease tuple recordedAt event) lease
  constructor
  · refine ⟨vmId, ?_, rfl⟩
    rw [hlookup, lookup_recordLease (by decide) (by decide)]
    rw [LeaseEvent.vmId?] at hid
    rw [hid, Option.some_or]
  · rw [hlookup, lookup_recordLease (by decide) (by decide), hexpires, Option.none_or]
    exact h.expiresAt

theorem LeasesSound.merge {vmId : VmId} (h : LeasesSound py iso active)
    (htracked : pyStr py vmId.json ∈ active.keys) (event : LeaseEvent)
    (hid : event.vmId? = some vmId.json) (hexpires : event.fields.lookup "expires_at" = none)
    (tuple recordedAt : String) :
    LeasesSound py iso (active.set (pyStr py vmId.json)
      (mergeFields ((active.get? (pyStr py vmId.json)).getD [])
        (recordLease tuple recordedAt event))) := by
  obtain ⟨lease, hlease⟩ := Dict.mem_keys.mp htracked
  rw [hlease, Option.getD_some]
  exact h.set ((h _ lease hlease).merge hid hexpires tuple recordedAt)

variable (py) in
theorem adapterRow_destroyed (vmId : VmId) (active : Dict ManifestRow)
    (tuple recordedAt destroyedAt : String) :
    adapterRow py active (recordLease tuple recordedAt (.destroyed vmId.json destroyedAt)) =
      .ok (active.pop (pyStr py vmId.json)) :=
  adapterRow_recordLease py vmId.truthy_json rfl active tuple recordedAt

variable (py) in
theorem adapterRow_merged (vmId : VmId) (event : LeaseEvent) (hid : event.vmId? = some vmId.json)
    (hname : event.name ∈ ["destroy.requested", "destroy.pending"]) (active : Dict ManifestRow)
    (tuple recordedAt : String) :
    adapterRow py active (recordLease tuple recordedAt event) =
      .ok (active.set (pyStr py vmId.json) (mergeFields ((active.get? (pyStr py vmId.json)).getD [])
        (recordLease tuple recordedAt event))) := by
  rw [adapterRow_recordLease py vmId.truthy_json hid, applyEvent]
  have hdestroyed : event.name ≠ "destroyed" := by
    intro heq
    rw [heq] at hname
    exact absurd hname (by decide)
  have hcreated : event.name ∉ ["provision.created"] := by
    intro hmem
    rw [List.mem_singleton.mp hmem] at hname
    exact absurd hname (by decide)
  rw [if_neg hdestroyed, if_neg hcreated, if_pos hname]

/-- The rows of a destroy keep the leases sound, if it leaves only a tracked VM pending. -/
theorem DestroyRows.sound {vmId : VmId} (h : DestroyRows tuple vmId.json run rows)
    (hactive : LeasesSound py iso active)
    (htracked : run.LeavesPending → pyStr py vmId.json ∈ active.keys) :
    ∃ after, rows.foldlM (adapterRow py) active = .ok after ∧ LeasesSound py iso after := by
  cases h with
  | leaked => exact ⟨active, rfl, hactive⟩
  | destroyed recordedAt destroyedAt =>
    refine ⟨active.pop (pyStr py vmId.json), ?_, hactive.pop⟩
    rw [List.foldlM_cons, adapterRow_destroyed]
    rfl
  | confirmed recordedAt requestedAt recordedAt' destroyedAt status =>
    have hrequested := adapterRow_merged py vmId (.destroyRequested vmId.json requestedAt status) rfl
      (.head _) active tuple recordedAt
    refine ⟨_, ?_, hactive.set_pop (pyStr py vmId.json)
      (mergeFields ((active.get? (pyStr py vmId.json)).getD [])
        (recordLease tuple recordedAt (.destroyRequested vmId.json requestedAt status)))⟩
    rw [List.foldlM_cons, hrequested]
    exact congrArg (· >>= pure) (adapterRow_destroyed py vmId _ tuple recordedAt' destroyedAt)
  | pending recordedAt requestedAt recordedAt' pendingAt status hpending =>
    have hrequested := adapterRow_merged py vmId (.destroyRequested vmId.json requestedAt status) rfl
      (.head _) active tuple recordedAt
    have hfirst := hactive.merge (htracked hpending)
      (.destroyRequested vmId.json requestedAt status) rfl rfl tuple recordedAt
    have hkept := Dict.mem_keys.mpr ⟨_, Dict.get?_set_self active (pyStr py vmId.json)
      (mergeFields ((active.get? (pyStr py vmId.json)).getD [])
        (recordLease tuple recordedAt (.destroyRequested vmId.json requestedAt status)))⟩
    refine ⟨_, ?_, hfirst.merge hkept (.destroyPending vmId.json pendingAt) rfl rfl tuple recordedAt'⟩
    rw [List.foldlM_cons, hrequested]
    exact congrArg (· >>= pure) (adapterRow_merged py vmId (.destroyPending vmId.json pendingAt) rfl
      (.tail _ (.head _)) _ tuple recordedAt')

theorem ManifestSound.append (h : ManifestSound py iso manifest)
    (hrows : ∀ active, manifest.foldlM (adapterRow py) {} = .ok active → LeasesSound py iso active →
      ∃ after, rows.foldlM (adapterRow py) active = .ok after ∧ LeasesSound py iso after) :
    ManifestSound py iso (manifest ++ rows) := by
  obtain ⟨active, hactive, hsound⟩ := h
  obtain ⟨after, hafter, hsound⟩ := hrows active hactive hsound
  refine ⟨after, ?_, hsound⟩
  rw [List.foldlM_append, hactive]
  exact hafter

/-- The reader skips the events that are not about a VM as a whole. -/
theorem adapterRow_skipped {event : LeaseEvent}
    (hname : event.name ∈ ["provision.requested", "sg_rule.destroyed"]) (active : Dict ManifestRow)
    (tuple recordedAt : String) :
    adapterRow py active (recordLease tuple recordedAt event) = .ok active := by
  have hevent : (recordLease tuple recordedAt event).lookup "event" = some (.str event.name) := by
    rw [lookup_recordLease (by decide) (by decide), event.lookup_event]
  rw [adapterRow, hevent]
  split
  · rfl
  · simp only [List.mem_cons, List.not_mem_nil, or_false] at hname
    rcases hname with hname | hname <;> simp [hname, applyEvent]

theorem ManifestSound.destroySync (h : ManifestSound py iso manifest) (tuple : String) (vmId : VmId)
    (sgRuleId : Option String) {run : DestroyRun}
    (hfollowed : DestroyCall.Followed py ⟨manifest, vmId.json, run⟩) :
    ManifestSound py iso (manifest ++ (destroySync py tuple vmId.json sgRuleId run).rows) := by
  refine h.append fun active hactive hsound => ?_
  have htracked : run.LeavesPending → pyStr py vmId.json ∈ active.keys := by
    intro hpending
    obtain ⟨active', hactive', hkey⟩ := hfollowed hpending
    rw [hactive] at hactive'
    cases hactive'
    exact hkey
  obtain ⟨rows, hrows, heq | ⟨recordedAt, id, heq⟩⟩ := destroySync_rows py tuple vmId sgRuleId run
  · rw [heq]
    exact hrows.sound hsound htracked
  · rw [heq, List.foldlM_cons, adapterRow_skipped (.tail _ (.head _))]
    exact hrows.sound hsound htracked

/-! ## The loops -/

theorem Sweep.foldl_of_raised {w : Sweep} (h : w.raised = true) (ids : List Json) :
    ids.foldl (Sweep.destroy py tuple runs) w = w := by
  induction ids with
  | nil => rfl
  | cons id ids ih =>
    rw [List.foldl_cons, Sweep.destroy, if_pos h]
    exact ih

theorem Sweep.calls_subset (w : Sweep) (ids : List Json) :
    w.calls ⊆ (ids.foldl (Sweep.destroy py tuple runs) w).calls := by
  induction ids generalizing w with
  | nil => exact List.Subset.refl _
  | cons id ids ih =>
    refine List.Subset.trans ?_ (ih (w.destroy py tuple runs id))
    rw [Sweep.destroy]
    split
    · exact List.Subset.refl _
    · exact List.subset_append_left _ _

theorem Sweep.deletes_subset (w : Sweep) (ids : List Json) :
    w.deletes ⊆ (ids.foldl (Sweep.destroy py tuple runs) w).deletes := by
  induction ids generalizing w with
  | nil => exact List.Subset.refl _
  | cons id ids ih =>
    refine List.Subset.trans ?_ (ih (w.destroy py tuple runs id))
    rw [Sweep.destroy]
    split
    · exact List.Subset.refl _
    · exact List.subset_append_left _ _

/-- A loop that runs to its end has issued a delete for each of its ids. -/
theorem Sweep.mem_deletes {w : Sweep} {ids : List Json}
    (h : (ids.foldl (Sweep.destroy py tuple runs) w).raised = false) {vmId : VmId}
    (hmem : vmId.json ∈ ids) :
    vmId.json ∈ (ids.foldl (Sweep.destroy py tuple runs) w).deletes := by
  induction ids generalizing w with
  | nil => cases hmem
  | cons id ids ih =>
    rw [List.foldl_cons] at h ⊢
    rcases List.mem_cons.mp hmem with rfl | hmem
    · refine Sweep.deletes_subset _ ids ?_
      have hraised : w.raised ≠ true := by
        intro htrue
        have hsame : w.destroy py tuple runs vmId.json = w := by rw [Sweep.destroy, if_pos htrue]
        rw [hsame, Sweep.foldl_of_raised htrue, htrue] at h
        cases h
      rw [Sweep.destroy, if_neg hraised]
      refine List.mem_append_right _ (List.mem_replicate.mpr ⟨?_, rfl⟩)
      exact (destroySync_deletes_pos py tuple vmId (runs w.calls.length)).ne'
    · exact ih h hmem

/-- A loop keeps the manifest sound. -/
theorem Sweep.manifestSound {w : Sweep} {ids : List Json}
    (h : ManifestSound py iso w.state.manifest) (hids : ∀ id ∈ ids, ∃ vmId : VmId, id = vmId.json)
    (hcalls : ∀ call ∈ (ids.foldl (Sweep.destroy py tuple runs) w).calls, call.Followed py) :
    ManifestSound py iso (ids.foldl (Sweep.destroy py tuple runs) w).state.manifest := by
  induction ids generalizing w with
  | nil => exact h
  | cons id ids ih =>
    rw [List.forall_mem_cons] at hids
    rw [List.foldl_cons] at hcalls ⊢
    refine ih ?_ hids.2 hcalls
    obtain ⟨vmId, rfl⟩ := hids.1
    have hfollowed : ∀ call ∈ (w.destroy py tuple runs vmId.json).calls, call.Followed py :=
      fun call hcall => hcalls call (Sweep.calls_subset _ ids hcall)
    rw [Sweep.destroy] at hfollowed ⊢
    split at hfollowed
    · rw [if_pos ‹_›]
      exact h
    · rw [if_neg ‹_›]
      exact h.destroySync tuple vmId none
        (hfollowed _ (List.mem_append_right _ (List.mem_singleton_self _)))

/-! ## Reconciliation -/

variable (py) in
def isManaged (row : List (String × Json)) : Bool :=
  startswith (strOrEmpty py (row.lookup "name")) managedStem

variable (py) in
theorem listManagedVms_listed (vms : List Vm) (name : String) (shown : Vm → Bool)
    (hname : name ∈ ["instances", "virtual_machines", "data"]) :
    listManagedVms py ((ListAnswer.listed name shown hname).response vms) =
      some (((vms.filter shown).map Vm.row).filter (isManaged py)) := by
  have hrows : ∀ vms : List Vm, (vms.map fun vm => Json.obj vm.row).filterMap (fun row =>
      match row with
      | .obj row => if startswith (strOrEmpty py (row.lookup "name")) managedStem then some row else none
      | _ => none) = (vms.map Vm.row).filter (isManaged py) := by
    intro vms
    rw [List.filterMap_map, ← List.filterMap_eq_filter, List.filterMap_map]
    rfl
  simp only [List.mem_cons, List.not_mem_nil, or_false] at hname
  simp only [ListAnswer.response, listManagedVms]
  rw [← hrows]
  cases hempty : vms.filter shown with
  | nil =>
    rcases hname with rfl | rfl | rfl <;>
      simp [List.lookup_cons, Option.filter_some, Json.truthy, iterate]
  | cons vm rest =>
    rcases hname with rfl | rfl | rfl <;>
      simp [List.lookup_cons, Option.filter_some, Json.truthy, iterate]

/-- What an unreadable answer lists. -/
theorem listManagedVms_eq_nil {answer : ListAnswer} (vms : List Vm)
    (h : ∀ name shown hname, answer ≠ .listed name shown hname)
    (hlist : listManagedVms py (answer.response vms) = some rows) : rows = [] := by
  cases answer with
  | failed =>
    cases hlist
    rfl
  | refused status hstatus =>
    simp only [ListAnswer.response, listManagedVms, if_pos hstatus] at hlist
    cases hlist
    rfl
  | notJson => cases hlist
  | listed name shown hname => exact absurd rfl (h name shown hname)

theorem Vm.lookup_id (vm : Vm) : (vm.row.lookup "id").filter Json.truthy = some vm.id.json := by
  simp [Vm.row, Option.filter_some, vm.id.truthy_json]

/-- The listed VMs are of the account. -/
theorem exists_vm_of_listed {answer : ListAnswer} {vms : List Vm}
    (hlist : listManagedVms py (answer.response vms) = some rows) (hrow : row ∈ rows) :
    ∃ vm ∈ vms, row = vm.row := by
  by_cases h : ∃ name shown hname, answer = .listed name shown hname
  · obtain ⟨name, shown, hname, rfl⟩ := h
    rw [listManagedVms_listed] at hlist
    cases hlist
    obtain ⟨vm, hvm, rfl⟩ := List.mem_map.mp (List.mem_of_mem_filter hrow)
    exact ⟨vm, List.mem_of_mem_filter hvm, rfl⟩
  · rw [listManagedVms_eq_nil vms (fun name shown hname heq => h ⟨name, shown, hname, heq⟩) hlist] at hrow
    cases hrow

theorem exists_vmId_of_orphan {answer : ListAnswer} {vms : List Vm}
    (hlist : listManagedVms py (answer.response vms) = some rows)
    {id : Json} (hid : id ∈ orphanIds py iso graceSeconds now leases rows) :
    ∃ vmId : VmId, id = vmId.json := by
  obtain ⟨row, hrow, hid⟩ := List.mem_filterMap.mp hid
  obtain ⟨vm, -, rfl⟩ := exists_vm_of_listed hlist hrow
  rw [vm.lookup_id] at hid
  dsimp only at hid
  split_ifs at hid
  cases hid
  exact ⟨vm.id, rfl⟩

theorem exists_vmId_of_expired {leases : List ManifestRow}
    (hsound : ∀ lease ∈ leases, ∃ key, LeaseSound py iso key lease)
    {id : Json} (hid : id ∈ expiredIds py iso now leases) : ∃ vmId : VmId, id = vmId.json := by
  obtain ⟨lease, hlease, hid⟩ := List.mem_filterMap.mp hid
  obtain ⟨key, hlease⟩ := hsound lease hlease
  obtain ⟨vmId, hvm, -⟩ := hlease.vmId
  obtain ⟨expiresAt, hexpires⟩ := hlease.expiresAt
  rw [hvm, Option.filter_some, vmId.truthy_json, if_pos rfl, hexpires] at hid
  dsimp only at hid
  split_ifs at hid
  cases hid
  exact ⟨vmId, rfl⟩

theorem ManifestSound.leases (h : ManifestSound py iso manifest) :
    ∃ leases, manifestLeases py manifest = .ok leases ∧
      ∀ lease ∈ leases, ∃ key, LeaseSound py iso key lease := by
  obtain ⟨active, hactive, hsound⟩ := h
  refine ⟨active.values, ?_, ?_⟩
  · rw [manifestLeases, hactive]
    rfl
  · intro lease hlease
    obtain ⟨key, hkey⟩ := Dict.mem_values.mp hlease
    exact ⟨key, hsound key lease hkey⟩

/-- A reconciliation keeps the manifest sound. -/
theorem ManifestSound.reconcile {s : HyperstackState} (h : ManifestSound py iso s.manifest)
    (r : ReconcileRun)
    (hcalls : ∀ call ∈ (reconcileOrphansSync py iso r s).calls, call.Followed py) :
    ManifestSound py iso (reconcileOrphansSync py iso r s).state.manifest := by
  obtain ⟨leases, hleases, hsound⟩ := h.leases
  have hfirst : (∀ call ∈ (r.firstLoop py iso s leases).calls, call.Followed py) →
      ManifestSound py iso (r.firstLoop py iso s leases).state.manifest := by
    intro hcalls
    exact Sweep.manifestSound h (fun id hid => exists_vmId_of_expired hsound hid) hcalls
  unfold reconcileOrphansSync at hcalls ⊢
  rw [hleases] at hcalls ⊢
  dsimp only at hcalls ⊢
  split at hcalls
  · rw [if_pos ‹_›]
    exact hfirst hcalls
  · rw [if_neg ‹_›]
    cases hlist : listManagedVms py (r.answer.response (r.firstLoop py iso s leases).state.vms) with
    | none =>
      rw [hlist] at hcalls
      exact hfirst hcalls
    | some rows =>
      rw [hlist] at hcalls
      dsimp only at hcalls ⊢
      have hbefore := hfirst fun call hcall => hcalls call (Sweep.calls_subset _ _ hcall)
      exact Sweep.manifestSound hbefore (fun id hid => exists_vmId_of_orphan hlist hid) hcalls

/-- Equal ids are the same id, if integers are equal only to themselves. -/
theorem VmId.eq_of_optEq (hnumber : ∀ m n : ℕ, py.numberEq (toString m) (toString n) = true → m = n)
    {left right : VmId} (h : optEq py (some left.json) (some right.json) = true) : left = right := by
  cases left with
  | number m hm =>
    cases right with
    | number n hn =>
      have heq : m = n := hnumber m n (by simpa [optEq, VmId.json, pyEq] using h)
      subst heq
      rfl
    | name text htext => simp [optEq, VmId.json, pyEq] at h
  | name text htext =>
    cases right with
    | number n hn => simp [optEq, VmId.json, pyEq] at h
    | name other hother =>
      have heq : text = other := by simpa [optEq, VmId.json, pyEq] using h
      subst heq
      rfl

/-- With sound leases, what the second loop skips for a lease is covered or was destroyed by the
first. -/
theorem orphansDeleted_of_sound
    (hnumber : ∀ m n : ℕ, py.numberEq (toString m) (toString n) = true → m = n)
    {s : HyperstackState} (h : ManifestSound py iso s.manifest) (r : ReconcileRun) :
    OrphansDeleted py iso r s := by
  intro leases name shown hname hleases hanswer hraised vm hvm hshown hmanaged hgrace hcovered
  obtain ⟨leases', hleases', hsound⟩ := h.leases
  rw [hleases] at hleases'
  cases hleases'
  have hlist := listManagedVms_listed py (r.firstLoop py iso s leases).state.vms name shown hname
  rw [← hanswer] at hlist
  unfold reconcileOrphansSync at hraised ⊢
  rw [hleases] at hraised ⊢
  dsimp only at hraised ⊢
  split at hraised
  · rename_i hfirst
    rw [hfirst] at hraised
    cases hraised
  · rename_i hfirst
    rw [if_neg hfirst]
    rw [hlist] at hraised ⊢
    dsimp only at hraised ⊢
    by_cases hleased : leases.any fun lease => optEq py (lease.lookup "vm_id") (some vm.id.json)
    · obtain ⟨lease, hlease, heq⟩ := List.any_eq_true.mp hleased
      obtain ⟨key, hleaseSound⟩ := hsound lease hlease
      obtain ⟨vmId, hid, -⟩ := hleaseSound.vmId
      obtain ⟨expiresAt, hexpires⟩ := hleaseSound.expiresAt
      rw [hid] at heq
      have hsame := VmId.eq_of_optEq hnumber heq
      subst hsame
      have hpast : expiresAt ≤ r.now := by
        by_contra hfuture
        exact hcovered ⟨leases, hleases, lease, hlease, hid, expiresAt, hexpires,
          not_le.mp hfuture⟩
      refine Sweep.deletes_subset _ _ (Sweep.mem_deletes (Bool.eq_false_of_not_eq_true hfirst) ?_)
      refine List.mem_filterMap.mpr ⟨lease, hlease, ?_⟩
      rw [hid, Option.filter_some, vm.id.truthy_json, if_pos rfl, hexpires]
      exact if_pos hpast
    · refine Sweep.mem_deletes hraised (List.mem_filterMap.mpr ⟨vm.row, ?_, ?_⟩)
      · exact List.mem_filter.mpr
          ⟨List.mem_map_of_mem (List.mem_filter.mpr ⟨hvm, hshown⟩), hmanaged⟩
      · rw [vm.lookup_id]
        simp only [hmanaged, hleased, hgrace, Bool.not_true, if_false, if_true,
          Bool.false_eq_true]

/-! ## Every history -/

theorem applyEvent_created (created : List String) (active : Dict ManifestRow) (key : String)
    (row : ManifestRow) (h : event ≠ "destroyed") (hcreated : event ∈ created) :
    applyEvent created active key event row = active.set key row := by
  rw [applyEvent, if_neg h, if_pos hcreated]

/-- A VM that was created is a lease of its own. -/
theorem adapterRow_created (r : StartRun) (vm : Vm) (active : Dict ManifestRow) :
    adapterRow py active (r.createdRow iso vm) =
      .ok (active.set (pyStr py vm.id.json) (r.createdRow iso vm)) := by
  unfold StartRun.createdRow
  rw [adapterRow_recordLease py vm.id.truthy_json rfl,
    applyEvent_created _ _ _ _ (by simp [LeaseEvent.name]) (by simp [LeaseEvent.name])]

theorem ManifestSound.start
    (hiso : ∀ instant, parseDt py iso (some (.str (iso.isoformat instant))) = some instant)
    {s : HyperstackState} (h : ManifestSound py iso s.manifest) (r : StartRun) :
    ManifestSound py iso (HyperstackOp.exec py iso s (.start r)).manifest := by
  have hrequested : ∀ active, adapterRow py active (r.requestedRow iso) = .ok active :=
    fun active => adapterRow_skipped (.head _) active r.tuple (r.clock 0)
  simp only [HyperstackOp.exec]
  cases r.outcome with
  | refused =>
    refine h.append fun active _ hsound => ⟨active, ?_, hsound⟩
    rw [List.foldlM_cons, hrequested]
    rfl
  | lost vm =>
    refine h.append fun active _ hsound => ⟨active, ?_, hsound⟩
    rw [List.foldlM_cons, hrequested]
    rfl
  | created vm =>
    refine h.append fun active _ hsound =>
      ⟨active.set (pyStr py vm.id.json) (r.createdRow iso vm), ?_, hsound.set ?_⟩
    · simp only [List.foldlM_cons, List.foldlM_nil, hrequested, adapterRow_created]
      rfl
    · constructor
      · refine ⟨vm.id, ?_, rfl⟩
        rw [StartRun.createdRow, lookup_recordLease (by decide) (by decide)]
        rfl
      · refine ⟨r.expiresAt, ?_⟩
        rw [StartRun.createdRow, lookup_recordLease (by decide) (by decide)]
        exact hiso r.expiresAt

/-- One operation keeps the manifest sound. -/
theorem ManifestSound.exec
    (hiso : ∀ instant, parseDt py iso (some (.str (iso.isoformat instant))) = some instant)
    {s : HyperstackState} (h : ManifestSound py iso s.manifest) (op : HyperstackOp)
    (hcalls : ∀ call ∈ op.calls py iso s, call.Followed py) :
    ManifestSound py iso (op.exec py iso s).manifest := by
  cases op with
  | start r => exact h.start hiso r
  | destroy tuple vmId sgRuleId run =>
    exact h.destroySync tuple vmId sgRuleId (hcalls _ (List.mem_singleton_self _))
  | reconcile r => exact h.reconcile r hcalls
  | provider vms => exact h

/-- Every call of `_destroy_sync` in the history is followed. -/
def HistoryFollowed (py : Builtins) (iso : IsoTime) (s : HyperstackState) (ops : List HyperstackOp) :
    Prop :=
  ∀ before op after, ops = before ++ op :: after →
    ∀ call ∈ op.calls py iso (afterOps py iso s before), call.Followed py

theorem manifestSound_afterOps
    (hiso : ∀ instant, parseDt py iso (some (.str (iso.isoformat instant))) = some instant)
    {s : HyperstackState} (h : ManifestSound py iso s.manifest) {ops : List HyperstackOp}
    (hfollowed : HistoryFollowed py iso s ops) :
    ManifestSound py iso (afterOps py iso s ops).manifest := by
  induction ops using List.reverseRecOn with
  | nil => exact h
  | append_singleton ops op ih =>
    have hbefore : HistoryFollowed py iso s ops := by
      rintro before other after rfl
      exact hfollowed before other (after ++ [op]) (by simp)
    rw [afterOps, List.foldl_append, List.foldl_cons, List.foldl_nil]
    exact (ih hbefore).exec hiso op (hfollowed ops op [] rfl)

/-- In a history in which only VMs with an active lease are left pending, every reconciliation that
runs to its end with a readable list has issued a delete for every orphan in it. -/
theorem orphans_deleted (py : Builtins) (iso : IsoTime)
    (hnumber : ∀ m n : ℕ, py.numberEq (toString m) (toString n) = true → m = n)
    (hiso : ∀ instant, parseDt py iso (some (.str (iso.isoformat instant))) = some instant)
    (vms : List Vm) (ops : List HyperstackOp) (hfollowed : HistoryFollowed py iso { vms } ops) :
    ∀ before r after, ops = before ++ .reconcile r :: after →
      OrphansDeleted py iso r (afterOps py iso { vms } before) := by
  rintro before r after rfl
  have hempty : ManifestSound py iso [] := by
    refine ⟨{}, rfl, ?_⟩
    intro key lease hlease
    cases hlease
  have hbefore : HistoryFollowed py iso { vms } before := by
    rintro earlier op later rfl
    exact hfollowed earlier op (later ++ .reconcile r :: after) (by simp)
  exact orphansDeleted_of_sound hnumber (manifestSound_afterOps hiso hempty hbefore) r

/-- Midnight and noon as Python writes them. Every other instant has some text of its own. -/
def utcTexts : IsoTime where
  isoformat instant :=
    if instant = 1767225600000000 then "2026-01-01T00:00:00+00:00"
    else if instant = 1767268800000000 then "2026-01-01T12:00:00+00:00"
    else String.ofList (List.replicate (Equiv.intEquivNat instant + 1) 'x')
  fromisoformat text :=
    if text = "2026-01-01T00:00:00+00:00" then some 1767225600000000
    else if text = "2026-01-01T12:00:00+00:00" then some 1767268800000000
    else some (Equiv.intEquivNat.symm (text.toList.length - 1))

theorem parseDt_utcTexts (instant : ℤ) :
    parseDt artifactBuiltins utcTexts (some (.str (utcTexts.isoformat instant))) = some instant := by
  have hother : ∀ (n : ℕ) (text : String), text.toList.head? = some '2' →
      String.ofList (List.replicate (n + 1) 'x') ≠ text := by
    rintro n text hhead rfl
    simp [List.replicate_succ] at hhead
  by_cases hmidnight : instant = 1767225600000000
  · subst hmidnight
    decide +kernel
  by_cases hnoon : instant = 1767268800000000
  · subst hnoon
    decide +kernel
  have htext : utcTexts.isoformat instant =
      String.ofList (List.replicate (Equiv.intEquivNat instant + 1) 'x') := by
    simp only [utcTexts, if_neg hmidnight, if_neg hnoon]
  have hreplace : ∀ n, replaceZulu (String.ofList (List.replicate n 'x')) =
      String.ofList (List.replicate n 'x') := by
    intro n
    have hchar : (if 'x' = 'Z' then "+00:00".toList else ['x']) = ['x'] := if_neg (by decide)
    have hlist : (String.ofList (List.replicate n 'x')).toList = List.replicate n 'x' :=
      String.toList_ofList
    rw [replaceZulu, hlist, List.flatMap_replicate, hchar, List.flatten_replicate_singleton]
  rw [parseDt, filter_truthy_str, htext]
  rw [if_neg (by simp)]
  dsimp only [pyStr]
  rw [hreplace]
  simp only [utcTexts]
  rw [if_neg (hother _ _ (by decide)), if_neg (hother _ _ (by decide))]
  simp

def orphanVm : Vm where
  id := .name "vm-9"
  details := [("name", .str "gpucall-managed-p9-1a2b3c4d"),
    ("created_at", .str "2026-01-01T00:00:00+00:00")]

def lostStart : StartRun where
  tuple := "hyperstack"
  vmName := "gpucall-managed-p9-1a2b3c4d"
  planId := "p9"
  requestedExpiresAt := 1767268800000000
  expiresAt := 1767268800000000
  outcome := .lost orphanVm
  clock _ := "2026-01-01T00:00:00+00:00"

def reconcileAtNoon (absent : Bool) : ReconcileRun where
  tuple := "hyperstack"
  now := 1767268800000000
  graceSeconds := 600
  answer := .listed "instances" fun _ => true
  destroys _ :=
    { attempt := fun _ => { status := some 202, absent, gone := absent }
      clock := fun _ => "2026-01-01T12:00:00+00:00" }

/-- The start is lost; the delete of the first reconciliation is accepted, but the VM stays. -/
def pendingOrphan : List HyperstackOp :=
  [.start lostStart, .reconcile (reconcileAtNoon false), .reconcile (reconcileAtNoon false)]

/-- The second reconciliation issues no delete: the rows of the first one are a lease without an
expiry. -/
theorem not_orphansAlwaysDeleted :
    ¬ ∀ before r after, pendingOrphan = before ++ .reconcile r :: after →
      OrphansDeleted artifactBuiltins utcTexts r
        (afterOps artifactBuiltins utcTexts { vms := [] } before) := by
  intro h
  have hdeleted := h [.start lostStart, .reconcile (reconcileAtNoon false)] (reconcileAtNoon false) [] rfl
  generalize hs : afterOps artifactBuiltins utcTexts { vms := [] }
    [.start lostStart, .reconcile (reconcileAtNoon false)] = s at hdeleted
  have hraised : (reconcileOrphansSync artifactBuiltins utcTexts (reconcileAtNoon false) s).raised =
      false := by
    subst hs
    decide +kernel
  have hdeletes : (reconcileOrphansSync artifactBuiltins utcTexts (reconcileAtNoon false)
      s).deletes.length = 0 := by
    subst hs
    decide +kernel
  have hlisted : (match manifestLeases artifactBuiltins s.manifest with
      | .ok leases =>
        leases.all (fun lease => (lease.lookup "expires_at").isNone) &&
        ((reconcileAtNoon false).firstLoop artifactBuiltins utcTexts s leases).state.vms.any fun vm =>
          isManaged artifactBuiltins vm.row &&
            pastGrace artifactBuiltins utcTexts 600 1767268800000000 vm.row
      | .error _ => false) = true := by
    subst hs
    decide +kernel
  cases hleases : manifestLeases artifactBuiltins s.manifest with
  | error error =>
    rw [hleases] at hlisted
    cases hlisted
  | ok leases =>
    rw [hleases] at hlisted
    simp only [Bool.and_eq_true, List.all_eq_true, List.any_eq_true] at hlisted
    obtain ⟨hexpiry, vm, hvm, hmanaged, hgrace⟩ := hlisted
    have hcovered : ¬ Covered artifactBuiltins utcTexts s.manifest 1767268800000000 vm.id := by
      rintro ⟨leases', hleases', lease, hlease, -, expiresAt, hexpires, -⟩
      rw [hleases] at hleases'
      cases hleases'
      rw [Option.isNone_iff_eq_none.mp (hexpiry lease hlease)] at hexpires
      cases hexpires
    have hmem := hdeleted leases _ _ _ hleases rfl hraised vm hvm rfl hmanaged hgrace hcovered
    rw [List.length_eq_zero_iff.mp hdeletes] at hmem
    cases hmem

/-- The start is lost; the reconciliation destroys the VM. -/
def foundOrphan : List HyperstackOp := [.start lostStart, .reconcile (reconcileAtNoon true)]

theorem not_leavesPending {run : DestroyRun} (hends : (run.attempt 0).status = some 202)
    (habsent : (run.attempt 0).absent = true) : ¬ run.LeavesPending := by
  rintro ⟨n, -, -, hpresent, hbefore⟩
  cases n with
  | zero =>
    rw [habsent] at hpresent
    cases hpresent
  | succ n => exact hbefore 0 n.succ_pos (.inl ⟨202, by decide, hends⟩)

theorem foundOrphan_followed :
    HistoryFollowed artifactBuiltins utcTexts { vms := [] } foundOrphan := by
  rintro before op after heq call hcall
  have hruns : ∀ call ∈ (reconcileOrphansSync artifactBuiltins utcTexts (reconcileAtNoon true)
      (afterOps artifactBuiltins utcTexts { vms := [] } [.start lostStart])).calls,
      (call.run.attempt 0).status = some 202 ∧ (call.run.attempt 0).absent = true := by decide +kernel
  match before, heq with
  | [], heq =>
    cases heq
    cases hcall
  | [_], heq =>
    cases heq
    obtain ⟨hstatus, habsent⟩ := hruns call hcall
    exact fun hpending => absurd hpending (not_leavesPending hstatus habsent)
  | _ :: _ :: rest, heq =>
    have hlength := congrArg List.length heq
    simp [foundOrphan] at hlength

theorem orphans_deleted_foundOrphan :
    OrphansDeleted artifactBuiltins utcTexts (reconcileAtNoon true)
      (afterOps artifactBuiltins utcTexts { vms := [] } [.start lostStart]) := by
  refine orphans_deleted artifactBuiltins utcTexts ?_ parseDt_utcTexts [] foundOrphan
    foundOrphan_followed [.start lostStart] (reconcileAtNoon true) [] rfl
  intro m n h
  exact repr_injective (of_decide_eq_true h)

end Gpucall
