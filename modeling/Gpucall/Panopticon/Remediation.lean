import Gpucall.Panopticon.GpuRefs
import Gpucall.Recipes.Materialize
import Gpucall.Routing.LivePrice

/-! The plan of `panopticon_remediation.py`. Each finding of the snapshot is judged alone, and of the actions that
are proposed for one resource the first is kept. -/

namespace Gpucall

inductive RemediationMode where
  | auto
  | approvalRequired
  | disabled
  deriving DecidableEq

structure RemediationActionPolicy where
  mode : RemediationMode
  requireNoInflightJobs : Bool := true
  requireNoLowLatencySla : Bool := true

structure RemediationPolicy where
  excludeFromRouting : RemediationActionPolicy := { mode := .auto }
  scaleWorkersMinToZero : RemediationActionPolicy := { mode := .approvalRequired }
  deleteEndpoint : RemediationActionPolicy := { mode := .approvalRequired }
  deleteNetworkVolume : RemediationActionPolicy := { mode := .approvalRequired }

inductive RemediationActionName where
  | excludeFromRouting
  | scaleWorkersMinToZero
  | deleteEndpoint
  | deleteNetworkVolume
  deriving DecidableEq

inductive RemediationProvider where
  | gateway
  | runpod
  deriving DecidableEq

inductive RemediationResourceType where
  | tuple
  | endpoint
  | networkVolume
  deriving DecidableEq

/-- An action that `validate_action_contract` lets pass, without what `_action` computes from the rest. -/
structure RemediationAction where
  action : RemediationActionName
  provider : RemediationProvider
  resourceType : RemediationResourceType
  resourceId : String
  tuple : Option String
  adapter : String
  reason : String
  policyMode : RemediationMode
  providerMutation : Bool
  destructive : Bool
  applySupported : Bool
  applyBlockedReasons : List String
  preconditions : List (String × Json) := []
  parameters : List (String × Json) := []
  sourceFinding : Dict Json
  resourceId_nonempty : strip resourceId ≠ ""
  enabled : policyMode ≠ .disabled
  unblocked : applySupported = true → applyBlockedReasons = []

/-- What `_append_action` has seen. -/
def RemediationAction.key (a : RemediationAction) : RemediationActionName × RemediationProvider × String :=
  (a.action, a.provider, a.resourceId)

/-- The action, without the tuple that its finding was filed under -/
def RemediationAction.unfiled (a : RemediationAction) : RemediationAction := { a with tuple := none, adapter := "" }

/-- A plan that `validate_plan_count` lets pass. -/
structure RemediationPlan where
  actionsProposed : Bool
  actionCount : ℕ
  actions : List RemediationAction
  count_eq : actionCount = actions.length
  status_eq : actionsProposed = !actions.isEmpty

/-- A row of the snapshot, with its findings that are mappings -/
structure RemediationRow where
  tuple : String
  adapter : String
  blocked : Bool
  stale : Bool
  findings : List (Dict Json)

section

variable (py : Builtins) (conv : Conversions) (policy : RemediationPolicy)

/-! ## Findings -/

/-- `value in {..}`, which needs a hash of the value -/
def inTexts (texts : List String) : Option Json → Except ActivationError Bool
  | some (.arr _) | some (.obj _) => .error .typeError
  | value => .ok (texts.any fun text => isText text value)

/-- `_finding_details` -/
def findingDetails (finding : Dict Json) : Dict Json :=
  (mappingOr (finding.get? "raw")).update (mappingOr (finding.get? "details"))

/-- `_non_negative_int` -/
def nonNegativeInt : Option Json → Except ActivationError (Option ℕ)
  | none | some .null | some (.bool _) => .ok none
  | value => (intOr conv value).map fun parsed => parsed.bind fun n => if 0 ≤ n then some n.toNat else none

/-- `_truthy` -/
def isTruthyText : Option Json → Bool
  | some (.bool value) => value
  | value => (strip (pyStr py (value.getD .null))).toList.map Char.toLower ∈ ["1", "true", "yes", "y"].map String.toList

/-- `_finding_blocks_routing` -/
def findingBlocksRouting (finding : Dict Json) : Bool :=
  isText "error" (finding.get? "severity") || isText "unavailable" (finding.get? "live_stock_state")

/-- `_row_needs_routing_exclusion` -/
def RemediationRow.needsRoutingExclusion (row : RemediationRow) : Bool :=
  row.blocked || row.stale || row.findings.any findingBlocksRouting

/-- `_first_blocking_finding` -/
def firstBlockingFinding (findings : List (Dict Json)) : Dict Json :=
  ((findings.find? findingBlocksRouting).or findings.head?).getD ⟨[], List.nodup_nil⟩

/-! ## The actions -/

/-- The exclusion of the row's tuple, with the finding that is named for it -/
def exclusionFor (row : RemediationRow) (source : Dict Json) : Except ActivationError (Option RemediationAction) :=
  if hmode : policy.excludeFromRouting.mode = .disabled then .ok none
  else if htuple : strip row.tuple = "" then .error (.valueError "resource_id must be non-empty")
  else .ok (some {
    action := .excludeFromRouting, provider := .gateway, resourceType := .tuple, resourceId := row.tuple
    tuple := some row.tuple, adapter := row.adapter
    reason :=
      if row.stale then "provider panopticon evidence is stale"
      else strOr py (source.get? "reason") "provider panopticon marks tuple unavailable"
    policyMode := policy.excludeFromRouting.mode
    providerMutation := false, destructive := false, applySupported := false
    applyBlockedReasons := ["gateway already fails closed from panopticon evidence"]
    sourceFinding := source
    resourceId_nonempty := htuple, enabled := hmode, unblocked := nofun })

/-- `_exclude_from_routing_action` -/
def excludeFromRoutingAction (row : RemediationRow) : Except ActivationError (Option RemediationAction) :=
  exclusionFor py policy row (firstBlockingFinding row.findings)

/-- What keeps an endpoint from being scaled down. -/
def scaleBlockedReasons (details : Dict Json) (activeWorkers activePods : ℕ) : List String :=
  (if policy.scaleWorkersMinToZero.requireNoInflightJobs ∧ (0 < activeWorkers ∨ 0 < activePods) then
    ["inflight_workers_or_pods_present"] else []) ++
  (if policy.scaleWorkersMinToZero.requireNoLowLatencySla ∧ isTruthyText py (details.get? "low_latency_sla") then
    ["low_latency_sla_present"] else [])

theorem strip_cleanString_ne {value : Option Json} (h : cleanString py value ≠ "") :
    strip (cleanString py value) ≠ "" := by
  rw [cleanString_stripped]
  exact h

variable (tuple adapter : String)

/-- `_scale_workers_min_to_zero_action` -/
def scaleWorkersMinToZeroAction (finding : Dict Json) : Except ActivationError (Option RemediationAction) :=
  let details := findingDetails finding
  if isText "workers_min_positive" (details.get? "live_reason") then do
    let workersMin ← nonNegativeInt conv (details.get? "workers_min")
    if hid : cleanString py (details.get? "endpoint_id") = "" then return none
    else if workersMin.getD 0 = 0 then return none
    else if hmode : policy.scaleWorkersMinToZero.mode = .disabled then return none
    else
      let activeWorkers := (← nonNegativeInt conv (details.get? "active_workers")).getD 0
      let activePods := (← nonNegativeInt conv (details.get? "active_pods")).getD 0
      let blocked := scaleBlockedReasons py policy details activeWorkers activePods
      return some {
        action := .scaleWorkersMinToZero, provider := .runpod, resourceType := .endpoint
        resourceId := cleanString py (details.get? "endpoint_id")
        tuple := some tuple, adapter := adapter
        reason := "RunPod Serverless endpoint has unapproved workersMin > 0"
        policyMode := policy.scaleWorkersMinToZero.mode
        providerMutation := true, destructive := false
        applySupported := blocked.isEmpty, applyBlockedReasons := blocked
        preconditions := [("workers_min_observed", .number (toString (workersMin.getD 0))),
          ("active_workers", .number (toString activeWorkers)), ("active_pods", .number (toString activePods)),
          ("require_no_inflight_jobs", .bool policy.scaleWorkersMinToZero.requireNoInflightJobs),
          ("require_no_low_latency_sla", .bool policy.scaleWorkersMinToZero.requireNoLowLatencySla)]
        parameters := [("workersMin", .number "0")]
        sourceFinding := finding
        resourceId_nonempty := strip_cleanString_ne py hid, enabled := hmode
        unblocked := List.isEmpty_iff.mp }
  else .ok none

/-- `_delete_network_volume_action` -/
def deleteNetworkVolumeAction (finding : Dict Json) : Except ActivationError (Option RemediationAction) :=
  let details := findingDetails finding
  if !isText "network_volume" (details.get? "resource_type") then .ok none
  else if !isText "persistent_storage_unattached_undeclared" (details.get? "live_reason") then .ok none
  else if hid : cleanString py (details.get? "resource_id") = "" then .ok none
  else if hmode : policy.deleteNetworkVolume.mode = .disabled then .ok none
  else do
    let attached ← nonNegativeInt conv (details.get? "attached_endpoint_count")
    let declared ← nonNegativeInt conv (details.get? "declared_by_tuple_count")
    return some {
      action := .deleteNetworkVolume, provider := .runpod, resourceType := .networkVolume
      resourceId := cleanString py (details.get? "resource_id")
      tuple := if startswith tuple "runpod-network-volume-" then none else some tuple
      adapter := adapter
      reason := "RunPod network volume is unattached and undeclared"
      policyMode := policy.deleteNetworkVolume.mode
      providerMutation := true, destructive := true, applySupported := false
      applyBlockedReasons := ["delete_network_volume is not supported by gpucall v2 apply"]
      preconditions := [("attached_endpoint_count", .number (toString (attached.getD 0))),
        ("declared_by_tuple_count", .number (toString (declared.getD 0))),
        ("content_inventory_status", (details.get? "content_inventory_status").getD .null)]
      sourceFinding := finding
      resourceId_nonempty := strip_cleanString_ne py hid, enabled := hmode, unblocked := nofun }

/-- `_string(details.get("resource_id") or details.get("endpoint_id"))` -/
def deletedEndpoint (details : Dict Json) : String :=
  cleanString py (firstTruthy (details.get? "resource_id") (details.get? "endpoint_id"))

/-- `_delete_endpoint_action` -/
def deleteEndpointAction (finding : Dict Json) : Except ActivationError (Option RemediationAction) := do
  let details := findingDetails finding
  if !(← inTexts ["endpoint", "serverless_endpoint"] (details.get? "resource_type")) then return none
  if !(← inTexts ["endpoint_unattached_undeclared", "endpoint_stale_undeclared", "unmanaged_endpoint_stale"]
      (details.get? "live_reason")) then
    return none
  if hid : deletedEndpoint py details = "" then return none
  else if hmode : policy.deleteEndpoint.mode = .disabled then return none
  else return some {
    action := .deleteEndpoint, provider := .runpod, resourceType := .endpoint
    resourceId := deletedEndpoint py details
    tuple := some tuple, adapter := adapter
    reason := "RunPod endpoint is stale or undeclared"
    policyMode := policy.deleteEndpoint.mode
    providerMutation := true, destructive := true, applySupported := false
    applyBlockedReasons := ["delete_endpoint is not supported by gpucall v2 apply"]
    sourceFinding := finding
    resourceId_nonempty := strip_cleanString_ne py hid, enabled := hmode, unblocked := nofun }

/-! ## The plan -/

/-- What one finding proposes, in the order in which it is appended -/
def findingActions (finding : Dict Json) : Except ActivationError (List RemediationAction) := do
  let scale ← scaleWorkersMinToZeroAction py conv policy tuple adapter finding
  let volumeDelete ← deleteNetworkVolumeAction py conv policy tuple adapter finding
  let endpointDelete ← deleteEndpointAction py policy tuple adapter finding
  return scale.toList ++ volumeDelete.toList ++ endpointDelete.toList

/-- What a row proposes for its tuple -/
def routingExclusion (row : RemediationRow) : Except ActivationError (Option RemediationAction) :=
  if row.needsRoutingExclusion then excludeFromRoutingAction py policy row else .ok none

def rowActions (row : RemediationRow) : Except ActivationError (List RemediationAction) := do
  let exclusion ← routingExclusion py policy row
  let proposed ← row.findings.mapM (findingActions py conv policy row.tuple row.adapter)
  return exclusion.toList ++ proposed.flatten

/-- An item of the findings, unless it is no mapping -/
def findingItem : Json → Option (Dict Json)
  | .obj finding => some (.ofFields finding)
  | _ => none

/-- The row of an entry of the snapshot, unless it is no mapping -/
def remediationRow (name : String) : Json → Except ActivationError (Option RemediationRow)
  | .obj fields =>
    let row : Dict Json := .ofFields fields
    (iterateOr (row.get? "findings")).map fun items => some {
      tuple := strOr py (row.get? "tuple") name
      adapter := strOrEmpty py (row.get? "adapter")
      blocked := isText "blocked" (row.get? "status")
      stale := row.get? "panopticon_stale" matches some (.bool true)
      findings := items.filterMap findingItem }
  | _ => .ok none

def entryActions (entry : String × Json) : Except ActivationError (List RemediationAction) := do
  match ← remediationRow py entry.1 entry.2 with
  | none => return []
  | some row => rowActions py conv policy row

/-- `sorted(snapshot.items())` -/
def sortedEntries (snapshot : Dict Json) : List (String × Json) := snapshot.entries.insertionSort (·.1 ≤ ·.1)

def buildRemediationPlan (snapshot : Dict Json) : Except ActivationError RemediationPlan := do
  let proposed ← (sortedEntries snapshot).mapM (entryActions py conv policy)
  let actions := FirstWins.keepFirst RemediationAction.key proposed.flatten
  return { actionsProposed := !actions.isEmpty, actionCount := actions.length, actions
           count_eq := rfl, status_eq := rfl }

/-! ## What is said of an endpoint -/

/-- The finding proposes the action when it is filed under the tuple. -/
def Proposes (finding : Dict Json) (a : RemediationAction) : Prop :=
  ∃ proposed, findingActions py conv policy tuple adapter finding = .ok proposed ∧ a ∈ proposed

/-- `_string(details.get("endpoint_id"))` -/
def findingEndpoint (finding : Dict Json) : String := cleanString py ((findingDetails finding).get? "endpoint_id")

/-- The finding has a positive number in the field. -/
def ReportsPositive (field : String) (finding : Dict Json) : Prop :=
  ∃ n, 0 < n ∧ nonNegativeInt conv ((findingDetails finding).get? field) = .ok (some n)

/-- Nothing that the policy asks about is going on. -/
structure ReportsIdle (finding : Dict Json) : Prop where
  workers : ¬ ReportsPositive conv "active_workers" finding
  pods : ¬ ReportsPositive conv "active_pods" finding
  latency : policy.scaleWorkersMinToZero.requireNoLowLatencySla = true →
    isTruthyText py ((findingDetails finding).get? "low_latency_sla") = false

/-- The finding is about workers that its endpoint keeps without leave. -/
structure ReportsWorkersMin (finding : Dict Json) : Prop where
  reason : isText "workers_min_positive" ((findingDetails finding).get? "live_reason") = true
  endpoint : findingEndpoint py finding ≠ ""
  workersMin : ReportsPositive conv "workers_min" finding
  enabled : policy.scaleWorkersMinToZero.mode ≠ .disabled

end

variable {py : Builtins} {conv : Conversions} {policy : RemediationPolicy} {tuple adapter : String}
  {finding : Dict Json} {a b : RemediationAction}

/-! ## The actions of one finding -/

/-- What a scaling action says of its finding -/
structure ScalesDown (py : Builtins) (conv : Conversions) (policy : RemediationPolicy) (finding : Dict Json)
    (a : RemediationAction) : Prop where
  action : a.action = .scaleWorkersMinToZero
  provider : a.provider = .runpod
  resourceType : a.resourceType = .endpoint
  resourceId : a.resourceId = findingEndpoint py finding
  sourceFinding : a.sourceFinding = finding
  supported : policy.scaleWorkersMinToZero.requireNoInflightJobs = true →
    (a.applySupported = true ↔ ReportsIdle py conv policy finding)

theorem reportsPositive_iff {field : String} {read : Option ℕ}
    (h : nonNegativeInt conv ((findingDetails finding).get? field) = .ok read) :
    ReportsPositive conv field finding ↔ 0 < read.getD 0 := by
  rw [ReportsPositive, h]
  cases read <;> simp

theorem scaleBlockedReasons_isEmpty {workers pods : Option ℕ}
    (hworkers : nonNegativeInt conv ((findingDetails finding).get? "active_workers") = .ok workers)
    (hpods : nonNegativeInt conv ((findingDetails finding).get? "active_pods") = .ok pods)
    (hinflight : policy.scaleWorkersMinToZero.requireNoInflightJobs = true) :
    (scaleBlockedReasons py policy (findingDetails finding) (workers.getD 0) (pods.getD 0)).isEmpty = true ↔
      ReportsIdle py conv policy finding := by
  have hreports := reportsPositive_iff hworkers
  have hreports' := reportsPositive_iff hpods
  rw [scaleBlockedReasons, List.isEmpty_iff, List.append_eq_nil_iff, ite_eq_right_iff, ite_eq_right_iff, hinflight]
  constructor
  · rintro ⟨hbusy, hlatency⟩
    have hidle : ¬ (0 < workers.getD 0 ∨ 0 < pods.getD 0) := fun h => by cases hbusy ⟨rfl, h⟩
    refine ⟨fun h => hidle (.inl (hreports.mp h)), fun h => hidle (.inr (hreports'.mp h)), fun hrequired => ?_⟩
    rw [← Bool.not_eq_true]
    intro h
    cases hlatency ⟨hrequired, h⟩
  · intro hidle
    constructor
    · rintro ⟨-, h | h⟩
      · exact absurd (hreports.mpr h) hidle.workers
      · exact absurd (hreports'.mpr h) hidle.pods
    · rintro ⟨hrequired, h⟩
      cases (hidle.latency hrequired).symm.trans h

theorem scaleWorkersMinToZeroAction_eq_ok {scale : Option RemediationAction}
    (h : scaleWorkersMinToZeroAction py conv policy tuple adapter finding = .ok scale) :
    (ReportsWorkersMin py conv policy finding ∧ ∃ a, scale = some a ∧ ScalesDown py conv policy finding a) ∨
      (¬ ReportsWorkersMin py conv policy finding ∧ scale = none) := by
  rw [scaleWorkersMinToZeroAction] at h
  split at h
  · rename_i hreason
    obtain ⟨workersMin, hmin, h⟩ := Fallible.bind_eq_ok.mp h
    have hreports := reportsPositive_iff hmin
    split at h
    · rename_i hendpoint
      exact .inr ⟨fun hreported => hreported.endpoint hendpoint, (Except.ok.inj h).symm⟩
    · rename_i hendpoint
      split at h
      · rename_i hzero
        refine .inr ⟨fun hreported => ?_, (Except.ok.inj h).symm⟩
        rw [hzero] at hreports
        exact absurd (hreports.mp hreported.workersMin) (lt_irrefl 0)
      · rename_i hpositive
        split at h
        · rename_i hmode
          exact .inr ⟨fun hreported => hreported.enabled hmode, (Except.ok.inj h).symm⟩
        · rename_i hmode
          obtain ⟨workers, hworkers, h⟩ := Fallible.bind_eq_ok.mp h
          obtain ⟨pods, hpods, h⟩ := Fallible.bind_eq_ok.mp h
          refine .inl ⟨⟨hreason, hendpoint, hreports.mpr (Nat.pos_of_ne_zero hpositive), hmode⟩, _,
            (Except.ok.inj h).symm, rfl, rfl, rfl, rfl, rfl, fun hinflight => ?_⟩
          exact scaleBlockedReasons_isEmpty hworkers hpods hinflight
  · rename_i hreason
    exact .inr ⟨fun hreported => hreason hreported.reason, (Except.ok.inj h).symm⟩

/-- A deletion is never applied. -/
structure Deletes (finding : Dict Json) (action : RemediationActionName) (resourceType : RemediationResourceType)
    (a : RemediationAction) : Prop where
  action : a.action = action
  resourceType : a.resourceType = resourceType
  sourceFinding : a.sourceFinding = finding

theorem deleteNetworkVolumeAction_eq_some
    (h : deleteNetworkVolumeAction py conv policy tuple adapter finding = .ok (some a)) :
    Deletes finding .deleteNetworkVolume .networkVolume a := by
  rw [deleteNetworkVolumeAction] at h
  split at h
  · cases h
  split at h
  · cases h
  split at h
  · cases h
  split at h
  · cases h
  obtain ⟨attached, -, h⟩ := Fallible.bind_eq_ok.mp h
  obtain ⟨declared, -, h⟩ := Fallible.bind_eq_ok.mp h
  cases h
  exact ⟨rfl, rfl, rfl⟩

theorem deleteEndpointAction_eq_some (h : deleteEndpointAction py policy tuple adapter finding = .ok (some a)) :
    Deletes finding .deleteEndpoint .endpoint a := by
  rw [deleteEndpointAction] at h
  obtain ⟨isEndpoint, -, h⟩ := Fallible.bind_eq_ok.mp h
  split at h
  · cases h
  obtain ⟨isStale, -, h⟩ := Fallible.bind_eq_ok.mp h
  split at h
  · cases h
  split at h
  · cases h
  split at h
  · cases h
  cases h
  exact ⟨rfl, rfl, rfl⟩

/-- The tuple says where an action was filed, and nothing else of it. -/
theorem scaleWorkersMinToZeroAction_unfiled (tuple' adapter' : String) :
    (scaleWorkersMinToZeroAction py conv policy tuple adapter finding).map (Option.map (·.unfiled)) =
      (scaleWorkersMinToZeroAction py conv policy tuple' adapter' finding).map (Option.map (·.unfiled)) := by
  rw [scaleWorkersMinToZeroAction, scaleWorkersMinToZeroAction]
  split
  · refine Fallible.map_bind_congr fun workersMin => ?_
    split
    · rfl
    split
    · rfl
    split
    · rfl
    exact Fallible.map_bind_congr fun workers => Fallible.map_bind_congr fun pods => rfl
  · rfl

theorem deleteNetworkVolumeAction_unfiled (tuple' adapter' : String) :
    (deleteNetworkVolumeAction py conv policy tuple adapter finding).map (Option.map (·.unfiled)) =
      (deleteNetworkVolumeAction py conv policy tuple' adapter' finding).map (Option.map (·.unfiled)) := by
  rw [deleteNetworkVolumeAction, deleteNetworkVolumeAction]
  split
  · rfl
  split
  · rfl
  split
  · rfl
  split
  · rfl
  exact Fallible.map_bind_congr fun attached => Fallible.map_bind_congr fun declared => rfl

theorem deleteEndpointAction_unfiled (tuple' adapter' : String) :
    (deleteEndpointAction py policy tuple adapter finding).map (Option.map (·.unfiled)) =
      (deleteEndpointAction py policy tuple' adapter' finding).map (Option.map (·.unfiled)) := by
  rw [deleteEndpointAction, deleteEndpointAction]
  refine Fallible.map_bind_congr fun isEndpoint => ?_
  split
  · rfl
  refine Fallible.map_bind_congr fun isStale => ?_
  split
  · rfl
  split
  · rfl
  split
  · rfl
  · rfl

/-- Where the finding is filed does not decide whether its actions can be made, nor what they say. -/
theorem findingActions_refiled {proposed : List RemediationAction} (tuple' adapter' : String)
    (h : findingActions py conv policy tuple adapter finding = .ok proposed) :
    ∃ proposed', findingActions py conv policy tuple' adapter' finding = .ok proposed' ∧
      proposed'.map (·.unfiled) = proposed.map (·.unfiled) := by
  have hrefiled : ∀ {x y : Except ActivationError (Option RemediationAction)} {found : Option RemediationAction},
      x.map (Option.map (·.unfiled)) = y.map (Option.map (·.unfiled)) → x = .ok found →
        ∃ found', y = .ok found' ∧ found'.toList.map (·.unfiled) = found.toList.map (·.unfiled) := by
    rintro x y found hmap rfl
    obtain ⟨found', rfl, heq⟩ := Fallible.map_eq_ok.mp hmap.symm
    refine ⟨found', rfl, ?_⟩
    rw [← Option.toList_map, ← Option.toList_map, heq]
  obtain ⟨scale, hscale, h⟩ := Fallible.bind_eq_ok.mp h
  obtain ⟨volumeDelete, hvolume, h⟩ := Fallible.bind_eq_ok.mp h
  obtain ⟨endpointDelete, hendpoint, h⟩ := Fallible.bind_eq_ok.mp h
  obtain rfl := Except.ok.inj h
  obtain ⟨scale', hscale', hsame⟩ :=
    hrefiled (scaleWorkersMinToZeroAction_unfiled tuple' adapter') hscale
  obtain ⟨volumeDelete', hvolume', hsame'⟩ :=
    hrefiled (deleteNetworkVolumeAction_unfiled tuple' adapter') hvolume
  obtain ⟨endpointDelete', hendpoint', hsame''⟩ :=
    hrefiled (deleteEndpointAction_unfiled tuple' adapter') hendpoint
  refine ⟨scale'.toList ++ volumeDelete'.toList ++ endpointDelete'.toList, ?_, ?_⟩
  · rw [findingActions, hscale', hvolume', hendpoint']
    rfl
  · simp only [List.map_append, hsame, hsame', hsame'']

/-- The forms of a proposal -/
inductive Proposal (py : Builtins) (conv : Conversions) (policy : RemediationPolicy) (finding : Dict Json)
    (a : RemediationAction) : Prop
  | scale (reported : ReportsWorkersMin py conv policy finding) (scales : ScalesDown py conv policy finding a)
  | volume (deletes : Deletes finding .deleteNetworkVolume .networkVolume a)
  | endpoint (deletes : Deletes finding .deleteEndpoint .endpoint a)

theorem Proposes.cases (h : Proposes py conv policy tuple adapter finding a) : Proposal py conv policy finding a := by
  obtain ⟨proposed, h, ha⟩ := h
  obtain ⟨scale, hscale, h⟩ := Fallible.bind_eq_ok.mp h
  obtain ⟨volumeDelete, hvolume, h⟩ := Fallible.bind_eq_ok.mp h
  obtain ⟨endpointDelete, hendpoint, h⟩ := Fallible.bind_eq_ok.mp h
  obtain rfl := Except.ok.inj h
  rw [List.mem_append, List.mem_append, Option.mem_toList, Option.mem_toList, Option.mem_toList] at ha
  obtain (rfl | rfl) | rfl := ha
  · obtain ⟨hreported, _, ⟨⟩, hscales⟩ | ⟨-, h⟩ := scaleWorkersMinToZeroAction_eq_ok hscale
    · exact .scale hreported hscales
    · cases h
  · exact .volume (deleteNetworkVolumeAction_eq_some hvolume)
  · exact .endpoint (deleteEndpointAction_eq_some hendpoint)

theorem Proposal.sourceFinding (h : Proposal py conv policy finding a) : a.sourceFinding = finding := by
  cases h with
  | scale _ scales => exact scales.sourceFinding
  | volume deletes => exact deletes.sourceFinding
  | endpoint deletes => exact deletes.sourceFinding

theorem Proposal.not_exclusion (h : Proposal py conv policy finding a) : a.action ≠ .excludeFromRouting := by
  cases h with
  | scale _ scales => rw [scales.action]; nofun
  | volume deletes => rw [deletes.action]; nofun
  | endpoint deletes => rw [deletes.action]; nofun

theorem Proposal.onEndpoint_iff (h : Proposal py conv policy finding a) :
    a.resourceType = .endpoint ↔ a.action ≠ .deleteNetworkVolume := by
  cases h with
  | scale _ scales => rw [scales.resourceType, scales.action]; simp
  | volume deletes => rw [deletes.resourceType, deletes.action]; simp
  | endpoint deletes => rw [deletes.resourceType, deletes.action]; simp

/-- A finding proposes one action of a name. -/
theorem eq_of_proposed {proposed : List RemediationAction}
    (h : findingActions py conv policy tuple adapter finding = .ok proposed) (ha : a ∈ proposed) (hb : b ∈ proposed)
    (hkey : a.key = b.key) : a = b := by
  have haction : a.action = b.action := congrArg Prod.fst hkey
  obtain ⟨scale, hscale, h⟩ := Fallible.bind_eq_ok.mp h
  obtain ⟨volumeDelete, hvolume, h⟩ := Fallible.bind_eq_ok.mp h
  obtain ⟨endpointDelete, hendpoint, h⟩ := Fallible.bind_eq_ok.mp h
  obtain rfl := Except.ok.inj h
  have hscaling : ∀ x, scale = some x → x.action = .scaleWorkersMinToZero := by
    rintro x rfl
    obtain ⟨-, _, ⟨⟩, hscales⟩ | ⟨-, h⟩ := scaleWorkersMinToZeroAction_eq_ok hscale
    · exact hscales.action
    · cases h
  have hdeleting : ∀ x, volumeDelete = some x → x.action = .deleteNetworkVolume := by
    rintro x rfl
    exact (deleteNetworkVolumeAction_eq_some hvolume).action
  have hdeleting' : ∀ x, endpointDelete = some x → x.action = .deleteEndpoint := by
    rintro x rfl
    exact (deleteEndpointAction_eq_some hendpoint).action
  rw [List.mem_append, List.mem_append, Option.mem_toList, Option.mem_toList, Option.mem_toList] at ha hb
  obtain (ha | ha) | ha := ha
  · obtain (hb | hb) | hb := hb
    · exact Option.some.inj (ha.symm.trans hb)
    · cases (hscaling a ha).symm.trans (haction.trans (hdeleting b hb))
    · cases (hscaling a ha).symm.trans (haction.trans (hdeleting' b hb))
  · obtain (hb | hb) | hb := hb
    · cases (hdeleting a ha).symm.trans (haction.trans (hscaling b hb))
    · exact Option.some.inj (ha.symm.trans hb)
    · cases (hdeleting a ha).symm.trans (haction.trans (hdeleting' b hb))
  · obtain (hb | hb) | hb := hb
    · cases (hdeleting' a ha).symm.trans (haction.trans (hscaling b hb))
    · cases (hdeleting' a ha).symm.trans (haction.trans (hdeleting b hb))
    · exact Option.some.inj (ha.symm.trans hb)

theorem ReportsWorkersMin.exists_scales {proposed : List RemediationAction}
    (hreported : ReportsWorkersMin py conv policy finding)
    (h : findingActions py conv policy tuple adapter finding = .ok proposed) :
    ∃ a, Proposes py conv policy tuple adapter finding a ∧ ScalesDown py conv policy finding a := by
  obtain ⟨scale, hscale, hrest⟩ := Fallible.bind_eq_ok.mp h
  obtain ⟨volumeDelete, -, hrest⟩ := Fallible.bind_eq_ok.mp hrest
  obtain ⟨endpointDelete, -, hrest⟩ := Fallible.bind_eq_ok.mp hrest
  obtain ⟨-, a, rfl, hscales⟩ | ⟨hnot, -⟩ := scaleWorkersMinToZeroAction_eq_ok hscale
  · obtain rfl := Except.ok.inj hrest
    exact ⟨a, ⟨_, h, List.mem_append_left _ (List.mem_append_left _ List.mem_cons_self)⟩, hscales⟩
  · exact absurd hreported hnot

/-! ## The actions of one row -/

/-- A finding that some order of the findings lets an exclusion name -/
inductive NamedFor : List (Dict Json) → Dict Json → Prop
  | blocking {findings finding} (mem : finding ∈ findings) (blocks : findingBlocksRouting finding = true) :
    NamedFor findings finding
  | other {findings finding} (mem : finding ∈ findings) (none : ∀ f ∈ findings, findingBlocksRouting f = false) :
    NamedFor findings finding
  | nothing : NamedFor [] ⟨[], List.nodup_nil⟩

/-- An action that some order of the findings lets the row propose -/
inductive Candidate (py : Builtins) (conv : Conversions) (policy : RemediationPolicy) (row : RemediationRow)
    (a : RemediationAction) : Prop
  | exclusion {source : Dict Json} (needed : row.needsRoutingExclusion = true) (named : NamedFor row.findings source)
    (made : exclusionFor py policy row source = .ok (some a))
  | proposal {finding : Dict Json} (mem : finding ∈ row.findings)
    (proposed : Proposes py conv policy row.tuple row.adapter finding a)

/-- The rows differ in the order of their findings. -/
structure SameButOrder (row row' : RemediationRow) : Prop where
  perm : row.findings.Perm row'.findings
  rest : row' = { row with findings := row'.findings }

variable {row row' : RemediationRow} {proposed : List RemediationAction}

theorem namedFor_firstBlockingFinding (findings : List (Dict Json)) :
    NamedFor findings (firstBlockingFinding findings) := by
  rw [firstBlockingFinding]
  cases hfind : findings.find? findingBlocksRouting with
  | some finding => exact .blocking (List.mem_of_find?_eq_some hfind) (List.find?_some hfind)
  | none =>
    rw [Option.none_or]
    have hnone : ∀ f ∈ findings, findingBlocksRouting f = false := fun f hf =>
      eq_false_of_ne_true (List.find?_eq_none.mp hfind f hf)
    cases findings with
    | nil => exact .nothing
    | cons first rest => exact .other List.mem_cons_self hnone

theorem NamedFor.perm {findings findings' : List (Dict Json)} (h : NamedFor findings finding)
    (hperm : findings.Perm findings') : NamedFor findings' finding := by
  cases h with
  | blocking mem blocks => exact .blocking (hperm.mem_iff.mp mem) blocks
  | other mem none => exact .other (hperm.mem_iff.mp mem) fun f hf => none f (hperm.mem_iff.mpr hf)
  | nothing =>
    rw [List.nil_perm] at hperm
    rw [hperm]
    exact .nothing

/-- Every finding that may be named is named in some order. -/
theorem NamedFor.exists_perm {findings : List (Dict Json)} (h : NamedFor findings finding) :
    ∃ findings', findings.Perm findings' ∧ firstBlockingFinding findings' = finding := by
  cases h with
  | blocking mem blocks =>
    obtain ⟨before, after, rfl⟩ := List.append_of_mem mem
    refine ⟨_, List.perm_middle, ?_⟩
    rw [firstBlockingFinding, List.find?_cons_of_pos blocks]
    rfl
  | other mem none =>
    obtain ⟨before, after, rfl⟩ := List.append_of_mem mem
    refine ⟨_, List.perm_middle, ?_⟩
    have hnone : (finding :: (before ++ after)).find? findingBlocksRouting = Option.none :=
      List.find?_eq_none.mpr fun f hf => by simp [none f (List.perm_middle.mem_iff.mpr hf)]
    rw [firstBlockingFinding, hnone]
    rfl
  | nothing => exact ⟨[], .refl _, rfl⟩

/-- An exclusion can be made whichever finding it names, and it is of the row's tuple. -/
theorem exists_exclusionFor {source : Dict Json} {exclusion : Option RemediationAction}
    (h : exclusionFor py policy row source = .ok exclusion) (source' : Dict Json) :
    ∃ exclusion', exclusionFor py policy row source' = .ok exclusion' ∧
      exclusion'.map (·.key) = exclusion.map (·.key) := by
  rw [exclusionFor] at h ⊢
  split at h
  · rename_i hmode
    obtain rfl := Except.ok.inj h
    rw [dif_pos hmode]
    exact ⟨none, rfl, rfl⟩
  · rename_i hmode
    rw [dif_neg hmode]
    split at h
    · cases h
    · rename_i htuple
      obtain rfl := Except.ok.inj h
      rw [dif_neg htuple]
      exact ⟨_, rfl, rfl⟩

theorem exclusionFor_eq_some {source : Dict Json} (h : exclusionFor py policy row source = .ok (some a)) :
    a.action = .excludeFromRouting ∧ a.resourceType = .tuple := by
  rw [exclusionFor] at h
  split at h
  · cases h
  split at h
  · cases h
  · cases h
    exact ⟨rfl, rfl⟩

theorem rowActions_eq_ok : rowActions py conv policy row = .ok proposed ↔
    ∃ exclusion lists, routingExclusion py policy row = .ok exclusion ∧
      List.Forall₂ (fun finding list => findingActions py conv policy row.tuple row.adapter finding = .ok list)
        row.findings lists ∧ proposed = exclusion.toList ++ lists.flatten := by
  rw [rowActions, Fallible.bind_eq_ok]
  refine exists_congr fun exclusion => ?_
  rw [Fallible.bind_eq_ok]
  constructor
  · rintro ⟨hexclusion, lists, hlists, h⟩
    exact ⟨lists, hexclusion, Fallible.mapM_eq_ok.mp hlists, (Except.ok.inj h).symm⟩
  · rintro ⟨lists, hexclusion, hlists, rfl⟩
    exact ⟨hexclusion, lists, Fallible.mapM_eq_ok.mpr hlists, rfl⟩

/-- What a row proposes is chosen from its candidates. -/
theorem chosen_rowActions (h : rowActions py conv policy row = .ok proposed) :
    FirstWins.Chosen RemediationAction.key proposed (Candidate py conv policy row) := by
  obtain ⟨exclusion, lists, hexclusion, hlists, rfl⟩ := rowActions_eq_ok.mp h
  refine ⟨fun a ha => ?_, fun a ha => ?_⟩
  · obtain ha | ha := List.mem_append.mp ha
    · rw [Option.mem_toList] at ha
      obtain rfl := ha
      rw [routingExclusion] at hexclusion
      split at hexclusion
      · rename_i hneeded
        exact .exclusion hneeded (namedFor_firstBlockingFinding _) hexclusion
      · cases hexclusion
    · obtain ⟨list, hlist, ha⟩ := List.mem_flatten.mp ha
      obtain ⟨finding, hfinding, hmade⟩ := OptionList.exists_of_forall₂_right hlists hlist
      exact .proposal hfinding ⟨list, hmade, ha⟩
  · cases ha with
    | exclusion needed named made =>
      rw [routingExclusion, if_pos needed] at hexclusion
      obtain ⟨exclusion', hmade, hkey⟩ := exists_exclusionFor made (firstBlockingFinding row.findings)
      obtain rfl : exclusion' = exclusion := Except.ok.inj (hmade.symm.trans hexclusion)
      obtain ⟨b, rfl, hkey⟩ := Option.map_eq_some_iff.mp hkey
      exact ⟨b, List.mem_append_left _ List.mem_cons_self, Option.some.inj hkey⟩
    | proposal mem proposed =>
      obtain ⟨proposed, hmade, ha⟩ := proposed
      obtain ⟨list, hlist, hmade'⟩ := OptionList.exists_of_forall₂_left hlists mem
      obtain rfl := Except.ok.inj (hmade.symm.trans hmade')
      exact ⟨a, List.mem_append_right _ (List.mem_flatten_of_mem hlist ha), rfl⟩

theorem SameButOrder.needsRoutingExclusion (h : SameButOrder row row') :
    row'.needsRoutingExclusion = row.needsRoutingExclusion := by
  rw [h.rest, RemediationRow.needsRoutingExclusion, RemediationRow.needsRoutingExclusion, h.perm.any_eq]

theorem SameButOrder.exclusionFor (h : SameButOrder row row') (source : Dict Json) :
    Gpucall.exclusionFor py policy row' source = Gpucall.exclusionFor py policy row source := by
  rw [h.rest]
  rfl

/-- The order of the findings does not change the candidates. -/
theorem SameButOrder.candidate (h : SameButOrder row row') (ha : Candidate py conv policy row a) :
    Candidate py conv policy row' a := by
  cases ha with
  | exclusion needed named made =>
    exact .exclusion (h.needsRoutingExclusion.trans needed) (named.perm h.perm) ((h.exclusionFor _).trans made)
  | proposal mem proposed =>
    refine .proposal (h.perm.mem_iff.mp mem) ?_
    rw [h.rest]
    exact proposed

theorem SameButOrder.refl (row : RemediationRow) : SameButOrder row row := ⟨.refl _, rfl⟩

theorem SameButOrder.symm (h : SameButOrder row row') : SameButOrder row' row := by
  refine ⟨h.perm.symm, ?_⟩
  rw [h.rest]

theorem SameButOrder.candidate_iff (h : SameButOrder row row') :
    Candidate py conv policy row' = Candidate py conv policy row :=
  funext fun _ => propext ⟨h.symm.candidate, h.candidate⟩

theorem exists_rowActions (hexclusion : row.needsRoutingExclusion = true →
      ∃ source exclusion, exclusionFor py policy row source = .ok exclusion)
    (hfindings : ∀ finding ∈ row.findings, ∃ list,
      findingActions py conv policy row.tuple row.adapter finding = .ok list) :
    ∃ proposed, rowActions py conv policy row = .ok proposed := by
  obtain ⟨lists, hlists⟩ := OptionList.exists_forall₂ hfindings
  have hmade : ∃ exclusion, routingExclusion py policy row = .ok exclusion := by
    rw [routingExclusion]
    split
    · rename_i hneeded
      obtain ⟨source, exclusion, hmade⟩ := hexclusion hneeded
      obtain ⟨exclusion', hmade', -⟩ := exists_exclusionFor hmade (firstBlockingFinding row.findings)
      exact ⟨exclusion', hmade'⟩
    · exact ⟨none, rfl⟩
  obtain ⟨exclusion, hexclusion⟩ := hmade
  exact ⟨_, rowActions_eq_ok.mpr ⟨exclusion, lists, hexclusion, hlists, rfl⟩⟩

theorem exists_findingActions (h : rowActions py conv policy row = .ok proposed) (hmem : finding ∈ row.findings) :
    ∃ list, findingActions py conv policy row.tuple row.adapter finding = .ok list := by
  obtain ⟨exclusion, lists, -, hlists, -⟩ := rowActions_eq_ok.mp h
  obtain ⟨list, -, hmade⟩ := OptionList.exists_of_forall₂_left hlists hmem
  exact ⟨list, hmade⟩

theorem SameButOrder.exists_rowActions (h : SameButOrder row row')
    (hmade : rowActions py conv policy row = .ok proposed) :
    ∃ proposed', rowActions py conv policy row' = .ok proposed' := by
  refine Gpucall.exists_rowActions (fun hneeded => ?_) fun finding hfinding => ?_
  · rw [h.needsRoutingExclusion] at hneeded
    obtain ⟨exclusion, lists, hexclusion, -, -⟩ := rowActions_eq_ok.mp hmade
    rw [routingExclusion, if_pos hneeded] at hexclusion
    exact ⟨_, exclusion, (h.exclusionFor _).trans hexclusion⟩
  · obtain ⟨list, hlist⟩ := exists_findingActions hmade (h.perm.mem_iff.mpr hfinding)
    rw [h.rest]
    exact ⟨list, hlist⟩

/-- The first finding is asked first for each of its actions: the exclusion of the row is another one. -/
theorem find?_rowActions_cons {rest : List (Dict Json)} (hmade : rowActions py conv policy row = .ok proposed)
    (hfindings : row.findings = finding :: rest) (ha : Proposes py conv policy row.tuple row.adapter finding a) :
    proposed.find? (·.key = a.key) = some a := by
  obtain ⟨exclusion, lists, hexclusion, hlists, rfl⟩ := rowActions_eq_ok.mp hmade
  rw [hfindings] at hlists
  obtain ⟨list, lists, hlist, -, rfl⟩ := List.forall₂_cons_left_iff.mp hlists
  obtain ⟨list', hlist', hmem⟩ := ha
  obtain rfl := Except.ok.inj (hlist'.symm.trans hlist)
  have hother : exclusion.toList.find? (·.key = a.key) = none := by
    refine List.find?_eq_none.mpr fun b hb hkey => ?_
    rw [Option.mem_toList] at hb
    obtain rfl := hb
    rw [routingExclusion] at hexclusion
    split at hexclusion
    · refine (Proposes.cases ⟨list', hlist', hmem⟩).not_exclusion ?_
      rw [← (exclusionFor_eq_some hexclusion).1]
      exact (congrArg Prod.fst (of_decide_eq_true hkey)).symm
    · cases hexclusion
  rw [List.find?_append, hother, Option.none_or, List.flatten_cons, List.find?_append,
    FirstWins.find?_of_unique hmem fun b hb hkey => eq_of_proposed hlist' hb hmem hkey, Option.some_or]

/-- Every candidate is proposed first in some order of the findings. -/
theorem Candidate.exists_order (h : Candidate py conv policy row a) :
    ∃ row', SameButOrder row row' ∧ ∀ proposed, rowActions py conv policy row' = .ok proposed →
      proposed.find? (·.key = a.key) = some a := by
  cases h with
  | exclusion needed named made =>
    obtain ⟨findings', hperm, hfirst⟩ := named.exists_perm
    have hsame : SameButOrder row { row with findings := findings' } := ⟨hperm, rfl⟩
    refine ⟨_, hsame, fun proposed hmade => ?_⟩
    obtain ⟨exclusion, lists, hexclusion, -, rfl⟩ := rowActions_eq_ok.mp hmade
    rw [routingExclusion, if_pos (hsame.needsRoutingExclusion.trans needed), excludeFromRoutingAction,
      hsame.exclusionFor, hfirst, made] at hexclusion
    obtain rfl := Except.ok.inj hexclusion
    exact List.find?_cons_of_pos (decide_eq_true rfl)
  | @proposal finding mem proposed =>
    obtain ⟨before, after, hsplit⟩ := List.append_of_mem mem
    have hsame : SameButOrder row { row with findings := finding :: (before ++ after) } :=
      ⟨hsplit ▸ List.perm_middle, rfl⟩
    exact ⟨_, hsame, fun all hmade => find?_rowActions_cons hmade rfl proposed⟩

end Gpucall
