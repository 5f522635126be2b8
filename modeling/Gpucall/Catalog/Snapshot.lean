import Gpucall.Admin.LiveValidation
import Gpucall.Routing.LivePrice

/-! `execution_catalog.py`, as far as the validation of tuples is planned from it: the rows of the catalog,
the live status and the evidence of each, and the snapshot of them at one time. Where an instant leaves the
range of `datetime` the source raises instead. The wall seconds and the attestation of an artifact are left
out, and the errors of reading them. -/

namespace Gpucall

/-! ## Rows -/

inductive CatalogSource where
  | activeTuple | tupleCandidate
  deriving DecidableEq

def CatalogSource.value : CatalogSource → String
  | .activeTuple => "active_tuple"
  | .tupleCandidate => "tuple_candidate"

/-- A tuple or a candidate, with what the catalog takes from it; `_positive_int` has been at its sizes. -/
structure CatalogRow where
  source : CatalogSource
  name : String
  /-- `worker_ref`, which only a candidate may have -/
  binding : Option String := none
  adapter : String
  accountRef : Option String := none
  executionSurface : Option String := none
  target : Option String := none
  endpoint : Option String := none
  costPerSecond : ℚ≥0
  configuredPriceSource : Option String := none
  configuredPriceObservedAt : Option String := none
  configuredPriceTtlSeconds : Option ℚ≥0 := none
  billingGranularitySeconds : Option ℚ≥0 := none
  minBillableSeconds : Option ℚ≥0 := none
  gpu : String := ""
  vramGb : ℕ+ := 1
  maxModelLen : ℕ+ := 1
  controlledRuntimeRef : Option String := none
  modelRef : Option String := none
  engineRef : Option String := none
  modes : List String := []
  inputContracts : List String := []
  outputContract : Option String := none

/-- `_active_tuple_payload` -/
def activeTuplePayload (tuple : ExecutionTupleSpec) : CatalogRow where
  source := .activeTuple
  name := tuple.name
  adapter := tuple.adapter
  accountRef := tuple.accountRef
  executionSurface := tuple.executionSurface.map (·.value)
  target := tuple.target
  endpoint := tuple.endpoint
  costPerSecond := tuple.costPerSecond
  configuredPriceSource := tuple.configuredPriceSource
  configuredPriceObservedAt := tuple.configuredPriceObservedAt
  configuredPriceTtlSeconds := tuple.configuredPriceTtlSeconds
  billingGranularitySeconds := tuple.billingGranularitySeconds
  minBillableSeconds := tuple.minBillableSeconds
  gpu := tuple.gpu
  vramGb := tuple.vramGb
  maxModelLen := tuple.maxModelLen
  controlledRuntimeRef := tuple.controlledRuntimeRef
  modelRef := tuple.modelRef
  engineRef := tuple.engineRef
  modes := tuple.modes.map (·.value)
  inputContracts := tuple.inputContracts.map (·.value)
  outputContract := tuple.outputContract

namespace CatalogRow

variable (row : CatalogRow)

def resourceRef : String := row.source.value ++ ":" ++ row.name ++ ":resource"

def workerRef : String := row.source.value ++ ":" ++ row.name ++ ":worker"

/-- `str(row.get("worker_ref") or name)` -/
def workerBindingRef : String := (row.binding.filter (· ≠ "")).getD row.name

end CatalogRow

structure CapabilityClaim where
  resourceRef : String
  workerRef : String
  claimSource : String

/-- `_capability_claim` -/
def capabilityClaim (row : CatalogRow) : CapabilityClaim where
  resourceRef := row.resourceRef
  workerRef := row.workerRef
  claimSource := if row.source = .tupleCandidate then "candidate_matrix" else "configured_binding"

structure PricingRule where
  resourceRef : String
  pricePerSecond : ℚ≥0
  configuredPriceSource : Option String
  configuredPriceObservedAt : Option String
  configuredPriceTtlSeconds : Option ℚ
  billingGranularitySeconds : Option ℚ
  minBillableSeconds : Option ℚ

/-- `_pricing_rule` -/
def pricingRule (row : CatalogRow) : PricingRule where
  resourceRef := row.resourceRef
  pricePerSecond := row.costPerSecond
  configuredPriceSource := row.configuredPriceSource.filter (· ≠ "")
  configuredPriceObservedAt := row.configuredPriceObservedAt.filter (· ≠ "")
  configuredPriceTtlSeconds := row.configuredPriceTtlSeconds.map NNRat.cast
  billingGranularitySeconds := row.billingGranularitySeconds.map NNRat.cast
  minBillableSeconds := row.minBillableSeconds.map NNRat.cast

structure WorkerContract where
  workerRef : String
  source : CatalogSource
  tupleName : String
  workerBindingRef : String
  executionSurface : String
  controlledRuntimeRef : Option String := none
  modelRef : Option String := none
  engineRef : Option String := none
  modes : List String := []
  inputContracts : List String := []
  outputContract : Option String := none
  endpointConfigured : Bool := false

/-! ## Validation evidence -/

/-- An artifact that was read, with its path. -/
structure ArtifactRow where
  data : Dict Json
  path : String

/-- What an artifact is compared with. -/
structure ArtifactExpectation where
  configHash : String
  commit : Option String

variable (py : PriceBuiltins)

/-- One round of the loop in `_tuple_validation_evidence`, with the name of the tuple. -/
def artifactRow (expected : ArtifactExpectation) (file : ArtifactFile) : Option (String × ArtifactRow) :=
  match file.root.data with
  | none => none
  | some data =>
    if !optEq py.toBuiltins (data.get? "validation_schema_version") (some (.number "1")) then none
    else if !optEq py.toBuiltins (data.get? "config_hash") (some (.str expected.configHash)) then none
    else if truthyStr expected.commit &&
        !optEq py.toBuiltins (data.get? "commit") (some (.str (expected.commit.getD ""))) then none
    else
      let tupleName := strOrEmpty py.toBuiltins (data.get? "tuple")
      if tupleName = "" then none else some (tupleName, ⟨data, file.path⟩)

/-- `grouped.setdefault(name, []).append(row)` -/
def appendRow (grouped : Dict (List ArtifactRow)) (entry : String × ArtifactRow) :
    Dict (List ArtifactRow) :=
  grouped.set entry.1 ((grouped.get? entry.1).getD [] ++ [entry.2])

structure ValidationSummary where
  artifactCount : ℕ
  passedCount : ℕ
  failedCount : ℕ
  latestPath : Option String
  latestPassed : Bool

/-- `str(item.get("ended_at") or item.get("started_at") or "")` -/
def endedText (row : ArtifactRow) : String :=
  strOrEmpty py.toBuiltins (((row.data.get? "ended_at").filter Json.truthy).or (row.data.get? "started_at"))

/-- The row that `_validation_summary` takes for the latest one. -/
def latestRow (rows : List ArtifactRow) : Option ArtifactRow :=
  (rows.insertionSort fun a b => endedText py a ≤ endedText py b).getLast?

/-- `row.get("passed") is True` -/
def ArtifactRow.passed (row : ArtifactRow) : Bool := row.data.get? "passed" matches some (.bool true)

/-- `_validation_summary` -/
def validationSummary (rows : List ArtifactRow) : ValidationSummary where
  artifactCount := rows.length
  passedCount := (rows.filter ArtifactRow.passed).length
  failedCount := rows.length - (rows.filter ArtifactRow.passed).length
  latestPath := (latestRow py rows).map (·.path)
  latestPassed := (latestRow py rows).any fun row => (row.data.get? "passed").any Json.truthy

/-- The artifacts that match, each under the name of its tuple. -/
def groupedRows (expected : ArtifactExpectation) (files : List ArtifactFile) : Dict (List ArtifactRow) :=
  (files.filterMap (artifactRow py expected)).foldl appendRow ⟨[], List.nodup_nil⟩

/-- The artifacts of one tuple that match. -/
def matchingRows (expected : ArtifactExpectation) (files : List ArtifactFile) (name : String) :
    List ArtifactRow :=
  (files.filterMap (artifactRow py expected)).filterMap fun entry =>
    if entry.1 = name then some entry.2 else none

theorem get?_foldl_appendRow (entries : List (String × ArtifactRow)) (grouped : Dict (List ArtifactRow))
    (name : String) :
    ((entries.foldl appendRow grouped).get? name).getD [] = (grouped.get? name).getD [] ++
      entries.filterMap fun entry => if entry.1 = name then some entry.2 else none := by
  induction entries generalizing grouped with
  | nil => simp
  | cons entry entries ih =>
    rw [List.foldl_cons, ih, appendRow, Dict.get?_set]
    by_cases hname : entry.1 = name
    · simp [hname]
    · simp [hname, Ne.symm hname]

theorem ne_nil_of_get?_foldl_appendRow {entries : List (String × ArtifactRow)}
    {grouped : Dict (List ArtifactRow)} (hgrouped : ∀ name, grouped.get? name ≠ some []) (name : String) :
    (entries.foldl appendRow grouped).get? name ≠ some [] := by
  induction entries generalizing grouped with
  | nil => exact hgrouped name
  | cons entry entries ih =>
    refine ih fun other => ?_
    rw [appendRow, Dict.get?_set]
    split
    · simp
    · exact hgrouped other

/-- The rows of a tuple are grouped under its name, in the order of the files. -/
theorem get?_groupedRows (expected : ArtifactExpectation) (files : List ArtifactFile) (name : String) :
    (groupedRows py expected files).get? name =
      if matchingRows py expected files name = [] then none
      else some (matchingRows py expected files name) := by
  have hrows : ((groupedRows py expected files).get? name).getD [] = matchingRows py expected files name :=
    get?_foldl_appendRow _ _ _
  have hne : (groupedRows py expected files).get? name ≠ some [] :=
    ne_nil_of_get?_foldl_appendRow (fun _ => Option.some_ne_none _ ∘ Eq.symm) name
  rw [← hrows]
  cases hget : (groupedRows py expected files).get? name with
  | none => rfl
  | some rows =>
    rw [hget] at hne
    rw [Option.getD_some, if_neg fun hrows => hne (by rw [hrows])]

/-- `_tuple_validation_evidence`. It raises where a file holds JSON that is not an object. -/
def tupleValidationEvidence (expected : ArtifactExpectation) (files : List ArtifactFile) :
    Option (Dict ValidationSummary) :=
  if files.any fun file => file.root matches .other then none
  else some ((groupedRows py expected files).filterMap fun rows => some (validationSummary py rows))

/-! ## Resources -/

inductive LiveCatalogStatus where
  | notChecked | unknown | liveRevalidated | blocked
  deriving DecidableEq

/-- `findings` of the live evidence, the dictionaries in it -/
def liveFindings (evidence : Dict Json) : List (List (String × Json)) :=
  match evidence.get? "findings" with
  | some (.arr items) => items.filterMap fun
    | .obj fields => some fields
    | _ => none
  | _ => []

/-- `float(value) >= 0`, the price if there is one -/
def nonNegativePrice : Option Json → Option PyFloat
  | some (.number text) | some (.str text) =>
    match py.float text with
    | some (.finite value) => if 0 ≤ value then some (.finite value) else none
    | some .infinite => some .infinite
    | _ => none
  | some (.bool value) => some (.finite (if value then 1 else 0))
  | _ => none

/-- `_live_price`, without its source -/
def livePrice (findings : List (List (String × Json))) : Option PyFloat :=
  findings.findSome? fun finding => nonNegativePrice py (finding.lookup "live_price_per_second")

inductive LiveStockState where
  | available | unavailable | unknown
  deriving DecidableEq

structure ResourceEntry where
  resourceRef : String
  source : CatalogSource
  accountRef : String
  tupleName : String
  workerBindingRef : String
  adapter : String
  executionSurface : String
  gpu : String
  vramGb : ℕ
  maxModelLen : ℕ
  configuredPricePerSecond : ℚ
  liveStockState : LiveStockState := .unknown
  liveCatalogStatus : LiveCatalogStatus
  liveCatalogChecked : Bool
  liveCatalogFindings : List (List (String × Json))
  livePricePerSecond : Option PyFloat
  validationEvidence : Option ValidationSummary

/-- The status of `_resource_entry`; without any live evidence nothing was checked. -/
def liveStatus (live : Option (Dict (Dict Json))) (name : String) : LiveCatalogStatus :=
  let evidence := (live.bind (·.get? name)).getD ⟨[], List.nodup_nil⟩
  let status := strOrEmpty py.toBuiltins (evidence.get? "status")
  if status = "" then if live.isNone then .notChecked else .unknown
  else if status = "not_checked" then .notChecked
  else if status = "live_revalidated" then .liveRevalidated
  else if status = "blocked" then .blocked
  else .unknown

variable (env : Environment)

/-- `_account_ref` -/
def rowAccountRef (row : CatalogRow) : String :=
  let explicit := env.strip (row.accountRef.getD "")
  if explicit ≠ "" then explicit else vendorFamilyForAdapter env row.adapter

/-- `str(row.get("execution_surface") or _surface_for_adapter(adapter) or "unknown")` -/
def rowSurface (row : CatalogRow) : String :=
  let key := normalizeAdapter env row.adapter
  let ofAdapter := (env.descriptors ((env.aliases key).getD key)).bind (·.executionSurface)
  ((row.executionSurface.filter (· ≠ "")).or (ofAdapter.map (·.value))).getD "unknown"

/-- `_live_stock` -/
def liveStock (findings : List (List (String × Json))) : LiveStockState :=
  (findings.findSome? fun finding =>
    let state := env.lower (env.strip (strOrEmpty py.toBuiltins (finding.lookup "live_stock_state")))
    if state = "available" then some .available
    else if state = "unavailable" then some .unavailable
    else none).getD .unknown

/-- `_resource_entry` -/
def resourceEntry (live : Option (Dict (Dict Json))) (evidence : Dict ValidationSummary)
    (row : CatalogRow) : ResourceEntry :=
  let liveEvidence := (live.bind (·.get? row.name)).getD ⟨[], List.nodup_nil⟩
  { resourceRef := row.resourceRef
    source := row.source
    accountRef := rowAccountRef env row
    tupleName := row.name
    workerBindingRef := row.workerBindingRef
    adapter := row.adapter
    executionSurface := rowSurface env row
    gpu := if row.gpu = "" then "unknown" else row.gpu
    vramGb := row.vramGb
    maxModelLen := row.maxModelLen
    configuredPricePerSecond := row.costPerSecond
    liveStockState := liveStock py env (liveFindings liveEvidence)
    liveCatalogStatus := liveStatus py live row.name
    liveCatalogChecked := (liveEvidence.get? "checked").any Json.truthy
    liveCatalogFindings := liveFindings liveEvidence
    livePricePerSecond := livePrice py (liveFindings liveEvidence)
    validationEvidence := evidence.get? row.name }

/-- `_worker_contract` -/
def workerContract (row : CatalogRow) : WorkerContract where
  workerRef := row.workerRef
  source := row.source
  tupleName := row.name
  workerBindingRef := row.workerBindingRef
  executionSurface := rowSurface env row
  controlledRuntimeRef := row.controlledRuntimeRef.filter (· ≠ "")
  modelRef := row.modelRef.filter (· ≠ "")
  engineRef := row.engineRef.filter (· ≠ "")
  modes := if row.modes = [] then ["sync", "async"] else row.modes
  inputContracts := row.inputContracts
  outputContract := row.outputContract.filter (· ≠ "")
  -- `has_configured_endpoint_or_target`
  endpointConfigured := row.endpoint.isSome || isConfiguredTarget env row.target

/-! ## The overlay and the evidence of a resource -/

structure LiveStatusOverlay where
  resourceRef : String
  checked : Bool
  status : LiveCatalogStatus
  pricePerSecond : Option PyFloat
  dimensions : List String
  observedAt : Option String
  nextRevalidateAfter : Option String
  ttlSeconds : ℕ

def dimensionTtl (dimension : String) : ℕ :=
  if dimension ∈ ["stock", "endpoint", "capacity", "health"] then 60
  else if dimension = "credential" then 300
  else if dimension = "price" then 3600
  else if dimension = "contract" then 86400
  else 300

/-- `_overlay_ttl_seconds` -/
def overlayTtlSeconds : List String → ℕ
  | [] => 0
  | dimension :: dimensions => dimensions.foldl (fun ttl d => min ttl (dimensionTtl d)) (dimensionTtl dimension)

/-- `isoformat()` of an instant in UTC, in microseconds -/
abbrev IsoFormat := ℤ → String

variable (iso : IsoFormat)

/-- `_live_status_overlay` at the instant `now`, with `_next_revalidate_after` of it -/
def liveStatusOverlay (now : ℤ) (resource : ResourceEntry) : LiveStatusOverlay :=
  let names := resource.liveCatalogFindings.filterMap fun finding =>
    ((finding.lookup "dimension").filter Json.truthy).map (pyStr py.toBuiltins)
  let dimensions := names.dedup.insertionSort (· ≤ ·)
  let ttlSeconds := overlayTtlSeconds dimensions
  { resourceRef := resource.resourceRef
    checked := resource.liveCatalogChecked
    status := resource.liveCatalogStatus
    pricePerSecond := resource.livePricePerSecond
    dimensions
    observedAt := if resource.liveCatalogChecked then some (iso now) else none
    nextRevalidateAfter :=
      if resource.liveCatalogChecked && ttlSeconds > 0 then some (iso (now + ttlSeconds * 1000000)) else none
    ttlSeconds }

structure ValidationEvidenceSpec where
  tupleName : String
  resourceRef : Option String := none
  workerRef : Option String := none
  artifactCount : ℕ := 0
  passedCount : ℕ := 0
  failedCount : ℕ := 0
  latestPassed : Bool := false
  expiresAt : Option String := none

/-- `timedelta(days=7)` in microseconds -/
def sevenDays : ℤ := 7 * 86400 * 1000000

/-- `_validation_evidence_row` at the instant `now`, with `_evidence_expires_at` -/
def validationEvidenceRow (now : ℤ) (resource : ResourceEntry) (summary : ValidationSummary) :
    ValidationEvidenceSpec where
  tupleName := resource.tupleName
  resourceRef := some resource.resourceRef
  workerRef := some (resource.source.value ++ ":" ++ resource.tupleName ++ ":worker")
  artifactCount := summary.artifactCount
  passedCount := summary.passedCount
  failedCount := summary.failedCount
  latestPassed := summary.latestPassed
  expiresAt := some (iso (now + sevenDays))

/-! ## The snapshot -/

structure ResourceCatalogSnapshot where
  capabilityClaims : List CapabilityClaim
  pricingRules : List PricingRule
  liveStatusOverlay : List LiveStatusOverlay
  validationEvidence : List ValidationEvidenceSpec
  resources : List ResourceEntry
  workers : List WorkerContract

/-- What the snapshot is built from: the tuples of the configuration, the candidates, the artifacts, what
they are compared with, and the live evidence. -/
structure CatalogInputs where
  tuples : List ExecutionTupleSpec
  candidates : List CatalogRow
  candidates_source : ∀ row ∈ candidates, row.source = .tupleCandidate := by decide
  expected : ArtifactExpectation
  artifacts : List ArtifactFile
  liveEvidence : Option (Dict (Dict Json)) := none

def CatalogInputs.rows (inputs : CatalogInputs) : List CatalogRow :=
  (inputs.tuples.insertionSort (·.name ≤ ·.name)).map activeTuplePayload ++ inputs.candidates

/-- `build_resource_catalog_snapshot` with a configuration directory, at the instant `now` -/
def buildResourceCatalogSnapshot (inputs : CatalogInputs) (now : ℤ) : Option ResourceCatalogSnapshot :=
  (tupleValidationEvidence py inputs.expected inputs.artifacts).map fun evidence =>
    let rows := inputs.rows
    let resources := rows.map (resourceEntry py env inputs.liveEvidence evidence)
    { capabilityClaims := rows.map capabilityClaim
      pricingRules := rows.map pricingRule
      liveStatusOverlay := resources.map (liveStatusOverlay py iso now)
      validationEvidence := resources.filterMap fun resource =>
        resource.validationEvidence.map (validationEvidenceRow iso now resource)
      resources
      workers := rows.map (workerContract env) }

end Gpucall
