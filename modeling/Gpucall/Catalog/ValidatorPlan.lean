import Gpucall.Catalog.Snapshot

/-! `build_validator_plan` of `validator_plan.py`: the tuples of a catalog snapshot that have to be validated
again, within a budget, and when old evidence is among the reasons. Prices and costs are exact. -/

namespace Gpucall

/-- The items for the queue and for what is skipped. -/
structure ValidatorQueueItem where
  resourceRef : String
  workerRef : String
  tupleName : String
  source : CatalogSource
  executionSurface : String
  accountRef : String
  reason : String
  priority : ℕ
  estimatedValidationCostUsd : ℚ
  validationBudgetUsd : ℚ
  priceFreshness : PriceFreshness
  nextRevalidateAfter : Option String
  selected : Bool := false
  skipReason : Option String

/-- The arguments of `build_validator_plan` besides the snapshot; `round8` is `round(.., 8)`. -/
structure PlanSettings where
  budgetUsd : ℚ
  maxItems : Option ℤ := none
  includeCandidates : Bool := false
  strictPrice : Bool := true
  round8 : ℚ → ℚ

variable (env : Environment)

/-- `_parse_time` of a text that is an instant at most `now` -/
def dueAt (now : DateTime) (text : Option String) : Bool :=
  ((text.filter (· ≠ "")).bind env.parseTime).any fun time => time.toMicroseconds ≤ now.toMicroseconds

/-- `_validation_reason` -/
def validationReason (validation : Option ValidationEvidenceSpec) (overlay : Option LiveStatusOverlay)
    (now : DateTime) : Option String :=
  match validation with
  | none => some "missing_validation_evidence"
  | some validation =>
    if !validation.latestPassed then some "latest_validation_failed"
    else if dueAt env now validation.expiresAt then some "validation_evidence_expired"
    else
      match overlay with
      | none => none
      | some overlay =>
        if overlay.status ∈ [.unknown, .notChecked] then some "live_status_unknown"
        else if dueAt env now overlay.nextRevalidateAfter then some "live_status_ttl_expired"
        else none

/-- `validator_price_freshness` -/
def validatorPriceFreshness (price : Option PricingRule) (overlay : Option LiveStatusOverlay)
    (now : DateTime) : PriceFreshness :=
  match price with
  | none => .unknown
  | some price =>
    if price.pricePerSecond = 0 && price.configuredPriceSource = some "local-free" then .fresh
    else
      let nextRevalidate := overlay.bind fun overlay =>
        (overlay.nextRevalidateAfter.filter (· ≠ "")).bind env.parseTime
      match overlay.bind (·.pricePerSecond), nextRevalidate with
      | some _, some time => if now.toMicroseconds < time.toMicroseconds then .fresh else .stale
      | _, _ =>
        if price.pricePerSecond = 0 then .unknown
        else configuredPriceFreshness env price.configuredPriceSource price.configuredPriceObservedAt
          price.configuredPriceTtlSeconds now

/-- `_estimated_validation_cost` -/
def estimatedValidationCost (round8 : ℚ → ℚ) : Option PricingRule → ℚ
  | none => 0
  | some price =>
    let seconds : ℚ := ((price.minBillableSeconds.filter (· ≠ 0)).or
      (price.billingGranularitySeconds.filter (· ≠ 0))).getD 1
    round8 (price.pricePerSecond * max 1 seconds)

/-- `_priority` -/
def validationPriority (reason : String) (source : CatalogSource) : ℕ :=
  let base :=
    if reason = "latest_validation_failed" then 10
    else if reason = "validation_evidence_expired" then 20
    else if reason = "missing_validation_evidence" then 30
    else if reason = "live_status_ttl_expired" then 40
    else if reason = "live_status_unknown" then 50
    else 100
  base + if source = .tupleCandidate then 100 else 0

/-- `_structural_skip_reason` -/
def structuralSkipReason (resource : ResourceEntry) (worker : Option WorkerContract)
    (overlay : Option LiveStatusOverlay) (priceFreshness : PriceFreshness) (strictPrice : Bool) :
    Option String :=
  match worker with
  | none => some "missing_worker_contract"
  | some worker =>
    if strictPrice && priceFreshness ≠ .fresh then some "price_not_fresh"
    else if (overlay.map (·.status)) = some .blocked then some "live_status_blocked"
    else if resource.source = .tupleCandidate && !worker.endpointConfigured then
      some "candidate_missing_endpoint_or_target"
    else none

/-! ## The plan -/

/-- `{key(item): item for item in items}`, looked up -/
def lookupLast (key : α → String) (items : List α) (name : String) : Option α :=
  items.reverse.find? fun item => key item = name

theorem lookupLast_eq_some {key : α → String} {items : List α}
    (h : lookupLast key items name = some item) : item ∈ items ∧ key item = name :=
  ⟨List.mem_reverse.mp (List.mem_of_find?_eq_some h), by simpa using List.find?_some h⟩

theorem lookupLast_isSome {key : α → String} {items : List α} :
    (lookupLast key items name).isSome ↔ ∃ item ∈ items, key item = name := by
  rw [lookupLast, List.find?_isSome]
  simp

/-- `source` in the loop -/
def CapabilityClaim.source (claim : CapabilityClaim) : CatalogSource :=
  if claim.claimSource = "candidate_matrix" then .tupleCandidate else .activeTuple

namespace ResourceCatalogSnapshot

variable (snapshot : ResourceCatalogSnapshot)

/-- `evidence.get(resource_ref)`; evidence without a reference is not in the dictionary. -/
def evidenceFor (resourceRef : String) : Option ValidationEvidenceSpec :=
  lookupLast (·.resourceRef.getD "") (snapshot.validationEvidence.filter fun item => truthyStr item.resourceRef)
    resourceRef

theorem evidenceFor_eq_some {snapshot : ResourceCatalogSnapshot} (h : snapshot.evidenceFor ref = some item) :
    item ∈ snapshot.validationEvidence ∧ item.resourceRef = some ref := by
  obtain ⟨hmem, href⟩ := lookupLast_eq_some h
  obtain ⟨hmem, htruthy⟩ := List.mem_filter.mp hmem
  refine ⟨hmem, ?_⟩
  cases hitem : item.resourceRef with
  | none =>
    rw [hitem] at htruthy
    contradiction
  | some text =>
    rw [hitem] at href
    exact congrArg some href

theorem evidenceFor_isSome {snapshot : ResourceCatalogSnapshot} (hmem : item ∈ snapshot.validationEvidence)
    (href : item.resourceRef = some ref) (hne : ref ≠ "") : (snapshot.evidenceFor ref).isSome := by
  refine lookupLast_isSome.mpr ⟨item, List.mem_filter.mpr ⟨hmem, ?_⟩, ?_⟩
  · rw [href]
    exact decide_eq_true hne
  · rw [href, Option.getD_some]

/-- One claim of the loop: its item, if the loop does not `continue`. -/
def rawItem (settings : PlanSettings) (now : DateTime) (claim : CapabilityClaim) :
    Option ValidatorQueueItem :=
  if claim.source = .tupleCandidate && !settings.includeCandidates then none
  else do
    let resource ← snapshot.resources.find? fun item => item.resourceRef = claim.resourceRef
    let overlay := lookupLast (·.resourceRef) snapshot.liveStatusOverlay claim.resourceRef
    let validation := snapshot.evidenceFor claim.resourceRef
    let reason ← validationReason env validation overlay now
    let price := lookupLast (·.resourceRef) snapshot.pricingRules claim.resourceRef
    let priceFreshness := validatorPriceFreshness env price overlay now
    let worker := lookupLast (·.workerRef) snapshot.workers claim.workerRef
    return {
      resourceRef := claim.resourceRef
      workerRef := claim.workerRef
      tupleName := resource.tupleName
      source := claim.source
      executionSurface := resource.executionSurface
      accountRef := resource.accountRef
      reason
      priority := validationPriority reason claim.source
      estimatedValidationCostUsd := estimatedValidationCost settings.round8 price
      validationBudgetUsd := settings.budgetUsd
      priceFreshness
      nextRevalidateAfter := overlay.bind (·.nextRevalidateAfter)
      skipReason := structuralSkipReason resource worker overlay priceFreshness settings.strictPrice }

end ResourceCatalogSnapshot

/-- The order in which the items are taken -/
def ValidatorQueueItem.rank (item : ValidatorQueueItem) : Bool ×ₗ ℕ ×ₗ ℚ ×ₗ String :=
  toLex (item.skipReason.isSome, toLex (item.priority,
    toLex (item.estimatedValidationCostUsd, item.tupleName)))

structure ValidatorPlan where
  queue : List ValidatorQueueItem := []
  skipped : List ValidatorQueueItem := []
  spent : ℚ := 0

/-- One item of the ordered loop -/
def takeItem (settings : PlanSettings) (plan : ValidatorPlan) (item : ValidatorQueueItem) : ValidatorPlan :=
  if item.skipReason.isSome then { plan with skipped := plan.skipped ++ [item] }
  else if settings.maxItems.any (· ≤ (plan.queue.length : ℤ)) then
    { plan with skipped := plan.skipped ++ [{ item with skipReason := some "max_items_exhausted" }] }
  else if settings.budgetUsd < plan.spent + item.estimatedValidationCostUsd then
    { plan with
      skipped := plan.skipped ++ [{ item with skipReason := some "validation_budget_exhausted" }] }
  else
    { plan with
      queue := plan.queue ++ [{ item with selected := true }]
      spent := plan.spent + item.estimatedValidationCostUsd }

/-- `build_validator_plan` -/
def buildValidatorPlan (settings : PlanSettings) (snapshot : ResourceCatalogSnapshot) (now : DateTime) :
    ValidatorPlan :=
  let rawItems := snapshot.capabilityClaims.filterMap (snapshot.rawItem env settings now)
  (rawItems.insertionSort fun a b => a.rank ≤ b.rank).foldl (takeItem settings) {}

/-! ## The plan has every item -/

/-- An item before the loop decides about it -/
def ValidatorQueueItem.unjudged (item : ValidatorQueueItem) : ValidatorQueueItem :=
  { item with selected := false, skipReason := none }

/-- What an item asks for; the loop only decides whether it is selected. -/
def ValidatorQueueItem.work (item : ValidatorQueueItem) : String × String × CatalogSource × String :=
  (item.resourceRef, item.tupleName, item.source, item.reason)

def ValidatorPlan.items (plan : ValidatorPlan) : List ValidatorQueueItem := plan.queue ++ plan.skipped

theorem takeItem_unjudged (settings : PlanSettings) (plan : ValidatorPlan) (item : ValidatorQueueItem) :
    ((takeItem settings plan item).items.map (·.unjudged)).Perm
      (plan.items.map (·.unjudged) ++ [item.unjudged]) := by
  have hqueue (queue skipped : List ValidatorQueueItem) (taken : ValidatorQueueItem) :
      (queue ++ [taken] ++ skipped).Perm (queue ++ skipped ++ [taken]) := by
    rw [List.append_assoc, List.append_assoc]
    exact List.perm_append_comm.append_left queue
  rw [takeItem]
  split
  · simp [ValidatorPlan.items]
  split
  · simp [ValidatorPlan.items, ValidatorQueueItem.unjudged]
  split
  · simp [ValidatorPlan.items, ValidatorQueueItem.unjudged]
  · refine ((hqueue _ _ _).map _).trans ?_
    simp [ValidatorPlan.items, ValidatorQueueItem.unjudged]

theorem foldl_takeItem_unjudged (settings : PlanSettings) (items : List ValidatorQueueItem)
    (plan : ValidatorPlan) :
    ((items.foldl (takeItem settings) plan).items.map (·.unjudged)).Perm
      (plan.items.map (·.unjudged) ++ items.map (·.unjudged)) := by
  induction items generalizing plan with
  | nil => simp
  | cons item items ih =>
    refine (ih _).trans (((takeItem_unjudged settings plan item).append_right _).trans ?_)
    rw [List.append_assoc, List.map_cons, List.singleton_append]

/-- The plan neither drops an item nor repeats one: it queues or skips each. -/
theorem buildValidatorPlan_unjudged (settings : PlanSettings) (snapshot : ResourceCatalogSnapshot)
    (now : DateTime) :
    ((buildValidatorPlan env settings snapshot now).items.map (·.unjudged)).Perm
      ((snapshot.capabilityClaims.filterMap (snapshot.rawItem env settings now)).map (·.unjudged)) := by
  refine (foldl_takeItem_unjudged settings _ _).trans ?_
  exact (List.perm_insertionSort _ _).map _

theorem buildValidatorPlan_work (settings : PlanSettings) (snapshot : ResourceCatalogSnapshot)
    (now : DateTime) :
    ((buildValidatorPlan env settings snapshot now).items.map (·.work)).Perm
      ((snapshot.capabilityClaims.filterMap (snapshot.rawItem env settings now)).map (·.work)) := by
  have hperm := (buildValidatorPlan_unjudged env settings snapshot now).map (·.work)
  rwa [List.map_map, List.map_map] at hperm

end Gpucall
