import Gpucall.Catalog.ValidatorPlan

/-! The budget of `build_validator_plan`: what is selected fits in it, every claim that is due has its item, and
an item is only put off for the budget when it does not fit behind the items selected before it. -/

namespace Gpucall

variable {env : Environment} {settings : PlanSettings} {snapshot : ResourceCatalogSnapshot} {now : DateTime}
  {plan : ValidatorPlan} {raw item : ValidatorQueueItem}

/-! ## What is due -/

/-- The claim of an item, and why it has to be validated -/
def ValidatorQueueItem.asked (item : ValidatorQueueItem) : String × String × CatalogSource × String :=
  (item.resourceRef, item.workerRef, item.source, item.reason)

namespace ResourceCatalogSnapshot

variable (env settings snapshot now)

/-- A claim of an included source, with a known resource -/
def Concerns (claim : CapabilityClaim) : Prop :=
  (claim.source = .tupleCandidate → settings.includeCandidates) ∧
    ∃ resource ∈ snapshot.resources, resource.resourceRef = claim.resourceRef

instance : DecidablePred (snapshot.Concerns settings) := fun claim =>
  inferInstanceAs (Decidable ((claim.source = .tupleCandidate → settings.includeCandidates) ∧
    ∃ resource ∈ snapshot.resources, resource.resourceRef = claim.resourceRef))

/-- Why the resource of a claim has to be validated -/
def claimReason (claim : CapabilityClaim) : Option String :=
  validationReason env (snapshot.evidenceFor claim.resourceRef)
    (lookupLast (·.resourceRef) snapshot.liveStatusOverlay claim.resourceRef) now

/-- What the item of a claim has to ask for, if the claim has a reason -/
def claimAsks (claim : CapabilityClaim) : Option (String × String × CatalogSource × String) :=
  (snapshot.claimReason env now claim).map fun reason =>
    (claim.resourceRef, claim.workerRef, claim.source, reason)

/-- The items in the order in which the loop takes them -/
def orderedItems : List ValidatorQueueItem :=
  (snapshot.capabilityClaims.filterMap (snapshot.rawItem env settings now)).insertionSort
    fun a b => a.rank ≤ b.rank

variable {env settings snapshot now}

theorem find?_resource_isSome {ref : String} :
    (snapshot.resources.find? fun item => item.resourceRef = ref).isSome ↔
      ∃ resource ∈ snapshot.resources, resource.resourceRef = ref := by
  rw [List.find?_isSome]
  simp only [decide_eq_true_eq]

/-- A claim has an item when it is due, and it is the item of that claim. -/
theorem asked_rawItem (claim : CapabilityClaim) :
    (snapshot.rawItem env settings now claim).map (·.asked) =
      if snapshot.Concerns settings claim then snapshot.claimAsks env now claim else none := by
  rw [rawItem]
  split
  · next hleft =>
    rw [Bool.and_eq_true, decide_eq_true_eq, Bool.not_eq_true'] at hleft
    have hnot : ¬ snapshot.Concerns settings claim := by
      intro hconcerns
      exact absurd (hconcerns.1 hleft.1) (Bool.eq_false_iff.mp hleft.2)
    rw [if_neg hnot, Option.map_none]
  next hin =>
  rw [Bool.and_eq_true, decide_eq_true_eq, Bool.not_eq_true', not_and, Bool.not_eq_false] at hin
  cases hfind : snapshot.resources.find? fun item => item.resourceRef = claim.resourceRef with
  | none =>
    have hnot : ¬ snapshot.Concerns settings claim := by
      intro hconcerns
      have hsome := find?_resource_isSome.mpr hconcerns.2
      rw [hfind] at hsome
      contradiction
    rw [if_neg hnot]
    rfl
  | some resource =>
    rw [if_pos ⟨hin, find?_resource_isSome.mp (Option.isSome_of_eq_some hfind)⟩]
    cases hreason : snapshot.claimReason env now claim with
    | none =>
      have hnone := hreason
      rw [claimReason] at hnone
      simp [claimAsks, hreason, hnone]
    | some reason =>
      have hsome := hreason
      rw [claimReason] at hsome
      simp [claimAsks, hreason, hsome, ValidatorQueueItem.asked]

theorem asked_rawItems :
    (snapshot.capabilityClaims.filterMap (snapshot.rawItem env settings now)).map (·.asked) =
      (snapshot.capabilityClaims.filter (snapshot.Concerns settings ·)).filterMap (snapshot.claimAsks env now) := by
  rw [List.map_filterMap, List.filterMap_filter]
  refine List.filterMap_congr fun claim _ => ?_
  rw [asked_rawItem]
  simp only [decide_eq_true_eq]

/-- The items of the loop are never skipped for the budget beforehand. -/
theorem rawItem_skipReason {claim : CapabilityClaim} (h : snapshot.rawItem env settings now claim = some raw) :
    raw.skipReason ≠ some "validation_budget_exhausted" := by
  rw [rawItem] at h
  split at h
  · cases h
  · simp only [Option.bind_eq_bind, Option.bind_eq_some_iff, Option.pure_def, Option.some.injEq] at h
    obtain ⟨resource, -, reason, -, rfl⟩ := h
    simp only [structuralSkipReason]
    repeat' split
    all_goals simp

theorem mem_orderedItems :
    raw ∈ snapshot.orderedItems env settings now ↔
      ∃ claim ∈ snapshot.capabilityClaims, snapshot.rawItem env settings now claim = some raw :=
  (List.perm_insertionSort _ _).mem_iff.trans List.mem_filterMap

end ResourceCatalogSnapshot

/-! ## One round of the loop -/

/-- What one round can do -/
inductive Judged (settings : PlanSettings) (plan : ValidatorPlan) (raw : ValidatorQueueItem) :
    ValidatorPlan → Prop where
  | structural (h : raw.skipReason.isSome) :
    Judged settings plan raw { plan with skipped := plan.skipped ++ [raw] }
  | full (h : raw.skipReason = none) (hmax : settings.maxItems = some n) (hfull : n ≤ (plan.queue.length : ℤ)) :
    Judged settings plan raw
      { plan with skipped := plan.skipped ++ [{ raw with skipReason := some "max_items_exhausted" }] }
  | exhausted (h : raw.skipReason = none)
    (hover : settings.budgetUsd < plan.spent + raw.estimatedValidationCostUsd) :
    Judged settings plan raw
      { plan with skipped := plan.skipped ++ [{ raw with skipReason := some "validation_budget_exhausted" }] }
  | taken (h : raw.skipReason = none) (hroom : ∀ n ∈ settings.maxItems, (plan.queue.length : ℤ) < n)
    (hfits : plan.spent + raw.estimatedValidationCostUsd ≤ settings.budgetUsd) :
    Judged settings plan raw
      { plan with
        queue := plan.queue ++ [{ raw with selected := true }]
        spent := plan.spent + raw.estimatedValidationCostUsd }

theorem takeItem_judged (settings : PlanSettings) (plan : ValidatorPlan) (raw : ValidatorQueueItem) :
    Judged settings plan raw (takeItem settings plan raw) := by
  rw [takeItem]
  split
  · next h => exact .structural h
  next h =>
  rw [Bool.not_eq_true, Option.isSome_eq_false_iff, Option.isNone_iff_eq_none] at h
  split
  · next hfull =>
    obtain ⟨n, hmax, hle⟩ := (Option.any_eq_true _ _).mp hfull
    exact .full h hmax (of_decide_eq_true hle)
  next hroom =>
  split
  · next hover => exact .exhausted h hover
  · next hfits =>
    refine .taken h (fun n hmax => ?_) (not_lt.mp hfits)
    rw [Option.mem_def] at hmax
    rw [hmax, Option.any_some, decide_eq_true_eq] at hroom
    exact not_le.mp hroom

/-- What is spent for a queue -/
def queueCost (queue : List ValidatorQueueItem) : ℚ := (queue.map (·.estimatedValidationCostUsd)).sum

theorem queueCost_append (queue : List ValidatorQueueItem) (item : ValidatorQueueItem) :
    queueCost (queue ++ [item]) = queueCost queue + item.estimatedValidationCostUsd := by
  rw [queueCost, List.map_append, List.sum_append, List.map_singleton, List.sum_singleton, queueCost]

/-- The invariant of the loop -/
structure Kept (settings : PlanSettings) (taken : List ValidatorQueueItem) (plan : ValidatorPlan) : Prop where
  spent : plan.spent = queueCost plan.queue
  budget : plan.spent ≤ settings.budgetUsd
  count : ∀ n ∈ settings.maxItems, (plan.queue.length : ℤ) ≤ max 0 n
  queue : ∀ item ∈ plan.queue, ∃ raw ∈ taken, raw.skipReason = none ∧ item = { raw with selected := true }

theorem Kept.step (h : Kept settings taken plan) : Kept settings (taken ++ [raw]) (takeItem settings plan raw) := by
  have hqueue : ∀ item ∈ plan.queue, ∃ raw' ∈ taken ++ [raw], raw'.skipReason = none ∧
      item = { raw' with selected := true } := by
    intro item hitem
    obtain ⟨raw', hmem, hrest⟩ := h.queue item hitem
    exact ⟨raw', List.mem_append_left _ hmem, hrest⟩
  have hjudged := takeItem_judged settings plan raw
  generalize takeItem settings plan raw = next at hjudged ⊢
  cases hjudged with
  | structural | full | exhausted => exact { spent := h.spent, budget := h.budget, count := h.count, queue := hqueue }
  | taken hnone hroom hfits =>
    refine { spent := ?_, budget := hfits, count := fun n hn => ?_, queue := fun item hitem => ?_ }
    · rw [queueCost_append, h.spent]
    · have hlt := hroom n hn
      rw [List.length_append, List.length_singleton]
      push_cast
      exact le_max_of_le_right (Int.add_one_le_of_lt hlt)
    · rcases List.mem_append.mp hitem with hitem | hitem
      · exact hqueue item hitem
      · exact ⟨raw, List.mem_append_right _ (List.mem_singleton_self _), hnone, List.mem_singleton.mp hitem⟩

theorem kept_foldl (hbudget : 0 ≤ settings.budgetUsd) (items : List ValidatorQueueItem) :
    Kept settings items (items.foldl (takeItem settings) {}) := by
  induction items using List.reverseRecOn with
  | nil => exact { spent := rfl, budget := hbudget, count := fun n _ => le_max_left 0 n, queue := nofun }
  | append_singleton items raw ih =>
    rw [List.foldl_append]
    exact ih.step

theorem queue_prefix_takeItem (settings : PlanSettings) (plan : ValidatorPlan) (raw : ValidatorQueueItem) :
    plan.queue <+: (takeItem settings plan raw).queue := by
  have hjudged := takeItem_judged settings plan raw
  generalize takeItem settings plan raw = next at hjudged ⊢
  cases hjudged with
  | structural | full | exhausted => exact List.prefix_rfl
  | taken => exact List.prefix_append _ _

theorem queue_prefix_foldl (settings : PlanSettings) (items : List ValidatorQueueItem) (plan : ValidatorPlan) :
    plan.queue <+: (items.foldl (takeItem settings) plan).queue := by
  induction items generalizing plan with
  | nil => exact List.prefix_rfl
  | cons raw items ih => exact (queue_prefix_takeItem settings plan raw).trans (ih _)

/-- An item that is skipped was skipped in its round. -/
theorem mem_skipped_foldl (items : List ValidatorQueueItem)
    (h : item ∈ (items.foldl (takeItem settings) {}).skipped) :
    ∃ earlier raw later, items = earlier ++ raw :: later ∧
      item ∉ (earlier.foldl (takeItem settings) {}).skipped ∧
        item ∈ (takeItem settings (earlier.foldl (takeItem settings) {}) raw).skipped := by
  induction items using List.reverseRecOn with
  | nil => cases h
  | append_singleton items raw ih =>
    by_cases hbefore : item ∈ (items.foldl (takeItem settings) {}).skipped
    · obtain ⟨earlier, raw', later, rfl, hrest⟩ := ih hbefore
      exact ⟨earlier, raw', later ++ [raw], by simp, hrest⟩
    · rw [List.foldl_append] at h
      exact ⟨items, raw, [], rfl, hbefore, h⟩

/-- Whoever is put off for the budget did not fit behind what was selected before. -/
theorem exhausted_foldl (hbudget : 0 ≤ settings.budgetUsd) (items : List ValidatorQueueItem)
    (hraw : ∀ raw ∈ items, raw.skipReason ≠ some "validation_budget_exhausted")
    (h : item ∈ (items.foldl (takeItem settings) {}).skipped)
    (hreason : item.skipReason = some "validation_budget_exhausted") :
    ∃ earlier raw later, items = earlier ++ raw :: later ∧
      item = { raw with skipReason := some "validation_budget_exhausted" } ∧
        settings.budgetUsd <
          queueCost (earlier.foldl (takeItem settings) {}).queue + item.estimatedValidationCostUsd := by
  obtain ⟨earlier, raw, later, rfl, hbefore, hthen⟩ := mem_skipped_foldl items h
  refine ⟨earlier, raw, later, rfl, ?_⟩
  have hraw := hraw raw (by simp)
  have hkept := kept_foldl hbudget earlier
  generalize earlier.foldl (takeItem settings) {} = plan at hbefore hthen hkept
  have hlast : ∀ {last}, item ∈ plan.skipped ++ [last] → item = last := fun hmem =>
    List.mem_singleton.mp ((List.mem_append.mp hmem).resolve_left hbefore)
  have hjudged := takeItem_judged settings plan raw
  generalize takeItem settings plan raw = next at hthen hjudged
  cases hjudged with
  | structural =>
    obtain rfl := hlast hthen
    exact absurd hreason hraw
  | full =>
    obtain rfl := hlast hthen
    exact absurd (Option.some.inj hreason) (by decide)
  | exhausted _ hover =>
    obtain rfl := hlast hthen
    exact ⟨rfl, hkept.spent ▸ hover⟩
  | taken => exact absurd hthen hbefore

/-! ## The plan -/

/-- The plan stays in its budget and has one item for each claim that is due; what is selected has no other
reason to be skipped, and what is put off for the budget does not fit behind what was selected before. -/
structure PlanKeeps (env : Environment) (settings : PlanSettings) (snapshot : ResourceCatalogSnapshot)
    (now : DateTime) (plan : ValidatorPlan) : Prop where
  budget : queueCost plan.queue ≤ settings.budgetUsd
  complete :
    (plan.items.map (·.asked)).Perm
      ((snapshot.capabilityClaims.filter (snapshot.Concerns settings ·)).filterMap
        (snapshot.claimAsks env now))
  selected : ∀ item ∈ plan.queue, ∃ claim ∈ snapshot.capabilityClaims, ∃ raw,
    snapshot.rawItem env settings now claim = some raw ∧ raw.skipReason = none ∧
      item = { raw with selected := true }
  exhausted : ∀ item ∈ plan.skipped, item.skipReason = some "validation_budget_exhausted" →
    ∃ earlier raw later, snapshot.orderedItems env settings now = earlier ++ raw :: later ∧
      item = { raw with skipReason := some "validation_budget_exhausted" } ∧
        (earlier.foldl (takeItem settings) {}).queue <+: plan.queue ∧
          settings.budgetUsd <
            queueCost (earlier.foldl (takeItem settings) {}).queue + item.estimatedValidationCostUsd

/-- For every snapshot the plan keeps to its budget, and selects no more than `max_items`: none, if that is
negative. -/
theorem buildValidatorPlan_keeps (env : Environment) (settings : PlanSettings)
    (snapshot : ResourceCatalogSnapshot) (now : DateTime) (hbudget : 0 ≤ settings.budgetUsd) :
    PlanKeeps env settings snapshot now (buildValidatorPlan env settings snapshot now) ∧
      ∀ n ∈ settings.maxItems,
        ((buildValidatorPlan env settings snapshot now).queue.length : ℤ) ≤ max 0 n := by
  have hkept := kept_foldl hbudget (snapshot.orderedItems env settings now)
  refine ⟨?_, hkept.count⟩
  constructor
  · exact hkept.spent ▸ hkept.budget
  · have hperm := (buildValidatorPlan_unjudged env settings snapshot now).map (·.asked)
    rw [List.map_map, List.map_map] at hperm
    refine hperm.trans (.of_eq ?_)
    exact ResourceCatalogSnapshot.asked_rawItems
  · intro item hitem
    obtain ⟨raw, hraw, hnone, rfl⟩ := hkept.queue item hitem
    obtain ⟨claim, hclaim, hsome⟩ := ResourceCatalogSnapshot.mem_orderedItems.mp hraw
    exact ⟨claim, hclaim, raw, hsome, hnone, rfl⟩
  · intro item hitem hreason
    have hraw : ∀ raw ∈ snapshot.orderedItems env settings now,
        raw.skipReason ≠ some "validation_budget_exhausted" := by
      intro raw hraw
      obtain ⟨claim, -, hsome⟩ := ResourceCatalogSnapshot.mem_orderedItems.mp hraw
      exact ResourceCatalogSnapshot.rawItem_skipReason hsome
    obtain ⟨earlier, raw, later, hordered, hitem, hover⟩ := exhausted_foldl hbudget _ hraw hitem hreason
    refine ⟨earlier, raw, later, hordered, hitem, ?_, hover⟩
    have hprefix := queue_prefix_foldl settings (raw :: later) (earlier.foldl (takeItem settings) {})
    rwa [← List.foldl_append, ← hordered] at hprefix

/-- Two tuples without evidence, a cent each -/
def twoClaims : ResourceCatalogSnapshot :=
  let resource (name : String) : ResourceEntry :=
    { resourceRef := name, source := .activeTuple, accountRef := "modal", tupleName := name, workerBindingRef := name,
      adapter := "modal", executionSurface := "function_runtime", gpu := name, vramGb := 24, maxModelLen := 8192,
      configuredPricePerSecond := 1 / 100, liveCatalogStatus := .liveRevalidated, liveCatalogChecked := false,
      liveCatalogFindings := [], livePricePerSecond := none, validationEvidence := none }
  let worker (name : String) : WorkerContract :=
    { workerRef := name, source := .activeTuple, tupleName := name, workerBindingRef := name,
      executionSurface := "function_runtime", endpointConfigured := true }
  let price (name : String) : PricingRule :=
    { resourceRef := name, pricePerSecond := 1 / 100, configuredPriceSource := none,
      configuredPriceObservedAt := none, configuredPriceTtlSeconds := none, billingGranularitySeconds := none,
      minBillableSeconds := none }
  { capabilityClaims := [⟨"a10g", "a10g", "configured_binding"⟩, ⟨"h100", "h100", "configured_binding"⟩]
    pricingRules := [price "a10g", price "h100"]
    liveStatusOverlay := []
    validationEvidence := []
    resources := [resource "a10g", resource "h100"]
    workers := [worker "a10g", worker "h100"] }

/-- A budget for one of them -/
def oneCent (maxItems : Option ℤ) : PlanSettings :=
  { budgetUsd := 1 / 100, maxItems, strictPrice := false, round8 := id }

theorem buildValidatorPlan_keeps_oneCent :
    PlanKeeps GovernanceCompiler.modalEnvironment (oneCent none) twoClaims firstOfJanuary
        (buildValidatorPlan GovernanceCompiler.modalEnvironment (oneCent none) twoClaims firstOfJanuary) ∧
      ∀ n ∈ (oneCent none).maxItems,
        ((buildValidatorPlan GovernanceCompiler.modalEnvironment (oneCent none) twoClaims firstOfJanuary).queue.length
          : ℤ) ≤ max 0 n :=
  buildValidatorPlan_keeps _ _ _ _ (by decide +kernel)

/-- With `--max-items -1` nothing is selected, which is more than that. -/
theorem not_buildValidatorPlan_keeps_negative :
    ¬ (PlanKeeps GovernanceCompiler.modalEnvironment (oneCent (some (-1))) twoClaims firstOfJanuary
        (buildValidatorPlan GovernanceCompiler.modalEnvironment (oneCent (some (-1))) twoClaims firstOfJanuary) ∧
      ∀ n ∈ (oneCent (some (-1))).maxItems,
        ((buildValidatorPlan GovernanceCompiler.modalEnvironment (oneCent (some (-1))) twoClaims
          firstOfJanuary).queue.length : ℤ) ≤ n) := by
  rintro ⟨-, hcount⟩
  have hle := hcount (-1) rfl
  exact absurd (le_trans (Int.natCast_nonneg _) hle) (by decide)

end Gpucall
