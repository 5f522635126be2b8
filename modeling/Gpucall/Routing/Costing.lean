import Mathlib.Algebra.Order.Ring.NNRat
import Gpucall.Routing.Rejection
import Gpucall.Tenant.Ledger

/-! `price_freshness.py`, `costing.py` and `cost_policy.py`: what a tuple is estimated to cost for a
request, and when that estimate rules the tuple out. Prices and durations are exact. -/

namespace Gpucall

variable (env : Environment)

/-! ## Price freshness -/

/-- `configured_price_freshness`. Where `observed + timedelta(..)` leaves the range of `datetime` the
source raises instead. -/
def configuredPriceFreshness (priceSource observedAt : Option String) (ttlSeconds : Option ℚ)
    (now : DateTime) : PriceFreshness :=
  match ttlSeconds with
  | none => .unknown
  | some ttl =>
    if !truthyStr priceSource || !truthyStr observedAt then .unknown
    else
      match env.parseTime (observedAt.getD "") with
      | none => .unknown
      | some observed =>
        if now.toMicroseconds < observed.toMicroseconds + DateTime.timedeltaMicroseconds ttl then .fresh
        else .stale

def tupleConfiguredPriceFreshness (tuple : ExecutionTupleSpec) (now : DateTime) : PriceFreshness :=
  let isLocalFree := tuple.configuredPriceSource = some "local-free" ||
    tuple.executionSurface = some .localRuntime ||
    tuple.adapter ∈ ["echo", "local", "local-echo", "local-ollama", "local-openai-compatible",
      "local-dataref-openai-worker"]
  if tuple.costPerSecond = 0 then if isLocalFree then .fresh else .unknown
  else configuredPriceFreshness env tuple.configuredPriceSource tuple.configuredPriceObservedAt
    (tuple.configuredPriceTtlSeconds.map NNRat.cast) now

/-! ## Cost estimates -/

inductive BillingModel where
  | iaasVmLease | runpodServerlessManagedEndpoint | runpodServerlessFunction | functionRuntime
  | localRuntime | genericRequestRuntime
  deriving DecidableEq

def billingModel (tuple : ExecutionTupleSpec) : BillingModel :=
  let adapter := env.lower tuple.adapter
  let surface := tuple.executionSurface
  if surface = some .iaasVm || adapter = "hyperstack" then .iaasVmLease
  else if startswith adapter "runpod" && surface = some .managedEndpoint then
    .runpodServerlessManagedEndpoint
  else if startswith adapter "runpod" then .runpodServerlessFunction
  else if adapter = "modal" || surface = some .functionRuntime then .functionRuntime
  else if surface = some .localRuntime then .localRuntime
  else .genericRequestRuntime

/-- `float(n or 0)` for an optional positive integer. -/
def floatOrZero (n : Option ℕ+) : ℚ≥0 := (n.map fun n => ((n : ℕ) : ℚ≥0)).getD 0

def tokenRuntimeSeconds (tuple : ExecutionTupleSpec) (timeoutSeconds : ℕ)
    (inputTokens outputTokens : Option ℕ) : Option (ℚ≥0 × String) :=
  if inputTokens.isNone && outputTokens.isNone then none
  else
    let prefillTps := tuple.estimatedPrefillTokensPerSecond.getD 0
    let decodeTps := tuple.estimatedDecodeTokensPerSecond.getD 0
    if prefillTps = 0 && decodeTps = 0 then none
    else
      let prefillTps' := if prefillTps = 0 then decodeTps else prefillTps
      let decodeTps' := if decodeTps = 0 then prefillTps' else decodeTps
      let prefillSeconds := ((inputTokens.getD 0 : ℕ) : ℚ≥0) / prefillTps'
      let decodeSeconds := ((outputTokens.getD 0 : ℕ) : ℚ≥0) / decodeTps'
      let overheadSeconds := tuple.estimatedRuntimeOverheadSeconds.getD 0
      let multiplier :=
        if tuple.runtimeEstimateSafetyMultiplier.getD 0 = 0 then 1
        else tuple.runtimeEstimateSafetyMultiplier.getD 0
      let rawSeconds := (overheadSeconds + prefillSeconds + decodeSeconds) * multiplier
      let seconds := min rawSeconds timeoutSeconds
      some (seconds, if seconds = rawSeconds then "tuple.token_throughput_estimate"
        else "tuple.token_throughput_estimate_clamped_to_timeout")

/-- An expected runtime, clamped to the timeout, with where it comes from. -/
def clampedRuntime (source : String) (value : ℚ≥0) (timeoutSeconds : ℕ) : ℚ≥0 × String :=
  let seconds := min value timeoutSeconds
  (seconds, if seconds = value then source else source ++ "_clamped_to_timeout")

def runtimeSeconds (tuple : ExecutionTupleSpec) (recipe : Recipe) (timeoutSeconds : ℕ)
    (inputTokens outputTokens : Option ℕ) : ℚ≥0 × String :=
  match tokenRuntimeSeconds tuple timeoutSeconds inputTokens outputTokens,
      tuple.expectedRuntimeSeconds, recipe.expectedRuntimeSeconds with
  | some estimate, _, _ => estimate
  | none, some value, _ => clampedRuntime "tuple.expected_runtime_seconds" value timeoutSeconds
  | none, none, some value => clampedRuntime "recipe.expected_runtime_seconds" value timeoutSeconds
  | none, none, none => (timeoutSeconds, "timeout_seconds_fail_closed_fallback")

def idleSeconds (tuple : ExecutionTupleSpec) (model : BillingModel) : ℚ≥0 :=
  match model with
  | .functionRuntime | .runpodServerlessFunction | .runpodServerlessManagedEndpoint => 0
  | .iaasVmLease | .localRuntime | .genericRequestRuntime => tuple.scaledownWindowSeconds.getD 0

def roundedBillableSeconds (tuple : ExecutionTupleSpec) (rawSeconds : ℚ≥0) : ℚ≥0 :=
  let billable := max rawSeconds (tuple.minBillableSeconds.getD 0)
  let granularity := tuple.billingGranularitySeconds.getD 0
  if granularity = 0 then billable else (⌈billable / granularity⌉₊ : ℚ≥0) * granularity

structure CostEstimate where
  tuple : String
  providerBillingModel : BillingModel
  costScope : String
  costPerSecond : ℚ≥0
  priceFreshness : PriceFreshness
  coldStartSeconds : ℚ≥0
  timeoutSeconds : ℕ
  inputTokens : ℕ
  outputTokens : ℕ
  runtimeSeconds : ℚ≥0
  runtimeSecondsSource : String
  idleSeconds : ℚ≥0
  rawBillableSeconds : ℚ≥0
  billableSeconds : ℚ≥0
  coldStartCostUsd : ℚ≥0
  runtimeCostUsd : ℚ≥0
  idleCostUsd : ℚ≥0
  leaseCostUsd : ℚ≥0
  standingCostUsd : ℚ≥0
  endpointCostUsd : ℚ≥0
  executionCostUsd : ℚ≥0
  marginalCostUsd : ℚ≥0
  fixedCostUsd : ℚ≥0
  estimatedCostUsd : ℚ≥0
  budgetReservationUsd : ℚ≥0

def estimateTupleCost (tuple : ExecutionTupleSpec) (recipe : Recipe) (timeoutSeconds : ℕ)
    (inputTokens outputTokens : Option ℕ) (now : DateTime) : CostEstimate :=
  let model := billingModel env tuple
  let coldStart :=
    floatOrZero (tuple.expectedColdStartSeconds <|> recipe.expectedColdStartSeconds)
  let runtime := runtimeSeconds tuple recipe timeoutSeconds inputTokens outputTokens
  let idle := idleSeconds tuple model
  let rawBillable := coldStart + runtime.1 + idle
  let billable := roundedBillableSeconds tuple rawBillable
  let costPerSecond := tuple.costPerSecond
  let standing := tuple.standingCostPerSecond.getD 0 * tuple.standingCostWindowSeconds.getD 0
  let endpoint := tuple.endpointCostPerSecond.getD 0 * tuple.endpointCostWindowSeconds.getD 0
  let marginal := costPerSecond * billable
  let fixed := standing + endpoint
  { tuple := tuple.name
    providerBillingModel := model
    costScope :=
      (if model = .iaasVmLease then "request_lease_marginal" else "request_marginal") ++
        (if fixed = 0 then "" else "_with_separate_fixed_cost")
    costPerSecond := costPerSecond
    priceFreshness := tupleConfiguredPriceFreshness env tuple now
    coldStartSeconds := coldStart
    timeoutSeconds := timeoutSeconds
    inputTokens := inputTokens.getD 0
    outputTokens := outputTokens.getD 0
    runtimeSeconds := runtime.1
    runtimeSecondsSource := runtime.2
    idleSeconds := idle
    rawBillableSeconds := rawBillable
    billableSeconds := billable
    coldStartCostUsd := costPerSecond * coldStart
    runtimeCostUsd := costPerSecond * runtime.1
    idleCostUsd := costPerSecond * idle
    leaseCostUsd := if model = .iaasVmLease then marginal else 0
    standingCostUsd := standing
    endpointCostUsd := endpoint
    executionCostUsd := if model = .iaasVmLease then 0 else marginal
    marginalCostUsd := marginal
    fixedCostUsd := fixed
    estimatedCostUsd := marginal + fixed
    budgetReservationUsd := marginal }

/-- `budget_reservation_usd`: nothing is reserved for a plan without an estimate. -/
def budgetReservationUsd : Option CostEstimate → ℚ≥0
  | none => 0
  | some estimate => estimate.budgetReservationUsd

/-! ## The cost policy -/

def effectiveCostPolicy (policy : Policy) (recipe : Recipe) : CostPolicy :=
  let base := policy.costPolicy
  match recipe.costPolicy with
  | none => base
  | some override =>
    { maxEstimatedCostUsd := override.maxEstimatedCostUsd <|> base.maxEstimatedCostUsd
      maxColdStartCostUsd := override.maxColdStartCostUsd <|> base.maxColdStartCostUsd
      maxIdleCostUsd := override.maxIdleCostUsd <|> base.maxIdleCostUsd
      requireBudgetForHighCostTuple :=
        override.requireBudgetForHighCostTuple <|> base.requireBudgetForHighCostTuple
      highCostThresholdUsd := override.highCostThresholdUsd <|> base.highCostThresholdUsd
      requireFreshPriceForBudget :=
        override.requireFreshPriceForBudget <|> base.requireFreshPriceForBudget }

def PriceFreshness.value : PriceFreshness → String
  | fresh => "fresh"
  | stale => "stale"
  | unknown => "unknown"

/-- One ceiling of the cost policy. -/
def costCeilingReason (cost : ℚ≥0) (ceiling : Option ℚ≥0) (what field : String) : Option String :=
  match ceiling with
  | none => none
  | some ceiling =>
    reject (ceiling < cost)
      ("estimated " ++ what ++ " " ++ format4f cost ++ " exceeds " ++ field ++ " " ++ format4f ceiling)

def tupleCostPolicyRejectionReason (policy : Policy) (tuple : ExecutionTupleSpec) (recipe : Recipe)
    (timeoutSeconds inputTokens outputTokens : ℕ) (now : DateTime) : Option String :=
  let estimate :=
    estimateTupleCost env tuple recipe timeoutSeconds (some inputTokens) (some outputTokens) now
  let costPolicy := effectiveCostPolicy policy recipe
  let explicitBudget := costPolicy.maxEstimatedCostUsd.isSome ||
    costPolicy.maxColdStartCostUsd.isSome || costPolicy.maxIdleCostUsd.isSome
  let requireBudget := costPolicy.requireBudgetForHighCostTuple.getD true
  let threshold := costPolicy.highCostThresholdUsd.getD 5
  costCeilingReason estimate.coldStartCostUsd costPolicy.maxColdStartCostUsd "cold start cost"
      "max_cold_start_cost_usd" <|>
    costCeilingReason estimate.idleCostUsd costPolicy.maxIdleCostUsd "idle cost"
      "max_idle_cost_usd" <|>
    costCeilingReason estimate.estimatedCostUsd costPolicy.maxEstimatedCostUsd "cost"
      "max_estimated_cost_usd" <|>
    reject (requireBudget && !explicitBudget && threshold < estimate.estimatedCostUsd)
      ("estimated cost " ++ format4f estimate.estimatedCostUsd ++
        " exceeds high_cost_threshold_usd " ++ format4f threshold ++ " without explicit budget") <|>
    reject (costPolicy.requireFreshPriceForBudget.getD false && estimate.priceFreshness ≠ .fresh &&
      explicitBudget)
      ("tuple price is " ++ estimate.priceFreshness.value ++ " under strict budget policy")

end Gpucall
