import Mathlib.Data.NNRat.Floor
import Gpucall.Routing.FailClosed

/-! How the estimate and its refusals move: what a tuple is billed grows with the tokens, the
timeout and the price, and a ceiling of the cost policy that is set or lowered refuses more. -/

namespace Gpucall

variable {env : Environment}

/-! ## Rounding -/

section Rounding
variable {tuple : ExecutionTupleSpec} {seconds granularity : ℚ≥0}

theorem le_ceil_mul (hg : granularity ≠ 0) :
    seconds ≤ (⌈seconds / granularity⌉₊ : ℚ≥0) * granularity :=
  (div_le_iff₀ (pos_iff_ne_zero.mpr hg)).mp (Nat.le_ceil _)

theorem ceil_mul_lt (hg : granularity ≠ 0) :
    (⌈seconds / granularity⌉₊ : ℚ≥0) * granularity < seconds + granularity := by
  have hpos : 0 < granularity := pos_iff_ne_zero.mpr hg
  calc (⌈seconds / granularity⌉₊ : ℚ≥0) * granularity
      < (seconds / granularity + 1) * granularity := by
        gcongr
        exact Nat.ceil_lt_add_one zero_le
    _ = seconds + granularity := by rw [add_mul, div_mul_cancel₀ _ hg, one_mul]

theorem le_roundedBillableSeconds :
    max seconds (tuple.minBillableSeconds.getD 0) ≤ roundedBillableSeconds tuple seconds := by
  simp only [roundedBillableSeconds]
  split
  · exact le_rfl
  · exact le_ceil_mul ‹_›

theorem roundedBillableSeconds_of_granularity
    (h : granularity ∈ tuple.billingGranularitySeconds) (hg : granularity ≠ 0) :
    roundedBillableSeconds tuple seconds <
        max seconds (tuple.minBillableSeconds.getD 0) + granularity ∧
      ∃ n : ℕ, roundedBillableSeconds tuple seconds = n * granularity := by
  have hget : tuple.billingGranularitySeconds.getD 0 = granularity := by
    rw [Option.mem_def.mp h, Option.getD_some]
  simp only [roundedBillableSeconds, hget, if_neg hg]
  exact ⟨ceil_mul_lt hg, _, rfl⟩

theorem roundedBillableSeconds_of_zero (h : tuple.billingGranularitySeconds.getD 0 = 0) :
    roundedBillableSeconds tuple seconds = max seconds (tuple.minBillableSeconds.getD 0) := by
  simp only [roundedBillableSeconds, if_pos h]

theorem roundedBillableSeconds_mono : Monotone (roundedBillableSeconds tuple) := by
  intro seconds seconds' h
  simp only [roundedBillableSeconds]
  split
  · exact max_le_max_right _ h
  · gcongr

end Rounding

/-! ## Division -/

/-- `/` on floats, which raises `ZeroDivisionError`. -/
def floatDiv (a b : ℚ≥0) : Option ℚ≥0 := if b = 0 then none else some (a / b)

theorem floatDiv_of_ne_zero {a b : ℚ≥0} (h : b ≠ 0) : floatDiv a b = some (a / b) := if_neg h

/-- `_token_runtime_seconds` with its divisions as the source makes them. -/
def tokenRuntimeSecondsDividing (tuple : ExecutionTupleSpec) (timeoutSeconds : ℕ)
    (inputTokens outputTokens : Option ℕ) : Option (Option (ℚ≥0 × String)) :=
  if inputTokens.isNone && outputTokens.isNone then some none
  else
    let prefillTps := tuple.estimatedPrefillTokensPerSecond.getD 0
    let decodeTps := tuple.estimatedDecodeTokensPerSecond.getD 0
    if prefillTps = 0 && decodeTps = 0 then some none
    else
      let prefillTps' := if prefillTps = 0 then decodeTps else prefillTps
      let decodeTps' := if decodeTps = 0 then prefillTps' else decodeTps
      (floatDiv ((inputTokens.getD 0 : ℕ) : ℚ≥0) prefillTps').bind fun prefillSeconds =>
      (floatDiv ((outputTokens.getD 0 : ℕ) : ℚ≥0) decodeTps').bind fun decodeSeconds =>
      let overheadSeconds := tuple.estimatedRuntimeOverheadSeconds.getD 0
      let multiplier :=
        if tuple.runtimeEstimateSafetyMultiplier.getD 0 = 0 then 1
        else tuple.runtimeEstimateSafetyMultiplier.getD 0
      let rawSeconds := (overheadSeconds + prefillSeconds + decodeSeconds) * multiplier
      let seconds := min rawSeconds timeoutSeconds
      some (some (seconds, if seconds = rawSeconds then "tuple.token_throughput_estimate"
        else "tuple.token_throughput_estimate_clamped_to_timeout"))

/-- `_rounded_billable_seconds` with its division as the source makes it. -/
def roundedBillableSecondsDividing (tuple : ExecutionTupleSpec) (rawSeconds : ℚ≥0) : Option ℚ≥0 :=
  let billable := max rawSeconds (tuple.minBillableSeconds.getD 0)
  let granularity := tuple.billingGranularitySeconds.getD 0
  if granularity = 0 then some billable
  else (floatDiv billable granularity).map fun n => (⌈n⌉₊ : ℚ≥0) * granularity

theorem tokenRuntimeSecondsDividing_eq (tuple : ExecutionTupleSpec) (timeoutSeconds : ℕ)
    (inputTokens outputTokens : Option ℕ) :
    tokenRuntimeSecondsDividing tuple timeoutSeconds inputTokens outputTokens =
      some (tokenRuntimeSeconds tuple timeoutSeconds inputTokens outputTokens) := by
  simp only [tokenRuntimeSecondsDividing, tokenRuntimeSeconds]
  split
  · rfl
  · split
    · rfl
    · rename_i htps
      simp only [Bool.and_eq_true, decide_eq_true_eq, not_and] at htps
      -- each throughput falls back to the other, and they are not both zero
      rw [floatDiv_of_ne_zero, floatDiv_of_ne_zero]
      · rfl
      · split
        · split
          · exact htps ‹_›
          · assumption
        · assumption
      · split
        · exact htps ‹_›
        · assumption

theorem roundedBillableSecondsDividing_eq (tuple : ExecutionTupleSpec) (seconds : ℚ≥0) :
    roundedBillableSecondsDividing tuple seconds = some (roundedBillableSeconds tuple seconds) := by
  simp only [roundedBillableSecondsDividing, roundedBillableSeconds]
  split
  · rfl
  · rw [floatDiv_of_ne_zero ‹_›, Option.map_some]

/-! ## The runtime -/

section Runtime
variable {tuple : ExecutionTupleSpec} {recipe : Recipe} {timeoutSeconds : ℕ}
  {inputTokens outputTokens : Option ℕ}

/-- What the throughputs of a tuple make of the token counts, before the timeout clamps it. -/
def throughputSeconds (tuple : ExecutionTupleSpec) (inputTokens outputTokens : Option ℕ) : ℚ≥0 :=
  let prefillTps := tuple.estimatedPrefillTokensPerSecond.getD 0
  let decodeTps := tuple.estimatedDecodeTokensPerSecond.getD 0
  let prefillTps' := if prefillTps = 0 then decodeTps else prefillTps
  let decodeTps' := if decodeTps = 0 then prefillTps' else decodeTps
  (tuple.estimatedRuntimeOverheadSeconds.getD 0 + (inputTokens.getD 0 : ℕ) / prefillTps' +
      (outputTokens.getD 0 : ℕ) / decodeTps') *
    (if tuple.runtimeEstimateSafetyMultiplier.getD 0 = 0 then 1
      else tuple.runtimeEstimateSafetyMultiplier.getD 0)

theorem throughputSeconds_mono {inputTokens' outputTokens' : Option ℕ}
    (hi : inputTokens.getD 0 ≤ inputTokens'.getD 0)
    (ho : outputTokens.getD 0 ≤ outputTokens'.getD 0) :
    throughputSeconds tuple inputTokens outputTokens ≤
      throughputSeconds tuple inputTokens' outputTokens' := by
  simp only [throughputSeconds]
  gcongr

/-- The runtime the estimate expects, before the timeout clamps it. -/
def unclampedRuntime (tuple : ExecutionTupleSpec) (recipe : Recipe)
    (inputTokens outputTokens : Option ℕ) : Option ℚ≥0 :=
  if (inputTokens.isNone && outputTokens.isNone) ||
      (tuple.estimatedPrefillTokensPerSecond.getD 0 = 0 &&
        tuple.estimatedDecodeTokensPerSecond.getD 0 = 0) then
    tuple.expectedRuntimeSeconds <|> recipe.expectedRuntimeSeconds
  else some (throughputSeconds tuple inputTokens outputTokens)

/-- Every source of the runtime is clamped to the timeout, and the timeout itself is the last. -/
theorem runtimeSeconds_fst :
    (runtimeSeconds tuple recipe timeoutSeconds inputTokens outputTokens).1 =
      match unclampedRuntime tuple recipe inputTokens outputTokens with
      | none => (timeoutSeconds : ℚ≥0)
      | some seconds => min seconds timeoutSeconds := by
  simp only [runtimeSeconds, tokenRuntimeSeconds, unclampedRuntime]
  by_cases hcounts : (inputTokens.isNone && outputTokens.isNone) = true
  · simp only [hcounts, Bool.true_or, if_true]
    cases tuple.expectedRuntimeSeconds <;> cases recipe.expectedRuntimeSeconds <;> rfl
  · by_cases htps : (tuple.estimatedPrefillTokensPerSecond.getD 0 = 0 &&
        tuple.estimatedDecodeTokensPerSecond.getD 0 = 0) = true
    · simp only [if_neg hcounts, htps, Bool.or_true, if_true]
      cases tuple.expectedRuntimeSeconds <;> cases recipe.expectedRuntimeSeconds <;> rfl
    · simp only [if_neg hcounts, if_neg htps, Bool.not_eq_true] at hcounts htps ⊢
      simp only [hcounts, htps, Bool.or_false, Bool.false_eq_true, if_false]
      rfl

theorem runtimeSeconds_le :
    (runtimeSeconds tuple recipe timeoutSeconds inputTokens outputTokens).1 ≤ timeoutSeconds := by
  rw [runtimeSeconds_fst]
  split
  · exact le_rfl
  · exact min_le_right ..

theorem runtimeSeconds_mono_timeout {timeoutSeconds' : ℕ} (h : timeoutSeconds ≤ timeoutSeconds') :
    (runtimeSeconds tuple recipe timeoutSeconds inputTokens outputTokens).1 ≤
      (runtimeSeconds tuple recipe timeoutSeconds' inputTokens outputTokens).1 := by
  have hcast : (timeoutSeconds : ℚ≥0) ≤ timeoutSeconds' := by exact_mod_cast h
  rw [runtimeSeconds_fst, runtimeSeconds_fst]
  split
  · exact hcast
  · exact min_le_min_left _ hcast

theorem runtimeSeconds_mono_tokens {inputTokens' outputTokens' : Option ℕ}
    (hknown : (inputTokens.isNone && outputTokens.isNone) =
      (inputTokens'.isNone && outputTokens'.isNone))
    (hi : inputTokens.getD 0 ≤ inputTokens'.getD 0)
    (ho : outputTokens.getD 0 ≤ outputTokens'.getD 0) :
    (runtimeSeconds tuple recipe timeoutSeconds inputTokens outputTokens).1 ≤
      (runtimeSeconds tuple recipe timeoutSeconds inputTokens' outputTokens').1 := by
  rw [runtimeSeconds_fst, runtimeSeconds_fst]
  simp only [unclampedRuntime, hknown]
  by_cases h : ((inputTokens'.isNone && outputTokens'.isNone) ||
      (tuple.estimatedPrefillTokensPerSecond.getD 0 = 0 &&
        tuple.estimatedDecodeTokensPerSecond.getD 0 = 0)) = true
  · simp only [if_pos h]
    exact le_rfl
  · simp only [if_neg h]
    exact min_le_min_right _ (throughputSeconds_mono hi ho)

end Runtime

/-! ## The estimate -/

/-- What an estimate keeps between its parts. -/
structure CostEstimate.Bounded (estimate : CostEstimate) (tuple : ExecutionTupleSpec) : Prop where
  raw_le : estimate.rawBillableSeconds ≤ estimate.billableSeconds
  min_le : ∀ seconds ∈ tuple.minBillableSeconds, seconds ≤ estimate.billableSeconds
  granularity : ∀ granularity ∈ tuple.billingGranularitySeconds, granularity ≠ 0 →
    estimate.billableSeconds <
        max estimate.rawBillableSeconds (tuple.minBillableSeconds.getD 0) + granularity ∧
      ∃ n : ℕ, estimate.billableSeconds = n * granularity
  ungranular : tuple.billingGranularitySeconds.getD 0 = 0 →
    estimate.billableSeconds = max estimate.rawBillableSeconds (tuple.minBillableSeconds.getD 0)
  runtime_le : estimate.runtimeSeconds ≤ estimate.timeoutSeconds
  reservation_le : estimate.budgetReservationUsd ≤ estimate.estimatedCostUsd
  cost_le : estimate.costPerSecond * (estimate.coldStartSeconds + estimate.runtimeSeconds) ≤
    estimate.budgetReservationUsd
  cost_nonneg : 0 ≤ estimate.costPerSecond * (estimate.coldStartSeconds + estimate.runtimeSeconds)

section Estimate
variable (tuple : ExecutionTupleSpec) (recipe : Recipe) (timeoutSeconds : ℕ)
  (inputTokens outputTokens : Option ℕ) (now : DateTime)

theorem bounded_estimateTupleCost :
    (estimateTupleCost env tuple recipe timeoutSeconds inputTokens outputTokens now).Bounded
      tuple where
  raw_le := (le_max_left ..).trans le_roundedBillableSeconds
  min_le seconds h := by
    refine le_trans ?_ le_roundedBillableSeconds
    rw [Option.mem_def.mp h, Option.getD_some]
    exact le_max_right ..
  granularity _ h hg := roundedBillableSeconds_of_granularity h hg
  ungranular := roundedBillableSeconds_of_zero
  runtime_le := runtimeSeconds_le
  reservation_le := le_self_add
  cost_le := by
    refine mul_le_mul_right ?_ _
    calc _ ≤ _ := le_self_add
      _ ≤ _ := (le_max_left ..).trans le_roundedBillableSeconds
  cost_nonneg := zero_le

variable {tuple recipe timeoutSeconds inputTokens outputTokens now}

/-- The reservation follows the runtime. -/
theorem budgetReservationUsd_le_of_runtime {timeoutSeconds' : ℕ}
    {inputTokens' outputTokens' : Option ℕ}
    (h : (runtimeSeconds tuple recipe timeoutSeconds inputTokens outputTokens).1 ≤
      (runtimeSeconds tuple recipe timeoutSeconds' inputTokens' outputTokens').1) :
    (estimateTupleCost env tuple recipe timeoutSeconds inputTokens outputTokens
        now).budgetReservationUsd ≤
      (estimateTupleCost env tuple recipe timeoutSeconds' inputTokens' outputTokens'
        now).budgetReservationUsd := by
  refine mul_le_mul_right (roundedBillableSeconds_mono ?_) _
  gcongr

theorem budgetReservationUsd_le_of_costPerSecond {costPerSecond : ℚ≥0}
    (h : tuple.costPerSecond ≤ costPerSecond) :
    (estimateTupleCost env tuple recipe timeoutSeconds inputTokens outputTokens
        now).budgetReservationUsd ≤
      (estimateTupleCost env { tuple with costPerSecond } recipe timeoutSeconds inputTokens
        outputTokens now).budgetReservationUsd :=
  mul_le_mul_left h _

end Estimate

/-- The estimate divides by no zero, its parts keep their bounds, and what it reserves grows with
either token count, the timeout and the price; a count left out beside one that is given is zero. -/
theorem estimateTupleCost_bounded_monotone (env : Environment) (tuple : ExecutionTupleSpec)
    (recipe : Recipe) (timeoutSeconds : ℕ) (inputTokens outputTokens : Option ℕ) (now : DateTime) :
    let reservation tuple timeoutSeconds inputTokens outputTokens :=
      (estimateTupleCost env tuple recipe timeoutSeconds inputTokens outputTokens
        now).budgetReservationUsd
    tokenRuntimeSecondsDividing tuple timeoutSeconds inputTokens outputTokens =
        some (tokenRuntimeSeconds tuple timeoutSeconds inputTokens outputTokens) ∧
      (∀ seconds, roundedBillableSecondsDividing tuple seconds =
        some (roundedBillableSeconds tuple seconds)) ∧
      (estimateTupleCost env tuple recipe timeoutSeconds inputTokens outputTokens now).Bounded
        tuple ∧
      (∀ n n' : ℕ, n ≤ n' → reservation tuple timeoutSeconds (some n) outputTokens ≤
        reservation tuple timeoutSeconds (some n') outputTokens) ∧
      (∀ n n' : ℕ, n ≤ n' → reservation tuple timeoutSeconds inputTokens (some n) ≤
        reservation tuple timeoutSeconds inputTokens (some n')) ∧
      (∀ n : ℕ, reservation tuple timeoutSeconds none (some n) =
          reservation tuple timeoutSeconds (some 0) (some n) ∧
        reservation tuple timeoutSeconds (some n) none =
          reservation tuple timeoutSeconds (some n) (some 0)) ∧
      (∀ timeoutSeconds', timeoutSeconds ≤ timeoutSeconds' →
        reservation tuple timeoutSeconds inputTokens outputTokens ≤
          reservation tuple timeoutSeconds' inputTokens outputTokens) ∧
      ∀ costPerSecond, tuple.costPerSecond ≤ costPerSecond →
        reservation tuple timeoutSeconds inputTokens outputTokens ≤
          reservation { tuple with costPerSecond } timeoutSeconds inputTokens outputTokens := by
  refine ⟨tokenRuntimeSecondsDividing_eq .., roundedBillableSecondsDividing_eq tuple,
    bounded_estimateTupleCost .., fun n n' h => ?_, fun n n' h => ?_, fun n => ⟨?_, ?_⟩,
    fun timeoutSeconds' h => ?_, fun costPerSecond h => ?_⟩
  · exact budgetReservationUsd_le_of_runtime (runtimeSeconds_mono_tokens rfl h le_rfl)
  · refine budgetReservationUsd_le_of_runtime (runtimeSeconds_mono_tokens ?_ le_rfl h)
    simp only [Option.isNone_some, Bool.and_false]
  · exact le_antisymm
      (budgetReservationUsd_le_of_runtime (runtimeSeconds_mono_tokens rfl le_rfl le_rfl))
      (budgetReservationUsd_le_of_runtime (runtimeSeconds_mono_tokens rfl le_rfl le_rfl))
  · exact le_antisymm
      (budgetReservationUsd_le_of_runtime (runtimeSeconds_mono_tokens rfl le_rfl le_rfl))
      (budgetReservationUsd_le_of_runtime (runtimeSeconds_mono_tokens rfl le_rfl le_rfl))
  · exact budgetReservationUsd_le_of_runtime (runtimeSeconds_mono_timeout h)
  · exact budgetReservationUsd_le_of_costPerSecond h

/-- A granularity that is set to zero is no granularity. -/
theorem zero_granularity_bounds_nothing :
    ¬ ∀ (env : Environment) (tuple : ExecutionTupleSpec) (recipe : Recipe) (timeoutSeconds : ℕ)
      (inputTokens outputTokens : Option ℕ) (now : DateTime),
      let estimate := estimateTupleCost env tuple recipe timeoutSeconds inputTokens outputTokens now
      ∀ granularity ∈ tuple.billingGranularitySeconds,
        estimate.billableSeconds <
          max estimate.rawBillableSeconds (tuple.minBillableSeconds.getD 0) + granularity := by
  intro h
  have hzero := h GovernanceCompiler.modalEnvironment
    { GovernanceCompiler.modalTuple "modal-a10g" 24 (1 / 1000) with
      billingGranularitySeconds := some 0 }
    GovernanceCompiler.textRecipe 60 none none GovernanceCompiler.noon.now 0 rfl
  revert hzero
  decide +kernel

/-! ## The cost policy -/

/-- `new` keeps or lowers the ceiling that `old` sets, and may set one where `old` sets none. -/
def CeilingTightened (old new : Option ℚ≥0) : Prop := ∀ ceiling ∈ old, ∃ lower ∈ new, lower ≤ ceiling

/-- `tighter` differs from `policy` in ceilings that it sets or lowers. -/
structure CostPolicy.TightenedTo (policy tighter : CostPolicy) : Prop where
  estimated : CeilingTightened policy.maxEstimatedCostUsd tighter.maxEstimatedCostUsd
  coldStart : CeilingTightened policy.maxColdStartCostUsd tighter.maxColdStartCostUsd
  idle : CeilingTightened policy.maxIdleCostUsd tighter.maxIdleCostUsd
  requireBudget : policy.requireBudgetForHighCostTuple = tighter.requireBudgetForHighCostTuple
  threshold : policy.highCostThresholdUsd = tighter.highCostThresholdUsd
  freshPrice : policy.requireFreshPriceForBudget = tighter.requireFreshPriceForBudget

/-- The source's `explicit_budget`. -/
def CostPolicy.SetsCeiling (policy : CostPolicy) : Prop :=
  policy.maxEstimatedCostUsd.isSome ∨ policy.maxColdStartCostUsd.isSome ∨
    policy.maxIdleCostUsd.isSome

/-- `cost` is over the ceiling, where there is one. -/
def OverCeiling (cost : ℚ≥0) (ceiling : Option ℚ≥0) : Prop := ∃ bound ∈ ceiling, bound < cost

theorem OverCeiling.tightened (h : OverCeiling cost old) (ht : CeilingTightened old new) :
    OverCeiling cost new := by
  obtain ⟨bound, hbound, hlt⟩ := h
  obtain ⟨lower, hlower, hle⟩ := ht bound hbound
  exact ⟨lower, hlower, hle.trans_lt hlt⟩

theorem CeilingTightened.isSome (h : CeilingTightened old new) (hold : old.isSome) :
    new.isSome := by
  obtain ⟨ceiling, hceiling⟩ := Option.isSome_iff_exists.mp hold
  obtain ⟨lower, hlower, -⟩ := h ceiling hceiling
  exact Option.isSome_iff_exists.mpr ⟨lower, hlower⟩

theorem CostPolicy.TightenedTo.setsCeiling {policy tighter : CostPolicy}
    (h : policy.TightenedTo tighter) (hset : policy.SetsCeiling) : tighter.SetsCeiling :=
  hset.imp h.estimated.isSome fun hset => hset.imp h.coldStart.isSome h.idle.isSome

theorem isSome_reject : (reject c reason).isSome ↔ c = true := by
  cases c <;> simp [reject]

theorem isSome_costCeilingReason :
    (costCeilingReason cost ceiling what field).isSome ↔ OverCeiling cost ceiling := by
  cases ceiling with
  | none => simp [costCeilingReason, OverCeiling]
  | some ceiling => simp [costCeilingReason, OverCeiling, isSome_reject]

theorem isSome_tupleCostPolicyRejectionReason :
    (tupleCostPolicyRejectionReason env policy tuple recipe timeoutSeconds inputTokens outputTokens
        now).isSome ↔
      let estimate :=
        estimateTupleCost env tuple recipe timeoutSeconds (some inputTokens) (some outputTokens) now
      let costPolicy := effectiveCostPolicy policy recipe
      OverCeiling estimate.coldStartCostUsd costPolicy.maxColdStartCostUsd ∨
        OverCeiling estimate.idleCostUsd costPolicy.maxIdleCostUsd ∨
        OverCeiling estimate.estimatedCostUsd costPolicy.maxEstimatedCostUsd ∨
        (costPolicy.requireBudgetForHighCostTuple.getD true ∧ ¬ costPolicy.SetsCeiling ∧
          costPolicy.highCostThresholdUsd.getD 5 < estimate.estimatedCostUsd) ∨
        (costPolicy.requireFreshPriceForBudget.getD false ∧ estimate.priceFreshness ≠ .fresh ∧
          costPolicy.SetsCeiling) := by
  simp only [tupleCostPolicyRejectionReason, Option.orElse_eq_orElse, Option.orElse_eq_or,
    Option.isSome_or, Bool.or_eq_true, isSome_costCeilingReason, isSome_reject,
    CostPolicy.SetsCeiling, Bool.and_eq_true, Bool.not_eq_true', Bool.or_eq_false_iff,
    decide_eq_true_eq, not_or, Bool.not_eq_true, or_assoc, and_assoc]

/-- A ceiling that is set or lowered refuses no less, but for the first one: with it the guard
against expensive tuples without a budget gives way. -/
theorem tighter_cost_policy_rejects (env : Environment) (policy : Policy) (recipe : Recipe)
    (base : CostPolicy) (override : Option CostPolicy) (tuple : ExecutionTupleSpec)
    (timeoutSeconds inputTokens outputTokens : ℕ) (now : DateTime)
    (htighter : (effectiveCostPolicy policy recipe).TightenedTo
      (effectiveCostPolicy { policy with costPolicy := base }
        { recipe with costPolicy := override }))
    (hfirst : (effectiveCostPolicy { policy with costPolicy := base }
        { recipe with costPolicy := override }).SetsCeiling →
      (effectiveCostPolicy policy recipe).SetsCeiling)
    (hreject : (tupleCostPolicyRejectionReason env policy tuple recipe timeoutSeconds inputTokens
      outputTokens now).isSome) :
    (tupleCostPolicyRejectionReason env { policy with costPolicy := base } tuple
      { recipe with costPolicy := override } timeoutSeconds inputTokens outputTokens now).isSome := by
  rw [isSome_tupleCostPolicyRejectionReason] at hreject ⊢
  obtain hover | hover | hover | ⟨hrequire, hnone, hcost⟩ | ⟨hfresh, hprice, hset⟩ := hreject
  · exact .inl (hover.tightened htighter.coldStart)
  · exact .inr (.inl (hover.tightened htighter.idle))
  · exact .inr (.inr (.inl (hover.tightened htighter.estimated)))
  · refine .inr (.inr (.inr (.inl ⟨?_, fun hset => hnone (hfirst hset), ?_⟩)))
    · rw [← htighter.requireBudget]
      exact hrequire
    · rw [← htighter.threshold]
      exact hcost
  · refine .inr (.inr (.inr (.inr ⟨?_, hprice, htighter.setsCeiling hset⟩)))
    rw [← htighter.freshPrice]
    exact hfresh

def coldH100 : ExecutionTupleSpec :=
  { GovernanceCompiler.modalTuple "modal-h100" 80 (505 / 100000) with
    expectedColdStartSeconds := some 1000 }

theorem tighter_cost_policy_rejects_coldH100 :
    (tupleCostPolicyRejectionReason GovernanceCompiler.modalEnvironment
      { GovernanceCompiler.twoModalTuples.policy with
        costPolicy := { maxEstimatedCostUsd := some 4 } } coldH100
      { GovernanceCompiler.textRecipe with costPolicy := none } 60 0 0
      GovernanceCompiler.noon.now).isSome :=
  tighter_cost_policy_rejects GovernanceCompiler.modalEnvironment
    { GovernanceCompiler.twoModalTuples.policy with
      costPolicy := { maxEstimatedCostUsd := some 5 } }
    GovernanceCompiler.textRecipe { maxEstimatedCostUsd := some 4 } none coldH100 60 0 0
    GovernanceCompiler.noon.now
    { estimated := by
        rintro _ ⟨⟩
        exact ⟨4, rfl, by decide +kernel⟩
      coldStart := by rintro _ ⟨⟩
      idle := by rintro _ ⟨⟩
      requireBudget := rfl
      threshold := rfl
      freshPrice := rfl }
    (fun _ => .inl rfl) (by decide +kernel)

/-- The first ceiling lets a tuple in that the guard kept out. -/
theorem first_ceiling_admits :
    ¬ ∀ (env : Environment) (policy : Policy) (recipe : Recipe) (base : CostPolicy)
      (override : Option CostPolicy) (tuple : ExecutionTupleSpec)
      (timeoutSeconds inputTokens outputTokens : ℕ) (now : DateTime),
      (effectiveCostPolicy policy recipe).TightenedTo
        (effectiveCostPolicy { policy with costPolicy := base }
          { recipe with costPolicy := override }) →
      (tupleCostPolicyRejectionReason env policy tuple recipe timeoutSeconds inputTokens
        outputTokens now).isSome →
      (tupleCostPolicyRejectionReason env { policy with costPolicy := base } tuple
        { recipe with costPolicy := override } timeoutSeconds inputTokens outputTokens
        now).isSome := by
  intro h
  have hadmitted := h GovernanceCompiler.modalEnvironment GovernanceCompiler.twoModalTuples.policy
    GovernanceCompiler.textRecipe {} (some { maxEstimatedCostUsd := some 7 }) coldH100 60 0 0
    GovernanceCompiler.noon.now
    { estimated := by rintro _ ⟨⟩
      coldStart := by rintro _ ⟨⟩
      idle := by rintro _ ⟨⟩
      requireBudget := rfl
      threshold := rfl
      freshPrice := rfl }
    (by decide +kernel)
  revert hadmitted
  decide +kernel

end Gpucall
