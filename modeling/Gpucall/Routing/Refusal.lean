import Gpucall.Routing.FailClosed

/-! What a refusal says. Eligibility, the ranking and the explanation walk the catalog apart from one
another; a tuple is either in the ranking or explained, but for one without a name. -/

namespace Gpucall

namespace GovernanceCompiler

variable {env : Environment} {c : GovernanceCompiler} {instant : Instant} {request : TaskRequest}
  {recipe : Recipe} {plan : CompiledPlan} {planId name : String} {tuple : ExecutionTupleSpec}

/-! ## The three traversals -/

/-- The tuples that could run now, in their order. -/
def ranked (env : Environment) (c : GovernanceCompiler) (instant : Instant) (request : TaskRequest)
    (recipe : Recipe) : List String :=
  c.rankByFitThenObservations env instant
    (c.eligibleTuples env instant c.tuples.sortedKeys request recipe true) request recipe

theorem mem_sortedKeys {d : Dict α} : key ∈ d.sortedKeys ↔ ∃ value, d.get? key = some value := by
  rw [Dict.sortedKeys, List.mem_insertionSort, Dict.mem_keys]

theorem mem_ranked :
    name ∈ c.ranked env instant request recipe ↔
      name ≠ "" ∧ ∃ tuple, c.tuples.get? name = some tuple ∧
        c.eligible env instant request recipe true tuple ∧
        c.registry.isAvailable instant.time name := by
  rw [ranked, (rankByFitThenObservations_perm _).mem_iff, List.mem_filter, eligibleTuples,
    mem_eligibleTuplesFrom, mem_sortedKeys]
  grind

/-- The explanation asks the gates of eligibility and the circuit breaker. -/
theorem mem_tupleRejections :
    name ∈ (c.tupleRejections env instant request recipe).map Prod.fst ↔
      ∃ tuple, c.tuples.get? name = some tuple ∧
        ¬ (c.eligible env instant request recipe true tuple ∧
          c.registry.isAvailable instant.time name) := by
  have hreason (tuple : ExecutionTupleSpec) :
      (∃ reason, (c.routeRejectionReason env tuple request recipe true <|>
          reject (!c.registry.isAvailable instant.time name)
            "tuple is unavailable due to circuit breaker" <|>
          c.routeValidationRejectionReason env tuple request recipe true <|>
          c.costRejectionReason env instant tuple request recipe true) = some reason) ↔
        ¬ (c.eligible env instant request recipe true tuple ∧
          c.registry.isAvailable instant.time name) := by
    rw [← Option.ne_none_iff_exists']
    simp only [eligible, Option.orElse_eq_orElse, Option.orElse_eq_or, Option.or_eq_none_iff,
      reject_eq_none, Bool.and_eq_true, Option.isNone_iff_eq_none, ne_eq, Bool.not_eq_false']
    grind
  simp only [tupleRejections, List.mem_map, List.mem_filterMap, Option.bind_eq_some_iff,
    Option.map_eq_some_iff, Prod.exists, Prod.mk.injEq]
  constructor
  · rintro ⟨_, _, ⟨_, _, tuple, htuple, reason, hsome, rfl, rfl⟩, rfl⟩
    exact ⟨tuple, htuple, (hreason tuple).mp ⟨reason, hsome⟩⟩
  · rintro ⟨tuple, htuple, hgates⟩
    obtain ⟨reason, hsome⟩ := (hreason tuple).mpr hgates
    exact ⟨name, reason, ⟨name, mem_sortedKeys.mpr ⟨tuple, htuple⟩, tuple, htuple, reason, hsome,
      rfl, rfl⟩, rfl⟩

/-- A tuple with a name is explained exactly when the ranking leaves it out. -/
theorem mem_tupleRejections_iff_not_ranked (hname : name ≠ "") :
    name ∈ (c.tupleRejections env instant request recipe).map Prod.fst ↔
      name ∈ c.tuples.keys ∧ name ∉ c.ranked env instant request recipe := by
  rw [mem_tupleRejections, mem_ranked, Dict.mem_keys]
  grind

/-! ## The refusal -/

theorem governanceError_ne_refusal : "GOVERNANCE_ERROR" ≠ "NO_ELIGIBLE_TUPLE" := by decide

/-- Only the empty ranking is refused as `NO_ELIGIBLE_TUPLE`, and it carries the explanation. -/
theorem tupleChain_refusal {e : GovernanceError}
    (h : c.tupleChain env instant request recipe = .error (.governance e))
    (hcode : e.code = "NO_ELIGIBLE_TUPLE") :
    c.ranked env instant request recipe = [] ∧
      e.context.lookup "tuple_rejections" = some (.obj
        ((c.tupleRejections env instant request recipe).map fun r => (r.1, .str r.2))) := by
  simp only [tupleChain, raiseGovernance] at h
  split at h
  · split at h
    · cases h
      exact ⟨‹_›, by simp [List.lookup_cons]⟩
    · contradiction
  · split at h
    · cases h
      exact ⟨‹_›, by simp [List.lookup_cons]⟩
    · contradiction
  · split at h
    · cases h
      exact absurd hcode governanceError_ne_refusal
    · split at h
      · cases h
        exact absurd hcode governanceError_ne_refusal
      · contradiction

theorem checkedTokenBudget_ne_governance : checkedTokenBudget budget ≠ .error (.governance e) := by
  rcases budget with _ | _ | n <;> simp [checkedTokenBudget]

theorem keyReleaseRequirement_code
    (h : c.keyReleaseRequirement request recipe tuple = .error (.governance e)) :
    e.code = "GOVERNANCE_ERROR" := by
  simp only [keyReleaseRequirement, raiseGovernance] at h
  split at h
  · contradiction
  split at h
  · cases h
    rfl
  split at h
  · cases h
    rfl
  · contradiction

/-- The refusal of a compilation as `NO_ELIGIBLE_TUPLE` is that of the chain. -/
theorem compileWith_refusal {e : GovernanceError}
    (h : c.compileWith env instant planId request recipe = .error (.governance e))
    (hcode : e.code = "NO_ELIGIBLE_TUPLE") :
    c.tupleChain env instant request recipe = .error (.governance e) := by
  simp only [compileWith, raiseGovernance, bind, Except.bind, pure, Except.pure, throw, throwThe,
    MonadExceptOf.throw] at h
  split at h
  · cases h
    exact absurd hcode governanceError_ne_refusal
  split at h
  next hchain =>
    cases h
    exact hchain
  split at h
  · cases h
    exact absurd hcode (show "REQUEST_EXCEEDS_RECIPE_CONTEXT" ≠ "NO_ELIGIBLE_TUPLE" by decide)
  split at h
  · cases h
    exact absurd hcode governanceError_ne_refusal
  split at h
  next hbudget =>
    cases h
    exact absurd hbudget checkedTokenBudget_ne_governance
  split at h
  · cases h
  split at h
  next hkey =>
    cases h
    exact absurd ((keyReleaseRequirement_code hkey).symm.trans hcode) governanceError_ne_refusal
  · contradiction

theorem recipeFor_code (h : c.recipeFor env instant request = .error (.governance e)) :
    e.code ≠ "NO_ELIGIBLE_TUPLE" := by
  simp only [recipeFor, selectRecipe, raiseGovernance] at h
  split at h
  · cases h
    exact governanceError_ne_refusal
  split at h
  · split at h
    · cases h
      exact show "NO_AUTO_SELECTABLE_RECIPE" ≠ "NO_ELIGIBLE_TUPLE" by decide
    · contradiction
  split at h
  · cases h
    exact governanceError_ne_refusal
  split at h
  · cases h
    exact governanceError_ne_refusal
  · contradiction

theorem compile_refusal {e : GovernanceError}
    (h : c.compile env instant planId request = .error (.governance e))
    (hcode : e.code = "NO_ELIGIBLE_TUPLE") :
    ∃ recipe, c.recipeFor env instant request = .ok recipe ∧
      c.tupleChain env instant (requestWithRecipeDefaults request recipe) recipe =
        .error (.governance e) := by
  simp only [compile, bind, Except.bind] at h
  split at h
  next hrecipe =>
    cases h
    exact absurd hcode (recipeFor_code hrecipe)
  next recipe hrecipe => exact ⟨recipe, hrecipe, compileWith_refusal h hcode⟩

/-- The explanation and the ranking part the tuples that have a name, and so a compilation that is
refused for want of a tuple explains each of them. -/
theorem refusal_explains_named_tuples (env : Environment) (c : GovernanceCompiler)
    (instant : Instant) (planId : String) (request : TaskRequest) :
    (∀ recipe name, name ≠ "" →
      (name ∈ (c.tupleRejections env instant request recipe).map Prod.fst ↔
        name ∈ c.tuples.keys ∧
          name ∉ c.rankByFitThenObservations env instant
            (c.eligibleTuples env instant c.tuples.sortedKeys request recipe true) request
            recipe)) ∧
    ∀ e, c.compile env instant planId request = .error (.governance e) →
      e.code = "NO_ELIGIBLE_TUPLE" →
      ∃ rows, e.context.lookup "tuple_rejections" = some (.obj rows) ∧
        ∀ name ∈ c.tuples.keys, name ≠ "" → ∃ reason, (name, .str reason) ∈ rows := by
  refine ⟨fun recipe name hname => mem_tupleRejections_iff_not_ranked hname,
    fun e h hcode => ?_⟩
  obtain ⟨recipe, -, hchain⟩ := compile_refusal h hcode
  obtain ⟨hranked, hcontext⟩ := tupleChain_refusal hchain hcode
  refine ⟨_, hcontext, fun name hkey hname => ?_⟩
  have hexplained : name ∈ (c.tupleRejections env instant (requestWithRecipeDefaults request recipe)
      recipe).map Prod.fst :=
    (mem_tupleRejections_iff_not_ranked hname).mpr ⟨hkey, hranked ▸ List.not_mem_nil⟩
  obtain ⟨row, hrow, rfl⟩ := List.mem_map.mp hexplained
  exact ⟨row.2, List.mem_map.mpr ⟨row, hrow, rfl⟩⟩

/-- A catalog whose tuple has the empty name, which no candidate may have. -/
def namelessTuple : GovernanceCompiler :=
  { twoModalTuples with
    tuples := { entries := [("", modalTuple "" 24 (1 / 1000))] }
    validatedRoutes := [("", "text-infer-standard", "sync")] }

theorem nameless_tuple_unexplained :
    ¬ ∀ (env : Environment) (c : GovernanceCompiler) (instant : Instant) (request : TaskRequest)
      (recipe : Recipe) (name : String),
      name ∈ (c.tupleRejections env instant request recipe).map Prod.fst ↔
        name ∈ c.tuples.keys ∧
          name ∉ c.rankByFitThenObservations env instant
            (c.eligibleTuples env instant c.tuples.sortedKeys request recipe true) request
            recipe := by
  intro h
  have hname := h modalEnvironment namelessTuple noon promptRequest textRecipe ""
  revert hname
  decide +kernel

end GovernanceCompiler

end Gpucall
