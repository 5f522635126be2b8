import Gpucall.Routing.Compiler

/-! Fail-closed compilation: whatever comes out of `compile` has passed every gate. `compile_cases`
says once what a successful compilation is made of; the chain is a rearrangement of the eligible
tuples whose breaker allows requests (`tupleChain_spec`), and a tuple is eligible only if each gate found
nothing against it. -/

namespace Gpucall

namespace GovernanceCompiler

variable {env : Environment} {c : GovernanceCompiler} {instant : Instant} {request : TaskRequest}
  {recipe : Recipe} {plan : CompiledPlan} {planId name : String} {tuple : ExecutionTupleSpec}

/-! ## What a compilation is made of -/

/-- The stages of a compilation that succeeds, in the order `compileWith` runs them. -/
structure Stages (env : Environment) (c : GovernanceCompiler) (instant : Instant) (planId : String)
    (request : TaskRequest) (recipe : Recipe) (plan : CompiledPlan) (chain : List String)
    (tuple : ExecutionTupleSpec) (requirement : Option KeyReleaseRequirement)
    (budget : Option ℕ+) : Prop where
  valid : c.validationError env instant request recipe = none
  chain_ok : c.tupleChain env instant request recipe = .ok chain
  length : requiredModelLen env request recipe c.policy ≤
    (recipeRequirements recipe).contextBudgetTokens
  lease : c.timeoutSeconds request recipe ≤ c.leaseTtlSeconds request recipe
  budget_ok : checkedTokenBudget (tokenBudget request c.policy) = .ok budget
  head : chain.head?.bind c.tuples.get? = some tuple
  keyRelease : c.keyReleaseRequirement request recipe tuple = .ok requirement
  plan_eq : plan = c.planOf env planId request recipe chain budget
    (c.attestationsFor env instant request recipe tuple requirement)

theorem compileWith_stages (h : c.compileWith env instant planId request recipe = .ok plan) :
    ∃ chain tuple requirement budget,
      Stages env c instant planId request recipe plan chain tuple requirement budget := by
  simp only [compileWith, raiseGovernance, bind, Except.bind, pure, Except.pure, throw, throwThe,
    MonadExceptOf.throw] at h
  split at h
  · contradiction
  next hvalid =>
  split at h
  · contradiction
  next chain hchain =>
  split at h
  · contradiction
  next hlen =>
  split at h
  · contradiction
  next hlease =>
  split at h
  · contradiction
  next budget hbudget =>
  split at h
  · contradiction
  next tuple hhead =>
  split at h
  · contradiction
  next requirement hkey =>
  exact ⟨chain, tuple, requirement, budget, {
    valid := Option.eq_none_iff_forall_ne_some.mpr hvalid
    chain_ok := hchain
    length := not_lt.mp hlen
    lease := not_lt.mp hlease
    budget_ok := hbudget
    head := hhead
    keyRelease := hkey
    plan_eq := (Except.ok.inj h).symm }⟩

theorem compile_cases (h : c.compile env instant planId request = .ok plan) :
    ∃ recipe, c.recipeFor env instant request = .ok recipe ∧
      c.compileWith env instant planId (requestWithRecipeDefaults request recipe) recipe = .ok plan := by
  simp only [compile, bind, Except.bind] at h
  split at h
  · contradiction
  next recipe hrecipe =>
  exact ⟨recipe, hrecipe, h⟩

/-! ## The chain -/

theorem mem_eligibleTuplesFrom {auto : Bool} {seen candidates : List String} :
    name ∈ c.eligibleTuplesFrom env instant request recipe auto seen candidates ↔
      name ∈ candidates ∧ name ∉ seen ∧ name ≠ "" ∧
        ∃ tuple, c.tuples.get? name = some tuple ∧
          c.eligible env instant request recipe auto tuple := by
  induction candidates generalizing seen with
  | nil => simp [eligibleTuplesFrom]
  | cons candidate candidates ih =>
    unfold eligibleTuplesFrom
    by_cases hcandidate : name = candidate
    · subst hcandidate
      by_cases hskip : name = "" ∨ name ∈ seen
      · simp only [Bool.or_eq_true, decide_eq_true_eq, hskip, if_true, ih]
        grind
      · simp only [Bool.or_eq_true, decide_eq_true_eq, hskip, if_false]
        cases hget : c.tuples.get? name with
        | none => simp [ih, hget]
        | some tuple =>
          by_cases heligible : c.eligible env instant request recipe auto tuple
          · simp only [heligible, if_true]
            grind
          · simp [heligible, ih]
    · have hmem (rest : List String) : name ∈ candidate :: rest ↔ name ∈ rest := by
        simp [hcandidate]
      split
      · rw [ih, hmem]
      dsimp only
      split
      · rw [ih, hmem]
        grind
      split
      · rw [hmem, hmem, ih]
        grind
      · rw [hmem, ih]
        grind

theorem eligibleTuplesFrom_mem {auto : Bool} {seen candidates : List String}
    (h : name ∈ c.eligibleTuplesFrom env instant request recipe auto seen candidates) :
    name ∈ candidates ∧ name ∉ seen ∧
      ∃ tuple, c.tuples.get? name = some tuple ∧ c.eligible env instant request recipe auto tuple := by
  obtain ⟨hmem, hseen, -, htuple⟩ := mem_eligibleTuplesFrom.mp h
  exact ⟨hmem, hseen, htuple⟩

theorem eligibleTuplesFrom_nodup {auto : Bool} (seen candidates : List String) :
    (c.eligibleTuplesFrom env instant request recipe auto seen candidates).Nodup := by
  induction candidates generalizing seen with
  | nil => exact .nil
  | cons candidate candidates ih =>
    unfold eligibleTuplesFrom
    split
    · exact ih seen
    dsimp only
    split
    · exact ih _
    split
    · refine List.nodup_cons.mpr ⟨fun h => ?_, ih _⟩
      exact (eligibleTuplesFrom_mem h).2.1 List.mem_cons_self
    · exact ih _

theorem rankByFitThenObservations_perm (tuples : List String) :
    (c.rankByFitThenObservations env instant tuples request recipe).Perm
      (tuples.filter (c.registry.isAvailable instant.time)) :=
  (GroupSort.groupwise_perm (c.registry.rank_perm instant.time) _).trans
    ((List.perm_insertionSort _ _).filter _)

theorem truthyStr_eq_false {value : Option String} (h : truthyStr value = false) :
    value = none ∨ value = some "" := by
  rcases value with _ | s
  · exact .inl rfl
  · simp only [truthyStr, Option.getD_some, ne_eq, decide_not, Bool.not_eq_eq_eq_not,
      Bool.not_false, decide_eq_true_eq] at h
    exact .inr (congrArg some h)

/-- Without a requested tuple the chain is the ranking of the eligible tuples, unless there are none. -/
theorem tupleChain_eq_ok (hrequested : truthyStr request.requestedTuple = false) :
    c.tupleChain env instant request recipe = .ok chain ↔
      chain ≠ [] ∧ chain = c.rankByFitThenObservations env instant
        (c.eligibleTuples env instant c.tuples.sortedKeys request recipe true) request recipe := by
  unfold tupleChain
  rcases truthyStr_eq_false hrequested with hr | hr
  all_goals
    simp only [hr]
    generalize c.rankByFitThenObservations env instant
      (c.eligibleTuples env instant c.tuples.sortedKeys request recipe true) request recipe = ranked
    cases ranked with
    | nil => exact iff_of_false (by rintro ⟨⟩) fun h => h.1 h.2
    | cons name ranked =>
      refine ⟨fun h => ?_, ?_⟩
      · obtain rfl := Except.ok.inj h
        exact ⟨List.cons_ne_nil _ _, rfl⟩
      · rintro ⟨-, rfl⟩
        rfl

/-- The chain holds eligible tuples whose breaker allows requests, each once. -/
theorem tupleChain_spec (hrequested : truthyStr request.requestedTuple = false)
    (h : c.tupleChain env instant request recipe = .ok chain) :
    chain ≠ [] ∧ chain.Nodup ∧ ∀ name ∈ chain, c.registry.isAvailable instant.time name ∧
      ∃ tuple, c.tuples.get? name = some tuple ∧
        c.eligible env instant request recipe true tuple := by
  obtain ⟨hne, hchain⟩ := (tupleChain_eq_ok hrequested).mp h
  have hperm : chain.Perm ((c.eligibleTuples env instant c.tuples.sortedKeys request recipe
      true).filter (c.registry.isAvailable instant.time)) :=
    hchain ▸ rankByFitThenObservations_perm _
  refine ⟨hne, ?_, fun name hname => ?_⟩
  · exact hperm.nodup_iff.mpr ((eligibleTuplesFrom_nodup _ _).filter _)
  · obtain ⟨hmem, havailable⟩ := List.mem_filter.mp (hperm.mem_iff.mp hname)
    exact ⟨havailable, (eligibleTuplesFrom_mem hmem).2.2⟩

/-! ## The gates -/

/-- What the source promises of every tuple it routes to. -/
structure Admissible (env : Environment) (c : GovernanceCompiler) (instant : Instant)
    (request : TaskRequest) (recipe : Recipe) (name : String) (tuple : ExecutionTupleSpec) :
    Prop where
  catalog : c.tuples.get? name = some tuple
  route : c.routeRejectionReason env tuple request recipe true = none
  production : isProductionRouteCandidate env tuple
  allowed : c.policy.tuples.allow = [] ∨ tuple.name ∈ c.policy.tuples.allow
  notDenied : tuple.name ∉ c.policy.tuples.deny
  policyCeiling : c.policy.tuples.maxDataClassification.permits recipe.dataClassification
  tupleCeiling : tuple.maxDataClassification.permits recipe.dataClassification
  restricted : recipe.dataClassification = .restricted → tuple.trustProfile.dedicatedGpu ∨
    tuple.trustProfile.securityTier ∈ c.policy.security.restrictedRequires
  tupleLength : requiredModelLen env request recipe c.policy ≤ tuple.maxModelLen
  modelLength : ∀ model, c.models.getRef? tuple.modelRef = some model →
    requiredModelLen env request recipe c.policy ≤ model.maxModelLen
  mode : request.mode ∈ tuple.modes
  modelOutput : ∀ model contract, c.models.getRef? tuple.modelRef = some model →
    requestedOutputContract request recipe = some contract → contract ≠ "" →
    model.outputContracts ≠ [] → outputContractSatisfied contract model.outputContracts
  engineOutput : ∀ engine contract, c.engines.getRef? tuple.engineRef = some engine →
    requestedOutputContract request recipe = some contract → contract ≠ "" →
    engine.outputContracts ≠ [] → outputContractSatisfied contract engine.outputContracts
  validated : c.requireRouteValidation → routeValidationRequiredForTuple env tuple →
    (tuple.name, recipe.name, request.mode.value) ∈ c.validatedRoutes
  cost : tupleCostPolicyRejectionReason env c.policy tuple recipe (c.timeoutSeconds request recipe)
    (requiredModelLen env request recipe c.policy - outputContextTokens request)
    (outputContextTokens request) instant.now = none
  breaker : c.registry.isAvailable instant.time name

/-- Nothing against a tuple: each alternative of `tuple_route_rejection_reason` found nothing. -/
theorem routeRejectionReason_eq_none
    (h : c.routeRejectionReason env tuple request recipe true = none) :
    productionRouteRejectionReason env tuple = none ∧
      (c.policy.tuples.allow = [] ∨ tuple.name ∈ c.policy.tuples.allow) ∧
      tuple.name ∉ c.policy.tuples.deny ∧
      c.policy.tuples.maxDataClassification.permits recipe.dataClassification ∧
      tuple.maxDataClassification.permits recipe.dataClassification ∧
      tupleSecurityRejectionReason c.policy recipe tuple = none ∧
      requiredModelLen env request recipe c.policy ≤ tuple.maxModelLen ∧
      catalogRouteRejectionReason recipe tuple (c.models.getRef? tuple.modelRef)
        (c.engines.getRef? tuple.engineRef) (requiredModelLen env request recipe c.policy)
        request.mode (requiredInputContracts request) (requestedOutputContract request recipe) =
          none ∧
      request.mode ∈ tuple.modes := by
  simp only [routeRejectionReason, tupleRouteRejectionReason, routeQuery, Option.orElse_eq_none,
    reject_eq_none, if_true] at h
  obtain ⟨hproduction, -, -, -, -, hallow, hdeny, hpolicy, htuple, -, hsecurity, -, hlen, hcatalog,
    hmode, -⟩ := h
  refine ⟨hproduction, ?_, ?_, ?_, ?_, hsecurity, ?_, hcatalog, ?_⟩
  · rcases Bool.and_eq_false_iff.mp hallow with h | h
    · exact .inl (by simpa using h)
    · exact .inr (not_not.mp (of_decide_eq_false h))
  · exact of_decide_eq_false hdeny
  · simpa using hpolicy
  · simpa using htuple
  · exact not_lt.mp (of_decide_eq_false hlen)
  · exact not_not.mp (of_decide_eq_false hmode)

theorem tupleSecurityRejectionReason_eq_none {policy : Policy}
    (h : tupleSecurityRejectionReason policy recipe tuple = none)
    (hrestricted : recipe.dataClassification = .restricted) :
    tuple.trustProfile.dedicatedGpu ∨
      tuple.trustProfile.securityTier ∈ policy.security.restrictedRequires := by
  cases hgpu : tuple.trustProfile.dedicatedGpu with
  | true => exact .inl rfl
  | false =>
    simp only [tupleSecurityRejectionReason, hrestricted, hgpu, decide_true, Bool.not_false,
      Bool.and_self, if_true, Option.orElse_eq_none, reject_eq_none] at h
    exact .inr (by simpa using h.1)

/-- The catalog gate looks at every model and engine it is given. -/
theorem catalogRouteRejectionReason_eq_none {mode : ExecutionMode} {len : ℕ}
    {inputs : List InputContract} {output : Option String}
    (h : catalogRouteRejectionReason recipe tuple (c.models.getRef? tuple.modelRef)
      (c.engines.getRef? tuple.engineRef) len mode inputs output = none) :
    (∀ model, c.models.getRef? tuple.modelRef = some model →
      modelRejectionReason recipe tuple model len inputs
        (if truthyStr output then output else recipe.outputContract) = none) ∧
    ∀ engine, c.engines.getRef? tuple.engineRef = some engine →
      engineRejectionReason recipe (c.models.getRef? tuple.modelRef) engine mode inputs
        (if truthyStr output then output else recipe.outputContract) = none := by
  have href {α : Type} {d : Dict α} {ref : Option String} {a : α} (h : d.getRef? ref = some a) :
      truthyStr ref = true := by
    cases hr : truthyStr ref with
    | true => rfl
    | false =>
      rcases truthyStr_eq_false hr with rfl | rfl
      · simp [Dict.getRef?] at h
      · simp [Dict.getRef?] at h
  -- a model or an engine means that its reference is set, so neither early exit is taken
  refine ⟨fun model hmodel => ?_, fun engine hengine => ?_⟩
  · simp only [catalogRouteRejectionReason, href hmodel, hmodel, Bool.true_or, Bool.or_true, Bool.not_true, Bool.false_eq_true,
      Bool.false_and, Option.isNone_some, if_false, Option.orElse_eq_none] at h
    exact h.2.2.2.2.1
  · simp only [catalogRouteRejectionReason, href hengine, hengine, Bool.or_true, Bool.not_true, Bool.false_eq_true,
      Bool.false_and, Bool.and_false, Option.isNone_some, if_false, Option.orElse_eq_none] at h
    exact h.2.2.2.2.2

theorem modelRejectionReason_eq_none {model : ModelSpec} {len : ℕ} {inputs : List InputContract}
    {output : Option String} (h : modelRejectionReason recipe tuple model len inputs output = none) :
    len ≤ model.maxModelLen ∧ ∀ contract, output = some contract → contract ≠ "" →
      model.outputContracts ≠ [] → outputContractSatisfied contract model.outputContracts := by
  simp only [modelRejectionReason, Option.orElse_eq_none, reject_eq_none] at h
  obtain ⟨hlen, -, -, -, -, houtput⟩ := h
  refine ⟨not_lt.mp (of_decide_eq_false hlen), ?_⟩
  rintro contract rfl hne hdeclared
  simpa [truthyStr, hne, hdeclared] using houtput

theorem engineRejectionReason_eq_none {model : Option ModelSpec} {engine : EngineSpec}
    {mode : ExecutionMode} {inputs : List InputContract} {output : Option String}
    (h : engineRejectionReason recipe model engine mode inputs output = none) :
    ∀ contract, output = some contract → contract ≠ "" → engine.outputContracts ≠ [] →
      outputContractSatisfied contract engine.outputContracts := by
  simp only [engineRejectionReason, Option.orElse_eq_none, reject_eq_none] at h
  obtain ⟨-, -, -, -, houtput, -⟩ := h
  rintro contract rfl hne hdeclared
  simpa [truthyStr, hne, hdeclared] using houtput

/-- An eligible tuple whose breaker allows requests is admissible. -/
theorem admissible_of_eligible (hcatalog : c.tuples.get? name = some tuple)
    (heligible : c.eligible env instant request recipe true tuple)
    (hbypass : request.bypassCircuitForValidation = false)
    (hbreaker : c.registry.isAvailable instant.time name) :
    Admissible env c instant request recipe name tuple := by
  simp only [eligible, Bool.and_eq_true, Option.isNone_iff_eq_none] at heligible
  obtain ⟨⟨hroute, hvalidated⟩, hcost⟩ := heligible
  obtain ⟨hproduction, hallow, hdeny, hpolicy, htuple, hsecurity, hlen, hcat, hmode⟩ :=
    routeRejectionReason_eq_none hroute
  obtain ⟨hmodel, hengine⟩ := catalogRouteRejectionReason_eq_none hcat
  have houtput (contract : String) (h : requestedOutputContract request recipe = some contract)
      (hne : contract ≠ "") : (if truthyStr (requestedOutputContract request recipe) then
        requestedOutputContract request recipe else recipe.outputContract) = some contract := by
    rw [h, if_pos (by simp [truthyStr, hne])]
  exact {
    catalog := hcatalog
    route := hroute
    production := by simp [isProductionRouteCandidate, hproduction]
    allowed := hallow
    notDenied := hdeny
    policyCeiling := hpolicy
    tupleCeiling := htuple
    restricted := tupleSecurityRejectionReason_eq_none hsecurity
    tupleLength := hlen
    modelLength := fun model hm => (modelRejectionReason_eq_none (hmodel model hm)).1
    mode := hmode
    modelOutput := fun model contract hm hc hne =>
      (modelRejectionReason_eq_none (hmodel model hm)).2 contract (houtput contract hc hne) hne
    engineOutput := fun engine contract he hc hne =>
      engineRejectionReason_eq_none (hengine engine he) contract (houtput contract hc hne) hne
    validated := by
      intro hrequire hneeded
      simpa [routeValidationRejectionReason, hrequire, hbypass, hneeded] using hvalidated
    cost := by simpa [costRejectionReason] using hcost
    breaker := hbreaker }

/-- **Fail-closed compilation.** A compiled plan without a requested tuple has a non-empty chain
without duplicates, and every tuple of the chain is a catalog tuple that passed every gate. -/
theorem compile_fail_closed (env : Environment) (c : GovernanceCompiler) (instant : Instant)
    (planId : String) (request : TaskRequest) (plan : CompiledPlan)
    (hrequested : truthyStr request.requestedTuple = false)
    (hbypass : request.bypassCircuitForValidation = false)
    (h : c.compile env instant planId request = .ok plan) :
    ∃ recipe, c.recipeFor env instant request = .ok recipe ∧ plan.recipeName = recipe.name ∧
      plan.tupleChain ≠ [] ∧ plan.tupleChain.Nodup ∧
      ∀ name ∈ plan.tupleChain, ∃ tuple, Admissible env c instant
        (requestWithRecipeDefaults request recipe) recipe name tuple := by
  obtain ⟨recipe, hrecipe, h⟩ := compile_cases h
  obtain ⟨chain, head, requirement, budget, hstages⟩ := compileWith_stages h
  obtain rfl := hstages.plan_eq
  have hkeep : (requestWithRecipeDefaults request recipe).requestedTuple = request.requestedTuple ∧
      (requestWithRecipeDefaults request recipe).bypassCircuitForValidation =
        request.bypassCircuitForValidation := by
    unfold requestWithRecipeDefaults
    split <;> exact ⟨rfl, rfl⟩
  obtain ⟨hne, hnodup, hall⟩ := tupleChain_spec (hkeep.1 ▸ hrequested) hstages.chain_ok
  refine ⟨recipe, hrecipe, rfl, hne, hnodup, fun name hname => ?_⟩
  obtain ⟨havailable, tuple, htuple, heligible⟩ := hall name hname
  exact ⟨tuple, admissible_of_eligible htuple heligible (hkeep.2 ▸ hbypass) havailable⟩

/-! ## A deployment -/

/-- ASCII string methods, and the `modal` adapter as it is registered. -/
def modalEnvironment : Environment where
  lower s := String.ofList (s.toList.map Char.toLower)
  strip s := String.ofList
    ((s.toList.dropWhile (· = ' ')).reverse.dropWhile (· = ' ')).reverse
  repr s := "'" ++ s ++ "'"
  descriptors adapter :=
    if adapter = "modal" then some {
      executionSurface := some .functionRuntime
      endpointContract := some "modal-function"
      outputContract := some "plain-text"
      requiredAutoFields := [(.target, "Modal function target is not configured")]
      streamRequiredFields :=
        [(.streamTarget, "modal stream mode requires explicit stream_target")] }
    else none
  isConfiguredCidr _ := true
  parseTime _ := none
  weekdayMatches _ := []
  numericMatches _ := []

def modalTuple (name : String) (vramGb : ℕ+) (costPerSecond : ℚ≥0) : ExecutionTupleSpec where
  name := name
  adapter := "modal"
  executionSurface := some .functionRuntime
  gpu := "gpu"
  vramGb := vramGb
  maxModelLen := 32768
  costPerSecond := costPerSecond
  modes := [.sync, .async]
  target := some "app:infer"
  model := some "qwen"
  inputContracts := [.text, .chatMessages]

def textRecipe : Recipe where
  name := "text-infer-standard"
  task := "infer"
  allowedModes := [.sync, .async]
  timeoutSeconds := 60
  leaseTtlSeconds := 120

/-- A small GPU and a large, dearer one behind it. -/
def twoModalTuples : GovernanceCompiler where
  policy := {
    version := "1"
    inlineBytesLimit := 8192
    defaultLeaseTtlSeconds := 120
    maxLeaseTtlSeconds := 600
    maxTimeoutSeconds := 600
    tuples := {} }
  recipes := { entries := [("text-infer-standard", textRecipe)] }
  tuples := { entries := [("modal-h100", modalTuple "modal-h100" 80 (1 / 100)),
    ("modal-a10g", modalTuple "modal-a10g" 24 (1 / 1000))] }
  registry := {}
  requireRouteValidation := true
  validatedRoutes := [("modal-h100", "text-infer-standard", "sync"),
    ("modal-a10g", "text-infer-standard", "sync")]

def promptRequest : TaskRequest where
  task := "infer"
  mode := .sync
  inlineInputs := [("prompt", { value := "hello" })]

def noon : Instant where
  now := { year := 2024, month := 1, day := 1, hour := 12 }
  time := 0

theorem exists_ok_of_map {x : Except ε α} {f : α → β} (h : x.toOption.map f = some b) :
    ∃ a, x = .ok a ∧ f a = b := by
  cases x with
  | error e => simp [Except.toOption] at h
  | ok a => exact ⟨a, rfl, by simpa [Except.toOption] using h⟩

theorem compile_fail_closed_twoModalTuples :
    ∃ plan, twoModalTuples.compile modalEnvironment noon "plan-1" promptRequest = .ok plan ∧
      plan.tupleChain = ["modal-a10g", "modal-h100"] ∧ plan.tupleChain.Nodup := by
  obtain ⟨plan, hplan, hchain⟩ := exists_ok_of_map (show
    ((twoModalTuples.compile modalEnvironment noon "plan-1" promptRequest).toOption.map
      (·.tupleChain)) = some ["modal-a10g", "modal-h100"] by decide +kernel)
  obtain ⟨-, -, -, -, hnodup, -⟩ :=
    compile_fail_closed modalEnvironment twoModalTuples noon "plan-1" promptRequest plan rfl rfl hplan
  exact ⟨plan, hplan, hchain, hnodup⟩

end GovernanceCompiler

end Gpucall
