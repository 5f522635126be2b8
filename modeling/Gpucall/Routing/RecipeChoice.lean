import Gpucall.Routing.FailClosed

/-! The choice of a recipe against the compilation that follows it. `_select_recipe` takes the first
recipe for which some tuple is eligible; `compile` then asks that one recipe for more: a tuple whose
breaker allows requests, a timeout within the lease, a positive token budget and a key release.
`Serves` is the difference, and `exists_compile_iff` says that a request which some recipe could serve
is refused exactly when the recipe chosen for it falls short. -/

namespace Gpucall

/-- The same request with its recipe set. -/
def TaskRequest.withRecipe (request : TaskRequest) (name : String) : TaskRequest :=
  { request with recipe := some name }

namespace GovernanceCompiler

section Choice

variable (env : Environment) (c : GovernanceCompiler) (instant : Instant)

/-- The candidates of `_select_recipe`, in the order in which it tries them. -/
def recipeOrder (request : TaskRequest) : List Recipe :=
  (c.recipes.values.filter fun recipe => (c.recipeRejectionReason env request recipe).isNone)
    |>.insertionSort fun a b => recipeSelectionKey request a ≤ recipeSelectionKey request b

/-- What `_select_recipe` asks of a candidate. -/
def probe (request : TaskRequest) (recipe : Recipe) : Bool :=
  !(c.eligibleTuples env instant c.tuples.sortedKeys (requestWithRecipeDefaults request recipe)
    recipe true).isEmpty

/-- What `compile` asks of a recipe besides what its choice has asked, for a request that carries
the recipe's defaults. -/
structure Serves (request : TaskRequest) (recipe : Recipe) : Prop where
  available : ∃ name ∈ c.eligibleTuples env instant c.tuples.sortedKeys request recipe true,
    c.registry.isAvailable instant.time name
  lease : c.timeoutSeconds request recipe ≤ c.leaseTtlSeconds request recipe
  budget : tokenBudget request c.policy ≠ some 0
  artifact : recipe.requiresKeyRelease → request.artifactExport.isSome
  /-- The tuple that ranks first can release the key of the artifact. -/
  keyRelease : request.artifactExport.isSome → ∀ name tuple,
    (c.rankByFitThenObservations env instant (c.eligibleTuples env instant c.tuples.sortedKeys
      request recipe true) request recipe).head? = some name →
    c.tuples.get? name = some tuple → tuple.trustProfile.securityTier = .confidentialTee →
    tuple.trustProfile.supportsKeyRelease

end Choice

variable {env : Environment} {c : GovernanceCompiler} {instant : Instant} {request : TaskRequest}
  {recipe : Recipe} {plan : CompiledPlan} {planId name : String} {tuple : ExecutionTupleSpec}

/-! ## What the gates do not read -/

theorem requestWithRecipeDefaults_eq (request : TaskRequest) (recipe : Recipe) :
    requestWithRecipeDefaults request recipe = { request with
      maxTokens := if request.maxTokens.isSome || recipe.maxOutputTokens.isNone then
        request.maxTokens else recipe.maxOutputTokens } := by
  unfold requestWithRecipeDefaults
  split <;> rfl

theorem validationError_maxTokens (maxTokens : Option ℕ+) :
    c.validationError env instant { request with maxTokens := maxTokens } recipe =
      c.validationError env instant request recipe := rfl

theorem validationError_withRecipe (named : String) :
    c.validationError env instant (request.withRecipe named) recipe =
      c.validationError env instant request recipe := rfl

theorem requestWithRecipeDefaults_withRecipe (named : String) :
    requestWithRecipeDefaults (request.withRecipe named) recipe =
      (requestWithRecipeDefaults request recipe).withRecipe named := by
  rw [requestWithRecipeDefaults_eq, requestWithRecipeDefaults_eq]
  rfl

theorem eligible_withRecipe (named : String) (auto : Bool) (tuple : ExecutionTupleSpec) :
    c.eligible env instant (request.withRecipe named) recipe auto tuple =
      c.eligible env instant request recipe auto tuple := rfl

theorem eligibleTuplesFrom_withRecipe (named : String) (auto : Bool)
    (seen candidates : List String) :
    c.eligibleTuplesFrom env instant (request.withRecipe named) recipe auto seen candidates =
      c.eligibleTuplesFrom env instant request recipe auto seen candidates := by
  induction candidates generalizing seen with
  | nil => rfl
  | cons candidate candidates ih =>
    simp only [eligibleTuplesFrom, eligible_withRecipe, ih]

/-! ## The compilation with a recipe -/

theorem checkedTokenBudget_ok {budget : Option ℕ} (h : budget ≠ some 0) :
    ∃ checked, checkedTokenBudget budget = .ok checked := by
  match budget, h with
  | none, _ => exact ⟨none, rfl⟩
  | some (n + 1), _ => exact ⟨some n.succPNat, rfl⟩

theorem exists_keyReleaseRequirement_iff :
    (∃ requirement, c.keyReleaseRequirement request recipe tuple = .ok requirement) ↔
      (recipe.requiresKeyRelease → request.artifactExport.isSome) ∧
      (request.artifactExport.isSome → tuple.trustProfile.securityTier = .confidentialTee →
        tuple.trustProfile.supportsKeyRelease) := by
  unfold keyReleaseRequirement raiseGovernance
  cases hexport : request.artifactExport with
  | none => cases hkey : recipe.requiresKeyRelease <;> simp
  | some exportSpec =>
    cases hsupport : tuple.trustProfile.supportsKeyRelease with
    | true => simp
    | false => by_cases htier : tuple.trustProfile.securityTier = .confidentialTee <;> simp [htier]

theorem compileWith_ok {chain : List String} {requirement : Option KeyReleaseRequirement}
    {budget : Option ℕ+} (hvalid : c.validationError env instant request recipe = none)
    (hchain : c.tupleChain env instant request recipe = .ok chain)
    (hlen : requiredModelLen env request recipe c.policy ≤
      (recipeRequirements recipe).contextBudgetTokens)
    (hlease : c.timeoutSeconds request recipe ≤ c.leaseTtlSeconds request recipe)
    (hbudget : checkedTokenBudget (tokenBudget request c.policy) = .ok budget)
    (htuple : chain.head?.bind c.tuples.get? = some tuple)
    (hkey : c.keyReleaseRequirement request recipe tuple = .ok requirement) :
    c.compileWith env instant planId request recipe = .ok
      (c.planOf env planId request recipe chain budget
        (c.attestationsFor env instant request recipe tuple requirement)) := by
  simp only [compileWith, hvalid, hchain, hbudget, htuple, hkey, if_neg (not_lt.mpr hlen),
    if_neg (not_lt.mpr hlease), bind, Except.bind, pure, Except.pure]

theorem exists_compileWith_iff (hrequested : truthyStr request.requestedTuple = false) :
    (∃ plan, c.compileWith env instant planId request recipe = .ok plan) ↔
      c.validationError env instant request recipe = none ∧
      requiredModelLen env request recipe c.policy ≤ (recipeRequirements recipe).contextBudgetTokens ∧
      Serves env c instant request recipe := by
  have hperm : (c.rankByFitThenObservations env instant (c.eligibleTuples env instant
      c.tuples.sortedKeys request recipe true) request recipe).Perm
      ((c.eligibleTuples env instant c.tuples.sortedKeys request recipe true).filter
        (c.registry.isAvailable instant.time)) := rankByFitThenObservations_perm _
  constructor
  · rintro ⟨plan, h⟩
    obtain ⟨chain, tuple, requirement, budget, hstages⟩ := compileWith_stages h
    obtain ⟨hne, rfl⟩ := (tupleChain_eq_ok hrequested).mp hstages.chain_ok
    obtain ⟨hartifact, hrelease⟩ := exists_keyReleaseRequirement_iff.mp ⟨_, hstages.keyRelease⟩
    have hbudget : tokenBudget request c.policy ≠ some 0 := by
      intro h0
      have hchecked := hstages.budget_ok
      rw [h0] at hchecked
      cases hchecked
    refine ⟨hstages.valid, hstages.length, ?_, hstages.lease, hbudget, hartifact,
      fun hexport name' tuple' hhead hget => ?_⟩
    · obtain ⟨name, hname⟩ := List.exists_mem_of_ne_nil _ hne
      obtain ⟨hmem, havailable⟩ := List.mem_filter.mp (hperm.mem_iff.mp hname)
      exact ⟨name, hmem, havailable⟩
    · have htuple := hstages.head
      rw [hhead, Option.bind_some, hget] at htuple
      exact Option.some.inj htuple ▸ hrelease hexport
  · rintro ⟨hvalid, hlen, ⟨name, hmem, havailable⟩, hlease, hbudget, hartifact, hrelease⟩
    have hname := hperm.mem_iff.mpr (List.mem_filter.mpr ⟨hmem, havailable⟩)
    obtain ⟨budget, hchecked⟩ := checkedTokenBudget_ok hbudget
    obtain ⟨first, hfirst⟩ := Option.isSome_iff_exists.mp
      (List.isSome_head?.mpr (List.ne_nil_of_mem hname))
    obtain ⟨tuple, htuple⟩ : ∃ tuple, c.tuples.get? first = some tuple := by
      have hin := List.mem_filter.mp (hperm.mem_iff.mp (List.mem_of_mem_head? hfirst))
      obtain ⟨-, -, tuple, htuple, -⟩ := eligibleTuplesFrom_mem hin.1
      exact ⟨tuple, htuple⟩
    obtain ⟨requirement, hkey⟩ := exists_keyReleaseRequirement_iff.mpr
      ⟨hartifact, fun hexport => hrelease hexport first tuple hfirst htuple⟩
    exact ⟨_, compileWith_ok hvalid
      ((tupleChain_eq_ok hrequested).mpr ⟨List.ne_nil_of_mem hname, rfl⟩) hlen hlease hchecked (by rw [hfirst]; exact htuple) hkey⟩

/-! ## The choice -/

/-- Nothing against a candidate. -/
theorem recipeRejectionReason_eq_none (h : c.recipeRejectionReason env request recipe = none) :
    recipe.task = request.task ∧ request.mode ∈ recipe.allowedModes ∧
      requiredModelLen env (requestWithRecipeDefaults request recipe) recipe c.policy ≤
        (recipeRequirements recipe).contextBudgetTokens ∧
      (∀ ref ∈ request.inputRefs, ∃ tooLarge badMime,
        inputRefReason recipe tooLarge badMime ref = none) ∧
      ∀ item ∈ request.inlineInputs, ∃ badMime, inlineMimeReason recipe badMime item.2 = none := by
  simp only [recipeRejectionReason, Option.orElse_eq_none, reject_eq_none,
    List.findSome?_eq_none_iff] at h
  obtain ⟨-, htask, -, -, hmode, -, hlen, hrefs, hinline⟩ := h
  exact ⟨not_not.mp (of_decide_eq_false htask), not_not.mp (of_decide_eq_false hmode),
    not_lt.mp (of_decide_eq_false hlen), fun ref href => ⟨_, _, hrefs ref href⟩,
    fun item hitem => ⟨_, hinline item hitem⟩⟩

theorem inlineMimeReason_eq_none {badMime : String → String} {item : InlineValue}
    (h : inlineMimeReason recipe badMime item = none) (other : String → String) :
    inlineMimeReason recipe other item = none := by
  unfold inlineMimeReason at h ⊢
  dsimp only at h ⊢
  split
  · next hdeclared =>
    rw [if_pos hdeclared, reject_eq_none] at h
    rw [reject_eq_none, h]
  · rfl

theorem inputRefReason_eq_none {tooLarge : String} {badMime : String → String} {ref : DataRef}
    (h : inputRefReason recipe tooLarge badMime ref = none) (otherSize : String)
    (otherMime : String → String) : inputRefReason recipe otherSize otherMime ref = none := by
  simp only [inputRefReason, Option.orElse_eq_none] at h ⊢
  obtain ⟨hsize, hmime⟩ := h
  constructor
  · cases hlimit : recipe.maxInputBytes with
    | none => rfl
    | some limit =>
      cases hbytes : ref.bytes with
      | none => rfl
      | some n => simpa [hlimit, hbytes] using hsize
  · split
    · next hdeclared =>
      rw [if_pos hdeclared, reject_eq_none] at hmime
      rw [reject_eq_none, hmime]
    · rfl

/-- The checks of a request that no candidate's own limits enter are the same for all of them. -/
theorem validationError_of_candidate {other : Recipe}
    (hrecipe : c.recipeRejectionReason env request recipe = none)
    (hother : c.recipeRejectionReason env request other = none)
    (hvalid : c.validationError env instant request other = none) :
    c.validationError env instant request recipe = none := by
  obtain ⟨htask, hmode, -, hrefs, hinline⟩ := recipeRejectionReason_eq_none hrecipe
  obtain ⟨htask', -⟩ := recipeRejectionReason_eq_none hother
  simp only [validationError, Option.orElse_eq_none, reject_eq_none, List.findSome?_eq_none_iff,
    htask, htask'] at hvalid ⊢
  obtain ⟨-, hmessages, hrequest, hsha, hbytes, -, hexpired⟩ := hvalid
  refine ⟨decide_eq_false (not_not.mpr hmode), hmessages, hrequest, hsha, hbytes,
    fun item hitem => ?_, fun ref href => ⟨(hexpired ref href).1, ?_⟩⟩
  · obtain ⟨_, hnone⟩ := hinline item hitem
    exact inlineMimeReason_eq_none hnone _
  · obtain ⟨_, _, hnone⟩ := hrefs ref href
    exact inputRefReason_eq_none hnone _ _

theorem mem_recipeOrder : recipe ∈ c.recipeOrder env request ↔
    recipe ∈ c.recipes.values ∧ c.recipeRejectionReason env request recipe = none := by
  rw [recipeOrder, List.mem_insertionSort, List.mem_filter, Option.isNone_iff_eq_none]

theorem selectRecipe_eq
    (h : (c.recipeOrder env request).find? (c.probe env instant request) = some recipe) :
    c.selectRecipe env instant request = .ok recipe := by
  unfold selectRecipe
  dsimp only
  split
  · next hnil =>
    have horder : c.recipeOrder env request = [] := hnil
    rw [horder] at h
    cases h
  · exact congrArg (fun found => Except.ok (Option.getD found _)) h

theorem recipeFor_auto (hnamed : request.recipe = none) (htask : request.task ∈ supportedTasks) :
    c.recipeFor env instant request = c.selectRecipe env instant request := by
  rw [recipeFor, if_neg (not_not.mpr htask), hnamed]

theorem recipeFor_named (hnamed : request.recipe = some name)
    (hget : c.recipes.get? name = some recipe)
    (h : c.recipeFor env instant request = .ok chosen) :
    chosen = recipe ∧ request.task ∈ supportedTasks := by
  unfold recipeFor raiseGovernance at h
  split at h
  · cases h
  next htask =>
  rw [hnamed] at h
  dsimp only at h
  rw [hget] at h
  dsimp only at h
  split at h
  · cases h
  exact ⟨(Except.ok.inj h).symm, not_not.mp htask⟩

/-- A recipe under which the request compiles is found by the probe. -/
theorem probe_of_named (hrequested : truthyStr request.requestedTuple = false)
    (hget : c.recipes.get? name = some recipe)
    (h : c.compile env instant planId (request.withRecipe name) = .ok plan) :
    request.task ∈ supportedTasks ∧ c.validationError env instant request recipe = none ∧
      c.probe env instant request recipe := by
  obtain ⟨chosen, hchosen, hplan⟩ := compile_cases h
  obtain ⟨rfl, htask⟩ := recipeFor_named rfl hget hchosen
  rw [requestWithRecipeDefaults_withRecipe] at hplan
  have hkept : ((requestWithRecipeDefaults request chosen).withRecipe name).requestedTuple =
      request.requestedTuple := by rw [requestWithRecipeDefaults_eq]; rfl
  obtain ⟨hvalid, -, hserves⟩ := (exists_compileWith_iff (by rwa [hkept])).mp ⟨plan, hplan⟩
  rw [validationError_withRecipe, requestWithRecipeDefaults_eq, validationError_maxTokens] at hvalid
  obtain ⟨first, hfirst, -⟩ := hserves.available
  rw [eligibleTuples, eligibleTuplesFrom_withRecipe] at hfirst
  refine ⟨htask, hvalid, ?_⟩
  rw [probe, Bool.not_eq_true', List.isEmpty_eq_false_iff]
  exact List.ne_nil_of_mem hfirst

/-- **Automatic choice against named compilation.** Where some recipe that may be chosen would serve
the request under its own name, the request compiles without a name exactly if the first recipe
with an eligible tuple serves it too. -/
theorem exists_compile_iff (env : Environment) (c : GovernanceCompiler) (instant : Instant)
    (planId namedId : String) (request : TaskRequest) (name : String) (named : Recipe)
    (plan : CompiledPlan) (hauto : request.recipe = none)
    (hrequested : truthyStr request.requestedTuple = false)
    (hget : c.recipes.get? name = some named)
    (hreason : c.recipeRejectionReason env request named = none)
    (hnamed : c.compile env instant namedId (request.withRecipe name) = .ok plan) :
    (∃ plan, c.compile env instant planId request = .ok plan) ↔
      ∀ recipe, (c.recipeOrder env request).find? (c.probe env instant request) = some recipe →
        Serves env c instant (requestWithRecipeDefaults request recipe) recipe := by
  obtain ⟨htask, hvalid, hprobe⟩ := probe_of_named hrequested hget hnamed
  have hmem : named ∈ c.recipeOrder env request :=
    mem_recipeOrder.mpr ⟨List.mem_map_of_mem (Dict.get?_eq_some.mp hget), hreason⟩
  obtain ⟨chosen, hchosen⟩ := Option.isSome_iff_exists.mp
    (List.find?_isSome.mpr ⟨named, hmem, hprobe⟩)
  obtain ⟨-, hcandidate⟩ := mem_recipeOrder.mp (List.mem_of_find?_eq_some hchosen)
  -- only what `Serves` collects is left open once the recipe is chosen
  have hcompile : (∃ plan, c.compile env instant planId request = .ok plan) ↔
      Serves env c instant (requestWithRecipeDefaults request chosen) chosen := by
    have hvalid' := validationError_of_candidate hcandidate hreason hvalid
    have hkept : (requestWithRecipeDefaults request chosen).requestedTuple =
        request.requestedTuple := by rw [requestWithRecipeDefaults_eq]
    have hsame : c.validationError env instant (requestWithRecipeDefaults request chosen) chosen =
        c.validationError env instant request chosen := by
      rw [requestWithRecipeDefaults_eq, validationError_maxTokens]
    rw [compile, recipeFor_auto hauto htask, selectRecipe_eq hchosen]
    refine (exists_compileWith_iff (by rwa [hkept])).trans ?_
    rw [hsame, and_iff_right hvalid',
      and_iff_right (recipeRejectionReason_eq_none hcandidate).2.2.1]
  rw [hcompile, hchosen]
  exact ⟨fun h _ heq => Option.some.inj heq ▸ h, fun h => h chosen rfl⟩

/-! ## Two recipes on two tuples -/

/-- Two recipes, each validated on one tuple of its own. -/
def twoRecipes (breakers : String → CircuitBreaker) : GovernanceCompiler :=
  { twoModalTuples with
    recipes := { entries := [("text-infer-standard", textRecipe),
      ("text-infer-wide", { textRecipe with name := "text-infer-wide" })] }
    registry := { breakers := breakers }
    validatedRoutes := [("modal-a10g", "text-infer-standard", "sync"),
      ("modal-h100", "text-infer-wide", "sync")] }

/-- The breaker of one tuple after three failures at time zero. -/
def a10gOpened (name : String) : CircuitBreaker :=
  if name = "modal-a10g" then (List.range 3).foldl (fun b _ => b.record false 0) {} else {}

theorem exists_compile_iff_twoRecipes :
    ∃ plan, (twoRecipes fun _ => {}).compile modalEnvironment noon "plan-1"
        (promptRequest.withRecipe "text-infer-wide") = .ok plan ∧
      ((∃ plan, (twoRecipes fun _ => {}).compile modalEnvironment noon "plan-1" promptRequest =
          .ok plan) ↔
        ∀ recipe, ((twoRecipes fun _ => {}).recipeOrder modalEnvironment promptRequest).find?
            ((twoRecipes fun _ => {}).probe modalEnvironment noon promptRequest) = some recipe →
          Serves modalEnvironment (twoRecipes fun _ => {}) noon
            (requestWithRecipeDefaults promptRequest recipe) recipe) := by
  obtain ⟨plan, hplan, -⟩ := exists_ok_of_map (show
    ((twoRecipes fun _ => {}).compile modalEnvironment noon "plan-1"
      (promptRequest.withRecipe "text-infer-wide")).toOption.map (·.tupleChain) =
        some ["modal-h100"] by decide +kernel)
  exact ⟨plan, hplan, exists_compile_iff modalEnvironment (twoRecipes fun _ => {}) noon "plan-1"
    "plan-1" promptRequest "text-infer-wide" { textRecipe with name := "text-infer-wide" } plan rfl
    rfl rfl (by decide +kernel) hplan⟩

/-- Automatic choice never hides a working route. -/
def NeverHidesRoute : Prop :=
  ∀ (env : Environment) (c : GovernanceCompiler) (instant : Instant) (planId namedId : String)
    (request : TaskRequest) (name : String) (named : Recipe) (plan : CompiledPlan),
    request.recipe = none → request.requestedTuple = none → c.recipes.get? name = some named →
    c.recipeRejectionReason env request named = none →
    c.compile env instant namedId (request.withRecipe name) = .ok plan →
    ∃ plan, c.compile env instant planId request = .ok plan

/-- The breaker of the only tuple of the recipe that comes first is open. -/
theorem not_neverHidesRoute : ¬ NeverHidesRoute := by
  intro h
  obtain ⟨plan, hplan, -⟩ := exists_ok_of_map (show
    ((twoRecipes a10gOpened).compile modalEnvironment noon "plan-1"
      (promptRequest.withRecipe "text-infer-wide")).toOption.map (·.tupleChain) =
        some ["modal-h100"] by decide +kernel)
  obtain ⟨auto, hauto⟩ := h modalEnvironment (twoRecipes a10gOpened) noon "plan-1" "plan-1"
    promptRequest "text-infer-wide" { textRecipe with name := "text-infer-wide" } plan rfl rfl rfl
    (by decide +kernel) hplan
  have hrefused : ((twoRecipes a10gOpened).compile modalEnvironment noon "plan-1"
      promptRequest).toOption.isSome = false := by decide +kernel
  rw [hauto] at hrefused
  cases hrefused

end GovernanceCompiler

end Gpucall
