import Gpucall.Routing.FailClosed

/-! The order in which the catalog was loaded. The compiler walks the recipes as the dictionary holds
them and sorts the tuples by name; two compilers with the same catalog, loaded in different orders,
compile every request to the same route. -/

namespace Gpucall

/-! ## Dictionaries with the same entries -/

/-- The same entries, inserted in some other order. -/
def Dict.SameEntries (d d' : Dict α) : Prop := d.entries.Perm d'.entries

namespace Dict.SameEntries

variable {d d' : Dict α}

theorem get?_of_mem {d : Dict α} (h : (key, value) ∈ d.entries) : d.get? key = some value := by
  obtain ⟨before, after, hsplit⟩ := List.append_of_mem h
  refine List.lookup_eq_some_iff.mpr ⟨before, after, hsplit, ?_⟩
  intro entry hentry
  have hnodup := d.nodup
  rw [hsplit, List.map_append, List.map_cons] at hnodup
  have hne := (List.nodup_append.mp hnodup).2.2 entry.1 (List.mem_map_of_mem hentry) key
    List.mem_cons_self
  simpa using Ne.symm hne

theorem mem_of_get? {d : Dict α} (h : d.get? key = some value) : (key, value) ∈ d.entries := by
  obtain ⟨before, after, hsplit, -⟩ := List.lookup_eq_some_iff.mp h
  rw [hsplit]
  exact List.mem_append_right _ List.mem_cons_self

theorem get?_eq (h : d.SameEntries d') (key : String) : d.get? key = d'.get? key := by
  refine Option.ext fun value => ⟨fun hv => ?_, fun hv => ?_⟩
  · exact get?_of_mem (h.mem_iff.mp (mem_of_get? hv))
  · exact get?_of_mem (h.mem_iff.mpr (mem_of_get? hv))

theorem getRef?_eq (h : d.SameEntries d') (ref : Option String) : d.getRef? ref = d'.getRef? ref := by
  unfold Dict.getRef?
  split
  · rfl
  · rfl
  · exact h.get?_eq _

theorem values_perm (h : d.SameEntries d') : d.values.Perm d'.values := h.map Prod.snd

theorem sortedKeys_eq (h : d.SameEntries d') : d.sortedKeys = d'.sortedKeys :=
  GroupSort.insertionSort_key_perm id (h.map Prod.fst) fun _ _ _ _ => id

end Dict.SameEntries

/-! ## Loading the recipes -/

/-- The loop of `load_recipes`, over the files and the recipes they hold. -/
def loadRecipesFrom (env : Environment) : Dict Recipe → List (String × Recipe) →
    Except String (Dict Recipe)
  | recipes, [] => .ok recipes
  | recipes, (path, recipe) :: files =>
    if h : recipe.name ∈ recipes.entries.map Prod.fst then
      .error ("duplicate recipe name " ++ env.repr recipe.name ++ " in " ++ path)
    else
      loadRecipesFrom env {
        entries := recipes.entries ++ [(recipe.name, recipe)]
        nodup := by
          rw [List.map_append]
          exact List.Nodup.append recipes.nodup (List.nodup_singleton _)
            (List.disjoint_singleton.mpr h) } files

/-- `load_recipes`, with the path of `root / "recipes"` -/
def loadRecipes (env : Environment) (directory : String) (files : List (String × Recipe)) :
    Except String (Dict Recipe) := do
  let recipes ← loadRecipesFrom env {} files
  if recipes.entries.isEmpty then throw ("no recipes found in " ++ directory)
  return recipes

/-- Every recipe is found under its own name. -/
def Dict.KeyedByName (recipes : Dict Recipe) : Prop :=
  ∀ entry ∈ recipes.entries, entry.1 = entry.2.name

theorem loadRecipesFrom_keyed (hkeyed : recipes.KeyedByName)
    (h : loadRecipesFrom env recipes files = .ok loaded) : loaded.KeyedByName := by
  induction files generalizing recipes with
  | nil =>
    cases h
    exact hkeyed
  | cons file files ih =>
    unfold loadRecipesFrom at h
    split at h
    · cases h
    · refine ih ?_ h
      intro entry hentry
      rcases List.mem_append.mp hentry with hentry | hentry
      · exact hkeyed entry hentry
      · rw [List.mem_singleton.mp hentry]

theorem loadRecipes_keyed (h : loadRecipes env directory files = .ok recipes) :
    recipes.KeyedByName := by
  simp only [loadRecipes, bind, Except.bind] at h
  split at h
  · contradiction
  next loaded hloaded =>
  have hkeyed : loaded.KeyedByName :=
    loadRecipesFrom_keyed (fun _ hentry => absurd hentry List.not_mem_nil) hloaded
  split at h
  · contradiction
  · cases h
    exact hkeyed

theorem Dict.KeyedByName.eq_of_name {recipes : Dict Recipe} (h : recipes.KeyedByName)
    {recipe recipe' : Recipe} (hmem : recipe ∈ recipes.values) (hmem' : recipe' ∈ recipes.values)
    (hname : recipe.name = recipe'.name) : recipe = recipe' := by
  obtain ⟨entry, hentry, rfl⟩ := List.mem_map.mp hmem
  obtain ⟨entry', hentry', rfl⟩ := List.mem_map.mp hmem'
  have hkey : entry.1 = entry'.1 := by rw [h entry hentry, h entry' hentry', hname]
  exact congrArg Prod.snd (List.inj_on_of_nodup_map recipes.nodup hentry hentry' hkey)

namespace GovernanceCompiler

/-! ## Compilers with the same catalog -/

/-- The same deployment, with each dictionary in some other order. -/
structure SameCatalog (c c' : GovernanceCompiler) : Prop where
  policy : c.policy = c'.policy
  recipes : c.recipes.SameEntries c'.recipes
  tuples : c.tuples.SameEntries c'.tuples
  models : c.models.SameEntries c'.models
  engines : c.engines.SameEntries c'.engines
  registry : c.registry = c'.registry
  requireRouteValidation : c.requireRouteValidation = c'.requireRouteValidation
  validatedRoutes : ∀ route, route ∈ c.validatedRoutes ↔ route ∈ c'.validatedRoutes
  policyHash : c.policyHash = c'.policyHash

namespace SameCatalog

variable {c c' : GovernanceCompiler} (h : c.SameCatalog c') (env : Environment) (instant : Instant)
include h

theorem costEstimate : c.costEstimate env instant = c'.costEstimate env instant := by
  funext tuple request recipe
  simp only [GovernanceCompiler.costEstimate, GovernanceCompiler.timeoutSeconds, h.policy]

theorem routeRejectionReason : c.routeRejectionReason env = c'.routeRejectionReason env := by
  funext tuple request recipe autoSelected
  simp only [GovernanceCompiler.routeRejectionReason, GovernanceCompiler.routeQuery, h.policy,
    h.models.getRef?_eq, h.engines.getRef?_eq]

theorem routeValidationRejectionReason :
    c.routeValidationRejectionReason env = c'.routeValidationRejectionReason env := by
  funext tuple request recipe autoSelected
  simp only [GovernanceCompiler.routeValidationRejectionReason, h.requireRouteValidation,
    h.validatedRoutes]

theorem costRejectionReason :
    c.costRejectionReason env instant = c'.costRejectionReason env instant := by
  funext tuple request recipe autoSelected
  simp only [GovernanceCompiler.costRejectionReason, GovernanceCompiler.timeoutSeconds, h.policy]

theorem eligible : c.eligible env instant = c'.eligible env instant := by
  funext request recipe autoSelected tuple
  simp only [GovernanceCompiler.eligible, h.routeRejectionReason, h.routeValidationRejectionReason,
    h.costRejectionReason]

theorem eligibleTuplesFrom (request : TaskRequest) (recipe : Recipe) (autoSelected : Bool)
    (seen candidates : List String) :
    c.eligibleTuplesFrom env instant request recipe autoSelected seen candidates =
      c'.eligibleTuplesFrom env instant request recipe autoSelected seen candidates := by
  induction candidates generalizing seen with
  | nil => rfl
  | cons name candidates ih =>
    simp only [GovernanceCompiler.eligibleTuplesFrom, ih, h.tuples.get?_eq, h.eligible]

theorem eligibleTuples : c.eligibleTuples env instant = c'.eligibleTuples env instant := by
  funext candidates request recipe autoSelected
  exact h.eligibleTuplesFrom env instant request recipe autoSelected [] candidates

theorem tupleRejections : c.tupleRejections env instant = c'.tupleRejections env instant := by
  funext request recipe
  simp only [GovernanceCompiler.tupleRejections, h.tuples.sortedKeys_eq, h.tuples.get?_eq,
    h.routeRejectionReason, h.registry, h.routeValidationRejectionReason, h.costRejectionReason]

/-! ### The chain -/

theorem tupleFitKey : c.tupleFitKey env instant = c'.tupleFitKey env instant := by
  funext request recipe name
  simp only [GovernanceCompiler.tupleFitKey, GovernanceCompiler.fitKeyOf,
    GovernanceCompiler.routeQualityPenalty, GovernanceCompiler.observedReliabilityTier,
    h.tuples.get?_eq, h.policy, h.registry, h.costEstimate]

theorem rankByFitThenObservations :
    c.rankByFitThenObservations env instant = c'.rankByFitThenObservations env instant := by
  funext tuples request recipe
  simp only [GovernanceCompiler.rankByFitThenObservations, GovernanceCompiler.fitOrderedTuples,
    h.tupleFitKey, h.registry]

theorem tupleChain : c.tupleChain env instant = c'.tupleChain env instant := by
  funext request recipe
  simp only [GovernanceCompiler.tupleChain, h.tuples.sortedKeys_eq, h.eligibleTuples,
    h.rankByFitThenObservations, h.tupleRejections, h.policy, h.registry]

/-! ### The recipe -/

theorem recipeRejectionReason : c.recipeRejectionReason env = c'.recipeRejectionReason env := by
  funext request recipe
  simp only [GovernanceCompiler.recipeRejectionReason, h.policy]

theorem largestRequiredModelLen :
    c.largestRequiredModelLen env = c'.largestRequiredModelLen env := by
  funext request
  have hp := h.recipes.values_perm.filter (·.task = request.task)
  unfold GovernanceCompiler.largestRequiredModelLen
  rw [h.policy]
  generalize c.recipes.values.filter _ = matching at hp ⊢
  generalize c'.recipes.values.filter _ = matching' at hp ⊢
  cases matching with
  | nil => rw [hp.nil_eq]
  | cons recipe recipes =>
    cases matching' with
    | nil => exact absurd hp.eq_nil (List.cons_ne_nil _ _)
    | cons recipe' recipes' => exact (hp.map _).foldl_eq 0

theorem largestAutoRecipeModelLen :
    c.largestAutoRecipeModelLen = c'.largestAutoRecipeModelLen := by
  funext task
  have hp := h.recipes.values_perm.filter fun recipe => recipe.task = task && recipe.autoSelect
  unfold GovernanceCompiler.largestAutoRecipeModelLen
  generalize c.recipes.values.filter _ = recipes at hp ⊢
  generalize c'.recipes.values.filter _ = recipes' at hp ⊢
  cases recipes with
  | nil => rw [hp.nil_eq]
  | cons recipe recipes =>
    cases recipes' with
    | nil => exact absurd hp.eq_nil (List.cons_ne_nil _ _)
    | cons recipe' recipes' => exact congrArg some ((hp.map _).foldl_eq 0)

omit h in
theorem name_of_selectionKey {request : TaskRequest} {recipe recipe' : Recipe}
    (heq : recipeSelectionKey request recipe = recipeSelectionKey request recipe') :
    recipe.name = recipe'.name := by
  simp only [recipeSelectionKey, toLex_inj, Prod.mk.injEq] at heq
  exact heq.2.2.2.2

theorem selectRecipe (hnames : c.recipes.KeyedByName) :
    c.selectRecipe env instant = c'.selectRecipe env instant := by
  funext request
  have hcandidates := h.recipes.values_perm.filter fun recipe =>
    (c'.recipeRejectionReason env request recipe).isNone
  have hordered := GroupSort.insertionSort_key_perm (recipeSelectionKey request) hcandidates
    fun recipe hrecipe recipe' hrecipe' heq =>
      hnames.eq_of_name (List.mem_filter.mp hrecipe).1 (List.mem_filter.mp hrecipe').1
        (name_of_selectionKey heq)
  have hrejected := GroupSort.insertionSort_key_perm id (h.recipes.values_perm.filterMap fun recipe =>
    (c'.recipeRejectionReason env request recipe).map fun reason => recipe.name ++ ": " ++ reason)
      fun _ _ _ _ => id
  simp only [id_eq] at hrejected
  simp only [GovernanceCompiler.selectRecipe, h.recipeRejectionReason, hordered, hrejected,
    h.largestRequiredModelLen, h.largestAutoRecipeModelLen, h.tuples.sortedKeys_eq, h.eligibleTuples]

theorem recipeFor (hnames : c.recipes.KeyedByName) :
    c.recipeFor env instant = c'.recipeFor env instant := by
  funext request
  simp only [GovernanceCompiler.recipeFor, h.selectRecipe env instant hnames, h.recipes.get?_eq]

/-! ### The plan -/

theorem timeoutSeconds : c.timeoutSeconds = c'.timeoutSeconds := by
  funext request recipe
  simp only [GovernanceCompiler.timeoutSeconds, h.policy]

theorem leaseTtlSeconds : c.leaseTtlSeconds = c'.leaseTtlSeconds := by
  funext request recipe
  simp only [GovernanceCompiler.leaseTtlSeconds, h.policy]

theorem validationError : c.validationError env instant = c'.validationError env instant := by
  funext request recipe
  simp only [GovernanceCompiler.validationError, h.policy]

theorem keyReleaseRequirement : c.keyReleaseRequirement = c'.keyReleaseRequirement := by
  funext request recipe tuple
  simp only [GovernanceCompiler.keyReleaseRequirement, h.policyHash]

theorem planOf : c.planOf env = c'.planOf env := by
  funext planId request recipe chain budget attestations
  simp only [GovernanceCompiler.planOf, h.policy, h.timeoutSeconds, h.leaseTtlSeconds]

theorem attestationsFor : c.attestationsFor env instant = c'.attestationsFor env instant := by
  funext request recipe tuple requirement
  simp only [GovernanceCompiler.attestationsFor, GovernanceCompiler.modelTrustPolicy, h.policy,
    h.models.getRef?_eq, h.costEstimate]

theorem compileWith : c.compileWith env instant = c'.compileWith env instant := by
  funext planId request recipe
  unfold GovernanceCompiler.compileWith
  rw [h.validationError, h.tupleChain, h.policy, h.timeoutSeconds, h.leaseTtlSeconds,
    h.keyReleaseRequirement, h.planOf, h.attestationsFor, funext h.tuples.get?_eq]

theorem compile (hnames : c.recipes.KeyedByName) :
    c.compile env instant = c'.compile env instant := by
  funext planId request
  simp only [GovernanceCompiler.compile, h.recipeFor env instant hnames, h.compileWith]

end SameCatalog

/-! ## What compile raises -/

section

variable {env : Environment} {c : GovernanceCompiler} {instant : Instant} {request : TaskRequest}
  {recipe : Recipe} {chain : List String} {error : CompileError}

theorem tupleChain_head (h : c.tupleChain env instant request recipe = .ok chain) :
    ∃ tuple, chain.head?.bind c.tuples.get? = some tuple := by
  rcases hrequested : truthyStr request.requestedTuple with _ | _
  · obtain ⟨hne, -, hall⟩ := tupleChain_spec hrequested h
    obtain ⟨name, rest, rfl⟩ := List.exists_cons_of_ne_nil hne
    obtain ⟨-, tuple, htuple, -⟩ := hall name List.mem_cons_self
    exact ⟨tuple, htuple⟩
  · unfold tupleChain at h
    split at h
    · next hr => simp [truthyStr, hr] at hrequested
    · next hr => simp [truthyStr, hr] at hrequested
    next requested hr =>
    split at h
    · contradiction
    next hmem =>
    split at h
    · contradiction
    obtain rfl := Except.ok.inj h
    obtain ⟨-, -, tuple, htuple, -⟩ := eligibleTuplesFrom_mem (not_not.mp hmem)
    exact ⟨tuple, htuple⟩

theorem tupleChain_error (h : c.tupleChain env instant request recipe = .error error) :
    ∃ e, error = .governance e := by
  unfold tupleChain at h
  dsimp only at h
  split at h
  · split at h
    · exact ⟨_, (Except.error.inj h).symm⟩
    · contradiction
  · split at h
    · exact ⟨_, (Except.error.inj h).symm⟩
    · contradiction
  · split at h
    · exact ⟨_, (Except.error.inj h).symm⟩
    split at h
    · exact ⟨_, (Except.error.inj h).symm⟩
    · contradiction

theorem recipeFor_error (h : c.recipeFor env instant request = .error error) :
    ∃ e, error = .governance e := by
  unfold recipeFor at h
  split at h
  · exact ⟨_, (Except.error.inj h).symm⟩
  split at h
  · unfold selectRecipe at h
    dsimp only at h
    split at h
    · exact ⟨_, (Except.error.inj h).symm⟩
    · contradiction
  · split at h
    · exact ⟨_, (Except.error.inj h).symm⟩
    split at h
    · exact ⟨_, (Except.error.inj h).symm⟩
    · contradiction

theorem keyReleaseRequirement_error {tuple : ExecutionTupleSpec}
    (h : c.keyReleaseRequirement request recipe tuple = .error error) :
    ∃ e, error = .governance e := by
  unfold keyReleaseRequirement at h
  split at h
  · contradiction
  split at h
  · exact ⟨_, (Except.error.inj h).symm⟩
  split at h
  · exact ⟨_, (Except.error.inj h).symm⟩
  · contradiction

/-- A budget of tokens that is asked for and rounds down to nothing. -/
theorem checkedTokenBudget_error
    (h : checkedTokenBudget (Gpucall.tokenBudget request c.policy) = .error error) :
    error = .tokenBudgetNotPositive ∧ c.policy.tokenizerSafetyMultiplier < 1 := by
  unfold checkedTokenBudget at h
  split at h
  · contradiction
  · next hbudget =>
    obtain ⟨tokens, htokens, hfloor⟩ := Option.map_eq_some_iff.mp hbudget
    obtain ⟨n, -, hn⟩ := Option.bind_eq_some_iff.mp htokens
    obtain rfl := Option.some.inj hn
    refine ⟨(Except.error.inj h).symm, ?_⟩
    have hone : (1 : ℚ≥0) ≤ (n : ℕ) := by exact_mod_cast one_le (a := n)
    calc c.policy.tokenizerSafetyMultiplier
        ≤ (n : ℕ) * c.policy.tokenizerSafetyMultiplier := le_mul_of_one_le_left zero_le hone
      _ < 1 := Nat.floor_eq_zero.mp hfloor
  · contradiction

theorem compileWith_error (h : c.compileWith env instant planId request recipe = .error error) :
    (∃ e, error = .governance e) ∨
      error = .tokenBudgetNotPositive ∧ c.policy.tokenizerSafetyMultiplier < 1 := by
  simp only [compileWith, raiseGovernance, bind, Except.bind, pure, Except.pure, throw, throwThe,
    MonadExceptOf.throw] at h
  split at h
  · exact .inl ⟨_, (Except.error.inj h).symm⟩
  cases hchain : c.tupleChain env instant request recipe with
  | error e =>
    rw [hchain] at h
    obtain rfl := Except.error.inj h
    exact .inl (tupleChain_error hchain)
  | ok chain =>
    obtain ⟨tuple, htuple⟩ := tupleChain_head hchain
    rw [hchain] at h
    dsimp only at h
    split at h
    · exact .inl ⟨_, (Except.error.inj h).symm⟩
    split at h
    · exact .inl ⟨_, (Except.error.inj h).symm⟩
    split at h
    · next hbudget =>
      obtain rfl := Except.error.inj h
      exact .inr (checkedTokenBudget_error hbudget)
    rw [htuple] at h
    dsimp only at h
    split at h
    · next hkey =>
      obtain rfl := Except.error.inj h
      exact .inl (keyReleaseRequirement_error hkey)
    · contradiction

theorem compile_error (h : c.compile env instant planId request = .error error) :
    (∃ e, error = .governance e) ∨
      error = .tokenBudgetNotPositive ∧ c.policy.tokenizerSafetyMultiplier < 1 := by
  simp only [compile, bind, Except.bind] at h
  split at h
  · next hrecipe =>
    obtain rfl := Except.error.inj h
    exact .inl (recipeFor_error hrecipe)
  · exact compileWith_error h

/-- The id of the plan is a label. -/
theorem compileWith_planId (planId planId' : String) :
    c.compileWith env instant planId' request recipe =
      (c.compileWith env instant planId request recipe).map fun plan =>
        { plan with planId := planId' } := by
  simp only [compileWith, raiseGovernance, bind, Except.bind, pure, Except.pure, throw, throwThe,
    MonadExceptOf.throw]
  split
  · rfl
  split
  · rfl
  split
  · rfl
  split
  · rfl
  split
  · rfl
  split
  · rfl
  split
  · rfl
  · rfl

theorem compile_planId (planId planId' : String) :
    c.compile env instant planId' request =
      (c.compile env instant planId request).map fun plan => { plan with planId := planId' } := by
  simp only [compile, bind, Except.bind]
  split
  · rfl
  · exact compileWith_planId planId planId'

end

/-! ## The same route -/

/-- `_governance_material`: everything but the id of the plan and its attestations -/
def governanceMaterial (plan : CompiledPlan) : CompiledPlan :=
  { plan with planId := "", attestations := {} }

/-- `governance_hash`, where `stableHash` stands for the digest of the dump. -/
def governanceHash (stableHash : CompiledPlan → String) (plan : CompiledPlan) : String :=
  stableHash (governanceMaterial plan)

inductive SameRoute (stableHash : CompiledPlan → String) :
    Except CompileError CompiledPlan → Except CompileError CompiledPlan → Prop
  | raised {e e' : GovernanceError} (hcode : e.code = e'.code) (hcontext : e.context = e'.context) :
    SameRoute stableHash (.error (.governance e)) (.error (.governance e'))
  | planned {plan plan' : CompiledPlan} (hrecipe : plan.recipeName = plan'.recipeName)
    (hchain : plan.tupleChain = plan'.tupleChain)
    (hhash : governanceHash stableHash plan = governanceHash stableHash plan') :
    SameRoute stableHash (.ok plan) (.ok plan')

def twoModalTuplesReversed : GovernanceCompiler :=
  { twoModalTuples with
    tuples := { entries := [("modal-a10g", modalTuple "modal-a10g" 24 (1 / 1000)),
      ("modal-h100", modalTuple "modal-h100" 80 (1 / 100))] } }

theorem SameCatalog.refl (c : GovernanceCompiler) : c.SameCatalog c where
  policy := rfl
  recipes := .refl _
  tuples := .refl _
  models := .refl _
  engines := .refl _
  registry := rfl
  requireRouteValidation := rfl
  validatedRoutes _ := .rfl
  policyHash := rfl

theorem twoModalTuples_keyed : twoModalTuples.recipes.KeyedByName := by
  intro entry hentry
  rw [List.mem_singleton.mp hentry]
  rfl

/-- A token of output counts for half a token. -/
def halfMultiplier : GovernanceCompiler :=
  { twoModalTuples with policy := { twoModalTuples.policy with tokenizerSafetyMultiplier := 1 / 2 } }

def oneToken : TaskRequest := { promptRequest with maxTokens := some 1 }

/-- A recipe for each key, all of one name, with the output they allow; and no tuple. -/
def sharedName (files : List (String × ℕ+)) (h : (files.map Prod.fst).Nodup) : GovernanceCompiler :=
  { twoModalTuples with
    recipes := {
      entries := files.map fun file => (file.1, { textRecipe with maxOutputTokens := some file.2 })
      nodup := by
        rw [List.map_map]
        exact h }
    tuples := {} }

def smallFirst : GovernanceCompiler := sharedName [("small", 10), ("large", 20)] (by decide)

def largeFirst : GovernanceCompiler := sharedName [("large", 20), ("small", 10)] (by decide)

/-- The `required_model_len` of the context, if a governance error is raised. -/
def raisedModelLen : Except CompileError CompiledPlan → Option String
  | .error (.governance e) =>
    match e.context.lookup "required_model_len" with
    | some (.number n) => some n
    | _ => none
  | _ => none

theorem SameRoute.raisedModelLen_eq (h : SameRoute stableHash r r') :
    raisedModelLen r = raisedModelLen r' := by
  cases h with
  | raised _ hcontext => simp only [raisedModelLen, hcontext]
  | planned => rfl

def budgetRefused : Except CompileError CompiledPlan → Bool
  | .error .tokenBudgetNotPositive => true
  | _ => false

theorem SameRoute.not_budgetRefused (h : SameRoute stableHash r r') : budgetRefused r = false := by
  cases h with
  | raised => rfl
  | planned => rfl

end GovernanceCompiler

end Gpucall
