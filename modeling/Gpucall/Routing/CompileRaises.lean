import Gpucall.Routing.RecipeChoice
import Gpucall.Routing.CatalogOrder

/-! What escapes from `compile` besides a plan and a `GovernanceError`. `compile` is read again with the
places where Python raises of its own: the comparison of an `expires_at` without an offset, and the sum
of a price's observation and its lifetime. `Unraised` says of a request that it passes them all. -/

namespace Gpucall

/-- `observed + timedelta(seconds=ttl)` of a configured price leaves the range of `datetime`. -/
def priceOverflows (env : Environment) (tuple : ExecutionTupleSpec) : Bool :=
  tuple.costPerSecond ≠ 0 && truthyStr tuple.configuredPriceSource &&
    truthyStr tuple.configuredPriceObservedAt &&
    match tuple.configuredPriceTtlSeconds, env.parseTime (tuple.configuredPriceObservedAt.getD "") with
    | some ttl, some observed => (DateTime.ofMicroseconds?
        (observed.toMicroseconds + DateTime.timedeltaMicroseconds ttl)).isNone
    | _, _ => false

inductive CompileRaise where
  | error (e : CompileError)
  /-- The `TypeError` of a comparison between a naive and an aware `datetime`. -/
  | naiveExpiry
  /-- The `OverflowError` of a date. -/
  | priceOverflow

/-- It is a `GovernanceError`. -/
def CompileRaise.Governed : CompileRaise → Prop
  | .error (.governance _) => True
  | _ => False

instance : (e : CompileRaise) → Decidable e.Governed
  | .error (.governance _) => .isTrue trivial
  | .error .tokenBudgetNotPositive | .error .keyError | .naiveExpiry | .priceOverflow => .isFalse id

namespace GovernanceCompiler

/-! ## The raising compilation -/

section Raising

variable (env : Environment) (c : GovernanceCompiler) (instant : Instant)

/-- The checks of `_validate_request_against_recipe` before its loop over the data refs. -/
def validationErrorBeforeRefs (request : TaskRequest) (recipe : Recipe) : Option String :=
  let inlineBytes := (request.inlineInputs.map fun item => item.2.value.utf8ByteSize).sum
  reject (request.mode ∉ recipe.allowedModes)
      ("mode " ++ request.mode.value ++ " is not allowed for recipe " ++ recipe.name) <|>
    reject (!request.messages.isEmpty &&
      (!request.inlineInputs.isEmpty || !request.inputRefs.isEmpty))
      "messages cannot be combined with inline_inputs or input_refs in v2.0" <|>
    taskReason env request recipe.task <|>
    reject (c.policy.security.requireDataRefSha256 && request.inputRefs.any (·.sha256.isNone))
      "data_ref sha256 is required by security policy" <|>
    reject (c.policy.inlineBytesLimit < inlineBytes)
      "inline input exceeds policy limit; use signed object references" <|>
    request.inlineInputs.findSome? fun item => inlineMimeReason recipe (fun contentType =>
      "inline content_type " ++ env.repr contentType ++ " is not allowed for recipe " ++
        recipe.name) item.2

/-- What the loop has against a data ref whose `expires_at` is aware. -/
def dataRefError (recipe : Recipe) (ref : DataRef) : Option String :=
  reject (ref.expiresAt.any (· ≤ instant.now)) "input data_ref is expired" <|>
    inputRefReason recipe
      ("input data_ref exceeds recipe max_input_bytes " ++
        toString ((recipe.maxInputBytes.map fun n => (n : ℕ)).getD 0))
      (fun contentType => "input content_type " ++ env.repr contentType ++
        " is not allowed for recipe " ++ recipe.name) ref

theorem validationError_eq (request : TaskRequest) (recipe : Recipe) :
    c.validationError env instant request recipe =
      (c.validationErrorBeforeRefs env request recipe <|>
        request.inputRefs.findSome? fun ref => dataRefError env instant recipe ref) := by
  simp only [validationError, validationErrorBeforeRefs, dataRefError, Option.orElse_eq_orElse,
    Option.orElse_eq_or, Option.or_assoc]

/-- The loop over the data refs from place `i` on; `naive` tells at which places the `expires_at` has
no offset. -/
def checkDataRefs (naive : ℕ → Bool) (recipe : Recipe) (i : ℕ) :
    List DataRef → Except CompileRaise Unit
  | [] => .ok ()
  | ref :: refs =>
    if ref.expiresAt.isSome && naive i then .error .naiveExpiry
    else
      match dataRefError env instant recipe ref with
      | some message => .error (.error (.governance { message }))
      | none => checkDataRefs naive recipe (i + 1) refs

/-- The cost gate of automatic selection reads a price that overflows. -/
def costRaises (request : TaskRequest) (recipe : Recipe) (name : String) : Bool :=
  name ≠ "" && (c.tuples.get? name).any fun tuple =>
    (c.routeRejectionReason env tuple request recipe true).isNone &&
      (c.routeValidationRejectionReason env tuple request recipe true).isNone &&
      priceOverflows env tuple

/-- `_eligible_tuples(sorted(self.tuples), auto_selected=True)` raises. -/
def eligibleRaises (request : TaskRequest) (recipe : Recipe) : Bool :=
  c.tuples.sortedKeys.any (c.costRaises env request recipe)

/-- `_select_recipe` raises: the first candidate at which its loop stops is one at which it raises. -/
def selectionRaises (request : TaskRequest) : Bool :=
  let raises (recipe : Recipe) :=
    c.eligibleRaises env (requestWithRecipeDefaults request recipe) recipe
  ((c.recipeOrder env request).find? fun recipe =>
    raises recipe || c.probe env instant request recipe).any raises

/-- The end of `compile`: the budget, the price of the first tuple and its key release. -/
def planRaising (planId : String) (request : TaskRequest) (recipe : Recipe) (chain : List String) :
    Except CompileRaise CompiledPlan := do
  let budget ← (checkedTokenBudget (tokenBudget request c.policy)).mapError .error
  match chain.head?.bind c.tuples.get? with
  | none => throw (.error .keyError)
  | some tuple =>
    if priceOverflows env tuple then
      throw .priceOverflow
    let requirement ← (c.keyReleaseRequirement request recipe tuple).mapError .error
    return c.planOf env planId request recipe chain budget
      (c.attestationsFor env instant request recipe tuple requirement)

/-- `compile` once the chain has been found. -/
def chainRaising (planId : String) (request : TaskRequest) (recipe : Recipe) (chain : List String) :
    Except CompileRaise CompiledPlan := do
  let requiredLen := requiredModelLen env request recipe c.policy
  let ceiling := (recipeRequirements recipe).contextBudgetTokens
  if ceiling < requiredLen then
    throw <| .error <| .governance {
      message := "required model length " ++ toString requiredLen ++
        " exceeds recipe context budget " ++ toString (ceiling : ℕ)
      code := "REQUEST_EXCEEDS_RECIPE_CONTEXT"
      context := [("required_model_len", .number (toString requiredLen)),
        ("recipe_context_budget_tokens", .number (toString (ceiling : ℕ))),
        ("recipe", .str recipe.name), ("task", .str request.task)] }
  if c.leaseTtlSeconds request recipe < c.timeoutSeconds request recipe then
    throw <| .error <| .governance
      { message := "timeout_seconds must not exceed lease_ttl_seconds" }
  c.planRaising env instant planId request recipe chain

/-- `compile` after the recipe has been found. -/
def compileWithRaising (naive : ℕ → Bool) (planId : String) (request : TaskRequest)
    (recipe : Recipe) : Except CompileRaise CompiledPlan := do
  if let some message := c.validationErrorBeforeRefs env request recipe then
    throw (.error (.governance { message }))
  checkDataRefs env instant naive recipe 0 request.inputRefs
  if !truthyStr request.requestedTuple && c.eligibleRaises env request recipe then
    throw .priceOverflow
  let chain ← (c.tupleChain env instant request recipe).mapError .error
  c.chainRaising env instant planId request recipe chain

/-- `compile` with all that it raises. -/
def compileRaising (naive : ℕ → Bool) (planId : String) (request : TaskRequest) :
    Except CompileRaise CompiledPlan := do
  if request.task ∈ supportedTasks && request.recipe.isNone &&
      c.selectionRaises env instant request then
    throw .priceOverflow
  let recipe ← (c.recipeFor env instant request).mapError .error
  c.compileWithRaising env instant naive planId (requestWithRecipeDefaults request recipe) recipe

end Raising

variable {env : Environment} {c : GovernanceCompiler} {instant : Instant} {naive : ℕ → Bool}
  {planId : String} {request : TaskRequest} {recipe : Recipe}

/-! ## The data refs -/

/-- The loop comes to a data ref whose `expires_at` is naive. -/
def ReachesNaiveExpiry (env : Environment) (instant : Instant) (naive : ℕ → Bool) (recipe : Recipe)
    (i : ℕ) (refs : List DataRef) : Prop :=
  ∃ before ref after, refs = before ++ ref :: after ∧
    (∀ earlier ∈ before, dataRefError env instant recipe earlier = none) ∧
    ref.expiresAt.isSome ∧ naive (i + before.length)

theorem reachesNaiveExpiry_cons {ref : DataRef} {refs : List DataRef} {i : ℕ} :
    ReachesNaiveExpiry env instant naive recipe i (ref :: refs) ↔
      (ref.expiresAt.isSome ∧ naive i) ∨
        (dataRefError env instant recipe ref = none ∧
          ReachesNaiveExpiry env instant naive recipe (i + 1) refs) := by
  constructor
  · rintro ⟨before, reached, after, hsplit, hbefore, hexpiry, hnaive⟩
    rcases before with _ | ⟨first, before⟩
    · obtain ⟨rfl, rfl⟩ := List.cons.inj hsplit
      exact .inl ⟨hexpiry, hnaive⟩
    · obtain ⟨rfl, hrest⟩ := List.cons.inj hsplit
      refine .inr ⟨hbefore _ List.mem_cons_self, before, reached, after, hrest,
        fun earlier h => hbefore _ (List.mem_cons_of_mem _ h), hexpiry, ?_⟩
      rwa [List.length_cons, ← Nat.add_assoc, Nat.add_right_comm] at hnaive
  · rintro (⟨hexpiry, hnaive⟩ | ⟨hnone, before, reached, after, rfl, hbefore, hexpiry, hnaive⟩)
    · exact ⟨[], ref, refs, rfl, fun _ h => absurd h List.not_mem_nil, hexpiry, hnaive⟩
    · refine ⟨ref :: before, reached, after, rfl, fun earlier h => ?_, hexpiry, ?_⟩
      · obtain rfl | h := List.mem_cons.mp h
        · exact hnone
        · exact hbefore earlier h
      · rwa [List.length_cons, ← Nat.add_assoc, Nat.add_right_comm]

theorem checkDataRefs_naive_iff {refs : List DataRef} {i : ℕ} :
    checkDataRefs env instant naive recipe i refs = .error .naiveExpiry ↔
      ReachesNaiveExpiry env instant naive recipe i refs := by
  induction refs generalizing i with
  | nil =>
    refine ⟨fun h => (by cases h), ?_⟩
    rintro ⟨before, ref, after, hsplit, -⟩
    exact absurd hsplit (List.append_ne_nil_of_right_ne_nil _ (List.cons_ne_nil _ _)).symm
  | cons ref refs ih =>
    rw [reachesNaiveExpiry_cons, ← ih, checkDataRefs]
    split
    · next hnaive => simp_all
    · next hnaive =>
      split
      · next message hmessage => simp_all
      · next hnone => simp_all

/-- Where the loop comes to no naive `expires_at`, it finds what the validation finds. -/
theorem checkDataRefs_of_aware {refs : List DataRef} {i : ℕ}
    (h : ¬ ReachesNaiveExpiry env instant naive recipe i refs) :
    checkDataRefs env instant naive recipe i refs =
      match refs.findSome? fun ref => dataRefError env instant recipe ref with
      | some message => .error (.error (.governance { message }))
      | none => .ok () := by
  induction refs generalizing i with
  | nil => rfl
  | cons ref refs ih =>
    rw [reachesNaiveExpiry_cons, not_or] at h
    obtain ⟨haware, hrest⟩ := h
    rw [checkDataRefs, if_neg (by simpa using haware), List.findSome?_cons]
    cases hreason : dataRefError env instant recipe ref with
    | some message => rfl
    | none => exact ih fun hreach => hrest ⟨hreason, hreach⟩

/-! ## What a request passes -/

/-- The compilation under one recipe passes each place that raises. -/
structure UnraisedWith (env : Environment) (c : GovernanceCompiler) (instant : Instant)
    (naive : ℕ → Bool) (request : TaskRequest) (recipe : Recipe) : Prop where
  expiry : c.validationErrorBeforeRefs env request recipe = none →
    ¬ ReachesNaiveExpiry env instant naive recipe 0 request.inputRefs
  price : c.validationError env instant request recipe = none →
    truthyStr request.requestedTuple = false → c.eligibleRaises env request recipe = false
  /-- The plan is built only with a positive token budget and the price of its first tuple. -/
  plan : c.validationError env instant request recipe = none → ∀ chain,
    c.tupleChain env instant request recipe = .ok chain →
    requiredModelLen env request recipe c.policy ≤ (recipeRequirements recipe).contextBudgetTokens →
    c.timeoutSeconds request recipe ≤ c.leaseTtlSeconds request recipe →
    tokenBudget request c.policy ≠ some 0 ∧
      ∀ tuple, chain.head?.bind c.tuples.get? = some tuple → priceOverflows env tuple = false

/-- The compilation passes each place that raises. -/
structure Unraised (env : Environment) (c : GovernanceCompiler) (instant : Instant)
    (naive : ℕ → Bool) (request : TaskRequest) : Prop where
  selection : request.task ∈ supportedTasks → request.recipe = none →
    c.selectionRaises env instant request = false
  recipe : ∀ recipe, c.recipeFor env instant request = .ok recipe →
    UnraisedWith env c instant naive (requestWithRecipeDefaults request recipe) recipe

/-- It ends in a plan or in a `GovernanceError`. -/
def Governs (result : Except CompileRaise CompiledPlan) : Prop :=
  match result with
  | .ok _ => True
  | .error e => e.Governed

instance : (result : Except CompileRaise CompiledPlan) → Decidable (Governs result)
  | .ok _ => .isTrue trivial
  | .error e => inferInstanceAs (Decidable e.Governed)

theorem checkedTokenBudget_eq (budget : Option ℕ) :
    (∃ checked, checkedTokenBudget budget = .ok checked ∧ budget ≠ some 0) ∨
      (checkedTokenBudget budget = .error .tokenBudgetNotPositive ∧ budget = some 0) := by
  rcases budget with _ | _ | n
  · exact .inl ⟨_, rfl, nofun⟩
  · exact .inr ⟨rfl, rfl⟩
  · exact .inl ⟨_, rfl, nofun⟩

theorem governs_planRaising_iff {chain : List String}
    (hchain : c.tupleChain env instant request recipe = .ok chain) :
    Governs (c.planRaising env instant planId request recipe chain) ↔
      tokenBudget request c.policy ≠ some 0 ∧
        ∀ tuple, chain.head?.bind c.tuples.get? = some tuple → priceOverflows env tuple = false := by
  obtain ⟨tuple, htuple⟩ := tupleChain_head hchain
  simp only [planRaising, htuple, Option.some.injEq, forall_eq', bind, Except.bind, pure, Except.pure,
    throw, throwThe, MonadExceptOf.throw]
  obtain ⟨checked, hchecked, hbudget⟩ | ⟨hchecked, hbudget⟩ :=
    checkedTokenBudget_eq (tokenBudget request c.policy)
  · cases hprice : priceOverflows env tuple with
    | true => simp [hchecked, Except.mapError, Governs, CompileRaise.Governed]
    | false =>
      cases hkey : c.keyReleaseRequirement request recipe tuple with
      | ok requirement => simp [hchecked, hbudget, Except.mapError, Governs]
      | error e =>
        obtain ⟨error, rfl⟩ := keyReleaseRequirement_error hkey
        simp [hchecked, hbudget, Except.mapError, Governs, CompileRaise.Governed]
  · simp only [hchecked]
    simp [hbudget, Except.mapError, Governs, CompileRaise.Governed]

theorem governs_chainRaising_iff {chain : List String}
    (hchain : c.tupleChain env instant request recipe = .ok chain) :
    Governs (c.chainRaising env instant planId request recipe chain) ↔
      (requiredModelLen env request recipe c.policy ≤
          (recipeRequirements recipe).contextBudgetTokens →
        c.timeoutSeconds request recipe ≤ c.leaseTtlSeconds request recipe →
        tokenBudget request c.policy ≠ some 0 ∧ ∀ tuple,
          chain.head?.bind c.tuples.get? = some tuple → priceOverflows env tuple = false) := by
  by_cases hcontext : (recipeRequirements recipe).contextBudgetTokens <
      requiredModelLen env request recipe c.policy
  · refine iff_of_true ?_ fun h => absurd h (not_le.mpr hcontext)
    simp [chainRaising, hcontext, bind, Except.bind, throw, throwThe, MonadExceptOf.throw, Governs,
      CompileRaise.Governed]
  by_cases hlease : c.leaseTtlSeconds request recipe < c.timeoutSeconds request recipe
  · refine iff_of_true ?_ fun _ h => absurd h (not_le.mpr hlease)
    simp [chainRaising, hcontext, hlease, bind, Except.bind, throw, throwThe, MonadExceptOf.throw,
      Governs, CompileRaise.Governed]
  rw [imp_iff_right (not_lt.mp hcontext), imp_iff_right (not_lt.mp hlease),
    ← governs_planRaising_iff hchain]
  exact iff_of_eq (congrArg Governs (by rw [chainRaising, if_neg hcontext, if_neg hlease]))

/-- A valid request with aware data refs is left with the eligible tuples and their chain. -/
theorem governs_compileWithRaising_of_valid
    (hvalid : c.validationError env instant request recipe = none)
    (haware : ¬ ReachesNaiveExpiry env instant naive recipe 0 request.inputRefs) :
    Governs (c.compileWithRaising env instant naive planId request recipe) ↔
      UnraisedWith env c instant naive request recipe := by
  obtain ⟨hbefore, hrefs⟩ : c.validationErrorBeforeRefs env request recipe = none ∧
      (request.inputRefs.findSome? fun ref => dataRefError env instant recipe ref) = none := by
    rwa [validationError_eq, Option.orElse_eq_orElse, Option.orElse_eq_or, Option.or_eq_none_iff]
      at hvalid
  have hchecked : checkDataRefs env instant naive recipe 0 request.inputRefs = .ok () := by
    rw [checkDataRefs_of_aware haware, hrefs]
  cases heligible : !truthyStr request.requestedTuple && c.eligibleRaises env request recipe with
  | true =>
    obtain ⟨hauto, hraises⟩ := Bool.and_eq_true_iff.mp heligible
    refine iff_of_false ?_ fun h => absurd (h.price hvalid (by simpa using hauto)) (by simp [hraises])
    simp [compileWithRaising, hbefore, hchecked, heligible, bind, Except.bind, throw, throwThe,
      MonadExceptOf.throw, Governs, CompileRaise.Governed]
  | false =>
    have hprice : truthyStr request.requestedTuple = false →
        c.eligibleRaises env request recipe = false := fun hauto => by simpa [hauto] using heligible
    cases hchain : c.tupleChain env instant request recipe with
    | error e =>
      obtain ⟨error, rfl⟩ := tupleChain_error hchain
      refine iff_of_true ?_ ⟨fun _ => haware, fun _ => hprice, fun _ chain h => ?_⟩
      · simp [compileWithRaising, hbefore, hchecked, heligible, hchain, bind, Except.bind,
          Except.mapError, Governs, CompileRaise.Governed]
      · exact absurd (hchain.symm.trans h) (by simp)
    | ok chain =>
      have heq : c.compileWithRaising env instant naive planId request recipe =
          c.chainRaising env instant planId request recipe chain := by
        simp [compileWithRaising, hbefore, hchecked, heligible, hchain, bind, Except.bind,
          Except.mapError]
      rw [heq, governs_chainRaising_iff hchain]
      refine ⟨fun h => ⟨fun _ => haware, fun _ => hprice, ?_⟩, fun h => h.plan hvalid chain hchain⟩
      rintro - other hother
      obtain rfl := Except.ok.inj (hchain.symm.trans hother)
      exact h

theorem governs_compileWithRaising_iff :
    Governs (c.compileWithRaising env instant naive planId request recipe) ↔
      UnraisedWith env c instant naive request recipe := by
  cases hbefore : c.validationErrorBeforeRefs env request recipe with
  | some message =>
    have hinvalid : c.validationError env instant request recipe ≠ none := by
      simp [validationError_eq, hbefore]
    refine iff_of_true ?_ ⟨fun h => absurd (hbefore.symm.trans h) (Option.some_ne_none _),
      fun h => absurd h hinvalid, fun h => absurd h hinvalid⟩
    simp [compileWithRaising, hbefore, bind, Except.bind, throw, throwThe, MonadExceptOf.throw,
      Governs, CompileRaise.Governed]
  | none =>
    by_cases hreach : ReachesNaiveExpiry env instant naive recipe 0 request.inputRefs
    · refine iff_of_false ?_ fun h => h.expiry hbefore hreach
      simp [compileWithRaising, hbefore, checkDataRefs_naive_iff.mpr hreach, bind, Except.bind,
        Governs, CompileRaise.Governed]
    cases hvalid : c.validationError env instant request recipe with
    | none => exact governs_compileWithRaising_of_valid hvalid hreach
    | some message =>
      have hrefs : (request.inputRefs.findSome? fun ref => dataRefError env instant recipe ref) =
          some message := by
        simpa [validationError_eq, hbefore] using hvalid
      have hinvalid : c.validationError env instant request recipe ≠ none := by simp [hvalid]
      refine iff_of_true ?_ ⟨fun _ => hreach, fun h => absurd h hinvalid, fun h => absurd h hinvalid⟩
      simp [compileWithRaising, hbefore, checkDataRefs_of_aware hreach, hrefs, bind, Except.bind,
        Governs, CompileRaise.Governed]

/-- A request that passes each place compiles as `compileWith` says. -/
theorem UnraisedWith.compileWithRaising_eq (h : UnraisedWith env c instant naive request recipe) :
    c.compileWithRaising env instant naive planId request recipe =
      (c.compileWith env instant planId request recipe).mapError .error := by
  cases hbefore : c.validationErrorBeforeRefs env request recipe with
  | some message =>
    simp [compileWithRaising, compileWith, validationError_eq, hbefore, raiseGovernance, bind,
      Except.bind, throw, throwThe, MonadExceptOf.throw, Except.mapError]
  | none =>
    have hchecked := checkDataRefs_of_aware (h.expiry hbefore)
    cases hvalid : c.validationError env instant request recipe with
    | some message =>
      have hrefs : (request.inputRefs.findSome? fun ref => dataRefError env instant recipe ref) =
          some message := by
        simpa [validationError_eq, hbefore] using hvalid
      simp [compileWithRaising, compileWith, hbefore, hvalid, hchecked, hrefs, raiseGovernance, bind,
        Except.bind, Except.mapError]
    | none =>
      have hrefs : (request.inputRefs.findSome? fun ref => dataRefError env instant recipe ref) =
          none := by
        simpa [validationError_eq, hbefore] using hvalid
      have hquiet : (!truthyStr request.requestedTuple && c.eligibleRaises env request recipe) =
          false := by
        simpa using h.price hvalid
      cases hchain : c.tupleChain env instant request recipe with
      | error e =>
        simp [compileWithRaising, compileWith, hbefore, hvalid, hchecked, hrefs, hquiet, hchain, bind,
          Except.bind, Except.mapError]
      | ok chain =>
        have hrest : c.compileWithRaising env instant naive planId request recipe =
            c.chainRaising env instant planId request recipe chain := by
          simp [compileWithRaising, hbefore, hchecked, hrefs, hquiet, hchain, bind, Except.bind,
            Except.mapError]
        rw [hrest, chainRaising]
        by_cases hcontext : (recipeRequirements recipe).contextBudgetTokens <
            requiredModelLen env request recipe c.policy
        · simp [compileWith, hvalid, hchain, hcontext, bind, Except.bind, throw, throwThe,
            MonadExceptOf.throw, Except.mapError]
        by_cases hlease : c.leaseTtlSeconds request recipe < c.timeoutSeconds request recipe
        · simp [compileWith, hvalid, hchain, hcontext, hlease, raiseGovernance, bind, Except.bind,
            throw, throwThe, MonadExceptOf.throw, Except.mapError]
        obtain ⟨hbudget, hprice⟩ :=
          h.plan hvalid chain hchain (not_lt.mp hcontext) (not_lt.mp hlease)
        obtain ⟨checked, hbudget⟩ := checkedTokenBudget_ok hbudget
        obtain ⟨tuple, htuple⟩ := tupleChain_head hchain
        cases hkey : c.keyReleaseRequirement request recipe tuple <;>
          simp [compileWith, planRaising, hvalid, hchain, hcontext, hlease, hbudget, htuple,
            hprice tuple htuple, hkey, bind, Except.bind, pure, Except.pure, Except.mapError]

/-- A request that passes each place compiles as `compile` says. -/
theorem Unraised.compileRaising_eq (h : Unraised env c instant naive request) :
    c.compileRaising env instant naive planId request =
      (c.compile env instant planId request).mapError .error := by
  have hquiet : (decide (request.task ∈ supportedTasks) && request.recipe.isNone &&
      c.selectionRaises env instant request) = false := by
    simpa using h.selection
  rw [compileRaising, hquiet]
  cases hrecipe : c.recipeFor env instant request with
  | error e => simp [compile, hrecipe, bind, Except.bind, Except.mapError]
  | ok recipe =>
    simpa [compile, hrecipe, bind, Except.bind, Except.mapError] using
      (h.recipe recipe hrecipe).compileWithRaising_eq

end GovernanceCompiler

end Gpucall
