import Gpucall.Lib.GroupSort
import Gpucall.Routing.Costing
import Gpucall.Routing.Registry

/-! `GovernanceCompiler`: which recipe a request gets, which tuples may serve it and in what order,
and the plan that comes out. Everything is read at one instant: `now` is the wall clock and `time` the
reading of `time()` for the circuit breakers. -/

namespace Gpucall

/-! ## Errors -/

structure GovernanceError where
  message : String
  code : String := "GOVERNANCE_ERROR"
  context : List (String × Json) := []

inductive CompileError where
  | governance (error : GovernanceError)
  /-- The `token_budget` of a `CompiledPlan` is a `PositiveInt`. -/
  | tokenBudgetNotPositive
  /-- `self.tuples[tuple_chain[0]]` for a name outside the catalog; no chain has one. -/
  | keyError

def raiseGovernance (message : String) : Except CompileError α := .error (.governance { message })

/-! ## Plans -/

structure ModelTrustPolicy where
  modelRef : Option String
  trustRemoteCode : Bool

structure SecurityGate where
  tuple : String
  dataClassification : DataClassification
  securityTier : SecurityTier
  dedicatedGpu : Bool
  attestationRequired : Bool
  keyReleaseSupported : Bool

structure KeyReleaseRequirement where
  keyId : String
  policyHash : String
  required : Bool := true
  attestationRequired : Bool := true
  gatewayMayGenerateDek : Bool := false

structure AttestationEvidence where
  verified : Bool

structure KeyReleaseGrant where
  keyId : String
  policyHash : String
  expiresAt : Option DateTime

structure ContextEstimate where
  requiredModelLen : ℕ
  tokenBudget : Option ℕ

/-- The attestations of a plan that modelled functions read. `compile` writes the first five;
`attestation_evidence` and `key_release_grant` are read by the dispatcher's gate, and
`storage_safe_plan` marks the copy of a plan that is stored with a job. -/
structure Attestations where
  contextEstimate : Option ContextEstimate := none
  modelTrustPolicy : Option ModelTrustPolicy := none
  costEstimate : Option CostEstimate := none
  securityGate : Option SecurityGate := none
  keyReleaseRequirement : Option KeyReleaseRequirement := none
  attestationEvidence : Option AttestationEvidence := none
  keyReleaseGrant : Option KeyReleaseGrant := none
  storageSafePlan : Bool := false

structure CompiledPlan where
  planId : String
  policyVersion : String
  recipeName : String
  task : String
  mode : ExecutionMode
  dataClassification : DataClassification
  tupleChain : List String
  timeoutSeconds : ℕ+
  leaseTtlSeconds : ℕ+
  tokenEstimationProfile : String
  tokenBudget : Option ℕ+
  maxTokens : Option ℕ+
  temperature : Option ℚ
  topP : Option ℚ
  seed : Option ℤ
  presencePenalty : Option ℚ
  frequencyPenalty : Option ℚ
  tools : Option (List Json)
  toolChoice : Option Json
  functions : Option (List Json)
  functionCall : Option Json
  streamOptions : Option Json
  n : Option ℕ+
  inputRefs : List DataRef
  inlineInputs : List (String × InlineValue)
  messages : List ChatMessage
  responseFormat : Option ResponseFormat
  metadata : List (String × String)
  artifactExport : Option ArtifactExportSpec
  splitLearning : Option SplitLearningSpec
  systemPrompt : Option String
  stopTokens : List String
  repetitionPenalty : Option ℚ≥0
  guidedDecoding : Bool
  outputValidationAttempts : ℕ+
  attestations : Attestations

/-! ## The compiler -/

abbrev RouteValidationKey := String × String × String

structure GovernanceCompiler where
  policy : Policy
  recipes : Dict Recipe
  tuples : Dict ExecutionTupleSpec
  models : Dict ModelSpec := {}
  engines : Dict EngineSpec := {}
  registry : ObservedRegistry
  requireRouteValidation : Bool := false
  validatedRoutes : List RouteValidationKey := []
  /-- `_stable_hash` of the policy -/
  policyHash : String := ""

/-- The two clocks, read once. -/
structure Instant where
  now : DateTime
  time : ℚ

namespace GovernanceCompiler

/-- `SUPPORTED_TASKS` -/
def supportedTasks : List String :=
  ["infer", "vision", "transcribe", "convert", "train", "fine-tune", "split-infer"]

/-- `DEFAULT_AUTO_INTENTS` -/
def defaultAutoIntents : List String :=
  ["short_text_inference", "standard_text_inference", "large_context_text_inference",
    "extra_large_context_text_inference", "ultralong_text_inference", "understand_image"]

/-- `_request_with_recipe_defaults` -/
def requestWithRecipeDefaults (request : TaskRequest) (recipe : Recipe) : TaskRequest :=
  if request.maxTokens.isSome || recipe.maxOutputTokens.isNone then request
  else { request with maxTokens := recipe.maxOutputTokens }

/-- `_required_input_contracts`, as a list -/
def requiredInputContracts (request : TaskRequest) : List InputContract :=
  let required : List InputContract :=
    (if request.task = "transcribe" then [.dataRefs, .audio] else []) ++
      (if request.task = "convert" then [.dataRefs, .document] else []) ++
      (if request.messages.isEmpty then [] else [.chatMessages]) ++
      (if request.inlineInputs.isEmpty then [] else [.text]) ++
      (if request.inputRefs.isEmpty then [] else [.dataRefs]) ++
      (if request.artifactExport.isSome then [.artifactRefs] else []) ++
      (if request.splitLearning.isSome then [.activationRefs] else [])
  if required.isEmpty then [.text] else required

/-- `_inline_mime_prefixes` -/
def inlineMimePrefixes (recipe : Recipe) : List String :=
  if recipe.allowedInlineMimePrefixes.isEmpty then recipe.allowedMimePrefixes
  else recipe.allowedInlineMimePrefixes

def allowedMime (contentType : String) (stems : List String) : Bool :=
  stems.any (startswith contentType)

/-- `_quality_selection_rank` -/
def qualitySelectionRank : RecipeQualityFloor → ℕ
  | .standard | .high | .lossless => 0
  | .draft => 1
  | .smoke => 2

variable (env : Environment) (c : GovernanceCompiler) (instant : Instant)

/-- `min(request.timeout_seconds or recipe.timeout_seconds, policy.max_timeout_seconds)` -/
def timeoutSeconds (request : TaskRequest) (recipe : Recipe) : ℕ+ :=
  min (request.timeoutSeconds.getD recipe.timeoutSeconds) c.policy.maxTimeoutSeconds

def leaseTtlSeconds (request : TaskRequest) (recipe : Recipe) : ℕ+ :=
  min (request.leaseTtlSeconds.getD recipe.leaseTtlSeconds) c.policy.maxLeaseTtlSeconds

def costEstimate (tuple : ExecutionTupleSpec) (request : TaskRequest) (recipe : Recipe) :
    CostEstimate :=
  let requiredLen := requiredModelLen env request recipe c.policy
  let outputTokens := outputContextTokens request
  estimateTupleCost env tuple recipe (c.timeoutSeconds request recipe)
    (some (requiredLen - outputTokens)) (some outputTokens) instant.now

/-! ### Eligible tuples -/

/-- What the compiler asks `tuple_route_rejection_reason`. -/
def routeQuery (request : TaskRequest) (recipe : Recipe) (autoSelected : Bool) : RouteQuery where
  policy := c.policy
  recipe := recipe
  mode := request.mode
  requiredLen := requiredModelLen env request recipe c.policy
  requiredInputContracts := requiredInputContracts request
  requiredOutputContract := requestedOutputContract request recipe
  requireOpenaiChatContract := requiresOpenaiChatContract request
  autoSelected := autoSelected

def routeRejectionReason (tuple : ExecutionTupleSpec) (request : TaskRequest) (recipe : Recipe)
    (autoSelected : Bool) : Option String :=
  tupleRouteRejectionReason env (c.routeQuery env request recipe autoSelected) tuple
    (c.models.getRef? tuple.modelRef) (c.engines.getRef? tuple.engineRef)

/-- `route_validation_required_for_tuple` -/
def routeValidationRequiredForTuple (tuple : ExecutionTupleSpec) : Bool :=
  if isLocalExecutionTuple env tuple && tuple.adapter ∈ ["echo", "local", "local-echo"] then false
  else isProductionRouteCandidate env tuple

/-- `_tuple_route_validation_rejection_reason` -/
def routeValidationRejectionReason (tuple : ExecutionTupleSpec) (request : TaskRequest)
    (recipe : Recipe) (autoSelected : Bool) : Option String :=
  if !autoSelected || !c.requireRouteValidation then none
  else if request.bypassCircuitForValidation then none
  else if !routeValidationRequiredForTuple env tuple then none
  else reject ((tuple.name, recipe.name, request.mode.value) ∉ c.validatedRoutes)
    "missing route validation evidence for recipe and mode"

/-- `_tuple_cost_rejection_reason` -/
def costRejectionReason (tuple : ExecutionTupleSpec) (request : TaskRequest) (recipe : Recipe)
    (autoSelected : Bool) : Option String :=
  if !autoSelected then none
  else
    let requiredLen := requiredModelLen env request recipe c.policy
    let outputTokens := outputContextTokens request
    tupleCostPolicyRejectionReason env c.policy tuple recipe (c.timeoutSeconds request recipe)
      (requiredLen - outputTokens) outputTokens instant.now

/-- The three gates a candidate of `_eligible_tuples` passes. -/
def eligible (request : TaskRequest) (recipe : Recipe) (autoSelected : Bool)
    (tuple : ExecutionTupleSpec) : Bool :=
  (c.routeRejectionReason env tuple request recipe autoSelected).isNone &&
    (c.routeValidationRejectionReason env tuple request recipe autoSelected).isNone &&
    (c.costRejectionReason env instant tuple request recipe autoSelected).isNone

/-- The loop of `_eligible_tuples`, with the names already seen. -/
def eligibleTuplesFrom (request : TaskRequest) (recipe : Recipe) (autoSelected : Bool) :
    List String → List String → List String
  | _, [] => []
  | seen, name :: candidates =>
    if name = "" || name ∈ seen then eligibleTuplesFrom request recipe autoSelected seen candidates
    else
      let rest := eligibleTuplesFrom request recipe autoSelected (name :: seen) candidates
      match c.tuples.get? name with
      | none => rest
      | some tuple => if c.eligible env instant request recipe autoSelected tuple then name :: rest else rest

def eligibleTuples (candidates : List String) (request : TaskRequest) (recipe : Recipe)
    (autoSelected : Bool) : List String :=
  c.eligibleTuplesFrom env instant request recipe autoSelected [] candidates

/-- `_tuple_rejections`: the first reason against each tuple that is not offered. -/
def tupleRejections (request : TaskRequest) (recipe : Recipe) : List (String × String) :=
  c.tuples.sortedKeys.filterMap fun name =>
    (c.tuples.get? name).bind fun tuple =>
      (c.routeRejectionReason env tuple request recipe true <|>
        reject (!c.registry.isAvailable instant.time name)
          "tuple is unavailable due to circuit breaker" <|>
        c.routeValidationRejectionReason env tuple request recipe true <|>
        c.costRejectionReason env instant tuple request recipe true).map fun reason => (name, reason)

/-! ### The order of the chain -/

/-- Local preference, route quality penalty, reliability tier, VRAM, slack, budget reservation. -/
abbrev FitKey := ℕ ×ₗ ℕ ×ₗ ℕ ×ₗ ℕ ×ₗ ℤ ×ₗ ℚ≥0

/-- `_route_quality_penalty` -/
def routeQualityPenalty (name : String) (request : TaskRequest) (recipe : Recipe) : ℕ :=
  match request.responseFormat with
  | none => 0
  | some format =>
    if format.type = .jsonSchema && format.strict then
      min (c.registry.qualityFailureCount name recipe.name request.task request.mode.value
        "MALFORMED_OUTPUT") 99
    else 0

/-- `_observed_reliability_tier` -/
def observedReliabilityTier (name : String) : ℕ :=
  let score := c.registry.score name
  if score.samples = 0 then 1 else if 1 / 2 ≤ score.successRate then 0 else 2

/-- `_tuple_fit_key` of a tuple of the catalog. -/
def fitKeyOf (name : String) (tuple : ExecutionTupleSpec) (request : TaskRequest)
    (recipe : Recipe) : FitKey :=
  let requiredLen := requiredModelLen env request recipe c.policy
  let isLocal := isLocalExecutionTuple env tuple
  let localPreference :=
    if c.policy.localLargeContextThreshold < requiredLen then (if isLocal then 1 else 0)
    else if isLocal then 0 else 1
  toLex (localPreference, toLex (c.routeQualityPenalty name request recipe,
    toLex (c.observedReliabilityTier name, toLex ((tuple.vramGb : ℕ),
      toLex ((tuple.maxModelLen : ℤ) - requiredLen,
        (c.costEstimate env instant tuple request recipe).budgetReservationUsd)))))

/-- `_tuple_fit_key`. It is only asked about names of the catalog. -/
def tupleFitKey (request : TaskRequest) (recipe : Recipe) (name : String) : FitKey :=
  match c.tuples.get? name with
  | some tuple => c.fitKeyOf env instant name tuple request recipe
  | none => toLex (0, toLex (0, toLex (0, toLex (0, toLex (0, 0)))))

/-- `_fit_ordered_tuples` -/
def fitOrderedTuples (tuples : List String) (request : TaskRequest) (recipe : Recipe) :
    List String :=
  tuples.insertionSort fun a b =>
    toLex (c.tupleFitKey env instant request recipe a, a) ≤
      toLex (c.tupleFitKey env instant request recipe b, b)

/-- `_rank_by_fit_then_observations` -/
def rankByFitThenObservations (tuples : List String) (request : TaskRequest) (recipe : Recipe) :
    List String :=
  GroupSort.groupwise (c.tupleFitKey env instant request recipe) (c.registry.rank instant.time)
    (c.fitOrderedTuples env instant tuples request recipe)

/-- `_tuple_chain` -/
def tupleChain (request : TaskRequest) (recipe : Recipe) : Except CompileError (List String) :=
  match request.requestedTuple with
  | none | some "" =>
    let eligible := c.eligibleTuples env instant c.tuples.sortedKeys request recipe true
    match c.rankByFitThenObservations env instant eligible request recipe with
    | [] => .error <| .governance {
        message := "no eligible tuple after policy, recipe, and circuit constraints"
        code := "NO_ELIGIBLE_TUPLE"
        context := [("task", .str request.task), ("mode", .str request.mode.value),
          ("recipe", .str recipe.name),
          ("required_model_len", .number (toString (requiredModelLen env request recipe c.policy))),
          ("tuple_rejections", .obj ((c.tupleRejections env instant request recipe).map
            fun r => (r.1, .str r.2)))] }
    | ranked => .ok ranked
  | some requested =>
    if requested ∉ c.eligibleTuples env instant [requested] request recipe false then
      raiseGovernance ("requested tuple " ++ env.repr requested ++ " is not eligible for recipe " ++
        recipe.name)
    else if !request.bypassCircuitForValidation && !c.registry.isAvailable instant.time requested then
      raiseGovernance ("requested tuple " ++ env.repr requested ++
        " is unavailable due to circuit breaker")
    else .ok [requested]

/-! ### Recipes -/

/-- `f"{value!r}"` of an optional string -/
def reprOption (value : Option String) : String := (value.map env.repr).getD "None"

/-- The input checks that recipe selection and request validation share. -/
def inputRefReason (recipe : Recipe) (tooLarge : String) (badMime : String → String)
    (ref : DataRef) : Option String :=
  (match recipe.maxInputBytes, ref.bytes with
    | some limit, some n => reject (limit < n) tooLarge
    | _, _ => none) <|>
  (if !recipe.allowedMimePrefixes.isEmpty && truthyStr ref.contentType then
    reject (!allowedMime (ref.contentType.getD "") recipe.allowedMimePrefixes)
      (badMime (ref.contentType.getD ""))
  else none)

def inlineMimeReason (recipe : Recipe) (badMime : String → String) (item : InlineValue) :
    Option String :=
  let allowed := inlineMimePrefixes recipe
  if !allowed.isEmpty && item.contentType ≠ "" then
    reject (!allowedMime item.contentType allowed) (badMime item.contentType)
  else none

/-- `_recipe_rejection_reason` -/
def recipeRejectionReason (request : TaskRequest) (recipe : Recipe) : Option String :=
  let effective := requestWithRecipeDefaults request recipe
  let ceiling := (recipeRequirements recipe).contextBudgetTokens
  let budget := outputContextTokens effective
  let requiredLen := requiredModelLen env effective recipe c.policy
  reject (!recipe.autoSelect) "auto_select is false" <|>
    reject (recipe.task ≠ request.task) ("task is " ++ env.repr recipe.task) <|>
    reject (request.intent.isNone && recipe.intent.any (· ∉ defaultAutoIntents))
      ("intent-specific recipe " ++ reprOption env recipe.intent ++ " requires request intent") <|>
    reject (request.intent.isSome && recipe.intent ≠ request.intent)
      ("intent is " ++ reprOption env recipe.intent) <|>
    reject (request.mode ∉ recipe.allowedModes)
      ("mode " ++ request.mode.value ++ " is not allowed") <|>
    reject (effective.maxTokens.isSome && ceiling < budget)
      ("max_tokens " ++ toString budget ++ " exceeds recipe context budget " ++
        toString (ceiling : ℕ)) <|>
    reject (ceiling < requiredLen)
      ("required model length " ++ toString requiredLen ++ " exceeds recipe context budget " ++
        toString (ceiling : ℕ)) <|>
    request.inputRefs.findSome? (inputRefReason recipe
      ("input data_ref exceeds max_input_bytes " ++
        toString ((recipe.maxInputBytes.map fun n => (n : ℕ)).getD 0))
      fun contentType => "content_type " ++ env.repr contentType ++ " is not allowed") <|>
    request.inlineInputs.findSome? fun item => inlineMimeReason recipe
      (fun contentType => "inline content_type " ++ env.repr contentType ++ " is not allowed") item.2

/-- `_recipe_selection_key` -/
def recipeSelectionKey (request : TaskRequest) (recipe : Recipe) :
    ℕ ×ₗ ℕ ×ₗ ℕ ×ₗ ℕ ×ₗ String :=
  let requirements := recipeRequirements recipe
  let qualityRank :=
    if request.intent.isSome && !request.structured then 0
    else qualitySelectionRank recipe.qualityFloor
  toLex (qualityRank, toLex (classificationRank recipe.dataClassification,
    toLex ((requirements.minimumVramGb : ℕ), toLex ((requirements.contextBudgetTokens : ℕ),
      recipe.name))))

/-- `_synthetic_recipe_for` -/
def syntheticRecipeFor (request : TaskRequest) : Recipe where
  name := "__synthetic__"
  task := request.task
  allowedModes := [request.mode]
  contextBudgetTokens := some 1
  timeoutSeconds := 1
  leaseTtlSeconds := 1

/-- `_largest_required_model_len` -/
def largestRequiredModelLen (request : TaskRequest) : ℕ :=
  match c.recipes.values.filter (·.task = request.task) with
  | [] => requiredModelLen env request (syntheticRecipeFor request) c.policy
  | matching => (matching.map fun recipe =>
      requiredModelLen env (requestWithRecipeDefaults request recipe) recipe c.policy).foldl max 0

/-- `_largest_auto_recipe_model_len` -/
def largestAutoRecipeModelLen (task : String) : Option ℕ :=
  match c.recipes.values.filter fun recipe => recipe.task = task && recipe.autoSelect with
  | [] => none
  | recipes => some <| (recipes.map fun recipe =>
      ((recipeRequirements recipe).contextBudgetTokens : ℕ)).foldl max 0

/-- `_select_recipe` -/
def selectRecipe (request : TaskRequest) : Except CompileError Recipe :=
  let candidates :=
    c.recipes.values.filter fun recipe => (c.recipeRejectionReason env request recipe).isNone
  let rejected := (c.recipes.values.filterMap fun recipe =>
    (c.recipeRejectionReason env request recipe).map fun reason => recipe.name ++ ": " ++ reason)
      |>.insertionSort (· ≤ ·)
  let ordered := candidates.insertionSort fun a b =>
    recipeSelectionKey request a ≤ recipeSelectionKey request b
  match ordered with
  | [] => .error <| .governance {
      message := "no auto-selectable recipe for task " ++ env.repr request.task ++ ": " ++
        if rejected.isEmpty then "no recipes are configured" else joinStr "; " rejected
      code := "NO_AUTO_SELECTABLE_RECIPE"
      context := [("task", .str request.task), ("mode", .str request.mode.value),
        ("required_model_len", .number (toString (c.largestRequiredModelLen env request))),
        ("largest_auto_recipe_model_len",
          ((c.largestAutoRecipeModelLen request.task).map fun n =>
            Json.number (toString n)).getD .null),
        ("rejections", .arr (rejected.map .str))] }
  | first :: _ =>
    let served := ordered.find? fun recipe =>
      !(c.eligibleTuples env instant c.tuples.sortedKeys (requestWithRecipeDefaults request recipe)
        recipe true).isEmpty
    .ok (served.getD first)

/-- `_recipe_for` -/
def recipeFor (request : TaskRequest) : Except CompileError Recipe :=
  if request.task ∉ supportedTasks then raiseGovernance ("unsupported task: " ++ request.task)
  else
    match request.recipe with
    | none => c.selectRecipe env instant request
    | some name =>
      match c.recipes.get? name with
      | none => raiseGovernance ("unknown recipe: " ++ name)
      | some recipe =>
        if recipe.task ≠ request.task then
          raiseGovernance ("request task " ++ env.repr request.task ++
            " does not match recipe task " ++ env.repr recipe.task)
        else .ok recipe

/-! ### Validation -/

/-- `_has_image_ref` -/
def hasImageRef (request : TaskRequest) : Bool :=
  request.inputRefs.any fun ref => startswith (env.lower (ref.contentType.getD "")) "image/"

/-- The checks of one kind of task. -/
def taskReason (request : TaskRequest) (task : String) : Option String :=
  let noRefs := request.inputRefs.isEmpty
  let hasText := !request.inlineInputs.isEmpty || !request.messages.isEmpty
  if task = "vision" then reject (!hasImageRef env request) "vision requires an image data_ref"
  else if task = "transcribe" then
    reject noRefs "transcribe requires audio data_ref inputs" <|>
      reject hasText "transcribe accepts DataRef inputs only"
  else if task = "convert" then
    reject noRefs "convert requires document data_ref inputs" <|>
      reject hasText "convert accepts DataRef inputs only"
  else if task = "train" || task = "fine-tune" then
    reject noRefs (task ++ " requires data_ref training inputs") <|>
      reject hasText (task ++ " accepts DataRef inputs only") <|>
      reject request.artifactExport.isNone (task ++ " requires artifact_export")
  else if task = "split-infer" then
    match request.splitLearning with
    | none => some "split-infer requires split_learning"
    | some split =>
      reject hasText "split-infer accepts activation DataRef inputs only" <|>
        reject split.activationRef.sha256.isNone "split_learning activation_ref requires sha256" <|>
        reject (split.irreversibilityClaim ≠ .notClaimed && split.dpEpsilon.isNone)
          "split_learning empirical irreversibility claims require dp_epsilon"
  else none

/-- `_validate_request_against_recipe`: the message of the error it raises. -/
def validationError (request : TaskRequest) (recipe : Recipe) : Option String :=
  let inlineBytes := (request.inlineInputs.map fun item => item.2.value.utf8ByteSize).sum
  reject (request.mode ∉ recipe.allowedModes)
      ("mode " ++ request.mode.value ++ " is not allowed for recipe " ++ recipe.name) <|>
    reject (!request.messages.isEmpty &&
      (!request.inlineInputs.isEmpty || !request.inputRefs.isEmpty))
      "messages cannot be combined with inline_inputs or input_refs in v2.0" <|>
    taskReason env request recipe.task <|>
    reject (c.policy.security.requireDataRefSha256 && request.inputRefs.any (·.sha256.isNone))
      "data_ref sha256 is required by security policy" <|>
    reject (c.policy.inlineBytesLimit < inlineBytes)
      "inline input exceeds policy limit; use signed object references" <|>
    (request.inlineInputs.findSome? fun item => inlineMimeReason recipe (fun contentType =>
      "inline content_type " ++ env.repr contentType ++ " is not allowed for recipe " ++
        recipe.name) item.2) <|>
    request.inputRefs.findSome? fun ref =>
      reject (ref.expiresAt.any (· ≤ instant.now)) "input data_ref is expired" <|>
        inputRefReason recipe
          ("input data_ref exceeds recipe max_input_bytes " ++
            toString ((recipe.maxInputBytes.map fun n => (n : ℕ)).getD 0))
          (fun contentType => "input content_type " ++ env.repr contentType ++
            " is not allowed for recipe " ++ recipe.name) ref

/-! ### Prompts -/

/-- `_request_text_fragments` -/
def requestTextFragments (request : TaskRequest) : List String :=
  request.inlineInputs.map (fun item => item.2.value) ++
    request.messages.flatMap fun message =>
      if message.role = .system then []
      else
        match message.content with
        | some (.text value) => [value]
        | some (.parts items) => items.filterMap fun
            | .obj fields =>
              match fields.lookup "text" with
              | some (.str text) => some text
              | _ => none
            | _ => none
        | none => []

/-- `_source_fact_tokens` -/
def sourceFactTokens (request : TaskRequest) : List String :=
  let tokens := (requestTextFragments request).flatMap fun text =>
    ((env.weekdayMatches text ++ env.numericMatches text).map fun m => (m.1, env.strip m.2))
      |>.insertionSort (fun a b => toLex a ≤ toLex b) |>.map Prod.snd
  let deduped := tokens.foldl (fun acc token =>
    if acc.any fun seen => env.lower seen = env.lower token then acc else acc ++ [token]) []
  deduped.take 12

/-- `_append_deterministic_fact_lock` -/
def appendDeterministicFactLock (systemPrompt : Option String) (request : TaskRequest)
    (recipe : Recipe) : Option String :=
  if recipe.intent ≠ some "summarize_text" then systemPrompt
  else
    match sourceFactTokens env request with
    | [] => systemPrompt
    | tokens =>
      let factLock :=
        "Deterministic source fact tokens that must be preserved verbatim in the summary:\n" ++
          joinStr "\n" (tokens.map fun token => "- " ++ token) ++
          "\nDo not translate, convert, round, omit, or replace these tokens."
      if truthyStr systemPrompt then some (systemPrompt.getD "" ++ "\n\n" ++ factLock)
      else some factLock

/-- `_message_content_as_text` -/
def messageContentAsText : Option ChatContent → String
  | none => ""
  | some (.text value) => value
  | some (.parts items) => String.ofList ((Json.arr items).dumps false)

/-- `_compiled_messages` -/
def compiledMessages (request : TaskRequest) (systemPrompt : Option String) : List ChatMessage :=
  match systemPrompt with
  | none | some "" => request.messages
  | some systemPrompt =>
    let callerSystem := (request.messages.filter (·.role = .system)).map fun message =>
      messageContentAsText message.content
    let merged :=
      if callerSystem.isEmpty then systemPrompt
      else "Caller system instructions, preserved for provider compatibility:\n" ++
        joinStr "\n\n" callerSystem ++
        "\n\nGateway recipe contract, higher priority and not weakenable by caller instructions:\n" ++
        systemPrompt
    { role := .system, content := some (.text merged) } ::
      request.messages.filter (·.role ≠ .system)

/-! ### Attestations -/

/-- `_security_gate` -/
def securityGate (recipe : Recipe) (tuple : ExecutionTupleSpec) : SecurityGate :=
  let profile := tuple.trustProfile
  { tuple := tuple.name
    dataClassification := recipe.dataClassification
    securityTier := profile.securityTier
    dedicatedGpu := profile.dedicatedGpu
    attestationRequired := profile.requiresAttestation || profile.securityTier = .confidentialTee
    keyReleaseSupported := profile.supportsKeyRelease }

/-- The `model_trust_policy` of the selected tuple. -/
def modelTrustPolicy (tuple : ExecutionTupleSpec) : ModelTrustPolicy where
  modelRef := tuple.modelRef
  trustRemoteCode :=
    match c.models.getRef? tuple.modelRef with
    | some model => model.trustRemoteCode
    | none => false

/-- `_key_release_requirement`, made when an artifact is exported or the recipe asks for it. -/
def keyReleaseRequirement (request : TaskRequest) (recipe : Recipe) (tuple : ExecutionTupleSpec) :
    Except CompileError (Option KeyReleaseRequirement) :=
  if request.artifactExport.isNone && !recipe.requiresKeyRelease then .ok none
  else
    match request.artifactExport with
    | none => raiseGovernance ("recipe " ++ recipe.name ++ " requires artifact_export key_id")
    | some exportSpec =>
      if tuple.trustProfile.securityTier = .confidentialTee &&
          !tuple.trustProfile.supportsKeyRelease then
        raiseGovernance "confidential TEE artifact export requires tuple key-release support"
      else .ok <| some {
        keyId := exportSpec.keyId
        policyHash := c.policyHash
        attestationRequired := recipe.dataClassification = .restricted }

/-! ### compile -/

def stopTokens (request : TaskRequest) (recipe : Recipe) : List String :=
  recipe.stopTokens ++
    match request.stop with
    | none => []
    | some (.one token) => [token]
    | some (.many tokens) => tokens

/-- The fields of the plan that are neither checked nor computed from the chain. -/
def planOf (planId : String) (request : TaskRequest) (recipe : Recipe) (chain : List String)
    (budget : Option ℕ+) (attestations : Attestations) : CompiledPlan :=
  let systemPrompt :=
    appendDeterministicFactLock env (recipePrompt request recipe) request recipe
  { planId := planId
    policyVersion := c.policy.version
    recipeName := recipe.name
    task := recipe.task
    mode := request.mode
    dataClassification := recipe.dataClassification
    tupleChain := chain
    timeoutSeconds := c.timeoutSeconds request recipe
    leaseTtlSeconds := c.leaseTtlSeconds request recipe
    tokenEstimationProfile := recipe.tokenEstimationProfile
    tokenBudget := budget
    maxTokens := request.maxTokens
    temperature := request.temperature <|>
      if request.structured then recipe.structuredTemperature else recipe.defaultTemperature
    topP := request.topP
    seed := request.seed
    presencePenalty := request.presencePenalty
    frequencyPenalty := request.frequencyPenalty
    tools := request.tools
    toolChoice := request.toolChoice
    functions := request.functions
    functionCall := request.functionCall
    streamOptions := request.streamOptions
    n := request.n
    inputRefs := request.inputRefs
    inlineInputs := request.inlineInputs
    messages := compiledMessages request systemPrompt
    responseFormat := request.responseFormat
    metadata := request.metadata
    artifactExport := request.artifactExport
    splitLearning := request.splitLearning
    systemPrompt := systemPrompt
    stopTokens := stopTokens request recipe
    repetitionPenalty := recipe.repetitionPenalty
    guidedDecoding := recipe.guidedDecoding
    outputValidationAttempts := recipe.outputValidationAttempts
    attestations := attestations }

/-- The `token_budget` of the plan, which pydantic checks. -/
def checkedTokenBudget : Option ℕ → Except CompileError (Option ℕ+)
  | none => .ok none
  | some 0 => .error .tokenBudgetNotPositive
  | some (n + 1) => .ok (some n.succPNat)

/-- The attestations `compile` writes, all of them about the head of the chain. -/
def attestationsFor (request : TaskRequest) (recipe : Recipe) (tuple : ExecutionTupleSpec)
    (requirement : Option KeyReleaseRequirement) : Attestations where
  contextEstimate := some {
    requiredModelLen := requiredModelLen env request recipe c.policy
    tokenBudget := Gpucall.tokenBudget request c.policy }
  modelTrustPolicy := some (c.modelTrustPolicy tuple)
  costEstimate := some (c.costEstimate env instant tuple request recipe)
  securityGate := some (securityGate recipe tuple)
  keyReleaseRequirement := requirement

/-- `compile` after the recipe has been found and its defaults have been applied. -/
def compileWith (planId : String) (request : TaskRequest) (recipe : Recipe) :
    Except CompileError CompiledPlan := do
  if let some message := c.validationError env instant request recipe then
    raiseGovernance message
  let chain ← c.tupleChain env instant request recipe
  let requiredLen := requiredModelLen env request recipe c.policy
  let ceiling := (recipeRequirements recipe).contextBudgetTokens
  if ceiling < requiredLen then
    throw <| .governance {
      message := "required model length " ++ toString requiredLen ++
        " exceeds recipe context budget " ++ toString (ceiling : ℕ)
      code := "REQUEST_EXCEEDS_RECIPE_CONTEXT"
      context := [("required_model_len", .number (toString requiredLen)),
        ("recipe_context_budget_tokens", .number (toString (ceiling : ℕ))),
        ("recipe", .str recipe.name), ("task", .str request.task)] }
  if c.leaseTtlSeconds request recipe < c.timeoutSeconds request recipe then
    raiseGovernance "timeout_seconds must not exceed lease_ttl_seconds"
  let budget ← checkedTokenBudget (Gpucall.tokenBudget request c.policy)
  match chain.head?.bind c.tuples.get? with
  | none => throw .keyError
  | some tuple =>
    let requirement ← c.keyReleaseRequirement request recipe tuple
    return c.planOf env planId request recipe chain budget
      (c.attestationsFor env instant request recipe tuple requirement)

def compile (planId : String) (request : TaskRequest) : Except CompileError CompiledPlan := do
  let recipe ← c.recipeFor env instant request
  c.compileWith env instant planId (requestWithRecipeDefaults request recipe) recipe

end GovernanceCompiler

end Gpucall
