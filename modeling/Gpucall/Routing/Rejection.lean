import Mathlib.Algebra.Order.Floor.Semiring
import Mathlib.Data.NNRat.Floor
import Gpucall.Routing.Environment

/-! `routing.py`: how long a model a request needs, and why a tuple may not serve it. The source
returns at the first reason it finds; here the reasons are alternatives in the source's order. -/

namespace Gpucall

variable (env : Environment)

/-! ## The required model length -/

/-- `int(request.max_tokens * multiplier)` -/
def tokenBudget (request : TaskRequest) (policy : Policy) : Option ℕ :=
  request.maxTokens.map fun n => ⌊(n : ℚ≥0) * policy.tokenizerSafetyMultiplier⌋₊

def outputContextTokens (request : TaskRequest) : ℕ :=
  match request.maxTokens with
  | none => 0
  | some n => n

def isTextualContentType (contentType : Option String) : Bool :=
  match contentType with
  | none => false
  | some contentType =>
    let value := env.lower (env.strip (splitFirst ';' contentType))
    startswith value "text/" || value ∈ ["application/json", "application/x-ndjson"] ||
      endswith value "+json"

def bytesPerTokenFloor (profile : String) : ℕ :=
  let profile := if profile = "" then "generic_utf8" else profile
  let normalized := replaceChar '-' '_' (env.lower (env.strip profile))
  if normalized ∈ ["qwen", "qwen_utf8"] || startswith normalized "qwen2" ||
      startswith normalized "qwen3" then 3
  else 1

def estimatedTextTokens (byteCount : ℕ) (profile : String) (contentType : Option String) : ℕ :=
  if byteCount = 0 then 0
  else if !isTextualContentType env contentType then byteCount
  else ⌈(byteCount : ℚ≥0) / bytesPerTokenFloor env profile⌉₊

def ChatContent.json : ChatContent → Json
  | .text value => .str value
  | .parts items => .arr items

/-- `message.model_dump(mode="json", exclude_none=True)` -/
def ChatMessage.json (message : ChatMessage) : Json :=
  .obj <| [("role", .str message.role.value)] ++
    (message.content.map fun content => ("content", content.json)).toList ++
    (message.name.map fun name => ("name", .str name)).toList ++
    (message.toolCalls.map fun calls => ("tool_calls", .arr calls)).toList ++
    (message.toolCallId.map fun id => ("tool_call_id", .str id)).toList ++
    (message.functionCall.map fun call => ("function_call", call)).toList ++
    (message.refusal.map fun refusal => ("refusal", .str refusal)).toList

def chatMessageTokens (message : ChatMessage) (profile : String) : ℕ :=
  estimatedTextTokens env message.json.dumpsBytes profile (some "application/json")

def inlineInputTokens (item : InlineValue) (profile : String) : ℕ :=
  let contentType := if item.contentType = "" then "text/plain" else item.contentType
  estimatedTextTokens env item.value.utf8ByteSize profile (some contentType)

/-- `request.response_format is not None and request.response_format.type is not TEXT` -/
def TaskRequest.structured (request : TaskRequest) : Bool :=
  match request.responseFormat with
  | none => false
  | some format => format.type ≠ .text

/-- `structured_system_prompt if structured and structured_system_prompt else system_prompt` -/
def recipePrompt (request : TaskRequest) (recipe : Recipe) : Option String :=
  if request.structured && truthyStr recipe.structuredSystemPrompt then
    recipe.structuredSystemPrompt
  else recipe.systemPrompt

def recipePromptTokens (request : TaskRequest) (recipe : Recipe) : ℕ :=
  match recipePrompt request recipe with
  | none | some "" => 0
  | some text =>
    estimatedTextTokens env text.utf8ByteSize recipe.tokenEstimationProfile (some "text/plain")

def dataRefEstimatedTokens (ref : DataRef) (profile : String) : ℕ :=
  let byteCount : ℕ :=
    match ref.bytes with
    | none => 0
    | some n => n
  estimatedTextTokens env byteCount profile ref.contentType

/-- The OpenAI control fields of a request that are present. -/
def openaiControlFields (request : TaskRequest) : List (String × Json) :=
  (request.tools.map fun tools => ("tools", .arr tools)).toList ++
    (request.toolChoice.map fun choice => ("tool_choice", choice)).toList ++
    (request.functions.map fun functions => ("functions", .arr functions)).toList ++
    (request.functionCall.map fun call => ("function_call", call)).toList ++
    (request.streamOptions.map fun options => ("stream_options", options)).toList

/-- `_message_bytes` of the control fields: no bytes for the empty `dict`. -/
def openaiControlBytes (request : TaskRequest) : ℕ :=
  match openaiControlFields request with
  | [] => 0
  | fields => (Json.obj fields).dumpsBytes

def DataRef.isImage (ref : DataRef) : Bool := startswith (ref.contentType.getD "") "image/"

def requiredModelLen (request : TaskRequest) (recipe : Recipe) (policy : Policy) : ℕ :=
  let profile := recipe.tokenEstimationProfile
  let outputBudget := outputContextTokens request
  let inlineTokens := (request.inlineInputs.map fun item => inlineInputTokens env item.2 profile).sum
  let messageTokens := (request.messages.map fun m => chatMessageTokens env m profile).sum
  let controlTokens :=
    estimatedTextTokens env (openaiControlBytes request) profile (some "application/json")
  let promptTokens := recipePromptTokens env request recipe
  let imageRefs := request.inputRefs.filter DataRef.isImage
  let countedRefs :=
    if recipe.task = "vision" then request.inputRefs.filter (· ∉ imageRefs) else request.inputRefs
  let refTokens := (countedRefs.map fun ref => dataRefEstimatedTokens env ref profile).sum
  let tokens := inlineTokens + messageTokens + promptTokens + controlTokens + refTokens
  let estimatedInputTokens := ⌈(tokens : ℚ≥0) * policy.tokenizerSafetyMultiplier⌉₊
  let imageTokens := if recipe.task = "vision" then 256 * imageRefs.length else 0
  max 1 (estimatedInputTokens + imageTokens + outputBudget)

/-! ## Contracts a request asks for -/

def requestedOutputContract (request : TaskRequest) (recipe : Recipe) : Option String :=
  match request.responseFormat with
  | none => recipe.outputContract
  | some format =>
    match format.type with
    | .text => recipe.outputContract
    | .jsonObject => some "json_object"
    | .jsonSchema => some "json_schema"

def requiresOpenaiChatContract (request : TaskRequest) : Bool :=
  (match request.n with
    | some n => 1 < n
    | none => false) ||
  (match request.streamOptions with
    | some options => options.truthy
    | none => false) ||
  (request.mode = .stream && request.responseFormat.isSome) ||
  !(request.tools.getD []).isEmpty || request.toolChoice.isSome ||
  !(request.functions.getD []).isEmpty || request.functionCall.isSome ||
  request.messages.any fun message =>
    !(message.toolCalls.getD []).isEmpty || truthyStr message.toolCallId ||
      (match message.functionCall with
        | some call => call.truthy
        | none => false) ||
      message.role = .tool || message.role = .function

/-! ## Reasons to reject a tuple -/

/-- `if c: return reason` -/
def reject (c : Bool) (reason : String) : Option String := if c then some reason else none

@[simp] theorem reject_eq_none : reject c reason = none ↔ c = false := by
  cases c <;> simp [reject]

def productionRouteRejectionReason (tuple : ExecutionTupleSpec) : Option String :=
  if env.allowFakeAutoTuples then none
  else
    let name := env.lower tuple.name
    let descriptor := adapterDescriptor env tuple
    let ineligible :=
      match descriptor with
      | some d =>
        if d.productionEligible then none
        else if truthyStr d.productionRejectionReason then d.productionRejectionReason
        else some "tuple is not eligible for production auto-routing"
      | none => none
    let requiresModel :=
      match descriptor with
      | some d => d.requiresModelForAuto
      | none => true
    let cidr :=
      match descriptor, tuple.sshRemoteCidr with
      | some d, some cidr => d.executionSurface = some .iaasVm && !env.isConfiguredCidr cidr
      | _, _ => false
    let requiredFields :=
      match descriptor with
      | some d => d.requiredAutoFields
      | none => []
    ineligible <|>
      reject (containsStr name "smoke" || containsStr name "fake")
        "smoke/fake tuple is not eligible for production auto-routing" <|>
      reject (requiresModel && !truthyStr tuple.model) "tuple model is not configured" <|>
      reject cidr "IaaS ssh_remote_cidr is not configured for live execution" <|>
      missingFieldReason env tuple requiredFields

def isProductionRouteCandidate (tuple : ExecutionTupleSpec) : Bool :=
  (productionRouteRejectionReason env tuple).isNone

def tupleSecurityRejectionReason (policy : Policy) (recipe : Recipe) (tuple : ExecutionTupleSpec) :
    Option String :=
  let profile := tuple.trustProfile
  if recipe.dataClassification = .restricted && !profile.dedicatedGpu then
    reject (profile.securityTier ∉ policy.security.restrictedRequires)
        "restricted data requires dedicated GPU or an approved security tier" <|>
      reject (profile.securityTier = .confidentialTee && !profile.requiresAttestation)
        "restricted confidential TEE routing requires attestation evidence support"
  else none

/-- `_missing_input_contracts`, as a list without duplicates -/
def missingInputContracts (required declared : List InputContract) : List InputContract :=
  let missing := required.dedup.filter (· ∉ declared)
  if .chatMessages ∈ declared then missing.filter (· ≠ .text) else missing

/-- `", ".join(sorted(missing))` -/
def joinSorted (missing : List String) : String := joinStr ", " (missing.insertionSort (· ≤ ·))

def outputContractSatisfied (required : String) (declared : List String) : Bool :=
  required ∈ declared ||
    (required = "plain-text" && "openai-chat-completions" ∈ declared) ||
    (required ∈ ["json_object", "json_schema"] && "openai-chat-completions" ∈ declared)

def requiresRecipeVramGate (tuple : ExecutionTupleSpec) : Bool :=
  !(truthyStr tuple.controlledRuntimeRef && tuple.executionSurface = some .localRuntime)

/-- The part of `catalog_route_rejection_reason` about the model. -/
def modelRejectionReason (recipe : Recipe) (tuple : ExecutionTupleSpec) (model : ModelSpec)
    (requiredLen : ℕ) (requiredInputContracts : List InputContract) (outputContract : Option String) :
    Option String :=
  let missing := missingInputContracts requiredInputContracts model.inputContracts
  let contract := outputContract.getD ""
  reject (model.maxModelLen < requiredLen)
      "model catalog max_model_len is below required model length" <|>
    reject (tuple.vramGb < model.minVramGb) "tuple vram_gb is below model catalog min_vram_gb" <|>
    reject (!missing.isEmpty)
      ("model input_contracts missing: " ++ joinSorted (missing.map (·.value))) <|>
    reject (recipe.task = "vision" && !model.supportsVision) "model does not declare vision support" <|>
    reject (recipe.guidedDecoding && contract ∈ ["json_object", "json_schema"] &&
      !model.supportsGuidedDecoding) "model does not declare guided decoding support" <|>
    reject (truthyStr outputContract && !model.outputContracts.isEmpty &&
      !outputContractSatisfied contract model.outputContracts)
      ("model output_contracts missing: " ++ contract)

/-- The part of `catalog_route_rejection_reason` about the engine. -/
def engineRejectionReason (recipe : Recipe) (model : Option ModelSpec) (engine : EngineSpec)
    (mode : ExecutionMode) (requiredInputContracts : List InputContract)
    (outputContract : Option String) : Option String :=
  let missing := missingInputContracts requiredInputContracts engine.inputContracts
  let contract := outputContract.getD ""
  let unlisted :=
    match model with
    | some m => !m.supportedEngines.isEmpty && engine.name ∉ m.supportedEngines
    | none => false
  reject unlisted "engine is not listed in model supported_engines" <|>
    reject (!missing.isEmpty)
      ("engine input_contracts missing: " ++ joinSorted (missing.map (·.value))) <|>
    reject (recipe.task = "vision" && !engine.supportsMultimodal)
      "engine does not declare multi-media support" <|>
    reject (recipe.guidedDecoding && contract ∈ ["json_object", "json_schema"] &&
      !engine.supportsGuidedDecoding) "engine does not declare guided decoding support" <|>
    reject (truthyStr outputContract && !engine.outputContracts.isEmpty &&
      !outputContractSatisfied contract engine.outputContracts)
      ("engine output_contracts missing: " ++ contract) <|>
    reject (mode = .stream && !engine.supportsStreaming)
      "engine does not declare streaming support" <|>
    reject (.dataRefs ∈ requiredInputContracts && !engine.supportsDataRefs)
      "engine does not declare DataRef support"

/-- `catalog_route_rejection_reason`; the compiler always passes a mode and contracts. -/
def catalogRouteRejectionReason (recipe : Recipe) (tuple : ExecutionTupleSpec)
    (model : Option ModelSpec) (engine : Option EngineSpec) (requiredLen : ℕ) (mode : ExecutionMode)
    (requiredInputContracts : List InputContract) (requiredOutputContract : Option String) :
    Option String :=
  let outputContract :=
    if truthyStr requiredOutputContract then requiredOutputContract else recipe.outputContract
  let capabilities := recipe.requiredModelCapabilities
  let hasRef := truthyStr tuple.modelRef || truthyStr tuple.engineRef
  if !(!capabilities.isEmpty || truthyStr outputContract || hasRef) then none
  else if model.isNone && engine.isNone && hasRef then none
  else
    let missing := capabilities.dedup.filter fun c => (model.map (·.capabilities)).getD [] |>.all (· ≠ c)
    reject (truthyStr tuple.modelRef && model.isNone)
        "tuple model_ref is missing from model catalog" <|>
      reject (truthyStr tuple.engineRef && engine.isNone)
        "tuple engine_ref is missing from engine catalog" <|>
      reject (!capabilities.isEmpty && model.isNone)
        "recipe requires model capabilities but tuple has no model_ref" <|>
      reject (!missing.isEmpty) ("model capabilities missing: " ++ joinSorted missing) <|>
      (match model with
        | some m =>
          modelRejectionReason recipe tuple m requiredLen requiredInputContracts outputContract
        | none => none) <|>
      (match engine with
        | some e => engineRejectionReason recipe model e mode requiredInputContracts outputContract
        | none => none)

/-- What `tuple_route_rejection_reason` is asked about a request. -/
structure RouteQuery where
  policy : Policy
  recipe : Recipe
  mode : ExecutionMode
  requiredLen : ℕ
  requiredInputContracts : List InputContract
  requiredOutputContract : Option String
  requireOpenaiChatContract : Bool
  autoSelected : Bool

/-- `tuple_route_rejection_reason`, with the arguments the compiler gives it. -/
def tupleRouteRejectionReason (query : RouteQuery) (tuple : ExecutionTupleSpec)
    (model : Option ModelSpec) (engine : Option EngineSpec) : Option String :=
  let policy := query.policy
  let recipe := query.recipe
  let descriptor := adapterDescriptor env tuple
  let contracts := [tuple.endpointContract, tuple.outputContract,
    descriptor.bind (·.endpointContract), descriptor.bind (·.outputContract)]
  let missing := missingInputContracts query.requiredInputContracts tuple.inputContracts
  let streamFields := (descriptor.map (·.streamRequiredFields)).getD []
  (if query.autoSelected then productionRouteRejectionReason env tuple else none) <|>
    reject (query.requireOpenaiChatContract && some "openai-chat-completions" ∉ contracts)
      "tuple does not declare OpenAI chat completions tool/function contract" <|>
    reject (!tuple.inputContracts.isEmpty && !missing.isEmpty)
      ("tuple input_contracts missing: " ++ joinSorted (missing.map (·.value))) <|>
    reject (recipe.task = "vision" && .image ∉ tuple.inputContracts)
      "tuple does not declare image input support" <|>
    reject (recipe.task = "infer" && !tuple.inputContracts.isEmpty &&
      .text ∉ tuple.inputContracts && .chatMessages ∉ tuple.inputContracts)
      "tuple does not declare text or chat input support" <|>
    reject (!policy.tuples.allow.isEmpty && tuple.name ∉ policy.tuples.allow)
      "tuple is not in policy allowlist" <|>
    reject (tuple.name ∈ policy.tuples.deny) "tuple is denied by policy" <|>
    reject (!policy.tuples.maxDataClassification.permits recipe.dataClassification)
      "recipe data classification exceeds policy ceiling" <|>
    reject (!tuple.maxDataClassification.permits recipe.dataClassification)
      "tuple data classification ceiling is below recipe requirement" <|>
    reject (policy.localLargeContextThreshold < query.requiredLen &&
      isLocalExecutionTuple env tuple && !recipe.allowLocalLargeContext)
      ("local execution is disabled for large context workloads (>" ++
        toString (policy.localLargeContextThreshold : ℕ) ++ " tokens)") <|>
    tupleSecurityRejectionReason policy recipe tuple <|>
    reject (requiresRecipeVramGate tuple && tuple.vramGb < (recipeRequirements recipe).minimumVramGb)
      "tuple vram_gb is below derived recipe requirement" <|>
    reject (tuple.maxModelLen < query.requiredLen)
      "tuple max_model_len is below required model length" <|>
    catalogRouteRejectionReason recipe tuple model engine query.requiredLen query.mode
      query.requiredInputContracts query.requiredOutputContract <|>
    reject (query.mode ∉ tuple.modes) "tuple does not support requested mode" <|>
    (if query.mode = .stream then missingFieldReason env tuple streamFields else none) <|>
    reject (query.mode = .stream && tuple.streamContract = "none")
      "tuple does not declare a streaming contract" <|>
    (if .stream ∈ tuple.modes && .stream ∈ recipe.allowedModes then
      missingFieldReason env tuple streamFields
    else none)

end Gpucall
