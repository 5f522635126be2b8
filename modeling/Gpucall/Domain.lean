import Mathlib.Data.NNRat.Defs
import Mathlib.Data.PNat.Basic
import Gpucall.DateTime
import Gpucall.Json

/-! The pydantic models of `domain.py`, with the fields that the modelled functions read. A
`PositiveInt` is a positive natural number, so `x or y` on an optional one is `getD`; a
`NonNegativeFloat` is a non-negative rational (arithmetic is exact throughout). -/

namespace Gpucall

/-! ## Literals

The positive numbers that defaults and examples share, by name. -/

instance neZero_1 : NeZero 1 := ⟨by decide⟩

instance neZero_4 : NeZero 4 := ⟨by decide⟩

instance neZero_24 : NeZero 24 := ⟨by decide⟩

instance neZero_60 : NeZero 60 := ⟨by decide⟩

instance neZero_80 : NeZero 80 := ⟨by decide⟩

instance neZero_120 : NeZero 120 := ⟨by decide⟩

instance neZero_1000 : NeZero 1000 := ⟨by decide⟩

instance neZero_8192 : NeZero 8192 := ⟨by decide⟩

instance neZero_32768 : NeZero 32768 := ⟨by decide⟩

instance atLeastTwo_2 : Nat.AtLeastTwo 2 := ⟨by decide⟩

instance atLeastTwo_4 : Nat.AtLeastTwo 4 := ⟨by decide⟩

instance atLeastTwo_5 : Nat.AtLeastTwo 5 := ⟨by decide⟩

instance atLeastTwo_10 : Nat.AtLeastTwo 10 := ⟨by decide⟩

instance atLeastTwo_100 : Nat.AtLeastTwo 100 := ⟨by decide⟩

instance atLeastTwo_1000 : Nat.AtLeastTwo 1000 := ⟨by decide⟩

/-! ## Enumerations -/

inductive ExecutionMode where
  | sync | async | stream
  deriving DecidableEq, Repr

def ExecutionMode.value : ExecutionMode → String
  | sync => "sync"
  | async => "async"
  | stream => "stream"

inductive ResponseFormatType where
  | text | jsonObject | jsonSchema
  deriving DecidableEq, Repr

def ResponseFormatType.value : ResponseFormatType → String
  | text => "text"
  | jsonObject => "json_object"
  | jsonSchema => "json_schema"

inductive JobState where
  | queued | pending | running | succeeded | completed | failed | cancelled | expired
  | completedAfterCallerTimeout
  deriving DecidableEq, Repr

inductive DataClassification where
  | «public» | internal | confidential | restricted
  deriving DecidableEq, Repr

/-- `classification_rank`, and the `order` table inside `DataClassification.permits`. -/
def classificationRank : DataClassification → Nat
  | .public => 0
  | .internal => 1
  | .confidential => 2
  | .restricted => 3

def DataClassification.permits (self required : DataClassification) : Bool :=
  classificationRank required ≤ classificationRank self

inductive SecurityTier where
  | «local» | sharedGpu | encryptedCapsule | confidentialTee | splitLearning
  deriving DecidableEq, Repr

inductive ExecutionSurface where
  | localRuntime | iaasVm | containerInstance | managedEndpoint | functionRuntime | sandboxRuntime
  | clusterRuntime | lifecycleOnly
  deriving DecidableEq, Repr

inductive PriceFreshness where
  | fresh | stale | unknown
  deriving DecidableEq, Repr

inductive RecipeQualityFloor where
  | smoke | draft | standard | high | lossless
  deriving DecidableEq, Repr

inductive RecipeResourceClass where
  | smoke | light | standard | large | exlarge | ultralong | documentVision
  deriving DecidableEq, Repr

inductive InputContract where
  | text | chatMessages | dataRefs | image | audio | document | activationRefs | artifactRefs
  deriving DecidableEq, Repr

def InputContract.value : InputContract → String
  | text => "text"
  | chatMessages => "chat_messages"
  | dataRefs => "data_refs"
  | image => "image"
  | audio => "audio"
  | document => "document"
  | activationRefs => "activation_refs"
  | artifactRefs => "artifact_refs"

/-! ## Requests -/

structure DataRef where
  uri : String
  sha256 : Option String := none
  bytes : Option ℕ+ := none
  expiresAt : Option DateTime := none
  contentType : Option String := none
  endpointUrl : Option String := none
  region : Option String := none
  gatewayPresigned : Bool := false
  deriving DecidableEq

structure InlineValue where
  value : String
  contentType : String := "text/plain"

/-- `json_schema` is present exactly for the type `json_schema` (`validate_schema_contract`). -/
structure ResponseFormat where
  type : ResponseFormatType := .text
  jsonSchema : Option Json := none
  strict : Bool := true
  schema_iff : jsonSchema.isSome = true ↔ type = .jsonSchema := by decide

inductive ChatRole where
  | system | developer | user | assistant | tool | function
  deriving DecidableEq, Repr

def ChatRole.value : ChatRole → String
  | system => "system"
  | developer => "developer"
  | user => "user"
  | assistant => "assistant"
  | tool => "tool"
  | function => "function"

inductive ChatContent where
  | text (value : String)
  | parts (items : List Json)

structure ChatMessage where
  role : ChatRole := .user
  content : Option ChatContent := none
  name : Option String := none
  toolCalls : Option (List Json) := none
  toolCallId : Option String := none
  functionCall : Option Json := none
  refusal : Option String := none

structure ArtifactExportSpec where
  artifactChainId : String
  version : String
  keyId : String
  parentArtifactIds : List String := []
  retentionUntil : Option String := none
  legalHold : Bool := false

inductive IrreversibilityClaim where
  | notClaimed | empirical
  deriving DecidableEq, Repr

structure SplitLearningSpec where
  activationRef : DataRef
  encoderHash : String
  dpEpsilon : Option ℚ≥0 := none
  dpDelta : Option ℚ≥0 := none
  irreversibilityClaim : IrreversibilityClaim := .notClaimed

inductive StopSequence where
  | one (token : String)
  | many (tokens : List String)

structure TaskRequest where
  task : String
  mode : ExecutionMode
  recipe : Option String := none
  intent : Option String := none
  inputRefs : List DataRef := []
  inlineInputs : List (String × InlineValue) := []
  messages : List ChatMessage := []
  requestedTuple : Option String := none
  maxTokens : Option ℕ+ := none
  temperature : Option ℚ := none
  topP : Option ℚ := none
  stop : Option StopSequence := none
  seed : Option ℤ := none
  presencePenalty : Option ℚ := none
  frequencyPenalty : Option ℚ := none
  tools : Option (List Json) := none
  toolChoice : Option Json := none
  functions : Option (List Json) := none
  functionCall : Option Json := none
  streamOptions : Option Json := none
  n : Option ℕ+ := none
  timeoutSeconds : Option ℕ+ := none
  leaseTtlSeconds : Option ℕ+ := none
  responseFormat : Option ResponseFormat := none
  artifactExport : Option ArtifactExportSpec := none
  splitLearning : Option SplitLearningSpec := none
  metadata : List (String × String) := []
  bypassCircuitForValidation : Bool := false

/-! ## Policy, recipes and catalogs -/

structure TuplePolicy where
  allow : List String := []
  deny : List String := []
  maxDataClassification : DataClassification := .confidential

structure CostPolicy where
  maxEstimatedCostUsd : Option ℚ≥0 := none
  maxColdStartCostUsd : Option ℚ≥0 := none
  maxIdleCostUsd : Option ℚ≥0 := none
  requireBudgetForHighCostTuple : Option Bool := none
  highCostThresholdUsd : Option ℚ≥0 := none
  requireFreshPriceForBudget : Option Bool := none

structure SecurityPolicy where
  restrictedRequires : List SecurityTier := [.confidentialTee, .splitLearning]
  requireDataRefSha256 : Bool := true

structure Policy where
  version : String
  inlineBytesLimit : ℕ+
  defaultLeaseTtlSeconds : ℕ+
  maxLeaseTtlSeconds : ℕ+
  maxTimeoutSeconds : ℕ+
  tokenizerSafetyMultiplier : ℚ≥0 := 5 / 4
  localLargeContextThreshold : ℕ+ := 32768
  tuples : TuplePolicy
  costPolicy : CostPolicy := {}
  security : SecurityPolicy := {}

structure Recipe where
  name : String
  task : String
  intent : Option String := none
  contextBudgetTokens : Option ℕ+ := none
  resourceClass : Option RecipeResourceClass := none
  qualityFloor : RecipeQualityFloor := .standard
  autoSelect : Bool := true
  allowLocalLargeContext : Bool := false
  dataClassification : DataClassification := .confidential
  allowedModes : List ExecutionMode
  timeoutSeconds : ℕ+
  leaseTtlSeconds : ℕ+
  tokenEstimationProfile : String := "generic_utf8"
  maxInputBytes : Option ℕ+ := none
  maxOutputTokens : Option ℕ+ := none
  allowedMimePrefixes : List String := []
  allowedInlineMimePrefixes : List String := []
  defaultTemperature : Option ℚ := none
  structuredTemperature : Option ℚ := none
  systemPrompt : Option String := none
  structuredSystemPrompt : Option String := none
  stopTokens : List String := []
  repetitionPenalty : Option ℚ≥0 := none
  guidedDecoding : Bool := false
  outputValidationAttempts : ℕ+ := 1
  requiresKeyRelease : Bool := false
  requiredModelCapabilities : List String := []
  outputContract : Option String := none
  expectedColdStartSeconds : Option ℕ+ := none
  expectedRuntimeSeconds : Option ℚ≥0 := none
  costPolicy : Option CostPolicy := none

structure DerivedRecipeRequirements where
  contextBudgetTokens : ℕ+
  minimumVramGb : ℕ+

def contextBudgetFor : Option RecipeResourceClass → ℕ+
  | some .smoke => 32768
  | some .light => 8192
  | some .standard => 32768
  | some .large => 65536
  | some .exlarge => 131072
  | some .ultralong => 524288
  | some .documentVision => 8192
  | none => 8192

def vramForRecipe (resourceClass : Option RecipeResourceClass) (contextBudget : ℕ+) : ℕ+ :=
  if 524288 < contextBudget then 320
  else if 32768 < contextBudget then 80
  else if 8192 < contextBudget then 24
  else
    match resourceClass with
    | some .smoke => 1
    | some .light => 16
    | some .documentVision => 48
    | some .standard => 24
    | some .large | some .exlarge | some .ultralong => 80
    | none => 16

def recipeRequirements (recipe : Recipe) : DerivedRecipeRequirements :=
  let contextBudget := recipe.contextBudgetTokens.getD (contextBudgetFor recipe.resourceClass)
  { contextBudgetTokens := contextBudget
    minimumVramGb := vramForRecipe recipe.resourceClass contextBudget }

structure ModelSpec where
  name : String
  capabilities : List String := []
  maxModelLen : ℕ+
  minVramGb : ℕ+
  supportedEngines : List String := []
  inputContracts : List InputContract := []
  outputContracts : List String := []
  supportsVision : Bool := false
  supportsGuidedDecoding : Bool := false
  trustRemoteCode : Bool := false

structure EngineSpec where
  name : String
  inputContracts : List InputContract := []
  outputContracts : List String := []
  supportsGuidedDecoding : Bool := false
  supportsStreaming : Bool := false
  supportsMultimodal : Bool := false
  supportsDataRefs : Bool := false

structure TupleTrustProfile where
  securityTier : SecurityTier := .sharedGpu
  dedicatedGpu : Bool := false
  requiresAttestation : Bool := false
  supportsKeyRelease : Bool := false

structure ExecutionTupleSpec where
  name : String
  accountRef : Option String := none
  adapter : String := "echo"
  executionSurface : Option ExecutionSurface := none
  maxDataClassification : DataClassification := .confidential
  trustProfile : TupleTrustProfile := {}
  gpu : String := ""
  vramGb : ℕ+
  maxModelLen : ℕ+
  costPerSecond : ℚ≥0
  configuredPriceSource : Option String := none
  configuredPriceObservedAt : Option String := none
  configuredPriceTtlSeconds : Option ℚ≥0 := none
  expectedColdStartSeconds : Option ℕ+ := none
  expectedRuntimeSeconds : Option ℚ≥0 := none
  estimatedPrefillTokensPerSecond : Option ℚ≥0 := none
  estimatedDecodeTokensPerSecond : Option ℚ≥0 := none
  estimatedRuntimeOverheadSeconds : Option ℚ≥0 := none
  runtimeEstimateSafetyMultiplier : Option ℚ≥0 := none
  scaledownWindowSeconds : Option ℚ≥0 := none
  minBillableSeconds : Option ℚ≥0 := none
  billingGranularitySeconds : Option ℚ≥0 := none
  standingCostPerSecond : Option ℚ≥0 := none
  standingCostWindowSeconds : Option ℚ≥0 := none
  endpointCostPerSecond : Option ℚ≥0 := none
  endpointCostWindowSeconds : Option ℚ≥0 := none
  modes : List ExecutionMode := [.async]
  endpoint : Option String := none
  region : Option String := none
  zone : Option String := none
  target : Option String := none
  streamTarget : Option String := none
  endpointContract : Option String := none
  inputContracts : List InputContract := []
  outputContract : Option String := none
  streamContract : String := "none"
  model : Option String := none
  sshRemoteCidr : Option String := none
  modelRef : Option String := none
  engineRef : Option String := none
  controlledRuntimeRef : Option String := none

structure TenantSpec where
  name : String
  dailyBudgetUsd : Option ℚ≥0 := none
  monthlyBudgetUsd : Option ℚ≥0 := none
  maxRequestEstimatedCostUsd : Option ℚ≥0 := none

end Gpucall
