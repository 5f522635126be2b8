import Gpucall.Routing.Compiler

/-! `execution/payloads.py`: what a plan gives to the worker of a tuple. -/

namespace Gpucall

/-- The dictionary that `plan_payload` builds. -/
structure PlanPayload where
  planId : String
  task : String
  recipe : String
  mode : String
  dataClassification : DataClassification
  tokenEstimationProfile : String
  tokenBudget : Option ℕ+
  maxTokens : Option ℕ+
  temperature : Option ℚ
  topP : Option ℚ
  seed : Option ℤ
  presencePenalty : Option ℚ
  frequencyPenalty : Option ℚ
  tools : Option (List Json)
  toolChoice : Option Json
  functions : Option (List Json)
  functionCall : Option Json
  streamOptions : Option Json
  n : Option ℕ+
  inputRefs : List DataRef
  inlineInputs : List (String × InlineValue)
  messages : List ChatMessage
  responseFormat : Option ResponseFormat
  metadata : List (String × String)
  artifactExport : Option ArtifactExportSpec
  splitLearning : Option SplitLearningSpec
  systemPrompt : Option String
  stopTokens : List String
  repetitionPenalty : Option ℚ≥0
  guidedDecoding : Bool
  trustRemoteCode : Bool
  attestations : Attestations

def planPayload (plan : CompiledPlan) : PlanPayload where
  planId := plan.planId
  task := plan.task
  recipe := plan.recipeName
  mode := plan.mode.value
  dataClassification := plan.dataClassification
  tokenEstimationProfile := plan.tokenEstimationProfile
  tokenBudget := plan.tokenBudget
  maxTokens := plan.maxTokens
  temperature := plan.temperature
  topP := plan.topP
  seed := plan.seed
  presencePenalty := plan.presencePenalty
  frequencyPenalty := plan.frequencyPenalty
  tools := plan.tools
  toolChoice := plan.toolChoice
  functions := plan.functions
  functionCall := plan.functionCall
  streamOptions := plan.streamOptions
  n := plan.n
  inputRefs := plan.inputRefs
  inlineInputs := plan.inlineInputs
  messages := plan.messages
  responseFormat := plan.responseFormat
  metadata := plan.metadata
  artifactExport := plan.artifactExport
  splitLearning := plan.splitLearning
  systemPrompt := plan.systemPrompt
  stopTokens := plan.stopTokens
  repetitionPenalty := plan.repetitionPenalty
  guidedDecoding := plan.guidedDecoding
  trustRemoteCode := plan.attestations.modelTrustPolicy.any (·.trustRemoteCode)
  attestations := plan.attestations

end Gpucall
