import Gpucall.Admin.EvidenceKept
import Gpucall.Admin.TuplePromotion
import Gpucall.Lib.FirstWins
import Gpucall.Text
import Mathlib.Data.Nat.Size

/-! `recipe_materialize.py`: the recipe that an intake or a draft stands for. It is made from a proposed recipe,
from a sanitized request, or from the request that a workload contract is turned into. -/

namespace Gpucall

variable (py : Builtins) (env : Environment) (conv : Conversions)

/-! ## Intents -/

def capabilityByIntent : List (String × List String) :=
  [("answer_question_about_image", ["visual_question_answering", "instruction_following"]),
    ("author_recipe", ["instruction_following"]),
    ("caption_image", ["image_captioning"]),
    ("convert_document", ["document_conversion"]),
    ("extra_large_context_text_inference", ["instruction_following"]),
    ("extract_json", ["structured_output"]),
    ("fine_tune_lora", ["lora_training"]),
    ("large_context_text_inference", ["instruction_following"]),
    ("pairwise_match", ["instruction_following", "reasoning", "structured_output"]),
    ("rank_text_items", ["instruction_following", "reasoning", "structured_output"]),
    ("rss_semantic_match", ["instruction_following", "reasoning", "structured_output"]),
    ("short_text_inference", ["instruction_following"]),
    ("smoke_test", ["instruction_following"]),
    ("split_infer_activation", ["split_inference"]),
    ("standard_text_inference", ["instruction_following"]),
    ("summarize_audio", ["speech_to_text", "summarization"]),
    ("summarize_text", ["summarization"]),
    ("summarize_video", ["video_understanding", "summarization"]),
    ("train_lora", ["lora_training"]),
    ("transcribe_audio", ["speech_to_text"]),
    ("translate_text", ["translation"]),
    ("ultralong_text_inference", ["instruction_following"]),
    ("understand_document_image",
      ["document_understanding", "visual_question_answering", "instruction_following"]),
    ("understand_image", ["visual_question_answering", "image_captioning"])]

def intentAliases : List (String × String) :=
  [("article_match", "rss_semantic_match"), ("pair_match", "pairwise_match"),
    ("pairwise_similarity", "pairwise_match"), ("rss_match", "rss_semantic_match"),
    ("semantic_match", "rss_semantic_match"), ("semantic_rss_match", "rss_semantic_match"),
    ("short_pairwise_similarity", "pairwise_match"), ("topic_ranking", "rank_text_items"),
    ("rank_topics", "rank_text_items")]

def taskDefaultCapabilities : List (String × List String) :=
  [("infer", ["instruction_following"]),
    ("vision", ["visual_question_answering", "instruction_following"]),
    ("transcribe", ["speech_to_text"]), ("video", ["video_understanding"])]

def normalizeIntent (intent : String) : Option String :=
  let normalized := env.lower (strip intent)
  if normalized = "" then none else some ((intentAliases.lookup normalized).getD normalized)

def isValidProductionIntent (intent : String) : Bool :=
  match normalizeIntent env intent with
  | none => false
  | some normalized =>
    normalized ∉ ["infer", "vision", "task", "draft", "generic", "unknown"] &&
      (capabilityByIntent.lookup normalized).isSome

def capabilitiesFor (task intent : String) : List String :=
  (((normalizeIntent env intent).bind fun normalized => capabilityByIntent.lookup normalized).or
    (taskDefaultCapabilities.lookup task)).getD ["instruction_following"]

/-- `_materializable_intent` -/
def materializableIntent (value : Option Json) (task : String) : Except ActivationError String :=
  let raw := strip (strOrEmpty py value)
  let intent := (normalizeIntent env raw).getD raw
  if raw = "" then
    .error (.valueError "recipe draft requires explicit intent; task fallback is not allowed")
  else if intent = task then
    .error (.valueError "recipe draft intent must not equal task; generic task fallback is not allowed")
  else if startswith intent "unknown_workload_" then
    .error (.valueError
      ("unknown workload intent requires operator mapping before materialization: " ++ intent))
  else if !isValidProductionIntent env intent then
    .error (.valueError ("intent is not in the production intent registry: " ++ intent))
  else .ok intent

/-! ## Names -/

/-- `re.sub("[^..]+", "-", text)`, where `keep` are the characters that are not replaced -/
def dashRuns (keep : Char → Bool) (inRun : Bool) : List Char → List Char
  | [] => []
  | c :: rest =>
    if keep c then c :: dashRuns keep false rest
    else if inRun then dashRuns keep true rest else '-' :: dashRuns keep true rest

/-- The text with its other characters replaced, and stripped of dashes. -/
def dashed (keep : Char → Bool) (text : String) : String :=
  String.ofList (((dashRuns keep false text.toList).dropWhile (· = '-')).reverse.dropWhile (· = '-')).reverse

def isNameChar (c : Char) : Bool := ('a' ≤ c && c ≤ 'z') || ('0' ≤ c && c ≤ '9')

/-- `value or default` -/
def orDefault (value default : String) : String := if value = "" then default else value

/-- `_canonical_name` -/
def canonicalName (value : String) : String :=
  orDefault (dashed (fun c => isNameChar c || c = '-') (env.lower value)) "recipe-draft"

def megaContextThreshold : ℤ := 1010000

/-- `_recipe_name` -/
def recipeNameFor (task intent : String) (contextBudgetTokens : ℤ) : String :=
  let cleaned := dashed isNameChar (env.lower intent)
  let suffix := if contextBudgetTokens > megaContextThreshold then "-mega" else ""
  task ++ "-" ++ orDefault cleaned "standard" ++ suffix ++ "-draft"

/-! ## Values of an artifact -/

/-- `_mapping` -/
def mappingOr : Option Json → Dict Json
  | some (.obj fields) => .ofFields fields
  | _ => ⟨[], List.nodup_nil⟩

/-- `first or second` -/
def firstTruthy (first second : Option Json) : Option Json :=
  if first.any Json.truthy then first else second

/-- The values that a `for` over `value or []` goes through -/
def iterateOr (value : Option Json) : Except ActivationError (List Json) :=
  match value.filter Json.truthy with
  | none => .ok []
  | some (.arr items) => .ok items
  | some (.str text) => .ok (text.toList.map fun c => .str c.toString)
  | some (.obj fields) => .ok ((Dict.ofFields fields).keys.map .str)
  | some _ => .error .typeError

/-- `int(value)`; `None` where it raises a `TypeError` or a `ValueError`. -/
def intOr (value : Option Json) : Except ActivationError (Option ℤ) :=
  match conv.toInt (value.getD .null) with
  | .ok number => .ok (some number)
  | .error .typeOrValue => .ok none
  | .error .overflow => .error .overflowError

/-- `_positive_int` -/
def positiveIntOr (value : Option Json) (default : ℤ) : Except ActivationError ℤ :=
  (intOr conv value).map fun number => number.elim default (max 1)

/-- `_context_budget_from_context` -/
def contextBudgetFromContext (context : Dict Json) : Except ActivationError (Option ℤ) := do
  let declared ← match context.get? "context_budget_tokens" with
    | none | some .null => .ok none
    | value => intOr conv value
  match declared, context.get? "required_model_len" with
  | some number, _ => return some number
  | none, none | none, some .null => return none
  | none, value => intOr conv value

def contextBudgetTiers : List ℤ := [8192, 32768, 65536, 131072, 262144, 524288, 1010000]

/-- `_round_context_budget` -/
def roundContextBudget (requested : Option ℤ) : ℤ :=
  let required := requested.getD 8192
  ((contextBudgetTiers.find? fun tier => required ≤ tier)).getD (2 ^ (required.toNat - 1).size : ℕ)

/-! ## What the task and the budget say -/

def resourceClassFor (task : String) (contextBudgetTokens : ℤ) : String :=
  if task = "vision" then if contextBudgetTokens > 8192 then "document_vision" else "light"
  else if contextBudgetTokens ≤ 8192 then "light"
  else if contextBudgetTokens ≤ 32768 then "standard"
  else if contextBudgetTokens ≤ 65536 then "large"
  else if contextBudgetTokens ≤ 131072 then "exlarge"
  else "ultralong"

def latencyClassFor (contextBudgetTokens : ℤ) : String :=
  if contextBudgetTokens ≥ 524288 then "long_running"
  else if contextBudgetTokens ≥ 65536 then "batch" else "standard"

def recipeTimeoutFor (task : String) (maxModelLen : ℤ) : ℤ :=
  if task = "vision" then 1800 else if maxModelLen ≥ 131072 then 600 else 180

def recipeLeaseFor (task : String) (maxModelLen : ℤ) : ℤ :=
  if task = "vision" then 2100 else if maxModelLen ≥ 131072 then 900 else 240

/-- `_max_input_bytes` -/
def recipeInputBytes (task : String) (maxModelLen : ℤ) : ℤ :=
  if task = "vision" then 16 * 1024 * 1024
  else max (16 * 1024 * 1024) (min (1024 * 1024 * 1024) (maxModelLen * 1024))

def mimePrefixesFor (task : String) : List String :=
  if task = "vision" then ["image/"] else if task = "transcribe" then ["audio/"]
  else if task = "video" then ["video/"] else ["text/"]

def systemPromptFor (task : String) : String :=
  if task = "vision" then
    "Answer the user's vision request directly from the supplied image and prompt."
  else "Answer the user's request directly."

/-! ## Modes -/

/-- What the mode policy reads of a tuple of the catalog. -/
structure CatalogTuple where
  maxModelLen : ℕ
  modes : List ExecutionMode
  supportsVision : Bool := false
  inputContracts : List String := []
  expectedColdStartSeconds : Option ℕ := none

/-- A tuple that `_tuple_latency_buckets` looks at -/
def CatalogTuple.candidate (task : String) (contextBudgetTokens : ℤ) (tuple : CatalogTuple) : Bool :=
  contextBudgetTokens ≤ tuple.maxModelLen && .sync ∈ tuple.modes &&
    (if task = "vision" then tuple.supportsVision
    else !tuple.supportsVision || "text" ∈ tuple.inputContracts)

def CatalogTuple.coldStartIsHigh (tuple : CatalogTuple) : Bool :=
  tuple.expectedColdStartSeconds.any (300 < ·)

/-- `_catalog_mode_policy(..)["requires_async"]` -/
def requiresAsync (task : String) (contextBudgetTokens : ℤ) (resourceClass latencyClass : String)
    (catalog : Option (List CatalogTuple)) : Bool :=
  let candidates := (catalog.getD []).filter (·.candidate task contextBudgetTokens)
  (task = "vision" && resourceClass = "document_vision") ||
    (task = "infer" && contextBudgetTokens > 32768) ||
    resourceClass ∈ ["large", "exlarge", "ultralong"] ||
    latencyClass ∈ ["batch", "long_running"] ||
    (candidates.any (·.coldStartIsHigh) && !candidates.any (!·.coldStartIsHigh))

/-- `_dedupe_modes` -/
def dedupeModes (values : List String) : List String :=
  let modes := FirstWins.keepFirst id ((values.map strip).filter (· ≠ ""))
  if modes = [] then ["sync", "async"] else modes

/-- `_allowed_modes` -/
def allowedModes (proposed : Dict Json) (task : String) (contextBudgetTokens : ℤ)
    (resourceClass latencyClass : String) (catalog : Option (List CatalogTuple)) : List String :=
  if requiresAsync task contextBudgetTokens resourceClass latencyClass catalog then ["async"]
  else
    match proposed.get? "allowed_modes" with
    | some (.arr (item :: items)) => dedupeModes (((item :: items).map (pyStr py)).filter (· ≠ ""))
    | _ => ["sync", "async"]

/-- `_allowed_mime_prefixes` -/
def allowedMimePrefixes (task : String) (proposed : Dict Json) : List String :=
  match proposed.get? "allowed_mime_prefixes" with
  | some (.arr (item :: items)) => (item :: items).map (pyStr py)
  | _ => mimePrefixesFor task

/-- `value.strip().lower().replace("_", "-")` -/
def contractWord (value : String) : String :=
  String.ofList ((env.lower (strip value)).toList.map fun c => if c = '_' then '-' else c)

/-- `_route_output_contract` -/
def routeOutputContract (proposed : Dict Json) : String :=
  let raw := contractWord env (strOrEmpty py (proposed.get? "output_contract"))
  if raw = "json-object" then "json_object" else if raw = "json-schema" then "json_schema" else "plain-text"

/-! ## The proposed recipe -/

/-- `_is_supported_output_contract` -/
def isSupportedOutputContract (value : String) : Bool :=
  contractWord env value ∈ ["json-object", "json-schema", "plain-text", "text", "plain"]

/-- `_require_strict_sanitized_contract` -/
def requireStrictSanitizedContract (sanitized : Dict Json) : Except ActivationError Unit := do
  let grammar := mappingOr (sanitized.get? "draft_grammar")
  let blockers := ((← iterateOr (grammar.get? "blockers")).map (pyStr py)).filter (· ≠ "")
  if grammar.get? "materialization_allowed" matches some (.bool false) then
    .error (.valueError ("strict recipe draft is not materializable: " ++
      String.intercalate "; " (if blockers = [] then ["draft grammar rejected"] else blockers)))
  let contextBudget ← contextBudgetFromContext conv
    (mappingOr ((mappingOr (sanitized.get? "error")).get? "context"))
  if contextBudget.isNone then
    .error (.valueError "strict recipe draft requires error.context.context_budget_tokens")
  let expected := strip (strOrEmpty py (sanitized.get? "expected_output"))
  if expected = "" then .error (.valueError "strict recipe draft requires expected_output")
  if !isSupportedOutputContract env expected then
    .error (.valueError ("strict recipe draft has unsupported expected_output: " ++ expected))
  let quality := mappingOr (sanitized.get? "quality_contract")
  if quality.entries.isEmpty then .error (.valueError "strict recipe draft requires quality_contract")
  if (quality.get? "missing_baseline_metrics").any Json.truthy then
    .error (.valueError "strict recipe draft requires baseline quality metrics")
  if (mappingOr (quality.get? "metrics")).entries.isEmpty then
    .error (.valueError "strict recipe draft requires non-empty quality_contract.metrics")

def texts (values : List String) : Json := .arr (values.map .str)

def integer (value : ℤ) : Json := .number (toString value)

/-- `_proposed_recipe_from_sanitized` -/
def proposedRecipeFromSanitized (sanitized : Dict Json) (strict : Bool) :
    Except ActivationError (Dict Json) := do
  let task := strOr py (sanitized.get? "task") "infer"
  let intent ← materializableIntent py env (sanitized.get? "intent") task
  if strict then requireStrictSanitizedContract py env conv sanitized
  let capabilities := match sanitized.get? "desired_capabilities" with
    | some (.arr (item :: items)) => (item :: items).map (pyStr py)
    | _ => capabilitiesFor env task intent
  let requested ← contextBudgetFromContext conv
    (mappingOr ((mappingOr (sanitized.get? "error")).get? "context"))
  let contextBudgetTokens := roundContextBudget requested
  return .ofFields [
    ("name", .str (recipeNameFor env task intent contextBudgetTokens)),
    ("recipe_schema_version", .number "3"),
    ("task", .str task),
    ("intent", .str intent),
    ("auto_select", .bool false),
    ("data_classification", .str (strOr py (sanitized.get? "classification") "confidential")),
    ("allowed_modes", texts [strOr py (sanitized.get? "mode") "sync"]),
    ("required_model_capabilities", texts capabilities),
    ("requested_context_budget_tokens",
      integer ((requested.filter (· ≠ 0)).getD contextBudgetTokens)),
    ("context_budget_tokens", integer contextBudgetTokens),
    ("resource_class", .str (resourceClassFor task contextBudgetTokens)),
    ("latency_class", .str (latencyClassFor contextBudgetTokens)),
    ("token_estimation_profile", .str "generic_utf8"),
    ("allowed_mime_prefixes", texts (mimePrefixesFor task)),
    ("output_contract", valueOr (sanitized.get? "expected_output") (.str "plain_text")),
    ("quality_floor", .str "draft")]

/-- `_strict_artifact` -/
def strictArtifact (artifact : Dict Json) : Bool :=
  strOrEmpty py (artifact.get? "phase") ∈ ["deterministic-contract-intake", "workload-contract"] ||
    (artifact.get? "workload_contract").isSome

/-- What the materialization takes from elsewhere: the sanitized request that `contract_to_recipe_intake` makes of
a workload contract, and the tuples of the catalog. -/
structure Materialization where
  contractIntake : Dict Json → Except ActivationError (Dict Json)
  catalog : Option (List CatalogTuple) := none

variable (world : Materialization)

/-- `_proposed_recipe_from_artifact` -/
def proposedRecipeFromArtifact (artifact : Dict Json) : Except ActivationError (Dict Json) := do
  if (artifact.get? "proposed_recipe").isSome then
    let proposed := mappingOr (artifact.get? "proposed_recipe")
    let _ ← materializableIntent py env (proposed.get? "intent") (strOr py (proposed.get? "task") "infer")
    return proposed
  else
    let sanitized := mappingOr (artifact.get? "sanitized_request")
    if !sanitized.entries.isEmpty then
      proposedRecipeFromSanitized py env conv sanitized (strictArtifact py artifact)
    else if (artifact.get? "phase" matches some (.str "workload-contract")) ||
        (artifact.get? "workloads").isSome then
      proposedRecipeFromSanitized py env conv (← world.contractIntake artifact) true
    else .error (.valueError "artifact must be a gpucall-recipe-draft intake or draft JSON object")

/-! ## The recipe -/

/-- The fields of a canonical recipe whose values are computed. -/
structure CanonicalRecipe where
  name : String
  task : String
  intent : String
  autoSelect : Bool
  dataClassification : String
  allowedModes : List String
  contextBudgetTokens : ℤ
  resourceClass : String
  latencyClass : String
  qualityFloor : String
  tokenEstimationProfile : String
  allowedMimePrefixes : List String
  requiredModelCapabilities : List String
  outputContract : String

/-- The recipe as the dictionary that is written -/
def CanonicalRecipe.fields (recipe : CanonicalRecipe) : Dict Json :=
  let task := recipe.task
  let contextBudgetTokens := recipe.contextBudgetTokens
  .ofFields <| [
    ("name", .str recipe.name),
    ("recipe_schema_version", .number "3"),
    ("task", .str task),
    ("intent", .str recipe.intent),
    ("auto_select", .bool recipe.autoSelect),
    ("data_classification", .str recipe.dataClassification),
    ("allowed_modes", texts recipe.allowedModes),
    ("context_budget_tokens", integer contextBudgetTokens),
    ("resource_class", .str recipe.resourceClass),
    ("latency_class", .str recipe.latencyClass),
    ("quality_floor", .str recipe.qualityFloor),
    ("timeout_seconds", integer (recipeTimeoutFor task contextBudgetTokens)),
    ("lease_ttl_seconds", integer (recipeLeaseFor task contextBudgetTokens)),
    ("token_estimation_profile", .str recipe.tokenEstimationProfile),
    ("max_input_bytes", integer (recipeInputBytes task contextBudgetTokens)),
    ("allowed_mime_prefixes", texts recipe.allowedMimePrefixes),
    ("default_temperature", .number (if task = "vision" then "0.2" else "0.7")),
    ("structured_temperature", .number "0.0"),
    ("structured_system_prompt", .str ("Return only valid JSON when response_format requests JSON. " ++
      "Do not include markdown fences or prose.")),
    ("system_prompt", .str (systemPromptFor task)),
    ("stop_tokens", texts ["<|im_end|>", "<|endoftext|>"]),
    ("repetition_penalty", .number "1.05"),
    ("guided_decoding", .bool true),
    ("output_validation_attempts", .number "1"),
    ("required_model_capabilities", texts recipe.requiredModelCapabilities),
    ("output_contract", .str recipe.outputContract)] ++
    if task = "vision" then [("allowed_inline_mime_prefixes", texts ["text/"])] else []

/-- `canonical_recipe_from_artifact` -/
def canonicalRecipeFromArtifact (artifact : Dict Json) : Except ActivationError CanonicalRecipe := do
  let proposed ← proposedRecipeFromArtifact py env conv world artifact
  let task := strOr py (proposed.get? "task") "infer"
  let contextBudgetTokens ← positiveIntOr conv
    (firstTruthy (proposed.get? "context_budget_tokens") (proposed.get? "max_model_len")) 32768
  let resourceClass := strOr py (proposed.get? "resource_class") (resourceClassFor task contextBudgetTokens)
  let latencyClass := strOr py (proposed.get? "latency_class") (latencyClassFor contextBudgetTokens)
  let intent ← materializableIntent py env (proposed.get? "intent") task
  let capabilities ← iterateOr (proposed.get? "required_model_capabilities")
  return {
    name := canonicalName env (strOr py (proposed.get? "name") (task ++ "-draft"))
    task, intent, contextBudgetTokens, resourceClass, latencyClass
    autoSelect := (proposed.get? "auto_select").any Json.truthy
    dataClassification := strOr py (proposed.get? "data_classification") "confidential"
    allowedModes := allowedModes py proposed task contextBudgetTokens resourceClass latencyClass
      world.catalog
    qualityFloor := strOr py (proposed.get? "quality_floor") "draft"
    tokenEstimationProfile := strOr py (proposed.get? "token_estimation_profile") "generic_utf8"
    allowedMimePrefixes := allowedMimePrefixes py task proposed
    requiredModelCapabilities := capabilities.map (pyStr py)
    outputContract := routeOutputContract py env proposed }

end Gpucall
