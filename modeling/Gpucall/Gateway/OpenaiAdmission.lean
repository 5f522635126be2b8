import Gpucall.Execution.ChatPayloads
import Gpucall.Gateway.MessageContent
import Gpucall.Interpreter
import Gpucall.Text
import Mathlib.Data.List.Dedup

/-! `openai_facade/chat_completions.py`: how a request for OpenAI chat completions is admitted to the governance
contract. What jsonschema and pydantic decide about a single value is left open. -/

namespace Gpucall

/-! ## The contract -/

/-- `request.fields` of `chat_completions.json` -/
def openaiChatCompletionsFields : List String := [
  "audio", "frequency_penalty", "function_call", "functions", "logit_bias", "logprobs", "max_completion_tokens",
  "max_tokens", "messages", "metadata", "modalities", "model", "n", "parallel_tool_calls", "prediction",
  "presence_penalty", "prompt_cache_key", "prompt_cache_retention", "reasoning_effort", "response_format",
  "safety_identifier", "seed", "service_tier", "stop", "store", "stream", "stream_options", "temperature",
  "tool_choice", "tools", "top_logprobs", "top_p", "user", "verbosity", "web_search_options"]

def openaiChatCompletionsFailClosedFields : List String := [
  "audio", "logit_bias", "logprobs", "modalities", "parallel_tool_calls", "prediction", "prompt_cache_key",
  "prompt_cache_retention", "reasoning_effort", "safety_identifier", "service_tier", "store", "top_logprobs",
  "verbosity", "web_search_options"]

def openaiChatCompletionsFeatureGatedFields : List String := ["stream_options.include_obfuscation"]

def gpucallOpenaiExtensionFields : List String := ["intent", "task_family"]

/-- `_GOVERNANCE_FIELD_MAP` -/
def governanceFieldMap : List (String × String) := [
  ("messages", "TaskRequest.messages"),
  ("metadata", "TaskRequest.metadata"),
  ("max_completion_tokens", "TaskRequest.max_tokens"),
  ("max_tokens", "TaskRequest.max_tokens"),
  ("stream", "TaskRequest.mode"),
  ("temperature", "TaskRequest.temperature"),
  ("top_p", "TaskRequest.top_p"),
  ("stop", "TaskRequest.stop"),
  ("seed", "TaskRequest.seed"),
  ("presence_penalty", "TaskRequest.presence_penalty"),
  ("frequency_penalty", "TaskRequest.frequency_penalty"),
  ("tools", "TaskRequest.tools"),
  ("tool_choice", "TaskRequest.tool_choice"),
  ("functions", "TaskRequest.functions"),
  ("function_call", "TaskRequest.function_call"),
  ("stream_options", "TaskRequest.stream_options"),
  ("n", "TaskRequest.n"),
  ("response_format", "TaskRequest.response_format")]

/-- `_METADATA_ONLY_FIELDS` -/
def metadataOnlyFields : List String := ["model", "user"]

structure OpenAIAdmissionReport where
  protocol : String := "openai.chat.completions"
  governanceContract : String := "TaskRequest"
  admitted : List String := []
  transformed : Dict String := ⟨[], List.nodup_nil⟩
  rejected : List String := []
  ignored : List String := []
  metadataOnly : List String := []
  gpucallExtensions : List String := []
  modelPolicy : String := "metadata_only"
  modelValue : String := "gpucall:auto"

structure OpenAIProtocolError where
  message : String
  code : String := "invalid_request_error"
  statusCode : ℕ := 400
  admissionReport : Option OpenAIAdmissionReport := none

/-- What pydantic says about a value that it refuses -/
structure PydanticErrorDetail where
  loc : List String
  msg : String

/-- What jsonschema says about a request that it refuses -/
structure SchemaError where
  validator : String
  path : List String
  message : String

def isDict : Json → Bool
  | .obj _ => true
  | _ => false

/-- What the facade uses of pydantic and jsonschema -/
structure FacadeLibraries where
  builtins : Builtins
  /-- A JSON value read as a `float`, an `int` and a `bool` -/
  float : Json → Option ℚ
  int : Json → Option ℤ
  bool : Json → Option Bool
  chatMessageErrors : Dict Json → List PydanticErrorDetail
  responseFormatErrors : Json → List PydanticErrorDetail
  taskRequestErrors : Dict Json → List PydanticErrorDetail
  /-- `sorted(_REQUEST_VALIDATOR.iter_errors(payload), ..)` -/
  schemaErrors : Dict Json → List SchemaError
  /-- The vendored schema requires a list of objects. -/
  schema_messages : ∀ payload, schemaErrors payload = [] →
    ∃ items, payload.get? "messages" = some (.arr items) ∧ ∀ item ∈ items, isDict item = true

structure OpenAIChatAdmission where
  taskRequest : TaskRequest
  requestedModel : String
  stream : Bool
  rawSupportedPayload : Dict Json
  gpucallExtensions : Dict Json
  report : OpenAIAdmissionReport

/-- `sorted(set(names))` -/
def sortedSet (names : List String) : List String := names.dedup.insertionSort (· ≤ ·)

/-- `d.get(key)`, where null is as good as nothing -/
def Dict.given (d : Dict Json) (key : String) : Option Json := (d.get? key).filter (!·.isNull)

/-- `{key: value for key, value in d.items() if p(key)}` -/
def Dict.restrict (p : String → Bool) (d : Dict α) : Dict α where
  entries := d.entries.filter fun entry => p entry.1
  nodup := d.nodup.sublist (List.filter_sublist.map _)

/-! ## What the libraries say -/

def PydanticErrorDetail.location (detail : PydanticErrorDetail) : String :=
  let joined := joinStr "." detail.loc
  if joined = "" then "<request>" else joined

/-- `_safe_pydantic_message` -/
def safePydanticMessage (details : List PydanticErrorDetail) : String :=
  let first := details.head?.getD { loc := [], msg := "" }
  let message := if first.msg = "" then "value does not match the governance contract" else first.msg
  replaceChar '\n' ' ' (first.location ++ ": " ++ message)

/-- `_pydantic_locations` -/
def pydanticLocations (details : List PydanticErrorDetail) : List String :=
  sortedSet (details.map PydanticErrorDetail.location)

/-- `_safe_jsonschema_message` -/
def safeJsonschemaMessage (error : SchemaError) : String :=
  if error.validator ∈ ["oneOf", "anyOf", "allOf"] then "value does not match the required OpenAI schema"
  else replaceChar '\n' ' ' error.message

variable (lib : FacadeLibraries)

/-- `_validate_official_request_schema` -/
def validateOfficialRequestSchema (payload : Dict Json) : Except OpenAIProtocolError Unit :=
  match lib.schemaErrors payload with
  | [] => .ok ()
  | error :: _ =>
    let joined := joinStr "." error.path
    let field := if joined = "" then "<request>" else joined
    .error { message := "OpenAI chat.completions request does not match vendored OpenAI schema at " ++ field ++ ": " ++
      safeJsonschemaMessage error }

/-! ## Metadata -/

/-- `_metadata_value` -/
def metadataValue : Json → String
  | .str value => value
  | value => value.dumpsText { Json.Layout.compact with sortKeys := true }

/-- `payload.get("metadata")`, if it is a mapping -/
def callerMetadata (payload : Dict Json) : Dict Json :=
  match payload.get? "metadata" with
  | some (.obj fields) => .ofFields fields
  | _ => ⟨[], List.nodup_nil⟩

/-- `str(payload.get("model") or "gpucall:auto")` -/
def modelValue (payload : Dict Json) : String :=
  (((payload.get? "model").filter Json.truthy).map (pyStr lib.builtins)).getD "gpucall:auto"

/-- `value.strip()` of a text that is not blank -/
def wordOf : Option Json → Option String
  | some (.str value) => if strip value = "" then none else some (strip value)
  | _ => none

/-- `_openai_request_intent` -/
def openaiRequestIntent (payload extensions : Dict Json) : Option String :=
  let metadata := callerMetadata payload
  [extensions.get? "intent", extensions.get? "task_family", metadata.get? "intent", metadata.get? "task_family",
    metadata.get? "gpucall_intent", metadata.get? "gpucall_task_family"].findSome? wordOf

/-- The fields whose values the metadata repeats -/
def repeatedFields : List String := [
  "user", "top_p", "stop", "seed", "tools", "tool_choice", "functions", "function_call", "n", "presence_penalty",
  "frequency_penalty", "max_completion_tokens", "stream_options"]

/-- `optional_fields` -/
def optionalMetadata (payload extensions : Dict Json) : List (String × Option Json) :=
  repeatedFields.map (fun field => ("openai." ++ field, payload.given field)) ++
    gpucallOpenaiExtensionFields.map fun field => ("gpucall." ++ field, extensions.given field)

/-- `for key, value in fields: if value is not None: metadata[key] = _metadata_value(value)` -/
def setGiven (metadata : Dict String) (fields : List (String × Option Json)) : Dict String :=
  fields.foldl (fun metadata field =>
    match field.2 with
    | some value => metadata.set field.1 (metadataValue value)
    | none => metadata) metadata

/-- The entries of a mapping, where null is as good as nothing -/
def Dict.givenEntries (d : Dict Json) : List (String × Option Json) :=
  d.entries.map fun entry => (entry.1, (some entry.2).filter (!·.isNull))

/-- `_openai_request_metadata` -/
def openaiRequestMetadata (payload extensions : Dict Json) : Dict String :=
  let caller := setGiven ⟨[], List.nodup_nil⟩ (callerMetadata payload).givenEntries
  let metadata := caller.set "openai.model" (modelValue lib payload)
  let metadata := setGiven metadata (optionalMetadata payload extensions)
  match openaiRequestIntent payload extensions with
  | some intent => metadata.set "intent" intent
  | none => metadata

/-! ## The report -/

def sortedNames (d : Dict Json) (p : String → Bool) : List String := (d.keys.filter p).insertionSort (· ≤ ·)

/-- `_admission_report` -/
def admissionReport (payload extensions : Dict Json) (rejected : List String) : OpenAIAdmissionReport :=
  let admitted := sortedNames payload fun key => key ∈ governanceFieldMap.map Prod.fst
  let names := sortedNames extensions fun _ => true
  let transformed : Dict String := .ofFields (admitted.map fun key => (key, (governanceFieldMap.lookup key).getD ""))
  { admitted
    transformed := names.foldl (fun transformed key => transformed.set ("gpucall." ++ key)
      (if key ∈ gpucallOpenaiExtensionFields then "TaskRequest.intent" else "TaskRequest.metadata")) transformed
    rejected := rejected.insertionSort (· ≤ ·)
    metadataOnly := sortedNames payload (· ∈ metadataOnlyFields)
    gpucallExtensions := names
    modelPolicy := "gpucall_auto_or_metadata_only"
    modelValue := modelValue lib payload }

/-! ## Fields that are not supported -/

/-- The keys of `stream_options` that pass -/
def allowedStreamOptions : List String :=
  (openaiChatCompletionsFeatureGatedFields.filter (startswith · "stream_options.")).map
    (fun field => String.ofList (field.toList.drop "stream_options.".length)) ++ ["include_usage"]

/-- `key.startswith(("openai.", "gpucall."))` -/
def reservedKey (key : String) : Bool := startswith key "openai." || startswith key "gpucall."

def unsupportedKeys (payload : Dict Json) : List String :=
  payload.sortedKeys.filterMap fun key =>
    if key ∈ openaiChatCompletionsFailClosedFields then some key
    else if key ∉ openaiChatCompletionsFields then some ("unknown." ++ key)
    else none

def tokenConflict (payload : Dict Json) : List String :=
  match payload.given "max_tokens", payload.given "max_completion_tokens" with
  | some tokens, some completion =>
    if pyEq lib.builtins tokens completion then [] else ["max_tokens and max_completion_tokens conflict"]
  | _, _ => []

def reservedMetadata (payload : Dict Json) : List String :=
  ((callerMetadata payload).sortedKeys.filter reservedKey).map ("metadata." ++ ·)

def unsupportedStreamOptions (payload : Dict Json) : List String :=
  match payload.get? "stream_options" with
  | some (.obj fields) =>
    let options := Dict.ofFields fields
    (options.sortedKeys.filter (· ∉ allowedStreamOptions)).map ("stream_options." ++ ·) ++
      (if (payload.get? "stream").any Json.truthy then [] else ["stream_options_without_stream"]) ++
      (match options.get? "include_usage" with
        | none | some (.bool _) => []
        | some _ => ["stream_options.include_usage"]) ++
      (if "include_obfuscation" ∈ options.keys then ["stream_options.include_obfuscation"] else [])
  | _ => []

/-- `unsupported` in `_reject_unsupported_fields` -/
def unsupportedFields (payload : Dict Json) : List String :=
  unsupportedKeys payload ++ tokenConflict lib payload ++ reservedMetadata payload ++ unsupportedStreamOptions payload

/-- `_reject_unsupported_fields` -/
def rejectUnsupportedFields (payload : Dict Json) : Except OpenAIProtocolError Unit :=
  let unsupported := sortedSet (unsupportedFields lib payload)
  if unsupported.isEmpty then .ok ()
  else .error {
    message := "OpenAI facade does not support these fields yet: " ++ joinStr ", " unsupported
    code := "unsupported_openai_field"
    admissionReport := some (admissionReport lib payload ⟨[], List.nodup_nil⟩ unsupported) }

/-! ## Reading values -/

def readText : Json → Option String
  | .str value => some value
  | _ => none

def readDict (value : Json) : Option Json := if isDict value then some value else none

/-- `list[dict[str, Any]]` -/
def readDicts : Json → Option (List Json)
  | .arr items => if items.all isDict then some items else none
  | _ => none

/-- `str | dict[str, Any]` -/
def readStrOrDict : Json → Option Json
  | .str value => some (.str value)
  | value => readDict value

/-- `str | list[str]` -/
def readStop : Json → Option StopSequence
  | .str token => some (.one token)
  | .arr items => (items.mapM readText).map .many
  | _ => none

/-- `PositiveInt` -/
def FacadeLibraries.positiveInt (value : Json) : Option ℕ+ :=
  (lib.int value).bind fun n => if h : 0 < n.toNat then some ⟨n.toNat, h⟩ else none

/-- `Field(ge=low, le=high)` -/
def FacadeLibraries.floatBetween (low high : ℚ) (value : Json) : Option ℚ :=
  (lib.float value).filter fun number => low ≤ number && number ≤ high

/-- A field that may be left out: what is read of its value, unless that cannot be read. -/
def readOptional (read : Json → Option α) : Option Json → Option (Option α)
  | none => some none
  | some value => (read value).map some

/-! ## Messages -/

def chatMessageFields : List String :=
  ["role", "content", "name", "tool_calls", "tool_call_id", "function_call", "refusal"]

def chatRoles : List ChatRole := [.system, .developer, .user, .assistant, .tool, .function]

def readRole : Option Json → Option ChatRole
  | none => some .user
  | some (.str value) => chatRoles.find? (·.value = value)
  | some _ => none

/-- `str | list[dict[str, Any]]` -/
def readContent : Json → Option ChatContent
  | .str value => some (.text value)
  | value => (readDicts value).map .parts

/-- `validate_openai_message_contract` -/
def ChatMessage.validContract (message : ChatMessage) : Bool :=
  match message.role with
  | .tool => truthyStr message.toolCallId && message.content.isSome
  | .function => truthyStr message.name && message.content.isSome
  | .assistant => message.toolCalls.any (!·.isEmpty) || message.functionCall.any Json.truthy ||
      message.refusal.isSome || message.content.isSome
  | .system | .developer | .user => message.content.isSome

/-- `ChatMessage.model_validate(payload)` -/
def chatMessageOf (payload : Dict Json) : Option ChatMessage := do
  guard (payload.keys.all (· ∈ chatMessageFields))
  let role ← readRole (payload.get? "role")
  let content ← readOptional readContent (payload.given "content")
  let name ← readOptional readText (payload.given "name")
  let toolCalls ← readOptional readDicts (payload.given "tool_calls")
  let toolCallId ← readOptional readText (payload.given "tool_call_id")
  let functionCall ← readOptional readDict (payload.given "function_call")
  let refusal ← readOptional readText (payload.given "refusal")
  let message := { role, content, name, toolCalls, toolCallId, functionCall, refusal }
  guard (ChatMessage.validContract message)
  return message

/-- The message with its content as one text -/
def withTextContent (message : Dict Json) : Except OpenAIProtocolError (Dict Json) :=
  match message.given "content" with
  | none => .ok message
  | some content =>
    match messageContentToText lib.builtins content with
    | .ok text => .ok (message.set "content" (.str text))
    | .error error => .error { message := error }

/-- `openai_message_to_chat_message` -/
def openaiMessageToChatMessage (message : Dict Json) : Except OpenAIProtocolError ChatMessage := do
  let payload ← withTextContent lib message
  match chatMessageOf payload with
  | some read => return read
  | none => throw {
      message := "OpenAI message is not supported by the governance chat contract: " ++
        safePydanticMessage (lib.chatMessageErrors payload)
      code := "unsupported_openai_field" }

/-- `raw.get("messages") or []`, which the schema has found to be objects -/
def requestMessages (payload : Dict Json) : List (Dict Json) :=
  match payload.get? "messages" with
  | some (.arr items) => items.filterMap fun item =>
    match item with
    | .obj fields => some (.ofFields fields)
    | _ => none
  | _ => []

/-- `_openai_chat_message_bytes` -/
def openaiChatMessageBytes (messages : List ChatMessage) : ℕ :=
  (messages.map fun message => message.dump.dumpsBytes).sum

/-! ## Admission -/

def responseFormatTypes : List ResponseFormatType := [.text, .jsonObject, .jsonSchema]

theorem schema_iff_some (schema : Json) :
    (some schema).isSome = true ↔ ResponseFormatType.jsonSchema = .jsonSchema := by
  simp

theorem schema_iff_none_text : (none : Option Json).isSome = true ↔ ResponseFormatType.text = .jsonSchema := by
  simp

theorem schema_iff_none_jsonObject :
    (none : Option Json).isSome = true ↔ ResponseFormatType.jsonObject = .jsonSchema := by
  simp

/-- `validate_schema_contract`, and the record that it leaves -/
def ResponseFormat.ofParts (type : ResponseFormatType) (jsonSchema : Option Json) (strict : Bool) :
    Option ResponseFormat :=
  match type, jsonSchema with
  | .jsonSchema, some (.obj fields) =>
    match fields.lookup "schema" with
    | some (.obj schema) =>
      let strict := match fields.lookup "strict" with
        | some (.bool given) => given
        | _ => strict
      some { type := .jsonSchema, jsonSchema := some (.obj schema), strict, schema_iff := schema_iff_some _ }
    | _ =>
      some { type := .jsonSchema, jsonSchema := some (.obj fields), strict, schema_iff := schema_iff_some _ }
  | .text, none => some { type := .text, strict, schema_iff := schema_iff_none_text }
  | .jsonObject, none => some { type := .jsonObject, strict, schema_iff := schema_iff_none_jsonObject }
  | _, _ => none

/-- `ResponseFormat.model_validate(value)` -/
def responseFormatOf : Json → Option ResponseFormat
  | .obj fields => do
    let payload := Dict.ofFields fields
    guard (payload.keys.all (· ∈ ["type", "json_schema", "strict"]))
    let type ← match payload.get? "type" with
      | none => some .text
      | some (.str value) => responseFormatTypes.find? (·.value = value)
      | some _ => none
    let jsonSchema ← readOptional readDict (payload.given "json_schema")
    let strict ← match payload.get? "strict" with
      | none => some true
      | some value => lib.bool value
    ResponseFormat.ofParts type jsonSchema strict
  | _ => none

/-- `response_format` of the request that is built -/
def requestResponseFormat (payload extensions : Dict Json) : Except OpenAIProtocolError (Option ResponseFormat) :=
  match payload.given "response_format" with
  | none => .ok none
  | some value =>
    match responseFormatOf lib value with
    | some format => .ok (some format)
    | none => .error {
        message := "OpenAI facade response_format is not supported by the governance contract: " ++
          safePydanticMessage (lib.responseFormatErrors value)
        code := "unsupported_openai_field"
        admissionReport := some (admissionReport lib payload extensions ["response_format"]) }

/-- `_openai_max_tokens` -/
def openaiMaxTokens (payload : Dict Json) : Option Json :=
  (payload.given "max_tokens").or (payload.given "max_completion_tokens")

/-- `bool(payload.get("stream"))` -/
def wantsStream (payload : Dict Json) : Bool := (payload.get? "stream").any Json.truthy

/-- `TaskRequest(..)` -/
def taskRequestOf (payload extensions : Dict Json) (messages : List ChatMessage)
    (responseFormat : Option ResponseFormat) : Option TaskRequest := do
  let maxTokens ← readOptional lib.positiveInt (openaiMaxTokens payload)
  let temperature ← readOptional (lib.floatBetween 0 2) (payload.given "temperature")
  let topP ← readOptional (lib.floatBetween 0 1) (payload.given "top_p")
  let stop ← readOptional readStop (payload.given "stop")
  let seed ← readOptional lib.int (payload.given "seed")
  let presencePenalty ← readOptional (lib.floatBetween (-2) 2) (payload.given "presence_penalty")
  let frequencyPenalty ← readOptional (lib.floatBetween (-2) 2) (payload.given "frequency_penalty")
  let tools ← readOptional readDicts (payload.given "tools")
  let toolChoice ← readOptional readStrOrDict (payload.given "tool_choice")
  let functions ← readOptional readDicts (payload.given "functions")
  let functionCall ← readOptional readStrOrDict (payload.given "function_call")
  let streamOptions ← readOptional readDict (payload.given "stream_options")
  let n ← readOptional lib.positiveInt (payload.given "n")
  return {
    task := "infer"
    mode := if wantsStream payload then .stream else .sync
    intent := openaiRequestIntent payload extensions
    messages, maxTokens, temperature, topP, stop, seed, presencePenalty, frequencyPenalty, tools, toolChoice, functions
    functionCall, streamOptions, n, responseFormat
    metadata := (openaiRequestMetadata lib payload extensions).entries }

/-- `if _openai_chat_message_bytes(messages) > inline_bytes_limit` -/
def checkInlineBytes (messages : List ChatMessage) (inlineBytesLimit : ℕ) : Except OpenAIProtocolError Unit :=
  if inlineBytesLimit < openaiChatMessageBytes messages then
    .error {
      message := "OpenAI facade inline prompt exceeds policy limit; use the gpucall SDK DataRef upload path for " ++
        "large inputs"
      code := "payload_too_large"
      statusCode := 413 }
  else .ok ()

/-- `raw` after the extensions have been popped -/
def officialPart (payload : Dict Json) : Dict Json := payload.restrict (· ∉ gpucallOpenaiExtensionFields)

/-- `extensions` -/
def extensionPart (payload : Dict Json) : Dict Json := payload.restrict (· ∈ gpucallOpenaiExtensionFields)

/-- `admit_openai_chat_completion` -/
def admitOpenaiChatCompletion (payload : Dict Json) (inlineBytesLimit : ℕ) :
    Except OpenAIProtocolError OpenAIChatAdmission := do
  let raw := officialPart payload
  let extensions := extensionPart payload
  validateOfficialRequestSchema lib raw
  rejectUnsupportedFields lib raw
  let messages ← (requestMessages raw).mapM (openaiMessageToChatMessage lib)
  checkInlineBytes messages inlineBytesLimit
  let responseFormat ← requestResponseFormat lib raw extensions
  match taskRequestOf lib raw extensions messages responseFormat with
  | none => throw {
      message := "OpenAI request cannot be admitted to the governance contract: " ++
        safePydanticMessage (lib.taskRequestErrors raw)
      code := "unsupported_openai_field"
      admissionReport := some (admissionReport lib raw extensions (pydanticLocations (lib.taskRequestErrors raw))) }
  | some taskRequest => return {
      taskRequest
      requestedModel := modelValue lib raw
      stream := wantsStream raw
      rawSupportedPayload := raw
      gpucallExtensions := extensions
      report := admissionReport lib raw extensions [] }

/-! ## What admission has gone through -/

section

variable {lib} {payload extensions : Dict Json} {inlineBytesLimit : ℕ} {admission : OpenAIChatAdmission}
  {messages : List ChatMessage} {format : Option ResponseFormat} {request : TaskRequest}

theorem sortedSet_eq_nil {names : List String} (h : (sortedSet names).isEmpty) : names = [] := by
  refine List.eq_nil_iff_forall_not_mem.mpr fun name hname => ?_
  have hmem : name ∈ sortedSet names := (List.mem_insertionSort _).mpr (List.mem_dedup.mpr hname)
  rw [List.isEmpty_iff.mp h] at hmem
  cases hmem

variable (lib payload extensions messages format request) in
/-- The fields of a request that has been built, as they are read off the payload -/
structure RequestReads : Prop where
  mode : request.mode = if wantsStream payload then .stream else .sync
  intent : request.intent = openaiRequestIntent payload extensions
  inlineInputs : request.inlineInputs = []
  messages : request.messages = messages
  maxTokens : readOptional lib.positiveInt (openaiMaxTokens payload) = some request.maxTokens
  temperature : readOptional (lib.floatBetween 0 2) (payload.given "temperature") = some request.temperature
  topP : readOptional (lib.floatBetween 0 1) (payload.given "top_p") = some request.topP
  stop : readOptional readStop (payload.given "stop") = some request.stop
  seed : readOptional lib.int (payload.given "seed") = some request.seed
  presencePenalty : readOptional (lib.floatBetween (-2) 2) (payload.given "presence_penalty") =
    some request.presencePenalty
  frequencyPenalty : readOptional (lib.floatBetween (-2) 2) (payload.given "frequency_penalty") =
    some request.frequencyPenalty
  tools : readOptional readDicts (payload.given "tools") = some request.tools
  toolChoice : readOptional readStrOrDict (payload.given "tool_choice") = some request.toolChoice
  functions : readOptional readDicts (payload.given "functions") = some request.functions
  functionCall : readOptional readStrOrDict (payload.given "function_call") = some request.functionCall
  streamOptions : readOptional readDict (payload.given "stream_options") = some request.streamOptions
  n : readOptional lib.positiveInt (payload.given "n") = some request.n
  responseFormat : request.responseFormat = format
  metadata : request.metadata = (openaiRequestMetadata lib payload extensions).entries

theorem requestReads_of_eq_some (h : taskRequestOf lib payload extensions messages format = some request) :
    RequestReads lib payload extensions messages format request := by
  unfold taskRequestOf at h
  obtain ⟨maxTokens, hmaxTokens, h⟩ := Option.bind_eq_some_iff.mp h
  obtain ⟨temperature, htemperature, h⟩ := Option.bind_eq_some_iff.mp h
  obtain ⟨topP, htopP, h⟩ := Option.bind_eq_some_iff.mp h
  obtain ⟨stop, hstop, h⟩ := Option.bind_eq_some_iff.mp h
  obtain ⟨seed, hseed, h⟩ := Option.bind_eq_some_iff.mp h
  obtain ⟨presence, hpresence, h⟩ := Option.bind_eq_some_iff.mp h
  obtain ⟨frequency, hfrequency, h⟩ := Option.bind_eq_some_iff.mp h
  obtain ⟨tools, htools, h⟩ := Option.bind_eq_some_iff.mp h
  obtain ⟨toolChoice, htoolChoice, h⟩ := Option.bind_eq_some_iff.mp h
  obtain ⟨functions, hfunctions, h⟩ := Option.bind_eq_some_iff.mp h
  obtain ⟨functionCall, hfunctionCall, h⟩ := Option.bind_eq_some_iff.mp h
  obtain ⟨streamOptions, hstreamOptions, h⟩ := Option.bind_eq_some_iff.mp h
  obtain ⟨n, hn, h⟩ := Option.bind_eq_some_iff.mp h
  obtain rfl := Option.some.inj h
  exact {
    mode := rfl
    intent := rfl
    inlineInputs := rfl
    messages := rfl
    maxTokens := hmaxTokens
    temperature := htemperature
    topP := htopP
    stop := hstop
    seed := hseed
    presencePenalty := hpresence
    frequencyPenalty := hfrequency
    tools := htools
    toolChoice := htoolChoice
    functions := hfunctions
    functionCall := hfunctionCall
    streamOptions := hstreamOptions
    n := hn
    responseFormat := rfl
    metadata := rfl }

variable (lib payload inlineBytesLimit admission) in
/-- What has passed when a request is admitted. -/
structure AdmissionStages : Prop where
  schema : lib.schemaErrors (officialPart payload) = []
  supported : unsupportedFields lib (officialPart payload) = []
  messages : (requestMessages (officialPart payload)).mapM (openaiMessageToChatMessage lib) =
    .ok admission.taskRequest.messages
  bounded : openaiChatMessageBytes admission.taskRequest.messages ≤ inlineBytesLimit
  responseFormat : requestResponseFormat lib (officialPart payload) (extensionPart payload) =
    .ok admission.taskRequest.responseFormat
  request : RequestReads lib (officialPart payload) (extensionPart payload) admission.taskRequest.messages
    admission.taskRequest.responseFormat admission.taskRequest
  report : admission.report = admissionReport lib (officialPart payload) (extensionPart payload) []

theorem admission_stages (h : admitOpenaiChatCompletion lib payload inlineBytesLimit = .ok admission) :
    AdmissionStages lib payload inlineBytesLimit admission := by
  obtain ⟨⟨⟩, hschema, h⟩ := Fallible.bind_eq_ok.mp h
  obtain ⟨⟨⟩, hsupported, h⟩ := Fallible.bind_eq_ok.mp h
  obtain ⟨messages, hmessages, h⟩ := Fallible.bind_eq_ok.mp h
  obtain ⟨⟨⟩, hbounded, h⟩ := Fallible.bind_eq_ok.mp h
  obtain ⟨format, hformat, h⟩ := Fallible.bind_eq_ok.mp h
  have hclean : lib.schemaErrors (officialPart payload) = [] := by
    unfold validateOfficialRequestSchema at hschema
    split at hschema
    · assumption
    · cases hschema
  have hknown : unsupportedFields lib (officialPart payload) = [] := by
    unfold rejectUnsupportedFields at hsupported
    dsimp only at hsupported
    split at hsupported
    · exact sortedSet_eq_nil ‹_›
    · cases hsupported
  have hfits : openaiChatMessageBytes messages ≤ inlineBytesLimit := by
    unfold checkInlineBytes at hbounded
    split at hbounded
    · cases hbounded
    · exact Nat.le_of_not_lt ‹_›
  split at h
  · cases h
  · rename_i request hrequest
    obtain rfl := Except.ok.inj h
    have hreads := requestReads_of_eq_some hrequest
    obtain rfl := hreads.messages
    obtain rfl := hreads.responseFormat
    exact {
      schema := hclean
      supported := hknown
      messages := hmessages
      bounded := hfits
      responseFormat := hformat
      request := hreads
      report := rfl }

/-! ## What the metadata tells -/

theorem get?_setGiven {fields : List (String × Option Json)} (h : (fields.map Prod.fst).Nodup) (metadata : Dict String)
    (key : String) : (setGiven metadata fields).get? key =
      ((fields.lookup key).join.map metadataValue).or (metadata.get? key) := by
  induction fields generalizing metadata with
  | nil => rfl
  | cons field fields ih =>
    rw [List.map_cons, List.nodup_cons] at h
    rw [setGiven, List.foldl_cons, ← setGiven, ih h.2, List.lookup_cons]
    by_cases hkey : key = field.1
    · have habsent : fields.lookup key = none := by
        refine List.lookup_eq_none_iff.mpr fun other hother => bne_iff_ne.mpr ?_
        rintro rfl
        exact h.1 (hkey ▸ List.mem_map_of_mem hother)
      rw [habsent, beq_iff_eq.mpr hkey]
      cases hvalue : field.2 with
      | none => rfl
      | some value => simp [hkey, Dict.get?_set_self]
    · rw [beq_eq_false_iff_ne.mpr hkey]
      cases hvalue : field.2 with
      | none => rfl
      | some value => simp [Dict.get?_set, hkey]

theorem lookup_givenEntries (d : Dict Json) (key : String) : (d.givenEntries.lookup key).join = d.given key := by
  have hlookup := Json.lookup_mapValues (fun value : Json => (some value).filter (!·.isNull)) d.entries key
  rw [Dict.givenEntries, hlookup, ← Dict.get?, Dict.given]
  cases d.get? key <;> rfl

theorem nodup_givenEntries (d : Dict Json) : (d.givenEntries.map Prod.fst).Nodup := by
  rw [Dict.givenEntries, List.map_map]
  exact d.nodup

theorem nodup_optionalMetadata : ((optionalMetadata payload extensions).map Prod.fst).Nodup := by
  simp [optionalMetadata, repeatedFields, gpucallOpenaiExtensionFields]

/-- The last writer of a key decides: the intent, the repeated fields, the model, the caller. -/
theorem get?_openaiRequestMetadata (key : String) : (openaiRequestMetadata lib payload extensions).get? key =
    (if key = "intent" then openaiRequestIntent payload extensions else none).or
      ((((optionalMetadata payload extensions).lookup key).join.map metadataValue).or
        (if key = "openai.model" then some (modelValue lib payload)
          else ((callerMetadata payload).given key).map metadataValue)) := by
  have htold : (setGiven ((setGiven ⟨[], List.nodup_nil⟩ (callerMetadata payload).givenEntries).set "openai.model"
      (modelValue lib payload)) (optionalMetadata payload extensions)).get? key =
      (((optionalMetadata payload extensions).lookup key).join.map metadataValue).or
        (if key = "openai.model" then some (modelValue lib payload)
          else ((callerMetadata payload).given key).map metadataValue) := by
    have hnone : (⟨[], List.nodup_nil⟩ : Dict String).get? key = none := rfl
    rw [get?_setGiven nodup_optionalMetadata, Dict.get?_set, get?_setGiven (nodup_givenEntries _),
      lookup_givenEntries, hnone, Option.or_none]
  unfold openaiRequestMetadata
  dsimp only
  split
  · rename_i intent hintent
    rw [Dict.get?_set, htold, hintent]
    by_cases hkey : key = "intent" <;> simp [hkey]
  · rename_i hintent
    rw [htold, hintent, ite_self, Option.none_or]

/-! ## Nothing is left out -/

theorem get?_restrict (p : String → Bool) (d : Dict α) (key : String) :
    (d.restrict p).get? key = if p key then d.get? key else none := by
  refine Option.ext fun value => ?_
  rw [Dict.get?_eq_some, Dict.restrict, List.mem_filter, ← Dict.get?_eq_some]
  by_cases hkey : p key <;> simp [hkey]

theorem get?_officialPart {key : String} (h : key ∉ gpucallOpenaiExtensionFields) :
    (officialPart payload).get? key = payload.get? key := by
  rw [officialPart, get?_restrict, if_pos (decide_eq_true h)]

theorem given_officialPart {key : String} (h : key ∉ gpucallOpenaiExtensionFields) :
    (officialPart payload).given key = payload.given key := by
  rw [Dict.given, get?_officialPart h, Dict.given]

theorem given_extensionPart {key : String} (h : key ∈ gpucallOpenaiExtensionFields) :
    (extensionPart payload).given key = payload.given key := by
  rw [Dict.given, extensionPart, get?_restrict, if_pos (decide_eq_true h), Dict.given]

theorem callerMetadata_officialPart : callerMetadata (officialPart payload) = callerMetadata payload := by
  rw [callerMetadata, get?_officialPart (by decide), callerMetadata]

theorem modelValue_officialPart : modelValue lib (officialPart payload) = modelValue lib payload := by
  rw [modelValue, get?_officialPart (by decide), modelValue]

variable (lib payload admission) in
/-- Every field of the request is reported once, and the metadata tells what the request gives and nothing else. -/
structure AccountsFor : Prop where
  reported : (admission.report.admitted ++ admission.report.metadataOnly ++
    admission.report.gpucallExtensions).Perm payload.keys
  model : admission.taskRequest.metadata.lookup "openai.model" = some (modelValue lib payload)
  repeated : ∀ field ∈ repeatedFields,
    admission.taskRequest.metadata.lookup ("openai." ++ field) = (payload.given field).map metadataValue
  extended : ∀ field ∈ gpucallOpenaiExtensionFields,
    admission.taskRequest.metadata.lookup ("gpucall." ++ field) = (payload.given field).map metadataValue
  /-- Under the names of the facade the caller has written nothing. -/
  unforged : ∀ key, reservedKey key → (admission.taskRequest.metadata.lookup key).isSome →
    key = "openai.model" ∨ (∃ field ∈ repeatedFields, key = "openai." ++ field) ∨
      ∃ field ∈ gpucallOpenaiExtensionFields, key = "gpucall." ++ field
  caller : ∀ key, reservedKey key = false → key ≠ "intent" →
    admission.taskRequest.metadata.lookup key = ((callerMetadata payload).given key).map metadataValue
  intent : admission.taskRequest.metadata.lookup "intent" =
    admission.taskRequest.intent.or (((callerMetadata payload).given "intent").map metadataValue)

theorem lookup_repeated {field : String} (h : field ∈ repeatedFields) :
    (optionalMetadata payload extensions).lookup ("openai." ++ field) = some (payload.given field) := by
  simp only [repeatedFields, List.mem_cons, List.not_mem_nil, or_false] at h
  rcases h with rfl | rfl | rfl | rfl | rfl | rfl | rfl | rfl | rfl | rfl | rfl | rfl | rfl <;>
    simp [optionalMetadata, repeatedFields, List.lookup_cons]

theorem lookup_extended {field : String} (h : field ∈ gpucallOpenaiExtensionFields) :
    (optionalMetadata payload extensions).lookup ("gpucall." ++ field) = some (extensions.given field) := by
  simp only [gpucallOpenaiExtensionFields, List.mem_cons, List.not_mem_nil, or_false] at h
  rcases h with rfl | rfl <;>
    simp [optionalMetadata, repeatedFields, gpucallOpenaiExtensionFields, List.lookup_cons]

theorem AdmissionStages.lookup_metadata (h : AdmissionStages lib payload inlineBytesLimit admission) (key : String) :
    admission.taskRequest.metadata.lookup key =
      (if key = "intent" then admission.taskRequest.intent else none).or
        ((((optionalMetadata (officialPart payload) (extensionPart payload)).lookup key).join.map metadataValue).or
          (if key = "openai.model" then some (modelValue lib payload)
            else ((callerMetadata payload).given key).map metadataValue)) := by
  rw [h.request.metadata, ← Dict.get?, get?_openaiRequestMetadata, h.request.intent, callerMetadata_officialPart, modelValue_officialPart]

theorem AdmissionStages.key_supported (h : AdmissionStages lib payload inlineBytesLimit admission) {key : String}
    (hkey : key ∈ (officialPart payload).keys) : key ∈ governanceFieldMap.map Prod.fst ∨ key ∈ metadataOnlyFields := by
  have hkeys : unsupportedKeys (officialPart payload) = [] := by
    have hsupported := h.supported
    simp only [unsupportedFields, List.append_eq_nil_iff] at hsupported
    exact hsupported.1.1.1
  have hnone := List.filterMap_eq_nil_iff.mp hkeys key ((List.mem_insertionSort _).mpr hkey)
  have hpolicy : ∀ field ∈ openaiChatCompletionsFields, field ∉ openaiChatCompletionsFailClosedFields →
      field ∈ governanceFieldMap.map Prod.fst ∨ field ∈ metadataOnlyFields := by decide
  split at hnone
  · cases hnone
  · rename_i hopen
    split at hnone
    · cases hnone
    · exact hpolicy key (Classical.not_not.mp ‹_›) hopen

theorem AdmissionStages.not_reserved (h : AdmissionStages lib payload inlineBytesLimit admission) {key : String}
    (hgiven : ((callerMetadata payload).given key).isSome) : reservedKey key = false := by
  have hreserved : reservedMetadata (officialPart payload) = [] := by
    have hsupported := h.supported
    simp only [unsupportedFields, List.append_eq_nil_iff] at hsupported
    exact hsupported.1.2
  rw [reservedMetadata, callerMetadata_officialPart, List.map_eq_nil_iff, List.filter_eq_nil_iff] at hreserved
  obtain ⟨value, hvalue⟩ := Option.isSome_iff_exists.mp hgiven
  have hmem : key ∈ (callerMetadata payload).keys := Dict.mem_keys.mpr ⟨value, (Option.filter_eq_some_iff.mp hvalue).1⟩
  exact Bool.eq_false_iff.mpr (hreserved key ((List.mem_insertionSort _).mpr hmem))

theorem perm_sortedNames (d : Dict Json) (p : String → Bool) : (sortedNames d p).Perm (d.keys.filter p) :=
  List.perm_insertionSort _ _

theorem keys_restrict (p : String → Bool) (d : Dict α) : (d.restrict p).keys = d.keys.filter p := by
  rw [Dict.keys, Dict.restrict, Dict.keys, List.filter_map]
  rfl

theorem AdmissionStages.reported (h : AdmissionStages lib payload inlineBytesLimit admission) :
    (admission.report.admitted ++ admission.report.metadataOnly ++ admission.report.gpucallExtensions).Perm
      payload.keys := by
  have hdisjoint : ∀ field ∈ metadataOnlyFields, field ∉ governanceFieldMap.map Prod.fst := by decide
  have hrest : (officialPart payload).keys.filter (· ∈ metadataOnlyFields) =
      (officialPart payload).keys.filter fun key => !decide (key ∈ governanceFieldMap.map Prod.fst) := by
    refine List.filter_congr fun key hkey => ?_
    have hcases := h.key_supported hkey
    by_cases hmem : key ∈ metadataOnlyFields
    · simp [hmem, hdisjoint key hmem]
    · simp [hmem, hcases.resolve_right hmem]
  have hofficial : (sortedNames (officialPart payload) (· ∈ governanceFieldMap.map Prod.fst) ++
      sortedNames (officialPart payload) (· ∈ metadataOnlyFields)).Perm (officialPart payload).keys := by
    refine ((perm_sortedNames _ _).append (perm_sortedNames _ _)).trans ?_
    rw [hrest]
    exact List.filter_append_perm _ _
  have hextension : (sortedNames (extensionPart payload) fun _ => true).Perm (extensionPart payload).keys := by
    refine (perm_sortedNames _ _).trans ?_
    rw [List.filter_true]
  rw [h.report]
  refine (hofficial.append hextension).trans ?_
  rw [officialPart, extensionPart, keys_restrict, keys_restrict]
  refine List.perm_append_comm.trans ?_
  simpa using List.filter_append_perm (· ∈ gpucallOpenaiExtensionFields) payload.keys

theorem reservedKey_openai (field : String) : reservedKey ("openai." ++ field) = true := by
  simp [reservedKey, startswith, String.toList_append]

theorem reservedKey_gpucall (field : String) : reservedKey ("gpucall." ++ field) = true := by
  simp [reservedKey, startswith, String.toList_append]

theorem name_of_optionalMetadata {key : String} (h : ((optionalMetadata payload extensions).lookup key).isSome) :
    (∃ field ∈ repeatedFields, key = "openai." ++ field) ∨
      ∃ field ∈ gpucallOpenaiExtensionFields, key = "gpucall." ++ field := by
  obtain ⟨value, hvalue⟩ := Option.isSome_iff_exists.mp h
  rcases List.mem_append.mp (OptionList.mem_of_lookup hvalue) with hmem | hmem
  · obtain ⟨field, hfield, heq⟩ := List.mem_map.mp hmem
    exact .inl ⟨field, hfield, (Prod.mk.inj heq).1.symm⟩
  · obtain ⟨field, hfield, heq⟩ := List.mem_map.mp hmem
    exact .inr ⟨field, hfield, (Prod.mk.inj heq).1.symm⟩

/-- Under a name of the facade only the facade writes. -/
theorem AdmissionStages.lookup_reserved (h : AdmissionStages lib payload inlineBytesLimit admission) {key : String}
    (hreserved : reservedKey key) (hmodel : key ≠ "openai.model") : admission.taskRequest.metadata.lookup key =
      ((optionalMetadata (officialPart payload) (extensionPart payload)).lookup key).join.map metadataValue := by
  have hintent : key ≠ "intent" := by
    rintro rfl
    exact absurd hreserved (by decide)
  have hcaller : (callerMetadata payload).given key = none := by
    refine Option.not_isSome_iff_eq_none.mp fun hgiven => ?_
    rw [h.not_reserved hgiven] at hreserved
    cases hreserved
  rw [h.lookup_metadata, hcaller, if_neg hmodel, Option.map_none, Option.or_none]
  simp [hintent]

end

/-! ### A request that is admitted -/

/-- The number that a text of digits names -/
def digitsValue (text : String) : Option ℕ :=
  if text.toList.all Char.isDigit then some (text.toList.foldl (fun n c => 10 * n + (c.toNat - 48)) 0) else none

/-- Libraries that read natural numbers only and ask of a request no more than a list of messages -/
def plainFacade : FacadeLibraries where
  builtins := artifactBuiltins
  float
    | .number text => (digitsValue text).map fun n => (n : ℚ)
    | _ => none
  int
    | .number text => (digitsValue text).map fun n => (n : ℤ)
    | _ => none
  bool
    | .bool value => some value
    | _ => none
  chatMessageErrors _ := []
  responseFormatErrors _ := []
  taskRequestErrors _ := []
  schemaErrors payload :=
    match payload.get? "messages" with
    | some (.arr items) => if items.all isDict then [] else [⟨"type", ["messages"], "not objects"⟩]
    | _ => [⟨"required", [], "no messages"⟩]
  schema_messages payload h := by
    split at h
    · rename_i items hitems
      split at h
      · exact ⟨items, hitems, List.all_eq_true.mp ‹_›⟩
      · cases h
    · cases h

/-- A question with a temperature and a note of the caller -/
def politeQuestion : Dict Json where
  entries := [
    ("model", .str "gpt-4o"), ("messages", .arr [.obj [("role", .str "user"), ("content", .str "hello")]]),
    ("temperature", .number "1"), ("user", .str "u-1"), ("intent", .null),
    ("metadata", .obj [("ticket", .str "T-7")])]

end Gpucall
