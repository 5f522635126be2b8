import Gpucall.Execution.Payloads
import Gpucall.Execution.RunpodVllm
import Gpucall.Lib.Each
import Gpucall.Lib.OptionList
import Gpucall.Routing.FailClosed
import Gpucall.Url

/-! The requests that a plan becomes on its way to an OpenAI-compatible server: the chat payload of
`execution/payloads.py`, the queue input of the RunPod adapter in `managed_endpoint.py`, and the chat
payload that the local DataRef worker makes of `plan_payload(plan)`. Which of the caller's generation
parameters a request has is read off it by `parameterIn`. -/

namespace Gpucall

/-- What the payloads use of the standard library and of the process. -/
structure PayloadHost where
  /-- `json.dumps` of a float -/
  floatText : ℚ → String
  lower : String → String
  /-- `int(raw)`, unless it raises -/
  intOfText : String → Option ℤ
  /-- `GPUCALL_RUNPOD_VLLM_MAX_IMAGE_REF_BYTES`, or what stands in for it -/
  maxImageRefBytes : String
  now : DateTime

def Json.isNull : Json → Bool
  | null => true
  | _ => false

/-- `for key, value in fields.items(): if value is not None: payload[key] = value` -/
def givenFields (fields : List (String × Option Json)) : JsonDict :=
  fields.filterMap fun field => field.2.map (field.1, ·)

def TupleError.badRequest (message : String) : PyExc :=
  .tupleError { message, retryable := false, statusCode := 400 }

/-! ## Messages -/

def ChatContent.toJson : ChatContent → Json
  | text value => .str value
  | parts items => .arr items

/-- `message.model_dump(mode="json", exclude_none=True)` -/
def ChatMessage.dump (message : ChatMessage) : Json :=
  .obj ([("role", .str message.role.value)] ++ givenFields [
    ("content", message.content.map (·.toJson)),
    ("name", message.name.map .str),
    ("tool_calls", message.toolCalls.map .arr),
    ("tool_call_id", message.toolCallId.map .str),
    ("function_call", message.functionCall),
    ("refusal", message.refusal.map .str)])

def roleMessage (role content : String) : Json :=
  .obj [("role", .str role), ("content", .str content)]

/-- `message.role == "system" and message.content == plan.system_prompt` -/
def matchesSystemPrompt (plan : CompiledPlan) (message : ChatMessage) : Bool :=
  message.role = .system &&
    match message.content, plan.systemPrompt with
    | some (.text value), some prompt => value = prompt
    | none, none => true
    | _, _ => false

def openaiMessagesFromPlan (plan : CompiledPlan) : List Json :=
  let system :=
    if truthyStr plan.systemPrompt && !plan.messages.any (matchesSystemPrompt plan) then
      [roleMessage "system" (plan.systemPrompt.getD "")] else []
  let messages := system ++ plan.messages.map ChatMessage.dump
  if !plan.inlineInputs.isEmpty then
    let prompt := (plan.inlineInputs.lookup "prompt").map (·.value)
    let others := (plan.inlineInputs.filter (·.1 ≠ "prompt")).map (·.2.value)
    messages ++ [roleMessage "user" (joinStr "\n" (prompt.toList ++ others))]
  else if plan.messages.any fun message => message.role ∉ [.system, .developer] then messages
  else messages ++ [roleMessage "user" ""]

/-! ## openai_chat_payload_from_plan -/

/-- The characters that `_schema_name` keeps -/
def schemaNameChar (c : Char) : Bool := c.isAlphanum || c = '_' || c = '-'

/-- `re.sub(r"[^a-zA-Z0-9_-]+", "_", ..)`; `inRun` tells that a run has been replaced. -/
def replaceRuns (inRun : Bool) : List Char → List Char
  | [] => []
  | c :: rest =>
    if schemaNameChar c then c :: replaceRuns false rest
    else if inRun then replaceRuns true rest
    else '_' :: replaceRuns true rest

def schemaName (recipeName : String) : String :=
  let name := ((replaceRuns false recipeName.toList).dropWhile (· = '_')).reverse.dropWhile (· = '_')
  let cut := name.reverse.take 64
  if cut.isEmpty then "gpucall_response" else String.ofList cut

def openaiResponseFormat (plan : CompiledPlan) (format : ResponseFormat) : Except PyExc Json :=
  match format.type with
  | .jsonObject => .ok (.obj [("type", .str "json_object")])
  | .text => .ok (.obj [("type", .str "text")])
  | .jsonSchema =>
    match format.jsonSchema with
    | none => .error (TupleError.badRequest "json_schema response_format requires schema")
    | some schema => .ok (.obj [
        ("type", .str "json_schema"),
        ("json_schema", .obj [
          ("name", .str (schemaName plan.recipeName)),
          ("strict", .bool format.strict),
          ("schema", schema)])])

variable (host : PayloadHost)

def PayloadHost.float (value : ℚ) : Json := .number (host.floatText value)

/-- The dictionary `optional` -/
def optionalFields (plan : CompiledPlan) (responseFormat : Option Json) :
    List (String × Option Json) := [
  ("temperature", plan.temperature.map host.float),
  ("max_tokens", plan.maxTokens.map fun n : ℕ+ => .number (toString (n : ℕ))),
  ("top_p", plan.topP.map host.float),
  ("seed", plan.seed.map fun n : ℤ => .number (toString n)),
  ("presence_penalty", plan.presencePenalty.map host.float),
  ("frequency_penalty", plan.frequencyPenalty.map host.float),
  ("stop", if plan.stopTokens.isEmpty then none else some (.arr (plan.stopTokens.map .str))),
  ("tools", plan.tools.map .arr),
  ("tool_choice", plan.toolChoice),
  ("functions", plan.functions.map .arr),
  ("function_call", plan.functionCall),
  ("n", plan.n.map fun n : ℕ+ => .number (toString (n : ℕ))),
  ("response_format", responseFormat)]

def openaiChatPayloadFromPlan (plan : CompiledPlan) (model : String) (stream : Bool)
    (messages : Option (List Json)) : Except PyExc JsonDict := do
  let responseFormat ← plan.responseFormat.mapM (openaiResponseFormat plan)
  return [("model", .str model), ("messages", .arr (messages.getD (openaiMessagesFromPlan plan))),
      ("stream", .bool stream)] ++
    givenFields (optionalFields host plan responseFormat) ++
    if stream then givenFields [("stream_options", plan.streamOptions)] else []

/-! ## The RunPod adapter -/

namespace RunpodVllm

def isImage (ref : DataRef) : Bool :=
  startswith (host.lower (ref.contentType.getD "")) "image/"

/-- `_runpod_ref_byte_limit` for images -/
def imageByteLimit : Except PyExc ℤ :=
  match host.intOfText host.maxImageRefBytes with
  | none => .error (TupleError.badRequest
      "RunPod worker-vLLM image DataRef byte limit must be an integer")
  | some limit =>
    if limit ≤ 0 then .error (TupleError.badRequest
      "RunPod worker-vLLM image DataRef byte limit must be positive")
    else .ok limit

def safeImageRefUrl (ref : DataRef) : Except PyExc String := do
  if String.ofList (urlparse ref.uri.toList).scheme ∉ ["http", "https"] then
    throw (TupleError.badRequest
      "RunPod worker-vLLM vision DataRefs must be gateway-presigned http(s) URLs")
  if !ref.gatewayPresigned then
    throw (TupleError.badRequest "RunPod worker-vLLM vision DataRefs must be gateway-presigned")
  if !isImage host ref then
    throw (TupleError.badRequest "RunPod worker-vLLM vision DataRefs must have image content_type")
  if ref.sha256.isNone then
    throw (TupleError.badRequest "RunPod worker-vLLM vision DataRefs require sha256 metadata")
  let maxBytes ← imageByteLimit host
  match ref.bytes with
  | none => throw (TupleError.badRequest
      "RunPod worker-vLLM vision DataRefs require positive bytes metadata")
  | some bytes =>
    if maxBytes < (bytes : ℕ) then
      throw (TupleError.badRequest "RunPod worker-vLLM vision DataRef exceeds image byte limit")
    if ref.expiresAt.any (· ≤ host.now) then
      throw (TupleError.badRequest "RunPod worker-vLLM vision DataRef is expired")
    return ref.uri

/-- The text of a part that `_append_vision_text_content` takes -/
def textOfPart : Json → Option String
  | .obj fields =>
    match fields.lookup "type", fields.lookup "text" with
    | some (.str type), some (.str text) =>
      if type ∈ ["text", "input_text"] then some text else none
    | _, _ => none
  | _ => none

/-- `_append_vision_text_content` to an empty list -/
def visionTextContent : Option ChatContent → Except PyExc (List String)
  | none => .ok []
  | some (.text value) => .ok (if value = "" then [] else [value])
  | some (.parts items) => items.mapM fun item =>
    match textOfPart item with
    | some text => .ok text
    | none => .error (TupleError.badRequest
        "RunPod worker-vLLM vision route only accepts text message parts plus DataRef images")

def textPart (text : String) : Json := .obj [("type", .str "text"), ("text", .str text)]

/-- The messages before the tail; `some` are the parts of a user message, which the tail may join. -/
def visionMessage (message : ChatMessage) : Except PyExc (List (Json ⊕ List Json)) :=
  match message.role with
  | .system | .developer =>
    .ok [.inl (.obj [("role", .str "system"),
      ("content", (message.content.map (·.toJson)).getD .null)])]
  | .user => do
    let parts ← visionTextContent message.content
    return if parts.isEmpty then [] else [.inr (parts.map textPart)]
  | .assistant | .tool | .function => .ok [.inl message.dump]

def userParts (parts : List Json) : Json := .obj [("role", .str "user"), ("content", .arr parts)]

def visionMessages (plan : CompiledPlan) : Except PyExc (List Json) := do
  if plan.task ≠ "vision" then
    throw (TupleError.badRequest "RunPod worker-vLLM only accepts DataRef inputs for vision")
  if plan.inputRefs.any (!isImage host ·) then
    throw (TupleError.badRequest
      "RunPod worker-vLLM vision route only accepts image DataRef inputs")
  if plan.inputRefs.isEmpty then
    throw (TupleError.badRequest "RunPod worker-vLLM vision route requires image DataRef input")
  let messages ← plan.messages.mapM visionMessage
  let texts := (plan.inlineInputs.insertionSort (·.1 ≤ ·.1)).map fun input => textPart input.2.value
  let images ← plan.inputRefs.mapM fun ref => do
    return .obj [("type", .str "image_url"),
      ("image_url", .obj [("url", .str (← safeImageRefUrl host ref))])]
  let tail := texts ++ images
  if tail.isEmpty then
    throw (TupleError.badRequest "RunPod worker-vLLM vision route requires prompt or image content")
  let written := fun message : Json ⊕ List Json => message.elim id userParts
  return match messages.flatten.getLast? with
  | some (.inr parts) => messages.flatten.dropLast.map written ++ [userParts (parts ++ tail)]
  | _ => messages.flatten.map written ++ [userParts tail]

/-- `_payload` -/
def payload (plan : CompiledPlan) (model : String) : Except PyExc JsonDict := do
  let messages ← if plan.inputRefs.isEmpty then pure none else some <$> visionMessages host plan
  openaiChatPayloadFromPlan host plan model false messages

/-- The keys that `_native_vllm_input` goes through -/
def samplingKeys : List String :=
  ["temperature", "max_tokens", "top_p", "seed", "presence_penalty", "frequency_penalty", "stop", "n"]

def nativeVllmInput (plan : CompiledPlan) (model : String) : Except PyExc JsonDict := do
  let payload ← payload host plan model
  let messages :=
    match payload.lookup "messages" with
    | some (.arr messages) => [("messages", Json.arr messages)]
    | _ => []
  let samplingParams := givenFields (samplingKeys.map fun key =>
    (key, (payload.lookup key).filter (!·.isNull)))
  return messages ++ if samplingParams.isEmpty then [] else [("sampling_params", .obj samplingParams)]

/-- `_runpod_vllm_requires_openai_route` -/
def requiresOpenaiRoute (plan : CompiledPlan) : Bool := plan.responseFormat.isSome

end RunpodVllm

/-! ## The local DataRef worker -/

namespace LocalDatarefWorker

/-- `_messages` -/
def messages (payload : PlanPayload) (datarefTexts : List String) : List Json :=
  let hasSystem := payload.messages.any (·.role = .system)
  let system := if truthyStr payload.systemPrompt && !hasSystem then
    [roleMessage "system" (payload.systemPrompt.getD "")] else []
  let texts := payload.messages.filterMap fun message =>
    match message.content with
    | some (.text value) => some (roleMessage message.role.value value)
    | _ => none
  let userParts := payload.inlineInputs.map (·.2.value) ++ datarefTexts
  if (system ++ texts).isEmpty || !userParts.isEmpty then
    system ++ texts ++ [roleMessage "user" (joinStr "\n\n" userParts)]
  else system ++ texts

/-- `response_format.model_dump(mode="json")` -/
def dumpResponseFormat (format : ResponseFormat) : Json :=
  .obj [("type", .str format.type.value), ("json_schema", format.jsonSchema.getD .null),
    ("strict", .bool format.strict)]

/-- `_chat_payload` -/
def chatPayload (payload : PlanPayload) (model : String) (datarefTexts : List String) : JsonDict :=
  [("model", .str model), ("messages", .arr (messages payload datarefTexts)),
    ("stream", .bool false)] ++ givenFields [
    ("max_tokens", payload.maxTokens.map fun n : ℕ+ => .number (toString (n : ℕ))),
    ("temperature", payload.temperature.map host.float),
    ("response_format", payload.responseFormat.map dumpResponseFormat)]

end LocalDatarefWorker

/-! ## Generation parameters -/

/-- A parameter that a caller can set. -/
inductive Parameter where
  | temperature | maxTokens | topP | seed | presencePenalty | frequencyPenalty | stop | tools | toolChoice
  | functions | functionCall | n | responseFormat
  deriving DecidableEq

namespace Parameter

/-- Its name in the OpenAI API -/
def key : Parameter → String
  | temperature => "temperature"
  | maxTokens => "max_tokens"
  | topP => "top_p"
  | seed => "seed"
  | presencePenalty => "presence_penalty"
  | frequencyPenalty => "frequency_penalty"
  | stop => "stop"
  | tools => "tools"
  | toolChoice => "tool_choice"
  | functions => "functions"
  | functionCall => "function_call"
  | n => "n"
  | responseFormat => "response_format"

/-- The plan sets it. -/
def setIn (plan : CompiledPlan) : Parameter → Bool
  | temperature => plan.temperature.isSome
  | maxTokens => plan.maxTokens.isSome
  | topP => plan.topP.isSome
  | seed => plan.seed.isSome
  | presencePenalty => plan.presencePenalty.isSome
  | frequencyPenalty => plan.frequencyPenalty.isSome
  | stop => !plan.stopTokens.isEmpty
  | tools => plan.tools.isSome
  | toolChoice => plan.toolChoice.isSome
  | functions => plan.functions.isSome
  | functionCall => plan.functionCall.isSome
  | n => plan.n.isSome
  | responseFormat => plan.responseFormat.isSome

end Parameter

/-- A response format as the OpenAI API has it, under a name for its schema. -/
def ResponseFormat.openaiShape (format : ResponseFormat) (name : String) : Json :=
  match format.jsonSchema with
  | none => .obj [("type", .str format.type.value)]
  | some schema => .obj [("type", .str format.type.value),
      ("json_schema", .obj [("name", .str name), ("strict", .bool format.strict), ("schema", schema)])]

/-- The value that a plan gives to a parameter, in the OpenAI API. -/
def Parameter.value (plan : CompiledPlan) (name : String) : Parameter → Option Json
  | temperature => plan.temperature.map host.float
  | maxTokens => plan.maxTokens.map fun n : ℕ+ => .number (toString (n : ℕ))
  | topP => plan.topP.map host.float
  | seed => plan.seed.map fun n : ℤ => .number (toString n)
  | presencePenalty => plan.presencePenalty.map host.float
  | frequencyPenalty => plan.frequencyPenalty.map host.float
  | stop => if plan.stopTokens.isEmpty then none else some (.arr (plan.stopTokens.map .str))
  | tools => plan.tools.map .arr
  | toolChoice => plan.toolChoice
  | functions => plan.functions.map .arr
  | functionCall => plan.functionCall
  | n => plan.n.map fun n : ℕ+ => .number (toString (n : ℕ))
  | responseFormat => plan.responseFormat.map (·.openaiShape name)

/-- What a request gives under a key, in its own fields or, as the native queue has it, in its
`sampling_params`. -/
def parameterIn (request : JsonDict) (key : String) : Option Json :=
  (request.lookup key).or
    (match request.lookup "sampling_params" with
    | some (.obj params) => params.lookup key
    | _ => none)

/-- Every parameter that the plan sets has its value in the request. -/
def Forwards (plan : CompiledPlan) (request : JsonDict) : Prop :=
  ∃ name, ∀ p : Parameter, p.setIn plan = true →
    parameterIn request p.key = p.value host plan name

/-- The requests that a plan can become. -/
inductive ChatPath where
  | openai (model : String) (stream : Bool) (messages : Option (List Json))
  | nativeQueue (model : String)
  | localWorker (model : String) (datarefTexts : List String)

namespace ChatPath

/-- The native queue is for asynchronous plans without a response format. -/
def Takes (plan : CompiledPlan) : ChatPath → Prop
  | nativeQueue _ => plan.mode = .async ∧ RunpodVllm.requiresOpenaiRoute plan = false
  | _ => True

def request (plan : CompiledPlan) : ChatPath → Except PyExc JsonDict
  | openai model stream messages => openaiChatPayloadFromPlan host plan model stream messages
  | nativeQueue model => RunpodVllm.nativeVllmInput host plan model
  | localWorker model texts => .ok (LocalDatarefWorker.chatPayload host (planPayload plan) model texts)

def nativeParameters : List Parameter :=
  [.temperature, .maxTokens, .topP, .seed, .presencePenalty, .frequencyPenalty, .stop, .n]

/-- The parameters that a path knows. -/
def knows : ChatPath → Parameter → Bool
  | openai .., _ => true
  | nativeQueue _, p => p ∈ nativeParameters
  | localWorker .., p => p ∈ [.temperature, .maxTokens]

end ChatPath

/-! ## What each path forwards -/

section

variable {plan : CompiledPlan} {name : String}

theorem lookup_cons_ne {value : α} {fields : List (String × α)} {key other : String}
    (h : key ≠ other) : ((other, value) :: fields).lookup key = fields.lookup key := by
  rw [List.lookup_cons, beq_false_of_ne h]

theorem lookup_givenFields {fields : List (String × Option Json)}
    (hnodup : (fields.map Prod.fst).Nodup) (key : String) :
    (givenFields fields).lookup key = (fields.lookup key).join := by
  induction fields with
  | nil => rfl
  | cons field fields ih =>
    obtain ⟨other, value⟩ := field
    rw [List.map_cons, List.nodup_cons] at hnodup
    have hrest := ih hnodup.2
    by_cases hkey : key = other
    · subst hkey
      cases value with
      | none =>
        have habsent : fields.lookup key = none := by
          rw [List.lookup_eq_none_iff]
          intro entry hentry
          have hne : key ≠ entry.1 := by
            intro heq
            exact hnodup.1 (List.mem_map.mpr ⟨entry, hentry, heq.symm⟩)
          simpa using hne
        rw [habsent] at hrest
        simpa [givenFields] using hrest
      | some value => simp [givenFields]
    · rw [lookup_cons_ne hkey, ← hrest]
      cases value with
      | none => rfl
      | some value => exact lookup_cons_ne hkey

theorem Parameter.value_isSome (p : Parameter) :
    (p.value host plan name).isSome = p.setIn plan := by
  cases p with
  | stop =>
    simp only [Parameter.value, Parameter.setIn]
    cases plan.stopTokens <;> rfl
  | toolChoice | functionCall => rfl
  | _ => exact Option.isSome_map

/-- The schema contract leaves no response format that the payload cannot write. -/
theorem openaiResponseFormat_eq (plan : CompiledPlan) (format : ResponseFormat) :
    openaiResponseFormat plan format = .ok (format.openaiShape (schemaName plan.recipeName)) := by
  have hschema := format.schema_iff
  unfold openaiResponseFormat ResponseFormat.openaiShape
  cases htype : format.type with
  | jsonSchema =>
    rw [htype] at hschema
    obtain ⟨schema, hsome⟩ := Option.isSome_iff_exists.mp (hschema.mpr rfl)
    rw [hsome]
    rfl
  | _ =>
    have hnone : format.jsonSchema = none := by simpa [htype] using hschema
    rw [hnone]
    rfl

theorem lookup_map_key {f : String → Option Json} {keys : List String} (key : String) :
    (keys.map fun k => (k, f k)).lookup key = if key ∈ keys then some (f key) else none := by
  induction keys with
  | nil => rfl
  | cons k keys ih =>
    rw [List.map_cons]
    by_cases hkey : key = k
    · subst hkey
      simp
    · rw [lookup_cons_ne hkey, ih]
      simp [hkey]

/-! ### The chat payload -/

variable {model : String} {stream : Bool} {messages : Option (List Json)} {request : JsonDict}

/-- The keys of a chat payload that are no parameters -/
def routeKeys : List String := ["model", "messages", "stream", "stream_options"]

theorem Parameter.key_not_mem_routeKeys (p : Parameter) : p.key ∉ routeKeys := by
  cases p <;> decide

theorem lookup_openaiChatPayload
    (h : openaiChatPayloadFromPlan host plan model stream messages = .ok request)
    {key : String} (hkey : key ∉ routeKeys) :
    request.lookup key = ((optionalFields host plan
      (plan.responseFormat.map (·.openaiShape (schemaName plan.recipeName)))).lookup key).join := by
  have hformat : plan.responseFormat.mapM (openaiResponseFormat plan) =
      .ok (plan.responseFormat.map (·.openaiShape (schemaName plan.recipeName))) := by
    cases plan.responseFormat with
    | none => rfl
    | some format =>
      rw [Option.mapM_some, openaiResponseFormat_eq]
      rfl
  rw [openaiChatPayloadFromPlan, hformat] at h
  obtain rfl := Except.ok.inj h
  simp only [routeKeys, List.mem_cons, not_or] at hkey
  obtain ⟨hmodel, hmessages, hstream, hoptions, -⟩ := hkey
  have hfields : (optionalFields host plan (plan.responseFormat.map
      (·.openaiShape (schemaName plan.recipeName)))).map Prod.fst |>.Nodup := by
    simp [optionalFields]
  have htail : (if stream then givenFields [("stream_options", plan.streamOptions)]
      else []).lookup key = none := by
    cases stream with
    | false => rfl
    | true =>
      have hone : [("stream_options", plan.streamOptions)].map Prod.fst |>.Nodup :=
        List.nodup_singleton _
      rw [if_pos rfl, lookup_givenFields hone, lookup_cons_ne hoptions]
      rfl
  rw [List.lookup_append, List.lookup_append, lookup_givenFields hfields, htail, Option.or_none]
  rw [lookup_cons_ne hmodel, lookup_cons_ne hmessages, lookup_cons_ne hstream, List.lookup_nil,
    Option.none_or]

theorem lookup_key_openaiChatPayload
    (h : openaiChatPayloadFromPlan host plan model stream messages = .ok request) (p : Parameter) :
    request.lookup p.key = p.value host plan (schemaName plan.recipeName) := by
  rw [lookup_openaiChatPayload host h p.key_not_mem_routeKeys]
  cases p <;> rfl

theorem parameterIn_openai
    (h : openaiChatPayloadFromPlan host plan model stream messages = .ok request) (p : Parameter) :
    parameterIn request p.key = p.value host plan (schemaName plan.recipeName) := by
  have hnone : request.lookup "sampling_params" = none := by
    rw [lookup_openaiChatPayload host h (by decide)]
    rfl
  rw [parameterIn, hnone, Option.or_none, lookup_key_openaiChatPayload host h]

/-! ### The native queue -/

/-- The input of the queue has no field of its own but the messages. -/
theorem nativeVllmInput_cases (h : RunpodVllm.nativeVllmInput host plan model = .ok request) :
    ∃ messages payload params, openaiChatPayloadFromPlan host plan model false messages = .ok payload ∧
      params = givenFields (RunpodVllm.samplingKeys.map fun key =>
        (key, (payload.lookup key).filter (!·.isNull))) ∧
      ∃ front, (∀ field ∈ front, field.1 = "messages") ∧
        request = front ++ if params.isEmpty then [] else [("sampling_params", .obj params)] := by
  obtain ⟨payload, hpayload, h⟩ := Fallible.bind_eq_ok.mp h
  obtain rfl := Except.ok.inj h
  have hopenai : ∃ messages, openaiChatPayloadFromPlan host plan model false messages = .ok payload := by
    unfold RunpodVllm.payload at hpayload
    split at hpayload
    · exact ⟨none, hpayload⟩
    · obtain ⟨given, hgiven, hpayload⟩ := Fallible.bind_eq_ok.mp hpayload
      exact ⟨given, hpayload⟩
  obtain ⟨messages, hopenai⟩ := hopenai
  refine ⟨messages, payload, _, hopenai, rfl, _, ?_, rfl⟩
  intro field hfield
  split at hfield
  · rw [List.mem_singleton.mp hfield]
  · cases hfield

/-- The values of these parameters are numbers and lists. -/
theorem Parameter.filter_value {p : Parameter} (hp : p ∈ ChatPath.nativeParameters) :
    (p.value host plan name).filter (!·.isNull) = p.value host plan name := by
  cases hvalue : p.value host plan name with
  | none => rfl
  | some value =>
    have hnull : value.isNull = false := by
      cases p with
      | stop =>
        obtain ⟨-, hstop⟩ := (Option.ite_none_left_eq_some ..).mp hvalue
        obtain rfl := Option.some.inj hstop
        rfl
      | tools | toolChoice | functions | functionCall | responseFormat => exact absurd hp (by decide)
      | _ =>
        obtain ⟨_, -, rfl⟩ := Option.map_eq_some_iff.mp hvalue
        rfl
    simp [Option.filter, hnull]

theorem key_mem_samplingKeys (p : Parameter) :
    p.key ∈ RunpodVllm.samplingKeys ↔ p ∈ ChatPath.nativeParameters := by
  cases p <;> decide

theorem parameterIn_native (h : RunpodVllm.nativeVllmInput host plan model = .ok request)
    (p : Parameter) : parameterIn request p.key =
      if p ∈ ChatPath.nativeParameters then p.value host plan (schemaName plan.recipeName)
      else none := by
  obtain ⟨messages, payload, params, hopenai, hparams, front, hfront, rfl⟩ :=
    nativeVllmInput_cases host h
  have hsampling : params.lookup p.key =
      if p ∈ ChatPath.nativeParameters then p.value host plan (schemaName plan.recipeName)
      else none := by
    have hkeys : (RunpodVllm.samplingKeys.map fun key =>
        (key, (payload.lookup key).filter (!·.isNull))).map Prod.fst |>.Nodup := by
      simp [RunpodVllm.samplingKeys]
    rw [hparams, lookup_givenFields hkeys, lookup_map_key]
    simp only [key_mem_samplingKeys]
    by_cases hp : p ∈ ChatPath.nativeParameters
    · rw [if_pos hp, if_pos hp, lookup_key_openaiChatPayload host hopenai]
      exact Parameter.filter_value host hp
    · rw [if_neg hp, if_neg hp]
      rfl
  have hmiss {key : String} (hkey : key ≠ "messages") : front.lookup key = none := by
    rw [List.lookup_eq_none_iff]
    intro field hfield
    rw [hfront field hfield]
    simpa using hkey
  have hown : p.key ≠ "messages" ∧ p.key ≠ "sampling_params" := by
    cases p <;> decide
  rw [parameterIn, List.lookup_append, List.lookup_append, hmiss hown.1, hmiss (by decide), ← hsampling]
  cases params with
  | nil => rfl
  | cons param params =>
    rw [List.isEmpty_cons, if_neg Bool.false_ne_true, lookup_cons_ne hown.2]
    simp

/-! ### The local worker -/

variable (plan model name) in
theorem parameterIn_worker (texts : List String) (p : Parameter) :
    parameterIn (LocalDatarefWorker.chatPayload host (planPayload plan) model texts) p.key =
      if (ChatPath.localWorker model texts).knows p then p.value host plan name
      else if p = .responseFormat then
        plan.responseFormat.map LocalDatarefWorker.dumpResponseFormat
      else none := by
  have hlookup {key : String} (hkey : key ∉ routeKeys) :
      (LocalDatarefWorker.chatPayload host (planPayload plan) model texts).lookup key =
        ([("max_tokens", plan.maxTokens.map fun n : ℕ+ => .number (toString (n : ℕ))),
          ("temperature", plan.temperature.map host.float),
          ("response_format", plan.responseFormat.map LocalDatarefWorker.dumpResponseFormat)].lookup
            key).join := by
    simp only [routeKeys, List.mem_cons, not_or] at hkey
    obtain ⟨hmodel, hmessages, hstream, -⟩ := hkey
    rw [LocalDatarefWorker.chatPayload, List.lookup_append, lookup_givenFields (by simp),
      lookup_cons_ne hmodel, lookup_cons_ne hmessages, lookup_cons_ne hstream, List.lookup_nil,
      Option.none_or]
    rfl
  rw [parameterIn, hlookup (by decide : "sampling_params" ∉ routeKeys), hlookup p.key_not_mem_routeKeys]
  cases p <;> simp [Parameter.key, List.lookup_cons, ChatPath.knows, Parameter.value]

theorem dumpResponseFormat_ne_openaiShape (format : ResponseFormat) (name : String) :
    LocalDatarefWorker.dumpResponseFormat format ≠ format.openaiShape name := by
  unfold LocalDatarefWorker.dumpResponseFormat ResponseFormat.openaiShape
  cases format.jsonSchema <;> simp

end

/-! ## The parameters of a plan reach the model -/

theorem not_forwards_of_unknown {path : ChatPath} {plan : CompiledPlan} {request : JsonDict}
    (hrequest : path.request host plan = .ok request) {p : Parameter} (hset : p.setIn plan = true)
    (hknows : path.knows p = false) : ¬Forwards host plan request := by
  rintro ⟨name, hforwards⟩
  have hvalue := hforwards p hset
  have hsome : (p.value host plan name).isSome := (p.value_isSome host).trans hset
  cases path with
  | openai => cases hknows
  | nativeQueue model =>
    rw [← hvalue, parameterIn_native host hrequest, if_neg (of_decide_eq_false hknows)] at hsome
    cases hsome
  | localWorker model texts =>
    obtain rfl := Except.ok.inj hrequest
    have hworker := parameterIn_worker host plan name model texts p
    rw [hknows, if_neg Bool.false_ne_true] at hworker
    split at hworker
    · rename_i hformat
      subst hformat
      obtain ⟨format, hformat⟩ := Option.isSome_iff_exists.mp hset
      rw [hvalue, Parameter.value, hformat] at hworker
      exact dumpResponseFormat_ne_openaiShape format name (Option.some.inj hworker).symm
    · rw [← hvalue, hworker] at hsome
      cases hsome

theorem forwards_of_known {path : ChatPath} {plan : CompiledPlan} {request : JsonDict}
    (hrequest : path.request host plan = .ok request)
    (hknows : ∀ p : Parameter, p.setIn plan = true → path.knows p = true) :
    Forwards host plan request := by
  refine ⟨schemaName plan.recipeName, fun p hset => ?_⟩
  cases path with
  | openai => exact parameterIn_openai host hrequest p
  | nativeQueue model =>
    rw [parameterIn_native host hrequest, if_pos (of_decide_eq_true (hknows p hset))]
  | localWorker model texts =>
    obtain rfl := Except.ok.inj hrequest
    rw [parameterIn_worker, if_pos (hknows p hset)]

/-- A request has the parameters of its plan exactly if the path knows all that are set. -/
theorem forwards_iff (path : ChatPath) (plan : CompiledPlan) (request : JsonDict)
    (hrequest : path.request host plan = .ok request) :
    Forwards host plan request ↔ ∀ p : Parameter, p.setIn plan = true → path.knows p = true := by
  constructor
  · intro hforwards p hset
    rw [← Bool.not_eq_false]
    intro hknows
    exact not_forwards_of_unknown host hrequest hset hknows hforwards
  · exact forwards_of_known host hrequest

/-! ### What the adapter posts -/

open Effects

/-- What is put on the queue is the request of the native path, of a plan that takes it. -/
def postsInput (plan : CompiledPlan) (model : String) :
    CallCondition RunpodCall RunpodCall.Res PyExc where
  holds op _ := ∀ input executionTimeout ttl, op = .postRun input executionTimeout ttl →
    (ChatPath.nativeQueue model).Takes plan ∧
      ∃ fields, (ChatPath.nativeQueue model).request host plan = .ok fields ∧ input = .obj fields
  andThen _ h := h

namespace RunpodVllmServerlessAdapter

variable {host} {a : RunpodVllmServerlessAdapter} {plan : CompiledPlan} {model : String}

theorem each_request {op : RunpodCall} (h : ∀ input executionTimeout ttl,
    op ≠ .postRun input executionTimeout ttl) : (request op).Each (postsInput host plan model) :=
  ⟨fun _ _ _ heq => absurd heq (h _ _ _), fun _ => trivial⟩

theorem each_healthSync : a.healthSync.Each (postsInput host plan model) := by
  refine Prog.Each.bind (each_request (by simp)) fun response => ?_
  split
  · refine Prog.Each.bind (each_request (by simp)) fun modelsResponse => ?_
    split
    · trivial
    · exact Prog.Each.bind trivial fun _ => trivial
  · trivial

theorem each_startNativeSync (htakes : (ChatPath.nativeQueue model).Takes plan)
    (hinput : a.nativeVllmInput plan = (RunpodVllm.nativeVllmInput host plan model).map .obj) :
    (a.startNativeSync plan).Each (postsInput host plan model) := by
  refine Prog.Each.bind each_healthSync fun health => ?_
  refine Prog.Each.bind trivial fun rejectionReason => ?_
  split
  · trivial
  · rw [hinput]
    cases hrequest : RunpodVllm.nativeVllmInput host plan model with
    | error exc => trivial
    | ok fields =>
      have hpost (executionTimeout ttl : ℕ) :
          (request (.postRun (.obj fields) executionTimeout ttl)).Each (postsInput host plan model) := by
        refine ⟨?_, fun _ => trivial⟩
        rintro input _ _ ⟨⟩
        exact ⟨htakes, fields, hrequest, rfl⟩
      change Prog.Each _ (request (.postRun (.obj fields) _ _) >>= _)
      refine Prog.Each.bind (hpost _ _) fun response => ?_
      refine Prog.Each.bind trivial fun data => ?_
      split <;> trivial

/-- `start` asks for the native queue only where the plan takes it. -/
theorem each_start (hinput :
      a.nativeVllmInput plan = (RunpodVllm.nativeVllmInput host plan model).map .obj) :
    (a.start plan).Each (postsInput host plan model) := by
  unfold start
  split
  · trivial
  · split
    · rename_i hroute
      have htakes : (ChatPath.nativeQueue model).Takes plan :=
        ⟨hroute.1, Option.isSome_eq_false_iff.mpr hroute.2⟩
      have hqueue : (a.startNativeSync plan >>= fun jobId => pure (a.nativeHandle jobId)).Each
          (postsInput host plan model) :=
        Prog.Each.bind (each_startNativeSync htakes hinput) fun _ => trivial
      refine Prog.Each.andThen hqueue fun r => ?_
      cases r with
      | ok handle => trivial
      | error exc =>
        dsimp only
        split
        · split <;> trivial
        · trivial
    · trivial

end RunpodVllmServerlessAdapter

/-! ### Tools on the native queue -/

/-- A deployment of one RunPod endpoint, which serves asynchronous plans only. -/
def runpodVllmTuples : GovernanceCompiler :=
  let tuple : ExecutionTupleSpec := {
    GovernanceCompiler.modalTuple "runpod-vllm-a10g" 24 (1 / 1000) with
    adapter := "runpod-vllm-serverless"
    executionSurface := some .managedEndpoint
    modes := [.async]
    target := some "endpoint-1"
    endpointContract := some "openai-chat-completions" }
  { GovernanceCompiler.twoModalTuples with
    tuples := { entries := [("runpod-vllm-a10g", tuple)] }
    requireRouteValidation := false }

def runpodVllmEnvironment : Environment :=
  { GovernanceCompiler.modalEnvironment with
    descriptors := fun adapter =>
      if adapter = "runpod-vllm-serverless" then some {
        executionSurface := some .managedEndpoint
        endpointContract := some "openai-chat-completions"
        outputContract := some "openai-chat-completions"
        requiredAutoFields := [(.target, "RunPod endpoint target is not configured")] }
      else none }

def weatherTool : Json :=
  .obj [("type", .str "function"), ("function", .obj [("name", .str "get_weather")])]

def toolRequest : TaskRequest where
  task := "infer"
  mode := .async
  messages := [{ role := .user, content := some (.text "What is the weather in Paris?") }]
  tools := some [weatherTool]

def plainHost : PayloadHost where
  floatText _ := "0.7"
  lower s := String.ofList (s.toList.map Char.toLower)
  intOfText _ := some 16777216
  maxImageRefBytes := "16777216"
  now := GovernanceCompiler.noon.now

/-- Without its tools the request takes the queue with all that it sets. -/
theorem forwards_iff_seed : ∃ plan input,
    runpodVllmTuples.compile runpodVllmEnvironment GovernanceCompiler.noon "plan-1"
      { toolRequest with tools := none, seed := some 7, stop := some (.one "END") } = .ok plan ∧
    (ChatPath.nativeQueue "qwen").Takes plan ∧
    (ChatPath.nativeQueue "qwen").request plainHost plan = .ok input ∧
    Parameter.seed.setIn plan = true ∧ Forwards plainHost plan input := by
  obtain ⟨plan, hplan, hfacts⟩ := GovernanceCompiler.exists_ok_of_map (show
    ((runpodVllmTuples.compile runpodVllmEnvironment GovernanceCompiler.noon "plan-1"
      { toolRequest with tools := none, seed := some 7, stop := some (.one "END") }).toOption.map
        fun plan => (plan.mode, Parameter.seed.setIn plan,
          [Parameter.tools, .toolChoice, .functions, .functionCall, .responseFormat].map (·.setIn plan),
          ((ChatPath.nativeQueue "qwen").request plainHost plan).toOption.isSome)) =
      some (.async, true, [false, false, false, false, false], true) by decide +kernel)
  obtain ⟨hmode, hseed, hunset, hok⟩ : plan.mode = .async ∧ _ ∧ _ ∧ _ := by
    simpa only [Prod.mk.injEq] using hfacts
  obtain ⟨htools, hchoice, hfunctions, hcall, hformat⟩ :
      _ = false ∧ _ = false ∧ _ = false ∧ _ = false ∧ _ = false := by
    simpa only [List.map_cons, List.map_nil, List.cons.injEq, and_true] using hunset
  cases hinput : (ChatPath.nativeQueue "qwen").request plainHost plan with
  | error exc => simp [hinput, Except.toOption] at hok
  | ok input =>
    refine ⟨plan, input, hplan, ⟨hmode, hformat⟩, hinput, hseed, ?_⟩
    refine (forwards_iff plainHost (.nativeQueue "qwen") plan input hinput).mpr fun p hset => ?_
    cases p with
    | tools => exact htools.symm.trans hset
    | toolChoice => exact hchoice.symm.trans hset
    | functions => exact hfunctions.symm.trans hset
    | functionCall => exact hcall.symm.trans hset
    | responseFormat => exact hformat.symm.trans hset
    | _ => rfl

/-- A plan whose tools the model never sees. -/
theorem not_forwards_tools : ∃ plan input,
    runpodVllmTuples.compile runpodVllmEnvironment GovernanceCompiler.noon "plan-1" toolRequest =
      .ok plan ∧
    (ChatPath.nativeQueue "qwen").Takes plan ∧
    (ChatPath.nativeQueue "qwen").request plainHost plan = .ok input ∧
    ¬Forwards plainHost plan input := by
  obtain ⟨plan, hplan, hfacts⟩ := GovernanceCompiler.exists_ok_of_map (show
    ((runpodVllmTuples.compile runpodVllmEnvironment GovernanceCompiler.noon "plan-1"
      toolRequest).toOption.map fun plan => (plan.mode, RunpodVllm.requiresOpenaiRoute plan,
        Parameter.tools.setIn plan,
        ((ChatPath.nativeQueue "qwen").request plainHost plan).toOption.isSome)) =
      some (.async, false, true, true) by decide +kernel)
  obtain ⟨hmode, hroute, hset, hok⟩ : plan.mode = .async ∧ _ ∧ _ ∧ _ := by
    simpa only [Prod.mk.injEq] using hfacts
  cases hinput : (ChatPath.nativeQueue "qwen").request plainHost plan with
  | error exc => simp [hinput, Except.toOption] at hok
  | ok input =>
    exact ⟨plan, input, hplan, ⟨hmode, hroute⟩, hinput,
      not_forwards_of_unknown plainHost hinput hset (by decide)⟩

end Gpucall
