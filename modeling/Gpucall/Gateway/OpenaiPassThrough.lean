import Gpucall.Execution.SystemPrompt
import Gpucall.Gateway.OpenaiAdmission
import Gpucall.Routing.RecipeChoice

/-! From the request for OpenAI chat completions that a caller sends to the one that an OpenAI-compatible worker
gets: the facade admits it, the compiler makes a plan of it, and the adapter writes the plan as a chat payload. -/

namespace Gpucall

open GovernanceCompiler

variable (host : PayloadHost) (lib : FacadeLibraries)

/-! ## What the caller asks for -/

/-- The stop sequences of a request -/
def askedStops (payload : Dict Json) : List String :=
  match (payload.given "stop").bind readStop with
  | none => []
  | some (.one token) => [token]
  | some (.many tokens) => tokens

/-- The value that a request gives to a parameter, as the API writes it -/
def Parameter.asked (payload : Dict Json) (name : String) : Parameter → Option Json
  | temperature => ((payload.given "temperature").bind lib.float).map host.float
  | maxTokens => ((openaiMaxTokens payload).bind lib.positiveInt).map fun n : ℕ+ => .number (toString (n : ℕ))
  | topP => ((payload.given "top_p").bind lib.float).map host.float
  | seed => ((payload.given "seed").bind lib.int).map fun n : ℤ => .number (toString n)
  | presencePenalty => ((payload.given "presence_penalty").bind lib.float).map host.float
  | frequencyPenalty => ((payload.given "frequency_penalty").bind lib.float).map host.float
  | stop => if (askedStops payload).isEmpty then none else some (.arr ((askedStops payload).map .str))
  | tools => payload.given "tools"
  | toolChoice => payload.given "tool_choice"
  | functions => payload.given "functions"
  | functionCall => payload.given "function_call"
  | n => ((payload.given "n").bind lib.positiveInt).map fun n : ℕ+ => .number (toString (n : ℕ))
  | responseFormat => ((payload.given "response_format").bind (responseFormatOf lib)).map (·.openaiShape name)

/-- The value that a recipe gives to a parameter for which the caller gives none -/
def Parameter.recipeDefault (recipe : Recipe) (structured : Bool) : Parameter → Option Json
  | temperature => (if structured then recipe.structuredTemperature else recipe.defaultTemperature).map host.float
  | maxTokens => recipe.maxOutputTokens.map fun n : ℕ+ => .number (toString (n : ℕ))
  | _ => none

/-- The row is a system message. -/
def fromSystem : Json → Bool
  | .obj fields =>
    match fields.lookup "role" with
    | some (.str role) => role = "system"
    | _ => false
  | _ => false

/-- The row says what the message says: its content is one text now, and nulls are left out. -/
structure Says (message : Dict Json) (fields : List (String × Json)) : Prop where
  role : fields.lookup "role" = some ((message.get? "role").getD (.str "user"))
  content : ∀ content, message.given "content" = some content →
    ∃ text, messageContentToText lib.builtins content = .ok text ∧ fields.lookup "content" = some (.str text)
  noContent : message.given "content" = none → fields.lookup "content" = none
  kept : ∀ key ∈ ["name", "tool_calls", "tool_call_id", "function_call", "refusal"],
    fields.lookup key = message.given key

/-- The worker is asked for what the caller asks for, and otherwise for what the recipe has. -/
structure ForwardsCaller (payload : Dict Json) (recipe : Recipe) (structured stream : Bool) (request : JsonDict) :
    Prop where
  parameters : ∀ p : Parameter, p ≠ .stop → request.lookup p.key =
    (p.asked host lib payload (schemaName recipe.name)).or (p.recipeDefault host recipe structured)
  stop : request.lookup "stop" = if (recipe.stopTokens ++ askedStops payload).isEmpty then none
    else some (.arr ((recipe.stopTokens ++ askedStops payload).map .str))
  streamOptions : request.lookup "stream_options" = if stream then payload.given "stream_options" else none
  /-- The messages that are not for the system follow one another as the caller has sent them. -/
  messages : ∃ rows said added, request.lookup "messages" = some (.arr rows) ∧
    rows.filter (!fromSystem ·) = said.map .obj ++ added ∧ (added = [] ∨ added = [roleMessage "user" ""]) ∧
    List.Forall₂ (Says lib) ((requestMessages payload).filter fun message =>
      !fromSystem (.obj message.entries)) said

variable {host lib} {payload item : Dict Json} {message : ChatMessage} {request : TaskRequest} {plan : CompiledPlan}
  {env : Environment} {c : GovernanceCompiler} {instant : Instant} {planId : String} {name : String}

/-! ## One message -/

theorem eq_bind_of_readOptional {read : Json → Option α} {value : Option Json} {found : Option α}
    (h : readOptional read value = some found) : found = value.bind read := by
  cases value with
  | none => exact (Option.some.inj h).symm
  | some value =>
    obtain ⟨x, hx, rfl⟩ := Option.map_eq_some_iff.mp h
    rw [Option.bind_some, hx]

theorem map_of_readOptional {read : Json → Option α} {back : α → Json}
    (hback : ∀ value x, read value = some x → back x = value) {value : Option Json} {found : Option α}
    (h : readOptional read value = some found) : found.map back = value := by
  rw [eq_bind_of_readOptional h]
  cases value with
  | none => rfl
  | some value =>
    obtain ⟨x, hx, -⟩ := Option.map_eq_some_iff.mp h
    rw [Option.bind_some, hx, Option.map_some, hback value x hx]

theorem same_of_readOptional {read : Json → Option Json} (hsame : ∀ value found, read value = some found → found = value)
    {value found : Option Json} (h : readOptional read value = some found) : found = value := by
  have hback := map_of_readOptional hsame h
  rwa [Option.map_id'] at hback

theorem eq_of_readText {value : Json} {text : String} (h : readText value = some text) : .str text = value := by
  unfold readText at h
  split at h
  · rw [Option.some.inj h]
  · cases h

theorem eq_of_readDicts {value : Json} {items : List Json} (h : readDicts value = some items) : .arr items = value := by
  unfold readDicts at h
  split at h
  · obtain ⟨-, h⟩ := Option.ite_none_right_eq_some.mp h
    rw [Option.some.inj h]
  · cases h

theorem eq_of_readDict {value found : Json} (h : readDict value = some found) : found = value := by
  obtain ⟨-, h⟩ := Option.ite_none_right_eq_some.mp h
  exact (Option.some.inj h).symm

theorem eq_of_readStrOrDict {value found : Json} (h : readStrOrDict value = some found) : found = value := by
  unfold readStrOrDict at h
  split at h
  · exact (Option.some.inj h).symm
  · exact eq_of_readDict h

/-- The fields of a message that the reader keeps as they are -/
structure KeptFields (payload : Dict Json) (message : ChatMessage) : Prop where
  name : message.name.map .str = payload.given "name"
  toolCalls : message.toolCalls.map .arr = payload.given "tool_calls"
  toolCallId : message.toolCallId.map .str = payload.given "tool_call_id"
  functionCall : message.functionCall = payload.given "function_call"
  refusal : message.refusal.map .str = payload.given "refusal"

theorem chatMessageOf_eq_some (h : chatMessageOf payload = some message) :
    readRole (payload.get? "role") = some message.role ∧
      message.content = (payload.given "content").bind readContent ∧ KeptFields payload message := by
  unfold chatMessageOf at h
  obtain ⟨⟨⟩, -, h⟩ := Option.bind_eq_some_iff.mp h
  obtain ⟨role, hrole, h⟩ := Option.bind_eq_some_iff.mp h
  obtain ⟨content, hcontent, h⟩ := Option.bind_eq_some_iff.mp h
  obtain ⟨name, hname, h⟩ := Option.bind_eq_some_iff.mp h
  obtain ⟨toolCalls, htoolCalls, h⟩ := Option.bind_eq_some_iff.mp h
  obtain ⟨toolCallId, htoolCallId, h⟩ := Option.bind_eq_some_iff.mp h
  obtain ⟨functionCall, hfunctionCall, h⟩ := Option.bind_eq_some_iff.mp h
  obtain ⟨refusal, hrefusal, h⟩ := Option.bind_eq_some_iff.mp h
  obtain ⟨⟨⟩, -, h⟩ := Option.bind_eq_some_iff.mp h
  obtain rfl := Option.some.inj h
  exact ⟨hrole, eq_bind_of_readOptional hcontent, {
    name := map_of_readOptional (fun _ _ => eq_of_readText) hname
    toolCalls := map_of_readOptional (fun _ _ => eq_of_readDicts) htoolCalls
    toolCallId := map_of_readOptional (fun _ _ => eq_of_readText) htoolCallId
    functionCall := same_of_readOptional (fun _ _ => eq_of_readDict) hfunctionCall
    refusal := map_of_readOptional (fun _ _ => eq_of_readText) hrefusal }⟩

theorem role_of_readRole {value : Option Json} {role : ChatRole} (h : readRole value = some role) :
    .str role.value = value.getD (.str "user") := by
  unfold readRole at h
  split at h
  · obtain rfl := Option.some.inj h
    rfl
  · have hvalue := List.find?_some h
    rw [Option.getD_some, of_decide_eq_true hvalue]
  · cases h

theorem given_set_of_ne {key other : String} (hne : other ≠ key) (value : Json) :
    (payload.set key value).given other = payload.given other := by
  rw [Dict.given, Dict.get?_set, if_neg hne, Dict.given]

theorem given_set_str (key text : String) : (payload.set key (.str text)).given key = some (.str text) := by
  rw [Dict.given, Dict.get?_set_self]
  rfl

variable (lib) in
/-- The message with one text for its content -/
structure TextContent (item read : Dict Json) : Prop where
  role : read.get? "role" = item.get? "role"
  others : ∀ key ≠ "content", read.given key = item.given key
  content : (item.given "content" = none ∧ read.given "content" = none) ∨ ∃ content text,
    item.given "content" = some content ∧ messageContentToText lib.builtins content = .ok text ∧
      read.given "content" = some (.str text)

theorem textContent_of_ok {read : Dict Json} (h : withTextContent lib item = .ok read) : TextContent lib item read := by
  unfold withTextContent at h
  split at h
  · rename_i hnone
    obtain rfl := Except.ok.inj h
    exact ⟨rfl, fun _ _ => rfl, .inl ⟨hnone, hnone⟩⟩
  · rename_i content hgiven
    split at h
    · rename_i text htext
      obtain rfl := Except.ok.inj h
      refine ⟨?_, fun key hkey => given_set_of_ne hkey _, .inr ⟨content, text, hgiven, htext, given_set_str _ _⟩⟩
      rw [Dict.get?_set, if_neg (by decide)]
    · cases h

/-- The fields of a row behind its role -/
def ChatMessage.optionalFields (message : ChatMessage) : List (String × Option Json) := [
  ("content", message.content.map (·.toJson)), ("name", message.name.map .str),
  ("tool_calls", message.toolCalls.map .arr), ("tool_call_id", message.toolCallId.map .str),
  ("function_call", message.functionCall), ("refusal", message.refusal.map .str)]

theorem dump_eq (message : ChatMessage) :
    message.dump = .obj (("role", .str message.role.value) :: givenFields message.optionalFields) := rfl

theorem lookup_dumped {key : String} (h : key ≠ "role") :
    (("role", Json.str message.role.value) :: givenFields message.optionalFields).lookup key =
      (message.optionalFields.lookup key).join := by
  rw [lookup_cons_ne h, lookup_givenFields (by simp [ChatMessage.optionalFields])]

theorem KeptFields.lookup {read : Dict Json} (h : KeptFields read message) {key : String}
    (hkey : key ∈ ["name", "tool_calls", "tool_call_id", "function_call", "refusal"]) :
    (message.optionalFields.lookup key).join = read.given key := by
  simp only [List.mem_cons, List.not_mem_nil, or_false] at hkey
  rcases hkey with rfl | rfl | rfl | rfl | rfl
  · exact h.name
  · exact h.toolCalls
  · exact h.toolCallId
  · exact h.functionCall
  · exact h.refusal

theorem says_dumped (h : openaiMessageToChatMessage lib item = .ok message) :
    Says lib item (("role", .str message.role.value) :: givenFields message.optionalFields) := by
  obtain ⟨read, hread, h⟩ := Fallible.bind_eq_ok.mp h
  have hmessage : chatMessageOf read = some message := by
    split at h
    · rename_i found hfound
      rw [hfound, Except.ok.inj h]
    · cases h
  have htext := textContent_of_ok hread
  obtain ⟨hrole, hcontent, hkept⟩ := chatMessageOf_eq_some hmessage
  have hlookup : (("role", Json.str message.role.value) :: givenFields message.optionalFields).lookup "content" =
      ((read.given "content").bind readContent).map ChatContent.toJson := by
    rw [lookup_dumped (by decide), ← hcontent]
    rfl
  refine ⟨?_, fun content hgiven => ?_, fun hnone => ?_, fun key hkey => ?_⟩
  · rw [← htext.role, ← role_of_readRole hrole, List.lookup_cons_self]
  · rcases htext.content with ⟨hnone, -⟩ | ⟨found, text, hfound, htext, hread⟩
    · rw [hgiven] at hnone
      cases hnone
    · obtain rfl := Option.some.inj (hgiven.symm.trans hfound)
      refine ⟨text, htext, ?_⟩
      rw [hlookup, hread]
      rfl
  · rcases htext.content with ⟨-, hread⟩ | ⟨found, text, hfound, -, -⟩
    · rw [hlookup, hread]
      rfl
    · rw [hnone] at hfound
      cases hfound
  · have hfar : ∀ key ∈ ["name", "tool_calls", "tool_call_id", "function_call", "refusal"],
        key ≠ "role" ∧ key ≠ "content" := by decide
    obtain ⟨hne, hcontent⟩ := hfar key hkey
    rw [lookup_dumped hne, hkept.lookup hkey, htext.others key hcontent]

/-! ## The rows of the payload -/

theorem fromSystem_dump (message : ChatMessage) : fromSystem message.dump = decide (message.role = .system) := by
  have hrow : fromSystem message.dump = decide (message.role.value = "system") := by
    rw [dump_eq, fromSystem, List.lookup_cons_self]
  rw [hrow]
  cases message.role <;> decide

theorem filter_dumps (messages : List ChatMessage) : (messages.map ChatMessage.dump).filter (!fromSystem ·) =
    (messages.filter (·.role ≠ .system)).map ChatMessage.dump := by
  rw [List.filter_map]
  congr 1
  refine List.filter_congr fun message _ => ?_
  rw [Function.comp_apply, fromSystem_dump]
  simp

theorem filter_compiledMessages (request : TaskRequest) (prompt : Option String) :
    (compiledMessages request prompt).filter (·.role ≠ .system) = request.messages.filter (·.role ≠ .system) := by
  unfold compiledMessages
  split
  · rfl
  · rfl
  · rw [List.filter_cons_of_neg (by simp), List.filter_filter]
    simp

theorem filter_openaiMessages (hmessages : plan.messages = compiledMessages request plan.systemPrompt)
    (hinline : plan.inlineInputs = []) : ∃ added, (added = [] ∨ added = [roleMessage "user" ""]) ∧
      (openaiMessagesFromPlan plan).filter (!fromSystem ·) =
        (request.messages.filter (·.role ≠ .system)).map ChatMessage.dump ++ added := by
  have hrows : ∀ front, (front = [] ∨ front = [roleMessage "system" (plan.systemPrompt.getD "")]) →
      (front ++ plan.messages.map ChatMessage.dump).filter (!fromSystem ·) =
        (request.messages.filter (·.role ≠ .system)).map ChatMessage.dump := by
    intro front hfront
    rw [List.filter_append, filter_dumps, hmessages, filter_compiledMessages]
    rcases hfront with rfl | rfl
    · rfl
    · rfl
  have hfront : ∀ b : Bool, (if b then [roleMessage "system" (plan.systemPrompt.getD "")] else []) = [] ∨
      (if b then [roleMessage "system" (plan.systemPrompt.getD "")] else []) =
        [roleMessage "system" (plan.systemPrompt.getD "")] := by
    intro b
    cases b
    · exact .inl rfl
    · exact .inr rfl
  unfold openaiMessagesFromPlan
  dsimp only
  rw [hinline]
  split
  · contradiction
  · split
    · exact ⟨[], .inl rfl, (hrows _ (hfront _)).trans (List.append_nil _).symm⟩
    · refine ⟨_, .inr rfl, ?_⟩
      rw [List.filter_append, hrows _ (hfront _)]
      rfl

theorem fromSystem_of_ok (h : openaiMessageToChatMessage lib item = .ok message) :
    fromSystem (.obj item.entries) = decide (message.role = .system) := by
  have hsaid := (says_dumped h).role
  rw [List.lookup_cons_self, Option.some.injEq] at hsaid
  unfold fromSystem
  dsimp only
  rw [← Dict.get?]
  cases hgiven : item.get? "role" with
  | none =>
    rw [hgiven, Option.getD_none, Json.str.injEq] at hsaid
    cases hm : message.role <;> simp [hm, ChatRole.value] at hsaid ⊢
  | some value =>
    rw [hgiven, Option.getD_some] at hsaid
    subst hsaid
    dsimp only
    cases message.role <;> decide

theorem AdmissionStages.said {inlineBytesLimit : ℕ} {admission : OpenAIChatAdmission}
    (h : AdmissionStages lib payload inlineBytesLimit admission) :
    ∃ said, (admission.taskRequest.messages.filter (·.role ≠ .system)).map ChatMessage.dump = said.map .obj ∧
      List.Forall₂ (Says lib) ((requestMessages payload).filter fun message => !fromSystem (.obj message.entries))
        said := by
  have hmessages := h.messages
  rw [requestMessages, get?_officialPart (by decide), ← requestMessages, Fallible.mapM_eq_ok] at hmessages
  have hfiltered : List.Forall₂ (fun item message => openaiMessageToChatMessage lib item = .ok message)
      ((requestMessages payload).filter fun message => !fromSystem (.obj message.entries))
      (admission.taskRequest.messages.filter (·.role ≠ .system)) := by
    refine List.rel_filter (fun item message hok => ?_) hmessages
    dsimp only
    rw [fromSystem_of_ok hok]
    simp
  refine ⟨(admission.taskRequest.messages.filter (·.role ≠ .system)).map fun message =>
    ("role", .str message.role.value) :: givenFields message.optionalFields, ?_, ?_⟩
  · rw [List.map_map]
    exact List.map_congr_left fun message _ => dump_eq message
  · rw [List.forall₂_map_right_iff]
    exact hfiltered.imp fun _ _ => says_dumped

/-! ## The plan -/

/-- What the compiler makes of the parameters of a request -/
structure PlansParameters (request : TaskRequest) (recipe : Recipe) (plan : CompiledPlan) : Prop where
  recipeName : plan.recipeName = recipe.name
  temperature : plan.temperature = request.temperature.or
    (if request.structured then recipe.structuredTemperature else recipe.defaultTemperature)
  maxTokens : plan.maxTokens = request.maxTokens.or recipe.maxOutputTokens
  stopTokens : plan.stopTokens = stopTokens request recipe
  topP : plan.topP = request.topP
  seed : plan.seed = request.seed
  presencePenalty : plan.presencePenalty = request.presencePenalty
  frequencyPenalty : plan.frequencyPenalty = request.frequencyPenalty
  tools : plan.tools = request.tools
  toolChoice : plan.toolChoice = request.toolChoice
  functions : plan.functions = request.functions
  functionCall : plan.functionCall = request.functionCall
  streamOptions : plan.streamOptions = request.streamOptions
  n : plan.n = request.n
  responseFormat : plan.responseFormat = request.responseFormat
  inlineInputs : plan.inlineInputs = request.inlineInputs

theorem plansParameters_of_compile (h : c.compile env instant planId request = .ok plan) :
    ∃ recipe, c.recipeFor env instant request = .ok recipe ∧ PlansParameters request recipe plan := by
  obtain ⟨recipe, hrecipe, h⟩ := compile_cases h
  obtain ⟨chain, tuple, requirement, budget, hstages⟩ := compileWith_stages h
  obtain rfl := hstages.plan_eq
  have htokens : (if request.maxTokens.isSome || recipe.maxOutputTokens.isNone then request.maxTokens
      else recipe.maxOutputTokens) = request.maxTokens.or recipe.maxOutputTokens := by
    cases request.maxTokens with
    | some tokens => rfl
    | none => cases recipe.maxOutputTokens <;> rfl
  rw [GovernanceCompiler.requestWithRecipeDefaults_eq, htokens]
  exact ⟨recipe, hrecipe, {
    recipeName := rfl
    temperature := Option.orElse_eq_or ..
    maxTokens := rfl
    stopTokens := rfl
    topP := rfl
    seed := rfl
    presencePenalty := rfl
    frequencyPenalty := rfl
    tools := rfl
    toolChoice := rfl
    functions := rfl
    functionCall := rfl
    streamOptions := rfl
    n := rfl
    responseFormat := rfl
    inlineInputs := rfl }⟩

/-! ## The payload -/

theorem lookup_streamOptions {model : String} {stream : Bool} {messages : Option (List Json)} {sent : JsonDict}
    (h : openaiChatPayloadFromPlan host plan model stream messages = .ok sent) :
    sent.lookup "stream_options" = if stream then plan.streamOptions else none := by
  obtain ⟨format, -, h⟩ := Fallible.bind_eq_ok.mp h
  obtain rfl := Except.ok.inj h
  have hfields : ((optionalFields host plan format).map Prod.fst).Nodup := by simp [optionalFields]
  have hnone : (optionalFields host plan format).lookup "stream_options" = none := by
    simp [optionalFields, List.lookup_cons]
  rw [List.lookup_append, List.lookup_append, lookup_givenFields hfields, hnone]
  cases stream with
  | false => rfl
  | true =>
    have hone : ([("stream_options", plan.streamOptions)].map Prod.fst).Nodup := List.nodup_singleton _
    rw [if_pos rfl, if_pos rfl, lookup_givenFields hone]
    simp [List.lookup_cons]

theorem float_of_floatBetween {low high : ℚ} {value : Option Json} {found : Option ℚ}
    (h : readOptional (lib.floatBetween low high) value = some found) : found = value.bind lib.float := by
  rw [eq_bind_of_readOptional h]
  cases value with
  | none => rfl
  | some value =>
    obtain ⟨x, hx, -⟩ := Option.map_eq_some_iff.mp h
    rw [Option.bind_some, Option.bind_some, hx, (Option.filter_eq_some_iff.mp hx).1]

/-- What the caller gives for the response format is what the request has. -/
theorem responseFormat_of_ok {extensions : Dict Json} {format : Option ResponseFormat}
    (h : requestResponseFormat lib payload extensions = .ok format) :
    format = (payload.given "response_format").bind (responseFormatOf lib) := by
  unfold requestResponseFormat at h
  split at h
  · rename_i hnone
    rw [← Except.ok.inj h, hnone, Option.bind_none]
  · rename_i value hvalue
    split at h
    · rename_i found hfound
      rw [← Except.ok.inj h, hvalue, Option.bind_some, hfound]
    · cases h

theorem openaiMaxTokens_officialPart : openaiMaxTokens (officialPart payload) = openaiMaxTokens payload := by
  rw [openaiMaxTokens, given_officialPart (by decide), given_officialPart (by decide), openaiMaxTokens]

section

variable {inlineBytesLimit : ℕ} {admission : OpenAIChatAdmission} {recipe : Recipe}

theorem AdmissionStages.value_eq (h : AdmissionStages lib payload inlineBytesLimit admission)
    (hplan : PlansParameters admission.taskRequest recipe plan) {p : Parameter} (hp : p ≠ .stop) :
    p.value host plan name = (p.asked host lib payload name).or
      (p.recipeDefault host recipe admission.taskRequest.structured) := by
  have hreads := h.request
  cases p with
  | stop => exact absurd rfl hp
  | temperature =>
    have hread := float_of_floatBetween hreads.temperature
    rw [given_officialPart (by decide)] at hread
    rw [Parameter.value, hplan.temperature, hread, Parameter.asked, Parameter.recipeDefault, Option.map_or]
  | maxTokens =>
    have hread := eq_bind_of_readOptional hreads.maxTokens
    rw [openaiMaxTokens_officialPart] at hread
    rw [Parameter.value, hplan.maxTokens, hread, Parameter.asked, Parameter.recipeDefault, Option.map_or]
  | topP =>
    have hread := float_of_floatBetween hreads.topP
    rw [given_officialPart (by decide)] at hread
    rw [Parameter.value, hplan.topP, hread]
    exact Option.or_none.symm
  | seed =>
    have hread := eq_bind_of_readOptional hreads.seed
    rw [given_officialPart (by decide)] at hread
    rw [Parameter.value, hplan.seed, hread]
    exact Option.or_none.symm
  | presencePenalty =>
    have hread := float_of_floatBetween hreads.presencePenalty
    rw [given_officialPart (by decide)] at hread
    rw [Parameter.value, hplan.presencePenalty, hread]
    exact Option.or_none.symm
  | frequencyPenalty =>
    have hread := float_of_floatBetween hreads.frequencyPenalty
    rw [given_officialPart (by decide)] at hread
    rw [Parameter.value, hplan.frequencyPenalty, hread]
    exact Option.or_none.symm
  | tools =>
    have hread := map_of_readOptional (fun _ _ => eq_of_readDicts) hreads.tools
    rw [given_officialPart (by decide)] at hread
    rw [Parameter.value, hplan.tools, hread]
    exact Option.or_none.symm
  | toolChoice =>
    have hread := same_of_readOptional (fun _ _ => eq_of_readStrOrDict) hreads.toolChoice
    rw [given_officialPart (by decide)] at hread
    rw [Parameter.value, hplan.toolChoice, hread]
    exact Option.or_none.symm
  | functions =>
    have hread := map_of_readOptional (fun _ _ => eq_of_readDicts) hreads.functions
    rw [given_officialPart (by decide)] at hread
    rw [Parameter.value, hplan.functions, hread]
    exact Option.or_none.symm
  | functionCall =>
    have hread := same_of_readOptional (fun _ _ => eq_of_readStrOrDict) hreads.functionCall
    rw [given_officialPart (by decide)] at hread
    rw [Parameter.value, hplan.functionCall, hread]
    exact Option.or_none.symm
  | n =>
    have hread := eq_bind_of_readOptional hreads.n
    rw [given_officialPart (by decide)] at hread
    rw [Parameter.value, hplan.n, hread]
    exact Option.or_none.symm
  | responseFormat =>
    have hread := responseFormat_of_ok h.responseFormat
    rw [given_officialPart (by decide)] at hread
    rw [Parameter.value, hplan.responseFormat, hread]
    exact Option.or_none.symm

theorem AdmissionStages.stopTokens_eq (h : AdmissionStages lib payload inlineBytesLimit admission) :
    stopTokens admission.taskRequest recipe = recipe.stopTokens ++ askedStops payload := by
  have hread := eq_bind_of_readOptional h.request.stop
  rw [given_officialPart (by decide)] at hread
  rcases hstop : (payload.given "stop").bind readStop with _ | token | tokens <;>
    simp [stopTokens, askedStops, hread, hstop]

end

end Gpucall
