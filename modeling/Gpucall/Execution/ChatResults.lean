import Gpucall.Dispatcher.Calls
import Gpucall.Lib.OptionList
import Gpucall.JsonLoads

/-! `openai_chat_completion_result`: what the gateway makes of the answer of an OpenAI-compatible
server. -/

namespace Gpucall

abbrev ChatChoice := List (String × Json)

/-- `TupleResult` with what an OpenAI-compatible answer sets besides. -/
structure ChatTupleResult extends TupleResult where
  usage : List (String × Json) := []
  outputValidated : Option Bool := none
  toolCalls : Option (List Json) := none
  functionCall : Option Json := none
  finishReason : Option String := none
  refusal : Option String := none
  openaiChoices : Option (List ChatChoice) := none

def badChatResponse (message : String) : PyExc :=
  .tupleError { message := "OpenAI-compatible response " ++ message, retryable := true }

/-- `fields.get(name)`, where `null` is `None` like a name that is missing. -/
def getGiven (fields : ChatChoice) (name : String) : Option Json :=
  match fields.lookup name with
  | none | some .null => none
  | some value => some value

/-- `isinstance(fields.get(name), str)` -/
def hasText (fields : ChatChoice) (name : String) : Bool :=
  match fields.lookup name with
  | some (.str _) => true
  | _ => false

/-- `_is_openai_tool_call` -/
def isOpenaiToolCall : Json → Bool
  | .obj fields =>
    hasText fields "id" &&
      match fields.lookup "type" with
      | some (.str "function") =>
        match fields.lookup "function" with
        | some (.obj function) => hasText function "name" && hasText function "arguments"
        | _ => false
      | some (.str "custom") =>
        match fields.lookup "custom" with
        | some (.obj custom) => hasText custom "name" && hasText custom "input"
        | _ => false
      | _ => false
  | _ => false

/-- `_is_openai_function_call` -/
def isOpenaiFunctionCall : Json → Bool
  | .obj fields => hasText fields "name" && hasText fields "arguments"
  | _ => false

/-- A field that is `None` or a text. -/
def optionalText (message : String) : Option Json → Except PyExc (Option String)
  | none => .ok none
  | some (.str text) => .ok (some text)
  | some _ => .error (badChatResponse message)

/-- What one turn of the loop reads of a choice. -/
structure ChoiceParts where
  choice : ChatChoice
  finishReason : Option String
  content : Option String
  refusal : Option String
  toolCalls : Option (List Json)
  functionCall : Option Json

/-- The message of a choice, which is empty unless it is an object. -/
def choiceMessage (choice : ChatChoice) : ChatChoice :=
  match choice.lookup "message" with
  | some (.obj message) => message
  | _ => []

def optionalToolCalls : Option Json → Except PyExc (Option (List Json))
  | none => .ok none
  | some (.arr items) =>
    if items.all isOpenaiToolCall then .ok (some items)
    else .error (badChatResponse "has invalid tool_calls")
  | some _ => .error (badChatResponse "has invalid tool_calls")

def optionalFunctionCall : Option Json → Except PyExc (Option Json)
  | none => .ok none
  | some call =>
    if isOpenaiFunctionCall call then .ok (some call)
    else .error (badChatResponse "has invalid function_call")

def choiceParts (index : ℕ) : Json → Except PyExc ChoiceParts
  | .obj rawChoice => do
    let message := choiceMessage rawChoice
    let finishReason ← optionalText "has invalid finish_reason" (getGiven rawChoice "finish_reason")
    let content ← optionalText "has non-string assistant content" (getGiven message "content")
    let refusal ← optionalText "has invalid refusal" (getGiven message "refusal")
    let toolCalls ← optionalToolCalls (getGiven message "tool_calls")
    let functionCall ← optionalFunctionCall (getGiven message "function_call")
    if content.isNone && (toolCalls.getD []).isEmpty && functionCall.isNone && refusal.isNone then
      throw (badChatResponse "missing assistant content, tool_calls, function_call, or refusal")
    return {
      choice := Json.setDefault "index" (.number (toString index)) rawChoice
      finishReason, content, refusal, toolCalls, functionCall }
  | _ => .error (badChatResponse "has invalid choice")

def openaiChatCompletionResult : Json → Except PyExc ChatTupleResult
  | .obj fields =>
    match fields.lookup "choices" with
    | some (.arr (first :: rest)) => do
      let parts ← choiceParts 0 first
      let others ← (rest.zipIdx 1).mapM fun choice => choiceParts choice.2 choice.1
      return {
        kind := .inline
        value := parts.content <|> parts.refusal
        usage := match fields.lookup "usage" with
          | some (.obj usage) => usage
          | _ => []
        toolCalls := parts.toolCalls
        functionCall := parts.functionCall
        finishReason := parts.finishReason
        refusal := parts.refusal
        openaiChoices := some (parts.choice :: others.map (·.choice)) }
    | _ => .error (badChatResponse "missing choices")
  | _ => .error (badChatResponse "must be an object")

/-! ## The first choice -/

/-- The message of the first choice of a response. -/
def firstMessage : Json → ChatChoice
  | .obj fields =>
    match fields.lookup "choices" with
    | some (.arr (.obj choice :: _)) => choiceMessage choice
    | _ => []
  | _ => []

theorem optionalText_eq_ok {message : String} {value : Option Json} {text : Option String} :
    optionalText message value = .ok text ↔ value = text.map .str := by
  rcases value with _ | _ | _ | _ | _ | _ | _ <;> cases text <;> simp [optionalText, eq_comm]

theorem choiceParts_spec {parts : ChoiceParts} (h : choiceParts index raw = .ok parts) :
    ∃ choice, raw = .obj choice ∧
      getGiven (choiceMessage choice) "content" = parts.content.map .str ∧
      getGiven (choiceMessage choice) "refusal" = parts.refusal.map .str := by
  cases raw with
  | obj rawChoice =>
    simp only [choiceParts, bind, Except.bind, pure, Except.pure, throw, throwThe,
      MonadExceptOf.throw] at h
    split at h
    · contradiction
    split at h
    · contradiction
    next content hcontent =>
    split at h
    · contradiction
    next refusal hrefusal =>
    split at h
    · contradiction
    split at h
    · contradiction
    split at h
    · contradiction
    obtain rfl := Except.ok.inj h
    exact ⟨rawChoice, rfl, optionalText_eq_ok.mp hcontent, optionalText_eq_ok.mp hrefusal⟩
  | _ => simp [choiceParts] at h

/-- The value of the result is the first content, or else the first refusal. -/
theorem openaiChatCompletionResult_value {v : Json} {result : ChatTupleResult}
    (h : openaiChatCompletionResult v = .ok result) :
    result.kind = .inline ∧ ∃ content refusal : Option String,
      result.value = (content <|> refusal) ∧
      getGiven (firstMessage v) "content" = content.map .str ∧
      getGiven (firstMessage v) "refusal" = refusal.map .str := by
  cases v with
  | obj fields =>
    simp only [openaiChatCompletionResult] at h
    split at h
    · next first rest hchoices =>
      obtain ⟨parts, hparts, h⟩ := Fallible.bind_eq_ok.mp h
      obtain ⟨usage, -, h⟩ := Fallible.bind_eq_ok.mp h
      obtain rfl := Except.ok.inj h
      obtain ⟨choice, rfl, hcontent, hrefusal⟩ := choiceParts_spec hparts
      have hfirst : firstMessage (.obj fields) = choiceMessage choice := by
        simp only [firstMessage, hchoices]
      rw [hfirst]
      exact ⟨rfl, parts.content, parts.refusal, rfl, hcontent, hrefusal⟩
    · contradiction
  | _ => simp [openaiChatCompletionResult] at h

end Gpucall
