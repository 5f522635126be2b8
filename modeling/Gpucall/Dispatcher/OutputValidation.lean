import Gpucall.Execution.ChatResults
import Gpucall.Routing.FailClosed
import Gpucall.Text

/-! `_validate_tuple_output`: what the dispatcher accepts as the output of a tuple. -/

namespace Gpucall

/-- `_requires_json_output` -/
def requiresJsonOutput (plan : CompiledPlan) : Bool :=
  plan.responseFormat.any fun format => format.type = .jsonObject || format.type = .jsonSchema

/-- `_requires_checked_inline_output` -/
def requiresCheckedInlineOutput (plan : CompiledPlan) : Bool :=
  plan.task = "infer" || plan.task = "vision" || requiresJsonOutput plan

/-- What structured output is read and checked with. -/
structure StructuredReader where
  recursionLimit : ℕ
  /-- `jsonschema.validate(parsed, schema)` returns. -/
  validates : Json → Json → Bool

/-- `TupleError(.., retryable=True, code="MALFORMED_OUTPUT")` -/
def malformedOutput (message : String) (rawOutput : Option String := none) : PyExc :=
  .tupleError { message, retryable := true, code := some "MALFORMED_OUTPUT", rawOutput }

def truncatedOutput (rawOutput : String) : PyExc :=
  .tupleError {
    message := "structured output truncated by provider finish_reason=length"
    retryable := false
    code := some "OUTPUT_TRUNCATED"
    statusCode := 422
    rawOutput := some rawOutput }

def emptyOutput (rawOutput : String) : PyExc :=
  .tupleError {
    message := "empty tuple output"
    retryable := true
    code := some "EMPTY_OUTPUT"
    rawOutput := some rawOutput }

def Json.isObject : Json → Bool
  | obj _ => true
  | _ => false

variable (reader : StructuredReader)

/-- `_validate_structured_text`. Only `JSONDecodeError` is turned into an error of the tuple. -/
def validateStructuredText (plan : CompiledPlan) (value : String) : Except PyExc Unit :=
  match Json.loads reader.recursionLimit value with
  | .error .decode => .error (malformedOutput "malformed structured output" (some value))
  | .error .other => .error (.exception "json.loads")
  | .ok parsed =>
    match plan.responseFormat with
    | none => .ok ()
    | some format =>
      if format.type = .jsonObject && !parsed.isObject then
        .error (malformedOutput "structured output must be a JSON object" (some value))
      else if format.type = .jsonSchema && format.strict &&
          format.jsonSchema.any (!reader.validates parsed ·) then
        .error (malformedOutput "structured output does not match JSON schema" (some value))
      else .ok ()

/-- `_openai_choice_content` -/
def openaiChoiceContent (choice : ChatChoice) : Except PyExc String :=
  match choice.lookup "message" with
  | some (.obj message) =>
    match message.lookup "content" with
    | some (.str content) =>
      if strip content = "" then
        .error (malformedOutput "OpenAI-compatible structured choice missing text content")
      else .ok content
    | _ => .error (malformedOutput "OpenAI-compatible structured choice missing text content")
  | _ => .error (malformedOutput "OpenAI-compatible structured choice missing message")

/-- `choice.get("finish_reason") == "length"` -/
def finishedByLength (choice : ChatChoice) : Bool :=
  match choice.lookup "finish_reason" with
  | some (.str reason) => reason = "length"
  | _ => false

/-- The loop over the choices of a structured result. -/
def validateStructuredChoice (plan : CompiledPlan) (choice : ChatChoice) : Except PyExc Unit := do
  let content ← openaiChoiceContent choice
  if finishedByLength choice then
    throw (truncatedOutput content)
  validateStructuredText reader plan content

/-- `result.value is None or not result.value.strip()` -/
def blankValue (result : ChatTupleResult) : Bool := strip (result.value.getD "") = ""

def validateTupleOutput (plan : CompiledPlan) (result : ChatTupleResult) :
    Except PyExc ChatTupleResult := do
  if requiresCheckedInlineOutput plan && result.kind = .inline && blankValue result then
    throw (emptyOutput (result.value.getD ""))
  if !requiresJsonOutput plan then
    return result
  match result.openaiChoices.getD [] with
  | [] =>
    if result.finishReason = some "length" then
      throw (truncatedOutput (result.value.getD ""))
    match result.kind, result.value with
    | .inline, some value =>
      validateStructuredText reader plan value
      return { result with outputValidated := some true }
    | _, _ => throw (malformedOutput "structured output must be inline text")
  | choices =>
    choices.forM (validateStructuredChoice reader plan)
    return { result with outputValidated := some true }

/-! ## Answers without text -/

/-- The text under a name is there and not blank. -/
def SpeaksIn (message : ChatChoice) (name : String) : Prop :=
  ∃ text, message.lookup name = some (.str text) ∧ strip text ≠ ""

/-- A message that answers: with a tool call, a function call, a refusal or a text. -/
def Answers (message : ChatChoice) : Prop :=
  (∃ call calls, message.lookup "tool_calls" = some (.arr (call :: calls))) ∨
    (∃ fields, message.lookup "function_call" = some (.obj fields)) ∨
    SpeaksIn message "refusal" ∨ SpeaksIn message "content"

/-- The first choice speaks: its content is not blank, or it is left out and its refusal is not. -/
def Speaks (message : ChatChoice) : Prop :=
  SpeaksIn message "content" ∨ (getGiven message "content" = none ∧ SpeaksIn message "refusal")

theorem getGiven_eq_str {fields : ChatChoice} :
    getGiven fields name = some (.str text) ↔ fields.lookup name = some (.str text) := by
  unfold getGiven
  cases fields.lookup name with
  | none => simp
  | some value => cases value <;> simp

theorem strip_empty : strip "" = "" := rfl

theorem validateTupleOutput_of_text {plan : CompiledPlan} {result : ChatTupleResult}
    (hcheck : requiresCheckedInlineOutput plan = true) (hformat : requiresJsonOutput plan = false)
    (hkind : result.kind = .inline) :
    validateTupleOutput reader plan result =
      if blankValue result then .error (emptyOutput (result.value.getD "")) else .ok result := by
  simp only [validateTupleOutput, hcheck, hformat, hkind, decide_true, Bool.true_and,
    Bool.not_false, bind, Except.bind, pure, Except.pure, throw, throwThe, MonadExceptOf.throw]
  cases blankValue result <;> rfl

theorem speaks_iff {message : ChatChoice} {content refusal : Option String}
    (hcontent : getGiven message "content" = content.map .str)
    (hrefusal : getGiven message "refusal" = refusal.map .str) :
    Speaks message ↔ strip ((content <|> refusal).getD "") ≠ "" := by
  simp only [Speaks, SpeaksIn, ← getGiven_eq_str, hcontent, hrefusal]
  cases content with
  | some content => simp
  | none =>
    cases refusal with
    | some refusal => simp
    | none => simp [strip_empty]

/-- An answer to a plan without a JSON format is accepted exactly when its first choice speaks; any
other one, a tool call without text among them, is refused as empty. -/
theorem answer_accepted_iff {plan : CompiledPlan} {v : Json} {result : ChatTupleResult}
    (hresult : openaiChatCompletionResult v = .ok result) (htask : plan.task = "infer")
    (hformat : requiresJsonOutput plan = false) :
    (validateTupleOutput reader plan result = .ok result ↔ Speaks (firstMessage v)) ∧
      (¬ Speaks (firstMessage v) →
        validateTupleOutput reader plan result = .error (emptyOutput (result.value.getD ""))) := by
  obtain ⟨hkind, content, refusal, hvalue, hcontent, hrefusal⟩ :=
    openaiChatCompletionResult_value hresult
  have hcheck : requiresCheckedInlineOutput plan = true := by
    simp only [requiresCheckedInlineOutput, htask, decide_true, Bool.true_or]
  rw [validateTupleOutput_of_text reader hcheck hformat hkind, speaks_iff hcontent hrefusal,
    ← hvalue]
  simp only [blankValue, decide_eq_true_eq]
  split
  · next hblank =>
    simp only [hblank, reduceCtorEq, ne_eq, not_true_eq_false, not_false_eq_true, forall_const,
      and_self]
  · next hblank =>
    simp only [hblank, ne_eq, not_false_eq_true, not_true_eq_false, IsEmpty.forall_iff, and_self]

/-! ### A tool call -/

def weatherCall : Json :=
  .obj [("id", .str "call-1"), ("type", .str "function"),
    ("function", .obj [("name", .str "get_weather"), ("arguments", .str "\x7b\x7d")])]

def answerOf (message : ChatChoice) : Json :=
  .obj [("choices", .arr [.obj [("message", .obj message)]])]

def plainReader : StructuredReader where
  recursionLimit := 1000
  validates _ _ := true

theorem promptRequest_plan : ∃ plan, GovernanceCompiler.twoModalTuples.compile
      GovernanceCompiler.modalEnvironment GovernanceCompiler.noon "plan-1"
      GovernanceCompiler.promptRequest = .ok plan ∧
    plan.task = "infer" ∧ requiresJsonOutput plan = false := by
  obtain ⟨plan, hplan, hfacts⟩ := GovernanceCompiler.exists_ok_of_map (show
    ((GovernanceCompiler.twoModalTuples.compile GovernanceCompiler.modalEnvironment
      GovernanceCompiler.noon "plan-1" GovernanceCompiler.promptRequest).toOption.map
        fun plan => (plan.task, requiresJsonOutput plan)) = some ("infer", false) by
      decide +kernel)
  obtain ⟨htask, hformat⟩ := Prod.mk.inj hfacts
  exact ⟨plan, hplan, htask, hformat⟩

theorem answer_accepted_iff_hello : ∃ plan result,
    openaiChatCompletionResult (answerOf [("content", .str "Hello.")]) = .ok result ∧
      validateTupleOutput plainReader plan result = .ok result := by
  obtain ⟨plan, -, htask, hformat⟩ := promptRequest_plan
  exact ⟨plan, _, rfl, (answer_accepted_iff plainReader (v := answerOf [("content", .str "Hello.")])
    rfl htask hformat).1.mpr (.inl ⟨"Hello.", rfl, by decide⟩)⟩

/-- A well-formed tool call with the `null` content that goes with it. -/
theorem tool_call_refused :
    ¬ ∀ (reader : StructuredReader) (plan : CompiledPlan) (v : Json) (result : ChatTupleResult),
      openaiChatCompletionResult v = .ok result → plan.task = "infer" →
      requiresJsonOutput plan = false → Answers (firstMessage v) →
      validateTupleOutput reader plan result = .ok result := by
  intro h
  obtain ⟨plan, -, htask, hformat⟩ := promptRequest_plan
  have haccepted := h plainReader plan
    (answerOf [("content", .null), ("tool_calls", .arr [weatherCall])]) _ rfl htask hformat
    (.inl ⟨weatherCall, [], rfl⟩)
  have hcheck : requiresCheckedInlineOutput plan = true := by
    simp only [requiresCheckedInlineOutput, htask, decide_true, Bool.true_or]
  rw [validateTupleOutput_of_text plainReader hcheck hformat rfl] at haccepted
  cases haccepted

end Gpucall
