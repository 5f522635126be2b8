import Gpucall.Execution.Payloads
import Gpucall.Lib.OptionList
import Gpucall.Routing.FailClosed

/-! The chat messages that the workers build from a payload: `worker_contracts/modal.py`, and
`worker_contracts/llm_engine.py` with the prompt of `worker_contracts/io.py`. The gateway decides which
of `messages`, `inline_inputs` and `system_prompt` carries the prompt, the workers by themselves which of
them to read. -/

namespace Gpucall

open GovernanceCompiler

mutual
/-- `str` of a decoded value inside a list. -/
def Json.pyRepr (env : Environment) : Json → String
  | .null => "None"
  | .bool true => "True"
  | .bool false => "False"
  | .number text => text
  | .str value => env.repr value
  | .arr items => "[" ++ joinStr ", " (pyReprItems env items) ++ "]"
  | .obj fields => "\x7b" ++ joinStr ", " (pyReprFields env fields) ++ "\x7d"

def Json.pyReprItems (env : Environment) : List Json → List String
  | [] => []
  | item :: items => item.pyRepr env :: Json.pyReprItems env items

def Json.pyReprFields (env : Environment) : List (String × Json) → List String
  | [] => []
  | (name, value) :: fields =>
    (env.repr name ++ ": " ++ value.pyRepr env) :: Json.pyReprFields env fields
end

/-- `str(message.get("content", ""))` of a dumped message. -/
def strContent (env : Environment) : Option ChatContent → String
  | none => "None"
  | some (.text value) => value
  | some (.parts items) => (Json.arr items).pyRepr env

/-- A message for the chat template of a model. -/
structure WorkerMessage where
  role : String
  content : String
  deriving DecidableEq

/-- The messages of the payload, less those without text. -/
def payloadMessages (env : Environment) (payload : PlanPayload) : List WorkerMessage :=
  (payload.messages.map fun message => ⟨message.role.value, strContent env message.content⟩).filter
    (·.content ≠ "")

/-- `"\n".join(part for part in parts if part)` -/
def joinParts (parts : List String) : String := joinStr "\n" (parts.filter (· ≠ ""))

/-- `_system_prompt_for_payload`, and `system_prompt_for_payload` -/
def systemPromptForPayload (payload : PlanPayload) : String := payload.systemPrompt.getD ""

/-- The messages of a prompt, none if it is empty. -/
def userMessages (prompt : String) : List WorkerMessage :=
  if prompt ≠ "" then [⟨"user", prompt⟩] else []

/-- The fetch of a referenced object as text, which may raise. -/
abbrev FetchText := DataRef → Except String String

namespace Modal

variable (env : Environment) (fetch : FetchText) (payload : PlanPayload)

def inputRefTextParts : Except String (List String) := payload.inputRefs.mapM fetch

def promptFromPayload (refParts : Option (List String)) : Except String String := do
  let parts :=
    if !payload.messages.isEmpty then (payloadMessages env payload).map (·.content)
    else
      match payload.inlineInputs.lookup "prompt" with
      | some prompt => [prompt.value]
      | none => (payload.inlineInputs.insertionSort (·.1 ≤ ·.1)).map fun item => item.2.value
  let refs ← refParts.elim (inputRefTextParts fetch payload) .ok
  return joinParts (parts ++ refs)

def messagesFromPayload (rawPrompt : String) (refParts : Option (List String)) :
    Except String (List WorkerMessage) := do
  if !payload.messages.isEmpty then
    let refs ← refParts.elim (inputRefTextParts fetch payload) .ok
    return payloadMessages env payload ++ userMessages (joinParts refs)
  let systemPrompt := systemPromptForPayload payload
  if systemPrompt ≠ "" then
    return ⟨"system", systemPrompt⟩ :: userMessages rawPrompt
  return [⟨"user", rawPrompt⟩]

/-- What `_format_prompt_for_model` hands to the chat template. -/
def workerMessages : Except String (List WorkerMessage) := do
  let refParts ← inputRefTextParts fetch payload
  let rawPrompt ← promptFromPayload env fetch payload (some refParts)
  messagesFromPayload env fetch payload rawPrompt (some refParts)

end Modal

namespace LlmEngine

variable (env : Environment) (fetch : FetchText) (payload : PlanPayload)

/-- `prompt_from_payload` of `io.py`, with the inline inputs in their own order. -/
def promptFromPayload : Except String String := do
  let parts :=
    if !payload.messages.isEmpty then (payloadMessages env payload).map (·.content)
    else
      match payload.inlineInputs.lookup "prompt" with
      | some prompt => [prompt.value]
      | none => payload.inlineInputs.map fun item => item.2.value
  let refs ← payload.inputRefs.mapM fetch
  return joinParts (parts ++ refs)

def messagesFromPayload (rawPrompt : Option String) : Except String (List WorkerMessage) := do
  if !payload.messages.isEmpty then
    return payloadMessages env payload
  let systemPrompt := systemPromptForPayload payload
  if systemPrompt ≠ "" then
    return ⟨"system", systemPrompt⟩ :: userMessages (rawPrompt.getD "")
  let prompt ← rawPrompt.elim (env.strip <$> promptFromPayload env fetch payload) .ok
  return userMessages prompt

/-- What `format_prompt_for_model` hands to the chat template. -/
def workerMessages : Except String (List WorkerMessage) := do
  let rawPrompt ← promptFromPayload env fetch payload
  messagesFromPayload env fetch payload (some rawPrompt)

end LlmEngine

/-! ## The caller's input -/

/-- The inline value `prompt`, or all of them if there is none. -/
def TaskRequest.promptValues (request : TaskRequest) : List String :=
  match request.inlineInputs.lookup "prompt" with
  | some prompt => [prompt.value]
  | none => request.inlineInputs.map fun item => item.2.value

/-- Every value is part of a message that is not a system message. -/
def SeesInput (request : TaskRequest) (messages : List WorkerMessage) : Prop :=
  ∀ value ∈ request.promptValues, ∃ message ∈ messages,
    message.role ≠ "system" ∧ containsStr message.content value = true

/-- The recipe of the request gives it no system prompt, and there are no facts to lock. -/
def NoSystemPrompt (env : Environment) (c : GovernanceCompiler) (instant : Instant)
    (request : TaskRequest) : Prop :=
  ∃ recipe, c.recipeFor env instant request = .ok recipe ∧
    truthyStr (appendDeterministicFactLock env (recipePrompt request recipe)
      request recipe) = false

/-- The prompt is not empty: some value has text, or some referenced object. -/
def PromptNonempty (fetch : FetchText) (request : TaskRequest) : Prop :=
  (∃ value ∈ request.promptValues, value ≠ "") ∨ ∃ ref ∈ request.inputRefs, fetch ref ≠ .ok ""

section

variable {env : Environment} {c : GovernanceCompiler} {instant : Instant} {request : TaskRequest}
  {plan : CompiledPlan} {planId : String} {payload : PlanPayload} {fetch : FetchText}

theorem infix_intercalate {sep part : List α} {parts : List (List α)} (h : part ∈ parts) :
    part <:+: sep.intercalate parts := by
  induction parts with
  | nil => cases h
  | cons first rest ih =>
    cases rest with
    | nil =>
      obtain rfl := List.mem_singleton.mp h
      exact ⟨[], [], by simp⟩
    | cons second rest =>
      rw [List.intercalate_cons_cons]
      obtain rfl | h := List.mem_cons.mp h
      · exact ⟨[], sep ++ sep.intercalate (second :: rest), by simp⟩
      · exact (ih h).trans (List.suffix_append _ _).isInfix

theorem containsStr_joinStr {sep part : String} {parts : List String} (h : part ∈ parts) :
    containsStr (joinStr sep parts) part = true := by
  refine decide_eq_true ?_
  rw [joinStr, String.toList_intercalate]
  exact infix_intercalate (List.mem_map_of_mem h)

theorem containsStr_joinParts {part : String} {parts : List String} (h : part ∈ parts) :
    containsStr (joinParts parts) part = true := by
  by_cases hempty : part = ""
  · rw [hempty]
    exact decide_eq_true List.nil_infix
  · exact containsStr_joinStr (List.mem_filter.mpr ⟨h, decide_eq_true hempty⟩)

theorem joinParts_eq_empty {parts : List String} :
    joinParts parts = "" ↔ ∀ part ∈ parts, part = "" := by
  constructor
  · intro h part hpart
    have hcontains := of_decide_eq_true (containsStr_joinParts hpart)
    rw [h] at hcontains
    exact String.toList_eq_nil_iff.mp (List.infix_nil.mp hcontains)
  · intro h
    have hnone : parts.filter (· ≠ "") = [] := by simpa using h
    rw [joinParts, hnone]
    rfl

/-- All the objects are empty if their texts are. -/
theorem mapM_fetch_empty {refs : List DataRef} {texts : List String}
    (h : refs.mapM fetch = .ok texts) :
    (∀ text ∈ texts, text = "") ↔ ∀ ref ∈ refs, fetch ref = .ok "" := by
  induction refs generalizing texts with
  | nil =>
    obtain rfl := Except.ok.inj h
    simp
  | cons ref refs ih =>
    rw [List.mapM_cons] at h
    obtain ⟨text, hfetch, h⟩ := Fallible.bind_eq_ok.mp h
    obtain ⟨rest, hrest, h⟩ := Fallible.bind_eq_ok.mp h
    obtain rfl := Except.ok.inj h
    simp [ih hrest, hfetch]

/-! ## Payloads of compiled plans -/

theorem GovernanceCompiler.messages_eq_nil
    (h : c.validationError env instant request recipe = none)
    (hinline : request.inlineInputs ≠ []) : request.messages = [] := by
  simp only [validationError, Option.orElse_eq_none, reject_eq_none] at h
  simpa [hinline] using h.2.1

theorem requestWithRecipeDefaults_eq (request : TaskRequest) (recipe : Recipe) :
    ∃ tokens, requestWithRecipeDefaults request recipe = { request with maxTokens := tokens } := by
  unfold requestWithRecipeDefaults
  split
  · exact ⟨request.maxTokens, rfl⟩
  · exact ⟨recipe.maxOutputTokens, rfl⟩

theorem compiledMessages_of_nil (hmessages : request.messages = []) (systemPrompt : Option String) :
    compiledMessages request systemPrompt = if truthyStr systemPrompt then
      [{ role := .system, content := some (.text (systemPrompt.getD "")) }] else [] := by
  unfold compiledMessages
  rw [hmessages]
  split
  · rfl
  · rfl
  · next systemPrompt hne =>
    have htruthy : truthyStr (some systemPrompt) = true := decide_eq_true hne
    rw [if_pos htruthy]
    rfl

/-- A compiled plan with inline inputs has no messages but the system prompt. -/
theorem planPayload_of_compile (h : c.compile env instant planId request = .ok plan)
    (hinline : request.inlineInputs ≠ []) :
    (planPayload plan).inlineInputs = request.inlineInputs ∧
    (planPayload plan).inputRefs = request.inputRefs ∧
    ∃ recipe, c.recipeFor env instant request = .ok recipe ∧
      let systemPrompt := appendDeterministicFactLock env
        (recipePrompt request recipe) request recipe
      (planPayload plan).systemPrompt = systemPrompt ∧
      (planPayload plan).messages = if truthyStr systemPrompt then
        [{ role := .system, content := some (.text (systemPrompt.getD "")) }] else [] := by
  obtain ⟨recipe, hrecipe, h⟩ := compile_cases h
  obtain ⟨chain, tuple, requirement, budget, hstages⟩ := compileWith_stages h
  have hvalid := hstages.valid
  obtain rfl := hstages.plan_eq
  obtain ⟨tokens, hrequest⟩ := requestWithRecipeDefaults_eq request recipe
  rw [hrequest] at hvalid ⊢
  have hmessages : request.messages = [] := messages_eq_nil hvalid hinline
  exact ⟨rfl, rfl, recipe, hrecipe, rfl, compiledMessages_of_nil hmessages _⟩

/-! ## What the workers see -/

variable (env fetch) in
theorem Modal.promptFromPayload_eq (hmessages : payload.messages = [])
    (hinline : payload.inlineInputs = request.inlineInputs) (refs : List String) :
    ∃ values, request.promptValues ⊆ values ∧
      Modal.promptFromPayload env fetch payload (some refs) = .ok (joinParts (values ++ refs)) := by
  unfold Modal.promptFromPayload TaskRequest.promptValues
  rw [hmessages, hinline]
  cases request.inlineInputs.lookup "prompt" with
  | some prompt => exact ⟨[prompt.value], List.Subset.refl _, rfl⟩
  | none =>
    refine ⟨_, ?_, rfl⟩
    exact List.map_subset _ (List.perm_insertionSort _ _).symm.subset

theorem LlmEngine.promptFromPayload_eq (hmessages : payload.messages = [])
    (hinline : payload.inlineInputs = request.inlineInputs) :
    LlmEngine.promptFromPayload env fetch payload =
      (payload.inputRefs.mapM fetch).map fun refs => joinParts (request.promptValues ++ refs) := by
  unfold LlmEngine.promptFromPayload TaskRequest.promptValues
  rw [hmessages, hinline]
  cases payload.inputRefs.mapM fetch <;> cases request.inlineInputs.lookup "prompt" <;> rfl

theorem promptValues_ne_nil (hinline : request.inlineInputs ≠ []) : request.promptValues ≠ [] := by
  unfold TaskRequest.promptValues
  split
  · exact List.cons_ne_nil _ _
  · simpa using hinline

theorem payloadMessages_system {text : String} (htext : text ≠ "")
    (hmessages : payload.messages = [{ role := .system, content := some (.text text) }]) :
    payloadMessages env payload = [⟨"system", text⟩] := by
  simp [payloadMessages, hmessages, strContent, ChatRole.value, htext]

/-- Without messages and system prompt, the Modal worker sees the prompt. -/
theorem Modal.seesInput (hmessages : payload.messages = [])
    (hinline : payload.inlineInputs = request.inlineInputs)
    (hsystem : systemPromptForPayload payload = "")
    (h : Modal.workerMessages env fetch payload = .ok messages) : SeesInput request messages := by
  obtain ⟨refs, -, h⟩ := Fallible.bind_eq_ok.mp h
  obtain ⟨values, hsubset, hprompt⟩ := Modal.promptFromPayload_eq env fetch hmessages hinline refs
  obtain rfl : [⟨"user", joinParts (values ++ refs)⟩] = messages := by
    simpa [hprompt, Modal.messagesFromPayload, hmessages, hsystem, bind, Except.bind, pure, Except.pure] using h
  intro value hvalue
  have huser : "user" ≠ "system" := by decide
  refine ⟨_, List.mem_singleton_self _, huser, ?_⟩
  exact containsStr_joinParts (List.mem_append_left _ (hsubset hvalue))

/-- Without messages and system prompt, the engine sees the prompt unless it is empty. -/
theorem LlmEngine.seesInput_iff_prompt (hmessages : payload.messages = [])
    (hinline : payload.inlineInputs = request.inlineInputs)
    (hrefs : payload.inputRefs = request.inputRefs) (hne : request.inlineInputs ≠ [])
    (hsystem : systemPromptForPayload payload = "")
    (h : LlmEngine.workerMessages env fetch payload = .ok messages) :
    SeesInput request messages ↔ PromptNonempty fetch request := by
  unfold LlmEngine.workerMessages at h
  rw [LlmEngine.promptFromPayload_eq hmessages hinline] at h
  obtain ⟨prompt, hprompt, h⟩ := Fallible.bind_eq_ok.mp h
  obtain ⟨texts, htexts, rfl⟩ := Fallible.map_eq_ok.mp hprompt
  obtain rfl : userMessages (joinParts (request.promptValues ++ texts)) = messages := by
    simpa [LlmEngine.messagesFromPayload, hmessages, hsystem, bind, Except.bind, pure, Except.pure] using h
  have hempty : joinParts (request.promptValues ++ texts) = "" ↔ ¬PromptNonempty fetch request := by
    rw [joinParts_eq_empty, List.forall_mem_append, mapM_fetch_empty htexts, hrefs]
    simp [PromptNonempty]
  by_cases hprompt : joinParts (request.promptValues ++ texts) = ""
  · refine iff_of_false (fun hsees => ?_) (hempty.mp hprompt)
    obtain ⟨value, hvalue⟩ := List.exists_mem_of_ne_nil _ (promptValues_ne_nil hne)
    obtain ⟨message, hmessage, -⟩ := hsees value hvalue
    simp [userMessages, hprompt] at hmessage
  · refine iff_of_true (fun value hvalue => ?_) (not_not.mp (mt hempty.mpr hprompt))
    have huser : "user" ≠ "system" := by decide
    refine ⟨⟨"user", joinParts (request.promptValues ++ texts)⟩, ?_, huser, ?_⟩
    · simp [userMessages, hprompt]
    · exact containsStr_joinParts (List.mem_append_left _ hvalue)

/-- With a system prompt the engine sees nothing else. -/
theorem LlmEngine.not_seesInput {text : String} (htext : text ≠ "")
    (hmessages : payload.messages = [{ role := .system, content := some (.text text) }])
    (hne : request.inlineInputs ≠ [])
    (h : LlmEngine.workerMessages env fetch payload = .ok messages) : ¬SeesInput request messages := by
  intro hsees
  obtain ⟨value, hvalue⟩ := List.exists_mem_of_ne_nil _ (promptValues_ne_nil hne)
  obtain ⟨message, hmessage, hrole, -⟩ := hsees value hvalue
  obtain ⟨prompt, -, h⟩ := Fallible.bind_eq_ok.mp h
  obtain rfl : [⟨"system", text⟩] = messages := by
    simpa [LlmEngine.messagesFromPayload, hmessages, payloadMessages_system htext hmessages, pure, Except.pure] using h
  rw [List.mem_singleton.mp hmessage] at hrole
  exact hrole rfl

end

/-- Both workers see the caller's input exactly if there is no system prompt and the prompt is not
empty. -/
theorem seesInput_iff (env : Environment) (c : GovernanceCompiler) (instant : Instant)
    (planId : String) (request : TaskRequest) (plan : CompiledPlan) (modalFetch fetch : FetchText)
    (hcompile : c.compile env instant planId request = .ok plan)
    (hinline : request.inlineInputs ≠ [])
    (hmodal : Modal.workerMessages env modalFetch (planPayload plan) = .ok modalMessages)
    (hengine : LlmEngine.workerMessages env fetch (planPayload plan) = .ok engineMessages) :
    SeesInput request modalMessages ∧ SeesInput request engineMessages ↔
      NoSystemPrompt env c instant request ∧ PromptNonempty fetch request := by
  obtain ⟨hinputs, hrefs, recipe, hrecipe, hsystem, hmessages⟩ :=
    planPayload_of_compile hcompile hinline
  have hprompt : NoSystemPrompt env c instant request ↔ truthyStr (appendDeterministicFactLock env
      (recipePrompt request recipe) request recipe) = false := by
    unfold NoSystemPrompt
    rw [hrecipe]
    simp
  rw [hprompt]
  cases htruthy : truthyStr (appendDeterministicFactLock env (recipePrompt request recipe) request
      recipe) with
  | true =>
    rw [htruthy, if_pos rfl] at hmessages
    refine iff_of_false (fun hsees => ?_) (fun h => Bool.noConfusion h.1)
    exact LlmEngine.not_seesInput (of_decide_eq_true htruthy) hmessages hinline hengine hsees.2
  | false =>
    rw [htruthy, if_neg Bool.false_ne_true] at hmessages
    have hempty : systemPromptForPayload (planPayload plan) = "" := by
      rw [systemPromptForPayload, hsystem]
      simpa [truthyStr] using htruthy
    have hsees := Modal.seesInput hmessages hinputs hempty hmodal
    have hiff := LlmEngine.seesInput_iff_prompt hmessages hinputs hrefs hinline hempty hengine
    exact ⟨fun h => ⟨rfl, hiff.mp h.2⟩, fun h => ⟨hsees, hiff.mpr h.2⟩⟩

/-- No request below refers to an object. -/
def noFetch : FetchText := fun _ => .error "unsupported data ref scheme for Modal worker: "

theorem exists_workerMessages (c : GovernanceCompiler) (messages : List WorkerMessage)
    (h : ((c.compile modalEnvironment noon "plan-1" promptRequest).toOption.map fun plan =>
      ((Modal.workerMessages modalEnvironment noFetch (planPayload plan)).toOption,
        (LlmEngine.workerMessages modalEnvironment noFetch (planPayload plan)).toOption)) =
      some (some messages, some messages)) :
    ∃ plan, c.compile modalEnvironment noon "plan-1" promptRequest = .ok plan ∧
      Modal.workerMessages modalEnvironment noFetch (planPayload plan) = .ok messages ∧
      LlmEngine.workerMessages modalEnvironment noFetch (planPayload plan) = .ok messages := by
  obtain ⟨plan, hplan, hmessages⟩ := exists_ok_of_map h
  exact ⟨plan, hplan, OptionList.toOption_eq_some.mp (congrArg Prod.fst hmessages),
    OptionList.toOption_eq_some.mp (congrArg Prod.snd hmessages)⟩

theorem seesInput_iff_hello : ∃ plan messages,
    twoModalTuples.compile modalEnvironment noon "plan-1" promptRequest = .ok plan ∧
    Modal.workerMessages modalEnvironment noFetch (planPayload plan) = .ok messages ∧
    LlmEngine.workerMessages modalEnvironment noFetch (planPayload plan) = .ok messages ∧
    messages = [⟨"user", "hello"⟩] ∧ SeesInput promptRequest messages := by
  obtain ⟨plan, hplan, hmodal, hengine⟩ :=
    exists_workerMessages twoModalTuples [⟨"user", "hello"⟩] (by decide +kernel)
  have hnone : NoSystemPrompt modalEnvironment twoModalTuples noon promptRequest :=
    exists_ok_of_map (show ((twoModalTuples.recipeFor modalEnvironment noon promptRequest).toOption.map
      fun recipe => truthyStr (appendDeterministicFactLock modalEnvironment
        (recipePrompt promptRequest recipe) promptRequest recipe)) = some false by decide +kernel)
  have hnonempty : PromptNonempty noFetch promptRequest :=
    .inl ⟨"hello", List.mem_singleton_self _, by decide⟩
  have hsees := (seesInput_iff modalEnvironment twoModalTuples noon "plan-1" promptRequest plan noFetch
    noFetch hplan (List.cons_ne_nil _ _) hmodal hengine).mpr ⟨hnone, hnonempty⟩
  exact ⟨plan, _, hplan, hmodal, hengine, rfl, hsees.2⟩

/-- The deployment with a system prompt in its recipe. -/
def promptedTuples : GovernanceCompiler :=
  { twoModalTuples with
    recipes := { entries := [("text-infer-standard",
      { textRecipe with systemPrompt := some "Answer briefly." })] } }

/-- A request whose prompt no worker sees. -/
theorem hello_not_seen : ∃ plan messages,
    promptedTuples.compile modalEnvironment noon "plan-1" promptRequest = .ok plan ∧
    Modal.workerMessages modalEnvironment noFetch (planPayload plan) = .ok messages ∧
    LlmEngine.workerMessages modalEnvironment noFetch (planPayload plan) = .ok messages ∧
    messages = [⟨"system", "Answer briefly."⟩] ∧ ¬SeesInput promptRequest messages := by
  obtain ⟨plan, hplan, hmodal, hengine⟩ := exists_workerMessages promptedTuples
    [⟨"system", "Answer briefly."⟩] (by decide +kernel)
  refine ⟨plan, _, hplan, hmodal, hengine, rfl, fun hsees => ?_⟩
  obtain ⟨message, hmessage, hrole, -⟩ := hsees "hello" (List.mem_singleton_self _)
  rw [List.mem_singleton.mp hmessage] at hrole
  exact hrole rfl

end Gpucall
