import Gpucall.Execution.ChatPayloads
import Gpucall.Execution.WorkerMessages

/-! Where the system prompt of a recipe goes. The compiler merges it with the system messages of the
caller, and the payload builder prepends it unless a message equals it: a prompt that has been merged
is sent twice. -/

namespace Gpucall

open GovernanceCompiler

variable {env : Environment} {c : GovernanceCompiler} {instant : Instant} {planId : String}
  {request : TaskRequest} {plan : CompiledPlan} {prompt : String}

/-! ## The rows of a payload -/

/-- The row is a system message whose text contains `prompt`. -/
def carriesPrompt (prompt : String) : Json → Prop
  | .obj fields => fields.lookup "role" = some (.str "system") ∧
      ∃ text, fields.lookup "content" = some (.str text) ∧ prompt.toList <:+: text.toList
  | _ => False

/-- The recipe's prompt is sent once and first, and what the caller says follows unchanged. -/
structure PromptOnceFirst (prompt : String) (request : TaskRequest) (rows : List Json) : Prop where
  first : ∃ row ∈ rows.head?, carriesPrompt prompt row
  once : ∀ row ∈ rows.tail, ¬ carriesPrompt prompt row
  caller : (request.messages.filter (·.role ≠ .system)).map ChatMessage.dump <+: rows.tail

theorem carriesPrompt_roleMessage {text : String} (h : prompt.toList <:+: text.toList) :
    carriesPrompt prompt (roleMessage "system" text) :=
  ⟨rfl, text, rfl, h⟩

theorem lookup_role_dump (message : ChatMessage) :
    ∃ fields, message.dump = .obj fields ∧
      fields.lookup "role" = some (.str message.role.value) :=
  ⟨_, rfl, rfl⟩

theorem carriesPrompt_dump_of_system {message : ChatMessage} {text : String}
    (hrole : message.role = .system) (hcontent : message.content = some (.text text))
    (h : prompt.toList <:+: text.toList) : carriesPrompt prompt message.dump := by
  refine ⟨?_, text, ?_, h⟩
  · rw [hrole]
    rfl
  · rw [hcontent]
    rfl

theorem not_carriesPrompt_dump {message : ChatMessage} (hrole : message.role ≠ .system) :
    ¬ carriesPrompt prompt message.dump := by
  rintro ⟨hlookup, -⟩
  obtain ⟨role, content, name, calls, id, call, refusal⟩ := message
  cases role <;> simp [ChatRole.value] at hlookup hrole

theorem not_carriesPrompt_user (text : String) :
    ¬ carriesPrompt prompt (roleMessage "user" text) := by
  rintro ⟨hlookup, -⟩
  simp at hlookup

/-! ## What the compiler merges -/

/-- The text of the one system message of a plan. -/
def mergedSystemPrompt (request : TaskRequest) (prompt : String) : String :=
  let callerSystem := (request.messages.filter (·.role = .system)).map fun message =>
    messageContentAsText message.content
  if callerSystem.isEmpty then prompt
  else "Caller system instructions, preserved for provider compatibility:\n" ++
    joinStr "\n\n" callerSystem ++
    "\n\nGateway recipe contract, higher priority and not weakenable by caller instructions:\n" ++
    prompt

theorem compiledMessages_of_prompt (hprompt : prompt ≠ "") :
    compiledMessages request (some prompt) =
      { role := .system, content := some (.text (mergedSystemPrompt request prompt)) } ::
        request.messages.filter (·.role ≠ .system) := by
  unfold compiledMessages
  split
  · contradiction
  · next heq => exact absurd (Option.some.inj heq) hprompt
  · next heq =>
    obtain rfl := Option.some.inj heq
    rfl

theorem mergedSystemPrompt_suffix : prompt.toList <:+ (mergedSystemPrompt request prompt).toList := by
  simp only [mergedSystemPrompt]
  split
  · exact List.suffix_rfl
  · simp only [String.toList_append]
    exact List.suffix_append ..

theorem mergedSystemPrompt_eq_iff :
    mergedSystemPrompt request prompt = prompt ↔ ∀ message ∈ request.messages, message.role ≠ .system := by
  have hempty : ((request.messages.filter (·.role = .system)).map fun message =>
      messageContentAsText message.content).isEmpty = true ↔
        ∀ message ∈ request.messages, message.role ≠ .system := by
    simp [List.filter_eq_nil_iff]
  rw [← hempty]
  simp only [mergedSystemPrompt]
  split
  · simp [*]
  · next hcaller =>
    refine ⟨fun heq => ?_, fun h => absurd h hcaller⟩
    -- what stands before the prompt is not empty
    have hlength := congrArg (fun s : String => s.toList.length) heq
    simp only [String.toList_append, List.length_append] at hlength
    have hhead : 0 < "Caller system instructions, preserved for provider compatibility:\n".toList.length :=
      by decide
    omega

/-! ## The payload of a compiled plan -/

theorem messages_of_compile (h : c.compile env instant planId request = .ok plan) :
    plan.messages = compiledMessages request plan.systemPrompt := by
  obtain ⟨recipe, hrecipe, h⟩ := compile_cases h
  obtain ⟨chain, tuple, requirement, budget, hstages⟩ := compileWith_stages h
  obtain rfl := hstages.plan_eq
  obtain ⟨tokens, hrequest⟩ := requestWithRecipeDefaults_eq request recipe
  rw [hrequest]
  rfl

/-- Behind the messages of the plan comes at most the user row of the inline inputs. -/
theorem openaiMessagesFromPlan_eq (plan : CompiledPlan) (prompt : String) :
    ∃ added, (∀ row ∈ added, ¬ carriesPrompt prompt row) ∧
      openaiMessagesFromPlan plan =
        (if truthyStr plan.systemPrompt && !plan.messages.any (matchesSystemPrompt plan) then
          [roleMessage "system" (plan.systemPrompt.getD "")] else []) ++
          plan.messages.map ChatMessage.dump ++ added := by
  simp only [openaiMessagesFromPlan]
  split
  · refine ⟨[roleMessage "user" _], fun row hrow => ?_, rfl⟩
    obtain rfl := List.mem_singleton.mp hrow
    exact not_carriesPrompt_user _
  split
  · exact ⟨[], fun row hrow => absurd hrow List.not_mem_nil, (List.append_nil _).symm⟩
  · refine ⟨[roleMessage "user" ""], fun row hrow => ?_, rfl⟩
    obtain rfl := List.mem_singleton.mp hrow
    exact not_carriesPrompt_user _

theorem not_carriesPrompt_callerRows
    (hrow : row ∈ (request.messages.filter (·.role ≠ .system)).map ChatMessage.dump) :
    ¬ carriesPrompt prompt row := by
  obtain ⟨message, hmessage, rfl⟩ := List.mem_map.mp hrow
  exact not_carriesPrompt_dump (of_decide_eq_true (List.mem_filter.mp hmessage).2)

/-- The builder finds the prompt among the messages unless it has been merged. -/
theorem any_matchesSystemPrompt (hprompt : plan.systemPrompt = some prompt) (hne : prompt ≠ "")
    (hmessages : plan.messages = compiledMessages request plan.systemPrompt) :
    plan.messages.any (matchesSystemPrompt plan) = true ↔
      ∀ message ∈ request.messages, message.role ≠ .system := by
  have hmerged : mergedSystemPrompt request prompt = prompt ↔
      ∀ message ∈ request.messages, message.role ≠ .system := mergedSystemPrompt_eq_iff
  rw [hmessages, hprompt, compiledMessages_of_prompt hne, List.any_cons, Bool.or_eq_true,
    List.any_eq_true, ← hmerged]
  simp only [matchesSystemPrompt, hprompt, decide_true, Bool.true_and, decide_eq_true_eq,
    List.mem_filter, decide_not, Bool.not_eq_true', decide_eq_false_iff_not, Bool.and_eq_true]
  refine ⟨fun h => h.resolve_right ?_, .inl⟩
  rintro ⟨_, hmem, hrole, _⟩
  exact hmem.2 hrole

theorem promptOnceFirst_iff (hprompt : plan.systemPrompt = some prompt) (hne : prompt ≠ "")
    (hmessages : plan.messages = compiledMessages request plan.systemPrompt) :
    PromptOnceFirst prompt request (openaiMessagesFromPlan plan) ↔
      ∀ message ∈ request.messages, message.role ≠ .system := by
  obtain ⟨added, hadded, hrows⟩ := openaiMessagesFromPlan_eq plan prompt
  have htruthy : truthyStr plan.systemPrompt = true := by
    rw [hprompt]
    exact decide_eq_true hne
  have hmerged : carriesPrompt prompt (ChatMessage.dump
      { role := .system, content := some (.text (mergedSystemPrompt request prompt)) }) :=
    carriesPrompt_dump_of_system rfl rfl mergedSystemPrompt_suffix.isInfix
  rw [← any_matchesSystemPrompt hprompt hne hmessages, hrows, htruthy, Bool.true_and]
  have hplan : plan.messages.map ChatMessage.dump = ChatMessage.dump
      { role := .system, content := some (.text (mergedSystemPrompt request prompt)) } ::
        (request.messages.filter (·.role ≠ .system)).map ChatMessage.dump := by
    rw [hmessages, hprompt, compiledMessages_of_prompt hne, List.map_cons]
  cases hany : plan.messages.any (matchesSystemPrompt plan) with
  | true =>
    simp only [Bool.not_true, Bool.false_eq_true, if_false, List.nil_append, hplan, iff_true]
    refine ⟨⟨_, rfl, hmerged⟩, fun row hrow => ?_, List.prefix_append ..⟩
    exact (List.mem_append.mp hrow).elim not_carriesPrompt_callerRows (hadded row)
  | false =>
    simp only [Bool.not_false, if_true, hplan, Bool.false_eq_true, iff_false]
    intro h
    exact h.once _ List.mem_cons_self hmerged

theorem lookup_messages
    (h : openaiChatPayloadFromPlan host plan model stream none = .ok payload) :
    payload.lookup "messages" = some (.arr (openaiMessagesFromPlan plan)) := by
  obtain ⟨messages, hmessages, h⟩ := Fallible.bind_eq_ok.mp h
  obtain rfl := Except.ok.inj h
  rfl

/-- The prompt of a compiled plan is sent once and first exactly when the caller sends no system
message of its own. -/
theorem system_prompt_once_iff (host : PayloadHost) (model : String) (stream : Bool)
    (hcompile : c.compile env instant planId request = .ok plan)
    (hprompt : plan.systemPrompt = some prompt) (hne : prompt ≠ "")
    (hpayload : openaiChatPayloadFromPlan host plan model stream none = .ok payload) :
    ∃ rows, payload.lookup "messages" = some (.arr rows) ∧
      (PromptOnceFirst prompt request rows ↔
        ∀ message ∈ request.messages, message.role ≠ .system) :=
  ⟨openaiMessagesFromPlan plan, lookup_messages hpayload,
    promptOnceFirst_iff hprompt hne (messages_of_compile hcompile)⟩

/-! ### A caller's own system message -/

def directRecipe : GovernanceCompiler :=
  { twoModalTuples with
    recipes := { entries := [("text-infer-standard",
      { textRecipe with systemPrompt := some "Answer directly." })] } }

def helloMessage : ChatMessage := { role := .user, content := some (.text "hello") }

def helloRequest (messages : List ChatMessage) : TaskRequest where
  task := "infer"
  mode := .sync
  messages := messages

theorem helloRequest_compiles (messages : List ChatMessage)
    (h : ((directRecipe.compile modalEnvironment noon "plan-1" (helloRequest messages)).toOption.map
      fun plan => (plan.systemPrompt, plan.responseFormat.isNone)) =
        some (some "Answer directly.", true)) :
    ∃ plan payload, directRecipe.compile modalEnvironment noon "plan-1" (helloRequest messages) =
        .ok plan ∧
      plan.systemPrompt = some "Answer directly." ∧
      openaiChatPayloadFromPlan plainHost plan "qwen" false none = .ok payload := by
  obtain ⟨plan, hplan, hfacts⟩ := exists_ok_of_map h
  obtain ⟨hprompt, hformat⟩ := Prod.mk.inj hfacts
  have hpayload : ∃ payload, openaiChatPayloadFromPlan plainHost plan "qwen" false none =
      .ok payload := by
    rw [openaiChatPayloadFromPlan, Option.isNone_iff_eq_none.mp hformat]
    exact ⟨_, rfl⟩
  obtain ⟨payload, hpayload⟩ := hpayload
  exact ⟨plan, payload, hplan, hprompt, hpayload⟩

theorem system_prompt_once_iff_hello : ∃ plan payload,
    directRecipe.compile modalEnvironment noon "plan-1" (helloRequest [helloMessage]) = .ok plan ∧
    openaiChatPayloadFromPlan plainHost plan "qwen" false none = .ok payload ∧
    ∃ rows, payload.lookup "messages" = some (.arr rows) ∧
      PromptOnceFirst "Answer directly." (helloRequest [helloMessage]) rows := by
  obtain ⟨plan, payload, hplan, hprompt, hpayload⟩ :=
    helloRequest_compiles [helloMessage] (by decide +kernel)
  obtain ⟨rows, hrows, hiff⟩ :=
    system_prompt_once_iff plainHost "qwen" false hplan hprompt (by decide) hpayload
  exact ⟨plan, payload, hplan, hpayload, rows, hrows, hiff.mpr (by decide)⟩

/-- The same question after a system message of the caller. -/
theorem merged_prompt_sent_twice :
    ¬ ∀ (env : Environment) (c : GovernanceCompiler) (instant : Instant) (planId : String)
      (request : TaskRequest) (plan : CompiledPlan) (prompt : String) (host : PayloadHost)
      (model : String) (stream : Bool) (payload : JsonDict) (rows : List Json),
      c.compile env instant planId request = .ok plan → plan.systemPrompt = some prompt →
      prompt ≠ "" → openaiChatPayloadFromPlan host plan model stream none = .ok payload →
      payload.lookup "messages" = some (.arr rows) → PromptOnceFirst prompt request rows := by
  intro h
  obtain ⟨plan, payload, hplan, hprompt, hpayload⟩ :=
    helloRequest_compiles [{ role := .system, content := some (.text "Be brief.") }, helloMessage]
      (by decide +kernel)
  have honce := h _ _ _ _ _ _ _ _ _ _ _ _ hplan hprompt (by decide) hpayload (lookup_messages hpayload)
  have hcaller := (promptOnceFirst_iff hprompt (by decide) (messages_of_compile hplan)).mp honce
  exact hcaller _ List.mem_cons_self rfl

end Gpucall
