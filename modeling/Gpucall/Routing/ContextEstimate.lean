import Gpucall.Execution.SystemPrompt

/-! What the context estimate covers. `required_model_len` counts the prompt of the recipe, and the
compiler appends the deterministic fact tokens to that prompt after it has counted. -/

namespace Gpucall

open GovernanceCompiler

variable {env : Environment} {c : GovernanceCompiler} {instant : Instant} {planId : String}
  {request : TaskRequest} {recipe : Recipe} {plan : CompiledPlan}

/-! ## Bytes of a dump -/

theorem utf8ByteSize_ofList (l : List Char) :
    (String.ofList l).utf8ByteSize = (l.map Char.utf8Size).sum := by
  induction l with
  | nil => rfl
  | cons c l ih =>
    have hcons : String.ofList (c :: l) = String.singleton c ++ String.ofList l := by
      apply String.toList_inj.mp
      simp
    rw [hcons, String.utf8ByteSize_append, String.utf8ByteSize_singleton, ih, List.map_cons,
      List.sum_cons]

theorem utf8Size_of_lt {c : Char} (h : c.toNat < 128) : c.utf8Size = 1 := by
  rw [Char.utf8Size_eq_one_iff, UInt32.le_iff_toNat_le]
  exact Nat.le_of_lt_succ h

theorem length_escapeUnit (n : ℕ) : (Json.escapeUnit n).length = 6 := rfl

theorem escapeControl_spec {c : Char} {escaped : List Char}
    (h : Json.escapeControl c = some escaped) : c.toNat < 128 ∧ 1 ≤ escaped.length := by
  unfold Json.escapeControl at h
  split_ifs at h with hquote hslash hnewline hreturn htab hback hfeed hcontrol
  · subst hquote; cases h; decide
  · subst hslash; cases h; decide
  · subst hnewline; cases h; decide
  · subst hreturn; cases h; decide
  · subst htab; cases h; decide
  · cases h
    exact ⟨by omega, by decide⟩
  · cases h
    exact ⟨by omega, by decide⟩
  · cases h
    exact ⟨by omega, by simp [length_escapeUnit]⟩

/-- An escaped character is no shorter than its bytes. -/
theorem utf8Size_le_escapeChar (c : Char) : c.utf8Size ≤ (Json.escapeChar true c).length := by
  have hfour : c.utf8Size ≤ 4 := Char.utf8Size_le_four c
  unfold Json.escapeChar
  split
  · next escaped hescaped =>
    obtain ⟨hascii, hlength⟩ := escapeControl_spec hescaped
    rw [utf8Size_of_lt hascii]
    exact hlength
  · split
    · next hascii =>
      simp only [Bool.not_true, Bool.false_or, decide_eq_true_eq] at hascii
      rw [utf8Size_of_lt (by omega)]
      exact le_rfl
    · split
      · rw [length_escapeUnit]
        omega
      · rw [List.length_append, length_escapeUnit]
        omega

theorem utf8ByteSize_le_dumpsString (s : String) :
    s.utf8ByteSize + 2 ≤ (Json.dumpsString true s).length := by
  have hchars (l : List Char) :
      (l.map Char.utf8Size).sum ≤ (l.flatMap (Json.escapeChar true)).length := by
    induction l with
    | nil => exact le_rfl
    | cons c l ih =>
      rw [List.map_cons, List.sum_cons, List.flatMap_cons, List.length_append]
      exact Nat.add_le_add (utf8Size_le_escapeChar c) ih
  have hbytes := hchars s.toList
  rw [← utf8ByteSize_ofList, String.ofList_toList] at hbytes
  simp only [Json.dumpsString, List.length_append, List.length_cons, List.length_nil]
  omega

theorem dumps_le_dumps_obj {fields : List (String × Json)} {name : String} {value : Json}
    (h : (name, value) ∈ fields) : (value.dumps true).length ≤ ((Json.obj fields).dumps true).length := by
  have hmem : (name, value.dumps true) ∈ Json.dumpsFields true fields := by
    induction fields with
    | nil => cases h
    | cons field fields ih =>
      rw [Json.dumpsFields]
      obtain rfl | h := List.mem_cons.mp h
      · exact List.mem_cons_self
      · exact List.mem_cons_of_mem _ (ih h)
  have hsorted : (name, value.dumps true) ∈ Json.sortKeys (Json.dumpsFields true fields) :=
    (List.mem_insertionSort _).mpr hmem
  have hrendered : Json.dumpsString true name ++ [':'] ++ value.dumps true <:+:
      [','].intercalate ((Json.sortKeys (Json.dumpsFields true fields)).map fun field =>
        Json.dumpsString true field.1 ++ [':'] ++ field.2) :=
    infix_intercalate (List.mem_map.mpr ⟨_, hsorted, rfl⟩)
  have hlength := hrendered.length_le
  simp only [Json.dumps, List.length_append] at hlength ⊢
  omega

/-! ## Bytes of a request -/

/-- `_message_bytes` of the content of a message -/
def contentBytes : Option ChatContent → ℕ
  | none => 0
  | some (.text value) => value.utf8ByteSize
  | some (.parts items) => (Json.arr items).dumpsBytes

theorem contentBytes_le (message : ChatMessage) :
    contentBytes message.content ≤ message.json.dumpsBytes := by
  unfold contentBytes
  cases hcontent : message.content with
  | none => exact Nat.zero_le _
  | some content =>
    have hdump : (content.json.dumps true).length ≤ message.json.dumpsBytes := by
      refine dumps_le_dumps_obj (show ("content", content.json) ∈ _ from ?_)
      simp [hcontent]
    cases content with
    | text value =>
      have hbytes := utf8ByteSize_le_dumpsString value
      simp only [ChatContent.json, Json.dumps] at hdump
      simp only
      omega
    | parts items => exact hdump

def promptBytes (prompt : Option String) : ℕ := (prompt.getD "").utf8ByteSize

def inlineBytes (request : TaskRequest) : ℕ :=
  (request.inlineInputs.map fun item => item.2.value.utf8ByteSize).sum

def messageContentBytes (request : TaskRequest) : ℕ :=
  (request.messages.map fun message => contentBytes message.content).sum

/-- `int(ref.bytes or 0)` -/
def DataRef.byteCount (ref : DataRef) : ℕ :=
  match ref.bytes with
  | none => 0
  | some n => n

/-- The bytes of the data refs, where an image that vision counts apart is 256. -/
def inputRefBytes (request : TaskRequest) (recipe : Recipe) : ℕ :=
  let imageRefs := request.inputRefs.filter DataRef.isImage
  if recipe.task = "vision" then
    ((request.inputRefs.filter (· ∉ imageRefs)).map fun ref => ref.byteCount).sum +
      256 * imageRefs.length
  else (request.inputRefs.map fun ref => ref.byteCount).sum

/-- What the estimate counts besides the prompt and the contents: the JSON that frames the messages,
the control fields and the data refs. -/
def framingBytes (request : TaskRequest) (recipe : Recipe) : ℕ :=
  (request.messages.map fun message => message.json.dumpsBytes - contentBytes message.content).sum +
    openaiControlBytes request + inputRefBytes request recipe

/-- The bytes of the fact lock of a request, with the blank line before it. -/
def factLockBytes (env : Environment) (request : TaskRequest) (recipe : Recipe) : ℕ :=
  promptBytes (appendDeterministicFactLock env (recipePrompt request recipe) request recipe) -
    promptBytes (recipePrompt request recipe)

/-- The estimate of a plan, less the output budget, covers the system text of the plan, the inline
values and the contents of the caller's messages. -/
def CoversPrompt (request : TaskRequest) (plan : CompiledPlan) : Prop :=
  ∃ estimate, plan.attestations.contextEstimate = some estimate ∧
    promptBytes plan.systemPrompt + inlineBytes request + messageContentBytes request ≤
      estimate.requiredModelLen - (plan.maxTokens.map PNat.val).getD 0

/-! ## The estimate in bytes -/

theorem bytesPerTokenFloor_generic (h : env.lower (env.strip "generic_utf8") = "generic_utf8") :
    bytesPerTokenFloor env "generic_utf8" = 1 := by
  simp only [bytesPerTokenFloor, reduceIte, h, show ("generic_utf8" = "") = False by decide]
  decide

theorem estimatedTextTokens_of_floor (h : bytesPerTokenFloor env profile = 1) (bytes : ℕ)
    (contentType : Option String) : estimatedTextTokens env bytes profile contentType = bytes := by
  simp only [estimatedTextTokens, h, Nat.cast_one, div_one, Nat.ceil_natCast]
  split
  · next hzero => exact hzero.symm
  · exact ite_self _

theorem sum_messageBytes (request : TaskRequest) :
    (request.messages.map fun message => message.json.dumpsBytes).sum =
      messageContentBytes request +
        (request.messages.map fun message =>
          message.json.dumpsBytes - contentBytes message.content).sum := by
  simp only [messageContentBytes, ← List.sum_map_add]
  refine congrArg List.sum (List.map_congr_left fun message _ => ?_)
  exact (Nat.add_sub_cancel' (contentBytes_le message)).symm

theorem recipePromptTokens_of_floor (h : bytesPerTokenFloor env recipe.tokenEstimationProfile = 1) :
    recipePromptTokens env request recipe = promptBytes (recipePrompt request recipe) := by
  unfold recipePromptTokens promptBytes
  split
  · next hprompt => rw [hprompt]; rfl
  · next hprompt => rw [hprompt]; rfl
  · next text hprompt => rw [hprompt, estimatedTextTokens_of_floor h, Option.getD_some]

theorem dataRefEstimatedTokens_of_floor (h : bytesPerTokenFloor env profile = 1) (ref : DataRef) :
    dataRefEstimatedTokens env ref profile = ref.byteCount :=
  estimatedTextTokens_of_floor h ..

theorem requiredModelLen_of_floor {policy : Policy}
    (hfloor : bytesPerTokenFloor env recipe.tokenEstimationProfile = 1)
    (hmultiplier : policy.tokenizerSafetyMultiplier = 1) :
    requiredModelLen env request recipe policy =
      max 1 (promptBytes (recipePrompt request recipe) + inlineBytes request +
        messageContentBytes request + framingBytes request recipe + outputContextTokens request) := by
  simp only [requiredModelLen, hmultiplier, mul_one, Nat.ceil_natCast, inlineInputTokens,
    chatMessageTokens, dataRefEstimatedTokens_of_floor hfloor, estimatedTextTokens_of_floor hfloor,
    recipePromptTokens_of_floor hfloor, sum_messageBytes, framingBytes, inputRefBytes, inlineBytes]
  congr 1
  split <;> omega

/-! ## The fact lock -/

theorem promptBytes_append (prompt : Option String) (lock : String) :
    promptBytes (some (prompt.getD "" ++ lock)) = promptBytes prompt + lock.utf8ByteSize := by
  simp only [promptBytes, Option.getD_some, String.utf8ByteSize_append]

/-- The compiler leaves the prompt as it is, or appends a lock of more than one byte. -/
theorem promptBytes_factLock (env : Environment) (request : TaskRequest) (recipe : Recipe) (prompt : Option String) :
    promptBytes (appendDeterministicFactLock env prompt request recipe) = promptBytes prompt ∨
      promptBytes prompt + 2 ≤
        promptBytes (appendDeterministicFactLock env prompt request recipe) := by
  simp only [appendDeterministicFactLock]
  split
  · exact .inl rfl
  split
  · exact .inl rfl
  · right
    split
    · rw [String.append_assoc, promptBytes_append, String.utf8ByteSize_append]
      exact Nat.add_le_add_left (Nat.le_add_right_of_le (by decide)) _
    · next hprompt =>
      have hempty : promptBytes prompt = 0 := by
        obtain rfl | rfl := truthyStr_eq_false (Bool.not_eq_true _ ▸ hprompt) <;> rfl
      rw [hempty]
      simp only [promptBytes, Option.getD_some, String.utf8ByteSize_append]
      exact Nat.le_add_right_of_le (Nat.le_add_right_of_le (by decide))

theorem factLockBytes_of_no_tokens (h : sourceFactTokens env request = []) :
    factLockBytes env request recipe = 0 := by
  simp only [factLockBytes, appendDeterministicFactLock, h, ite_self, Nat.sub_self]

/-- The estimate of a compiled plan covers its prompt exactly when the fact lock fits in what is counted
besides. -/
theorem estimate_covers_prompt_iff
    (hgeneric : env.lower (env.strip "generic_utf8") = "generic_utf8")
    (hcompile : c.compile env instant planId request = .ok plan)
    (hmultiplier : c.policy.tokenizerSafetyMultiplier = 1)
    (hprofile : plan.tokenEstimationProfile = "generic_utf8") :
    ∃ recipe, c.recipeFor env instant request = .ok recipe ∧
      (CoversPrompt request plan ↔
        factLockBytes env request recipe ≤ framingBytes request recipe) := by
  obtain ⟨recipe, hrecipe, hwith⟩ := compile_cases hcompile
  obtain ⟨chain, tuple, requirement, budget, hstages⟩ := compileWith_stages hwith
  obtain rfl := hstages.plan_eq
  refine ⟨recipe, hrecipe, ?_⟩
  have hfloor : bytesPerTokenFloor env recipe.tokenEstimationProfile = 1 := by
    rw [show recipe.tokenEstimationProfile = "generic_utf8" from hprofile]
    exact bytesPerTokenFloor_generic hgeneric
  obtain ⟨tokens, hrequest⟩ := requestWithRecipeDefaults_eq request recipe
  have hlock := promptBytes_factLock env request recipe (recipePrompt request recipe)
  have hestimate : requiredModelLen env { request with maxTokens := tokens } recipe c.policy = _ :=
    requiredModelLen_of_floor hfloor hmultiplier
  simp only [CoversPrompt, planOf, attestationsFor, hrequest, hestimate, factLockBytes,
    Option.some.injEq, exists_eq_left']
  change promptBytes (appendDeterministicFactLock env (recipePrompt request recipe) request recipe) +
      inlineBytes request + messageContentBytes request ≤
        max 1 (promptBytes (recipePrompt request recipe) + inlineBytes request +
          messageContentBytes request + framingBytes request recipe +
          outputContextTokens { request with maxTokens := tokens }) - (tokens.map PNat.val).getD 0 ↔ _
  have houtput : outputContextTokens { request with maxTokens := tokens } =
      (tokens.map PNat.val).getD 0 := by
    cases tokens <;> rfl
  rw [houtput]
  omega

/-! ### A day of the week -/

def weekdayEnvironment : Environment :=
  { modalEnvironment with
    weekdayMatches := fun text => if text = "Due Monday." then [(4, "Monday")] else [] }

def summaryRecipe : GovernanceCompiler :=
  { twoModalTuples with
    policy := { twoModalTuples.policy with tokenizerSafetyMultiplier := 1 }
    recipes := { entries := [("text-infer-standard",
      { textRecipe with intent := some "summarize_text", systemPrompt := some "Summarize." })] } }

def summaryRequest (text : String) : TaskRequest where
  task := "infer"
  mode := .sync
  intent := some "summarize_text"
  inlineInputs := [("prompt", { value := text })]

theorem estimate_covers_prompt_iff_due : ∃ plan,
    summaryRecipe.compile weekdayEnvironment noon "plan-1" (summaryRequest "Due soon.") = .ok plan ∧
      CoversPrompt (summaryRequest "Due soon.") plan := by
  obtain ⟨plan, hplan, hprofile⟩ := exists_ok_of_map (show
    ((summaryRecipe.compile weekdayEnvironment noon "plan-1"
      (summaryRequest "Due soon.")).toOption.map (·.tokenEstimationProfile)) = some "generic_utf8" by
      decide +kernel)
  obtain ⟨recipe, hrecipe, hiff⟩ := estimate_covers_prompt_iff (by decide) hplan rfl hprofile
  refine ⟨plan, hplan, hiff.mpr ?_⟩
  rw [factLockBytes_of_no_tokens (by decide)]
  exact Nat.zero_le _

/-- One day of the week in the text, and a lock that nothing has counted. -/
theorem weekday_lock_uncounted :
    ¬ ∀ (env : Environment) (c : GovernanceCompiler) (instant : Instant) (planId : String)
      (request : TaskRequest) (plan : CompiledPlan),
      env.lower (env.strip "generic_utf8") = "generic_utf8" →
      c.compile env instant planId request = .ok plan →
      c.policy.tokenizerSafetyMultiplier = 1 → plan.tokenEstimationProfile = "generic_utf8" →
      CoversPrompt request plan := by
  intro h
  obtain ⟨plan, hplan, hfacts⟩ := exists_ok_of_map (show
    ((summaryRecipe.compile weekdayEnvironment noon "plan-1"
      (summaryRequest "Due Monday.")).toOption.map fun plan =>
        (plan.tokenEstimationProfile, plan.maxTokens, promptBytes plan.systemPrompt,
          plan.attestations.contextEstimate.map (·.requiredModelLen))) =
      some ("generic_utf8", none, 166, some 21) by decide +kernel)
  simp only [Prod.mk.injEq, Option.map_eq_some_iff] at hfacts
  obtain ⟨hprofile, hmax, hprompt, estimate, hestimate, hlength⟩ := hfacts
  obtain ⟨_, hattested, hcovers⟩ := h _ _ _ _ _ plan (by decide) hplan rfl hprofile
  obtain rfl := Option.some.inj (hestimate.symm.trans hattested)
  rw [hprompt, hlength, hmax] at hcovers
  exact absurd hcovers (by decide)

end Gpucall
