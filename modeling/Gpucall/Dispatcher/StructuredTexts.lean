import Gpucall.Dispatcher.OutputValidation
import Gpucall.JsonGrammar

/-! What a caller reads of validated structured output. A result carries its answer twice, as its value
and in its choices; `_validate_tuple_output` reads the choices where there are some, and the value
otherwise, with `json.loads`. -/

namespace Gpucall

/-! ## The texts of a result -/

/-- `choice["message"]["content"]` of a choice whose content is a text. -/
def choiceContent (choice : ChatChoice) : Option String :=
  match choice.lookup "message" with
  | some (.obj message) =>
    match message.lookup "content" with
    | some (.str content) => some content
    | _ => none
  | _ => none

/-- The texts that the validation reads. -/
def validatedTexts (result : ChatTupleResult) : List String :=
  match result.openaiChoices.getD [] with
  | [] => result.value.toList
  | choices => choices.filterMap choiceContent

/-- The texts that a caller can read. -/
def readableTexts (result : ChatTupleResult) : List String :=
  result.value.toList ++ (result.openaiChoices.getD []).filterMap choiceContent

/-- The text is what the response format asks for. -/
structure Conforms (reader : StructuredReader) (plan : CompiledPlan) (text : String) : Prop where
  json : Rfc8259.Text text.toList
  object : ∀ format, plan.responseFormat = some format → format.type = .jsonObject →
    Rfc8259.ObjectText text.toList
  /-- The value that it stands for matches the schema. -/
  schema : ∀ format schema, plan.responseFormat = some format → format.type = .jsonSchema →
    format.strict → format.jsonSchema = some schema →
    ∃ value, Json.loads reader.recursionLimit text = .ok value ∧ reader.validates value schema

/-- Each text that can be read conforms, and no choice was cut off. -/
structure WhatItClaims (reader : StructuredReader) (plan : CompiledPlan) (result : ChatTupleResult) :
    Prop where
  texts : ∀ text ∈ readableTexts result, Conforms reader plan text
  finished : ∀ choice ∈ result.openaiChoices.getD [], finishedByLength choice = false

/-- No validated text holds one of the constants that JSON does not have, and next to choices, where
nothing reads it, a value conforms as it is. -/
structure ReadsAsJson (reader : StructuredReader) (plan : CompiledPlan) (result : ChatTupleResult) :
    Prop where
  constants : ∀ text ∈ validatedTexts result, Json.hasConstant text = false
  value : result.openaiChoices.getD [] ≠ [] → ∀ value, result.value = some value →
    Conforms reader plan value

variable {reader : StructuredReader} {plan : CompiledPlan}

/-! ## One text -/

theorem validateStructuredText_spec (h : validateStructuredText reader plan text = .ok ()) :
    ∃ value, Json.loads reader.recursionLimit text = .ok value ∧
      ∀ format, plan.responseFormat = some format →
        (format.type = .jsonObject → value.isObject) ∧
        (format.type = .jsonSchema → format.strict →
          ∀ schema, format.jsonSchema = some schema → reader.validates value schema) := by
  unfold validateStructuredText at h
  split at h
  · contradiction
  · contradiction
  next value hloads =>
  refine ⟨value, hloads, fun format hformat => ?_⟩
  rw [hformat] at h
  dsimp only at h
  split at h
  · contradiction
  next hobject =>
  split at h
  · contradiction
  next hschema =>
  refine ⟨fun htype => ?_, fun htype hstrict schema hsome => ?_⟩
  · simpa [htype] using hobject
  · simpa [htype, hstrict, hsome] using hschema

/-- A text that passes conforms exactly when none of the constants is in it. -/
theorem conforms_iff_of_validated (h : validateStructuredText reader plan text = .ok ()) :
    Conforms reader plan text ↔ Json.hasConstant text = false := by
  obtain ⟨value, hloads, hformat⟩ := validateStructuredText_spec h
  refine ⟨fun hconforms => Json.hasConstant_of_text hconforms.json, fun hclean => ⟨?_, ?_, ?_⟩⟩
  · exact (Json.text_iff_of_loads hloads).mpr hclean
  · intro format hsome htype
    have hobject := (hformat format hsome).1 htype
    cases value with
    | obj fields => exact Json.objectText_of_loads hloads hclean
    | _ => contradiction
  · intro format schema hsome htype hstrict hschema
    exact ⟨value, hloads, (hformat format hsome).2 htype hstrict schema hschema⟩

/-! ## The choices -/

theorem openaiChoiceContent_ok {choice : ChatChoice} (h : openaiChoiceContent choice = .ok content) :
    choiceContent choice = some content := by
  unfold openaiChoiceContent at h
  split at h
  · next message hmessage =>
    split at h
    · next text htext =>
      split at h
      · contradiction
      · obtain rfl := Except.ok.inj h
        simp only [choiceContent, hmessage, htext]
    · contradiction
  · contradiction

theorem validateStructuredChoice_spec {choice : ChatChoice}
    (h : validateStructuredChoice reader plan choice = .ok ()) :
    ∃ content, choiceContent choice = some content ∧ finishedByLength choice = false ∧
      validateStructuredText reader plan content = .ok () := by
  obtain ⟨content, hcontent, h⟩ := Fallible.bind_eq_ok.mp h
  cases hlength : finishedByLength choice with
  | true => simp [hlength, throw, throwThe, MonadExceptOf.throw, bind, Except.bind] at h
  | false =>
    refine ⟨content, openaiChoiceContent_ok hcontent, rfl, ?_⟩
    simpa [hlength] using h

theorem forM_ok {f : α → Except ε Unit} {items : List α} (h : items.forM f = .ok ()) :
    ∀ item ∈ items, f item = .ok () := by
  induction items with
  | nil => exact nofun
  | cons item items ih =>
    obtain ⟨_, hitem, hrest⟩ := Fallible.bind_eq_ok.mp h
    exact List.forall_mem_cons.mpr ⟨hitem, ih hrest⟩

/-! ## A validated result -/

/-- The texts that the validation reads pass, and no choice was cut off. -/
theorem validateTupleOutput_spec {result validated : ChatTupleResult}
    (hformat : requiresJsonOutput plan)
    (h : validateTupleOutput reader plan result = .ok validated) :
    validated = { result with outputValidated := some true } ∧
      (∀ text ∈ validatedTexts result, validateStructuredText reader plan text = .ok ()) ∧
      ∀ choice ∈ result.openaiChoices.getD [], finishedByLength choice = false := by
  simp only [validateTupleOutput, hformat, Bool.not_true, Bool.false_eq_true, if_false, bind, Except.bind,
    pure, Except.pure, throw, throwThe, MonadExceptOf.throw] at h
  split at h
  · contradiction
  split at h
  · next hchoices =>
    split at h
    · contradiction
    split at h
    · next value hkind hvalue =>
      obtain ⟨_, hvalid, h⟩ := Fallible.bind_eq_ok.mp h
      obtain rfl := Except.ok.inj h
      refine ⟨rfl, fun text htext => ?_, fun _ hchoice =>
        absurd (hchoices ▸ hchoice) List.not_mem_nil⟩
      have htext : text ∈ result.value.toList := by simpa [validatedTexts, hchoices] using htext
      rw [hvalue, Option.toList_some, List.mem_singleton] at htext
      exact htext ▸ hvalid
    · contradiction
  · next choices hne =>
    obtain ⟨_, hall, h⟩ := Fallible.bind_eq_ok.mp h
    obtain rfl := Except.ok.inj h
    have hspec (choice) (hchoice : choice ∈ result.openaiChoices.getD []) :=
      validateStructuredChoice_spec (forM_ok hall choice hchoice)
    refine ⟨rfl, fun text htext => ?_, fun choice hchoice => (hspec choice hchoice).choose_spec.2.1⟩
    have htext : text ∈ (result.openaiChoices.getD []).filterMap choiceContent := by
      unfold validatedTexts at htext
      split at htext
      · next hnil => exact absurd hnil hne
      · exact htext
    obtain ⟨choice, hchoice, hcontent⟩ := List.mem_filterMap.mp htext
    obtain ⟨content, hcontent', -, hvalid⟩ := hspec choice hchoice
    obtain rfl := Option.some.inj (hcontent.symm.trans hcontent')
    exact hvalid

/-- Beside the texts that are validated, a caller can read the value next to choices. -/
theorem mem_readableTexts {result : ChatTupleResult} :
    text ∈ readableTexts result ↔ text ∈ validatedTexts result ∨
      (result.openaiChoices.getD [] ≠ [] ∧ result.value = some text) := by
  unfold readableTexts validatedTexts
  split
  · next hnil => simp [hnil]
  · next hne =>
    rw [List.mem_append, Option.mem_toList, or_comm, and_iff_right hne]

/-- The claims of a validated result hold exactly when it reads as JSON. -/
theorem validated_output_conforms_iff {result validated : ChatTupleResult}
    (hformat : requiresJsonOutput plan)
    (h : validateTupleOutput reader plan result = .ok validated) :
    WhatItClaims reader plan validated ↔ ReadsAsJson reader plan result := by
  obtain ⟨rfl, hvalid, hfinished⟩ := validateTupleOutput_spec hformat h
  have hreadable : readableTexts { result with outputValidated := some true } =
      readableTexts result := rfl
  constructor
  · intro hclaims
    have htexts (text) (htext : text ∈ readableTexts result) : Conforms reader plan text :=
      hclaims.texts text (hreadable ▸ htext)
    exact {
      constants := fun text htext =>
        (conforms_iff_of_validated (hvalid text htext)).mp
          (htexts text (mem_readableTexts.mpr (.inl htext)))
      value := fun hne value hvalue => htexts value (mem_readableTexts.mpr (.inr ⟨hne, hvalue⟩)) }
  · intro hreads
    refine ⟨fun text htext => ?_, hfinished⟩
    obtain htext | ⟨hne, hvalue⟩ := mem_readableTexts.mp (hreadable ▸ htext)
    · exact (conforms_iff_of_validated (hvalid text htext)).mpr (hreads.constants text htext)
    · exact hreads.value hne text hvalue

/-! ### A JSON object and a constant -/

def objectRequest : TaskRequest :=
  { GovernanceCompiler.promptRequest with responseFormat := some { type := .jsonObject } }

theorem objectRequest_plan : ∃ plan format, GovernanceCompiler.twoModalTuples.compile
      GovernanceCompiler.modalEnvironment GovernanceCompiler.noon "plan-1" objectRequest = .ok plan ∧
    plan.responseFormat = some format ∧ format.type = .jsonObject := by
  obtain ⟨plan, hplan, htype⟩ := GovernanceCompiler.exists_ok_of_map (show
    ((GovernanceCompiler.twoModalTuples.compile GovernanceCompiler.modalEnvironment
      GovernanceCompiler.noon "plan-1" objectRequest).toOption.map
        fun plan => plan.responseFormat.map (·.type)) = some (some .jsonObject) by
      decide +kernel)
  obtain ⟨format, hformat, htype⟩ := Option.map_eq_some_iff.mp htype
  exact ⟨plan, format, hplan, hformat, htype⟩

/-- A result with the text as its value and as the content of its choice. -/
def objectAnswer (text : String) : ChatTupleResult where
  kind := .inline
  value := some text
  openaiChoices := some [[("message", .obj [("content", .str text)])]]

theorem validateStructuredText_object {format : ResponseFormat}
    (hformat : plan.responseFormat = some format) (htype : format.type = .jsonObject)
    (hloads : (Json.loads reader.recursionLimit text).toOption.any Json.isObject) :
    validateStructuredText reader plan text = .ok () := by
  cases hvalue : Json.loads reader.recursionLimit text with
  | error e => simp [hvalue, Except.toOption] at hloads
  | ok value =>
    have hobject : value.isObject := by simpa [hvalue, Except.toOption] using hloads
    simp [validateStructuredText, hvalue, hformat, htype, hobject]

theorem validateTupleOutput_objectAnswer (hjson : requiresJsonOutput plan) (hstrip : strip text ≠ "")
    (htext : validateStructuredText reader plan text = .ok ()) :
    validateTupleOutput reader plan (objectAnswer text) =
      .ok { objectAnswer text with outputValidated := some true } := by
  have hblank : blankValue (objectAnswer text) = false := decide_eq_false hstrip
  have hchoice : validateStructuredChoice reader plan
      [("message", .obj [("content", .str text)])] = .ok () := by
    simp [validateStructuredChoice, openaiChoiceContent, finishedByLength, List.lookup_cons, hstrip, htext,
      bind, Except.bind]
  simp only [validateTupleOutput, hblank, hjson, Bool.and_false, Bool.not_true, Bool.false_eq_true,
    if_false]
  simp [objectAnswer, hchoice, List.forM, bind, Except.bind, pure, Except.pure]

/-- The object is read off the value and off the choice. -/
theorem validated_output_conforms_iff_true : ∃ plan validated,
    validateTupleOutput plainReader plan (objectAnswer "\x7b\"ok\":true\x7d") = .ok validated ∧
      WhatItClaims plainReader plan validated := by
  obtain ⟨plan, format, -, hformat, htype⟩ := objectRequest_plan
  have hjson : requiresJsonOutput plan = true := by simp [requiresJsonOutput, hformat, htype]
  have htext : validateStructuredText plainReader plan "\x7b\"ok\":true\x7d" = .ok () :=
    validateStructuredText_object hformat htype (by decide +kernel)
  have hok := validateTupleOutput_objectAnswer hjson (by decide +kernel) htext
  refine ⟨plan, _, hok, (validated_output_conforms_iff hjson hok).mpr ⟨by decide +kernel, ?_⟩⟩
  rintro - value hvalue
  obtain rfl := Option.some.inj hvalue
  exact (conforms_iff_of_validated htext).mpr (by decide +kernel)

/-- An object with a `NaN` in it is validated. -/
theorem nan_validated :
    ¬ ∀ (reader : StructuredReader) (plan : CompiledPlan) (result validated : ChatTupleResult),
      requiresJsonOutput plan → validateTupleOutput reader plan result = .ok validated →
      WhatItClaims reader plan validated := by
  intro h
  obtain ⟨plan, format, -, hformat, htype⟩ := objectRequest_plan
  have hjson : requiresJsonOutput plan = true := by simp [requiresJsonOutput, hformat, htype]
  have htext : validateStructuredText plainReader plan "\x7b\"ok\":NaN\x7d" = .ok () :=
    validateStructuredText_object hformat htype (by decide +kernel)
  have hok := validateTupleOutput_objectAnswer hjson (by decide +kernel) htext
  have hclaims := h plainReader plan _ _ hjson hok
  have hjsonText := (hclaims.texts "\x7b\"ok\":NaN\x7d" (List.mem_cons_self ..)).json
  exact absurd (Json.hasConstant_of_text hjsonText) (by decide +kernel)

end Gpucall
