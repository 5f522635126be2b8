import Gpucall.Routing.ValidationEvidence

/-! The two readers of the content of a chat message: `_normalize_message_content` of the SDK and
`_message_content_to_text` of the OpenAI facade. They accept the same contents; the one puts line breaks
between the texts of the parts, the other nothing. -/

namespace Gpucall

variable (py : Builtins)

/-! ## The readers -/

/-- `type(value).__name__` of a decoded value -/
def typeName : Json → String
  | .null => "NoneType"
  | .bool _ => "bool"
  | .number text => if text.toList.all fun c => c.isDigit || c = '-' then "int" else "float"
  | .str _ => "str"
  | .arr _ => "list"
  | .obj _ => "dict"

/-- One round of the loop over the parts: the text of a part, or what it is reported as. -/
def contentPart (nonObject : Json → String) : Json → Except String String
  | .obj item =>
    let kind := strOrEmpty py (item.lookup "type")
    match item.lookup "text" with
    | some (.str text) =>
      if kind = "text" || kind = "input_text" then .ok text
      else .error (if kind = "" then "<missing>" else kind)
    | _ => .error (if kind = "" then "<missing>" else kind)
  | item => .error (nonObject item)

/-- `parts` after the loop -/
def contentParts (nonObject : Json → String) (items : List Json) : List String :=
  items.filterMap fun item => (contentPart py nonObject item).toOption

/-- `unsupported` after the loop -/
def unsupportedParts (nonObject : Json → String) (items : List Json) : List String :=
  items.filterMap fun item =>
    match contentPart py nonObject item with
    | .ok _ => none
    | .error kind => some kind

/-- The text of a list of parts, if `parts and not unsupported`. -/
def textOfParts (nonObject : Json → String) (sep : String) (items : List Json) : Option String :=
  let parts := contentParts py nonObject items
  if !parts.isEmpty && (unsupportedParts py nonObject items).isEmpty then some (joinStr sep parts)
  else none

/-- `_normalize_message_content`; the error is a `GPUCallCallerRoutingError`. -/
def normalizeMessageContent (content : Json) : Except String (Option String) :=
  let unsupported := .error <|
    "structured or multimodal message content is not supported by this SDK method; " ++
      "use explicit gpucall DataRef APIs instead"
  match content with
  | .null => .ok none
  | .str content => .ok (some content)
  | .arr items =>
    match textOfParts py typeName "\n" items with
    | some text => .ok (some text)
    | none => unsupported
  | _ => unsupported

/-- `_message_content_to_text`; the errors are `OpenAIProtocolError`s. -/
def messageContentToText : Json → Except String String
  | .null => .ok ""
  | .str content => .ok content
  | .arr items =>
    match textOfParts py (fun _ => "<non-object>") "" items with
    | some text => .ok text
    | none => .error <|
      "OpenAI facade accepts string or text-only content parts; use gpucall DataRef APIs for " ++
        "image/file inputs"
  | _ => .error "OpenAI message content must be a string or text-only content parts"

/-! ## One content, two readers -/

/-- The SDK and the facade accept the content alike, and then read the same text. -/
structure ReadAlike (content : Json) : Prop where
  accepts : (∃ text, normalizeMessageContent py content = .ok text) ↔
    ∃ text, messageContentToText py content = .ok text
  text : ∀ text text', normalizeMessageContent py content = .ok text →
    messageContentToText py content = .ok text' → text = some text'

/-- A part of type `text` or `input_text` with a text. -/
def IsTextPart (item : Json) : Prop :=
  ∃ fields text, item = .obj fields ∧ strOrEmpty py (fields.lookup "type") ∈ ["text", "input_text"] ∧
    fields.lookup "text" = some (.str text)

/-- A list of two text parts or more, and of nothing else. -/
def SeveralTexts (content : Json) : Prop :=
  ∃ items, content = .arr items ∧ 2 ≤ items.length ∧ ∀ item ∈ items, IsTextPart py item

variable {py} {nonObject : Json → String} {content item : Json} {items : List Json}

theorem exists_contentPart_ok :
    (∃ text, contentPart py nonObject item = .ok text) ↔ IsTextPart py item := by
  cases item with
  | obj fields =>
    simp only [contentPart, IsTextPart, Json.obj.injEq, exists_and_left, exists_eq_left',
      List.mem_cons, List.not_mem_nil, or_false]
    split
    · next text htext => split_ifs with hkind <;> simp_all
    · next hother =>
      constructor
      · rintro ⟨text, h⟩
        cases h
      · rintro ⟨-, text, htext⟩
        exact absurd htext (hother text)
  | null | bool | number | str | arr => simp [contentPart, IsTextPart]

/-- What a part that is no object is reported as does not matter to its text. -/
theorem toOption_contentPart (nonObject nonObject' : Json → String) (item : Json) :
    (contentPart py nonObject item).toOption = (contentPart py nonObject' item).toOption := by
  cases item with
  | obj fields => rfl
  | null | bool | number | str | arr => rfl

theorem unsupportedParts_eq_nil :
    unsupportedParts py nonObject items = [] ↔ ∀ item ∈ items, IsTextPart py item := by
  rw [unsupportedParts, List.filterMap_eq_nil_iff]
  refine forall₂_congr fun item _ => ?_
  rw [← @exists_contentPart_ok py nonObject item]
  cases contentPart py nonObject item with
  | ok text => simp
  | error kind => simp

theorem length_contentParts (h : ∀ item ∈ items, IsTextPart py item) :
    (contentParts py nonObject items).length = items.length := by
  induction items with
  | nil => rfl
  | cons item items ih =>
    obtain ⟨text, htext⟩ := exists_contentPart_ok.mpr (h item List.mem_cons_self)
    have hrest := ih fun item hitem => h item (List.mem_cons_of_mem _ hitem)
    rw [contentParts, List.filterMap_cons_some (b := text) (by rw [htext]; rfl), List.length_cons,
      List.length_cons]
    exact congrArg (· + 1) hrest

theorem contentParts_eq (nonObject nonObject' : Json → String) (items : List Json) :
    contentParts py nonObject items = contentParts py nonObject' items := by
  unfold contentParts
  simp only [toOption_contentPart nonObject nonObject']

/-- Parts are read when there is one and each of them is a text. -/
theorem textOfParts_eq_some {sep text : String} :
    textOfParts py nonObject sep items = some text ↔ items ≠ [] ∧ (∀ item ∈ items, IsTextPart py item) ∧
      joinStr sep (contentParts py nonObject items) = text := by
  have hcond : (!(contentParts py nonObject items).isEmpty &&
      (unsupportedParts py nonObject items).isEmpty) = true ↔
      items ≠ [] ∧ ∀ item ∈ items, IsTextPart py item := by
    rw [Bool.and_eq_true, Bool.not_eq_true', List.isEmpty_eq_false_iff, List.isEmpty_iff,
      unsupportedParts_eq_nil]
    refine and_congr_left fun htexts => not_congr ?_
    rw [← List.length_eq_zero_iff, ← List.length_eq_zero_iff, length_contentParts htexts]
  unfold textOfParts
  dsimp only
  split
  · next h =>
    obtain ⟨hne, htexts⟩ := hcond.mp h
    exact ⟨fun heq => ⟨hne, htexts, Option.some.inj heq⟩, fun heq => congrArg some heq.2.2⟩
  · next h =>
    refine iff_of_false (by simp) fun ⟨hne, htexts, _⟩ => h (hcond.mpr ⟨hne, htexts⟩)

/-! ### What is put between the texts -/

theorem length_toList_joinStr_le (sep : String) (parts : List String) :
    (joinStr "" parts).toList.length ≤ (joinStr sep parts).toList.length := by
  unfold joinStr
  induction parts with
  | nil => simp
  | cons part parts ih =>
    cases parts with
    | nil => simp
    | cons part' parts =>
      simp only [String.intercalate_cons_cons, String.toList_append, List.length_append] at ih ⊢
      simp only [String.toList_empty, List.length_nil]
      omega

/-- Two texts or more are not the same with a separator as without one. -/
theorem joinStr_ne {sep : String} (hsep : sep ≠ "") {parts : List String} (h : 2 ≤ parts.length) :
    joinStr sep parts ≠ joinStr "" parts := by
  match parts with
  | part :: part' :: parts =>
    intro heq
    have hlen := congrArg (fun text : String => text.toList.length) heq
    have hrest := length_toList_joinStr_le sep (part' :: parts)
    have hpos : 0 < sep.toList.length := by
      rw [List.length_pos_iff]
      exact fun hnil => hsep (String.toList_eq_nil_iff.mp hnil)
    unfold joinStr at hlen hrest
    simp only [String.intercalate_cons_cons, String.toList_append, List.length_append,
      String.toList_empty, List.length_nil] at hlen
    omega

theorem joinStr_eq_of_length_le_one (sep : String) {parts : List String} (h : parts.length ≤ 1) :
    joinStr sep parts = joinStr "" parts := by
  match parts with
  | [] => rfl
  | [part] => simp [joinStr]
  | _ :: _ :: _ => simp at h

/-! ### The readers compared -/

theorem normalizeMessageContent_arr_ok {text : Option String} :
    normalizeMessageContent py (.arr items) = .ok text ↔ ∃ t, text = some t ∧
      textOfParts py typeName "\n" items = some t := by
  simp only [normalizeMessageContent]
  cases textOfParts py typeName "\n" items with
  | none => simp
  | some t => simp [eq_comm]

theorem messageContentToText_arr_ok {text : String} :
    messageContentToText py (.arr items) = .ok text ↔
      textOfParts py (fun _ => "<non-object>") "" items = some text := by
  simp only [messageContentToText]
  cases textOfParts py (fun _ => "<non-object>") "" items with
  | none => simp
  | some t => simp

/-- The two accept the same contents. -/
theorem accepts_iff (py : Builtins) (content : Json) :
    (∃ text, normalizeMessageContent py content = .ok text) ↔
      ∃ text, messageContentToText py content = .ok text := by
  cases content with
  | null | str => exact iff_of_true ⟨_, rfl⟩ ⟨_, rfl⟩
  | bool | number | obj => exact iff_of_false (fun ⟨_, h⟩ => nomatch h) fun ⟨_, h⟩ => nomatch h
  | arr items =>
    simp only [normalizeMessageContent_arr_ok, messageContentToText_arr_ok, textOfParts_eq_some]
    constructor
    · rintro ⟨_, _, -, hne, htexts, -⟩
      exact ⟨_, hne, htexts, rfl⟩
    · rintro ⟨_, hne, htexts, -⟩
      exact ⟨_, _, rfl, hne, htexts, rfl⟩

/-- The SDK and the facade read every content alike but a list of several texts. -/
theorem readAlike_iff (py : Builtins) (content : Json) (hnull : content ≠ .null) :
    ReadAlike py content ↔ ¬ SeveralTexts py content := by
  constructor
  · rintro halike ⟨items, rfl, hlen, htexts⟩
    have hne : items ≠ [] := List.ne_nil_of_length_pos (by omega)
    have hsame := halike.text _ _ (normalizeMessageContent_arr_ok.mpr
        ⟨_, rfl, textOfParts_eq_some.mpr ⟨hne, htexts, rfl⟩⟩)
      (messageContentToText_arr_ok.mpr (textOfParts_eq_some.mpr ⟨hne, htexts, rfl⟩))
    rw [contentParts_eq (fun _ => "<non-object>") typeName] at hsame
    refine @joinStr_ne "\n" (by decide) _ ?_ (Option.some.inj hsame)
    rwa [length_contentParts htexts]
  · intro hseveral
    refine ⟨accepts_iff py content, fun text text' hsdk hfacade => ?_⟩
    cases content with
    | null => contradiction
    | str value =>
      obtain rfl := Except.ok.inj hsdk
      obtain rfl := Except.ok.inj hfacade
      rfl
    | bool | number | obj => cases hsdk
    | arr items =>
      obtain ⟨t, rfl, hparts⟩ := normalizeMessageContent_arr_ok.mp hsdk
      obtain ⟨hne, htexts, rfl⟩ := textOfParts_eq_some.mp hparts
      obtain ⟨-, -, rfl⟩ := textOfParts_eq_some.mp (messageContentToText_arr_ok.mp hfacade)
      rw [contentParts_eq (fun _ => "<non-object>") typeName]
      refine congrArg some (joinStr_eq_of_length_le_one _ ?_)
      rw [length_contentParts htexts]
      by_contra hlen
      exact hseveral ⟨items, rfl, by omega, htexts⟩

def textPart (text : String) : Json := .obj [("type", .str "text"), ("text", .str text)]

theorem readAlike_iff_look : ReadAlike artifactBuiltins (.arr [textPart "look"]) := by
  refine (readAlike_iff artifactBuiltins (.arr [textPart "look"]) (fun h => nomatch h)).mpr ?_
  rintro ⟨items, hitems, hlen, -⟩
  obtain rfl := Json.arr.inj hitems
  exact absurd hlen (by decide)

/-- A message in two parts is read with a line break by the SDK and without one by the facade. -/
theorem not_readAlike :
    ¬ ∀ content : Json, content ≠ .null → ReadAlike artifactBuiltins content := by
  intro h
  have hsame := (h (.arr [textPart "hel", textPart "lo"]) fun h => nomatch h).text (some "hel\nlo") "hello"
    rfl rfl
  exact absurd hsame (by decide)

end Gpucall
