import Gpucall.Execution.ModalStream
import Gpucall.JsonLoads
import Gpucall.Text

/-! Streamed text on its way from a Modal worker to the caller of `/v1/chat/completions`:
`ModalAdapter.stream` frames it, and `openai_stream_chunks` of `openai_facade/responses.py` makes
chunks of the frames. -/

namespace Gpucall

def StreamItem.text : StreamItem → List Char
  | heartbeat => []
  | chunk text => text.toList

/-- `chunk.get(key)` of an object -/
def Json.field? (key : String) : Json → Option Json
  | .obj fields => fields.lookup key
  | _ => none

/-- The surroundings of a response: its model and stream id, the reading of the clock, on which nothing
depends, and the recursion limit that `json.loads` meets. -/
structure StreamContext where
  model : String
  streamId : String
  created : ℕ
  recursionLimit : ℕ

namespace StreamContext

variable (ctx : StreamContext)

/-- `openai_stream_chunk` -/
def openaiStreamChunk (content : String) (role finishReason : Option String) : Json :=
  let delta := (role.map fun role => ("role", Json.str role)).toList ++
    if content ≠ "" then [("content", Json.str content)] else []
  .obj [("id", .str ctx.streamId), ("object", .str "chat.completion.chunk"),
    ("created", .number (toString ctx.created)), ("model", .str ctx.model),
    ("choices", .arr [.obj [("index", .number "0"), ("delta", .obj delta),
      ("finish_reason", finishReason.elim .null .str)]])]

/-- `_openai_chunk_is_terminal` -/
def openaiChunkIsTerminal (chunk : Json) : Bool :=
  match chunk.field? "choices" with
  | some (.arr choices) => choices.any fun choice =>
      match choice.field? "finish_reason" with
      | none | some .null => false
      | some _ => true
  | _ => false

/-- A chunk of the worker, under the name of this stream. -/
def passThrough (fields : List (String × Json)) : List (String × Json) :=
  fields |> Json.setField "id" (.str ctx.streamId)
    |> Json.setDefault "object" (.str "chat.completion.chunk")
    |> Json.setDefault "created" (.number (toString ctx.created))
    |> Json.setField "model" (.str ctx.model)

/-- The chunks of the data of a line, each with whether it is terminal, and whether the text has started
then. Only an error other than `JSONDecodeError` leaves the generator. -/
def dataChunks (alreadyStarted : Bool) (rawData : String) :
    Except Json.LoadsError (List (Json × Bool) × Bool) :=
  if rawData = "" || rawData = "[DONE]" then .ok ([], alreadyStarted)
  else
    match Json.loads ctx.recursionLimit rawData with
    | .ok (.obj fields) =>
      if fields.any (·.1 = "choices") then
        let chunk := Json.obj (ctx.passThrough fields)
        .ok ([(chunk, openaiChunkIsTerminal chunk)], alreadyStarted)
      else .ok ([], alreadyStarted)
    | .error .other => .error .other
    | .ok _ | .error .decode =>
      let role :=
        if alreadyStarted then [] else [(ctx.openaiStreamChunk "" (some "assistant") none, false)]
      .ok (role ++ [(ctx.openaiStreamChunk rawData none none, false)], true)

def lineChunks (alreadyStarted : Bool) (line : String) :
    Except Json.LoadsError (List (Json × Bool) × Bool) :=
  if startswith line "data:" then ctx.dataChunks alreadyStarted (strip (removePrefix line "data:"))
  else .ok ([], alreadyStarted)

/-- The chunks that were yielded, and whether an error came then. -/
def chunksOfLines (alreadyStarted : Bool) : List String → List (Json × Bool) × Bool
  | [] => ([], false)
  | line :: lines =>
    match ctx.lineChunks alreadyStarted line with
    | .error _ => ([], true)
    | .ok (emitted, started) =>
      let (rest, raised) := chunksOfLines started lines
      (emitted ++ rest, raised)

def openaiStreamChunks (event : String) (alreadyStarted : Bool) : List (Json × Bool) × Bool :=
  ctx.chunksOfLines alreadyStarted (splitlines event)

/-- The loop of the handler over the events. -/
def translate (yielded : Bool) : List String → List (Json × Bool) × Bool
  | [] => ([], false)
  | event :: events =>
    match ctx.openaiStreamChunks event yielded with
    | (emitted, true) => (emitted, true)
    | (emitted, false) =>
      let (rest, raised) := translate (yielded || !emitted.isEmpty) events
      (emitted ++ rest, raised)

/-- The chunks that the handler makes of the events. -/
def translated (events : List String) : List Json := (ctx.translate false events).1.map Prod.fst

/-- All chunks of a response. The handler closes a stream that ended without a terminal chunk. -/
def responseChunks (events : List String) : List Json :=
  let (emitted, raised) := ctx.translate false events
  emitted.map Prod.fst ++
    if raised || emitted.any (·.2) then [] else [ctx.openaiStreamChunk "" none (some "stop")]

end StreamContext

/-- `choices[0].delta` -/
def deltaOf (chunk : Json) : Option Json :=
  match chunk.field? "choices" with
  | some (.arr (choice :: _)) => choice.field? "delta"
  | _ => none

/-- The text of `choices[0].delta.content` -/
def deltaContent (chunk : Json) : List Char :=
  match (deltaOf chunk).bind (Json.field? "content") with
  | some (.str text) => text.toList
  | _ => []

def carriesRole (chunk : Json) : Bool :=
  match (deltaOf chunk).bind (Json.field? "role") with
  | some (.str role) => role = "assistant"
  | _ => false

def textOf (chunks : List Json) : List Char := chunks.flatMap deltaContent

/-- The first one, if there is one, and no other. -/
inductive ExactlyFirst (p : α → Bool) : List α → Prop where
  | nil : ExactlyFirst p []
  | cons (hfirst : p a = true) (hrest : ∀ b ∈ l, p b = false) : ExactlyFirst p (a :: l)

/-! ## Framing -/

/-- One line without space around it. -/
def OneLine (text : String) : Prop := (∀ c ∈ text.toList, isLineBreak c = false) ∧ strip text = text

namespace StreamContext

variable {ctx : StreamContext} {text : String} {started : Bool}

theorem splitlines_event (h : OneLine text) :
    splitlines (StreamItem.chunk text).event = ["data: " ++ text, ""] := by
  have hlines : linesFrom [] ("data: " ++ text ++ "\n\n").toList =
      [("data: " ++ text).toList, []] := by
    rw [String.toList_append, linesFrom_append]
    · rfl
    · intro c hc
      rw [String.toList_append, List.mem_append] at hc
      obtain hc | hc := hc
      · revert c
        decide
      · exact h.1 c hc
  unfold splitlines StreamItem.event
  rw [hlines, List.map_cons, String.ofList_toList]
  rfl

theorem lineChunks_data (h : OneLine text) :
    ctx.lineChunks started ("data: " ++ text) = ctx.dataChunks started text := by
  have hstart : startswith ("data: " ++ text) "data:" = true := by
    simp [startswith]
  have hdata : removePrefix ("data: " ++ text) "data:" = " " ++ text := by
    unfold removePrefix
    rw [if_pos hstart]
    simp
  rw [lineChunks, if_pos hstart, hdata, strip_space, h.2]

theorem openaiStreamChunks_chunk (h : OneLine text) {emitted : List (Json × Bool)} {started' : Bool}
    (hdata : ctx.dataChunks started text = .ok (emitted, started')) :
    ctx.openaiStreamChunks (StreamItem.chunk text).event started = (emitted, false) := by
  have hempty : ctx.lineChunks started' "" = .ok ([], started') := rfl
  simp [openaiStreamChunks, splitlines_event h, chunksOfLines, lineChunks_data h, hdata, hempty]

theorem openaiStreamChunks_heartbeat :
    ctx.openaiStreamChunks StreamItem.heartbeat.event started = ([], false) := by
  have hlines : splitlines StreamItem.heartbeat.event = [": heartbeat", ""] := by decide
  rw [openaiStreamChunks, hlines]
  rfl

/-! ## Chunks -/

variable (ctx) in
/-- What reaches the caller of a one-line text: nothing of the end mark and of an object that is no
chunk, the own text of a chunk. -/
def delivered (text : String) : List Char :=
  if text = "[DONE]" then []
  else
    match Json.loads ctx.recursionLimit text with
    | .ok (.obj fields) => if fields.any (·.1 = "choices") then deltaContent (.obj fields) else []
    | _ => text.toList

variable (ctx) in
def deliveredItem : StreamItem → List Char
  | .heartbeat => []
  | .chunk text => ctx.delivered text

variable (ctx) in
/-- The text is a chunk of its own. -/
def IsChunk (text : String) : Prop :=
  ∃ fields, Json.loads ctx.recursionLimit text = .ok (.obj fields) ∧
    fields.any (·.1 = "choices") = true

theorem deltaContent_passThrough (fields : List (String × Json)) :
    deltaContent (.obj (ctx.passThrough fields)) = deltaContent (.obj fields) := by
  have hchoices : (Json.obj (ctx.passThrough fields)).field? "choices" =
      (Json.obj fields).field? "choices" := by
    simp only [Json.field?, passThrough]
    rw [Json.lookup_setField (by decide), Json.lookup_setDefault (by decide), Json.lookup_setDefault (by decide),
      Json.lookup_setField (by decide)]
  unfold deltaContent deltaOf
  rw [hchoices]

theorem deltaContent_role : deltaContent (ctx.openaiStreamChunk "" (some "assistant") none) = [] := rfl

theorem deltaContent_text (hne : text ≠ "") :
    deltaContent (ctx.openaiStreamChunk text none none) = text.toList := by
  simp [openaiStreamChunk, deltaContent, deltaOf, Json.field?, hne, List.lookup_cons]

theorem carriesRole_role : carriesRole (ctx.openaiStreamChunk "" (some "assistant") none) = true := rfl

theorem carriesRole_text : carriesRole (ctx.openaiStreamChunk text none none) = false := by
  by_cases hne : text = "" <;>
    simp [openaiStreamChunk, carriesRole, deltaOf, Json.field?, hne, List.lookup_cons]

/-- Before the text has started exactly the first chunk carries the role, and later none. -/
def RoleFirst (started : Bool) (chunks : List Json) : Prop :=
  if started then ∀ chunk ∈ chunks, carriesRole chunk = false else ExactlyFirst carriesRole chunks

theorem RoleFirst.append {chunks later : List Json} (h : RoleFirst started chunks)
    (hlater : RoleFirst (started || !chunks.isEmpty) later) : RoleFirst started (chunks ++ later) := by
  cases started with
  | true => exact List.forall_mem_append.mpr ⟨h, hlater⟩
  | false =>
    cases chunks with
    | nil => exact hlater
    | cons first chunks =>
      obtain ⟨⟩ | ⟨hfirst, hrest⟩ : ExactlyFirst carriesRole (first :: chunks) := h
      exact .cons hfirst (List.forall_mem_append.mpr ⟨hrest, hlater⟩)

variable (started) in
/-- The chunks of a text that is no object. -/
theorem dataChunks_text (hne : text ≠ "") (hdone : text ≠ "[DONE]")
    (hloads : Json.loads ctx.recursionLimit text ≠ .error .other)
    (hobj : ∀ fields, Json.loads ctx.recursionLimit text ≠ .ok (.obj fields)) :
    ctx.dataChunks started text = .ok ((if started then [] else
      [(ctx.openaiStreamChunk "" (some "assistant") none, false)]) ++
        [(ctx.openaiStreamChunk text none none, false)], true) ∧
    ctx.delivered text = text.toList := by
  unfold dataChunks delivered
  simp only [hne, hdone, decide_false, Bool.or_self, Bool.false_eq_true, if_false]
  split
  · next heq => exact absurd heq (hobj _)
  · next heq => exact absurd heq hloads
  · next heq => simp
  · next heq => simp

theorem roleFirst_nil : RoleFirst started [] := by
  cases started with
  | true => exact List.forall_mem_nil _
  | false => exact .nil

theorem dataChunks_spec (hloads : Json.loads ctx.recursionLimit text ≠ .error .other) :
    ∃ emitted started', ctx.dataChunks started text = .ok (emitted, started') ∧
      textOf (emitted.map Prod.fst) = ctx.delivered text ∧
      (¬ctx.IsChunk text → RoleFirst started (emitted.map Prod.fst)) := by
  by_cases hne : text = ""
  · subst hne
    have hempty : Json.loads ctx.recursionLimit "" = .error .decode := rfl
    refine ⟨[], started, rfl, ?_, fun _ => roleFirst_nil⟩
    simp [textOf, delivered, hempty]
  by_cases hdone : text = "[DONE]"
  · subst hdone
    exact ⟨[], started, rfl, rfl, fun _ => roleFirst_nil⟩
  by_cases hobj : ∃ fields, Json.loads ctx.recursionLimit text = .ok (.obj fields)
  · obtain ⟨fields, hfields⟩ := hobj
    cases hchoices : fields.any (·.1 = "choices") with
    | true =>
      let chunk := Json.obj (ctx.passThrough fields)
      refine ⟨[(chunk, openaiChunkIsTerminal chunk)], started, ?_, ?_, fun hchunk => ?_⟩
      · simp [chunk, dataChunks, hne, hdone, hfields, hchoices]
      · simp [chunk, textOf, delivered, hdone, hfields, hchoices, deltaContent_passThrough]
      · exact absurd ⟨fields, hfields, hchoices⟩ hchunk
    | false =>
      refine ⟨[], started, ?_, ?_, fun _ => roleFirst_nil⟩
      · simp [dataChunks, hne, hdone, hfields, hchoices]
      · simp [textOf, delivered, hdone, hfields, hchoices]
  · obtain ⟨hdata, hdelivered⟩ :=
      dataChunks_text started hne hdone hloads (not_exists.mp hobj)
    refine ⟨_, _, hdata, ?_, fun _ => ?_⟩
    · rw [hdelivered]
      cases started <;> simp [textOf, deltaContent_role, deltaContent_text hne]
    · cases started with
      | true => simp [RoleFirst, carriesRole_text]
      | false => exact .cons carriesRole_role (by simp [carriesRole_text])

variable (started) in
theorem openaiStreamChunks_spec (item : StreamItem)
    (hlines : ∀ text, item = .chunk text → OneLine text ∧
      Json.loads ctx.recursionLimit text ≠ .error .other) :
    ∃ emitted, ctx.openaiStreamChunks item.event started = (emitted, false) ∧
      textOf (emitted.map Prod.fst) = ctx.deliveredItem item ∧
      ((∀ text, item = .chunk text → ¬ctx.IsChunk text) →
        RoleFirst started (emitted.map Prod.fst)) := by
  cases item with
  | heartbeat => exact ⟨[], openaiStreamChunks_heartbeat, rfl, fun _ => roleFirst_nil⟩
  | chunk text =>
    obtain ⟨hline, hloads⟩ := hlines text rfl
    obtain ⟨emitted, started', hdata, htext, hrole⟩ := dataChunks_spec hloads
    exact ⟨emitted, openaiStreamChunks_chunk hline hdata, htext, fun hchunk => hrole (hchunk text rfl)⟩

variable (started) in
/-- The translation of items whose texts are one line each. -/
theorem translate_spec {items : List StreamItem}
    (hlines : ∀ text, .chunk text ∈ items → OneLine text ∧
      Json.loads ctx.recursionLimit text ≠ .error .other) :
    ∃ emitted, ctx.translate started (items.map StreamItem.event) = (emitted, false) ∧
      textOf (emitted.map Prod.fst) = items.flatMap ctx.deliveredItem ∧
      ((∀ text, .chunk text ∈ items → ¬ctx.IsChunk text) →
        RoleFirst started (emitted.map Prod.fst)) := by
  induction items generalizing started with
  | nil => exact ⟨[], rfl, rfl, fun _ => roleFirst_nil⟩
  | cons item items ih =>
    obtain ⟨first, hfirst, hfirstText, hfirstRole⟩ :=
      openaiStreamChunks_spec started item fun text heq => hlines text (by simp [heq])
    obtain ⟨rest, hrest, hrestText, hrestRole⟩ :=
      ih (started || !first.isEmpty) fun text hmem => hlines text (by simp [hmem])
    refine ⟨first ++ rest, ?_, ?_, fun hchunk => ?_⟩
    · simp [translate, hfirst, hrest]
    · rw [List.map_append, List.flatMap_cons, ← hfirstText, ← hrestText]
      exact List.flatMap_append
    · rw [List.map_append]
      refine (hfirstRole fun text heq => hchunk text (by simp [heq])).append ?_
      have hlater := hrestRole fun text hmem => hchunk text (by simp [hmem])
      rwa [List.isEmpty_map]

end StreamContext

/-- A response of the gateway, with the default recursion limit. -/
def autoContext : StreamContext where
  model := "gpucall:auto"
  streamId := "chatcmpl-1"
  created := 1767225600
  recursionLimit := 1000

/-- `json.loads` raises an error of another kind. -/
def raisesOther : Except Json.LoadsError Json → Bool
  | .error .other => true
  | _ => false

def hasChoices : Json → Bool
  | .obj fields => fields.any (·.1 = "choices")
  | _ => false

theorem ne_other_of_raisesOther {x : Except Json.LoadsError Json} (h : raisesOther x = false) :
    x ≠ .error .other := by
  rintro rfl
  cases h

theorem not_isChunk_of_hasChoices {ctx : StreamContext} {text : String}
    (h : (Json.loads ctx.recursionLimit text).toOption.any hasChoices = false) :
    ¬ctx.IsChunk text := by
  rintro ⟨fields, hfields, hchoices⟩
  rw [hfields] at h
  exact Bool.false_ne_true (h.symm.trans hchoices)

def helloItems : List StreamItem :=
  [.heartbeat, .chunk "Hello,", .heartbeat, .chunk "7", .chunk "times"]

end Gpucall
