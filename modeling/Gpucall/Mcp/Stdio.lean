import Gpucall.Lib.OptionList
import Gpucall.Lib.StepRun
import Gpucall.Mcp.Server

/-! The stdio transport of the MCP server: one line of input after another, each with at most one request to the
gateway and at most one line of output. -/

namespace Gpucall

namespace Mcp

open Json (LoadsError)

/-! ## The loop -/

def parseError : Json :=
  .obj [("jsonrpc", .str "2.0"), ("id", .null),
    ("error", .obj [("code", .number "-32700"), ("message", .str "parse error")])]

/-- What `serve_stdio` does with a line. -/
inductive LinePlan where
  | skip
  | parseError
  | message (plan : Plan)
  | raises

def linePlan (py : Interpreter) (server : Server) (line : String) : LinePlan :=
  let line := strip line
  if line = "" then .skip
  else
    match py.loads line with
    | .error .decode => .parseError
    | .error .other => .raises
    | .ok message => .message (handleMessage py server message)

/-- What the server has done so far, and the state of its client. -/
structure Session (σ : Type) where
  client : σ
  exchanged : List (HttpCall × HttpOutcome) := []
  written : List String := []

def Session.write (session : Session σ) (text : String) : Session σ :=
  { session with written := session.written ++ [text] }

/-- `writer.write(json.dumps(response, ..) + "\n")` -/
def writeResponse (py : Interpreter) (layout : Json.Layout) (response : Json) (session : Session σ) :
    Session σ × Except Unit Unit :=
  match py.dumps layout response with
  | some text => (session.write (text ++ "\n"), .ok ())
  | none => (session, .error ())

variable (py : Interpreter) (server : Server) (client : σ → HttpCall → HttpOutcome × σ)

def request (call : HttpCall) (session : Session σ) : HttpOutcome × Session σ :=
  let (outcome, next) := client session.client call
  (outcome, { session with client := next, exchanged := session.exchanged ++ [(call, outcome)] })

/-- The loop of `serve_stdio` for one line; its error is an exception that nothing catches. -/
def serveLine (line : String) (session : Session σ) : Session σ × Except Unit Unit :=
  match linePlan py server line with
  | .skip => (session, .ok ())
  | .parseError => writeResponse py {} parseError session
  | .raises => (session, .error ())
  | .message .silent => (session, .ok ())
  | .message .raises => (session, .error ())
  | .message (.answer response) => writeResponse py { ensureAscii := false } response session
  | .message (.request messageId call) =>
    let (outcome, session) := request client call session
    match answerOutcome py server messageId outcome with
    | some response => writeResponse py { ensureAscii := false } response session
    | none => (session, .error ())

/-- `serve_stdio` on the lines of its input -/
def serveStdio (lines : List String) (session : Session σ) : Session σ × Except Unit Unit :=
  StepRun.run (serveLine py server client) lines session

/-! ## What the other side sees -/

/-- `message.get(name)` -/
def get (message : List (String × Json)) (name : String) : Json := (message.lookup name).getD .null

/-- The methods that are answered whatever the id is. -/
def answeredMethods : List String := ["initialize", "ping", "tools/list", "tools/call"]

/-- The message is a request, and not only a notification. -/
def IsRequest (message : List (String × Json)) : Prop :=
  (∃ method ∈ answeredMethods, get message "method" = .str method) ∨
    get message "method" ≠ .str "notifications/initialized" ∧ get message "id" ≠ .null

/-- The line wants an answer: it holds a request, or it cannot be read. -/
def Asks (line : String) : Prop :=
  strip line ≠ "" ∧ (py.loads (strip line) = .error .decode ∨
    ∃ message, py.loads (strip line) = .ok (.obj message) ∧ IsRequest message)

/-- The id of the message that the line holds -/
def idOf (line : String) : Json :=
  match py.loads (strip line) with
  | .ok (.obj message) => get message "id"
  | _ => .null

/-- A response of JSON-RPC, which has either a result or an error. -/
inductive IsResponse (messageId : Json) : Json → Prop
  | result (value : Json) : IsResponse messageId (result messageId value)
  | error (code message : String) : IsResponse messageId (error messageId code message)

/-- The line calls the tool with the arguments. -/
def CallsTool (line name : String) (arguments : List (String × Json)) : Prop :=
  ∃ message params, py.loads (strip line) = .ok (.obj message) ∧ get message "method" = .str "tools/call" ∧
    get message "params" = .obj params ∧ strOrEmpty py.builtins (params.lookup "name") = name ∧
    ((params.lookup "arguments").filter Json.truthy).getD (.obj []) = .obj arguments

/-- The endpoint of the gateway that a tool stands for. -/
inductive ToolRequest (arguments : List (String × Json)) : String → HttpCall → Prop
  | estimate : ToolRequest arguments "gpucall_estimate"
      { method := "POST", path := "/v2/estimate", json := some (.obj arguments) }
  | submit {mode : String} (hstream : mode ≠ "stream") :
      ToolRequest arguments "gpucall_submit_task"
        { method := "POST", path := "/v2/tasks/" ++ mode, json := some (.obj arguments) }
  | status {job : String} (hempty : job ≠ "") :
      ToolRequest arguments "gpucall_job_status" { method := "GET", path := "/v2/jobs/" ++ job }
  | cancel {job : String} (hempty : job ≠ "") :
      ToolRequest arguments "gpucall_cancel_job" { method := "POST", path := "/v2/jobs/" ++ job ++ "/cancel" }
  | readiness : ToolRequest arguments "gpucall_readiness" { method := "GET", path := "/readyz/details" }
  | taxonomy : ToolRequest arguments "gpucall_failure_taxonomy" { method := "GET", path := "/v2/failure-taxonomy" }

/-- What is to be told of the outcome of a request, and whether as an error. -/
def told (server : Server) : HttpOutcome → Option (Json × Bool)
  | .response response =>
    some (.obj [("status_code", number response.statusCode), ("body", responsePayload response)],
      400 ≤ response.statusCode)
  | .httpError kind => some (unreachable server kind, true)
  | .raised => none

/-- The reply holds a text in which all that is told of the outcome can be read. -/
def Tells (messageId : Json) (outcome : HttpOutcome) (reply : Json) : Prop :=
  ∃ value isError text, told server outcome = some (value, isError) ∧
    reply = contentResult messageId text isError ∧ Json.loads py.recursionLimit text = .ok value

/-- What a line of input led to. -/
structure Exchange where
  line : String
  request : Option (HttpCall × HttpOutcome) := none
  reply : Option Json := none

structure Exchange.Valid (exchange : Exchange) : Prop where
  answered : exchange.reply.isSome ↔ Asks py exchange.line
  identified : ∀ reply ∈ exchange.reply, IsResponse (idOf py exchange.line) reply
  requested : ∀ call outcome, exchange.request = some (call, outcome) →
    (∃ name arguments, CallsTool py exchange.line name arguments ∧ ToolRequest arguments name call) ∧
      ∃ reply ∈ exchange.reply, Tells py server (idOf py exchange.line) outcome reply
  /-- No success is told that the gateway has not told. -/
  succeeded : ∀ messageId text, exchange.reply = some (contentResult messageId text false) →
    ∃ call response, exchange.request = some (call, .response response) ∧ response.statusCode < 400

/-- The line keeps the server running. -/
def Sound (line : String) : Prop :=
  strip line = "" ∨ py.loads (strip line) = .error .decode ∨
    ∃ message, py.loads (strip line) = .ok (.obj message) ∧ (get message "id").height < py.recursionLimit ∧
      (get message "method" = .str "tools/call" →
        (get message "params").truthy = false ∨ ∃ params, get message "params" = .obj params)

/-- The outcome keeps the server running. -/
def HttpOutcome.Sound : HttpOutcome → Prop
  | .response found => ∀ value, found.json = some value → value.height < py.recursionLimit
  | .httpError _ => True
  | .raised => False

/-- Why the server stops at the line, after the last of its requests: the line is to blame, or what came of its
request. -/
def Stops (line : String) (last : List (HttpCall × HttpOutcome)) : Prop :=
  last = [] ∧ ¬Sound py line ∨ ∃ call outcome, last = [(call, outcome)] ∧ (Sound py line → ¬outcome.Sound py)

/-- What a client reads in the output of the server, line by line -/
def readReplies (written : List String) : List (Except LoadsError Json) :=
  ((written.flatMap String.toList).splitOn '\n').dropLast.map fun line =>
    Json.loads py.recursionLimit (String.ofList line)

variable {py server client} {message : List (String × Json)} {messageId response : Json}
  {call : HttpCall} {name line : String} {arguments : List (String × Json)}

/-! ## One message -/

/-- An answer that the server gives without a request. -/
structure OwnAnswer (messageId response : Json) : Prop where
  isResponse : IsResponse messageId response
  wellFormed : messageId.WellFormed → response.WellFormed
  height_le : response.height ≤ max (messageId.height + 1) 8
  unsuccessful : ∀ messageId' text, response ≠ contentResult messageId' text false

theorem ownAnswer_error (code : String) (message : String) (hcode : Json.numberText code) :
    OwnAnswer messageId (error messageId code message) where
  isResponse := .error code message
  wellFormed h := by simp [error, Json.WellFormed, Json.FieldsWellFormed, h, hcode]
  height_le := by
    simp only [error, Json.height, Json.heightFields]
    omega
  unsuccessful _ _ := by simp [error, contentResult, result]

theorem ownAnswer_result {value : Json} (hvalue : value.WellFormed) (hdepth : value.height < 8)
    (hcontent : ∀ text, value ≠ .obj [("content", .arr [.obj [("type", .str "text"), ("text", .str text)]]),
      ("isError", .bool false)]) : OwnAnswer messageId (result messageId value) where
  isResponse := .result value
  wellFormed h := by simp [result, Json.WellFormed, Json.FieldsWellFormed, h, hvalue]
  height_le := by
    simp only [result, Json.height, Json.heightFields]
    omega
  unsuccessful _ text := by simp [contentResult, result, hcontent text]

theorem ownAnswer_toolError (text : String) : OwnAnswer messageId (toolError messageId text) where
  isResponse := .result _
  wellFormed h := by
    simp [toolError, contentResult, result, Json.WellFormed, Json.FieldsWellFormed, Json.ItemsWellFormed, h]
  height_le := by
    simp only [toolError, contentResult, result, Json.height, Json.heightFields, Json.heightItems]
    omega
  unsuccessful _ _ := by simp [toolError, contentResult, result]

theorem routeCall_answer {method : String} {template : PathTemplate}
    (h : routeCall py messageId arguments method template = .answer response) : OwnAnswer messageId response := by
  cases template with
  | plain path => cases h
  | job before after =>
    rw [routeCall] at h
    split at h
    · cases h
      exact ownAnswer_error _ _ (by decide)
    · cases h

theorem toolRequest_routeCall {method : String} {template : PathTemplate}
    (hroute : toolRoutes.lookup name = some (method, template))
    (h : routeCall py messageId arguments method template = .request call) : ToolRequest arguments name call := by
  have hmem := OptionList.mem_of_lookup hroute
  simp only [toolRoutes, List.mem_cons, List.not_mem_nil, or_false, Prod.mk.injEq] at hmem
  rcases hmem with ⟨rfl, rfl, rfl⟩ | ⟨rfl, rfl, rfl⟩ | ⟨rfl, rfl, rfl⟩ | ⟨rfl, rfl, rfl⟩
  · obtain ⟨hempty, rfl⟩ := request_of_job h
    simpa using ToolRequest.status hempty
  · obtain ⟨hempty, rfl⟩ := request_of_job h
    exact .cancel hempty
  · cases h
    exact .readiness
  · cases h
    exact .taxonomy
where
  request_of_job {method before after : String} {call : HttpCall}
      (h : routeCall py messageId arguments method (.job before after) = .request call) :
      strOrEmpty py.builtins (arguments.lookup "job_id") ≠ "" ∧
        { method, path := before ++ strOrEmpty py.builtins (arguments.lookup "job_id") ++ after } = call := by
    rw [routeCall] at h
    split at h
    · cases h
    · rename_i hempty
      exact ⟨hempty, ToolPlan.request.inj h⟩

theorem route_answer (h : toolsCall.route py server messageId name arguments = .answer response) :
    OwnAnswer messageId response := by
  unfold toolsCall.route at h
  split at h
  · cases h
    exact ownAnswer_error _ _ (by decide)
  split at h
  · cases h
  split at h
  · dsimp only at h
    split at h
    · cases h
      exact ownAnswer_toolError _
    · cases h
  split at h
  · exact routeCall_answer h
  · cases h
    exact ownAnswer_error _ _ (by decide)

theorem toolRequest_route (h : toolsCall.route py server messageId name arguments = .request call) :
    ToolRequest arguments name call := by
  unfold toolsCall.route at h
  split at h
  · cases h
  split at h
  · rename_i hname
    cases h
    exact hname ▸ .estimate
  split at h
  · rename_i hname
    dsimp only at h
    split at h
    · cases h
    · rename_i hstream
      cases h
      exact hname ▸ .submit hstream
  split at h
  · rename_i hroute
    exact toolRequest_routeCall hroute h
  · cases h

theorem toolsCall_answer {params : List (String × Json)}
    (h : toolsCall py server messageId params = .answer response) : OwnAnswer messageId response := by
  unfold toolsCall at h
  dsimp only at h
  split at h
  · exact route_answer h
  · exact route_answer h
  · cases h
    exact ownAnswer_error _ _ (by decide)

theorem toolRequest_toolsCall {params : List (String × Json)}
    (h : toolsCall py server messageId params = .request call) :
    ∃ arguments, ((params.lookup "arguments").filter Json.truthy).getD (.obj []) = .obj arguments ∧
      ToolRequest arguments (strOrEmpty py.builtins (params.lookup "name")) call := by
  unfold toolsCall at h
  dsimp only at h
  split at h
  · rename_i arguments harguments
    exact ⟨arguments, by rw [harguments]; rfl, toolRequest_route h⟩
  · rename_i harguments
    exact ⟨[], by rw [harguments]; rfl, toolRequest_route h⟩
  · cases h

theorem wellFormed_tools : Json.ItemsWellFormed tools := by
  simp [tools, tool, taskRequestSchema, jobIdSchema, emptySchema, property, Json.WellFormed, Json.FieldsWellFormed,
    Json.ItemsWellFormed]

theorem height_tools : Json.heightItems tools = 5 := by
  simp [tools, tool, taskRequestSchema, jobIdSchema, emptySchema, property, Json.height, Json.heightFields,
    Json.heightItems]

theorem ownAnswer_initialize : OwnAnswer messageId (result messageId (initializeResult server)) := by
  apply ownAnswer_result
  · simp [initializeResult, Json.WellFormed, Json.FieldsWellFormed]
  · simp [initializeResult, Json.height, Json.heightFields]
  · simp [initializeResult]

theorem ownAnswer_tools : OwnAnswer messageId (result messageId (.obj [("tools", .arr tools)])) := by
  apply ownAnswer_result
  · simp [Json.WellFormed, Json.FieldsWellFormed, wellFormed_tools]
  · simp [Json.height, Json.heightFields, height_tools]
  · simp

theorem ownAnswer_empty : OwnAnswer messageId (result messageId (.obj [])) := by
  apply ownAnswer_result
  · simp [Json.WellFormed, Json.FieldsWellFormed]
  · simp [Json.height, Json.heightFields]
  · simp

/-- What `handle_message` does with an object, branch by branch. -/
inductive Handled (py : Interpreter) (server : Server) (message : List (String × Json)) : Plan → Prop
  | answered {response : Json} (h : IsRequest message) (hown : OwnAnswer (get message "id") response) :
      Handled py server message (.answer response)
  | silent (h : ¬IsRequest message) : Handled py server message .silent
  | requested {params arguments : List (String × Json)} {call : HttpCall}
      (hmethod : get message "method" = .str "tools/call") (hparams : get message "params" = .obj params)
      (harguments : ((params.lookup "arguments").filter Json.truthy).getD (.obj []) = .obj arguments)
      (htool : ToolRequest arguments (strOrEmpty py.builtins (params.lookup "name")) call) :
      Handled py server message (.request (get message "id") call)
  | raises (hmethod : get message "method" = .str "tools/call") (htruthy : (get message "params").truthy = true)
      (hparams : ∀ params, get message "params" ≠ .obj params) : Handled py server message .raises

theorem isRequest_of_method {method : String} (hmem : method ∈ answeredMethods)
    (h : get message "method" = .str method) : IsRequest message := .inl ⟨method, hmem, h⟩

theorem ToolRequest.name_ne (h : ToolRequest arguments name call) : name ≠ "" := by
  cases h <;> decide

theorem handled_ofTool {params : List (String × Json)} (hmethod : get message "method" = .str "tools/call")
    (hparams : get message "params" = .obj params ∨ params = []) :
    Handled py server message (.ofTool (get message "id") (toolsCall py server (get message "id") params)) := by
  cases hplan : toolsCall py server (get message "id") params with
  | answer response => exact .answered (isRequest_of_method (by decide) hmethod) (toolsCall_answer hplan)
  | request call =>
    obtain ⟨arguments, harguments, htool⟩ := toolRequest_toolsCall hplan
    rcases hparams with hparams | rfl
    · exact .requested hmethod hparams harguments htool
    · -- without parameters there is no name of a tool
      exact absurd rfl htool.name_ne

theorem get_of_filter {value : Json} (h : (message.lookup name).filter Json.truthy = some value) :
    get message name = value ∧ value.truthy = true := by
  obtain ⟨hlookup, htruthy⟩ := Option.filter_eq_some_iff.mp h
  exact ⟨by rw [get, hlookup]; rfl, htruthy⟩

theorem handled_handleMessage : Handled py server message (handleMessage py server (.obj message)) := by
  have hget : ∀ key, (message.lookup key).getD .null = get message key := fun _ => rfl
  unfold handleMessage
  dsimp only
  rw [hget "method", hget "id"]
  split
  · rename_i hmethod
    exact .answered (isRequest_of_method (by decide) hmethod) ownAnswer_initialize
  · rename_i hmethod
    refine .silent fun hrequest => ?_
    rcases hrequest with ⟨method, hmem, h⟩ | ⟨hne, -⟩
    · obtain rfl := Json.str.inj (hmethod.symm.trans h)
      exact absurd hmem (by decide)
    · exact hne hmethod
  · rename_i hmethod
    exact .answered (isRequest_of_method (by decide) hmethod) ownAnswer_empty
  · rename_i hmethod
    exact .answered (isRequest_of_method (by decide) hmethod) ownAnswer_tools
  · rename_i hmethod
    split
    · rename_i params hparams
      exact handled_ofTool hmethod (.inl (get_of_filter hparams).1)
    · exact handled_ofTool hmethod (.inr rfl)
    · rename_i params hother hparams
      obtain ⟨hget, htruthy⟩ := get_of_filter hparams
      refine .raises hmethod (hget ▸ htruthy) fun fields heq => ?_
      exact hother fields (hget.symm.trans heq)
  · rename_i hinit hnotified hping hlist hcall
    have hunknown : ¬∃ method ∈ answeredMethods, get message "method" = .str method := by
      rintro ⟨method, hmem, h⟩
      simp only [answeredMethods, List.mem_cons, List.not_mem_nil, or_false] at hmem
      rcases hmem with rfl | rfl | rfl | rfl
      · exact hinit h
      · exact hping h
      · exact hlist h
      · exact hcall h
    split
    · rename_i hid
      exact .silent fun hrequest => hrequest.elim hunknown fun h => h.2 hid
    · rename_i hid
      exact .answered (.inr ⟨hnotified, hid⟩) (ownAnswer_error _ _ (by decide))

/-! ## The outcome of a request -/

theorem wellFormed_number {n : ℕ} (h : n < 1000) : (number n).WellFormed := by
  have hlength : n.repr.length ≤ 3 := (Nat.length_repr_le_iff (by decide)).mpr h
  rw [number, Json.WellFormed]
  exact Json.numberText_repr (hlength.trans (by decide))

theorem wellFormed_responsePayload (found : HttpResponse) : (responsePayload found).WellFormed := by
  unfold responsePayload
  cases hjson : found.json with
  | some value => exact found.fits value hjson
  | none => simp [Json.WellFormed, Json.FieldsWellFormed, wellFormed_number found.statusCode_lt]

theorem height_responsePayload {found : HttpResponse} (h : HttpOutcome.Sound py (.response found)) :
    (responsePayload found).height < py.recursionLimit := by
  have hdeep := py.recursionLimit_ge
  unfold responsePayload
  cases hjson : found.json with
  | some value => exact h value hjson
  | none =>
    simp only [Option.getD_none, Json.height, Json.heightFields, number]
    omega

theorem loads_dumps_of_unsorted {layout : Json.Layout} (hsort : layout.sortKeys = false) {value : Json} {text : String}
    (hvalue : value.WellFormed) (h : py.dumps layout value = some text) :
    Json.loads py.recursionLimit text = .ok value := by
  obtain ⟨hdepth, rfl⟩ := Interpreter.dumps_eq_some.mp h
  rw [Json.loads_dumpsText _ hvalue hdepth, Json.arranged_of_unsorted hsort]

theorem wellFormed_contentResult (h : messageId.WellFormed) (text : String) (isError : Bool) :
    (contentResult messageId text isError).WellFormed := by
  simp [contentResult, result, Json.WellFormed, Json.FieldsWellFormed, Json.ItemsWellFormed, h]

theorem height_contentResult (text : String) (isError : Bool) :
    (contentResult messageId text isError).height ≤ max (messageId.height + 1) 8 := by
  simp only [contentResult, result, Json.height, Json.heightFields, Json.heightItems]
  omega

theorem contentResult_inj {messageId messageId' : Json} {text text' : String} {isError isError' : Bool}
    (h : contentResult messageId text isError = contentResult messageId' text' isError') : isError = isError' := by
  simp only [contentResult, result, Json.obj.injEq, List.cons.injEq, Prod.mk.injEq, Json.bool.injEq] at h
  exact h.2.2.1.2.2.1.2

variable {outcome : HttpOutcome} {reply : Json}

theorem wellFormed_unreachable (server : Server) (kind : String) : (unreachable server kind).WellFormed := by
  simp [unreachable, Json.WellFormed, Json.FieldsWellFormed]

/-- What the server says of an outcome, it says in full. -/
theorem tells_answerOutcome (h : answerOutcome py server messageId outcome = some reply) :
    Tells py server messageId outcome reply := by
  cases outcome with
  | response found =>
    obtain ⟨text, htext, rfl⟩ := Option.map_eq_some_iff.mp h
    refine ⟨_, _, text, rfl, rfl, loads_dumps_of_unsorted rfl ?_ htext⟩
    simp [Json.WellFormed, Json.FieldsWellFormed, wellFormed_number found.statusCode_lt,
      wellFormed_responsePayload found]
  | httpError kind =>
    obtain ⟨text, htext, rfl⟩ := Option.map_eq_some_iff.mp h
    exact ⟨_, _, text, rfl, rfl, loads_dumps_of_unsorted rfl (wellFormed_unreachable server kind) htext⟩
  | raised => cases h

theorem not_sound_of_answerOutcome (h : answerOutcome py server messageId outcome = none) : ¬outcome.Sound py := by
  intro hsound
  cases outcome with
  | response found =>
    have hdeep := Interpreter.dumps_eq_none.mp (Option.map_eq_none_iff.mp h)
    have hpayload := height_responsePayload hsound
    simp only [Json.height, Json.heightFields, number] at hdeep
    omega
  | httpError kind =>
    have hdeep := Interpreter.dumps_eq_none.mp (Option.map_eq_none_iff.mp h)
    have hlimit := py.recursionLimit_ge
    simp only [unreachable, Json.height, Json.heightFields] at hdeep
    omega
  | raised => exact hsound

theorem Tells.success {messageId' : Json} {text : String} (h : Tells py server messageId outcome reply)
    (hreply : reply = contentResult messageId' text false) :
    ∃ found, outcome = .response found ∧ found.statusCode < 400 := by
  obtain ⟨value, isError, text', htold, rfl, -⟩ := h
  obtain rfl := contentResult_inj hreply
  cases outcome with
  | response found =>
    obtain ⟨-, hstatus⟩ := Prod.mk.inj (Option.some.inj htold)
    exact ⟨found, rfl, Nat.lt_of_not_le (of_decide_eq_false hstatus)⟩
  | httpError kind => cases (Prod.mk.inj (Option.some.inj htold)).2
  | raised => cases htold

/-! ## One line -/

theorem asks_iff (hline : strip line ≠ "") (hload : py.loads (strip line) = .ok (.obj message)) :
    Asks py line ↔ IsRequest message := by
  constructor
  · rintro ⟨-, herror | ⟨other, hother, hrequest⟩⟩
    · rw [hload] at herror
      cases herror
    · obtain rfl := Json.obj.inj (Except.ok.inj (hload.symm.trans hother))
      exact hrequest
  · exact fun hrequest => ⟨hline, .inr ⟨message, hload, hrequest⟩⟩

theorem idOf_eq (hload : py.loads (strip line) = .ok (.obj message)) : idOf py line = get message "id" := by
  rw [idOf, hload]

theorem get_wellFormed (h : (Json.obj message).WellFormed) (name : String) : (get message name).WellFormed := by
  rw [Json.WellFormed] at h
  cases hlookup : message.lookup name with
  | none =>
    rw [get, hlookup]
    simp [Json.WellFormed]
  | some value =>
    rw [get, hlookup]
    exact Json.fieldsWellFormed_iff.mp h.2 _ (OptionList.mem_of_lookup hlookup)

/-- The text is one line in which the reply can be read. -/
def Frames (py : Interpreter) (text : String) (reply : Json) : Prop :=
  ∃ body : String, text = body ++ "\n" ∧ '\n' ∉ body.toList ∧ Json.loads py.recursionLimit body = .ok reply

variable {session next : Session σ}

theorem frames_of_writeResponse {layout : Json.Layout} (hindent : layout.indent = none)
    (hsort : layout.sortKeys = false) (hreply : reply.WellFormed)
    (h : writeResponse py layout reply session = (next, .ok ())) :
    ∃ text, next = session.write text ∧ Frames py text reply := by
  unfold writeResponse at h
  split at h
  · rename_i body hbody
    have hloads := loads_dumps_of_unsorted hsort hreply hbody
    obtain ⟨-, rfl⟩ := Interpreter.dumps_eq_some.mp hbody
    exact ⟨_, (Prod.mk.inj h).1.symm, _, rfl, Json.newline_not_mem_dumpsText hindent hreply, hloads⟩
  · cases (Prod.mk.inj h).2

theorem writeResponse_error {layout : Json.Layout} (h : writeResponse py layout reply session = (next, .error ())) :
    next = session ∧ py.recursionLimit < reply.height := by
  unfold writeResponse at h
  split at h
  · cases (Prod.mk.inj h).2
  · rename_i hnone
    exact ⟨(Prod.mk.inj h).1.symm, Interpreter.dumps_eq_none.mp hnone⟩

/-- What one more exchange adds to what the server has done. -/
structure Adds (py : Interpreter) (server : Server) (line : String) (session next : Session σ) (exchange : Exchange)
    (texts : List String) : Prop where
  line_eq : exchange.line = line
  valid : exchange.Valid py server
  exchanged : next.exchanged = session.exchanged ++ exchange.request.toList
  written : next.written = session.written ++ texts
  frames : List.Forall₂ (Frames py) texts exchange.reply.toList

theorem adds_silent (h : ¬Asks py line) : Adds py server line session session { line } [] where
  line_eq := rfl
  valid :=
    { answered := by simpa using h
      identified := fun _ hreply => by cases hreply
      requested := fun _ _ hrequest => by cases hrequest
      succeeded := fun _ _ hreply => by cases hreply }
  exchanged := (List.append_nil _).symm
  written := (List.append_nil _).symm
  frames := .nil

theorem exists_adds_answer {layout : Json.Layout} (hindent : layout.indent = none) (hsort : layout.sortKeys = false)
    (hasks : Asks py line) (hown : OwnAnswer (idOf py line) response) (hid : (idOf py line).WellFormed)
    (h : writeResponse py layout response session = (next, .ok ())) :
    ∃ exchange texts, Adds py server line session next exchange texts := by
  obtain ⟨text, rfl, hframes⟩ := frames_of_writeResponse hindent hsort (hown.wellFormed hid) h
  refine ⟨{ line, reply := some response }, [text], rfl, ?_, (List.append_nil _).symm, rfl, .cons hframes .nil⟩
  exact
    { answered := by simpa using hasks
      identified := fun _ hreply => by
        obtain rfl := Option.some.inj hreply
        exact hown.isResponse
      requested := fun _ _ hrequest => by cases hrequest
      succeeded := fun _ _ hreply => absurd (Option.some.inj hreply) (hown.unsuccessful _ _) }

theorem exists_adds_request (hasks : Asks py line) (hid : (idOf py line).WellFormed)
    (htool : ∃ name arguments, CallsTool py line name arguments ∧ ToolRequest arguments name call)
    (htells : Tells py server (idOf py line) outcome reply) {asked : Session σ}
    (hasked : asked.exchanged = session.exchanged ++ [(call, outcome)]) (hwritten : asked.written = session.written)
    (h : writeResponse py { ensureAscii := false } reply asked = (next, .ok ())) :
    ∃ exchange texts, Adds py server line session next exchange texts := by
  have hreply : reply.WellFormed := by
    obtain ⟨value, isError, text, -, rfl, -⟩ := htells
    exact wellFormed_contentResult hid text isError
  obtain ⟨text, rfl, hframes⟩ := frames_of_writeResponse rfl rfl hreply h
  refine ⟨{ line, request := some (call, outcome), reply := some reply }, [text], rfl, ?_, hasked, ?_,
    .cons hframes .nil⟩
  · exact
      { answered := by simpa using hasks
        identified := fun _ hmem => by
          obtain rfl := Option.some.inj hmem
          obtain ⟨value, isError, text, -, rfl, -⟩ := htells
          exact .result _
        requested := fun _ _ hrequest => by
          obtain ⟨rfl, rfl⟩ := Prod.mk.inj (Option.some.inj hrequest)
          exact ⟨htool, reply, rfl, htells⟩
        succeeded := fun _ _ hmem => by
          obtain ⟨found, rfl, hstatus⟩ := htells.success (Option.some.inj hmem)
          exact ⟨call, found, rfl, hstatus⟩ }
  · rw [Session.write, hwritten]

theorem ownAnswer_parseError : OwnAnswer .null parseError := ownAnswer_error _ _ (by decide)

/-- What `serve_stdio` does with a line, branch by branch. -/
inductive Taken (py : Interpreter) (server : Server) (line : String) : LinePlan → Prop
  | blank (h : strip line = "") : Taken py server line .skip
  | unreadable (hline : strip line ≠ "") (h : py.loads (strip line) = .error .decode) :
      Taken py server line .parseError
  | fails (h : ¬Sound py line) : Taken py server line .raises
  | noObject (h : ¬Sound py line) : Taken py server line (.message .raises)
  | object {message : List (String × Json)} {plan : Plan} (hline : strip line ≠ "")
      (hload : py.loads (strip line) = .ok (.obj message)) (h : Handled py server message plan) :
      Taken py server line (.message plan)

theorem Sound.object (h : Sound py line) (hline : strip line ≠ "") {value : Json}
    (hload : py.loads (strip line) = .ok value) :
    ∃ message, value = .obj message ∧ (get message "id").height < py.recursionLimit ∧
      (get message "method" = .str "tools/call" →
        (get message "params").truthy = false ∨ ∃ params, get message "params" = .obj params) := by
  rcases h with h | h | ⟨message, hmessage, h⟩
  · exact absurd h hline
  · rw [hload] at h
    cases h
  · exact ⟨message, Except.ok.inj (hload.symm.trans hmessage), h⟩

theorem taken_linePlan : Taken py server line (linePlan py server line) := by
  unfold linePlan
  dsimp only
  by_cases hline : strip line = ""
  · rw [if_pos hline]
    exact .blank hline
  rw [if_neg hline]
  cases hload : py.loads (strip line) with
  | error e =>
    cases e with
    | decode => exact .unreadable hline hload
    | other =>
      refine .fails ?_
      rintro (h | h | ⟨message, h, -⟩)
      · exact hline h
      all_goals
        rw [hload] at h
        cases h
  | ok value =>
    cases value with
    | obj message => exact .object hline hload handled_handleMessage
    | _ =>
      refine .noObject fun h => ?_
      obtain ⟨_, hobject, -⟩ := h.object hline hload
      cases hobject

theorem wellFormed_idOf (hload : py.loads (strip line) = .ok (.obj message)) : (idOf py line).WellFormed := by
  rw [idOf_eq hload]
  exact get_wellFormed (Interpreter.loads_isValue hload).1.wellFormed "id"

theorem serveLine_ok (h : serveLine py server client line session = (next, .ok ())) :
    ∃ exchange texts, Adds py server line session next exchange texts := by
  have htaken : Taken py server line (linePlan py server line) := taken_linePlan
  unfold serveLine at h
  generalize linePlan py server line = plan at h htaken
  cases htaken with
  | blank hline =>
    obtain rfl := (Prod.mk.inj h).1
    exact ⟨_, _, adds_silent fun hasks => hasks.1 hline⟩
  | unreadable hline hload =>
    have hid : idOf py line = .null := by rw [idOf, hload]
    refine exists_adds_answer rfl rfl ⟨hline, .inl hload⟩ (hid ▸ ownAnswer_parseError) ?_ h
    rw [hid]
    simp [Json.WellFormed]
  | fails => cases (Prod.mk.inj h).2
  | noObject => cases (Prod.mk.inj h).2
  | object hline hload hhandled =>
    have hid := wellFormed_idOf hload
    cases hhandled with
    | answered hrequest hown =>
      exact exists_adds_answer rfl rfl ((asks_iff hline hload).mpr hrequest) (idOf_eq hload ▸ hown) hid h
    | silent hrequest =>
      obtain rfl := (Prod.mk.inj h).1
      exact ⟨_, _, adds_silent fun hasks => hrequest ((asks_iff hline hload).mp hasks)⟩
    | requested hmethod hparams harguments htool =>
      have hasks := (asks_iff hline hload).mpr (isRequest_of_method (by decide) hmethod)
      dsimp only at h
      split at h
      · rename_i hanswer
        have htells := idOf_eq hload ▸ tells_answerOutcome hanswer
        refine exists_adds_request hasks hid ⟨_, _, ⟨_, _, hload, hmethod, hparams, rfl, harguments⟩, htool⟩ htells
          ?_ ?_ h
        · rfl
        · rfl
      · cases (Prod.mk.inj h).2
    | raises => cases (Prod.mk.inj h).2

/-- Where the server stops, it has written nothing, and the line or what the gateway answered is to blame. -/
theorem serveLine_error (h : serveLine py server client line session = (next, .error ())) :
    next.written = session.written ∧
      ∃ last, next.exchanged = session.exchanged ++ last ∧ Stops py line last := by
  have hstop (hsound : ¬Sound py line) (hnext : next = session) : next.written = session.written ∧
      ∃ last, next.exchanged = session.exchanged ++ last ∧ Stops py line last :=
    ⟨hnext ▸ rfl, [], by rw [hnext, List.append_nil], .inl ⟨rfl, hsound⟩⟩
  have htaken : Taken py server line (linePlan py server line) := taken_linePlan
  unfold serveLine at h
  generalize linePlan py server line = plan at h htaken
  have hlimit := py.recursionLimit_ge
  cases htaken with
  | blank hline => cases (Prod.mk.inj h).2
  | unreadable hline hload =>
    obtain ⟨-, hdeep⟩ := writeResponse_error h
    have hle := ownAnswer_parseError.height_le
    simp only [Json.height] at hle
    omega
  | fails hsound => exact hstop hsound (Prod.mk.inj h).1.symm
  | noObject hsound => exact hstop hsound (Prod.mk.inj h).1.symm
  | object hline hload hhandled =>
    cases hhandled with
    | answered hrequest hown =>
      obtain ⟨hnext, hdeep⟩ := writeResponse_error h
      refine hstop (fun hsound => ?_) hnext
      obtain ⟨_, hobject, hid, -⟩ := hsound.object hline hload
      obtain rfl := Json.obj.inj hobject
      have hle := hown.height_le
      omega
    | silent hrequest => cases (Prod.mk.inj h).2
    | requested hmethod hparams harguments htool =>
      dsimp only at h
      split at h
      · rename_i reply hanswer
        obtain ⟨rfl, hdeep⟩ := writeResponse_error h
        refine ⟨rfl, _, rfl, .inr ⟨_, _, rfl, fun hsound => ?_⟩⟩
        obtain ⟨_, hobject, hid, -⟩ := hsound.object hline hload
        obtain rfl := Json.obj.inj hobject
        obtain ⟨value, isError, text, -, rfl, -⟩ := tells_answerOutcome hanswer
        have hlt := hdeep.trans_le (height_contentResult text isError)
        omega
      · rename_i hanswer
        obtain rfl := (Prod.mk.inj h).1
        exact ⟨rfl, _, rfl, .inr ⟨_, _, rfl, fun _ => not_sound_of_answerOutcome hanswer⟩⟩
    | raises hmethod htruthy hparams =>
      refine hstop (fun hsound => ?_) (Prod.mk.inj h).1.symm
      obtain ⟨_, hobject, -, hcall⟩ := hsound.object hline hload
      obtain rfl := Json.obj.inj hobject
      rcases hcall hmethod with hfalsy | ⟨params, heq⟩
      · exact absurd htruthy (Bool.eq_false_iff.mp hfalsy)
      · exact hparams params heq

/-! ## The whole input -/

theorem readReplies_cons {text : String} {texts : List String} (h : Frames py text reply) :
    readReplies py (text :: texts) = .ok reply :: readReplies py texts := by
  obtain ⟨body, rfl, hbody, hloads⟩ := h
  have hsplit : ((body ++ "\n").toList ++ texts.flatMap String.toList).splitOn '\n' =
      body.toList :: (texts.flatMap String.toList).splitOn '\n' := by
    rw [String.toList_append, List.append_assoc]
    exact List.splitOn_append_cons_self_of_not_mem hbody _
  unfold readReplies
  rw [List.flatMap_cons, hsplit, List.dropLast_cons_of_ne_nil (List.splitOn_ne_nil _ _), List.map_cons,
    String.ofList_toList, hloads]

theorem readReplies_of_frames {texts : List String} {replies : List Json} (h : List.Forall₂ (Frames py) texts replies) :
    readReplies py texts = replies.map .ok := by
  induction h with
  | nil => rfl
  | cons hframes _ ih => rw [readReplies_cons hframes, ih, List.map_cons]

variable (py server client) in
theorem serveStdio_adds (lines : List String) (session : Session σ) :
    ∃ (exchanges : List Exchange) (rest : List String) (last : List (HttpCall × HttpOutcome))
        (texts : List String), lines = exchanges.map Exchange.line ++ rest ∧
      (∀ exchange ∈ exchanges, exchange.Valid py server) ∧
      List.Forall₂ (Frames py) texts (exchanges.filterMap Exchange.reply) ∧
      (serveStdio py server client lines session).1.written = session.written ++ texts ∧
      (serveStdio py server client lines session).1.exchanged =
        session.exchanged ++ (exchanges.filterMap Exchange.request ++ last) ∧
      ((serveStdio py server client lines session).2 = .ok () → rest = [] ∧ last = []) ∧
      ((serveStdio py server client lines session).2 = .error () → ∃ line ∈ rest.head?, Stops py line last) := by
  unfold serveStdio
  induction lines generalizing session with
  | nil =>
    refine ⟨[], [], [], [], rfl, List.forall_mem_nil _, .nil, (List.append_nil _).symm, (List.append_nil _).symm,
      fun _ => ⟨rfl, rfl⟩, fun h => ?_⟩
    cases h
  | cons line lines ih =>
    rcases hline : serveLine py server client line session with ⟨next, result⟩
    cases result with
    | error =>
      obtain ⟨hwritten, last, hexchanged, hstops⟩ := serveLine_error hline
      rw [StepRun.run_cons_error hline]
      refine ⟨[], line :: lines, last, [], rfl, List.forall_mem_nil _, .nil, ?_, hexchanged, fun h => ?_,
        fun _ => ⟨line, rfl, hstops⟩⟩
      · rw [hwritten, List.append_nil]
      · cases h
    | ok =>
      obtain ⟨exchange, texts, hadds⟩ := serveLine_ok hline
      obtain ⟨exchanges, rest, last, texts', hlines, hvalid, hframes, hwritten, hexchanged, hok, herror⟩ := ih next
      rw [StepRun.run_cons_ok hline]
      refine ⟨exchange :: exchanges, rest, last, texts ++ texts', ?_, ?_, ?_, ?_, ?_, hok, herror⟩
      · rw [hlines, List.map_cons, hadds.line_eq, List.cons_append]
      · exact List.forall_mem_cons.mpr ⟨hadds.valid, hvalid⟩
      · rw [OptionList.filterMap_cons_eq_append]
        exact List.rel_append hadds.frames hframes
      · rw [hwritten, hadds.written, List.append_assoc]
      · rw [hexchanged, hadds.exchanged, OptionList.filterMap_cons_eq_append]
        simp only [List.append_assoc]

end Mcp

end Gpucall
