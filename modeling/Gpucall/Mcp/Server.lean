import Gpucall.Interpreter
import Gpucall.Text

/-! The MCP server of `mcp_server.py`: what it answers to one JSON-RPC message, and the request of the gateway API
that it makes for it. -/

namespace Gpucall

namespace Mcp

def protocolVersion : String := "2025-06-18"

def serverName : String := "gpucall"

/-! ## The tools -/

def property (type description : String) : Json :=
  .obj [("type", .str type), ("description", .str description)]

def taskRequestSchema : Json :=
  .obj [("type", .str "object"),
    ("properties", .obj
      [("task", property "string" "Workload task, e.g. infer or vision."),
        ("mode", .obj [("type", .str "string"), ("enum", .arr [.str "sync", .str "async", .str "stream"]),
          ("description", .str "Execution mode.")]),
        ("inline_inputs", property "object" "Inline inputs such as \x7b\"prompt\": ...\x7d."),
        ("input_refs", property "array" "DataRef inputs for large or binary payloads."),
        ("messages", property "array" "Chat-style messages when the recipe accepts them."),
        ("metadata", property "object" "Request metadata such as \x7b\"intent\": ...\x7d."),
        ("response_format", property "object" "Structured output contract (json_schema preferred)."),
        ("idempotency_key", property "string" "Reuse on retries to avoid duplicate billable execution."),
        ("max_tokens", .obj [("type", .str "integer")]),
        ("timeout_seconds", .obj [("type", .str "integer")])]),
    ("required", .arr [.str "task", .str "mode"])]

def jobIdSchema : Json :=
  .obj [("type", .str "object"), ("properties", .obj [("job_id", .obj [("type", .str "string")])]),
    ("required", .arr [.str "job_id"])]

def emptySchema : Json := .obj [("type", .str "object"), ("properties", .obj [])]

def tool (name description : String) (inputSchema : Json) : Json :=
  .obj [("name", .str name), ("description", .str description), ("inputSchema", inputSchema)]

def tools : List Json :=
  [tool "gpucall_estimate"
      ("Non-billable pre-execution estimate. Compiles the governed route for a workload " ++
        "declaration and returns the selected recipe, tuple chain, and estimated cost without " ++
        "reserving budget or executing anything. Call this before submitting billable work.") taskRequestSchema,
    tool "gpucall_submit_task"
      ("Submit a governed GPU workload. mode=sync waits for the result; mode=async returns a " ++
        "job id to poll with gpucall_job_status. gpucall chooses provider, GPU, model, and " ++
        "endpoint deterministically; callers only declare workload intent.") taskRequestSchema,
    tool "gpucall_job_status"
      "Poll an async job by job_id. Returns the job record including state and result when terminal." jobIdSchema,
    tool "gpucall_cancel_job" "Cancel a non-terminal async job by job_id." jobIdSchema,
    tool "gpucall_readiness"
      ("Machine-readable gateway readiness: route-scoped production readiness, provider " ++
        "evidence freshness, and blockers with owner and next action.") emptySchema,
    tool "gpucall_failure_taxonomy"
      ("The deterministic failure/retry taxonomy: provider temporary-unavailability codes, " ++
        "governance failure kinds, retry semantics, and caller actions. Use it to decide the " ++
        "next step after any failure without asking a human.") emptySchema]

/-- A path of `_TOOL_ROUTES`, which may have a place for the job. -/
inductive PathTemplate where
  | plain (path : String)
  | job (before after : String)

/-- `_TOOL_ROUTES` -/
def toolRoutes : List (String × String × PathTemplate) :=
  [("gpucall_job_status", "GET", .job "/v2/jobs/" ""),
    ("gpucall_cancel_job", "POST", .job "/v2/jobs/" "/cancel"),
    ("gpucall_readiness", "GET", .plain "/readyz/details"),
    ("gpucall_failure_taxonomy", "GET", .plain "/v2/failure-taxonomy")]

/-! ## The HTTP client -/

structure HttpCall where
  method : String
  path : String
  json : Option Json := none

/-- A response of the gateway; what is read from its body can be written again. -/
structure HttpResponse where
  statusCode : ℕ
  /-- `response.json()`, or none if it raises a `ValueError` -/
  json : Option Json
  text : String
  statusCode_lt : statusCode < 1000
  fits : ∀ value, json = some value → value.WellFormed

/-- What a request of the client ends with. -/
inductive HttpOutcome where
  | response (response : HttpResponse)
  /-- An `httpx.HTTPError`, of the class -/
  | httpError (kind : String)
  /-- Another exception, such as the one for a URL that is none -/
  | raised

/-! ## The answers -/

structure Server where
  gatewayUrl : String
  /-- `str(self._client.base_url)` -/
  baseUrl : Option String
  version : String

def number (n : ℕ) : Json := .number n.repr

/-- `_result` -/
def result (messageId value : Json) : Json := .obj [("jsonrpc", .str "2.0"), ("id", messageId), ("result", value)]

/-- `_error`; its codes are negative. -/
def error (messageId : Json) (code : String) (message : String) : Json :=
  .obj [("jsonrpc", .str "2.0"), ("id", messageId),
    ("error", .obj [("code", .number code), ("message", .str message)])]

def invalidParams : String := "-32602"

def contentResult (messageId : Json) (text : String) (isError : Bool) : Json :=
  result messageId (.obj [("content", .arr [.obj [("type", .str "text"), ("text", .str text)]]),
    ("isError", .bool isError)])

/-- `_tool_error` -/
def toolError (messageId : Json) (text : String) : Json := contentResult messageId text true

/-- `json.dumps(value, ensure_ascii=False)`, or none if the value is nested too deep -/
def dumpsUnicode (py : Interpreter) (value : Json) : Option String := py.dumps { ensureAscii := false } value

def responsePayload (response : HttpResponse) : Json :=
  response.json.getD (.obj [("status_code", number response.statusCode),
    ("body", .str (String.ofList (response.text.toList.take 2000)))])

/-- `_tool_response`, or none if it raises -/
def toolResponse (py : Interpreter) (messageId : Json) (response : HttpResponse) : Option Json :=
  (dumpsUnicode py (.obj [("status_code", number response.statusCode), ("body", responsePayload response)])).map
    fun body => contentResult messageId body (400 ≤ response.statusCode)

/-- The text for a gateway that cannot be reached -/
def unreachable (server : Server) (kind : String) : Json :=
  .obj [("error", .str "gateway unreachable"), ("kind", .str kind),
    ("gateway_url", .str (if server.gatewayUrl ≠ "" then server.gatewayUrl else server.baseUrl.getD "None")),
    ("caller_action", .str "check gateway URL, network reachability, and that the gateway is running")]

/-! ## One message -/

/-- What `_tools_call` does with its parameters: it answers at once, or it makes a request. -/
inductive ToolPlan where
  | answer (response : Json)
  | request (call : HttpCall)

/-- The route of a tool in `_TOOL_ROUTES`. -/
def routeCall (py : Interpreter) (messageId : Json) (arguments : List (String × Json)) (method : String) :
    PathTemplate → ToolPlan
  | .plain path => .request { method, path }
  | .job before after =>
    let jobId := strOrEmpty py.builtins (arguments.lookup "job_id")
    if jobId = "" then .answer (error messageId invalidParams "job_id is required")
    else .request { method, path := before ++ jobId ++ after }

/-- `_tools_call` up to the request -/
def toolsCall (py : Interpreter) (server : Server) (messageId : Json) (params : List (String × Json)) : ToolPlan :=
  let name := strOrEmpty py.builtins (params.lookup "name")
  match (params.lookup "arguments").filter Json.truthy with
  | some (.obj arguments) => route name arguments
  | none => route name []
  | some _ => .answer (error messageId invalidParams "tool arguments must be an object")
where
  route (name : String) (arguments : List (String × Json)) : ToolPlan :=
    if server.gatewayUrl = "" ∧ server.baseUrl = none then
      .answer (error messageId "-32603" "GPUCALL_GATEWAY_URL is not configured")
    else if name = "gpucall_estimate" then
      .request { method := "POST", path := "/v2/estimate", json := some (.obj arguments) }
    else if name = "gpucall_submit_task" then
      let mode := ((arguments.lookup "mode").filter Json.truthy).map (pyStr py.builtins) |>.getD "sync"
      if mode = "stream" then
        .answer (toolError messageId "mode=stream is not supported over MCP; use sync or async")
      else .request { method := "POST", path := "/v2/tasks/" ++ mode, json := some (.obj arguments) }
    else
      match toolRoutes.lookup name with
      | some (method, template) => routeCall py messageId arguments method template
      | none => .answer (error messageId invalidParams ("unknown tool: " ++ name))

/-- What `handle_message` does with a message: nothing, an answer, or a request and then an answer to it. -/
inductive Plan where
  | silent
  | answer (response : Json)
  | request (messageId : Json) (call : HttpCall)
  /-- An attribute is looked up on a value that has none. -/
  | raises

def Plan.ofTool (messageId : Json) : ToolPlan → Plan
  | .answer response => .answer response
  | .request call => .request messageId call

def initializeResult (server : Server) : Json :=
  .obj [("protocolVersion", .str protocolVersion),
    ("capabilities", .obj [("tools", .obj [("listChanged", .bool false)])]),
    ("serverInfo", .obj [("name", .str serverName), ("version", .str server.version)])]

/-- `handle_message` up to the request -/
def handleMessage (py : Interpreter) (server : Server) : Json → Plan
  | .obj message =>
    let messageId := (message.lookup "id").getD .null
    match (message.lookup "method").getD .null with
    | .str "initialize" => .answer (result messageId (initializeResult server))
    | .str "notifications/initialized" => .silent
    | .str "ping" => .answer (result messageId (.obj []))
    | .str "tools/list" => .answer (result messageId (.obj [("tools", .arr tools)]))
    | .str "tools/call" =>
      match (message.lookup "params").filter Json.truthy with
      | some (.obj params) => .ofTool messageId (toolsCall py server messageId params)
      | none => .ofTool messageId (toolsCall py server messageId [])
      | some _ => .raises
    | method =>
      match messageId with
      | .null => .silent
      | messageId => .answer (error messageId "-32601" ("method not found: " ++ pyStr py.builtins method))
  | _ => .raises

/-- The answer to the outcome of the request, or none if it raises -/
def answerOutcome (py : Interpreter) (server : Server) (messageId : Json) : HttpOutcome → Option Json
  | .response response => toolResponse py messageId response
  | .httpError kind => (dumpsUnicode py (unreachable server kind)).map (toolError messageId)
  | .raised => none

end Mcp

end Gpucall
