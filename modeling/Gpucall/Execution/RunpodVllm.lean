import Gpucall.Dispatcher.Execute

/-! `RunpodVllmServerlessAdapter` of `execution_surfaces/managed_endpoint.py`: a job is put on the native
queue of the endpoint and its status is polled until it has ended, the queue is given up or the time is
over. The requests are made in worker threads, one after the other. -/

namespace Gpucall

open Effects

/-! ## Answers of the provider -/

/-- A response; `json` is `none` where `response.json()` raises. -/
structure HttpResponse where
  statusCode : ℕ
  text : String := ""
  json : Option Json

/-- A `dict` that was decoded. -/
abbrev JsonDict := List (String × Json)

def providerHttpErrorCode (statusCode : ℕ) (body : String) : Option String :=
  let lowered := body.toLower
  if statusCode = 429 then
    if containsStr lowered "quota" || containsStr lowered "spend" || containsStr lowered "limit" then
      some "PROVIDER_QUOTA_EXCEEDED"
    else some "PROVIDER_RATE_LIMITED"
  else if statusCode ∈ [408, 504] then some "PROVIDER_TIMEOUT"
  else if statusCode ∈ [409, 425] then some "PROVIDER_CONCURRENCY_LIMIT"
  else if statusCode ∈ [502, 503] then
    if containsStr lowered "maintenance" then some "PROVIDER_MAINTENANCE"
    else some "PROVIDER_UPSTREAM_UNAVAILABLE"
  else if 500 ≤ statusCode then some "PROVIDER_UPSTREAM_UNAVAILABLE"
  else none

def jsonOrError (response : HttpResponse) (message : String) : Except PyExc JsonDict :=
  if response.statusCode ∈ [200, 201, 202] then
    match response.json with
    | none => .error (.tupleError {
        message := message ++ ": invalid JSON response"
        retryable := true
        statusCode := 502
        code := some "PROVIDER_UPSTREAM_UNAVAILABLE" })
    | some (.obj data) => .ok data
    | some data => .ok [("output", data)]
  else .error (.tupleError {
    message := message ++ ": " ++ toString response.statusCode
    retryable := response.statusCode ∈ [408, 409, 425, 429, 500, 502, 503, 504]
    statusCode := if 500 ≤ response.statusCode then 502 else response.statusCode
    code := providerHttpErrorCode response.statusCode response.text })

/-- Why `int(value)` fails. -/
inductive IntFailure where
  | typeOrValueError
  | overflowError

/-- The adapter. What it reads from the environment and computes from a plan or an answer by other
modules is given: `int` of a number and of a text, `str`, the input of the worker, the result of an
answer, the detail of a failure, and the limits of the polling loop. A limit of `none` is `inf` or `nan`,
which no time reaches. -/
structure RunpodVllmServerlessAdapter where
  name : String
  apiKey : String
  endpointId : String
  model : Option String
  endpointContract : Option String
  intOfNumber : String → Except IntFailure ℤ
  intOfText : String → Except IntFailure ℤ
  str : Json → String
  nativeVllmInput : CompiledPlan → Except PyExc Json
  runsyncResult : JsonDict → Except PyExc TupleResult
  terminalStatusDetail : JsonDict → Except PyExc (Option String)
  nativePollTimeoutSeconds : CompiledPlan → Option ℚ
  queueSaturationSeconds : CompiledPlan → Option ℚ
  queueHealthProbeIntervalSeconds : Option ℚ
  queueBlockedSeconds : Option ℚ
  rounds : ℕ
  intOfNumber_zero : intOfNumber "0" = .ok 0
  intOfNumber_one : intOfNumber "1" = .ok 1

namespace RunpodVllmServerlessAdapter

variable (a : RunpodVllmServerlessAdapter)

def int : Json → Except IntFailure ℤ
  | .bool value => .ok (if value then 1 else 0)
  | .number text => a.intOfNumber text
  | .str text => a.intOfText text
  | .null | .arr _ | .obj _ => .error .typeOrValueError

def positiveIntFromMapping (mapping : JsonDict) : List String → Except PyExc ℤ
  | [] => .ok 0
  | key :: keys =>
    match (mapping.lookup key).getD .null with
    | .null => positiveIntFromMapping mapping keys
    | value =>
      match a.int value with
      | .ok count => .ok (max count 0)
      | .error .typeOrValueError => positiveIntFromMapping mapping keys
      -- only `TypeError` and `ValueError` are caught
      | .error .overflowError => .error (.exception "OverflowError")

/-- `health.get("workers")`, if it is a `dict`. -/
def workersOf (health : JsonDict) : Option JsonDict :=
  match health.lookup "workers" with
  | some (.obj workers) => some workers
  | _ => none

def healthRejectionReason (health : JsonDict) : Except PyExc (Option String) := do
  match workersOf health with
  | none => return some "health response did not include workers"
  | some workers =>
    let ready ← a.positiveIntFromMapping workers ["ready"]
    let running ← a.positiveIntFromMapping workers ["running"]
    let idle ← a.positiveIntFromMapping workers ["idle"]
    let initializing ← a.positiveIntFromMapping workers ["initializing"]
    let throttled ← a.positiveIntFromMapping workers ["throttled"]
    let unhealthy ← a.positiveIntFromMapping workers ["unhealthy"]
    if 0 < unhealthy then return some "workers.unhealthy is non-zero"
    if 0 < idle + ready + running then return none
    if 0 < initializing then return some "workers are still initializing"
    if 0 < throttled then return some "workers are throttled and no ready worker is available"
    return some "no ready worker is available"

def healthPreflightRejectionReason (health : JsonDict) (mode : ExecutionMode) :
    Except PyExc (Option String) := do
  match workersOf health with
  | none => return some "health response did not include workers"
  | some workers =>
    let unhealthy ← a.positiveIntFromMapping workers ["unhealthy"]
    if 0 < unhealthy then return some "workers.unhealthy is non-zero"
    if mode = .async then return none
    a.healthRejectionReason health

def asyncQueueBlockedReason (health : JsonDict) : Except PyExc (Option String) := do
  match workersOf health with
  | none => return none
  | some workers =>
    let ready ← a.positiveIntFromMapping workers ["ready"]
    let running ← a.positiveIntFromMapping workers ["running"]
    let idle ← a.positiveIntFromMapping workers ["idle"]
    let initializing ← a.positiveIntFromMapping workers ["initializing"]
    let throttled ← a.positiveIntFromMapping workers ["throttled"]
    let unhealthy ← a.positiveIntFromMapping workers ["unhealthy"]
    if 0 < ready + running + idle + initializing then return none
    if 0 < unhealthy then return some "workers.unhealthy is non-zero"
    if 0 < throttled then return some "workers are throttled and no ready worker is available"
    return none

def healthRejectionCode (reason : String) : String :=
  let lowered := reason.toLower
  if containsStr lowered "unhealthy" then "PROVIDER_UNHEALTHY"
  else if containsStr lowered "initializing" then "PROVIDER_WORKER_INITIALIZING"
  else if containsStr lowered "throttled" then "PROVIDER_WORKER_THROTTLED"
  else "PROVIDER_CAPACITY_UNAVAILABLE"

def terminalStatusCode (status : String) : String :=
  if status = "TIMED_OUT" then "PROVIDER_TIMEOUT"
  else if status = "CANCELLED" then "PROVIDER_CANCELLED"
  else "PROVIDER_JOB_FAILED"

end RunpodVllmServerlessAdapter

/-! ## The requests -/

/-- The calls of the worker threads. A request that fails raises what `_request_get` or `_request_post`
makes of the exception; `callSync` is the whole request on the OpenAI route. -/
inductive RunpodCall where
  | monotonic
  | sleep
  | getHealth
  | getModels
  | getStatus (jobId : String)
  | postRun (input : Json) (executionTimeout ttl : ℕ)
  | postCancel (jobId : String)
  | callSync (plan : CompiledPlan)
  | stillRunning

@[reducible] def RunpodCall.Res : RunpodCall → Type
  | monotonic => ℚ
  | sleep => Unit
  | callSync _ => TupleResult
  | stillRunning => Empty
  | _ => HttpResponse

abbrev RunpodProgram := Prog RunpodCall RunpodCall.Res PyExc

abbrev RunpodEvent := Event RunpodCall RunpodCall.Res PyExc

abbrev request (op : RunpodCall) : RunpodProgram op.Res := Prog.perform op

/-- The local variables of the polling loop. -/
structure PollState where
  queueSeenAt : Option ℚ := none
  queueBlockedSeenAt : Option ℚ := none
  lastHealthProbeAt : ℚ

abbrev PollCode := Local PollState RunpodCall RunpodCall.Res PyExc

/-- A handle, with `runpod_native_queue` of its `meta`. -/
structure RunpodHandle extends RemoteHandle where
  nativeQueue : Bool

/-- `elapsed >= limit` -/
def reached (limit : Option ℚ) (elapsed : ℚ) : Bool := limit.any (· ≤ elapsed)

namespace RunpodVllmServerlessAdapter

variable (a : RunpodVllmServerlessAdapter)

/-- The workers that stand in for a health answer. -/
def fallbackWorkers : Json :=
  .obj [("idle", .number "1"), ("initializing", .number "0"), ("ready", .number "1"),
    ("running", .number "0"), ("throttled", .number "0"), ("unhealthy", .number "0")]

def healthSync : RunpodProgram JsonDict := do
  let response ← request .getHealth
  if response.statusCode = 404 ∧ a.endpointContract = some "openai-chat-completions" then
    let modelsResponse ← request .getModels
    if modelsResponse.statusCode = 404 then
      return [("workers", fallbackWorkers),
        ("health_probe", .str "openai_chat_completions_fallback"), ("models", .null)]
    let models ← Prog.done (jsonOrError modelsResponse
      "RunPod worker-vLLM OpenAI models preflight failed")
    return [("workers", fallbackWorkers), ("health_probe", .str "openai_models_fallback"),
      ("models", .obj models)]
  Prog.done (jsonOrError response "RunPod worker-vLLM health check failed")

/-- `data.get("id") or data.get("job_id")`, if it counts as true. -/
def jobIdIn (data : JsonDict) : Option String :=
  let given (key : String) := (data.lookup key).filter Json.truthy
  ((given "id").or (given "job_id")).map a.str

def startNativeSync (plan : CompiledPlan) : RunpodProgram String := do
  let health ← a.healthSync
  match ← Prog.done (a.healthPreflightRejectionReason health plan.mode) with
  | some rejectionReason =>
    throw (.tupleError {
      message := "RunPod worker-vLLM endpoint is not ready: " ++ rejectionReason
      retryable := true
      statusCode := 503
      code := some (healthRejectionCode rejectionReason) })
  | none =>
    let input ← Prog.done (a.nativeVllmInput plan)
    let response ← request (.postRun input (max ((plan.timeoutSeconds : ℕ) * 1000) 5000)
      (max ((plan.leaseTtlSeconds : ℕ) * 1000) 10000))
    let data ← Prog.done (jsonOrError response "RunPod worker-vLLM native run failed")
    match a.jobIdIn data with
    | some jobId => return jobId
    | none =>
      throw (.tupleError {
        message := "RunPod worker-vLLM native run response did not include job id"
        retryable := true
        statusCode := 502 })

def openaiHandle (plan : CompiledPlan) : RunpodHandle where
  tuple := a.name
  remoteId := "openai-" ++ plan.planId
  accountRef := some "runpod"
  executionSurface := some "managed_endpoint"
  resourceKind := "endpoint_request"
  cleanupRequired := false
  reaperEligible := false
  nativeQueue := false

def nativeHandle (jobId : String) : RunpodHandle where
  tuple := a.name
  remoteId := jobId
  accountRef := some "runpod"
  executionSurface := some "managed_endpoint"
  resourceKind := "endpoint_job"
  cleanupRequired := false
  reaperEligible := false
  nativeQueue := true

/-- The checks of `start` that come before any request. -/
def startRefusal (plan : CompiledPlan) : Option TupleError :=
  let refusal (message : String) (statusCode : ℕ) : Option TupleError :=
    some { message, retryable := false, statusCode }
  if a.apiKey = "" then refusal "RunPod api_key is not configured" 401
  else if a.endpointId = "" then refusal "RunPod worker-vLLM endpoint_id is not configured" 400
  else if a.model.getD "" = "" then refusal "RunPod worker-vLLM model is not configured" 400
  else if a.endpointContract ≠ some "openai-chat-completions" then
    refusal "RunPod worker-vLLM requires endpoint_contract=openai-chat-completions" 400
  else if plan.mode = .stream then
    refusal "RunPod worker-vLLM streaming is not supported in v2.0" 400
  else none

def start (plan : CompiledPlan) : RunpodProgram RunpodHandle := do
  match a.startRefusal plan with
  | some error => throw (.tupleError error)
  | none =>
    if plan.mode = .async ∧ plan.responseFormat.isNone then
      Prog.tryCatch
        (do return a.nativeHandle (← a.startNativeSync plan))
        (fun exc =>
          match exc with
          | .tupleError error =>
            if error.statusCode ≠ 404 then throw (.tupleError error)
            else return a.openaiHandle plan
          | exc => throw exc)
    else return a.openaiHandle plan

/-- Failures of the request and of its answer are dropped. -/
def cancelNativeBestEffort (jobId : String) : RunpodProgram Unit :=
  Prog.tryCatch
    (do
      let response ← request (.postCancel jobId)
      let _ ← Prog.done (jsonOrError response "RunPod worker-vLLM native cancel failed")
      return ())
    (fun exc => if exc.isException then return () else throw exc)

/-- Cancel the job and give up. -/
def cancelAndRaise (jobId : String) (message : String) (statusCode : ℕ) (code : String) :
    RunpodProgram α := do
  cancelNativeBestEffort jobId
  throw (.tupleError { message, retryable := true, statusCode, code := some code })

/-- The health probe of a job in the queue. -/
def probeHealth (jobId : String) (now : ℚ) : PollCode Unit := do
  Local.write fun s => { s with lastHealthProbeAt := now }
  let health ← a.healthSync
  match ← Local.done (a.asyncQueueBlockedReason health) with
  | some queueBlockedReason =>
    Local.write fun s => { s with queueBlockedSeenAt := s.queueBlockedSeenAt.or (some now) }
    let seenAt := (← Local.read).queueBlockedSeenAt.getD now
    if reached a.queueBlockedSeconds (now - seenAt) then
      cancelAndRaise jobId ("RunPod worker-vLLM native queue blocked: " ++ queueBlockedReason) 503
        (healthRejectionCode queueBlockedReason)
  | none => Local.write fun s => { s with queueBlockedSeenAt := none }

/-- What a round does for a job that is in the queue. -/
def pollQueued (plan : CompiledPlan) (jobId : String) (now : ℚ) : PollCode Unit := do
  Local.write fun s => { s with queueSeenAt := s.queueSeenAt.or (some now) }
  let s ← Local.read
  if reached a.queueHealthProbeIntervalSeconds (now - s.lastHealthProbeAt) then a.probeHealth jobId now
  if reached (a.queueSaturationSeconds plan) (now - s.queueSeenAt.getD now) then
    cancelAndRaise jobId "RunPod worker-vLLM native queue saturated" 503 "PROVIDER_QUEUE_SATURATED"

/-- The statuses of a job that has failed. -/
def failedStatuses : List String := ["FAILED", "CANCELLED", "TIMED_OUT"]

/-- What a round does with the answer: `some` is the result that the loop returns. -/
def pollAnswer (plan : CompiledPlan) (jobId : String) (now : ℚ) (data : JsonDict) :
    PollCode (Option TupleResult) := do
  match data.lookup "status" with
  | some (.str status) =>
    if status = "COMPLETED" then return some (← Local.done (a.runsyncResult data))
    if status ∈ failedStatuses then
      let message := "RunPod worker-vLLM native status: " ++ status
      let detail ← Local.done (a.terminalStatusDetail data)
      throw (.tupleError {
        message := detail.elim message (message ++ ": " ++ ·)
        retryable := true
        statusCode := 502
        code := some (terminalStatusCode status) })
    if status = "IN_QUEUE" then a.pollQueued plan jobId now
    else Local.write fun s => { s with queueSeenAt := none, queueBlockedSeenAt := none }
  -- a list or a `dict` has no hash, which `status in {..}` asks for
  | some (.arr _) | some (.obj _) => throw (.exception "TypeError")
  | _ => Local.write fun s => { s with queueSeenAt := none, queueBlockedSeenAt := none }
  request .sleep
  return none

/-- One round of the polling loop. -/
def pollRound (plan : CompiledPlan) (jobId : String) (deadline : Option ℚ) :
    PollCode (Option TupleResult) := do
  let now ← request .monotonic
  if reached deadline now then
    cancelAndRaise jobId "RunPod worker-vLLM native polling timed out" 504 "PROVIDER_POLL_TIMEOUT"
  let response ← request (.getStatus jobId)
  let data ← Local.done (jsonOrError response "RunPod worker-vLLM native status failed")
  a.pollAnswer plan jobId now data

def pollStillRunning : RunpodProgram α := request .stillRunning >>= Empty.elim

def waitNativeSync (handle : RunpodHandle) (plan : CompiledPlan) : RunpodProgram TupleResult := do
  let startedAt ← request .monotonic
  let deadline := (a.nativePollTimeoutSeconds plan).map (startedAt + ·)
  (whileTrue (liftM (pollStillRunning : RunpodProgram TupleResult))
    (a.pollRound plan handle.remoteId deadline) a.rounds).run { lastHealthProbeAt := startedAt }

def wait (handle : RunpodHandle) (plan : CompiledPlan) : RunpodProgram TupleResult :=
  Prog.tryCatch
    (if handle.nativeQueue then a.waitNativeSync handle plan else request (.callSync plan))
    (fun exc =>
      match exc with
      | .timeoutError =>
        throw (.tupleError {
          message := "RunPod worker-vLLM timed out"
          retryable := true
          statusCode := 504 })
      | exc => throw exc)

/-- Nothing is sent: `return None`. -/
def cancelRemote (_handle : RunpodHandle) : RunpodProgram Unit := return ()

end RunpodVllmServerlessAdapter

end Gpucall
