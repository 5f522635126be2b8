import Gpucall.Routing.Environment
import Gpucall.Lib.Layer
import Gpucall.Dispatcher.Errors

/-! The request handlers of `app.py` that reserve a budget: `task_sync`, `task_stream`,
`openai_chat_completions` and `task_batch`, from `enforce_request_budget` to their end, with the
`events()` generators of the streaming ones. Every step may return or raise; the bodies of the replies
are left out. -/

namespace Gpucall

open Effects

/-- The steps that do not touch the ledger and whose values only go into a reply. -/
inductive Work where
  | enforceGatewayOwnedRouting
  | refreshGovernanceInputs
  | compile
  | objectTenantPrefix
  | workerReadableRequest
  | planWithWorkerRefs
  | responseModel
  | headers
  | content
  | idempotencyStore
  | idempotencyRelease
  | exitLock
  | recordErrorCode (code : String)
  | errorResponse
  deriving DecidableEq

/-- The steps of the handlers, each with the id of the plan it is for. `startStream` is the first pull
of a generator by its consumer, `nextEvent` that of an event of `execute_stream`, `nextChunk` that of
a chunk of `openai_stream_chunks`. -/
inductive HandlerCall where
  | work (planId : Option String) (task : Work)
  | enforceRequestBudget (planId : String)
  | executeSync (planId : String)
  | startStream (planId : String)
  | nextEvent (planId : String)
  | nextChunk (planId event : String) (alreadyStarted : Bool)
  | yieldChunk (planId : String)
  | commitRequestBudget (planId : String)
  | refundRequestBudget (planId : String)
  /-- A loop that has used up the rounds that are unrolled: it has no outcome. -/
  | stillRunning

namespace HandlerCall

/-- A chunk is only known by whether it ends the stream. -/
@[reducible] def Res : HandlerCall → Type
  | nextEvent _ => Option String
  | nextChunk .. => Option Bool
  | stillRunning => Empty
  | _ => Unit

def planId : HandlerCall → Option String
  | work planId _ => planId
  | enforceRequestBudget planId | executeSync planId | startStream planId | nextEvent planId
  | nextChunk planId _ _ | yieldChunk planId | commitRequestBudget planId
  | refundRequestBudget planId => some planId
  | stillRunning => none

end HandlerCall

abbrev HandlerProgram := Prog HandlerCall HandlerCall.Res PyExc

abbrev HandlerEvent := Event HandlerCall HandlerCall.Res PyExc

abbrev HandlerCall.perform (op : HandlerCall) : HandlerProgram op.Res := Prog.perform op

structure BatchResult where
  index : ℕ
  ok : Bool
  statusCode : ℕ
  code : Option String := none

structure Reply where
  statusCode : ℕ
  code : Option String := none
  streaming : Bool := false
  results : List BatchResult := []

def governanceStatusCode (code message : String) : ℕ :=
  let mentions (text : String) : Bool := decide (text.toList <:+: message.toList)
  if code ∈ ["NO_AUTO_SELECTABLE_RECIPE", "REQUEST_EXCEEDS_RECIPE_CONTEXT"] then 422
  else if code = "NO_ELIGIBLE_TUPLE" then 503
  else if mentions "circuit breaker" ||
      mentions "no eligible tuple after policy, recipe, and circuit constraints" then 503
  else 400

/-- `exc.code or default` -/
def TupleError.codeOr (exc : TupleError) (default : String) : String :=
  match exc.code with
  | none | some "" => default
  | some code => code

def handlerStillRunning : HandlerProgram α := HandlerCall.perform .stillRunning >>= Empty.elim

def work (planId : String) (task : Work) : HandlerProgram Unit :=
  HandlerCall.perform (.work (some planId) task)

/-- The steps that make the request readable by a worker. -/
def prepareRequest (planId : String) (needsObjectAccess : Bool) : HandlerProgram Unit := do
  if needsObjectAccess then work planId .objectTenantPrefix else pure ()
  work planId .workerReadableRequest
  work planId .planWithWorkerRefs

/-- `execute_sync` and the commit of its budget. -/
def executeAndCommit (planId : String) : HandlerProgram Unit := do
  HandlerCall.perform (.executeSync planId)
  HandlerCall.perform (.commitRequestBudget planId)

def errorReply (planId : String) (statusCode : ℕ) (recorded code : String) : HandlerProgram Reply := do
  work planId (.recordErrorCode recorded)
  work planId .errorResponse
  return { statusCode, code := some code }

/-! ## task_sync -/

/-- The body inside `idempotency_execution_lock`. -/
def taskSyncBody (planId : String) (needsObjectAccess : Bool) : HandlerProgram Unit := do
  HandlerCall.perform (.enforceRequestBudget planId)
  prepareRequest planId needsObjectAccess
  executeAndCommit planId
  work planId .headers
  work planId .content
  work planId .idempotencyStore

/-- The idempotency key of the request is given free, if it has one. -/
def releaseIdempotency (planId : String) (hasKey : Bool) : HandlerProgram Unit :=
  if hasKey then work planId .idempotencyRelease else pure ()

def taskSyncExcept (planId : String) (hasKey : Bool) : PyExc → HandlerProgram Reply
  | .governanceError code message => do
    releaseIdempotency planId hasKey
    errorReply planId (governanceStatusCode code message) code code
  | .httpException statusCode => do
    HandlerCall.perform (.refundRequestBudget planId)
    releaseIdempotency planId hasKey
    throw (.httpException statusCode)
  | .valueError _ => do
    HandlerCall.perform (.refundRequestBudget planId)
    releaseIdempotency planId hasKey
    throw (.httpException 400)
  | .tupleError exc => do
    HandlerCall.perform (.refundRequestBudget planId)
    releaseIdempotency planId hasKey
    errorReply planId exc.statusCode (exc.codeOr "TUPLE_ERROR") (exc.codeOr "PROVIDER_ERROR")
  | .tenantBudgetError statusCode code => do
    releaseIdempotency planId hasKey
    errorReply planId statusCode code code
  | .cancelledError => throw .cancelledError
  | .generatorExit => throw .generatorExit
  | exc => do
    HandlerCall.perform (.refundRequestBudget planId)
    releaseIdempotency planId hasKey
    throw exc

def taskSync (planId : String) (needsObjectAccess hasKey : Bool) : HandlerProgram Reply :=
  Prog.tryCatch
    (do
      if hasKey then
        Prog.tryFinally (taskSyncBody planId needsObjectAccess) (work planId .exitLock)
      else taskSyncBody planId needsObjectAccess
      work planId .headers
      return { statusCode := 200 })
    (taskSyncExcept planId hasKey)

/-! ## task_stream -/

/-- One round of `async for event in execute_stream(plan)`. -/
def streamEventRound (planId : String) : HandlerProgram (Option Unit) := do
  match ← HandlerCall.perform (.nextEvent planId) with
  | none => return some ()
  | some _ =>
    HandlerCall.perform (.yieldChunk planId)
    return none

def streamEventsExcept (planId : String) : PyExc → HandlerProgram Unit
  | .cancelledError => do
    HandlerCall.perform (.refundRequestBudget planId)
    throw .cancelledError
  | .tupleError exc => do
    HandlerCall.perform (.refundRequestBudget planId)
    work planId (.recordErrorCode (exc.codeOr "TUPLE_ERROR"))
    HandlerCall.perform (.yieldChunk planId)
    HandlerCall.perform (.yieldChunk planId)
  | .generatorExit => throw .generatorExit
  | exc => do
    HandlerCall.perform (.refundRequestBudget planId)
    throw exc

/-- The generator `events()` of `task_stream`. -/
def streamEvents (planId : String) (rounds : ℕ) : HandlerProgram Unit :=
  Prog.tryCatch
    (do
      whileTrue handlerStillRunning (streamEventRound planId) rounds
      HandlerCall.perform (.commitRequestBudget planId))
    (streamEventsExcept planId)

/-- A reply, and the generator that its consumer pulls if it is a stream. -/
def serve (planId : String) (events : HandlerProgram Unit) (reply : Reply) :
    HandlerProgram Reply := do
  if reply.streaming then
    HandlerCall.perform (.startStream planId)
    events
    return reply
  else return reply

def taskStreamExcept (planId : String) : PyExc → HandlerProgram (Option Reply)
  | .governanceError code message => do
    return some (← errorReply planId (governanceStatusCode code message) code code)
  | .httpException statusCode => do
    HandlerCall.perform (.refundRequestBudget planId)
    throw (.httpException statusCode)
  | .valueError _ => do
    HandlerCall.perform (.refundRequestBudget planId)
    throw (.httpException 400)
  | exc => throw exc

/-- The headers of the response are made after the `try` statement. -/
def taskStream (planId : String) (needsObjectAccess : Bool) (rounds : ℕ) : HandlerProgram Reply := do
  let refused ← Prog.tryCatch
    (do
      HandlerCall.perform (.enforceRequestBudget planId)
      prepareRequest planId needsObjectAccess
      return none)
    (taskStreamExcept planId)
  match refused with
  | some reply => return reply
  | none =>
    work planId .headers
    serve planId (streamEvents planId rounds) { statusCode := 200, streaming := true }

/-! ## openai_chat_completions -/

/-- The variables of the generator. -/
structure OpenAIStream where
  yielded : Bool := false
  terminalSeen : Bool := false

abbrev OpenAICode := Local OpenAIStream HandlerCall HandlerCall.Res PyExc

/-- One round of the loop over `openai_stream_chunks`. -/
def openaiChunkRound (planId event : String) (alreadyStarted : Bool) : OpenAICode (Option Unit) := do
  match ← HandlerCall.perform (.nextChunk planId event alreadyStarted) with
  | none => return some ()
  | some terminal =>
    Local.write fun s => { yielded := true, terminalSeen := s.terminalSeen || terminal }
    HandlerCall.perform (.yieldChunk planId)
    return none

/-- One round of `async for event in execute_stream(plan)`. -/
def openaiEventRound (planId : String) (rounds : ℕ) : OpenAICode (Option Unit) := do
  match ← HandlerCall.perform (.nextEvent planId) with
  | none => return some ()
  | some event =>
    let s ← Local.read
    whileTrue handlerStillRunning (openaiChunkRound planId event s.yielded) rounds
    return none

/-- The `try` statement of `events()`: whether the generator goes on after it. -/
def openaiRelay (planId : String) (rounds : ℕ) : OpenAICode Bool :=
  Local.tryCatch
    (do
      whileTrue handlerStillRunning (openaiEventRound planId rounds) rounds
      HandlerCall.perform (.commitRequestBudget planId)
      return true)
    (fun exc => do
      streamEventsExcept planId exc
      return false)

/-- The generator `events()` of `openai_chat_completions`: its clauses are those of `task_stream`. -/
def openaiEvents (planId : String) (rounds : ℕ) : HandlerProgram Unit :=
  Local.run (s := {}) do
    if ← openaiRelay planId rounds then
      if !(← Local.read).terminalSeen then HandlerCall.perform (.yieldChunk planId) else pure ()
      HandlerCall.perform (.yieldChunk planId)
    else pure ()

def openaiExcept (planId : String) : PyExc → HandlerProgram Reply
  | .governanceError code message =>
    errorReply planId (governanceStatusCode code message) code
      (if governanceStatusCode code message = 503 then "tuple_unavailable" else code.toLower)
  | .tupleError exc => do
    HandlerCall.perform (.refundRequestBudget planId)
    errorReply planId exc.statusCode (exc.codeOr "TUPLE_ERROR") (exc.codeOr "tuple_error")
  | .tenantBudgetError statusCode code => errorReply planId statusCode code code.toLower
  | .cancelledError => throw .cancelledError
  | .generatorExit => throw .generatorExit
  | exc => do
    HandlerCall.perform (.refundRequestBudget planId)
    throw exc

def openaiBody (planId : String) (stream : Bool) : HandlerProgram Reply := do
  HandlerCall.perform (.enforceRequestBudget planId)
  if stream then
    work planId .responseModel
    work planId .headers
    return { statusCode := 200, streaming := true }
  else
    executeAndCommit planId
    work planId .headers
    work planId .content
    return { statusCode := 200 }

def openaiChatCompletions (planId : String) (stream : Bool) (rounds : ℕ) : HandlerProgram Reply := do
  let reply ← Prog.tryCatch (openaiBody planId stream) (openaiExcept planId)
  serve planId (openaiEvents planId rounds) reply

/-! ## task_batch -/

/-- An item of a batch; `planId` is the id that `compile` gives to its plan. -/
structure BatchItem where
  isSync : Bool
  planId : String
  needsObjectAccess : Bool

structure BatchState where
  plan : Option String := none
  statusCode : ℕ := 200
  results : List BatchResult := []

abbrev BatchCode := Local BatchState HandlerCall HandlerCall.Res PyExc

/-- `status_code = 207`, the result of the item, and whether the loop goes on. -/
def batchFailure (continueOnError : Bool) (result : BatchResult) : BatchCode (Flow Unit) := do
  Local.write fun s => { s with statusCode := 207, results := s.results ++ [result] }
  if continueOnError then return .next else return .stop

/-- `refund_request_budget(runtime, plan)`, which does nothing without a plan. -/
def batchRefund : BatchCode Unit := do
  match (← Local.read).plan with
  | none => return ()
  | some planId => HandlerCall.perform (.refundRequestBudget planId)

def batchBody (item : BatchItem) (index : ℕ) : BatchCode (Flow Unit) := do
  Local.write fun s => { s with plan := none }
  HandlerCall.perform (.work none .enforceGatewayOwnedRouting)
  HandlerCall.perform (.work none .refreshGovernanceInputs)
  HandlerCall.perform (.work none .compile)
  Local.write fun s => { s with plan := some item.planId }
  HandlerCall.perform (.enforceRequestBudget item.planId)
  prepareRequest item.planId item.needsObjectAccess
  executeAndCommit item.planId
  work item.planId .content
  Local.write fun s => { s with results := s.results ++ [{ index, ok := true, statusCode := 200 }] }
  return .next

def batchExcept (continueOnError : Bool) (index : ℕ) : PyExc → BatchCode (Flow Unit)
  | .governanceError code message => do
    HandlerCall.perform (.work none (.recordErrorCode code))
    batchFailure continueOnError
      { index, ok := false, statusCode := governanceStatusCode code message, code := some code }
  | .httpException statusCode => do
    batchRefund
    throw (.httpException statusCode)
  | .valueError _ => do
    batchRefund
    batchFailure continueOnError { index, ok := false, statusCode := 400 }
  | .tupleError exc => do
    batchRefund
    HandlerCall.perform (.work none (.recordErrorCode (exc.codeOr "TUPLE_ERROR")))
    batchFailure continueOnError
      { index, ok := false, statusCode := exc.statusCode, code := some (exc.codeOr "TUPLE_ERROR") }
  | .tenantBudgetError statusCode code => do
    HandlerCall.perform (.work none (.recordErrorCode code))
    batchFailure continueOnError { index, ok := false, statusCode, code := some code }
  | .cancelledError => throw .cancelledError
  | .generatorExit => throw .generatorExit
  | exc => do
    batchRefund
    throw exc

/-- One round of the loop over the items. -/
def batchRound (continueOnError : Bool) (entry : BatchItem × ℕ) : BatchCode (Flow Unit) :=
  if !entry.1.isSync then
    batchFailure continueOnError { index := entry.2, ok := false, statusCode := 400 }
  else
    Local.tryCatch (batchBody entry.1 entry.2) (batchExcept continueOnError entry.2)

def taskBatch (items : List BatchItem) (continueOnError : Bool) : HandlerProgram Reply :=
  Local.run (s := {}) do
    let _ ← forEach (batchRound continueOnError) items.zipIdx
    let s ← Local.read
    return { statusCode := s.statusCode, results := s.results }

/-! ## The handlers -/

inductive HandlerRequest where
  | sync (planId : String) (needsObjectAccess hasKey : Bool)
  | stream (planId : String) (needsObjectAccess : Bool) (rounds : ℕ)
  | openai (planId : String) (stream : Bool) (rounds : ℕ)
  | batch (items : List BatchItem) (continueOnError : Bool)

namespace HandlerRequest

def program : HandlerRequest → HandlerProgram Reply
  | sync planId needsObjectAccess hasKey => taskSync planId needsObjectAccess hasKey
  | stream planId needsObjectAccess rounds => taskStream planId needsObjectAccess rounds
  | openai planId streaming rounds => openaiChatCompletions planId streaming rounds
  | batch items continueOnError => taskBatch items continueOnError

def planIds : HandlerRequest → List String
  | sync planId _ _ | stream planId _ _ | openai planId _ _ => [planId]
  | batch items _ => items.map (·.planId)

end HandlerRequest

end Gpucall
