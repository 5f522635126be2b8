import Gpucall.Dispatcher.Calls

/-! `Dispatcher.execute_sync` and `Dispatcher.execute_stream`: the fallback loop over the tuple chain,
with its `try`/`except`/`finally` around each attempt. -/

namespace Gpucall

open Effects

abbrev Program := Prog Call Call.Res PyExc

abbrev Recorder := ProviderAttemptRecord → Program Unit

/-- The settings of a dispatcher. `adapters` are the tuples that have an adapter; the four numbers are
the environment variables the dispatcher reads; the two texts go into diagnostics only, one of them
with digests of the output. `rounds` is how often a `while True` loop is unrolled. -/
structure Dispatcher where
  adapters : List String
  tupleFamilies : Dict String := {}
  maxFallbackAttempts : ℕ := 16
  maxFamilyAttempts : ℕ := 4
  admissionWaitSeconds : ℚ := 0
  outputRejectionReason : TupleError → String
  providerAttemptReason : TupleError → String
  hasAsyncSuccess : Bool := true
  hasAsyncTerminalFailure : Bool := true
  rounds : ℕ

/-- The local variables of the two functions. -/
structure Locals where
  lastError : Option TupleError := none
  startedAttempts : ℕ := 0
  familyAttempts : String → ℕ := fun _ => 0
  handle : Option RemoteHandle := none
  admissionLease : Option AdmissionLease := none
  streamYielded : Bool := false

abbrev Code := Local Locals Call Call.Res PyExc

abbrev call (op : Call) : Program op.Res := Prog.perform op

/-- The recorder that a caller of `execute_sync` gives, as one call. -/
def callerRecorder : Recorder := fun record => call (.recordAttempt record)

/-- A loop that goes on after the rounds that are unrolled. -/
def stillRunning : Program α := call .stillRunning >>= Empty.elim

def admissionWorkloadScope (plan : CompiledPlan) : String :=
  let given (key : String) := (plan.metadata.lookup key).filter (· ≠ "")
  let intent := ((given "intent").or ((given "task_family").or (given "gpucall_intent"))).getD
    plan.recipeName
  plan.task ++ ":" ++ intent ++ ":" ++ plan.mode.value

/-- `_enforce_pre_execution_security_gate` at the instant `now`. -/
def securityGateError (attestations : Attestations) (now : DateTime) : Option TupleError :=
  let refusal (message code : String) : TupleError :=
    { message, retryable := false, statusCode := 412, code := some code }
  let attestationMissing :=
    attestations.securityGate.any (·.attestationRequired) &&
      !attestations.attestationEvidence.any (·.verified)
  if attestationMissing then
    some (refusal "verified attestation evidence is required before execution"
      "ATTESTATION_REQUIRED")
  else
    match attestations.keyReleaseRequirement with
    | none => none
    | some requirement =>
      if !requirement.required then none
      else
        match attestations.keyReleaseGrant with
        | none =>
          some (refusal "key release grant is required before execution" "KEY_RELEASE_REQUIRED")
        | some grant =>
          if grant.keyId ≠ requirement.keyId then
            some (refusal "key release grant does not match required key_id" "KEY_RELEASE_REQUIRED")
          else if grant.policyHash ≠ requirement.policyHash then
            some (refusal "key release grant does not match required policy_hash"
              "KEY_RELEASE_REQUIRED")
          else if grant.expiresAt.all (· ≤ now) then
            some (refusal "key release grant is expired or missing expires_at"
              "KEY_RELEASE_REQUIRED")
          else none

def enforcePreExecutionSecurityGate (plan : CompiledPlan) : Program Unit := do
  match securityGateError plan.attestations (← call .utcNow) with
  | some error => throw (.tupleError error)
  | none => return ()

def structuredFailureShouldSwitchTuple (plan : CompiledPlan) (exc : TupleError) : Bool :=
  exc.code = some "MALFORMED_OUTPUT" &&
    plan.responseFormat.any fun format => format.type = .jsonSchema && format.strict

/-- Whether `_validate_stream_event` passes an event on. -/
def streamEventError (plan : CompiledPlan) (event : String) : Option TupleError :=
  let refusal (message : String) : TupleError := { message, retryable := true, statusCode := 502 }
  if !endswith event "\n\n" then some (refusal "stream event must be SSE-framed")
  else if startswith event ": " || startswith event ":\n" || startswith event "data: " then none
  else some (refusal ("stream event does not match tuple stream contract " ++ plan.mode.value))

def familyLimitError : TupleError where
  message := "provider family fallback attempt limit reached"
  retryable := true
  statusCode := 503
  code := some "PROVIDER_CAPACITY_UNAVAILABLE"

def admissionError : TupleError where
  message := "tuple is temporarily unavailable due to runtime admission constraints"
  retryable := true
  statusCode := 503
  code := some "PROVIDER_CAPACITY_UNAVAILABLE"

def timeoutError (message : String) : TupleError where
  message := message
  retryable := true
  statusCode := 504
  code := some "PROVIDER_POLL_TIMEOUT"

def unexpectedError : TupleError where
  message := "tuple raised unexpected exception"
  retryable := true
  statusCode := 502
  code := some "PROVIDER_ERROR"

def noAdapterError : TupleError where
  message := "no tuple adapter available"
  retryable := false
  statusCode := 503

/-- The error that replaces a rejected output when its tuple is given up. -/
def outputError (exc : TupleError) : TupleError where
  message := jobErrorMessage exc
  retryable := false
  statusCode := 422
  code := exc.code
  rawOutput := exc.rawOutput

def recordProviderAttempt (recorder : Option Recorder) (attempt : ProviderEgressAttempt)
    (outcome : ProviderAttemptOutcome) (reason : Option String := none)
    (error : Option TupleError := none) : Program Unit :=
  match recorder with
  | none => return ()
  | some record =>
    record
      { tuple := attempt.tuple, providerFamily := attempt.providerFamily
        workloadScope := attempt.workloadScope, mode := attempt.mode, attempt := attempt.attempt
        outcome, reason, providerErrorCode := error.bind (·.code)
        statusCode := error.map (·.statusCode), retryable := error.map (·.retryable) }

namespace Dispatcher

variable (d : Dispatcher)

def familyFor (tuple : String) : String := (d.tupleFamilies.get? tuple).getD tuple

def egressAttempt (plan : CompiledPlan) (tuple : String) (attempt : ℕ) : ProviderEgressAttempt where
  planId := plan.planId
  tuple := tuple
  providerFamily := d.familyFor tuple
  workloadScope := admissionWorkloadScope plan
  mode := plan.mode.value
  attempt := attempt

def waitSeconds (plan : CompiledPlan) : ℚ :=
  if d.admissionWaitSeconds ≤ 0 then 0
  else min d.admissionWaitSeconds (max ((plan.timeoutSeconds : ℕ) - 1) 0)

/-- Wait before the next poll, unless the deadline has passed. -/
def sleepUntil (deadline : ℚ) : Code Bool := do
  if deadline ≤ (← call .monotonic) then return false
  call (.sleep (min (1 / 10) (max (deadline - (← call .monotonic)) 0)))
  return true

/-- One round of the loop in `acquire_with_wait`: `some` is the decision it returns. -/
def pollAdmission (tuple : String) (workloadScope : Option String) (deadline : ℚ) :
    Code (Option AdmissionDecision) := do
  let decision ← call (.acquire tuple workloadScope)
  match decision with
  | .allowed _ => return some decision
  | .rejected reason _ =>
    if !reason.isInflightLimit then return some decision
    if ← sleepUntil deadline then return none else return some decision

def acquireWithWait (tuple : String) (workloadScope : Option String) (waitSeconds : ℚ) :
    Code AdmissionDecision := do
  let deadline := (← call .monotonic) + max waitSeconds 0
  whileTrue stillRunning (pollAdmission tuple workloadScope deadline) d.rounds

def cleanupRemote (handle : RemoteHandle) (attempt : ProviderEgressAttempt) : Code Unit := do
  let failure ← Local.tryCatch
    (do
      call (.cancelRemote attempt.tuple handle)
      return none)
    (fun exc => if exc.isException then return some exc else throw exc)
  match failure with
  | some exc => call (.audit (.leaseCleanupFailed handle attempt exc))
  | none => call (.audit (.leaseCleanedUp handle attempt))

/-- `admission.release(admission_lease)`, which does nothing without a lease. -/
def releaseLease : Code Unit := do
  match (← Local.read).admissionLease with
  | some lease => call (.release lease)
  | none => return ()

/-- The `finally` clause of an attempt. -/
def finishAttempt (attempt : ProviderEgressAttempt) : Code Unit := do
  match (← Local.read).handle with
  | some handle =>
    cleanupRemote handle attempt
    releaseLease
  | none => releaseLease

def setLastError (error : TupleError) : Code Unit :=
  Local.write fun s => { s with lastError := some error }

/-- `admission.acquire_with_wait` and what follows a decision to admit, up to the remote handle.
`none` is a rejection. -/
def startAttempt (plan : CompiledPlan) (attempt : ProviderEgressAttempt)
    (rejected : AdmissionReason → Option ℚ → Code Unit) : Code (Option RemoteHandle) := do
  let decision ← d.acquireWithWait attempt.tuple (some attempt.workloadScope) (d.waitSeconds plan)
  match decision with
  | .rejected reason suppressedUntilSeconds =>
    call (.audit (.admissionRejected attempt reason.value suppressedUntilSeconds))
    setLastError admissionError
    rejected reason suppressedUntilSeconds
    return none
  | .allowed lease =>
    let family := attempt.providerFamily
    Local.write fun s => { s with
      admissionLease := some lease
      startedAttempts := s.startedAttempts + 1
      familyAttempts := increment s.familyAttempts family }
    call (.audit (.admissionAccepted attempt))
    enforcePreExecutionSecurityGate plan
    let handle ← call (.start attempt.tuple plan)
    Local.write fun s => { s with handle := some handle }
    call (.audit (.leaseStarted handle attempt))
    return some handle

/-- The common part of the clause for a `TupleError` that is not about the output. -/
def providerFailure (attempt : ProviderEgressAttempt) (exc : TupleError) : Code Unit := do
  call (.recordObservation attempt.tuple false)
  let isProviderError := isProviderTemporaryUnavailable exc.code
  if isProviderError then
    call (.suppress attempt.tuple exc.code (shouldSuppressProviderFamily exc.code))
  call (.audit (.egressFailure attempt exc isProviderError))

/-- The common part of the clause for a timeout. -/
def timeoutFailure (attempt : ProviderEgressAttempt) (message : String) : Code TupleError := do
  let error := timeoutError message
  setLastError error
  call (.recordObservation attempt.tuple false)
  call (.suppress attempt.tuple error.code (shouldSuppressProviderFamily error.code))
  call (.audit (.tupleTimeout attempt error))
  return error

/-- The common part of the clause for any other `Exception`. -/
def unexpectedFailure (attempt : ProviderEgressAttempt) (exc : PyExc) : Code Unit := do
  setLastError unexpectedError
  call (.recordObservation attempt.tuple false)
  call (.audit (.tupleFailed attempt exc))

/-- `raise last_error`, or that no adapter was available. -/
def raiseLastError : Code α := do
  throw (.tupleError ((← Local.read).lastError.getD noAdapterError))

/-- What both functions do around one round of the loop over the tuple chain. -/
def fallbackLoop (plan : CompiledPlan) (round : String → Code (Flow β)) : Program β :=
  Local.run (s := {}) do
    call (.audit (.planAccepted plan))
    match ← forEach round plan.tupleChain with
    | some result => return result
    | none => raiseLastError

/-! ## execute_sync -/

/-- The `try` block of an attempt. -/
def syncBody (plan : CompiledPlan) (recorder : Option Recorder) (attempt : ProviderEgressAttempt) :
    Code (Flow TupleResult) := do
  let handle ← d.startAttempt plan attempt fun reason _ =>
    recordProviderAttempt recorder attempt .admissionRejected reason.value admissionError
  match handle with
  | none => return .stop
  | some handle =>
    let result ← call (.wait attempt.tuple handle plan)
    let result ← call (.validateOutput plan result)
    call (.recordObservation attempt.tuple true)
    call (.audit (.planCompleted plan.planId attempt.tuple attempt.attempt))
    recordProviderAttempt recorder attempt .success
    return .ret result

/-- The part of `except TupleError` for an output that was rejected. -/
def outputRejected (plan : CompiledPlan) (recorder : Option Recorder)
    (attempt : ProviderEgressAttempt) (attempts : ℕ) (exc : TupleError) (code : String) :
    Code (Flow TupleResult) := do
  let finalAttempt := code = "OUTPUT_TRUNCATED" || attempts ≤ attempt.attempt
  let reason := d.outputRejectionReason exc
  call (.audit (.outputRejected attempt code reason !finalAttempt))
  if structuredFailureShouldSwitchTuple plan exc then
    call (.recordQualityFailure attempt.tuple plan.recipeName plan.task plan.mode.value code)
    setLastError (outputError exc)
    recordProviderAttempt recorder attempt .outputRejected reason (outputError exc)
    return .stop
  if !finalAttempt then return .next
  setLastError (outputError exc)
  recordProviderAttempt recorder attempt .outputRejected reason (outputError exc)
  if code = "OUTPUT_TRUNCATED" then throw (.tupleError (outputError exc)) else return .stop

/-- The `except` clauses of an attempt. -/
def syncExcept (plan : CompiledPlan) (recorder : Option Recorder) (attempt : ProviderEgressAttempt)
    (attempts : ℕ) : PyExc → Code (Flow TupleResult)
  | .tupleError exc => do
    setLastError exc
    if let some code := exc.code.filter (· ∈ ["EMPTY_OUTPUT", "MALFORMED_OUTPUT", "OUTPUT_TRUNCATED"])
    then
      d.outputRejected plan recorder attempt attempts exc code
    else
      providerFailure attempt exc
      recordProviderAttempt recorder attempt .providerError (d.providerAttemptReason exc) exc
      if !providerErrorFallbackEligible exc then throw (.tupleError exc) else return .stop
  | .timeoutError => do
    let error ← timeoutFailure attempt "tuple timed out"
    recordProviderAttempt recorder attempt .timeout none error
    return .stop
  | .cancelledError => throw .cancelledError
  | .generatorExit => throw .generatorExit
  | exc => do
    unexpectedFailure attempt exc
    recordProviderAttempt recorder attempt .unexpectedError none unexpectedError
    return .stop

/-- One round of the loop over the attempts of a tuple. -/
def syncAttempt (plan : CompiledPlan) (recorder : Option Recorder) (tuple : String) (attempts : ℕ)
    (attempt : ℕ) : Code (Flow TupleResult) := do
  let s ← Local.read
  if 0 < d.maxFallbackAttempts && d.maxFallbackAttempts ≤ s.startedAttempts then
    call (.audit (.fallbackExhausted plan.planId d.maxFallbackAttempts))
    return .stop
  let egress := d.egressAttempt plan tuple attempt
  if 0 < d.maxFamilyAttempts && d.maxFamilyAttempts ≤ s.familyAttempts egress.providerFamily then
    call (.audit (.admissionRejected egress "provider_family_attempt_limit" none))
    setLastError familyLimitError
    recordProviderAttempt recorder egress .admissionRejected "provider_family_attempt_limit"
      familyLimitError
    return .stop
  Local.write fun s => { s with handle := none, admissionLease := none }
  Local.tryFinally
    (Local.tryCatch (d.syncBody plan recorder egress) (d.syncExcept plan recorder egress attempts))
    (finishAttempt egress)

/-- One round of the loop over the tuple chain. -/
def syncTuple (plan : CompiledPlan) (recorder : Option Recorder) (tuple : String) :
    Code (Flow TupleResult) := do
  if !(← call (.isAvailable tuple)) then return .next
  if tuple ∉ d.adapters then return .next
  let attempts : ℕ := plan.outputValidationAttempts
  match ← forEach (d.syncAttempt plan recorder tuple attempts) (List.range' 1 attempts) with
  | some result => return .ret result
  | none => return .next

def executeSync (plan : CompiledPlan) (recorder : Option Recorder) : Program TupleResult :=
  fallbackLoop plan (d.syncTuple plan recorder)

/-! ## execute_stream -/

/-- One round of the loop over the events of a stream: `some` is its end. -/
def streamRound (plan : CompiledPlan) (attempt : ProviderEgressAttempt) (handle : RemoteHandle) :
    Code (Option Unit) := do
  match ← call (.nextEvent attempt.tuple handle) with
  | none => return some ()
  | some event =>
    match streamEventError plan event with
    | some error => throw (.tupleError error)
    | none =>
      Local.write fun s => { s with streamYielded := true }
      call (.yieldEvent event)
      return none

def streamBody (plan : CompiledPlan) (attempt : ProviderEgressAttempt) : Code (Flow Unit) := do
  match ← d.startAttempt plan attempt fun _ _ => pure () with
  | none => return .next
  | some handle =>
    call (.openStream attempt.tuple handle plan)
    whileTrue stillRunning (streamRound plan attempt handle) d.rounds
    call (.recordObservation attempt.tuple true)
    call (.audit (.planCompleted plan.planId attempt.tuple none))
    return .ret ()

def streamExcept (attempt : ProviderEgressAttempt) : PyExc → Code (Flow Unit)
  | .tupleError exc => do
    setLastError exc
    providerFailure attempt exc
    if (← Local.read).streamYielded || !providerErrorFallbackEligible exc then
      throw (.tupleError exc)
    else return .next
  | .timeoutError => do
    let error ← timeoutFailure attempt "tuple stream timed out"
    if (← Local.read).streamYielded then throw (.tupleError error) else return .next
  | .cancelledError => throw .cancelledError
  | .generatorExit => throw .generatorExit
  | exc => do
    unexpectedFailure attempt exc
    if (← Local.read).streamYielded then throw (.tupleError unexpectedError) else return .next

def streamTuple (plan : CompiledPlan) (tuple : String) : Code (Flow Unit) := do
  if !(← call (.isAvailable tuple)) then return .next
  if tuple ∉ d.adapters then return .next
  let s ← Local.read
  if 0 < d.maxFallbackAttempts && d.maxFallbackAttempts ≤ s.startedAttempts then
    call (.audit (.fallbackExhausted plan.planId d.maxFallbackAttempts))
    return .stop
  let egress := d.egressAttempt plan tuple 1
  if 0 < d.maxFamilyAttempts && d.maxFamilyAttempts ≤ s.familyAttempts egress.providerFamily then
    call (.audit (.admissionRejected egress "provider_family_attempt_limit" none))
    setLastError familyLimitError
    return .next
  Local.write fun s => { s with handle := none, admissionLease := none, streamYielded := false }
  Local.tryFinally (Local.tryCatch (d.streamBody plan egress) (streamExcept egress))
    (finishAttempt egress)

def executeStream (plan : CompiledPlan) : Program Unit := fallbackLoop plan (d.streamTuple plan)

end Dispatcher

/-- A plan with one tuple and no attestations. -/
def echoPlan : CompiledPlan where
  planId := "plan-1"
  policyVersion := "1"
  recipeName := "infer-standard"
  task := "infer"
  mode := .sync
  dataClassification := .confidential
  tupleChain := ["echo"]
  timeoutSeconds := 60
  leaseTtlSeconds := 120
  tokenEstimationProfile := "generic_utf8"
  tokenBudget := none
  maxTokens := none
  temperature := none
  topP := none
  seed := none
  presencePenalty := none
  frequencyPenalty := none
  tools := none
  toolChoice := none
  functions := none
  functionCall := none
  streamOptions := none
  n := none
  inputRefs := []
  inlineInputs := []
  messages := []
  responseFormat := none
  metadata := []
  artifactExport := none
  splitLearning := none
  systemPrompt := none
  stopTokens := []
  repetitionPenalty := none
  guidedDecoding := false
  outputValidationAttempts := 1
  attestations := {}

/-- A dispatcher with the default limits and one adapter. -/
def echoDispatcher : Dispatcher where
  adapters := ["echo"]
  outputRejectionReason := (·.message)
  providerAttemptReason := (·.message)
  rounds := 1

/-! ### Scripted runs -/

/-- What is left of the outputs and the stream events that a provider will give. -/
structure Script where
  outputs : List (Except PyExc TupleResult) := []
  events : List (Except PyExc (Option String)) := []

/-- The answers to the calls of one dispatch, where the services that return nothing may raise. -/
def Script.answer (raises : Call → Option PyExc) (op : Call) (script : Script) :
    Option (Except PyExc op.Res × Script) :=
  let service (op : Call) : Except PyExc Unit :=
    match raises op with
    | some exc => .error exc
    | none => .ok ()
  match op with
  | .monotonic => some (.ok 0, script)
  | .utcNow => some (.ok midnight, script)
  | .isAvailable _ => some (.ok true, script)
  | .acquire tuple workloadScope => some (.ok (.allowed ⟨tuple, tuple, workloadScope⟩), script)
  | .start tuple _ => some (.ok { tuple, remoteId := "remote-1" }, script)
  | .wait .. => some (.ok { kind := .inline, value := some "ok" }, script)
  | .validateOutput _ result =>
    some (script.outputs.headD (.ok result), { script with outputs := script.outputs.tail })
  | .nextEvent .. => some (script.events.headD (.ok none), { script with events := script.events.tail })
  | .audit event => some (service (.audit event), script)
  | .recordObservation tuple success => some (service (.recordObservation tuple success), script)
  | .recordAttempt record => some (service (.recordAttempt record), script)
  | .openStream .. | .yieldEvent _ | .cancelRemote .. | .release _ | .suppress .. =>
    some (.ok (), script)
  | _ => none

/-- One step of a scripted run. -/
def Script.step (raises : Call → Option PyExc) (script : Script) (e : CallEvent) (script' : Script) :
    Prop :=
  script.answer raises e.op = some (e.outcome, script')

theorem Script.possible_of_step {raises : Call → Option PyExc} {script script' : Script}
    {e : CallEvent} (h : script.step raises e script') : Possible e := by
  obtain ⟨op, r⟩ := e
  cases op with
  | monotonic | utcNow =>
    cases h
    trivial
  | stillRunning => cases h
  | _ => trivial

end Gpucall
