import Gpucall.Lib.Wp
import Gpucall.Dispatcher.Errors
import Gpucall.Dispatcher.Admission
import Gpucall.Routing.Compiler

/-! The calls that the dispatcher's programs make: to the admission controller, the registry, the
adapters, the audit trail, the job store, the budget callbacks and the clocks. Every call is a point
where an exception can be raised or, if it is awaited, a cancellation delivered. -/

namespace Gpucall

/-- `ResourceLease`, the fields that `_lease_audit` reads. -/
structure RemoteHandle where
  tuple : String
  remoteId : String
  accountRef : Option String := none
  executionSurface : Option String := none
  resourceKind : String := "remote_execution"
  cleanupRequired : Bool := true
  reaperEligible : Bool := false

inductive TupleResultKind where
  | inline | ref | artifactManifest
  deriving DecidableEq

structure TupleResult where
  kind : TupleResultKind
  value : Option String := none
  ref : Option DataRef := none

structure ProviderEgressAttempt where
  planId : String
  tuple : String
  providerFamily : String
  workloadScope : String
  mode : String
  attempt : ℕ

inductive ProviderAttemptOutcome where
  | admissionRejected | providerError | timeout | unexpectedError | outputRejected | success
  deriving DecidableEq

/-- `elapsed_ms` is left out: nothing reads it. -/
structure ProviderAttemptRecord where
  tuple : String
  providerFamily : String
  workloadScope : String
  mode : String
  attempt : ℕ
  outcome : ProviderAttemptOutcome
  reason : Option String := none
  providerErrorCode : Option String := none
  statusCode : Option ℕ := none
  retryable : Option Bool := none

/-- `updated_at` is left out: nothing reads it. -/
structure JobRecord where
  jobId : String
  state : JobState
  plan : CompiledPlan
  ownerIdentity : Option String := none
  createdAt : DateTime
  resultRef : Option DataRef := none
  result : Option TupleResult := none
  error : Option String := none
  providerErrorCode : Option String := none
  attempts : List ProviderAttemptRecord := []

/-- The events that the dispatcher and its jobs append to the audit trail, with their data. -/
inductive AuditEvent where
  | planAccepted (plan : CompiledPlan)
  | fallbackExhausted (planId : String) (maxAttempts : ℕ)
  | admissionRejected (attempt : ProviderEgressAttempt) (reason : String)
      (suppressedUntilSeconds : Option ℚ)
  | admissionAccepted (attempt : ProviderEgressAttempt)
  | leaseStarted (handle : RemoteHandle) (attempt : ProviderEgressAttempt)
  | planCompleted (planId tuple : String) (attempt : Option ℕ)
  | outputRejected (attempt : ProviderEgressAttempt) (code reason : String) (retryable : Bool)
  | egressFailure (attempt : ProviderEgressAttempt) (error : TupleError) (providerTemporary : Bool)
  | tupleTimeout (attempt : ProviderEgressAttempt) (error : TupleError)
  | tupleFailed (attempt : ProviderEgressAttempt) (exc : PyExc)
  | leaseCleanupFailed (handle : RemoteHandle) (attempt : ProviderEgressAttempt) (exc : PyExc)
  | leaseCleanedUp (handle : RemoteHandle) (attempt : ProviderEgressAttempt)
  | jobExpired (jobId : String) (planId reason : Option String)
  | jobInterrupted (jobId planId : String)
  | jobCompleted (jobId : String) (kind : TupleResultKind)
  | jobCancelled (jobId : String)
  | jobFailed (jobId : String) (error : TupleError)
  | budgetReleaseFailed (planId : String) (exc : PyExc)
  | budgetCommitFailed (planId : String) (exc : PyExc)

def AuditEvent.eventType : AuditEvent → String
  | planAccepted _ => "plan.accepted"
  | fallbackExhausted .. => "plan.fallback_exhausted"
  | admissionRejected .. => "tuple.admission_rejected"
  | admissionAccepted _ => "tuple.egress_admission_accepted"
  | leaseStarted .. => "lease.started"
  | planCompleted .. => "plan.completed"
  | outputRejected .. => "tuple.output_rejected"
  | egressFailure _ _ providerTemporary =>
    if providerTemporary then "tuple.provider_temporary_failure" else "tuple.failed"
  | tupleTimeout .. => "tuple.timeout"
  | tupleFailed .. => "tuple.failed"
  | leaseCleanupFailed .. => "lease.cleanup_failed"
  | leaseCleanedUp .. => "lease.cleaned_up"
  | jobExpired .. => "job.expired"
  | jobInterrupted .. => "job.interrupted"
  | jobCompleted .. => "job.completed"
  | jobCancelled _ => "job.cancelled"
  | jobFailed .. => "job.failed"
  | budgetReleaseFailed .. => "job.budget_release_failed"
  | budgetCommitFailed .. => "job.budget_commit_failed"

/-- The calls. `fetch` is the read and `upsert` the write inside `update` of the shared job stores;
`validateOutput` is `_validate_and_register_tuple_output`, which may append to the artifact registry;
`recordAttempt` is a call of the recorder that a caller of `execute_sync` gives; `nextEvent` is `anext`
of a stream under its timeout; `cancelTask` is `task.cancel()`, which has its
effect as a cancellation at some later call of that task; `taskStart` is the first step of a task: when
the cancellation comes before it, the coroutine never runs. -/
inductive Call where
  | audit (event : AuditEvent)
  | monotonic
  | utcNow
  | sleep (seconds : ℚ)
  | isAvailable (tuple : String)
  | recordObservation (tuple : String) (success : Bool)
  | recordQualityFailure (tuple recipe task mode code : String)
  | acquire (tuple : String) (workloadScope : Option String)
  | release (lease : AdmissionLease)
  | suppress (tuple : String) (code : Option String) (suppressFamily : Bool)
  | start (tuple : String) (plan : CompiledPlan)
  | wait (tuple : String) (handle : RemoteHandle) (plan : CompiledPlan)
  | openStream (tuple : String) (handle : RemoteHandle) (plan : CompiledPlan)
  | nextEvent (tuple : String) (handle : RemoteHandle)
  | yieldEvent (event : String)
  | cancelRemote (tuple : String) (handle : RemoteHandle)
  | validateOutput (plan : CompiledPlan) (result : TupleResult)
  | recordAttempt (record : ProviderAttemptRecord)
  | getJob (jobId : String)
  | allJobs
  | fetch (jobId : String)
  | upsert (record : JobRecord)
  | taskStart (jobId : String)
  | cancelTask (jobId : String)
  | onAsyncSuccess (plan : CompiledPlan)
  | onAsyncTerminalFailure (plan : CompiledPlan)
  /-- A loop that has used up the rounds that are unrolled: it has no outcome. -/
  | stillRunning

@[reducible] def Call.Res : Call → Type
  | monotonic => ℚ
  | utcNow => DateTime
  | isAvailable _ => Bool
  | acquire .. => AdmissionDecision
  | start .. => RemoteHandle
  | wait .. | validateOutput .. => TupleResult
  | nextEvent .. => Option String
  | getJob _ => Option JobRecord
  | allJobs => List JobRecord
  | fetch _ => JobRecord
  | stillRunning => Empty
  | _ => Unit

abbrev CallEvent := Effects.Event Call Call.Res PyExc

/-- What a call can do: a clock is always read, and an unfinished loop has no outcome. -/
def Possible (e : CallEvent) : Prop :=
  match e.op, e.outcome with
  | .stillRunning, _ => False
  | .monotonic, .error _ | .utcNow, .error _ => False
  | _, _ => True

end Gpucall
