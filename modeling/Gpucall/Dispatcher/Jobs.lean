import Gpucall.Lib.Layer
import Gpucall.Dispatcher.JobStore

/-! The programs that write to the job store: `Dispatcher._run_job`, the loop of the lease reaper, the
recovery at start-up and the endpoint that cancels a job. -/

namespace Gpucall

open Effects

/-- The record that `JobStore.create` stores for the plan that `_storage_safe_plan` makes. -/
def queuedJob (jobId : String) (plan : CompiledPlan) (ownerIdentity : Option String)
    (createdAt : DateTime) : JobRecord where
  jobId := jobId
  state := .queued
  plan := { plan with
    inputRefs := []
    inlineInputs := []
    messages := []
    systemPrompt := none
    attestations := { plan.attestations with storageSafePlan := true } }
  ownerIdentity := ownerIdentity
  createdAt := createdAt

/-- `ProviderErrorCode(exc.code)`: the enumeration has one member for each class of provider errors. -/
def providerErrorCode (code : Option String) : Option String :=
  code.filter fun code => isProviderTemporaryUnavailable (some code)

/-! ## `_run_job` -/

/-- The updates that `_run_job` makes. -/
inductive JobUpdate where
  | running
  | undispatched
  | completed (result : TupleResult)
  | cancelled
  | failed (exc : TupleError)

namespace JobUpdate

def state : JobUpdate → JobState
  | running => .running
  | undispatched => .expired
  | completed _ => .completed
  | cancelled => .cancelled
  | failed _ => .failed

def change (u : JobUpdate) (job : JobRecord) : JobRecord :=
  match u with
  | running => { job with state := u.state }
  | undispatched =>
    { job with state := u.state, error := some "gateway restarted before job dispatch" }
  | completed result =>
    { job with state := u.state, resultRef := result.ref, result := some result }
  | cancelled => { job with state := u.state, error := some "job cancelled" }
  | failed exc =>
    { job with
      state := u.state
      error := some (jobErrorMessage exc)
      result := none
      providerErrorCode := providerErrorCode exc.code }

@[simp] theorem state_change (u : JobUpdate) (job : JobRecord) :
    (u.change job).state = u.state := by
  cases u <;> rfl

@[simp] theorem jobId_change (u : JobUpdate) (job : JobRecord) :
    (u.change job).jobId = job.jobId := by
  cases u <;> rfl

end JobUpdate

/-- The steps of `_run_job`: a call, an update of its job, or `execute_sync` with the recorder of the
job. -/
inductive JobStep where
  | call (op : Call)
  | update (u : JobUpdate)
  | execute (plan : CompiledPlan)

@[reducible] def JobStep.Res : JobStep → Type
  | call op => op.Res
  | update _ => Unit
  | execute _ => TupleResult

/-- What the steps do. -/
def JobStep.program (d : Dispatcher) (jobId : String) : (s : JobStep) → Program s.Res
  | call op => Gpucall.call op
  | update u => updateJob jobId u.change
  | execute plan => d.executeSync plan (some (asyncAttemptRecorder jobId))

abbrev JobCode := Prog JobStep JobStep.Res PyExc

abbrev JobStep.perform (s : JobStep) : JobCode s.Res := Prog.perform s

namespace Dispatcher

variable (d : Dispatcher)

/-- A budget callback, if it is configured: an `Exception` of it is only audited. -/
def budgetCallback (configured : Bool) (callback : JobCode Unit) (failed : PyExc → AuditEvent) :
    JobCode Unit :=
  if configured then
    Prog.tryCatch callback fun exc =>
      if exc.isException then JobStep.perform (.call (.audit (failed exc))) else throw exc
  else return ()

def releaseAsyncBudget (plan : CompiledPlan) : JobCode Unit :=
  budgetCallback d.hasAsyncTerminalFailure (JobStep.perform (.call (.onAsyncTerminalFailure plan)))
    (.budgetReleaseFailed plan.planId)

def commitAsyncBudget (plan : CompiledPlan) : JobCode Unit :=
  budgetCallback d.hasAsyncSuccess (JobStep.perform (.call (.onAsyncSuccess plan)))
    (.budgetCommitFailed plan.planId)

/-- The `try` block of `_run_job`. -/
def jobBody (jobId : String) (plan : CompiledPlan) : JobCode Unit := do
  let result ← JobStep.perform (.execute plan)
  JobStep.perform (.update (.completed result))
  JobStep.perform (.call (.audit (.jobCompleted jobId result.kind)))
  d.commitAsyncBudget plan

/-- The guarded update in the clause for a cancellation. -/
def cancelStoredJob (jobId : String) : JobCode Unit := do
  match ← JobStep.perform (.call (.getJob jobId)) with
  | none => return ()
  | some current =>
    if isTerminalJobState current.state then return ()
    else JobStep.perform (.update .cancelled)

/-- The `except` clauses of `_run_job`. -/
def jobExcept (jobId : String) (plan : CompiledPlan) : PyExc → JobCode Unit
  | .cancelledError => do
    cancelStoredJob jobId
    JobStep.perform (.call (.audit (.jobCancelled jobId)))
    d.releaseAsyncBudget plan
    throw .cancelledError
  | .tupleError exc => do
    JobStep.perform (.update (.failed exc))
    JobStep.perform (.call (.audit (.jobFailed jobId exc)))
    d.releaseAsyncBudget plan
  | exc => throw exc

/-- `_run_job`, where `memoryPlan` is the plan that this process has kept for the job. Its `finally`
clause only forgets that plan and the task. -/
def runJob (jobId : String) (memoryPlan : Option CompiledPlan) : JobCode Unit := do
  match ← JobStep.perform (.call (.getJob jobId)) with
  | none => return ()
  | some job =>
    JobStep.perform (.update .running)
    let plan := memoryPlan.getD job.plan
    if plan.attestations.storageSafePlan then
      JobStep.perform (.update .undispatched)
      let reason := "gateway restarted before job dispatch"
      JobStep.perform (.call (.audit (.jobExpired jobId none (some reason))))
    else
      Prog.tryCatch (d.jobBody jobId plan) (d.jobExcept jobId plan)

/-- The task that `submit_async` creates. -/
def jobTask (jobId : String) (plan : CompiledPlan) : JobCode Unit := do
  JobStep.perform (.call (.taskStart jobId))
  d.runJob jobId (some plan)

end Dispatcher

/-! ## Lease reaper, recovery and cancellation -/

def JobRecord.leaseExpired (job : JobRecord) (now : DateTime) : Bool :=
  job.createdAt.toMicroseconds + (job.plan.leaseTtlSeconds : ℕ) * 1000000 ≤ now.toMicroseconds

/-- What `LeaseReaper._loop` does with one job. -/
def reapJob (now : DateTime) (job : JobRecord) : Program (Flow Unit) := do
  if isTerminalJobState job.state then return .next
  else if job.leaseExpired now then
    updateJob job.jobId fun job => { job with state := .expired, error := some "lease expired" }
    call (.cancelTask job.jobId)
    call (.audit (.jobExpired job.jobId (some job.plan.planId) none))
    return .next
  else return .next

/-- One round of `LeaseReaper._loop`. -/
def reapRound (intervalSeconds : ℚ) : Program (Option Unit) := do
  call (.sleep intervalSeconds)
  let now ← call .utcNow
  let jobs ← call .allJobs
  let _ ← forEach (reapJob now) jobs
  return none

def reaperLoop (intervalSeconds : ℚ) (rounds : ℕ) : Program Unit :=
  whileTrue stillRunning (reapRound intervalSeconds) rounds

/-- What `recover_interrupted_jobs` does with one job. -/
def recoverJob (job : JobRecord) : Program (Flow Unit) := do
  if job.state ∉ [.queued, .pending, .running] then return .next
  else
    updateJob job.jobId fun job =>
      { job with state := .expired, error := some "gateway restarted before job completion" }
    call (.audit (.jobInterrupted job.jobId job.plan.planId))
    return .next

def recoverInterruptedJobs : Program Unit := do
  let jobs ← call .allJobs
  let _ ← forEach recoverJob jobs

/-- The endpoint that cancels a job, for a caller with the given identity: the state it answers, and
whether it asked the task to stop. -/
def cancelJob (jobId : String) (identity : String) : Program (JobState × Bool) := do
  match ← call (.getJob jobId) with
  | none => throw (.httpException 404)
  | some job =>
    if job.ownerIdentity.any (· ≠ identity) then throw (.httpException 404)
    else if isTerminalJobState job.state then return (job.state, false)
    else
      call (.cancelTask jobId)
      let updated ← call (.getJob jobId)
      return ((updated.map (·.state)).getD job.state, true)

/-- The tasks of the gateway processes that share a job store. -/
inductive GatewayTask where
  | run (d : Dispatcher) (jobId : String) (memoryPlan : Option CompiledPlan)
  | reap (intervalSeconds : ℚ) (rounds : ℕ)
  | recover
  | cancel (jobId identity : String)

def GatewayTask.program : GatewayTask → Program Unit
  | run d jobId memoryPlan => (d.runJob jobId memoryPlan).interp (JobStep.program d jobId)
  | reap intervalSeconds rounds => reaperLoop intervalSeconds rounds
  | recover => recoverInterruptedJobs
  | cancel jobId identity => do
    let _ ← cancelJob jobId identity

end Gpucall
