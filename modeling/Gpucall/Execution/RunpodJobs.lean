import Gpucall.Execution.RunpodVllm
import Gpucall.Lib.Layer

/-! The RunPod jobs of one attempt of the dispatcher. The coroutine of the attempt waits for a worker
thread, and the thread goes on when the wait is timed out or cancelled. A job is abandoned when the attempt
has ended and neither a terminal status of the job was observed nor a cancel request sent for it. -/

namespace Gpucall

open Effects

/-- What `json_or_error` returns, if it does not raise. -/
def HttpResponse.data (response : HttpResponse) : Option JsonDict :=
  if response.statusCode ∈ [200, 201, 202] then
    response.json.map fun
      | .obj data => data
      | data => [("output", data)]
  else none

theorem jsonOrError_cases (response : HttpResponse) (message : String) :
    (∃ data, response.data = some data ∧ jsonOrError response message = .ok data) ∨
      response.data = none ∧ ∃ exc, jsonOrError response message = .error exc := by
  unfold HttpResponse.data jsonOrError
  split
  · cases response.json with
    | none => exact .inr ⟨rfl, _, rfl⟩
    | some data => cases data <;> exact .inl ⟨_, rfl, rfl⟩
  · exact .inr ⟨rfl, _, rfl⟩

/-- What a call can do: the clock is always read, and an unfinished loop has no outcome. -/
def PossibleAnswer (e : RunpodEvent) : Prop :=
  match e.op, e.outcome with
  | .stillRunning, _ => False
  | .monotonic, .error _ => False
  | _, _ => True

/-- The job of an attempt: its id once it is obtained, whether a terminal status was observed or a cancel
request sent for it, and whether the polling loop was given an answer that it does not get over. -/
structure JobLog where
  job : Option String := none
  settled : Bool := false
  failed : Bool := false

def RunpodHandle.job (handle : RunpodHandle) : Option String :=
  if handle.nativeQueue then some handle.remoteId else none

def RunpodCall.isRun : RunpodCall → Bool
  | postRun .. => true
  | _ => false

namespace RunpodVllmServerlessAdapter

variable (a : RunpodVllmServerlessAdapter)

/-- The job id in an answer to `/run`. -/
def jobGiven (e : RunpodEvent) : Option String :=
  match e with
  | ⟨.postRun .., .ok response⟩ => response.data.bind a.jobIdIn
  | _ => none

/-- A terminal status of the job is observed, or a cancel request is sent for it. -/
def settles (job : String) (e : RunpodEvent) : Bool :=
  match e with
  | ⟨.getStatus jobId, .ok response⟩ =>
    jobId = job && match response.data.bind (·.lookup "status") with
      | some (.str status) => status ∈ "COMPLETED" :: failedStatuses
      | _ => false
  | ⟨.postCancel jobId, _⟩ => jobId = job
  | _ => false

/-- An answer that the polling loop does not get over: a request that fails, an answer with another HTTP
status or without JSON, a job status without a hash, a worker count without an integer. -/
def fails (e : RunpodEvent) : Bool :=
  match e with
  | ⟨.getStatus _, .ok response⟩ =>
    match response.data with
    | some data =>
      match data.lookup "status" with
      | some (.arr _) | some (.obj _) => true
      | _ => false
    | none => true
  | ⟨.getHealth, .ok response⟩ =>
    if response.statusCode = 404 ∧ a.endpointContract = some "openai-chat-completions" then false
    else
      match response.data with
      | some health => !(a.asyncQueueBlockedReason health).isOk
      | none => true
  | ⟨.getModels, .ok response⟩ => response.statusCode ≠ 404 && response.data.isNone
  | ⟨.getStatus _, .error _⟩ | ⟨.getHealth, .error _⟩ => true
  | ⟨.getModels, .error _⟩ | ⟨.sleep, .error _⟩ => true
  | _ => false

def after (log : JobLog) (e : RunpodEvent) : JobLog :=
  match log.job with
  | none => { log with job := a.jobGiven e }
  | some job => { log with
      settled := log.settled || settles job e
      failed := log.failed || a.fails e }

/-! ## The threads -/

/-- Before each call of `start` there is no job. -/
def startProtocol : Protocol RunpodCall RunpodCall.Res PyExc JobLog where
  pre log _ := log = {}
  allowed _ e := PossibleAnswer e
  after := a.after

/-- Before each call of `wait` the job is neither settled nor lost. -/
def waitProtocol (job : Option String) : Protocol RunpodCall RunpodCall.Res PyExc JobLog where
  pre log op := log = { job } ∧ op.isRun = false
  allowed _ e := PossibleAnswer e
  after := a.after

def startPost (r : Except PyExc RunpodHandle) (log : JobLog) : Prop :=
  log = { job := r.toOption.bind (·.job) }

/-- The loop has settled its job, or an answer has made it fail. -/
def Closed (job : String) (log : JobLog) : Prop :=
  log = { job := some job, settled := true } ∨ log = { job := some job, failed := true }

def waitPost (job : Option String) (log : JobLog) : Prop :=
  match job with
  | none => log = {}
  | some job => Closed job log

theorem wp_healthSync_start :
    a.healthSync.wp a.startProtocol (fun _ log => log = {}) {} := by
  refine Prog.wp_perform_bind.mpr ⟨rfl, fun r _ => ?_⟩
  match r with
  | .error e => rfl
  | .ok response =>
    dsimp only
    split
    · refine Prog.wp_perform_bind.mpr ⟨rfl, fun r _ => ?_⟩
      match r with
      | .error e => rfl
      | .ok models =>
        dsimp only
        split
        · rfl
        · refine Prog.wp_bind.mpr ?_
          cases jsonOrError models _ with
          | ok data => rfl
          | error e => rfl
    · rfl

theorem wp_startNativeSync (plan : CompiledPlan) :
    (a.startNativeSync plan).wp a.startProtocol (fun r log => log = { job := r.toOption }) {} := by
  refine Prog.wp_bind.mpr (Prog.wp_mono a.wp_healthSync_start fun r log h => ?_)
  subst h
  match r with
  | .error e => rfl
  | .ok health =>
    refine Prog.wp_bind.mpr ?_
    cases a.healthPreflightRejectionReason health plan.mode with
    | error e => rfl
    | ok reason =>
      cases reason with
      | some reason => rfl
      | none =>
        refine Prog.wp_bind.mpr ?_
        cases a.nativeVllmInput plan with
        | error e => rfl
        | ok input =>
          refine Prog.wp_perform_bind.mpr ⟨rfl, fun r _ => ?_⟩
          match r with
          | .error e => rfl
          | .ok response =>
            refine Prog.wp_bind.mpr ?_
            obtain ⟨data, hdata, hok⟩ | ⟨hdata, exc, herror⟩ :=
              jsonOrError_cases response "RunPod worker-vLLM native run failed"
            · rw [hok]
              simp only [Prog.wp, startProtocol, after, jobGiven, hdata, Option.bind_some]
              cases a.jobIdIn data with
              | none => rfl
              | some jobId => rfl
            · rw [herror]
              simp only [startProtocol, after, jobGiven, hdata, Option.bind_none]
              rfl

theorem wp_start (plan : CompiledPlan) : (a.start plan).wp a.startProtocol startPost {} := by
  unfold start
  split
  · rfl
  split
  · refine Prog.wp_tryCatch.mpr (Prog.wp_bind.mpr
      (Prog.wp_mono (a.wp_startNativeSync plan) fun r log h => ?_))
    subst h
    match r with
    | .ok jobId => rfl
    | .error (.tupleError error) =>
      dsimp only
      split
      · rfl
      · rfl
    | .error .timeoutError | .error (.governanceError ..) | .error (.valueError _)
    | .error (.httpException _) | .error (.tenantBudgetError ..) | .error (.exception _)
    | .error .cancelledError | .error .generatorExit => rfl
  · rfl

section Polling

variable {job : String}

theorem after_open (e : RunpodEvent) :
    a.after { job := some job } e =
      { job := some job, settled := settles job e, failed := a.fails e } := rfl

/-- The cancel request counts when it is sent, whatever its answer. -/
theorem wp_cancelAndRaise (message : String) (statusCode : ℕ) (code : String) :
    (cancelAndRaise job message statusCode code : RunpodProgram α).wp (a.waitProtocol (some job))
      (fun r log => (∃ exc, r = .error exc) ∧ Closed job log) { job := some job } := by
  have hsent (r : Except PyExc HttpResponse) : a.after { job := some job } ⟨.postCancel job, r⟩ =
      { job := some job, settled := true } := by
    simp [after_open, settles, fails]
  have hclosed : (cancelNativeBestEffort job).wp (a.waitProtocol (some job))
      (fun _ log => Closed job log) { job := some job } := by
    refine Prog.wp_tryCatch.mpr (Prog.wp_perform_bind.mpr ⟨⟨rfl, rfl⟩, fun r _ => ?_⟩)
    match r with
    | .error exc =>
      dsimp only
      split
      · exact .inl (hsent _)
      · exact .inl (hsent _)
    | .ok response =>
      refine Prog.wp_bind.mpr ?_
      cases jsonOrError response _ with
      | ok data => exact .inl (hsent _)
      | error exc =>
        simp only [Prog.wp]
        split
        · exact .inl (hsent _)
        · exact .inl (hsent _)
  refine Prog.wp_bind.mpr (Prog.wp_mono hclosed fun r log h => ?_)
  match r with
  | .ok () => exact ⟨⟨_, rfl⟩, h⟩
  | .error exc => exact ⟨⟨_, rfl⟩, h⟩

theorem asyncQueueBlockedReason_fallback (rest : JsonDict) :
    a.asyncQueueBlockedReason (("workers", fallbackWorkers) :: rest) = .ok none := by
  have hone : a.int (.number "1") = .ok 1 := a.intOfNumber_one
  have hzero : a.int (.number "0") = .ok 0 := a.intOfNumber_zero
  simp [asyncQueueBlockedReason, workersOf, fallbackWorkers, positiveIntFromMapping, List.lookup_cons,
    hone, hzero]
  rfl

/-- A probe leaves the job open exactly when the queue can be judged by its answer. -/
theorem wp_healthSync_wait :
    a.healthSync.wp (a.waitProtocol (some job)) (fun r log => match r with
      | .ok health =>
        log = { job := some job, failed := !(a.asyncQueueBlockedReason health).isOk }
      | .error _ => log = { job := some job, failed := true }) { job := some job } := by
  refine Prog.wp_perform_bind.mpr ⟨⟨rfl, rfl⟩, fun r _ => ?_⟩
  match r with
  | .error e => rfl
  | .ok response =>
    dsimp only
    split
    · rename_i hfallback
      have hopen : (a.waitProtocol (some job)).after { job := some job } ⟨.getHealth, .ok response⟩ =
          { job := some job } := by
        simp [waitProtocol, after_open, settles, fails, hfallback]
      rw [hopen]
      refine Prog.wp_perform_bind.mpr ⟨⟨rfl, rfl⟩, fun r _ => ?_⟩
      match r with
      | .error e => rfl
      | .ok models =>
        dsimp only
        split
        · rename_i hmissing
          simp [Prog.wp, Prog.pure_def, asyncQueueBlockedReason_fallback, waitProtocol, after_open,
            settles, fails, hmissing, Except.isOk, Except.toBool]
        · rename_i hmodels
          refine Prog.wp_bind.mpr ?_
          obtain ⟨data, hdata, hok⟩ | ⟨hdata, exc, herror⟩ :=
            jsonOrError_cases models "RunPod worker-vLLM OpenAI models preflight failed"
          · simp [Prog.wp, Prog.pure_def, hok, hdata, asyncQueueBlockedReason_fallback, waitProtocol,
              after_open, settles, fails, Except.isOk, Except.toBool]
          · simp [Prog.wp, herror, hdata, waitProtocol, after_open, settles, fails, hmodels]
    · rename_i hfallback
      obtain ⟨data, hdata, hok⟩ | ⟨hdata, exc, herror⟩ :=
        jsonOrError_cases response "RunPod worker-vLLM health check failed"
      · simp [Prog.wp, hok, hdata, waitProtocol, after_open, settles, fails, hfallback]
      · simp [Prog.wp, herror, hdata, waitProtocol, after_open, settles, fails, hfallback]

/-- A part of a round leaves the job open when it returns and closed when it raises. -/
def partPost (job : String) (r : Except PyExc α) (log : JobLog) : Prop :=
  match r with
  | .ok _ => log = { job := some job }
  | .error _ => Closed job log

theorem wp_cancelAndRaise_part (message : String) (statusCode : ℕ) (code : String) {s : PollState}
    (p : Prop) [Decidable p] :
    (if p then liftM (cancelAndRaise job message statusCode code : RunpodProgram Unit)
      else pure () : PollCode Unit).wp (a.waitProtocol (some job)) (fun r _ log => partPost job r log) s
      { job := some job } := by
  split
  · refine Local.wp_ofProg.mpr (Prog.wp_mono (a.wp_cancelAndRaise message statusCode code) ?_)
    rintro _ log ⟨⟨exc, rfl⟩, h⟩
    exact h
  · exact Local.wp_pure.mpr rfl

theorem wp_probeHealth (now : ℚ) {s : PollState} :
    (a.probeHealth job now).wp (a.waitProtocol (some job)) (fun r _ log => partPost job r log) s
      { job := some job } := by
  refine Local.wp_write_bind.mpr (Local.wp_bind.mpr (Local.wp_ofProg.mpr
    (Prog.wp_mono a.wp_healthSync_wait fun r log h => ?_)))
  match r with
  | .error exc => exact .inr h
  | .ok health =>
    refine Local.wp_bind.mpr (Local.wp_done.mpr ?_)
    dsimp only at h ⊢
    cases hreason : a.asyncQueueBlockedReason health with
    | error exc =>
      rw [hreason] at h
      exact .inr h
    | ok reason =>
      rw [hreason] at h
      subst h
      cases reason with
      | none => exact Local.wp_write.mpr rfl
      | some reason =>
        exact Local.wp_write_bind.mpr (Local.wp_read_bind.mpr (a.wp_cancelAndRaise_part _ _ _ _))

theorem wp_pollQueued (plan : CompiledPlan) (now : ℚ) {s : PollState} :
    (a.pollQueued plan job now).wp (a.waitProtocol (some job)) (fun r _ log => partPost job r log) s
      { job := some job } := by
  refine Local.wp_write_bind.mpr (Local.wp_read_bind.mpr ?_)
  dsimp only
  split
  · refine Local.wp_bind.mpr (Local.wp_mono (a.wp_probeHealth now) fun r s' log h => ?_)
    match r with
    | .error exc => exact h
    | .ok () =>
      cases h
      exact a.wp_cancelAndRaise_part _ _ _ _
  · exact a.wp_cancelAndRaise_part _ _ _ _

/-- What a round of the loop leaves: an open job for the next round, or a closed one at the end. -/
def pollPost (job : String) : Except PyExc (Option TupleResult) → PollState → JobLog → Prop :=
  Local.roundPost (fun _ log => log = { job := some job }) fun _ _ log => Closed job log

/-- The end of a round that goes on. -/
theorem wp_sleep {s : PollState} :
    (do liftM (request .sleep); return none : PollCode (Option TupleResult)).wp
      (a.waitProtocol (some job)) (pollPost job) s { job := some job } := by
  refine Local.wp_perform_bind.mpr ⟨⟨rfl, rfl⟩, fun r _ => ?_⟩
  match r with
  | .ok () => exact Local.wp_pure.mpr rfl
  | .error exc => exact .inr rfl

theorem wp_part_sleep {part : PollCode Unit} {s : PollState}
    (h : part.wp (a.waitProtocol (some job)) (fun r _ log => partPost job r log) s
      { job := some job }) :
    (do part; liftM (request .sleep); return none : PollCode (Option TupleResult)).wp
      (a.waitProtocol (some job)) (pollPost job) s { job := some job } := by
  refine Local.wp_bind.mpr (Local.wp_mono h fun r s' log h' => ?_)
  match r with
  | .error exc => exact h'
  | .ok () =>
    cases h'
    exact a.wp_sleep

/-- The log after an answer with a status. -/
def statusLog (job : String) : Option Json → JobLog
  | some (.str status) =>
    { job := some job, settled := decide (status ∈ "COMPLETED" :: failedStatuses) }
  | some (.arr _) | some (.obj _) => { job := some job, failed := true }
  | _ => { job := some job }

theorem after_getStatus {response : HttpResponse} {data : JsonDict} (hdata : response.data = some data) :
    a.after { job := some job } ⟨.getStatus job, .ok response⟩ =
      statusLog job (data.lookup "status") := by
  rw [after_open]
  simp only [settles, fails, hdata, Option.bind_some, decide_true, Bool.true_and]
  cases data.lookup "status" with
  | none => rfl
  | some status => cases status <;> rfl

theorem wp_pollAnswer (plan : CompiledPlan) (now : ℚ) (data : JsonDict) {s : PollState} :
    (a.pollAnswer plan job now data).wp (a.waitProtocol (some job)) (pollPost job) s
      (statusLog job (data.lookup "status")) := by
  have hreset : (do
      Local.write fun s => { s with queueSeenAt := none, queueBlockedSeenAt := none }
      liftM (request .sleep)
      return none : PollCode (Option TupleResult)).wp (a.waitProtocol (some job)) (pollPost job) s
        { job := some job } :=
    a.wp_part_sleep (Local.wp_write.mpr rfl)
  unfold pollAnswer
  rcases data.lookup "status" with _ | _ | _ | _ | status | _ | _
  · exact hreset
  · exact hreset
  · exact hreset
  · exact hreset
  · dsimp only
    split
    · rename_i hcompleted
      have hclosed : Closed job (statusLog job (some (.str status))) := .inl (by
        simp [statusLog, hcompleted])
      refine Local.wp_bind.mpr (Local.wp_done.mpr ?_)
      cases a.runsyncResult data with
      | ok result => exact Local.wp_pure.mpr hclosed
      | error exc => exact hclosed
    · rename_i hcompleted
      split
      · rename_i hfailed
        have hclosed : Closed job (statusLog job (some (.str status))) := .inl (by
          simp [statusLog, hfailed])
        refine Local.wp_bind.mpr (Local.wp_done.mpr ?_)
        cases a.terminalStatusDetail data with
        | ok detail => exact Local.wp_bind.mpr (Local.wp_throw.mpr hclosed)
        | error exc => exact hclosed
      · rename_i hfailed
        have hopen : statusLog job (some (.str status)) = { job := some job } := by
          simp [statusLog, hcompleted, hfailed]
        rw [hopen]
        split
        · exact a.wp_part_sleep (a.wp_pollQueued plan now)
        · exact hreset
  · exact Local.wp_bind.mpr (Local.wp_throw.mpr (.inr rfl))
  · exact Local.wp_bind.mpr (Local.wp_throw.mpr (.inr rfl))

theorem wp_pollRound (plan : CompiledPlan) (deadline : Option ℚ) {s : PollState} :
    (a.pollRound plan job deadline).wp (a.waitProtocol (some job)) (pollPost job) s
      { job := some job } := by
  refine Local.wp_perform_bind.mpr ⟨⟨rfl, rfl⟩, fun r hr => ?_⟩
  match r with
  | .error exc => cases hr
  | .ok now =>
    have hround : (do
        let response ← request (.getStatus job)
        let data ← Local.done (jsonOrError response "RunPod worker-vLLM native status failed")
        a.pollAnswer plan job now data : PollCode (Option TupleResult)).wp (a.waitProtocol (some job))
          (pollPost job) s { job := some job } := by
      refine Local.wp_perform_bind.mpr ⟨⟨rfl, rfl⟩, fun r _ => ?_⟩
      match r with
      | .error exc => exact .inr rfl
      | .ok response =>
        refine Local.wp_bind.mpr (Local.wp_done.mpr ?_)
        obtain ⟨data, hdata, hok⟩ | ⟨hdata, exc, herror⟩ :=
          jsonOrError_cases response "RunPod worker-vLLM native status failed"
        · rw [hok]
          have hanswer : (a.pollAnswer plan job now data).wp (a.waitProtocol (some job)) (pollPost job) s
              (a.after { job := some job } ⟨.getStatus job, .ok response⟩) := by
            rw [a.after_getStatus hdata]
            exact a.wp_pollAnswer plan now data
          exact hanswer
        · rw [herror]
          refine .inr ?_
          simp [waitProtocol, after_open, settles, fails, hdata]
    dsimp only
    split
    · refine Local.wp_bind.mpr (Local.wp_ofProg.mpr (Prog.wp_mono (a.wp_cancelAndRaise _ _ _) ?_))
      rintro _ log ⟨⟨exc, rfl⟩, h⟩
      exact h
    · exact hround

theorem wp_waitNativeSync (handle : RunpodHandle) (plan : CompiledPlan) :
    (a.waitNativeSync handle plan).wp (a.waitProtocol (some handle.remoteId))
      (fun _ log => Closed handle.remoteId log) { job := some handle.remoteId } := by
  refine Prog.wp_perform_bind.mpr ⟨⟨rfl, rfl⟩, fun r hr => ?_⟩
  match r with
  | .error exc => cases hr
  | .ok startedAt =>
    refine Local.wp_run (Local.wp_whileTrue (I := fun _ log => log = { job := some handle.remoteId }) _
      (fun s log hlog => ?_) (fun s log hlog => ?_) rfl)
    · subst hlog
      exact Local.wp_ofProg.mpr (Prog.wp_bind.mpr ⟨⟨rfl, rfl⟩, fun r hr => hr.elim⟩)
    · subst hlog
      exact a.wp_pollRound plan _

theorem wp_wait (handle : RunpodHandle) (plan : CompiledPlan) :
    (a.wait handle plan).wp (a.waitProtocol handle.job) (fun _ log => waitPost handle.job log)
      { job := handle.job } := by
  have hbody : (if handle.nativeQueue then a.waitNativeSync handle plan
      else request (.callSync plan)).wp (a.waitProtocol handle.job)
        (fun _ log => waitPost handle.job log) { job := handle.job } := by
    unfold RunpodHandle.job
    split
    · exact a.wp_waitNativeSync handle plan
    · exact ⟨⟨rfl, rfl⟩, fun _ _ => rfl⟩
  refine Prog.wp_tryCatch.mpr (Prog.wp_mono hbody fun r log h => ?_)
  match r with
  | .ok result => exact h
  | .error .timeoutError | .error (.tupleError _) | .error (.governanceError ..)
  | .error (.valueError _) | .error (.httpException _) | .error (.tenantBudgetError ..)
  | .error (.exception _) | .error .cancelledError | .error .generatorExit => exact h

end Polling

end RunpodVllmServerlessAdapter

/-! ## One attempt -/

/-- Where the coroutine of the attempt is: in `start`, between `start` and `wait`, in `wait`, in what
follows it up to `cancel_remote`, or at its end. -/
inductive AttemptPhase where
  | starting
  | started (handle : RunpodHandle)
  | waiting (handle : RunpodHandle)
  | cleaning (handle : RunpodHandle)
  | ended

/-- The worker thread, with what is left of its function. -/
inductive WorkerThread where
  | idle
  | start (p : RunpodProgram RunpodHandle)
  | wait (p : RunpodProgram TupleResult)

/-- `settledAtEnd` is what `log.settled` was when the attempt ended. -/
structure RunpodAttempt where
  phase : AttemptPhase := .starting
  worker : WorkerThread
  log : JobLog := {}
  settledAtEnd : Bool := false

/-- An answer to the worker thread, the return of what the coroutine waits for, or an exception there:
the timeout of `wait`, a cancellation, a failure of the audit log. -/
inductive AttemptAction where
  | answer (e : RunpodEvent)
  | resume
  | interrupt

namespace RunpodAttempt

/-- The attempt ends; a worker thread goes on. -/
def finish (s : RunpodAttempt) : RunpodAttempt :=
  { s with phase := .ended, settledAtEnd := s.log.settled }

/-- The thread waits for an answer about the job. -/
def Polling (s : RunpodAttempt) : Prop :=
  s.log.job.isSome = true ∧ ∃ op k, s.worker = .wait (.step op k)

/-- The attempt has ended and the job is left behind. -/
def Abandoned (s : RunpodAttempt) : Prop :=
  s.phase = .ended ∧ s.log.job.isSome = true ∧ s.settledAtEnd = false

end RunpodAttempt

namespace RunpodVllmServerlessAdapter

variable (a : RunpodVllmServerlessAdapter) (plan : CompiledPlan)

def newAttempt : RunpodAttempt := { worker := .start (a.start plan) }

/-- The steps of the coroutine and of its worker thread in any order. A coroutine that has left the wait
for a thread, by an exception, does not stop the thread. -/
inductive AttemptStep : RunpodAttempt → AttemptAction → RunpodAttempt → Prop where
  | startAnswer (hworker : s.worker = .start (.step op k)) (h : PossibleAnswer ⟨op, r⟩) :
    AttemptStep s (.answer ⟨op, r⟩) { s with worker := .start (k r), log := a.after s.log ⟨op, r⟩ }
  | waitAnswer (hworker : s.worker = .wait (.step op k)) (h : PossibleAnswer ⟨op, r⟩) :
    AttemptStep s (.answer ⟨op, r⟩) { s with worker := .wait (k r), log := a.after s.log ⟨op, r⟩ }
  | startReturns (hphase : s.phase = .starting) (hworker : s.worker = .start (.done (.ok handle))) :
    AttemptStep s .resume { s with phase := .started handle, worker := .idle }
  | startRaises (hphase : s.phase = .starting) (hworker : s.worker = .start (.done (.error exc))) :
    AttemptStep s .resume { s with worker := .idle }.finish
  | startInterrupted (hphase : s.phase = .starting) : AttemptStep s .interrupt s.finish
  | waitBegins (hphase : s.phase = .started handle) :
    AttemptStep s .resume { s with phase := .waiting handle, worker := .wait (a.wait handle plan) }
  | auditRaises (hphase : s.phase = .started handle) :
    AttemptStep s .interrupt { s with phase := .cleaning handle }
  | waitEnds (hphase : s.phase = .waiting handle) (hworker : s.worker = .wait (.done r)) :
    AttemptStep s .resume { s with phase := .cleaning handle, worker := .idle }
  | waitInterrupted (hphase : s.phase = .waiting handle) :
    AttemptStep s .interrupt { s with phase := .cleaning handle }
  | cleanedUp (hphase : s.phase = .cleaning handle) (hreturns : cancelRemote handle = .done r) :
    AttemptStep s .resume s.finish

/-- A run of the attempt, with the state before each of its actions. -/
inductive AttemptRun : List (RunpodAttempt × AttemptAction) → RunpodAttempt → Prop where
  | nil : AttemptRun [] (a.newAttempt plan)
  | concat (hrun : AttemptRun trace s) (hstep : a.AttemptStep plan s action s') :
    AttemptRun (trace ++ [(s, action)]) s'

/-- The steps that leave a job behind: the loop is given an answer that it does not get over, or the
attempt has ended before `/run` is answered with a job id; an exception comes when there is a job and
nothing polls it yet; the attempt ends while its job is still polled. -/
def LeavesJob (s : RunpodAttempt) (action : AttemptAction) : Prop :=
  match action, s.phase with
  | .answer e, .ended => (a.jobGiven e).isSome = true
  | .answer e, _ => s.Polling ∧ a.fails e = true
  | .interrupt, .starting | .interrupt, .started _ => s.log.job.isSome = true
  | .resume, .cleaning _ => s.Polling
  | _, _ => False

/-! ### The invariant -/

/-- The rest of the worker's function meets its specification. -/
def WorkerMeets (log : JobLog) : WorkerThread → Prop
  | .idle => True
  | .start p => p.wp a.startProtocol startPost log
  | .wait p => p.wp (a.waitProtocol log.job) (fun _ log' => waitPost log.job log') log

/-- What is known of the job in each phase, when `lost` says whether a step has left it behind. -/
def Tracks (s : RunpodAttempt) (lost : Prop) : Prop :=
  match s.phase, s.worker with
  | .starting, .start _ => ¬lost
  | .started handle, .idle => s.log = { job := handle.job } ∧ ¬lost
  | .waiting _, .wait _ | .cleaning _, .wait _ =>
    lost ↔ s.log.job.isSome = true ∧ s.log.failed = true
  | .cleaning _, .idle => lost ↔ s.log.job.isSome = true ∧ s.log.settled = false
  | .ended, .start _ => (lost ↔ s.log.job.isSome = true) ∧ s.settledAtEnd = false
  | .ended, _ => lost ↔ s.log.job.isSome = true ∧ s.settledAtEnd = false
  | _, _ => False

section Step

variable {a plan} {s s' : RunpodAttempt} {action : AttemptAction} {lost : Prop}

/-- A `wait` does not change which job there is. -/
theorem after_job {job : Option String} {log : JobLog} {op : RunpodCall} {r : Except PyExc op.Res}
    (h : (a.waitProtocol job).pre log op) : (a.after log ⟨op, r⟩).job = log.job := by
  obtain ⟨rfl, hrun⟩ := h
  cases job with
  | some job => rfl
  | none =>
    cases op with
    | postRun => cases hrun
    | _ => rfl

theorem WorkerMeets.step (hmeets : a.WorkerMeets s.log s.worker) (h : Tracks s lost)
    (hstep : a.AttemptStep plan s action s') : a.WorkerMeets s'.log s'.worker := by
  cases hstep with
  | startAnswer hworker hr =>
    rw [hworker] at hmeets
    exact hmeets.2 _ hr
  | waitAnswer hworker hr =>
    rw [hworker] at hmeets
    unfold WorkerMeets
    dsimp only
    rw [after_job hmeets.1]
    exact hmeets.2 _ hr
  | startReturns | startRaises | waitEnds => trivial
  | startInterrupted | auditRaises | waitInterrupted | cleanedUp => exact hmeets
  | @waitBegins _ handle hphase =>
    have hlog : s.log = { job := handle.job } := by
      unfold Tracks at h
      rw [hphase] at h
      cases hworker : s.worker with
      | idle =>
        rw [hworker] at h
        exact h.1
      | start | wait => simp [hworker] at h
    change (a.wait handle plan).wp (a.waitProtocol s.log.job) (fun _ log => waitPost s.log.job log) s.log
    rw [hlog]
    exact a.wp_wait handle plan

/-- The log of a thread that runs `start` is that of no job or of a new one. -/
theorem WorkerMeets.log_start {p : RunpodProgram RunpodHandle} {log : JobLog}
    (h : a.WorkerMeets log (.start p)) : log.settled = false ∧ log.failed = false := by
  cases p with
  | done r =>
    have hlog : log = { job := r.toOption.bind (·.job) } := h
    simp [hlog]
  | step op k =>
    have hlog : log = {} := h.1
    simp [hlog]

/-- A `wait` that has ended has failed or has settled its job. -/
theorem WorkerMeets.failed_iff {r : Except PyExc TupleResult} {log : JobLog}
    (h : a.WorkerMeets log (.wait (.done r))) :
    log.job.isSome = true ∧ log.failed = true ↔ log.job.isSome = true ∧ log.settled = false := by
  have hpost : waitPost log.job log := h
  cases hjob : log.job with
  | none => simp
  | some job =>
    rw [hjob] at hpost
    rcases hpost with hlog | hlog
    · simp [hlog]
    · simp [hlog]

theorem Tracks.waitAnswer {op : RunpodCall} {k : Except PyExc op.Res → RunpodProgram TupleResult}
    (hworker : s.worker = .wait (.step op k)) (hmeets : a.WorkerMeets s.log s.worker)
    (h : Tracks s lost) (r : Except PyExc op.Res) :
    Tracks { s with worker := .wait (k r), log := a.after s.log ⟨op, r⟩ }
      (lost ∨ a.LeavesJob s (.answer ⟨op, r⟩)) := by
  obtain ⟨phase, worker, log, settledAtEnd⟩ := s
  cases hworker
  obtain ⟨hlog, hrun⟩ : log = { job := log.job } ∧ op.isRun = false := hmeets.1
  have hjob : (a.after log ⟨op, r⟩).job = log.job := after_job hmeets.1
  have hgiven : a.jobGiven ⟨op, r⟩ = none := by
    cases op with
    | postRun => cases hrun
    | _ => rfl
  have hfailed : log.job.isSome = true → ((a.after log ⟨op, r⟩).failed = a.fails ⟨op, r⟩) := by
    intro hsome
    obtain ⟨job, hsome⟩ := Option.isSome_iff_exists.mp hsome
    rw [hsome] at hlog
    subst hlog
    rfl
  have hpolling : RunpodAttempt.Polling ⟨phase, .wait (.step op k), log, settledAtEnd⟩ ↔
      log.job.isSome = true := and_iff_left ⟨op, k, rfl⟩
  have hopen : log.failed = false := by rw [hlog]
  cases phase with
  | starting | started => exact h.elim
  | waiting handle | cleaning handle =>
    simp only [Tracks, LeavesJob, hpolling, hjob] at h ⊢
    have hkept : ¬lost := by simp [h, hopen]
    constructor
    · rintro (hlost | ⟨hsome, hfails⟩)
      · exact absurd hlost hkept
      · exact ⟨hsome, (hfailed hsome).trans hfails⟩
    · rintro ⟨hsome, hfails⟩
      exact .inr ⟨hsome, (hfailed hsome).symm.trans hfails⟩
  | ended =>
    simp only [Tracks, LeavesJob, hjob, hgiven] at h ⊢
    simpa using h

theorem Tracks.startAnswer {op : RunpodCall} {k : Except PyExc op.Res → RunpodProgram RunpodHandle}
    (hworker : s.worker = .start (.step op k)) (hmeets : a.WorkerMeets s.log s.worker)
    (h : Tracks s lost) (r : Except PyExc op.Res) :
    Tracks { s with worker := .start (k r), log := a.after s.log ⟨op, r⟩ }
      (lost ∨ a.LeavesJob s (.answer ⟨op, r⟩)) := by
  obtain ⟨phase, worker, log, settledAtEnd⟩ := s
  cases hworker
  obtain rfl : log = {} := hmeets.1
  cases phase with
  | started | waiting | cleaning => exact h.elim
  | starting =>
    rintro (hlost | ⟨hpolling, -⟩)
    · exact h hlost
    · cases hpolling.1
  | ended =>
    obtain ⟨hlost, hsettled⟩ : (lost ↔ False) ∧ settledAtEnd = false := by simpa [Tracks] using h
    refine ⟨?_, hsettled⟩
    simp [LeavesJob, hlost, after]

/-- One step keeps track of the job. -/
theorem Tracks.step (hmeets : a.WorkerMeets s.log s.worker) (h : Tracks s lost)
    (hstep : a.AttemptStep plan s action s') : Tracks s' (lost ∨ a.LeavesJob s action) := by
  obtain ⟨phase, worker, log, settledAtEnd⟩ := s
  cases hstep with
  | startAnswer hworker hr => exact h.startAnswer hworker hmeets _
  | waitAnswer hworker hr => exact h.waitAnswer hworker hmeets _
  | startReturns hphase hworker =>
    cases hphase
    cases hworker
    have hlost : ¬lost := h
    exact ⟨hmeets, by simpa [LeavesJob] using hlost⟩
  | startRaises hphase hworker =>
    cases hphase
    cases hworker
    obtain rfl : log = {} := hmeets
    simpa [Tracks, LeavesJob, RunpodAttempt.finish] using h
  | startInterrupted hphase =>
    cases hphase
    cases worker with
    | idle | wait => exact h.elim
    | start p =>
      have hlost : ¬lost := h
      refine ⟨?_, (WorkerMeets.log_start hmeets).1⟩
      simp [LeavesJob, RunpodAttempt.finish, hlost]
  | waitBegins hphase =>
    cases hphase
    cases worker with
    | start | wait => exact h.elim
    | idle =>
      obtain ⟨rfl, hlost⟩ := h
      simp [Tracks, LeavesJob, hlost]
  | auditRaises hphase =>
    cases hphase
    cases worker with
    | start | wait => exact h.elim
    | idle =>
      obtain ⟨rfl, hlost⟩ := h
      simp [Tracks, LeavesJob, hlost]
  | waitEnds hphase hworker =>
    cases hphase
    cases hworker
    simp only [Tracks, LeavesJob, or_false] at h ⊢
    exact h.trans (WorkerMeets.failed_iff hmeets)
  | waitInterrupted hphase =>
    cases hphase
    cases worker with
    | idle | start => exact h.elim
    | wait p => simpa [Tracks, LeavesJob] using h
  | cleanedUp hphase =>
    cases hphase
    cases worker with
    | start => exact h.elim
    | idle => simpa [Tracks, LeavesJob, RunpodAttempt.finish, RunpodAttempt.Polling] using h
    | wait p =>
      cases p with
      | done r =>
        simp only [Tracks, LeavesJob, RunpodAttempt.finish, RunpodAttempt.Polling] at h ⊢
        simpa using h.trans (WorkerMeets.failed_iff hmeets)
      | step op k =>
        obtain ⟨hlog, -⟩ : log = { job := log.job } ∧ op.isRun = false := hmeets.1
        simp only [Tracks, LeavesJob, RunpodAttempt.finish, RunpodAttempt.Polling] at h ⊢
        rw [h, hlog]
        simp

end Step

/-! ### Runs -/

theorem run_tracks {trace : List (RunpodAttempt × AttemptAction)} {s : RunpodAttempt}
    (hrun : a.AttemptRun plan trace s) :
    a.WorkerMeets s.log s.worker ∧ Tracks s (∃ x ∈ trace, a.LeavesJob x.1 x.2) := by
  induction hrun with
  | nil => exact ⟨a.wp_start plan, by simp [Tracks, newAttempt]⟩
  | concat _ hstep ih =>
    refine ⟨ih.1.step ih.2 hstep, ?_⟩
    have h := ih.2.step ih.1 hstep
    simpa [or_and_right, exists_or] using h

/-- When the attempt has ended, its job is abandoned exactly when one of the steps has left it behind. -/
theorem not_abandoned_iff {trace : List (RunpodAttempt × AttemptAction)} {s : RunpodAttempt}
    (hrun : a.AttemptRun plan trace s) (hended : s.phase = .ended) :
    ¬s.Abandoned ↔ ∀ x ∈ trace, ¬a.LeavesJob x.1 x.2 := by
  have h : s.Abandoned ↔ ∃ x ∈ trace, a.LeavesJob x.1 x.2 := by
    obtain ⟨-, h⟩ := a.run_tracks plan hrun
    unfold Tracks at h
    rw [hended] at h
    unfold RunpodAttempt.Abandoned
    cases hworker : s.worker with
    | start p =>
      simp only [hworker] at h
      simp [hended, h.1, h.2]
    | idle | wait p =>
      simp only [hworker] at h
      simp [hended, h]
  rw [h]
  push Not
  rfl

end RunpodVllmServerlessAdapter

/-- An adapter with the default limits. -/
def vllmAdapter : RunpodVllmServerlessAdapter where
  name := "runpod-vllm-serverless"
  apiKey := "key"
  endpointId := "endpoint-1"
  model := some "model"
  endpointContract := some "openai-chat-completions"
  intOfNumber text := if text = "0" then .ok 0 else if text = "1" then .ok 1 else .error .typeOrValueError
  intOfText _ := .error .typeOrValueError
  str value :=
    match value with
    | .str text => text
    | value => String.ofList (value.dumps false)
  nativeVllmInput _ := .ok (.obj [])
  runsyncResult _ := .ok { kind := .inline, value := some "ok" }
  terminalStatusDetail _ := .ok none
  nativePollTimeoutSeconds plan := some (plan.timeoutSeconds : ℕ)
  queueSaturationSeconds plan := some (plan.timeoutSeconds : ℕ)
  queueHealthProbeIntervalSeconds := some 15
  queueBlockedSeconds := some 60
  rounds := 2
  intOfNumber_zero := rfl
  intOfNumber_one := rfl

def asyncPlan : CompiledPlan := { echoPlan with mode := .async }

def jsonAnswer (fields : JsonDict) : Except PyExc HttpResponse :=
  .ok { statusCode := 200, json := some (.obj fields) }

/-- The answers of a provider that gives one status of the job. -/
def statusScript (status : Except PyExc HttpResponse) (op : RunpodCall) (u : Unit) :
    Option (Except PyExc op.Res × Unit) :=
  match op with
  | .monotonic => some (.ok 0, u)
  | .getStatus _ => some (status, u)
  | _ => none

namespace RunpodVllmServerlessAdapter

/-- The calls of a `wait` are steps of the attempt. -/
theorem AttemptRun.wait_steps {a : RunpodVllmServerlessAdapter} {plan : CompiledPlan}
    {trace : List (RunpodAttempt × AttemptAction)} {s : RunpodAttempt}
    {p q : RunpodProgram TupleResult} {events : List RunpodEvent} (hsteps : p.Steps events q)
    (hpossible : ∀ e ∈ events, PossibleAnswer e) (hrun : a.AttemptRun plan trace s)
    (hworker : s.worker = .wait p) :
    ∃ trace', a.AttemptRun plan trace'
      { s with worker := .wait q, log := events.foldl a.after s.log } := by
  induction hsteps generalizing trace s with
  | nil =>
    rw [← hworker]
    exact ⟨trace, hrun⟩
  | cons hsteps ih =>
    have hstep := hrun.concat (.waitAnswer hworker (hpossible _ List.mem_cons_self))
    exact ih (fun e he => hpossible e (by simp [he])) hstep rfl

/-- A job is started, its status is asked for once, and the attempt ends. -/
theorem run_statusScript (status : Except PyExc HttpResponse) (settled : Bool)
    (h : ((vllmAdapter.wait (vllmAdapter.nativeHandle "job-1") asyncPlan).answer
      (statusScript status) ()).any (fun x =>
        let log := x.1.foldl vllmAdapter.after { job := some "job-1" }
        log.job == some "job-1" && log.settled == settled) = true) :
    ∃ trace s, vllmAdapter.AttemptRun asyncPlan trace s ∧ s.phase = .ended ∧
      s.log.job = some "job-1" ∧ s.settledAtEnd = settled := by
  have hstart : vllmAdapter.AttemptRun asyncPlan [] _ := .nil
  have hhealth := hstart.concat (show AttemptStep _ _ _ (.answer ⟨.getHealth,
    jsonAnswer [("workers", .obj [])]⟩) _ from .startAnswer rfl trivial)
  have hjob := hhealth.concat (show AttemptStep _ _ _ (.answer ⟨.postRun _ _ _,
    jsonAnswer [("id", .str "job-1")]⟩) _ from .startAnswer rfl trivial)
  have hwait := (hjob.concat (.startReturns rfl rfl)).concat (.waitBegins rfl)
  obtain ⟨⟨events, result, u⟩, hanswer, hx⟩ := (Option.any_eq_true _ _).mp h
  have hexec := Prog.Exec.of_answer (W := fun u e u' => statusScript status e.op u = some (e.outcome, u'))
    (fun h => h) hanswer
  have hpossible : ∀ e ∈ events, PossibleAnswer e := hexec.forall fun {u e u'} hw => by
    obtain ⟨op, r⟩ := e
    cases op with
    | monotonic =>
      cases hw
      trivial
    | stillRunning => cases hw
    | _ => trivial
  obtain ⟨trace, hrun⟩ := AttemptRun.wait_steps hexec.steps hpossible hwait rfl
  have hend := (hrun.concat (.waitEnds rfl rfl)).concat (.cleanedUp rfl rfl)
  simp only [Bool.and_eq_true, beq_iff_eq] at hx
  exact ⟨_, _, hend, rfl, hx.1, hx.2⟩

theorem not_abandoned_iff_completed : ∃ trace s, vllmAdapter.AttemptRun asyncPlan trace s ∧
    s.phase = .ended ∧ s.log.job = some "job-1" ∧ ¬s.Abandoned ∧
    ∀ x ∈ trace, ¬vllmAdapter.LeavesJob x.1 x.2 := by
  obtain ⟨trace, s, hrun, hended, hjob, hsettled⟩ :=
    run_statusScript (jsonAnswer [("status", .str "COMPLETED")]) true (by decide +kernel)
  have hkept : ¬s.Abandoned := by
    rintro ⟨-, -, hleft⟩
    rw [hsettled] at hleft
    cases hleft
  exact ⟨trace, s, hrun, hended, hjob, hkept,
    (not_abandoned_iff vllmAdapter asyncPlan hrun hended).mp hkept⟩

/-- A status request that is answered with 503 ends the attempt, and the job goes on. -/
theorem not_neverAbandoned : ¬∀ (a : RunpodVllmServerlessAdapter) (plan : CompiledPlan)
    (trace : List (RunpodAttempt × AttemptAction)) (s : RunpodAttempt),
    a.AttemptRun plan trace s → ¬s.Abandoned := by
  intro h
  obtain ⟨trace, s, hrun, hended, hjob, hsettled⟩ :=
    run_statusScript (.ok { statusCode := 503, json := none }) false (by decide +kernel)
  exact h vllmAdapter asyncPlan trace s hrun ⟨hended, by simp [hjob], hsettled⟩

end RunpodVllmServerlessAdapter

end Gpucall
