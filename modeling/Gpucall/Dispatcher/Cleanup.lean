import Gpucall.Dispatcher.Rules
import Gpucall.Lib.Each
import Gpucall.Lib.Layer

/-! The cleanup of remote handles: however an attempt ends, the handle that its adapter has returned is
given to `cancel_remote` of the same adapter, once and before another tuple is started. A failure of
`cancel_remote` is not seen in the outcome of the call. -/

namespace Gpucall

open Effects

/-! ## The handles of one call -/

/-- The handles that the adapters of one call have returned and those given to `cancel_remote`, in
order, each with its tuple. -/
structure HandleLog where
  started : List (String × RemoteHandle) := []
  cleaned : List (String × RemoteHandle) := []

/-- A call of `cancel_remote` counts whatever its outcome. -/
def HandleLog.after (log : HandleLog) (e : CallEvent) : HandleLog :=
  match e with
  | ⟨.start tuple _, .ok handle⟩ => { log with started := log.started ++ [(tuple, handle)] }
  | ⟨.cancelRemote tuple handle, _⟩ => { log with cleaned := log.cleaned ++ [(tuple, handle)] }
  | _ => log

/-- A tuple is started when no handle is in hand, and only the handle in hand is cleaned up. -/
def handleProtocol : Protocol Call Call.Res PyExc HandleLog where
  pre log op :=
    match op with
    | .start .. => log.started = log.cleaned
    | .cancelRemote tuple handle => log.started = log.cleaned ++ [(tuple, handle)]
    | _ => True
  allowed _ e := Possible e
  after := HandleLog.after

theorem handleProtocol_stays {op : Call} (hstart : ∀ tuple plan, op ≠ .start tuple plan)
    (hcancel : ∀ tuple handle, op ≠ .cancelRemote tuple handle) (I : HandleLog → Prop) :
    (call op).Stays handleProtocol I := by
  refine fun log h => Prog.wp_perform.mpr ⟨?_, fun r _ => ?_⟩
  · cases op with
    | start => exact absurd rfl (hstart _ _)
    | cancelRemote => exact absurd rfl (hcancel _ _)
    | _ => trivial
  · cases op with
    | start => exact absurd rfl (hstart _ _)
    | cancelRemote => exact absurd rfl (hcancel _ _)
    | _ => exact h

/-- An invariant that speaks of the handle variable and the log only. -/
theorem handleProtocol_routine (I : Option RemoteHandle → HandleLog → Prop) :
    Routine handleProtocol fun s => I s.handle where
  stays {op} h s := handleProtocol_stays (by rintro _ _ rfl; cases h) (by rintro _ _ rfl; cases h) _
  running _ := ⟨trivial, fun _ h => h⟩
  lastError _ h := h
  streamYielded _ h := h

/-- The recorders that `execute_sync` is called with: none, one of the caller, or that of a job. -/
inductive KnownRecorder : Option Recorder → Prop where
  | none : KnownRecorder none
  | caller : KnownRecorder (some callerRecorder)
  | job (jobId : String) : KnownRecorder (some (asyncAttemptRecorder jobId))

theorem KnownRecorder.stays {recorder : Option Recorder} (h : KnownRecorder recorder)
    (I : HandleLog → Prop) : RecorderStays handleProtocol I recorder := by
  cases h with
  | none => exact recorderStays_none _ _
  | caller =>
    rintro _ ⟨⟩ attempt
    exact handleProtocol_stays (by simp) (by simp) _
  | job jobId =>
    exact recorderStays_asyncAttemptRecorder (handleProtocol_stays (by simp) (by simp) _) fun _ =>
      (handleProtocol_stays (by simp) (by simp) _).bind fun _ =>
        handleProtocol_stays (by simp) (by simp) _

namespace Dispatcher

variable (d : Dispatcher)

/-! ## One attempt -/

/-- Every handle is cleaned up. -/
def Cleaned (log : HandleLog) : Prop := log.started = log.cleaned

/-- The handle in the variable, if there is one, is the one handle of the tuple not cleaned up. -/
def InHand (tuple : String) (handle : Option RemoteHandle) (log : HandleLog) : Prop :=
  log.started = log.cleaned ++ (handle.map (tuple, ·)).toList

theorem cleaned_inHand {tuple : String} {log : HandleLog} (h : Cleaned log) :
    InHand tuple none log := by
  unfold InHand
  rw [h]
  simp

theorem stays_acquireWithWait_handle (I : Option RemoteHandle → HandleLog → Prop) (tuple : String)
    (workloadScope : Option String) (waitSeconds : ℚ) :
    (d.acquireWithWait tuple workloadScope waitSeconds).Stays handleProtocol fun s => I s.handle := by
  have hroutine := handleProtocol_routine I
  have hacquire : (liftM (call (.acquire tuple workloadScope)) :
      Code AdmissionDecision).Stays handleProtocol fun s => I s.handle :=
    Local.stays_ofProg fun _ => handleProtocol_stays (by simp) (by simp) _
  refine (hroutine.call rfl).bind fun now => ?_
  refine Local.Stays.whileTrue _ (fun _ _ _ => hroutine.stillRunning) (hacquire.bind fun decision => ?_)
  cases decision with
  | allowed lease => exact Local.stays_pure _
  | rejected reason secs =>
    dsimp only
    split
    · exact Local.stays_pure _
    · refine (keeps_sleepUntil hroutine.quiet _).stays.bind fun more => ?_
      split
      · exact Local.stays_pure _
      · exact Local.stays_pure _

/-- The part of the `try` block up to the remote handle. -/
theorem startAttempt_inHand (plan : CompiledPlan) (attempt : ProviderEgressAttempt)
    {rejected : AdmissionReason → Option ℚ → Code Unit}
    (hrejected : ∀ reason secs,
      (rejected reason secs).Stays handleProtocol fun s => InHand attempt.tuple s.handle)
    {s : Locals} {log : HandleLog} (hnone : s.handle = none) (h : Cleaned log) :
    (d.startAttempt plan attempt rejected).wp handleProtocol
      (fun _ s' => InHand attempt.tuple s'.handle) s log := by
  have hroutine := handleProtocol_routine (InHand attempt.tuple)
  refine Local.wp_bind.mpr (Local.wp_mono (d.stays_acquireWithWait_handle
    (fun handle log => handle = none ∧ Cleaned log) _ _ _ s log ⟨hnone, h⟩) fun r s' log' h' => ?_)
  have hinHand : InHand attempt.tuple s'.handle log' := by
    rw [h'.1]
    exact cleaned_inHand h'.2
  match r with
  | .error e => exact hinHand
  | .ok (.rejected reason secs) =>
    exact Local.Stays.bind (hroutine.call rfl) (fun _ => (keeps_setLastError hroutine.quiet _).stays.bind
      fun _ => (hrejected reason secs).bind fun _ => Local.stays_pure _) s' log' hinHand
  | .ok (.allowed lease) =>
    -- the variable stays empty until the adapter has returned
    have hbefore := handleProtocol_routine fun handle log => handle = none ∧ Cleaned log
    have hkept : ∀ r s log, (fun (_ : Except PyExc Unit) (s : Locals) log =>
        s.handle = none ∧ Cleaned log) r s log → InHand attempt.tuple s.handle log := by
      rintro _ s log ⟨hnone, hcleaned⟩
      rw [hnone]
      exact cleaned_inHand hcleaned
    refine Local.wp_write_bind.mpr (Local.wp_bind.mpr (Local.wp_mono
      (hbefore.call rfl _ log' h') fun r s log h => ?_))
    match r with
    | .error e => exact hkept (.error e) s log h
    | .ok () =>
      refine Local.wp_bind.mpr (Local.wp_ofProg.mpr (Prog.wp_mono
        (wp_enforcePreExecutionSecurityGate (hbefore.stays rfl s) h) fun r log h => ?_))
      match r with
      | .error e => exact hkept (.error e) s log h.1
      | .ok () =>
        refine Local.wp_perform_bind.mpr ⟨h.1.2, fun r _ => ?_⟩
        match r with
        | .error e => exact hkept (.error e) s log h.1
        | .ok handle =>
          refine Local.wp_write_bind.mpr ?_
          refine Local.Stays.bind (hroutine.call rfl) (fun _ => Local.stays_pure _) _ _ ?_
          change log.started ++ [(attempt.tuple, handle)] = log.cleaned ++ [(attempt.tuple, handle)]
          rw [h.1.2]

theorem syncBody_inHand {recorder : Option Recorder} (hrec : KnownRecorder recorder)
    (plan : CompiledPlan) (attempt : ProviderEgressAttempt) {s : Locals} {log : HandleLog}
    (hnone : s.handle = none) (h : Cleaned log) :
    (d.syncBody plan recorder attempt).wp handleProtocol
      (fun _ s' => InHand attempt.tuple s'.handle) s log := by
  have hroutine := handleProtocol_routine (InHand attempt.tuple)
  have hrecord := fun s : Locals => hrec.stays (InHand attempt.tuple s.handle)
  refine Local.wp_bind.mpr (Local.wp_mono (d.startAttempt_inHand plan attempt
    (fun _ _ => stays_recordProviderAttempt hrecord) hnone h) fun r s' log' h' => ?_)
  match r with
  | .error e => exact h'
  | .ok none => exact Local.wp_pure.mpr h'
  | .ok (some handle) =>
    refine Local.Stays.bind (hroutine.call rfl) (fun _ => ?_) s' log' h'
    exact (hroutine.call rfl).bind fun _ => (hroutine.call rfl).bind fun _ =>
      (hroutine.call rfl).bind fun _ =>
        (stays_recordProviderAttempt hrecord).bind fun _ => Local.stays_pure _

theorem streamBody_inHand (plan : CompiledPlan) (attempt : ProviderEgressAttempt) {s : Locals}
    {log : HandleLog} (hnone : s.handle = none) (h : Cleaned log) :
    (d.streamBody plan attempt).wp handleProtocol
      (fun _ s' => InHand attempt.tuple s'.handle) s log := by
  have hroutine := handleProtocol_routine (InHand attempt.tuple)
  refine Local.wp_bind.mpr (Local.wp_mono (d.startAttempt_inHand plan attempt
    (fun _ _ => Local.stays_pure _) hnone h) fun r s' log' h' => ?_)
  match r with
  | .error e => exact h'
  | .ok none => exact Local.wp_pure.mpr h'
  | .ok (some handle) =>
    refine Local.Stays.bind (hroutine.call rfl) (fun _ => Local.Stays.bind ?_ fun _ => ?_) s' log' h'
    · exact Local.Stays.whileTrue d.rounds (fun _ _ _ => hroutine.stillRunning)
        (stays_streamRound hroutine plan attempt handle)
    · exact (hroutine.call rfl).bind fun _ => (hroutine.call rfl).bind fun _ => Local.stays_pure _

theorem stays_releaseLease_cleaned : releaseLease.Stays handleProtocol fun _ => Cleaned := by
  refine Local.stays_read.bind fun s => ?_
  split
  · exact Local.stays_ofProg fun _ => handleProtocol_stays (by simp) (by simp) _
  · exact Local.stays_pure _

/-- The handle counts as cleaned up from the call of `cancel_remote` on, whatever comes after it. -/
theorem cleanupRemote_cleaned (handle : RemoteHandle) (attempt : ProviderEgressAttempt) {s : Locals}
    {log : HandleLog} (h : InHand attempt.tuple (some handle) log) :
    (cleanupRemote handle attempt).wp handleProtocol (fun _ _ => Cleaned) s log := by
  have hroutine := handleProtocol_routine fun _ => Cleaned
  have hcleaned : Cleaned { log with cleaned := log.cleaned ++ [(attempt.tuple, handle)] } := h
  refine Local.wp_bind.mpr (Local.wp_tryCatch.mpr
    (Local.wp_perform_bind.mpr ⟨h, fun r _ => ?_⟩))
  cases r with
  | ok u => exact Local.wp_pure.mpr (hroutine.call rfl s _ hcleaned)
  | error exc =>
    dsimp only
    split
    · exact Local.wp_pure.mpr (hroutine.call rfl s _ hcleaned)
    · exact Local.wp_throw.mpr hcleaned

theorem finishAttempt_cleaned (attempt : ProviderEgressAttempt) {s : Locals} {log : HandleLog}
    (h : InHand attempt.tuple s.handle log) :
    (finishAttempt attempt).wp handleProtocol (fun _ _ => Cleaned) s log := by
  refine Local.wp_read_bind.mpr ?_
  cases hhandle : s.handle with
  | none =>
    rw [hhandle] at h
    refine stays_releaseLease_cleaned s log ?_
    simpa [InHand, Cleaned] using h
  | some handle =>
    rw [hhandle] at h
    refine Local.wp_bind.mpr (Local.wp_mono (cleanupRemote_cleaned handle attempt h)
      fun r s' log' h' => ?_)
    match r with
    | .error e => exact h'
    | .ok () => exact stays_releaseLease_cleaned s' log' h'

/-- An attempt cleans up the handle that it was given, however it ends. -/
theorem attempt_cleaned {body : Code (Flow β)} {clauses : PyExc → Code (Flow β)}
    (attempt : ProviderEgressAttempt) {s : Locals} {log : HandleLog}
    (hbody : body.wp handleProtocol (fun _ s' => InHand attempt.tuple s'.handle) s log)
    (hclauses : ∀ exc, (clauses exc).Stays handleProtocol fun s => InHand attempt.tuple s.handle) :
    ((body.tryCatch clauses).tryFinally (finishAttempt attempt)).wp handleProtocol
      (fun _ _ => Cleaned) s log := by
  have hinHand : (body.tryCatch clauses).wp handleProtocol
      (fun _ s' => InHand attempt.tuple s'.handle) s log := by
    refine Local.wp_tryCatch.mpr (Local.wp_mono hbody fun r s' log' h => ?_)
    cases r with
    | ok a => exact h
    | error e => exact hclauses e s' log' h
  refine Local.wp_tryFinally.mpr (Local.wp_mono hinHand fun r s' log' h => ?_)
  refine Local.wp_mono (finishAttempt_cleaned attempt h) fun r' _ _ h' => ?_
  match r' with
  | .ok () => exact h'
  | .error e => exact h'

/-! ## Whole calls -/

theorem cleaned_routine : Routine handleProtocol fun _ => Cleaned :=
  handleProtocol_routine fun _ => Cleaned

theorem executeSync_cleaned {recorder : Option Recorder} (hrec : KnownRecorder recorder)
    (plan : CompiledPlan) : (d.executeSync plan recorder).Stays handleProtocol Cleaned := by
  refine stays_fallbackLoop cleaned_routine fun tuple _ =>
    d.stays_syncTuple_of_attempts cleaned_routine (hrec.stays _) tuple
      fun attempts attempt s log hnone _ h => attempt_cleaned _ ?_ fun exc => ?_
  · exact d.syncBody_inHand hrec plan _ hnone h
  · exact d.stays_syncExcept (handleProtocol_routine _).quiet (fun _ => hrec.stays _)
      (fun _ => (handleProtocol_routine _).call rfl) plan _ attempts exc

theorem executeStream_cleaned (plan : CompiledPlan) :
    (d.executeStream plan).Stays handleProtocol Cleaned := by
  refine stays_fallbackLoop cleaned_routine fun tuple _ =>
    d.stays_streamTuple_of_attempt cleaned_routine tuple
      fun s log hnone _ h => attempt_cleaned _ ?_ fun exc => ?_
  · exact d.streamBody_inHand plan _ hnone h
  · exact stays_streamExcept (handleProtocol_routine _).quiet _ exc

/-! ## Failures of the cleanup -/

/-- What follows an `Exception` of `cancel_remote` is what follows its return, apart from the event that
is audited. -/
def cleanupMasked : CallCondition Call Call.Res PyExc where
  holds op k :=
    match op, k with
    | .cancelRemote _ handle, k => ∃ attempt next,
        k (.ok ()) = .step (.audit (.leaseCleanedUp handle attempt)) next ∧
        ∀ exc, exc.isException = true →
          k (.error exc) = .step (.audit (.leaseCleanupFailed handle attempt exc)) next
    | _, _ => True
  andThen {α β op k} f h := by
    cases op with
    | cancelRemote tuple handle =>
      obtain ⟨attempt, next, hok, herror⟩ := h
      exact ⟨attempt, fun r => (next r).andThen f, congrArg (·.andThen f) hok,
        fun exc hexc => congrArg (·.andThen f) (herror exc hexc)⟩
    | _ => trivial

theorem masked_call {op : Call} (h : ∀ tuple handle, op ≠ .cancelRemote tuple handle) :
    (call op).Each cleanupMasked := by
  cases op with
  | cancelRemote tuple handle => exact absurd rfl (h tuple handle)
  | _ => exact ⟨trivial, fun _ => trivial⟩

theorem masked_lift {op : Call} (h : ∀ tuple handle, op ≠ .cancelRemote tuple handle) :
    (liftM (call op) : Code op.Res).Each cleanupMasked :=
  Local.each_ofProg (masked_call h)

/-- The one place where a handle is cleaned up. -/
theorem masked_cleanupRemote (handle : RemoteHandle) (attempt : ProviderEgressAttempt) :
    (cleanupRemote handle attempt).Each cleanupMasked := by
  intro s
  refine ⟨⟨attempt, fun r => .done (.ok (r, s)), rfl, fun exc hexc => ?_⟩, fun r => ?_⟩
  · cases exc with
    | cancelledError | generatorExit => cases hexc
    | _ => rfl
  · match r with
    | .ok () => exact ⟨trivial, fun _ => trivial⟩
    | .error exc =>
      cases exc with
      | cancelledError | generatorExit => trivial
      | _ => exact ⟨trivial, fun _ => trivial⟩

theorem masked_finishAttempt (attempt : ProviderEgressAttempt) :
    (finishAttempt attempt).Each cleanupMasked := by
  have hrelease : releaseLease.Each cleanupMasked := by
    refine Local.each_read.bind fun s => ?_
    split
    · exact masked_lift (by simp)
    · exact Local.each_pure ()
  refine Local.each_read.bind fun s => ?_
  split
  · exact (masked_cleanupRemote _ attempt).bind fun _ => hrelease
  · exact hrelease

theorem masked_stillRunning : (liftM (stillRunning : Program α) : Code α).Each cleanupMasked :=
  Local.each_ofProg (Prog.Each.bind (masked_call (by simp : ∀ tuple handle, Call.stillRunning ≠ .cancelRemote tuple handle))
    fun never => never.elim)

theorem masked_setLastError (error : TupleError) : (setLastError error).Each cleanupMasked :=
  Local.each_write _

theorem masked_acquireWithWait (tuple : String) (workloadScope : Option String) (waitSeconds : ℚ) :
    (d.acquireWithWait tuple workloadScope waitSeconds).Each cleanupMasked := by
  have hsleep (deadline : ℚ) : (sleepUntil deadline).Each cleanupMasked := by
    refine (masked_lift (by simp)).bind fun now => ?_
    split
    · exact Local.each_pure false
    · exact (masked_lift (by simp)).bind fun _ => (masked_lift (by simp)).bind fun _ =>
        Local.each_pure true
  refine (masked_lift (by simp)).bind fun now => ?_
  refine Local.Each.whileTrue masked_stillRunning ((masked_lift (by simp)).bind fun decision => ?_) _
  cases decision with
  | allowed lease => exact Local.each_pure _
  | rejected reason secs =>
    dsimp only
    split
    · exact Local.each_pure _
    · refine (hsleep _).bind fun more => ?_
      split
      · exact Local.each_pure _
      · exact Local.each_pure _

theorem masked_startAttempt (plan : CompiledPlan) (attempt : ProviderEgressAttempt)
    {rejected : AdmissionReason → Option ℚ → Code Unit}
    (hrejected : ∀ reason secs, (rejected reason secs).Each cleanupMasked) :
    (d.startAttempt plan attempt rejected).Each cleanupMasked := by
  have hgate : (enforcePreExecutionSecurityGate plan).Each cleanupMasked := by
    refine (masked_call (by simp)).bind fun now => ?_
    split
    · trivial
    · trivial
  refine (d.masked_acquireWithWait _ _ _).bind fun decision => ?_
  cases decision with
  | rejected reason secs =>
    exact (masked_lift (by simp)).bind fun _ => (masked_setLastError _).bind fun _ =>
      (hrejected reason secs).bind fun _ => Local.each_pure none
  | allowed lease =>
    exact (Local.each_write _).bind fun _ => (masked_lift (by simp)).bind fun _ =>
      (Local.each_ofProg hgate).bind fun _ => (masked_lift (by simp)).bind fun _ =>
        (Local.each_write _).bind fun _ => (masked_lift (by simp)).bind fun _ => Local.each_pure _

theorem masked_recordProviderAttempt {recorder : Option Recorder} (hrec : KnownRecorder recorder)
    (attempt : ProviderEgressAttempt) (outcome : ProviderAttemptOutcome) (reason : Option String)
    (error : Option TupleError) :
    (liftM (recordProviderAttempt recorder attempt outcome reason error) : Code Unit).Each
      cleanupMasked := by
  refine Local.each_ofProg ?_
  cases hrec with
  | none => trivial
  | caller => exact masked_call (by simp)
  | job jobId =>
    refine (masked_call (by simp)).bind fun current => ?_
    cases current with
    | none => trivial
    | some current => exact (masked_call (by simp)).bind fun _ => masked_call (by simp)

theorem masked_providerFailure (attempt : ProviderEgressAttempt) (exc : TupleError) :
    (providerFailure attempt exc).Each cleanupMasked := by
  refine (masked_lift (by simp)).bind fun _ => ?_
  dsimp only
  split
  · exact (masked_lift (by simp)).bind fun _ => masked_lift (by simp)
  · exact masked_lift (by simp)

theorem masked_timeoutFailure (attempt : ProviderEgressAttempt) (message : String) :
    (timeoutFailure attempt message).Each cleanupMasked :=
  (masked_setLastError _).bind fun _ => (masked_lift (by simp)).bind fun _ =>
    (masked_lift (by simp)).bind fun _ => (masked_lift (by simp)).bind fun _ => Local.each_pure _

theorem masked_unexpectedFailure (attempt : ProviderEgressAttempt) (exc : PyExc) :
    (unexpectedFailure attempt exc).Each cleanupMasked :=
  (masked_setLastError _).bind fun _ => (masked_lift (by simp)).bind fun _ => masked_lift (by simp)

theorem masked_throwOr {p : Prop} [Decidable p] (exc : PyExc) (flow : Flow β) :
    (if p then throw exc else pure flow : Code (Flow β)).Each cleanupMasked := by
  split
  · exact Local.each_throw _
  · exact Local.each_pure _

theorem masked_streamExcept (attempt : ProviderEgressAttempt) (exc : PyExc) :
    (streamExcept attempt exc).Each cleanupMasked := by
  cases exc with
  | tupleError exc =>
    exact (masked_setLastError _).bind fun _ => (masked_providerFailure _ _).bind fun _ =>
      Local.each_read.bind fun _ => masked_throwOr _ _
  | timeoutError =>
    exact (masked_timeoutFailure _ _).bind fun _ => Local.each_read.bind fun _ => masked_throwOr _ _
  | cancelledError => exact Local.each_throw _
  | generatorExit => exact Local.each_throw _
  | governanceError | valueError | httpException | tenantBudgetError | exception =>
    exact (masked_unexpectedFailure _ _).bind fun _ => Local.each_read.bind fun _ => masked_throwOr _ _

theorem masked_outputRejected {recorder : Option Recorder} (hrec : KnownRecorder recorder)
    (plan : CompiledPlan) (attempt : ProviderEgressAttempt) (attempts : ℕ) (exc : TupleError)
    (code : String) :
    (d.outputRejected plan recorder attempt attempts exc code).Each cleanupMasked := by
  refine (masked_lift (by simp)).bind fun _ => ?_
  split
  · exact (masked_lift (by simp)).bind fun _ => (masked_setLastError _).bind fun _ =>
      (masked_recordProviderAttempt hrec _ _ _ _).bind fun _ => Local.each_pure _
  · split
    · exact Local.each_pure _
    · exact (masked_setLastError _).bind fun _ =>
        (masked_recordProviderAttempt hrec _ _ _ _).bind fun _ => masked_throwOr _ _

theorem masked_syncExcept {recorder : Option Recorder} (hrec : KnownRecorder recorder)
    (plan : CompiledPlan) (attempt : ProviderEgressAttempt) (attempts : ℕ) (exc : PyExc) :
    (d.syncExcept plan recorder attempt attempts exc).Each cleanupMasked := by
  cases exc with
  | tupleError exc =>
    refine (masked_setLastError _).bind fun _ => ?_
    split
    · exact d.masked_outputRejected hrec plan attempt attempts exc _
    · exact (masked_providerFailure _ _).bind fun _ =>
        (masked_recordProviderAttempt hrec _ _ _ _).bind fun _ => masked_throwOr _ _
  | timeoutError =>
    exact (masked_timeoutFailure _ _).bind fun _ =>
      (masked_recordProviderAttempt hrec _ _ _ _).bind fun _ => Local.each_pure _
  | cancelledError => exact Local.each_throw _
  | generatorExit => exact Local.each_throw _
  | governanceError | valueError | httpException | tenantBudgetError | exception =>
    exact (masked_unexpectedFailure _ _).bind fun _ =>
      (masked_recordProviderAttempt hrec _ _ _ _).bind fun _ => Local.each_pure _

theorem masked_fallbackLoop {round : String → Code (Flow β)} (plan : CompiledPlan)
    (hround : ∀ tuple, (round tuple).Each cleanupMasked) :
    (fallbackLoop plan round).Each cleanupMasked := by
  refine Local.Each.run ((masked_lift (by simp)).bind fun _ => ?_) {}
  refine (Local.Each.forEach hround _).bind fun result => ?_
  cases result with
  | some result => exact Local.each_pure _
  | none => exact Local.each_read.bind fun _ => Local.each_throw _

theorem masked_executeSync {recorder : Option Recorder} (hrec : KnownRecorder recorder)
    (plan : CompiledPlan) : (d.executeSync plan recorder).Each cleanupMasked := by
  have hbody (attempt : ProviderEgressAttempt) :
      (d.syncBody plan recorder attempt).Each cleanupMasked := by
    refine (d.masked_startAttempt plan attempt fun _ _ =>
      masked_recordProviderAttempt hrec _ _ _ _).bind fun handle => ?_
    cases handle with
    | none => exact Local.each_pure _
    | some handle =>
      exact (masked_lift (by simp)).bind fun _ => (masked_lift (by simp)).bind fun _ =>
        (masked_lift (by simp)).bind fun _ => (masked_lift (by simp)).bind fun _ =>
          (masked_recordProviderAttempt hrec _ _ _ _).bind fun _ => Local.each_pure _
  have hattempt (tuple : String) (attempts attempt : ℕ) :
      (d.syncAttempt plan recorder tuple attempts attempt).Each cleanupMasked := by
    refine Local.each_read.bind fun s => ?_
    split
    · exact (masked_lift (by simp)).bind fun _ => Local.each_pure _
    dsimp only
    split
    · exact (masked_lift (by simp)).bind fun _ => (masked_setLastError _).bind fun _ =>
        (masked_recordProviderAttempt hrec _ _ _ _).bind fun _ => Local.each_pure _
    · exact (Local.each_write _).bind fun _ => Local.Each.tryFinally (Local.Each.tryCatch (hbody _)
        fun exc => d.masked_syncExcept hrec plan _ attempts exc) (masked_finishAttempt _)
  refine masked_fallbackLoop plan fun tuple => (masked_lift (by simp)).bind fun available => ?_
  split
  · exact Local.each_pure _
  split
  · exact Local.each_pure _
  refine (Local.Each.forEach (hattempt tuple _) _).bind fun result => ?_
  cases result with
  | some result => exact Local.each_pure _
  | none => exact Local.each_pure _

theorem masked_executeStream (plan : CompiledPlan) :
    (d.executeStream plan).Each cleanupMasked := by
  have hround (attempt : ProviderEgressAttempt) (handle : RemoteHandle) :
      (streamRound plan attempt handle).Each cleanupMasked := by
    refine (masked_lift (by simp)).bind fun event => ?_
    cases event with
    | none => exact Local.each_pure _
    | some event =>
      dsimp only
      split
      · exact Local.each_throw _
      · exact (Local.each_write _).bind fun _ => (masked_lift (by simp)).bind fun _ =>
          Local.each_pure _
  have hbody (attempt : ProviderEgressAttempt) :
      (d.streamBody plan attempt).Each cleanupMasked := by
    refine (d.masked_startAttempt plan attempt fun _ _ => Local.each_pure _).bind fun handle => ?_
    cases handle with
    | none => exact Local.each_pure _
    | some handle =>
      refine (masked_lift (by simp)).bind fun _ => Local.Each.bind ?_ fun _ =>
        (masked_lift (by simp)).bind fun _ => (masked_lift (by simp)).bind fun _ => Local.each_pure _
      exact Local.Each.whileTrue masked_stillRunning (hround attempt handle) _
  refine masked_fallbackLoop plan fun tuple => (masked_lift (by simp)).bind fun available => ?_
  split
  · exact Local.each_pure _
  split
  · exact Local.each_pure _
  refine Local.each_read.bind fun s => ?_
  split
  · exact (masked_lift (by simp)).bind fun _ => Local.each_pure _
  dsimp only
  split
  · exact (masked_lift (by simp)).bind fun _ => (masked_setLastError _).bind fun _ =>
      Local.each_pure _
  · exact (Local.each_write _).bind fun _ => Local.Each.tryFinally (Local.Each.tryCatch (hbody _)
      (masked_streamExcept _)) (masked_finishAttempt _)

end Dispatcher

/-! ## Every run of a call -/

/-- The handles of a run. -/
def handlesOf (events : List CallEvent) : HandleLog := events.foldl HandleLog.after {}

/-- In every run, a tuple is started only when the handles of the run so far are cleaned up, only the
one handle that is not is given to `cancel_remote`, with the tuple that it came from, and a call that has
ended has cleaned up all its handles. -/
def CleansUpOnce (p : Program α) : Prop :=
  ∀ events q, p.Steps events q → (∀ e ∈ events, Possible e) →
    (∀ before e after, events = before ++ e :: after →
      (∀ tuple plan, e.op = .start tuple plan →
        (handlesOf before).started = (handlesOf before).cleaned) ∧
      ∀ tuple handle, e.op = .cancelRemote tuple handle →
        (handlesOf before).started = (handlesOf before).cleaned ++ [(tuple, handle)]) ∧
    ∀ result, q = .done result → (handlesOf events).started = (handlesOf events).cleaned

/-- A run in which `cancel_remote` raises an `Exception`, a timeout included, ends as the run does in
which it returns and nothing else is different, but that another event is audited. -/
def CleanupUnseen (p : Program α) : Prop :=
  ∀ before tuple handle exc e after result,
    p.Steps (before ++ ⟨.cancelRemote tuple handle, .error exc⟩ :: e :: after) (.done result) →
    exc.isException = true → ∃ attempt outcome,
      e = ⟨.audit (.leaseCleanupFailed handle attempt exc), outcome⟩ ∧
      p.Steps (before ++ ⟨.cancelRemote tuple handle, .ok ()⟩ ::
        ⟨.audit (.leaseCleanedUp handle attempt), outcome⟩ :: after) (.done result)

theorem cleansUpOnce_of_stays {p : Program α} (h : p.Stays handleProtocol Dispatcher.Cleaned) :
    CleansUpOnce p := by
  intro events q hs hpossible
  obtain ⟨hend, hpre⟩ := hs.wp (h {} rfl) fun e he _ => hpossible e he
  refine ⟨fun before e after hsplit => ⟨?_, ?_⟩, ?_⟩
  · intro tuple plan hop
    have hbefore := hpre before e after hsplit
    rw [hop] at hbefore
    exact hbefore
  · intro tuple handle hop
    have hbefore := hpre before e after hsplit
    rw [hop] at hbefore
    exact hbefore
  · rintro result rfl
    exact hend

theorem cleanupUnseen_of_each {p : Program α} (h : p.Each Dispatcher.cleanupMasked) :
    CleanupUnseen p := by
  intro before tuple handle exc e after result hs hexc
  obtain ⟨k, hbefore, hrest⟩ := hs.split
  obtain ⟨attempt, next, hok, herror⟩ := (h.of_steps hbefore).1
  dsimp only at hrest
  rw [herror exc hexc] at hrest
  cases hrest with
  | cons hrest =>
    refine ⟨attempt, _, rfl, hbefore.append (.cons ?_)⟩
    rw [hok]
    exact .cons hrest

/-- However the calls of `execute_sync` and `execute_stream` end, each handle is cleaned up once, in
time and by its own adapter, and an `Exception` of the cleanup does not change the outcome. -/
theorem handles_cleaned_once (d : Dispatcher) (plan : CompiledPlan) (recorder : Option Recorder)
    (hrec : KnownRecorder recorder) :
    (CleansUpOnce (d.executeSync plan recorder) ∧ CleanupUnseen (d.executeSync plan recorder)) ∧
      CleansUpOnce (d.executeStream plan) ∧ CleanupUnseen (d.executeStream plan) :=
  ⟨⟨cleansUpOnce_of_stays (d.executeSync_cleaned hrec plan),
      cleanupUnseen_of_each (d.masked_executeSync hrec plan)⟩,
    cleansUpOnce_of_stays (d.executeStream_cleaned plan),
    cleanupUnseen_of_each (d.masked_executeStream plan)⟩

theorem handles_cleaned_once_echo :
    KnownRecorder none ∧ CleansUpOnce (echoDispatcher.executeSync echoPlan none) ∧
      CleanupUnseen (echoDispatcher.executeSync echoPlan none) :=
  ⟨.none, (handles_cleaned_once echoDispatcher echoPlan none .none).1⟩

/-! ### Cancellation inside the cleanup -/

/-- The answers of an environment, but for those of `cancel_remote`. -/
def withCleanup {σ : Type} (answer : (op : Call) → σ → Option (Except PyExc op.Res × σ))
    (cleanup : Except PyExc Unit) (op : Call) (s : σ) : Option (Except PyExc op.Res × σ) :=
  match op with
  | .cancelRemote .. => some (cleanup, s)
  | op => answer op s

/-- Where the audit log takes every event, the call ends as if `cancel_remote` had returned, whatever
is raised there. -/
def CleanupNeverSeen (p : Program α) : Prop :=
  ∀ {σ : Type} (answer : (op : Call) → σ → Option (Except PyExc op.Res × σ)) (s : σ) (exc : PyExc),
    (∀ event s, answer (.audit event) s = some (.ok (), s)) →
    (p.answer (withCleanup answer (.error exc)) s).map (·.2.1) =
      (p.answer (withCleanup answer (.ok ())) s).map (·.2.1)

/-- A `CancelledError` that comes out of `cancel_remote` takes the place of the result. -/
theorem not_cleanupNeverSeen :
    ¬∀ (d : Dispatcher) (plan : CompiledPlan) (recorder : Option Recorder),
      KnownRecorder recorder → CleanupNeverSeen (d.executeSync plan recorder) := by
  intro h
  have hsame := h echoDispatcher echoPlan none .none (fun op s => s.answer (fun _ => none) op)
    ({} : Script) .cancelledError fun _ _ => rfl
  have hok := congrArg (Option.map Except.isOk) hsame
  revert hok
  decide +kernel

end Gpucall
