import Gpucall.Dispatcher.JobStore

/-! Invariant rules for the dispatcher's programs. An invariant that the routine calls keep is kept by
the `except` clauses, the security gate, the wait between two polls and a round of a stream; one that
the remaining calls keep as well is kept by a whole call. -/

namespace Gpucall

open Effects

/-- A call that neither takes nor gives back a resource, starts no work and does not write to the job
store or the ledger. -/
def Call.routine : Call → Bool
  | .acquire .. | .release _ | .start .. | .cancelRemote .. | .upsert _ | .onAsyncSuccess _
  | .onAsyncTerminalFailure _ => false
  | _ => true

/-- A call that the waits and the clauses for a failure of the provider make. -/
def Call.quiet : Call → Bool
  | .monotonic | .sleep _ | .recordObservation .. | .recordQualityFailure .. | .suppress .. => true
  | .audit (.admissionAccepted _) | .audit (.admissionRejected ..) | .audit (.outputRejected ..) => false
  | .audit _ => true
  | _ => false

/-- Quiet calls and the writes of `last_error` keep `I`; a quiet call that raises ensures `E`. -/
structure Quiet (P : Protocol Call Call.Res PyExc G) (I : Locals → G → Prop)
    (E : PyExc → Locals → G → Prop) : Prop where
  call : ∀ {op : Call}, op.quiet = true → (liftM (call op) : Code op.Res).Keeps P I E
  lastError : ∀ {s g} error, I s g → I { s with lastError := error } g

/-- Routine calls and the writes to the variables that the `except` clauses make keep `I`, and a loop
that still runs has no outcome. -/
structure Routine (P : Protocol Call Call.Res PyExc G) (I : Locals → G → Prop) : Prop where
  stays : ∀ {op : Call}, op.routine = true → ∀ s, (call op).Stays P (I s)
  running : ∀ g, P.pre g .stillRunning ∧ ∀ r, ¬P.allowed g ⟨.stillRunning, r⟩
  lastError : ∀ {s g} error, I s g → I { s with lastError := error } g
  streamYielded : ∀ {s g} yielded, I s g → I { s with streamYielded := yielded } g

theorem Call.routine_of_quiet {op : Call} (h : op.quiet = true) : op.routine = true := by
  cases op <;> first | rfl | cases h

theorem Routine.quiet {P : Protocol Call Call.Res PyExc G} {I : Locals → G → Prop}
    (hP : Routine P I) : Quiet P I fun _ => I :=
  ⟨fun h => (Local.stays_ofProg (hP.stays (Call.routine_of_quiet h))).keeps, hP.lastError⟩

/-- The recorder keeps the invariant, if there is one. -/
def RecorderStays (P : Protocol Call Call.Res PyExc G) (I : G → Prop) (recorder : Option Recorder) :
    Prop :=
  ∀ record ∈ recorder, ∀ attempt, (record attempt).Stays P I

theorem recorderStays_none (P : Protocol Call Call.Res PyExc G) (I : G → Prop) :
    RecorderStays P I none := by
  rintro _ ⟨⟩

theorem recorderStays_asyncAttemptRecorder {P : Protocol Call Call.Res PyExc G} {I : G → Prop}
    {jobId : String} (hget : (call (.getJob jobId)).Stays P I)
    (hupdate : ∀ attempts, (updateJob jobId fun job => { job with attempts }).Stays P I) :
    RecorderStays P I (some (asyncAttemptRecorder jobId)) := by
  rintro _ ⟨⟩ attempt
  refine hget.bind fun current => ?_
  cases current with
  | none => exact Prog.stays_done _
  | some current => exact hupdate _

section

variable {P : Protocol Call Call.Res PyExc G} {I : Locals → G → Prop}

theorem stays_recordProviderAttempt {recorder : Option Recorder}
    (hrec : ∀ s, RecorderStays P (I s) recorder) {attempt : ProviderEgressAttempt}
    {outcome : ProviderAttemptOutcome} {reason : Option String} {error : Option TupleError} :
    (liftM (recordProviderAttempt recorder attempt outcome reason error) : Code Unit).Stays P I := by
  refine Local.stays_ofProg fun s => ?_
  cases recorder with
  | none => exact Prog.stays_done _
  | some record => exact hrec s record rfl _

section

variable (hP : Routine P I)
include hP

theorem Routine.call {op : Call} (h : op.routine = true) :
    (liftM (Gpucall.call op) : Code op.Res).Stays P I :=
  Local.stays_ofProg (hP.stays h)

/-- A loop that still runs has no outcome, so every postcondition holds of it. -/
theorem Routine.stillRunning {Q : Except PyExc α → Locals → G → Prop} {s : Locals} {g : G} :
    (liftM (Gpucall.stillRunning : Program α) : Code α).wp P Q s g :=
  Local.wp_ofProg.mpr (Prog.wp_bind.mpr
    ⟨(hP.running g).1, fun r hr => absurd hr ((hP.running g).2 r)⟩)

end

/-- The gate reads the clock and goes by what it finds missing at that time. -/
theorem wp_securityGate {plan : CompiledPlan} {Q : Except PyExc Unit → G → Prop} {g : G}
    (hclock : (call .utcNow).wp P (fun r g' => match r with
      | .error exc => Q (.error exc) g'
      | .ok now => (∀ error, securityGateError plan.attestations now = some error →
          Q (.error (.tupleError error)) g') ∧ (securityGateError plan.attestations now = none → Q (.ok ()) g')) g) :
    (enforcePreExecutionSecurityGate plan).wp P Q g := by
  refine Prog.wp_bind.mpr (Prog.wp_mono hclock fun r g' h => ?_)
  cases r with
  | error exc => exact h
  | ok now =>
    dsimp only
    split
    · next error hgate => exact h.1 error hgate
    · next hgate => exact h.2 hgate

/-- The gate lets a plan pass only when it finds nothing missing. -/
theorem wp_enforcePreExecutionSecurityGate {I : G → Prop} (hclock : (call .utcNow).Stays P I)
    {plan : CompiledPlan} {g : G} (h : I g) :
    (enforcePreExecutionSecurityGate plan).wp P (fun r g' => I g' ∧
      (r = .ok () → ∃ now, securityGateError plan.attestations now = none)) g := by
  refine wp_securityGate (Prog.wp_mono (hclock g h) fun r g' h' => ?_)
  cases r with
  | error e => exact ⟨h', by rintro ⟨⟩⟩
  | ok now => exact ⟨fun error _ => ⟨h', by rintro ⟨⟩⟩, fun hgate => ⟨h', fun _ => ⟨now, hgate⟩⟩⟩

theorem Dispatcher.stays_streamRound (hP : Routine P I) (plan : CompiledPlan)
    (attempt : ProviderEgressAttempt) (handle : RemoteHandle) :
    (Dispatcher.streamRound plan attempt handle).Stays P I := by
  refine (hP.call rfl).bind fun event => ?_
  cases event with
  | none => exact Local.stays_pure _
  | some event =>
    dsimp only
    split
    · exact Local.stays_throw _
    · exact (Local.stays_write fun _ _ h => hP.streamYielded _ h).bind fun _ =>
        (hP.call rfl).bind fun _ => Local.stays_pure _

section

variable {E : PyExc → Locals → G → Prop} (hP : Quiet P I E)
include hP

theorem keeps_sleepUntil (deadline : ℚ) : (Dispatcher.sleepUntil deadline).Keeps P I E := by
  refine (hP.call rfl).bind fun now => ?_
  split
  · exact Local.keeps_pure _
  · exact (hP.call rfl).bind fun _ => (hP.call rfl).bind fun _ => Local.keeps_pure _

namespace Dispatcher

theorem keeps_setLastError (error : TupleError) : (setLastError error).Keeps P I E :=
  Local.keeps_write fun _ _ h => hP.lastError _ h

theorem keeps_providerFailure (attempt : ProviderEgressAttempt) (exc : TupleError) :
    (providerFailure attempt exc).Keeps P I E := by
  refine (hP.call rfl).bind fun _ => ?_
  dsimp only
  split
  · exact (hP.call rfl).bind fun _ => hP.call rfl
  · exact hP.call rfl

theorem keeps_timeoutFailure (attempt : ProviderEgressAttempt) (message : String) :
    (timeoutFailure attempt message).Keeps P I E :=
  (keeps_setLastError hP _).bind fun _ => (hP.call rfl).bind fun _ =>
    (hP.call rfl).bind fun _ => (hP.call rfl).bind fun _ => Local.keeps_pure _

theorem keeps_unexpectedFailure (attempt : ProviderEgressAttempt) (exc : PyExc) :
    (unexpectedFailure attempt exc).Keeps P I E :=
  (keeps_setLastError hP _).bind fun _ => (hP.call rfl).bind fun _ => hP.call rfl

/-- The `finally` clause: the cleanup raises only what is not an `Exception`. -/
theorem keeps_finishAttempt
    (hrelease : ∀ lease, (liftM (Gpucall.call (.release lease)) : Code Unit).Keeps P I E)
    (hcancel : ∀ s tuple handle, (Gpucall.call (.cancelRemote tuple handle)).Stays P (I s))
    (hE : ∀ e s g, e.isException = false → I s g → E e s g) (attempt : ProviderEgressAttempt) :
    (finishAttempt attempt).Keeps P I E := by
  have hlease : releaseLease.Keeps P I E := by
    refine Local.keeps_read.bind fun s => ?_
    split
    · exact hrelease _
    · exact Local.keeps_pure _
  refine Local.keeps_read.bind fun s => ?_
  split
  · refine Local.Keeps.bind (Local.Keeps.bind (fun s g h => ?_) fun failure => ?_) fun _ => hlease
    · refine Local.wp_tryCatch.mpr (Local.wp_bind.mpr (Local.wp_ofProg.mpr
        (Prog.wp_mono (hcancel s _ _ g h) fun r g' h' => ?_)))
      cases r with
      | ok u => exact Local.wp_pure.mpr h'
      | error exc =>
        dsimp only
        split
        · exact Local.wp_pure.mpr h'
        · exact Local.wp_throw.mpr (hE exc s g' (by simpa using ‹¬exc.isException = true›) h')
    · split
      · exact hP.call rfl
      · exact hP.call rfl
  · exact hlease

end Dispatcher

end

namespace Dispatcher

variable (d : Dispatcher) (hP : Quiet P I fun _ => I)
include hP

theorem stays_streamExcept (attempt : ProviderEgressAttempt) (exc : PyExc) :
    (streamExcept attempt exc).Stays P I := by
  have hend (p : Prop) [Decidable p] (e : PyExc) :
      (if p then throw e else pure .next : Code (Flow Unit)).Stays P I := by
    split
    · exact Local.stays_throw _
    · exact Local.stays_pure _
  cases exc with
  | tupleError exc =>
    exact (keeps_setLastError hP _).stays.bind fun _ => (keeps_providerFailure hP _ _).stays.bind fun _ =>
      Local.stays_read.bind fun _ => hend _ _
  | timeoutError =>
    exact (keeps_timeoutFailure hP _ _).stays.bind fun _ => Local.stays_read.bind fun _ => hend _ _
  | cancelledError => exact Local.stays_throw _
  | generatorExit => exact Local.stays_throw _
  | governanceError | valueError | httpException | tenantBudgetError | exception =>
    exact (keeps_unexpectedFailure hP _ _).stays.bind fun _ => Local.stays_read.bind fun _ => hend _ _

variable {recorder : Option Recorder} (hrec : ∀ s, RecorderStays P (I s) recorder)
  (haudit : ∀ event, (liftM (Gpucall.call (.audit event)) : Code Unit).Stays P I)
include hrec haudit

theorem stays_outputRejected (plan : CompiledPlan) (attempt : ProviderEgressAttempt)
    (attempts : ℕ) (exc : TupleError) (code : String) :
    (d.outputRejected plan recorder attempt attempts exc code).Stays P I := by
  refine (haudit _).bind fun _ => ?_
  split
  · exact (hP.call rfl).stays.bind fun _ => (keeps_setLastError hP _).stays.bind fun _ =>
      (stays_recordProviderAttempt hrec).bind fun _ => Local.stays_pure _
  · split
    · exact Local.stays_pure _
    · refine (keeps_setLastError hP _).stays.bind fun _ =>
        (stays_recordProviderAttempt hrec).bind fun _ => ?_
      split
      · exact Local.stays_throw _
      · exact Local.stays_pure _

theorem stays_syncExcept (plan : CompiledPlan) (attempt : ProviderEgressAttempt) (attempts : ℕ)
    (exc : PyExc) : (d.syncExcept plan recorder attempt attempts exc).Stays P I := by
  cases exc with
  | tupleError exc =>
    refine (keeps_setLastError hP _).stays.bind fun _ => ?_
    split
    · exact d.stays_outputRejected hP hrec haudit plan attempt attempts exc _
    · refine (keeps_providerFailure hP _ _).stays.bind fun _ =>
        (stays_recordProviderAttempt hrec).bind fun _ => ?_
      split
      · exact Local.stays_throw _
      · exact Local.stays_pure _
  | timeoutError =>
    exact (keeps_timeoutFailure hP _ _).stays.bind fun _ =>
      (stays_recordProviderAttempt hrec).bind fun _ => Local.stays_pure _
  | cancelledError => exact Local.stays_throw _
  | generatorExit => exact Local.stays_throw _
  | governanceError | valueError | httpException | tenantBudgetError | exception =>
    exact (keeps_unexpectedFailure hP _ _).stays.bind fun _ =>
      (stays_recordProviderAttempt hrec).bind fun _ => Local.stays_pure _

end Dispatcher

end

/-! ## From attempts to whole calls -/

namespace Dispatcher

variable (d : Dispatcher) {P : Protocol Call Call.Res PyExc G} {I : G → Prop} {plan : CompiledPlan}
  (hP : Routine P fun _ => I)
include hP

/-- If every attempt of a tuple leaves `I` behind, however it ends, so does the loop over them. -/
theorem stays_syncTuple_of_attempts {recorder : Option Recorder} (hrec : RecorderStays P I recorder)
    (tuple : String)
    (hattempt : ∀ attempts attempt s g, s.handle = none → s.admissionLease = none → I g →
      (((d.syncBody plan recorder (d.egressAttempt plan tuple attempt)).tryCatch
        (d.syncExcept plan recorder (d.egressAttempt plan tuple attempt) attempts)).tryFinally
          (finishAttempt (d.egressAttempt plan tuple attempt))).wp P (fun _ _ => I) s g) :
    (d.syncTuple plan recorder tuple).Stays P fun _ => I := by
  have hround (attempts attempt : ℕ) :
      (d.syncAttempt plan recorder tuple attempts attempt).Stays P fun _ => I := by
    refine Local.stays_read.bind fun s => ?_
    split
    · exact (hP.call rfl).bind fun _ => Local.stays_pure _
    dsimp only
    split
    · exact (hP.call rfl).bind fun _ => (keeps_setLastError hP.quiet _).stays.bind fun _ =>
        (stays_recordProviderAttempt fun _ => hrec).bind fun _ => Local.stays_pure _
    · exact fun s g h => Local.wp_write_bind.mpr (hattempt attempts attempt _ g rfl rfl h)
  refine (hP.call rfl).bind fun available => ?_
  split
  · exact Local.stays_pure _
  split
  · exact Local.stays_pure _
  refine (Local.Stays.forEach fun attempt _ => hround _ attempt).bind fun result => ?_
  cases result with
  | some result => exact Local.stays_pure _
  | none => exact Local.stays_pure _

/-- The one attempt of a tuple in a stream. -/
theorem stays_streamTuple_of_attempt (tuple : String)
    (hattempt : ∀ s g, s.handle = none → s.admissionLease = none → I g →
      (((d.streamBody plan (d.egressAttempt plan tuple 1)).tryCatch
        (streamExcept (d.egressAttempt plan tuple 1))).tryFinally
          (finishAttempt (d.egressAttempt plan tuple 1))).wp P (fun _ _ => I) s g) :
    (d.streamTuple plan tuple).Stays P fun _ => I := by
  refine (hP.call rfl).bind fun available => ?_
  split
  · exact Local.stays_pure _
  split
  · exact Local.stays_pure _
  refine Local.stays_read.bind fun s => ?_
  split
  · exact (hP.call rfl).bind fun _ => Local.stays_pure _
  dsimp only
  split
  · exact (hP.call rfl).bind fun _ => (keeps_setLastError hP.quiet _).stays.bind fun _ =>
      Local.stays_pure _
  · exact fun s g h => Local.wp_write_bind.mpr (hattempt _ g rfl rfl h)

theorem stays_fallbackLoop {round : String → Code (Flow β)}
    (hround : ∀ tuple ∈ plan.tupleChain, (round tuple).Stays P fun _ => I) :
    (fallbackLoop plan round).Stays P I := by
  refine fun g h => Local.wp_run (Local.Stays.bind (hP.call rfl) (fun _ => ?_) {} g h)
  refine (Local.Stays.forEach hround).bind fun result => ?_
  cases result with
  | some result => exact Local.stays_pure _
  | none => exact Local.stays_read.bind fun _ => Local.stays_throw _

end Dispatcher

/-! ## Whole calls -/

/-- `I` is kept by every call of an attempt, from its admission to its end, that is not one of its
result: it starts only tuples of the chain, and only after the gate has let the plan pass. -/
structure Admits (P : Protocol Call Call.Res PyExc G) (I : G → Prop) (plan : CompiledPlan) :
    Prop where
  quiet : Quiet P (fun _ => I) fun _ _ => I
  running : ∀ g, P.pre g .stillRunning ∧ ∀ r, ¬P.allowed g ⟨.stillRunning, r⟩
  acquire : ∀ tuple scope, (call (.acquire tuple scope)).Stays P I
  release : ∀ lease, (call (.release lease)).Stays P I
  audit : ∀ event, (call (.audit event)).Stays P I
  utcNow : (call .utcNow).Stays P I
  cancelRemote : ∀ tuple handle, (call (.cancelRemote tuple handle)).Stays P I
  start : ∀ tuple ∈ plan.tupleChain, (∃ now, securityGateError plan.attestations now = none) →
    (call (.start tuple plan)).Stays P I

/-- `I` is kept by every call that the dispatcher makes for a plan: it starts only tuples of the
chain, and only after the gate has let the plan pass. -/
structure Dispatches (P : Protocol Call Call.Res PyExc G) (I : G → Prop) (plan : CompiledPlan) :
    Prop where
  routine : Routine P fun _ => I
  acquire : ∀ tuple scope, (call (.acquire tuple scope)).Stays P I
  release : ∀ lease, (call (.release lease)).Stays P I
  cancelRemote : ∀ tuple handle, (call (.cancelRemote tuple handle)).Stays P I
  start : ∀ tuple ∈ plan.tupleChain, (∃ now, securityGateError plan.attestations now = none) →
    (call (.start tuple plan)).Stays P I

theorem Dispatches.admits {P : Protocol Call Call.Res PyExc G} {I : G → Prop} {plan : CompiledPlan}
    (hP : Dispatches P I plan) : Admits P I plan where
  quiet := hP.routine.quiet
  running := hP.routine.running
  acquire := hP.acquire
  release := hP.release
  audit _ := hP.routine.stays rfl {}
  utcNow := hP.routine.stays rfl {}
  cancelRemote := hP.cancelRemote
  start := hP.start

namespace Dispatcher

section

variable (d : Dispatcher) {P : Protocol Call Call.Res PyExc G} {I : G → Prop} {plan : CompiledPlan}
  (hP : Admits P I plan)
include hP

theorem stays_acquireWithWait (tuple : String) (workloadScope : Option String) (waitSeconds : ℚ) :
    (d.acquireWithWait tuple workloadScope waitSeconds).Stays P fun _ => I := by
  refine (hP.quiet.call rfl).stays.bind fun now => ?_
  refine Local.Stays.whileTrue _ (fun _ g _ => ?_) ?_
  · exact Local.wp_ofProg.mpr (Prog.wp_bind.mpr
      ⟨(hP.running g).1, fun r hr => absurd hr ((hP.running g).2 r)⟩)
  refine (Local.stays_ofProg fun _ => hP.acquire _ _).bind fun decision => ?_
  cases decision with
  | allowed lease => exact Local.stays_pure _
  | rejected reason secs =>
    dsimp only
    split
    · exact Local.stays_pure _
    · refine (keeps_sleepUntil hP.quiet _).stays.bind fun more => ?_
      split
      · exact Local.stays_pure _
      · exact Local.stays_pure _

theorem stays_startAttempt (attempt : ProviderEgressAttempt)
    (htuple : attempt.tuple ∈ plan.tupleChain)
    {rejected : AdmissionReason → Option ℚ → Code Unit}
    (hrejected : ∀ reason secs, (rejected reason secs).Stays P fun _ => I) :
    (d.startAttempt plan attempt rejected).Stays P fun _ => I := by
  have haudit (event : AuditEvent) :
      (liftM (call (.audit event)) : Code Unit).Stays P fun _ => I :=
    Local.stays_ofProg fun _ => hP.audit event
  refine (d.stays_acquireWithWait hP _ _ _).bind fun decision => ?_
  cases decision with
  | rejected reason secs =>
    exact (haudit _).bind fun _ => (keeps_setLastError hP.quiet _).stays.bind fun _ =>
      (hrejected reason secs).bind fun _ => Local.stays_pure _
  | allowed lease =>
    refine (Local.stays_write_ghost _).bind fun _ => (haudit _).bind fun _ => ?_
    refine fun s g h => Local.wp_bind.mpr (Local.wp_ofProg.mpr
      (Prog.wp_mono (wp_enforcePreExecutionSecurityGate hP.utcNow h) fun r g' h' => ?_))
    match r, h' with
    | .error e, h' => exact h'.1
    | .ok (), ⟨h', hgate⟩ =>
      refine Local.Stays.bind ?_ (fun handle => ?_) s g' h'
      · exact Local.stays_ofProg fun _ => hP.start _ htuple (hgate rfl)
      · exact (Local.stays_write_ghost _).bind fun _ => (haudit _).bind fun _ =>
          Local.stays_pure _

end

variable (d : Dispatcher) {P : Protocol Call Call.Res PyExc G} {I : G → Prop} {plan : CompiledPlan}
  (hP : Dispatches P I plan)
include hP

theorem stays_finish (attempt : ProviderEgressAttempt) :
    (finishAttempt attempt).Stays P fun _ => I :=
  (keeps_finishAttempt hP.routine.quiet
    (fun lease => (Local.stays_ofProg fun _ => hP.release lease).keeps) (fun _ => hP.cancelRemote)
    (fun _ _ _ _ h => h) attempt).stays

theorem stays_streamTuple {tuple : String} (htuple : tuple ∈ plan.tupleChain) :
    (d.streamTuple plan tuple).Stays P fun _ => I := by
  refine d.stays_streamTuple_of_attempt hP.routine tuple fun s g _ _ h =>
    Local.Stays.tryFinally (Local.Stays.tryCatch ?_ ?_) (stays_finish hP _) s g h
  · refine (d.stays_startAttempt hP.admits (d.egressAttempt plan tuple 1) htuple
      fun _ _ => Local.stays_pure _).bind fun handle => ?_
    cases handle with
    | none => exact Local.stays_pure _
    | some handle =>
      refine (hP.routine.call rfl).bind fun _ => Local.Stays.bind ?_ fun _ =>
        (hP.routine.call rfl).bind fun _ => (hP.routine.call rfl).bind fun _ => Local.stays_pure _
      exact Local.Stays.whileTrue _ (fun _ _ _ => hP.routine.stillRunning)
        (stays_streamRound hP.routine plan _ handle)
  · exact stays_streamExcept hP.routine.quiet _

theorem stays_syncTuple {recorder : Option Recorder} (hrec : RecorderStays P I recorder)
    {tuple : String} (htuple : tuple ∈ plan.tupleChain) :
    (d.syncTuple plan recorder tuple).Stays P fun _ => I := by
  refine d.stays_syncTuple_of_attempts hP.routine hrec tuple fun attempts attempt s g _ _ h =>
    Local.Stays.tryFinally (Local.Stays.tryCatch ?_ ?_) (stays_finish hP _) s g h
  · refine (d.stays_startAttempt hP.admits (d.egressAttempt plan tuple attempt) htuple
      fun _ _ => stays_recordProviderAttempt fun _ => hrec).bind fun handle => ?_
    cases handle with
    | none => exact Local.stays_pure _
    | some handle =>
      exact (hP.routine.call rfl).bind fun _ => (hP.routine.call rfl).bind fun _ =>
        (hP.routine.call rfl).bind fun _ => (hP.routine.call rfl).bind fun _ =>
          (stays_recordProviderAttempt fun _ => hrec).bind fun _ => Local.stays_pure _
  · exact d.stays_syncExcept hP.routine.quiet (fun _ => hrec) (fun _ => hP.routine.call rfl) plan _
      attempts

theorem stays_executeSync {recorder : Option Recorder} (hrec : RecorderStays P I recorder) :
    (d.executeSync plan recorder).Stays P I :=
  stays_fallbackLoop hP.routine fun _ htuple => d.stays_syncTuple hP hrec htuple

theorem stays_executeStream : (d.executeStream plan).Stays P I :=
  stays_fallbackLoop hP.routine fun _ htuple => d.stays_streamTuple hP htuple

end Dispatcher

end Gpucall
