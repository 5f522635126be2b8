import Gpucall.Dispatcher.Rules

/-! Admission leases of concurrent calls. Each call is proved alone against a protocol that follows
the leases it was granted and those it released; the counters of the controller are then the sum over
the calls. -/

namespace Gpucall

open Effects

/-! ## The protocol of one call -/

/-- The leases that one call was granted and released, in order. -/
structure LeaseLog where
  granted : List AdmissionLease := []
  released : List AdmissionLease := []

namespace LeaseLog

/-- The leases granted and not released, when they are released in order. -/
def held (log : LeaseLog) : List AdmissionLease := log.granted.drop log.released.length

def after (log : LeaseLog) (e : CallEvent) : LeaseLog :=
  match e with
  | ⟨.acquire .., .ok (.allowed lease)⟩ => { log with granted := log.granted ++ [lease] }
  | ⟨.release lease, .ok _⟩ => { log with released := log.released ++ [lease] }
  | _ => log

end LeaseLog

/-- A failure inside a `finally` block: the audit entry of a cleanup or the release itself raises,
or `cancel_remote` ends with a `BaseException`, such as a cancellation. -/
def CleanupFault (e : CallEvent) : Bool :=
  match e with
  | ⟨.release _, .error _⟩ => true
  | ⟨.cancelRemote .., .error exc⟩ => !exc.isException
  | ⟨.audit (.leaseCleanupFailed ..), .error _⟩ => true
  | ⟨.audit (.leaseCleanedUp ..), .error _⟩ => true
  | _ => false

/-- A lease is acquired when none is held, and only the lease held is released. -/
def leaseProtocol : Protocol Call Call.Res PyExc LeaseLog where
  pre log op :=
    match op with
    | .acquire .. => log.granted = log.released
    | .release lease => log.granted = log.released ++ [lease]
    | _ => True
  allowed _ e := Possible e ∧ CleanupFault e = false
  after := LeaseLog.after

theorem leaseProtocol_stays {op : Call} (hacquire : ∀ tuple scope, op ≠ .acquire tuple scope)
    (hrelease : ∀ lease, op ≠ .release lease) (I : LeaseLog → Prop) :
    (call op).Stays leaseProtocol I := by
  refine fun log h => Prog.wp_perform.mpr ⟨?_, fun r _ => ?_⟩
  · cases op with
    | acquire => exact absurd rfl (hacquire _ _)
    | release => exact absurd rfl (hrelease _)
    | _ => trivial
  · cases op with
    | acquire => exact absurd rfl (hacquire _ _)
    | release => exact absurd rfl (hrelease _)
    | _ => exact h

/-- An invariant that speaks of the lease variable and the log only. -/
theorem leaseProtocol_routine (I : Option AdmissionLease → LeaseLog → Prop) :
    Routine leaseProtocol fun s => I s.admissionLease where
  stays {op} h s := leaseProtocol_stays (by rintro _ _ rfl; cases h) (by rintro _ rfl; cases h) _
  running _ := ⟨trivial, fun _ h => h.1⟩
  lastError _ h := h
  streamYielded _ h := h

theorem recorderStays_leaseProtocol (I : LeaseLog → Prop) (jobId : String) :
    RecorderStays leaseProtocol I (some (asyncAttemptRecorder jobId)) :=
  recorderStays_asyncAttemptRecorder (leaseProtocol_stays (by simp) (by simp) _) fun _ =>
    (leaseProtocol_stays (by simp) (by simp) _).bind fun _ =>
      leaseProtocol_stays (by simp) (by simp) _

namespace Dispatcher

variable (d : Dispatcher) {recorder : Option Recorder}
  (hrec : ∀ I, RecorderStays leaseProtocol I recorder)

/-! ## One attempt -/

/-- The lease in the variable is the one lease granted and not released. -/
def Owned (lease : Option AdmissionLease) (log : LeaseLog) : Prop :=
  log.granted = log.released ++ lease.toList

/-- No lease is held, and the variable is not set. -/
def Settled (lease : Option AdmissionLease) (log : LeaseLog) : Prop :=
  lease = none ∧ log.granted = log.released

/-- After an admission decision, the lease it grants is the one held. -/
def Decided (s : Locals) (log : LeaseLog) : Except PyExc AdmissionDecision → Prop
  | .ok (.allowed lease) => s.admissionLease = none ∧ log.granted = log.released ++ [lease]
  | _ => Settled s.admissionLease log

theorem Settled.owned {lease : Option AdmissionLease} {log : LeaseLog} (h : Settled lease log) :
    Owned lease log := by
  unfold Owned
  rw [h.1, h.2]
  simp

theorem pollAdmission_spec (tuple : String) (workloadScope : Option String) (deadline : ℚ)
    {s : Locals} {log : LeaseLog} (h : Settled s.admissionLease log) :
    (pollAdmission tuple workloadScope deadline).wp leaseProtocol
      (Local.roundPost (fun s => Settled s.admissionLease) fun r s' log' => Decided s' log' r)
      s log := by
  refine Local.wp_perform_bind.mpr ⟨h.2, fun r _ => ?_⟩
  match r with
  | .error e => exact h
  | .ok (.allowed lease) =>
    refine Local.wp_pure.mpr ⟨h.1, ?_⟩
    change log.granted ++ [lease] = log.released ++ [lease]
    rw [h.2]
  | .ok (.rejected reason secs) =>
    dsimp only
    split
    · exact Local.wp_pure.mpr h
    · refine Local.wp_bind.mpr (Local.wp_mono
        ((keeps_sleepUntil (leaseProtocol_routine Settled).quiet deadline).stays s _ h) fun r s' log' h' => ?_)
      match r with
      | .error e => exact h'
      | .ok true => exact Local.wp_pure.mpr h'
      | .ok false => exact Local.wp_pure.mpr h'

theorem acquireWithWait_spec (tuple : String) (workloadScope : Option String) (waitSeconds : ℚ)
    {s : Locals} {log : LeaseLog} (h : Settled s.admissionLease log) :
    (d.acquireWithWait tuple workloadScope waitSeconds).wp leaseProtocol
      (fun r s' log' => Decided s' log' r) s log := by
  refine Local.wp_perform_bind.mpr ⟨trivial, fun r hr => ?_⟩
  match r with
  | .error e => exact hr.1.elim
  | .ok now =>
    exact Local.wp_whileTrue d.rounds
      (fun _ _ _ => (leaseProtocol_routine Settled).stillRunning)
      (fun _ _ h => pollAdmission_spec _ _ _ h) h

/-- The part of the `try` block up to the remote handle. -/
theorem startAttempt_spec (plan : CompiledPlan) (attempt : ProviderEgressAttempt)
    {rejected : AdmissionReason → Option ℚ → Code Unit}
    (hrejected : ∀ reason secs,
      (rejected reason secs).Stays leaseProtocol fun s => Owned s.admissionLease)
    {s : Locals} {log : LeaseLog} (h : Settled s.admissionLease log) :
    (d.startAttempt plan attempt rejected).wp leaseProtocol
      (fun _ s' => Owned s'.admissionLease) s log := by
  have hroutine := leaseProtocol_routine Owned
  refine Local.wp_bind.mpr (Local.wp_mono (d.acquireWithWait_spec _ _ _ h) fun r s' log' h' => ?_)
  match r, h' with
  | .error e, h' => exact h'.owned
  | .ok (.rejected reason secs), h' =>
    exact Local.Stays.bind (hroutine.call rfl) (fun _ => (keeps_setLastError hroutine.quiet _).stays.bind
      fun _ => (hrejected reason secs).bind fun _ => Local.stays_pure _) s' log' h'.owned
  | .ok (.allowed lease), h' =>
    refine Local.wp_write_bind.mpr ?_
    refine Local.Stays.bind (hroutine.call rfl) (fun _ => ?_) _ _ h'.2
    refine Local.Stays.bind (Local.stays_ofProg fun s log h => ?_) fun _ => ?_
    · exact Prog.wp_mono (wp_enforcePreExecutionSecurityGate (hroutine.stays rfl _) h) fun _ _ h => h.1
    refine Local.Stays.bind (Local.stays_ofProg fun _ => ?_) fun handle => ?_
    · exact leaseProtocol_stays (by simp) (by simp) _
    · exact (Local.stays_write (by intro _ _ h; exact h)).bind fun _ =>
        (hroutine.call rfl).bind fun _ => Local.stays_pure _

include hrec in
theorem syncBody_spec (plan : CompiledPlan) (attempt : ProviderEgressAttempt) {s : Locals}
    {log : LeaseLog} (h : Settled s.admissionLease log) :
    (d.syncBody plan recorder attempt).wp leaseProtocol
      (fun _ s' => Owned s'.admissionLease) s log := by
  have hroutine := leaseProtocol_routine Owned
  refine Local.wp_bind.mpr (Local.wp_mono (d.startAttempt_spec plan attempt
    (fun _ _ => stays_recordProviderAttempt fun _ => hrec _) h) fun r s' log' h' => ?_)
  match r with
  | .error e => exact h'
  | .ok none => exact Local.wp_pure.mpr h'
  | .ok (some handle) =>
    refine Local.Stays.bind (hroutine.call rfl) (fun _ => ?_) s' log' h'
    exact (hroutine.call rfl).bind fun _ => (hroutine.call rfl).bind fun _ =>
      (hroutine.call rfl).bind fun _ =>
        (stays_recordProviderAttempt fun _ => hrec _).bind fun _ => Local.stays_pure _

theorem streamBody_spec (plan : CompiledPlan) (attempt : ProviderEgressAttempt) {s : Locals}
    {log : LeaseLog} (h : Settled s.admissionLease log) :
    (d.streamBody plan attempt).wp leaseProtocol (fun _ s' => Owned s'.admissionLease) s log := by
  have hroutine := leaseProtocol_routine Owned
  refine Local.wp_bind.mpr (Local.wp_mono (d.startAttempt_spec plan attempt
    (fun _ _ => Local.stays_pure _) h) fun r s' log' h' => ?_)
  match r with
  | .error e => exact h'
  | .ok none => exact Local.wp_pure.mpr h'
  | .ok (some handle) =>
    refine Local.Stays.bind (hroutine.call rfl) (fun _ => Local.Stays.bind ?_ fun _ => ?_) s' log' h'
    · exact Local.Stays.whileTrue d.rounds (fun _ _ _ => hroutine.stillRunning)
        (stays_streamRound hroutine plan attempt handle)
    · exact (hroutine.call rfl).bind fun _ => (hroutine.call rfl).bind fun _ => Local.stays_pure _

/-- `_cleanup_remote` does not raise unless one of its own steps is at fault. -/
theorem cleanupRemote_spec (handle : RemoteHandle) (attempt : ProviderEgressAttempt) {s : Locals}
    {log : LeaseLog} :
    (cleanupRemote handle attempt).wp leaseProtocol
      (fun r s' log' => r = .ok () ∧ s' = s ∧ log' = log) s log := by
  refine Local.wp_bind.mpr (Local.wp_tryCatch.mpr
    (Local.wp_perform_bind.mpr ⟨trivial, fun r hr => ?_⟩))
  match r with
  | .ok () =>
    refine Local.wp_pure.mpr (Local.wp_ofProg.mpr ⟨trivial, fun r hr => ?_⟩)
    match r with
    | .ok () => exact ⟨rfl, rfl, rfl⟩
    | .error e => exact absurd hr.2 (by simp [CleanupFault])
  | .error e =>
    have he : e.isException = true := by simpa [leaseProtocol, CleanupFault] using hr.2
    refine (iff_of_eq (congrArg (Local.wp leaseProtocol · _ _ _) (if_pos he))).mpr ?_
    refine Local.wp_pure.mpr (Local.wp_ofProg.mpr ⟨trivial, fun r hr => ?_⟩)
    match r with
    | .ok () => exact ⟨rfl, rfl, rfl⟩
    | .error e => exact absurd hr.2 (by simp [CleanupFault])

theorem releaseLease_spec {s : Locals} {log : LeaseLog} (h : Owned s.admissionLease log) :
    releaseLease.wp leaseProtocol
      (fun r _ log' => r = .ok () ∧ log'.granted = log'.released) s log := by
  refine Local.wp_read_bind.mpr ?_
  unfold Owned at h
  cases hlease : s.admissionLease with
  | none =>
    rw [hlease] at h
    exact Local.wp_pure.mpr ⟨rfl, by simpa using h⟩
  | some lease =>
    rw [hlease] at h
    refine Local.wp_ofProg.mpr (Prog.wp_perform.mpr ⟨h, fun r hr => ?_⟩)
    match r with
    | .ok () => exact ⟨rfl, h⟩
    | .error e => exact absurd hr.2 (by simp [CleanupFault])

/-- The `finally` clause gives the lease back. -/
theorem finishAttempt_spec (attempt : ProviderEgressAttempt) {s : Locals} {log : LeaseLog}
    (h : Owned s.admissionLease log) :
    (finishAttempt attempt).wp leaseProtocol
      (fun r _ log' => r = .ok () ∧ log'.granted = log'.released) s log := by
  refine Local.wp_read_bind.mpr ?_
  cases s.handle with
  | none => exact releaseLease_spec h
  | some handle =>
    refine Local.wp_bind.mpr (Local.wp_mono (cleanupRemote_spec handle attempt) ?_)
    rintro _ _ _ ⟨rfl, rfl, rfl⟩
    exact releaseLease_spec h

/-- An attempt gives back the lease it was granted, however it ends. -/
theorem attempt_spec {body : Code (Flow β)} {clauses : PyExc → Code (Flow β)}
    (attempt : ProviderEgressAttempt) {s : Locals} {log : LeaseLog}
    (hbody : body.wp leaseProtocol (fun _ s' => Owned s'.admissionLease) s log)
    (hclauses : ∀ exc, (clauses exc).Stays leaseProtocol fun s => Owned s.admissionLease) :
    ((body.tryCatch clauses).tryFinally (finishAttempt attempt)).wp leaseProtocol
      (fun _ _ log' => log'.granted = log'.released) s log := by
  have howned : (body.tryCatch clauses).wp leaseProtocol
      (fun _ s' => Owned s'.admissionLease) s log := by
    refine Local.wp_tryCatch.mpr (Local.wp_mono hbody fun r s' log' h => ?_)
    cases r with
    | ok a => exact h
    | error e => exact hclauses e s' log' h
  refine Local.wp_tryFinally.mpr (Local.wp_mono howned fun r s' log' h => ?_)
  refine Local.wp_mono (finishAttempt_spec attempt h) ?_
  rintro _ _ _ ⟨rfl, h⟩
  exact h

/-! ## Whole calls -/

/-- Nothing is held. The lease variable may still name a lease of an earlier attempt. -/
def Balanced (log : LeaseLog) : Prop := log.granted = log.released

theorem balanced_routine : Routine leaseProtocol fun _ => Balanced :=
  leaseProtocol_routine fun _ => Balanced

include hrec in
theorem syncTuple_balanced (plan : CompiledPlan) (tuple : String) :
    (d.syncTuple plan recorder tuple).Stays leaseProtocol fun _ => Balanced := by
  have hroutine := leaseProtocol_routine Owned
  refine d.stays_syncTuple_of_attempts balanced_routine (hrec _) tuple
    fun attempts attempt s log _ hnone h => attempt_spec _ ?_ fun exc => ?_
  · exact d.syncBody_spec hrec plan _ ⟨hnone, h⟩
  · exact d.stays_syncExcept hroutine.quiet (fun _ => hrec _) (fun _ => hroutine.call rfl) plan _
      attempts exc

theorem streamTuple_balanced (plan : CompiledPlan) (tuple : String) :
    (d.streamTuple plan tuple).Stays leaseProtocol fun _ => Balanced := by
  refine d.stays_streamTuple_of_attempt balanced_routine tuple
    fun s log _ hnone h => attempt_spec _ ?_ fun exc => ?_
  · exact d.streamBody_spec plan _ ⟨hnone, h⟩
  · exact stays_streamExcept (leaseProtocol_routine Owned).quiet _ exc

include hrec in
theorem executeSync_balanced (plan : CompiledPlan) :
    (d.executeSync plan recorder).Stays leaseProtocol Balanced :=
  stays_fallbackLoop balanced_routine fun tuple _ => d.syncTuple_balanced hrec plan tuple

theorem executeStream_balanced (plan : CompiledPlan) :
    (d.executeStream plan).Stays leaseProtocol Balanced :=
  stays_fallbackLoop balanced_routine fun tuple _ => d.streamTuple_balanced plan tuple

end Dispatcher

end Gpucall
