import Gpucall.Lib.Layer
import Gpucall.Dispatcher.Rules

/-! The records of the attempts of one `execute_sync` call. Every exit of an attempt records it but
one: a rejected output that is tried again on the same tuple. -/

namespace Gpucall

open Effects

/-- The `continue` of `execute_sync`: after this exception the tuple is tried again, without a
record. -/
def triedAgain (plan : CompiledPlan) (attempt : ℕ) : PyExc → Bool
  | .tupleError exc =>
    exc.code.any (· ∈ ["EMPTY_OUTPUT", "MALFORMED_OUTPUT"]) &&
      !structuredFailureShouldSwitchTuple plan exc && attempt < plan.outputValidationAttempts
  | _ => false

/-- What an adapter or the validation of its output raises. -/
def raisedBy (e : CallEvent) : Option PyExc :=
  match e.op, e.outcome with
  | .start .., .error exc | .wait .., .error exc | .validateOutput .., .error exc => some exc
  | _, _ => none

/-- A call that is neither one of an adapter nor the validation of its output has failed. -/
def ServiceFault (e : CallEvent) : Bool :=
  match e.op, e.outcome with
  | .start .., _ | .wait .., _ | .validateOutput .., _ | .cancelRemote .., _ => false
  | _, .error _ => true
  | _, .ok _ => false

/-- The attempt that an audit event is about, and whether it was admitted. -/
def admissionOf (e : CallEvent) : Option (ProviderEgressAttempt × Bool) :=
  match e.op with
  | .audit (.admissionAccepted attempt) => some (attempt, true)
  | .audit (.admissionRejected attempt _ _) => some (attempt, false)
  | _ => none

/-- The record that the recorder of a caller receives. -/
def recordOf (e : CallEvent) : Option ProviderAttemptRecord :=
  match e.op with
  | .recordAttempt record => some record
  | _ => none

/-- The record is that of the attempt. -/
structure Recorded (admission : ProviderEgressAttempt × Bool) (record : ProviderAttemptRecord) : Prop
    where
  tuple : record.tuple = admission.1.tuple
  providerFamily : record.providerFamily = admission.1.providerFamily
  workloadScope : record.workloadScope = admission.1.workloadScope
  mode : record.mode = admission.1.mode
  attempt : record.attempt = admission.1.attempt
  outcome : record.outcome = .admissionRejected ↔ admission.2 = false

/-- Some output is rejected on an attempt after which its tuple is tried again. -/
def TriesAgain (plan : CompiledPlan) (steps : List CallEvent) : Prop :=
  ∃ before e rest exc admission, steps = before ++ e :: rest ∧ raisedBy e = some exc ∧
    (before.filterMap admissionOf).getLast? = some admission ∧
    triedAgain plan admission.1.attempt exc = true

/-- The admissions of a call, the records of its attempts, and how often it has tried again without
one. -/
structure AttemptLog where
  admissions : List (ProviderEgressAttempt × Bool) := []
  records : List ProviderAttemptRecord := []
  missed : ℕ := 0

namespace AttemptLog

/-- A provider or the validation has raised. -/
def afterRaise (plan : CompiledPlan) (g : AttemptLog) (exc : PyExc) : AttemptLog :=
  if g.admissions.getLast?.any fun admission => triedAgain plan admission.1.attempt exc then
    { g with missed := g.missed + 1 }
  else g

/-- The records are those that the recorder of a caller receives, or those of a job. -/
def after (plan : CompiledPlan) (jobId : Option String) (g : AttemptLog) (e : CallEvent) :
    AttemptLog :=
  match e.op, e.outcome with
  | .audit (.admissionAccepted attempt), _ =>
    { g with admissions := g.admissions ++ [(attempt, true)] }
  | .audit (.admissionRejected attempt _ _), _ =>
    { g with admissions := g.admissions ++ [(attempt, false)] }
  | .recordAttempt record, _ =>
    if jobId = none then { g with records := g.records ++ [record] } else g
  | .upsert job, _ => if some job.jobId = jobId then { g with records := job.attempts } else g
  | .start .., .error exc | .wait .., .error exc | .validateOutput .., .error exc =>
    g.afterRaise plan exc
  | _, _ => g

/-- Every admission has its record, but for those that were missed. -/
structure Balanced (g : AttemptLog) : Prop where
  length : g.records.length + g.missed = g.admissions.length
  recorded : g.missed = 0 → List.Forall₂ Recorded g.admissions g.records

/-- The last attempt is admitted and has no record yet. -/
def Open (attempt : ProviderEgressAttempt) (g : AttemptLog) : Prop :=
  ∃ admissions, g.admissions = admissions ++ [(attempt, true)] ∧ { g with admissions }.Balanced

end AttemptLog

/-- Services do not fail; the job of the recorder is there, with the records so far. -/
def attemptsProtocol (plan : CompiledPlan) (jobId : Option String) :
    Protocol Call Call.Res PyExc AttemptLog where
  pre _ _ := True
  allowed g e := Possible e ∧ ServiceFault e = false ∧
    match e.op, e.outcome with
    | .getJob id, .ok found => some id = jobId → ∃ job, found = some job ∧ job.attempts = g.records
    | .fetch id, .ok job => some id = jobId → job.jobId = id
    | _, _ => True
  after := AttemptLog.after plan jobId

/-! ## The log -/

namespace AttemptLog

variable {g : AttemptLog} {attempt : ProviderEgressAttempt} {entry : ProviderAttemptRecord}

theorem Balanced.accept (h : g.Balanced) (attempt : ProviderEgressAttempt) :
    Open attempt { g with admissions := g.admissions ++ [(attempt, true)] } :=
  ⟨g.admissions, rfl, h⟩

theorem Balanced.reject (h : g.Balanced) (hrecord : Recorded (attempt, false) entry) :
    Balanced { g with
      admissions := g.admissions ++ [(attempt, false)], records := g.records ++ [entry] } where
  length := by
    have hlength := h.length
    simp only [List.length_append, List.length_singleton]
    omega
  recorded hmissed := List.rel_append (h.recorded hmissed) (.cons hrecord .nil)

theorem Open.record (h : g.Open attempt) (hrecord : Recorded (attempt, true) entry) :
    Balanced { g with records := g.records ++ [entry] } := by
  obtain ⟨admissions, hadmissions, hlength, hrecorded⟩ := h
  constructor
  · simp only [hadmissions, List.length_append, List.length_singleton] at hlength ⊢
    omega
  · intro hmissed
    rw [hadmissions]
    exact List.rel_append (hrecorded hmissed) (.cons hrecord .nil)

theorem Open.miss (h : g.Open attempt) : Balanced { g with missed := g.missed + 1 } := by
  obtain ⟨admissions, hadmissions, hlength, -⟩ := h
  constructor
  · simp only [hadmissions, List.length_append, List.length_singleton] at hlength ⊢
    omega
  · intro hmissed
    cases hmissed

/-- An attempt whose exception is pending: it has no record yet, or will not get one. -/
def Pending (plan : CompiledPlan) (attempt : ProviderEgressAttempt) (exc : PyExc) (g : AttemptLog) :
    Prop :=
  if triedAgain plan attempt.attempt exc then g.Balanced else g.Open attempt

theorem Open.raise (h : g.Open attempt) (plan : CompiledPlan) (exc : PyExc) :
    (g.afterRaise plan exc).Pending plan attempt exc := by
  have hlast : g.admissions.getLast? = some (attempt, true) := by
    obtain ⟨admissions, hadmissions, -⟩ := h
    rw [hadmissions, List.getLast?_concat]
  unfold Pending
  split
  · rename_i htried
    rw [afterRaise, hlast, Option.any_some, if_pos htried]
    exact h.miss
  · rename_i htried
    rw [afterRaise, hlast, Option.any_some, if_neg htried]
    exact h

/-- The records are those of the admissions exactly when none was missed. -/
theorem Balanced.forall₂_iff (h : g.Balanced) :
    List.Forall₂ Recorded g.admissions g.records ↔ g.missed = 0 := by
  refine ⟨fun hall => ?_, h.recorded⟩
  have hlength := h.length
  rw [hall.length_eq] at hlength
  omega

end AttemptLog

/-! ## The attempts -/

section

variable {d : Dispatcher} {plan : CompiledPlan} {jobId : Option String} {s : Locals} {g : AttemptLog}

/-- The recorder has received a record. -/
def Receives (plan : CompiledPlan) (jobId : Option String) (recorder : Recorder) : Prop :=
  ∀ record (g : AttemptLog), (recorder record).wp (attemptsProtocol plan jobId) (fun r g' =>
    r = .ok () ∧ g' = { g with records := g.records ++ [record] }) g

theorem receives_callerRecorder : Receives plan none callerRecorder := by
  refine fun record g => Prog.wp_perform.mpr ⟨trivial, fun r hr => ?_⟩
  cases r with
  | error e => cases hr.2.1
  | ok u => exact ⟨rfl, rfl⟩

theorem receives_asyncAttemptRecorder (id : String) :
    Receives plan (some id) (asyncAttemptRecorder id) := by
  refine fun record g => Prog.wp_perform_bind.mpr ⟨trivial, fun r hr => ?_⟩
  cases r with
  | error e => cases hr.2.1
  | ok found =>
    obtain ⟨job, rfl, hattempts⟩ := hr.2.2 rfl
    refine Prog.wp_perform_bind.mpr ⟨trivial, fun r hr => ?_⟩
    cases r with
    | error e => cases hr.2.1
    | ok current =>
      refine Prog.wp_perform.mpr ⟨trivial, fun r hr' => ?_⟩
      cases r with
      | error e => cases hr'.2.1
      | ok u =>
        refine ⟨rfl, ?_⟩
        have hid : current.jobId = id := hr.2.2 rfl
        simp [attemptsProtocol, AttemptLog.after, hid, hattempts]

/-- A service that does not write to the log. -/
def Call.unrecorded : Call → Bool
  | .audit (.admissionAccepted _) | .audit (.admissionRejected ..) | .audit (.outputRejected ..) => false
  | .recordAttempt _ | .upsert _ => false
  | .start .. | .wait .. | .validateOutput .. | .cancelRemote .. => false
  | _ => true

/-- Exceptions that are not an `Exception` end the call. -/
def cancels (e : PyExc) (_ : Locals) (_ : AttemptLog) : Prop := e.isException = false

theorem keeps_service {I : Locals → AttemptLog → Prop} {op : Call} (hop : op.unrecorded = true) :
    (liftM (call op) : Code op.Res).Keeps (attemptsProtocol plan jobId) I cancels := by
  refine fun s g h => Local.wp_ofProg.mpr (Prog.wp_perform.mpr ⟨trivial, fun r hr => ?_⟩)
  cases r with
  | error e => cases op <;> first | (cases hr.2.1; done) | cases hop
  | ok a =>
    cases op with
    | audit event => cases event <;> first | exact h | cases hop
    | _ => first | exact h | cases hop

theorem attempts_quiet {I : AttemptLog → Prop} :
    Quiet (attemptsProtocol plan jobId) (fun _ => I) cancels where
  call := fun {op} hop => by
    refine keeps_service ?_
    cases op with
    | audit event => cases event <;> first | rfl | cases hop
    | _ => first | rfl | cases hop
  lastError _ h := h

theorem keeps_acquireWithWait {I : AttemptLog → Prop} (tuple : String) (scope : Option String)
    (waitSeconds : ℚ) :
    (d.acquireWithWait tuple scope waitSeconds).Keeps (attemptsProtocol plan jobId) (fun _ => I)
      cancels := by
  refine (attempts_quiet.call rfl).bind fun now s g h => ?_
  refine Local.wp_whileTrue (I := fun _ => I) d.rounds (fun s g _ => ?_) (fun s g h => ?_) h
  · exact Local.wp_ofProg.mpr (Prog.wp_perform_bind.mpr ⟨trivial, fun _ h => h.1.elim⟩)
  refine (keeps_service (I := fun _ => I) rfl).wp_bind h (fun _ _ _ h => h) fun decision s g h => ?_
  cases decision with
  | allowed lease => exact Local.wp_pure.mpr h
  | rejected reason secs =>
    dsimp only
    split
    · exact Local.wp_pure.mpr h
    refine (keeps_sleepUntil attempts_quiet _).wp_bind h (fun _ _ _ h => h) fun more s g h => ?_
    split
    · exact Local.wp_pure.mpr h
    · exact Local.wp_pure.mpr h

/-- An attempt that is recorded has its record. -/
theorem wp_recordProviderAttempt {recorder : Recorder} (hrec : Receives plan jobId recorder)
    (attempt : ProviderEgressAttempt) (outcome : ProviderAttemptOutcome) (reason : Option String)
    (error : Option TupleError) :
    (recordProviderAttempt (some recorder) attempt outcome reason error).wp
      (attemptsProtocol plan jobId) (fun r g' => r = .ok () ∧ ∃ entry,
        (∀ accepted, (outcome = .admissionRejected ↔ accepted = false) →
          Recorded (attempt, accepted) entry) ∧
        g' = { g with records := g.records ++ [entry] }) g := by
  refine Prog.wp_mono (hrec _ g) fun r g' hr => ⟨hr.1, _, fun accepted haccepted => ?_, hr.2⟩
  exact ⟨rfl, rfl, rfl, rfl, rfl, haccepted⟩

/-- The record of an attempt that was admitted. -/
theorem wp_record_bind {recorder : Recorder} (hrec : Receives plan jobId recorder)
    {attempt : ProviderEgressAttempt} {outcome : ProviderAttemptOutcome} {reason : Option String}
    {error : Option TupleError} {f : Unit → Code β} {Q : Except PyExc β → Locals → AttemptLog → Prop}
    (h : g.Open attempt) (houtcome : outcome ≠ .admissionRejected)
    (hf : ∀ g : AttemptLog, g.Balanced → (f ()).wp (attemptsProtocol plan jobId) Q s g) :
    ((liftM (recordProviderAttempt (some recorder) attempt outcome reason error) : Code Unit) >>=
      f).wp (attemptsProtocol plan jobId) Q s g := by
  refine Local.wp_bind.mpr (Local.wp_ofProg.mpr
    (Prog.wp_mono (wp_recordProviderAttempt hrec attempt outcome reason error) fun r g' hr => ?_))
  obtain ⟨rfl, entry, hrecorded, rfl⟩ := hr
  exact hf _ (h.record (hrecorded true (by simpa using houtcome)))

/-- What the security gate refuses is not about an output. -/
theorem triedAgain_of_securityGateError {attestations : Attestations} {now : DateTime}
    {error : TupleError} (h : securityGateError attestations now = some error) (attempt : ℕ) :
    triedAgain plan attempt (.tupleError error) = false := by
  have hcode : error.code = some "ATTESTATION_REQUIRED" ∨
      error.code = some "KEY_RELEASE_REQUIRED" := by
    unfold securityGateError at h
    grind
  obtain hcode | hcode := hcode
  · simp [triedAgain, hcode]
  · simp [triedAgain, hcode]

theorem wp_securityGate_log (attempt : ℕ) :
    (enforcePreExecutionSecurityGate plan).wp (attemptsProtocol plan jobId) (fun r g' =>
      g' = g ∧ ∀ exc, r = .error exc → triedAgain plan attempt exc = false) g := by
  refine wp_securityGate (Prog.wp_perform.mpr ⟨trivial, fun r hr => ?_⟩)
  cases r with
  | error e => exact hr.1.elim
  | ok now =>
    refine ⟨fun error hgate => ⟨rfl, fun exc hexc => ?_⟩, fun _ => ⟨rfl, by rintro _ ⟨⟩⟩⟩
    obtain rfl := Except.error.inj hexc
    exact triedAgain_of_securityGateError hgate attempt

/-- From the admission of an attempt to its remote handle. -/
def startPost (plan : CompiledPlan) (attempt : ProviderEgressAttempt) :
    Except PyExc (Option RemoteHandle) → Locals → AttemptLog → Prop
  | .ok none, _, g => g.Balanced
  | .ok (some _), _, g => g.Open attempt
  | .error e, _, g => e.isException = false ∨ g.Pending plan attempt e

theorem wp_startAttempt_log {recorder : Recorder} (hrec : Receives plan jobId recorder)
    {attempt : ProviderEgressAttempt} (h : g.Balanced) :
    (d.startAttempt plan attempt fun reason _ =>
      recordProviderAttempt (some recorder) attempt .admissionRejected reason.value
        admissionError).wp (attemptsProtocol plan jobId) (startPost plan attempt) s g := by
  refine (keeps_acquireWithWait _ _ _).wp_bind h (fun _ _ _ he => .inl he) fun decision s g h => ?_
  cases decision with
  | rejected reason secs =>
    refine Local.wp_perform_bind.mpr ⟨trivial, fun r hr => ?_⟩
    cases r with
    | error e => cases hr.2.1
    | ok u =>
      refine Local.wp_write_bind.mpr (Local.wp_bind.mpr (Local.wp_ofProg.mpr
        (Prog.wp_mono (wp_recordProviderAttempt hrec attempt _ _ _) fun r g' hr => ?_)))
      obtain ⟨rfl, entry, hrecorded, rfl⟩ := hr
      exact Local.wp_pure.mpr (h.reject (hrecorded false (by simp)))
  | allowed lease =>
    refine Local.wp_write_bind.mpr (Local.wp_perform_bind.mpr ⟨trivial, fun r hr => ?_⟩)
    cases r with
    | error e => cases hr.2.1
    | ok u =>
      refine Local.wp_bind.mpr (Local.wp_ofProg.mpr (Prog.wp_mono
        (wp_securityGate_log attempt.attempt) fun r g' hr => ?_))
      obtain ⟨rfl, hgate⟩ := hr
      cases r with
      | error e =>
        refine .inr ?_
        rw [AttemptLog.Pending, if_neg (by simp [hgate e rfl])]
        exact h.accept attempt
      | ok u =>
        refine Local.wp_perform_bind.mpr ⟨trivial, fun r _ => ?_⟩
        cases r with
        | error e => exact .inr ((h.accept attempt).raise plan e)
        | ok handle =>
          refine Local.wp_write_bind.mpr ((attempts_quiet.call rfl).wp_bind (h.accept attempt)
            (fun _ _ _ he => .inl he) fun _ s g h => ?_)
          exact Local.wp_pure.mpr h

/-- What the `try` block of an attempt leaves. -/
def triedPost (plan : CompiledPlan) (attempt : ProviderEgressAttempt) :
    Except PyExc (Flow TupleResult) → Locals → AttemptLog → Prop
  | .ok _, _, g => g.Balanced
  | .error e, _, g => e.isException = false ∨ g.Pending plan attempt e

theorem wp_syncBody_log {recorder : Recorder} (hrec : Receives plan jobId recorder)
    {attempt : ProviderEgressAttempt} (h : g.Balanced) :
    (d.syncBody plan (some recorder) attempt).wp (attemptsProtocol plan jobId) (triedPost plan attempt)
      s g := by
  refine Local.wp_bind.mpr (Local.wp_mono (wp_startAttempt_log hrec h) fun r s g hr => ?_)
  match r, hr with
  | .error e, hr => exact hr
  | .ok none, hr => exact Local.wp_pure.mpr hr
  | .ok (some handle), hr =>
    refine Local.wp_perform_bind.mpr ⟨trivial, fun r _ => ?_⟩
    cases r with
    | error e => exact .inr (AttemptLog.Open.raise hr plan e)
    | ok result =>
      refine Local.wp_perform_bind.mpr ⟨trivial, fun r _ => ?_⟩
      cases r with
      | error e => exact .inr (AttemptLog.Open.raise hr plan e)
      | ok result =>
        refine (attempts_quiet.call rfl).wp_bind hr (fun _ _ _ he => .inl he) fun _ s g h => ?_
        refine (attempts_quiet.call rfl).wp_bind h (fun _ _ _ he => .inl he) fun _ s g h => ?_
        exact wp_record_bind hrec h (by decide) fun g hg => Local.wp_pure.mpr hg

/-- What an attempt leaves that is not cancelled. -/
def endedPost : Except PyExc α → Locals → AttemptLog → Prop
  | .ok _, _, g => g.Balanced
  | .error e, _, g => e.isException = true → g.Balanced

theorem endedPost.of_cancels {e : PyExc} (he : cancels e s g) :
    endedPost (.error e : Except PyExc α) s g := fun h => by
  rw [show e.isException = false from he] at h
  cases h

theorem wp_outputRejected_log {recorder : Recorder} (hrec : Receives plan jobId recorder)
    {attempt : ProviderEgressAttempt} {exc : TupleError} {code : String}
    (hcode : exc.code = some code)
    (houtput : code ∈ ["EMPTY_OUTPUT", "MALFORMED_OUTPUT", "OUTPUT_TRUNCATED"])
    (h : g.Pending plan attempt (.tupleError exc)) :
    (d.outputRejected plan (some recorder) attempt plan.outputValidationAttempts exc code).wp
      (attemptsProtocol plan jobId) endedPost s g := by
  have htried : triedAgain plan attempt.attempt (.tupleError exc) =
      (!structuredFailureShouldSwitchTuple plan exc && !(decide (code = "OUTPUT_TRUNCATED") ||
        decide ((plan.outputValidationAttempts : ℕ) ≤ attempt.attempt))) := by
    simp only [List.mem_cons, List.not_mem_nil, or_false] at houtput
    have hlt : decide (attempt.attempt < plan.outputValidationAttempts) =
        !decide ((plan.outputValidationAttempts : ℕ) ≤ attempt.attempt) := by
      simp [← decide_not]
    obtain rfl | rfl | rfl := houtput <;> simp [triedAgain, hcode, hlt]
  have hquiet {I : AttemptLog → Prop} : Quiet (attemptsProtocol plan jobId) (fun _ => I) cancels :=
    attempts_quiet
  have hrecorded (f : Unit → Code (Flow TupleResult)) (s : Locals) (g : AttemptLog)
      (h : g.Open attempt)
      (hf : ∀ g : AttemptLog, g.Balanced → (f ()).wp (attemptsProtocol plan jobId) endedPost s g) :
      ((liftM (recordProviderAttempt (some recorder) attempt .outputRejected
        (d.outputRejectionReason exc) (outputError exc)) : Code Unit) >>= f).wp
        (attemptsProtocol plan jobId) endedPost s g :=
    wp_record_bind hrec h (by decide) hf
  unfold AttemptLog.Pending at h
  rw [htried] at h
  unfold Dispatcher.outputRejected
  generalize (decide (code = "OUTPUT_TRUNCATED") ||
    decide ((plan.outputValidationAttempts : ℕ) ≤ attempt.attempt)) = finalAttempt at h ⊢
  refine Local.wp_perform_bind.mpr ⟨trivial, fun r hr => ?_⟩
  cases r with
  | error e => cases hr.2.1
  | ok u =>
    cases hs : structuredFailureShouldSwitchTuple plan exc with
    | true =>
      replace h : g.Open attempt := by simpa [hs] using h
      refine (hquiet.call rfl).wp_bind h (fun _ _ _ => endedPost.of_cancels) fun _ s g h => ?_
      refine (Dispatcher.keeps_setLastError hquiet _).wp_bind h (fun _ _ _ => endedPost.of_cancels)
        fun _ s g h => ?_
      exact hrecorded _ s g h fun g hg => Local.wp_pure.mpr hg
    | false =>
      rw [hs] at h
      cases finalAttempt with
      | false => exact Local.wp_pure.mpr h
      | true =>
        replace h : g.Open attempt := h
        refine (Dispatcher.keeps_setLastError hquiet _).wp_bind h (fun _ _ _ => endedPost.of_cancels)
          fun _ s g h => ?_
        refine hrecorded _ s g h fun g hg => ?_
        split
        · exact Local.wp_throw.mpr fun _ => hg
        · exact Local.wp_pure.mpr hg

theorem wp_syncExcept_log {recorder : Recorder} (hrec : Receives plan jobId recorder)
    {attempt : ProviderEgressAttempt} {exc : PyExc}
    (h : exc.isException = false ∨ g.Pending plan attempt exc) :
    (d.syncExcept plan (some recorder) attempt plan.outputValidationAttempts exc).wp
      (attemptsProtocol plan jobId) endedPost s g := by
  have hpending (hexc : exc.isException = true) : g.Pending plan attempt exc := by
    simpa [hexc] using h
  have hopen (hexc : exc.isException = true) (htried : triedAgain plan attempt.attempt exc = false) :
      g.Open attempt := by
    have hpending := hpending hexc
    rwa [AttemptLog.Pending, if_neg (by simp [htried])] at hpending
  have hquiet {I : AttemptLog → Prop} : Quiet (attemptsProtocol plan jobId) (fun _ => I) cancels :=
    attempts_quiet
  cases exc with
  | tupleError exc =>
    refine Local.wp_write_bind.mpr ?_
    split
    · rename_i code hcode
      obtain ⟨hcode, houtput⟩ := Option.filter_eq_some_iff.mp hcode
      exact wp_outputRejected_log hrec hcode (by simpa using houtput) (hpending rfl)
    · rename_i hcode
      have hnone := Option.filter_eq_none_iff.mp (Option.eq_none_iff_forall_ne_some.mpr hcode)
      have htried : triedAgain plan attempt.attempt (.tupleError exc) = false := by
        cases hc : exc.code with
        | none => simp [triedAgain, hc]
        | some code =>
          have hcode := hnone code hc
          simp only [triedAgain, hc, Option.any_some, Bool.and_eq_false_iff]
          simp_all
      refine (Dispatcher.keeps_providerFailure hquiet _ _).wp_bind (hopen rfl htried)
        (fun _ _ _ => endedPost.of_cancels) fun _ s g h => ?_
      refine wp_record_bind hrec h (by decide) fun g hg => ?_
      split
      · exact Local.wp_throw.mpr fun _ => hg
      · exact Local.wp_pure.mpr hg
  | timeoutError =>
    refine (Dispatcher.keeps_timeoutFailure hquiet _ _).wp_bind (hopen rfl rfl)
      (fun _ _ _ => endedPost.of_cancels) fun _ s g h => ?_
    exact wp_record_bind hrec h (by decide) fun g hg => Local.wp_pure.mpr hg
  | cancelledError | generatorExit => exact Local.wp_throw.mpr nofun
  | governanceError | valueError | httpException | tenantBudgetError | exception =>
    refine (Dispatcher.keeps_unexpectedFailure hquiet _ _).wp_bind (hopen rfl rfl)
      (fun _ _ _ => endedPost.of_cancels) fun _ s g h => ?_
    exact wp_record_bind hrec h (by decide) fun g hg => Local.wp_pure.mpr hg

/-- One round of the loop over the attempts of a tuple. -/
theorem wp_syncAttempt_log {recorder : Recorder} (hrec : Receives plan jobId recorder)
    (tuple : String) (attempt : ℕ) (h : g.Balanced) :
    (d.syncAttempt plan (some recorder) tuple plan.outputValidationAttempts attempt).wp
      (attemptsProtocol plan jobId) endedPost s g := by
  refine Local.wp_read_bind.mpr ?_
  split
  · exact (attempts_quiet.call rfl).wp_bind h (fun _ _ _ => endedPost.of_cancels)
      fun _ s g h => Local.wp_pure.mpr h
  dsimp only
  split
  · refine Local.wp_perform_bind.mpr ⟨trivial, fun r hr => ?_⟩
    cases r with
    | error e => cases hr.2.1
    | ok u =>
      refine Local.wp_write_bind.mpr (Local.wp_bind.mpr (Local.wp_ofProg.mpr
        (Prog.wp_mono (wp_recordProviderAttempt hrec _ _ _ _) fun r g' hr => ?_)))
      obtain ⟨rfl, entry, hrecorded, rfl⟩ := hr
      exact Local.wp_pure.mpr (h.reject (hrecorded false (by simp)))
  refine Local.wp_write_bind.mpr (Local.wp_tryFinally.mpr (Local.wp_mono (Q := endedPost) ?_
    fun r s g hr => ?_))
  · refine Local.wp_tryCatch.mpr (Local.wp_mono (wp_syncBody_log hrec h) fun r s g hr => ?_)
    cases r with
    | ok flow => exact hr
    | error exc => exact wp_syncExcept_log hrec hr
  · have hfinish := Dispatcher.keeps_finishAttempt (P := attemptsProtocol plan jobId)
      (I := fun _ => endedPost r s) (E := cancels) attempts_quiet (fun _ => keeps_service rfl)
      (fun _ _ _ g h => Prog.wp_perform.mpr ⟨trivial, fun _ _ => h⟩) (fun _ _ _ he _ => he)
      (d.egressAttempt plan tuple attempt)
    refine Local.wp_mono (hfinish s g hr) fun r' s' g' hr' => ?_
    cases r' with
    | error e => exact endedPost.of_cancels hr'
    | ok u =>
      cases r with
      | ok flow => exact hr'
      | error e => exact hr'

theorem wp_syncTuple_log {recorder : Recorder} (hrec : Receives plan jobId recorder)
    (tuple : String) (h : g.Balanced) :
    (d.syncTuple plan (some recorder) tuple).wp (attemptsProtocol plan jobId) endedPost s g := by
  refine (keeps_service (I := fun _ => AttemptLog.Balanced) rfl).wp_bind h
    (fun _ _ _ => endedPost.of_cancels) fun available s g h => ?_
  split
  · exact Local.wp_pure.mpr h
  split
  · exact Local.wp_pure.mpr h
  refine Local.wp_bind.mpr (Local.wp_mono (Q := endedPost) (Local.wp_forEach
    (I := fun _ _ => AttemptLog.Balanced) (fun _ _ h => h) (fun attempt _ s g h => ?_) h)
    fun r s g hr => ?_)
  · refine Local.wp_mono (wp_syncAttempt_log hrec tuple attempt h) fun r s g hr => ?_
    match r, hr with
    | .ok .next, hr | .ok .stop, hr | .ok (.ret _), hr | .error _, hr => exact hr
  · match r, hr with
    | .ok none, hr | .ok (some _), hr => exact Local.wp_pure.mpr hr
    | .error _, hr => exact hr

/-- The records of a call that is not cancelled. -/
theorem wp_executeSync_log {recorder : Recorder} (hrec : Receives plan jobId recorder)
    (h : g.Balanced) :
    (d.executeSync plan (some recorder)).wp (attemptsProtocol plan jobId)
      (fun r g => (∀ exc, r = .error exc → exc.isException = true) → g.Balanced) g := by
  have hpost {r : Except PyExc TupleResult} {s : Locals} {g : AttemptLog} (hr : endedPost r s g)
      (hr' : ∀ exc, r = .error exc → exc.isException = true) : g.Balanced := by
    cases r with
    | ok result => exact hr
    | error exc => exact hr (hr' exc rfl)
  refine Local.wp_run (Local.wp_mono (Q := endedPost) ?_ fun _ _ _ => hpost)
  refine (attempts_quiet.call rfl).wp_bind h (fun _ _ _ => endedPost.of_cancels) fun _ s g h => ?_
  refine Local.wp_bind.mpr (Local.wp_mono (Q := endedPost) (Local.wp_forEach
    (I := fun _ _ => AttemptLog.Balanced) (fun _ _ h => h) (fun tuple _ s g h => ?_) h)
    fun r s g hr => ?_)
  · refine Local.wp_mono (wp_syncTuple_log hrec tuple h) fun r s g hr => ?_
    match r, hr with
    | .ok .next, hr | .ok .stop, hr | .ok (.ret _), hr | .error _, hr => exact hr
  · match r, hr with
    | .error _, hr => exact hr
    | .ok (some _), hr => exact Local.wp_pure.mpr hr
    | .ok none, hr => exact Local.wp_read_bind.mpr (Local.wp_throw.mpr fun _ => hr)

end

/-! ## Whole runs -/

section

variable {plan : CompiledPlan} {jobId : Option String} {steps : List CallEvent}

def AttemptLog.ofSteps (plan : CompiledPlan) (jobId : Option String) (steps : List CallEvent) :
    AttemptLog :=
  steps.foldl (AttemptLog.after plan jobId) {}

theorem AttemptLog.ofSteps_concat (e : CallEvent) :
    ofSteps plan jobId (steps ++ [e]) = (ofSteps plan jobId steps).after plan jobId e := by
  simp [ofSteps]

theorem AttemptLog.admissions_afterRaise (g : AttemptLog) (exc : PyExc) :
    (g.afterRaise plan exc).admissions = g.admissions := by
  unfold afterRaise
  split <;> rfl

theorem AttemptLog.records_afterRaise (g : AttemptLog) (exc : PyExc) :
    (g.afterRaise plan exc).records = g.records := by
  unfold afterRaise
  split <;> rfl

/-- The records of a job are in the jobs table only. -/
theorem AttemptLog.records_after_some (g : AttemptLog) {id : String} {e : CallEvent}
    (h : ∀ job, e.op ≠ .upsert job) : (g.after plan (some id) e).records = g.records := by
  obtain ⟨op, r⟩ := e
  cases op with
  | start | wait | validateOutput =>
    cases r with
    | ok a => rfl
    | error exc => exact records_afterRaise g exc
  | audit event => cases event <;> rfl
  | upsert job => exact absurd rfl (h job)
  | _ => rfl

/-- The last admission is tried again after the exception. -/
theorem AttemptLog.missed_afterRaise (g : AttemptLog) (exc : PyExc) :
    (g.afterRaise plan exc).missed = 0 ↔ g.missed = 0 ∧ ¬∃ admission,
      g.admissions.getLast? = some admission ∧ triedAgain plan admission.1.attempt exc = true := by
  unfold afterRaise
  cases hlast : g.admissions.getLast? with
  | none => simp
  | some admission => cases htried : triedAgain plan admission.1.attempt exc <;> simp [htried]

theorem AttemptLog.after_of_raisedBy {e : CallEvent} {exc : PyExc} (h : raisedBy e = some exc)
    (g : AttemptLog) : g.after plan jobId e = g.afterRaise plan exc := by
  obtain ⟨op, r⟩ := e
  cases op with
  | start | wait | validateOutput =>
    cases r with
    | ok a => cases h
    | error exc =>
      cases h
      rfl
  | _ => cases h

theorem AttemptLog.missed_after_of_raisedBy {e : CallEvent} (h : raisedBy e = none)
    (g : AttemptLog) : (g.after plan jobId e).missed = g.missed := by
  obtain ⟨op, r⟩ := e
  cases op with
  | start | wait | validateOutput =>
    cases r with
    | ok a => rfl
    | error exc => cases h
  | audit event => cases event <;> rfl
  | upsert job =>
    show (if some job.jobId = jobId then { g with records := job.attempts } else g).missed = _
    split <;> rfl
  | recordAttempt record => cases jobId <;> rfl
  | _ => rfl

theorem AttemptLog.missed_after (g : AttemptLog) (e : CallEvent) :
    (g.after plan jobId e).missed = 0 ↔ g.missed = 0 ∧ ¬∃ exc admission, raisedBy e = some exc ∧
      g.admissions.getLast? = some admission ∧ triedAgain plan admission.1.attempt exc = true := by
  cases h : raisedBy e with
  | none => simp [missed_after_of_raisedBy h]
  | some exc =>
    rw [after_of_raisedBy h, missed_afterRaise]
    simp

theorem AttemptLog.admissions_after (g : AttemptLog) (e : CallEvent) :
    (g.after plan jobId e).admissions = g.admissions ++ (admissionOf e).toList := by
  obtain ⟨op, r⟩ := e
  cases op with
  | start | wait | validateOutput =>
    cases r with
    | ok a => exact (List.append_nil _).symm
    | error exc => exact (admissions_afterRaise g exc).trans (List.append_nil _).symm
  | audit event =>
    cases event with
    | admissionAccepted | admissionRejected => rfl
    | _ => exact (List.append_nil _).symm
  | upsert job =>
    refine Eq.trans ?_ (List.append_nil _).symm
    show (if some job.jobId = jobId then { g with records := job.attempts } else g).admissions = _
    split <;> rfl
  | recordAttempt record => cases jobId <;> exact (List.append_nil _).symm
  | _ => exact (List.append_nil _).symm

theorem AttemptLog.records_after (g : AttemptLog) (e : CallEvent) :
    (g.after plan none e).records = g.records ++ (recordOf e).toList := by
  obtain ⟨op, r⟩ := e
  cases op with
  | start | wait | validateOutput =>
    cases r with
    | ok a => exact (List.append_nil _).symm
    | error exc => exact (records_afterRaise g exc).trans (List.append_nil _).symm
  | audit event => cases event <;> exact (List.append_nil _).symm
  | recordAttempt record => rfl
  | _ => exact (List.append_nil _).symm

theorem AttemptLog.admissions_ofSteps (plan : CompiledPlan) (jobId : Option String)
    (steps : List CallEvent) :
    (ofSteps plan jobId steps).admissions = steps.filterMap admissionOf := by
  induction steps using List.reverseRecOn with
  | nil => rfl
  | append_singleton steps e ih =>
    rw [ofSteps_concat, admissions_after, ih, List.filterMap_append]
    cases h : admissionOf e <;> simp [h]

theorem AttemptLog.records_ofSteps (plan : CompiledPlan) (steps : List CallEvent) :
    (ofSteps plan none steps).records = steps.filterMap recordOf := by
  induction steps using List.reverseRecOn with
  | nil => rfl
  | append_singleton steps e ih =>
    rw [ofSteps_concat, records_after, ih, List.filterMap_append]
    cases h : recordOf e <;> simp [h]

theorem triesAgain_concat (e : CallEvent) : TriesAgain plan (steps ++ [e]) ↔ TriesAgain plan steps ∨
    ∃ exc admission, raisedBy e = some exc ∧
      (steps.filterMap admissionOf).getLast? = some admission ∧
      triedAgain plan admission.1.attempt exc = true := by
  constructor
  · rintro ⟨before, e', rest, exc, admission, hsteps, h⟩
    induction rest using List.reverseRecOn with
    | nil =>
      obtain ⟨rfl, he⟩ := List.append_inj' hsteps rfl
      obtain rfl := List.singleton_inj.mp he
      exact .inr ⟨exc, admission, h⟩
    | append_singleton rest last _ =>
      rw [← List.cons_append, ← List.append_assoc] at hsteps
      exact .inl ⟨before, e', rest, exc, admission, (List.append_inj' hsteps rfl).1, h⟩
  · rintro (⟨before, e', rest, exc, admission, rfl, h⟩ | ⟨exc, admission, h⟩)
    · exact ⟨before, e', rest ++ [e], exc, admission, by simp, h⟩
    · exact ⟨steps, e, [], exc, admission, rfl, h⟩

theorem AttemptLog.missed_ofSteps (plan : CompiledPlan) (jobId : Option String)
    (steps : List CallEvent) :
    (ofSteps plan jobId steps).missed = 0 ↔ ¬TriesAgain plan steps := by
  induction steps using List.reverseRecOn with
  | nil =>
    refine iff_of_true rfl ?_
    rintro ⟨before, e, rest, exc, admission, hsteps, -⟩
    simp at hsteps
  | append_singleton steps e ih =>
    rw [ofSteps_concat, missed_after, ih, triesAgain_concat, not_or, admissions_ofSteps]

end

/-- The records of a job. -/
def JobTable.attempts (t : JobTable) (jobId : String) : Option (List ProviderAttemptRecord) :=
  (t.find jobId).map (·.attempts)

/-- One step of the jobs table while a job runs. Others may write to the table before it, but not the
records of the job. -/
def recordingStep (jobId : String) (t : JobTable) (e : CallEvent) (t' : JobTable) : Prop :=
  ∃ t₀ : JobTable, t₀.attempts jobId = t.attempts jobId ∧ jobStep t₀ e t' ∧ ServiceFault e = false

/-- The log has the records that the table has. -/
theorem recordingStep.follows {plan : CompiledPlan} {jobId : String} {t t' : JobTable} {e : CallEvent}
    {g : AttemptLog} (hstep : recordingStep jobId t e t') (h : t.attempts jobId = some g.records) :
    (attemptsProtocol plan (some jobId)).allowed g e ∧
      t'.attempts jobId = some (g.after plan (some jobId) e).records := by
  obtain ⟨t₀, hsame, hjob, hfault⟩ := hstep
  rw [← hsame] at h
  refine ⟨⟨possible_of_jobStep hjob, hfault, ?_⟩, ?_⟩
  · obtain ⟨op, r⟩ := e
    cases op with
    | getJob id =>
      cases r with
      | error exc => trivial
      | ok found =>
        intro hid
        obtain rfl := Option.some.inj hid
        obtain ⟨job, hfind, hattempts⟩ := Option.map_eq_some_iff.mp h
        exact ⟨job, hjob.1.trans hfind, hattempts⟩
    | fetch id =>
      cases r with
      | error exc => trivial
      | ok job => exact fun _ => JobTable.jobId_of_find hjob.1
    | _ => trivial
  · obtain ⟨op, r⟩ := e
    cases op with
    | upsert job =>
      cases r with
      | error exc => cases hfault
      | ok u =>
        obtain rfl : t' = t₀.upsert job := hjob
        show _ = some (if some job.jobId = some jobId then { g with records := job.attempts }
          else g).records
        split
        · rename_i hid
          obtain rfl := Option.some.inj hid
          simp [JobTable.attempts]
        · rename_i hid
          rw [JobTable.attempts, JobTable.find_upsert_of_ne fun h => hid (congrArg some h.symm)]
          exact h
    | _ =>
      rw [eq_of_jobStep hjob (by simp), AttemptLog.records_after_some g (by simp)]
      exact h

theorem attempts_allowed {plan : CompiledPlan} {g : AttemptLog} {e : CallEvent} (he : Possible e)
    (hfault : ServiceFault e = false) : (attemptsProtocol plan none).allowed g e := by
  refine ⟨he, hfault, ?_⟩
  split
  · nofun
  · nofun
  · trivial

/-- The recorder of a caller receives the records of all attempts, in order, and so does the record of
a job, exactly when no rejected output is tried again. -/
theorem attempts_recorded_iff (d : Dispatcher) (plan : CompiledPlan) :
    (∀ steps r, (d.executeSync plan (some callerRecorder)).Steps steps (.done r) →
      (∀ e ∈ steps, Possible e ∧ ServiceFault e = false) →
      (∀ exc, r = .error exc → exc.isException = true) →
      (List.Forall₂ Recorded (steps.filterMap admissionOf) (steps.filterMap recordOf) ↔
        ¬TriesAgain plan steps)) ∧
    (∀ jobId t steps r t', (d.executeSync plan (some (asyncAttemptRecorder jobId))).Exec
        (recordingStep jobId) t steps r t' →
      t.attempts jobId = some [] →
      (∀ exc, r = .error exc → exc.isException = true) →
      ∃ records, t'.attempts jobId = some records ∧
        (List.Forall₂ Recorded (steps.filterMap admissionOf) records ↔ ¬TriesAgain plan steps)) := by
  constructor
  · intro steps r hsteps hallowed hr
    have hbalanced := (hsteps.wp (g := {})
      (wp_executeSync_log receives_callerRecorder ⟨rfl, fun _ => .nil⟩)
      fun e he g => attempts_allowed (hallowed e he).1 (hallowed e he).2).1 hr
    rw [← AttemptLog.missed_ofSteps plan none, ← AttemptLog.admissions_ofSteps plan none,
      ← AttemptLog.records_ofSteps plan]
    exact AttemptLog.Balanced.forall₂_iff hbalanced
  · intro jobId t steps r t' hrun ht hr
    obtain ⟨hbalanced, hrecords⟩ := hrun.wp (R := fun t g => t.attempts jobId = some g.records)
      (P := attemptsProtocol plan (some jobId)) (g := {}) (fun _ hstep h => hstep.follows h) ht
      (wp_executeSync_log (receives_asyncAttemptRecorder jobId) ⟨rfl, fun _ => .nil⟩)
    refine ⟨_, hrecords, ?_⟩
    have hiff := (hbalanced hr).forall₂_iff
    rw [← AttemptLog.missed_ofSteps plan (some jobId), ← AttemptLog.admissions_ofSteps plan (some jobId)]
    exact hiff

/-- The answers to the calls of one dispatch, with a jobs table. -/
def JobTable.answer (op : Call) (t : JobTable) : Option (Except PyExc op.Res × JobTable) :=
  match op with
  | .getJob jobId => some (.ok (t.find jobId), t)
  | .fetch jobId => (t.find jobId).map fun job => (.ok job, t)
  | .upsert job => some (.ok (), t.upsert job)
  | op => (Script.answer (fun _ => none) op {}).map fun x => (x.1, t)

theorem recordingStep_of_answer {jobId : String} {op : Call} {t t' : JobTable}
    {r : Except PyExc op.Res} (h : t.answer op = some (r, t')) :
    recordingStep jobId t ⟨op, r⟩ t' := by
  refine ⟨t, rfl, ?_⟩
  cases op with
  | getJob id =>
    cases h
    exact ⟨⟨rfl, rfl⟩, rfl⟩
  | fetch id =>
    obtain ⟨job, hfind, hx⟩ := Option.map_eq_some_iff.mp h
    cases hx
    exact ⟨⟨hfind, rfl⟩, rfl⟩
  | upsert job =>
    cases h
    exact ⟨rfl, rfl⟩
  | _ =>
    first
    | (cases h; done)
    | (cases h
       exact ⟨⟨trivial, rfl⟩, rfl⟩)

/-- A job that runs. -/
def echoJob : JobRecord where
  jobId := "job-1"
  state := .running
  plan := echoPlan
  createdAt := midnight

/-- Both recorders in a run whose output is accepted at once. -/
theorem attempts_recorded_iff_accepted :
    (∃ steps r, (echoDispatcher.executeSync echoPlan (some callerRecorder)).Steps steps (.done r) ∧
      (steps.filterMap admissionOf).length = 1 ∧
      List.Forall₂ Recorded (steps.filterMap admissionOf) (steps.filterMap recordOf)) ∧
    ∃ t steps r t', (echoDispatcher.executeSync echoPlan
        (some (asyncAttemptRecorder "job-1"))).Exec (recordingStep "job-1") t steps r t' ∧
      ∃ records, t'.attempts "job-1" = some records ∧
        List.Forall₂ Recorded (steps.filterMap admissionOf) records := by
  have hfirst {steps : List CallEvent} (hraised : ∀ e ∈ steps, raisedBy e = none) :
      ¬TriesAgain echoPlan steps := by
    rintro ⟨before, e, rest, exc, admission, rfl, he, -⟩
    simp [hraised e] at he
  constructor
  · obtain ⟨steps, r, script, hrun, hadmissions, hfault, hraised, hr⟩ : ∃ steps r script,
        (echoDispatcher.executeSync echoPlan (some callerRecorder)).Exec (Script.step fun _ => none) {}
          steps r script ∧
        (steps.filterMap admissionOf).length = 1 ∧ (∀ e ∈ steps, ServiceFault e = false) ∧
        (∀ e ∈ steps, raisedBy e = none) ∧ r.isOk = true :=
      ⟨_, _, _, Prog.Exec.of_answer (fun h => h) rfl, rfl, by decide +kernel, by decide +kernel, rfl⟩
    refine ⟨steps, r, hrun.steps, hadmissions, ?_⟩
    refine ((attempts_recorded_iff echoDispatcher echoPlan).1 steps r hrun.steps
      (fun e he => ⟨hrun.forall Script.possible_of_step e he, hfault e he⟩) ?_).mpr (hfirst hraised)
    rintro exc rfl
    cases hr
  · have hanswer : ((echoDispatcher.executeSync echoPlan (some (asyncAttemptRecorder "job-1"))).answer
        JobTable.answer ⟨[echoJob], by simp⟩).any (fun x =>
        x.1.all (fun e => (raisedBy e).isNone) && x.2.1.isOk) = true := by
      decide +kernel
    obtain ⟨⟨steps, r, t'⟩, hrun, hx⟩ := (Option.any_eq_true _ _).mp hanswer
    replace hrun := Prog.Exec.of_answer (W := recordingStep "job-1") recordingStep_of_answer hrun
    obtain ⟨hraised, hr⟩ : (∀ e ∈ steps, raisedBy e = none) ∧ r.isOk = true := by simpa using hx
    obtain ⟨records, hrecords, hiff⟩ := (attempts_recorded_iff echoDispatcher echoPlan).2 "job-1" _
      steps r t' hrun rfl (by
        rintro exc rfl
        cases hr)
    exact ⟨_, steps, r, t', hrun, records, hrecords, hiff.mpr (hfirst hraised)⟩

/-- An output that is rejected on the first of two attempts is not recorded. -/
theorem not_attemptsAlwaysRecorded :
    ¬ ∀ (d : Dispatcher) (plan : CompiledPlan) steps r,
      (d.executeSync plan (some callerRecorder)).Steps steps (.done r) →
      (∀ e ∈ steps, Possible e ∧ ServiceFault e = false) →
      (∀ exc, r = .error exc → exc.isException = true) →
      List.Forall₂ Recorded (steps.filterMap admissionOf) (steps.filterMap recordOf) := by
  intro h
  obtain ⟨steps, r, script, hrun, hadmissions, hrecords, hfault, hr⟩ : ∃ steps r script,
      (echoDispatcher.executeSync { echoPlan with outputValidationAttempts := 2 }
        (some callerRecorder)).Exec (Script.step fun _ => none)
        { outputs := [.error (.tupleError
          { message := "empty", retryable := true, statusCode := 502, code := some "EMPTY_OUTPUT" })] }
        steps r script ∧
      (steps.filterMap admissionOf).length = 2 ∧ (steps.filterMap recordOf).length = 1 ∧
      (∀ e ∈ steps, ServiceFault e = false) ∧ r.isOk = true :=
    ⟨_, _, _, Prog.Exec.of_answer (fun h => h) rfl, rfl, rfl, by decide +kernel, rfl⟩
  have hall := h _ _ steps r hrun.steps
    (fun e he => ⟨hrun.forall Script.possible_of_step e he, hfault e he⟩)
    (by
      rintro exc rfl
      cases hr)
  have hlength := hall.length_eq
  rw [hadmissions, hrecords] at hlength
  cases hlength

end Gpucall
