import Gpucall.Tenant.Ledger
import Gpucall.Dispatcher.Terminal

/-! The budget of an asynchronous job. A task that `submit_async` has created runs alone on its job and
on the reservation of its plan; when it has ended, the reservation is settled as the stored state of
the job says exactly when none of the steps of `_run_job` outside `execute_sync` has failed. -/

namespace Gpucall

open Effects

structure JobWorld where
  jobs : JobTable
  ledger : UsageTable

/-- The callbacks that `build_runtime` gives to the dispatcher. -/
def ledgerAfter (ledger : UsageTable) (e : CallEvent) : UsageTable :=
  match e.op, e.outcome with
  | .onAsyncSuccess plan, .ok _ => commitPlan (some plan.planId) ledger
  | .onAsyncTerminalFailure plan, .ok _ => releasePlan (some plan.planId) ledger
  | _, _ => ledger

def jobWorldStep (w : JobWorld) (e : CallEvent) (w' : JobWorld) : Prop :=
  jobStep w.jobs e w'.jobs ∧ w'.ledger = ledgerAfter w.ledger e

/-- The dispatcher as `build_runtime` makes it. -/
def Dispatcher.withCallbacks (d : Dispatcher) : Dispatcher :=
  { d with hasAsyncSuccess := true, hasAsyncTerminalFailure := true }

abbrev JobEvent := Event JobStep JobStep.Res PyExc

/-- One step of the task of a job: a call, a whole update, or a whole run of `execute_sync`. -/
abbrev jobTaskStep (d : Dispatcher) (jobId : String) : JobWorld → JobEvent → JobWorld → Prop :=
  Prog.layer jobWorldStep (JobStep.program d jobId)

/-- The job has a terminal state, and the reservation of its plan is settled as that state says. -/
def BudgetSettled (jobId : String) (plan : CompiledPlan) (w : JobWorld) : Prop :=
  ∃ state, w.jobs.state jobId = some state ∧ isTerminalJobState state ∧
    planStatuses w.ledger plan.planId = [if state = .completed then .committed else .released]

/-- `_run_job` has a clause for the exception. -/
def PyExc.hasJobClause : PyExc → Bool
  | .tupleError _ | .cancelledError => true
  | _ => false

/-- A step of `_run_job` that fails, but for `execute_sync` and the update to `COMPLETED` when they
raise an exception that `_run_job` has a clause for. -/
def JobFault (e : JobEvent) : Bool :=
  match e.op, e.outcome with
  | _, .ok _ => false
  | .execute _, .error exc => !exc.hasJobClause
  | .update (.completed _), .error exc => !exc.hasJobClause
  | _, .error _ => true

/-! ## The steps of the task -/

/-- The world of the lower layer, as a protocol. -/
def worldProtocol : Protocol Call Call.Res PyExc JobWorld where
  pre _ _ := True
  allowed w e := match e.op, e.outcome with
    | .fetch jobId, .ok job => w.jobs.find jobId = some job
    | _, _ => Possible e
  after w e :=
    { jobs := match e.op, e.outcome with
        | .upsert job, .ok _ => w.jobs.upsert job
        | _, _ => w.jobs
      ledger := ledgerAfter w.ledger e }

theorem worldProtocol_step {w w' : JobWorld} {e : CallEvent} (h : jobWorldStep w e w') :
    worldProtocol.allowed w e ∧ w' = worldProtocol.after w e := by
  obtain ⟨jobs', ledger'⟩ := w'
  obtain ⟨hjobs, rfl⟩ := h
  constructor
  · unfold worldProtocol
    dsimp only
    split
    · rename_i jobId job hop hout
      obtain ⟨op, r⟩ := e
      cases hop
      cases hout
      exact hjobs.1
    · exact possible_of_jobStep hjobs
  · unfold worldProtocol
    dsimp only
    congr 1
    split
    · rename_i job u hop hout
      obtain ⟨op, r⟩ := e
      cases hop
      cases hout
      exact hjobs
    · rename_i hwrite
      refine eq_of_jobStep hjobs ?_
      rintro job rfl
      exact hwrite job () rfl HEq.rfl

/-- The state of the job, and the ledger. -/
def HoldsAt (jobId : String) (state : JobState) (ledger : UsageTable) (w : JobWorld) : Prop :=
  w.jobs.state jobId = some state ∧ w.ledger = ledger

section

variable {jobId : String} {state : JobState} {ledger : UsageTable}

/-- A call that writes to the job store or to the ledger. -/
def Call.isWrite : Call → Bool
  | .upsert _ | .onAsyncSuccess _ | .onAsyncTerminalFailure _ => true
  | _ => false

theorem stays_holdsAt {op : Call} (hop : op.isWrite = false) :
    (call op).Stays worldProtocol (HoldsAt jobId state ledger) := by
  refine fun w h => ⟨trivial, fun r _ => ?_⟩
  suffices worldProtocol.after w ⟨op, r⟩ = w from this.symm ▸ h
  unfold worldProtocol ledgerAfter
  cases op with
  | upsert | onAsyncSuccess | onAsyncTerminalFailure => cases hop
  | _ => rfl

/-- `update` stores the record with its changes, or leaves it as it is. -/
theorem wp_updateJob_holdsAt {change : JobRecord → JobRecord}
    (hid : ∀ job, (change job).jobId = job.jobId) {w : JobWorld} (h : HoldsAt jobId state ledger w) :
    (updateJob jobId change).wp worldProtocol (fun r w' =>
      (∀ exc, r = .error exc → HoldsAt jobId state ledger w') ∧
      (r = .ok () → ∃ job, job.state = state ∧ HoldsAt jobId (change job).state ledger w')) w := by
  refine Prog.wp_bind.mpr ⟨trivial, fun r hr => ?_⟩
  cases r with
  | error e => exact ⟨fun _ _ => h, by rintro ⟨⟩⟩
  | ok job =>
    have hfind : w.jobs.find jobId = some job := hr
    have hjob : (change job).jobId = jobId := (hid job).trans (JobTable.jobId_of_find hfind)
    have hstate : job.state = state := by
      simpa [JobTable.state_of_find hfind] using h.1
    refine ⟨trivial, fun r _ => ?_⟩
    cases r with
    | error e => exact ⟨fun _ _ => h, by rintro ⟨⟩⟩
    | ok u =>
      refine ⟨by rintro _ ⟨⟩, fun _ => ⟨job, hstate, ?_, h.2⟩⟩
      exact hjob ▸ JobTable.state_upsert (t := w.jobs) (change job)

theorem Dispatcher.dispatches_holdsAt (plan : CompiledPlan) :
    Dispatches worldProtocol (HoldsAt jobId state ledger) plan where
  routine :=
    { stays := fun {op} hop _ => stays_holdsAt (by cases op <;> first | rfl | cases hop)
      running := fun _ => ⟨trivial, fun _ hr => hr⟩
      lastError := fun _ h => h
      streamYielded := fun _ h => h }
  acquire _ _ := stays_holdsAt rfl
  release _ := stays_holdsAt rfl
  cancelRemote _ _ := stays_holdsAt rfl
  start _ _ _ := stays_holdsAt rfl

/-- `execute_sync` with the recorder of a job leaves the state of the job and the ledger alone. -/
theorem Dispatcher.stays_executeSync_holdsAt (d : Dispatcher) (plan : CompiledPlan) :
    (d.executeSync plan (some (asyncAttemptRecorder jobId))).Stays worldProtocol
      (HoldsAt jobId state ledger) := by
  refine d.stays_executeSync (dispatches_holdsAt plan) (recorderStays_asyncAttemptRecorder
    (stays_holdsAt rfl) fun attempts w h => ?_)
  refine Prog.wp_mono (wp_updateJob_holdsAt (by intro; rfl) h) fun r w' h' => ?_
  cases r with
  | error e => exact h'.1 e rfl
  | ok u =>
    obtain ⟨job, hstate, hw'⟩ := h'.2 rfl
    exact hstate ▸ hw'

end

/-! ## The fate of a job -/

/-- The state of the job, the state of its reservation, and whether a step has failed. -/
structure Fate where
  state : JobState
  status : UsageStatus
  faulty : Bool := false

def fateProtocol (jobId planId : String) : Protocol JobStep JobStep.Res PyExc Fate where
  pre _ op := match op with
    | .call (.upsert _) => False
    | .call (.onAsyncSuccess plan) | .call (.onAsyncTerminalFailure plan) => plan.planId = planId
    | _ => True
  allowed g e := match e.op, e.outcome with
    | .call (.getJob id), .ok found => id = jobId → found.map (·.state) = some g.state
    | .call (.audit _), .error (.tupleError _) => False
    | _, _ => True
  after g e :=
    { state := match e.op, e.outcome with
        | .update u, .ok _ => u.state
        | _, _ => g.state
      status := match e.op, e.outcome with
        | .call (.onAsyncSuccess _), .ok _ => settledAs planId .committed g.status
        | .call (.onAsyncTerminalFailure _), .ok _ => settledAs planId .released g.status
        | _, _ => g.status
      faulty := JobFault e || g.faulty }

/-- The fate is that of the job and the plan in the world. -/
def Follows (jobId planId : String) (w : JobWorld) (g : Fate) : Prop :=
  w.jobs.state jobId = some g.state ∧ planStatuses w.ledger planId = [g.status]

theorem planStatuses_settled {planId : String} {status charge : UsageStatus} {t t' : UsageTable}
    (ht' : t' = settlePlan status (some planId) t) (h : planStatuses t planId = [charge]) :
    planStatuses t' planId = [settledAs planId status charge] := by
  rw [ht', planStatuses_settlePlan, h]
  rfl

theorem Follows.step {d : Dispatcher} {jobId planId : String} {w w' : JobWorld} {e : JobEvent}
    {g : Fate} (hpre : (fateProtocol jobId planId).pre g e.op) (hstep : jobTaskStep d jobId w e w')
    (h : Follows jobId planId w g) :
    (fateProtocol jobId planId).allowed g e ∧
      Follows jobId planId w' ((fateProtocol jobId planId).after g e) := by
  obtain ⟨op, r⟩ := e
  obtain ⟨es, hexec⟩ := hstep
  cases op with
  | call op =>
    obtain ⟨hjobs, hledger⟩ := hexec.of_perform
    have hwrite (job : JobRecord) : (⟨op, r⟩ : CallEvent) ≠ ⟨.upsert job, .ok ()⟩ := by
      rintro ⟨⟩
      exact hpre
    have hstate : w'.jobs.state jobId = some g.state := by
      rw [eq_of_jobStep hjobs hwrite]
      exact h.1
    cases op with
    | upsert job => exact hpre.elim
    | onAsyncSuccess plan =>
      obtain rfl : plan.planId = planId := hpre
      cases r with
      | error e => exact ⟨trivial, hstate, hledger ▸ h.2⟩
      | ok u => exact ⟨trivial, hstate, planStatuses_settled hledger h.2⟩
    | onAsyncTerminalFailure plan =>
      obtain rfl : plan.planId = planId := hpre
      cases r with
      | error e => exact ⟨trivial, hstate, hledger ▸ h.2⟩
      | ok u => exact ⟨trivial, hstate, planStatuses_settled hledger h.2⟩
    | getJob id =>
      refine ⟨?_, hstate, hledger ▸ h.2⟩
      cases r with
      | error e => trivial
      | ok found =>
        obtain ⟨hfound, -⟩ := hjobs
        rintro rfl
        exact hfound ▸ h.1
    | audit event =>
      refine ⟨?_, hstate, hledger ▸ h.2⟩
      rcases r with exc | u
      · cases exc with
        | tupleError exc => exact hjobs.elim
        | _ => trivial
      · trivial
    | _ => exact ⟨trivial, hstate, hledger ▸ h.2⟩
  | update u =>
    obtain ⟨⟨herror, hok⟩, hw'⟩ := hexec.wp (R := Eq) (fun _ hw h => h ▸ worldProtocol_step hw) rfl
      (wp_updateJob_holdsAt u.jobId_change (show HoldsAt jobId g.state w.ledger w from ⟨h.1, rfl⟩))
    rw [← hw'] at herror hok
    cases r with
    | error exc =>
      obtain ⟨hstate, hledger⟩ := herror exc rfl
      exact ⟨trivial, hstate, hledger ▸ h.2⟩
    | ok a =>
      obtain ⟨job, -, hstate, hledger⟩ := hok rfl
      rw [u.state_change] at hstate
      exact ⟨trivial, hstate, hledger ▸ h.2⟩
  | execute plan =>
    obtain ⟨hholds, hw'⟩ := hexec.wp (R := Eq) (fun _ hw h => h ▸ worldProtocol_step hw) rfl
      (d.stays_executeSync_holdsAt plan w ⟨h.1, rfl⟩)
    obtain ⟨hstate, hledger⟩ := hw' ▸ hholds
    exact ⟨trivial, hstate, hledger ▸ h.2⟩

/-- The job has ended and its reservation is settled as it should be. -/
def Fate.Settled (g : Fate) : Prop :=
  isTerminalJobState g.state ∧ g.status = if g.state = .completed then .committed else .released

/-- What the task leaves: the budget is settled exactly when no step has failed. -/
def Fate.Exact (plan : CompiledPlan) (g : Fate) : Prop :=
  g.Settled ↔ plan.planId ≠ "" ∧ plan.attestations.storageSafePlan = false ∧ g.faulty = false

section

variable (d : Dispatcher) {jobId : String} {plan : CompiledPlan} {s : JobState}

theorem Fate.not_settled_of_reserved {f : Bool} : ¬Fate.Settled ⟨s, .reserved, f⟩ := by
  intro h
  have hstatus := h.2
  dsimp only at hstatus
  split at hstatus <;> cases hstatus

/-- A step has failed before the reservation was settled. -/
theorem Fate.exact_of_reserved : Fate.Exact plan ⟨s, .reserved, true⟩ :=
  iff_of_false Fate.not_settled_of_reserved (by simp)

variable (hsafe : plan.attestations.storageSafePlan = false)
include hsafe

/-- The release settles the budget of a job that has ended, unless it has completed. -/
theorem wp_releaseAsyncBudget (hterminal : isTerminalJobState s) :
    (d.withCallbacks.releaseAsyncBudget plan).wp (fateProtocol jobId plan.planId)
      (fun _ g => g.Exact plan) ⟨s, .reserved, decide (s = .completed)⟩ := by
  refine Prog.wp_tryCatch.mpr (Prog.wp_perform.mpr ⟨rfl, fun r _ => ?_⟩)
  cases r with
  | ok u =>
    show Fate.Exact plan
      ⟨s, settledAs plan.planId .released .reserved, decide (s = .completed)⟩
    by_cases hcompleted : s = .completed <;> by_cases hid : plan.planId = "" <;>
      simp [Fate.Exact, Fate.Settled, settledAs, hterminal, hsafe, hcompleted, hid]
  | error e =>
    dsimp only
    split
    · exact ⟨trivial, fun r _ => by cases r <;> exact Fate.exact_of_reserved⟩
    · exact Fate.exact_of_reserved

/-- The end of the clause for a cancellation. -/
theorem wp_cancelledEnd (hterminal : isTerminalJobState s) :
    (do
      JobStep.perform (.call (.audit (.jobCancelled jobId)))
      d.withCallbacks.releaseAsyncBudget plan
      throw .cancelledError : JobCode Unit).wp (fateProtocol jobId plan.planId)
      (fun _ g => g.Exact plan) ⟨s, .reserved, decide (s = .completed)⟩ := by
  refine Prog.wp_perform_bind.mpr ⟨trivial, fun r _ => ?_⟩
  cases r with
  | error e => exact Fate.exact_of_reserved
  | ok u =>
    refine Prog.wp_bind.mpr (Prog.wp_mono (wp_releaseAsyncBudget d hsafe hterminal) fun r g h => ?_)
    cases r with
    | error e => exact h
    | ok u => exact h

/-- The clauses after a job has completed settle nothing: there the reservation is only released. -/
theorem wp_jobExcept_completed {exc : PyExc} (hexc : ∀ error, exc ≠ .tupleError error) :
    (d.withCallbacks.jobExcept jobId plan exc).wp (fateProtocol jobId plan.planId)
      (fun _ g => g.Exact plan) ⟨.completed, .reserved, true⟩ := by
  cases exc with
  | tupleError error => exact absurd rfl (hexc error)
  | timeoutError | governanceError | valueError | httpException | tenantBudgetError | exception
  | generatorExit =>
    exact Fate.exact_of_reserved
  | cancelledError =>
    refine Prog.wp_bind.mpr (Prog.wp_perform_bind.mpr ⟨trivial, fun r hr => ?_⟩)
    match r, hr with
    | .error e, _ => exact Fate.exact_of_reserved
    | .ok none, hr => cases hr rfl
    | .ok (some job), hr =>
      have hstate : job.state = .completed := Option.some.inj (hr rfl)
      dsimp only
      rw [if_pos (by rw [hstate]; rfl)]
      exact wp_cancelledEnd d hsafe rfl

/-- The clauses while a job runs settle its budget, if none of their steps fails. -/
theorem wp_jobExcept_running (exc : PyExc) :
    (d.withCallbacks.jobExcept jobId plan exc).wp (fateProtocol jobId plan.planId)
      (fun _ g => g.Exact plan) ⟨.running, .reserved, !exc.hasJobClause⟩ := by
  cases exc with
  | timeoutError | governanceError | valueError | httpException | tenantBudgetError | exception
  | generatorExit =>
    exact Fate.exact_of_reserved
  | tupleError error =>
    refine Prog.wp_perform_bind.mpr ⟨trivial, fun r _ => ?_⟩
    cases r with
    | error e => exact Fate.exact_of_reserved
    | ok u =>
      refine Prog.wp_perform_bind.mpr ⟨trivial, fun r _ => ?_⟩
      cases r with
      | error e => exact Fate.exact_of_reserved
      | ok u => exact wp_releaseAsyncBudget (s := .failed) d hsafe rfl
  | cancelledError =>
    refine Prog.wp_bind.mpr (Prog.wp_perform_bind.mpr ⟨trivial, fun r hr => ?_⟩)
    match r, hr with
    | .error e, _ => exact Fate.exact_of_reserved
    | .ok none, hr => cases hr rfl
    | .ok (some job), hr =>
      have hstate : job.state = .running := Option.some.inj (hr rfl)
      dsimp only
      rw [if_neg (by rw [hstate]; decide)]
      refine Prog.wp_perform.mpr ⟨trivial, fun r _ => ?_⟩
      cases r with
      | error e => exact Fate.exact_of_reserved
      | ok u => exact wp_cancelledEnd (s := .cancelled) d hsafe rfl

/-- The `try` block and its clauses. -/
theorem wp_jobBody_fate :
    ((d.withCallbacks.jobBody jobId plan).tryCatch (d.withCallbacks.jobExcept jobId plan)).wp
      (fateProtocol jobId plan.planId) (fun _ g => g.Exact plan) ⟨.running, .reserved, false⟩ := by
  refine Prog.wp_tryCatch.mpr (Prog.wp_perform_bind.mpr ⟨trivial, fun r _ => ?_⟩)
  cases r with
  | error e => cases e <;> exact wp_jobExcept_running d hsafe _
  | ok result =>
    refine Prog.wp_perform_bind.mpr ⟨trivial, fun r _ => ?_⟩
    cases r with
    | error e => cases e <;> exact wp_jobExcept_running d hsafe _
    | ok u =>
      refine Prog.wp_perform_bind.mpr ⟨trivial, fun r hr => ?_⟩
      cases r with
      | error e => exact wp_jobExcept_completed d hsafe (by rintro _ rfl; exact hr)
      | ok u =>
        refine Prog.wp_tryCatch.mpr (Prog.wp_perform.mpr ⟨rfl, fun r _ => ?_⟩)
        cases r with
        | ok u =>
          show Fate.Exact plan ⟨.completed, settledAs plan.planId .committed .reserved, false⟩
          by_cases hid : plan.planId = "" <;>
            simp [Fate.Exact, Fate.Settled, isTerminalJobState, settledAs, hsafe, hid]
        | error e =>
          dsimp only
          split
          · refine ⟨trivial, fun r hr => ?_⟩
            cases r with
            | ok u => exact Fate.exact_of_reserved
            | error e => exact wp_jobExcept_completed d hsafe (by rintro _ rfl; exact hr)
          · rename_i he
            exact wp_jobExcept_completed d hsafe (by rintro _ rfl; exact he rfl)

omit hsafe in
/-- What the task of a job leaves. -/
theorem wp_jobTask :
    (d.withCallbacks.jobTask jobId plan).wp (fateProtocol jobId plan.planId)
      (fun _ g => g.Exact plan) ⟨.queued, .reserved, false⟩ := by
  refine Prog.wp_perform_bind.mpr ⟨trivial, fun r _ => ?_⟩
  cases r with
  | error e => exact Fate.exact_of_reserved
  | ok u =>
    refine Prog.wp_perform_bind.mpr ⟨trivial, fun r hr => ?_⟩
    match r, hr with
    | .error e, _ => exact Fate.exact_of_reserved
    | .ok none, hr => cases hr rfl
    | .ok (some job), _ =>
      refine Prog.wp_perform_bind.mpr ⟨trivial, fun r _ => ?_⟩
      cases r with
      | error e => exact Fate.exact_of_reserved
      | ok u =>
        dsimp only
        split
        · rename_i hstored
          refine Prog.wp_perform_bind.mpr ⟨trivial, fun r _ => ?_⟩
          cases r with
          | error e => exact Fate.exact_of_reserved
          | ok u =>
            have hplan : plan.attestations.storageSafePlan = true := hstored
            exact ⟨trivial, fun r _ => iff_of_false Fate.not_settled_of_reserved (by simp [hplan])⟩
        · rename_i hsafe
          exact wp_jobBody_fate d (by simpa using hsafe)

end

theorem faulty_foldl (jobId planId : String) (steps : List JobEvent) (g : Fate) :
    (steps.foldl (fateProtocol jobId planId).after g).faulty = (steps.any JobFault || g.faulty) := by
  induction steps generalizing g with
  | nil => rfl
  | cons e steps ih =>
    rw [List.foldl_cons, ih, List.any_cons]
    simp only [fateProtocol]
    cases JobFault e <;> simp

/-- **Settlement of an asynchronous job.** When the task of a submitted job has ended, its budget is
settled as the stored state says if and only if the plan has an id and is not already a storage-safe
one, and no step of `_run_job` has failed. -/
theorem budgetSettled_iff (d : Dispatcher) (jobId : String) (plan : CompiledPlan)
    (ownerIdentity : Option String) (createdAt : DateTime) (w w' : JobWorld)
    (steps : List JobEvent) (r : Except PyExc Unit)
    (hjob : w.jobs.find jobId = some (queuedJob jobId plan ownerIdentity createdAt))
    (hrow : planStatuses w.ledger plan.planId = [.reserved])
    (hrun : (d.withCallbacks.jobTask jobId plan).Exec (jobTaskStep d.withCallbacks jobId) w steps r
      w') :
    BudgetSettled jobId plan w' ↔
      plan.planId ≠ "" ∧ plan.attestations.storageSafePlan = false ∧
        ∀ e ∈ steps, JobFault e = false := by
  obtain ⟨hexact, hstate, hstatus⟩ := hrun.wp (R := Follows jobId plan.planId) Follows.step
    ⟨JobTable.state_of_find hjob, hrow⟩ (wp_jobTask d)
  have hfaulty := faulty_foldl jobId plan.planId steps ⟨.queued, .reserved, false⟩
  have hsettled : BudgetSettled jobId plan w' ↔
      Fate.Settled (steps.foldl (fateProtocol jobId plan.planId).after ⟨.queued, .reserved, false⟩) := by
    simp [BudgetSettled, hstate, hstatus, Fate.Settled]
  unfold Fate.Exact at hexact
  rw [hsettled, hexact, hfaulty]
  simp

/-- The runs of the task are those of its program, call by call. -/
theorem exec_jobTask_iff (d : Dispatcher) (jobId : String) (plan : CompiledPlan) (w w' : JobWorld)
    (r : Except PyExc Unit) :
    (∃ calls, ((d.jobTask jobId plan).interp (JobStep.program d jobId)).Exec jobWorldStep w calls r
      w') ↔ ∃ steps, (d.jobTask jobId plan).Exec (jobTaskStep d jobId) w steps r w' :=
  Prog.exec_interp

/-! ## One job -/

/-- The answers of the table, the ledger and services that succeed. -/
def worldAnswer (op : Call) (w : JobWorld) : Option (Except PyExc op.Res × JobWorld) :=
  (jobAnswer op w.jobs).map fun x => (x.1, ⟨x.2, ledgerAfter w.ledger ⟨op, x.1⟩⟩)

theorem jobWorldStep_worldAnswer {op : Call} {w w' : JobWorld} {r : Except PyExc op.Res}
    (h : worldAnswer op w = some (r, w')) : jobWorldStep w ⟨op, r⟩ w' := by
  obtain ⟨⟨r', t⟩, hanswer, hx⟩ := Option.map_eq_some_iff.mp h
  cases hx
  exact ⟨jobStep_jobAnswer hanswer, rfl⟩

def taskAnswer (d : Dispatcher) (jobId : String) (s : JobStep) (w : JobWorld) :
    Option (Except PyExc s.Res × JobWorld) :=
  ((s.program d jobId).answer worldAnswer w).map (·.2)

theorem jobTaskStep_taskAnswer {d : Dispatcher} {jobId : String} {s : JobStep} {w w' : JobWorld}
    {r : Except PyExc s.Res} (h : taskAnswer d jobId s w = some (r, w')) :
    jobTaskStep d jobId w ⟨s, r⟩ w' := by
  obtain ⟨⟨es, x⟩, hanswer, hx⟩ := Option.map_eq_some_iff.mp h
  cases hx
  exact ⟨es, Prog.Exec.of_answer jobWorldStep_worldAnswer hanswer⟩

/-- A job that waits, and the reservation of its plan. -/
def oneJobWorld : JobWorld where
  jobs := oneJobTable
  ledger :=
    [{ tenantId := "tenant-1", estimatedCostUsd := 1, planId := some "plan-1"
       recordedAt := midnight }]

/-- The job runs to its end, and its budget is committed. -/
theorem budgetSettled_iff_echo :
    ∃ steps r w', (echoDispatcher.withCallbacks.jobTask "job-1" echoPlan).Exec
      (jobTaskStep echoDispatcher.withCallbacks "job-1") oneJobWorld steps r w' ∧
      w'.jobs.state "job-1" = some .completed ∧ BudgetSettled "job-1" echoPlan w' := by
  let run := (echoDispatcher.withCallbacks.jobTask "job-1" echoPlan).answer
    (taskAnswer echoDispatcher.withCallbacks "job-1") oneJobWorld
  have hend : (run.map fun x => (x.2.2.jobs.state "job-1", x.1.all fun e => !JobFault e)) =
      some (some .completed, true) := by decide +kernel
  obtain ⟨⟨steps, r, w'⟩, hrun, hx⟩ := Option.map_eq_some_iff.mp hend
  obtain ⟨hstate, hfault⟩ := Prod.mk.inj hx
  have hexec := Prog.Exec.of_answer jobTaskStep_taskAnswer hrun
  refine ⟨steps, r, w', hexec, hstate, ?_⟩
  exact (budgetSettled_iff echoDispatcher "job-1" echoPlan none { year := 2024, month := 1, day := 1 }
    oneJobWorld w' steps r rfl (by decide) hexec).mpr ⟨by decide, rfl, by simpa using hfault⟩

/-- A task that is cancelled before its first step leaves the job waiting and its budget reserved. -/
theorem not_budgetAlwaysSettled :
    ¬ ∀ (d : Dispatcher) (jobId : String) (plan : CompiledPlan) (ownerIdentity : Option String)
      (createdAt : DateTime) (w w' : JobWorld) (steps : List JobEvent) (r : Except PyExc Unit),
      w.jobs.find jobId = some (queuedJob jobId plan ownerIdentity createdAt) →
      planStatuses w.ledger plan.planId = [.reserved] →
      (d.withCallbacks.jobTask jobId plan).Exec (jobTaskStep d.withCallbacks jobId) w steps r w' →
      BudgetSettled jobId plan w' := by
  intro h
  obtain ⟨state, hstate, hterminal, -⟩ := h echoDispatcher "job-1" echoPlan none
    { year := 2024, month := 1, day := 1 } oneJobWorld oneJobWorld _ (.error .cancelledError) rfl
    (by decide) (.step (o := .error .cancelledError) ⟨_, .step ⟨⟨trivial, rfl⟩, rfl⟩ .done⟩ .done)
  have hqueued : oneJobWorld.jobs.state "job-1" = some .queued := by decide
  rw [Option.some.inj (hstate.symm.trans hqueued)] at hterminal
  exact absurd hterminal (by decide)

end Gpucall
