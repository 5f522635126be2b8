import Gpucall.Lib.Pool
import Gpucall.Dispatcher.Jobs
import Gpucall.Dispatcher.Rules

/-! What a task of the gateway knows of the jobs it writes to. From its own reads and writes a task has
a view of each job; a task whose view is that a job has settled never stores another state for it. -/

namespace Gpucall

open Effects

/-- What the reads and writes of a task say about a job: nothing yet, that it is under way, that it has
settled in a state, or that it settled behind the back of this task. -/
inductive View where
  | unseen
  | live
  | settled (state : JobState)
  | overtaken

namespace View

def see (v : View) (state : JobState) : View :=
  if isTerminalJobState state then
    match v with
    | unseen => settled state
    | settled state' => if state' = state then settled state' else overtaken
    | live | overtaken => overtaken
  else
    match v with
    | unseen | live => live
    | settled _ | overtaken => overtaken

def store (v : View) (state : JobState) : View :=
  match v with
  | overtaken => overtaken
  | v => if isTerminalJobState state then settled state else v

/-- A task with this view may store the state. -/
def Permits (v : View) (state : JobState) : Prop :=
  match v with
  | unseen => False
  | settled state' => state = state'
  | live | overtaken => True

theorem Permits.see {v : View} {state : JobState} (h : v.Permits state) (seen : JobState) :
    (v.see seen).Permits state := by
  unfold View.see
  split <;> cases v <;> try trivial
  dsimp only
  split
  · exact h
  · trivial

theorem permits_see_of_not_terminal {seen : JobState} (h : isTerminalJobState seen = false)
    (v : View) (state : JobState) : (v.see seen).Permits state := by
  cases v <;> simp [View.see, h, Permits]

theorem Permits.store {v : View} {state stored : JobState} (h : v.Permits state)
    (hstored : isTerminalJobState stored = false ∨ state = stored) :
    (v.store stored).Permits state := by
  cases v with
  | unseen => exact h.elim
  | overtaken => trivial
  | live | settled =>
    unfold View.store
    dsimp only
    split
    · rename_i hterminal
      exact hstored.resolve_left (by simp [hterminal])
    · exact h

/-- A state that was just read may be stored again. -/
theorem Permits.store_see {v : View} {state : JobState} (h : ∀ s, v.Permits s) (seen : JobState) :
    ((v.see seen).store seen).Permits state := by
  cases hseen : isTerminalJobState seen with
  | false => exact (permits_see_of_not_terminal hseen v state).store (.inl hseen)
  | true =>
    cases v with
    | unseen => exact (h state).elim
    | settled state' => exact absurd ((h .queued).trans (h .running).symm) (by decide)
    | live | overtaken => simp [View.see, View.store, hseen, Permits]

end View

/-- The views of a task, and whether it has made a call. -/
structure Views where
  started : Bool := false
  view : String → View := fun _ => .unseen

/-- The job's record was read. -/
def Views.see (g : Views) (job : JobRecord) : Views :=
  { g with view := Function.update g.view job.jobId ((g.view job.jobId).see job.state) }

/-- A task that finds its job settled by its first call was overtaken before it started. -/
def Views.after (g : Views) (e : CallEvent) : Views :=
  let g' := { g with started := true }
  match e.op, e.outcome with
  | .getJob _, .ok (some job) =>
    if !g.started && isTerminalJobState job.state then
      { g' with view := Function.update g.view job.jobId .overtaken }
    else g'.see job
  | .fetch _, .ok job => g'.see job
  | .allJobs, .ok jobs => jobs.foldl Views.see g'
  | .upsert job, .ok _ =>
    { g' with view := Function.update g.view job.jobId ((g.view job.jobId).store job.state) }
  | _, _ => g'

def viewProtocol : Protocol Call Call.Res PyExc Views where
  pre g op := match op with
    | .upsert job => (g.view job.jobId).Permits job.state
    | _ => True
  allowed _ e := match e.op, e.outcome with
    | .getJob jobId, .ok (some job) => job.jobId = jobId
    | .fetch jobId, .ok job => job.jobId = jobId
    | .audit _, .error (.tupleError _) => False
    | _, _ => Possible e
  after := Views.after

@[simp] theorem view_after_fetch (g : Views) (jobId : String) (job : JobRecord) :
    (viewProtocol.after g ⟨.fetch jobId, .ok job⟩).view =
      Function.update g.view job.jobId ((g.view job.jobId).see job.state) := rfl

@[simp] theorem view_after_upsert (g : Views) (job : JobRecord) :
    (viewProtocol.after g ⟨.upsert job, .ok ()⟩).view =
      Function.update g.view job.jobId ((g.view job.jobId).store job.state) := rfl

theorem allowed_of_jobStep {t t' : JobTable} {e : CallEvent} (h : jobStep t e t') (g : Views) :
    viewProtocol.allowed g e := by
  obtain ⟨op, r⟩ := e
  cases op <;> rcases r with e | a <;> try exact h.1
  case getJob.ok jobId =>
    cases a with
    | none => trivial
    | some job => exact JobTable.jobId_of_find h.1.symm
  case fetch.ok => exact JobTable.jobId_of_find h.1
  case upsert.ok => trivial
  case allJobs.ok => trivial
  case audit.error =>
    cases e with
    | tupleError => exact h.elim
    | _ => trivial

/-! ## Reads and updates -/

theorem Views.permits_see {g : Views} {jobId : String} {state : JobState}
    (h : (g.view jobId).Permits state) (job : JobRecord) :
    ((g.see job).view jobId).Permits state := by
  by_cases hj : jobId = job.jobId
  · subst hj
    simpa [Views.see] using h.see _
  · simpa [Views.see, hj] using h

theorem Views.permits_foldl_see {g : Views} {jobId : String} {state : JobState}
    (h : (g.view jobId).Permits state) (jobs : List JobRecord) :
    ((jobs.foldl Views.see g).view jobId).Permits state :=
  List.foldlRecOn (motive := fun g => (g.view jobId).Permits state) jobs Views.see h
    fun _ hg job _ => Views.permits_see hg job

/-- Only a write to the table takes a permission away. -/
theorem Views.permits_after {g : Views} {jobId : String} {state : JobState} {e : CallEvent}
    (h : (g.view jobId).Permits state) (he : ∀ job, e ≠ ⟨.upsert job, .ok ()⟩) :
    ((viewProtocol.after g e).view jobId).Permits state := by
  show ((g.after e).view jobId).Permits state
  unfold Views.after
  dsimp only
  split
  · split
    · rename_i job _ _ _
      by_cases hj : jobId = job.jobId
      · subst hj
        simp [View.Permits]
      · simpa [hj] using h
    · exact Views.permits_see h _
  · exact Views.permits_see h _
  · exact Views.permits_foldl_see (g := { g with started := true }) h _
  · rename_i job u hop hout
    exact absurd (show e = ⟨.upsert job, .ok ()⟩ by cases e; cases hop; cases hout; rfl) (he job)
  · exact h

/-- The task may store any state for the job. -/
def Views.Unsettled (jobId : String) (g : Views) : Prop := ∀ state, (g.view jobId).Permits state

/-- The first call of a task, or a read that finds the job under way, leaves the job unsettled. -/
theorem Views.unsettled_getJob {g : Views} {jobId : String} {job : JobRecord}
    (hjob : job.jobId = jobId) (h : g = {} ∨ isTerminalJobState job.state = false) :
    Views.Unsettled jobId (viewProtocol.after g ⟨.getJob jobId, .ok (some job)⟩) := by
  intro state
  show ((g.after _).view jobId).Permits state
  subst hjob
  simp only [Views.after]
  split
  · simp [View.Permits]
  · rename_i hstarted
    have hlive : isTerminalJobState job.state = false := by
      rcases h with rfl | h
      · simpa using hstarted
      · exact h
    simpa [Views.see] using View.permits_see_of_not_terminal hlive _ state

theorem stays_permits {op : Call} (hop : ∀ job, op ≠ .upsert job) {I : Views → Prop}
    (hI : ∀ {g : Views} {e : CallEvent}, e.op = op → (∀ job, e ≠ ⟨.upsert job, .ok ()⟩) → I g →
      I (viewProtocol.after g e)) : (call op).Stays viewProtocol I := by
  refine fun g h => ⟨?_, fun r _ => hI rfl ?_ h⟩
  · cases op <;> first | trivial | exact absurd rfl (hop _)
  · rintro job ⟨⟩
    exact hop job rfl

theorem stays_unsettled {jobId : String} {op : Call} (hop : ∀ job, op ≠ .upsert job) :
    (call op).Stays viewProtocol (Views.Unsettled jobId) :=
  stays_permits hop fun _ he h state => Views.permits_after (h state) he

/-- `update` keeps the permissions, but for the job that it settles. -/
theorem wp_updateJob {jobId : String} {change : JobRecord → JobRecord} {state : JobState}
    (hid : ∀ job, (change job).jobId = job.jobId) (hstate : ∀ job, (change job).state = state)
    {g : Views} (h : (g.view jobId).Permits state) :
    (updateJob jobId change).wp viewProtocol (fun r g' => ∀ j s, (g.view j).Permits s →
      (r = .ok () → j = jobId → isTerminalJobState state = false ∨ s = state) →
      (g'.view j).Permits s) g := by
  refine Prog.wp_perform_bind.mpr ⟨trivial, fun r hr => ?_⟩
  cases r with
  | error e => exact fun j s hs _ => Views.permits_after hs (by rintro _ ⟨⟩)
  | ok job =>
    have hread (j : String) (s : JobState) (hs : (g.view j).Permits s) :=
      Views.permits_after (e := ⟨.fetch jobId, .ok job⟩) hs (by rintro _ ⟨⟩)
    have hjob : (change job).jobId = jobId := (hid job).trans hr
    refine Prog.wp_perform.mpr ⟨?_, fun r _ j s hs hw => ?_⟩
    · show View.Permits _ _
      rw [hjob, hstate]
      exact hread _ _ h
    · cases r with
      | error e => exact Views.permits_after (hread j s hs) (by rintro _ ⟨⟩)
      | ok u =>
        rw [view_after_upsert, hjob, hstate]
        by_cases hj : j = jobId
        · subst hj
          rw [Function.update_self]
          exact (hread _ s hs).store (hw rfl rfl)
        · rw [Function.update_of_ne hj]
          exact hread j s hs

/-- An update that leaves the state as it was read settles nothing. -/
theorem stays_updateJob_attempts (jobId : String) (attempts : List ProviderAttemptRecord) :
    (updateJob jobId fun job => { job with attempts }).Stays viewProtocol
      (Views.Unsettled jobId) := by
  refine fun g h => Prog.wp_perform_bind.mpr ⟨trivial, fun r hr => ?_⟩
  cases r with
  | error e => exact fun s => Views.permits_after (h s) (by rintro _ ⟨⟩)
  | ok job =>
    have hjob : job.jobId = jobId := hr
    have hread (s : JobState) :=
      Views.permits_after (e := ⟨.fetch jobId, .ok job⟩) (h s) (by rintro _ ⟨⟩)
    refine Prog.wp_perform.mpr ⟨?_, fun r _ s => ?_⟩
    · show ((viewProtocol.after g _).view job.jobId).Permits job.state
      rw [hjob]
      exact hread _
    · cases r with
      | error e => exact Views.permits_after (hread s) (by rintro _ ⟨⟩)
      | ok u =>
        rw [view_after_upsert, view_after_fetch]
        simpa [hjob] using View.Permits.store_see h job.state

/-! ## The tasks -/

/-- A scan permits every state for the jobs that it finds under way. -/
theorem Views.permits_scan {job : JobRecord} {jobs : List JobRecord} (hjob : job ∈ jobs)
    (hlive : isTerminalJobState job.state = false) (g : Views) (state : JobState) :
    ((jobs.foldl Views.see g).view job.jobId).Permits state := by
  induction jobs generalizing g with
  | nil => cases hjob
  | cons job' jobs ih =>
    rcases List.mem_cons.mp hjob with rfl | hjob
    · refine Views.permits_foldl_see ?_ jobs
      simpa [Views.see] using View.permits_see_of_not_terminal hlive _ state
    · exact ih hjob _

/-- Every job of a scan that was under way may be expired. -/
def Views.MayExpire (jobs : List JobRecord) (g : Views) : Prop :=
  ∀ job ∈ jobs, isTerminalJobState job.state = false → (g.view job.jobId).Permits .expired

theorem stays_mayExpire {jobs : List JobRecord} {op : Call} (hop : ∀ job, op ≠ .upsert job) :
    (call op).Stays viewProtocol (Views.MayExpire jobs) :=
  stays_permits hop fun _ he h job hjob hlive => Views.permits_after (h job hjob hlive) he

/-- An update that expires a job of the scan. -/
theorem stays_updateJob_expired {jobs : List JobRecord} {job : JobRecord} (hjob : job ∈ jobs)
    (hlive : isTerminalJobState job.state = false) (error : String) :
    (updateJob job.jobId fun job => { job with state := .expired, error := some error }).Stays
      viewProtocol (Views.MayExpire jobs) := by
  intro g h
  refine Prog.wp_mono (wp_updateJob (by intro; rfl) (by intro; rfl) (h job hjob hlive))
    fun r g' h' => ?_
  exact fun job' hjob' hlive' => h' _ _ (h job' hjob' hlive') fun _ _ => .inr rfl

theorem stays_reapJob {jobs : List JobRecord} {job : JobRecord} (hjob : job ∈ jobs)
    (now : DateTime) : (reapJob now job).Stays viewProtocol (Views.MayExpire jobs) := by
  unfold reapJob
  split
  · exact Prog.stays_done _
  · rename_i hlive
    split
    · exact (stays_updateJob_expired hjob (by simpa using hlive) _).bind fun _ =>
        (stays_mayExpire (by rintro _ ⟨⟩)).bind fun _ =>
          (stays_mayExpire (by rintro _ ⟨⟩)).bind fun _ => Prog.stays_done _
    · exact Prog.stays_done _

theorem stays_recoverJob {jobs : List JobRecord} {job : JobRecord} (hjob : job ∈ jobs) :
    (recoverJob job).Stays viewProtocol (Views.MayExpire jobs) := by
  unfold recoverJob
  split
  · exact Prog.stays_done _
  · rename_i hstate
    have hlive : isTerminalJobState job.state = false := by
      revert hstate
      cases job.state <;> decide
    exact (stays_updateJob_expired hjob hlive _).bind fun _ =>
      (stays_mayExpire (by rintro _ ⟨⟩)).bind fun _ => Prog.stays_done _

/-- A scan of the table and a loop over the jobs found. -/
theorem wp_scan {body : JobRecord → Program (Flow Unit)} {f : Option Unit → Program α}
    (hbody : ∀ jobs, ∀ job ∈ jobs, (body job).Stays viewProtocol (Views.MayExpire jobs))
    (hf : ∀ r g, (f r).wp viewProtocol (fun _ _ => True) g) (g : Views) :
    (do
      let jobs ← call .allJobs
      let r ← forEach body jobs
      f r).wp viewProtocol (fun _ _ => True) g := by
  refine Prog.wp_perform_bind.mpr ⟨trivial, fun r _ => ?_⟩
  cases r with
  | error e => trivial
  | ok jobs =>
    have hscan : Views.MayExpire jobs (viewProtocol.after g ⟨.allJobs, .ok jobs⟩) :=
      fun job hjob hlive => Views.permits_scan hjob hlive _ _
    refine Prog.wp_bind.mpr (Prog.wp_mono
      (Prog.Stays.forEach (fun job hjob => hbody jobs job hjob) _ hscan) fun r g' _ => ?_)
    cases r with
    | error e => trivial
    | ok a => exact hf a g'

theorem wp_reaperLoop (intervalSeconds : ℚ) (rounds : ℕ) (g : Views) :
    (reaperLoop intervalSeconds rounds).wp viewProtocol (fun _ _ => True) g := by
  refine Prog.Stays.whileTrue (I := fun _ => True) rounds ?_ ?_ g trivial
  · exact fun g _ => Prog.wp_perform_bind.mpr ⟨trivial, fun r hr => hr.elim⟩
  · refine fun g _ => Prog.wp_perform_bind.mpr ⟨trivial, fun r _ => ?_⟩
    cases r with
    | error e => trivial
    | ok u =>
      refine Prog.wp_perform_bind.mpr ⟨trivial, fun r _ => ?_⟩
      cases r with
      | error e => trivial
      | ok now =>
        exact wp_scan (fun _ _ hjob => stays_reapJob hjob now) (by intro _ _; trivial) _

theorem wp_recoverInterruptedJobs (g : Views) :
    recoverInterruptedJobs.wp viewProtocol (fun _ _ => True) g :=
  wp_scan (fun _ _ hjob => stays_recoverJob hjob) (by intro _ _; trivial) g

/-- A call that writes nothing, before a program that may follow in any view. -/
theorem wp_call_bind {op : Call} (hop : ∀ job, op ≠ .upsert job) {f : op.Res → Program α}
    (hf : ∀ a g, (f a).wp viewProtocol (fun _ _ => True) g) (g : Views) :
    (call op >>= f).wp viewProtocol (fun _ _ => True) g := by
  refine Prog.wp_perform_bind.mpr ⟨?_, fun r _ => ?_⟩
  · cases op <;> first | trivial | exact absurd rfl (hop _)
  · cases r with
    | error e => trivial
    | ok a => exact hf a _

theorem wp_cancelJob (jobId identity : String) (g : Views) :
    (cancelJob jobId identity).wp viewProtocol (fun _ _ => True) g := by
  refine wp_call_bind (by rintro _ ⟨⟩) (fun found g => ?_) g
  cases found with
  | none => trivial
  | some job =>
    dsimp only
    split
    · trivial
    split
    · trivial
    · exact wp_call_bind (by rintro _ ⟨⟩) (fun _ => wp_call_bind (by rintro _ ⟨⟩)
        (by intro _ _; trivial)) g

/-! ## `_run_job` -/

namespace Dispatcher

variable (d : Dispatcher)

theorem dispatches_unsettled (jobId : String) (plan : CompiledPlan) :
    Dispatches viewProtocol (Views.Unsettled jobId) plan where
  routine :=
    { stays := fun hop _ => stays_unsettled (by rintro job rfl; cases hop)
      running := fun _ => ⟨trivial, fun _ hr => hr⟩
      lastError := fun _ h => h
      streamYielded := fun _ h => h }
  acquire _ _ := stays_unsettled (by rintro _ ⟨⟩)
  release _ := stays_unsettled (by rintro _ ⟨⟩)
  cancelRemote _ _ := stays_unsettled (by rintro _ ⟨⟩)
  start _ _ _ := stays_unsettled (by rintro _ ⟨⟩)

theorem stays_executeSync_unsettled (jobId : String) (plan : CompiledPlan) :
    (d.executeSync plan (some (asyncAttemptRecorder jobId))).Stays viewProtocol
      (Views.Unsettled jobId) :=
  d.stays_executeSync (dispatches_unsettled jobId plan) (recorderStays_asyncAttemptRecorder
    (stays_unsettled (by rintro _ ⟨⟩)) (stays_updateJob_attempts jobId))

variable {jobId : String} {plan : CompiledPlan} {g : Views}

/-- An update of `_run_job` keeps the permissions, but for the job that it settles. -/
theorem wp_update {u : JobUpdate} (h : g.Unsettled jobId) :
    (Prog.interp (JobStep.program d jobId) (JobStep.perform (.update u))).wp viewProtocol
      (fun r g' => (r = .ok () → isTerminalJobState u.state = false) → g'.Unsettled jobId) g := by
  refine Prog.wp_interp_perform.mpr (Prog.wp_mono
    (wp_updateJob u.jobId_change u.state_change (h u.state)) fun r g' h' hu s => ?_)
  exact h' jobId s (h s) fun hr _ => .inl (hu hr)

theorem wp_interp_call_bind {op : Call} {f : op.Res → JobCode α} {Q : Except PyExc α → Views → Prop} :
    (Prog.interp (JobStep.program d jobId) (JobStep.perform (.call op) >>= f)).wp viewProtocol Q g ↔
      viewProtocol.pre g op ∧ ∀ r, viewProtocol.allowed g ⟨op, r⟩ → match r with
        | .ok a => (Prog.interp (JobStep.program d jobId) (f a)).wp viewProtocol Q
            (viewProtocol.after g ⟨op, r⟩)
        | .error e => Q (.error e) (viewProtocol.after g ⟨op, r⟩) := by
  rw [Prog.wp_interp_bind, Prog.wp_interp_perform, JobStep.program, Prog.wp_perform]
  refine and_congr_right fun _ => forall₂_congr fun r _ => ?_
  cases r with
  | ok a => rfl
  | error e => rfl

/-- A call that writes nothing, before code that may follow in any view. -/
theorem wp_interp_call {op : Call} (hop : ∀ job, op ≠ .upsert job) {f : op.Res → JobCode Unit}
    (hf : ∀ a g, (Prog.interp (JobStep.program d jobId) (f a)).wp viewProtocol
      (fun _ _ => True) g) (g : Views) :
    (Prog.interp (JobStep.program d jobId) (JobStep.perform (.call op) >>= f)).wp viewProtocol
      (fun _ _ => True) g := by
  refine d.wp_interp_call_bind.mpr ⟨?_, fun r _ => ?_⟩
  · cases op <;> first | trivial | exact absurd rfl (hop _)
  · cases r with
    | error e => trivial
    | ok a => exact hf a _

/-- A budget callback writes nothing and passes on no `TupleError`. -/
theorem wp_budgetCallback {callback : JobCode Unit}
    (h : (callback.interp (JobStep.program d jobId)).wp viewProtocol (fun _ _ => True) g)
    (configured : Bool) (failed : PyExc → AuditEvent) :
    ((budgetCallback configured callback failed).interp (JobStep.program d jobId)).wp viewProtocol
      (fun r _ => ∀ exc, r ≠ .error (.tupleError exc)) g := by
  unfold budgetCallback
  split
  · refine Prog.wp_interp_tryCatch.mpr (Prog.wp_mono h fun r g' _ => ?_)
    match r with
    | .ok () => rintro _ ⟨⟩
    | .error e =>
      dsimp only
      split
      · refine Prog.wp_interp_perform.mpr ⟨trivial, fun r hr => ?_⟩
        rintro _ rfl
        exact hr
      · rename_i he
        rintro _ ⟨⟩
        exact he rfl
  · rintro _ ⟨⟩

/-- The `try` block raises a `TupleError` only while the task may still store any state. -/
theorem wp_jobBody (h : g.Unsettled jobId) :
    ((d.jobBody jobId plan).interp (JobStep.program d jobId)).wp viewProtocol
      (fun r g' => ∀ exc, r = .error (.tupleError exc) → g'.Unsettled jobId) g := by
  refine Prog.wp_interp_bind.mpr (Prog.wp_interp_perform.mpr
    (Prog.wp_mono (d.stays_executeSync_unsettled jobId plan g h) fun r g' h' => ?_))
  cases r with
  | error e => exact fun _ _ => h'
  | ok result =>
    refine Prog.wp_interp_bind.mpr (Prog.wp_mono (d.wp_update h') fun r g'' h'' => ?_)
    cases r with
    | error e => exact fun _ _ => h'' (by rintro ⟨⟩)
    | ok u =>
      refine d.wp_interp_call_bind.mpr ⟨trivial, fun r hr => ?_⟩
      cases r with
      | error e =>
        rintro exc ⟨⟩
        exact hr.elim
      | ok u =>
        refine Prog.wp_mono (d.wp_budgetCallback (by exact ⟨trivial, fun _ _ => trivial⟩) _ _) ?_
        exact fun r g₃ hr exc hexc => absurd hexc (hr exc)

/-- The clause for a cancellation reads the job again before it writes. -/
theorem wp_cancelStoredJob (g : Views) :
    ((cancelStoredJob jobId).interp (JobStep.program d jobId)).wp viewProtocol
      (fun _ _ => True) g := by
  refine d.wp_interp_call_bind.mpr ⟨trivial, fun r hr => ?_⟩
  match r, hr with
  | .error e, _ => trivial
  | .ok none, _ => trivial
  | .ok (some job), hr =>
    dsimp only
    split
    · trivial
    · rename_i hlive
      have hread : Views.Unsettled jobId (viewProtocol.after g ⟨.getJob jobId, .ok (some job)⟩) :=
        Views.unsettled_getJob hr (.inr (by simpa using hlive))
      exact Prog.wp_mono (d.wp_update hread) fun _ _ _ => trivial

theorem wp_jobExcept {exc : PyExc} (h : ∀ error, exc = .tupleError error → g.Unsettled jobId) :
    ((d.jobExcept jobId plan exc).interp (JobStep.program d jobId)).wp viewProtocol
      (fun _ _ => True) g := by
  have hrelease (g : Views) : ((d.releaseAsyncBudget plan).interp (JobStep.program d jobId)).wp
      viewProtocol (fun _ _ => True) g :=
    Prog.wp_mono (d.wp_budgetCallback (by exact ⟨trivial, fun _ _ => trivial⟩) _ _)
      fun _ _ _ => trivial
  cases exc with
  | cancelledError =>
    refine Prog.wp_interp_bind.mpr (Prog.wp_mono (d.wp_cancelStoredJob g) fun r g' _ => ?_)
    cases r with
    | error e => trivial
    | ok u =>
      refine d.wp_interp_call (by rintro _ ⟨⟩) (fun _ g'' => Prog.wp_interp_bind.mpr ?_) g'
      refine Prog.wp_mono (hrelease g'') fun r _ _ => ?_
      cases r with
      | error e => trivial
      | ok u => trivial
  | tupleError exc =>
    refine Prog.wp_interp_bind.mpr (Prog.wp_mono (d.wp_update (h exc rfl)) fun r g' _ => ?_)
    cases r with
    | error e => trivial
    | ok u => exact d.wp_interp_call (by rintro _ ⟨⟩) (fun _ => hrelease) g'
  | timeoutError | governanceError | valueError | httpException | tenantBudgetError | exception
  | generatorExit => trivial

/-- Every write of `_run_job` is permitted by what the task has read and written before. -/
theorem wp_runJob (jobId : String) (memoryPlan : Option CompiledPlan) :
    ((d.runJob jobId memoryPlan).interp (JobStep.program d jobId)).wp viewProtocol
      (fun _ _ => True) {} := by
  refine d.wp_interp_call_bind.mpr ⟨trivial, fun r hr => ?_⟩
  match r, hr with
  | .error e, _ => trivial
  | .ok none, _ => trivial
  | .ok (some job), hr =>
    have hstart : Views.Unsettled jobId (viewProtocol.after {} ⟨.getJob jobId, .ok (some job)⟩) :=
      Views.unsettled_getJob hr (.inl rfl)
    refine Prog.wp_interp_bind.mpr (Prog.wp_mono (d.wp_update hstart) fun r g h => ?_)
    cases r with
    | error e => trivial
    | ok u =>
      have hrunning : g.Unsettled jobId := h fun _ => rfl
      dsimp only
      split
      · refine Prog.wp_interp_bind.mpr (Prog.wp_mono (d.wp_update hrunning) fun r g' _ => ?_)
        cases r with
        | error e => trivial
        | ok u => exact ⟨trivial, fun _ _ => trivial⟩
      · refine Prog.wp_interp_tryCatch.mpr (Prog.wp_mono (d.wp_jobBody hrunning) ?_)
        intro r g' h'
        cases r with
        | ok u => trivial
        | error e => exact d.wp_jobExcept fun exc hexc => h' exc (by rw [hexc])

end Dispatcher

/-- Every task of a gateway meets the protocol. -/
theorem GatewayTask.wp_program (task : GatewayTask) :
    task.program.wp viewProtocol (fun _ _ => True) {} := by
  cases task with
  | run d jobId memoryPlan => exact d.wp_runJob jobId memoryPlan
  | reap intervalSeconds rounds => exact wp_reaperLoop intervalSeconds rounds _
  | recover => exact wp_recoverInterruptedJobs _
  | cancel jobId identity =>
    refine Prog.wp_bind.mpr (Prog.wp_mono (wp_cancelJob jobId identity _) fun r _ _ => ?_)
    cases r with
    | ok a => trivial
    | error e => trivial

end Gpucall
