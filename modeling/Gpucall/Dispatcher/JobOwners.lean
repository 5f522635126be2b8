import Gpucall.Dispatcher.Terminal

/-! Who may see and cancel a job. The endpoints of a job compare the identity of their caller with the owner that
the record names; whatever else runs meanwhile, that is the owner the job was created with. -/

namespace Gpucall

open Effects

/-! ## The endpoints -/

/-- The endpoint that returns a job -/
def getJob (jobId identity : String) : Program JobRecord := do
  match ← call (.getJob jobId) with
  | none => throw (.httpException 404)
  | some job =>
    if job.ownerIdentity.any (· ≠ identity) then throw (.httpException 404)
    else return job

/-- What an endpoint of a job answers. -/
inductive JobAnswer where
  | record (job : JobRecord)
  | cancellation (state : JobState) (cancelled : Bool)

/-- The tasks of the gateway processes, with the endpoints of the jobs. `submit` is the `JobStore.create` of
`submit_async`. -/
inductive ApiTask where
  | submit (jobId : String) (plan : CompiledPlan) (identity : Option String) (createdAt : DateTime)
  | run (d : Dispatcher) (jobId : String) (memoryPlan : Option CompiledPlan)
  | reap (intervalSeconds : ℚ) (rounds : ℕ)
  | recover
  | get (jobId identity : String)
  | cancel (jobId identity : String)

namespace ApiTask

def background (task : GatewayTask) : Program (Option JobAnswer) := do
  task.program
  return none

def program : ApiTask → Program (Option JobAnswer)
  | submit jobId plan identity createdAt => do
    call (.upsert (queuedJob jobId plan identity createdAt))
    return none
  | run d jobId memoryPlan => background (.run d jobId memoryPlan)
  | reap intervalSeconds rounds => background (.reap intervalSeconds rounds)
  | recover => background .recover
  | get jobId identity => do return some (.record (← getJob jobId identity))
  | cancel jobId identity => do
    let (state, cancelled) ← cancelJob jobId identity
    return some (.cancellation state cancelled)

/-- The record that the task creates. -/
def created : ApiTask → Option JobRecord
  | submit jobId plan identity createdAt => some (queuedJob jobId plan identity createdAt)
  | _ => none

/-- The job and the caller of an endpoint. -/
def endpoint : ApiTask → Option (String × String)
  | get jobId identity | cancel jobId identity => some (jobId, identity)
  | _ => none

end ApiTask

abbrev ApiPool := Pool JobTable Call Call.Res PyExc (Option JobAnswer)

def apiPool (table : JobTable) (tasks : List ApiTask) : ApiPool := ⟨table, tasks.map ApiTask.program⟩

/-! ## Originals -/

/-- What of a record no update changes. -/
def JobRecord.fixed (job : JobRecord) : String × CompiledPlan × Option String × DateTime :=
  (job.jobId, job.plan, job.ownerIdentity, job.createdAt)

/-- The records as they were found in the table or were created. -/
def originals (table : JobTable) (tasks : List ApiTask) : List JobRecord :=
  table.rows ++ tasks.filterMap ApiTask.created

/-- The record is one of the originals, but for what updates change. -/
def Original (origins : List JobRecord) (job : JobRecord) : Prop := ∃ origin ∈ origins, origin.fixed = job.fixed

/-- A job of that id was created for the identity, or for nobody. -/
def MayAccess (origins : List JobRecord) (jobId identity : String) : Prop :=
  ∃ origin ∈ origins, origin.jobId = jobId ∧ ∀ owner ∈ origin.ownerIdentity, owner = identity

variable {origins : List JobRecord} {job job' : JobRecord} {jobId identity : String} {C : Call → Prop}

theorem Original.congr (h : Original origins job) (hfixed : job'.fixed = job.fixed) : Original origins job' := by
  obtain ⟨origin, hmem, heq⟩ := h
  exact ⟨origin, hmem, heq.trans hfixed.symm⟩

theorem Original.mayAccess (h : Original origins job) (howner : job.ownerIdentity.any (· ≠ identity) = false) :
    MayAccess origins job.jobId identity := by
  obtain ⟨origin, hmem, heq⟩ := h
  simp only [JobRecord.fixed, Prod.mk.injEq] at heq
  refine ⟨origin, hmem, heq.1, fun owner hown => ?_⟩
  rw [heq.2.2.1, Option.mem_def] at hown
  simpa [hown] using howner

/-- The calls meet a condition, and every record that is read is an original. The ghost value are the errors of
the calls. -/
def originProtocol (origins : List JobRecord) (C : Call → Prop) : Protocol Call Call.Res PyExc (List PyExc) where
  pre _ := C
  allowed _ e := match e.op, e.outcome with
    | .getJob jobId, .ok (some job) => job.jobId = jobId ∧ Original origins job
    | .fetch _, .ok job => Original origins job
    | _, _ => Possible e
  after errors e := match e.outcome with
    | .error error => error :: errors
    | .ok _ => errors

/-- A record that is written is an original. -/
def WritesOriginals (origins : List JobRecord) : Call → Prop
  | .upsert job => Original origins job
  | _ => True

/-! ## The tasks -/

theorem stays_of_meets {op : Call} (h : C op) : (call op).Stays (originProtocol origins C) fun _ => True :=
  fun _ _ => ⟨h, fun _ _ => trivial⟩

theorem stays_updateJob_fixed {change : JobRecord → JobRecord} (hchange : ∀ job, (change job).fixed = job.fixed) :
    (updateJob jobId change).Stays (originProtocol origins (WritesOriginals origins)) fun _ => True := by
  refine fun g _ => Prog.wp_perform_bind.mpr ⟨trivial, fun r hr => ?_⟩
  cases r with
  | error e => trivial
  | ok job =>
    have horiginal : Original origins job := hr
    exact ⟨horiginal.congr (hchange job), fun _ _ => trivial⟩

theorem writesOriginals_of_routine {op : Call} (h : op.routine = true) : WritesOriginals origins op := by
  cases op with
  | upsert job => cases h
  | _ => trivial

theorem dispatches_originals (plan : CompiledPlan) :
    Dispatches (originProtocol origins (WritesOriginals origins)) (fun _ => True) plan where
  routine :=
    { stays := fun hop _ => stays_of_meets (writesOriginals_of_routine hop)
      running := fun _ => ⟨trivial, fun _ hr => hr⟩
      lastError := fun _ _ => trivial
      streamYielded := fun _ _ => trivial }
  acquire _ _ := stays_of_meets trivial
  release _ := stays_of_meets trivial
  cancelRemote _ _ := stays_of_meets trivial
  start _ _ _ := stays_of_meets trivial

/-- The step of a job's code is no write of its own. -/
def JobStep.Guarded (step : JobStep) : Prop := ∀ job, step ≠ .call (.upsert job)

theorem stays_jobStep (d : Dispatcher) {step : JobStep} (h : step.Guarded) :
    (JobStep.program d jobId step).Stays (originProtocol origins (WritesOriginals origins)) fun _ => True := by
  cases step with
  | call op =>
    refine stays_of_meets ?_
    cases op with
    | upsert job => exact absurd rfl (h job)
    | _ => trivial
  | update u =>
    refine stays_updateJob_fixed fun job => ?_
    cases u <;> rfl
  | execute plan =>
    refine d.stays_executeSync (dispatches_originals plan) (recorderStays_asyncAttemptRecorder ?_ fun attempts => ?_)
    · exact stays_of_meets trivial
    · exact stays_updateJob_fixed fun job => rfl

abbrev JobCode.GuardedCode (p : JobCode α) : Prop := p.Stays (.calls JobStep.Guarded fun _ => True) fun _ => True

theorem guarded_perform {step : JobStep} (h : step.Guarded) : (JobStep.perform step).GuardedCode :=
  fun _ _ => ⟨h, fun _ _ => trivial⟩

theorem guarded_call {op : Call} (h : ∀ job, op ≠ .upsert job) : (JobStep.perform (.call op)).GuardedCode :=
  guarded_perform fun job heq => h job (JobStep.call.inj heq)

theorem guarded_budgetCallback (configured : Bool) {callback : JobCode Unit} (h : callback.GuardedCode)
    (failed : PyExc → AuditEvent) : (Dispatcher.budgetCallback configured callback failed).GuardedCode := by
  unfold Dispatcher.budgetCallback
  split
  · refine Prog.Stays.tryCatch h fun exc => ?_
    split
    · exact guarded_call (by rintro job ⟨⟩)
    · exact Prog.stays_done _
  · exact Prog.stays_done _

theorem guarded_jobBody (d : Dispatcher) (jobId : String) (plan : CompiledPlan) :
    (d.jobBody jobId plan).GuardedCode := by
  refine (guarded_perform (by rintro job ⟨⟩)).bind fun result => ?_
  refine (guarded_perform (by rintro job ⟨⟩)).bind fun _ => ?_
  refine (guarded_call (by rintro job ⟨⟩)).bind fun _ => ?_
  exact guarded_budgetCallback _ (guarded_call (by rintro job ⟨⟩)) _

theorem guarded_jobExcept (d : Dispatcher) (jobId : String) (plan : CompiledPlan) (exc : PyExc) :
    (d.jobExcept jobId plan exc).GuardedCode := by
  have hrelease : (d.releaseAsyncBudget plan).GuardedCode :=
    guarded_budgetCallback _ (guarded_call (by rintro job ⟨⟩)) _
  cases exc with
  | cancelledError =>
    refine Prog.Stays.bind ?_ fun _ => (guarded_call (by rintro job ⟨⟩)).bind fun _ =>
      hrelease.bind fun _ => Prog.stays_done _
    refine (guarded_call (by rintro job ⟨⟩)).bind fun found => ?_
    cases found with
    | none => exact Prog.stays_done _
    | some current =>
      dsimp only
      split
      · exact Prog.stays_done _
      · exact guarded_perform (by rintro job ⟨⟩)
  | tupleError exc =>
    exact (guarded_perform (by rintro job ⟨⟩)).bind fun _ => (guarded_call (by rintro job ⟨⟩)).bind fun _ => hrelease
  | timeoutError | governanceError | valueError | httpException | tenantBudgetError | exception
  | generatorExit => exact Prog.stays_done _

theorem guarded_runJob (d : Dispatcher) (jobId : String) (memoryPlan : Option CompiledPlan) :
    (d.runJob jobId memoryPlan).GuardedCode := by
  refine (guarded_call (by rintro job ⟨⟩)).bind fun found => ?_
  cases found with
  | none => exact Prog.stays_done _
  | some job =>
    refine (guarded_perform (by rintro job ⟨⟩)).bind fun _ => ?_
    dsimp only
    split
    · exact (guarded_perform (by rintro job ⟨⟩)).bind fun _ => guarded_call (by rintro job ⟨⟩)
    · exact (guarded_jobBody d jobId _).tryCatch (guarded_jobExcept d jobId _)

theorem stays_reapJob_fixed (now : DateTime) (job : JobRecord) :
    (reapJob now job).Stays (originProtocol origins (WritesOriginals origins)) fun _ => True := by
  unfold reapJob
  split
  · exact Prog.stays_done _
  split
  · refine Prog.Stays.bind (stays_updateJob_fixed ?_) fun _ => ?_
    · exact fun _ => rfl
    · exact (stays_of_meets trivial).bind fun _ => (stays_of_meets trivial).bind fun _ => Prog.stays_done _
  · exact Prog.stays_done _

theorem stays_recoverJob_fixed (job : JobRecord) :
    (recoverJob job).Stays (originProtocol origins (WritesOriginals origins)) fun _ => True := by
  unfold recoverJob
  split
  · exact Prog.stays_done _
  · refine Prog.Stays.bind (stays_updateJob_fixed ?_) fun _ => ?_
    · exact fun _ => rfl
    · exact (stays_of_meets trivial).bind fun _ => Prog.stays_done _

theorem stays_cancelJob (jobId identity : String) :
    (cancelJob jobId identity).Stays (originProtocol origins (WritesOriginals origins)) fun _ => True := by
  refine (stays_of_meets trivial).bind fun found => ?_
  cases found with
  | none => exact Prog.stays_done _
  | some job =>
    dsimp only
    split
    · exact Prog.stays_done _
    split
    · exact Prog.stays_done _
    · exact (stays_of_meets trivial).bind fun _ => (stays_of_meets trivial).bind fun _ => Prog.stays_done _

theorem stays_gatewayTask (task : GatewayTask) :
    task.program.Stays (originProtocol origins (WritesOriginals origins)) fun _ => True := by
  cases task with
  | run d jobId memoryPlan => exact (guarded_runJob d jobId memoryPlan).interp fun _ => stays_jobStep d
  | reap intervalSeconds rounds =>
    refine Prog.Stays.whileTrue rounds ((stays_of_meets trivial).bind fun x => x.elim) ?_
    refine (stays_of_meets trivial).bind fun _ => (stays_of_meets trivial).bind fun now => ?_
    refine (stays_of_meets trivial).bind fun jobs => ?_
    exact (Prog.Stays.forEach fun job _ => stays_reapJob_fixed now job).bind fun _ => Prog.stays_done _
  | recover =>
    refine (stays_of_meets trivial).bind fun jobs => ?_
    exact (Prog.Stays.forEach fun job _ => stays_recoverJob_fixed job).bind fun _ => Prog.stays_done _
  | cancel jobId identity => exact (stays_cancelJob jobId identity).bind fun _ => Prog.stays_done _

/-! ## The endpoints alone -/

/-- What an endpoint may do: it reads its job, and it cancels the job if the caller may. -/
def EndpointCall (origins : List JobRecord) (jobId identity : String) : Call → Prop
  | .getJob id => id = jobId
  | .cancelTask id => id = jobId ∧ MayAccess origins jobId identity
  | _ => False

/-- The answer is about an original of that id. -/
def JobAnswer.About (origins : List JobRecord) (jobId : String) : JobAnswer → Prop
  | record job => job.jobId = jobId ∧ Original origins job
  | cancellation .. => True

/-- What an endpoint ends with: an answer for a caller who may have it. The others are told that there is no such
job, unless a call of the store has failed. -/
def EndpointEnd (origins : List JobRecord) (jobId identity : String) (r : Except PyExc (Option JobAnswer))
    (errors : List PyExc) : Prop :=
  match r with
  | .ok answer => MayAccess origins jobId identity ∧ ∀ found ∈ answer, found.About origins jobId
  | .error e => e = .httpException 404 ∨ e ∈ errors

theorem mayAccess_of_found (h : job.jobId = jobId ∧ Original origins job)
    (howner : ¬job.ownerIdentity.any (· ≠ identity)) : MayAccess origins jobId identity :=
  h.1 ▸ h.2.mayAccess (Bool.eq_false_iff.mpr howner)

theorem wp_endpoint {task : ApiTask} (h : task.endpoint = some (jobId, identity)) :
    task.program.wp (originProtocol origins (EndpointCall origins jobId identity))
      (EndpointEnd origins jobId identity) [] := by
  cases task with
  | get id caller =>
    obtain ⟨rfl, rfl⟩ := Prod.mk.inj (Option.some.inj h)
    refine Prog.wp_bind.mpr (Prog.wp_perform_bind.mpr ⟨rfl, fun r hr => ?_⟩)
    cases r with
    | error e => exact .inr List.mem_cons_self
    | ok found =>
      cases found with
      | none => exact .inl rfl
      | some job =>
        dsimp only
        split
        · exact .inl rfl
        · rename_i howner
          refine ⟨mayAccess_of_found hr howner, fun answer hanswer => ?_⟩
          obtain rfl := Option.some.inj hanswer
          exact hr
  | cancel id caller =>
    obtain ⟨rfl, rfl⟩ := Prod.mk.inj (Option.some.inj h)
    refine Prog.wp_bind.mpr (Prog.wp_perform_bind.mpr ⟨rfl, fun r hr => ?_⟩)
    cases r with
    | error e => exact .inr List.mem_cons_self
    | ok found =>
      cases found with
      | none => exact .inl rfl
      | some job =>
        have hend (howner : ¬job.ownerIdentity.any (· ≠ caller)) (state : JobState) (cancelled : Bool) :
            EndpointEnd origins id caller (.ok (some (.cancellation state cancelled))) [] := by
          refine ⟨mayAccess_of_found hr howner, fun answer hanswer => ?_⟩
          obtain rfl := Option.some.inj hanswer
          trivial
        dsimp only
        split
        · exact .inl rfl
        rename_i howner
        split
        · exact hend howner _ _
        · refine Prog.wp_perform_bind.mpr ⟨⟨rfl, mayAccess_of_found hr howner⟩, fun r _ => ?_⟩
          cases r with
          | error e => exact .inr List.mem_cons_self
          | ok _ =>
            refine Prog.wp_perform_bind.mpr ⟨rfl, fun r _ => ?_⟩
            cases r with
            | error e => exact .inr List.mem_cons_self
            | ok updated => exact hend howner _ _
  | _ => cases h

theorem mem_errors {error : PyExc} {es : List CallEvent} {errors : List PyExc}
    (h : error ∈ es.foldl (originProtocol origins C).after errors) :
    error ∈ errors ∨ ∃ op, ⟨op, .error error⟩ ∈ es := by
  induction es generalizing errors with
  | nil => exact .inl h
  | cons e es ih =>
    obtain hmem | ⟨op, hop⟩ := ih h
    · obtain ⟨op, r⟩ := e
      cases r with
      | ok a => exact .inl hmem
      | error found =>
        obtain rfl | hmem := List.mem_cons.mp hmem
        · exact .inr ⟨op, List.mem_cons_self⟩
        · exact .inl hmem
    · exact .inr ⟨op, List.mem_cons_of_mem _ hop⟩

/-! ## All together -/

theorem stays_program {table : JobTable} {tasks : List ApiTask} {task : ApiTask} (hmem : task ∈ tasks) :
    task.program.Stays (originProtocol (originals table tasks) (WritesOriginals (originals table tasks)))
      fun _ => True := by
  cases task with
  | submit id plan owner createdAt =>
    refine (stays_of_meets ?_).bind fun _ => Prog.stays_done _
    exact ⟨_, List.mem_append_right _ (List.mem_filterMap.mpr ⟨_, hmem, rfl⟩), rfl⟩
  | run d id memoryPlan => exact (stays_gatewayTask (.run d id memoryPlan)).bind fun _ => Prog.stays_done _
  | reap intervalSeconds rounds =>
    exact (stays_gatewayTask (.reap intervalSeconds rounds)).bind fun _ => Prog.stays_done _
  | recover => exact (stays_gatewayTask .recover).bind fun _ => Prog.stays_done _
  | get id caller =>
    refine Prog.Stays.bind ?_ fun _ => Prog.stays_done _
    refine (stays_of_meets trivial).bind fun found => ?_
    cases found with
    | none => exact Prog.stays_done _
    | some job =>
      dsimp only
      split
      · exact Prog.stays_done _
      · exact Prog.stays_done _
  | cancel id caller =>
    exact (stays_cancelJob id caller).bind fun _ => Prog.stays_done _

section

variable {table t t' : JobTable} {tasks : List ApiTask} {trace : List (ℕ × CallEvent)} {pool : ApiPool}
  {e : CallEvent}

/-- What a table of originals answers is an original. -/
theorem allowed_of_originals (hrows : ∀ job ∈ t.rows, Original origins job) (h : jobStep t e t') :
    (originProtocol origins C).allowed [] e := by
  have hpossible := possible_of_jobStep h
  obtain ⟨op, r⟩ := e
  cases op with
  | getJob id =>
    cases r with
    | error e => trivial
    | ok found =>
      cases found with
      | none => trivial
      | some job =>
        have hfind : t.find id = some job := h.1.symm
        exact ⟨JobTable.jobId_of_find hfind, hrows job (List.mem_of_find?_eq_some hfind)⟩
  | fetch id =>
    cases r with
    | error e => trivial
    | ok job => exact hrows job (List.mem_of_find?_eq_some h.1)
  | _ => cases r <;> exact hpossible

theorem originals_step (hrows : ∀ job ∈ t.rows, Original origins job) (hpre : WritesOriginals origins e.op)
    (h : jobStep t e t') : ∀ job ∈ t'.rows, Original origins job := by
  by_cases hwrite : ∃ job, e = ⟨.upsert job, .ok ()⟩
  · obtain ⟨job, rfl⟩ := hwrite
    obtain rfl : t' = t.upsert job := h
    intro row hrow
    rcases List.mem_append.mp hrow with hrow | hrow
    · exact hrows row (List.mem_filter.mp hrow).1
    · exact List.mem_singleton.mp hrow ▸ hpre
  · obtain rfl := eq_of_jobStep h fun job heq => hwrite ⟨job, heq⟩
    exact hrows

/-- Whatever runs, a record keeps what it was created with. -/
theorem originals_of_run (hrun : Pool.Run jobStep (apiPool table tasks) trace pool) :
    (∀ job ∈ pool.world.rows, Original (originals table tasks) job) ∧
      ∀ x ∈ trace, ∀ C g, (originProtocol (originals table tasks) C).allowed g x.2 := by
  induction hrun with
  | nil => exact ⟨fun job hjob => ⟨job, List.mem_append_left _ hjob, rfl⟩, List.forall_mem_nil _⟩
  | @snoc trace w threads i op k r w' hrun hi hw ih =>
    obtain ⟨hrows, hallowed⟩ := ih
    have hthreads : ∀ p ∈ (apiPool table tasks).threads, p.wp
        (originProtocol (originals table tasks) (WritesOriginals (originals table tasks))) (fun _ _ => True) [] := by
      intro p hp
      obtain ⟨task, hmem, rfl⟩ := List.mem_map.mp hp
      exact stays_program hmem [] trivial
    have hpre := hrun.pre _ hthreads (fun x hx g => hallowed x hx _ g) hi
    refine ⟨originals_step (e := ⟨op, r⟩) hrows hpre hw, fun x hx C g => ?_⟩
    rcases List.mem_append.mp hx with hx | hx
    · exact hallowed x hx C g
    · obtain rfl := List.mem_singleton.mp hx
      exact allowed_of_originals (C := C) hrows hw

/-- **Owners of jobs.** In every run of any tasks side by side, every record is still that of its creation in the
id, the plan, the owner and the time; an endpoint reads only its job, asks only its task to stop and answers only a
caller for whom the job was created; and others are told that there is no such job. -/
theorem jobOwners_of_run (hrun : Pool.Run jobStep (apiPool table tasks) trace pool) :
    (∀ job ∈ pool.world.rows, Original (originals table tasks) job) ∧
      ∀ (i : ℕ) (task : ApiTask) (jobId identity : String), tasks[i]? = some task →
        task.endpoint = some (jobId, identity) →
          (∀ e ∈ Pool.eventsOf i trace, EndpointCall (originals table tasks) jobId identity e.op) ∧
            (∀ answer, pool.threads[i]? = some (.done (.ok answer)) →
              MayAccess (originals table tasks) jobId identity ∧
                ∀ found ∈ answer, found.About (originals table tasks) jobId) ∧
            ∀ error, pool.threads[i]? = some (.done (.error error)) →
              error = .httpException 404 ∨ ∃ op, ⟨op, .error error⟩ ∈ Pool.eventsOf i trace := by
  obtain ⟨hrows, hallowed⟩ := originals_of_run hrun
  refine ⟨hrows, fun i task jobId identity htask hendpoint => ?_⟩
  have hi : (apiPool table tasks).threads[i]? = some task.program := by
    simp [apiPool, List.getElem?_map, htask]
  obtain ⟨q, hq, hsteps⟩ := hrun.steps hi
  have hevents : ∀ e ∈ Pool.eventsOf i trace, ∀ g,
      (originProtocol (originals table tasks) (EndpointCall (originals table tasks) jobId identity)).allowed g e := by
    intro e he g
    obtain ⟨x, hx, hxe⟩ := List.mem_filterMap.mp he
    split at hxe
    · exact Option.some.inj hxe ▸ hallowed x hx _ g
    · cases hxe
  obtain ⟨hend, hcalls⟩ := hsteps.wp (wp_endpoint hendpoint) hevents
  refine ⟨fun e he => ?_, fun answer hr => ?_, fun error hr => ?_⟩
  · obtain ⟨before, after, hsplit⟩ := List.append_of_mem he
    exact hcalls before e after hsplit
  · obtain rfl := Option.some.inj (hq.symm.trans hr)
    exact hend
  · obtain rfl := Option.some.inj (hq.symm.trans hr)
    refine Or.imp id (fun hmem => ?_) hend
    obtain hnone | hop := mem_errors hmem
    · cases hnone
    · exact hop

end

/-- A caller asks for the job that another one submits meanwhile, and then tries to cancel it. -/
def strangers : List ApiTask :=
  [.submit "job-1" echoPlan (some "api:one") midnight, .get "job-1" "api:two", .cancel "job-1" "api:two",
    .get "job-1" "api:one"]

def strangersRun : ApiPool × List (ℕ × CallEvent) :=
  Pool.exec jobAnswer [0, 1, 2, 3] (apiPool ⟨[], List.nodup_nil⟩ strangers) []

theorem jobOwners_of_run_strangers :
    (strangersRun.2.map Prod.fst = [0, 1, 2, 3]) ∧ ∀ e ∈ Pool.eventsOf 2 strangersRun.2,
      EndpointCall (originals ⟨[], List.nodup_nil⟩ strangers) "job-1" "api:two" e.op := by
  have hrun : Pool.Run jobStep (apiPool ⟨[], List.nodup_nil⟩ strangers) strangersRun.2 strangersRun.1 :=
    Pool.Run.nil.exec jobStep_jobAnswer _
  exact ⟨by decide +kernel, ((jobOwners_of_run hrun).2 2 _ "job-1" "api:two" rfl rfl).1⟩

end Gpucall
