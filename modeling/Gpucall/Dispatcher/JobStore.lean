import Gpucall.Dispatcher.Execute

/-! Job records in the shared stores (`SQLiteJobStore`, `PostgresJobStore`): `update` is a `get`
followed by an upsert of the whole record, and the two are separate steps. -/

namespace Gpucall

def isTerminalJobState : JobState → Bool
  | .succeeded | .completed | .failed | .cancelled | .expired | .completedAfterCallerTimeout => true
  | .queued | .pending | .running => false

/-- The jobs table: its primary key is the job's id. -/
structure JobTable where
  rows : List JobRecord
  nodup : (rows.map (·.jobId)).Nodup

namespace JobTable

variable (t : JobTable)

def find (jobId : String) : Option JobRecord := t.rows.find? (·.jobId = jobId)

/-- `_upsert`. The row that is written has the latest `updated_at`. -/
def upsert (job : JobRecord) : JobTable where
  rows := t.rows.filter (·.jobId ≠ job.jobId) ++ [job]
  nodup := by
    rw [List.map_append, List.nodup_append]
    refine ⟨t.nodup.sublist (List.filter_sublist.map _), by simp, ?_⟩
    intro a ha b hb hab
    obtain ⟨r, hr, rfl⟩ := List.mem_map.mp ha
    obtain rfl := List.mem_singleton.mp hb
    simp [hab] at hr

def state (jobId : String) : Option JobState := (t.find jobId).map (·.state)

variable {t}

theorem jobId_of_find {jobId : String} {job : JobRecord} (h : t.find jobId = some job) :
    job.jobId = jobId := by
  simpa using List.find?_some h

theorem find_of_mem {job : JobRecord} (h : job ∈ t.rows) : t.find job.jobId = some job := by
  obtain ⟨found, hfound⟩ : ∃ found, t.find job.jobId = some found :=
    Option.isSome_iff_exists.mp (List.find?_isSome.mpr ⟨job, h, by simp⟩)
  have heq : found = job := List.inj_on_of_nodup_map t.nodup
    (List.mem_of_find?_eq_some hfound) h (jobId_of_find hfound)
  rw [hfound, heq]

@[simp] theorem find_upsert (job : JobRecord) : (t.upsert job).find job.jobId = some job := by
  have hnone : (t.rows.filter (·.jobId ≠ job.jobId)).find? (·.jobId = job.jobId) = none := by
    simp [List.find?_eq_none]
  simp only [find, upsert, List.find?_append, hnone]
  simp

theorem find_upsert_of_ne {jobId : String} {job : JobRecord} (h : jobId ≠ job.jobId) :
    (t.upsert job).find jobId = t.find jobId := by
  have hjob : [job].find? (·.jobId = jobId) = none := by simp [Ne.symm h]
  have hrows (row : JobRecord) : (row.jobId ≠ job.jobId ∧ row.jobId = jobId) ↔ row.jobId = jobId :=
    and_iff_right_of_imp fun hrow => hrow ▸ h
  simp only [find, upsert, List.find?_append, hjob, Option.or_none, List.find?_filter,
    decide_eq_true_eq, hrows]

@[simp] theorem state_upsert (job : JobRecord) :
    (t.upsert job).state job.jobId = some job.state := by
  simp [state]

theorem state_upsert_of_ne {jobId : String} {job : JobRecord} (h : jobId ≠ job.jobId) :
    (t.upsert job).state jobId = t.state jobId := by
  rw [state, find_upsert_of_ne h, state]

theorem state_of_find {jobId : String} {job : JobRecord} (h : t.find jobId = some job) :
    t.state jobId = some job.state := by
  simp [state, h]

end JobTable

/-- One step of the jobs table. A call that fails leaves the table as it is; the audit trail raises
errors of its own, never a `TupleError`. -/
def jobStep (t : JobTable) (e : CallEvent) (t' : JobTable) : Prop :=
  match e.op, e.outcome with
  | .getJob jobId, .ok found => found = t.find jobId ∧ t' = t
  | .fetch jobId, .ok job => t.find jobId = some job ∧ t' = t
  | .allJobs, .ok jobs => jobs.Perm t.rows ∧ t' = t
  | .upsert job, .ok _ => t' = t.upsert job
  | .audit _, .error (.tupleError _) => False
  | _, _ => Possible e ∧ t' = t

theorem possible_of_jobStep {t t' : JobTable} {e : CallEvent} (h : jobStep t e t') :
    Possible e := by
  obtain ⟨op, r⟩ := e
  cases op <;> cases r <;> first | trivial | exact h.1

theorem eq_of_jobStep {t t' : JobTable} {e : CallEvent} (h : jobStep t e t')
    (he : ∀ job, e ≠ ⟨.upsert job, .ok ()⟩) : t' = t := by
  obtain ⟨op, r⟩ := e
  cases op <;> rcases r with exc | a <;> try exact h.2
  case upsert.ok job => exact absurd rfl (he job)
  case audit.error =>
    cases exc with
    | tupleError => exact h.elim
    | _ => exact h.2

/-- `JobStore.update(job_id, ..)`, where `change` is the `model_copy` of the record read. The read
raises `KeyError` when there is no record. -/
def updateJob (jobId : String) (change : JobRecord → JobRecord) : Program Unit := do
  let job ← call (.fetch jobId)
  call (.upsert (change job))

/-- The recorder that `_async_attempt_recorder` makes. -/
def asyncAttemptRecorder (jobId : String) : Recorder := fun attempt => do
  match ← call (.getJob jobId) with
  | none => return ()
  | some current =>
    updateJob jobId fun job => { job with attempts := current.attempts ++ [attempt] }

/-- A call of `execute_sync`, alone or for a job, or of `execute_stream`. -/
inductive DispatchCall where
  | sync (plan : CompiledPlan)
  | job (jobId : String) (plan : CompiledPlan)
  | stream (plan : CompiledPlan)

def DispatchCall.plan : DispatchCall → CompiledPlan
  | sync plan | job _ plan | stream plan => plan

def DispatchCall.program (d : Dispatcher) : DispatchCall → Program (Option TupleResult)
  | sync plan => do return some (← d.executeSync plan none)
  | job jobId plan => do return some (← d.executeSync plan (some (asyncAttemptRecorder jobId)))
  | stream plan => do
    d.executeStream plan
    return none

end Gpucall
