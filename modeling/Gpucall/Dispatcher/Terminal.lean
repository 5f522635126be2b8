import Gpucall.Dispatcher.Views

/-! Terminal states of jobs under every interleaving of the tasks that share a jobs table. A terminal
state is overwritten exactly when a task stores a state on the strength of a read that is older than
the terminal write of another task, or when `_run_job` starts on a job that has already settled. -/

namespace Gpucall

open Effects

abbrev JobPool := Pool JobTable Call Call.Res PyExc Unit

/-- The processes that share the table, at their start. -/
def jobPool (table : JobTable) (tasks : List GatewayTask) : JobPool :=
  ⟨table, tasks.map (·.program)⟩

/-- Whether the call has read a record of the job. -/
def Reads (e : CallEvent) (jobId : String) : Prop :=
  match e.op, e.outcome with
  | .getJob _, .ok (some job) => job.jobId = jobId
  | .fetch _, .ok job => job.jobId = jobId
  | .allJobs, .ok jobs => ∃ job ∈ jobs, job.jobId = jobId
  | _, _ => False

/-- The call has stored the record. -/
def stored (job : JobRecord) : CallEvent := ⟨.upsert job, .ok ()⟩

/-- After task `i` has read the job, another task has stored the terminal state for it. -/
def OvertakenBy (i : ℕ) (jobId : String) (state : JobState) (trace : List (ℕ × CallEvent)) : Prop :=
  ∃ k e job, k ≠ i ∧ Reads e jobId ∧ job.jobId = jobId ∧ job.state = state ∧
    [(i, e), (k, stored job)].Sublist trace

/-- Task `i` began with a read of the job, which found it in the state. -/
def StartedIn (i : ℕ) (jobId : String) (state : JobState) (trace : List (ℕ × CallEvent)) : Prop :=
  ∃ before job after, trace = before ++ (i, ⟨.getJob jobId, .ok (some job)⟩) :: after ∧
    (∀ x ∈ before, x.1 ≠ i) ∧ job.jobId = jobId ∧ job.state = state

/-- A task reads a job, another task stores a terminal state for it, and the first task then stores a
different state. -/
def StaleWrite (trace : List (ℕ × CallEvent)) : Prop :=
  ∃ i k e job₁ job₂, k ≠ i ∧ Reads e job₁.jobId ∧ isTerminalJobState job₁.state ∧
    job₂.jobId = job₁.jobId ∧ job₂.state ≠ job₁.state ∧
    [(i, e), (k, stored job₁), (i, stored job₂)].Sublist trace

/-- A task whose first call finds its job in a terminal state goes on to store a different state. -/
def LateStart (trace : List (ℕ × CallEvent)) : Prop :=
  ∃ i before job after job₂, trace = before ++ (i, ⟨.getJob job.jobId, .ok (some job)⟩) :: after ∧
    (∀ x ∈ before, x.1 ≠ i) ∧ isTerminalJobState job.state ∧
    job₂.jobId = job.jobId ∧ job₂.state ≠ job.state ∧ (i, stored job₂) ∈ after

/-- Between any two moments of the run, a terminal state stays as it was. -/
def TerminalStatesKept (init : JobPool) (trace : List (ℕ × CallEvent)) : Prop :=
  ∀ (before between after : List (ℕ × CallEvent)) (pool₁ pool₂ : JobPool),
    trace = before ++ between ++ after → Pool.Run jobStep init before pool₁ →
    Pool.Run jobStep pool₁ between pool₂ → ∀ jobId state, isTerminalJobState state →
      pool₁.world.state jobId = some state → pool₂.world.state jobId = some state

section

variable {trace : List (ℕ × CallEvent)} {i : ℕ} {jobId : String} {state : JobState}

theorem OvertakenBy.append (h : OvertakenBy i jobId state trace) (rest : List (ℕ × CallEvent)) :
    OvertakenBy i jobId state (trace ++ rest) := by
  obtain ⟨k, e, job, hk, he, hjob, hstate, hsub⟩ := h
  exact ⟨k, e, job, hk, he, hjob, hstate, hsub.trans (List.sublist_append_left _ _)⟩

theorem StartedIn.append (h : StartedIn i jobId state trace) (rest : List (ℕ × CallEvent)) :
    StartedIn i jobId state (trace ++ rest) := by
  obtain ⟨before, job, after, rfl, hbefore, hjob, hstate⟩ := h
  exact ⟨before, job, after ++ rest, by simp, hbefore, hjob, hstate⟩

theorem StaleWrite.append (h : StaleWrite trace) (rest : List (ℕ × CallEvent)) :
    StaleWrite (trace ++ rest) := by
  obtain ⟨i, k, e, job₁, job₂, hk, he, hterminal, hjob, hstate, hsub⟩ := h
  exact ⟨i, k, e, job₁, job₂, hk, he, hterminal, hjob, hstate,
    hsub.trans (List.sublist_append_left _ _)⟩

theorem LateStart.append (h : LateStart trace) (rest : List (ℕ × CallEvent)) :
    LateStart (trace ++ rest) := by
  obtain ⟨i, before, job, after, job₂, rfl, hbefore, hterminal, hjob, hstate, hmem⟩ := h
  exact ⟨i, before, job, after ++ rest, job₂, by simp, hbefore, hterminal, hjob, hstate,
    by simp [hmem]⟩

/-- A task that was overtaken, or started late, can store no other state in a run that has neither a
stale write nor a late start. -/
theorem state_eq_of_stored {job : JobRecord} (hjob : job.jobId = jobId)
    (hterminal : isTerminalJobState state)
    (h : OvertakenBy i jobId state trace ∨ StartedIn i jobId state trace)
    (hstale : ¬StaleWrite (trace ++ [(i, stored job)]))
    (hlate : ¬LateStart (trace ++ [(i, stored job)])) : job.state = state := by
  by_contra hne
  rcases h with ⟨k, e, job₁, hk, he, rfl, rfl, hsub⟩ | ⟨before, job₁, after, rfl, hbefore, rfl, rfl⟩
  · exact hstale ⟨i, k, e, job₁, job, hk, he, hterminal, hjob, hne,
      hsub.append (List.Sublist.refl [(i, stored job)])⟩
  · exact hlate ⟨i, before, job₁, after ++ [(i, stored job)], job, by simp, hbefore, hterminal, hjob,
      hne, by simp⟩

end

/-! ## What the views of a task say about the table -/

/-- The view that task `i` has of the job is right for the table. -/
def Tracks (t : JobTable) (trace : List (ℕ × CallEvent)) (i : ℕ) (jobId : String) : View → Prop
  | .unseen => True
  | .live => (∃ e, (i, e) ∈ trace ∧ Reads e jobId) ∧
      ∀ state, isTerminalJobState state → t.state jobId = some state →
        OvertakenBy i jobId state trace
  | .settled state => isTerminalJobState state ∧ t.state jobId = some state
  | .overtaken => ∃ state, isTerminalJobState state ∧ t.state jobId = some state ∧
      (OvertakenBy i jobId state trace ∨ StartedIn i jobId state trace)

section

variable {t t' : JobTable} {trace rest : List (ℕ × CallEvent)} {i : ℕ} {jobId : String} {v : View}

theorem Tracks.append (h : Tracks t trace i jobId v) (rest : List (ℕ × CallEvent)) :
    Tracks t (trace ++ rest) i jobId v := by
  cases v with
  | unseen => trivial
  | live =>
    obtain ⟨⟨e, hmem, he⟩, hover⟩ := h
    exact ⟨⟨e, by simp [hmem], he⟩, fun state ht hs => (hover state ht hs).append rest⟩
  | settled state => exact h
  | overtaken =>
    obtain ⟨state, ht, hs, hover⟩ := h
    exact ⟨state, ht, hs, hover.imp (·.append rest) (·.append rest)⟩

theorem Tracks.congr (h : Tracks t trace i jobId v) (ht : t'.state jobId = t.state jobId) :
    Tracks t' trace i jobId v := by
  unfold Tracks at h ⊢
  simpa only [ht] using h

/-- A read of the job brings the view up to date. -/
theorem Tracks.see {job : JobRecord} (h : Tracks t trace i jobId v)
    (hread : ∃ e, (i, e) ∈ trace ∧ Reads e jobId) (hfound : t.state jobId = some job.state) :
    Tracks t trace i jobId (v.see job.state) := by
  unfold View.see
  split
  · rename_i hterminal
    cases v with
    | unseen => exact ⟨hterminal, hfound⟩
    | live => exact ⟨_, hterminal, hfound, .inl (h.2 _ hterminal hfound)⟩
    | settled state =>
      obtain rfl : state = job.state := Option.some.inj (h.2.symm.trans hfound)
      simpa using h
    | overtaken => exact h
  · rename_i hlive
    have hnot (state : JobState) (hs : t.state jobId = some state) :
        ¬isTerminalJobState state := by
      rwa [Option.some.inj (hs.symm.trans hfound)]
    cases v with
    | unseen | live => exact ⟨hread, fun state ht hs => absurd ht (hnot state hs)⟩
    | settled state => exact absurd h.1 (hnot state h.2)
    | overtaken =>
      obtain ⟨state, ht, hs, -⟩ := h
      exact absurd ht (hnot state hs)

/-- A write of the task that its view permits keeps a terminal state. -/
theorem Tracks.kept {job : JobRecord} {state : JobState} (h : Tracks t trace i job.jobId v)
    (hpermits : v.Permits job.state) (hterminal : isTerminalJobState state)
    (hs : t.state job.jobId = some state)
    (hstale : ¬StaleWrite (trace ++ [(i, stored job)]))
    (hlate : ¬LateStart (trace ++ [(i, stored job)])) : job.state = state := by
  cases v with
  | unseen => exact hpermits.elim
  | live => exact state_eq_of_stored rfl hterminal (.inl (h.2 state hterminal hs)) hstale hlate
  | settled state' => exact hpermits.trans (Option.some.inj (h.2.symm.trans hs))
  | overtaken =>
    obtain ⟨state', -, hs', hover⟩ := h
    obtain rfl : state' = state := Option.some.inj (hs'.symm.trans hs)
    exact state_eq_of_stored rfl hterminal hover hstale hlate

/-- The view of the task after its own write. -/
theorem Tracks.store {job : JobRecord} (h : Tracks t trace i job.jobId v)
    (hkept : ∀ state, isTerminalJobState state → t.state job.jobId = some state → job.state = state)
    (hpermits : v.Permits job.state) :
    Tracks (t.upsert job) trace i job.jobId (v.store job.state) := by
  cases v with
  | unseen => exact hpermits.elim
  | overtaken =>
    obtain ⟨state, ht, hs, hover⟩ := h
    exact ⟨state, ht, by simp [hkept state ht hs], hover⟩
  | live =>
    unfold View.store
    dsimp only
    split
    · exact ⟨by assumption, by simp⟩
    · rename_i hlive
      refine ⟨h.1, fun state ht hs => absurd ht ?_⟩
      rwa [← Option.some.inj ((JobTable.state_upsert job).symm.trans hs)]
  | settled state =>
    obtain rfl : job.state = state := hpermits
    simp [View.store, h.1, Tracks]

/-- The view of a task after the write of another one. -/
theorem Tracks.other {job : JobRecord} {k : ℕ} (hk : k ≠ i) (h : Tracks t trace i job.jobId v)
    (hkept : ∀ state, isTerminalJobState state → t.state job.jobId = some state →
      job.state = state) :
    Tracks (t.upsert job) (trace ++ [(k, stored job)]) i job.jobId v := by
  cases v with
  | unseen => trivial
  | live =>
    obtain ⟨⟨e, hmem, he⟩, -⟩ := h
    refine ⟨⟨e, by simp [hmem], he⟩, fun state _ hs => ?_⟩
    obtain rfl := Option.some.inj ((JobTable.state_upsert job).symm.trans hs)
    exact ⟨k, e, job, hk, he, rfl, rfl,
      (List.singleton_sublist.mpr hmem).append (List.Sublist.refl [(k, stored job)])⟩
  | settled state => exact ⟨h.1, by simp [hkept state h.1 h.2]⟩
  | overtaken =>
    obtain ⟨state, ht, hs, hover⟩ := h
    exact ⟨state, ht, by simp [hkept state ht hs], hover.imp (·.append _) (·.append _)⟩

end

/-! ## Steps and runs -/

/-- Every view of every task is right, and a task that has not started has made no call. -/
structure ViewsRight (t : JobTable) (trace : List (ℕ × CallEvent)) (γ : ℕ → Views) : Prop where
  started : ∀ i, (γ i).started = false → ∀ x ∈ trace, x.1 ≠ i
  tracks : ∀ i jobId, Tracks t trace i jobId ((γ i).view jobId)

theorem ViewsRight.init (t : JobTable) : ViewsRight t [] fun _ => {} where
  started _ _ _ hx := by cases hx
  tracks _ _ := trivial

section

variable {t t' : JobTable} {trace : List (ℕ × CallEvent)} {i : ℕ} {e : CallEvent}

theorem tracks_see {g : Views} {job : JobRecord}
    (h : ∀ jobId, Tracks t trace i jobId (g.view jobId))
    (hread : ∃ e, (i, e) ∈ trace ∧ Reads e job.jobId) (hfound : t.state job.jobId = some job.state) :
    ∀ jobId, Tracks t trace i jobId ((g.see job).view jobId) := by
  intro jobId
  by_cases hj : jobId = job.jobId
  · subst hj
    simpa [Views.see] using (h _).see hread hfound
  · simpa [Views.see, hj] using h jobId

/-- After a call that writes nothing the views of its task are right. -/
theorem tracks_after {g : Views} (h : ∀ jobId, Tracks t trace i jobId (g.view jobId))
    (hstarted : g.started = false → ∀ x ∈ trace, x.1 ≠ i) (hstep : jobStep t e t')
    (he : ∀ job, e ≠ stored job) (jobId : String) :
    Tracks t (trace ++ [(i, e)]) i jobId ((g.after e).view jobId) := by
  have happend (jobId : String) := (h jobId).append [(i, e)]
  have hread (jobId : String) (hreads : Reads e jobId) :
      ∃ e', (i, e') ∈ trace ++ [(i, e)] ∧ Reads e' jobId := ⟨e, by simp, hreads⟩
  unfold Views.after
  dsimp only
  split
  · rename_i key job hop hout
    obtain ⟨op, r⟩ := e
    cases hop
    cases hout
    obtain ⟨hfind, -⟩ := hstep
    obtain rfl := JobTable.jobId_of_find hfind.symm
    have hfound := JobTable.state_of_find hfind.symm
    split
    · rename_i hlate
      simp only [Bool.and_eq_true, Bool.not_eq_true'] at hlate
      by_cases hj : jobId = job.jobId
      · subst hj
        dsimp only
        rw [Function.update_self]
        exact ⟨_, hlate.2, hfound, .inr ⟨trace, job, [], rfl, hstarted hlate.1, rfl, rfl⟩⟩
      · simpa [hj] using happend jobId
    · exact tracks_see happend (hread _ rfl) hfound jobId
  · rename_i key job hop hout
    obtain ⟨op, r⟩ := e
    cases hop
    cases hout
    obtain ⟨hfind, -⟩ := hstep
    have hfind' : t.find job.jobId = some job := by
      rw [JobTable.jobId_of_find hfind]
      exact hfind
    exact tracks_see happend (hread _ rfl) (JobTable.state_of_find hfind') jobId
  · rename_i jobs hop hout
    obtain ⟨op, r⟩ := e
    cases hop
    cases hout
    obtain ⟨hperm, -⟩ := hstep
    refine List.foldlRecOn (motive := fun g => ∀ jobId, Tracks t _ i jobId (g.view jobId)) jobs
      Views.see (b := { g with started := true }) happend (fun g' hg' job hjob => ?_) jobId
    exact tracks_see hg' (hread _ ⟨job, hjob, rfl⟩)
      (JobTable.state_of_find (JobTable.find_of_mem (hperm.mem_iff.mp hjob)))
  · rename_i job u hop hout
    obtain ⟨op, r⟩ := e
    cases hop
    cases hout
    exact absurd rfl (he job)
  · exact happend jobId

theorem started_after (g : Views) (e : CallEvent) : (g.after e).started = true := by
  unfold Views.after
  dsimp only
  split
  · split <;> rfl
  · rfl
  · refine List.foldlRecOn (motive := fun g => g.started = true) _ Views.see
      (b := { g with started := true }) rfl ?_
    exact fun _ h _ _ => h
  · rfl
  · rfl

/-- **Step lemma.** A step of a task that its views permit keeps the terminal states, and the views
stay right, in a run that has neither a stale write nor a late start. -/
theorem ViewsRight.step {γ : ℕ → Views} (h : ViewsRight t trace γ)
    (hpre : viewProtocol.pre (γ i) e.op) (hstep : jobStep t e t')
    (hstale : ¬StaleWrite (trace ++ [(i, e)])) (hlate : ¬LateStart (trace ++ [(i, e)])) :
    (∀ jobId state, isTerminalJobState state → t.state jobId = some state →
      t'.state jobId = some state) ∧
    ViewsRight t' (trace ++ [(i, e)]) (Function.update γ i ((γ i).after e)) := by
  have hstarted (j : ℕ) (hj : (Function.update γ i ((γ i).after e) j).started = false)
      (x : ℕ × CallEvent) (hx : x ∈ trace ++ [(i, e)]) : x.1 ≠ j := by
    by_cases hji : j = i
    · subst hji
      simp [started_after] at hj
    · rw [Function.update_of_ne hji] at hj
      rcases List.mem_append.mp hx with hx | hx
      · exact h.started j hj x hx
      · obtain rfl := List.mem_singleton.mp hx
        exact Ne.symm hji
  by_cases hwrite : ∃ job, e = stored job
  · obtain ⟨job, rfl⟩ := hwrite
    obtain rfl : t' = t.upsert job := hstep
    have hkept (state : JobState) (ht : isTerminalJobState state)
        (hs : t.state job.jobId = some state) : job.state = state :=
      (h.tracks i job.jobId).kept hpre ht hs hstale hlate
    refine ⟨fun jobId state ht hs => ?_, hstarted, fun j jobId => ?_⟩
    · by_cases hj : jobId = job.jobId
      · subst hj
        simp [hkept state ht hs]
      · rw [JobTable.state_upsert_of_ne hj, hs]
    · by_cases hj : jobId = job.jobId
      · subst hj
        by_cases hji : j = i
        · subst hji
          rw [Function.update_self]
          simpa [Views.after, stored] using
            ((h.tracks j job.jobId).store hkept hpre).append [(j, stored job)]
        · rw [Function.update_of_ne hji]
          exact (h.tracks j job.jobId).other (Ne.symm hji) hkept
      · refine Tracks.congr (t := t) ?_ (JobTable.state_upsert_of_ne hj)
        refine Tracks.append ?_ _
        by_cases hji : j = i
        · subst hji
          simpa [Views.after, stored, hj] using h.tracks j jobId
        · simpa [hji] using h.tracks j jobId
  · have he (job : JobRecord) (hjob : e = stored job) : False := hwrite ⟨job, hjob⟩
    obtain rfl := eq_of_jobStep hstep he
    refine ⟨fun _ _ _ hs => hs, hstarted, fun j jobId => ?_⟩
    by_cases hji : j = i
    · subst hji
      rw [Function.update_self]
      exact tracks_after (h.tracks j) (h.started j) hstep he jobId
    · simpa [hji] using (h.tracks j jobId).append [(i, e)]

end

section

variable {table : JobTable} {tasks : List GatewayTask} {pool : JobPool}
  {trace : List (ℕ × CallEvent)}

theorem pre_of_run (hrun : Pool.Run jobStep (jobPool table tasks) trace pool) {i : ℕ} {op : Call}
    {k : Except PyExc op.Res → Program Unit} (hi : pool.threads[i]? = some (.step op k)) :
    viewProtocol.pre (Pool.ghost viewProtocol {} trace i) op := by
  refine hrun.pre viewProtocol (Q := fun _ _ => True) ?_ ?_ hi
  · intro p hp
    obtain ⟨task, -, rfl⟩ := List.mem_map.mp hp
    exact task.wp_program
  · intro x hx g
    obtain ⟨_, _, hstep⟩ := hrun.exists_step hx
    exact allowed_of_jobStep hstep g

theorem viewsRight_of_run (hrun : Pool.Run jobStep (jobPool table tasks) trace pool)
    (hstale : ¬StaleWrite trace) (hlate : ¬LateStart trace) :
    ViewsRight pool.world trace (Pool.ghost viewProtocol {} trace) := by
  induction hrun with
  | nil => exact ViewsRight.init table
  | snoc hrun hi hw ih =>
    have hright := ih (fun h => hstale (h.append _)) fun h => hlate (h.append _)
    rw [Pool.ghost_snoc]
    exact (hright.step (pre_of_run hrun hi) hw hstale hlate).2

/-- **Run lemma.** -/
theorem kept_of_run {trace' : List (ℕ × CallEvent)} {pool' : JobPool}
    (hrun : Pool.Run jobStep (jobPool table tasks) trace pool)
    (hrun' : Pool.Run jobStep pool trace' pool') (hstale : ¬StaleWrite (trace ++ trace'))
    (hlate : ¬LateStart (trace ++ trace')) {jobId : String} {state : JobState}
    (hterminal : isTerminalJobState state) (hs : pool.world.state jobId = some state) :
    pool'.world.state jobId = some state := by
  induction hrun' with
  | nil => exact hs
  | snoc hrun' hi hw ih =>
    rw [← List.append_assoc] at hstale hlate
    have hstale' := fun h => hstale (StaleWrite.append h _)
    have hlate' := fun h => hlate (LateStart.append h _)
    have hall := hrun.trans hrun'
    exact ((viewsRight_of_run hall hstale' hlate').step (pre_of_run hall hi) hw hstale hlate).1
      jobId state hterminal (ih hstale' hlate')

/-- A record that was stored, or found, is the state of the table at that moment. -/
theorem state_of_run_last {init : JobPool} {i : ℕ} {e : CallEvent} {job : JobRecord}
    (hrun : Pool.Run jobStep init (trace ++ [(i, e)]) pool)
    (he : e = stored job ∨ e = ⟨.getJob job.jobId, .ok (some job)⟩) :
    pool.world.state job.jobId = some job.state := by
  obtain ⟨w, threads, k, -, -, hw, -⟩ := hrun.snoc_inv
  rcases he with rfl | rfl
  · rw [show pool.world = w.upsert job from hw, JobTable.state_upsert]
  · obtain ⟨hfind, hworld⟩ := hw
    rw [hworld, JobTable.state_of_find hfind.symm]

/-- Terminal states are not kept if a record with another state is stored after one with a terminal
state was stored or found. -/
theorem not_kept_of_stored {i k : ℕ} {e : CallEvent} {job₁ job₂ : JobRecord} {init : JobPool}
    {before between after : List (ℕ × CallEvent)} (hrun : Pool.Run jobStep init trace pool)
    (htrace : trace = before ++ [(k, e)] ++ (between ++ [(i, stored job₂)]) ++ after)
    (he : e = stored job₁ ∨ e = ⟨.getJob job₁.jobId, .ok (some job₁)⟩)
    (hterminal : isTerminalJobState job₁.state) (hjob : job₂.jobId = job₁.jobId)
    (hstate : job₂.state ≠ job₁.state) : ¬TerminalStatesKept init trace := by
  intro hkept
  rw [htrace] at hrun
  obtain ⟨pool₂, hrun₂, -⟩ := hrun.split
  obtain ⟨pool₁, hrun₁, hbetween⟩ := hrun₂.split
  have hfirst := state_of_run_last hrun₁ he
  have hlast := state_of_run_last hbetween (.inl rfl)
  rw [hjob, hkept _ _ _ pool₁ pool₂ htrace hrun₁ hbetween _ _ hterminal hfirst] at hlast
  exact hstate (Option.some.inj hlast).symm

/-- **Terminal job states.** In every run of any tasks on any jobs table, terminal states are kept if
and only if no task makes a stale write and no task starts late. -/
theorem terminalStatesKept_iff (table : JobTable) (tasks : List GatewayTask)
    (trace : List (ℕ × CallEvent)) (pool : JobPool)
    (hrun : Pool.Run jobStep (jobPool table tasks) trace pool) :
    TerminalStatesKept (jobPool table tasks) trace ↔ ¬StaleWrite trace ∧ ¬LateStart trace := by
  refine ⟨fun hkept => ⟨?_, ?_⟩, ?_⟩
  · rintro ⟨i, k, e, job₁, job₂, -, -, hterminal, hjob, hstate, hsub⟩
    obtain ⟨rest₁, rest₂, hrest, -, hsub₁⟩ := List.cons_sublist_iff.mp hsub
    obtain ⟨rest₃, rest₄, hrest₂, hmem₁, hsub₂⟩ := List.cons_sublist_iff.mp hsub₁
    obtain ⟨a, b, hrest₃⟩ := List.append_of_mem hmem₁
    obtain ⟨c, d, hrest₄⟩ := List.append_of_mem (List.singleton_sublist.mp hsub₂)
    have htrace : trace = (rest₁ ++ a) ++ [(k, stored job₁)] ++ (b ++ c ++ [(i, stored job₂)]) ++ d := by
      rw [hrest, hrest₂, hrest₃, hrest₄]
      simp
    exact not_kept_of_stored hrun htrace (.inl rfl) hterminal hjob hstate hkept
  · rintro ⟨i, before, job, after, job₂, htrace, -, hterminal, hjob, hstate, hmem⟩
    obtain ⟨between, rest, rfl⟩ := List.append_of_mem hmem
    have htrace' : trace = before ++ [(i, ⟨.getJob job.jobId, .ok (some job)⟩)] ++
        (between ++ [(i, stored job₂)]) ++ rest := by
      rw [htrace]
      simp
    exact not_kept_of_stored hrun htrace' (.inr rfl) hterminal hjob hstate hkept
  · rintro ⟨hstale, hlate⟩ before between after pool₁ pool₂ rfl hrun₁ hrun₂ jobId state ht hs
    exact kept_of_run hrun₁ hrun₂ (fun h => hstale (h.append _)) (fun h => hlate (h.append _)) ht hs

end

/-! ## Two processes -/

/-- The answers of the table and of services that succeed. -/
def jobAnswer (op : Call) (t : JobTable) : Option (Except PyExc op.Res × JobTable) :=
  match op with
  | .getJob jobId => some (.ok (t.find jobId), t)
  | .fetch jobId => (t.find jobId).map fun job => (.ok job, t)
  | .allJobs => some (.ok t.rows, t)
  | .upsert job => some (.ok (), t.upsert job)
  | .monotonic => some (.ok 0, t)
  | .utcNow => some (.ok midnight, t)
  | .isAvailable _ => some (.ok true, t)
  | .acquire tuple workloadScope => some (.ok (.allowed ⟨tuple, tuple, workloadScope⟩), t)
  | .release _ => some (.ok (), t)
  | .start tuple _ => some (.ok { tuple, remoteId := "remote-1" }, t)
  | .wait .. => some (.ok { kind := .inline, value := some "ok" }, t)
  | .validateOutput _ result => some (.ok result, t)
  | .recordObservation .. => some (.ok (), t)
  | .cancelRemote .. => some (.ok (), t)
  | .taskStart _ => some (.ok (), t)
  | .onAsyncSuccess _ => some (.ok (), t)
  | .audit _ => some (.ok (), t)
  | _ => none

theorem jobStep_jobAnswer {op : Call} {t : JobTable} {r : Except PyExc op.Res} {t' : JobTable}
    (h : jobAnswer op t = some (r, t')) : jobStep t ⟨op, r⟩ t' := by
  cases op with
  | fetch jobId =>
    obtain ⟨job, hfind, hjob⟩ := Option.map_eq_some_iff.mp h
    cases hjob
    exact ⟨hfind, rfl⟩
  | allJobs =>
    cases h
    exact ⟨List.Perm.refl _, rfl⟩
  | getJob | upsert | monotonic | utcNow | isAvailable | acquire | release | start | wait
  | validateOutput | recordObservation | cancelRemote | taskStart | onAsyncSuccess | audit =>
    cases h
    first | rfl | exact ⟨rfl, rfl⟩ | exact ⟨trivial, rfl⟩
  | _ => cases h

/-- A table with one job that waits. -/
def oneJobTable : JobTable where
  rows := [queuedJob "job-1" echoPlan none midnight]
  nodup := by decide

/-- The run of tasks on that table by a schedule. -/
def jobRun (tasks : List GatewayTask) (schedule : List ℕ) : JobPool × List (ℕ × CallEvent) :=
  Pool.exec jobAnswer schedule (jobPool oneJobTable tasks) []

theorem run_jobRun (tasks : List GatewayTask) (schedule : List ℕ) :
    Pool.Run jobStep (jobPool oneJobTable tasks) (jobRun tasks schedule).2
      (jobRun tasks schedule).1 :=
  Pool.Run.nil.exec jobStep_jobAnswer schedule

/-- Two processes that start at the same time both expire the job. -/
theorem terminalStatesKept_iff_twoRecoveries :
    (jobRun [.recover, .recover] [0, 1, 0, 1, 0, 1, 0, 1]).1.world.state "job-1" = some .expired ∧
      TerminalStatesKept (jobPool oneJobTable [.recover, .recover])
        (jobRun [.recover, .recover] [0, 1, 0, 1, 0, 1, 0, 1]).2 := by
  have hwrites : ∀ x ∈ (jobRun [.recover, .recover] [0, 1, 0, 1, 0, 1, 0, 1]).2,
      (match x.2.op with
        | .upsert job => decide (job.state = .expired)
        | .getJob _ => false
        | _ => true) = true := by decide +kernel
  refine ⟨by decide +kernel, (terminalStatesKept_iff _ _ _ _ (run_jobRun _ _)).mpr ⟨?_, ?_⟩⟩
  · rintro ⟨i, k, e, job₁, job₂, -, -, -, -, hstate, hsub⟩
    have h₁ := hwrites _ (hsub.subset (show (k, stored job₁) ∈ _ by simp))
    have h₂ := hwrites _ (hsub.subset (show (i, stored job₂) ∈ _ by simp))
    exact hstate ((of_decide_eq_true h₂).trans (of_decide_eq_true h₁).symm)
  · rintro ⟨i, before, job, after, job₂, htrace, -⟩
    exact absurd (hwrites (i, ⟨.getJob job.jobId, .ok (some job)⟩) (by simp [htrace])) (by simp)

/-- A process that starts while a job of another one runs expires the job, and the other process then
completes it. -/
theorem not_terminalStatesAlwaysKept :
    ¬ ∀ (table : JobTable) (tasks : List GatewayTask) (trace : List (ℕ × CallEvent))
      (pool : JobPool), Pool.Run jobStep (jobPool table tasks) trace pool →
        TerminalStatesKept (jobPool table tasks) trace := by
  intro h
  let tasks : List GatewayTask := [.run echoDispatcher "job-1" (some echoPlan), .recover]
  let first := jobRun tasks [0, 0, 0, 1, 1, 1]
  let rest := Pool.exec jobAnswer (List.replicate 30 0) first.1 []
  have hfirst : Pool.Run jobStep (jobPool oneJobTable tasks) first.2 first.1 := run_jobRun _ _
  have hrest : Pool.Run jobStep first.1 rest.2 rest.1 := Pool.Run.nil.exec jobStep_jobAnswer _
  have hkept := h _ _ _ _ (hfirst.trans hrest) first.2 rest.2 [] _ _ (by simp) hfirst hrest
    "job-1" .expired rfl (by decide +kernel)
  have hcompleted : rest.1.world.state "job-1" = some .completed := by decide +kernel
  exact absurd (hkept.symm.trans hcompleted) (by decide)

end Gpucall
