import Mathlib.Data.List.Perm.Basic
import Gpucall.Lib.Pool
import Gpucall.Dispatcher.Leases

/-! The in-flight counts of one `AdmissionController` under concurrent calls of `execute_sync` and
`execute_stream`, in every interleaving of their steps. -/

namespace Gpucall

open Effects

/-! ## The shared controller -/

/-- One call as a step of the controller. Every call may raise, and only the three methods of the
controller that return change it. -/
def admissionStep (c : AdmissionController) (e : CallEvent) (c' : AdmissionController) : Prop :=
  match e with
  | ⟨.acquire tuple workloadScope, .ok decision⟩ =>
    ∃ now, c.acquire now tuple workloadScope = (decision, c')
  | ⟨.release lease, .ok _⟩ => c' = c.release lease
  | ⟨.suppress tuple _ suppressFamily, .ok _⟩ => ∃ now, c' = c.suppress now tuple suppressFamily
  | e => Possible e ∧ c' = c

/-- The counts are those of the leases held. An empty workload scope is not counted. -/
structure CountsHeld (c : AdmissionController) (held : List AdmissionLease) : Prop where
  tuple : ∀ name, c.tupleInflight name = held.countP (·.tuple = name)
  family : ∀ name, c.familyInflight name = held.countP (·.family = name)
  scope : ∀ name, c.workloadScopeInflight name =
    held.countP fun lease => name ≠ "" ∧ lease.workloadScope = some name

theorem CountsHeld.perm {c : AdmissionController} {held held' : List AdmissionLease}
    (h : CountsHeld c held) (hp : held.Perm held') : CountsHeld c held' where
  tuple name := (h.tuple name).trans (hp.countP_eq _)
  family name := (h.family name).trans (hp.countP_eq _)
  scope name := (h.scope name).trans (hp.countP_eq _)

theorem increment_eq_countP {values : String → ℕ} {held : List AdmissionLease}
    {p : AdmissionLease → String → Prop} [∀ name, DecidablePred fun lease => p lease name]
    (h : ∀ name, values name = held.countP (p · name)) {lease : AdmissionLease} {key : String}
    (hkey : ∀ name, p lease name ↔ name = key) (name : String) :
    increment values key name = (lease :: held).countP (p · name) := by
  by_cases hn : name = key
  · subst hn
    simp [increment, (hkey name).mpr rfl, h name]
  · simp [increment, hn, mt (hkey name).mp hn, h name]

theorem decrement_eq_countP {values : String → ℕ} {held : List AdmissionLease}
    {p : AdmissionLease → String → Prop} [∀ name, DecidablePred fun lease => p lease name]
    {lease : AdmissionLease} (h : ∀ name, values name = (lease :: held).countP (p · name))
    {key : String} (hkey : ∀ name, p lease name ↔ name = key) (name : String) :
    decrement values key name = held.countP (p · name) := by
  by_cases hn : name = key
  · subst hn
    simp [decrement, (hkey name).mpr rfl, h name]
  · simp [decrement, hn, mt (hkey name).mp hn, h name]

/-- A scope that is not counted, or the one key that is. -/
theorem onScope_cases (f : (String → ℕ) → String → String → ℕ) (values : String → ℕ)
    (scope : Option String) :
    (onScope f values scope = values ∧ ∀ name, ¬(name ≠ "" ∧ scope = some name)) ∨
    ∃ key, onScope f values scope = f values key ∧
      ∀ name, (name ≠ "" ∧ scope = some name) ↔ name = key := by
  match scope with
  | none => exact .inl ⟨rfl, by simp⟩
  | some key =>
    by_cases hkey : key = ""
    · subst hkey
      exact .inl ⟨rfl, fun name ⟨hne, hname⟩ => hne (Option.some.inj hname).symm⟩
    · refine .inr ⟨key, ?_, fun name => ?_⟩
      · unfold onScope
        split
        · contradiction
        · exact absurd (Option.some.inj ‹_›) hkey
        · cases ‹some key = some _›
          rfl
      · constructor
        · rintro ⟨_, hname⟩
          exact (Option.some.inj hname).symm
        · rintro rfl
          exact ⟨hkey, rfl⟩

/-- The counts after a lease is granted. -/
theorem CountsHeld.grant {c c' : AdmissionController} {held : List AdmissionLease}
    (h : CountsHeld c held) {now : ℚ} {tuple : String} {workloadScope : Option String}
    {lease : AdmissionLease} (hc : c.acquire now tuple workloadScope = (.allowed lease, c')) :
    CountsHeld c' (lease :: held) := by
  rcases c.acquire_cases now tuple workloadScope with ⟨_, _, hc'⟩ | hc'
  · rw [hc'] at hc
    cases hc
  · rw [hc'] at hc
    cases hc
    refine ⟨increment_eq_countP h.tuple fun _ => eq_comm,
      increment_eq_countP h.family fun _ => eq_comm, ?_⟩
    rcases onScope_cases increment c.workloadScopeInflight workloadScope with
      ⟨heq, hno⟩ | ⟨key, heq, hkey⟩
    · intro name
      simp only [heq]
      rw [List.countP_cons_of_neg (by simpa using hno name), h.scope name]
    · simp only [heq]
      exact increment_eq_countP h.scope hkey

theorem CountsHeld.release {c : AdmissionController} {held : List AdmissionLease}
    {lease : AdmissionLease} (h : CountsHeld c (lease :: held)) :
    CountsHeld (c.release lease) held := by
  refine ⟨decrement_eq_countP h.tuple fun _ => eq_comm,
    decrement_eq_countP h.family fun _ => eq_comm, ?_⟩
  unfold AdmissionController.release
  rcases onScope_cases decrement c.workloadScopeInflight lease.workloadScope with
    ⟨heq, hno⟩ | ⟨key, heq, hkey⟩
  · intro name
    simp only [heq]
    rw [h.scope name, List.countP_cons_of_neg (by simpa using hno name)]
  · simp only [heq]
    exact decrement_eq_countP h.scope hkey

/-- What a step does to the leases of the call that makes it and to the counts. -/
theorem admissionStep_cases {c c' : AdmissionController} {e : CallEvent}
    (h : admissionStep c e c') {log : LeaseLog} (hpre : leaseProtocol.pre log e.op) :
    (∃ lease, log.held = [] ∧ (log.after e).held = [lease] ∧
      ∀ held, CountsHeld c held → CountsHeld c' (lease :: held)) ∨
    (∃ lease, log.held = [lease] ∧ (log.after e).held = [] ∧
      ∀ held, CountsHeld c (lease :: held) → CountsHeld c' held) ∨
    (log.after e).held = log.held ∧ ∀ held, CountsHeld c held → CountsHeld c' held := by
  obtain ⟨op, r⟩ := e
  have hsame (hlog : log.after ⟨op, r⟩ = log) (hc : c' = c) :
      (log.after ⟨op, r⟩).held = log.held ∧ ∀ held, CountsHeld c held → CountsHeld c' held := by
    subst hc
    exact ⟨congrArg LeaseLog.held hlog, fun _ h => h⟩
  cases op with
  | acquire tuple workloadScope =>
    match r, h, hsame with
    | .error _, h, hsame => exact .inr (.inr (hsame rfl h.2))
    | .ok (.rejected ..), ⟨now, h⟩, hsame =>
      rcases c.acquire_cases now tuple workloadScope with ⟨_, _, hc⟩ | hc
      · rw [hc] at h
        exact .inr (.inr (hsame rfl (Prod.mk.inj h).2.symm))
      · rw [hc] at h
        cases h
    | .ok (.allowed lease), ⟨now, h⟩, _ =>
      have hheld : log.granted = log.released := hpre
      exact .inl ⟨lease, by simp [LeaseLog.held, hheld], by simp [LeaseLog.held, LeaseLog.after, hheld],
        fun _ hcounts => hcounts.grant h⟩
  | release lease =>
    match r, h, hsame with
    | .error _, h, hsame => exact .inr (.inr (hsame rfl h.2))
    | .ok (), h, _ =>
      have hheld : log.granted = log.released ++ [lease] := hpre
      obtain rfl : c' = c.release lease := h
      exact .inr (.inl ⟨lease, by simp [LeaseLog.held, hheld],
        by simp [LeaseLog.held, LeaseLog.after, hheld], fun _ hcounts => hcounts.release⟩)
  | suppress tuple code suppressFamily =>
    match r, h, hsame with
    | .error _, h, hsame => exact .inr (.inr (hsame rfl h.2))
    | .ok (), ⟨now, h⟩, _ =>
      subst h
      exact .inr (.inr ⟨rfl, fun _ hcounts => ⟨hcounts.tuple, hcounts.family, hcounts.scope⟩⟩)
  | _ => exact .inr (.inr (hsame rfl h.2))

/-! ## The leases of all calls -/

theorem flatMap_range_perm {α : Type} (f : ℕ → List α) {n i : ℕ} (hi : i < n) :
    ((List.range n).flatMap f).Perm (f i ++ ((List.range n).erase i).flatMap f) :=
  (List.perm_cons_erase (List.mem_range.mpr hi)).flatMap_right f

theorem flatMap_range_update {α : Type} (f : ℕ → List α) {n i : ℕ} (hi : i < n) (xs : List α) :
    ((List.range n).flatMap (Function.update f i xs)).Perm
      (xs ++ ((List.range n).erase i).flatMap f) := by
  have h := flatMap_range_perm (Function.update f i xs) hi
  have hrest : ((List.range n).erase i).flatMap (Function.update f i xs) =
      ((List.range n).erase i).flatMap f := by
    refine List.flatMap_congr fun j hj => ?_
    have hne : j ≠ i := (List.Nodup.mem_erase_iff List.nodup_range |>.mp hj).1
    exact Function.update_of_ne hne xs f
  rwa [hrest, Function.update_self] at h

/-- The counts are those of the leases that the first `n` calls hold. -/
def CountsExact (n : ℕ) (c : AdmissionController) (logs : ℕ → LeaseLog) : Prop :=
  CountsHeld c ((List.range n).flatMap fun i => (logs i).held)

theorem CountsExact.step {n i : ℕ} {c c' : AdmissionController} {logs : ℕ → LeaseLog}
    {e : CallEvent} (h : CountsExact n c logs) (hi : i < n)
    (hpre : leaseProtocol.pre (logs i) e.op) (hstep : admissionStep c e c') :
    CountsExact n c' (Function.update logs i ((logs i).after e)) := by
  have hupdate : (fun j => (Function.update logs i ((logs i).after e) j).held) =
      Function.update (fun j => (logs j).held) i ((logs i).after e).held := by
    funext j
    by_cases hj : j = i
    · subst hj
      simp
    · simp [hj]
  have hbefore := flatMap_range_perm (fun j => (logs j).held) hi
  have hafter := flatMap_range_update (fun j => (logs j).held) hi ((logs i).after e).held
  unfold CountsExact at h ⊢
  rw [hupdate]
  rcases admissionStep_cases hstep hpre with
    ⟨lease, hheld, hheld', hc⟩ | ⟨lease, hheld, hheld', hc⟩ | ⟨hheld, hc⟩
  · rw [hheld] at hbefore
    rw [hheld'] at hafter ⊢
    exact (hc _ (h.perm hbefore)).perm hafter.symm
  · rw [hheld] at hbefore
    rw [hheld'] at hafter ⊢
    exact (hc _ (h.perm hbefore)).perm hafter.symm
  · rw [hheld] at hafter ⊢
    exact hc _ ((h.perm hbefore).perm hafter.symm)

/-! ## Runs of the gateway -/

abbrev GatewayPool := Pool AdmissionController Call Call.Res PyExc (Option TupleResult)

/-- Calls about to run on one controller, each with the settings its dispatcher has then. -/
def gatewayPool (controller : AdmissionController) (calls : List (Dispatcher × DispatchCall)) :
    GatewayPool where
  world := controller
  threads := calls.map fun x => x.2.program x.1

/-- The leases that call `i` was granted and released in a run. -/
def leasesOf (trace : List (ℕ × CallEvent)) (i : ℕ) : LeaseLog :=
  Pool.ghost leaseProtocol {} trace i

/-- The leases that the calls still running hold. -/
def heldByRunning (trace : List (ℕ × CallEvent)) (pool : GatewayPool) : List AdmissionLease :=
  (List.range pool.threads.length).flatMap fun i =>
    match pool.threads[i]? with
    | some (Prog.step ..) => (leasesOf trace i).held
    | _ => []

/-- A call that has ended has released every lease it was granted, once; no call releases what it
does not hold; the counts are those of the leases held by the calls still running. -/
structure LeasesExact (trace : List (ℕ × CallEvent)) (pool : GatewayPool) : Prop where
  ended : ∀ (i : ℕ) r, pool.threads[i]? = some (.done r) →
    (leasesOf trace i).granted = (leasesOf trace i).released
  released : ∀ i, (leasesOf trace i).released <+: (leasesOf trace i).granted
  counts : CountsHeld pool.world (heldByRunning trace pool)

theorem DispatchCall.balanced (d : Dispatcher) (c : DispatchCall) :
    (c.program d).Stays leaseProtocol Dispatcher.Balanced := by
  cases c with
  | sync plan =>
    exact (d.executeSync_balanced (fun _ => recorderStays_none _ _) plan).bind fun _ =>
      Prog.stays_done _
  | job jobId plan =>
    exact (d.executeSync_balanced (fun _ => recorderStays_leaseProtocol _ jobId) plan).bind
      fun _ => Prog.stays_done _
  | stream plan => exact (d.executeStream_balanced plan).bind fun _ => Prog.stays_done _

theorem released_prefix_step {log : LeaseLog} {e : CallEvent} (h : log.released <+: log.granted)
    (hpre : leaseProtocol.pre log e.op) : (log.after e).released <+: (log.after e).granted := by
  unfold LeaseLog.after
  split
  · exact h.trans (List.prefix_append _ _)
  · have hheld : log.granted = log.released ++ [_] := hpre
    exact hheld ▸ List.prefix_refl _
  · exact h

theorem possible_of_admissionStep {c c' : AdmissionController} {e : CallEvent}
    (h : admissionStep c e c') : Possible e := by
  obtain ⟨op, r⟩ := e
  cases op with
  | acquire => cases r <;> trivial
  | release => cases r <;> trivial
  | suppress => cases r <;> trivial
  | _ => exact h.1

/-- The counts of all calls, and that each call releases in the order in which it was granted. -/
structure GatewayInv (n : ℕ) (c : AdmissionController) (logs : ℕ → LeaseLog) : Prop where
  counts : CountsExact n c logs
  released : ∀ i, (logs i).released <+: (logs i).granted

theorem GatewayInv.init (n : ℕ) (tupleFamilies : Dict String)
    (tupleLimit familyLimit workloadScopeLimit : ℕ) (cooldownSeconds : ℚ) :
    GatewayInv n (.new tupleFamilies tupleLimit familyLimit workloadScopeLimit cooldownSeconds)
      fun _ => {} := by
  have hheld : ((List.range n).flatMap fun _ => LeaseLog.held {}) = [] := by simp [LeaseLog.held]
  refine ⟨?_, fun _ => List.prefix_refl _⟩
  unfold CountsExact
  rw [hheld]
  exact ⟨fun _ => rfl, fun _ => rfl, fun _ => rfl⟩

theorem GatewayInv.step {n i : ℕ} {c c' : AdmissionController} {logs : ℕ → LeaseLog}
    {e : CallEvent} (h : GatewayInv n c logs) (hi : i < n)
    (hpre : leaseProtocol.pre (logs i) e.op) (hstep : admissionStep c e c') :
    GatewayInv n c' (Function.update logs i ((logs i).after e)) := by
  refine ⟨h.counts.step hi hpre hstep, fun j => ?_⟩
  by_cases hj : j = i
  · subst hj
    simpa using released_prefix_step (h.released j) hpre
  · simpa [hj] using h.released j

theorem heldByRunning_eq {trace : List (ℕ × CallEvent)} {pool : GatewayPool}
    (hended : ∀ (i : ℕ) r, pool.threads[i]? = some (.done r) →
      (leasesOf trace i).granted = (leasesOf trace i).released) :
    heldByRunning trace pool =
      (List.range pool.threads.length).flatMap fun i => (leasesOf trace i).held := by
  refine List.flatMap_congr fun i hi => ?_
  obtain ⟨p, hp⟩ : ∃ p, pool.threads[i]? = some p :=
    ⟨_, List.getElem?_eq_getElem (List.mem_range.mp hi)⟩
  rw [hp]
  cases p with
  | step op k => rfl
  | done r => simp [LeaseLog.held, hended i r hp]

/-- **No lease is leaked or released twice.** In every run in which no step of a `finally` block
fails, of any number of calls on one controller, the leases are exact. -/
theorem leases_exact (tupleFamilies : Dict String)
    (tupleLimit familyLimit workloadScopeLimit : ℕ) (cooldownSeconds : ℚ)
    (calls : List (Dispatcher × DispatchCall)) (trace : List (ℕ × CallEvent)) (pool : GatewayPool)
    (hrun : Pool.Run admissionStep (gatewayPool (.new tupleFamilies tupleLimit familyLimit
      workloadScopeLimit cooldownSeconds) calls) trace pool)
    (hfault : ∀ x ∈ trace, CleanupFault x.2 = false) : LeasesExact trace pool := by
  have hthreads : ∀ p ∈ (gatewayPool (.new tupleFamilies tupleLimit familyLimit
      workloadScopeLimit cooldownSeconds) calls).threads,
      p.wp leaseProtocol (fun _ log => log.granted = log.released) {} := by
    intro p hp
    obtain ⟨x, -, rfl⟩ := List.mem_map.mp hp
    exact x.2.balanced x.1 {} rfl
  have hallowed : ∀ x ∈ trace, ∀ log, leaseProtocol.allowed log x.2 := by
    intro x hx _
    obtain ⟨_, _, hstep⟩ := hrun.exists_step hx
    exact ⟨possible_of_admissionStep hstep, hfault x hx⟩
  obtain ⟨hwp, hinv⟩ := hrun.invariant leaseProtocol hthreads (GatewayInv.init _ _ _ _ _ _)
    (fun hI hi hpre _ hw => hI.step hi hpre hw) hallowed
  have hended (i : ℕ) (r : Except PyExc (Option TupleResult))
      (hi : pool.threads[i]? = some (.done r)) :
      (leasesOf trace i).granted = (leasesOf trace i).released := hwp i _ hi
  refine ⟨hended, hinv.released, ?_⟩
  rw [heldByRunning_eq hended, hrun.length_threads]
  exact hinv.counts

/-- The answers of a controller and of an adapter that succeed; the audit trail fails on `failing`. -/
def echoAnswer (failing : String) (op : Call) (c : AdmissionController) :
    Option (Except PyExc op.Res × AdmissionController) :=
  match op with
  | .acquire tuple workloadScope => some (.ok (c.acquire 0 tuple workloadScope).1,
      (c.acquire 0 tuple workloadScope).2)
  | .release lease => some (.ok (), c.release lease)
  | .monotonic => some (.ok 0, c)
  | .utcNow => some (.ok midnight, c)
  | .isAvailable _ => some (.ok true, c)
  | .start tuple _ => some (.ok { tuple, remoteId := "remote-1" }, c)
  | .wait .. => some (.ok { kind := .inline, value := some "ok" }, c)
  | .validateOutput _ result => some (.ok result, c)
  | .recordObservation .. => some (.ok (), c)
  | .cancelRemote .. => some (.ok (), c)
  | .audit event =>
    if event.eventType = failing then some (.error (.exception "OSError"), c) else some (.ok (), c)
  | _ => none

theorem admissionStep_echoAnswer {failing : String} {op : Call} {c : AdmissionController}
    {r : Except PyExc op.Res} {c' : AdmissionController}
    (h : echoAnswer failing op c = some (r, c')) : admissionStep c ⟨op, r⟩ c' := by
  cases op with
  | acquire tuple workloadScope =>
    cases h
    exact ⟨0, rfl⟩
  | audit event =>
    unfold echoAnswer at h
    dsimp only at h
    split at h <;> cases h <;> exact ⟨trivial, rfl⟩
  | release | monotonic | utcNow | isAvailable | start | wait | validateOutput
  | recordObservation | cancelRemote =>
    cases h
    first | rfl | exact ⟨trivial, rfl⟩
  | _ => cases h

/-- One call of `execute_sync` on a controller with the default limits. -/
def echoPool : GatewayPool := gatewayPool (.new {} 1 2 4 60) [(echoDispatcher, .sync echoPlan)]

/-- The run of that call with the given answers. -/
def echoRun (failing : String) : GatewayPool × List (ℕ × CallEvent) :=
  Pool.exec (echoAnswer failing) (List.replicate 20 0) echoPool []

theorem run_echoRun (failing : String) :
    Pool.Run admissionStep echoPool (echoRun failing).2 (echoRun failing).1 :=
  Pool.Run.nil.exec admissionStep_echoAnswer _

theorem leases_exact_echo :
    (leasesOf (echoRun "").2 0).granted = [⟨"echo", "echo", some "infer:infer-standard:sync"⟩] ∧
      LeasesExact (echoRun "").2 (echoRun "").1 := by
  refine ⟨by decide +kernel, ?_⟩
  exact leases_exact {} 1 2 4 60 [(echoDispatcher, .sync echoPlan)] _ _ (run_echoRun "")
    (by decide +kernel)

/-- When the audit entry after a cleanup fails, the call ends and its lease is never released. -/
theorem not_leasesAlwaysExact :
    ¬ ∀ (tupleFamilies : Dict String) (tupleLimit familyLimit workloadScopeLimit : ℕ)
      (cooldownSeconds : ℚ) (calls : List (Dispatcher × DispatchCall))
      (trace : List (ℕ × CallEvent)) (pool : GatewayPool),
      Pool.Run admissionStep (gatewayPool (.new tupleFamilies tupleLimit familyLimit
        workloadScopeLimit cooldownSeconds) calls) trace pool → LeasesExact trace pool := by
  intro h
  have hexact := h {} 1 2 4 60 [(echoDispatcher, .sync echoPlan)] _ _ (run_echoRun "lease.cleaned_up")
  have hgranted := hexact.ended 0 _ rfl
  revert hgranted
  decide +kernel

end Gpucall
