import Mathlib.Data.List.Perm.Basic
import Gpucall.Tenant.Session

/-! Threads on the one connection of `PostgresTenantUsageLedger`. The advisory lock does not exclude
the threads of one session, so another thread's statements may come between the checks and the insert
of a reservation, and one thread's `rollback` or `commit` ends the other's transaction. The calls are
serializable in every run that keeps them apart (`serializable_of_isolated`): no statement of a call
runs while another call is between its first statement and its `commit` or `rollback`, settlements of
plans excepted. -/

namespace Gpucall

open Effects

/-! ## Threads -/

/-- Where a call is in its transaction: before its first statement, in it, or past its `commit` or
`rollback`. -/
inductive TxnPhase where
  | fresh | running | ended
  deriving DecidableEq

def SessionOp.phase : SessionOp → TxnPhase → TxnPhase
  | select _ _, phase => phase
  | lock _, _ | update _ _, _ | insert _, _ => .running
  | commit, _ | rollback, _ => .ended

/-- A call some thread makes, and what is left of its program. -/
structure SessionThread where
  call : LedgerCall
  prog : SessionM (Option ℚ≥0)
  phase : TxnPhase := .fresh

def SessionThread.result? (th : SessionThread) : Option (Except LedgerError (Option ℚ≥0)) :=
  match th.prog with
  | .done r => some r
  | .step _ _ => none

/-- Let the thread run its next statement. -/
def SessionThread.step (th : SessionThread) (s : Session) : SessionThread × Session :=
  match th.prog with
  | .done _ => (th, s)
  | .step op k =>
    ({ th with prog := k (op.handle s).1, phase := op.phase th.phase }, (op.handle s).2)

structure SessionPool where
  session : Session
  threads : List SessionThread

def SessionPool.start (cfg : LedgerConfig) (t : UsageTable) (calls : List LedgerCall) :
    SessionPool where
  session := .clean t
  threads := calls.map fun call => { call := call, prog := call.prog cfg }

def SessionPool.step (w : SessionPool) (i : ℕ) : SessionPool :=
  match w.threads[i]? with
  | none => w
  | some th => ⟨(th.step w.session).2, w.threads.set i (th.step w.session).1⟩

/-- A schedule says which thread runs next. -/
def SessionPool.run (w : SessionPool) (schedule : List ℕ) : SessionPool :=
  schedule.foldl SessionPool.step w

/-! ## Serializability -/

/-- The row a call has added when it returned. -/
def LedgerCall.outcomeRow (call : LedgerCall) :
    Except LedgerError (Option ℚ≥0) → Option UsageRow
  | .ok _ => call.reservedRow
  | .error _ => none

/-- The row of a reservation that returned. -/
def SessionThread.returnedRow (th : SessionThread) : Option UsageRow :=
  th.result?.bind th.call.outcomeRow

/-- A row up to its status. -/
def UsageRow.reservation (r : UsageRow) : UsageRow := { r with status := .reserved }

/-- When all calls have ended, the committed table is the one some serial order of them gives. At any
time its rows are those it had at the start and those of the reservations that returned, and every
ceiling that held at the start holds. -/
structure SessionPool.Serializable (cfg : LedgerConfig) (t : UsageTable) (calls : List LedgerCall)
    (w : SessionPool) : Prop where
  serial : (∀ th ∈ w.threads, th.result? ≠ none) → ∃ order : List LedgerCall, order.Perm calls ∧
    w.session.committed = (serialRun cfg (.clean t) order).committed
  rows : (w.session.committed.map UsageRow.reservation).Perm
    (t.map UsageRow.reservation ++ w.threads.filterMap SessionThread.returnedRow)
  ceilings : ∀ tenantId spec, cfg.tenants tenantId = some spec → WithinCeilings spec tenantId t →
    WithinCeilings spec tenantId w.session.committed

/-- Every interleaving of ledger calls is serializable once all calls have ended. -/
def SessionsSerializable : Prop :=
  ∀ (cfg : LedgerConfig) (t : UsageTable) (calls : List LedgerCall) (schedule : List ℕ),
    (∀ th ∈ ((SessionPool.start cfg t calls).run schedule).threads, th.result? ≠ none) →
      ((SessionPool.start cfg t calls).run schedule).Serializable cfg t calls

/-- `release_plan` and `commit_plan` -/
def LedgerCall.isSettlement : LedgerCall → Bool
  | .releasePlan _ | .commitPlan _ => true
  | _ => false

/-- The call has run a statement and not yet ended its transaction. -/
def SessionThread.inTransaction (th : SessionThread) : Bool :=
  th.phase = .running && th.result?.isNone

/-- The next statement of thread `i` stands outside every other call's transaction, or is a read past
its own call's `commit`, or only settlements are under way. -/
def SessionPool.Isolated (w : SessionPool) (i : ℕ) : Prop :=
  ∀ th ∈ w.threads[i]?, th.phase ≠ .ended → th.result?.isNone →
    ∀ other ∈ w.threads.eraseIdx i, other.inTransaction →
      th.call.isSettlement ∧ other.call.isSettlement

def SessionPool.IsolatedRun (w : SessionPool) : List ℕ → Prop
  | [] => True
  | i :: schedule => w.Isolated i ∧ (w.step i).IsolatedRun schedule

instance (w : SessionPool) (i : ℕ) : Decidable (w.Isolated i) :=
  inferInstanceAs (Decidable (∀ th ∈ w.threads[i]?, _))

instance SessionPool.decidableIsolatedRun :
    (w : SessionPool) → (schedule : List ℕ) → Decidable (w.IsolatedRun schedule)
  | _, [] => .isTrue trivial
  | w, i :: schedule =>
    haveI := decidableIsolatedRun (w.step i) schedule
    inferInstanceAs (Decidable (w.Isolated i ∧ (w.step i).IsolatedRun schedule))

/-! ## Tables along a serial run -/

variable {cfg : LedgerConfig} {t t' : UsageTable} {s T : Session} {call : LedgerCall}
  {th th' other : SessionThread} {rest : List SessionThread} {rows rows' : List UsageRow}

/-- A table with the rows of `t₀` and `rows`, up to their status, within the ceilings that `t₀`
keeps. -/
structure Sound (cfg : LedgerConfig) (t₀ : UsageTable) (rows : List UsageRow) (t : UsageTable) :
    Prop where
  rows : (t.map UsageRow.reservation).Perm (t₀.map UsageRow.reservation ++ rows)
  ceilings : ∀ tenantId spec, cfg.tenants tenantId = some spec → WithinCeilings spec tenantId t₀ →
    WithinCeilings spec tenantId t

theorem sound_start (cfg : LedgerConfig) (t : UsageTable) : Sound cfg t [] t where
  rows := by rw [List.append_nil]
  ceilings _ _ _ h := h

theorem Sound.perm (h : Sound cfg t₀ rows t) (hp : rows.Perm rows') : Sound cfg t₀ rows' t where
  rows := h.rows.trans (hp.append_left _)
  ceilings := h.ceilings

theorem UsageRow.Settles.reservation_eq (h : UsageRow.Settles r r') :
    r'.reservation = r.reservation := by
  cases h <;> rfl

theorem Settles.map_reservation (h : Settles t t') :
    t'.map UsageRow.reservation = t.map UsageRow.reservation := by
  induction h with
  | nil => rfl
  | cons hr _ ih => rw [List.map_cons, List.map_cons, hr.reservation_eq, ih]

theorem Sound.settles (h : Sound cfg t₀ rows t) (hs : Settles t t') : Sound cfg t₀ rows t' where
  rows := hs.map_reservation ▸ h.rows
  ceilings tenantId spec hspec h₀ := (h.ceilings tenantId spec hspec h₀).settles hs

theorem Sound.append {args : ReserveArgs} (h : Sound cfg t₀ rows t)
    (hb : budgetError (cfg.tenants args.tenantId) args now t = none) :
    Sound cfg t₀ (rows ++ [args.row now]) (t ++ [args.row now]) where
  rows := by
    rw [List.map_append, ← List.append_assoc]
    exact h.rows.append_right _
  ceilings tenantId spec hspec h₀ :=
    (h.ceilings tenantId spec hspec h₀).append hspec hb

/-- A call run alone keeps both tables of the session sound, with its row when it returned. -/
theorem Sound.serial (hc : Sound cfg t₀ rows s.committed) (hw : Sound cfg t₀ rows s.working)
    (call : LedgerCall) :
    Sound cfg t₀ (rows ++ (call.outcomeRow (call.serial cfg s).1).toList)
        (call.serial cfg s).2.committed ∧
      Sound cfg t₀ (rows ++ (call.outcomeRow (call.serial cfg s).1).toList)
        (call.serial cfg s).2.working := by
  rcases call.serial_cases cfg s with
    ⟨e, t', h, ht'⟩ | ⟨hrow, v, h⟩ | ⟨hrow, v, t', h, hs⟩ | ⟨now, jobs, args, t', rfl, hs, hb, h⟩
  · rw [h]
    simp only [LedgerCall.outcomeRow, Option.toList_none, List.append_nil]
    rcases ht' with rfl | hs
    · exact ⟨hc, hc⟩
    · exact ⟨hc, hw.settles hs⟩
  · rw [h]
    simp only [LedgerCall.outcomeRow, hrow, Option.toList_none, List.append_nil]
    exact ⟨hc, hw⟩
  · rw [h]
    simp only [LedgerCall.outcomeRow, hrow, Option.toList_none, List.append_nil]
    exact ⟨hw.settles hs, hw.settles hs⟩
  · rw [h]
    exact ⟨(hw.settles hs).append hb, (hw.settles hs).append hb⟩

/-! ## The shape of the programs -/

/-- What is left of a call past its `commit` or `rollback`: nothing, or the read of `spend_since`. -/
inductive Closed (call : LedgerCall) : SessionM (Option ℚ≥0) → Prop
  | done : Closed call (.done r)
  | read {k : Except LedgerError ℚ≥0 → SessionM (Option ℚ≥0)} : call.reservedRow = none →
    (∀ r, ∃ r', k r = .done r') → Closed call (.step (.select tenantId since) k)

/-- A program that is closed once it has run its `commit` or `rollback`. -/
inductive Transactional (call : LedgerCall) : SessionM (Option ℚ≥0) → Prop
  | done : Transactional call (.done r)
  | close {k : Except LedgerError op.Res → SessionM (Option ℚ≥0)} : op = .commit ∨ op = .rollback →
    (∀ r, Closed call (k r)) → Transactional call (.step op k)
  | statement {k : Except LedgerError op.Res → SessionM (Option ℚ≥0)} : op ≠ .commit →
    op ≠ .rollback → (∀ r, Transactional call (k r)) → Transactional call (.step op k)

theorem Closed.run_snd (h : Closed call p) (s : Session) : (p.run SessionOp.handle s).2 = s := by
  cases h with
  | done => rfl
  | read _ hk =>
    rw [Prog.run_step]
    obtain ⟨r', h⟩ := hk (SessionOp.handle (.select _ _) s).1
    rw [h]
    rfl

theorem Transactional.execute_bind {g : SessionOp.Res op → SessionM (Option ℚ≥0)}
    (hc : op ≠ .commit) (hr : op ≠ .rollback) (h : ∀ r, Transactional call (g r)) :
    Transactional call (execute op >>= g) := by
  refine .statement hc hr fun r => ?_
  cases r with
  | error e => exact .done
  | ok r => exact h r

section
variable {f : Unit → SessionM (Option ℚ≥0)} (h : Transactional call (f ()))
include h

theorem Transactional.reconcile_bind :
    Transactional call (reconcileReservationsCur setting jobs now >>= f) := by
  rw [reconcileReservationsCur, bind_assoc]
  refine .execute_bind (by simp) (by simp) fun _ => ?_
  rw [bind_assoc]
  refine .execute_bind (by simp) (by simp) fun _ => ?_
  rcases staleReservationCutoff setting now with e | _ | cutoff
  · exact .done
  · exact h
  · exact .execute_bind (by simp) (by simp) fun _ => h

/-- A failed check rolls back and ends the call. -/
theorem Transactional.check_bind (p : Prop) [Decidable p] :
    Transactional call ((if p then rollbackAndRaise e else pure ()) >>= f) := by
  split
  · refine .close (.inr rfl) fun r => ?_
    cases r <;> exact .done
  · exact h

theorem Transactional.checkBudget_bind :
    Transactional call (checkBudget budget error args since >>= f) := by
  cases budget with
  | none => exact h
  | some budget =>
    simp only [checkBudget]
    rw [bind_assoc]
    exact .execute_bind (by simp) (by simp) fun _ => h.check_bind _

theorem Transactional.checkTenant_bind :
    Transactional call (checkTenant tenant args now >>= f) := by
  cases tenant with
  | none => exact h
  | some tenant =>
    simp only [checkTenant, bind_assoc]
    cases hl : tenant.maxRequestEstimatedCostUsd with
    | none => exact (h.checkBudget_bind).checkBudget_bind
    | some limit => exact (h.checkBudget_bind).checkBudget_bind.check_bind _

end

theorem closed_commit (hc : ∀ r, Closed call (f r)) :
    Transactional call (execute .commit >>= f) := by
  refine .close (.inl rfl) fun r => ?_
  cases r with
  | error e => exact .done
  | ok r => exact hc r

theorem prog_transactional (cfg : LedgerConfig) (call : LedgerCall) :
    Transactional call (call.prog cfg) := by
  cases call with
  | releasePlan planId =>
    simp only [LedgerCall.prog, settlePlanCur]
    split
    · exact .done
    · exact .done
    · exact .execute_bind (by simp) (by simp) fun _ => closed_commit fun _ => .done
  | commitPlan planId =>
    simp only [LedgerCall.prog, settlePlanCur]
    split
    · exact .done
    · exact .done
    · exact .execute_bind (by simp) (by simp) fun _ => closed_commit fun _ => .done
  | spendSince now jobs tenantId since =>
    refine Transactional.reconcile_bind (closed_commit fun _ => .read rfl fun r => ?_)
    cases r <;> exact ⟨_, rfl⟩
  | reconcileReservations now jobs =>
    exact Transactional.reconcile_bind (closed_commit fun _ => .done)
  | reserveWithBudget now jobs args =>
    refine .execute_bind (by simp) (by simp) fun _ => ?_
    refine Transactional.reconcile_bind (Transactional.checkTenant_bind ?_)
    exact .execute_bind (by simp) (by simp) fun _ => closed_commit fun _ => .done

/-! ## The invariant -/

/-- What is left of a settlement past its update. -/
def commitTail : SessionM (Option ℚ≥0) := execute .commit >>= fun _ => pure none

/-- A settlement is its update and a `commit`, or nothing. -/
theorem settlement_prog (cfg : LedgerConfig) (h : call.isSettlement) :
    call.prog cfg = .done (.ok none) ∨ ∃ status p,
      call.prog cfg = execute (.update status p) >>= fun _ => commitTail := by
  have hcur (status : UsageStatus) (planId : Option String) :
      settlePlanCur status planId = .done (.ok none) ∨ ∃ status' p,
        settlePlanCur status planId = execute (.update status' p) >>= fun _ => commitTail := by
    unfold settlePlanCur
    split
    · exact .inl rfl
    · exact .inl rfl
    · exact .inr ⟨_, _, rfl⟩
  cases call with
  | releasePlan planId => exact hcur ..
  | commitPlan planId => exact hcur ..
  | reserveWithBudget _ _ _ | spendSince _ _ _ _ | reconcileReservations _ _ => simp [LedgerCall.isSettlement] at h

/-- Any other call starts with the lock or the first update of the sweep. -/
theorem exclusive_prog (cfg : LedgerConfig) (h : call.isSettlement = false) :
    ∃ op k, call.prog cfg = .step op k ∧ ∀ phase, op.phase phase = .running := by
  cases call with
  | releasePlan planId => simp [LedgerCall.isSettlement] at h
  | commitPlan planId => simp [LedgerCall.isSettlement] at h
  | reserveWithBudget now jobs args => exact ⟨.lock args.tenantId, _, rfl, fun _ => rfl⟩
  | spendSince now jobs tenantId since => exact ⟨.update _ _, _, rfl, fun _ => rfl⟩
  | reconcileReservations now jobs => exact ⟨.update _ _, _, rfl, fun _ => rfl⟩

/-- What a thread has left, by its phase. -/
def SessionThread.Ok (cfg : LedgerConfig) (th : SessionThread) : Prop :=
  match th.phase with
  | .fresh => th.prog = th.call.prog cfg
  | .running => if th.call.isSettlement then th.prog = commitTail else Transactional th.call th.prog
  | .ended => Closed th.call th.prog

/-- The call has its place in the serial order: a settlement with its update, another call with the
end of its transaction. -/
def SessionThread.linearized (th : SessionThread) : Bool :=
  th.result?.isSome || th.phase = .ended || (th.phase = .running && th.call.isSettlement)

/-- How the session stands to the session `T` of a serial run. Either only settlements are under way:
then the session sees the table of `T`, and has committed it unless one of them is still to do so. Or
one other call is, and the rest of its program does from here what the call alone does from `T`. -/
inductive Agrees (cfg : LedgerConfig) (T s : Session) (threads : List SessionThread) : Prop
  | shared : (∀ th ∈ threads, th.inTransaction → th.call.isSettlement) → s.working = T.working →
    (s.committed = T.committed ∨ ∃ th ∈ threads, th.inTransaction) →
    ((∃ th ∈ threads, th.inTransaction) → T.committed = T.working) → Agrees cfg T s threads
  | exclusive {th : SessionThread} : threads.filter SessionThread.inTransaction = [th] →
    th.call.isSettlement = false → th.prog.run SessionOp.handle s = th.call.serial cfg T →
    s.committed = T.committed → Agrees cfg T s threads

structure PoolInv (cfg : LedgerConfig) (t : UsageTable) (calls : List LedgerCall) (s : Session)
    (threads : List SessionThread) : Prop where
  sameCalls : (threads.map (·.call)).Perm calls
  threadsOk : ∀ th ∈ threads, th.Ok cfg
  committed : Sound cfg t (threads.filterMap SessionThread.returnedRow) s.committed
  serial : ∃ order : List LedgerCall,
    order.Perm ((threads.filter SessionThread.linearized).map (·.call)) ∧
    Sound cfg t (threads.filterMap SessionThread.returnedRow)
      (serialRun cfg (.clean t) order).committed ∧
    Sound cfg t (threads.filterMap SessionThread.returnedRow)
      (serialRun cfg (.clean t) order).working ∧
    Agrees cfg (serialRun cfg (.clean t) order) s threads

theorem Agrees.perm (h : Agrees cfg T s threads) (hp : threads.Perm threads') :
    Agrees cfg T s threads' := by
  cases h with
  | shared h₁ h₂ h₃ h₄ =>
    refine .shared (fun th hth => h₁ th (hp.mem_iff.mpr hth)) h₂ ?_ ?_
    · simpa only [hp.mem_iff] using h₃
    · simpa only [hp.mem_iff] using h₄
  | exclusive h₁ h₂ h₃ h₄ =>
    have hp' := hp.symm.filter SessionThread.inTransaction
    rw [h₁] at hp'
    exact .exclusive (List.perm_singleton.mp hp') h₂ h₃ h₄

theorem PoolInv.perm (h : PoolInv cfg t calls s threads) (hp : threads.Perm threads') :
    PoolInv cfg t calls s threads' where
  sameCalls := (hp.map _).symm.trans h.sameCalls
  threadsOk th hth := h.threadsOk th (hp.mem_iff.mpr hth)
  committed := h.committed.perm (hp.filterMap _)
  serial := by
    obtain ⟨order, horder, hc, hw, ha⟩ := h.serial
    exact ⟨order, horder.trans ((hp.filter _).map _), hc.perm (hp.filterMap _),
      hw.perm (hp.filterMap _), ha.perm hp⟩

theorem Agrees.exclusive_unique (h : Agrees cfg T s (th :: rest)) (hth : th.inTransaction)
    (hs : th.call.isSettlement = false) :
    (∀ other ∈ rest, other.inTransaction = false) ∧
      th.prog.run SessionOp.handle s = th.call.serial cfg T ∧ s.committed = T.committed := by
  cases h with
  | shared h₁ _ _ _ => simp [h₁ th (by simp) hth] at hs
  | exclusive hone _ hrun hc =>
    rw [List.filter_cons_of_pos hth] at hone
    obtain ⟨rfl, hrest⟩ := List.cons.inj hone
    refine ⟨fun other ho => ?_, hrun, hc⟩
    simpa using List.filter_eq_nil_iff.mp hrest other ho

/-- With only settlements under way beside it, a thread outside a transaction sees the shared case. -/
theorem Agrees.shared_of_isolated (h : Agrees cfg T s (th :: rest)) (hth : th.inTransaction = false)
    (hrest : ∀ other ∈ rest, other.inTransaction → other.call.isSettlement) :
    s.working = T.working ∧ (s.committed = T.committed ∨ ∃ th ∈ rest, th.inTransaction) := by
  cases h with
  | shared _ h₂ h₃ _ =>
    refine ⟨h₂, h₃.imp_right ?_⟩
    rintro ⟨other, ho, htx⟩
    rcases List.mem_cons.mp ho with rfl | ho
    · rw [hth] at htx
      contradiction
    · exact ⟨other, ho, htx⟩
  | @exclusive th' hone hs _ _ =>
    rw [List.filter_cons_of_neg (by simp [hth])] at hone
    have hmem : th' ∈ rest.filter SessionThread.inTransaction := by simp [hone]
    obtain ⟨hmem, htx⟩ := List.mem_filter.mp hmem
    rw [hrest th' hmem htx] at hs
    contradiction

theorem filterMap_returnedRow_congr (rest : List SessionThread)
    (h : th'.returnedRow = th.returnedRow) :
    (th' :: rest).filterMap SessionThread.returnedRow =
      (th :: rest).filterMap SessionThread.returnedRow := by
  rw [List.filterMap_cons, List.filterMap_cons, h]

theorem returnedRow_of_result?_eq_none (h : th.result? = none) : th.returnedRow = none := by
  simp [SessionThread.returnedRow, h]

theorem result?_of_linearized_eq_false (h : th.linearized = false) : th.result? = none := by
  unfold SessionThread.linearized at h
  cases hr : th.result? with
  | none => rfl
  | some r => simp [hr] at h

theorem PoolInv.replace (h : PoolInv cfg t calls s (th :: rest)) (hcall : th'.call = th.call)
    (hok : th'.Ok cfg) :
    ((th' :: rest).map (·.call)).Perm calls ∧ ∀ th₁ ∈ th' :: rest, th₁.Ok cfg := by
  refine ⟨?_, fun th₁ h₁ => ?_⟩
  · have hsame := h.sameCalls
    rwa [List.map_cons, ← hcall] at hsame
  · rcases List.mem_cons.mp h₁ with rfl | h₁
    · exact hok
    · exact h.threadsOk th₁ (List.mem_cons_of_mem _ h₁)

section
variable {calls order : List LedgerCall} (h : PoolInv cfg t calls s (th :: rest))
  (horder : order.Perm (((th :: rest).filter SessionThread.linearized).map (·.call)))
  (hc : Sound cfg t ((th :: rest).filterMap SessionThread.returnedRow)
    (serialRun cfg (.clean t) order).committed)
  (hw : Sound cfg t ((th :: rest).filterMap SessionThread.returnedRow)
    (serialRun cfg (.clean t) order).working)

include hc hw in
/-- The tables with one more call in the serial order. -/
theorem sound_linearized (hnew : th.linearized = false)
    (hrow : th'.returnedRow =
      th.call.outcomeRow (th.call.serial cfg (serialRun cfg (.clean t) order)).1) :
    Sound cfg t ((th' :: rest).filterMap SessionThread.returnedRow)
        (th.call.serial cfg (serialRun cfg (.clean t) order)).2.committed ∧
      Sound cfg t ((th' :: rest).filterMap SessionThread.returnedRow)
        (th.call.serial cfg (serialRun cfg (.clean t) order)).2.working := by
  have hnone := returnedRow_of_result?_eq_none (result?_of_linearized_eq_false hnew)
  have hrows : (rest.filterMap SessionThread.returnedRow ++ th'.returnedRow.toList).Perm
      ((th' :: rest).filterMap SessionThread.returnedRow) := by
    cases hr : th'.returnedRow with
    | none => simp [hr]
    | some r =>
      rw [List.filterMap_cons_some hr]
      exact List.perm_append_singleton ..
  rw [List.filterMap_cons_none hnone] at hc hw
  have hsound := hc.serial hw th.call
  rw [← hrow] at hsound
  exact ⟨hsound.1.perm hrows, hsound.2.perm hrows⟩

include h horder hc hw

/-- A thread that takes its place in the serial order. -/
theorem PoolInv.linearize (hnew : th.linearized = false) (hnew' : th'.linearized = true)
    (hcall : th'.call = th.call) (hok : th'.Ok cfg)
    (hrow : th'.returnedRow =
      th.call.outcomeRow (th.call.serial cfg (serialRun cfg (.clean t) order)).1)
    (hcommitted : Sound cfg t ((th' :: rest).filterMap SessionThread.returnedRow) s'.committed)
    (hagrees : Agrees cfg (th.call.serial cfg (serialRun cfg (.clean t) order)).2 s' (th' :: rest)) :
    PoolInv cfg t calls s' (th' :: rest) := by
  obtain ⟨hc', hw'⟩ := sound_linearized hc hw hnew hrow
  obtain ⟨hsame, hoks⟩ := h.replace hcall hok
  refine ⟨hsame, hoks, hcommitted, order ++ [th.call], ?_, ?_⟩
  · rw [List.filter_cons_of_neg (by simp [hnew])] at horder
    rw [List.filter_cons_of_pos hnew', List.map_cons, hcall]
    exact (List.perm_append_singleton ..).trans (horder.cons _)
  · rw [serialRun_append_singleton]
    exact ⟨hc', hw', hagrees⟩

/-- A thread that goes on without changing its place in the serial order. -/
theorem PoolInv.keep (hcall : th'.call = th.call) (hok : th'.Ok cfg)
    (hlin : th'.linearized = th.linearized) (hrow : th'.returnedRow = th.returnedRow)
    (hcommitted : Sound cfg t ((th :: rest).filterMap SessionThread.returnedRow) s'.committed)
    (hagrees : Agrees cfg (serialRun cfg (.clean t) order) s' (th' :: rest)) :
    PoolInv cfg t calls s' (th' :: rest) := by
  have hrows := filterMap_returnedRow_congr rest hrow
  have hfilter : ((th' :: rest).filter SessionThread.linearized).map (·.call) =
      ((th :: rest).filter SessionThread.linearized).map (·.call) := by
    rw [List.filter_cons, List.filter_cons, hlin]
    split
    · rw [List.map_cons, List.map_cons, hcall]
    · rfl
  obtain ⟨hsame, hoks⟩ := h.replace hcall hok
  exact ⟨hsame, hoks, hrows ▸ hcommitted, order, hfilter ▸ horder, hrows ▸ hc, hrows ▸ hw, hagrees⟩

end

theorem Agrees.congr (h : Agrees cfg T s (th :: rest)) (hth : th.inTransaction = false)
    (hth' : th'.inTransaction = false) : Agrees cfg T s (th' :: rest) := by
  cases h with
  | shared h₁ h₂ h₃ h₄ =>
    refine .shared ?_ h₂ ?_ ?_
    · intro other ho htx
      rcases List.mem_cons.mp ho with rfl | ho
      · rw [hth'] at htx
        contradiction
      · exact h₁ other (List.mem_cons_of_mem _ ho) htx
    · simpa [hth, hth'] using h₃
    · simpa [hth, hth'] using h₄
  | exclusive hone hs hrun hc =>
    rw [List.filter_cons_of_neg (by simp [hth])] at hone
    exact .exclusive (by rwa [List.filter_cons_of_neg (by simp [hth'])]) hs hrun hc

theorem result?_of_step (h : th.prog = .step op k) : th.result? = none := by
  simp [SessionThread.result?, h]

theorem returnedRow_of_reservedRow_eq_none (h : th.call.reservedRow = none) :
    th.returnedRow = none := by
  unfold SessionThread.returnedRow
  rcases th.result? with _ | e | v
  · rfl
  · rfl
  · exact h

theorem returnedRow_congr (h : th.call.reservedRow = none) (hcall : th'.call = th.call) :
    th'.returnedRow = th.returnedRow :=
  (returnedRow_of_reservedRow_eq_none (hcall ▸ h)).trans
    (returnedRow_of_reservedRow_eq_none h).symm

theorem LedgerCall.reservedRow_of_isSettlement (h : call.isSettlement) :
    call.reservedRow = none := by
  cases call <;> first | rfl | simp [isSettlement] at h

/-- The read of `spend_since` past its `commit`. -/
theorem PoolInv.step_ended (h : PoolInv cfg t calls s (th :: rest)) (hphase : th.phase = .ended)
    (hprog : th.prog = .step op k) :
    PoolInv cfg t calls (th.step s).2 ((th.step s).1 :: rest) := by
  have hok := h.threadsOk th List.mem_cons_self
  simp only [SessionThread.Ok, hphase, hprog] at hok
  cases hok with
  | @read tenantId since k hrow hk =>
    obtain ⟨r', hr'⟩ := hk (SessionOp.handle (.select tenantId since) s).1
    obtain ⟨order, horder, hc, hw, ha⟩ := h.serial
    simp only [SessionThread.step, hprog]
    refine h.keep horder hc hw rfl ?_ ?_ ?_ h.committed (ha.congr ?_ ?_)
    · simp only [SessionThread.Ok, SessionOp.phase, hphase, hr']
      exact .done
    · simp [SessionThread.linearized, SessionOp.phase, hphase]
    · exact returnedRow_congr hrow rfl
    · simp [SessionThread.inTransaction, hphase]
    · simp [SessionThread.inTransaction, SessionOp.phase, hphase]

/-- The update of a settlement, with only settlements under way. -/
theorem PoolInv.step_update (h : PoolInv cfg t calls s (th :: rest)) (hphase : th.phase = .fresh)
    (hs : th.call.isSettlement)
    (hprog : th.prog = execute (.update status p) >>= fun _ => commitTail)
    (hiso : ∀ other ∈ rest, other.inTransaction → other.call.isSettlement) :
    PoolInv cfg t calls (th.step s).2 ((th.step s).1 :: rest) := by
  obtain ⟨order, horder, hc, hw, ha⟩ := h.serial
  have hrow := LedgerCall.reservedRow_of_isSettlement hs
  have hstep : th.step s = (⟨th.call, commitTail, .running⟩,
      ⟨s.committed, settle status p s.working⟩) := by
    unfold SessionThread.step
    rw [hprog]
    rfl
  have hfresh : th.prog = th.call.prog cfg := by
    have := h.threadsOk th List.mem_cons_self
    rwa [SessionThread.Ok, hphase] at this
  have hserial (T : Session) :
      th.call.serial cfg T = (.ok none, .clean (settle status p T.working)) := by
    rw [LedgerCall.serial, ← hfresh, hprog]
    rfl
  have hth : th.inTransaction = false := by simp [SessionThread.inTransaction, hphase]
  have hnone : th.result? = none := by
    unfold SessionThread.result?
    rw [hprog]
    rfl
  obtain ⟨hworking, -⟩ := ha.shared_of_isolated hth hiso
  rw [hstep]
  refine h.linearize horder hc hw ?_ ?_ rfl ?_ ?_ ?_ ?_
  · simp [SessionThread.linearized, hphase, hnone]
  · simp [SessionThread.linearized, hs]
  · simp [SessionThread.Ok, hs]
  · rw [hserial, LedgerCall.outcomeRow, hrow]
    exact returnedRow_of_reservedRow_eq_none hrow
  · have hth' : (⟨th.call, commitTail, .running⟩ : SessionThread).returnedRow = th.returnedRow :=
      returnedRow_congr hrow rfl
    dsimp only
    rw [filterMap_returnedRow_congr rest hth']
    exact h.committed
  · rw [hserial]
    refine .shared ?_ ?_ ?_ fun _ => rfl
    · intro other ho htx
      rcases List.mem_cons.mp ho with rfl | ho
      · exact hs
      · exact hiso other ho htx
    · rw [hworking]
      rfl
    · exact .inr ⟨_, List.mem_cons_self, rfl⟩

/-- The `commit` of a settlement. -/
theorem PoolInv.step_commit (h : PoolInv cfg t calls s (th :: rest)) (hphase : th.phase = .running)
    (hs : th.call.isSettlement) (hprog : th.prog = commitTail) :
    PoolInv cfg t calls (th.step s).2 ((th.step s).1 :: rest) := by
  have hrow := LedgerCall.reservedRow_of_isSettlement hs
  have hstep : th.step s = (⟨th.call, .done (.ok none), .ended⟩, .clean s.working) := by
    unfold SessionThread.step
    rw [hprog]
    rfl
  have hth : th.inTransaction := by
    unfold SessionThread.inTransaction SessionThread.result?
    rw [hprog, hphase]
    rfl
  -- the settlement is under way, so only settlements are, and the serial session is clean
  obtain ⟨order, horder, hc, hw, ha⟩ := h.serial
  obtain ⟨hT, hworking, hrest⟩ : (serialRun cfg (.clean t) order).committed =
        (serialRun cfg (.clean t) order).working ∧
      s.working = (serialRun cfg (.clean t) order).working ∧
      ∀ other ∈ rest, other.inTransaction → other.call.isSettlement := by
    cases ha with
    | shared h₁ h₂ _ h₄ =>
      exact ⟨h₄ ⟨th, List.mem_cons_self, hth⟩, h₂,
        fun other ho => h₁ other (List.mem_cons_of_mem _ ho)⟩
    | exclusive hone hs' _ _ =>
      rw [List.filter_cons_of_pos hth] at hone
      obtain ⟨rfl, -⟩ := List.cons.inj hone
      rw [hs] at hs'
      contradiction
  rw [hstep]
  refine h.keep horder hc hw rfl .done ?_ (returnedRow_congr hrow rfl) ?_ ?_
  · simp [SessionThread.linearized, hphase, hs]
  · rw [Session.clean, hworking]
    exact hw
  · refine .shared ?_ hworking (.inl (hworking.trans hT.symm)) fun _ => hT
    intro other ho htx
    rcases List.mem_cons.mp ho with rfl | ho
    · exact hs
    · exact hrest other ho htx

theorem SessionOp.handle_committed (hop : op ≠ .commit) (s : Session) :
    (SessionOp.handle op s).2.committed = s.committed := by
  cases op <;> first | rfl | contradiction

theorem Transactional.of_step (h : Transactional call (.step op k)) (r : Except LedgerError op.Res) :
    (op = .commit ∨ op = .rollback) ∧ Closed call (k r) ∨
      (op ≠ .commit ∧ op ≠ .rollback) ∧ Transactional call (k r) := by
  cases h with
  | close hop hk => exact .inl ⟨hop, hk r⟩
  | statement hc hr hk => exact .inr ⟨⟨hc, hr⟩, hk r⟩

/-- The rows a thread ends with are those of its call run alone. -/
theorem returnedRow_of_closed (h : Closed th.call th.prog)
    (hrun : th.prog.run SessionOp.handle s = th.call.serial cfg T) :
    th.returnedRow = th.call.outcomeRow (th.call.serial cfg T).1 := by
  rw [← hrun]
  cases hp : th.prog with
  | done r => simp [SessionThread.returnedRow, SessionThread.result?, hp]
  | step op k =>
    rw [hp] at h
    cases h with
    | read hrow _ =>
      rw [returnedRow_of_reservedRow_eq_none hrow]
      rcases (Prog.step _ _).run SessionOp.handle s with ⟨e | v, _⟩
      · rfl
      · exact hrow.symm

section
variable {calls order : List LedgerCall} (h : PoolInv cfg t calls s (th :: rest))
  (horder : order.Perm (((th :: rest).filter SessionThread.linearized).map (·.call)))
  (hc : Sound cfg t ((th :: rest).filterMap SessionThread.returnedRow)
    (serialRun cfg (.clean t) order).committed)
  (hw : Sound cfg t ((th :: rest).filterMap SessionThread.returnedRow)
    (serialRun cfg (.clean t) order).working)
  (hrest : ∀ other ∈ rest, other.inTransaction = false)
include h horder hc hw hrest

/-- A call that had the session for itself ends: the session is the one the call alone leaves. -/
theorem PoolInv.close (hcall : th'.call = th.call) (hclosed : Closed th'.call th'.prog)
    (hok : th'.Ok cfg) (hnew : th.linearized = false) (hnew' : th'.linearized = true)
    (htx : th'.inTransaction = false)
    (hrun : th'.prog.run SessionOp.handle s' =
      th'.call.serial cfg (serialRun cfg (.clean t) order)) :
    PoolInv cfg t calls s' (th' :: rest) := by
  have hs' : s' = (th.call.serial cfg (serialRun cfg (.clean t) order)).2 := by
    rw [← hcall, ← hrun, hclosed.run_snd]
  have hrow := returnedRow_of_closed hclosed hrun
  rw [hcall] at hrow
  refine h.linearize horder hc hw hnew hnew' hcall hok hrow ?_ ?_
  · rw [hs']
    exact (sound_linearized hc hw hnew hrow).1
  · rw [← hs']
    have hnone : ¬ ∃ th ∈ th' :: rest, th.inTransaction := by
      rintro ⟨other, ho, hother⟩
      rcases List.mem_cons.mp ho with rfl | ho
      · rw [htx] at hother
        contradiction
      · rw [hrest other ho] at hother
        contradiction
    exact .shared (fun other ho hother => (hnone ⟨other, ho, hother⟩).elim) rfl (.inl rfl)
      fun hsome => (hnone hsome).elim

/-- A statement of a call that has the session for itself. -/
theorem PoolInv.step_exclusive (hs : th.call.isSettlement = false) (hprog : th.prog = .step op k)
    (hphase : op.phase th.phase ≠ .fresh) (hended : th.phase ≠ .ended)
    (htx : Transactional th.call th.prog)
    (hrun : th.prog.run SessionOp.handle s =
      th.call.serial cfg (serialRun cfg (.clean t) order))
    (hcommitted : s.committed = (serialRun cfg (.clean t) order).committed) :
    PoolInv cfg t calls (th.step s).2 ((th.step s).1 :: rest) := by
  have hstep : th.step s = (⟨th.call, k (op.handle s).1, op.phase th.phase⟩, (op.handle s).2) := by
    simp only [SessionThread.step, hprog]
  rw [hprog, Prog.run_step] at hrun
  rw [hprog] at htx
  have hnone := result?_of_step hprog
  have hnew : th.linearized = false := by simp [SessionThread.linearized, hnone, hs, hended]
  rw [hstep]
  rcases htx.of_step (op.handle s).1 with ⟨hop, hclosed⟩ | ⟨⟨hnc, hnr⟩, htx'⟩
  · have hphase' : op.phase th.phase = .ended := by rcases hop with rfl | rfl <;> rfl
    refine h.close horder hc hw hrest rfl hclosed ?_ hnew ?_ ?_ hrun
    · simpa only [SessionThread.Ok, hphase'] using hclosed
    · simp [SessionThread.linearized, hphase']
    · simp [SessionThread.inTransaction, hphase']
  · have hphase' : op.phase th.phase = .running := by
      cases op <;> first | rfl | contradiction | skip
      cases hp : th.phase <;> simp_all [SessionOp.phase]
    cases hk : k (op.handle s).1 with
    | done r =>
      rw [hk] at hrun
      refine h.close horder hc hw hrest rfl .done ?_ hnew ?_ ?_ hrun
      · simp only [SessionThread.Ok, hphase', hs]
        exact .done
      · simp [SessionThread.linearized, SessionThread.result?]
      · simp [SessionThread.inTransaction, SessionThread.result?]
    | step op' k' =>
      rw [hk] at hrun htx'
      rw [hphase']
      refine h.keep horder hc hw rfl ?_ ?_ ?_ ?_ ?_
      · simp only [SessionThread.Ok, hs]
        exact htx'
      · rw [hnew]
        simp [SessionThread.linearized, SessionThread.result?, hs]
      · rw [returnedRow_of_result?_eq_none hnone]
        exact returnedRow_of_result?_eq_none rfl
      · rw [SessionOp.handle_committed hnc]
        exact h.committed
      · have hone : ((⟨th.call, .step op' k', .running⟩ : SessionThread) :: rest).filter
            SessionThread.inTransaction = [⟨th.call, .step op' k', .running⟩] := by
          rw [List.filter_cons_of_pos rfl, List.filter_eq_nil_iff.mpr]
          simpa using hrest
        exact .exclusive hone hs hrun ((SessionOp.handle_committed hnc s).trans hcommitted)

end

/-- One statement of an isolated thread. -/
theorem PoolInv.step_cons (h : PoolInv cfg t calls s (th :: rest))
    (hiso : th.phase ≠ .ended → th.result?.isNone → ∀ other ∈ rest, other.inTransaction →
      th.call.isSettlement ∧ other.call.isSettlement) :
    PoolInv cfg t calls (th.step s).2 ((th.step s).1 :: rest) := by
  cases hprog : th.prog with
  | done r =>
    simp only [SessionThread.step, hprog]
    exact h
  | step op k =>
    have hok := h.threadsOk th List.mem_cons_self
    have hnone := result?_of_step hprog
    cases hphase : th.phase with
    | ended => exact h.step_ended hphase hprog
    | running =>
      rw [SessionThread.Ok, hphase] at hok
      have hth : th.inTransaction := by simp [SessionThread.inTransaction, hphase, hnone]
      cases hs : th.call.isSettlement with
      | true =>
        simp only [hs, if_true] at hok
        exact h.step_commit hphase hs hok
      | false =>
        simp only [hs, Bool.false_eq_true, if_false] at hok
        obtain ⟨order, horder, hc, hw, ha⟩ := h.serial
        obtain ⟨hrest, hrun, hcommitted⟩ := ha.exclusive_unique hth hs
        refine h.step_exclusive horder hc hw hrest hs hprog ?_ (by simp [hphase]) hok hrun hcommitted
        rw [hphase]
        cases op <;> simp [SessionOp.phase]
    | fresh =>
      rw [SessionThread.Ok, hphase] at hok
      replace hiso := hiso (by simp [hphase]) (by simp [hnone])
      have hth : th.inTransaction = false := by simp [SessionThread.inTransaction, hphase]
      cases hs : th.call.isSettlement with
      | true =>
        rcases settlement_prog cfg hs with hdone | ⟨status, p, hupdate⟩
        · rw [← hok, hprog] at hdone
          cases hdone
        · exact h.step_update hphase hs (hok.trans hupdate) fun other ho htx => (hiso other ho htx).2
      | false =>
        have hrest : ∀ other ∈ rest, other.inTransaction = false := by
          intro other ho
          by_contra htx
          have := (hiso other ho (by simpa using htx)).1
          rw [hs] at this
          contradiction
        obtain ⟨order, horder, hc, hw, ha⟩ := h.serial
        obtain ⟨hworking, hcommitted⟩ := ha.shared_of_isolated hth fun other ho htx =>
          (hiso other ho htx).2
        have hcommitted : s.committed = (serialRun cfg (.clean t) order).committed := by
          rcases hcommitted with hcommitted | ⟨other, ho, htx⟩
          · exact hcommitted
          · rw [hrest other ho] at htx
            contradiction
        have hsession : s = serialRun cfg (.clean t) order := by
          rcases s with ⟨c, w⟩
          exact congrArg₂ Session.mk hcommitted hworking
        obtain ⟨op', k', hfirst, hphase'⟩ := exclusive_prog cfg hs
        refine h.step_exclusive horder hc hw hrest hs hprog ?_ (by simp [hphase])
          (hok ▸ prog_transactional cfg th.call) ?_ hcommitted
        · rw [← hok, hprog] at hfirst
          obtain ⟨rfl, -⟩ := Prog.step.inj hfirst
          simp [hphase']
        · rw [hok, hsession]
          rfl

theorem PoolInv.step {w : SessionPool} (h : PoolInv cfg t calls w.session w.threads)
    (hiso : w.Isolated i) : PoolInv cfg t calls (w.step i).session (w.step i).threads := by
  unfold SessionPool.step
  cases hth : w.threads[i]? with
  | none => exact h
  | some th =>
    obtain ⟨hi, rfl⟩ := List.getElem?_eq_some_iff.mp hth
    have hp : (w.threads[i] :: w.threads.eraseIdx i).Perm w.threads :=
      List.getElem_cons_eraseIdx_perm hi
    have hp' := List.set_perm_cons_eraseIdx hi (w.threads[i].step w.session).1
    refine ((h.perm hp.symm).step_cons ?_).perm hp'.symm
    exact hiso _ hth

theorem serialRun_eq_self (h : ∀ call ∈ calls, ∃ r, LedgerCall.prog cfg call = .done r) :
    serialRun cfg s calls = s := by
  induction calls with
  | nil => rfl
  | cons call calls ih =>
    obtain ⟨r, hr⟩ := h call List.mem_cons_self
    have hcall : (call.serial cfg s).2 = s := by rw [LedgerCall.serial, hr, Prog.run_done]
    change serialRun cfg (call.serial cfg s).2 calls = s
    rw [hcall]
    exact ih fun call' hc => h call' (List.mem_cons_of_mem _ hc)

/-- At the start nothing has run; a settlement with no plan has already ended. -/
theorem poolInv_start (cfg : LedgerConfig) (t : UsageTable) (calls : List LedgerCall) :
    PoolInv cfg t calls (SessionPool.start cfg t calls).session
      (SessionPool.start cfg t calls).threads := by
  have hfresh : ∀ th ∈ (SessionPool.start cfg t calls).threads,
      th.prog = th.call.prog cfg ∧ th.phase = .fresh := by
    intro th hth
    obtain ⟨call, -, rfl⟩ := List.mem_map.mp hth
    exact ⟨rfl, rfl⟩
  have htx : ∀ th ∈ (SessionPool.start cfg t calls).threads, th.inTransaction = false := by
    intro th hth
    simp [SessionThread.inTransaction, hfresh th hth]
  have hrow : ∀ th ∈ (SessionPool.start cfg t calls).threads, th.returnedRow = none := by
    intro th hth
    cases hs : th.call.isSettlement with
    | true => exact returnedRow_of_reservedRow_eq_none (LedgerCall.reservedRow_of_isSettlement hs)
    | false =>
      obtain ⟨op, k, hprog, -⟩ := exclusive_prog cfg hs
      exact returnedRow_of_result?_eq_none (result?_of_step ((hfresh th hth).1.trans hprog))
  have hrows : (SessionPool.start cfg t calls).threads.filterMap SessionThread.returnedRow = [] :=
    List.filterMap_eq_nil_iff.mpr hrow
  have hserial : serialRun cfg (.clean t)
      (((SessionPool.start cfg t calls).threads.filter SessionThread.linearized).map (·.call)) =
        .clean t := by
    refine serialRun_eq_self fun call hcall => ?_
    obtain ⟨th, hth, rfl⟩ := List.mem_map.mp hcall
    obtain ⟨hth, hlin⟩ := List.mem_filter.mp hth
    obtain ⟨hprog, hphase⟩ := hfresh th hth
    rw [← hprog]
    cases hp : th.prog with
    | done r => exact ⟨r, rfl⟩
    | step op k => simp [SessionThread.linearized, result?_of_step hp, hphase] at hlin
  refine ⟨?_, ?_, ?_, _, .refl _, ?_⟩
  · rw [SessionPool.start, List.map_map]
    exact .of_eq (List.map_id calls)
  · intro th hth
    rw [SessionThread.Ok, (hfresh th hth).2]
    exact (hfresh th hth).1
  · rw [hrows]
    exact sound_start cfg t
  · rw [hrows, hserial]
    refine ⟨sound_start cfg t, sound_start cfg t, .shared ?_ rfl (.inl rfl) fun _ => rfl⟩
    intro th hth h
    rw [htx th hth] at h
    contradiction

theorem PoolInv.run {w : SessionPool} (h : PoolInv cfg t calls w.session w.threads)
    (hiso : w.IsolatedRun schedule) :
    PoolInv cfg t calls (w.run schedule).session (w.run schedule).threads := by
  induction schedule generalizing w with
  | nil => exact h
  | cons i schedule ih => exact ih (h.step hiso.1) hiso.2

/-- **Serializability.** In every state that a run with isolated steps reaches, the calls are
serializable. -/
theorem serializable_of_isolated (cfg : LedgerConfig) (t : UsageTable) (calls : List LedgerCall)
    (schedule : List ℕ) (hiso : (SessionPool.start cfg t calls).IsolatedRun schedule) :
    ((SessionPool.start cfg t calls).run schedule).Serializable cfg t calls := by
  have h := (poolInv_start cfg t calls).run hiso
  refine ⟨fun hall => ?_, h.committed.rows, h.committed.ceilings⟩
  obtain ⟨order, horder, -, -, ha⟩ := h.serial
  have htx : ∀ th ∈ ((SessionPool.start cfg t calls).run schedule).threads,
      th.inTransaction = false := by
    intro th hth
    cases hr : th.result? with
    | none => exact (hall th hth hr).elim
    | some r => simp [SessionThread.inTransaction, hr]
  refine ⟨order, horder.trans ?_, ?_⟩
  · rw [List.filter_eq_self.mpr]
    · exact h.sameCalls
    · intro th hth
      cases hr : th.result? with
      | none => exact (hall th hth hr).elim
      | some r => simp [SessionThread.linearized, hr]
  · cases ha with
    | shared _ _ hcommitted _ =>
      rcases hcommitted with hcommitted | ⟨th, hth, h⟩
      · exact hcommitted
      · rw [htx th hth] at h
        contradiction
    | exclusive _ _ _ hcommitted => exact hcommitted

/-- The ledger of `tenADay` on Postgres. -/
def tenADayPostgres : LedgerConfig := { tenADay with kind := .postgres }

/-- Both reservations read the day's spend before either inserts its row: both return, and the day is
charged twelve dollars of ten. -/
theorem not_sessionsSerializable : ¬ SessionsSerializable := by
  intro h
  let schedule := [0, 0, 0, 0, 0, 1, 1, 1, 1, 1, 0, 0, 1, 1]
  have hall : ((SessionPool.start tenADayPostgres [] twoSixes).run schedule).threads.all
      (·.result?.isSome) = true := by decide +kernel
  have hend := h tenADayPostgres [] twoSixes schedule fun th hth hr => by
    simpa [hr] using List.all_eq_true.mp hall th hth
  have hday := (hend.ceilings "acme" _ rfl (withinCeilings_nil ..)).1 10 rfl (2024, 1, 1)
  exact absurd hday (by decide +kernel)

/-- One reservation after the other: the first returns, the second is refused. -/
theorem serializable_of_isolated_twoSixes :
    ((SessionPool.start tenADayPostgres [] twoSixes).run
      [0, 0, 0, 0, 0, 0, 0, 1, 1, 1, 1, 1, 1]).Serializable tenADayPostgres [] twoSixes :=
  serializable_of_isolated _ _ _ _ (by decide +kernel)

end Gpucall
