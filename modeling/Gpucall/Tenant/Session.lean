import Gpucall.Lib.Prog
import Gpucall.Tenant.Budget

/-! `PostgresTenantUsageLedger` on its one connection. All threads of the process share `self._conn`:
its statements act on one open transaction, `commit` and `rollback` act on all of it, whoever ran the
statements, and `pg_advisory_xact_lock` never waits for the session that already holds it. A call is
a program over these statements, each `cur.execute`, `commit` and `rollback` being one step.

A call run alone refines the transaction of `Gpucall.Tenant.Ledger` (`run_prog_cases`). The one
difference is an exception that is not a `TenantBudgetError`: it leaves the statements pending. -/

namespace Gpucall

open Effects

/-- One connection: the committed table and the one its open transaction sees. -/
structure Session where
  committed : UsageTable
  working : UsageTable
  deriving DecidableEq

/-- A connection with nothing pending. -/
def Session.clean (t : UsageTable) : Session := ⟨t, t⟩

inductive SessionOp where
  /-- `SELECT pg_advisory_xact_lock(..)` on the tenant's key -/
  | lock (tenantId : String)
  /-- `UPDATE gpucall_tenant_usage SET status = .. WHERE status = 'reserved' AND ..` -/
  | update (status : UsageStatus) (p : UsageRow → Bool)
  /-- `_spend_since_cur` -/
  | select (tenantId : String) (since : DateTime)
  | insert (row : UsageRow)
  | commit
  | rollback

abbrev SessionOp.Res : SessionOp → Type
  | select _ _ => ℚ≥0
  | lock _ | update _ _ | insert _ | commit | rollback => Unit

abbrev SessionM := Prog SessionOp SessionOp.Res LedgerError

/-- No statement raises. -/
def SessionOp.exec : (op : SessionOp) → Session → op.Res × Session
  | lock _, s => ((), s)
  | update status p, s => ((), { s with working := settle status p s.working })
  | select tenantId since, s => (spendSinceRow s.working tenantId since, s)
  | insert row, s => ((), { s with working := s.working ++ [row] })
  | commit, s => ((), { s with committed := s.working })
  | rollback, s => ((), { s with working := s.committed })

def SessionOp.handle (op : SessionOp) (s : Session) : Except LedgerError op.Res × Session :=
  (.ok (op.exec s).1, (op.exec s).2)

/-! ## The calls -/

/-- One `cur.execute`, `commit` or `rollback`. -/
def execute (op : SessionOp) : SessionM op.Res := Prog.perform op

/-- `_reconcile_reservations_cur` -/
def reconcileReservationsCur (setting : Option ℚ) (jobs : List JobRow) (now : DateTime) :
    SessionM Unit := do
  execute (.update .released (UsageRow.hasJobIn jobs (· ∈ failedTerminalJobStates)))
  execute (.update .committed (UsageRow.hasJobIn jobs (· = .completed)))
  match staleReservationCutoff setting now with
  | .error e => throw e
  | .ok none => pure ()
  | .ok (some cutoff) =>
    execute (.update .released fun r =>
      r.recordedAt < cutoff && !r.hasJobIn jobs fun _ => true)

/-- `self._conn.rollback()` and `raise TenantBudgetError(..)` -/
def rollbackAndRaise (e : TenantBudgetError) : SessionM Unit := do
  execute .rollback
  throw (.tenantBudget e)

/-- One budget check of `reserve_with_budget`: the tenant's spend since `since` against a budget. -/
def checkBudget (budget : Option ℚ≥0) (error : ℚ≥0 → ℚ≥0 → TenantBudgetError)
    (args : ReserveArgs) (since : DateTime) : SessionM Unit :=
  match budget with
  | none => pure ()
  | some budget => do
    let spent ← execute (.select args.tenantId since)
    let projected := spent + args.estimatedCostUsd
    if budget < projected then rollbackAndRaise (error projected budget) else pure ()

def checkMaxRequest (limit : Option ℚ≥0) (args : ReserveArgs) : SessionM Unit :=
  match limit with
  | none => pure ()
  | some limit =>
    if limit < args.estimatedCostUsd then
      rollbackAndRaise (.maxRequest args.estimatedCostUsd limit)
    else pure ()

/-- The checks of `reserve_with_budget`, made only for a tenant with a `TenantSpec`. -/
def checkTenant (tenant : Option TenantSpec) (args : ReserveArgs) (now : DateTime) :
    SessionM Unit :=
  match tenant with
  | none => pure ()
  | some tenant => do
    checkMaxRequest tenant.maxRequestEstimatedCostUsd args
    checkBudget tenant.dailyBudgetUsd .daily args now.dayStart
    checkBudget tenant.monthlyBudgetUsd .monthly args now.monthStart

/-- `if not plan_id: return`, one update and `commit`. -/
def settlePlanCur (status : UsageStatus) (planId : Option String) :
    SessionM (Option ℚ≥0) :=
  match planId with
  | none | some "" => pure none
  | some planId => do
    execute (.update status fun r => r.planId = some planId)
    execute .commit
    pure none

/-- The program of a call. Only `spend_since` returns a value. -/
def LedgerCall.prog (cfg : LedgerConfig) : LedgerCall → SessionM (Option ℚ≥0)
  | .reserveWithBudget now jobs args => do
    execute (.lock args.tenantId)
    reconcileReservationsCur cfg.staleSeconds jobs now
    checkTenant (cfg.tenants args.tenantId) args now
    execute (.insert (args.row now))
    execute .commit
    pure none
  | .releasePlan planId => settlePlanCur .released planId
  | .commitPlan planId => settlePlanCur .committed planId
  | .spendSince now jobs tenantId since => do
    reconcileReservationsCur cfg.staleSeconds jobs now
    execute .commit
    let spent ← execute (.select tenantId since)
    pure (some spent)
  | .reconcileReservations now jobs => do
    reconcileReservationsCur cfg.staleSeconds jobs now
    execute .commit
    pure none

/-- The connection after a call that nothing interleaves with. -/
def LedgerCall.serial (cfg : LedgerConfig) (s : Session) (call : LedgerCall) :
    Except LedgerError (Option ℚ≥0) × Session :=
  (call.prog cfg).run SessionOp.handle s

/-- The connection after the calls one after the other. -/
def serialRun (cfg : LedgerConfig) (s : Session) (calls : List LedgerCall) : Session :=
  calls.foldl (fun s call => (call.serial cfg s).2) s

theorem serialRun_append_singleton (cfg : LedgerConfig) (s : Session) (calls : List LedgerCall)
    (call : LedgerCall) :
    serialRun cfg s (calls ++ [call]) = (call.serial cfg (serialRun cfg s calls)).2 := by
  simp [serialRun]

/-! ## A call run alone -/

theorem run_bind (p : SessionM α) (f : α → SessionM β) (s : Session) :
    (p >>= f).run SessionOp.handle s =
      match p.run SessionOp.handle s with
      | (.ok a, s) => (f a).run SessionOp.handle s
      | (.error e, s) => (.error e, s) := by
  rw [Prog.bind_def, Prog.bind, Prog.run_andThen]
  rcases p.run SessionOp.handle s with ⟨e | a, s⟩ <;> rfl

theorem run_reconcileReservationsCur (setting : Option ℚ) (jobs : List JobRow) (now : DateTime)
    (s : Session) :
    (reconcileReservationsCur setting jobs now).run SessionOp.handle s =
      ((reconcileReservations .postgres setting jobs now s.working).2,
        ⟨s.committed, (reconcileReservations .postgres setting jobs now s.working).1⟩) := by
  simp only [reconcileReservationsCur, reconcileReservations]
  rcases staleReservationCutoff setting now with e | _ | cutoff <;> rfl

/-- The outcome of the budget checks: `rollback` and the error if there is one. -/
def checked (error : Option TenantBudgetError) (s : Session) : Except LedgerError Unit × Session :=
  match error with
  | none => (.ok (), s)
  | some e => (.error (.tenantBudget e), .clean s.committed)

theorem run_checked_bind {p q : SessionM Unit} (hp : p.run SessionOp.handle s = checked a s)
    (hq : q.run SessionOp.handle s = checked b s) :
    (p >>= fun _ => q).run SessionOp.handle s = checked (a <|> b) s := by
  rw [run_bind, hp]
  cases a with
  | none => exact hq
  | some e => rfl

theorem run_checkMaxRequest (limit : Option ℚ≥0) (args : ReserveArgs) (s : Session) :
    (checkMaxRequest limit args).run SessionOp.handle s =
      checked (do let limit ← limit
                  if limit < args.estimatedCostUsd then
                    some (.maxRequest args.estimatedCostUsd limit) else none) s := by
  cases limit with
  | none => rfl
  | some limit =>
    simp only [checkMaxRequest, Option.bind_eq_bind, Option.bind_some]
    split <;> rfl

theorem run_checkBudget (budget : Option ℚ≥0) (error : ℚ≥0 → ℚ≥0 → TenantBudgetError)
    (args : ReserveArgs) (since : DateTime) (s : Session) :
    (checkBudget budget error args since).run SessionOp.handle s =
      checked (do let budget ← budget
                  let projected := spendSinceRow s.working args.tenantId since +
                    args.estimatedCostUsd
                  if budget < projected then some (error projected budget) else none) s := by
  cases budget with
  | none => rfl
  | some budget =>
    change (if budget < spendSinceRow s.working args.tenantId since + args.estimatedCostUsd
      then rollbackAndRaise _ else pure ()).run SessionOp.handle s = _
    simp only [Option.bind_eq_bind, Option.bind_some]
    split <;> rfl

/-- The checks, one statement after the other, decide as `budgetError` does on the table. -/
theorem run_checkTenant (tenant : Option TenantSpec) (args : ReserveArgs) (now : DateTime)
    (s : Session) :
    (checkTenant tenant args now).run SessionOp.handle s =
      checked (budgetError tenant args now s.working) s := by
  cases tenant with
  | none => rfl
  | some tenant =>
    exact run_checked_bind (run_checkMaxRequest ..)
      (run_checked_bind (run_checkBudget ..) (run_checkBudget ..))

/-- The sweep either raises, with its updates pending, or leaves a table with some reservations
settled to what follows. -/
theorem run_reconcileReservationsCur_bind (setting : Option ℚ) (jobs : List JobRow)
    (now : DateTime) (s : Session) (f : Unit → SessionM β) :
    ∃ t', Settles s.working t' ∧
      ((∃ e, (reconcileReservationsCur setting jobs now >>= f).run SessionOp.handle s =
          (.error e, ⟨s.committed, t'⟩)) ∨
        (reconcileReservationsCur setting jobs now >>= f).run SessionOp.handle s =
          (f ()).run SessionOp.handle ⟨s.committed, t'⟩) := by
  refine ⟨_, reconcileReservations_settles .postgres setting jobs now s.working, ?_⟩
  rw [run_bind, run_reconcileReservationsCur]
  rcases reconcileReservations .postgres setting jobs now s.working with ⟨t', e | ⟨⟩⟩
  · exact .inl ⟨e, rfl⟩
  · exact .inr rfl

theorem run_settlePlanCur (status : UsageStatus) (planId : Option String) (s : Session) :
    (settlePlanCur status planId).run SessionOp.handle s = (.ok none, s) ∨
      ∃ t', Settles s.working t' ∧
        (settlePlanCur status planId).run SessionOp.handle s = (.ok none, .clean t') := by
  unfold settlePlanCur
  split
  · exact .inl rfl
  · exact .inl rfl
  · exact .inr ⟨_, settle_settles .., rfl⟩

/-- A call is a `reserve_with_budget` whose row it is. -/
def LedgerCall.reservedRow : LedgerCall → Option UsageRow
  | .reserveWithBudget now _ args => some (args.row now)
  | _ => none

/-- What a call does alone: it raises and leaves its settled reservations pending or has them rolled
back, it settles reservations, or it settles some and adds one row that passed the checks. -/
theorem LedgerCall.serial_cases (cfg : LedgerConfig) (s : Session) (call : LedgerCall) :
    (∃ e t', call.serial cfg s = (.error e, ⟨s.committed, t'⟩) ∧
        (t' = s.committed ∨ Settles s.working t')) ∨
      (call.reservedRow = none ∧ ∃ v, call.serial cfg s = (.ok v, s)) ∨
      (call.reservedRow = none ∧ ∃ v t', call.serial cfg s = (.ok v, .clean t') ∧
        Settles s.working t') ∨
      ∃ now jobs args t', call = .reserveWithBudget now jobs args ∧ Settles s.working t' ∧
        budgetError (cfg.tenants args.tenantId) args now t' = none ∧
        call.serial cfg s = (.ok none, .clean (t' ++ [args.row now])) := by
  cases call with
  | releasePlan planId =>
    rcases run_settlePlanCur .released planId s with h | ⟨t', hs, h⟩
    · exact .inr (.inl ⟨rfl, _, h⟩)
    · exact .inr (.inr (.inl ⟨rfl, _, _, h, hs⟩))
  | commitPlan planId =>
    rcases run_settlePlanCur .committed planId s with h | ⟨t', hs, h⟩
    · exact .inr (.inl ⟨rfl, _, h⟩)
    · exact .inr (.inr (.inl ⟨rfl, _, _, h, hs⟩))
  | spendSince now jobs tenantId since =>
    obtain ⟨t', hs, ⟨e, h⟩ | h⟩ := run_reconcileReservationsCur_bind cfg.staleSeconds jobs now s
      fun _ => execute .commit >>= fun _ => execute (.select tenantId since) >>= fun spent =>
        pure (some spent)
    · exact .inl ⟨e, t', h, .inr hs⟩
    · exact .inr (.inr (.inl ⟨rfl, _, t', h, hs⟩))
  | reconcileReservations now jobs =>
    obtain ⟨t', hs, ⟨e, h⟩ | h⟩ := run_reconcileReservationsCur_bind cfg.staleSeconds jobs now s
      fun _ => execute .commit >>= fun _ => pure none
    · exact .inl ⟨e, t', h, .inr hs⟩
    · exact .inr (.inr (.inl ⟨rfl, _, t', h, hs⟩))
  | reserveWithBudget now jobs args =>
    obtain ⟨t', hs, ⟨e, h⟩ | h⟩ := run_reconcileReservationsCur_bind cfg.staleSeconds jobs now s
      fun _ => checkTenant (cfg.tenants args.tenantId) args now >>= fun _ =>
        execute (.insert (args.row now)) >>= fun _ => execute .commit >>= fun _ => pure none
    · exact .inl ⟨e, t', h, .inr hs⟩
    · change serial cfg s (.reserveWithBudget now jobs args) = _ at h
      rw [h, run_bind, run_checkTenant]
      cases hb : budgetError (cfg.tenants args.tenantId) args now t' with
      | some e => exact .inl ⟨_, _, rfl, .inl rfl⟩
      | none => exact .inr (.inr (.inr ⟨now, jobs, args, t', rfl, hs, hb, rfl⟩))

/-! ## The transactions it refines -/

theorem staleReservationCutoff_cases (setting : Option ℚ) (now : DateTime) :
    (∃ cutoff, staleReservationCutoff setting now = .ok cutoff) ∨
      staleReservationCutoff setting now = .error .overflow := by
  unfold staleReservationCutoff
  dsimp only
  split
  · exact .inl ⟨_, rfl⟩
  · split
    · exact .inr rfl
    · exact .inl ⟨_, rfl⟩

theorem reconcileReservations_cases (kind : LedgerKind) (setting : Option ℚ) (jobs : List JobRow)
    (now : DateTime) (t : UsageTable) :
    ∃ t', reconcileReservations kind setting jobs now t = (t', .ok ()) ∨
      reconcileReservations kind setting jobs now t = (t', .error .overflow) := by
  unfold reconcileReservations
  rcases staleReservationCutoff_cases setting now with ⟨cutoff, h⟩ | h
  · rw [h]
    cases kind <;> exact ⟨_, .inl rfl⟩
  · rw [h]
    exact ⟨_, .inr rfl⟩

theorem run_reconcileReservationsCur_of_ok
    (hr : reconcileReservations .postgres setting jobs now t = (t', .ok ()))
    (f : Unit → SessionM β) :
    (reconcileReservationsCur setting jobs now >>= f).run SessionOp.handle (.clean t) =
      (f ()).run SessionOp.handle ⟨t, t'⟩ := by
  rw [run_bind, run_reconcileReservationsCur, Session.clean, hr]

theorem run_settlePlanCur_clean (status : UsageStatus) (planId : Option String) (t : UsageTable) :
    ((settlePlanCur status planId).run SessionOp.handle (.clean t)).2 =
      .clean (settlePlan status planId t) := by
  unfold settlePlanCur
  split
  · rfl
  · rfl
  · next planId hne =>
    have h : settlePlan status (some planId) t = settle status (fun r => r.planId = some planId) t := by
      unfold settlePlan
      split <;> simp_all
    rw [h]
    rfl

/-- A call run alone on a clean connection does what its transaction does, unless the stale cutoff
overflows. -/
theorem LedgerCall.serial_clean (hkind : cfg.kind = .postgres) (call : LedgerCall)
    (h : (call.exec cfg t).2 ≠ .error .overflow) :
    (call.serial cfg (.clean t)).2 = .clean (call.exec cfg t).1 := by
  cases call with
  | releasePlan planId => exact run_settlePlanCur_clean ..
  | commitPlan planId => exact run_settlePlanCur_clean ..
  | spendSince now jobs tenantId since =>
    simp only [exec, transaction, body, hkind, serial, prog] at h ⊢
    obtain ⟨t', hr | hr⟩ := reconcileReservations_cases .postgres cfg.staleSeconds jobs now t
    · rw [run_reconcileReservationsCur_of_ok hr, hr]
      rfl
    · simp [hr] at h
  | reconcileReservations now jobs =>
    simp only [exec, transaction, body, hkind, serial, prog] at h ⊢
    obtain ⟨t', hr | hr⟩ := reconcileReservations_cases .postgres cfg.staleSeconds jobs now t
    · rw [run_reconcileReservationsCur_of_ok hr, hr]
      rfl
    · simp [hr] at h
  | reserveWithBudget now jobs args =>
    have hlock (f : Unit → SessionM (Option ℚ≥0)) (s : Session) :
        (execute (.lock args.tenantId) >>= f).run SessionOp.handle s =
          (f ()).run SessionOp.handle s := rfl
    simp only [exec, transaction, body, Gpucall.reserveWithBudget, hkind, serial, prog, hlock] at h ⊢
    obtain ⟨t', hr | hr⟩ := reconcileReservations_cases .postgres cfg.staleSeconds jobs now t
    · rw [run_reconcileReservationsCur_of_ok hr, hr, run_bind, run_checkTenant]
      dsimp only
      cases budgetError (cfg.tenants args.tenantId) args now t' with
      | some e => rfl
      | none => rfl
    · simp [hr] at h

end Gpucall
