import Gpucall.IsoFormat
import Gpucall.Tenant.Ledger

/-! The SQLite ledger of `tenant.py` on the rows that it stores, whose `recorded_at` is a text. Its
statements compare these texts, and do what the ledger on times does. -/

namespace Gpucall

/-! ## Stored rows -/

/-- A row of the table `tenant_usage` -/
structure StoredUsageRow where
  tenantId : String
  estimatedCostUsd : ℚ≥0
  tuple : Option String
  recipe : Option String
  planId : Option String
  status : UsageStatus
  recordedAt : String
  deriving DecidableEq

/-- What `INSERT INTO tenant_usage` writes, with the text of `now.isoformat()`. -/
def UsageRow.stored (r : UsageRow) : StoredUsageRow where
  tenantId := r.tenantId
  estimatedCostUsd := r.estimatedCostUsd
  tuple := r.tuple
  recipe := r.recipe
  planId := r.planId
  status := r.status
  recordedAt := r.recordedAt.isoformat

/-- `recorded_at >= ? AND status IN ('reserved', 'committed')` of the rows of a tenant -/
def StoredUsageRow.spentSince (tenantId since : String) (r : StoredUsageRow) : Bool :=
  r.tenantId = tenantId && since ≤ r.recordedAt && (r.status = .reserved || r.status = .committed)

/-- `status = 'reserved' AND recorded_at < ?` -/
def StoredUsageRow.stale (cutoff : String) (r : StoredUsageRow) : Bool :=
  r.status = .reserved && r.recordedAt < cutoff

/-! ## Statements -/

/-- `_spend_since_row` -/
def storedSpendSinceRow (t : List StoredUsageRow) (tenantId since : String) : ℚ≥0 :=
  ((t.filter (StoredUsageRow.spentSince tenantId since)).map (·.estimatedCostUsd)).sum

/-- `UPDATE tenant_usage SET status = .. WHERE ..` -/
def storedUpdate (status : UsageStatus) (p : StoredUsageRow → Bool) (t : List StoredUsageRow) :
    List StoredUsageRow :=
  t.map fun r => if p r then { r with status := status } else r

/-- `_reconcile_reservations_conn` -/
def reconcileReservationsConn (setting : Option ℚ) (now : DateTime) (t : List StoredUsageRow) :
    List StoredUsageRow × Except LedgerError Unit :=
  match staleReservationCutoff setting now with
  | .error e => (t, .error e)
  | .ok none => (t, .ok ())
  | .ok (some cutoff) => (storedUpdate .released (StoredUsageRow.stale cutoff.isoformat) t, .ok ())

/-- The three checks of `reserve_with_budget` -/
def storedBudgetError (tenant : Option TenantSpec) (args : ReserveArgs) (now : DateTime)
    (t : List StoredUsageRow) : Option TenantBudgetError :=
  match tenant with
  | none => none
  | some tenant =>
    let overRequest : Option TenantBudgetError := do
      let limit ← tenant.maxRequestEstimatedCostUsd
      if limit < args.estimatedCostUsd then some (.maxRequest args.estimatedCostUsd limit) else none
    let overDay : Option TenantBudgetError := do
      let budget ← tenant.dailyBudgetUsd
      let projected := storedSpendSinceRow t args.tenantId now.dayStart.isoformat + args.estimatedCostUsd
      if budget < projected then some (.daily projected budget) else none
    let overMonth : Option TenantBudgetError := do
      let budget ← tenant.monthlyBudgetUsd
      let projected := storedSpendSinceRow t args.tenantId now.monthStart.isoformat + args.estimatedCostUsd
      if budget < projected then some (.monthly projected budget) else none
    overRequest <|> overDay <|> overMonth

/-- The body of `reserve_with_budget` -/
def reserveWithBudgetConn (setting : Option ℚ) (tenant : Option TenantSpec) (args : ReserveArgs)
    (now : DateTime) (t : List StoredUsageRow) : List StoredUsageRow × Except LedgerError Unit :=
  match reconcileReservationsConn setting now t with
  | (t, .error e) => (t, .error e)
  | (t, .ok ()) =>
    match storedBudgetError tenant args now t with
    | some e => (t, .error (.tenantBudget e))
    | none => (t ++ [(args.row now).stored], .ok ())

/-- `release_plan` and `commit_plan` -/
def settlePlanConn (status : UsageStatus) (planId : Option String) (t : List StoredUsageRow) :
    List StoredUsageRow :=
  match planId with
  | none | some "" => t
  | some planId => storedUpdate status (fun r => r.planId = some planId && r.status = .reserved) t

/-- What a call does to the table of its open transaction -/
def LedgerCall.conn (cfg : LedgerConfig) (t : List StoredUsageRow) :
    LedgerCall → List StoredUsageRow × Except LedgerError Unit
  | .reserveWithBudget now _ args =>
    reserveWithBudgetConn cfg.staleSeconds (cfg.tenants args.tenantId) args now t
  | .releasePlan planId => (settlePlanConn .released planId t, .ok ())
  | .commitPlan planId => (settlePlanConn .committed planId t, .ok ())
  | .spendSince now _ _ _ => reconcileReservationsConn cfg.staleSeconds now t
  | .reconcileReservations now _ => reconcileReservationsConn cfg.staleSeconds now t

/-- The table after a sequence of calls, of which those that raise leave it as it was. -/
def runConn (cfg : LedgerConfig) (t : List StoredUsageRow) (calls : List LedgerCall) :
    List StoredUsageRow :=
  calls.foldl (fun t call =>
    match call.conn cfg t with
    | (t', .ok ()) => t'
    | (_, .error _) => t) t

/-! ## The ledger on times -/

variable {t : UsageTable}

theorem UsageRow.spentSince_stored (tenantId : String) (since : DateTime) (r : UsageRow) :
    r.stored.spentSince tenantId since.isoformat =
      (r.tenantId = tenantId && since ≤ r.recordedAt && r.charged) := by
  have hsince : decide (since.isoformat ≤ r.recordedAt.isoformat) = decide (since ≤ r.recordedAt) :=
    decide_eq_decide.mpr DateTime.isoformat_le_isoformat_iff
  rw [← hsince]
  rfl

theorem UsageRow.stale_stored (cutoff : DateTime) (r : UsageRow) :
    r.stored.stale cutoff.isoformat = (r.status = .reserved && r.recordedAt < cutoff) := by
  have hbefore : decide (r.recordedAt.isoformat < cutoff.isoformat) = decide (r.recordedAt < cutoff) :=
    decide_eq_decide.mpr DateTime.isoformat_lt_isoformat_iff
  rw [← hbefore]
  rfl

theorem filter_spentSince_stored (t : UsageTable) (tenantId : String) (since : DateTime) :
    (t.map UsageRow.stored).filter (StoredUsageRow.spentSince tenantId since.isoformat) =
      (t.filter fun r => r.tenantId = tenantId && since ≤ r.recordedAt && r.charged).map
        UsageRow.stored := by
  rw [List.filter_map]
  refine congrArg _ (List.filter_congr fun r _ => ?_)
  exact r.spentSince_stored tenantId since

theorem filter_stale_stored (t : UsageTable) (cutoff : DateTime) :
    (t.map UsageRow.stored).filter (StoredUsageRow.stale cutoff.isoformat) =
      (t.filter fun r => r.status = .reserved && r.recordedAt < cutoff).map UsageRow.stored := by
  rw [List.filter_map]
  refine congrArg _ (List.filter_congr fun r _ => ?_)
  exact r.stale_stored cutoff

theorem storedSpendSinceRow_stored (t : UsageTable) (tenantId : String) (since : DateTime) :
    storedSpendSinceRow (t.map UsageRow.stored) tenantId since.isoformat =
      spendSinceRow t tenantId since := by
  rw [storedSpendSinceRow, filter_spentSince_stored, List.map_map, spendSinceRow, chargedSpend]
  rfl

theorem storedUpdate_stored {status : UsageStatus} {p : StoredUsageRow → Bool} {q : UsageRow → Bool}
    (h : ∀ r : UsageRow, p r.stored = (r.status = .reserved && q r)) (t : UsageTable) :
    storedUpdate status p (t.map UsageRow.stored) = (settle status q t).map UsageRow.stored := by
  rw [storedUpdate, settle, List.map_map, List.map_map]
  refine List.map_congr_left fun r _ => ?_
  simp only [Function.comp_apply, h]
  split <;> rfl

theorem reconcileReservationsConn_stored (setting : Option ℚ) (jobs : List JobRow) (now : DateTime)
    (t : UsageTable) : reconcileReservationsConn setting now (t.map UsageRow.stored) =
      (reconcileReservations .sqlite setting jobs now t).map (List.map UsageRow.stored) id := by
  unfold reconcileReservationsConn reconcileReservations
  cases staleReservationCutoff setting now with
  | error e => rfl
  | ok cutoff =>
    cases cutoff with
    | none => rfl
    | some cutoff =>
      simp only [Prod.map, id, releaseStale]
      rw [storedUpdate_stored (UsageRow.stale_stored cutoff)]

theorem storedBudgetError_stored (tenant : Option TenantSpec) (args : ReserveArgs) (now : DateTime)
    (t : UsageTable) : storedBudgetError tenant args now (t.map UsageRow.stored) =
      budgetError tenant args now t := by
  cases tenant with
  | none => rfl
  | some tenant => simp only [storedBudgetError, budgetError, storedSpendSinceRow_stored]

theorem reserveWithBudgetConn_stored (setting : Option ℚ) (jobs : List JobRow)
    (tenant : Option TenantSpec) (args : ReserveArgs) (now : DateTime) (t : UsageTable) :
    reserveWithBudgetConn setting tenant args now (t.map UsageRow.stored) =
      (reserveWithBudget .sqlite setting jobs tenant args now t).map (List.map UsageRow.stored) id := by
  unfold reserveWithBudgetConn reserveWithBudget
  rw [reconcileReservationsConn_stored setting jobs]
  obtain ⟨t', e | ⟨⟩⟩ := reconcileReservations .sqlite setting jobs now t
  · rfl
  · simp only [Prod.map, id, storedBudgetError_stored]
    cases budgetError tenant args now t' with
    | none => simp only [List.map_append, List.map_singleton]
    | some e => rfl

theorem settlePlanConn_stored (status : UsageStatus) (planId : Option String) (t : UsageTable) :
    settlePlanConn status planId (t.map UsageRow.stored) =
      (settlePlan status planId t).map UsageRow.stored := by
  unfold settlePlanConn
  split
  · rfl
  · rfl
  · next planId hne =>
    have hsettle : settlePlan status (some planId) t = settle status (fun r => r.planId = some planId) t := by
      unfold settlePlan
      split <;> simp_all
    rw [hsettle]
    exact storedUpdate_stored (fun r => Bool.and_comm ..) t

theorem LedgerCall.conn_stored {cfg : LedgerConfig} (hkind : cfg.kind = .sqlite) (t : UsageTable)
    (call : LedgerCall) : call.conn cfg (t.map UsageRow.stored) =
      (call.body cfg t).map (List.map UsageRow.stored) id := by
  cases call with
  | reserveWithBudget now jobs args =>
    rw [conn, body, hkind]
    exact reserveWithBudgetConn_stored ..
  | releasePlan planId =>
    rw [conn, settlePlanConn_stored]
    rfl
  | commitPlan planId =>
    rw [conn, settlePlanConn_stored]
    rfl
  | spendSince now jobs =>
    rw [conn, body, hkind]
    exact reconcileReservationsConn_stored ..
  | reconcileReservations now jobs =>
    rw [conn, body, hkind]
    exact reconcileReservationsConn_stored ..

/-- Every sequence of calls leaves the rows that the ledger on times leaves, as they are stored. -/
theorem runConn_stored (cfg : LedgerConfig) (hkind : cfg.kind = .sqlite) (t : UsageTable)
    (calls : List LedgerCall) :
    runConn cfg (t.map UsageRow.stored) calls = (runCalls cfg t calls).map UsageRow.stored := by
  induction calls generalizing t with
  | nil => rfl
  | cons call calls ih =>
    rw [runCalls_cons, ← ih, runConn, List.foldl_cons, ← runConn]
    congr 1
    rw [LedgerCall.conn_stored hkind, LedgerCall.exec, transaction]
    obtain ⟨t', e | ⟨⟩⟩ := call.body cfg t <;> rfl

end Gpucall
