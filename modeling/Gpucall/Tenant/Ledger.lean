import Mathlib.Algebra.Order.Ring.NNRat
import Mathlib.Algebra.Order.BigOperators.Group.List
import Gpucall.Domain

/-! The tenant usage ledger of `tenant.py`: the rows of `tenant_usage`, the statements the two ledgers
run on them, and `reserve_with_budget`, `release_plan`, `commit_plan`, `spend_since` and
`reconcile_reservations` as transactions. SQLite runs one under `BEGIN IMMEDIATE` in a `with conn`
block, Postgres under the advisory lock with an explicit `commit` or `rollback`: either way a body
that raises leaves the table as it found it (`transaction`). Rows are never deleted and are only
appended, so the position of a row in the table is its `id`.

The two ledgers differ in `_reconcile_reservations`: the SQLite one releases every reservation older
than the cutoff, the Postgres one first settles the reservations whose job has ended and then spares
those that still have a job. -/

namespace Gpucall

inductive UsageStatus where
  | reserved | committed | released
  deriving DecidableEq, Repr

structure UsageRow where
  tenantId : String
  estimatedCostUsd : ℚ≥0
  tuple : Option String := none
  recipe : Option String := none
  planId : Option String := none
  status : UsageStatus := .reserved
  recordedAt : DateTime
  deriving DecidableEq

abbrev UsageTable := List UsageRow

/-- `status IN ('reserved', 'committed')` -/
def UsageRow.charged (r : UsageRow) : Bool :=
  r.status = .reserved || r.status = .committed

/-! ## Errors -/

/-- `f"{value:.4f}"`: four decimals, ties to the even last digit. -/
def format4f (value : ℚ≥0) : String :=
  let scaled := value * 10000
  let low := ⌊(scaled : ℚ)⌋.toNat
  let part := (scaled : ℚ) - low
  let n := if part < 1 / 2 then low else if 1 / 2 < part then low + 1
    else if low % 2 = 0 then low else low + 1
  let digits := (toString (10000 + n % 10000)).toList.drop 1
  toString (n / 10000) ++ "." ++ String.ofList digits

/-- The three refusals of `reserve_with_budget`, with the amounts they report. -/
inductive TenantBudgetError where
  | maxRequest (estimated limit : ℚ≥0)
  | daily (projected budget : ℚ≥0)
  | monthly (projected budget : ℚ≥0)
  deriving DecidableEq

def TenantBudgetError.message : TenantBudgetError → String
  | maxRequest estimated limit =>
    "estimated request cost " ++ format4f estimated ++
      " exceeds tenant max_request_estimated_cost_usd " ++ format4f limit
  | daily projected budget =>
    "tenant daily budget exceeded: projected " ++ format4f projected ++ " > " ++ format4f budget
  | monthly projected budget =>
    "tenant monthly budget exceeded: projected " ++ format4f projected ++ " > " ++ format4f budget

def TenantBudgetError.code (_ : TenantBudgetError) : String := "TENANT_BUDGET_EXCEEDED"

def TenantBudgetError.statusCode (_ : TenantBudgetError) : Nat := 402

inductive LedgerError where
  | tenantBudget (error : TenantBudgetError)
  /-- `now - timedelta(..)` leaves the range of `datetime`. -/
  | overflow
  deriving DecidableEq

/-! ## Statements -/

/-- `UPDATE tenant_usage SET status = .. WHERE status = 'reserved' AND ..`: the shape of every
update either ledger makes. -/
def settle (status : UsageStatus) (p : UsageRow → Bool) (t : UsageTable) : UsageTable :=
  t.map fun r => if r.status = .reserved && p r then { r with status := status } else r

/-- `SELECT COALESCE(SUM(estimated_cost_usd), 0)` over the charged rows of a tenant whose
`recorded_at` lies in a window. -/
def chargedSpend (t : UsageTable) (tenantId : String) (window : DateTime → Bool) : ℚ≥0 :=
  ((t.filter fun r => r.tenantId = tenantId && window r.recordedAt && r.charged).map
    (·.estimatedCostUsd)).sum

/-- `_spend_since_row`, `_spend_since_cur` -/
def spendSinceRow (t : UsageTable) (tenantId : String) (since : DateTime) : ℚ≥0 :=
  chargedSpend t tenantId (since ≤ ·)

/-- `_DEFAULT_STALE_RESERVATION_SECONDS` -/
def defaultStaleReservationSeconds : ℚ := 6 * 60 * 60

/-- `_stale_reservation_cutoff`. The setting is the number read from
`GPUCALL_TENANT_RESERVATION_STALE_SECONDS`, absent when the variable is unset or no number. -/
def staleReservationCutoff (setting : Option ℚ) (now : DateTime) :
    Except LedgerError (Option DateTime) :=
  let seconds := setting.getD defaultStaleReservationSeconds
  if seconds ≤ 0 then .ok none
  else
    match now.subSeconds? seconds with
    | none => .error .overflow
    | some cutoff => .ok (some cutoff)

/-- The SQLite sweep: `status = 'reserved' AND recorded_at < cutoff`. -/
def releaseStale (cutoff : Option DateTime) (t : UsageTable) : UsageTable :=
  match cutoff with
  | none => t
  | some cutoff => settle .released (·.recordedAt < cutoff) t

/-- `payload->'plan'->>'plan_id'` and `state` of a row of `gpucall_jobs`. -/
structure JobRow where
  planId : String
  state : JobState
  deriving DecidableEq

/-- `_FAILED_TERMINAL_JOB_STATES` -/
def failedTerminalJobStates : List JobState := [.failed, .cancelled, .expired]

/-- Some job of the row's plan is in one of the states. -/
def UsageRow.hasJobIn (jobs : List JobRow) (states : JobState → Bool) (r : UsageRow) : Bool :=
  jobs.any fun j => r.planId = some j.planId && states j.state

def releaseTerminal (jobs : List JobRow) : UsageTable → UsageTable :=
  settle .released (UsageRow.hasJobIn jobs (· ∈ failedTerminalJobStates))

def commitTerminal (jobs : List JobRow) : UsageTable → UsageTable :=
  settle .committed (UsageRow.hasJobIn jobs (· = .completed))

def releaseStaleWithoutJob (jobs : List JobRow) (cutoff : Option DateTime) (t : UsageTable) :
    UsageTable :=
  match cutoff with
  | none => t
  | some cutoff =>
    settle .released (fun r => r.recordedAt < cutoff && !r.hasJobIn jobs fun _ => true) t

/-! ## Transactions -/

inductive LedgerKind where
  | sqlite | postgres
  deriving DecidableEq

/-- `_reconcile_reservations_conn` and `_reconcile_reservations_cur`: the table afterwards, and the
error of `_stale_reservation_cutoff`. The Postgres one computes the cutoff after its first two
updates. -/
def reconcileReservations (kind : LedgerKind) (setting : Option ℚ) (jobs : List JobRow)
    (now : DateTime) (t : UsageTable) : UsageTable × Except LedgerError Unit :=
  let settled :=
    match kind with
    | .sqlite => t
    | .postgres => commitTerminal jobs (releaseTerminal jobs t)
  match staleReservationCutoff setting now with
  | .error e => (settled, .error e)
  | .ok cutoff =>
    match kind with
    | .sqlite => (releaseStale cutoff settled, .ok ())
    | .postgres => (releaseStaleWithoutJob jobs cutoff settled, .ok ())

structure ReserveArgs where
  tenantId : String
  estimatedCostUsd : ℚ≥0
  tuple : Option String := none
  recipe : Option String := none
  planId : Option String := none

def ReserveArgs.row (args : ReserveArgs) (now : DateTime) : UsageRow where
  tenantId := args.tenantId
  estimatedCostUsd := args.estimatedCostUsd
  tuple := args.tuple
  recipe := args.recipe
  planId := args.planId
  recordedAt := now

/-- The three checks of `reserve_with_budget` on the reconciled table, in the source's order. -/
def budgetError (tenant : Option TenantSpec) (args : ReserveArgs) (now : DateTime)
    (t : UsageTable) : Option TenantBudgetError :=
  match tenant with
  | none => none
  | some tenant =>
    let overRequest : Option TenantBudgetError := do
      let limit ← tenant.maxRequestEstimatedCostUsd
      if limit < args.estimatedCostUsd then some (.maxRequest args.estimatedCostUsd limit) else none
    let overDay : Option TenantBudgetError := do
      let budget ← tenant.dailyBudgetUsd
      let projected := spendSinceRow t args.tenantId now.dayStart + args.estimatedCostUsd
      if budget < projected then some (.daily projected budget) else none
    let overMonth : Option TenantBudgetError := do
      let budget ← tenant.monthlyBudgetUsd
      let projected := spendSinceRow t args.tenantId now.monthStart + args.estimatedCostUsd
      if budget < projected then some (.monthly projected budget) else none
    overRequest <|> overDay <|> overMonth

/-- The body of `reserve_with_budget`, on the open transaction's table. -/
def reserveWithBudget (kind : LedgerKind) (setting : Option ℚ) (jobs : List JobRow)
    (tenant : Option TenantSpec) (args : ReserveArgs) (now : DateTime) (t : UsageTable) :
    UsageTable × Except LedgerError Unit :=
  match reconcileReservations kind setting jobs now t with
  | (t, .error e) => (t, .error e)
  | (t, .ok ()) =>
    match budgetError tenant args now t with
    | some e => (t, .error (.tenantBudget e))
    | none => (t ++ [args.row now], .ok ())

/-- `if not plan_id: return` and one update of the plan's reservations. -/
def settlePlan (status : UsageStatus) (planId : Option String) (t : UsageTable) : UsageTable :=
  match planId with
  | none | some "" => t
  | some planId => settle status (fun r => r.planId = some planId) t

def releasePlan : Option String → UsageTable → UsageTable := settlePlan .released

def commitPlan : Option String → UsageTable → UsageTable := settlePlan .committed

/-- One ledger call. A call that reads the clock carries its reading, taken before it gets the lock;
a Postgres call also carries the jobs it sees. -/
inductive LedgerCall where
  | reserveWithBudget (now : DateTime) (jobs : List JobRow) (args : ReserveArgs)
  | releasePlan (planId : Option String)
  | commitPlan (planId : Option String)
  | spendSince (now : DateTime) (jobs : List JobRow) (tenantId : String) (since : DateTime)
  | reconcileReservations (now : DateTime) (jobs : List JobRow)

/-- What the calls of one deployment share: the ledger, the stale setting, and the `TenantSpec` that
`enforce_request_budget` finds for a tenant. -/
structure LedgerConfig where
  kind : LedgerKind
  staleSeconds : Option ℚ
  tenants : String → Option TenantSpec

/-- What a call does to the table of its open transaction, and whether it raises. -/
def LedgerCall.body (cfg : LedgerConfig) (t : UsageTable) :
    LedgerCall → UsageTable × Except LedgerError Unit
  | .reserveWithBudget now jobs args =>
    Gpucall.reserveWithBudget cfg.kind cfg.staleSeconds jobs (cfg.tenants args.tenantId) args now t
  | .releasePlan planId => (Gpucall.releasePlan planId t, .ok ())
  | .commitPlan planId => (Gpucall.commitPlan planId t, .ok ())
  | .spendSince now jobs _ _ => Gpucall.reconcileReservations cfg.kind cfg.staleSeconds jobs now t
  | .reconcileReservations now jobs =>
    Gpucall.reconcileReservations cfg.kind cfg.staleSeconds jobs now t

/-- A transaction commits the table its body leaves, or rolls back when the body raises. -/
def transaction (body : UsageTable → UsageTable × Except LedgerError Unit) (t : UsageTable) :
    UsageTable × Except LedgerError Unit :=
  match body t with
  | (t', .ok ()) => (t', .ok ())
  | (_, .error e) => (t, .error e)

def LedgerCall.exec (cfg : LedgerConfig) (t : UsageTable) (call : LedgerCall) :
    UsageTable × Except LedgerError Unit :=
  transaction (fun t => call.body cfg t) t

/-- The table after a sequence of calls. -/
def runCalls (cfg : LedgerConfig) (t : UsageTable) (calls : List LedgerCall) : UsageTable :=
  calls.foldl (fun t call => (call.exec cfg t).1) t

/-- The value `spend_since` returns, read from the table its sweep leaves. -/
def spendSince (cfg : LedgerConfig) (now : DateTime) (jobs : List JobRow) (tenantId : String)
    (since : DateTime) (t : UsageTable) : Except LedgerError ℚ≥0 :=
  match reconcileReservations cfg.kind cfg.staleSeconds jobs now t with
  | (_, .error e) => .error e
  | (t, .ok ()) => .ok (spendSinceRow t tenantId since)

/-! ## Basic facts -/

@[simp] theorem runCalls_nil : runCalls cfg t [] = t := rfl

@[simp] theorem runCalls_cons :
    runCalls cfg t (call :: calls) = runCalls cfg (call.exec cfg t).1 calls := rfl

theorem runCalls_append : runCalls cfg t (as ++ bs) = runCalls cfg (runCalls cfg t as) bs :=
  List.foldl_append

@[simp] theorem settle_nil : settle status p [] = [] := rfl

@[simp] theorem settle_append : settle status p (s ++ t) = settle status p s ++ settle status p t :=
  List.map_append

@[simp] theorem length_settle : (settle status p t).length = t.length := List.length_map _

/-- What a transaction leaves: the body's table when it returned, the old one when it raised. -/
theorem transaction_cases (body : UsageTable → UsageTable × Except LedgerError Unit)
    (t : UsageTable) :
    (transaction body t = ((body t).1, .ok ()) ∧ (body t).2 = .ok ()) ∨
      ∃ e, transaction body t = (t, .error e) ∧ (body t).2 = .error e := by
  unfold transaction
  rcases body t with ⟨t', e | ⟨⟩⟩
  · exact .inr ⟨e, rfl, rfl⟩
  · exact .inl ⟨rfl, rfl⟩

/-! ## The rows of a plan -/

/-- The states of the rows of a plan. -/
def planStatuses (ledger : UsageTable) (planId : String) : List UsageStatus :=
  (ledger.filter (·.planId = some planId)).map (·.status)

/-- What a `release_plan` or a `commit_plan` makes of the state of a row of the plan. -/
def settledAs (planId : String) (status current : UsageStatus) : UsageStatus :=
  if planId ≠ "" ∧ current = .reserved then status else current

theorem planStatuses_cons (row : UsageRow) (ledger : UsageTable) (planId : String) :
    planStatuses (row :: ledger) planId =
      (if row.planId = some planId then [row.status] else []) ++ planStatuses ledger planId := by
  by_cases h : row.planId = some planId <;> simp [planStatuses, h]

theorem planStatuses_settlePlan (status : UsageStatus) (planId : String) (ledger : UsageTable) :
    planStatuses (settlePlan status (some planId) ledger) planId =
      (planStatuses ledger planId).map (settledAs planId status) := by
  by_cases hid : planId = ""
  · subst hid
    have hself : settledAs "" status = id := by
      funext current
      simp [settledAs]
    simp [settlePlan, hself]
  · rw [show settlePlan status (some planId) ledger =
        settle status (fun r => r.planId = some planId) ledger by
      unfold settlePlan
      split <;> simp_all]
    induction ledger with
    | nil => rfl
    | cons row ledger ih =>
      rw [settle, List.map_cons, ← settle, planStatuses_cons, planStatuses_cons, ih, List.map_append]
      congr 1
      by_cases hplan : row.planId = some planId
      · by_cases hstatus : row.status = .reserved <;> simp [hplan, hstatus, settledAs, hid]
      · simp [hplan]

/-- The rows of other plans stay as they are. -/
theorem planStatuses_settlePlan_of_ne (status : UsageStatus) {planId other : String}
    (h : other ≠ planId) (ledger : UsageTable) :
    planStatuses (settlePlan status (some other) ledger) planId = planStatuses ledger planId := by
  unfold settlePlan
  split
  · rfl
  · rfl
  · rename_i heq
    obtain rfl := Option.some.inj heq
    induction ledger with
    | nil => rfl
    | cons row ledger ih =>
      rw [settle, List.map_cons, ← settle, planStatuses_cons, planStatuses_cons, ih]
      congr 1
      by_cases hplan : row.planId = some planId
      · simp [hplan, Ne.symm h]
      · split
        · simp
        · rfl

end Gpucall
