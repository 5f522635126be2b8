import Gpucall.Tenant.Ledger

/-! The budget ceiling. `LedgerCall.exec_cases` says once what a ledger call can do to the table:
nothing, settle some reservations, or settle some and append one row that passed the budget checks.
Settling never raises a charged sum, and the check of an appended row looks at every row from the
start of its own day (month) on, so at all rows of that day (month) whatever their order of
insertion. -/

namespace Gpucall

/-- The row `r` is `r'`, or was reserved and got another status. -/
inductive UsageRow.Settles : UsageRow → UsageRow → Prop
  | same : Settles r r
  | settled (s : UsageStatus) : r.status = .reserved → Settles r { r with status := s }

/-- `t'` is `t` with some reservations settled. -/
def Settles (t t' : UsageTable) : Prop := List.Forall₂ UsageRow.Settles t t'

namespace Settles

theorem refl (t : UsageTable) : Settles t t :=
  List.forall₂_same.mpr fun _ _ => .same

theorem trans (h : Settles t₁ t₂) (h' : Settles t₂ t₃) : Settles t₁ t₃ := by
  induction h generalizing t₃ with
  | nil => cases h'; exact .nil
  | cons hr _ ih =>
    cases h' with
    | cons hr' h' =>
      refine .cons ?_ (ih h')
      cases hr with
      | same => exact hr'
      | settled s hs =>
        cases hr' with
        | same => exact .settled s hs
        | settled s' _ => exact .settled s' hs

end Settles

theorem settle_settles (status : UsageStatus) (p : UsageRow → Bool) (t : UsageTable) :
    Settles t (settle status p t) := by
  induction t with
  | nil => exact .nil
  | cons r t ih =>
    refine .cons ?_ ih
    by_cases h : r.status = .reserved ∧ p r = true
    · simpa [h] using UsageRow.Settles.settled status h.1
    · have h : (decide (r.status = .reserved) && p r) = false := by simpa using h
      simpa [h] using UsageRow.Settles.same

theorem settlePlan_settles (status : UsageStatus) (planId : Option String) (t : UsageTable) :
    Settles t (settlePlan status planId t) := by
  unfold settlePlan
  split
  · exact .refl t
  · exact .refl t
  · exact settle_settles ..

theorem releaseStale_settles (cutoff : Option DateTime) (t : UsageTable) :
    Settles t (releaseStale cutoff t) := by
  cases cutoff with
  | none => exact .refl t
  | some cutoff => exact settle_settles ..

theorem releaseStaleWithoutJob_settles (jobs : List JobRow) (cutoff : Option DateTime)
    (t : UsageTable) : Settles t (releaseStaleWithoutJob jobs cutoff t) := by
  cases cutoff with
  | none => exact .refl t
  | some cutoff => exact settle_settles ..

theorem reconcileReservations_settles (kind : LedgerKind) (setting : Option ℚ)
    (jobs : List JobRow) (now : DateTime) (t : UsageTable) :
    Settles t (reconcileReservations kind setting jobs now t).1 := by
  have hterminal : Settles t (commitTerminal jobs (releaseTerminal jobs t)) :=
    (settle_settles ..).trans (settle_settles ..)
  unfold reconcileReservations
  cases kind with
  | sqlite =>
    cases staleReservationCutoff setting now with
    | error e => exact .refl t
    | ok cutoff => exact releaseStale_settles cutoff t
  | postgres =>
    cases staleReservationCutoff setting now with
    | error e => exact hterminal
    | ok cutoff => exact hterminal.trans (releaseStaleWithoutJob_settles jobs cutoff _)

/-- What a ledger call can do to the table. -/
theorem LedgerCall.exec_cases (cfg : LedgerConfig) (t : UsageTable) (call : LedgerCall) :
    (∃ e, call.exec cfg t = (t, .error e)) ∨
      (∃ t', call.exec cfg t = (t', .ok ()) ∧ Settles t t') ∨
      ∃ now jobs args t', call = .reserveWithBudget now jobs args ∧ Settles t t' ∧
        budgetError (cfg.tenants args.tenantId) args now t' = none ∧
        call.exec cfg t = (t' ++ [args.row now], .ok ()) := by
  rcases transaction_cases (fun t => call.body cfg t) t with ⟨hexec, hok⟩ | ⟨e, hexec, -⟩
  · refine .inr ?_
    change call.exec cfg t = _ at hexec
    rw [hexec]
    cases call with
    | releasePlan planId => exact .inl ⟨_, rfl, settlePlan_settles ..⟩
    | commitPlan planId => exact .inl ⟨_, rfl, settlePlan_settles ..⟩
    | spendSince now jobs tenantId since => exact .inl ⟨_, rfl, reconcileReservations_settles ..⟩
    | reconcileReservations now jobs => exact .inl ⟨_, rfl, reconcileReservations_settles ..⟩
    | reserveWithBudget now jobs args =>
      have hs := reconcileReservations_settles cfg.kind cfg.staleSeconds jobs now t
      simp only [LedgerCall.body, Gpucall.reserveWithBudget] at hok ⊢
      rcases hr : Gpucall.reconcileReservations cfg.kind cfg.staleSeconds jobs now t
        with ⟨t', e | ⟨⟩⟩
      · simp [hr] at hok
      · rw [hr] at hs
        cases hb : budgetError (cfg.tenants args.tenantId) args now t' with
        | some e => simp [hr, hb] at hok
        | none => exact .inr ⟨now, jobs, args, t', rfl, hs, hb, by simp [hb]⟩
  · exact .inl ⟨e, hexec⟩

/-! ## Charged sums -/

/-- What one row adds to a charged sum. -/
def UsageRow.charge (tenantId : String) (window : DateTime → Bool) (r : UsageRow) : ℚ≥0 :=
  if r.tenantId = tenantId && window r.recordedAt && r.charged then r.estimatedCostUsd else 0

theorem chargedSpend_eq_sum (t : UsageTable) (tenantId : String) (window : DateTime → Bool) :
    chargedSpend t tenantId window = (t.map (UsageRow.charge tenantId window)).sum := by
  induction t with
  | nil => rfl
  | cons r t ih =>
    simp only [chargedSpend, UsageRow.charge, List.filter_cons, List.map_cons, List.sum_cons] at ih ⊢
    split
    · rw [List.map_cons, List.sum_cons, ih]
    · rw [zero_add, ih]

@[simp] theorem chargedSpend_append (s t : UsageTable) (tenantId : String)
    (window : DateTime → Bool) : chargedSpend (s ++ t) tenantId window =
      chargedSpend s tenantId window + chargedSpend t tenantId window := by
  simp [chargedSpend_eq_sum]

theorem chargedSpend_row (args : ReserveArgs) (now : DateTime) (tenantId : String)
    (window : DateTime → Bool) : chargedSpend [args.row now] tenantId window =
      if args.tenantId = tenantId ∧ window now then args.estimatedCostUsd else 0 := by
  simp [chargedSpend_eq_sum, UsageRow.charge, ReserveArgs.row, UsageRow.charged]

theorem UsageRow.Settles.charge_le (h : UsageRow.Settles r r') (tenantId : String)
    (window : DateTime → Bool) : r'.charge tenantId window ≤ r.charge tenantId window := by
  cases h with
  | same => exact le_rfl
  | settled s hs =>
    unfold UsageRow.charge
    split
    · next h =>
      simp only [Bool.and_eq_true, decide_eq_true_eq] at h
      rw [if_pos (by simp [h.1, charged, hs])]
    · exact zero_le

theorem Settles.chargedSpend_le (h : Settles t t') (tenantId : String)
    (window : DateTime → Bool) :
    chargedSpend t' tenantId window ≤ chargedSpend t tenantId window := by
  rw [chargedSpend_eq_sum, chargedSpend_eq_sum]
  induction h with
  | nil => exact le_rfl
  | cons hr _ ih =>
    rw [List.map_cons, List.map_cons, List.sum_cons, List.sum_cons]
    exact add_le_add (hr.charge_le tenantId window) ih

theorem chargedSpend_mono {window window' : DateTime → Bool}
    (h : ∀ x, window x = true → window' x = true) (t : UsageTable) (tenantId : String) :
    chargedSpend t tenantId window ≤ chargedSpend t tenantId window' := by
  rw [chargedSpend_eq_sum, chargedSpend_eq_sum]
  apply List.sum_le_sum
  intro r _
  unfold UsageRow.charge
  split
  · next hr =>
    simp only [Bool.and_eq_true] at hr
    rw [if_pos (by simp [hr.1.1, hr.2, h _ hr.1.2])]
  · exact zero_le

/-! ## Budgets over the days and over the months

The two ceilings are one statement about a partition of the timeline: `bucket` names the part an
instant lies in and `start` is where the check of a reservation at `now` begins to look. -/

section
variable {κ : Type} [DecidableEq κ] (bucket : DateTime → κ) (start : DateTime → DateTime)

/-- In every part the tenant's charged sum is within the budget. -/
def WithinBudget (budget : ℚ≥0) (tenantId : String) (t : UsageTable) : Prop :=
  ∀ k, chargedSpend t tenantId (fun x => bucket x = k) ≤ budget

variable {bucket start}

theorem WithinBudget.settles (h : WithinBudget bucket budget tenantId t) (hs : Settles t t') :
    WithinBudget bucket budget tenantId t' :=
  fun k => (hs.chargedSpend_le tenantId _).trans (h k)

/-- A reservation that passed the check from `start now` on keeps the part of `now` within the
budget; the other parts do not change. -/
theorem WithinBudget.append {args : ReserveArgs} (hstart : ∀ {now x}, bucket x = bucket now → start now ≤ x)
    (h : WithinBudget bucket budget tenantId t)
    (hcheck : args.tenantId = tenantId →
      spendSinceRow t tenantId (start now) + args.estimatedCostUsd ≤ budget) :
    WithinBudget bucket budget tenantId (t ++ [args.row now]) := by
  intro k
  rw [chargedSpend_append, chargedSpend_row]
  split
  · next hrow =>
    obtain ⟨htenant, hk⟩ := hrow
    have hk : bucket now = k := by simpa using hk
    refine le_trans (add_le_add_left ?_ _) (hcheck htenant)
    apply chargedSpend_mono
    intro x hx
    have hx : bucket x = bucket now := by rw [hk]; simpa using hx
    simpa using hstart hx
  · rw [add_zero]
    exact h k

end

/-- A reservation that raised nothing passed the daily and the monthly check. -/
theorem budgetError_eq_none (h : budgetError (some spec) args now t = none) :
    (∀ budget, spec.dailyBudgetUsd = some budget →
      spendSinceRow t args.tenantId now.dayStart + args.estimatedCostUsd ≤ budget) ∧
    ∀ budget, spec.monthlyBudgetUsd = some budget →
      spendSinceRow t args.tenantId now.monthStart + args.estimatedCostUsd ≤ budget := by
  simp only [budgetError, Option.bind_eq_bind, Option.orElse_eq_none] at h
  obtain ⟨-, hday, hmonth⟩ := h
  constructor
  · intro budget hb
    simpa [hb] using hday
  · intro budget hb
    simpa [hb] using hmonth

/-- Both ceilings of a tenant. -/
def WithinCeilings (spec : TenantSpec) (tenantId : String) (t : UsageTable) : Prop :=
  (∀ budget, spec.dailyBudgetUsd = some budget →
    WithinBudget DateTime.date budget tenantId t) ∧
  ∀ budget, spec.monthlyBudgetUsd = some budget →
    WithinBudget DateTime.yearMonth budget tenantId t

theorem withinCeilings_nil (spec : TenantSpec) (tenantId : String) :
    WithinCeilings spec tenantId [] :=
  ⟨fun _ _ _ => zero_le, fun _ _ _ => zero_le⟩

theorem WithinCeilings.settles (h : WithinCeilings spec tenantId t) (hs : Settles t t') :
    WithinCeilings spec tenantId t' :=
  ⟨fun budget hb => (h.1 budget hb).settles hs, fun budget hb => (h.2 budget hb).settles hs⟩

/-- A row that passed the checks keeps the ceilings. The checks concern the row's own tenant; for
another tenant there is nothing to check. -/
theorem WithinCeilings.append {args : ReserveArgs} (hspec : cfg.tenants tenantId = some spec)
    (h : WithinCeilings spec tenantId t)
    (hb : budgetError (LedgerConfig.tenants cfg args.tenantId) args now t = none) :
    WithinCeilings spec tenantId (t ++ [args.row now]) := by
  refine ⟨fun budget hbud => ?_, fun budget hbud => ?_⟩
  · refine (h.1 budget hbud).append DateTime.dayStart_le_of_date_eq fun ht => ?_
    rw [ht, hspec] at hb
    exact ht ▸ (budgetError_eq_none hb).1 budget hbud
  · refine (h.2 budget hbud).append DateTime.monthStart_le_of_yearMonth_eq fun ht => ?_
    rw [ht, hspec] at hb
    exact ht ▸ (budgetError_eq_none hb).2 budget hbud

theorem LedgerCall.exec_withinCeilings {call : LedgerCall} (hspec : cfg.tenants tenantId = some spec)
    (h : WithinCeilings spec tenantId t) :
    WithinCeilings spec tenantId (LedgerCall.exec cfg t call).1 := by
  rcases LedgerCall.exec_cases cfg t call with
    ⟨e, hexec⟩ | ⟨t', hexec, hs⟩ | ⟨now, jobs, args, t', rfl, hs, hb, hexec⟩
  · rw [hexec]
    exact h
  · rw [hexec]
    exact h.settles hs
  · rw [hexec]
    exact (h.settles hs).append hspec hb

theorem runCalls_withinCeilings (hspec : cfg.tenants tenantId = some spec)
    (h : WithinCeilings spec tenantId t) (calls : List LedgerCall) :
    WithinCeilings spec tenantId (runCalls cfg t calls) := by
  induction calls generalizing t with
  | nil => exact h
  | cons call calls ih => exact ih (LedgerCall.exec_withinCeilings hspec h)

theorem LedgerCall.exec_fst_of_error {call : LedgerCall}
    (h : (LedgerCall.exec cfg t call).2 = .error e) :
    (LedgerCall.exec cfg t call).1 = t := by
  rcases LedgerCall.exec_cases cfg t call with
    ⟨_, hexec⟩ | ⟨_, hexec, -⟩ | ⟨_, _, _, _, -, -, -, hexec⟩
  · rw [hexec]
  · rw [hexec] at h
    cases h
  · rw [hexec] at h
    cases h

/-- **The budget ceiling.** After every sequence of ledger calls, whatever their clock readings, the
charged rows of a tenant recorded on one day (in one month) cost at most the daily (monthly) budget,
and a call that raises `TenantBudgetError` leaves the table as it was. -/
theorem budget_ceiling (cfg : LedgerConfig) (tenantId : String) (spec : TenantSpec)
    (hspec : cfg.tenants tenantId = some spec) (calls : List LedgerCall) :
    (∀ budget, spec.dailyBudgetUsd = some budget → ∀ day : ℕ × ℕ × ℕ,
      chargedSpend (runCalls cfg [] calls) tenantId (fun x => x.date = day) ≤ budget) ∧
    (∀ budget, spec.monthlyBudgetUsd = some budget → ∀ month : ℕ × ℕ,
      chargedSpend (runCalls cfg [] calls) tenantId (fun x => x.yearMonth = month) ≤ budget) ∧
    ∀ (call : LedgerCall) (e : TenantBudgetError),
      (call.exec cfg (runCalls cfg [] calls)).2 = .error (.tenantBudget e) →
        (call.exec cfg (runCalls cfg [] calls)).1 = runCalls cfg [] calls := by
  have h := runCalls_withinCeilings hspec (withinCeilings_nil spec tenantId) calls
  exact ⟨h.1, h.2, fun call e he => LedgerCall.exec_fst_of_error he⟩

/-- A tenant with a budget of ten dollars a day. -/
def tenADay : LedgerConfig where
  kind := .sqlite
  staleSeconds := none
  tenants := fun _ => some { name := "acme", dailyBudgetUsd := some 10 }

def oneHourLater : DateTime := { year := 2024, month := 1, day := 1, hour := 1 }

/-- Reservations of six dollars at 01:00 and, with a clock reading from before, at 00:30. -/
def twoSixes : List LedgerCall :=
  [.reserveWithBudget oneHourLater []
      { tenantId := "acme", estimatedCostUsd := 6, planId := some "plan-1" },
    .reserveWithBudget { year := 2024, month := 1, day := 1, minute := 30 } []
      { tenantId := "acme", estimatedCostUsd := 6, planId := some "plan-2" }]

theorem budget_ceiling_twoSixes :
    chargedSpend (runCalls tenADay [] twoSixes) "acme" (fun x => x.date = (2024, 1, 1)) ≤ 10 ∧
      0 < chargedSpend (runCalls tenADay [] twoSixes) "acme" (fun x => x.date = (2024, 1, 1)) :=
  ⟨(budget_ceiling tenADay "acme" _ rfl twoSixes).1 10 rfl (2024, 1, 1), by decide +kernel⟩

end Gpucall
