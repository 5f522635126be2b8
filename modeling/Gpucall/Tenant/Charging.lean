import Gpucall.Tenant.Budget

/-! When completed work is charged by the SQLite ledger. A reservation is followed at its position in
the table: a settled row never changes again, and a reserved one changes only by its own plan's
`release_plan` or `commit_plan` and by the sweep of some call's stale reservations. `commit_plan`
touches reserved rows only, so a commit charges the work exactly when no sweep came first
(`charged_iff_unswept`). -/

namespace Gpucall

variable {cfg : LedgerConfig} {t t' : UsageTable} {r : UsageRow} {k : ℕ} {call : LedgerCall}
  {calls : List LedgerCall} {now : DateTime} {args : ReserveArgs}

/-! ## One row through a run -/

theorem Settles.getElem?_eq (h : Settles t t') (hget : t[k]? = some r)
    (hr : r.status ≠ .reserved) : t'[k]? = some r := by
  induction h generalizing k with
  | nil => simp at hget
  | cons hrow _ ih =>
    cases k with
    | zero =>
      simp only [List.getElem?_cons_zero, Option.some.injEq] at hget ⊢
      subst hget
      cases hrow with
      | same => rfl
      | settled s hs => exact (hr hs).elim
    | succ k => exact ih (by simpa using hget)

/-- A settled row is the same after every call. -/
theorem LedgerCall.exec_getElem?_eq (hget : t[k]? = some r) (hr : r.status ≠ .reserved) :
    (LedgerCall.exec cfg t call).1[k]? = some r := by
  rcases LedgerCall.exec_cases cfg t call with
    ⟨e, hexec⟩ | ⟨t', hexec, hs⟩ | ⟨now, jobs, args, t', rfl, hs, -, hexec⟩
  · rw [hexec]
    exact hget
  · rw [hexec]
    exact hs.getElem?_eq hget hr
  · rw [hexec]
    have hk := hs.getElem?_eq hget hr
    rw [List.getElem?_append_left (List.getElem?_eq_some_iff.mp hk).1]
    exact hk

theorem runCalls_getElem?_eq (hget : t[k]? = some r) (hr : r.status ≠ .reserved)
    (calls : List LedgerCall) : (runCalls cfg t calls)[k]? = some r := by
  induction calls generalizing t with
  | nil => exact hget
  | cons call calls ih => exact ih (LedgerCall.exec_getElem?_eq hget hr)

/-- The clock reading of a call that sweeps. -/
def LedgerCall.clock : LedgerCall → Option DateTime
  | .reserveWithBudget now _ _ | .spendSince now _ _ _ | .reconcileReservations now _ => some now
  | .releasePlan _ | .commitPlan _ => none

/-- `recorded_at < cutoff` for the cutoff of a clock reading. -/
def UsageRow.Stale (setting : Option ℚ) (now : DateTime) (r : UsageRow) : Prop :=
  ∃ cutoff, staleReservationCutoff setting now = .ok (some cutoff) ∧ r.recordedAt < cutoff

/-- The call sweeps the row, and the sweep is not rolled back. -/
def LedgerCall.Sweeps (cfg : LedgerConfig) (t : UsageTable) (r : UsageRow) (call : LedgerCall) :
    Prop :=
  ∃ now, call.clock = some now ∧ (call.exec cfg t).2 = .ok () ∧ r.Stale cfg.staleSeconds now

theorem getElem?_settle_of_pos (hget : t[k]? = some r) (hr : r.status = .reserved)
    (hp : p r = true) : (settle s p t)[k]? = some { r with status := s } := by
  simp [settle, List.getElem?_map, hget, hr, hp]

theorem getElem?_settle_of_neg (hget : t[k]? = some r) (hp : p r = false) :
    (settle s p t)[k]? = some r := by
  simp [settle, List.getElem?_map, hget, hp]

/-- The table that a successful sweeping call leaves, at the positions it had before. -/
theorem LedgerCall.exec_sweep (hkind : cfg.kind = .sqlite)
    (hclock : LedgerCall.clock call = some now) (hok : (LedgerCall.exec cfg t call).2 = .ok ())
    (hk : k < t.length) : ∃ cutoff, staleReservationCutoff cfg.staleSeconds now = .ok cutoff ∧
      (LedgerCall.exec cfg t call).1[k]? = (releaseStale cutoff t)[k]? := by
  have hlen : ∀ cutoff, (releaseStale cutoff t).length = t.length := by
    intro cutoff
    cases cutoff with
    | none => rfl
    | some cutoff => exact length_settle
  cases hcut : staleReservationCutoff cfg.staleSeconds now with
  | error e =>
    -- the cutoff raises, and so does every call that reads it
    cases call with
    | releasePlan p | commitPlan p => cases hclock
    | reserveWithBudget now' jobs args
    | spendSince now' jobs tenantId since
    | reconcileReservations now' jobs =>
      cases hclock
      simp [exec, transaction, body, Gpucall.reserveWithBudget, Gpucall.reconcileReservations, hcut]
        at hok
  | ok cutoff =>
    refine ⟨cutoff, rfl, ?_⟩
    cases call with
    | releasePlan p | commitPlan p => cases hclock
    | spendSince now' jobs tenantId since | reconcileReservations now' jobs =>
      cases hclock
      simp [exec, transaction, body, Gpucall.reconcileReservations, hcut, hkind]
    | reserveWithBudget now' jobs args =>
      cases hclock
      simp only [exec, transaction, body, Gpucall.reserveWithBudget,
        Gpucall.reconcileReservations, hcut, hkind] at hok ⊢
      cases hb : budgetError (cfg.tenants args.tenantId) args now (releaseStale cutoff t) with
      | some e => simp [hb] at hok
      | none => simp only [List.getElem?_append_left (hk.trans_eq (hlen cutoff).symm)]

theorem LedgerCall.exec_of_sweeps (hkind : cfg.kind = .sqlite)
    (hget : t[k]? = some r) (hr : r.status = .reserved) (h : LedgerCall.Sweeps cfg t r call) :
    (LedgerCall.exec cfg t call).1[k]? = some { r with status := .released } := by
  obtain ⟨now, hclock, hok, cutoff, hcut, hlt⟩ := h
  have hk := (List.getElem?_eq_some_iff.mp hget).1
  obtain ⟨cutoff', hcut', hexec⟩ := exec_sweep hkind hclock hok hk
  cases hcut.symm.trans hcut'
  rw [hexec]
  exact getElem?_settle_of_pos hget hr (by simpa using hlt)

/-- A reserved row survives a call that neither sweeps it nor settles its plan. -/
theorem LedgerCall.exec_of_not_sweeps (hkind : cfg.kind = .sqlite)
    (hget : t[k]? = some r) (hrel : call ≠ .releasePlan r.planId)
    (hcom : call ≠ .commitPlan r.planId) (h : ¬LedgerCall.Sweeps cfg t r call) :
    (LedgerCall.exec cfg t call).1[k]? = some r := by
  have hk := (List.getElem?_eq_some_iff.mp hget).1
  have hplan : ∀ status planId, planId ≠ r.planId →
      (settlePlan status planId t)[k]? = some r := by
    intro status planId hne
    unfold settlePlan
    split
    · exact hget
    · exact hget
    · exact getElem?_settle_of_neg hget (by simpa using hne.symm)
  cases hclock : call.clock with
  | none =>
    cases call with
    | releasePlan planId => exact hplan _ _ fun h => hrel (by rw [h])
    | commitPlan planId => exact hplan _ _ fun h => hcom (by rw [h])
    | reserveWithBudget | spendSince | reconcileReservations => cases hclock
  | some now =>
    cases hok : (call.exec cfg t).2 with
    | error e =>
      rw [exec_fst_of_error hok]
      exact hget
    | ok u =>
      obtain ⟨cutoff, hcut, hexec⟩ := exec_sweep hkind hclock hok hk
      rw [hexec]
      cases cutoff with
      | none => exact hget
      | some cutoff =>
        refine getElem?_settle_of_neg hget ?_
        simp only [decide_eq_false_iff_not]
        exact fun hlt => h ⟨now, hclock, hok, cutoff, hcut, hlt⟩

/-- The plan's own commit: it commits the reservation unless the plan id is empty. -/
theorem LedgerCall.exec_commitPlan (hget : t[k]? = some r) (hr : r.status = .reserved)
    (hplan : r.planId = some planId) (hne : planId ≠ "") :
    (LedgerCall.exec cfg t (.commitPlan r.planId)).1[k]? =
      some { r with status := .committed } := by
  have h := getElem?_settle_of_pos (s := .committed) (p := fun r => r.planId = some planId)
    hget hr (by simpa using hplan)
  simpa [exec, transaction, body, Gpucall.commitPlan, settlePlan, hplan, hne] using h

/-! ## The run between a reservation and its commit -/

/-- No sweep that takes effect hits the row before its plan is committed. -/
def Unswept (cfg : LedgerConfig) (r : UsageRow) : UsageTable → List LedgerCall → Prop
  | _, [] => True
  | t, call :: calls => call = .commitPlan r.planId ∨
      ¬call.Sweeps cfg t r ∧ Unswept cfg r (call.exec cfg t).1 calls

/-- Until its plan is released, an unswept reservation is still reserved or already committed, and a
swept one is released. -/
theorem runCalls_reserved (hkind : cfg.kind = .sqlite)
    (hget : t[k]? = some r) (hr : r.status = .reserved) (hplan : r.planId = some planId)
    (hne : planId ≠ "") (hrel : LedgerCall.releasePlan r.planId ∉ calls) :
    (Unswept cfg r t calls ∧
      ((runCalls cfg t calls)[k]? = some r ∨
        (runCalls cfg t calls)[k]? = some { r with status := .committed })) ∨
    (¬Unswept cfg r t calls ∧
      (runCalls cfg t calls)[k]? = some { r with status := .released }) := by
  induction calls generalizing t with
  | nil => exact .inl ⟨trivial, .inl hget⟩
  | cons call calls ih =>
    rw [List.mem_cons, not_or] at hrel
    by_cases hcom : call = .commitPlan r.planId
    · subst hcom
      have hc : (LedgerCall.exec cfg t _).1[k]? = _ :=
        LedgerCall.exec_commitPlan hget hr hplan hne
      exact .inl ⟨.inl rfl, .inr (runCalls_getElem?_eq hc (by simp) calls)⟩
    by_cases hsweep : call.Sweeps cfg t r
    · have hs := LedgerCall.exec_of_sweeps hkind hget hr hsweep
      refine .inr ⟨?_, runCalls_getElem?_eq hs (by simp) calls⟩
      rintro (h | h)
      · exact hcom h
      · exact h.1 hsweep
    have hnext := LedgerCall.exec_of_not_sweeps hkind hget (Ne.symm hrel.1) hcom hsweep
    simpa [Unswept, hcom, hsweep] using ih hnext hrel.2

/-- A reservation of the empty plan id is never committed. -/
theorem runCalls_emptyPlan (hget : t[k]? = some r)
    (hplan : r.planId = some "") (hr : r.status ≠ .committed) (hkind : cfg.kind = .sqlite)
    (calls : List LedgerCall) : ∃ r', (runCalls cfg t calls)[k]? = some r' ∧
      r'.status ≠ .committed := by
  induction calls generalizing t r with
  | nil => exact ⟨r, hget, hr⟩
  | cons call calls ih =>
    have hsame : ∀ status, (settlePlan status r.planId t)[k]? = some r := by
      intro status
      simpa [settlePlan, hplan] using hget
    by_cases hreserved : r.status = .reserved
    · by_cases hsweep : call.Sweeps cfg t r
      · exact ih (LedgerCall.exec_of_sweeps hkind hget hreserved hsweep) hplan (by simp)
      by_cases hrel : call = .releasePlan r.planId
      · subst hrel
        exact ih (hsame _) hplan hr
      by_cases hcom : call = .commitPlan r.planId
      · subst hcom
        exact ih (hsame _) hplan hr
      exact ih (LedgerCall.exec_of_not_sweeps hkind hget hrel hcom hsweep) hplan hr
    · exact ih (LedgerCall.exec_getElem?_eq hget hreserved) hplan hr

/-! ## Completed work is charged -/

/-- The row at position `k` is committed, and `spend_since` counts its cost in every window that
starts no later than the row was recorded: the sum is the cost and what the other rows add. -/
def ChargedAt (cfg : LedgerConfig) (t : UsageTable) (k : Nat) (r : UsageRow) : Prop :=
  t[k]? = some { r with status := .committed } ∧
  ∀ now jobs since spend, since ≤ r.recordedAt →
    spendSince cfg now jobs r.tenantId since t = .ok spend →
    spend = r.estimatedCostUsd + spendSinceRow
      ((reconcileReservations cfg.kind cfg.staleSeconds jobs now t).1.eraseIdx k) r.tenantId since

/-- A charged row in the window is one summand of the spend. -/
theorem spendSinceRow_eq_add_eraseIdx (hget : t[k]? = some r) (hr : r.charged = true)
    (hsince : since ≤ r.recordedAt) : spendSinceRow t r.tenantId since =
      r.estimatedCostUsd + spendSinceRow (t.eraseIdx k) r.tenantId since := by
  have hcharge : r.charge r.tenantId (since ≤ ·) = r.estimatedCostUsd := by
    simp [UsageRow.charge, hr, hsince]
  unfold spendSinceRow
  rw [chargedSpend_eq_sum, chargedSpend_eq_sum]
  induction t generalizing k with
  | nil => simp at hget
  | cons r' t ih =>
    cases k with
    | zero =>
      simp only [List.getElem?_cons_zero, Option.some.injEq] at hget
      subst hget
      rw [List.eraseIdx_cons_zero, List.map_cons, List.sum_cons, hcharge]
    | succ k =>
      rw [List.eraseIdx_cons_succ, List.map_cons, List.map_cons, List.sum_cons, List.sum_cons,
        ih (by simpa using hget), add_left_comm]

theorem chargedAt_of_committed (hget : t[k]? = some { r with status := .committed }) :
    ChargedAt cfg t k r := by
  refine ⟨hget, fun now jobs since spend hsince hspend => ?_⟩
  have hs := (reconcileReservations_settles cfg.kind cfg.staleSeconds jobs now t).getElem?_eq hget
    (by simp)
  unfold spendSince at hspend
  rcases hrec : reconcileReservations cfg.kind cfg.staleSeconds jobs now t with ⟨t', e | ⟨⟩⟩
  · simp [hrec] at hspend
  · rw [hrec] at hs hspend
    cases hspend
    exact spendSinceRow_eq_add_eraseIdx (r := { r with status := .committed }) hs rfl hsince

/-- A successful reservation appends its row. -/
theorem LedgerCall.exec_reserve_getElem?
    (hok : (LedgerCall.exec cfg t (.reserveWithBudget now jobs args)).2 = .ok ()) :
    (LedgerCall.exec cfg t (.reserveWithBudget now jobs args)).1[t.length]? =
      some (args.row now) := by
  rcases transaction_cases (fun t => (LedgerCall.reserveWithBudget now jobs args).body cfg t) t
    with ⟨hexec, hbody⟩ | ⟨e, hexec, -⟩
  · have hs := reconcileReservations_settles cfg.kind cfg.staleSeconds jobs now t
    change LedgerCall.exec cfg t _ = _ at hexec
    rw [hexec]
    simp only [body, Gpucall.reserveWithBudget] at hbody ⊢
    rcases hr : Gpucall.reconcileReservations cfg.kind cfg.staleSeconds jobs now t
      with ⟨t', e | ⟨⟩⟩
    · simp [hr] at hbody
    · rw [hr] at hs
      cases hb : budgetError (cfg.tenants args.tenantId) args now t' with
      | some e => simp [hr, hb] at hbody
      | none => simp [hb, (List.Forall₂.length_eq hs)]
  · change LedgerCall.exec cfg t _ = _ at hexec
    rw [hexec] at hok
    cases hok

/-- The SQLite ledger under a stale setting and the tenants' specs. -/
def sqliteLedger (staleSeconds : Option ℚ) (tenants : String → Option TenantSpec) :
    LedgerConfig where
  kind := .sqlite
  staleSeconds := staleSeconds
  tenants := tenants

/-- The run `before`, the reservation, `between`, the plan's commit and `after`, where the owner
never releases the plan, charges the plan's row from the commit on. -/
def ChargedAfterCommit (cfg : LedgerConfig) (before : List LedgerCall) (now : DateTime)
    (args : ReserveArgs) (between : List LedgerCall) : Prop :=
  ∀ after : List LedgerCall, .releasePlan args.planId ∉ after →
    ChargedAt cfg
      (runCalls cfg [] (before ++ .reserveWithBudget now [] args :: between ++
        .commitPlan args.planId :: after))
      (runCalls cfg [] before).length (args.row now)

/-- **Completed work is charged exactly when no sweep came before the commit.** For every run of the
SQLite ledger in which a reservation succeeds and its owner commits and never releases the plan: the
row is committed and counted from then on if and only if the plan id is not empty and no successful
call between the two swept the row as stale. -/
theorem charged_iff_unswept (staleSeconds : Option ℚ) (tenants : String → Option TenantSpec)
    (before between : List LedgerCall) (now : DateTime) (args : ReserveArgs) (planId : String)
    (hplan : args.planId = some planId)
    (hok : (LedgerCall.exec (sqliteLedger staleSeconds tenants)
      (runCalls (sqliteLedger staleSeconds tenants) [] before)
      (.reserveWithBudget now [] args)).2 = .ok ())
    (hrel : LedgerCall.releasePlan args.planId ∉ between) :
    ChargedAfterCommit (sqliteLedger staleSeconds tenants) before now args between ↔
      planId ≠ "" ∧ Unswept (sqliteLedger staleSeconds tenants) (args.row now)
        (runCalls (sqliteLedger staleSeconds tenants) []
          (before ++ [.reserveWithBudget now [] args])) between := by
  set cfg := sqliteLedger staleSeconds tenants with hcfg
  have hkind : cfg.kind = .sqlite := rfl
  set k := (runCalls cfg [] before).length with hk
  have hget : (runCalls cfg [] (before ++ [.reserveWithBudget now [] args]))[k]? =
      some (args.row now) := by
    rw [runCalls_append]
    exact LedgerCall.exec_reserve_getElem? hok
  set t := runCalls cfg [] (before ++ [.reserveWithBudget now [] args]) with ht
  have hrun : ∀ after, runCalls cfg [] (before ++ .reserveWithBudget now [] args :: between ++
      .commitPlan args.planId :: after) =
      runCalls cfg (runCalls cfg t between) (.commitPlan args.planId :: after) := by
    intro after
    rw [ht, ← runCalls_append, ← runCalls_append]
    simp
  constructor
  · intro hcharged
    have hcommitted := (hcharged [] (by simp)).1
    rw [hrun] at hcommitted
    have hne : planId ≠ "" := by
      rintro rfl
      obtain ⟨r', hr', hne⟩ := runCalls_emptyPlan hget hplan (by simp [ReserveArgs.row]) hkind
        (between ++ [.commitPlan args.planId])
      rw [runCalls_append, hcommitted] at hr'
      cases hr'
      exact hne rfl
    refine ⟨hne, ?_⟩
    by_contra hswept
    rcases runCalls_reserved hkind hget rfl hplan hne hrel with ⟨hun, -⟩ | ⟨-, hreleased⟩
    · exact hswept hun
    · have h : (runCalls cfg (runCalls cfg t between) [.commitPlan args.planId])[k]? = _ :=
        runCalls_getElem?_eq hreleased (by simp) _
      rw [hcommitted] at h
      simp at h
  · rintro ⟨hne, hun⟩ after -
    apply chargedAt_of_committed
    rw [hrun]
    rcases runCalls_reserved hkind hget rfl hplan hne hrel with ⟨-, h | h⟩ | ⟨hswept, -⟩
    · exact runCalls_getElem?_eq (LedgerCall.exec_commitPlan h rfl hplan hne) (by simp) after
    · exact runCalls_getElem?_eq h (by simp) (.commitPlan args.planId :: after)
    · exact (hswept hun).elim

/-- A plan of cost 1 reserved at midnight. -/
def nightlyPlan : ReserveArgs where
  tenantId := "acme"
  estimatedCostUsd := 1
  planId := some "plan-1"

def sevenHoursLater : DateTime := { year := 2024, month := 1, day := 1, hour := 7 }

/-- A report on another tenant's spend. -/
def reportAt (now : DateTime) : LedgerCall := .spendSince now [] "other" midnight

/-- A job that commits within the stale window is charged, reports notwithstanding. -/
theorem charged_iff_unswept_quick : ChargedAfterCommit (sqliteLedger none fun _ => none) []
    midnight nightlyPlan [reportAt oneHourLater] := by
  refine (charged_iff_unswept none (fun _ => none) [] [reportAt oneHourLater] midnight nightlyPlan
    "plan-1" rfl (by decide +kernel) (by simp [reportAt])).mpr ⟨by decide, .inr ⟨?_, trivial⟩⟩
  rintro ⟨now, hclock, -, cutoff, hcut, hlt⟩
  cases hclock
  have hle : ∀ cutoff ∈ (staleReservationCutoff none oneHourLater).toOption.join,
      cutoff ≤ midnight := by decide +kernel
  change staleReservationCutoff none oneHourLater = _ at hcut
  rw [hcut] at hle
  exact absurd hlt (not_lt.mpr (hle cutoff rfl))

/-- The ledger's promise without the proviso: whatever happens between a reservation and its commit,
the work is charged from the commit on. -/
def CompletedWorkCharged : Prop :=
  ∀ (staleSeconds : Option ℚ) (tenants : String → Option TenantSpec)
    (before between after : List LedgerCall) (now : DateTime) (args : ReserveArgs)
    (planId : String), args.planId = some planId →
    ((before ++ .reserveWithBudget now [] args :: between ++
      .commitPlan args.planId :: after).filterMap LedgerCall.clock).Pairwise (· ≤ ·) →
    (LedgerCall.exec (sqliteLedger staleSeconds tenants)
      (runCalls (sqliteLedger staleSeconds tenants) [] before)
      (.reserveWithBudget now [] args)).2 = .ok () →
    .releasePlan args.planId ∉ between → .releasePlan args.planId ∉ after →
    ChargedAt (sqliteLedger staleSeconds tenants)
      (runCalls (sqliteLedger staleSeconds tenants) []
        (before ++ .reserveWithBudget now [] args :: between ++ .commitPlan args.planId :: after))
      (runCalls (sqliteLedger staleSeconds tenants) [] before).length (args.row now)

/-- Seven hours of work and one report on another tenant: the sweep of the report releases the
reservation, and the commit finds nothing to commit. -/
theorem not_completedWorkCharged : ¬CompletedWorkCharged := by
  intro h
  have hcommitted := (h none (fun _ => none) [] [reportAt sevenHoursLater] [] midnight nightlyPlan "plan-1" rfl
    (by decide +kernel) (by decide +kernel) (by simp [reportAt]) (by simp)).1
  revert hcommitted
  decide +kernel

end Gpucall
