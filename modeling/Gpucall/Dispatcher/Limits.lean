import Gpucall.Dispatcher.Inflight

/-! Sequences of calls of one `AdmissionController`: its counts, its limits and its suppressions. -/

namespace Gpucall

/-- A call of `suppress` and the clock it has read. -/
structure Suppression where
  now : ℚ
  tuple : String
  suppressFamily : Bool

/-- The call suppresses the tuple itself, or the family of the tuple. -/
def Suppression.covers (tupleFamilies : Dict String) (s : Suppression) (tuple : String) : Prop :=
  s.tuple = tuple ∨ s.suppressFamily = true ∧
    (tupleFamilies.get? s.tuple).getD s.tuple = (tupleFamilies.get? tuple).getD tuple

/-- What the callers of a controller have seen: the last reading of the clock, the leases granted and
not released, and the calls of `suppress`. -/
structure AdmissionHistory where
  clock : ℚ
  held : List AdmissionLease := []
  suppressions : List Suppression := []

def AdmissionDecision.lease : AdmissionDecision → Option AdmissionLease
  | allowed lease => some lease
  | rejected .. => none

/-- A sequence of calls under a clock that does not go back. A lease is released only while it is
held. -/
inductive AdmissionRun (init : AdmissionController) : AdmissionController → AdmissionHistory → Prop
    where
  | init (clock : ℚ) : AdmissionRun init init { clock }
  | acquire {c c' h now tuple scope decision} : AdmissionRun init c h → h.clock ≤ now →
      c.acquire now tuple scope = (decision, c') →
      AdmissionRun init c' { h with clock := now, held := decision.lease.toList ++ h.held }
  | release {c h now lease} : AdmissionRun init c h → h.clock ≤ now → lease ∈ h.held →
      AdmissionRun init (c.release lease) { h with clock := now, held := h.held.erase lease }
  | suppress {c h now tuple suppressFamily} : AdmissionRun init c h → h.clock ≤ now →
      AdmissionRun init (c.suppress now tuple suppressFamily)
        { h with clock := now, suppressions := ⟨now, tuple, suppressFamily⟩ :: h.suppressions }

/-! ## Limits -/

theorem increment_le {values : String → ℕ} {key : String} {limit : ℕ}
    (h : ∀ name, values name ≤ limit) (hkey : values key < limit) (name : String) :
    increment values key name ≤ limit := by
  by_cases hname : name = key
  · subst hname
    rw [increment, Function.update_self]
    exact hkey
  · simpa [increment, hname] using h name

theorem decrement_le {values : String → ℕ} {limit : ℕ} (h : ∀ name, values name ≤ limit)
    (key name : String) : decrement values key name ≤ limit := by
  by_cases hname : name = key
  · subst hname
    simpa [decrement] using (Nat.pred_le _).trans (h name)
  · simpa [decrement, hname] using h name

/-- The counts are within the limits that are positive. -/
structure WithinLimits (c : AdmissionController) : Prop where
  tuple : 0 < c.tupleLimit → ∀ name, c.tupleInflight name ≤ c.tupleLimit
  family : 0 < c.familyLimit → ∀ name, c.familyInflight name ≤ c.familyLimit
  scope : 0 < c.workloadScopeLimit → ∀ name, c.workloadScopeInflight name ≤ c.workloadScopeLimit

namespace WithinLimits

variable {c c' : AdmissionController}

theorem acquire (h : WithinLimits c) {now : ℚ} {tuple : String} {scope : Option String}
    {decision : AdmissionDecision} (hc : c.acquire now tuple scope = (decision, c')) :
    WithinLimits c' := by
  obtain ⟨_, _, hc'⟩ | hc' := c.acquire_cases now tuple scope
  · rw [hc'] at hc
    exact (Prod.mk.inj hc).2 ▸ h
  · obtain ⟨-, -, htuple, hfamily, hscope⟩ := c.acquire_allowed hc'
    rw [hc'] at hc
    obtain rfl := (Prod.mk.inj hc).2
    refine ⟨fun hpos => increment_le (h.tuple hpos) (htuple hpos),
      fun hpos => increment_le (h.family hpos) (hfamily hpos), fun hpos name => ?_⟩
    obtain ⟨heq, -⟩ | ⟨key, heq, hkey⟩ := onScope_cases increment c.workloadScopeInflight scope
    · simp only [heq]
      exact h.scope hpos name
    · simp only [heq]
      refine increment_le (h.scope hpos) ?_ name
      obtain ⟨hne, rfl⟩ := (hkey key).mpr rfl
      rw [AdmissionController.scopeFull.eq_3 c key hne] at hscope
      replace hpos : 0 < c.workloadScopeLimit := hpos
      simpa [hpos] using hscope

theorem release (h : WithinLimits c) (lease : AdmissionLease) : WithinLimits (c.release lease) := by
  refine ⟨fun hpos => decrement_le (h.tuple hpos) _, fun hpos => decrement_le (h.family hpos) _,
    fun hpos name => ?_⟩
  unfold AdmissionController.release
  obtain ⟨heq, -⟩ | ⟨key, heq, -⟩ := onScope_cases decrement c.workloadScopeInflight
    lease.workloadScope
  · simp only [heq]
    exact h.scope hpos name
  · simp only [heq]
    exact decrement_le (h.scope hpos) key name

end WithinLimits

/-! ## Suppression -/

/-- The deadlines of the controller are not before those of the calls of `suppress`. -/
structure Suppressed (c : AdmissionController) (suppressions : List Suppression) : Prop where
  tuple : ∀ s ∈ suppressions, s.now + c.cooldownSeconds ≤ c.tupleSuppressedUntil s.tuple
  family : ∀ s ∈ suppressions, s.suppressFamily = true →
    s.now + c.cooldownSeconds ≤ c.familySuppressedUntil (c.familyFor s.tuple)

theorem le_update_max {values : String → ℚ} {key name : String} {value deadline : ℚ}
    (h : value ≤ values name) :
    value ≤ Function.update values key (max (values key) deadline) name := by
  by_cases hname : name = key
  · subst hname
    simpa using .inl h
  · simpa [hname] using h

theorem Suppressed.suppress {c : AdmissionController} {suppressions : List Suppression}
    (h : Suppressed c suppressions) (now : ℚ) (tuple : String) (suppressFamily : Bool) :
    Suppressed (c.suppress now tuple suppressFamily)
      (⟨now, tuple, suppressFamily⟩ :: suppressions) where
  tuple s hs := by
    obtain rfl | hs := List.mem_cons.mp hs
    · simp [AdmissionController.suppress]
    · exact le_update_max (h.tuple s hs)
  family s hs hfamily := by
    obtain rfl | hs' := List.mem_cons.mp hs
    · obtain rfl : suppressFamily = true := hfamily
      simp [AdmissionController.suppress, AdmissionController.familyFor]
    · cases suppressFamily with
      | false => exact h.family s hs' hfamily
      | true => exact le_update_max (h.family s hs' hfamily)

/-! ## Runs -/

/-- No call changes the settings of a controller. -/
def AdmissionController.settings (c : AdmissionController) : AdmissionController :=
  .new c.tupleFamilies c.tupleLimit c.familyLimit c.workloadScopeLimit c.cooldownSeconds

/-- What holds of a controller after every sequence of calls. -/
structure AdmissionExact (c : AdmissionController) (h : AdmissionHistory) : Prop where
  counts : CountsHeld c h.held
  limits : WithinLimits c
  suppressed : Suppressed c h.suppressions

theorem AdmissionExact.new (tupleFamilies : Dict String)
    (tupleLimit familyLimit workloadScopeLimit : ℕ) (cooldownSeconds clock : ℚ) :
    AdmissionExact (.new tupleFamilies tupleLimit familyLimit workloadScopeLimit cooldownSeconds)
      { clock } where
  counts := ⟨fun _ => rfl, fun _ => rfl, fun _ => rfl⟩
  limits := ⟨fun _ _ => Nat.zero_le _, fun _ _ => Nat.zero_le _, fun _ _ => Nat.zero_le _⟩
  suppressed := ⟨nofun, nofun⟩

theorem AdmissionRun.exact {c₀ c : AdmissionController} {h : AdmissionHistory}
    (hrun : AdmissionRun c₀ c h) (hinit : ∀ clock, AdmissionExact c₀ { clock }) :
    AdmissionExact c h ∧ c.settings = c₀.settings := by
  induction hrun with
  | init clock => exact ⟨hinit clock, rfl⟩
  | @acquire c c' h now tuple scope decision _ _ hc ih =>
    obtain ⟨hexact, hsettings⟩ := ih
    obtain ⟨_, _, hc'⟩ | hc' := c.acquire_cases now tuple scope
    · rw [hc'] at hc
      cases hc
      exact ⟨⟨hexact.counts, hexact.limits, hexact.suppressed⟩, hsettings⟩
    · have hlimits := hexact.limits.acquire hc'
      have hcounts := hexact.counts.grant hc'
      rw [hc'] at hc
      cases hc
      exact ⟨⟨hcounts, hlimits, hexact.suppressed.tuple, hexact.suppressed.family⟩, hsettings⟩
  | @release c h now lease _ _ hlease ih =>
    obtain ⟨hexact, hsettings⟩ := ih
    refine ⟨⟨?_, hexact.limits.release lease, hexact.suppressed.tuple, hexact.suppressed.family⟩,
      hsettings⟩
    exact (hexact.counts.perm (List.perm_cons_erase hlease)).release
  | suppress _ _ ih =>
    obtain ⟨hexact, hsettings⟩ := ih
    exact ⟨⟨⟨hexact.counts.tuple, hexact.counts.family, hexact.counts.scope⟩,
      ⟨hexact.limits.tuple, hexact.limits.family, hexact.limits.scope⟩,
      hexact.suppressed.suppress ..⟩, hsettings⟩

/-- After every sequence of calls of a new controller the counts are those of the leases that are
granted and not released, the limits hold, a rejected `acquire` changes nothing, and no lease is
granted before the deadline of a suppression. -/
theorem admission_exact (tupleFamilies : Dict String)
    (tupleLimit familyLimit workloadScopeLimit : ℕ) (cooldownSeconds : ℚ) {c : AdmissionController}
    {h : AdmissionHistory} (hrun : AdmissionRun
      (.new tupleFamilies tupleLimit familyLimit workloadScopeLimit cooldownSeconds) c h) :
    ((∀ name, c.tupleInflight name = h.held.countP (·.tuple = name)) ∧
      (∀ name, c.familyInflight name = h.held.countP (·.family = name)) ∧
      ∀ name, name ≠ "" →
        c.workloadScopeInflight name = h.held.countP (·.workloadScope = some name)) ∧
    ((0 < tupleLimit → ∀ name, c.tupleInflight name ≤ tupleLimit) ∧
      (0 < familyLimit → ∀ name, c.familyInflight name ≤ familyLimit) ∧
      (0 < workloadScopeLimit → ∀ name, c.workloadScopeInflight name ≤ workloadScopeLimit)) ∧
    ∀ now tuple scope decision c', h.clock ≤ now → c.acquire now tuple scope = (decision, c') →
      (decision.lease = none → c' = c) ∧
      (decision.lease ≠ none → ∀ s ∈ h.suppressions,
        s.covers tupleFamilies tuple → s.now + cooldownSeconds ≤ now) := by
  obtain ⟨hexact, hsettings⟩ := hrun.exact fun clock => AdmissionExact.new _ _ _ _ _ clock
  obtain rfl : c.tupleFamilies = tupleFamilies := congrArg (·.tupleFamilies) hsettings
  obtain rfl : c.tupleLimit = tupleLimit := congrArg (·.tupleLimit) hsettings
  obtain rfl : c.familyLimit = familyLimit := congrArg (·.familyLimit) hsettings
  obtain rfl : c.workloadScopeLimit = workloadScopeLimit :=
    congrArg (·.workloadScopeLimit) hsettings
  obtain rfl : c.cooldownSeconds = cooldownSeconds := congrArg (·.cooldownSeconds) hsettings
  refine ⟨⟨hexact.counts.tuple, hexact.counts.family, fun name hname => ?_⟩,
    ⟨hexact.limits.tuple, hexact.limits.family, hexact.limits.scope⟩,
    fun now tuple scope decision c' _ hc => ⟨fun hlease => ?_, fun hlease s hs hcovers => ?_⟩⟩
  · simpa [hname] using hexact.counts.scope name
  · obtain ⟨_, _, hc'⟩ | hc' := c.acquire_cases now tuple scope
    · rw [hc'] at hc
      exact (Prod.mk.inj hc).2.symm
    · rw [hc'] at hc
      cases hc
      cases hlease
  · match decision, hlease with
    | .rejected .., hlease => exact absurd rfl hlease
    | .allowed lease, _ =>
      obtain ⟨htuple, hfamily, -⟩ := c.acquire_allowed hc
      obtain rfl | ⟨hs', hfamilies⟩ := hcovers
      · exact (hexact.suppressed.tuple s hs).trans htuple
      · refine (hexact.suppressed.family s hs hs').trans ?_
        rw [AdmissionController.familyFor, hfamilies]
        exact hfamily

/-- A lease is granted and its family suppressed by another tuple. -/
theorem admission_exact_suppressed :
    ∃ (c : AdmissionController) (h : AdmissionHistory), c.tupleInflight "a100" = 1 ∧
      h.held.countP (·.tuple = "a100") = 1 ∧
      ∀ scope lease c', c.acquire 60 "h200" scope ≠ (.allowed lease, c') := by
  let families : Dict String :=
    { entries := [("a100", "modal"), ("h100", "modal"), ("h200", "modal")], nodup := by decide }
  obtain ⟨c, hc⟩ : ∃ c, (AdmissionController.new families 1 2 4 60).acquire 0 "a100" (some "infer") =
      (.allowed ⟨"a100", "modal", some "infer"⟩, c) := by
    simp [AdmissionController.acquire, AdmissionController.new, AdmissionController.familyFor,
      AdmissionController.scopeFull, families, Dict.get?]
  obtain ⟨c, h, hrun, hheld, hsuppressed, hclock⟩ : ∃ c h,
      AdmissionRun (.new families 1 2 4 60) c h ∧ h.held = [⟨"a100", "modal", some "infer"⟩] ∧
      h.suppressions = [⟨1, "h100", true⟩] ∧ h.clock = 1 :=
    ⟨_, _, ((AdmissionRun.init 0).acquire le_rfl hc).suppress zero_le_one, rfl, rfl, rfl⟩
  obtain ⟨⟨htuple, -⟩, -, hacquire⟩ := admission_exact families 1 2 4 60 hrun
  have hcount : h.held.countP (·.tuple = "a100") = 1 := by
    rw [hheld, List.countP_singleton]
    rfl
  refine ⟨c, h, (htuple "a100").trans hcount, hcount, fun scope lease c' hlease => ?_⟩
  have hdeadline := (hacquire 60 "h200" scope _ c' (by norm_num [hclock]) hlease).2
    (by simp [AdmissionDecision.lease]) ⟨1, "h100", true⟩ (by simp [hsuppressed])
    (.inr ⟨rfl, by decide⟩)
  norm_num at hdeadline

end Gpucall
