import Mathlib.Algebra.Order.Ring.Rat
import Mathlib.Logic.Function.Basic
import Gpucall.Routing.Environment

/-! `admission.py`, the in-process `AdmissionController`. The critical sections of its `asyncio.Lock`
await nothing, so each method is one atomic step. An absent key of a dictionary of counts or
deadlines is a zero. Times are readings of `monotonic()`. -/

namespace Gpucall

structure AdmissionLease where
  tuple : String
  family : String
  workloadScope : Option String := none
  deriving DecidableEq

inductive AdmissionReason where
  | tupleSuppressed | providerFamilySuppressed
  | tupleInflightLimit | providerFamilyInflightLimit | workloadScopeInflightLimit
  deriving DecidableEq

def AdmissionReason.value : AdmissionReason → String
  | tupleSuppressed => "tuple_suppressed"
  | providerFamilySuppressed => "provider_family_suppressed"
  | tupleInflightLimit => "tuple_inflight_limit"
  | providerFamilyInflightLimit => "provider_family_inflight_limit"
  | workloadScopeInflightLimit => "workload_scope_inflight_limit"

/-- Membership in `_INFLIGHT_LIMIT_REASONS`. -/
def AdmissionReason.isInflightLimit : AdmissionReason → Bool
  | tupleInflightLimit | providerFamilyInflightLimit | workloadScopeInflightLimit => true
  | _ => false

/-- An `AdmissionDecision`: `allowed` with its lease, or a rejection with its reason. -/
inductive AdmissionDecision where
  | allowed (lease : AdmissionLease)
  | rejected (reason : AdmissionReason) (suppressedUntilSeconds : Option ℚ := none)

structure AdmissionController where
  tupleFamilies : Dict String := {}
  tupleLimit : ℕ := 1
  familyLimit : ℕ := 2
  workloadScopeLimit : ℕ := 4
  cooldownSeconds : ℚ := 60
  tupleInflight : String → ℕ := fun _ => 0
  familyInflight : String → ℕ := fun _ => 0
  workloadScopeInflight : String → ℕ := fun _ => 0
  tupleSuppressedUntil : String → ℚ := fun _ => 0
  familySuppressedUntil : String → ℚ := fun _ => 0

/-- `values[key] = values.get(key, 0) + 1` -/
def increment (values : String → ℕ) (key : String) : String → ℕ :=
  Function.update values key (values key + 1)

/-- `_decrement`, which removes a key whose count falls to zero. -/
def decrement (values : String → ℕ) (key : String) : String → ℕ :=
  Function.update values key (values key - 1)

/-- `if scope: f(values, scope)` -/
def onScope (f : (String → ℕ) → String → String → ℕ) (values : String → ℕ) :
    Option String → String → ℕ
  | none | some "" => values
  | some scope => f values scope

namespace AdmissionController

/-- `AdmissionController(..)`: nothing is in flight or suppressed. -/
def new (tupleFamilies : Dict String) (tupleLimit familyLimit workloadScopeLimit : ℕ)
    (cooldownSeconds : ℚ) : AdmissionController :=
  { tupleFamilies, tupleLimit, familyLimit, workloadScopeLimit, cooldownSeconds }

variable (c : AdmissionController)

def familyFor (tupleName : String) : String := (c.tupleFamilies.get? tupleName).getD tupleName

/-- The check of the workload scope in `acquire`. -/
def scopeFull (workloadScope : Option String) : Bool :=
  match workloadScope with
  | none | some "" => false
  | some scope => 0 < c.workloadScopeLimit && c.workloadScopeLimit ≤ c.workloadScopeInflight scope

def acquire (now : ℚ) (tupleName : String) (workloadScope : Option String) :
    AdmissionDecision × AdmissionController :=
  let family := c.familyFor tupleName
  let tupleUntil := c.tupleSuppressedUntil tupleName
  let familyUntil := c.familySuppressedUntil family
  if now < tupleUntil then (.rejected .tupleSuppressed (some (tupleUntil - now)), c)
  else if now < familyUntil then
    (.rejected .providerFamilySuppressed (some (familyUntil - now)), c)
  else if 0 < c.tupleLimit && c.tupleLimit ≤ c.tupleInflight tupleName then
    (.rejected .tupleInflightLimit, c)
  else if 0 < c.familyLimit && c.familyLimit ≤ c.familyInflight family then
    (.rejected .providerFamilyInflightLimit, c)
  else if c.scopeFull workloadScope then (.rejected .workloadScopeInflightLimit, c)
  else
    (.allowed { tuple := tupleName, family, workloadScope },
     { c with
        tupleInflight := increment c.tupleInflight tupleName
        familyInflight := increment c.familyInflight family
        workloadScopeInflight := onScope increment c.workloadScopeInflight workloadScope })

def release (lease : AdmissionLease) : AdmissionController :=
  { c with
    tupleInflight := decrement c.tupleInflight lease.tuple
    familyInflight := decrement c.familyInflight lease.family
    workloadScopeInflight := onScope decrement c.workloadScopeInflight lease.workloadScope }

def suppress (now : ℚ) (tupleName : String) (suppressFamily : Bool) : AdmissionController :=
  let family := c.familyFor tupleName
  let deadline := now + c.cooldownSeconds
  { c with
    tupleSuppressedUntil :=
      Function.update c.tupleSuppressedUntil tupleName
        (max (c.tupleSuppressedUntil tupleName) deadline)
    familySuppressedUntil :=
      if suppressFamily then
        Function.update c.familySuppressedUntil family
          (max (c.familySuppressedUntil family) deadline)
      else c.familySuppressedUntil }

/-- What `acquire` does: it is refused and changes nothing, or it grants a lease and counts it. -/
theorem acquire_cases (now : ℚ) (tupleName : String) (workloadScope : Option String) :
    (∃ reason secs, c.acquire now tupleName workloadScope = (.rejected reason secs, c)) ∨
    c.acquire now tupleName workloadScope =
      (.allowed ⟨tupleName, c.familyFor tupleName, workloadScope⟩,
       { c with
          tupleInflight := increment c.tupleInflight tupleName
          familyInflight := increment c.familyInflight (c.familyFor tupleName)
          workloadScopeInflight := onScope increment c.workloadScopeInflight workloadScope }) := by
  unfold acquire
  dsimp only
  split_ifs
  · exact .inl ⟨_, _, rfl⟩
  · exact .inl ⟨_, _, rfl⟩
  · exact .inl ⟨_, _, rfl⟩
  · exact .inl ⟨_, _, rfl⟩
  · exact .inl ⟨_, _, rfl⟩
  · exact .inr rfl

/-- A lease is granted only where none of the five checks rejects it. -/
theorem acquire_allowed {now : ℚ} {tupleName : String} {workloadScope : Option String}
    {lease : AdmissionLease} {c' : AdmissionController}
    (h : c.acquire now tupleName workloadScope = (.allowed lease, c')) :
    c.tupleSuppressedUntil tupleName ≤ now ∧
      c.familySuppressedUntil (c.familyFor tupleName) ≤ now ∧
      (0 < c.tupleLimit → c.tupleInflight tupleName < c.tupleLimit) ∧
      (0 < c.familyLimit → c.familyInflight (c.familyFor tupleName) < c.familyLimit) ∧
      c.scopeFull workloadScope = false := by
  unfold acquire at h
  dsimp only at h
  split_ifs at h with htuple hfamily htupleLimit hfamilyLimit hscope
  · cases h
  · cases h
  · cases h
  · cases h
  · cases h
  · exact ⟨not_lt.mp htuple, not_lt.mp hfamily, by simpa using htupleLimit,
      by simpa using hfamilyLimit, by simpa using hscope⟩

end AdmissionController

end Gpucall
