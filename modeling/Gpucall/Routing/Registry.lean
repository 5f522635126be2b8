import Mathlib.Data.Prod.Lex
import Mathlib.Algebra.Order.Ring.NNRat
import Mathlib.Data.List.Sort
import Gpucall.Domain

/-! `registry.py`: the circuit breakers, the observed scores, and the ranking of tuples that fit
equally well. Times are the readings of `time()` in seconds. -/

namespace Gpucall

structure CircuitBreaker where
  failureThreshold : ℕ := 3
  successesToClose : ℕ := 1
  recoveryTimeoutSeconds : ℚ := 60
  consecutiveFailures : ℕ := 0
  consecutiveSuccesses : ℕ := 0
  opened : Bool := false
  openedAt : Option ℚ := none

def CircuitBreaker.allowRequest (b : CircuitBreaker) (time : ℚ) : Bool :=
  if !b.opened then true
  else
    match b.openedAt with
    | none => false
    | some openedAt => b.recoveryTimeoutSeconds ≤ time - openedAt

def CircuitBreaker.record (b : CircuitBreaker) (success : Bool) (time : ℚ) : CircuitBreaker :=
  if success then
    let successes := b.consecutiveSuccesses + 1
    if b.opened && b.successesToClose ≤ successes then
      { b with consecutiveFailures := 0, consecutiveSuccesses := successes, opened := false,
               openedAt := none }
    else { b with consecutiveFailures := 0, consecutiveSuccesses := successes }
  else
    let failures := b.consecutiveFailures + 1
    if b.failureThreshold ≤ failures then
      { b with consecutiveSuccesses := 0, consecutiveFailures := failures, opened := true,
               openedAt := some time }
    else { b with consecutiveSuccesses := 0, consecutiveFailures := failures }

structure TupleObservation where
  latencyMs : ℚ≥0
  success : Bool
  cost : ℚ≥0

structure QualityFailure where
  recipe : String
  task : String
  mode : String
  code : String

/-- The three `defaultdict`s of `ObservedRegistry`. -/
structure ObservedRegistry where
  observations : String → List TupleObservation := fun _ => []
  breakers : String → CircuitBreaker := fun _ => {}
  qualityFailures : String → List QualityFailure := fun _ => []

structure TupleScore where
  successRate : ℚ≥0 := 1
  p50LatencyMs : Option ℚ≥0 := none
  costPerSuccess : Option ℚ≥0 := none
  samples : ℕ := 0

/-- `statistics.median` of a non-empty list. -/
def median (values : List ℚ≥0) : ℚ≥0 :=
  let sorted := values.insertionSort (· ≤ ·)
  let n := sorted.length
  if n % 2 = 1 then sorted.getD (n / 2) 0
  else (sorted.getD (n / 2 - 1) 0 + sorted.getD (n / 2) 0) / 2

namespace ObservedRegistry

variable (registry : ObservedRegistry)

def isAvailable (time : ℚ) (tuple : String) : Bool := (registry.breakers tuple).allowRequest time

def score (tuple : String) : TupleScore :=
  match registry.observations tuple with
  | [] => {}
  | rows =>
    let successes := rows.filter (·.success)
    { successRate := (successes.length : ℚ≥0) / rows.length
      p50LatencyMs := some (median (rows.map (·.latencyMs)))
      costPerSuccess := some ((rows.map (·.cost)).sum / max successes.length 1)
      samples := rows.length }

def qualityFailureCount (tuple recipe task mode code : String) : ℕ :=
  (registry.qualityFailures tuple).countP fun row =>
    row.recipe = recipe && row.task = task && row.mode = mode && row.code = code

/-- `{item: index for index, item in enumerate(tuples)}[item]`: the last place of an item. -/
def inputOrder (tuples : List String) (item : String) : ℕ :=
  tuples.length - 1 - tuples.reverse.idxOf item

def rankKey (tuples : List String) (item : String) : ℚ ×ₗ ℚ≥0 ×ₗ ℚ≥0 ×ₗ ℕ :=
  let score := registry.score item
  toLex (-(score.successRate : ℚ), toLex (score.p50LatencyMs.getD 0,
    toLex (score.costPerSuccess.getD 0, inputOrder tuples item)))

def rank (time : ℚ) (tuples : List String) : List String :=
  (tuples.filter (registry.isAvailable time)).insertionSort fun a b =>
    registry.rankKey tuples a ≤ registry.rankKey tuples b

theorem rank_perm (time : ℚ) (tuples : List String) :
    (registry.rank time tuples).Perm (tuples.filter (registry.isAvailable time)) :=
  List.perm_insertionSort ..

end ObservedRegistry

end Gpucall
