import Gpucall.Lib.Recent
import Gpucall.Routing.Registry

/-! `ObservedRegistry` on a database: what `record`, `record_quality_failure` and `mark_unavailable`
change in the memory and in the tables, and what a registry that is made on the same file loads. The
tables order rows by the texts of their times; in which order SQLite returns rows of equal times is left
open. -/

namespace Gpucall

open Recent

/-! ## Rows -/

/-- A `TupleObservation` with its tuple and its time, as `isoformat` gives it. -/
structure ObservationRow extends TupleObservation where
  tuple : String
  observedAt : String

structure QualityFailureRow extends QualityFailure where
  tuple : String
  observedAt : String

/-- A row of `circuit_breakers` -/
structure BreakerRow where
  consecutiveFailures : ℕ
  consecutiveSuccesses : ℕ
  opened : Bool
  openedAt : Option ℚ

def CircuitBreaker.toRow (b : CircuitBreaker) : BreakerRow where
  consecutiveFailures := b.consecutiveFailures
  consecutiveSuccesses := b.consecutiveSuccesses
  opened := b.opened
  openedAt := b.openedAt

/-- The breaker that is loaded from a row, if there is one. -/
def loadBreaker (row : Option BreakerRow) : CircuitBreaker :=
  match row with
  | none => {}
  | some row => {
      consecutiveFailures := row.consecutiveFailures
      consecutiveSuccesses := row.consecutiveSuccesses
      opened := row.opened
      openedAt := row.openedAt }

/-- `mark_unavailable`, at a reading of `time()`. -/
def CircuitBreaker.markUnavailable (b : CircuitBreaker) (time : ℚ) : CircuitBreaker :=
  { b with
    opened := true
    openedAt := some time
    consecutiveFailures := max b.consecutiveFailures b.failureThreshold
    consecutiveSuccesses := 0 }

/-- The three `defaultdict`s. -/
structure RegistryMemory where
  observations : String → List ObservationRow := fun _ => []
  breakers : String → CircuitBreaker := fun _ => {}
  qualityFailures : String → List QualityFailureRow := fun _ => []

/-- The three tables. -/
structure RegistryDb where
  observations : List ObservationRow := []
  circuitBreakers : String → Option BreakerRow := fun _ => none
  routeQualityFailures : List QualityFailureRow := []

structure DbRegistry where
  memory : RegistryMemory := {}
  db : RegistryDb := {}

/-- What routing reads of the memory. -/
def RegistryMemory.registry (memory : RegistryMemory) : ObservedRegistry where
  observations tuple := (memory.observations tuple).map (·.toTupleObservation)
  breakers := memory.breakers
  qualityFailures tuple := (memory.qualityFailures tuple).map (·.toQualityFailure)

/-- The bounds of a registry, and the orders in which the queries of SQLite return rows. -/
structure RegistrySettings where
  maxObservationsPerTuple : ℕ := 1000
  maxQualityFailuresPerTuple : ℕ := 1000
  newestObservations : Sorter fun a b : ObservationRow => b.observedAt ≤ a.observedAt
  oldestObservations : Sorter fun a b : ObservationRow => a.observedAt ≤ b.observedAt
  newestQualityFailures : Sorter fun a b : QualityFailureRow => b.observedAt ≤ a.observedAt
  oldestQualityFailures : Sorter fun a b : QualityFailureRow => a.observedAt ≤ b.observedAt

/-! ## Calls -/

/-- A call, with its reading of the clock. -/
inductive RegistryCall where
  | record (observation : ObservationRow) (time : ℚ)
  | recordQualityFailure (row : QualityFailureRow)
  | markUnavailable (tuple : String) (time : ℚ)

namespace DbRegistry

variable (settings : RegistrySettings)

/-- `record` and `_record_sqlite` -/
def record (s : DbRegistry) (observation : ObservationRow) (time : ℚ) : DbRegistry :=
  let tuple := observation.tuple
  let breaker := (s.memory.breakers tuple).record observation.success time
  { memory := { s.memory with
      observations := remember (·.tuple) settings.maxObservationsPerTuple s.memory.observations
        observation
      breakers := Function.update s.memory.breakers tuple breaker }
    db := { s.db with
      observations := deleteOld (·.tuple) settings.newestObservations
        settings.maxObservationsPerTuple tuple (s.db.observations ++ [observation])
      circuitBreakers := Function.update s.db.circuitBreakers tuple (some breaker.toRow) } }

/-- `record_quality_failure` and `_record_quality_failure_sqlite` -/
def recordQualityFailure (s : DbRegistry) (row : QualityFailureRow) : DbRegistry where
  memory := { s.memory with
    qualityFailures := remember (·.tuple) settings.maxQualityFailuresPerTuple
      s.memory.qualityFailures row }
  db := { s.db with
    routeQualityFailures := deleteOld (·.tuple) settings.newestQualityFailures
      settings.maxQualityFailuresPerTuple row.tuple (s.db.routeQualityFailures ++ [row]) }

/-- `mark_unavailable`, which writes nothing to the database -/
def markUnavailable (s : DbRegistry) (tuple : String) (time : ℚ) : DbRegistry :=
  { s with memory := { s.memory with
      breakers := Function.update s.memory.breakers tuple
        ((s.memory.breakers tuple).markUnavailable time) } }

def exec (s : DbRegistry) : RegistryCall → DbRegistry
  | .record observation time => s.record settings observation time
  | .recordQualityFailure row => s.recordQualityFailure settings row
  | .markUnavailable tuple time => s.markUnavailable tuple time

def run (calls : List RegistryCall) : DbRegistry := calls.foldl (exec settings) {}

end DbRegistry

/-- `_load_sqlite` of a new registry -/
def loadSqlite (settings : RegistrySettings) (db : RegistryDb) : RegistryMemory where
  observations := load (·.tuple) settings.newestObservations settings.oldestObservations
    settings.maxObservationsPerTuple db.observations
  breakers tuple := loadBreaker (db.circuitBreakers tuple)
  qualityFailures := load (·.tuple) settings.newestQualityFailures settings.oldestQualityFailures
    settings.maxQualityFailuresPerTuple db.routeQualityFailures

/-- A registry that is made on the file has the same memory. -/
def DbRegistry.Restarts (settings : RegistrySettings) (s : DbRegistry) : Prop :=
  loadSqlite settings s.db = s.memory

/-! ## Calls that both sides follow -/

/-- The row comes after the rows of its tuple that are kept, by the texts of their times, and a call of
`mark_unavailable` finds nothing to change. -/
def DbRegistry.Follows (s : DbRegistry) : RegistryCall → Prop
  | .record observation _ => ∀ row ∈ s.memory.observations observation.tuple,
      Later ObservationRow.observedAt row observation
  | .recordQualityFailure failure => ∀ row ∈ s.memory.qualityFailures failure.tuple,
      Later QualityFailureRow.observedAt row failure
  | .markUnavailable tuple time =>
      (s.memory.breakers tuple).markUnavailable time = s.memory.breakers tuple

/-- The tables mirror the memory. -/
structure DbRegistry.Synced (settings : RegistrySettings) (s : DbRegistry) : Prop where
  observations : Mirrors (·.tuple) ObservationRow.observedAt settings.maxObservationsPerTuple
    s.db.observations s.memory.observations
  qualityFailures : Mirrors (·.tuple) QualityFailureRow.observedAt
    settings.maxQualityFailuresPerTuple s.db.routeQualityFailures s.memory.qualityFailures
  breakers : ∀ tuple, loadBreaker (s.db.circuitBreakers tuple) = s.memory.breakers tuple

namespace DbRegistry

variable {settings : RegistrySettings} {s : DbRegistry}

theorem Synced.empty : Synced settings {} where
  observations := .empty
  qualityFailures := .empty
  breakers _ := rfl

theorem Synced.restarts (h : s.Synced settings) : s.Restarts settings := by
  rw [Restarts, loadSqlite, h.observations.load, h.qualityFailures.load, funext h.breakers]

/-- The thresholds of a breaker are never changed. -/
theorem loadBreaker_toRow {b : CircuitBreaker} {row : Option BreakerRow} (h : loadBreaker row = b)
    (success : Bool) (time : ℚ) :
    loadBreaker (some (b.record success time).toRow) = b.record success time := by
  have hthresholds : b.failureThreshold = 3 ∧ b.successesToClose = 1 ∧
      b.recoveryTimeoutSeconds = 60 := by
    subst h
    cases row <;> exact ⟨rfl, rfl, rfl⟩
  obtain ⟨hfailure, hsuccesses, hrecovery⟩ := hthresholds
  have hrecord : (b.record success time).failureThreshold = 3 ∧
      (b.record success time).successesToClose = 1 ∧
      (b.record success time).recoveryTimeoutSeconds = 60 := by
    rw [← hfailure, ← hsuccesses, ← hrecovery, CircuitBreaker.record]
    dsimp only
    split <;> split <;> exact ⟨rfl, rfl, rfl⟩
  generalize b.record success time = after at hrecord
  obtain ⟨failureThreshold, successesToClose, recovery, _, _, _, _⟩ := after
  obtain ⟨rfl, rfl, rfl⟩ := hrecord
  rfl

theorem Synced.exec {call : RegistryCall} (h : s.Synced settings) (hfollows : s.Follows call) :
    (s.exec settings call).Synced settings := by
  cases call with
  | record observation time =>
    refine ⟨h.observations.insert hfollows, h.qualityFailures, fun tuple => ?_⟩
    by_cases htuple : tuple = observation.tuple
    · subst htuple
      simp only [DbRegistry.exec, DbRegistry.record, Function.update_self]
      exact loadBreaker_toRow (h.breakers _) ..
    · simp only [DbRegistry.exec, DbRegistry.record, Function.update_of_ne htuple]
      exact h.breakers tuple
  | recordQualityFailure row =>
    exact ⟨h.observations, h.qualityFailures.insert hfollows, h.breakers⟩
  | markUnavailable tuple time =>
    have hsame : s.exec settings (.markUnavailable tuple time) = s := by
      have hbreaker : (s.memory.breakers tuple).markUnavailable time = s.memory.breakers tuple :=
        hfollows
      simp only [DbRegistry.exec, DbRegistry.markUnavailable, hbreaker, Function.update_eq_self]
    rw [hsame]
    exact h

theorem Synced.run {calls : List RegistryCall}
    (h : ∀ n call, calls[n]? = some call → (DbRegistry.run settings (calls.take n)).Follows call) :
    (DbRegistry.run settings calls).Synced settings := by
  induction calls using List.reverseRecOn with
  | nil => exact .empty
  | append_singleton calls call ih =>
    rw [DbRegistry.run, List.foldl_append, ← DbRegistry.run]
    refine (ih fun n other hother => ?_).exec ?_
    · obtain ⟨hn, -⟩ := List.getElem?_eq_some_iff.mp hother
      have hfollows := h n other (by rw [List.getElem?_append_left hn, hother])
      rwa [List.take_append_of_le_length hn.le] at hfollows
    · have hfollows := h calls.length call (by simp)
      rwa [List.take_left' rfl] at hfollows

/-- A registry that is made on the file of another one has its memory, and so routes as that one does,
after every call of a run in which the rows of each tuple come in the order of their times and no tuple
is marked unavailable that was not so already. -/
theorem restarts_of_follows (settings : RegistrySettings) (calls : List RegistryCall)
    (h : ∀ n call, calls[n]? = some call →
      (DbRegistry.run settings (calls.take n)).Follows call) (n : ℕ) :
    let s := DbRegistry.run settings (calls.take n)
    s.Restarts settings ∧ (loadSqlite settings s.db).registry = s.memory.registry := by
  have hsynced : (DbRegistry.run settings (calls.take n)).Synced settings := by
    refine Synced.run fun m call hcall => ?_
    obtain ⟨hm, -⟩ := List.getElem?_eq_some_iff.mp hcall
    rw [List.length_take, lt_min_iff] at hm
    rw [List.getElem?_take_of_lt hm.1] at hcall
    rw [List.take_take, min_eq_left hm.1.le]
    exact h m call hcall
  have hrestarts := hsynced.restarts
  exact ⟨hrestarts, congrArg RegistryMemory.registry hrestarts⟩

def plainSettings : RegistrySettings where
  newestObservations := (Sorter.byKey _).reverse
  oldestObservations := .byKey _
  newestQualityFailures := (Sorter.byKey _).reverse
  oldestQualityFailures := .byKey _

def observationAt (observedAt : String) (success : Bool) : ObservationRow where
  latencyMs := 10
  success := success
  cost := 1
  tuple := "echo"
  observedAt := observedAt

def twoRecords : List RegistryCall :=
  [.record (observationAt "2026-01-01T00:00:00+00:00" true) 1,
    .record (observationAt "2026-01-01T00:00:01+00:00" false) 2]

theorem restarts_of_follows_twoRecords :
    let s := DbRegistry.run plainSettings (twoRecords.take 2)
    s.Restarts plainSettings ∧ (loadSqlite plainSettings s.db).registry = s.memory.registry := by
  refine restarts_of_follows plainSettings twoRecords (fun n call hcall => ?_) 2
  match n with
  | 0 =>
    obtain rfl := Option.some.inj hcall
    exact fun _ hrow => nomatch hrow
  | 1 =>
    obtain rfl := Option.some.inj hcall
    intro row hrow
    obtain rfl := List.mem_singleton.mp hrow
    exact .inl (by decide)
  | n + 2 => cases hcall

/-- A tuple that was marked unavailable is available after a restart. -/
theorem not_restarts : ¬∀ settings calls, (DbRegistry.run settings calls).Restarts settings := by
  intro hall
  have hrestarts := hall plainSettings [.markUnavailable "echo" 10]
  have hopened := congrArg (fun memory : RegistryMemory => (memory.breakers "echo").opened) hrestarts
  exact absurd hopened (by decide)

end DbRegistry

end Gpucall
