import Gpucall.IsoFormat
import Gpucall.Routing.RegistryStore
import Gpucall.Tenant.SqliteLedger

/-! The tables of `registry.py` order their rows by the texts of times. Where these are times in UTC, as
`record` and `record_quality_failure` write them, that is the order of the times. -/

namespace Gpucall

open Recent

/-- A `TupleObservation`, with its time in UTC -/
structure TimedObservation extends TupleObservation where
  tuple : String
  observedAt : DateTime

/-- What `_record_sqlite` inserts -/
def TimedObservation.stored (observation : TimedObservation) : ObservationRow where
  toTupleObservation := observation.toTupleObservation
  tuple := observation.tuple
  observedAt := observation.observedAt.isoformat

/-- A failure that `record_quality_failure` is called for, with its reading of the clock -/
structure TimedQualityFailure extends QualityFailure where
  tuple : String
  observedAt : DateTime

/-- The row of `record_quality_failure` -/
def TimedQualityFailure.stored (failure : TimedQualityFailure) : QualityFailureRow where
  toQualityFailure := failure.toQualityFailure
  tuple := failure.tuple
  observedAt := failure.observedAt.isoformat

/-- The queries of a table, which order by text, return what the same queries return that order by time: for
some order of the rows of equal times, which SQLite leaves open. -/
def SelectsByTime {α β : Type} (group : α → String) (text : α → String) (time : β → DateTime)
    (stored : β → α) (newest : Sorter fun a b : α => text b ≤ text a)
    (oldest : Sorter fun a b : α => text a ≤ text b) : Prop :=
  ∃ (newest' : Sorter fun a b : β => time b ≤ time a) (oldest' : Sorter fun a b : β => time a ≤ time b),
    ∀ (n : ℕ) (tuple : String) (items : List β),
      deleteOld group newest n tuple (items.map stored) =
        (deleteOld (group ∘ stored) newest' n tuple items).map stored ∧
      load group newest oldest n (items.map stored) tuple =
        (load (group ∘ stored) newest' oldest' n items tuple).map stored

theorem selectsByTime {α β : Type} [Nonempty β] {group text : α → String} {time : β → DateTime}
    {stored : β → α} (hinj : Function.Injective stored)
    (htext : ∀ item, text (stored item) = (time item).isoformat)
    (newest : Sorter fun a b : α => text b ≤ text a) (oldest : Sorter fun a b : α => text a ≤ text b) :
    SelectsByTime group text time stored newest oldest := by
  obtain ⟨read, hread⟩ := hinj.hasLeftInverse
  have hle (a b : β) (h : text (stored a) ≤ text (stored b)) : time a ≤ time b := by
    rwa [htext, htext, DateTime.isoformat_le_isoformat_iff] at h
  have hnewest := newest.map_sort_through hread fun a b => hle b a
  have holdest := oldest.map_sort_through hread hle
  exact ⟨_, _, fun n tuple items => ⟨deleteOld_map hnewest tuple, load_map hnewest holdest tuple⟩⟩

theorem TimedObservation.stored_injective : Function.Injective stored := by
  rintro ⟨observation, tuple, observedAt⟩ ⟨observation', tuple', observedAt'⟩ h
  simp only [stored, ObservationRow.mk.injEq] at h
  obtain ⟨rfl, rfl, htime⟩ := h
  rw [DateTime.isoformat_injective htime]

theorem TimedQualityFailure.stored_injective : Function.Injective stored := by
  rintro ⟨failure, tuple, observedAt⟩ ⟨failure', tuple', observedAt'⟩ h
  simp only [stored, QualityFailureRow.mk.injEq] at h
  obtain ⟨rfl, rfl, htime⟩ := h
  rw [DateTime.isoformat_injective htime]

instance : Nonempty TimedObservation := ⟨⟨⟨0, true, 0⟩, "", { year := 1, month := 1, day := 1 }⟩⟩

instance : Nonempty TimedQualityFailure :=
  ⟨⟨⟨"", "", "", ""⟩, "", { year := 1, month := 1, day := 1 }⟩⟩

/-- The texts of times in UTC are ordered like the times. So the conditions of the ledger select the rows
that the times select, which decides every sequence of calls, and the queries of the registry return what an
order by time returns. -/
theorem isoformat_orders :
    (∀ a b : DateTime, a.isoformat < b.isoformat ↔ a < b) ∧
    (∀ (t : UsageTable) (tenantId : String) (since : DateTime),
      (t.map UsageRow.stored).filter (StoredUsageRow.spentSince tenantId since.isoformat) =
        (t.filter fun r => r.tenantId = tenantId && since ≤ r.recordedAt && r.charged).map
          UsageRow.stored) ∧
    (∀ (t : UsageTable) (cutoff : DateTime),
      (t.map UsageRow.stored).filter (StoredUsageRow.stale cutoff.isoformat) =
        (t.filter fun r => r.status = .reserved && r.recordedAt < cutoff).map UsageRow.stored) ∧
    (∀ (cfg : LedgerConfig) (t : UsageTable) (calls : List LedgerCall),
      runConn cfg (t.map UsageRow.stored) calls =
        (runCalls { cfg with kind := .sqlite } t calls).map UsageRow.stored) ∧
    ∀ settings : RegistrySettings,
      SelectsByTime (·.tuple) ObservationRow.observedAt TimedObservation.observedAt TimedObservation.stored
        settings.newestObservations settings.oldestObservations ∧
      SelectsByTime (·.tuple) QualityFailureRow.observedAt TimedQualityFailure.observedAt
        TimedQualityFailure.stored settings.newestQualityFailures settings.oldestQualityFailures :=
  ⟨fun _ _ => DateTime.isoformat_lt_isoformat_iff, filter_spentSince_stored, filter_stale_stored,
    fun cfg => runConn_stored { cfg with kind := .sqlite } rfl,
    fun _ => ⟨selectsByTime TimedObservation.stored_injective (fun _ => rfl) _ _,
      selectsByTime TimedQualityFailure.stored_injective (fun _ => rfl) _ _⟩⟩

end Gpucall
