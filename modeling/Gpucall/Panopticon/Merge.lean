import Gpucall.Lib.FirstWins
import Gpucall.Panopticon.Rows
import Mathlib.Data.Set.Lattice
import Mathlib.Order.Bounds.Basic

/-! `merge_panopticon_evidence`: rows from several sources are read, in the strict format or as input, and folded
into one row for each tuple. -/

namespace Gpucall

variable (reads : PanopticonReads)

/-! ## Findings and statuses -/

/-- `_finding_dump`: without what is not there, and without empty details and an empty `raw`. -/
def findingDump (finding : PanopticonFinding) : Json :=
  let optional (key : String) (value : Option Json) := (value.map fun value => (key, value)).toList
  .obj <|
    [("tuple", .str finding.tuple), ("adapter", .str finding.adapter),
      ("dimension", .str finding.dimension.value),
      ("severity", .str (if finding.severity = .error then "error" else "info"))] ++
    optional "reason" (finding.reason.map .str) ++
    optional "field" (finding.field.map .str) ++
    optional "source" (finding.source.map .str) ++
    optional "live_price_per_second" (finding.livePricePerSecond.map .number) ++
    optional "live_price_source" (finding.livePriceSource.map .str) ++
    optional "live_stock_state" (finding.liveStockState.map fun
      | .available => .str "available"
      | .unavailable => .str "unavailable"
      | .unknown => .str "unknown") ++
    optional "observed_at" (finding.observedAt.map (.str ∘ reads.iso)) ++
    optional "expires_at" (finding.expiresAt.map (.str ∘ reads.iso)) ++
    optional "details" ((finding.details.filter (·.entries ≠ [])).map fun details => .obj details.entries) ++
    optional "raw" (if finding.raw.entries = [] then none else some (.obj finding.raw.entries))

/-- The key under which `_dedupe_findings` knows a finding: the text of its dump. The tuple, the adapter and the
dimension stand in that text; they are kept beside it as well. -/
structure FindingKey where
  tuple : String
  adapter : String
  dimension : PanopticonDimension
  text : List Char
  deriving DecidableEq

def findingKey (finding : PanopticonFinding) : FindingKey where
  tuple := finding.tuple
  adapter := finding.adapter
  dimension := finding.dimension
  text := (findingDump reads finding).dumps true

/-- `_dedupe_findings` -/
def dedupeFindings (findings : List PanopticonFinding) : List PanopticonFinding :=
  FirstWins.keepFirst (findingKey reads) findings

/-- `_earliest_finding_expiry` and `_earliest_finding_observed_at` -/
def earliest (times : List (Option ℤ)) : Option ℤ := (times.filterMap id).min?

/-- `_status_from_findings` -/
def statusFromFindings (findings : List PanopticonFinding) : PanopticonStatus :=
  if findings.any (·.blocks) then .blocked else if findings.isEmpty then .unknown else .liveRevalidated

/-- `_stored_status` -/
def storedStatus (status : Option PanopticonStatus) (findings : List PanopticonFinding) :
    PanopticonStatus :=
  if statusFromFindings findings = .blocked then .blocked
  else if !findings.isEmpty then .liveRevalidated
  else status.getD (statusFromFindings findings)

/-- `_merged_status` -/
def mergedStatus (left right : PanopticonStatus) (findings : List PanopticonFinding) : PanopticonStatus :=
  if statusFromFindings findings = .blocked || left = .blocked || right = .blocked then .blocked
  else if left = .liveRevalidated || right = .liveRevalidated then .liveRevalidated
  else if left = .unknown || right = .unknown then .unknown
  else .notChecked

/-! ## Reading a row of either format -/

/-- `_strip_loaded_row_metadata` -/
def stripLoadedRowMetadata (data : Dict Json) : Dict Json :=
  ["panopticon_observed_at", "panopticon_expires_at", "panopticon_ttl_seconds", "panopticon_stale",
    "panopticon_age_seconds"].foldl Dict.pop data

/-- The `except` branch of `_row_from_loaded_or_input` -/
def rowFromInput (tupleName : String) (data : Dict Json) (now : ℤ) : Option PanopticonRow := do
  let input ← readInputRow reads data
  let tuple ← input.tupleUnder tupleName
  let adapter ← (input.adapter.filter (· ≠ "")).or (firstAdapter input.findings)
  let ttl : ℕ := (input.ttlSeconds.filter (· ≠ 0)).getD (ttlSecondsForFindings input.findings)
  let findings ← input.findings.mapM (canonicalFinding reads tuple adapter now ttl)
  let expiresAt ← (earliest (findings.map (·.expiresAt))).or (plusSeconds now ttl)
  let observedAt := (earliest (findings.map (·.observedAt))).getD now
  RowFields.validated {
    tuple, adapter, findings, observedAt, expiresAt
    status := storedStatus input.status findings
    checked := input.checked
    dimensions := findingDimensions findings
    ttlSeconds := (wholeSeconds observedAt expiresAt).toNat
    catalogValidator := input.catalogValidator }

/-- `_row_from_loaded_or_input` -/
def rowFromLoadedOrInput (tupleName : String) (raw : Dict Json) (now : ℤ) : Option PanopticonRow :=
  let data := stripLoadedRowMetadata raw
  match readRow reads data with
  | some row => some row
  | none => rowFromInput reads tupleName data now

/-! ## Merging -/

/-- Two rows for one tuple -/
def mergeRow (current row : PanopticonRow) : Option PanopticonRow :=
  let findings := dedupeFindings reads (current.findings ++ row.findings)
  let observedAt := min current.observedAt row.observedAt
  let expiresAt := min current.expiresAt row.expiresAt
  RowFields.validated {
    tuple := current.tuple
    adapter := current.adapter
    status := mergedStatus current.status row.status findings
    checked := current.checked || row.checked
    findings
    dimensions := findingDimensions findings
    observedAt
    expiresAt
    ttlSeconds := (wholeSeconds observedAt expiresAt).toNat
    catalogValidator := current.catalogValidator.or row.catalogValidator }

/-- One round of the inner loop -/
def mergeEntry (now : ℤ) (rows : Dict PanopticonRow) (entry : String × Dict Json) :
    Option (Dict PanopticonRow) := do
  let row ← rowFromLoadedOrInput reads entry.1 entry.2 now
  match rows.get? entry.1 with
  | none => return rows.set entry.1 row
  | some current => return rows.set entry.1 (← mergeRow reads current row)

/-- What `_merged_row_dump` says about a row besides its fields. -/
structure MergedRow where
  row : PanopticonRow
  panopticonStale : Bool

abbrev PanopticonEvidence := Dict (Dict Json)

/-- The rows of all sources in the order in which they are merged. -/
def evidenceEntries (items : List (Option PanopticonEvidence)) : List (String × Dict Json) :=
  items.flatMap fun item => (item.map (·.entries)).getD []

/-- `merge_panopticon_evidence` at one instant. There is no result when it raises. -/
def mergePanopticonEvidence (items : List (Option PanopticonEvidence)) (now : ℤ) : Option (Dict MergedRow) :=
  ((evidenceEntries items).foldlM (mergeEntry reads now) ⟨[], List.nodup_nil⟩).map fun rows =>
    rows.filterMap fun row => some { row, panopticonStale := row.expiresAt ≤ now }

end Gpucall
