import Gpucall.Panopticon.Merge

/-! The file of provider evidence: `store_panopticon_evidence` merges new findings into it, dimension by dimension,
and `load_panopticon_evidence` reads it, with what has expired by then blocked. -/

namespace Gpucall

variable (reads : PanopticonReads)

/-! ## The payload -/

structure PanopticonPayload where
  updatedAt : ℤ
  tuples : Dict PanopticonRow := ⟨[], List.nodup_nil⟩
  /-- `validate_payload_contract` -/
  named : ∀ entry ∈ tuples.entries, entry.1 = entry.2.tuple := by simp

def PanopticonPayload.validated (updatedAt : ℤ) (tuples : Dict PanopticonRow) : Option PanopticonPayload :=
  if h : ∀ entry ∈ tuples.entries, entry.1 = entry.2.tuple then some ⟨updatedAt, tuples, h⟩ else none

/-- `PanopticonPayload.model_validate` of a JSON object -/
def payloadOfJson (data : Dict Json) : Option PanopticonPayload := do
  guard (onlyKeys ["schema_version", "updated_at", "tuples"] data)
  guard ((data.get? "schema_version").all reads.schemaVersion)
  let updatedAt ← requireField reads.datetime data "updated_at"
  let tuples ← readField readObject ⟨[], List.nodup_nil⟩ data "tuples"
  let rows ← tuples.entries.mapM fun entry =>
    ((readObject entry.2).bind (readRow reads)).map fun row => (entry.1, row)
  PanopticonPayload.validated updatedAt (.ofFields rows)

/-! ## Loading -/

/-- `_expiry_finding` of a row -/
def expiryFinding (tupleName expiredReason : String) (row : PanopticonRow) : PanopticonDimension × Json :=
  let dimension := if row.dimensions = [.price] then .price else .panopticon
  (dimension, .obj [("tuple", .str tupleName), ("adapter", .str row.adapter),
    ("dimension", .str dimension.value), ("severity", .str "error"), ("reason", .str expiredReason),
    ("source", .str "provider-panopticon"),
    ("details", .obj [("live_reason", .str "panopticon_evidence_expired")]),
    ("raw", .obj [("live_reason", .str "panopticon_evidence_expired"),
      ("observed_at", .str (reads.iso row.observedAt)), ("expires_at", .str (reads.iso row.expiresAt)),
      ("ttl_seconds", .number (toString row.ttlSeconds))])])

/-- A row of the result of `load_panopticon_evidence`. -/
structure LoadedRow where
  row : PanopticonRow
  status : PanopticonStatus
  findings : List Json
  dimensions : List PanopticonDimension
  panopticonStale : Bool
  ageSeconds : ℤ

/-- The optional arguments of `load_panopticon_evidence` -/
structure LoadSettings where
  expiredStatus : PanopticonStatus := .blocked
  /-- It is `blocked` or `unknown`. -/
  allowed : expiredStatus = .blocked ∨ expiredStatus = .unknown := by decide
  expiredReason : String := "provider panopticon evidence TTL expired"

/-- One round of the loop in `load_panopticon_evidence` -/
def loadRow (settings : LoadSettings) (now : ℤ) (tupleName : String) (row : PanopticonRow) : LoadedRow :=
  let findings := row.findings.map (findingDump reads)
  let ageSeconds := max 0 (now - row.observedAt)
  if row.expiresAt ≤ now then
    let (dimension, expiry) := expiryFinding reads tupleName settings.expiredReason row
    { row
      status := settings.expiredStatus
      findings := expiry :: findings
      dimensions := ((dimension :: row.dimensions).dedup).insertionSort fun a b => a.value ≤ b.value
      panopticonStale := true
      ageSeconds }
  else
    { row
      status := row.status
      findings
      dimensions := row.dimensions
      panopticonStale := false
      ageSeconds }

/-- `load_panopticon_evidence` of a payload that has been read. -/
def loadPayload (settings : LoadSettings) (now : ℤ) (payload : PanopticonPayload) : Dict LoadedRow where
  entries := payload.tuples.entries.map fun entry => (entry.1, loadRow reads settings now entry.1 entry.2)
  nodup := by
    rw [List.map_map]
    exact payload.tuples.nodup

/-! ## Storing -/

/-- The arguments of a call to `store_panopticon_evidence` -/
structure EvidenceCall where
  evidence : PanopticonEvidence
  now : ℤ
  ttlSeconds : Option ℤ := none

/-- What the input of a row says about it, before it meets the row that is stored. -/
structure NewRow where
  adapter : String
  status : Option PanopticonStatus
  checked : Bool
  ttl : ℤ
  findings : List PanopticonFinding
  catalogValidator : Option Bool

/-- The part of the loop in `store_panopticon_evidence` that reads the input; only the adapter may come from the
row that is stored. -/
def readNewRow (call : EvidenceCall) (existing : Option PanopticonRow) (tupleName : String) (raw : Dict Json) :
    Option NewRow := do
  let input ← readInputRow reads raw
  let _ ← input.tupleUnder tupleName
  let ttl : ℤ := call.ttlSeconds.getD (ttlSecondsForFindings input.findings)
  let adapter ← ((input.adapter.filter (· ≠ "")).or (firstAdapter input.findings)).or
    (existing.map (·.adapter))
  let findings ← input.findings.mapM (canonicalFinding reads tupleName adapter call.now ttl)
  return {
    adapter, ttl, findings
    status := input.status
    checked := input.checked
    catalogValidator := input.catalogValidator }

/-- The findings of the stored row in the other dimensions, and the new ones. -/
def keptFindings (existing : Option PanopticonRow) (findings : List PanopticonFinding) :
    List PanopticonFinding :=
  ((existing.map (·.findings)).getD []).filter fun finding =>
    finding.dimension ∉ findings.map (·.dimension)

/-- The row that is stored -/
def storedRow (now : ℤ) (existing : Option PanopticonRow) (tupleName : String) (new : NewRow) :
    Option PanopticonRow := do
  let findings := dedupeFindings reads (keptFindings existing new.findings ++ new.findings)
  let expiresAt ← (earliest (findings.map (·.expiresAt))).or (plusSeconds now new.ttl)
  let observedAt := (earliest (findings.map (·.observedAt))).getD now
  guard (0 ≤ wholeSeconds observedAt expiresAt)
  RowFields.validated {
    tuple := tupleName
    adapter := new.adapter
    status := storedStatus new.status findings
    checked := new.checked
    findings
    dimensions := findingDimensions findings
    observedAt
    expiresAt
    ttlSeconds := (wholeSeconds observedAt expiresAt).toNat
    catalogValidator := new.catalogValidator.or (existing.bind (·.catalogValidator)) }

/-- One round of the loop in `store_panopticon_evidence` -/
def storeEntry (call : EvidenceCall) (tuples : Dict PanopticonRow) (entry : String × Dict Json) :
    Option (Dict PanopticonRow) := do
  let existing := tuples.get? entry.1
  let new ← readNewRow reads call existing entry.1 entry.2
  let row ← storedRow reads call.now existing entry.1 new
  return tuples.set entry.1 row

/-- `_read_payload` where the file holds what an earlier call wrote, if there is one. -/
def readStored (now : ℤ) (file : Option PanopticonPayload) : PanopticonPayload :=
  file.getD { updatedAt := now }

/-- `store_panopticon_evidence`: the payload that is written, where the call does not raise. -/
def storePanopticonEvidence (file : Option PanopticonPayload) (call : EvidenceCall) : Option PanopticonPayload := do
  let tuples ← call.evidence.entries.foldlM (storeEntry reads call) (readStored call.now file).tuples
  PanopticonPayload.validated call.now tuples

/-- The file after a call -/
def fileAfter (file : Option PanopticonPayload) (call : EvidenceCall) : Option PanopticonPayload :=
  (storePanopticonEvidence reads file call).or file

end Gpucall
