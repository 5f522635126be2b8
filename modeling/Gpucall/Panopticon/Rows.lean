import Gpucall.Text
import Mathlib.Tactic.MkIffOfInductiveProp

/-! `panopticon.py`: the findings about a tuple, the rows in which they are kept, and what both promise. Times
are instants in UTC, in microseconds. What `pydantic` makes of a value of a field is a parameter, as far as it
is more than a text or a word of a list. -/

namespace Gpucall

/-! ## Words -/

inductive PanopticonDimension where
  | price | contract | credential | cost | storage | endpoint | stock | capacity | health | worker | queue
  | model | models | liveTupleCatalog | panopticon
  deriving DecidableEq

def PanopticonDimension.value : PanopticonDimension → String
  | .price => "price"
  | .contract => "contract"
  | .credential => "credential"
  | .cost => "cost"
  | .storage => "storage"
  | .endpoint => "endpoint"
  | .stock => "stock"
  | .capacity => "capacity"
  | .health => "health"
  | .worker => "worker"
  | .queue => "queue"
  | .model => "model"
  | .models => "models"
  | .liveTupleCatalog => "live_tuple_catalog"
  | .panopticon => "panopticon"

def PanopticonDimension.all : List PanopticonDimension :=
  [.price, .contract, .credential, .cost, .storage, .endpoint, .stock, .capacity, .health, .worker, .queue,
    .model, .models, .liveTupleCatalog, .panopticon]

/-- `PANOPTICON_TTL_BY_DIMENSION` -/
def PanopticonDimension.ttl : PanopticonDimension → ℕ
  | .price => 3600
  | .contract => 86400
  | _ => 300

inductive PanopticonSeverity where
  | error | info
  deriving DecidableEq

inductive PanopticonStatus where
  | notChecked | unknown | liveRevalidated | blocked
  deriving DecidableEq

def PanopticonStatus.value : PanopticonStatus → String
  | .notChecked => "not_checked"
  | .unknown => "unknown"
  | .liveRevalidated => "live_revalidated"
  | .blocked => "blocked"

inductive PanopticonStockState where
  | available | unavailable | unknown
  deriving DecidableEq

/-- A word of a list -/
def readWord (words : List (String × α)) : Json → Option α
  | .str text => words.lookup text
  | _ => none

def readDimension : Json → Option PanopticonDimension :=
  readWord (PanopticonDimension.all.map fun dimension => (dimension.value, dimension))

def readSeverity : Json → Option PanopticonSeverity := readWord [("error", .error), ("info", .info)]

def readStatus : Json → Option PanopticonStatus :=
  readWord ([.notChecked, .unknown, .liveRevalidated, .blocked].map fun status => (status.value, status))

def readStockState : Json → Option PanopticonStockState :=
  readWord [("available", .available), ("unavailable", .unavailable), ("unknown", .unknown)]

/-! ## Times -/

/-- The first and the last instant of `datetime`, in microseconds since the epoch. -/
def minInstant : ℤ := -62135596800000000
def maxInstant : ℤ := 253402300799999999

/-- `time + timedelta(seconds=seconds)`, which raises outside the range of `datetime` -/
def plusSeconds (time seconds : ℤ) : Option ℤ :=
  let sum := time + seconds * 1000000
  if minInstant ≤ sum ∧ sum ≤ maxInstant then some sum else none

/-- `int((expires - observed).total_seconds())`, exact -/
def wholeSeconds (observed expires : ℤ) : ℤ := (expires - observed).tdiv 1000000

/-! ## Findings -/

/-- What `pydantic` and `json` make of a value. -/
structure PanopticonReads where
  /-- a `datetime`, normalised by `_utc_datetime` -/
  datetime : Json → Option ℤ
  datetime_null : datetime .null = none
  boolean : Json → Option Bool
  /-- a `NonNegativeInt` -/
  count : Json → Option ℕ
  /-- a `NonNegativeFloat` that is finite and no boolean, as the text that it is dumped with -/
  price : Json → Option String
  /-- `PanopticonFindingDetails.model_validate(..).model_dump(exclude_none=True)` -/
  detailFields : Dict Json → Option (Dict Json)
  /-- a `Literal[1]` -/
  schemaVersion : Json → Bool
  /-- `isoformat()` in a dump -/
  iso : ℤ → String
  /-- `total_seconds()` in a dump -/
  seconds : ℤ → String

structure FindingFields where
  tuple : String
  adapter : String
  dimension : PanopticonDimension
  severity : PanopticonSeverity := .info
  reason : Option String := none
  field : Option String := none
  source : Option String := none
  livePricePerSecond : Option String := none
  livePriceSource : Option String := none
  liveStockState : Option PanopticonStockState := none
  observedAt : Option ℤ := none
  expiresAt : Option ℤ := none
  details : Option (Dict Json) := none
  raw : Dict Json := ⟨[], List.nodup_nil⟩

/-- `is not None` -/
def isNotNull : Option Json → Bool
  | none | some .null => false
  | some _ => true

/-- `not in (None, "")` -/
def isGiven : Option Json → Bool
  | none | some .null => false
  | some (.str text) => text ≠ ""
  | some _ => true

namespace FindingFields

variable (finding : FindingFields)

/-- `bool(self._live_reason())` -/
def hasLiveReason : Bool :=
  (finding.details.bind (·.get? "live_reason")).any Json.truthy || isGiven (finding.raw.get? "live_reason")

/-- `require_non_empty_identity` and `validate_finding_contract` -/
@[mk_iff]
structure Valid : Prop where
  tuple : strip finding.tuple ≠ ""
  adapter : strip finding.adapter ≠ ""
  expiry : ∀ observed ∈ finding.observedAt, ∀ expires ∈ finding.expiresAt, observed ≤ expires
  error : finding.severity = .error →
    truthyStr finding.reason || truthyStr finding.field || finding.hasLiveReason
  price : finding.dimension = .price → finding.severity = .info →
    finding.livePricePerSecond.isSome ∧ (truthyStr finding.livePriceSource || truthyStr finding.source)
  stock : finding.dimension = .stock → finding.severity = .info → finding.liveStockState.isSome

instance : Decidable finding.Valid := decidable_of_iff' _ (valid_iff finding)

end FindingFields

structure PanopticonFinding extends FindingFields where
  valid : toFindingFields.Valid

/-- `severity == "error" or live_stock_state == "unavailable"` -/
def PanopticonFinding.blocks (finding : PanopticonFinding) : Bool :=
  finding.severity = .error || finding.liveStockState = some .unavailable

def FindingFields.validated (finding : FindingFields) : Option PanopticonFinding :=
  if h : finding.Valid then some ⟨finding, h⟩ else none

/-! ## Reading fields -/

def readStr : Json → Option String
  | .str text => some text
  | _ => none

def readObject : Json → Option (Dict Json)
  | .obj fields => some (.ofFields fields)
  | _ => none

def readList (read : Json → Option α) : Json → Option (List α)
  | .arr items => items.mapM read
  | _ => none

/-- `value: T | None` -/
def orNull (read : Json → Option α) : Json → Option (Option α)
  | .null => some none
  | value => (read value).map some

/-- A field that has a default -/
def readField (read : Json → Option α) (default : α) (data : Dict Json) (key : String) : Option α :=
  match data.get? key with
  | none => some default
  | some value => read value

/-- A field without a default -/
def requireField (read : Json → Option α) (data : Dict Json) (key : String) : Option α :=
  (data.get? key).bind read

/-- `extra="forbid"` -/
def onlyKeys (keys : List String) (data : Dict Json) : Bool := data.keys.all (· ∈ keys)

def findingKeys : List String :=
  ["tuple", "adapter", "dimension", "severity", "reason", "field", "source", "live_price_per_second",
    "live_price_source", "live_stock_state", "observed_at", "expires_at", "details", "raw"]

/-- The defaults that `_canonical_finding` sets before a finding is read. -/
structure FindingDefaults where
  observedAt : Option ℤ := none
  expiresAt : Option ℤ := none

variable (reads : PanopticonReads)

/-- `PanopticonFinding.model_validate` -/
def readFinding (defaults : FindingDefaults) (data : Dict Json) : Option PanopticonFinding := do
  guard (onlyKeys findingKeys data)
  let tuple ← requireField readStr data "tuple"
  let adapter ← requireField readStr data "adapter"
  let dimension ← requireField readDimension data "dimension"
  let severity ← readField readSeverity .info data "severity"
  let reason ← readField (orNull readStr) none data "reason"
  let field ← readField (orNull readStr) none data "field"
  let source ← readField (orNull readStr) none data "source"
  let livePricePerSecond ← readField (orNull reads.price) none data "live_price_per_second"
  let livePriceSource ← readField (orNull readStr) none data "live_price_source"
  let liveStockState ← readField (orNull readStockState) none data "live_stock_state"
  let observedAt ← readField (orNull reads.datetime) defaults.observedAt data "observed_at"
  let expiresAt ← readField (orNull reads.datetime) defaults.expiresAt data "expires_at"
  let details ← readField (orNull fun value => (readObject value).bind reads.detailFields) none data "details"
  let raw ← readField readObject ⟨[], List.nodup_nil⟩ data "raw"
  FindingFields.validated {
    tuple, adapter, dimension, severity, reason, field, source, livePricePerSecond, livePriceSource
    liveStockState, observedAt, expiresAt, details, raw }

/-! ## Rows -/

/-- The dimensions of the findings, sorted and each one once. -/
def findingDimensions (findings : List PanopticonFinding) : List PanopticonDimension :=
  ((findings.map (·.dimension)).dedup).insertionSort fun a b => a.value ≤ b.value

structure RowFields where
  tuple : String
  adapter : String
  status : PanopticonStatus
  checked : Bool := true
  dimensions : List PanopticonDimension := []
  findings : List PanopticonFinding := []
  observedAt : ℤ
  expiresAt : ℤ
  ttlSeconds : ℕ
  catalogValidator : Option Bool := none

/-- `require_non_empty_identity` and `validate_row_contract` -/
@[mk_iff]
structure RowFields.Valid (row : RowFields) : Prop where
  tuple : strip row.tuple ≠ ""
  adapter : strip row.adapter ≠ ""
  expiry : row.observedAt ≤ row.expiresAt
  ttl : (row.ttlSeconds : ℤ) = wholeSeconds row.observedAt row.expiresAt
  dimensions : row.dimensions = findingDimensions row.findings
  identity : ∀ finding ∈ row.findings, finding.tuple = row.tuple ∧ finding.adapter = row.adapter
  nonempty : row.status = .liveRevalidated ∨ row.status = .blocked → row.findings ≠ []
  blocked : row.findings.any (·.blocks) → row.status = .blocked
  checked : row.status = .liveRevalidated → row.checked

instance (row : RowFields) : Decidable row.Valid := decidable_of_iff' _ (RowFields.valid_iff row)

structure PanopticonRow extends RowFields where
  valid : toRowFields.Valid

def RowFields.validated (row : RowFields) : Option PanopticonRow :=
  if h : row.Valid then some ⟨row, h⟩ else none

theorem RowFields.validated_eq_some {fields : RowFields} {row : PanopticonRow} :
    fields.validated = some row ↔ row.toRowFields = fields := by
  rw [validated]
  constructor
  · intro h
    split at h
    · cases h
      rfl
    · cases h
  · rintro rfl
    rw [dif_pos row.valid]

theorem RowFields.validated_isSome {fields : RowFields} : fields.validated.isSome ↔ fields.Valid := by
  rw [validated]
  split <;> simp_all

def rowKeys : List String :=
  ["tuple", "adapter", "status", "checked", "dimensions", "findings", "observed_at", "expires_at",
    "ttl_seconds", "catalog_validator"]

/-- `PanopticonRow.model_validate` -/
def readRow (data : Dict Json) : Option PanopticonRow := do
  guard (onlyKeys rowKeys data)
  let tuple ← requireField readStr data "tuple"
  let adapter ← requireField readStr data "adapter"
  let status ← requireField readStatus data "status"
  let checked ← readField reads.boolean true data "checked"
  let dimensions ← readField (readList readDimension) [] data "dimensions"
  let findings ← readField (readList fun value => (readObject value).bind (readFinding reads {})) [] data
    "findings"
  let observedAt ← requireField reads.datetime data "observed_at"
  let expiresAt ← requireField reads.datetime data "expires_at"
  let ttlSeconds ← requireField reads.count data "ttl_seconds"
  let catalogValidator ← readField (orNull reads.boolean) none data "catalog_validator"
  RowFields.validated {
    tuple, adapter, status, checked, dimensions, findings, observedAt, expiresAt, ttlSeconds
    catalogValidator }

/-! ## Input rows -/

/-- `PanopticonInputRow` -/
structure PanopticonInputRow where
  tuple : Option String := none
  adapter : Option String := none
  status : Option PanopticonStatus := none
  checked : Bool := true
  dimensions : List PanopticonDimension := []
  findings : List (Dict Json) := []
  catalogValidator : Option Bool := none
  observedAt : Option ℤ := none
  expiresAt : Option ℤ := none
  ttlSeconds : Option ℕ := none

/-- `PanopticonInputRow.model_validate` -/
def readInputRow (data : Dict Json) : Option PanopticonInputRow := do
  guard (onlyKeys rowKeys data)
  let tuple ← readField (orNull readStr) none data "tuple"
  let adapter ← readField (orNull readStr) none data "adapter"
  let status ← readField (orNull readStatus) none data "status"
  let checked ← readField reads.boolean true data "checked"
  let dimensions ← readField (readList readDimension) [] data "dimensions"
  let findings ← readField (readList readObject) [] data "findings"
  let catalogValidator ← readField (orNull reads.boolean) none data "catalog_validator"
  let observedAt ← readField (orNull reads.datetime) none data "observed_at"
  let expiresAt ← readField (orNull reads.datetime) none data "expires_at"
  let ttlSeconds ← readField (orNull reads.count) none data "ttl_seconds"
  return {
    tuple, adapter, status, checked, dimensions, findings, catalogValidator, observedAt, expiresAt
    ttlSeconds }

/-- The tuple of a row that stands under `name`, which has to be its own. -/
def PanopticonInputRow.tupleUnder (row : PanopticonInputRow) (name : String) : Option String :=
  let tuple := (row.tuple.filter (· ≠ "")).getD name
  if tuple = name then some tuple else none

/-- `_first_mapping_value(items, "adapter")`. A value that is no text fails later, where it is compared with the
adapter of the row. -/
def firstAdapter (findings : List (Dict Json)) : Option String :=
  ((findings.filterMap fun finding => (finding.get? "adapter").filter (isGiven ∘ some)).head?).bind readStr

/-- `_ttl_seconds_for_findings` -/
def ttlSecondsForFindings (findings : List (Dict Json)) : ℕ :=
  let ttls := findings.filterMap fun finding =>
    ((finding.get? "dimension").filter Json.truthy).map fun dimension =>
      ((readDimension dimension).map (·.ttl)).getD 300
  ttls.min?.getD 300

/-! ## Canonical findings -/

def detailKeys : List String :=
  ["provider", "provider_family", "account_ref", "region", "gpu_type", "endpoint_id", "endpoint_name",
    "endpoint_status", "target", "template_id", "template_name", "image", "model_name", "served_model_name",
    "max_model_len", "configured_model_len", "http_status", "workers_min", "workers_max", "active_workers",
    "active_pods", "queue_depth", "served_model_count", "probe_elapsed_ms", "price_per_second",
    "price_source", "live_reason", "error_code", "error_type", "source_url", "resource_type", "resource_id",
    "resource_name", "data_center_id", "storage_size_gb", "estimated_monthly_usd",
    "attached_endpoint_count", "attached_endpoint_ids", "declared_by_tuple_count", "declared_by_tuples",
    "content_inventory_status", "retention_policy", "recreate_source"]

def workerKeys : List (String × String) :=
  [("running", "worker_running"), ("ready", "worker_ready"), ("idle", "worker_idle"),
    ("inQueue", "worker_in_queue"), ("in_queue", "worker_in_queue")]

/-- The loops of `_details_from_raw` -/
def rawDetails (raw : Dict Json) : Dict Json :=
  let direct := detailKeys.filterMap fun key =>
    ((raw.get? key).filter (isGiven ∘ some)).map fun value => (key, value)
  let workers := ((raw.get? "workers").bind readObject).getD ⟨[], List.nodup_nil⟩
  let ofWorkers := workerKeys.filterMap fun key =>
    ((workers.get? key.1).filter (isGiven ∘ some)).map fun value => (key.2, value)
  .ofFields (direct ++ ofWorkers)

/-- `_details_from_raw` -/
def detailsFromRaw : Option Json → Option (Dict Json)
  | some (.obj fields) => reads.detailFields (rawDetails (.ofFields fields))
  | _ => some ⟨[], List.nodup_nil⟩

/-- `_merge_details`; details that are neither an object nor null are refused. -/
def mergeDetails (extracted : Dict Json) : Option Json → Option (Dict Json)
  | none | some .null => some extracted
  | some (.obj fields) => reads.detailFields (.ofFields (extracted.entries ++ fields))
  | some _ => none

/-- `data.setdefault(key, value)` -/
def Dict.setDefault (d : Dict α) (key : String) (value : α) : Dict α :=
  if (d.get? key).isSome then d else d.set key value

/-- `_canonical_finding` -/
def canonicalFinding (tupleName adapter : String) (observedAt ttlSeconds : ℤ) (raw : Dict Json) :
    Option PanopticonFinding := do
  let data := (raw.setDefault "tuple" (.str tupleName)).setDefault "adapter" (.str adapter)
  guard (requireField readStr data "tuple" = some tupleName)
  guard (requireField readStr data "adapter" = some adapter)
  let expiresAt ← plusSeconds observedAt ttlSeconds
  let data :=
    if isNotNull (data.get? "live_price_per_second") &&
        !(data.get? "live_price_source").any Json.truthy then
      data.set "live_price_source"
        (((data.get? "source").filter Json.truthy).getD (.str "provider-panopticon"))
    else data
  let details ← (detailsFromRaw reads (data.get? "raw")).bind fun extracted =>
    mergeDetails reads extracted (data.get? "details")
  let data := if details.entries = [] then data.pop "details" else data.set "details" (.obj details.entries)
  readFinding reads { observedAt := some observedAt, expiresAt := some expiresAt } data

/-! ## What is read -/

section Specs

variable {reads}

theorem FindingFields.validated_eq_some {fields : FindingFields} {finding : PanopticonFinding} :
    fields.validated = some finding ↔ finding.toFindingFields = fields := by
  rw [validated]
  constructor
  · intro h
    split at h
    · cases h
      rfl
    · cases h
  · rintro rfl
    rw [dif_pos finding.valid]

theorem requireField_eq_some_iff {read : Json → Option α} {data : Dict Json} {key : String} {default : α}
    (h : readField read default data key = some found) (hvalue : value ≠ default) :
    requireField read data key = some value ↔ found = value := by
  rw [readField] at h
  rw [requireField]
  cases hget : data.get? key with
  | none =>
    rw [hget] at h
    cases h
    simp [Ne.symm hvalue]
  | some json =>
    rw [hget] at h
    simp only [Option.bind_some, h, Option.some.injEq]

theorem requireField_eq_some_iff_orNull {read : Json → Option α} {data : Dict Json} {key : String}
    {default : Option α} (h : readField (orNull read) default data key = some found)
    (hnull : read .null = none) :
    requireField read data key = some value ↔ found = some value ∧ (data.get? key).isSome := by
  rw [readField] at h
  rw [requireField]
  cases hget : data.get? key with
  | none => simp
  | some json =>
    rw [hget] at h
    cases json with
    | null =>
      cases h
      simp [hnull]
    | _ =>
      obtain ⟨read, hread, rfl⟩ := Option.map_eq_some_iff.mp h
      simp [hread]

/-- The fields of a finding that say whether it blocks and when it expires. -/
theorem readFinding_eq_some {defaults : FindingDefaults} {data : Dict Json} {finding : PanopticonFinding}
    (h : readFinding reads defaults data = some finding) :
    requireField readStr data "tuple" = some finding.tuple ∧
    requireField readStr data "adapter" = some finding.adapter ∧
    requireField readDimension data "dimension" = some finding.dimension ∧
    readField readSeverity .info data "severity" = some finding.severity ∧
    readField (orNull readStockState) none data "live_stock_state" = some finding.liveStockState ∧
    readField (orNull reads.datetime) defaults.observedAt data "observed_at" = some finding.observedAt ∧
    readField (orNull reads.datetime) defaults.expiresAt data "expires_at" = some finding.expiresAt := by
  rw [readFinding] at h
  obtain ⟨_, -, h⟩ := Option.bind_eq_some_iff.mp h
  obtain ⟨tuple, htuple, h⟩ := Option.bind_eq_some_iff.mp h
  obtain ⟨adapter, hadapter, h⟩ := Option.bind_eq_some_iff.mp h
  obtain ⟨dimension, hdimension, h⟩ := Option.bind_eq_some_iff.mp h
  obtain ⟨severity, hseverity, h⟩ := Option.bind_eq_some_iff.mp h
  obtain ⟨_, -, h⟩ := Option.bind_eq_some_iff.mp h
  obtain ⟨_, -, h⟩ := Option.bind_eq_some_iff.mp h
  obtain ⟨_, -, h⟩ := Option.bind_eq_some_iff.mp h
  obtain ⟨_, -, h⟩ := Option.bind_eq_some_iff.mp h
  obtain ⟨_, -, h⟩ := Option.bind_eq_some_iff.mp h
  obtain ⟨stock, hstock, h⟩ := Option.bind_eq_some_iff.mp h
  obtain ⟨observed, hobserved, h⟩ := Option.bind_eq_some_iff.mp h
  obtain ⟨expires, hexpires, h⟩ := Option.bind_eq_some_iff.mp h
  obtain ⟨_, -, h⟩ := Option.bind_eq_some_iff.mp h
  obtain ⟨_, -, h⟩ := Option.bind_eq_some_iff.mp h
  rw [FindingFields.validated_eq_some.mp h]
  exact ⟨htuple, hadapter, hdimension, hseverity, hstock, hobserved, hexpires⟩

theorem readRow_eq_some {data : Dict Json} {row : PanopticonRow} (h : readRow reads data = some row) :
    requireField readStatus data "status" = some row.status ∧
    requireField reads.datetime data "expires_at" = some row.expiresAt := by
  rw [readRow] at h
  obtain ⟨_, -, h⟩ := Option.bind_eq_some_iff.mp h
  obtain ⟨_, -, h⟩ := Option.bind_eq_some_iff.mp h
  obtain ⟨_, -, h⟩ := Option.bind_eq_some_iff.mp h
  obtain ⟨status, hstatus, h⟩ := Option.bind_eq_some_iff.mp h
  obtain ⟨_, -, h⟩ := Option.bind_eq_some_iff.mp h
  obtain ⟨_, -, h⟩ := Option.bind_eq_some_iff.mp h
  obtain ⟨_, -, h⟩ := Option.bind_eq_some_iff.mp h
  obtain ⟨_, -, h⟩ := Option.bind_eq_some_iff.mp h
  obtain ⟨expires, hexpires, h⟩ := Option.bind_eq_some_iff.mp h
  obtain ⟨_, -, h⟩ := Option.bind_eq_some_iff.mp h
  obtain ⟨_, -, h⟩ := Option.bind_eq_some_iff.mp h
  rw [RowFields.validated_eq_some.mp h]
  exact ⟨hstatus, hexpires⟩

theorem readInputRow_eq_some {data : Dict Json} {input : PanopticonInputRow}
    (h : readInputRow reads data = some input) :
    readField (readList readObject) [] data "findings" = some input.findings := by
  rw [readInputRow] at h
  obtain ⟨_, -, h⟩ := Option.bind_eq_some_iff.mp h
  obtain ⟨_, -, h⟩ := Option.bind_eq_some_iff.mp h
  obtain ⟨_, -, h⟩ := Option.bind_eq_some_iff.mp h
  obtain ⟨_, -, h⟩ := Option.bind_eq_some_iff.mp h
  obtain ⟨_, -, h⟩ := Option.bind_eq_some_iff.mp h
  obtain ⟨_, -, h⟩ := Option.bind_eq_some_iff.mp h
  obtain ⟨findings, hfindings, h⟩ := Option.bind_eq_some_iff.mp h
  obtain ⟨_, -, h⟩ := Option.bind_eq_some_iff.mp h
  obtain ⟨_, -, h⟩ := Option.bind_eq_some_iff.mp h
  obtain ⟨_, -, h⟩ := Option.bind_eq_some_iff.mp h
  obtain ⟨_, -, h⟩ := Option.bind_eq_some_iff.mp h
  cases h
  exact hfindings

theorem Dict.get?_setDefault_of_ne {d : Dict α} {key other : String} {value : α} (hne : other ≠ key) :
    (d.setDefault key value).get? other = d.get? other := by
  rw [setDefault]
  split
  · rfl
  · rw [get?_set, if_neg hne]

theorem Dict.get?_pop_of_ne {d : Dict α} {key other : String} (hne : other ≠ key) :
    (d.pop key).get? other = d.get? other :=
  Option.ext fun found => by rw [get?_pop, and_iff_right hne]

/-- A canonical finding is read from the raw one, with defaults, and only four fields are changed before. -/
theorem canonicalFinding_eq_some {tupleName adapter : String} {observedAt ttlSeconds : ℤ} {raw : Dict Json}
    {finding : PanopticonFinding}
    (h : canonicalFinding reads tupleName adapter observedAt ttlSeconds raw = some finding) :
    ∃ data expiresAt, plusSeconds observedAt ttlSeconds = some expiresAt ∧
      readFinding reads { observedAt := some observedAt, expiresAt := some expiresAt } data = some finding ∧
      ∀ key ∉ ["tuple", "adapter", "live_price_source", "details"], data.get? key = raw.get? key := by
  simp only [canonicalFinding, Option.bind_eq_bind, Option.bind_eq_some_iff] at h
  obtain ⟨-, -, -, -, expiresAt, hexpires, details, -, hread⟩ := h
  refine ⟨_, expiresAt, hexpires, hread, fun key hkey => ?_⟩
  simp only [List.mem_cons, List.not_mem_nil, or_false, not_or] at hkey
  obtain ⟨htuple, hadapter, hsource, hdetails⟩ := hkey
  have hdata : (if isNotNull (((raw.setDefault "tuple" (.str tupleName)).setDefault "adapter"
        (.str adapter)).get? "live_price_per_second") &&
        !((((raw.setDefault "tuple" (.str tupleName)).setDefault "adapter"
          (.str adapter)).get? "live_price_source").any Json.truthy)
      then ((raw.setDefault "tuple" (.str tupleName)).setDefault "adapter" (.str adapter)).set
        "live_price_source" ((((((raw.setDefault "tuple" (.str tupleName)).setDefault "adapter"
          (.str adapter)).get? "source").filter Json.truthy)).getD (.str "provider-panopticon"))
      else (raw.setDefault "tuple" (.str tupleName)).setDefault "adapter" (.str adapter)).get? key =
      raw.get? key := by
    split
    · rw [Dict.get?_set, if_neg hsource, Dict.get?_setDefault_of_ne hadapter, Dict.get?_setDefault_of_ne htuple]
    · rw [Dict.get?_setDefault_of_ne hadapter, Dict.get?_setDefault_of_ne htuple]
  split
  · rw [Dict.get?_pop_of_ne hdetails, hdata]
  · rw [Dict.get?_set, if_neg hdetails, hdata]

end Specs

end Gpucall
