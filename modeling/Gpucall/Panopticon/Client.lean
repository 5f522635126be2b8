import Gpucall.Panopticon.MergeOrder
import Gpucall.Panopticon.Store

/-! `panopticon_client.py`: a snapshot of the evidence is fetched from the file or over HTTP. Only the file in the
format of the store goes through `load_panopticon_evidence`, which recomputes what has expired. -/

namespace Gpucall

variable (reads : PanopticonReads)

/-! ## Reports -/

inductive PanopticonFetchStatus where
  | ok | stale | missing | unreachable | invalid
  deriving DecidableEq

structure PanopticonClientConfig where
  url : Option String := none
  failClosedOnMissing : Bool := false
  failClosedOnUnreachable : Bool := false
  failClosedOnInvalid : Bool := false

structure PanopticonReport where
  status : PanopticonFetchStatus
  failClosed : Bool
  staleTupleCount : ℕ
  snapshot : PanopticonEvidence

/-- `row.get("panopticon_stale") is True` -/
def saysStale (row : Dict Json) : Bool := row.get? "panopticon_stale" matches some (.bool true)

/-- `_stale_tuple_count` -/
def staleTupleCount (snapshot : PanopticonEvidence) : ℕ := (snapshot.values.filter saysStale).length

/-- `_success_report` -/
def successReport (snapshot : PanopticonEvidence) : PanopticonReport where
  status := if staleTupleCount snapshot = 0 then .ok else .stale
  failClosed := false
  staleTupleCount := staleTupleCount snapshot
  snapshot

/-- `_fail_closed` -/
def PanopticonClientConfig.failClosed (config : PanopticonClientConfig) : PanopticonFetchStatus → Bool
  | .missing => config.failClosedOnMissing
  | .unreachable => config.failClosedOnUnreachable
  | .invalid => config.failClosedOnInvalid
  | _ => false

/-- `_failure_reason_code_from_reason` of the reasons that the client gives -/
def failureReasonCode : PanopticonFetchStatus → String
  | .missing => "panopticon_snapshot_missing"
  | .unreachable => "panopticon_snapshot_unreachable"
  | .invalid => "panopticon_snapshot_invalid"
  | _ => "panopticon_snapshot_failed"

/-- A row of `_blocked_snapshot` -/
def blockedRowDump (name adapter reason : String) (status : PanopticonFetchStatus) (now : ℤ) : Dict Json :=
  .ofFields [("tuple", .str name), ("adapter", .str adapter), ("status", .str "blocked"),
    ("checked", .bool true), ("dimensions", .arr [.str "panopticon"]),
    ("observed_at", .str (reads.iso now)), ("expires_at", .str (reads.iso now)),
    ("ttl_seconds", .number "0"), ("panopticon_observed_at", .str (reads.iso now)),
    ("panopticon_expires_at", .str (reads.iso now)), ("panopticon_ttl_seconds", .number "0"),
    ("panopticon_stale", .bool true), ("panopticon_age_seconds", .number "0.0"),
    ("findings", .arr [.obj [("tuple", .str name), ("adapter", .str adapter),
      ("dimension", .str "panopticon"), ("severity", .str "error"), ("reason", .str reason),
      ("source", .str "provider-panopticon-client"),
      ("raw", .obj [("live_reason", .str (failureReasonCode status))])]])]

/-- The tuples for which a failure is blocked, with their adapters. -/
abbrev TupleScope := List (String × String)

/-- `_failure_report` -/
def failureReport (config : PanopticonClientConfig) (scope : TupleScope) (status : PanopticonFetchStatus)
    (reason : String) (now : ℤ) : PanopticonReport :=
  let snapshot : PanopticonEvidence :=
    if config.failClosed status then
      .ofFields (scope.map fun entry => (entry.1, blockedRowDump reads entry.1 entry.2 reason status now))
    else ⟨[], List.nodup_nil⟩
  { status
    failClosed := config.failClosed status
    staleTupleCount := staleTupleCount snapshot
    snapshot }

/-! ## Snapshots -/

/-- A row of the result of `load_panopticon_evidence` -/
@[irreducible]
def loadedRowDump (loaded : LoadedRow) : Dict Json :=
  .ofFields <|
    [("tuple", .str loaded.row.tuple), ("adapter", .str loaded.row.adapter),
      ("status", .str loaded.status.value), ("checked", .bool loaded.row.checked),
      ("findings", .arr loaded.findings),
      ("dimensions", .arr (loaded.dimensions.map fun dimension => .str dimension.value)),
      ("observed_at", .str (reads.iso loaded.row.observedAt)),
      ("expires_at", .str (reads.iso loaded.row.expiresAt)),
      ("ttl_seconds", .number (toString loaded.row.ttlSeconds)),
      ("panopticon_observed_at", .str (reads.iso loaded.row.observedAt)),
      ("panopticon_expires_at", .str (reads.iso loaded.row.expiresAt)),
      ("panopticon_ttl_seconds", .number (toString loaded.row.ttlSeconds)),
      ("panopticon_stale", .bool loaded.panopticonStale),
      ("panopticon_age_seconds", .number (reads.seconds loaded.ageSeconds))] ++
    (loaded.row.catalogValidator.map fun value => ("catalog_validator", Json.bool value)).toList

/-- `_validated_snapshot`: the snapshot itself, where a merge of it at the time `clock` does not raise. -/
def validatedSnapshot (clock : ℤ) (snapshot : PanopticonEvidence) : Option PanopticonEvidence :=
  (mergePanopticonEvidence reads [some snapshot] clock).map fun _ => snapshot

/-- `load_panopticon_evidence` in the client, of a file that has been parsed -/
def storeSnapshot (now clock : ℤ) (content : Json) : Option PanopticonEvidence := do
  let data ← readObject content
  let payload ← payloadOfJson reads data
  validatedSnapshot reads clock
    ((loadPayload reads {} now payload).filterMap fun loaded => some (loadedRowDump reads loaded))

/-- `_snapshot_from_report_payload`; `equalsOne` is `value == 1` in Python. -/
def snapshotFromReportPayload (equalsOne : Json → Bool) (payload : Json) : Option PanopticonEvidence := do
  let data ← readObject payload
  guard ((data.get? "schema_version").any equalsOne)
  let snapshot ← (data.get? "snapshot").bind readObject
  let rows ← snapshot.entries.mapM fun entry => (readObject entry.2).map fun row => (entry.1, row)
  return .ofFields rows

def reportSnapshot (equalsOne : Json → Bool) (clock : ℤ) (payload : Json) : Option PanopticonEvidence :=
  (snapshotFromReportPayload equalsOne payload).bind (validatedSnapshot reads clock)

/-! ## Fetching -/

/-- What is at the path of the file. -/
inductive SnapshotFile where
  | missing
  /-- It cannot be read, or holds no JSON. -/
  | unreadable
  | content (value : Json)

/-- `_fetch_file` -/
def fetchFile (equalsOne : Json → Bool) (config : PanopticonClientConfig) (scope : TupleScope)
    (file : SnapshotFile) (now clock : ℤ) : PanopticonReport :=
  let invalid := failureReport reads config scope .invalid "provider panopticon snapshot file is invalid" now
  match file with
  | .missing =>
    failureReport reads config scope .missing "provider panopticon snapshot file is missing" now
  | .unreadable => invalid
  | .content value =>
    match (storeSnapshot reads now clock value).or (reportSnapshot reads equalsOne clock value) with
    | some snapshot => successReport snapshot
    | none => invalid

/-- What the server answers. -/
inductive SnapshotResponse where
  /-- An `httpx.HTTPError`, also from `raise_for_status` -/
  | httpError
  /-- A body that is no JSON -/
  | unreadable
  | content (value : Json)

/-- `_fetch_http` -/
def fetchHttp (equalsOne : Json → Bool) (config : PanopticonClientConfig) (scope : TupleScope)
    (response : SnapshotResponse) (now clock : ℤ) : PanopticonReport :=
  let invalid := failureReport reads config scope .invalid "provider panopticon HTTP snapshot is invalid" now
  if strip (config.url.getD "") = "" then
    failureReport reads config scope .missing "provider panopticon HTTP URL is not configured" now
  else
    match response with
    | .httpError =>
      failureReport reads config scope .unreachable "provider panopticon snapshot unreachable" now
    | .unreadable => invalid
    | .content value =>
      match reportSnapshot reads equalsOne clock value with
      | some snapshot => successReport snapshot
      | none => invalid

/-! ## Expired rows -/

/-- A row is reported as stale or blocked. -/
def ReportedStale (row : Dict Json) : Prop :=
  row.get? "panopticon_stale" = some (.bool true) ∨ row.get? "status" = some (.str "blocked")

def ExpiredReported (snapshot : PanopticonEvidence) (now : ℤ) : Prop :=
  ∀ entry ∈ snapshot.entries, ExpiresBy reads entry.2 now → ReportedStale entry.2

/-- A successful report serves no expired row as fresh. -/
def ServesNoExpired (report : PanopticonReport) (now : ℤ) : Prop :=
  report.status = .ok ∨ report.status = .stale → ExpiredReported reads report.snapshot now

variable {reads} {equalsOne : Json → Bool} {config : PanopticonClientConfig} {scope : TupleScope}
  {now clock : ℤ}

theorem servesNoExpired_successReport {snapshot : PanopticonEvidence} :
    ServesNoExpired reads (successReport snapshot) now ↔ ExpiredReported reads snapshot now := by
  refine ⟨fun h => h ?_, fun h _ => h⟩
  rw [successReport]
  split
  · exact .inl rfl
  · exact .inr rfl

theorem servesNoExpired_failureReport {status : PanopticonFetchStatus} {reason : String}
    (hok : status ≠ .ok) (hstale : status ≠ .stale) :
    ServesNoExpired reads (failureReport reads config scope status reason now) now :=
  fun h => (h.elim hok hstale).elim

theorem validatedSnapshot_eq_some {snapshot validated : PanopticonEvidence}
    (h : validatedSnapshot reads clock snapshot = some validated) : validated = snapshot := by
  obtain ⟨_, -, heq⟩ := Option.map_eq_some_iff.mp h
  exact heq.symm

theorem get?_loadedRowDump (loaded : LoadedRow) :
    (loadedRowDump reads loaded).get? "status" = some (.str loaded.status.value) ∧
      (loadedRowDump reads loaded).get? "expires_at" = some (.str (reads.iso loaded.row.expiresAt)) := by
  rw [loadedRowDump]
  constructor <;> rw [Dict.get?_ofFields_of_nodup (by cases loaded.row.catalogValidator <;> simp)] <;> rfl

theorem loadRow_status {name : String} {row : PanopticonRow} (h : row.expiresAt ≤ now) :
    (loadRow reads {} now name row).status = .blocked := by
  rw [loadRow, if_pos h]

theorem loadRow_row (name : String) (row : PanopticonRow) : (loadRow reads {} now name row).row = row := by
  rw [loadRow]
  split <;> rfl

theorem reportedStale_loadedRowDump
    (hiso : ∀ time found, reads.datetime (.str (reads.iso time)) = some found → found = time)
    {name : String} {row : PanopticonRow}
    (h : ExpiresBy reads (loadedRowDump reads (loadRow reads {} now name row)) now) :
    ReportedStale (loadedRowDump reads (loadRow reads {} now name row)) := by
  obtain ⟨time, htime, hpast⟩ := h
  obtain ⟨hstatus, hexpires⟩ := @get?_loadedRowDump reads (loadRow reads {} now name row)
  rw [requireField, hexpires, loadRow_row, Option.bind_some] at htime
  rw [hiso _ _ htime] at hpast
  rw [loadRow_status hpast] at hstatus
  exact .inr hstatus

/-- What is loaded from a file in the format of the store is blocked once it has expired. -/
theorem expiredReported_storeSnapshot
    (hiso : ∀ time found, reads.datetime (.str (reads.iso time)) = some found → found = time)
    {content : Json} {snapshot : PanopticonEvidence}
    (h : storeSnapshot reads now clock content = some snapshot) : ExpiredReported reads snapshot now := by
  obtain ⟨data, -, h⟩ := Option.bind_eq_some_iff.mp h
  obtain ⟨payload, -, h⟩ := Option.bind_eq_some_iff.mp h
  rw [validatedSnapshot_eq_some h]
  intro entry hentry
  obtain ⟨loaded, hloaded, hdump⟩ := List.mem_filterMap.mp hentry
  obtain ⟨dump, hsome, rfl⟩ := Option.map_eq_some_iff.mp hdump
  obtain ⟨stored, -, rfl⟩ := List.mem_map.mp hloaded
  obtain rfl := Option.some.inj hsome
  exact reportedStale_loadedRowDump hiso

/-! ## When nothing expired is served -/

theorem servesNoExpired_fetchFile_content
    (hiso : ∀ time found, reads.datetime (.str (reads.iso time)) = some found → found = time) {content : Json} :
    ServesNoExpired reads (fetchFile reads equalsOne config scope (.content content) now clock) now ↔
      storeSnapshot reads now clock content = none →
        ∀ snapshot, reportSnapshot reads equalsOne clock content = some snapshot →
          ExpiredReported reads snapshot now := by
  rw [fetchFile]
  cases hstore : storeSnapshot reads now clock content with
  | some snapshot =>
    simp only [Option.some_or, reduceCtorEq, false_implies, iff_true]
    exact servesNoExpired_successReport.mpr (expiredReported_storeSnapshot hiso hstore)
  | none =>
    cases hreport : reportSnapshot reads equalsOne clock content with
    | none =>
      simp only [Option.none_or, reduceCtorEq, false_implies, implies_true, iff_true]
      exact servesNoExpired_failureReport (by decide) (by decide)
    | some snapshot =>
      simp only [Option.none_or, servesNoExpired_successReport, forall_const, Option.some.injEq, forall_eq']

theorem servesNoExpired_fetchHttp_content {content : Json} (hurl : strip (config.url.getD "") ≠ "") :
    ServesNoExpired reads (fetchHttp reads equalsOne config scope (.content content) now clock) now ↔
      ∀ snapshot, reportSnapshot reads equalsOne clock content = some snapshot →
        ExpiredReported reads snapshot now := by
  rw [fetchHttp, if_neg hurl]
  cases hreport : reportSnapshot reads equalsOne clock content with
  | none =>
    simp only [reduceCtorEq, false_implies, implies_true, iff_true]
    exact servesNoExpired_failureReport (by decide) (by decide)
  | some snapshot => simp only [servesNoExpired_successReport, Option.some.injEq, forall_eq']

/-- In a report that the client accepts as it is, every row that has expired is marked already. -/
def MarkedInReport (reads : PanopticonReads) (equalsOne : Json → Bool) (now clock : ℤ) (content : Json) :
    Prop :=
  ∀ snapshot, snapshotFromReportPayload equalsOne content = some snapshot →
    (mergePanopticonEvidence reads [some snapshot] clock).isSome → ExpiredReported reads snapshot now

theorem markedInReport_iff {content : Json} :
    MarkedInReport reads equalsOne now clock content ↔
      ∀ snapshot, reportSnapshot reads equalsOne clock content = some snapshot →
        ExpiredReported reads snapshot now := by
  constructor
  · intro h snapshot hreport
    obtain ⟨found, hfound, hvalidated⟩ := Option.bind_eq_some_iff.mp hreport
    obtain ⟨merged, hmerged, heq⟩ := Option.map_eq_some_iff.mp hvalidated
    exact heq ▸ h found hfound (Option.isSome_of_eq_some hmerged)
  · intro h snapshot hfound hmerged
    obtain ⟨merged, hmerged⟩ := Option.isSome_iff_exists.mp hmerged
    refine h snapshot (Option.bind_eq_some_iff.mpr ⟨snapshot, hfound, ?_⟩)
    rw [validatedSnapshot, hmerged]
    rfl

/-- The client serves no expired row as fresh exactly when what it fetches is in the format of the store, or a
report in which the rows that have expired are marked already. -/
theorem servesNoExpired_iff (reads : PanopticonReads) (equalsOne : Json → Bool)
    (hiso : ∀ time found, reads.datetime (.str (reads.iso time)) = some found → found = time)
    (config : PanopticonClientConfig) (scope : TupleScope) (now clock : ℤ) :
    (∀ file, ServesNoExpired reads (fetchFile reads equalsOne config scope file now clock) now ↔
      ∀ content, file = .content content → storeSnapshot reads now clock content = none →
        MarkedInReport reads equalsOne now clock content) ∧
    (∀ response, ServesNoExpired reads (fetchHttp reads equalsOne config scope response now clock) now ↔
      ∀ content, response = .content content → strip (config.url.getD "") ≠ "" →
        MarkedInReport reads equalsOne now clock content) := by
  constructor
  · rintro (_ | _ | content)
    · exact iff_of_true (servesNoExpired_failureReport (by decide) (by decide)) (by simp)
    · exact iff_of_true (servesNoExpired_failureReport (by decide) (by decide)) (by simp)
    · rw [servesNoExpired_fetchFile_content hiso, ← markedInReport_iff]
      simp
  · intro response
    by_cases hurl : strip (config.url.getD "") = ""
    · rw [fetchHttp.eq_def, if_pos hurl]
      exact iff_of_true (servesNoExpired_failureReport (by decide) (by decide)) (by simp [hurl])
    · cases response with
      | content content =>
        rw [servesNoExpired_fetchHttp_content hurl, ← markedInReport_iff]
        simp [hurl]
      | _ =>
        rw [fetchHttp.eq_def, if_neg hurl]
        exact iff_of_true (servesNoExpired_failureReport (by decide) (by decide)) (by simp)

/-! ## A report of yesterday -/

theorem januaryReads_iso (time found : ℤ)
    (h : januaryReads.datetime (.str (januaryReads.iso time)) = some found) : found = time := by
  have hread : januaryTimes.lookup
      (((januaryTimes.find? fun entry => entry.2 = time).map Prod.fst).getD "") = some found := h
  cases hfind : januaryTimes.find? fun entry => entry.2 = time with
  | none =>
    rw [hfind] at hread
    cases hread
  | some entry =>
    have hlookup : ∀ entry ∈ januaryTimes, januaryTimes.lookup entry.1 = some entry.2 := by decide +kernel
    rw [hfind, Option.map_some, Option.getD_some, hlookup entry (List.mem_of_find?_eq_some hfind)] at hread
    rw [← Option.some.inj hread]
    simpa using List.find?_some hfind

/-- Evidence of an endpoint that expires five minutes after midnight, as a service reports it. -/
def reportedEndpoint (status : String) : Json :=
  .obj [("schema_version", .number "1"), ("snapshot", .obj [("t4", .obj [("tuple", .str "t4"),
    ("adapter", .str "modal"), ("status", .str status), ("checked", .bool true),
    ("dimensions", .arr [.str "endpoint"]), ("findings", .arr [.obj [("tuple", .str "t4"),
      ("adapter", .str "modal"), ("dimension", .str "endpoint")]]),
    ("observed_at", .str "2026-01-01T00:00:00+00:00"), ("expires_at", .str "2026-01-01T00:05:00+00:00"),
    ("ttl_seconds", .number "300"), ("panopticon_stale", .bool false)])])]

def readsOne : Json → Bool
  | .number text => text = "1"
  | _ => false

def saysBlocked (row : Dict Json) : Bool := row.get? "status" matches some (.str "blocked")

/-- The next midnight -/
def secondDay : ℤ := 1767312000000000

theorem servesNoExpired_iff_blocked :
    ServesNoExpired januaryReads (fetchHttp januaryReads readsOne { url := some "http://localhost:18090" } []
      (.content (reportedEndpoint "blocked")) secondDay secondDay) secondDay := by
  refine ((servesNoExpired_iff januaryReads readsOne januaryReads_iso _ _ _ _).2 _).mpr ?_
  rintro content hcontent - snapshot hsnapshot - entry hentry -
  cases hcontent
  have hblocked : (snapshotFromReportPayload readsOne (reportedEndpoint "blocked")).all fun snapshot =>
      snapshot.entries.all fun entry => saysBlocked entry.2 := by
    decide +kernel
  rw [hsnapshot, Option.all_some, List.all_eq_true] at hblocked
  have hstatus := hblocked entry hentry
  unfold saysBlocked at hstatus
  split at hstatus
  · rename_i heq
    exact .inr heq
  · cases hstatus

/-- A day later the report is still served as `ok`, with a row that is live. -/
theorem not_servesNoExpired :
    ¬ ServesNoExpired januaryReads (fetchHttp januaryReads readsOne { url := some "http://localhost:18090" } []
      (.content (reportedEndpoint "live_revalidated")) secondDay secondDay) secondDay := by
  intro hserves
  have hmarked := (servesNoExpired_fetchHttp_content (by decide +kernel)).mp hserves
  have hfresh : (reportSnapshot januaryReads readsOne secondDay (reportedEndpoint "live_revalidated")).any
      fun snapshot => snapshot.entries.any fun entry =>
        (requireField januaryReads.datetime entry.2 "expires_at").any (· ≤ secondDay) &&
          !saysStale entry.2 && requireField readStatus entry.2 "status" = some .liveRevalidated := by
    decide +kernel
  obtain ⟨snapshot, hsnapshot, hany⟩ := (Option.any_eq_true _ _).mp hfresh
  obtain ⟨entry, hentry, hrow⟩ := List.any_eq_true.mp hany
  rw [Bool.and_eq_true, Bool.and_eq_true, Option.any_eq_true, decide_eq_true_iff] at hrow
  obtain ⟨⟨⟨time, htime, hpast⟩, hstale⟩, hstatus⟩ := hrow
  rcases hmarked snapshot hsnapshot entry hentry ⟨time, htime, by simpa using hpast⟩ with hmark | hmark
  · rw [saysStale, hmark] at hstale
    cases hstale
  · rw [requireField, hmark] at hstatus
    revert hstatus
    decide

end Gpucall
