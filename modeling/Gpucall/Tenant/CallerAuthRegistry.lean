import Gpucall.Execution.HyperstackReconcile
import Gpucall.Interpreter
import Gpucall.IsoFormat
import Gpucall.Tenant.KeyLifecycle

/-! `caller_auth_registry.py`: who has been given a key, and when, in a JSON file beside the credentials. Each change
reads the whole file and writes it again; over it stands a view, which has one entry for each name. -/

namespace Gpucall

open Json (Layout)

/-- The file as it is found -/
inductive RegistryFile where
  | absent
  /-- An `OSError` when it is read -/
  | unreadable
  /-- It is no UTF-8. -/
  | undecodable
  | text (content : String)

inductive RegistryError where
  | unicodeDecodeError
  /-- What `json` raises besides `JSONDecodeError` -/
  | json
  /-- What `dict(record)` raises -/
  | dict
  | permissionError

/-- The machine of the gateway with its calendar. -/
structure RegistryHost extends KeyHost where
  python : Interpreter
  /-- `datetime.fromisoformat(text)`, in UTC, unless it raises `ValueError` -/
  fromisoformat : String → Option DateTime
  fromisoformat_isoformat : ∀ t : DateTime, fromisoformat t.isoformat = some t
  /-- The text of a list or of a dictionary is no date. -/
  fromisoformat_items : ∀ items, fromisoformat (replaceZulu (py.repr (.arr items))) = none
  fromisoformat_fields : ∀ fields, fromisoformat (replaceZulu (py.repr (.obj fields))) = none
  registryReadOnly : Bool := false

/-- What a change returns, and the file that it has written -/
structure RegistryWritten where
  payload : Json
  file : RegistryFile

/-- A row of the summary -/
structure AuthSummaryRow where
  systemName : String
  scope : Json
  fingerprint : Json
  ageSeconds : Option ℤ
  expiresAt : Json
  lastVerificationStatus : Json

structure AuthSummary where
  state : String
  count : ℕ
  records : List AuthSummaryRow

/-- `json.dumps(payload, indent=2, sort_keys=True)` -/
def registryLayout : Layout := { Layout.indented 2 with sortKeys := true }

def strOrNull (value : Option String) : Json := value.elim .null .str

/-- `record.get(key)` -/
def recordField (fields : List (String × Json)) (key : String) : Json := (fields.lookup key).getD .null

/-- An item as `dict` takes it for a key with its value. With a key that is no text it cannot be written in order
beside the others. -/
def pairOf : Json → Option (String × Json)
  | .arr [.str key, value] => some (key, value)
  | .obj [(key, _), (value, _)] => some (key, .str value)
  | .str text =>
    match text.toList with
    | [key, value] => some (String.singleton key, .str (String.singleton value))
    | _ => none
  | _ => none

/-- `dict(record)` of a true value -/
def dictOf : Json → Option (Dict Json)
  | .obj fields => some (.ofFields fields)
  | .arr items => (items.mapM pairOf).map Dict.ofFields
  | _ => none

/-- `dict(current.get("records") or {})` -/
def registryRecords (current : Dict Json) : Dict Json :=
  match current.get? "records" with
  | some (.obj fields) => .ofFields fields
  | _ => {}

def freshRegistry : Dict Json := .ofFields [("schema_version", .number "1"), ("records", .obj [])]

/-- The registry that is read from an object -/
def loadedRegistry (payload : List (String × Json)) : Dict Json :=
  let records : Json := match payload.lookup "records" with
    | some (.obj records) => .obj records
    | _ => .obj []
  ((Dict.ofFields [("schema_version", .number "1")]).update (.ofFields payload)).set "records" records

namespace RegistryHost

variable (host : RegistryHost)

/-- `load_caller_auth_registry`. What is no JSON object is taken for an empty registry. -/
def loadCallerAuthRegistry : RegistryFile → Except RegistryError (Dict Json)
  | .absent | .unreadable => .ok freshRegistry
  | .undecodable => .error .unicodeDecodeError
  | .text content =>
    match host.python.loads content with
    | .error .decode => .ok freshRegistry
    | .error .other => .error .json
    | .ok (.obj payload) => .ok (loadedRegistry payload)
    | .ok _ => .ok freshRegistry

/-- The payload of a change, and `_write_json` -/
def writeRegistry (now : DateTime) (records : Dict Json) : Except RegistryError RegistryWritten :=
  let payload : Json := .obj [("schema_version", .number "1"), ("updated_at", .str now.isoformat),
    ("records", .obj records.entries)]
  match host.python.dumps registryLayout payload with
  | none => .error .json
  | some text =>
    if host.registryReadOnly then .error .permissionError
    else .ok ⟨payload, .text (text ++ "\n")⟩

/-- The record that `record_caller_auth` writes -/
def authRecord (now : DateTime) (systemName scope token : String)
    (expiresAt nonExpiringPolicyReason : Option String) (lastVerificationStatus : String) : List (String × Json) :=
  [("system_name", .str systemName), ("scope", .str scope), ("fingerprint", .str (host.fingerprintSecret token)),
    ("created_at", .str now.isoformat), ("expires_at", strOrNull expiresAt),
    ("non_expiring_policy_reason", strOrNull nonExpiringPolicyReason),
    ("rotation_command", .str ("gpucall admin tenant-key-rotate --name " ++ systemName)),
    ("revocation_command", .str ("gpucall admin tenant-key-revoke --name " ++ systemName)),
    ("last_verification_status", .str lastVerificationStatus), ("updated_at", .str now.isoformat)]

/-- `record_caller_auth` -/
def recordCallerAuth (file : RegistryFile) (now : DateTime) (systemName scope token : String)
    (expiresAt nonExpiringPolicyReason : Option String) (lastVerificationStatus : String) :
    Except RegistryError RegistryWritten :=
  match host.loadCallerAuthRegistry file with
  | .error e => .error e
  | .ok current =>
    let record := host.authRecord now systemName scope token expiresAt nonExpiringPolicyReason lastVerificationStatus
    host.writeRegistry now ((registryRecords current).set systemName (.obj record))

/-- A record with the marks of `mark_caller_auth_revoked` -/
def markRevoked (now : DateTime) (record : Dict Json) : Dict Json :=
  ((record.set "last_verification_status" (.str "revoked")).set "revoked_at" (.str now.isoformat)).set "updated_at"
    (.str now.isoformat)

/-- `mark_caller_auth_revoked` -/
def markCallerAuthRevoked (file : RegistryFile) (now : DateTime) (systemName : String) :
    Except RegistryError RegistryWritten :=
  match host.loadCallerAuthRegistry file with
  | .error e => .error e
  | .ok current =>
    let records := registryRecords current
    match dictOf (((records.get? systemName).filter Json.truthy).getD (.obj [("system_name", .str systemName)])) with
    | none => .error .dict
    | some record => host.writeRegistry now (records.set systemName (.obj (markRevoked now record).entries))

/-- `_parse_datetime` -/
def parseDatetime (value : String) : Option DateTime :=
  if value = "" then none else host.fromisoformat (replaceZulu value)

/-- `int((now - created).total_seconds())` -/
def ageSeconds (now created : DateTime) : ℤ := (now.toMicroseconds - created.toMicroseconds).tdiv 1000000

/-- A pass of the loop of `caller_auth_status_summary` -/
def summaryRow (now : DateTime) : String × Json → Option AuthSummaryRow
  | (name, .obj record) => some {
      systemName := name
      scope := recordField record "scope"
      fingerprint := recordField record "fingerprint"
      ageSeconds := (host.parseDatetime (strOrEmpty host.py (record.lookup "created_at"))).map (ageSeconds now)
      expiresAt := recordField record "expires_at"
      lastVerificationStatus := recordField record "last_verification_status" }
  | _ => none

/-- `caller_auth_status_summary` -/
def callerAuthStatusSummary (file : RegistryFile) (now : DateTime) : Except RegistryError AuthSummary :=
  match host.loadCallerAuthRegistry file with
  | .error e => .error e
  | .ok current =>
    let records := (registryRecords current).entries
    if records.isEmpty then .ok ⟨"missing", 0, []⟩
    else
      let summaries := (registryLayout.order records).filterMap (host.summaryRow now)
      .ok ⟨if summaries.isEmpty then "missing" else "ok", summaries.length, summaries⟩

end RegistryHost

/-! ## Runs -/

structure RegistryWorld where
  keys : KeyWorld
  registry : RegistryFile

/-- What is recorded as the reason for which a key does not expire -/
def KeyCommand.policyReason : KeyCommand → String
  | .bootstrap _ =>
    "trusted bootstrap key is operator-managed; rotate on caller ownership or exposure changes"
  | _ => "tenant key is operator-managed; rotate on caller ownership or exposure changes"

def KeyCommand.verificationStatus : KeyCommand → String
  | .rotate .. => "rotated"
  | _ => "created"

def KeyEvent.tenant : KeyEvent → String
  | .given tenant _ => tenant
  | .revoked tenant => tenant

/-- A command with what it does, and when. -/
structure DatedCommand where
  command : KeyCommand
  performed : Option (KeyEvent × Dict Json)
  now : DateTime

namespace RegistryHost

variable (host : RegistryHost)

/-- What a command records of what it has done to the keys. -/
def recordEvent (file : RegistryFile) (now : DateTime) (command : KeyCommand) :
    KeyEvent → Except RegistryError RegistryWritten
  | .given tenant key => host.recordCallerAuth file now tenant "tenant" key none (some command.policyReason)
      command.verificationStatus
  | .revoked tenant => host.markCallerAuthRevoked file now tenant

/-- A command with its record. The keys are changed before, and stay so if the record cannot be written. -/
def step (world : RegistryWorld) (command : KeyCommand) (now : DateTime) :
    Option (KeyEvent × Dict Json) × RegistryWorld :=
  let (performed, keys) := host.toKeyHost.step world.keys command
  match performed with
  | none => (none, ⟨keys, world.registry⟩)
  | some (event, saved) =>
    match host.recordEvent world.registry now command event with
    | .error _ => (some (event, saved), ⟨keys, world.registry⟩)
    | .ok written => (some (event, saved), ⟨keys, written.file⟩)

def run (world : RegistryWorld) : List (KeyCommand × DateTime) → List DatedCommand × RegistryWorld
  | [] => ([], world)
  | (command, now) :: commands =>
    let (performed, world) := host.step world command now
    let (log, world) := run world commands
    (⟨command, performed, now⟩ :: log, world)

end RegistryHost

/-! ## The view -/

/-- What the registry knows of a name. -/
structure AuthEntry where
  scope : Json := .null
  fingerprint : Json := .null
  created : Option DateTime := none
  expiresAt : Json := .null
  lastVerificationStatus : Json := .null

/-- The entry of each name, if it has one -/
abbrev AuthView := String → Option AuthEntry

/-- The row that is shown of an entry -/
def AuthEntry.row (entry : AuthEntry) (name : String) (now : DateTime) : AuthSummaryRow where
  systemName := name
  scope := entry.scope
  fingerprint := entry.fingerprint
  ageSeconds := entry.created.map (RegistryHost.ageSeconds now)
  expiresAt := entry.expiresAt
  lastVerificationStatus := entry.lastVerificationStatus

def AuthEntry.revoked (entry : AuthEntry) : AuthEntry := { entry with lastVerificationStatus := .str "revoked" }

/-- A row with the fields of the objects in it in order. -/
def AuthSummaryRow.arranged (row : AuthSummaryRow) : AuthSummaryRow :=
  { row with
    scope := row.scope.arranged registryLayout
    fingerprint := row.fingerprint.arranged registryLayout
    expiresAt := row.expiresAt.arranged registryLayout
    lastVerificationStatus := row.lastVerificationStatus.arranged registryLayout }

/-- The summary has one row for each entry of the view, in the order of the names. -/
structure AuthSummary.Tells (summary : AuthSummary) (now : DateTime) (view : AuthView) : Prop where
  sorted : (summary.records.map AuthSummaryRow.systemName).Pairwise (· < ·)
  rows : ∀ row, row ∈ summary.records.map AuthSummaryRow.arranged ↔
    ∃ entry, view row.systemName = some entry ∧ row = entry.row row.systemName now
  count : summary.count = summary.records.length
  state : summary.state = if summary.records = [] then "missing" else "ok"

namespace RegistryHost

variable (host : RegistryHost)

/-- The entry of a key that a command gives -/
def givenEntry (command : KeyCommand) (key : String) (now : DateTime) : AuthEntry where
  scope := .str "tenant"
  fingerprint := .str (host.fingerprintSecret key)
  created := some now
  lastVerificationStatus := .str command.verificationStatus

/-- The view after what a command has done -/
def viewAfter (view : AuthView) (dated : DatedCommand) : AuthView :=
  match dated.performed with
  | none => view
  | some (.given tenant key, _) =>
    Function.update view tenant (some (host.givenEntry dated.command key dated.now))
  | some (.revoked tenant, _) => Function.update view tenant (some ((view tenant).getD {}).revoked)

/-- What a record says -/
def entryOf : Json → Option AuthEntry
  | .obj record => some {
      scope := (recordField record "scope").arranged registryLayout
      fingerprint := (recordField record "fingerprint").arranged registryLayout
      created := host.parseDatetime (strOrEmpty host.py (record.lookup "created_at"))
      expiresAt := (recordField record "expires_at").arranged registryLayout
      lastVerificationStatus := (recordField record "last_verification_status").arranged registryLayout }
  | _ => none

def viewOf (records : Dict Json) : AuthView := fun name => (records.get? name).bind host.entryOf

/-- The file is read as a registry of objects, which say what the view says. -/
structure Registered (file : RegistryFile) (view : AuthView) : Prop where
  loads : ∃ current, host.loadCallerAuthRegistry file = .ok current ∧ host.viewOf (registryRecords current) = view ∧
    ∀ name record, (registryRecords current).get? name = some record → ∃ fields, record = .obj fields

end RegistryHost

/-! ## Dates -/

theorem mem_isoFraction {n : ℕ} {c : Char} (h : c ∈ (DateTime.isoFraction n).toList) : c.isDigit ∨ c = '.' := by
  unfold DateTime.isoFraction at h
  split at h
  · cases h
  · rw [String.toList_append, List.mem_append] at h
    rcases h with h | h
    · exact .inr (List.mem_singleton.mp h)
    · rw [DateTime.zeroPad, String.toList_ofList] at h
      exact .inl (FixedWidth.isDigit_of_mem_numeral h)

theorem zulu_not_mem_isoformat (t : DateTime) : 'Z' ∉ t.isoformat.toList := by
  have hnumeral (width n : ℕ) : 'Z' ∉ FixedWidth.numeral width n := fun h =>
    absurd (FixedWidth.isDigit_of_mem_numeral h) (by decide)
  have hfraction : 'Z' ∉ (DateTime.isoFraction t.microsecond).toList := fun h =>
    absurd (mem_isoFraction h) (by decide)
  simp [DateTime.toList_isoformat, hnumeral, hfraction]

theorem replaceZulu_of_not_mem {text : String} (h : 'Z' ∉ text.toList) : replaceZulu text = text := by
  rw [replaceZulu, List.flatMap_congr (g := fun c => [c]), List.flatMap_singleton', String.ofList_toList]
  intro c hc
  exact if_neg (ne_of_mem_of_not_mem hc h)

namespace RegistryHost

variable {host : RegistryHost} {file : RegistryFile} {view : AuthView} {current records : Dict Json} {now : DateTime}
  {name : String} {record : Json}

theorem parseDatetime_isoformat (t : DateTime) : host.parseDatetime t.isoformat = some t := by
  have hne : t.isoformat ≠ "" := by
    intro h
    have hlist := congrArg String.toList h
    rw [DateTime.toList_isoformat] at hlist
    simp at hlist
  rw [parseDatetime, if_neg hne, replaceZulu_of_not_mem (zulu_not_mem_isoformat t), host.fromisoformat_isoformat]

/-- A list or a dictionary is no date, and neither is what it is read back as. -/
theorem parseDatetime_arranged (value : Json) :
    host.parseDatetime (strOrEmpty host.py (some (value.arranged registryLayout))) =
      host.parseDatetime (strOrEmpty host.py (some value)) := by
  have hitems (items : List Json) : host.parseDatetime (strOrEmpty host.py (some (.arr items))) = none := by
    cases items with
    | nil => rfl
    | cons item items =>
      rw [show strOrEmpty host.py (some (.arr (item :: items))) = host.py.repr (.arr (item :: items)) from rfl,
        parseDatetime, host.fromisoformat_items, ite_self]
  have hfields (fields : List (String × Json)) :
      host.parseDatetime (strOrEmpty host.py (some (.obj fields))) = none := by
    cases fields with
    | nil => rfl
    | cons field fields =>
      rw [show strOrEmpty host.py (some (.obj (field :: fields))) = host.py.repr (.obj (field :: fields)) from rfl,
        parseDatetime, host.fromisoformat_fields, ite_self]
  cases value with
  | arr items => rw [Json.arranged, hitems, hitems]
  | obj fields => rw [Json.arranged, hfields, hfields]
  | null | bool | number | str => simp [Json.arranged]

/-! ## Records -/

theorem recordField_arranged {fields : List (String × Json)} (h : (fields.map Prod.fst).Nodup) (key : String) :
    recordField (registryLayout.order (Json.arrangedFields registryLayout fields)) key =
      (recordField fields key).arranged registryLayout := by
  have hnames : ((Json.arrangedFields registryLayout fields).map Prod.fst).Nodup := by
    rwa [Json.arrangedFields_names]
  rw [recordField, registryLayout.lookup_order hnames, Json.arrangedFields_eq_map, Json.lookup_mapValues, recordField]
  cases fields.lookup key with
  | none => rfl
  | some value => rfl

/-- A record says the same when it is read back. -/
theorem entryOf_arranged {record : Json} (h : record.WellFormed) :
    host.entryOf (record.arranged registryLayout) = host.entryOf record := by
  cases record with
  | obj fields =>
    rw [Json.WellFormed] at h
    have hnames : ((Json.arrangedFields registryLayout fields).map Prod.fst).Nodup := by
      rw [Json.arrangedFields_names]
      exact h.1
    have hcreated : host.parseDatetime (strOrEmpty host.py
        ((registryLayout.order (Json.arrangedFields registryLayout fields)).lookup "created_at")) =
          host.parseDatetime (strOrEmpty host.py (fields.lookup "created_at")) := by
      rw [registryLayout.lookup_order hnames, Json.arrangedFields_eq_map, Json.lookup_mapValues]
      cases fields.lookup "created_at" with
      | none => rfl
      | some value => exact parseDatetime_arranged value
    rw [Json.arranged, entryOf, entryOf, hcreated]
    simp only [recordField_arranged h.1, Json.arranged_arranged]
  | null | bool | number | str | arr => simp [Json.arranged, entryOf]

/-- The entries that a summary shows are those of the records. -/
theorem map_arranged_summaryRow (now : DateTime) (name : String) (record : Json) :
    (host.summaryRow now (name, record)).map AuthSummaryRow.arranged =
      (host.entryOf record).map fun entry => entry.row name now := by
  cases record with
  | obj fields => rfl
  | null | bool | number | str | arr => rfl

theorem entryOf_authRecord (now : DateTime) (systemName scope token : String) (reason : Option String)
    (status : String) :
    host.entryOf (.obj (host.authRecord now systemName scope token none reason status)) =
      some ⟨.str scope, .str (host.fingerprintSecret token), some now, .null, .str status⟩ := by
  have hcreated : (host.authRecord now systemName scope token none reason status).lookup "created_at" =
      some (.str now.isoformat) := rfl
  rw [entryOf, hcreated, strOrEmpty_str, parseDatetime_isoformat]
  rfl

/-- A record that can be written, at its place in the file -/
structure IsRecord (host : RegistryHost) (record : Json) : Prop where
  isObj : ∃ fields, record = .obj fields
  isValue : host.python.IsValue record
  height : record.height + 2 ≤ host.python.recursionLimit

theorem isRecord_obj (fields : Dict Json) (h : ∀ field ∈ fields.entries, host.python.IsValue field.2 ∧
    field.2.height + 3 ≤ host.python.recursionLimit) : host.IsRecord (.obj fields.entries) := by
  refine ⟨⟨_, rfl⟩, .obj fields.nodup fun field hfield => (h field hfield).1, ?_⟩
  have hlimit := host.python.recursionLimit_ge
  have hheight : Json.heightFields fields.entries ≤ host.python.recursionLimit - 3 :=
    Json.heightFields_le_iff.mpr fun field hfield => by have := (h field hfield).2; omega
  rw [Json.height]
  omega

theorem fits_strOrNull (text : Option String) :
    host.python.IsValue (strOrNull text) ∧ (strOrNull text).height + 3 ≤ host.python.recursionLimit := by
  have hlimit := host.python.recursionLimit_ge
  cases text with
  | none => exact ⟨Interpreter.isValue_null, by simp [strOrNull, Json.height]; omega⟩
  | some text =>
    exact ⟨Interpreter.isValue_str text, by simp [strOrNull, Json.height]; omega⟩

theorem isRecord_authRecord (now : DateTime) (systemName scope token : String) (reason : Option String)
    (status : String) : host.IsRecord (.obj (host.authRecord now systemName scope token none reason status)) := by
  have hnodup : ((host.authRecord now systemName scope token none reason status).map Prod.fst).Nodup := by
    rw [show (host.authRecord now systemName scope token none reason status).map Prod.fst =
      ["system_name", "scope", "fingerprint", "created_at", "expires_at", "non_expiring_policy_reason",
        "rotation_command", "revocation_command", "last_verification_status", "updated_at"] from rfl]
    decide
  have htexts : ∀ field ∈ host.authRecord now systemName scope token none reason status,
      ∃ text, field.2 = strOrNull text := by
    simp only [authRecord, List.forall_mem_cons]
    exact ⟨⟨some systemName, rfl⟩, ⟨some scope, rfl⟩, ⟨some _, rfl⟩, ⟨some _, rfl⟩, ⟨none, rfl⟩, ⟨reason, rfl⟩,
      ⟨some _, rfl⟩, ⟨some _, rfl⟩, ⟨some status, rfl⟩, ⟨some _, rfl⟩, List.forall_mem_nil _⟩
  refine isRecord_obj ⟨_, hnodup⟩ fun field hfield => ?_
  obtain ⟨text, htext⟩ := htexts field hfield
  rw [htext]
  exact fits_strOrNull text

theorem loadCallerAuthRegistry_eq_ok (h : host.loadCallerAuthRegistry file = .ok current) :
    current = freshRegistry ∨ ∃ content payload, host.python.loads content = .ok (.obj payload) ∧
      current = loadedRegistry payload := by
  unfold loadCallerAuthRegistry at h
  split at h
  · exact .inl (Except.ok.inj h).symm
  · exact .inl (Except.ok.inj h).symm
  · cases h
  rename_i content
  split at h
  · exact .inl (Except.ok.inj h).symm
  · cases h
  · rename_i payload hload
    exact .inr ⟨content, payload, hload, (Except.ok.inj h).symm⟩
  · exact .inl (Except.ok.inj h).symm

theorem registryRecords_loaded {payload records : List (String × Json)}
    (h : payload.lookup "records" = some (.obj records)) :
    registryRecords (loadedRegistry payload) = .ofFields records := by
  rw [loadedRegistry, h, registryRecords, Dict.get?_set_self]

theorem get?_registryRecords_loaded {payload : List (String × Json)}
    (h : (registryRecords (loadedRegistry payload)).get? name = some record) :
    ∃ records, payload.lookup "records" = some (.obj records) ∧ (Dict.ofFields records).get? name = some record := by
  rw [loadedRegistry, registryRecords, Dict.get?_set_self] at h
  split at h
  · rename_i fields hfields
    split at hfields
    · rename_i records hrecords
      cases hfields
      exact ⟨_, hrecords, h⟩
    · cases hfields
      cases h
  · cases h

/-- What is read fits where it is written again. -/
theorem fits_of_load (h : host.loadCallerAuthRegistry file = .ok current)
    (hget : (registryRecords current).get? name = some record) :
    host.python.IsValue record ∧ record.height + 2 ≤ host.python.recursionLimit := by
  rcases loadCallerAuthRegistry_eq_ok h with rfl | ⟨content, payload, hload, rfl⟩
  · cases hget
  · obtain ⟨records, hrecords, hget⟩ := get?_registryRecords_loaded hget
    obtain ⟨hvalue, hheight⟩ := Interpreter.loads_isValue hload
    obtain ⟨hfields, hdepth⟩ := hvalue.lookup hrecords
    rw [Dict.get?_ofFields_of_nodup hfields.nodup] at hget
    obtain ⟨hrecord, hless⟩ := hfields.lookup hget
    exact ⟨hrecord, by omega⟩

theorem wellFormed_one : (Json.number "1").WellFormed := by
  rw [Json.WellFormed]
  decide +kernel

theorem blank_newline : Json.Blank "\n".toList := by
  intro c hc
  cases List.mem_singleton.mp hc
  decide

/-- What is written is read back, and says what the records say. -/
theorem registered_of_write (now : DateTime) (hwritable : host.registryReadOnly = false)
    (hrecords : ∀ name record, records.get? name = some record → host.IsRecord record) :
    ∃ written, host.writeRegistry now records = .ok written ∧ host.Registered written.file (host.viewOf records) := by
  have hmem : ∀ field ∈ records.entries, host.IsRecord field.2 := fun field hfield =>
    hrecords field.1 field.2 (Dict.get?_eq_some.mpr hfield)
  have hobj : host.python.IsValue (.obj records.entries) :=
    .obj records.nodup fun field hfield => (hmem field hfield).isValue
  have hlimit := host.python.recursionLimit_ge
  have hfields : Json.heightFields records.entries ≤ host.python.recursionLimit - 2 :=
    Json.heightFields_le_iff.mpr fun field hfield => by have := (hmem field hfield).height; omega
  obtain ⟨payload, hpayload⟩ : ∃ payload : List (String × Json), payload =
    [("schema_version", .number "1"), ("updated_at", .str now.isoformat), ("records", .obj records.entries)] :=
    ⟨_, rfl⟩
  have hnodup : (payload.map Prod.fst).Nodup := by
    rw [hpayload]
    exact (by decide : ["schema_version", "updated_at", "records"].Nodup)
  have hwell : (Json.obj payload).WellFormed := by
    rw [Json.WellFormed, Json.fieldsWellFormed_iff]
    refine ⟨hnodup, ?_⟩
    rw [hpayload]
    simp only [List.forall_mem_cons]
    have htime : host.python.IsValue (.str now.isoformat) := Interpreter.isValue_str _
    exact ⟨wellFormed_one, htime.wellFormed, hobj.wellFormed, List.forall_mem_nil _⟩
  have hheight : (Json.obj payload).height ≤ host.python.recursionLimit := by
    simp only [hpayload, Json.height, Json.heightFields]
    omega
  have hloads : host.python.loads ((Json.obj payload).dumpsText registryLayout ++ "\n") =
      .ok (((Json.obj payload).arranged registryLayout).respell host.python.spell) :=
    Interpreter.loads_dumpsText_append hwell hheight "\n" blank_newline
  have hlookup : (Json.respellFields host.python.spell
      (registryLayout.order (Json.arrangedFields registryLayout payload))).lookup "records" =
        some (.obj (registryLayout.order (Json.arrangedFields registryLayout records.entries))) := by
    have hnames : ((Json.arrangedFields registryLayout payload).map Prod.fst).Nodup := by
      rwa [Json.arrangedFields_names]
    have hvalue : payload.lookup "records" = some (.obj records.entries) := by
      rw [hpayload]
      rfl
    rw [Json.respellFields_eq_map, Json.lookup_mapValues, registryLayout.lookup_order hnames,
      Json.arrangedFields_eq_map, Json.lookup_mapValues, hvalue, Option.map_some, Option.map_some,
      Json.respell_arranged, hobj.spelled, Json.arranged]
  refine ⟨⟨.obj payload, .text ((Json.obj payload).dumpsText registryLayout ++ "\n")⟩, ?_, ⟨?_⟩⟩
  · rw [writeRegistry, ← hpayload, Interpreter.dumps_eq_some.mpr ⟨hheight, rfl⟩, hwritable]
    rfl
  rw [Json.arranged, Json.respell] at hloads
  refine ⟨_, by rw [loadCallerAuthRegistry, hloads], ?_⟩
  rw [registryRecords_loaded hlookup]
  have hnames : ((registryLayout.order (Json.arrangedFields registryLayout records.entries)).map Prod.fst).Nodup := by
    rw [((registryLayout.order_perm _).map Prod.fst).nodup_iff, Json.arrangedFields_names]
    exact records.nodup
  have hget (name : String) : (Dict.ofFields (registryLayout.order
      (Json.arrangedFields registryLayout records.entries))).get? name =
        (records.get? name).map (Json.arranged registryLayout) := by
    rw [Dict.get?_ofFields_of_nodup hnames, registryLayout.lookup_order, Json.arrangedFields_eq_map,
      Json.lookup_mapValues, Dict.get?]
    rw [Json.arrangedFields_names]
    exact records.nodup
  refine ⟨funext fun name => ?_, fun name record hrecord => ?_⟩
  · rw [viewOf, viewOf, hget]
    cases hrecord : records.get? name with
    | none => rfl
    | some record => exact entryOf_arranged (hrecords name record hrecord).isValue.wellFormed
  · rw [hget] at hrecord
    obtain ⟨found, hfound, rfl⟩ := Option.map_eq_some_iff.mp hrecord
    obtain ⟨fields, rfl⟩ := (hrecords name found hfound).isObj
    exact ⟨_, by rw [Json.arranged]⟩

/-! ## Changes -/

/-- A change of one record changes the entry of its name and no other. -/
theorem registered_of_set (now : DateTime) (name : String) (h : host.Registered file view)
    (hload : host.loadCallerAuthRegistry file = .ok current) (hwritable : host.registryReadOnly = false) (hrecord : host.IsRecord record) :
    ∃ written, host.writeRegistry now ((registryRecords current).set name record) = .ok written ∧
      host.Registered written.file (Function.update view name (host.entryOf record)) := by
  obtain ⟨found, hfound, hview, hobjects⟩ := h.loads
  cases hload.symm.trans hfound
  have hrecords : ∀ other value, ((registryRecords current).set name record).get? other = some value →
      host.IsRecord value := by
    intro other value hvalue
    rw [Dict.get?_set] at hvalue
    split at hvalue
    · cases hvalue
      exact hrecord
    · obtain ⟨hisValue, hheight⟩ := fits_of_load hload hvalue
      exact ⟨hobjects other value hvalue, hisValue, hheight⟩
  obtain ⟨written, hwrite, hregistered⟩ := registered_of_write now hwritable hrecords
  refine ⟨written, hwrite, ?_⟩
  have hupdate : host.viewOf ((registryRecords current).set name record) =
      Function.update view name (host.entryOf record) := by
    funext other
    rw [viewOf, Dict.get?_set, Function.update_apply]
    split
    · rfl
    · rw [← hview]
      rfl
  rwa [← hupdate]

theorem recordField_set (fields : Dict Json) (key other : String) (value : Json) :
    recordField (fields.set key value).entries other =
      if other = key then value else recordField fields.entries other := by
  have hget := Dict.get?_set fields key other value
  rw [Dict.get?, Dict.get?] at hget
  rw [recordField, hget, recordField]
  split <;> rfl

theorem entryOf_markRevoked (now : DateTime) (fields : Dict Json) :
    host.entryOf (.obj (markRevoked now fields).entries) =
      (host.entryOf (.obj fields.entries)).map AuthEntry.revoked := by
  have hcreated : (markRevoked now fields).entries.lookup "created_at" = fields.entries.lookup "created_at" := by
    have hget : (markRevoked now fields).get? "created_at" = fields.get? "created_at" := by
      simp [markRevoked, Dict.get?_set]
    exact hget
  rw [entryOf, entryOf, hcreated, Option.map_some, AuthEntry.revoked, markRevoked]
  simp [recordField_set, Json.arranged]

theorem isRecord_markRevoked (now : DateTime) {fields : Dict Json} (h : ∀ field ∈ fields.entries,
    host.python.IsValue field.2 ∧ field.2.height + 3 ≤ host.python.recursionLimit) :
    host.IsRecord (.obj (markRevoked now fields).entries) := by
  refine isRecord_obj _ fun field hfield => ?_
  obtain ⟨key, value⟩ := field
  have hget := Dict.get?_eq_some.mpr hfield
  simp only [markRevoked, Dict.get?_set] at hget
  split at hget
  · cases hget
    exact fits_strOrNull (some now.isoformat)
  split at hget
  · cases hget
    exact fits_strOrNull (some now.isoformat)
  split at hget
  · cases hget
    exact fits_strOrNull (some "revoked")
  · exact h _ (Dict.get?_eq_some.mp hget)

/-- What a revocation starts from: the record of the name, or a record that says nothing. -/
theorem exists_dictOf (h : host.Registered file view) (hload : host.loadCallerAuthRegistry file = .ok current)
    (name : String) : ∃ record : Dict Json,
      dictOf ((((registryRecords current).get? name).filter Json.truthy).getD (.obj [("system_name", .str name)])) =
        some record ∧
      host.entryOf (.obj record.entries) = some ((view name).getD {}) ∧
      ∀ field ∈ record.entries, host.python.IsValue field.2 ∧ field.2.height + 3 ≤ host.python.recursionLimit := by
  obtain ⟨found, hfound, hview, hobjects⟩ := h.loads
  cases hload.symm.trans hfound
  have hname : view name = ((registryRecords current).get? name).bind host.entryOf := by
    rw [← hview, viewOf]
  have hblank : ∃ record : Dict Json, dictOf (.obj [("system_name", .str name)]) = some record ∧
      host.entryOf (.obj record.entries) = some {} ∧
      ∀ field ∈ record.entries, host.python.IsValue field.2 ∧ field.2.height + 3 ≤ host.python.recursionLimit := by
    refine ⟨_, rfl, rfl, fun field hfield => ?_⟩
    cases List.mem_singleton.mp hfield
    exact fits_strOrNull (some name)
  cases hget : (registryRecords current).get? name with
  | none =>
    rw [hget] at hname
    rw [hname]
    exact hblank
  | some record =>
    rw [hget, Option.bind_some] at hname
    obtain ⟨hvalue, hheight⟩ := fits_of_load hload hget
    obtain ⟨fields, rfl⟩ := hobjects name record hget
    cases fields with
    | nil =>
      rw [hname]
      exact hblank
    | cons first rest =>
      have hentries : (Dict.ofFields (first :: rest)).entries = first :: rest :=
        congrArg Dict.entries (Dict.ofFields_entries ⟨first :: rest, hvalue.nodup⟩)
      refine ⟨Dict.ofFields (first :: rest), rfl, ?_, ?_⟩
      · rw [hentries, hname]
        rfl
      · rw [hentries]
        intro field hfield
        have hless := (hvalue.lookup ((Json.lookup_iff_mem hvalue.nodup).mpr hfield)).2
        exact ⟨hvalue.of_mem hfield, by omega⟩

theorem registered_of_recordCallerAuth (h : host.Registered file view) (hwritable : host.registryReadOnly = false)
    (now : DateTime) (systemName scope token : String) (reason : Option String) (status : String) :
    ∃ written, host.recordCallerAuth file now systemName scope token none reason status = .ok written ∧
      host.Registered written.file (Function.update view systemName
        (some ⟨.str scope, .str (host.fingerprintSecret token), some now, .null, .str status⟩)) := by
  obtain ⟨current, hload, -⟩ := h.loads
  have hset := registered_of_set now systemName h hload hwritable
    (isRecord_authRecord now systemName scope token reason status)
  rw [entryOf_authRecord] at hset
  rw [recordCallerAuth, hload]
  exact hset

theorem registered_of_markCallerAuthRevoked (h : host.Registered file view) (hwritable : host.registryReadOnly = false)
    (now : DateTime) (systemName : String) :
    ∃ written, host.markCallerAuthRevoked file now systemName = .ok written ∧
      host.Registered written.file (Function.update view systemName (some ((view systemName).getD {}).revoked)) := by
  obtain ⟨current, hload, -⟩ := h.loads
  obtain ⟨record, hdict, hentry, hfits⟩ := exists_dictOf h hload systemName
  have hset := registered_of_set now systemName h hload hwritable (isRecord_markRevoked now hfits)
  rw [entryOf_markRevoked, hentry, Option.map_some] at hset
  rw [markCallerAuthRevoked, hload]
  dsimp only
  rw [hdict]
  exact hset

/-! ## Runs -/

/-- The keys change as without the registry, and the registry follows. -/
theorem step_spec {world : RegistryWorld} (h : host.Registered world.registry view)
    (hwritable : host.registryReadOnly = false) (command : KeyCommand) (now : DateTime) :
    (host.step world command now).1 = (host.toKeyHost.step world.keys command).1 ∧
      (host.step world command now).2.keys = (host.toKeyHost.step world.keys command).2 ∧
      host.Registered (host.step world command now).2.registry
        (host.viewAfter view ⟨command, (host.step world command now).1, now⟩) := by
  rw [step]
  generalize host.toKeyHost.step world.keys command = stepped
  obtain ⟨performed, keys⟩ := stepped
  cases performed with
  | none => exact ⟨rfl, rfl, h⟩
  | some performed =>
    obtain ⟨event, saved⟩ := performed
    have hrecord : ∃ written, host.recordEvent world.registry now command event = .ok written ∧
        host.Registered written.file (host.viewAfter view ⟨command, some (event, saved), now⟩) := by
      cases event with
      | given tenant key => exact registered_of_recordCallerAuth h hwritable now tenant "tenant" key _ _
      | revoked tenant => exact registered_of_markCallerAuthRevoked h hwritable now tenant
    obtain ⟨written, hwritten, hregistered⟩ := hrecord
    dsimp only
    rw [hwritten]
    exact ⟨rfl, rfl, hregistered⟩

theorem run_cons (world : RegistryWorld) (command : KeyCommand) (now : DateTime)
    (commands : List (KeyCommand × DateTime)) : host.run world ((command, now) :: commands) =
      (⟨command, (host.step world command now).1, now⟩ ::
        (host.run (host.step world command now).2 commands).1,
        (host.run (host.step world command now).2 commands).2) := rfl

/-- The run lemma, by induction on the commands: the run of the keys is there, and the registry follows the view. -/
theorem run_spec {world : RegistryWorld} (h : host.Registered world.registry view)
    (hwritable : host.registryReadOnly = false) (commands : List (KeyCommand × DateTime)) :
    (host.run world commands).1.map (fun dated => (dated.command, dated.performed)) =
        (host.toKeyHost.run world.keys (commands.map Prod.fst)).1 ∧
      (host.run world commands).2.keys = (host.toKeyHost.run world.keys (commands.map Prod.fst)).2 ∧
      host.Registered (host.run world commands).2.registry
        ((host.run world commands).1.foldl host.viewAfter view) := by
  induction commands generalizing world view with
  | nil => exact ⟨rfl, rfl, h⟩
  | cons dated commands ih =>
    obtain ⟨command, now⟩ := dated
    obtain ⟨hperformed, hkeys, hregistered⟩ := step_spec h hwritable command now
    obtain ⟨hlog, hlast, hrest⟩ := ih hregistered
    rw [hkeys] at hlog hlast
    refine ⟨?_, hlast, hrest⟩
    rw [run_cons, List.map_cons, List.map_cons, KeyHost.run_cons, hlog, hperformed]

/-! ## The summary -/

theorem pairwise_order (records : Dict Json) :
    ((registryLayout.order records.entries).map Prod.fst).Pairwise (· < ·) := by
  have htrans : IsTrans (String × Json) fun left right => left.1 ≤ right.1 := ⟨fun _ _ _ => le_trans⟩
  have htotal : Std.Total fun left right : String × Json => left.1 ≤ right.1 :=
    ⟨fun left right => le_total left.1 right.1⟩
  have hle : ((registryLayout.order records.entries).map Prod.fst).Pairwise (· ≤ ·) :=
    List.pairwise_map.mpr (List.pairwise_insertionSort _ records.entries)
  have hnodup : ((registryLayout.order records.entries).map Prod.fst).Nodup :=
    ((registryLayout.order_perm _).map Prod.fst).nodup_iff.mpr records.nodup
  exact (hle.and hnodup).imp fun h => lt_of_le_of_ne h.1 h.2

/-- The registry shows the entries of the view. -/
theorem Registered.summary (h : host.Registered file view) (now : DateTime) :
    ∃ summary, host.callerAuthStatusSummary file now = .ok summary ∧ summary.Tells now view := by
  obtain ⟨current, hload, rfl, hobjects⟩ := h.loads
  obtain ⟨records, hrecords⟩ : ∃ records, registryRecords current = records := ⟨_, rfl⟩
  rw [hrecords] at hobjects ⊢
  have hnames (entries : List (String × Json)) :
      ((entries.filterMap (host.summaryRow now)).map AuthSummaryRow.systemName).Sublist (entries.map Prod.fst) := by
    induction entries with
    | nil => exact List.Sublist.slnil
    | cons entry entries ih =>
      rw [List.filterMap_cons]
      cases hrow : host.summaryRow now entry with
      | none => exact ih.cons _
      | some row =>
        have hname : row.systemName = entry.1 := by
          unfold summaryRow at hrow
          split at hrow
          · cases hrow
            rfl
          · cases hrow
        rw [List.map_cons, List.map_cons, hname]
        exact ih.cons_cons _
  have hsorted := pairwise_order records
  have hrows (row : AuthSummaryRow) :
      row ∈ ((registryLayout.order records.entries).filterMap (host.summaryRow now)).map AuthSummaryRow.arranged ↔
        ∃ entry, host.viewOf records row.systemName = some entry ∧ row = entry.row row.systemName now := by
    have hmap : ((registryLayout.order records.entries).filterMap (host.summaryRow now)).map AuthSummaryRow.arranged =
        (registryLayout.order records.entries).filterMap fun field =>
          (host.entryOf field.2).map fun entry => entry.row field.1 now := by
      rw [List.map_filterMap]
      exact List.filterMap_congr fun field _ => map_arranged_summaryRow now field.1 field.2
    rw [hmap, List.mem_filterMap]
    constructor
    · intro hrow
      obtain ⟨field, hfield, hentry⟩ := hrow
      obtain ⟨entry, hsaid, rfl⟩ := Option.map_eq_some_iff.mp hentry
      have hget := Dict.get?_eq_some.mpr ((registryLayout.order_perm _).mem_iff.mp hfield)
      refine ⟨entry, ?_, rfl⟩
      rw [viewOf]
      exact Option.bind_eq_some_iff.mpr ⟨field.2, hget, hsaid⟩
    · intro hrow
      obtain ⟨entry, hentry, heq⟩ := hrow
      obtain ⟨record, hget, hentry⟩ := Option.bind_eq_some_iff.mp hentry
      refine ⟨(row.systemName, record), (registryLayout.order_perm _).mem_iff.mpr (Dict.get?_eq_some.mp hget), ?_⟩
      rw [hentry, Option.map_some, ← heq]
  rw [callerAuthStatusSummary, hload]
  dsimp only
  rw [hrecords]
  split
  · rename_i hempty
    have hentries := List.isEmpty_iff.mp hempty
    rw [hentries] at hrows
    exact ⟨_, rfl, List.Pairwise.nil, hrows, rfl, rfl⟩
  · refine ⟨_, rfl, hsorted.sublist (hnames _), hrows, rfl, ?_⟩
    simp only [List.isEmpty_iff]

end RegistryHost

/-! ## The registry and the keys -/

/-- The tenants whose keys have been changed -/
def changedTenants (log : List DatedCommand) : List String :=
  log.filterMap fun dated => dated.performed.map fun performed => performed.1.tenant

namespace RegistryHost

variable {host : RegistryHost}

variable (host) in
/-- An entry that is about the key that there is: it tells of it when there is one, and of the revocation when there
is none. -/
inductive Current : AuthEntry → Option String → Prop where
  | given {command key now} : Current (host.givenEntry command key now) (some key)
  | revoked {entry : AuthEntry} : Current entry.revoked none

/-- The view keeps up with the ledger for the tenants whose keys have been changed. -/
theorem current_of_changed (log : List DatedCommand) {ledger : KeyLedger} {view : AuthView} {tenant : String}
    (h : tenant ∈ changedTenants log ∨ ∃ entry, view tenant = some entry ∧ host.Current entry (ledger tenant)) :
    ∃ entry, log.foldl host.viewAfter view tenant = some entry ∧ host.Current entry
      (ledger.following (log.map fun dated => (dated.command, dated.performed)) tenant) := by
  induction log generalizing ledger view with
  | nil => exact h.resolve_left List.not_mem_nil
  | cons dated log ih =>
    obtain ⟨command, performed, now⟩ := dated
    cases performed with
    | none => exact ih h
    | some performed =>
      obtain ⟨event, saved⟩ := performed
      change ∃ entry, log.foldl host.viewAfter _ tenant = some entry ∧ host.Current entry
        ((ledger.after event).following (log.map fun dated => (dated.command, dated.performed)) tenant)
      apply ih
      have hrest (hne : tenant ≠ event.tenant) : tenant ∈ changedTenants log ∨
          ∃ entry, view tenant = some entry ∧ host.Current entry (ledger tenant) :=
        h.imp_left fun hmem => (List.mem_cons.mp hmem).resolve_left hne
      cases event with
      | given other key =>
        by_cases heq : tenant = other
        · subst heq
          refine .inr ⟨_, Function.update_self .., ?_⟩
          rw [KeyLedger.after, Function.update_self]
          exact .given
        · rw [KeyLedger.after, Function.update_of_ne heq,
            show host.viewAfter view ⟨command, some (.given other key, saved), now⟩ tenant = view tenant from
              Function.update_of_ne heq ..]
          exact hrest heq
      | revoked other =>
        by_cases heq : tenant = other
        · subst heq
          refine .inr ⟨_, Function.update_self .., ?_⟩
          rw [KeyLedger.after, Function.update_self]
          exact .revoked
        · rw [KeyLedger.after, Function.update_of_ne heq,
            show host.viewAfter view ⟨command, some (.revoked other, saved), now⟩ tenant = view tenant from
              Function.update_of_ne heq ..]
          exact hrest heq

end RegistryHost

/-- **The registry tells what has become of the keys.** After every run the summary has a row for each name that had
one or whose key has been changed, as the commands before say, and of each key that has been changed it tells the state
that the credentials have. -/
theorem callerAuth_of_run {host : RegistryHost} {world : RegistryWorld} {view : AuthView} {ledger : KeyLedger}
    {legacy : List String} {commands : List (KeyCommand × DateTime)} (hunset : host.Unset)
    (hholds : host.Holds world.keys ledger legacy) (hnamed : ∀ dated ∈ commands, dated.1.WellNamed)
    (hfresh : FreshTokens ledger (commands.map Prod.fst))
    (hback : ∀ dated ∈ (host.run world commands).1, ∀ event saved, dated.performed = some (event, saved) →
      host.ReadsBack saved)
    (hregistered : host.Registered world.registry view) (hwritable : host.registryReadOnly = false) :
    (∀ now, ∃ summary, host.callerAuthStatusSummary (host.run world commands).2.registry now = .ok summary ∧
      summary.Tells now ((host.run world commands).1.foldl host.viewAfter view)) ∧
    ∀ tenant ∈ changedTenants (host.run world commands).1, ∃ entry,
      (host.run world commands).1.foldl host.viewAfter view tenant = some entry ∧ host.Current entry
        ((parseTenantKeyPairs (host.tenantKeys (host.run world commands).2.keys.file)).get? tenant) := by
  obtain ⟨hlog, hkeys, hshown⟩ := RegistryHost.run_spec hregistered hwritable commands
  have hheld : host.Holds (host.run world commands).2.keys
      (ledger.following ((host.run world commands).1.map fun dated => (dated.command, dated.performed))) legacy := by
    rw [hlog, hkeys]
    refine (hholds.run hunset (fun command hcommand => ?_) hfresh fun entry hentry event saved hperformed => ?_).2
    · obtain ⟨dated, hdated, rfl⟩ := List.mem_map.mp hcommand
      exact hnamed dated hdated
    · rw [← hlog] at hentry
      obtain ⟨dated, hdated, rfl⟩ := List.mem_map.mp hentry
      exact hback dated hdated event saved hperformed
  refine ⟨fun now => hshown.summary now, fun tenant htenant => ?_⟩
  rw [parseTenantKeyPairs, hheld.lists.parsed]
  exact RegistryHost.current_of_changed _ (.inl htenant)

/-! ### The registry of one more tenant -/

theorem isoformat_ne_empty (t : DateTime) : t.isoformat ≠ "" := by
  intro h
  have hlist := congrArg String.toList h
  rw [DateTime.toList_isoformat] at hlist
  simp at hlist

theorem partialInv_isoformat_empty : Function.partialInv DateTime.isoformat "" = none :=
  dif_neg fun h => isoformat_ne_empty _ h.choose_spec

/-- The calendar knows the texts that `isoformat` writes. -/
noncomputable def acmeRegistryHost : RegistryHost where
  toKeyHost := acmeKeyHost
  python := {
    builtins := acmeKeyHost.py
    recursionLimit := 1000
    recursionLimit_ge := by decide
    spell := id
    spell_reads := fun _ h => h
    spell_spell := fun _ _ => rfl }
  fromisoformat := Function.partialInv DateTime.isoformat
  fromisoformat_isoformat := Function.partialInv_left DateTime.isoformat_injective
  fromisoformat_items _ := partialInv_isoformat_empty
  fromisoformat_fields _ := partialInv_isoformat_empty

def acmeRegistry : RegistryWorld := ⟨acmeWorld, .absent⟩

def datedNewTenant : List (KeyCommand × DateTime) := newTenant.map fun command => (command, midnight)

theorem registered_absent : acmeRegistryHost.Registered .absent fun _ => none :=
  ⟨freshRegistry, rfl, rfl, fun _ _ h => by cases h⟩

theorem callerAuth_of_run_newTenant :
    (∀ now, ∃ summary, acmeRegistryHost.callerAuthStatusSummary
        (acmeRegistryHost.run acmeRegistry datedNewTenant).2.registry now = .ok summary ∧
      summary.Tells now ((acmeRegistryHost.run acmeRegistry datedNewTenant).1.foldl acmeRegistryHost.viewAfter
        fun _ => none)) ∧
    ∀ tenant ∈ changedTenants (acmeRegistryHost.run acmeRegistry datedNewTenant).1, ∃ entry,
      (acmeRegistryHost.run acmeRegistry datedNewTenant).1.foldl acmeRegistryHost.viewAfter (fun _ => none) tenant =
          some entry ∧ acmeRegistryHost.Current entry ((parseTenantKeyPairs (acmeRegistryHost.tenantKeys
        (acmeRegistryHost.run acmeRegistry datedNewTenant).2.keys.file)).get? tenant) := by
  refine callerAuth_of_run (unset_keyHost _ _) holds_acmeWorld
    (fun dated hdated => ?_) freshTokens_newTenant (fun dated hdated event saved hperformed => ?_) registered_absent rfl
  · obtain ⟨command, hcommand, rfl⟩ := List.mem_map.mp hdated
    exact wellNamed_newTenant command hcommand
  · have habsent : acmeRegistryHost.Registered acmeRegistry.registry fun _ => none := registered_absent
    have hlog := (RegistryHost.run_spec habsent rfl datedNewTenant).1
    refine readsBack_newTenant (dated.command, dated.performed) ?_ event saved hperformed
    have hmem := List.mem_map_of_mem (f := fun dated : DatedCommand => (dated.command, dated.performed)) hdated
    rwa [hlog] at hmem

end Gpucall
