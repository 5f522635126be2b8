import Gpucall.Lib.Transaction
import Gpucall.Text

/-! `artifacts.py`: the two registries of artifact manifests, `SQLiteArtifactRegistry` with a connection for
each call, and `PostgresArtifactRegistry` with one connection for all of them. Their statements fail when they
violate a unique constraint, and for no other reason. -/

namespace Gpucall

open Transaction

/-! ## Manifests -/

/-- An `ArtifactManifest`: what goes into columns of its own, and the rest, which is only in the payload. -/
structure RegistryManifest where
  artifactId : String
  artifactChainId : String
  version : String
  classification : DataClassification
  rest : Json

/-- How a manifest becomes the text of a payload and is read from it. The payload of Postgres goes through
`jsonb`, which keeps the value of the text. -/
structure PayloadFormat where
  dump : RegistryManifest → String
  validate : String → Option RegistryManifest
  jsonb : String → String
  validate_jsonb : ∀ manifest, validate (jsonb (dump manifest)) = validate (dump manifest)

/-- `version.strip().lower() == "latest"` -/
def isLatest (version : String) : Bool := (strip version).toList.map Char.toLower = "latest".toList

/-! ## Tables -/

/-- A row of `artifacts` -/
structure RegistryRow where
  artifactId : String
  artifactChainId : String
  version : String
  classification : DataClassification
  payload : String

/-- Two rows that the primary key and the unique index do not let in together. -/
def RegistryRow.Collides (a b : RegistryRow) : Prop :=
  a.artifactId = b.artifactId ∨ (a.artifactChainId = b.artifactChainId ∧ a.version = b.version)

instance (a b : RegistryRow) : Decidable (a.Collides b) := by
  unfold RegistryRow.Collides
  infer_instance

structure RegistryTables where
  artifacts : List RegistryRow := []
  unique : artifacts.Pairwise fun a b => ¬ a.Collides b := by exact .nil
  /-- `artifact_latest`, the version of each chain -/
  latest : Dict String := ⟨[], List.nodup_nil⟩

namespace RegistryTables

variable (tables : RegistryTables)

/-- No row of the table collides with the new one. -/
def Admits (row : RegistryRow) : Prop := ∀ stored ∈ tables.artifacts, ¬ stored.Collides row

instance (row : RegistryRow) : Decidable (tables.Admits row) := by
  unfold Admits
  infer_instance

def addRow (row : RegistryRow) (h : tables.Admits row) : RegistryTables where
  artifacts := tables.artifacts ++ [row]
  unique := by
    refine List.pairwise_append.mpr ⟨tables.unique, List.pairwise_singleton _ _, ?_⟩
    intro stored hstored other hother
    cases List.mem_singleton.mp hother
    exact h stored hstored
  latest := tables.latest

end RegistryTables

/-- `INSERT INTO artifacts` -/
def insertArtifact (row : RegistryRow) : Statement RegistryTables Unit := fun tables =>
  if h : tables.Admits row then some ((), tables.addRow row h) else none

/-- `INSERT OR IGNORE INTO artifact_latest`, `ON CONFLICT(artifact_chain_id) DO NOTHING`; with
`rowcount == 1` -/
def insertLatest (chainId version : String) : Statement RegistryTables Bool := fun tables =>
  match tables.latest.get? chainId with
  | some _ => some (false, tables)
  | none => some (true, { tables with latest := tables.latest.set chainId version })

/-- `UPDATE artifact_latest SET version = .. WHERE artifact_chain_id = .. AND version = ..`, with
`rowcount == 1` -/
def updateLatest (chainId expected version : String) : Statement RegistryTables Bool := fun tables =>
  if tables.latest.get? chainId = some expected then
    some (true, { tables with latest := tables.latest.set chainId version })
  else some (false, tables)

/-- The statement of `compare_and_set_latest` -/
def setLatest (chainId : String) (expected : Option String) (version : String) :
    Statement RegistryTables Bool :=
  match expected with
  | none => insertLatest chainId version
  | some expected => updateLatest chainId expected version

/-- `SELECT version FROM artifact_latest` -/
def selectLatest (chainId : String) : Statement RegistryTables (Option String) := fun tables =>
  some (tables.latest.get? chainId, tables)

/-- `SELECT payload FROM artifacts` -/
def selectPayload (artifactId : String) : Statement RegistryTables (Option String) := fun tables =>
  some ((tables.artifacts.find? fun row => row.artifactId = artifactId).map (·.payload), tables)

/-! ## Calls -/

inductive ArtifactCall where
  | append (manifest : RegistryManifest)
  | compareAndSetLatest (chainId : String) (expected : Option String) (version : String)
  | latestVersion (chainId : String)
  | get (artifactId : String)

inductive RegistryAnswer where
  | appended (manifest : RegistryManifest)
  | changed (value : Bool)
  | version (value : Option String)
  | found (manifest : Option RegistryManifest)

def registryRow (manifest : RegistryManifest) (payload : String) : RegistryRow where
  artifactId := manifest.artifactId
  artifactChainId := manifest.artifactChainId
  version := manifest.version
  classification := manifest.classification
  payload

/-- `ArtifactManifest.model_validate_json(row[0])`, if there is a row. `none` is an exception. -/
def readPayload (format : PayloadFormat) : Option String → Option RegistryAnswer
  | none => some (.found none)
  | some payload => (format.validate payload).map fun manifest => .found (some manifest)

variable (format : PayloadFormat)

/-- A call of `SQLiteArtifactRegistry`; there is no answer when it raises. -/
def sqliteCall (tables : RegistryTables) : ArtifactCall → Option RegistryAnswer × RegistryTables
  | .append manifest =>
    if isLatest manifest.version then (none, tables)
    else
      let (answer, tables) :=
        onOwnConnection (insertArtifact (registryRow manifest (format.dump manifest))) tables
      (answer.map fun _ => .appended manifest, tables)
  | .compareAndSetLatest chainId expected version =>
    if isLatest version then (none, tables)
    else
      let (answer, tables) := onOwnConnection (setLatest chainId expected version) tables
      (answer.map .changed, tables)
  | .latestVersion chainId =>
    let (answer, tables) := onOwnConnection (selectLatest chainId) tables
    (answer.map .version, tables)
  | .get artifactId =>
    let (answer, tables) := onOwnConnection (selectPayload artifactId) tables
    (answer.bind (readPayload format), tables)

/-- A call of `PostgresArtifactRegistry` -/
def postgresCall (connection : Connection RegistryTables) :
    ArtifactCall → Option RegistryAnswer × Connection RegistryTables
  | .append manifest =>
    if isLatest manifest.version then (none, connection)
    else
      let (answer, connection) := connection.executeAndCommit
        (insertArtifact (registryRow manifest (format.jsonb (format.dump manifest))))
      (answer.map fun _ => .appended manifest, connection)
  | .compareAndSetLatest chainId expected version =>
    if isLatest version then (none, connection)
    else
      let (answer, connection) := connection.executeAndCommit (setLatest chainId expected version)
      (answer.map .changed, connection)
  | .latestVersion chainId =>
    let (answer, connection) := connection.execute (selectLatest chainId)
    (answer.map .version, connection)
  | .get artifactId =>
    let (answer, connection) := connection.execute (selectPayload artifactId)
    (answer.bind (readPayload format), connection)

/-- The tables of the SQLite registry after some calls. -/
def sqliteRun (calls : List ArtifactCall) : RegistryTables :=
  calls.foldl (fun tables call => (sqliteCall format tables call).2) {}

/-- The connection of the Postgres registry after the same calls. -/
def postgresRun (calls : List ArtifactCall) : Connection RegistryTables :=
  calls.foldl (fun connection call => (postgresCall format connection call).2) (.idle {})

/-! ## What the registries promise -/

/-- A call leaves the stored manifests as they are, and moves the pointer of a chain only when it is a
`compare_and_set_latest` that answers `True`. -/
structure KeepsRegistry (call : ArtifactCall) (answer : Option RegistryAnswer)
    (tables tables' : RegistryTables) : Prop where
  artifacts : tables.artifacts <+: tables'.artifacts
  latest : ∀ chainId, tables'.latest.get? chainId ≠ tables.latest.get? chainId →
    ∃ expected version, call = .compareAndSetLatest chainId expected version ∧
      answer = some (.changed true) ∧ tables.latest.get? chainId = expected ∧
        tables'.latest.get? chainId = some version

/-- One call to both registries. -/
structure RefinesCall (tables : RegistryTables) (connection : Connection RegistryTables) (call : ArtifactCall) :
    Prop where
  answers : (postgresCall format connection call).1 = (sqliteCall format tables call).1
  failedAppend : ∀ manifest, call = .append manifest → (sqliteCall format tables call).1 = none →
    (sqliteCall format tables call).2 = tables
  failedAppendPostgres : ∀ manifest, call = .append manifest → (postgresCall format connection call).1 = none →
    (postgresCall format connection call).2.committed = connection.committed ∧
      (postgresCall format connection call).2.aborted = connection.aborted
  keeps : KeepsRegistry call (sqliteCall format tables call).1 tables (sqliteCall format tables call).2
  keepsPostgres : KeepsRegistry call (postgresCall format connection call).1 connection.committed
    (postgresCall format connection call).2.committed

/-- Every call of a run -/
def RefinesSqlite (calls : List ArtifactCall) : Prop :=
  ∀ before call, before ++ [call] <+: calls →
    RefinesCall format (sqliteRun format before) (postgresRun format before) call

/-- An append with an explicit version gives an artifact id, and a chain and a version, that no stored manifest
has. -/
def AppendsFresh (tables : RegistryTables) (call : ArtifactCall) : Prop :=
  ∀ manifest, call = .append manifest → isLatest manifest.version = false →
    ∀ stored ∈ tables.artifacts, stored.artifactId ≠ manifest.artifactId ∧
      (stored.artifactChainId = manifest.artifactChainId → stored.version ≠ manifest.version)

/-! ## Statements on both databases -/

def RegistryRow.mirror (row : RegistryRow) : RegistryRow := { row with payload := format.jsonb row.payload }

/-- The same tables with the payloads of Postgres. -/
def RegistryTables.mirror (tables : RegistryTables) : RegistryTables where
  artifacts := tables.artifacts.map (RegistryRow.mirror format)
  unique := List.pairwise_map.mpr tables.unique
  latest := tables.latest

section Mirror

variable {format} {tables : RegistryTables}

theorem RegistryTables.ext_iff_fields {a b : RegistryTables} :
    a = b ↔ a.artifacts = b.artifacts ∧ a.latest = b.latest := by
  cases a
  cases b
  simp

theorem admits_mirror {row row' : RegistryRow} (hid : row'.artifactId = row.artifactId)
    (hchain : row'.artifactChainId = row.artifactChainId) (hversion : row'.version = row.version) :
    (tables.mirror format).Admits row' ↔ tables.Admits row := by
  simp only [RegistryTables.Admits, RegistryTables.mirror, List.forall_mem_map, RegistryRow.Collides,
    RegistryRow.mirror, hid, hchain, hversion]

theorem insertArtifact_of_admits {row : RegistryRow} (h : tables.Admits row) :
    insertArtifact row tables = some ((), tables.addRow row h) := dif_pos h

theorem insertArtifact_of_not_admits {row : RegistryRow} (h : ¬ tables.Admits row) :
    insertArtifact row tables = none := dif_neg h

theorem mirrors_insertArtifact (manifest : RegistryManifest) (payload : String) :
    Mirrors (RegistryTables.mirror format) (insertArtifact (registryRow manifest payload))
      (insertArtifact (registryRow manifest (format.jsonb payload))) := by
  intro tables
  have hadmits : (tables.mirror format).Admits (registryRow manifest (format.jsonb payload)) ↔
      tables.Admits (registryRow manifest payload) := admits_mirror rfl rfl rfl
  by_cases h : tables.Admits (registryRow manifest payload)
  · rw [insertArtifact_of_admits h, insertArtifact_of_admits (hadmits.mpr h)]
    refine congrArg some (Prod.ext rfl (RegistryTables.ext_iff_fields.mpr ⟨?_, rfl⟩))
    simp only [RegistryTables.addRow, RegistryTables.mirror, Prod.map_snd, List.map_append]
    rfl
  · rw [insertArtifact_of_not_admits h, insertArtifact_of_not_admits (hadmits.not.mpr h)]
    rfl

theorem mirrors_setLatest (chainId : String) (expected : Option String) (version : String) :
    Mirrors (RegistryTables.mirror format) (setLatest chainId expected version)
      (setLatest chainId expected version) := by
  intro tables
  cases expected with
  | none =>
    simp only [setLatest, insertLatest, RegistryTables.mirror]
    cases tables.latest.get? chainId <;> rfl
  | some expected =>
    by_cases h : tables.latest.get? chainId = some expected
    · have hmirror : (tables.mirror format).latest.get? chainId = some expected := h
      rw [setLatest, updateLatest, updateLatest, if_pos h, if_pos hmirror]
      rfl
    · have hmirror : ¬ (tables.mirror format).latest.get? chainId = some expected := h
      rw [setLatest, updateLatest, updateLatest, if_neg h, if_neg hmirror]
      rfl

/-- A pointer is set by a statement that counts one row, and then from the expected version. -/
theorem exists_setLatest (tables : RegistryTables) (chainId : String) (expected : Option String)
    (version : String) : ∃ changed tables', setLatest chainId expected version tables =
      some (changed, tables') ∧ tables'.artifacts = tables.artifacts ∧
        tables'.latest = (if changed then tables.latest.set chainId version else tables.latest) ∧
          (changed → tables.latest.get? chainId = expected) := by
  cases expected with
  | none =>
    rw [setLatest, insertLatest]
    cases h : tables.latest.get? chainId with
    | none =>
      exact ⟨true, { tables with latest := tables.latest.set chainId version }, rfl, rfl, rfl, fun _ => rfl⟩
    | some found => exact ⟨false, tables, rfl, rfl, rfl, nofun⟩
  | some expected =>
    rw [setLatest, updateLatest]
    split
    · rename_i h
      exact ⟨true, { tables with latest := tables.latest.set chainId version }, rfl, rfl, rfl, fun _ => h⟩
    · exact ⟨false, tables, rfl, rfl, rfl, nofun⟩

/-! ## One call -/

/-- The Postgres connection stands where the SQLite tables stand, with nothing pending; every payload is the text of
a manifest. -/
structure Mirrored (format : PayloadFormat) (tables : RegistryTables) (connection : Connection RegistryTables) :
    Prop where
  connection : connection = .idle (tables.mirror format)
  payloads : ∀ row ∈ tables.artifacts, ∃ manifest, row.payload = format.dump manifest

theorem appendsFresh_append_iff {manifest : RegistryManifest} (payload : String) :
    AppendsFresh tables (.append manifest) ↔
      (isLatest manifest.version = false → tables.Admits (registryRow manifest payload)) := by
  have hcollides (stored : RegistryRow) : ¬ stored.Collides (registryRow manifest payload) ↔
      stored.artifactId ≠ manifest.artifactId ∧
        (stored.artifactChainId = manifest.artifactChainId → stored.version ≠ manifest.version) := by
    rw [RegistryRow.Collides, not_or, not_and]
    rfl
  simp only [AppendsFresh, RegistryTables.Admits, hcollides]
  constructor
  · exact fun h => h manifest rfl
  · rintro h _ ⟨⟩
    exact h

theorem readPayload_mirror (hpayloads : ∀ row ∈ tables.artifacts, ∃ manifest, row.payload = format.dump manifest)
    (artifactId : String) :
    ((selectPayload artifactId (tables.mirror format)).map (·.1)).bind (fun payload => readPayload format payload) =
      ((selectPayload artifactId tables).map (·.1)).bind (fun payload => readPayload format payload) := by
  have hfind : (tables.mirror format).artifacts.find? (fun row => row.artifactId = artifactId) =
      (tables.artifacts.find? fun row => row.artifactId = artifactId).map (RegistryRow.mirror format) := by
    rw [RegistryTables.mirror, List.find?_map]
    rfl
  simp only [selectPayload, Option.map_some, Option.bind_some, hfind]
  cases h : tables.artifacts.find? fun row => row.artifactId = artifactId with
  | none => rfl
  | some row =>
    obtain ⟨manifest, hmanifest⟩ := hpayloads row (List.mem_of_find?_eq_some h)
    simp only [Option.map_some, RegistryRow.mirror, readPayload, hmanifest, format.validate_jsonb]

/-- Where the registries mirror each other and the append is fresh, a call gives the same answer and they
still do. -/
theorem Mirrored.call {connection : Connection RegistryTables} {call : ArtifactCall}
    (h : Mirrored format tables connection) (hfresh : AppendsFresh tables call) :
    (postgresCall format connection call).1 = (sqliteCall format tables call).1 ∧
      Mirrored format (sqliteCall format tables call).2 (postgresCall format connection call).2 := by
  obtain ⟨rfl, hpayloads⟩ := h
  cases call with
  | append manifest =>
    rw [sqliteCall, postgresCall]
    split
    · exact ⟨rfl, rfl, hpayloads⟩
    · rename_i hlatest
      have hadmits := (appendsFresh_append_iff (format.dump manifest)).mp hfresh (Bool.eq_false_iff.mpr hlatest)
      have hinsert := insertArtifact_of_admits hadmits
      rw [onOwnConnection_of_some hinsert, (mirrors_insertArtifact _ _).executeAndCommit_of_some hinsert]
      refine ⟨rfl, rfl, ?_⟩
      intro row hrow
      rcases List.mem_append.mp hrow with hrow | hrow
      · exact hpayloads row hrow
      · cases List.mem_singleton.mp hrow
        exact ⟨manifest, rfl⟩
  | compareAndSetLatest chainId expected version =>
    rw [sqliteCall, postgresCall]
    split
    · exact ⟨rfl, rfl, hpayloads⟩
    · obtain ⟨changed, tables', hset, hartifacts, -, -⟩ := exists_setLatest tables chainId expected version
      rw [onOwnConnection_of_some hset, (mirrors_setLatest _ _ _).executeAndCommit_of_some hset]
      exact ⟨rfl, rfl, hartifacts ▸ hpayloads⟩
  | latestVersion chainId => exact ⟨rfl, rfl, hpayloads⟩
  | get artifactId => exact ⟨readPayload_mirror hpayloads artifactId, rfl, hpayloads⟩

/-- Whatever the tables are, a call to SQLite keeps them; an append that raises changes nothing. -/
theorem keepsRegistry_sqliteCall (tables : RegistryTables) (call : ArtifactCall) :
    KeepsRegistry call (sqliteCall format tables call).1 tables (sqliteCall format tables call).2 := by
  have hsame (answer : Option RegistryAnswer) : KeepsRegistry call answer tables tables :=
    ⟨List.prefix_rfl, fun _ hne => absurd rfl hne⟩
  cases call with
  | append manifest =>
    rw [sqliteCall]
    split
    · exact hsame none
    · by_cases hadmits : tables.Admits (registryRow manifest (format.dump manifest))
      · rw [onOwnConnection_of_some (insertArtifact_of_admits hadmits)]
        exact ⟨List.prefix_append _ _, fun _ hne => absurd rfl hne⟩
      · rw [onOwnConnection_of_none (insertArtifact_of_not_admits hadmits)]
        exact hsame none
  | compareAndSetLatest chainId expected version =>
    rw [sqliteCall]
    split
    · exact hsame none
    · obtain ⟨changed, tables', hset, hartifacts, hlatest, hexpected⟩ :=
        exists_setLatest tables chainId expected version
      rw [onOwnConnection_of_some hset]
      refine ⟨hartifacts ▸ List.prefix_rfl, fun other hne => ?_⟩
      cases changed with
      | false => exact absurd (congrArg (·.get? other) hlatest) hne
      | true =>
        have hset : tables'.latest = tables.latest.set chainId version := hlatest
        have hother : other = chainId := by
          by_contra hother
          exact hne (by rw [hset, Dict.get?_set, if_neg hother])
        subst hother
        exact ⟨expected, version, rfl, rfl, hexpected rfl, by rw [hset, Dict.get?_set_self]⟩
  | latestVersion chainId => exact hsame _
  | get artifactId => exact hsame _

theorem KeepsRegistry.mirror {call : ArtifactCall} {answer : Option RegistryAnswer}
    {tables tables' : RegistryTables} (h : KeepsRegistry call answer tables tables') :
    KeepsRegistry call answer (tables.mirror format) (tables'.mirror format) :=
  ⟨h.artifacts.map _, h.latest⟩

theorem sqliteCall_append_of_none {manifest : RegistryManifest}
    (h : (sqliteCall format tables (.append manifest)).1 = none) :
    (sqliteCall format tables (.append manifest)).2 = tables := by
  rw [sqliteCall] at h ⊢
  split
  · rfl
  · rename_i hlatest
    rw [if_neg hlatest] at h
    by_cases hadmits : tables.Admits (registryRow manifest (format.dump manifest))
    · rw [onOwnConnection_of_some (insertArtifact_of_admits hadmits)] at h
      cases h
    · rw [onOwnConnection_of_none (insertArtifact_of_not_admits hadmits)]

/-- A fresh call refines the call to SQLite. -/
theorem Mirrored.refinesCall {connection : Connection RegistryTables} {call : ArtifactCall}
    (h : Mirrored format tables connection) (hfresh : AppendsFresh tables call) :
    RefinesCall format tables connection call := by
  obtain ⟨hanswer, hafter⟩ := h.call hfresh
  have hkeeps := @keepsRegistry_sqliteCall format tables call
  refine ⟨hanswer, ?_, ?_, hkeeps, ?_⟩
  · rintro manifest rfl hnone
    exact sqliteCall_append_of_none hnone
  · rintro manifest rfl hnone
    rw [hanswer] at hnone
    rw [hafter.connection, h.connection, sqliteCall_append_of_none hnone]
    exact ⟨rfl, rfl⟩
  · rw [hanswer, hafter.connection, h.connection]
    exact hkeeps.mirror

/-- A colliding append aborts the transaction of Postgres, and nothing rolls it back. -/
theorem Mirrored.appendsFresh_of_refinesCall {connection : Connection RegistryTables} {call : ArtifactCall}
    (h : Mirrored format tables connection) (hrefines : RefinesCall format tables connection call) :
    AppendsFresh tables call := by
  rintro manifest rfl hlatest
  refine (appendsFresh_append_iff (format.dump manifest)).mpr (fun _ => ?_) manifest rfl hlatest
  by_contra hadmits
  have habort : postgresCall format connection (.append manifest) =
      (none, { committed := tables.mirror format, working := tables.mirror format, aborted := true }) := by
    rw [h.connection, postgresCall, if_neg (by simp [hlatest]),
      (mirrors_insertArtifact _ _).executeAndCommit_of_none (insertArtifact_of_not_admits hadmits)]
    rfl
  have husable := (hrefines.failedAppendPostgres manifest rfl (by rw [habort])).2
  rw [habort, h.connection] at husable
  cases husable

/-! ## Runs -/

theorem mirrored_empty : Mirrored format {} (.idle {}) := ⟨rfl, nofun⟩

theorem mirrored_run {calls : List ArtifactCall}
    (h : ∀ before call, before ++ [call] <+: calls → AppendsFresh (sqliteRun format before) call) :
    Mirrored format (sqliteRun format calls) (postgresRun format calls) := by
  induction calls using List.reverseRecOn with
  | nil => exact mirrored_empty
  | append_singleton calls call ih =>
    have hcalls := ih fun before other hbefore => h before other (hbefore.trans (List.prefix_append _ _))
    rw [sqliteRun, postgresRun, List.foldl_append, List.foldl_append]
    exact (hcalls.call (h calls call List.prefix_rfl)).2

/-- The Postgres registry refines the SQLite registry over a run exactly when every append of the run that has
an explicit version is fresh. -/
theorem refinesSqlite_iff (format : PayloadFormat) (calls : List ArtifactCall) :
    RefinesSqlite format calls ↔
      ∀ before call, before ++ [call] <+: calls → AppendsFresh (sqliteRun format before) call := by
  constructor
  · induction calls using List.reverseRecOn with
    | nil =>
      intro _ before call hcall
      cases List.append_eq_nil_iff.mp (List.prefix_nil.mp hcall) |>.2
    | append_singleton calls last ih =>
      intro hrefines before call hcall
      have hfresh := ih fun earlier other hother =>
        hrefines earlier other (hother.trans (List.prefix_append _ _))
      rcases List.prefix_concat_iff.mp hcall with heq | hbefore
      · obtain ⟨rfl, hlast⟩ := List.append_inj' heq rfl
        cases hlast
        exact (mirrored_run hfresh).appendsFresh_of_refinesCall (hrefines before last List.prefix_rfl)
      · exact hfresh before call hbefore
  · intro hfresh before call hcall
    refine (mirrored_run fun earlier other hother => ?_).refinesCall (hfresh before call hcall)
    exact hfresh earlier other (hother.trans ((List.prefix_append _ _).trans hcall))

end Mirror

/-! ## A chain and a version appended twice -/

/-- A payload is the artifact id. -/
def idPayloads : PayloadFormat where
  dump manifest := manifest.artifactId
  validate text := some ⟨text, "chain-1", "0001", .restricted, .null⟩
  jsonb text := text
  validate_jsonb _ := rfl

def manifestOf (artifactId : String) : RegistryManifest where
  artifactId
  artifactChainId := "chain-1"
  version := "0001"
  classification := .restricted
  rest := .null

/-- After the second append has raised, Postgres does not even answer which version is the latest. -/
theorem not_refinesSqlite : ¬ RefinesSqlite idPayloads [.append (manifestOf "artifact-1"),
    .append (manifestOf "artifact-2"), .latestVersion "chain-1"] := by
  intro hrefines
  have hanswers := (hrefines [.append (manifestOf "artifact-1"), .append (manifestOf "artifact-2")]
    (.latestVersion "chain-1") List.prefix_rfl).answers
  have hsome := congrArg Option.isSome hanswers
  revert hsome
  decide +kernel

end Gpucall
