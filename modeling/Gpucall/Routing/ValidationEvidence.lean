import Mathlib.Data.List.Sort
import Gpucall.Json
import Gpucall.Lib.FirstWins
import Gpucall.Routing.Compiler

/-! `validation_evidence.py`: the two loaders that read a directory of validation artifacts, newest
first. The routes that the compiler accepts are the keys of the one; reports use the other. -/

namespace Gpucall

/-! ## Decoded values -/

/-- What Python does with decoded values that a model of its own would not add to: the text of a
container, the equality of two numbers by the texts they are dumped with (`1 == 1.0`), and SHA-256 as
hexadecimal digits. -/
structure Builtins where
  repr : Json → String
  numberEq : String → String → Bool
  sha256 : List Char → String

variable (py : Builtins)

/-- `str(value)` of a decoded value -/
def pyStr : Json → String
  | .null => "None"
  | .bool true => "True"
  | .bool false => "False"
  | .number "NaN" => "nan"
  | .number "Infinity" => "inf"
  | .number "-Infinity" => "-inf"
  | .number text => text
  | .str value => value
  | value => py.repr value

/-- `str(value or "")` -/
def strOrEmpty (value : Option Json) : String := ((value.filter Json.truthy).map (pyStr py)).getD ""

mutual

/-- `left == right`. A Boolean is the number one or zero; the order of the keys does not matter. -/
def pyEq : Json → Json → Bool
  | .null, .null => true
  | .bool left, .bool right => left = right
  | .bool left, .number right => py.numberEq (if left then "1" else "0") right
  | .number left, .bool right => py.numberEq left (if right then "1" else "0")
  | .number left, .number right => py.numberEq left right
  | .str left, .str right => left = right
  | .arr left, .arr right => pyEqItems left right
  | .obj left, .obj right => left.length = right.length && pyEqFields left right
  | _, _ => false

def pyEqItems : List Json → List Json → Bool
  | [], [] => true
  | left :: lefts, right :: rights => pyEq left right && pyEqItems lefts rights
  | _, _ => false

def pyEqFields : List (String × Json) → List (String × Json) → Bool
  | [], _ => true
  | (name, left) :: lefts, rights =>
    (match rights.lookup name with
      | some right => pyEq left right
      | none => false) && pyEqFields lefts rights

end

/-- `left == right` of two `get`s -/
def optEq (left right : Option Json) : Bool := pyEq py (left.getD .null) (right.getD .null)

/-! ## Artifacts -/

def isObject : Option Json → Bool
  | some (.obj _) => true
  | _ => false

def officialContractHash (contract : List (String × Json)) : String :=
  py.sha256 ((Json.obj contract).dumps true)

/-- The part of `route_validation_rejection_reason` on the official contract. -/
def contractRejectionReason (hash : Option Json) (contract : List (String × Json)) : Option String :=
  let get (name : String) : Option Json := contract.lookup name
  let set (name : String) : Bool := (get name).any Json.truthy
  let agrees (name : String) : Bool := optEq py (get name) (get ("expected_" ++ name))
  if !set "adapter" then some "official_contract_missing_adapter"
  else if !set "endpoint_contract" || !agrees "endpoint_contract" then
    some "endpoint_contract_mismatch"
  else if !set "output_contract" || !agrees "output_contract" then some "output_contract_mismatch"
  else if (get "expected_stream_contract").any (fun value => !(value matches .null)) &&
      !agrees "stream_contract" then
    some "stream_contract_mismatch"
  else if !set "official_sources" then some "missing_official_sources"
  else if !optEq py hash (some (.str (officialContractHash py contract))) then
    some "official_contract_hash_mismatch"
  else none

/-- The part of `route_validation_rejection_reason` that does not look at the surroundings. -/
def contentRejectionReason (data : Dict Json) : Option String :=
  if !optEq py (data.get? "validation_schema_version") (some (.number "1")) then
    some "invalid_validation_schema_version"
  else if !(data.get? "passed" matches some (.bool true)) then
    let code : Option Json := match data.get? "error" with
      | some (.obj error) => error.lookup "code"
      | _ => none
    some ("latest_route_validation_failed" ++
      ((code.filter Json.truthy).map fun code => ":" ++ pyStr py code).getD "")
  else if !isObject (data.get? "cleanup") then some "missing_cleanup_evidence"
  else if !isObject (data.get? "cost") then some "missing_cost_evidence"
  else if !isObject (data.get? "audit") then some "missing_audit_evidence"
  else
    match data.get? "official_contract" with
    | some (.obj contract) =>
      contractRejectionReason py (data.get? "official_contract_hash") contract
    | _ => some "missing_official_contract"

/-- The set `required`, sorted. -/
def requiredValidationFields : List String :=
  ["commit", "config_hash", "ended_at", "governance_hash", "mode", "official_contract",
    "official_contract_hash", "recipe", "started_at", "tuple"]

/-- What an artifact is compared with. `configDir` is the hash of the configuration directory if one
is given; the hash may be unavailable. -/
structure ValidationSettings where
  expectedCommit : Option String
  configDir : Option (Option String)
  strictConfigHash : Bool

def ValidationSettings.expectedConfigHash (s : ValidationSettings) : Option String := s.configDir.join

/-- `value == expected`, where `expected` is a text or `None` -/
def equalsText (value : Option Json) (expected : Option String) : Bool :=
  optEq py value (expected.map Json.str)

def routeValidationRejectionReason (s : ValidationSettings) (data : Dict Json) : Option String :=
  let missing := requiredValidationFields.filter fun field => (data.get? field).isNone
  if !missing.isEmpty then some ("missing_validation_fields:" ++ joinStr "," missing)
  else if s.expectedCommit.isSome && !equalsText py (data.get? "commit") s.expectedCommit then
    some "validation_commit_mismatch"
  else if s.strictConfigHash && s.configDir.isSome then
    if s.expectedConfigHash.isNone then some "expected_config_hash_unavailable"
    else if !equalsText py (data.get? "config_hash") s.expectedConfigHash then
      some "validation_config_hash_mismatch"
    else contentRejectionReason py data
  else contentRejectionReason py data

def liveValidationArtifactValid (data : Dict Json) : Bool :=
  (routeValidationRejectionReason py
    { expectedCommit := none, configDir := none, strictConfigHash := false } data).isNone

/-- A file `*.json` whose modification time can be read. Its contents may be unreadable. -/
structure ValidationFile where
  path : String
  mtime : ℚ
  data : Option (Dict Json)

/-- The key that an artifact names. -/
def namedKey (data : Dict Json) : Option RouteValidationKey :=
  let tupleName := strOrEmpty py (data.get? "tuple")
  let recipeName := strOrEmpty py (data.get? "recipe")
  let mode := strOrEmpty py (data.get? "mode")
  if tupleName = "" || recipeName = "" || mode = "" then none else some (tupleName, recipeName, mode)

/-- `sorted(candidates, key=.., reverse=True)` -/
def newestFirst (files : List ValidationFile) : List ValidationFile :=
  files.insertionSort fun a b => b.mtime ≤ a.mtime

/-! ## The loaders -/

structure RouteValidationEvidence where
  path : String
  mtime : ℚ
  data : Dict Json

structure RouteValidationStatus where
  path : String
  mtime : ℚ
  accepted : Bool
  reason : Option String
  data : Dict Json

/-- One round of the loop in `load_route_validation_evidence`: what it would enter, if it does not
`continue`. -/
def evidenceEntry (s : ValidationSettings) (file : ValidationFile) :
    Option (RouteValidationKey × RouteValidationEvidence) :=
  match file.data with
  | none => none
  | some data =>
    if truthyStr s.expectedCommit && !equalsText py (data.get? "commit") s.expectedCommit then none
    else if s.strictConfigHash && !equalsText py (data.get? "config_hash") s.expectedConfigHash then
      none
    else if !liveValidationArtifactValid py data then none
    else (namedKey py data).map fun key => (key, { path := file.path, mtime := file.mtime, data })

def loadRouteValidationEvidence (s : ValidationSettings) (files : List ValidationFile) :
    List (RouteValidationKey × RouteValidationEvidence) :=
  if s.strictConfigHash && s.configDir.isSome && s.expectedConfigHash.isNone then []
  else FirstWins.scan (evidenceEntry py s) (newestFirst files)

/-- The status that an artifact gives its key. -/
def statusOf (s : ValidationSettings) (file : ValidationFile) (data : Dict Json) :
    RouteValidationStatus :=
  let reason := routeValidationRejectionReason py s data
  { path := file.path, mtime := file.mtime, accepted := reason.isNone, reason, data }

/-- One round of the loop in `load_route_validation_statuses`. -/
def statusEntry (s : ValidationSettings) (file : ValidationFile) :
    Option (RouteValidationKey × RouteValidationStatus) :=
  match file.data with
  | none => none
  | some data => (namedKey py data).map fun key => (key, statusOf py s file data)

def loadRouteValidationStatuses (s : ValidationSettings) (files : List ValidationFile) :
    List (RouteValidationKey × RouteValidationStatus) :=
  FirstWins.scan (statusEntry py s) (newestFirst files)

def validatedRouteKeys (s : ValidationSettings) (files : List ValidationFile) :
    List RouteValidationKey :=
  (loadRouteValidationEvidence py s files).map Prod.fst

/-! ## Which artifact decides -/

/-- The file holds an artifact that names the key. -/
def ValidationFile.Names (file : ValidationFile) (key : RouteValidationKey) : Prop :=
  ∃ data, file.data = some data ∧ namedKey py data = some key

/-- The file holds an artifact without a rejection reason. -/
def ValidationFile.Passes (s : ValidationSettings) (file : ValidationFile) : Prop :=
  ∃ data, file.data = some data ∧ routeValidationRejectionReason py s data = none

/-- The newest of the files that name the key. -/
structure ValidationFile.Newest (files : List ValidationFile) (key : RouteValidationKey)
    (file : ValidationFile) : Prop where
  mem : file ∈ files
  names : file.Names py key
  newest : ∀ other ∈ files, other.Names py key → other.mtime ≤ file.mtime

/-- `load_route_validation_evidence` compares the commit only with one that is not empty. -/
def ValidationSettings.withoutEmptyCommit (s : ValidationSettings) : ValidationSettings :=
  { s with expectedCommit := s.expectedCommit.filter (· ≠ "") }

/-- The key that the contents of the file name. -/
def ValidationFile.key (file : ValidationFile) : Option RouteValidationKey :=
  file.data.bind (namedKey py)

/-- The first file with the key in the order of the loaders, newest first. -/
def latestFor (files : List ValidationFile) (key : RouteValidationKey) : Option ValidationFile :=
  (newestFirst files).find? fun file => file.key py == some key

/-- The latest status of the key is accepted. -/
def StatusAccepted (s : ValidationSettings) (files : List ValidationFile) (key : RouteValidationKey) :
    Prop :=
  ∃ status, (loadRouteValidationStatuses py s files).lookup key = some status ∧
    status.accepted = true

variable {py} {s : ValidationSettings} {files : List ValidationFile} {key : RouteValidationKey}

theorem newestFirst_perm (files : List ValidationFile) : (newestFirst files).Perm files :=
  List.perm_insertionSort _ files

theorem newestFirst_sorted (hdistinct : (files.map (·.mtime)).Nodup) :
    (newestFirst files).Pairwise fun a b => b.mtime < a.mtime := by
  have hsorted : (newestFirst files).Pairwise fun a b => b.mtime ≤ a.mtime := by
    have : Std.Total fun a b : ValidationFile => b.mtime ≤ a.mtime := ⟨fun a b => le_total _ _⟩
    have : IsTrans ValidationFile fun a b => b.mtime ≤ a.mtime := ⟨fun _ _ _ h h' => h'.trans h⟩
    exact List.pairwise_insertionSort _ files
  have hnodup : (newestFirst files).Pairwise fun a b => a.mtime ≠ b.mtime :=
    List.pairwise_map.mp ((newestFirst_perm files).map _ |>.nodup_iff.mpr hdistinct)
  exact (hsorted.and hnodup).imp fun h => lt_of_le_of_ne h.1 h.2.symm

theorem equalsText_some {value : Option Json} {text : String} :
    equalsText py value (some text) = true ↔ value = some (.str text) := by
  unfold equalsText optEq
  cases value with
  | none => simp [pyEq]
  | some value => cases value <;> simp [pyEq]

theorem contentRejectionReason_eq_none {data : Dict Json} :
    contentRejectionReason py data = none ↔
      optEq py (data.get? "validation_schema_version") (some (.number "1")) = true ∧
      data.get? "passed" = some (.bool true) ∧ isObject (data.get? "cleanup") = true ∧
      isObject (data.get? "cost") = true ∧ isObject (data.get? "audit") = true ∧
      ∃ contract, data.get? "official_contract" = some (.obj contract) ∧
        contractRejectionReason py (data.get? "official_contract_hash") contract = none := by
  unfold contentRejectionReason
  constructor
  · intro h
    split_ifs at h with hschema hpassed hcleanup hcost haudit
    refine ⟨by simpa using hschema, ?_, by simpa using hcleanup, by simpa using hcost,
      by simpa using haudit, ?_⟩
    · split at hpassed
      · assumption
      · simp at hpassed
    · split at h
      · exact ⟨_, by assumption, h⟩
      · cases h
  · rintro ⟨hschema, hpassed, hcleanup, hcost, haudit, contract, hcontract, hreason⟩
    simp [hschema, hpassed, hcleanup, hcost, haudit, hcontract, hreason]

/-- What an artifact without a rejection reason has passed. -/
theorem routeValidationRejectionReason_eq_none {data : Dict Json} :
    routeValidationRejectionReason py s data = none ↔
      (∀ field ∈ requiredValidationFields, data.get? field ≠ none) ∧
      (∀ commit, s.expectedCommit = some commit →
        equalsText py (data.get? "commit") (some commit) = true) ∧
      (s.strictConfigHash = true → s.configDir.isSome = true → s.expectedConfigHash ≠ none ∧
        equalsText py (data.get? "config_hash") s.expectedConfigHash = true) ∧
      contentRejectionReason py data = none := by
  have hmissing : (requiredValidationFields.filter fun field => (data.get? field).isNone).isEmpty =
      true ↔ ∀ field ∈ requiredValidationFields, data.get? field ≠ none := by
    simp [List.isEmpty_iff, List.filter_eq_nil_iff]
  rw [← hmissing]
  unfold routeValidationRejectionReason
  dsimp only
  split_ifs <;> cases hcommit : s.expectedCommit <;> simp_all

theorem liveValidationArtifactValid_iff {data : Dict Json} :
    liveValidationArtifactValid py data = true ↔
      (∀ field ∈ requiredValidationFields, data.get? field ≠ none) ∧
        contentRejectionReason py data = none := by
  rw [liveValidationArtifactValid, Option.isNone_iff_eq_none, routeValidationRejectionReason_eq_none]
  simp

/-- The checks of `load_route_validation_evidence` are those of the rejection reason. -/
theorem rejectionReason_eq_none_iff (data : Dict Json) {hash : Option String}
    (hconfig : s.configDir = some hash) :
    routeValidationRejectionReason py s.withoutEmptyCommit data = none ↔
      (s.strictConfigHash && s.configDir.isSome && s.expectedConfigHash.isNone) = false ∧
      (truthyStr s.expectedCommit && !equalsText py (data.get? "commit") s.expectedCommit) = false ∧
      (s.strictConfigHash && !equalsText py (data.get? "config_hash") s.expectedConfigHash) = false ∧
      liveValidationArtifactValid py data = true := by
  have hcommit : (∀ commit, s.withoutEmptyCommit.expectedCommit = some commit →
        equalsText py (data.get? "commit") (some commit) = true) ↔
      (truthyStr s.expectedCommit && !equalsText py (data.get? "commit") s.expectedCommit) =
        false := by
    unfold ValidationSettings.withoutEmptyCommit
    cases s.expectedCommit with
    | none => simp [truthyStr]
    | some commit => by_cases hempty : commit = "" <;> simp [truthyStr, hempty, Option.filter]
  rw [routeValidationRejectionReason_eq_none, liveValidationArtifactValid_iff, hcommit]
  have hstrict : s.withoutEmptyCommit.strictConfigHash = s.strictConfigHash := rfl
  have hhash : s.withoutEmptyCommit.expectedConfigHash = s.expectedConfigHash := rfl
  have hdir : s.withoutEmptyCommit.configDir = some hash := hconfig
  rw [hstrict, hhash, hdir, hconfig]
  cases s.strictConfigHash <;> cases s.expectedConfigHash <;> simp [and_left_comm]

/-- A commit that matches is no reason to reject without one. -/
theorem rejectionReason_withoutEmptyCommit {data : Dict Json}
    (h : routeValidationRejectionReason py s data = none) :
    routeValidationRejectionReason py s.withoutEmptyCommit data = none := by
  rw [routeValidationRejectionReason_eq_none] at h ⊢
  refine ⟨h.1, fun commit hcommit => h.2.1 commit ?_, h.2.2⟩
  exact (Option.filter_eq_some_iff.mp hcommit).1

theorem map_prodMk_eq_some {κ β : Type} {name : Option κ} {value : β} {entry : κ × β} :
    name.map (fun key => (key, value)) = some entry ↔ name = some entry.1 ∧ value = entry.2 := by
  cases name <;> simp [Prod.ext_iff]

theorem exists_evidenceEntry {file : ValidationFile} {hash : Option String}
    (hconfig : s.configDir = some hash)
    (havailable : (s.strictConfigHash && s.configDir.isSome && s.expectedConfigHash.isNone) = false) :
    (∃ evidence, evidenceEntry py s file = some (key, evidence)) ↔
      file.Names py key ∧ file.Passes py s.withoutEmptyCommit := by
  unfold evidenceEntry ValidationFile.Names ValidationFile.Passes
  cases file.data with
  | none => simp
  | some data =>
    have hpasses : routeValidationRejectionReason py s.withoutEmptyCommit data = none ↔ _ :=
      rejectionReason_eq_none_iff data hconfig
    simp only [havailable, true_and] at hpasses
    simp only [Option.some.injEq, exists_eq_left', hpasses]
    split_ifs with hcommit hhash hvalid
    · simp [hcommit]
    · simp [hhash]
    · simp [show liveValidationArtifactValid py data = false by simpa using hvalid]
    · simp only [map_prodMk_eq_some, exists_and_left, exists_eq', and_true]
      simp_all

theorem statusEntry_eq_some {file : ValidationFile} {status : RouteValidationStatus} :
    statusEntry py s file = some (key, status) ↔ ∃ data, file.data = some data ∧
      namedKey py data = some key ∧ statusOf py s file data = status := by
  unfold statusEntry
  cases file.data with
  | none => simp
  | some data => simp only [map_prodMk_eq_some, Option.some.injEq, exists_eq_left']

theorem exists_statusEntry {file : ValidationFile} :
    (∃ status, statusEntry py s file = some (key, status)) ↔ file.Names py key := by
  simp only [statusEntry_eq_some, ValidationFile.Names]
  constructor
  · rintro ⟨_, data, hdata, hkey, -⟩
    exact ⟨data, hdata, hkey⟩
  · rintro ⟨data, hdata, hkey⟩
    exact ⟨_, data, hdata, hkey, rfl⟩

theorem mem_validatedRouteKeys {hash : Option String} (hconfig : s.configDir = some hash) :
    key ∈ validatedRouteKeys py s files ↔
      ∃ file ∈ files, file.Names py key ∧ file.Passes py s.withoutEmptyCommit := by
  unfold validatedRouteKeys loadRouteValidationEvidence
  split_ifs with havailable
  · refine iff_of_false (by simp) ?_
    rintro ⟨file, -, -, data, -, hpasses⟩
    rw [rejectionReason_eq_none_iff data hconfig, havailable] at hpasses
    cases hpasses.1
  · replace havailable : (s.strictConfigHash && s.configDir.isSome && s.expectedConfigHash.isNone) =
        false := eq_false_of_ne_true havailable
    rw [FirstWins.mem_keys_scan]
    simp only [exists_evidenceEntry hconfig havailable, (newestFirst_perm files).mem_iff]

theorem statusAccepted_iff (hdistinct : (files.map (·.mtime)).Nodup) :
    StatusAccepted py s files key ↔
      ∃ file : ValidationFile, file.Newest py files key ∧ file.Passes py s := by
  unfold StatusAccepted loadRouteValidationStatuses
  simp only [FirstWins.lookup_scan_of_sorted (newestFirst_sorted hdistinct), exists_statusEntry,
    (newestFirst_perm files).mem_iff]
  constructor
  · rintro ⟨status, ⟨file, hmem, hentry, hnewest⟩, haccepted⟩
    obtain ⟨data, hdata, hkey, rfl⟩ := statusEntry_eq_some.mp hentry
    exact ⟨file, ⟨hmem, ⟨data, hdata, hkey⟩, hnewest⟩, data, hdata, by simpa [statusOf] using haccepted⟩
  · rintro ⟨file, ⟨hmem, ⟨data, hdata, hkey⟩, hnewest⟩, data', hdata', hpasses⟩
    obtain rfl : data = data' := Option.some.inj (hdata.symm.trans hdata')
    exact ⟨_, ⟨file, hmem, statusEntry_eq_some.mpr ⟨data, hdata, hkey, rfl⟩, hnewest⟩,
      by simp [statusOf, hpasses]⟩

theorem lookup_loadRouteValidationStatuses :
    (loadRouteValidationStatuses py s files).lookup key =
      (latestFor py files key).bind fun file => file.data.map (statusOf py s file) := by
  have hkey : ∀ file : ValidationFile, (statusEntry py s file).map Prod.fst = file.key py := by
    intro file
    unfold statusEntry ValidationFile.key
    cases file.data with
    | none => rfl
    | some data => cases hnamed : namedKey py data <;> simp [hnamed]
  unfold loadRouteValidationStatuses latestFor
  rw [FirstWins.lookup_scan, FirstWins.lookup_filterMap]
  simp only [hkey]
  refine Option.bind_congr fun file hfile => ?_
  have hfound : file.key py = some key := by simpa using List.find?_some hfile
  unfold statusEntry
  unfold ValidationFile.key at hfound
  cases hdata : file.data with
  | none => rfl
  | some data =>
    rw [hdata, Option.bind_some] at hfound
    simp [hfound]

/-- The file that a key is decided by decides whether its status is accepted. -/
theorem statusAccepted_iff_latestFor : StatusAccepted py s files key ↔
    ∃ file, latestFor py files key = some file ∧ file.Passes py s := by
  unfold StatusAccepted ValidationFile.Passes
  rw [lookup_loadRouteValidationStatuses]
  cases latestFor py files key with
  | none => simp
  | some file => cases file.data <;> simp [statusOf]

/-- A key is validated when some artifact that names it passes; its status is accepted when the newest
one does, and then it is validated. -/
theorem validatedRouteKeys_iff_exists (py : Builtins) (commit hash : Option String) (strict : Bool)
    (files : List ValidationFile) (hdistinct : (files.map (·.mtime)).Nodup)
    (key : RouteValidationKey) :
    (key ∈ validatedRouteKeys py ⟨commit, some hash, strict⟩ files ↔
      ∃ file ∈ files, file.Names py key ∧
        file.Passes py (ValidationSettings.withoutEmptyCommit ⟨commit, some hash, strict⟩)) ∧
    (StatusAccepted py ⟨commit, some hash, strict⟩ files key ↔
      ∃ file : ValidationFile, file.Newest py files key ∧
        file.Passes py ⟨commit, some hash, strict⟩) ∧
    (StatusAccepted py ⟨commit, some hash, strict⟩ files key →
      key ∈ validatedRouteKeys py ⟨commit, some hash, strict⟩ files) := by
  refine ⟨mem_validatedRouteKeys rfl, statusAccepted_iff hdistinct, fun haccepted => ?_⟩
  obtain ⟨file, hnewest, data, hdata, hpasses⟩ := (statusAccepted_iff hdistinct).mp haccepted
  exact (mem_validatedRouteKeys rfl).mpr
    ⟨file, hnewest.mem, hnewest.names, data, hdata, rejectionReason_withoutEmptyCommit hpasses⟩

/-- Python on the artifacts below: the digest is that of their contract. -/
def artifactBuiltins : Builtins where
  repr _ := ""
  numberEq left right := left = right
  sha256 _ := "23d7e2c78809b16aed558755baa0f7f6bbe314c6af3766d22ef485b5cf5d51e0"

def artifactContract : List (String × Json) :=
  [("adapter", .str "modal"), ("endpoint_contract", .str "modal-function"),
    ("expected_endpoint_contract", .str "modal-function"), ("output_contract", .str "plain-text"),
    ("expected_output_contract", .str "plain-text"), ("official_sources", .arr [.str "worker source"])]

/-- An artifact of one route. -/
def artifact (passed : Bool) : Dict Json where
  entries :=
    [("tuple", .str "modal-h100"), ("recipe", .str "text-infer-standard"), ("mode", .str "sync"),
      ("started_at", .str "2026-01-01T00:00:00+00:00"), ("ended_at", .str "2026-01-01T00:00:01+00:00"),
      ("commit", .str "c0ffee"), ("config_hash", .str "5eed"), ("governance_hash", .str "ab1e"),
      ("validation_schema_version", .number "1"), ("passed", .bool passed), ("cleanup", .obj []),
      ("cost", .obj []), ("audit", .obj []), ("official_contract", .obj artifactContract),
      ("official_contract_hash",
        .str "23d7e2c78809b16aed558755baa0f7f6bbe314c6af3766d22ef485b5cf5d51e0")]
  nodup := by cases passed <;> decide

/-- The route fails after it has passed. -/
def failedAfterPassed : List ValidationFile :=
  [{ path := "old.json", mtime := 1, data := some (artifact true) },
    { path := "new.json", mtime := 2, data := some (artifact false) }]

theorem validatedRouteKeys_iff_exists_passed :
    ("modal-h100", "text-infer-standard", "sync") ∈ validatedRouteKeys artifactBuiltins
      ⟨some "c0ffee", some (some "5eed"), true⟩ failedAfterPassed := by
  refine (validatedRouteKeys_iff_exists artifactBuiltins (some "c0ffee") (some "5eed") true
    failedAfterPassed (by decide +kernel) _).1.mpr ?_
  exact ⟨_, List.mem_cons_self, ⟨artifact true, rfl, by decide +kernel⟩, artifact true, rfl,
    by decide +kernel⟩

/-- The compiler routes on a key whose newest artifact has failed. -/
theorem not_latestValidationDecides :
    ¬ ∀ (commit hash : Option String) (strict : Bool) (files : List ValidationFile),
      (files.map (·.mtime)).Nodup → ∀ key,
      (key ∈ validatedRouteKeys artifactBuiltins ⟨commit, some hash, strict⟩ files ↔
        StatusAccepted artifactBuiltins ⟨commit, some hash, strict⟩ files key) := by
  intro h
  obtain ⟨file, hnewest, data, hdata, hpasses⟩ := (statusAccepted_iff (by decide +kernel)).mp
    ((h (some "c0ffee") (some "5eed") true failedAfterPassed (by decide +kernel)
      ("modal-h100", "text-infer-standard", "sync")).mp
      ((mem_validatedRouteKeys rfl).mpr ⟨_, List.mem_cons_self, ⟨artifact true, rfl, by decide +kernel⟩,
        artifact true, rfl, by decide +kernel⟩))
  have hmem := hnewest.mem
  have hle := hnewest.newest { path := "new.json", mtime := 2, data := some (artifact false) }
    (by simp [failedAfterPassed]) ⟨artifact false, rfl, by decide +kernel⟩
  simp only [failedAfterPassed, List.mem_cons, List.not_mem_nil, or_false] at hmem
  obtain rfl | rfl := hmem
  · norm_num at hle
  · obtain rfl := Option.some.inj hdata
    revert hpasses
    decide +kernel

end Gpucall
