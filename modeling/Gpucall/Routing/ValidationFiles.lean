import Gpucall.DateTime
import Gpucall.Routing.ValidationEvidence

/-! The loaders of `validation_evidence.py` on any files. Reading and decoding a file is guarded, and what is done
with the value is not: a text that is JSON without being an object has no `get`. -/

namespace Gpucall

variable (py : Builtins)

/-- What the loaders may raise. -/
inductive LoaderError where
  | attributeError
  | typeError
  | valueError
  deriving DecidableEq

/-- A file `*.json` whose modification time can be read. Its bytes may be unreadable. -/
structure RawFile where
  path : String
  mtime : ℚ
  content : Option (List UInt8)

/-- The directory of the artifacts, if it exists: its files, in the order of `glob`. -/
abbrev ValidationDir := Option (List RawFile)

/-- `json.loads` of the text of a file, or none if it raises. -/
def RawFile.value (json : List UInt8 → Option Json) (file : RawFile) : Option Json := file.content.bind json

/-! ## Decoded values -/

/-- The dictionary whose `get` is called. -/
def mappingOf : Json → Except LoaderError (Dict Json)
  | .obj fields => .ok (.ofFields fields)
  | _ => .error .attributeError

/-- `required - set(data)`, sorted -/
def missingFields : Json → Except LoaderError (List String)
  | .obj fields => .ok (requiredValidationFields.filter fun field => ((Dict.ofFields fields).get? field).isNone)
  | .arr items =>
    -- lists and dictionaries have no hash
    if items.any fun item => item matches .arr _ | .obj _ then .error .typeError
    else .ok (requiredValidationFields.filter fun field =>
      !items.any fun item => match item with
        | .str text => text = field
        | _ => false)
  | .str text => .ok (requiredValidationFields.filter fun field =>
      !text.toList.any fun c => String.singleton c = field)
  | _ => .error .typeError

/-- `route_validation_rejection_reason` of a decoded value -/
def valueRejectionReason (s : ValidationSettings) (data : Json) : Except LoaderError (Option String) := do
  let missing ← missingFields data
  if !missing.isEmpty then return some ("missing_validation_fields:" ++ joinStr "," missing)
  if s.expectedCommit.isNone && s.strictConfigHash && s.configDir.isSome && s.expectedConfigHash.isNone then
    return some "expected_config_hash_unavailable"
  return routeValidationRejectionReason py s (← mappingOf data)

/-- The settings of `live_validation_artifact_valid` -/
def ValidationSettings.unchecked : ValidationSettings where
  expectedCommit := none
  configDir := none
  strictConfigHash := false

/-- `datetime.fromtimestamp(mtime, timezone.utc)`, or none if the year is out of range -/
def fromtimestamp (mtime : ℚ) : Option DateTime :=
  DateTime.ofMicroseconds? (DateTime.toMicroseconds { year := 1970, month := 1, day := 1 } +
    DateTime.timedeltaMicroseconds mtime)

def checkTimestamp (file : RawFile) : Except LoaderError Unit :=
  if (fromtimestamp file.mtime).isSome then .ok () else .error .valueError

/-! ## The loaders -/

section Loaders

variable (json : List UInt8 → Option Json) (s : ValidationSettings)

/-- One round of the loop in `load_route_validation_evidence` -/
def readRouteEvidence (file : RawFile) : Except LoaderError (Option (RouteValidationKey × RouteValidationEvidence)) :=
  match file.value json with
  | none => return none
  | some data => do
    if truthyStr s.expectedCommit then
      if !equalsText py ((← mappingOf data).get? "commit") s.expectedCommit then return none
    if s.strictConfigHash then
      if !equalsText py ((← mappingOf data).get? "config_hash") s.expectedConfigHash then return none
    if (← valueRejectionReason py .unchecked data).isSome then return none
    let mapping ← mappingOf data
    return (namedKey py mapping).map fun key => (key, { path := file.path, mtime := file.mtime, data := mapping })

/-- One round of the loop in `load_route_validation_statuses` -/
def readRouteStatus (file : RawFile) : Except LoaderError (Option (RouteValidationKey × RouteValidationStatus)) :=
  match file.value json with
  | none => return none
  | some data => do
    let mapping ← mappingOf data
    match namedKey py mapping with
    | none => return none
    | some key =>
      let reason ← valueRejectionReason py s data
      return some (key, { path := file.path, mtime := file.mtime, accepted := reason.isNone, reason, data := mapping })

namespace ValidationDir

def sorted (files : List RawFile) : List RawFile := files.insertionSort fun a b => b.mtime ≤ a.mtime

def loadRouteValidationEvidence :
    ValidationDir → Except LoaderError (List (RouteValidationKey × RouteValidationEvidence))
  | none => .ok []
  | some files =>
    if s.strictConfigHash && s.configDir.isSome && s.expectedConfigHash.isNone then .ok []
    else FirstWins.tryScan (readRouteEvidence py json s) checkTimestamp (sorted files)

def loadRouteValidationStatuses :
    ValidationDir → Except LoaderError (List (RouteValidationKey × RouteValidationStatus))
  | none => .ok []
  | some files => FirstWins.tryScan (readRouteStatus py json s) checkTimestamp (sorted files)

end ValidationDir

/-! ## What one file does to the others -/

/-- The directory without the files that hold no JSON object. -/
def ValidationDir.objects (dir : ValidationDir) : ValidationDir :=
  dir.map (List.filter fun file => isObject (file.value json))

/-- The loaders return, and what they return is what they return on the JSON objects of the directory. -/
structure ValidationDir.HidesNothing (dir : ValidationDir) : Prop where
  evidence : ∃ entries, dir.loadRouteValidationEvidence py json s = .ok entries ∧
    (dir.objects json).loadRouteValidationEvidence py json s = .ok entries
  statuses : ∃ entries, dir.loadRouteValidationStatuses py json s = .ok entries ∧
    (dir.objects json).loadRouteValidationStatuses py json s = .ok entries

/-- What can be decoded is an object. -/
def ValidationDir.OnlyObjects (dir : ValidationDir) : Prop :=
  ∀ file ∈ dir.getD [], ∀ data, file.value json = some data → isObject (some data) = true

/-- The file, which holds an object or nothing. -/
def RawFile.validationFile (file : RawFile) : ValidationFile where
  path := file.path
  mtime := file.mtime
  data := match file.value json with
    | some (.obj fields) => some (.ofFields fields)
    | _ => none

def ValidationDir.files (dir : ValidationDir) : List ValidationFile :=
  (dir.getD []).map (RawFile.validationFile json)

/-- `load_route_validation_evidence` takes the file. -/
def ValidationFile.taken (file : ValidationFile) : Bool :=
  !(s.strictConfigHash && s.configDir.isSome && s.expectedConfigHash.isNone) && file.data.any fun data =>
    !(truthyStr s.expectedCommit && !equalsText py (data.get? "commit") s.expectedCommit) &&
      !(s.strictConfigHash && !equalsText py (data.get? "config_hash") s.expectedConfigHash) &&
      liveValidationArtifactValid py data

/-- The newest file that names the key, and the newest one that is taken besides, are of a year that a `datetime`
can have. -/
structure ValidationDir.Dated (dir : ValidationDir) : Prop where
  statuses : ∀ key file, latestFor py (dir.files json) key = some file → (fromtimestamp file.mtime).isSome
  evidence : ∀ key file, (newestFirst (dir.files json)).find? (fun file =>
    file.key py == some key && file.taken py s) = some file → (fromtimestamp file.mtime).isSome

end Loaders

variable {py} {json : List UInt8 → Option Json} {s : ValidationSettings} {file : RawFile} {dir : ValidationDir}

/-! ## One round -/

@[simp] theorem validationFile_mtime : (file.validationFile json).mtime = file.mtime := rfl

theorem checkTimestamp_eq_ok : checkTimestamp file = .ok () ↔ (fromtimestamp file.mtime).isSome := by
  unfold checkTimestamp
  split_ifs with h <;> simp [h]

theorem isObject_eq_true {data : Option Json} : isObject data = true ↔ ∃ fields, data = some (.obj fields) := by
  match data with
  | some (.obj fields) => exact iff_of_true rfl ⟨fields, rfl⟩
  | none | some .null | some (.bool _) | some (.number _) | some (.str _) | some (.arr _) =>
    simp [isObject]

theorem missingFields_obj (fields : List (String × Json)) : missingFields (.obj fields) =
    .ok (requiredValidationFields.filter fun field => ((Dict.ofFields fields).get? field).isNone) := rfl

/-- A JSON object has a reason or none, as the reason of its dictionary. -/
theorem valueRejectionReason_obj (fields : List (String × Json)) :
    valueRejectionReason py s (.obj fields) = .ok (routeValidationRejectionReason py s (.ofFields fields)) := by
  unfold valueRejectionReason
  rw [missingFields_obj, Fallible.ok_bind, mappingOf, Fallible.ok_bind]
  unfold routeValidationRejectionReason
  split_ifs <;> simp_all [pure, Except.pure]

theorem readRouteEvidence_eq (py : Builtins) (s : ValidationSettings)
    (h : ∀ data, file.value json = some data → isObject (some data) = true) :
    readRouteEvidence py json s file = .ok (evidenceEntry py s (file.validationFile json)) := by
  unfold readRouteEvidence evidenceEntry RawFile.validationFile
  cases hvalue : file.value json with
  | none => rfl
  | some data =>
    obtain ⟨fields, hfields⟩ := isObject_eq_true.mp (h data hvalue)
    obtain rfl := Option.some.inj hfields
    simp only [mappingOf, valueRejectionReason_obj, Fallible.ok_bind]
    have hvalid : (routeValidationRejectionReason py .unchecked (.ofFields fields)).isSome =
        !liveValidationArtifactValid py (.ofFields fields) := by
      rw [← Option.not_isNone]
      rfl
    rw [hvalid]
    split_ifs <;> simp_all [pure, Except.pure]

theorem readRouteStatus_eq (py : Builtins) (s : ValidationSettings)
    (h : ∀ data, file.value json = some data → isObject (some data) = true) :
    readRouteStatus py json s file = .ok (statusEntry py s (file.validationFile json)) := by
  unfold readRouteStatus statusEntry RawFile.validationFile
  cases hvalue : file.value json with
  | none => rfl
  | some data =>
    obtain ⟨fields, hfields⟩ := isObject_eq_true.mp (h data hvalue)
    obtain rfl := Option.some.inj hfields
    simp only [mappingOf, valueRejectionReason_obj, Fallible.ok_bind]
    cases namedKey py (.ofFields fields) <;> rfl

/-! ## The loaders on objects -/

theorem map_sorted (files : List RawFile) :
    (ValidationDir.sorted files).map (RawFile.validationFile json) =
      newestFirst (files.map (RawFile.validationFile json)) :=
  List.map_insertionSort _ _ _ _ fun _ _ _ _ => Iff.rfl

theorem mem_sorted {files : List RawFile} : file ∈ ValidationDir.sorted files ↔ file ∈ files :=
  List.mem_insertionSort _

theorem filter_sorted (p : RawFile → Bool) (files : List RawFile) :
    (ValidationDir.sorted files).filter p = ValidationDir.sorted (files.filter p) := by
  have : Std.Total fun a b : RawFile => b.mtime ≤ a.mtime := ⟨fun a b => le_total _ _⟩
  have : IsTrans RawFile fun a b => b.mtime ≤ a.mtime := ⟨fun _ _ _ h h' => h'.trans h⟩
  exact FirstWins.filter_insertionSort _ p files

/-- A scan of files that hold objects or nothing succeeds when the first file of each key can be dated. -/
theorem isOk_scan_iff {β : Type} {entry : ValidationFile → Option (RouteValidationKey × β)}
    {read : RawFile → Except LoaderError (Option (RouteValidationKey × β))} {files : List RawFile}
    (hread : ∀ file ∈ files, read file = .ok (entry (file.validationFile json))) :
    (∃ entries, FirstWins.tryScan read checkTimestamp (ValidationDir.sorted files) = .ok entries) ↔
      ∀ key file, (newestFirst (files.map (RawFile.validationFile json))).find?
        (fun file => (entry file).map Prod.fst == some key) = some file → (fromtimestamp file.mtime).isSome := by
  have hsorted : ∀ file ∈ ValidationDir.sorted files, read file = .ok (entry (file.validationFile json)) :=
    fun file hfile => hread file (mem_sorted.mp hfile)
  simp only [FirstWins.tryScan_eq_ok hsorted, exists_and_left, exists_eq', and_true, checkTimestamp_eq_ok,
    ← map_sorted, List.find?_map, Option.map_eq_some_iff, forall_exists_index, and_imp, Function.comp_def]
  refine forall_congr' fun key => ⟨?_, fun hall file hfile => ?_⟩
  · rintro hall _ file hfile rfl
    exact hall file hfile
  · exact hall (file.validationFile json) file hfile rfl

theorem taken_iff {file : ValidationFile} {key : RouteValidationKey}
    (havailable : (s.strictConfigHash && s.configDir.isSome && s.expectedConfigHash.isNone) = false) :
    ((evidenceEntry py s file).map Prod.fst == some key) = (file.key py == some key && file.taken py s) := by
  unfold evidenceEntry ValidationFile.key ValidationFile.taken
  rw [havailable]
  cases file.data with
  | none => rfl
  | some data =>
    simp only [Option.bind_some, Option.any_some]
    generalize (truthyStr s.expectedCommit && !equalsText py (data.get? "commit") s.expectedCommit) = commit
    generalize (s.strictConfigHash && !equalsText py (data.get? "config_hash") s.expectedConfigHash) = hash
    generalize liveValidationArtifactValid py data = valid
    cases commit <;> cases hash <;> cases valid <;> simp [Function.comp_def]

theorem statusEntry_key {file : ValidationFile} : (statusEntry py s file).map Prod.fst = file.key py := by
  unfold statusEntry ValidationFile.key
  cases file.data with
  | none => rfl
  | some data => simp only [Option.map_map, Option.bind_some, Function.comp_def, Option.map_id']

/-! ## The directory -/

theorem objects_eq (h : dir.OnlyObjects json) {file : RawFile} (hfile : file ∈ dir.getD [])
    (hobject : isObject (file.value json) = false) : file.value json = none := by
  cases hvalue : file.value json with
  | none => rfl
  | some data =>
    rw [hvalue, h file hfile data hvalue] at hobject
    cases hobject

theorem loadEvidence_objects (h : dir.OnlyObjects json) :
    (dir.objects json).loadRouteValidationEvidence py json s = dir.loadRouteValidationEvidence py json s := by
  cases dir with
  | none => rfl
  | some files =>
    simp only [ValidationDir.objects, Option.map_some, ValidationDir.loadRouteValidationEvidence]
    rw [← filter_sorted, FirstWins.tryScan_filter]
    intro file hfile hobject
    rw [readRouteEvidence, objects_eq h (mem_sorted.mp hfile) hobject]
    rfl

theorem loadStatuses_objects (h : dir.OnlyObjects json) :
    (dir.objects json).loadRouteValidationStatuses py json s = dir.loadRouteValidationStatuses py json s := by
  cases dir with
  | none => rfl
  | some files =>
    simp only [ValidationDir.objects, Option.map_some, ValidationDir.loadRouteValidationStatuses]
    rw [← filter_sorted, FirstWins.tryScan_filter]
    intro file hfile hobject
    rw [readRouteStatus, objects_eq h (mem_sorted.mp hfile) hobject]
    rfl

theorem isOk_loadEvidence (h : dir.OnlyObjects json) :
    (∃ entries, dir.loadRouteValidationEvidence py json s = .ok entries) ↔
      ∀ key file, (newestFirst (dir.files json)).find? (fun file =>
        file.key py == some key && file.taken py s) = some file → (fromtimestamp file.mtime).isSome := by
  cases dir with
  | none => simp [ValidationDir.loadRouteValidationEvidence, ValidationDir.files, newestFirst]
  | some files =>
    unfold ValidationDir.loadRouteValidationEvidence
    cases havailable : s.strictConfigHash && s.configDir.isSome && s.expectedConfigHash.isNone with
    | true =>
      refine iff_of_true ⟨[], rfl⟩ fun key file hfile => ?_
      have htaken := List.find?_some hfile
      simp [ValidationFile.taken, havailable] at htaken
    | false =>
      have hscan := isOk_scan_iff fun file hfile => readRouteEvidence_eq py s (h file hfile)
      simp only [taken_iff havailable] at hscan
      exact hscan

theorem isOk_loadStatuses (h : dir.OnlyObjects json) :
    (∃ entries, dir.loadRouteValidationStatuses py json s = .ok entries) ↔
      ∀ key file, latestFor py (dir.files json) key = some file → (fromtimestamp file.mtime).isSome := by
  cases dir with
  | none => simp [ValidationDir.loadRouteValidationStatuses, ValidationDir.files, latestFor, newestFirst]
  | some files =>
    have hscan := isOk_scan_iff fun file hfile => readRouteStatus_eq py s (h file hfile)
    simp only [statusEntry_key] at hscan
    exact hscan

/-- A value without `get` is not read. -/
theorem onlyObjects_of_statuses {entries : List (RouteValidationKey × RouteValidationStatus)}
    (h : dir.loadRouteValidationStatuses py json s = .ok entries) : dir.OnlyObjects json := by
  intro file hfile data hdata
  cases dir with
  | none => cases hfile
  | some files =>
    obtain ⟨found, hfound⟩ := FirstWins.exists_read_of_foldlM h file (mem_sorted.mpr hfile)
    rw [readRouteStatus, hdata] at hfound
    obtain ⟨mapping, hmapping, -⟩ := Fallible.bind_eq_ok.mp hfound
    cases data with
    | obj fields => rfl
    | _ => cases hmapping

/-- The loaders go through the files one by one exactly when what can be decoded is an object, and the files that
they enter have a date. -/
theorem hidesNothing_iff (py : Builtins) (json : List UInt8 → Option Json) (s : ValidationSettings)
    (dir : ValidationDir) :
    dir.HidesNothing py json s ↔ dir.OnlyObjects json ∧ dir.Dated py json s := by
  constructor
  · rintro ⟨⟨evidence, hevidence, -⟩, statuses, hstatuses, -⟩
    have hobjects := onlyObjects_of_statuses hstatuses
    exact ⟨hobjects, (isOk_loadStatuses hobjects).mp ⟨_, hstatuses⟩,
      (isOk_loadEvidence hobjects).mp ⟨_, hevidence⟩⟩
  · rintro ⟨hobjects, hdated⟩
    obtain ⟨evidence, hevidence⟩ := (isOk_loadEvidence hobjects).mpr hdated.evidence
    obtain ⟨statuses, hstatuses⟩ := (isOk_loadStatuses hobjects).mpr hdated.statuses
    exact ⟨⟨evidence, hevidence, (loadEvidence_objects hobjects).trans hevidence⟩,
      statuses, hstatuses, (loadStatuses_objects hobjects).trans hstatuses⟩

/-- `json.loads` on the two files below -/
def listOrArtifact (bytes : List UInt8) : Option Json :=
  if bytes = [91, 93] then some (.arr []) else if bytes = [123, 125] then some (.obj []) else none

/-- An artifact, and the text `[]` -/
def emptyListBeside : ValidationDir :=
  some [{ path := "modal.json", mtime := 1767225600, content := some [123, 125] },
    { path := "list.json", mtime := 1767225601, content := some [91, 93] }]

/-- Both loaders raise on an empty list, and nothing of the directory is read. -/
theorem not_hidesNothing_list :
    emptyListBeside.loadRouteValidationEvidence artifactBuiltins listOrArtifact ⟨some "c0ffee", none, false⟩ =
        .error .attributeError ∧
      emptyListBeside.loadRouteValidationStatuses artifactBuiltins listOrArtifact ⟨some "c0ffee", none, false⟩ =
        .error .attributeError ∧
      ¬ emptyListBeside.HidesNothing artifactBuiltins listOrArtifact ⟨some "c0ffee", none, false⟩ := by
  have hraises : emptyListBeside.loadRouteValidationStatuses artifactBuiltins listOrArtifact
      ⟨some "c0ffee", none, false⟩ = .error .attributeError := rfl
  refine ⟨rfl, hraises, fun h => ?_⟩
  obtain ⟨entries, hentries, -⟩ := h.statuses
  rw [hraises] at hentries
  cases hentries

end Gpucall
