import Gpucall.Routing.ValidationEvidence

/-! `_matching_live_validation` of `recipe_admin.py`: the artifacts that a review of a recipe takes for
live validation, compared with the routes that the router has validated. -/

namespace Gpucall

variable (py : Builtins) (env : Environment)

/-! ## Evidence keys -/

def accountRefForSpec (spec : ExecutionTupleSpec) : String :=
  if truthyStr spec.accountRef then spec.accountRef.getD ""
  else vendorFamilyForAdapter env spec.adapter

/-- The payload that both keys are the hash of. -/
def evidencePayload (accountRef executionSurface endpointContract outputContract streamContract modelRef
    engineRef : Json) (target : Bool) : List (String × Json) :=
  [("account_ref", accountRef), ("execution_surface", executionSurface),
    ("endpoint_contract", endpointContract), ("output_contract", outputContract),
    ("stream_contract", streamContract), ("model_ref", modelRef), ("engine_ref", engineRef),
    ("target", .bool target)]

/-- A text or `None` -/
def textOrNull (value : Option String) : Json := (value.map Json.str).getD .null

/-- `left or right` -/
def jsonOr (left right : Option Json) : Json := ((left.filter Json.truthy).or right).getD .null

def tupleEvidenceKey (spec : ExecutionTupleSpec) : String :=
  officialContractHash py (evidencePayload (.str (accountRefForSpec env spec))
    (textOrNull (spec.executionSurface.map (·.value))) (textOrNull spec.endpointContract)
    (textOrNull spec.outputContract) (.str spec.streamContract) (textOrNull spec.modelRef)
    (textOrNull spec.engineRef) (isConfiguredTarget env spec.target))

def artifactTupleEvidenceKey (data : Dict Json) (tuple : ExecutionTupleSpec) : Option String :=
  let contract : List (String × Json) := match data.get? "official_contract" with
    | some (.obj contract) => contract
    | _ => []
  if contract.isEmpty then none
  else
    let get (name : String) : Json := (contract.lookup name).getD .null
    some (officialContractHash py (evidencePayload
      (jsonOr (contract.lookup "account_ref") (some (.str (accountRefForSpec env tuple))))
      (get "execution_surface") (get "endpoint_contract") (get "output_contract")
      (get "stream_contract") (jsonOr (data.get? "model_ref") (contract.lookup "model_ref"))
      (jsonOr (data.get? "engine_ref") (contract.lookup "engine_ref"))
      (isConfiguredTarget env tuple.target)))

/-! ## The review -/

/-- What `json.loads` makes of the text of a file. -/
inductive ArtifactRoot where
  | unreadable
  | object (data : Dict Json)
  | other

/-- A file `*.json` of the validation directory. -/
structure ArtifactFile where
  path : String
  mtime : ℚ
  root : ArtifactRoot

def ArtifactRoot.data : ArtifactRoot → Option (Dict Json)
  | .object data => some data
  | _ => none

/-- The file as the loaders of the router read it. -/
def ArtifactFile.validationFile (file : ArtifactFile) : ValidationFile where
  path := file.path
  mtime := file.mtime
  data := file.root.data

structure LiveMatch where
  path : String
  tuple : Option Json
  recipe : Option Json
  mode : Option Json
  tupleKey : String

structure LiveValidation where
  matched : List LiveMatch := []
  checked : ℕ := 0
  missingForTuples : List String
  reason : Option String := none

/-- `{tuple_evidence_key(tuple): tuple for tuple in tuples}` -/
def providerKeys (tuples : List ExecutionTupleSpec) : Dict ExecutionTupleSpec :=
  tuples.foldl (fun keys tuple => keys.set (tupleEvidenceKey py env tuple) tuple) {}

/-- The loop that looks for `matched_key`. -/
def matchedKey (tuples : List ExecutionTupleSpec) (data : Dict Json) : Option String :=
  (providerKeys py env tuples).entries.findSome? fun (key, tuple) =>
    if artifactTupleEvidenceKey py env data tuple = some key then some key else none

/-- One round of the loop over the directory: what it appends, if it does not `continue`. -/
def liveMatch (s : ValidationSettings) (recipeName : String) (tuples : List ExecutionTupleSpec)
    (path : String) (data : Dict Json) : Option LiveMatch :=
  if !optEq py (data.get? "validation_schema_version") (some (.number "1")) ||
      !(data.get? "passed" matches some (.bool true)) then none
  else if !equalsText py (data.get? "recipe") (some recipeName) then none
  else
    match matchedKey py env tuples data with
    | none => none
    | some key =>
      if truthyStr s.expectedConfigHash &&
          !equalsText py (data.get? "config_hash") s.expectedConfigHash then none
      else if truthyStr s.expectedCommit && !equalsText py (data.get? "commit") s.expectedCommit then
        none
      else
        some { path, tuple := data.get? "tuple", recipe := data.get? "recipe",
               mode := data.get? "mode", tupleKey := key }

/-- `sorted(root.glob("*.json"), key=.., reverse=True)` -/
def newestArtifactsFirst (files : List ArtifactFile) : List ArtifactFile :=
  files.insertionSort fun a b => b.mtime ≤ a.mtime

/-- `_matching_live_validation`. There is no directory when `dir` is `none`; an artifact whose root is
no object has no `get`, and the review ends with an error. -/
def matchingLiveValidation (s : ValidationSettings) (recipeName : String)
    (tuples : List ExecutionTupleSpec) (dir : Option (List ArtifactFile)) : Option LiveValidation :=
  let keys := (providerKeys py env tuples).sortedKeys
  match dir with
  | none =>
    some { missingForTuples := keys, reason := some "validation artifact directory does not exist" }
  | some files =>
    if files.any (·.root matches .other) then none
    else
      let matched := (newestArtifactsFirst files).filterMap fun file =>
        file.root.data.bind (liveMatch py env s recipeName tuples file.path)
      some { matched, checked := files.length
             missingForTuples := keys.filter (· ∉ matched.map (·.tupleKey)) }

/-! ## What the review takes and what the router takes -/

/-- What the review asks of an artifact before it reports it under a key. -/
structure ReviewedArtifact (s : ValidationSettings) (recipeName : String)
    (tuples : List ExecutionTupleSpec) (data : Dict Json) (key : String) : Prop where
  schema : optEq py (data.get? "validation_schema_version") (some (.number "1")) = true
  passed : data.get? "passed" = some (.bool true)
  recipe : data.get? "recipe" = some (.str recipeName)
  key : matchedKey py env tuples data = some key
  configHash : truthyStr s.expectedConfigHash = true →
    equalsText py (data.get? "config_hash") s.expectedConfigHash = true
  commit : truthyStr s.expectedCommit = true →
    equalsText py (data.get? "commit") s.expectedCommit = true

/-- What the router asks of an artifact before it routes on a key. -/
structure RoutedArtifact (s : ValidationSettings) (key : RouteValidationKey) (data : Dict Json) :
    Prop where
  names : namedKey py data = some key
  fields : ∀ field ∈ requiredValidationFields, data.get? field ≠ none
  schema : optEq py (data.get? "validation_schema_version") (some (.number "1")) = true
  passed : data.get? "passed" = some (.bool true)
  cleanup : isObject (data.get? "cleanup") = true
  cost : isObject (data.get? "cost") = true
  audit : isObject (data.get? "audit") = true
  contract : ∃ contract, data.get? "official_contract" = some (.obj contract) ∧
    contractRejectionReason py (data.get? "official_contract_hash") contract = none
  available : s.strictConfigHash = true → s.configDir ≠ some none
  configHash : s.strictConfigHash = true →
    equalsText py (data.get? "config_hash") s.expectedConfigHash = true
  commit : truthyStr s.expectedCommit = true →
    equalsText py (data.get? "commit") s.expectedCommit = true

variable {py env} {s : ValidationSettings} {recipeName : String} {tuples : List ExecutionTupleSpec}

theorem liveMatch_eq_some {path : String} {data : Dict Json} {found : LiveMatch} :
    liveMatch py env s recipeName tuples path data = some found ↔
      ∃ key, ReviewedArtifact py env s recipeName tuples data key ∧
        found = { path, tuple := data.get? "tuple", recipe := data.get? "recipe",
                  mode := data.get? "mode", tupleKey := key } := by
  unfold liveMatch
  constructor
  · intro h
    cases hkey : matchedKey py env tuples data with
    | none =>
      simp only [hkey] at h
      split_ifs at h
    | some key =>
      simp only [hkey] at h
      split_ifs at h with hcontent hrecipe hhash hcommit
      rw [Bool.or_eq_true, not_or] at hcontent
      refine ⟨key, ⟨?_, ?_, ?_, hkey, ?_, ?_⟩, (Option.some.inj h).symm⟩
      · simpa using hcontent.1
      · replace hcontent := hcontent.2
        split at hcontent
        · assumption
        · simp at hcontent
      · exact equalsText_some.mp (by simpa using hrecipe)
      · simpa using hhash
      · simpa using hcommit
  · rintro ⟨key, h, rfl⟩
    rw [if_neg, if_neg]
    · simp only [h.key]
      rw [if_neg, if_neg]
      · simpa using h.commit
      · simpa using h.configHash
    · simpa using equalsText_some.mpr h.recipe
    · simp [h.schema, h.passed]

theorem routedArtifact_iff {key : RouteValidationKey} {data : Dict Json} :
    RoutedArtifact py s key data ↔ namedKey py data = some key ∧
      liveValidationArtifactValid py data = true ∧
      (s.strictConfigHash && s.configDir.isSome && s.expectedConfigHash.isNone) = false ∧
      (s.strictConfigHash && !equalsText py (data.get? "config_hash") s.expectedConfigHash) = false ∧
      (truthyStr s.expectedCommit && !equalsText py (data.get? "commit") s.expectedCommit) = false := by
  have havailable : (s.strictConfigHash && s.configDir.isSome && s.expectedConfigHash.isNone) = false ↔
      (s.strictConfigHash = true → s.configDir ≠ some none) := by
    unfold ValidationSettings.expectedConfigHash
    rcases s.configDir with - | - | hash <;> simp
  rw [havailable, liveValidationArtifactValid_iff, contentRejectionReason_eq_none]
  constructor
  · rintro ⟨hnames, hfields, hschema, hpassed, hcleanup, hcost, haudit, hcontract, hdir, hhash, hcommit⟩
    exact ⟨hnames, ⟨hfields, hschema, hpassed, hcleanup, hcost, haudit, hcontract⟩, hdir,
      by simpa using hhash, by simpa using hcommit⟩
  · rintro ⟨hnames, ⟨hfields, hschema, hpassed, hcleanup, hcost, haudit, hcontract⟩, hdir, hhash,
      hcommit⟩
    exact ⟨hnames, hfields, hschema, hpassed, hcleanup, hcost, haudit, hcontract, hdir,
      by simpa using hhash, by simpa using hcommit⟩

theorem mem_validatedRouteKeys_iff {files : List ValidationFile} {key : RouteValidationKey} :
    key ∈ validatedRouteKeys py s files ↔
      ∃ file ∈ files, ∃ data, file.data = some data ∧ RoutedArtifact py s key data := by
  unfold validatedRouteKeys loadRouteValidationEvidence
  simp only [routedArtifact_iff]
  split_ifs with havailable
  · simp [havailable]
  · replace havailable := eq_false_of_ne_true havailable
    simp only [FirstWins.mem_keys_scan, (newestFirst_perm files).mem_iff]
    refine exists_congr fun file => and_congr_right fun _ => ?_
    unfold evidenceEntry
    cases file.data with
    | none => simp
    | some data =>
      simp only [Option.some.injEq, exists_eq_left']
      split_ifs with hcommit hhash hvalid
      · simp [hcommit]
      · simp [hhash]
      · simp [show liveValidationArtifactValid py data = false by simpa using hvalid]
      · simp only [map_prodMk_eq_some, exists_and_left, exists_eq', and_true]
        simp_all

@[simp] theorem ArtifactRoot.data_eq_some {root : ArtifactRoot} {data : Dict Json} :
    root.data = some data ↔ root = .object data := by
  cases root <;> simp [ArtifactRoot.data]

theorem mem_matched {files : List ArtifactFile} {result : LiveValidation} {found : LiveMatch}
    (hresult : matchingLiveValidation py env s recipeName tuples (some files) = some result) :
    found ∈ result.matched ↔ ∃ file ∈ files, ∃ data, file.root = .object data ∧
      liveMatch py env s recipeName tuples file.path data = some found := by
  simp only [matchingLiveValidation] at hresult
  split_ifs at hresult
  obtain rfl := Option.some.inj hresult
  have hperm : (newestArtifactsFirst files).Perm files := List.perm_insertionSort _ files
  simp only [List.mem_filterMap, Option.bind_eq_some_iff, hperm.mem_iff, ArtifactRoot.data_eq_some]

theorem matchingLiveValidation_of_other {files : List ArtifactFile}
    (h : ∃ file ∈ files, file.root = .other) :
    matchingLiveValidation py env s recipeName tuples (some files) = none := by
  obtain ⟨file, hfile, hroot⟩ := h
  simp only [matchingLiveValidation]
  rw [if_pos]
  exact List.any_eq_true.mpr ⟨file, hfile, by simp [hroot]⟩

theorem exists_matchingLiveValidation {files : List ArtifactFile}
    (h : ¬ ∃ file ∈ files, file.root = .other) :
    ∃ result, matchingLiveValidation py env s recipeName tuples (some files) = some result := by
  simp only [matchingLiveValidation]
  rw [if_neg]
  · exact ⟨_, rfl⟩
  · rw [List.any_eq_true]
    rintro ⟨file, hfile, hroot⟩
    apply h ⟨file, hfile, ?_⟩
    split at hroot
    · assumption
    · cases hroot

theorem mem_routed {files : List ArtifactFile} {key : RouteValidationKey} :
    key ∈ validatedRouteKeys py s (files.map ArtifactFile.validationFile) ↔
      ∃ file ∈ files, ∃ data, file.root = .object data ∧ RoutedArtifact py s key data := by
  rw [mem_validatedRouteKeys_iff]
  simp [ArtifactFile.validationFile]

/-- A reviewed artifact is one for the router when it also names the tuple and has the required fields,
the three objects and a consistent contract, and the hash of the configuration is known where it
counts. -/
theorem ReviewedArtifact.routed {data : Dict Json} {reviewed : String} {key : RouteValidationKey}
    (h : ReviewedArtifact py env s recipeName tuples data reviewed)
    (hnames : namedKey py data = some key)
    (hfields : ∀ field ∈ requiredValidationFields, data.get? field ≠ none)
    (hcleanup : isObject (data.get? "cleanup") = true) (hcost : isObject (data.get? "cost") = true)
    (haudit : isObject (data.get? "audit") = true)
    (hcontract : ∃ contract, data.get? "official_contract" = some (.obj contract) ∧
      contractRejectionReason py (data.get? "official_contract_hash") contract = none)
    (hhash : s.strictConfigHash = true → truthyStr s.expectedConfigHash = true) :
    RoutedArtifact py s key data where
  names := hnames
  fields := hfields
  schema := h.schema
  passed := h.passed
  cleanup := hcleanup
  cost := hcost
  audit := haudit
  contract := hcontract
  available hstrict hdir := by
    have hnone : s.expectedConfigHash = none := by simp [ValidationSettings.expectedConfigHash, hdir]
    have htruthy := hhash hstrict
    rw [hnone] at htruthy
    cases htruthy
  configHash hstrict := h.configHash (hhash hstrict)
  commit := h.commit

/-! ## Agreement -/

variable (py env) (s : ValidationSettings) (recipeName : String) (tuples : List ExecutionTupleSpec)

/-- Whatever the review reports for a tuple is a route that the router has validated. -/
def MatchesAreRouted (dir : Option (List ArtifactFile)) : Prop :=
  ∀ result, matchingLiveValidation py env s recipeName tuples dir = some result →
    ∀ found ∈ result.matched, ∀ tuple ∈ tuples, tupleEvidenceKey py env tuple = found.tupleKey →
      ∃ mode, found.mode = some (.str mode) ∧ (tuple.name, recipeName, mode) ∈
        validatedRouteKeys py s ((dir.getD []).map ArtifactFile.validationFile)

/-- Each artifact that the review takes is backed, for each tuple with its key, by an artifact that
names this tuple and the same mode and has all that the router asks for. -/
def ReviewedAreBacked (files : List ArtifactFile) : Prop :=
  ∀ file ∈ files, ∀ data, file.root = .object data → ∀ key,
    ReviewedArtifact py env s recipeName tuples data key →
    ∀ tuple ∈ tuples, tupleEvidenceKey py env tuple = key →
      ∃ mode, data.get? "mode" = some (.str mode) ∧ ∃ other ∈ files, ∃ backing,
        other.root = .object backing ∧ RoutedArtifact py s (tuple.name, recipeName, mode) backing

/-- The review and the router agree on a directory in which every root is an object exactly when what
the review takes is backed. -/
theorem matchesAreRouted_iff (dir : Option (List ArtifactFile)) :
    MatchesAreRouted py env s recipeName tuples dir ↔
      ((∃ file ∈ dir.getD [], file.root = .other) ∨
        ReviewedAreBacked py env s recipeName tuples (dir.getD [])) := by
  cases dir with
  | none =>
    refine iff_of_true ?_ (Or.inr ?_)
    · rintro result hresult found hfound
      obtain rfl := Option.some.inj hresult
      cases hfound
    · intro file hfile
      cases hfile
  | some files =>
    by_cases hother : ∃ file ∈ files, file.root = .other
    · refine iff_of_true ?_ (Or.inl hother)
      intro result hresult
      rw [matchingLiveValidation_of_other hother] at hresult
      cases hresult
    · obtain ⟨result, hresult⟩ : ∃ result,
          matchingLiveValidation py env s recipeName tuples (some files) = some result :=
        exists_matchingLiveValidation hother
      rw [Option.getD_some, or_iff_right hother]
      constructor
      · intro h file hfile data hdata key hreviewed tuple htuple hkey
        obtain ⟨mode, hmode, hrouted⟩ := h result hresult _ ((mem_matched hresult).mpr
          ⟨file, hfile, data, hdata, liveMatch_eq_some.mpr ⟨key, hreviewed, rfl⟩⟩) tuple htuple hkey
        exact ⟨mode, hmode, mem_routed.mp hrouted⟩
      · intro h result' hresult' found hfound tuple htuple hkey
        obtain ⟨file, hfile, data, hdata, hfound⟩ := (mem_matched hresult').mp hfound
        obtain ⟨key, hreviewed, rfl⟩ := liveMatch_eq_some.mp hfound
        obtain ⟨mode, hmode, hrouted⟩ := h file hfile data hdata key hreviewed tuple htuple hkey
        exact ⟨mode, hmode, mem_routed.mpr hrouted⟩

/-! ## An artifact without cleanup -/

def reviewBuiltins : Builtins where
  repr _ := ""
  numberEq left right := left = right
  sha256 := String.ofList

def reviewEnvironment : Environment where
  lower := id
  strip := id
  repr := id
  descriptors _ := none
  isConfiguredCidr _ := false
  parseTime _ := none
  weekdayMatches _ := []
  numericMatches _ := []

def reviewedTuple : ExecutionTupleSpec :=
  { name := "modal-h100", adapter := "modal", executionSurface := some .functionRuntime, vramGb := 80
    maxModelLen := 32768, costPerSecond := 1, target := some "app:run"
    endpointContract := some "modal-function", outputContract := some "plain-text" }

/-- A smoke that passed, without a word on cleanup. -/
def uncleanArtifact : Dict Json where
  entries :=
    [("tuple", .str "modal-h100"), ("recipe", .str "text-infer-standard"), ("mode", .str "sync"),
      ("validation_schema_version", .number "1"), ("passed", .bool true), ("commit", .str "c0ffee"),
      ("config_hash", .str "5eed"), ("cost", .obj []), ("audit", .obj []),
      ("official_contract", .obj
        [("adapter", .str "modal"), ("account_ref", .str "modal"),
          ("execution_surface", .str "function_runtime"), ("endpoint_contract", .str "modal-function"),
          ("output_contract", .str "plain-text"), ("stream_contract", .str "none")])]

def uncleanSettings : ValidationSettings where
  expectedCommit := some "c0ffee"
  configDir := some (some "5eed")
  strictConfigHash := false

theorem reviewed_unclean : ReviewedArtifact reviewBuiltins reviewEnvironment uncleanSettings
    "text-infer-standard" [reviewedTuple] uncleanArtifact
    (tupleEvidenceKey reviewBuiltins reviewEnvironment reviewedTuple) where
  schema := by decide +kernel
  passed := rfl
  recipe := rfl
  key := by decide +kernel
  configHash _ := by decide +kernel
  commit _ := by decide +kernel

theorem not_matchesAreRouted :
    ¬ ∀ (s : ValidationSettings) (recipeName : String) (tuples : List ExecutionTupleSpec)
      (dir : Option (List ArtifactFile)),
      MatchesAreRouted reviewBuiltins reviewEnvironment s recipeName tuples dir := by
  intro h
  let files : List ArtifactFile := [⟨"a.json", 1, .object uncleanArtifact⟩]
  have hobjects : ¬ ∃ file ∈ files, file.root = .other := by simp [files]
  obtain ⟨result, hresult⟩ := exists_matchingLiveValidation hobjects
  obtain ⟨mode, -, hrouted⟩ := h uncleanSettings "text-infer-standard" [reviewedTuple] (some files)
    result hresult _ ((mem_matched hresult).mpr ⟨_, List.mem_singleton_self _, uncleanArtifact, rfl,
      liveMatch_eq_some.mpr ⟨_, reviewed_unclean, rfl⟩⟩) reviewedTuple (List.mem_singleton_self _) rfl
  obtain ⟨file, hfile, data, hdata, hartifact⟩ := mem_routed.mp hrouted
  obtain rfl := List.mem_singleton.mp hfile
  cases hdata
  exact absurd hartifact.cleanup (by decide +kernel)

end Gpucall
