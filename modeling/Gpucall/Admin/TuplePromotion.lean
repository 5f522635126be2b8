import Gpucall.Config.Providers

/-! `promote_production_tuple` of `tuple_promotion.py`: a tuple is made from a candidate, written with its
recipe into a copy of the configuration, validated there and then activated. -/

namespace Gpucall

/-! ## The tuple of a candidate -/

/-- What a promotion reads of a `ModelSpec`. -/
structure CandidateModel where
  providerModelId : String
  maxModelLen : ℕ
  supportsVision : Bool := false

/-- What `int(value)` raises: `_positive_int` catches no `OverflowError`. -/
inductive IntError where
  | typeOrValue | overflow

/-- Conversions of Python: `int`, the text of a `float`, and `dict` of what is no mapping. -/
structure Conversions where
  toInt : Json → Except IntError ℤ
  toFloat : Json → Except ActivationError String
  toDict : Json → Except ActivationError (List (String × Json))

variable (pydantic : Pydantic) (py : Builtins) (env : Environment) (yaml : Yaml) (conv : Conversions)

/-- `str(value or default)` -/
def strOr (value : Option Json) (default : String) : String :=
  (value.filter Json.truthy).elim default (pyStr py)

/-- `value or default` -/
def valueOr (value : Option Json) (default : Json) : Json := (value.filter Json.truthy).getD default

/-- `_positive_int` -/
def positiveInt (value : Option Json) (default : ℕ) : Except ActivationError Json :=
  match conv.toInt (value.getD .null) with
  | .ok number => .ok (.number (toString (max 1 number)))
  | .error .typeOrValue => .ok (.number (toString default))
  | .error .overflow => .error .overflowError

/-- `_strings` -/
def strings (value : Option Json) : Json :=
  match value with
  | some (.arr items) => .arr (items.map fun item => .str (pyStr py item))
  | none | some .null => .arr []
  | some value => .arr [.str (pyStr py value)]

/-- `float(value or 0.0)` -/
def floatOr (value : Option Json) : Except ActivationError Json :=
  match value.filter Json.truthy with
  | none => .ok (.number "0.0")
  | some value => (conv.toFloat value).map .number

/-- `dict(value or {})` -/
def dictOrEmpty (value : Option Json) : Except ActivationError Json :=
  match value.filter Json.truthy with
  | none => .ok (.obj [])
  | some (.obj fields) => .ok (.obj fields)
  | some value => (conv.toDict value).map .obj

/-- The fields that a candidate may have on top, under their own names. -/
def placementFields : List String :=
  ["project_id", "region", "zone", "resource_group", "network", "subnet", "service_account", "instance",
    "image", "key_name", "ssh_remote_cidr", "lease_manifest_path"]

/-- The trust profile of a candidate -/
def candidateTrustProfile (candidate : Dict Json) : Json :=
  let flag := fun field => Json.bool ((candidate.get? field).any Json.truthy)
  .obj [
    ("security_tier", .str (strOr py (candidate.get? "security_tier") "encrypted_capsule")),
    ("sovereign_jurisdiction", valueOr (candidate.get? "sovereign_jurisdiction") (.str "unknown")),
    ("dedicated_gpu", flag "dedicated_gpu"),
    ("requires_attestation", flag "requires_attestation"),
    ("supports_key_release", flag "supports_key_release"),
    ("allows_worker_s3_credentials", flag "allows_worker_s3_credentials")]

/-- The numbers and parameters of a candidate, converted. -/
structure CandidateNumbers where
  vramGb : Json
  maxModelLen : Json
  costPerSecond : Json
  providerParams : Json

/-- The fields that each tuple made from a candidate has. -/
def sourceFields (candidate : Dict Json) (model : CandidateModel) (numbers : CandidateNumbers) :
    List (String × Json) :=
  let get := fun field => (candidate.get? field).getD .null
  let adapter := strOrEmpty py (candidate.get? "adapter")
  [("name", .str (strOrEmpty py (candidate.get? "name"))),
    ("adapter", .str adapter),
    ("execution_surface", valueOr (candidate.get? "execution_surface")
      (((surfaceForAdapter env adapter).map Json.str).getD .null)),
    ("max_data_classification",
      .str (strOr py (candidate.get? "max_data_classification") "confidential")),
    ("trust_profile", candidateTrustProfile py candidate),
    ("gpu", .str (strOr py (candidate.get? "gpu") "unknown")),
    ("vram_gb", numbers.vramGb),
    ("max_model_len", numbers.maxModelLen),
    ("cost_per_second", numbers.costPerSecond),
    ("configured_price_source", get "configured_price_source"),
    ("configured_price_observed_at", get "configured_price_observed_at"),
    ("configured_price_ttl_seconds", get "configured_price_ttl_seconds"),
    ("expected_cold_start_seconds", get "expected_cold_start_seconds"),
    ("expected_runtime_seconds", get "expected_runtime_seconds"),
    ("estimated_prefill_tokens_per_second", get "estimated_prefill_tokens_per_second"),
    ("estimated_decode_tokens_per_second", get "estimated_decode_tokens_per_second"),
    ("estimated_runtime_overhead_seconds", get "estimated_runtime_overhead_seconds"),
    ("runtime_estimate_safety_multiplier", get "runtime_estimate_safety_multiplier"),
    ("scaledown_window_seconds", get "scaledown_window_seconds"),
    ("min_billable_seconds", get "min_billable_seconds"),
    ("billing_granularity_seconds", get "billing_granularity_seconds"),
    ("modes", strings py (some (valueOr (candidate.get? "modes") (.arr [.str "sync", .str "async"])))),
    ("endpoint", get "endpoint"),
    ("endpoint_contract", get "endpoint_contract"),
    ("input_contracts", strings py (candidate.get? "input_contracts")),
    ("output_contract", get "output_contract"),
    ("stream_contract", valueOr (candidate.get? "stream_contract") (.str "none")),
    ("supports_vision", .bool model.supportsVision),
    ("target", valueOr (candidate.get? "target") (.str "")),
    ("stream_target", get "stream_target"),
    ("model", .str model.providerModelId),
    ("declared_model_max_len", .number (toString model.maxModelLen)),
    ("model_ref", .str (strOrEmpty py (candidate.get? "model_ref"))),
    ("engine_ref", .str (strOrEmpty py (candidate.get? "engine_ref"))),
    ("provider_params", numbers.providerParams)]

/-- The names of `sourceFields`. -/
def sourceNames : List String :=
  ["name", "adapter", "execution_surface", "max_data_classification", "trust_profile", "gpu", "vram_gb",
    "max_model_len", "cost_per_second", "configured_price_source", "configured_price_observed_at",
    "configured_price_ttl_seconds", "expected_cold_start_seconds", "expected_runtime_seconds",
    "estimated_prefill_tokens_per_second", "estimated_decode_tokens_per_second",
    "estimated_runtime_overhead_seconds", "runtime_estimate_safety_multiplier",
    "scaledown_window_seconds", "min_billable_seconds", "billing_granularity_seconds", "modes",
    "endpoint", "endpoint_contract", "input_contracts", "output_contract", "stream_contract",
    "supports_vision", "target", "stream_target", "model", "declared_model_max_len", "model_ref",
    "engine_ref", "provider_params"]

/-- The fields of `placementFields` that the candidate has. -/
def placement (candidate : Dict Json) : List (String × Json) :=
  placementFields.filterMap fun field => (candidate.get? field).map (field, ·)

theorem map_fst_placement (candidate : Dict Json) :
    (placement candidate).map Prod.fst = placementFields.filter fun field =>
      (candidate.get? field).isSome := by
  rw [placement]
  generalize placementFields = fields
  induction fields with
  | nil => rfl
  | cons field fields ih =>
    cases h : candidate.get? field <;> simp [h, ih]

/-- The tuple of a candidate, with the fields that it has on top. -/
def sourceTuple (candidate : Dict Json) (model : CandidateModel) (numbers : CandidateNumbers) :
    Dict Json where
  entries := sourceFields py env candidate model numbers ++ placement candidate
  nodup := by
    have hnames : (sourceFields py env candidate model numbers).map Prod.fst = sourceNames := rfl
    have hnodup : (sourceNames ++ placementFields).Nodup := by decide +kernel
    rw [List.map_append, hnames, map_fst_placement]
    exact hnodup.sublist (List.filter_sublist.append_left sourceNames)

/-- `_tuple_from_candidate` -/
def tupleFromCandidate (candidate : Dict Json) (models : Dict CandidateModel) :
    Except ActivationError (Dict Json) :=
  let modelRef := strOrEmpty py (candidate.get? "model_ref")
  if strOrEmpty py (candidate.get? "name") = "" ∨ modelRef = "" ∨
      strOrEmpty py (candidate.get? "engine_ref") = "" then
    .error (.valueError "candidate must define name, model_ref, and engine_ref")
  else
    match models.get? modelRef with
    | none => .error (.valueError "candidate references unknown model_ref")
    | some model => do
      let vramGb ← positiveInt conv (candidate.get? "vram_gb") 1
      let maxModelLen ← positiveInt conv (candidate.get? "max_model_len") model.maxModelLen
      let costPerSecond ← floatOr conv (candidate.get? "cost_per_second")
      let providerParams ← dictOrEmpty conv (candidate.get? "provider_params")
      let source := sourceTuple py env candidate model
        { vramGb, maxModelLen, costPerSecond, providerParams }
      if (modelValidate pydantic source).isSome then .ok source
      else .error (.valueError "ExecutionTupleSpec")

/-! ## The two files of a tuple -/

/-- `_drop_none` -/
def dropNone (payload : Dict Json) : Dict Json where
  entries := payload.entries.filter fun entry => !(entry.2 matches .null)
  nodup := payload.nodup.sublist (List.filter_sublist.map _)

/-- What goes into the surface under its own name. -/
def surfaceFields : List String :=
  ["adapter", "execution_surface", "max_data_classification", "trust_profile", "gpu", "vram_gb",
    "max_model_len", "cost_per_second", "configured_price_source", "configured_price_observed_at",
    "configured_price_ttl_seconds", "expected_cold_start_seconds", "expected_runtime_seconds",
    "estimated_prefill_tokens_per_second", "estimated_decode_tokens_per_second",
    "estimated_runtime_overhead_seconds", "runtime_estimate_safety_multiplier",
    "scaledown_window_seconds", "min_billable_seconds", "billing_granularity_seconds", "endpoint",
    "region", "zone", "instance", "image", "key_name", "ssh_remote_cidr", "lease_manifest_path",
    "supports_vision"]

/-- What goes into the worker under its own name. -/
def workerFields : List String :=
  ["adapter", "execution_surface", "model_ref", "engine_ref", "modes", "input_contracts",
    "output_contract", "stream_contract", "target", "stream_target", "endpoint_contract", "model",
    "declared_model_max_len"]

/-- The fields of a tuple, each with `None` if the tuple does not have it. -/
def copyFields (tuple : Dict Json) (fields : List String) : List (String × Json) :=
  fields.map fun field => (field, (tuple.get? field).getD .null)

/-- `str(tuple["name"])` -/
def tupleName (tuple : Dict Json) : String := pyStr py ((tuple.get? "name").getD .null)

/-- `_account_ref(str(tuple.get("adapter") or ""))` -/
def accountRef (tuple : Dict Json) : String :=
  vendorFamilyForAdapter env (strOrEmpty py (tuple.get? "adapter"))

/-- What both files start with. -/
def refFields (tuple : Dict Json) : List (String × Json) :=
  [("worker_ref", .str (tupleName py tuple)), ("account_ref", .str (accountRef py env tuple))]

theorem map_fst_copyFields (tuple : Dict Json) (fields : List String) :
    (copyFields tuple fields).map Prod.fst = fields := by
  rw [copyFields, List.map_map]
  exact List.map_id fields

def surfacePayload (tuple : Dict Json) : Dict Json := dropNone {
  entries := ("surface_ref", .str (tupleName py tuple)) ::
    (refFields py env tuple ++ copyFields tuple surfaceFields ++ [("stock_state", .str "configured")])
  nodup := by
    rw [List.map_cons, List.map_append, List.map_append, map_fst_copyFields]
    have hnodup : ("surface_ref" :: (["worker_ref", "account_ref"] ++ surfaceFields ++
      ["stock_state"])).Nodup := by decide +kernel
    exact hnodup }

def workerPayload (tuple : Dict Json) : Dict Json := dropNone {
  entries := refFields py env tuple ++ copyFields tuple workerFields ++
    [("provider_params", valueOr (tuple.get? "provider_params") (.obj []))]
  nodup := by
    rw [List.map_append, List.map_append, map_fst_copyFields]
    have hnodup : (["worker_ref", "account_ref"] ++ workerFields ++ ["provider_params"]).Nodup := by
      decide +kernel
    exact hnodup }

theorem given_eq_some {payload : Dict Json} {field : String} {value : Json} :
    given payload field = some value ↔ payload.get? field = some value ∧ value ≠ .null := by
  rw [given, Option.filter_eq_some_iff]
  cases value <;> simp

theorem get?_dropNone (payload : Dict Json) (field : String) :
    (dropNone payload).get? field = given payload field := by
  refine Option.ext fun value => ?_
  rw [given_eq_some, Dict.get?_eq_some, Dict.get?_eq_some, dropNone, List.mem_filter]
  cases value <;> simp

theorem lookup_copyFields (tuple : Dict Json) (fields : List String) (field : String) :
    (copyFields tuple fields).lookup field =
      if field ∈ fields then some ((tuple.get? field).getD .null) else none := by
  induction fields with
  | nil => rfl
  | cons name fields ih =>
    rw [copyFields, List.map_cons, List.lookup_cons, ← copyFields, ih]
    by_cases hname : field = name
    · simp [hname]
    · simp [hname, beq_eq_false_iff_ne.mpr hname]

theorem filter_getD_null (value : Option Json) :
    (some (value.getD .null)).filter (fun value => !(value matches .null)) =
      value.filter fun value => !(value matches .null) := by
  cases value <;> rfl

theorem valueOr_ne_null {value : Option Json} {default : Json} (h : default ≠ .null) :
    valueOr value default ≠ .null := by
  cases value with
  | none => exact h
  | some value =>
    rw [valueOr, Option.filter_some]
    split
    · rintro rfl
      rename_i htruthy
      cases htruthy
    · exact h

/-- What the surface has at a name. -/
theorem get?_surfacePayload (tuple : Dict Json) (field : String) :
    (surfacePayload py env tuple).get? field =
      if field ∈ surfaceFields then given tuple field
      else List.lookup field [("surface_ref", .str (tupleName py tuple)),
        ("worker_ref", .str (tupleName py tuple)), ("account_ref", .str (accountRef py env tuple)),
        ("stock_state", .str "configured")] := by
  have hapart : ∀ field ∈ surfaceFields, field ≠ "surface_ref" ∧ field ≠ "worker_ref" ∧
      field ≠ "account_ref" := by decide +kernel
  rw [surfacePayload, get?_dropNone, given, Dict.get?]
  simp only [refFields, List.cons_append, List.nil_append, List.lookup_cons, List.lookup_append,
    lookup_copyFields]
  split_ifs with hfield
  · obtain ⟨hsurface, hworker, haccount⟩ := hapart field hfield
    rw [beq_eq_false_iff_ne.mpr hsurface, beq_eq_false_iff_ne.mpr hworker,
      beq_eq_false_iff_ne.mpr haccount]
    exact filter_getD_null _
  · cases field == "surface_ref" <;> cases field == "worker_ref" <;> cases field == "account_ref" <;>
      cases field == "stock_state" <;> rfl

/-- What the worker has at a name. -/
theorem get?_workerPayload (tuple : Dict Json) (field : String) :
    (workerPayload py env tuple).get? field =
      if field ∈ workerFields then given tuple field
      else List.lookup field [("worker_ref", .str (tupleName py tuple)),
        ("account_ref", .str (accountRef py env tuple)),
        ("provider_params", valueOr (tuple.get? "provider_params") (.obj []))] := by
  have hapart : ∀ field ∈ workerFields, field ≠ "worker_ref" ∧ field ≠ "account_ref" := by
    decide +kernel
  have hparams : (some (valueOr (tuple.get? "provider_params") (.obj []))).filter
      (fun value => !(value matches .null)) =
        some (valueOr (tuple.get? "provider_params") (.obj [])) := by
    rw [Option.filter_eq_some_iff]
    have hne : valueOr (tuple.get? "provider_params") (.obj []) ≠ .null := valueOr_ne_null nofun
    generalize valueOr (tuple.get? "provider_params") (.obj []) = params at hne
    cases params <;> simp_all
  rw [workerPayload, get?_dropNone, given, Dict.get?]
  simp only [refFields, List.cons_append, List.nil_append, List.lookup_cons, List.lookup_append,
    lookup_copyFields]
  split_ifs with hfield
  · obtain ⟨hworker, haccount⟩ := hapart field hfield
    rw [beq_eq_false_iff_ne.mpr hworker, beq_eq_false_iff_ne.mpr haccount]
    exact filter_getD_null _
  · cases field == "worker_ref" <;> cases field == "account_ref" <;>
      cases field == "provider_params" <;> first | rfl | exact hparams

/-- A payload as the file of a name in a folder -/
def fileStep (root : Folder) (directory name : String) (payload : Dict Json) : ActivationStep where
  path := configPath root directory name
  payload := .ok (some payload)

/-- The files of `_write_split_tuple`. -/
def splitTupleSteps (root : Folder) (tuple : Dict Json) : List ActivationStep :=
  [fileStep root "surfaces" (tupleName py tuple) (surfacePayload py env tuple),
    fileStep root "workers" (tupleName py tuple) (workerPayload py env tuple)]

/-- `_write_split_tuple` -/
def writeSplitTuple (disk : Disk) (force : Bool) (tuple : Dict Json) (tree : ConfigTree) :
    ConfigTree × Except ActivationError Unit :=
  runActivation disk yaml force (splitTupleSteps py env disk.root tuple) tree

/-! ## Promotion -/

/-- `_select_review_candidate` -/
def selectReviewCandidate (review : Dict Json) (candidateName : Option String) :
    Except ActivationError (Dict Json) :=
  match review.get? "tuple_candidate_matches" with
  | some (.arr (first :: rest)) =>
    match candidateName with
    | none =>
      match first with
      | .obj fields => .ok (.ofFields fields)
      | _ => .error (.valueError "invalid tuple_candidate_matches entry")
    | some name =>
      let named := (first :: rest).filterMap fun item =>
        match item with
        | .obj fields =>
          let candidate := Dict.ofFields fields
          if optEq py (candidate.get? "name") (some (.str name)) then some candidate else none
        | _ => none
      match named with
      | candidate :: _ => .ok candidate
      | [] => .error (.valueError "candidate is not present in review tuple_candidate_matches")
  | _ => .error (.valueError "review does not contain tuple_candidate_matches")

/-- What a promotion calls: the loaders of the other configuration files and the checks of `load_config`,
with the models; the payload of a candidate; the copy of the directory; the smoke and the search for its
artifact. -/
structure PromotionWorld where
  restOfConfig : ConfigTree → Dict TupleRecord → Except ActivationError (Dict CandidateModel)
  candidatePayload : Dict Json → Except ActivationError (Dict Json)
  copyConfigTree : Except ActivationError Unit
  promotionDisk : Disk
  validationPasses : ConfigTree → Except ActivationError Bool
  validationFound : ConfigTree → Except ActivationError Bool
  disk : Disk

/-- The arguments of `promote_production_tuple`. -/
structure PromotionCall where
  review : Dict Json
  candidateName : Option String := none
  runValidation : Bool := false
  hasValidationBudget : Bool := false
  activate : Bool := false
  force : Bool := false

/-- `load_config` -/
def loadConfig (world : PromotionWorld) (tree : ConfigTree) :
    Except ActivationError (Dict CandidateModel) :=
  match loadProviders pydantic py env yaml tree with
  | .error e => .error e
  | .ok tuples => world.restOfConfig tree tuples

/-- What `_copy_config_tree` leaves out. -/
def ignoredName (name : String) : Bool :=
  name = "__pycache__" || [".db", ".db-shm", ".db-wal"].any (endswith name)

def copiedTree (tree : ConfigTree) : ConfigTree :=
  ((tree.listing fun path => !path.any ignoredName).map fun entry =>
    (⟨entry.1, entry.2⟩ : Sigma fun _ : List String => ConfigEntry)).toFinmap

/-- The recipe and the tuple of a promotion, with the name of the recipe. -/
structure Promotion where
  recipe : Dict Json
  recipeName : String
  tuple : Dict Json

/-- The files of the recipe and of the tuple -/
def contractSteps (root : Folder) (promotion : Promotion) : List ActivationStep :=
  [fileStep root "recipes" promotion.recipeName promotion.recipe,
    fileStep root "tuples" (tupleName py promotion.tuple) promotion.tuple]

/-- The files of a promotion in its own directory -/
def promotedSteps (root : Folder) (promotion : Promotion) : List ActivationStep :=
  contractSteps py root promotion ++ splitTupleSteps py env root promotion.tuple

/-- What is in a file after the promotion. Out of its directory it is what the promotion has written
there last. -/
def promotedText (root : Folder) (promoted : ConfigTree) (promotion : Promotion) (path : ConfigPath) :
    Option String :=
  match path with
  | .inside names => ((promoted.lookup names).bind (·.bytes)).bind yaml.readText
  | .outside _ =>
    match (promotedSteps py env root promotion).reverse.find? fun step => step.path == path with
    | some ⟨_, .ok (some payload)⟩ => some (yaml.toYaml payload)
    | _ => none

/-- `_load_yaml_file` -/
def loadYamlFile (root : Folder) (promoted : ConfigTree) (promotion : Promotion) (path : ConfigPath) :
    Except ActivationError (Dict Json) :=
  match promotedText py env yaml root promoted promotion path with
  | none => .error .osError
  | some text => mappingIn "YAML root must be a mapping" (yaml.load text)

/-- A file of the promotion as it is activated: read back, and written under its path. -/
def readBackStep (world : PromotionWorld) (promoted : ConfigTree) (promotion : Promotion)
    (directory : String) : ActivationStep where
  path := configPath world.disk.root directory (tupleName py promotion.tuple)
  payload := (loadYamlFile py env yaml world.promotionDisk.root promoted promotion
    (configPath world.promotionDisk.root directory (tupleName py promotion.tuple))).map some

/-- The files of an activation -/
def activationSteps (world : PromotionWorld) (promoted : ConfigTree) (promotion : Promotion) :
    List ActivationStep :=
  contractSteps py world.disk.root promotion ++
    ["surfaces", "workers"].map (readBackStep py env yaml world promoted promotion)

/-- Where a promotion comes to before its activation. -/
inductive PromotionStage where
  | decided (decision : String)
  | validated (promoted : ConfigTree) (promotion : Promotion)

/-- What is promoted: the candidate is selected and made a tuple. -/
def selectPromotion (world : PromotionWorld) (call : PromotionCall) (tree : ConfigTree) :
    Except ActivationError Promotion := do
  let candidate ← selectReviewCandidate py call.review call.candidateName
  let recipe ← match call.review.get? "canonical_recipe" with
    | some (.obj (first :: rest)) => .ok (Dict.ofFields (first :: rest))
    | _ => .error (.valueError "review does not contain canonical_recipe")
  let models ← loadConfig pydantic py env yaml world tree
  if !(candidate.get? "path").any Json.truthy then
    .error (.valueError "candidate match does not include source path")
  let payload ← world.candidatePayload candidate
  if payload.get? "production_generation_allowed" matches some (.bool false) then
    .error (.valueError "refusing to promote candidate with production generation disabled")
  let tuple ← tupleFromCandidate pydantic py env conv payload models
  let recipeName ← match recipe.get? "name" with
    | some name => .ok (pyStr py name)
    | none => .error (.keyError "name")
  return { recipe, recipeName, tuple }

/-- The promotion directory, with the files of the promotion -/
def writePromotion (world : PromotionWorld) (call : PromotionCall) (promotion : Promotion)
    (tree : ConfigTree) : Except ActivationError ConfigTree :=
  match world.copyConfigTree with
  | .error e => .error e
  | .ok () =>
    match runActivation world.promotionDisk yaml call.force
        (promotedSteps py env world.promotionDisk.root promotion) (copiedTree tree) with
    | (_, .error e) => .error e
    | (promoted, .ok ()) => .ok promoted

/-- `promote_production_tuple` up to its activation. -/
def promotionStage (world : PromotionWorld) (call : PromotionCall) (tree : ConfigTree) :
    Except ActivationError PromotionStage := do
  let promotion ← selectPromotion pydantic py env yaml conv world call tree
  let promoted ← writePromotion py env yaml world call promotion tree
  match loadConfig pydantic py env yaml world promoted with
  | .error .configError =>
    if call.runValidation || call.activate then
      .error (.valueError "refusing validation/activation because generated promotion config is not valid")
    else .ok (.decided "READY_FOR_ENDPOINT_CONFIGURATION")
  | .error e => .error e
  | .ok _ =>
    if call.runValidation then
      if !call.hasValidationBudget then
        .error (.valueError "--run-validation requires --validation-budget-usd")
      else
        let passed ← world.validationPasses promoted
        if !passed then .ok (.decided "VALIDATION_FAILED") else .ok (.validated promoted promotion)
    else
      let found ← world.validationFound promoted
      if found then .ok (.validated promoted promotion)
      else if call.activate then
        .error (.valueError "refusing to activate without matching live validation artifact")
      else .ok (.decided "READY_FOR_BILLABLE_VALIDATION")

/-- `promote_production_tuple` on an active configuration directory, with its decision -/
def promoteProductionTuple (world : PromotionWorld) (call : PromotionCall) (tree : ConfigTree) :
    ConfigTree × Except ActivationError String :=
  match promotionStage pydantic py env yaml conv world call tree with
  | .error e => (tree, .error e)
  | .ok (.decided decision) => (tree, .ok decision)
  | .ok (.validated promoted promotion) =>
    if !call.activate then (tree, .ok "VALIDATED_READY_TO_ACTIVATE")
    else
      match runActivation world.disk yaml call.force
          (activationSteps py env yaml world promoted promotion) tree with
      | (tree, .error e) => (tree, .error e)
      | (tree, .ok ()) =>
        match loadConfig pydantic py env yaml world tree with
        | .error e => (tree, .error e)
        | .ok _ => (tree, .ok "ACTIVATED")

end Gpucall
