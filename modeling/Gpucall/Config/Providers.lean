import Gpucall.Config.Activation
import Gpucall.Lib.OptionList
import Gpucall.Lib.Schema

/-! `load_providers` of `config.py`: the execution tuples of a configuration directory, either from its
surfaces, each joined with the worker that it names, or from `tuples/*.yml`. -/

namespace Gpucall

/-! ## `ExecutionTupleSpec` as a schema -/

/-- The types of the fields, but for `None`, lists and the trust profile. -/
inductive ScalarType where
  | str | bool | positiveInt | nonNegativeFloat | httpUrl | anyDict
  | oneOf (values : List String)

inductive FieldType where
  | plain (type : ScalarType)
  | optional (type : ScalarType)
  | list (type : ScalarType)
  | trustProfile

inductive ScalarValue where
  | text (value : String)
  | bool (value : Bool)
  | int (value : ℕ)
  | float (text : String)
  | url (value : String)
  | mapping (fields : List (String × Json))

inductive SpecValue where
  | none
  | plain (value : ScalarValue)
  | items (values : List ScalarValue)
  | profile (fields : List (String × Option ScalarValue))

/-- The conversions of pydantic for numbers, Booleans and URLs. -/
structure Pydantic where
  positiveInt : Json → Option ℕ
  nonNegativeFloat : Json → Option String
  bool : Json → Option Bool
  httpUrl : Json → Option String

variable (pydantic : Pydantic)

def ScalarType.parse : ScalarType → Json → Option ScalarValue
  | .str, .str value => some (.text value)
  | .bool, value => (pydantic.bool value).map .bool
  | .positiveInt, value => (pydantic.positiveInt value).map .int
  | .nonNegativeFloat, value => (pydantic.nonNegativeFloat value).map .float
  | .httpUrl, value => (pydantic.httpUrl value).map .url
  | .anyDict, .obj fields => some (.mapping fields)
  | .oneOf values, .str value => if value ∈ values then some (.text value) else none
  | _, _ => none

def ScalarType.parseOptional (type : ScalarType) : Json → Option (Option ScalarValue)
  | .null => some none
  | value => (type.parse pydantic value).map some

def scalarField (name : String) (type : ScalarType) (default : ScalarValue) :
    String × FieldSpec Json (Option ScalarValue) :=
  (name, { parse value := (type.parse pydantic value).map some, default := some (some default) })

def optionalScalarField (name : String) (type : ScalarType) :
    String × FieldSpec Json (Option ScalarValue) :=
  (name, { parse := type.parseOptional pydantic, default := some none })

/-- `TupleTrustProfile` -/
def tupleTrustProfileSchema : Schema String Json (Option ScalarValue) := [
  scalarField pydantic "security_tier"
    (.oneOf ["local", "shared_gpu", "encrypted_capsule", "confidential_tee", "split_learning"])
    (.text "shared_gpu"),
  optionalScalarField pydantic "sovereign_jurisdiction" .str,
  scalarField pydantic "dedicated_gpu" .bool (.bool false),
  scalarField pydantic "requires_attestation" .bool (.bool false),
  scalarField pydantic "supports_key_release" .bool (.bool false),
  scalarField pydantic "allows_worker_s3_credentials" .bool (.bool false),
  optionalScalarField pydantic "attestation_type" .str]

def FieldType.parse : FieldType → Json → Option SpecValue
  | .plain type, value => (type.parse pydantic value).map .plain
  | .optional _, .null => some .none
  | .optional type, value => (type.parse pydantic value).map .plain
  | .list type, .arr items => (items.mapM (type.parse pydantic)).map .items
  | .list _, _ => none
  | .trustProfile, .obj fields =>
    ((tupleTrustProfileSchema pydantic).validate (fields.lookup ·) (fields.map Prod.fst)).map .profile
  | .trustProfile, _ => none

/-- A field with its type; `X | None = None` where nothing else is said. -/
structure SpecField where
  name : String
  type : FieldType
  default : Option SpecValue

def SpecField.required (name : String) (type : ScalarType) : SpecField := ⟨name, .plain type, none⟩

def SpecField.optional (name : String) (type : ScalarType) : SpecField :=
  ⟨name, .optional type, some .none⟩

def executionSurfaces : List String :=
  ["local_runtime", "iaas_vm", "container_instance", "managed_endpoint", "function_runtime",
    "sandbox_runtime", "cluster_runtime", "lifecycle_only"]

def inputContracts : List String :=
  ["text", "chat_messages", "data_refs", "image", "audio", "document", "activation_refs",
    "artifact_refs"]

/-- `TupleTrustProfile()` -/
def defaultTrustProfile : SpecValue :=
  .profile [("security_tier", some (.text "shared_gpu")), ("sovereign_jurisdiction", none),
    ("dedicated_gpu", some (.bool false)), ("requires_attestation", some (.bool false)),
    ("supports_key_release", some (.bool false)), ("allows_worker_s3_credentials", some (.bool false)),
    ("attestation_type", none)]

def executionTupleFields : List SpecField := [
  .required "name" .str,
  .optional "account_ref" .str,
  ⟨"adapter", .plain .str, some (.plain (.text "echo"))⟩,
  .optional "execution_surface" (.oneOf executionSurfaces),
  ⟨"max_data_classification",
    .plain (.oneOf ["public", "internal", "confidential", "restricted"]),
    some (.plain (.text "confidential"))⟩,
  ⟨"trust_profile", .trustProfile, some defaultTrustProfile⟩,
  .required "gpu" .str,
  .required "vram_gb" .positiveInt,
  .required "max_model_len" .positiveInt,
  .required "cost_per_second" .nonNegativeFloat,
  .optional "configured_price_source" .str,
  .optional "configured_price_observed_at" .str,
  .optional "configured_price_ttl_seconds" .nonNegativeFloat,
  .optional "expected_cold_start_seconds" .positiveInt,
  .optional "expected_runtime_seconds" .nonNegativeFloat,
  .optional "estimated_prefill_tokens_per_second" .nonNegativeFloat,
  .optional "estimated_decode_tokens_per_second" .nonNegativeFloat,
  .optional "estimated_runtime_overhead_seconds" .nonNegativeFloat,
  .optional "runtime_estimate_safety_multiplier" .nonNegativeFloat,
  .optional "scaledown_window_seconds" .nonNegativeFloat,
  .optional "min_billable_seconds" .nonNegativeFloat,
  .optional "billing_granularity_seconds" .nonNegativeFloat,
  .optional "standing_cost_per_second" .nonNegativeFloat,
  .optional "standing_cost_window_seconds" .nonNegativeFloat,
  .optional "endpoint_cost_per_second" .nonNegativeFloat,
  .optional "endpoint_cost_window_seconds" .nonNegativeFloat,
  ⟨"modes", .list (.oneOf ["sync", "async", "stream"]), some (.items [.text "async"])⟩,
  .optional "endpoint" .httpUrl,
  .optional "project_id" .str,
  .optional "region" .str,
  .optional "zone" .str,
  .optional "resource_group" .str,
  .optional "network" .str,
  .optional "subnet" .str,
  .optional "service_account" .str,
  ⟨"provider_params", .plain .anyDict, some (.plain (.mapping []))⟩,
  .optional "target" .str,
  .optional "stream_target" .str,
  .optional "endpoint_contract" .str,
  ⟨"input_contracts", .list (.oneOf inputContracts), some (.items [])⟩,
  .optional "output_contract" .str,
  ⟨"stream_contract", .plain (.oneOf ["none", "token-incremental", "sse"]),
    some (.plain (.text "none"))⟩,
  ⟨"supports_vision", .plain .bool, some (.plain (.bool false))⟩,
  .optional "model" .str,
  .optional "instance" .str,
  .optional "image" .str,
  .optional "key_name" .str,
  .optional "lease_manifest_path" .str,
  .optional "ssh_remote_cidr" .str,
  .optional "declared_model_max_len" .positiveInt,
  .optional "model_ref" .str,
  .optional "engine_ref" .str,
  .optional "controlled_runtime_ref" .str]

def executionTupleSchema : Schema String Json SpecValue :=
  executionTupleFields.map fun field =>
    (field.name, { parse := field.type.parse pydantic, default := field.default })

/-- An `ExecutionTupleSpec`, each field with its value. -/
abbrev TupleRecord := List (String × SpecValue)

/-- `ExecutionTupleSpec.model_validate` -/
def modelValidate (payload : Dict Json) : Option TupleRecord :=
  (executionTupleSchema pydantic).validate payload.get? payload.keys

/-- `tuple_spec.name` -/
def TupleRecord.name (record : TupleRecord) : String :=
  match List.lookup "name" record with
  | some (.plain (.text name)) => name
  | _ => ""

/-! ## Loading -/

variable (py : Builtins) (env : Environment) (yaml : Yaml)

/-- `_load_yaml` -/
def loadYaml (tree : ConfigTree) (path : List String) : Except ActivationError YamlRoot :=
  match tree.lookup path with
  | none => .error .configError
  | some entry =>
    match if entry.isFile then entry.bytes else none with
    | none => .error .osError
    | some bytes =>
      match yaml.readText bytes with
      | none => .error (.valueError "invalid utf-8")
      | some text =>
        match yaml.load text with
        | .unreadable => .error .configError
        | root => .ok root

/-- The mapping in a file -/
def loadMapping (tree : ConfigTree) (path : List String) : Except ActivationError (Dict Json) :=
  match loadYaml yaml tree path with
  | .error e => .error e
  | .ok (.mapping payload) => .ok payload
  | .ok _ => .error .configError

/-- `sorted((root / directory).glob("*.yml"))` -/
def ymlIn (tree : ConfigTree) (directory : String) : List (List String) :=
  (tree.listing fun path => path.length = 2 && path.head? = some directory && isYml path).map Prod.fst

/-- `(root / directory).exists()` -/
def hasFolder (tree : ConfigTree) (directory : String) : Bool :=
  ∃ path ∈ tree.keys, path.head? = some directory

/-- `_required_ref` -/
def requiredRef (payload : Dict Json) (field : String) : Except ActivationError String :=
  let value := env.strip (strOrEmpty py (payload.get? field))
  if value = "" then .error .configError else .ok value

/-- A worker under the name that surfaces refer to it by. -/
def loadWorker (tree : ConfigTree) (path : List String) :
    Except ActivationError (String × Dict Json) :=
  match loadMapping yaml tree path with
  | .error e => .error e
  | .ok worker => (requiredRef py env worker "worker_ref").map (·, worker)

/-- A value that is not `None` -/
def given (payload : Dict Json) (field : String) : Option Json :=
  (payload.get? field).filter fun value => !(value matches .null)

/-- Whether a surface and its worker disagree on a field. -/
def disagree (surface worker : Dict Json) (field : String) : Bool :=
  match given surface field, given worker field with
  | some left, some right => !pyEq py left right
  | _, _ => false

/-- The payload of a surface with its worker. -/
def joinedPayload (surfaceRef : String) (surface worker : Dict Json) : Dict Json :=
  ((((surface.update worker).set "name" (.str surfaceRef)).pop "surface_ref").pop "worker_ref").pop
    "stock_state"

/-- A surface with the name of its worker and the payload that they make. A worker in a later file takes
the place of one of the same name. -/
def loadSurface (tree : ConfigTree) (workers : List (String × Dict Json)) (path : List String) :
    Except ActivationError (String × Dict Json) := do
  let surface ← loadMapping yaml tree path
  let surfaceRef ← requiredRef py env surface "surface_ref"
  let workerKey ← requiredRef py env surface "worker_ref"
  match workers.reverse.lookup workerKey with
  | none => .error .configError
  | some worker =>
    if ["account_ref", "adapter", "execution_surface"].any (disagree py surface worker) then
      .error .configError
    else .ok (workerKey, joinedPayload surfaceRef surface worker)

/-- `_load_split_tuple_payloads` -/
def loadSplitTuplePayloads (tree : ConfigTree) : Except ActivationError (List (Dict Json)) :=
  if !hasFolder tree "surfaces" || !hasFolder tree "workers" then .ok []
  else do
    let workers ← (ymlIn tree "workers").mapM (loadWorker py env yaml tree)
    let payloads ← (ymlIn tree "surfaces").mapM (loadSurface py env yaml tree workers)
    if workers.any fun worker => worker.1 ∉ payloads.map Prod.fst then .error .configError
    else .ok (payloads.map Prod.snd)

/-- `adapter_descriptor(adapter).execution_surface.value`, if there is one -/
def surfaceForAdapter (adapter : String) : Option String :=
  let key := normalizeAdapter env adapter
  ((env.descriptors ((env.aliases key).getD key)).bind (·.executionSurface)).map (·.value)

/-- The payload with the execution surface of its adapter, if it has none. -/
def withExecutionSurface (payload : Dict Json) : Dict Json :=
  if (payload.get? "execution_surface").any Json.truthy then payload
  else
    let adapter := ((payload.get? "adapter").filter Json.truthy).elim "echo" (pyStr py)
    match surfaceForAdapter env adapter with
    | some surface => payload.set "execution_surface" (.str surface)
    | none => payload

/-- `_tuple_from_payload` -/
def tupleFromPayload (payload : Dict Json) : Except ActivationError TupleRecord :=
  match modelValidate pydantic (withExecutionSurface py env payload) with
  | some record => .ok record
  | none => .error .configError

/-- `_load_tuple` -/
def loadTuple (tree : ConfigTree) (path : List String) : Except ActivationError TupleRecord :=
  match loadMapping yaml tree path with
  | .error e => .error e
  | .ok payload => tupleFromPayload pydantic py env payload

/-- The loop of `load_providers`: no two tuples have one name. -/
def loadTuples {α : Type} (load : α → Except ActivationError TupleRecord) :
    List α → Dict TupleRecord → Except ActivationError (Dict TupleRecord)
  | [], tuples => .ok tuples
  | x :: xs, tuples =>
    match load x with
    | .error e => .error e
    | .ok record =>
      if record.name ∈ tuples.keys then .error .configError
      else loadTuples load xs (tuples.set record.name record)

def loadProviders (tree : ConfigTree) : Except ActivationError (Dict TupleRecord) :=
  match loadSplitTuplePayloads py env yaml tree with
  | .error e => .error e
  | .ok payloads =>
    let tuples :=
      if !payloads.isEmpty then loadTuples (tupleFromPayload pydantic py env) payloads {}
      else loadTuples (loadTuple pydantic py env yaml tree) (ymlIn tree "tuples") {}
    match tuples with
    | .error e => .error e
    | .ok tuples => if tuples.entries.isEmpty then .error .configError else .ok tuples

/-! ## Dictionaries that are put together -/

/-- The names that are left out of a joined payload. -/
def joinNames : List String := ["surface_ref", "worker_ref", "stock_state"]

theorem get?_joinedPayload (surfaceRef : String) (surface worker : Dict Json) (field : String) :
    (joinedPayload surfaceRef surface worker).get? field =
      if field ∈ joinNames then none
      else if field = "name" then some (.str surfaceRef)
      else (worker.get? field).or (surface.get? field) := by
  refine Option.ext fun value => ?_
  rw [joinedPayload, Dict.get?_pop, Dict.get?_pop, Dict.get?_pop, Dict.get?_set, Dict.get?_update]
  by_cases hjoin : field ∈ joinNames
  · rw [if_pos hjoin]
    simp only [joinNames, List.mem_cons, List.not_mem_nil, or_false] at hjoin
    obtain rfl | rfl | rfl := hjoin <;> simp
  · rw [if_neg hjoin]
    simp only [joinNames, List.mem_cons, List.not_mem_nil, or_false, not_or] at hjoin
    simp [hjoin]

/-! ## Folders -/

variable {tree : ConfigTree} {directory : String}

theorem hasFolder_iff : hasFolder tree directory = true ↔
    ∃ path entry, tree.lookup path = some entry ∧ path.head? = some directory := by
  rw [hasFolder, decide_eq_true_iff]
  constructor
  · rintro ⟨path, hpath, hhead⟩
    obtain ⟨entry, hentry⟩ := Finmap.mem_iff.mp (Finmap.mem_keys.mp hpath)
    exact ⟨path, entry, hentry, hhead⟩
  · rintro ⟨path, entry, hentry, hhead⟩
    exact ⟨path, Finmap.mem_keys.mpr (Finmap.mem_of_lookup_eq_some hentry), hhead⟩

theorem mem_ymlIn {path : List String} : path ∈ ymlIn tree directory ↔
    (∃ entry, tree.lookup path = some entry) ∧ isYml path = true ∧ ∃ file, path = [directory, file] := by
  have hshape : (path.length = 2 ∧ path.head? = some directory) ↔ ∃ file, path = [directory, file] := by
    constructor
    · rintro ⟨hlength, hhead⟩
      match path with
      | [first, file] =>
        obtain rfl : first = directory := Option.some.inj hhead
        exact ⟨file, rfl⟩
    · rintro ⟨file, rfl⟩
      exact ⟨rfl, rfl⟩
  simp only [ymlIn, List.mem_map, Prod.exists, exists_and_right, exists_eq_right,
    FileTree.mem_listing, Bool.and_eq_true, decide_eq_true_eq, hshape]
  constructor
  · rintro ⟨entry, ⟨hpath, hyml⟩, hentry⟩
    exact ⟨⟨entry, hentry⟩, hyml, hpath⟩
  · rintro ⟨⟨entry, hentry⟩, hyml, hpath⟩
    exact ⟨entry, ⟨hpath, hyml⟩, hentry⟩

theorem ymlIn_pairwise (tree : ConfigTree) (directory : String) :
    (ymlIn tree directory).Pairwise (· < ·) :=
  List.pairwise_map.mpr (tree.listing_pairwise _)

/-- A folder with one `*.yml` -/
theorem ymlIn_eq_singleton {file : String} {entry : ConfigEntry}
    (hfile : tree.lookup [directory, file] = some entry) (hyml : isYml [directory, file] = true)
    (honly : ∀ other, tree.lookup [directory, other] ≠ none → other = file) :
    ymlIn tree directory = [[directory, file]] := by
  have hmem (path : List String) : path ∈ ymlIn tree directory ↔ path = [directory, file] := by
    rw [mem_ymlIn]
    constructor
    · rintro ⟨⟨entry, hentry⟩, -, other, rfl⟩
      rw [honly other (by rw [hentry]; nofun)]
    · rintro rfl
      exact ⟨⟨entry, hfile⟩, hyml, file, rfl⟩
  have hperm : (ymlIn tree directory).Perm [[directory, file]] := by
    refine (List.perm_ext_iff_of_nodup ?_ (List.nodup_singleton _)).mpr ?_
    · exact (ymlIn_pairwise tree directory).imp fun hlt => ne_of_lt hlt
    · intro path
      rw [hmem, List.mem_singleton]
  exact List.perm_singleton.mp hperm

/-! ## Lists of files -/

/-- The records are loaded one by one and kept under their names, which are all different. -/
theorem loadTuples_eq_ok {α : Type} {load : α → Except ActivationError TupleRecord} {xs : List α}
    {tuples result : Dict TupleRecord} :
    loadTuples load xs tuples = .ok result ↔
      ∃ records, List.Forall₂ (fun x record => load x = .ok record) xs records ∧
        result.entries = tuples.entries ++ records.map fun record => (record.name, record) := by
  induction xs generalizing tuples with
  | nil =>
    rw [loadTuples]
    constructor
    · rintro ⟨⟩
      exact ⟨[], .nil, (List.append_nil _).symm⟩
    · rintro ⟨records, hrecords, hentries⟩
      cases hrecords
      rw [List.map_nil, List.append_nil] at hentries
      rw [Dict.ext_entries hentries]
  | cons x xs ih =>
    rw [loadTuples]
    cases hx : load x with
    | error e =>
      refine iff_of_false nofun ?_
      rintro ⟨records, hrecords, -⟩
      cases hrecords with
      | cons hrecord _ => cases hx.symm.trans hrecord
    | ok record =>
      dsimp only
      split
      · rename_i hknown
        refine iff_of_false nofun ?_
        rintro ⟨records, hrecords, hentries⟩
        cases hrecords with
        | cons hrecord _ =>
          cases Except.ok.inj (hx.symm.trans hrecord)
          have hnodup := result.nodup
          rw [hentries, List.map_append, List.nodup_append] at hnodup
          exact hnodup.2.2 _ hknown _ List.mem_cons_self rfl
      · rename_i hnew
        rw [ih, Dict.entries_set_of_notMem hnew]
        constructor
        · rintro ⟨records, hrecords, hentries⟩
          refine ⟨record :: records, .cons hx hrecords, ?_⟩
          rw [hentries, List.append_assoc]
          rfl
        · rintro ⟨records, hrecords, hentries⟩
          cases hrecords with
          | cons hrecord hrest =>
            cases Except.ok.inj (hx.symm.trans hrecord)
            refine ⟨_, hrest, ?_⟩
            rw [hentries, List.append_assoc]
            rfl

/-- What the loader takes for the tuples, in either layout. -/
theorem loadProviders_eq_ok {py : Builtins} {env : Environment} {yaml : Yaml} {pydantic : Pydantic}
    {tuples : Dict TupleRecord} :
    loadProviders pydantic py env yaml tree = .ok tuples ↔ tuples.entries ≠ [] ∧
      ∃ payloads, loadSplitTuplePayloads py env yaml tree = .ok payloads ∧
        ((payloads ≠ [] ∧ loadTuples (tupleFromPayload pydantic py env) payloads {} = .ok tuples) ∨
          (payloads = [] ∧
            loadTuples (loadTuple pydantic py env yaml tree) (ymlIn tree "tuples") {} = .ok tuples)) := by
  have hcheck (loaded : Except ActivationError (Dict TupleRecord)) :
      (match loaded with
        | .error e => .error e
        | .ok tuples => if tuples.entries.isEmpty then .error .configError else .ok tuples) =
          (.ok tuples : Except ActivationError (Dict TupleRecord)) ↔
        tuples.entries ≠ [] ∧ loaded = .ok tuples := by
    cases loaded with
    | error e => simp
    | ok found =>
      dsimp only
      split
      · rename_i hempty
        refine iff_of_false nofun fun h => h.1 ?_
        rw [← Except.ok.inj h.2]
        exact List.isEmpty_iff.mp hempty
      · rename_i hne
        constructor
        · rintro ⟨⟩
          exact ⟨fun hempty => hne (List.isEmpty_iff.mpr hempty), rfl⟩
        · exact fun h => h.2
  rw [loadProviders]
  cases hpayloads : loadSplitTuplePayloads py env yaml tree with
  | error e =>
    refine iff_of_false nofun ?_
    rintro ⟨-, payloads, hload, -⟩
    cases hload
  | ok payloads =>
    dsimp only
    rw [hcheck]
    cases payloads with
    | nil => simp
    | cons payload payloads => simp

/-- A directory whose tuples are given as surfaces has workers and a payload for each surface. -/
theorem loadSplitTuplePayloads_eq_ok {py : Builtins} {env : Environment} {yaml : Yaml}
    {payloads : List (Dict Json)} :
    loadSplitTuplePayloads py env yaml tree = .ok payloads ↔
      (¬ (hasFolder tree "surfaces" = true ∧ hasFolder tree "workers" = true) ∧ payloads = []) ∨
      ((hasFolder tree "surfaces" = true ∧ hasFolder tree "workers" = true) ∧
        ∃ workers joined,
          List.Forall₂ (fun path worker => loadWorker py env yaml tree path = .ok worker)
            (ymlIn tree "workers") workers ∧
          List.Forall₂ (fun path entry => loadSurface py env yaml tree workers path = .ok entry)
            (ymlIn tree "surfaces") joined ∧
          (∀ worker ∈ workers, worker.1 ∈ joined.map Prod.fst) ∧ payloads = joined.map Prod.snd) := by
  rw [loadSplitTuplePayloads]
  split
  · rename_i hfolders
    have hmissing : ¬ (hasFolder tree "surfaces" = true ∧ hasFolder tree "workers" = true) := by
      rintro ⟨hsurfaces, hworkers⟩
      simp [hsurfaces, hworkers] at hfolders
    rw [and_iff_right hmissing, or_iff_left fun h => hmissing h.1]
    constructor
    · rintro ⟨⟩
      rfl
    · rintro rfl
      rfl
  · rename_i hfolders
    have hpresent : hasFolder tree "surfaces" = true ∧ hasFolder tree "workers" = true := by
      simpa using hfolders
    rw [and_iff_right hpresent, or_iff_right fun h => h.1 hpresent]
    cases hworkers : (ymlIn tree "workers").mapM (loadWorker py env yaml tree) with
    | error e =>
      refine iff_of_false nofun ?_
      rintro ⟨workers, joined, hloaded, -⟩
      cases hworkers.symm.trans (Fallible.mapM_eq_ok.mpr hloaded)
    | ok workers =>
      cases hjoined : (ymlIn tree "surfaces").mapM (loadSurface py env yaml tree workers) with
      | error e =>
        simp only [bind, Except.bind, hjoined]
        refine iff_of_false nofun ?_
        rintro ⟨workers', joined, hloaded, hsurfaces, -⟩
        cases Except.ok.inj (hworkers.symm.trans (Fallible.mapM_eq_ok.mpr hloaded))
        cases hjoined.symm.trans (Fallible.mapM_eq_ok.mpr hsurfaces)
      | ok joined =>
        have horphan : (workers.any fun worker => worker.1 ∉ joined.map Prod.fst) = false ↔
            ∀ worker ∈ workers, worker.1 ∈ joined.map Prod.fst := by
          simp
        simp only [bind, Except.bind, hjoined]
        split
        · rename_i hany
          refine iff_of_false nofun ?_
          rintro ⟨workers', joined', hloaded, hsurfaces, hused, -⟩
          cases Except.ok.inj (hworkers.symm.trans (Fallible.mapM_eq_ok.mpr hloaded))
          cases Except.ok.inj (hjoined.symm.trans (Fallible.mapM_eq_ok.mpr hsurfaces))
          rw [horphan.mpr hused] at hany
          cases hany
        · rename_i hany
          constructor
          · rintro ⟨⟩
            exact ⟨workers, joined, Fallible.mapM_eq_ok.mp hworkers, Fallible.mapM_eq_ok.mp hjoined,
              horphan.mp (eq_false_of_ne_true hany), rfl⟩
          · rintro ⟨workers', joined', hloaded, hsurfaces, -, rfl⟩
            cases Except.ok.inj (hworkers.symm.trans (Fallible.mapM_eq_ok.mpr hloaded))
            cases Except.ok.inj (hjoined.symm.trans (Fallible.mapM_eq_ok.mpr hsurfaces))
            rfl

theorem loadMapping_eq_ok {yaml : Yaml} {path : List String} {payload : Dict Json}
    (h : loadMapping yaml tree path = .ok payload) : ∃ bytes text,
      tree.lookup path = some { bytes := some bytes } ∧ yaml.readText bytes = some text ∧
        yaml.load text = .mapping payload := by
  unfold loadMapping at h
  split at h
  · cases h
  · rename_i payload' hload
    cases h
    unfold loadYaml at hload
    split at hload
    · cases hload
    · rename_i entry hentry
      obtain ⟨isFile, bytes⟩ := entry
      cases isFile with
      | false => cases hload
      | true =>
        cases bytes with
        | none => cases hload
        | some bytes =>
          simp only [if_true] at hload
          split at hload
          · cases hload
          · rename_i text htext
            refine ⟨bytes, text, hentry, htext, ?_⟩
            split at hload
            · cases hload
            · exact Except.ok.inj hload
  · cases h

theorem requiredRef_eq_ok {py : Builtins} {env : Environment} {payload : Dict Json}
    {field ref : String} (h : requiredRef py env payload field = .ok ref) :
    env.strip (strOrEmpty py (payload.get? field)) = ref ∧ ref ≠ "" := by
  unfold requiredRef at h
  dsimp only at h
  split at h
  · cases h
  · rename_i hne
    cases h
    exact ⟨rfl, hne⟩

theorem loadWorker_eq_ok {py : Builtins} {env : Environment} {yaml : Yaml} {path : List String}
    {worker : String × Dict Json} : loadWorker py env yaml tree path = .ok worker ↔
      loadMapping yaml tree path = .ok worker.2 ∧
        requiredRef py env worker.2 "worker_ref" = .ok worker.1 := by
  obtain ⟨key, payload⟩ := worker
  rw [loadWorker]
  cases hload : loadMapping yaml tree path with
  | error e =>
    refine iff_of_false nofun ?_
    rintro ⟨hpayload, -⟩
    cases hpayload
  | ok found =>
    cases href : requiredRef py env found "worker_ref" with
    | error e =>
      simp only [href]
      refine iff_of_false nofun ?_
      rintro ⟨hpayload, hkey⟩
      cases hpayload
      cases href.symm.trans hkey
    | ok ref =>
      simp only [href, Except.map, Except.ok.injEq, Prod.mk.injEq]
      constructor
      · rintro ⟨rfl, rfl⟩
        exact ⟨rfl, href⟩
      · rintro ⟨rfl, hkey⟩
        exact ⟨Except.ok.inj (href.symm.trans hkey), rfl⟩

theorem loadSurface_eq_ok {py : Builtins} {env : Environment} {yaml : Yaml} {path : List String}
    {workers : List (String × Dict Json)} {entry : String × Dict Json}
    (h : loadSurface py env yaml tree workers path = .ok entry) :
    ∃ surface ref worker, loadMapping yaml tree path = .ok surface ∧
      requiredRef py env surface "surface_ref" = .ok ref ∧
      requiredRef py env surface "worker_ref" = .ok entry.1 ∧
      workers.reverse.lookup entry.1 = some worker ∧ entry.2 = joinedPayload ref surface worker := by
  obtain ⟨surface, hload, h⟩ := Fallible.bind_eq_ok.mp h
  obtain ⟨ref, href, h⟩ := Fallible.bind_eq_ok.mp h
  obtain ⟨key, hkey, h⟩ := Fallible.bind_eq_ok.mp h
  split at h
  · cases h
  · rename_i worker hworker
    split at h
    · cases h
    · cases h
      exact ⟨surface, ref, worker, hload, href, hkey, hworker, rfl⟩

end Gpucall
