import Gpucall.Admin.FailedActivation
import Gpucall.Lib.OptionList

/-! A tuple that is split into a surface and a worker and loaded from these again: which of its fields come
back. -/

namespace Gpucall

variable {pydantic : Pydantic} {py : Builtins} {env : Environment} {yaml : Yaml} {conv : Conversions}
  {candidate tuple : Dict Json} {models : Dict CandidateModel}

/-! ## The fields of a tuple -/

/-- The fields that may be left out, and then are `None`. -/
def SpecField.nullable (field : SpecField) : Bool :=
  match field.type, field.default with
  | .optional _, some .none => true
  | _, _ => false

/-- The fields that are never `None` in a tuple made from a candidate. -/
def definiteFields : List String :=
  ["name", "adapter", "max_data_classification", "trust_profile", "gpu", "vram_gb", "max_model_len",
    "cost_per_second", "modes", "input_contracts", "stream_contract", "supports_vision",
    "provider_params"]

/-- The fields of a tuple that go into neither file. -/
def lostFields : List String :=
  ["project_id", "resource_group", "network", "subnet", "service_account"]

/-- The fields that no tuple made from a candidate has. -/
def foreignFields : List String :=
  ["standing_cost_per_second", "standing_cost_window_seconds", "endpoint_cost_per_second",
    "endpoint_cost_window_seconds", "controlled_runtime_ref"]

/-- What happens to a field, by its name. -/
theorem specField_cases : ∀ field ∈ executionTupleFields,
    (field.nullable = true ∨ field.name ∈ definiteFields) ∧
      (field.name = "name" ∨ field.name = "account_ref" ∨ field.name = "provider_params" ∨
        field.name ∈ lostFields ∨ field.name ∈ foreignFields ∨
        field.name ∈ surfaceFields ∨ field.name ∈ workerFields) := by
  decide +kernel

theorem nodup_executionTupleFields : (executionTupleFields.map SpecField.name).Nodup := by
  decide +kernel

/-- A field as an entry of the schema -/
def SpecField.entry (pydantic : Pydantic) (field : SpecField) : String × FieldSpec Json SpecValue :=
  (field.name, { parse := field.type.parse pydantic, default := field.default })

/-- A field that may be `None` only looks at values that are not. -/
theorem fieldValue_nullable {field : SpecField} (hnullable : field.nullable = true)
    (payload : Dict Json) : Schema.fieldValue payload.get? (field.entry pydantic) =
      match given payload field.name with
      | none => some .none
      | some value => field.type.parse pydantic value := by
  obtain ⟨name, type, default⟩ := field
  unfold SpecField.nullable at hnullable
  split at hnullable
  · rename_i type htype hdefault
    cases htype
    cases hdefault
    rw [Schema.fieldValue, given, SpecField.entry]
    cases payload.get? name with
    | none => rfl
    | some value => cases value <;> rfl
  · cases hnullable

/-- Such a field is `None` exactly where it is not given. -/
theorem fieldValue_eq_none_iff {field : SpecField} (hnullable : field.nullable = true)
    {payload : Dict Json} : Schema.fieldValue payload.get? (field.entry pydantic) = some .none ↔
      given payload field.name = none := by
  rw [fieldValue_nullable hnullable]
  cases hgiven : given payload field.name with
  | none => simp
  | some value =>
    refine iff_of_false ?_ nofun
    obtain ⟨-, hnull⟩ := given_eq_some.mp hgiven
    obtain ⟨name, type, default⟩ := field
    unfold SpecField.nullable at hnullable
    split at hnullable
    · rename_i type htype hdefault
      cases htype
      intro hparse
      have hplain : ((type.parse pydantic value).map SpecValue.plain) = some .none := by
        rw [← hparse]
        cases value <;> first | rfl | exact absurd rfl hnull
      obtain ⟨_, -, hvalue⟩ := Option.map_eq_some_iff.mp hplain
      cases hvalue
    · cases hnullable

theorem given_of_get?_eq {payload payload' : Dict Json} {field : String}
    (h : payload.get? field = given payload' field) : given payload field = given payload' field := by
  rw [given, h, given, Option.filter_filter]
  simp only [Bool.and_self]

theorem fieldValue_congr {field : SpecField} {payload payload' : Dict Json}
    (h : payload.get? field.name = payload'.get? field.name) :
    Schema.fieldValue payload.get? (field.entry pydantic) =
      Schema.fieldValue payload'.get? (field.entry pydantic) := by
  rw [Schema.fieldValue, Schema.fieldValue]
  simp only [SpecField.entry, h]

/-! ## Tuples made from candidates -/

/-- What is known of an accepted tuple. -/
structure IsCandidateTuple (pydantic : Pydantic) (py : Builtins) (env : Environment)
    (tuple : Dict Json) : Prop where
  definite : ∀ field ∈ definiteFields, (given tuple field).isSome = true
  foreign : ∀ field ∈ foreignFields, tuple.get? field = none
  name : ∃ name, tuple.get? "name" = some (.str name) ∧ name ≠ ""
  adapter : ∃ adapter, tuple.get? "adapter" = some (.str adapter) ∧
    (given tuple "execution_surface" = none → surfaceForAdapter env adapter = none)
  params : ∃ fields, tuple.get? "provider_params" = some (.obj fields)
  accepted : (modelValidate pydantic tuple).isSome = true

theorem positiveInt_eq_ok {value : Option Json} {default : ℕ} {result : Json}
    (h : positiveInt conv value default = .ok result) : ∃ text, result = .number text := by
  unfold positiveInt at h
  split at h
  · cases h
    exact ⟨_, rfl⟩
  · cases h
    exact ⟨_, rfl⟩
  · cases h

theorem floatOr_eq_ok {value : Option Json} {result : Json} (h : floatOr conv value = .ok result) :
    ∃ text, result = .number text := by
  unfold floatOr at h
  split at h
  · cases h
    exact ⟨_, rfl⟩
  · rename_i value _
    obtain ⟨text, -, rfl⟩ := Fallible.map_eq_ok.mp h
    exact ⟨_, rfl⟩

theorem dictOrEmpty_eq_ok {value : Option Json} {result : Json}
    (h : dictOrEmpty conv value = .ok result) : ∃ fields, result = .obj fields := by
  unfold dictOrEmpty at h
  split at h
  · cases h
    exact ⟨_, rfl⟩
  · cases h
    exact ⟨_, rfl⟩
  · rename_i value _ _
    obtain ⟨fields, -, rfl⟩ := Fallible.map_eq_ok.mp h
    exact ⟨_, rfl⟩

theorem strings_ne_null (value : Option Json) : strings py value ≠ .null := by
  unfold strings
  split <;> nofun

/-- A tuple that is accepted is the source tuple, with numbers and parameters converted. -/
theorem tupleFromCandidate_eq_ok
    (h : tupleFromCandidate pydantic py env conv candidate models = .ok tuple) :
    strOrEmpty py (candidate.get? "name") ≠ "" ∧ (modelValidate pydantic tuple).isSome = true ∧
      ∃ model vramGb maxModelLen costPerSecond providerParams,
        tuple = sourceTuple py env candidate model ⟨.number vramGb, .number maxModelLen,
          .number costPerSecond, .obj providerParams⟩ := by
  unfold tupleFromCandidate at h
  dsimp only at h
  split_ifs at h with hnames
  rw [not_or] at hnames
  split at h
  · cases h
  rename_i model _
  obtain ⟨vramGb, hvram, h⟩ := Fallible.bind_eq_ok.mp h
  obtain ⟨maxModelLen, hlength, h⟩ := Fallible.bind_eq_ok.mp h
  obtain ⟨costPerSecond, hcost, h⟩ := Fallible.bind_eq_ok.mp h
  obtain ⟨providerParams, hparams, h⟩ := Fallible.bind_eq_ok.mp h
  obtain ⟨vram, rfl⟩ := positiveInt_eq_ok hvram
  obtain ⟨length, rfl⟩ := positiveInt_eq_ok hlength
  obtain ⟨cost, rfl⟩ := floatOr_eq_ok hcost
  obtain ⟨params, rfl⟩ := dictOrEmpty_eq_ok hparams
  split_ifs at h with haccepted
  cases h
  exact ⟨hnames.1, haccepted, model, vram, length, cost, params, rfl⟩

theorem isCandidateTuple (h : tupleFromCandidate pydantic py env conv candidate models = .ok tuple) :
    IsCandidateTuple pydantic py env tuple := by
  obtain ⟨hname, haccepted, model, vramGb, maxModelLen, costPerSecond, providerParams, rfl⟩ :=
    tupleFromCandidate_eq_ok h
  refine ⟨?_, ?_, ⟨_, rfl, hname⟩, ⟨strOrEmpty py (candidate.get? "adapter"), rfl, ?_⟩, ⟨_, rfl⟩,
    haccepted⟩
  · intro field hfield
    refine Option.isSome_iff_exists.mpr ?_
    simp only [given_eq_some]
    simp only [definiteFields, List.mem_cons, List.not_mem_nil, or_false] at hfield
    obtain rfl | rfl | rfl | rfl | rfl | rfl | rfl | rfl | rfl | rfl | rfl | rfl | rfl := hfield
    · exact ⟨_, rfl, by rintro ⟨⟩⟩
    · exact ⟨_, rfl, by rintro ⟨⟩⟩
    · exact ⟨_, rfl, by rintro ⟨⟩⟩
    · exact ⟨_, rfl, by rintro ⟨⟩⟩
    · exact ⟨_, rfl, by rintro ⟨⟩⟩
    · exact ⟨_, rfl, by rintro ⟨⟩⟩
    · exact ⟨_, rfl, by rintro ⟨⟩⟩
    · exact ⟨_, rfl, by rintro ⟨⟩⟩
    · exact ⟨_, rfl, strings_ne_null _⟩
    · exact ⟨_, rfl, strings_ne_null _⟩
    · exact ⟨_, rfl, valueOr_ne_null (by rintro ⟨⟩)⟩
    · exact ⟨_, rfl, by rintro ⟨⟩⟩
    · exact ⟨_, rfl, by rintro ⟨⟩⟩
  · intro field hfield
    refine Option.eq_none_iff_forall_ne_some.mpr fun value hvalue => ?_
    have hkey := Dict.mem_keys.mpr ⟨value, hvalue⟩
    rw [Dict.keys, sourceTuple, List.map_append, map_fst_placement] at hkey
    have hmem : field ∈ sourceNames ++ placementFields := by
      obtain hkey | hkey := List.mem_append.mp hkey
      · exact List.mem_append_left _ hkey
      · exact List.mem_append_right _ (List.mem_filter.mp hkey).1
    have hapart : ∀ field ∈ foreignFields, field ∉ sourceNames ++ placementFields := by decide +kernel
    exact hapart field hfield hmem
  · intro hgiven
    refine Option.eq_none_iff_forall_ne_some.mpr fun surface hsurface => ?_
    have hvalue : valueOr (candidate.get? "execution_surface")
        (((surfaceForAdapter env (strOrEmpty py (candidate.get? "adapter"))).map Json.str).getD .null) ≠
          .null := by
      rw [hsurface]
      exact valueOr_ne_null (by rintro ⟨⟩)
    cases hgiven.symm.trans (given_eq_some.mpr ⟨rfl, hvalue⟩)

/-! ## The payload that is loaded again -/

/-- The payload of a surface and its worker, as it is validated. -/
def rejoinedPayload (py : Builtins) (env : Environment) (tuple : Dict Json) : Dict Json :=
  withExecutionSurface py env (joinedPayload (env.strip (tupleName py tuple))
    (surfacePayload py env tuple) (workerPayload py env tuple))

theorem get?_withExecutionSurface {payload : Dict Json} {field : String}
    (h : field ≠ "execution_surface") :
    (withExecutionSurface py env payload).get? field = payload.get? field := by
  unfold withExecutionSurface
  split
  · rfl
  · dsimp only
    split
    · rw [Dict.get?_set, if_neg h]
    · rfl

theorem get?_joined (tuple : Dict Json) (field : String) (name : String) :
    (joinedPayload name (surfacePayload py env tuple) (workerPayload py env tuple)).get? field =
      if field ∈ joinNames then none
      else if field = "name" then some (.str name)
      else if field = "account_ref" then some (.str (accountRef py env tuple))
      else if field = "provider_params" then some (valueOr (tuple.get? "provider_params") (.obj []))
      else if field ∈ surfaceFields ∨ field ∈ workerFields then given tuple field
      else none := by
  rw [get?_joinedPayload, get?_surfacePayload, get?_workerPayload]
  by_cases hjoin : field ∈ joinNames
  · rw [if_pos hjoin, if_pos hjoin]
  rw [if_neg hjoin, if_neg hjoin]
  by_cases hname : field = "name"
  · rw [if_pos hname, if_pos hname]
  rw [if_neg hname, if_neg hname]
  by_cases haccount : field = "account_ref"
  · subst haccount
    rfl
  by_cases hparams : field = "provider_params"
  · subst hparams
    rfl
  rw [if_neg haccount, if_neg hparams]
  simp only [joinNames, List.mem_cons, List.not_mem_nil, or_false, not_or] at hjoin
  obtain ⟨hsurface, hworker, hstock⟩ := hjoin
  simp only [List.lookup_cons, beq_eq_false_iff_ne.mpr hsurface, beq_eq_false_iff_ne.mpr hworker,
    beq_eq_false_iff_ne.mpr hstock, beq_eq_false_iff_ne.mpr haccount, beq_eq_false_iff_ne.mpr hparams,
    List.lookup_nil]
  by_cases hinWorker : field ∈ workerFields <;> by_cases hinSurface : field ∈ surfaceFields <;>
    simp [hinWorker, hinSurface]

theorem tupleName_eq {name : String} (h : tuple.get? "name" = some (.str name)) :
    tupleName py tuple = name := by
  rw [tupleName, h]
  rfl

/-- A field other than the name, the account and the execution surface has in the payload what it has in
the tuple, unless it is lost. -/
theorem fieldValue_rejoined {field : SpecField} (htuple : IsCandidateTuple pydantic py env tuple)
    (hfield : field ∈ executionTupleFields) (hname : field.name ≠ "name")
    (haccount : field.name ≠ "account_ref") (hsurface : field.name ≠ "execution_surface")
    (hlost : field.name ∉ lostFields) :
    Schema.fieldValue (rejoinedPayload py env tuple).get? (field.entry pydantic) =
      Schema.fieldValue tuple.get? (field.entry pydantic) := by
  have hjoin : ∀ field ∈ executionTupleFields, field.name ∉ joinNames := by decide +kernel
  have hget : (rejoinedPayload py env tuple).get? field.name =
      if field.name = "provider_params" then
        some (valueOr (tuple.get? "provider_params") (.obj []))
      else if field.name ∈ surfaceFields ∨ field.name ∈ workerFields then given tuple field.name
      else none := by
    rw [rejoinedPayload, get?_withExecutionSurface hsurface, get?_joined,
      if_neg (hjoin field hfield), if_neg hname, if_neg haccount]
  obtain ⟨hkind, hplace⟩ := specField_cases field hfield
  by_cases hparams : field.name = "provider_params"
  · obtain ⟨fields, hfields⟩ := htuple.params
    apply fieldValue_congr
    rw [hget, if_pos hparams, hparams, hfields]
    cases fields <;> rfl
  rw [if_neg hparams] at hget
  by_cases hforeign : field.name ∈ foreignFields
  · have hapart : ∀ name ∈ foreignFields, ¬ (name ∈ surfaceFields ∨ name ∈ workerFields) := by
      decide +kernel
    apply fieldValue_congr
    rw [hget, if_neg (hapart _ hforeign), htuple.foreign _ hforeign]
  have hcopied : field.name ∈ surfaceFields ∨ field.name ∈ workerFields := by
    simpa [hname, haccount, hparams, hlost, hforeign] using hplace
  rw [if_pos hcopied] at hget
  obtain hnullable | hdefinite := hkind
  · rw [fieldValue_nullable hnullable, fieldValue_nullable hnullable, given_of_get?_eq hget]
  · apply fieldValue_congr
    obtain ⟨value, hvalue⟩ := Option.isSome_iff_exists.mp (htuple.definite _ hdefinite)
    rw [hget, hvalue, (given_eq_some.mp hvalue).1]

/-! ## The execution surface -/

theorem isSome_fieldValue {field : SpecField} (htuple : IsCandidateTuple pydantic py env tuple)
    (hfield : field ∈ executionTupleFields) :
    (Schema.fieldValue tuple.get? (field.entry pydantic)).isSome = true :=
  (Schema.validate_isSome_iff.mp htuple.accepted).2 _ (List.mem_map_of_mem hfield)

/-- The field of the execution surface -/
def surfaceField : SpecField := .optional "execution_surface" (.oneOf executionSurfaces)

theorem surfaceField_mem : surfaceField ∈ executionTupleFields := by
  simp [surfaceField, executionTupleFields]

theorem given_execution_surface (htuple : IsCandidateTuple pydantic py env tuple) :
    given tuple "execution_surface" = none ∨
      ∃ surface, given tuple "execution_surface" = some (.str surface) ∧ surface ≠ "" := by
  cases hgiven : given tuple "execution_surface" with
  | none => exact Or.inl rfl
  | some value =>
    have hvalue := isSome_fieldValue htuple surfaceField_mem
    rw [fieldValue_nullable rfl, surfaceField, SpecField.optional, hgiven] at hvalue
    cases value with
    | str surface =>
      refine Or.inr ⟨surface, rfl, ?_⟩
      rintro rfl
      exact Bool.false_ne_true hvalue
    | null => cases (given_eq_some.mp hgiven).2 rfl
    | bool value => cases hvalue
    | number text => cases hvalue
    | arr items => cases hvalue
    | obj fields => cases hvalue

/-- What the payload has as its execution surface: that of the tuple, or the one that the loader takes
for a tuple without adapter. -/
theorem get?_rejoined_surface (htuple : IsCandidateTuple pydantic py env tuple) :
    (rejoinedPayload py env tuple).get? "execution_surface" =
      (given tuple "execution_surface").or
        (if strOrEmpty py (tuple.get? "adapter") = "" then
          (surfaceForAdapter env "echo").map Json.str else none) := by
  obtain ⟨adapter, hadapter, hsurface⟩ := htuple.adapter
  have hjoined (field : String) (hfield : field ∈ ["adapter", "execution_surface"]) (name : String) :
      (joinedPayload name (surfacePayload py env tuple) (workerPayload py env tuple)).get? field =
        given tuple field := by
    simp only [List.mem_cons, List.not_mem_nil, or_false] at hfield
    obtain rfl | rfl := hfield <;> rw [get?_joined] <;> rfl
  have hgivenAdapter : given tuple "adapter" = some (.str adapter) :=
    given_eq_some.mpr ⟨hadapter, nofun⟩
  have htext : strOrEmpty py (tuple.get? "adapter") = adapter := by
    rw [hadapter, strOrEmpty]
    by_cases hempty : adapter = ""
    · subst hempty
      rfl
    · rw [Option.filter_some, if_pos (by simpa [Json.truthy] using hempty)]
      rfl
  rw [htext, rejoinedPayload, withExecutionSurface, hjoined _ (by simp), hjoined _ (by simp),
    hgivenAdapter]
  obtain hgiven | ⟨surface, hgiven, hne⟩ := given_execution_surface htuple
  · rw [hgiven, if_neg (by simp), Option.none_or]
    by_cases hempty : adapter = ""
    · subst hempty
      rw [if_pos rfl]
      have hecho : ((some (Json.str "")).filter Json.truthy).elim "echo" (pyStr py) = "echo" := rfl
      simp only [hecho]
      cases hdefault : surfaceForAdapter env "echo" with
      | none =>
        rw [hjoined _ (by simp), hgiven]
        rfl
      | some surface =>
        rw [Dict.get?_set_self]
        rfl
    · have htruthy : ((some (Json.str adapter)).filter Json.truthy).elim "echo" (pyStr py) = adapter := by
        rw [Option.filter_some, if_pos (by simpa [Json.truthy] using hempty)]
        rfl
      simp only [htruthy, hsurface hgiven, if_neg hempty]
      rw [hjoined _ (by simp), hgiven]
  · rw [hgiven, if_pos (by simpa [Json.truthy] using hne), hjoined _ (by simp), hgiven]
    rfl

/-! ## What comes back -/

/-- All fields but the account come back. -/
def Rejoins (spec record : TupleRecord) : Prop :=
  ∀ field, field ≠ "account_ref" → List.lookup field record = List.lookup field spec

/-- Nothing of the tuple is lost: its name has no blanks around it, no other surface is taken for an
empty adapter, and it has none of the fields that go into neither file. -/
structure KeepsFields (py : Builtins) (env : Environment) (tuple : Dict Json) : Prop where
  stripped : env.strip (tupleName py tuple) = tupleName py tuple
  surface : strOrEmpty py (tuple.get? "adapter") = "" → given tuple "execution_surface" = none →
    surfaceForAdapter env "echo" = none
  placement : ∀ field ∈ lostFields, given tuple field = none

theorem lookup_modelValidate {payload : Dict Json} {record : TupleRecord}
    (h : modelValidate pydantic payload = some record) {field : SpecField}
    (hfield : field ∈ executionTupleFields) :
    List.lookup field.name record = Schema.fieldValue payload.get? (field.entry pydantic) := by
  have hnodup : ((executionTupleSchema pydantic).map Prod.fst).Nodup := by
    rw [executionTupleSchema, List.map_map]
    exact nodup_executionTupleFields
  let schema : Dict (FieldSpec Json SpecValue) := ⟨executionTupleSchema pydantic, hnodup⟩
  have hentry : (executionTupleSchema pydantic).lookup field.name = some (field.entry pydantic).2 :=
    (Dict.get?_eq_some : schema.get? field.name = _ ↔ _).mpr (List.mem_map_of_mem hfield)
  rw [Schema.lookup_of_validate h, hentry, Option.bind_some]
  rfl

theorem lookup_modelValidate_eq_none {payload : Dict Json} {record : TupleRecord}
    (h : modelValidate pydantic payload = some record) {name : String}
    (hname : ∀ field ∈ executionTupleFields, field.name ≠ name) : List.lookup name record = none := by
  have hnone : (executionTupleSchema pydantic).lookup name = none := by
    refine List.lookup_eq_none_iff.mpr fun entry hentry => ?_
    obtain ⟨field, hfield, rfl⟩ := List.mem_map.mp hentry
    exact bne_iff_ne.mpr fun heq => hname field hfield heq.symm
  rw [Schema.lookup_of_validate h, hnone, Option.bind_none]

/-- Two records agree when their fields do. -/
theorem rejoins_iff {payload : Dict Json} {spec record : TupleRecord}
    (hspec : modelValidate pydantic tuple = some spec)
    (hrecord : modelValidate pydantic payload = some record) :
    Rejoins spec record ↔ ∀ field ∈ executionTupleFields, field.name ≠ "account_ref" →
      Schema.fieldValue payload.get? (field.entry pydantic) =
        Schema.fieldValue tuple.get? (field.entry pydantic) := by
  constructor
  · intro h field hfield haccount
    rw [← lookup_modelValidate hrecord hfield, ← lookup_modelValidate hspec hfield]
    exact h field.name haccount
  · intro h name haccount
    by_cases hname : ∃ field ∈ executionTupleFields, field.name = name
    · obtain ⟨field, hfield, rfl⟩ := hname
      rw [lookup_modelValidate hrecord hfield, lookup_modelValidate hspec hfield]
      exact h field hfield haccount
    · have habsent : ∀ field ∈ executionTupleFields, field.name ≠ name := fun field hfield heq =>
        hname ⟨field, hfield, heq⟩
      rw [lookup_modelValidate_eq_none hrecord habsent, lookup_modelValidate_eq_none hspec habsent]

theorem field_eq_of_name {field field' : SpecField} (hfield : field ∈ executionTupleFields)
    (hfield' : field' ∈ executionTupleFields) (hname : field.name = field'.name) : field = field' :=
  List.inj_on_of_nodup_map nodup_executionTupleFields hfield hfield' hname

/-- The field of the name -/
def nameField : SpecField := .required "name" .str

theorem nameField_mem : nameField ∈ executionTupleFields := by
  simp [nameField, executionTupleFields]

theorem get?_rejoined_name :
    (rejoinedPayload py env tuple).get? "name" = some (.str (env.strip (tupleName py tuple))) := by
  rw [rejoinedPayload, get?_withExecutionSurface (by decide), get?_joined]
  rfl

theorem get?_rejoined_lost {field : String} (h : field ∈ lostFields) :
    (rejoinedPayload py env tuple).get? field = none := by
  simp only [lostFields, List.mem_cons, List.not_mem_nil, or_false] at h
  obtain rfl | rfl | rfl | rfl | rfl := h <;>
    · rw [rejoinedPayload, get?_withExecutionSurface (by decide), get?_joined]
      rfl

theorem fieldValue_name (payload : Dict Json) {name : String}
    (h : payload.get? "name" = some (.str name)) :
    Schema.fieldValue payload.get? (nameField.entry pydantic) = some (.plain (.text name)) := by
  simp only [Schema.fieldValue, SpecField.entry, nameField, SpecField.required, h]
  rfl

theorem given_rejoined_surface (htuple : IsCandidateTuple pydantic py env tuple) :
    given (rejoinedPayload py env tuple) "execution_surface" = none ↔
      given tuple "execution_surface" = none ∧
        (strOrEmpty py (tuple.get? "adapter") = "" → surfaceForAdapter env "echo" = none) := by
  rw [given, get?_rejoined_surface htuple]
  cases hgiven : given tuple "execution_surface" with
  | some value =>
    obtain ⟨-, hnull⟩ := given_eq_some.mp hgiven
    cases value <;> simp_all
  | none =>
    rw [Option.none_or]
    split_ifs with hempty
    · cases surfaceForAdapter env "echo" <;> simp [hempty]
    · simp [hempty]

theorem fieldValue_surface_eq_none_iff {payload : Dict Json} :
    Schema.fieldValue payload.get? (surfaceField.entry pydantic) = some .none ↔
      given payload "execution_surface" = none :=
  @fieldValue_eq_none_iff pydantic surfaceField rfl payload

theorem fieldValue_surface_congr {payload payload' : Dict Json}
    (h : given payload "execution_surface" = given payload' "execution_surface") :
    Schema.fieldValue payload.get? (surfaceField.entry pydantic) =
      Schema.fieldValue payload'.get? (surfaceField.entry pydantic) := by
  have hvalue := @fieldValue_nullable pydantic surfaceField rfl
  rw [hvalue payload, hvalue payload']
  exact congrArg (fun value : Option Json => match value with
    | none => some SpecValue.none
    | some value => surfaceField.type.parse pydantic value) h

/-- The execution surface comes back unless another is taken for an empty adapter. -/
theorem fieldValue_rejoined_surface_iff (htuple : IsCandidateTuple pydantic py env tuple) :
    Schema.fieldValue (rejoinedPayload py env tuple).get? (surfaceField.entry pydantic) =
        Schema.fieldValue tuple.get? (surfaceField.entry pydantic) ↔
      (strOrEmpty py (tuple.get? "adapter") = "" → given tuple "execution_surface" = none →
        surfaceForAdapter env "echo" = none) := by
  cases hgiven : given tuple "execution_surface" with
  | none =>
    rw [fieldValue_surface_eq_none_iff.mpr hgiven, fieldValue_surface_eq_none_iff,
      given_rejoined_surface htuple]
    simp [hgiven]
  | some value =>
    refine iff_of_true (fieldValue_surface_congr ?_) nofun
    rw [hgiven, given_eq_some, get?_rejoined_surface htuple, hgiven, Option.some_or]
    exact ⟨rfl, (given_eq_some.mp hgiven).2⟩

/-- The lost fields, as fields of the schema -/
theorem lostField_mem : ∀ name ∈ lostFields, ∃ field ∈ executionTupleFields,
    field.name = name ∧ field.nullable = true ∧ name ≠ "account_ref" := by decide +kernel

/-- A lost field comes back only as `None`. -/
theorem fieldValue_rejoined_lost_iff {field : SpecField} (hnullable : field.nullable = true)
    (hlost : field.name ∈ lostFields) :
    Schema.fieldValue (rejoinedPayload py env tuple).get? (field.entry pydantic) =
        Schema.fieldValue tuple.get? (field.entry pydantic) ↔ given tuple field.name = none := by
  have hnone : given (rejoinedPayload py env tuple) field.name = none := by
    rw [given, get?_rejoined_lost hlost]
    rfl
  rw [(fieldValue_eq_none_iff hnullable).mpr hnone, eq_comm, fieldValue_eq_none_iff hnullable]

/-- Which fields come back with their value. -/
theorem fieldValue_rejoined_iff (htuple : IsCandidateTuple pydantic py env tuple) :
    (∀ field ∈ executionTupleFields, field.name ≠ "account_ref" →
      Schema.fieldValue (rejoinedPayload py env tuple).get? (field.entry pydantic) =
        Schema.fieldValue tuple.get? (field.entry pydantic)) ↔ KeepsFields py env tuple := by
  obtain ⟨name, hname, -⟩ := htuple.name
  have hnameField : Schema.fieldValue (rejoinedPayload py env tuple).get? (nameField.entry pydantic) =
      Schema.fieldValue tuple.get? (nameField.entry pydantic) ↔
        env.strip (tupleName py tuple) = tupleName py tuple := by
    rw [fieldValue_name _ get?_rejoined_name, fieldValue_name _ hname, tupleName_eq hname]
    simp
  constructor
  · intro h
    refine ⟨hnameField.mp (h nameField nameField_mem (by decide)),
      (fieldValue_rejoined_surface_iff htuple).mp (h surfaceField surfaceField_mem (by decide)), ?_⟩
    intro lost hlost
    obtain ⟨field, hfield, rfl, hnullable, haccount⟩ := lostField_mem lost hlost
    exact (fieldValue_rejoined_lost_iff hnullable hlost).mp (h field hfield haccount)
  · rintro ⟨hstripped, hsurface, hplacement⟩ field hfield haccount
    by_cases hfieldName : field.name = "name"
    · obtain rfl : field = nameField := field_eq_of_name hfield nameField_mem hfieldName
      exact hnameField.mpr hstripped
    by_cases hfieldSurface : field.name = "execution_surface"
    · obtain rfl : field = surfaceField := field_eq_of_name hfield surfaceField_mem hfieldSurface
      exact (fieldValue_rejoined_surface_iff htuple).mpr hsurface
    by_cases hlost : field.name ∈ lostFields
    · obtain ⟨other, hother, hotherName, hnullable, -⟩ := lostField_mem field.name hlost
      obtain rfl : other = field := field_eq_of_name hother hfield hotherName
      exact (fieldValue_rejoined_lost_iff hnullable hlost).mpr (hplacement _ hlost)
    · exact fieldValue_rejoined htuple hfield hfieldName haccount hfieldSurface hlost

/-- The field of the account -/
def accountField : SpecField := .optional "account_ref" .str

theorem accountField_mem : accountField ∈ executionTupleFields := by
  simp [accountField, executionTupleFields]

theorem rejoined_names {name : String} {value : Json}
    (h : (rejoinedPayload py env tuple).get? name = some value) :
    name ∈ executionTupleFields.map SpecField.name := by
  have hnames : ∀ name ∈ "execution_surface" :: "name" :: "account_ref" :: "provider_params" ::
      (surfaceFields ++ workerFields), name ∈ executionTupleFields.map SpecField.name := by
    decide +kernel
  apply hnames
  by_cases hsurface : name = "execution_surface"
  · rw [hsurface]
    exact List.mem_cons_self
  rw [rejoinedPayload, get?_withExecutionSurface hsurface, get?_joined] at h
  split_ifs at h with hjoin hname haccount hparams hcopied
  · simp [hname]
  · simp [haccount]
  · simp [hparams]
  · simp [hcopied]

/-- The payload is accepted wherever it has the values of the tuple. -/
theorem isSome_rejoined (htuple : IsCandidateTuple pydantic py env tuple)
    (hkeeps : KeepsFields py env tuple) :
    (modelValidate pydantic (rejoinedPayload py env tuple)).isSome = true := by
  refine Schema.validate_isSome_iff.mpr ⟨fun name hname => ?_, fun entry hentry => ?_⟩
  · rw [executionTupleSchema, List.map_map]
    obtain ⟨value, hvalue⟩ := Dict.mem_keys.mp hname
    exact rejoined_names hvalue
  · obtain ⟨field, hfield, rfl⟩ := List.mem_map.mp hentry
    by_cases haccount : field.name = "account_ref"
    · obtain rfl : field = accountField := field_eq_of_name hfield accountField_mem haccount
      have hvalue : (rejoinedPayload py env tuple).get? "account_ref" =
          some (.str (accountRef py env tuple)) := by
        rw [rejoinedPayload, get?_withExecutionSurface (by decide), get?_joined]
        rfl
      simp only [Schema.fieldValue, accountField, SpecField.optional, hvalue]
      rfl
    · have hsame := (fieldValue_rejoined_iff htuple).mpr hkeeps field hfield haccount
      have hsome := isSome_fieldValue htuple hfield
      rw [← hsame] at hsome
      exact hsome

/-- A tuple comes back from its payload exactly when it keeps its fields. -/
theorem exists_rejoins_iff {spec : TupleRecord} (htuple : IsCandidateTuple pydantic py env tuple)
    (hspec : modelValidate pydantic tuple = some spec) :
    (∃ record, modelValidate pydantic (rejoinedPayload py env tuple) = some record ∧
      Rejoins spec record) ↔ KeepsFields py env tuple := by
  constructor
  · rintro ⟨record, hrecord, hrejoins⟩
    exact (fieldValue_rejoined_iff htuple).mp ((rejoins_iff hspec hrecord).mp hrejoins)
  · intro hkeeps
    obtain ⟨record, hrecord⟩ := Option.isSome_iff_exists.mp (isSome_rejoined htuple hkeeps)
    exact ⟨record, hrecord, (rejoins_iff hspec hrecord).mpr ((fieldValue_rejoined_iff htuple).mpr hkeeps)⟩

/-! ## The two files -/

theorem requiredRef_text {payload : Dict Json} {field text : String}
    (h : payload.get? field = some (.str text)) :
    requiredRef py env payload field =
      if env.strip text = "" then .error .configError else .ok (env.strip text) := by
  have htext : strOrEmpty py (some (.str text)) = text := by
    by_cases hempty : text = ""
    · subst hempty
      rfl
    · rw [strOrEmpty, Option.filter_some, if_pos (by simpa [Json.truthy] using hempty)]
      rfl
  simp only [requiredRef, h, htext]

theorem requiredRef_none {payload : Dict Json} {field : String} (h : payload.get? field = none)
    (hstrip : env.strip "" = "") : requiredRef py env payload field = .error .configError := by
  rw [requiredRef, h]
  exact if_pos hstrip

/-- The two files of a tuple agree. -/
theorem not_disagree (htuple : IsCandidateTuple pydantic py env tuple) :
    (["account_ref", "adapter", "execution_surface"].any
      (disagree py (surfacePayload py env tuple) (workerPayload py env tuple))) = false := by
  have hsame (field : String) (value : Option Json)
      (hvalue : value = none ∨ ∃ text, value = some (.str text))
      (hsurface : given (surfacePayload py env tuple) field = value)
      (hworker : given (workerPayload py env tuple) field = value) :
      disagree py (surfacePayload py env tuple) (workerPayload py env tuple) field = false := by
    rw [disagree, hsurface, hworker]
    obtain rfl | ⟨text, rfl⟩ := hvalue
    · rfl
    · simp [pyEq]
  have hcopied (field : String) (hfield : field ∈ ["adapter", "execution_surface"]) :
      given (surfacePayload py env tuple) field = given tuple field ∧
        given (workerPayload py env tuple) field = given tuple field := by
    simp only [List.mem_cons, List.not_mem_nil, or_false] at hfield
    obtain rfl | rfl := hfield <;>
      exact ⟨given_of_get?_eq (get?_surfacePayload ..), given_of_get?_eq (get?_workerPayload ..)⟩
  obtain ⟨adapter, hadapter, -⟩ := htuple.adapter
  have hadapter' : given tuple "adapter" = some (.str adapter) := given_eq_some.mpr ⟨hadapter, by rintro ⟨⟩⟩
  have hsurface : given tuple "execution_surface" = none ∨
      ∃ text, given tuple "execution_surface" = some (.str text) := by
    obtain hnone | ⟨surface, hsurface, -⟩ := given_execution_surface htuple
    · exact Or.inl hnone
    · exact Or.inr ⟨surface, hsurface⟩
  rw [List.any_eq_false]
  intro field hfield
  rw [Bool.not_eq_true]
  simp only [List.mem_cons, List.not_mem_nil, or_false] at hfield
  obtain rfl | rfl | rfl := hfield
  · refine hsame _ (some (.str (accountRef py env tuple))) (Or.inr ⟨_, rfl⟩) ?_ ?_
    · rw [given, get?_surfacePayload]
      rfl
    · rw [given, get?_workerPayload]
      rfl
  · obtain ⟨hleft, hright⟩ := hcopied "adapter" (by simp)
    exact hsame _ _ (Or.inr ⟨adapter, hadapter'⟩) hleft hright
  · obtain ⟨hleft, hright⟩ := hcopied "execution_surface" (by simp)
    exact hsame _ _ hsurface hleft hright

/-- What is loaded from a directory with the two files of a tuple and no others. -/
theorem loadProviders_of_pair (htuple : IsCandidateTuple pydantic py env tuple) {tree : ConfigTree} {path path' : List String}
    (hsurfaces : hasFolder tree "surfaces" = true) (hworkers : hasFolder tree "workers" = true)
    (hpaths : ymlIn tree "surfaces" = [path]) (hpaths' : ymlIn tree "workers" = [path'])
    (hload : loadMapping yaml tree path = .ok (surfacePayload py env tuple))
    (hload' : loadMapping yaml tree path' = .ok (workerPayload py env tuple))
    {tuples : Dict TupleRecord} :
    loadProviders pydantic py env yaml tree = .ok tuples ↔
      env.strip (tupleName py tuple) ≠ "" ∧ ∃ record,
        modelValidate pydantic (rejoinedPayload py env tuple) = some record ∧
          tuples.entries = [(record.name, record)] := by
  have hrefs (payload : Dict Json) (field : String)
      (hvalue : payload.get? field = some (.str (tupleName py tuple))) :
      requiredRef py env payload field =
        if env.strip (tupleName py tuple) = "" then .error .configError
        else .ok (env.strip (tupleName py tuple)) := requiredRef_text hvalue
  have hsurfaceRef := hrefs (surfacePayload py env tuple) "surface_ref" (get?_surfacePayload ..)
  have hworkerRef := hrefs (surfacePayload py env tuple) "worker_ref" (get?_surfacePayload ..)
  have hworkerRef' := hrefs (workerPayload py env tuple) "worker_ref" (get?_workerPayload ..)
  by_cases hempty : env.strip (tupleName py tuple) = ""
  · have hworker : loadWorker py env yaml tree path' = .error .configError := by
      rw [loadWorker, hload']
      simp only [hworkerRef', if_pos hempty]
      rfl
    have hpayloads : loadSplitTuplePayloads py env yaml tree = .error .configError := by
      rw [loadSplitTuplePayloads, hsurfaces, hworkers, hpaths', List.mapM_cons, hworker]
      rfl
    rw [loadProviders, hpayloads]
    exact iff_of_false (by rintro ⟨⟩) fun h => h.1 hempty
  · have hworker : loadWorker py env yaml tree path' =
        .ok (env.strip (tupleName py tuple), workerPayload py env tuple) := by
      rw [loadWorker, hload']
      simp only [hworkerRef', if_neg hempty]
      rfl
    have hsurface : loadSurface py env yaml tree
        [(env.strip (tupleName py tuple), workerPayload py env tuple)] path =
          .ok (env.strip (tupleName py tuple), joinedPayload (env.strip (tupleName py tuple))
            (surfacePayload py env tuple) (workerPayload py env tuple)) := by
      rw [loadSurface, hload]
      simp only [bind, Except.bind, hsurfaceRef, hworkerRef, if_neg hempty, List.reverse_singleton,
        List.lookup_cons, beq_self_eq_true, not_disagree htuple, Bool.false_eq_true, if_false]
    have hpayloads : loadSplitTuplePayloads py env yaml tree =
        .ok [joinedPayload (env.strip (tupleName py tuple)) (surfacePayload py env tuple)
          (workerPayload py env tuple)] := by
      rw [loadSplitTuplePayloads, hsurfaces, hworkers, hpaths, hpaths', List.mapM_cons, hworker]
      simp [hsurface, bind, Except.bind, pure, Except.pure]
    rw [loadProviders, hpayloads, and_iff_right hempty]
    simp only [List.isEmpty_cons, Bool.not_false, if_true, loadTuples, tupleFromPayload]
    rw [← rejoinedPayload]
    cases hrecord : modelValidate pydantic (rejoinedPayload py env tuple) with
    | none => simp
    | some record =>
      have hset : (({} : Dict TupleRecord).set record.name record).entries =
          [(record.name, record)] := rfl
      simp only [Dict.keys, List.map_nil, List.not_mem_nil, if_false, hset, List.isEmpty_cons,
        Bool.false_eq_true, Except.ok.injEq, Option.some.injEq, exists_eq_left']
      constructor
      · rintro rfl
        exact hset
      · intro hentries
        exact Dict.ext_entries (hset.trans hentries.symm)

/-! ## Writing and loading -/

variable {root : Folder} {existsOutside : List String → Bool} {force : Bool} {tree : ConfigTree}

/-- The name of the tuple makes a file directly in the folder of the surfaces, and one in that of the
workers. -/
structure Lands (root : Folder) (name file file' : String) : Prop where
  surface : configPath root "surfaces" name = .inside ["surfaces", file]
  worker : configPath root "workers" name = .inside ["workers", file']
  isFileName : IsFileName file
  isFileName' : IsFileName file'

/-- The YAML text of a payload is read back as the payload. -/
def Yaml.RoundTrips (yaml : Yaml) (payload : Dict Json) : Prop :=
  yaml.readText (utf8 (yaml.toYaml payload)) = some (yaml.toYaml payload) ∧
    yaml.load (yaml.toYaml payload) = .mapping payload

/-- Split into an empty directory and loaded from it, the tuple has its fields again. -/
def LoadsBack (pydantic : Pydantic) (py : Builtins) (env : Environment) (yaml : Yaml) (root : Folder)
    (existsOutside : List String → Bool) (force : Bool) (tuple : Dict Json) : Prop :=
  ∃ tree tuples record spec,
    writeSplitTuple py env yaml { root, existsOutside } force tuple ∅ = (tree, .ok ()) ∧
    loadProviders pydantic py env yaml tree = .ok tuples ∧ tuples.values = [record] ∧
    modelValidate pydantic tuple = some spec ∧ Rejoins spec record

/-- The two files of a tuple in a directory -/
def splitTree (py : Builtins) (env : Environment) (yaml : Yaml) (tuple : Dict Json)
    (file file' : String) : ConfigTree :=
  insertAll ∅ [(["surfaces", file], utf8 (yaml.toYaml (surfacePayload py env tuple))),
    (["workers", file'], utf8 (yaml.toYaml (workerPayload py env tuple)))]

theorem lookup_splitTree {file file' : String} (path : List String) :
    (splitTree py env yaml tuple file file').lookup path =
      if path = ["workers", file'] then
        some { bytes := some (utf8 (yaml.toYaml (workerPayload py env tuple))) }
      else if path = ["surfaces", file] then
        some { bytes := some (utf8 (yaml.toYaml (surfacePayload py env tuple))) }
      else none := by
  rw [splitTree, lookup_insertAll, Finmap.lookup_empty, Option.or_none, lastWritten]
  simp only [List.reverse_cons, List.reverse_nil, List.nil_append, List.singleton_append,
    List.lookup_cons, List.lookup_nil]
  by_cases hworker : path = ["workers", file']
  · simp [hworker]
  · by_cases hsurface : path = ["surfaces", file]
    · simp [hsurface]
    · simp [beq_eq_false_iff_ne.mpr hworker, beq_eq_false_iff_ne.mpr hsurface, hworker, hsurface]

theorem filesWritten_fileStep {directory name : String} {names : List String} {payload : Dict Json}
    (h : configPath root directory name = .inside names) :
    filesWritten yaml [fileStep root directory name payload] =
      [(names, utf8 (yaml.toYaml payload))] := by
  simp [filesWritten, fileStep, h]

/-- Without faults a file is written to a new path below folders. -/
theorem not_fails_of_new {directory name : String} {names : List String} {payload : Dict Json}
    (hpath : configPath root directory name = .inside names)
    (hnames : ∀ name ∈ names, IsFileName name) (hnew : tree.lookup names = none)
    (hfolders : belowFile tree names = false) (left : List (List String × List ℕ)) :
    ¬ (fileStep root directory name payload).Fails { root, existsOutside } force tree left := by
  intro hfails
  cases hfails with
  | unloaded e herror => cases herror
  | guarded payload' _ hexists _ =>
    rw [fileStep, hpath, existsAt, hnew] at hexists
    cases hexists
  | unwritten payload' fault _ _ hfault =>
    rw [fileStep, hpath, writeFault, if_neg, if_neg] at hfault
    · cases hfault
    · simp [hnew, hfolders]
    · rintro ⟨name, hname, hnul⟩
      exact (hnames name hname).2.2 hnul

theorem writeSplitTuple_of_lands {file file' : String}
    (h : Lands root (tupleName py tuple) file file') :
    writeSplitTuple py env yaml { root, existsOutside } force tuple ∅ =
      (splitTree py env yaml tuple file file', .ok ()) := by
  have hsurface : filesWritten yaml
      [fileStep root "surfaces" (tupleName py tuple) (surfacePayload py env tuple)] =
        [(["surfaces", file], utf8 (yaml.toYaml (surfacePayload py env tuple)))] :=
    filesWritten_fileStep h.surface
  have hworker : filesWritten yaml
      [fileStep root "workers" (tupleName py tuple) (workerPayload py env tuple)] =
        [(["workers", file'], utf8 (yaml.toYaml (workerPayload py env tuple)))] :=
    filesWritten_fileStep h.worker
  have hboth : filesWritten yaml (splitTupleSteps py env root tuple) =
      [(["surfaces", file], utf8 (yaml.toYaml (surfacePayload py env tuple))),
        (["workers", file'], utf8 (yaml.toYaml (workerPayload py env tuple)))] := by
    rw [splitTupleSteps, ← List.singleton_append, filesWritten_append, hsurface, hworker]
    rfl
  have hlookup (path : List String) (hpath : path ≠ ["surfaces", file]) :
      (insertAll ∅ [(["surfaces", file], utf8 (yaml.toYaml (surfacePayload py env tuple)))]).lookup
        path = none := by
    rw [insertAll, List.foldl_cons, List.foldl_nil, Finmap.lookup_insert_of_ne _ hpath]
    rfl
  refine runActivation_ok_iff.mpr ⟨?_, by rw [splitTree, ← hboth]⟩
  rw [splitTupleSteps, goesThrough_cons, goesThrough_cons, hsurface]
  refine ⟨not_fails_of_new h.surface ?_ rfl ?_, not_fails_of_new h.worker ?_ (hlookup _ (by simp)) ?_,
    ?_⟩
  · exact List.forall_mem_cons.mpr ⟨by decide, List.forall_mem_singleton.mpr h.isFileName⟩
  · simp [belowFile]
  · exact List.forall_mem_cons.mpr ⟨by decide, List.forall_mem_singleton.mpr h.isFileName'⟩
  · rw [belowFile, List.any_eq_false]
    intro dir hdir
    have hshort : dir ≠ ["workers", file'] → dir ≠ ["surfaces", file] := by
      rintro - rfl
      simp at hdir
    by_cases hself : dir = ["workers", file']
    · simp [hself]
    · simp [hlookup dir (hshort hself)]
  · intro before step hprefix
    cases List.append_eq_nil_iff.mp (List.prefix_nil.mp hprefix) |>.2

theorem loadMapping_of_roundTrips {path : List String} {payload : Dict Json}
    (hfile : tree.lookup path = some { bytes := some (utf8 (yaml.toYaml payload)) })
    (hyaml : yaml.RoundTrips payload) : loadMapping yaml tree path = .ok payload := by
  simp only [loadMapping, loadYaml, hfile, if_true, hyaml.1, hyaml.2]

/-- A tuple whose files land comes back exactly when it keeps its fields. -/
theorem loadsBack_of_lands {file file' : String} (htuple : IsCandidateTuple pydantic py env tuple)
    (hsurface : yaml.RoundTrips (surfacePayload py env tuple))
    (hworker : yaml.RoundTrips (workerPayload py env tuple))
    (h : Lands root (tupleName py tuple) file file') :
    LoadsBack pydantic py env yaml root existsOutside force tuple ↔ KeepsFields py env tuple := by
  have hfileSurface : (splitTree py env yaml tuple file file').lookup ["surfaces", file] =
      some { bytes := some (utf8 (yaml.toYaml (surfacePayload py env tuple))) } := by
    simp [lookup_splitTree]
  have hfileWorker : (splitTree py env yaml tuple file file').lookup ["workers", file'] =
      some { bytes := some (utf8 (yaml.toYaml (workerPayload py env tuple))) } := by
    simp [lookup_splitTree]
  have hsurfaces : ymlIn (splitTree py env yaml tuple file file') "surfaces" = [["surfaces", file]] := by
    refine ymlIn_eq_singleton hfileSurface (isYml_of_configPath h.surface (by simp)) ?_
    intro other hother
    simpa [lookup_splitTree] using hother
  have hworkers : ymlIn (splitTree py env yaml tuple file file') "workers" = [["workers", file']] := by
    refine ymlIn_eq_singleton hfileWorker (isYml_of_configPath h.worker (by simp)) ?_
    intro other hother
    simpa [lookup_splitTree] using hother
  have hload (tuples : Dict TupleRecord) :
      loadProviders pydantic py env yaml (splitTree py env yaml tuple file file') = .ok tuples ↔
        env.strip (tupleName py tuple) ≠ "" ∧ ∃ record,
          modelValidate pydantic (rejoinedPayload py env tuple) = some record ∧
            tuples.entries = [(record.name, record)] :=
    loadProviders_of_pair htuple (hasFolder_iff.mpr ⟨_, _, hfileSurface, rfl⟩)
      (hasFolder_iff.mpr ⟨_, _, hfileWorker, rfl⟩) hsurfaces hworkers
      (loadMapping_of_roundTrips hfileSurface hsurface) (loadMapping_of_roundTrips hfileWorker hworker)
  constructor
  · rintro ⟨tree, tuples, record, spec, hwrite, hloads, hvalues, hspec, hrejoins⟩
    rw [writeSplitTuple_of_lands h] at hwrite
    obtain rfl : splitTree py env yaml tuple file file' = tree := congrArg Prod.fst hwrite
    obtain ⟨-, record', hrecord', hentries⟩ := (hload tuples).mp hloads
    obtain rfl : record' = record := by
      rw [Dict.values, hentries] at hvalues
      exact (List.cons.inj hvalues).1
    exact (exists_rejoins_iff htuple hspec).mp ⟨_, hrecord', hrejoins⟩
  · intro hkeeps
    obtain ⟨spec, hspec⟩ := Option.isSome_iff_exists.mp htuple.accepted
    obtain ⟨record, hrecord, hrejoins⟩ := (exists_rejoins_iff htuple hspec).mpr hkeeps
    obtain ⟨name, hname, hne⟩ := htuple.name
    have hstripped : env.strip (tupleName py tuple) ≠ "" := by
      rw [hkeeps.stripped, tupleName_eq hname]
      exact hne
    exact ⟨_, ⟨[(record.name, record)], List.nodup_singleton _⟩, record, spec,
      writeSplitTuple_of_lands h, (hload _).mpr ⟨hstripped, record, hrecord, rfl⟩, rfl, hspec, hrejoins⟩

/-- Whatever is loaded from the files of a tuple is one of its two payloads. -/
theorem loadMapping_written (hsurface : yaml.RoundTrips (surfacePayload py env tuple))
    (hworker : yaml.RoundTrips (workerPayload py env tuple)) {path : List String} {payload : Dict Json}
    (h : loadMapping yaml (insertAll ∅ (filesWritten yaml (splitTupleSteps py env root tuple))) path =
      .ok payload) :
    (payload = surfacePayload py env tuple ∧
        configPath root "surfaces" (tupleName py tuple) = .inside path) ∨
      (payload = workerPayload py env tuple ∧
        configPath root "workers" (tupleName py tuple) = .inside path) := by
  obtain ⟨bytes, text, hfile, htext, hload⟩ := loadMapping_eq_ok h
  rw [lookup_insertAll, Finmap.lookup_empty, Option.or_none, Option.map_eq_some_iff] at hfile
  obtain ⟨contents, hwritten, hbytes⟩ := hfile
  obtain rfl : contents = bytes := by simpa using hbytes
  obtain ⟨step, hstep, hwrite⟩ := List.mem_filterMap.mp (mem_of_lastWritten hwritten)
  have hread (written : Dict Json) (hyaml : yaml.RoundTrips written)
      (hcontents : utf8 (yaml.toYaml written) = contents) : payload = written := by
    rw [← hcontents, hyaml.1, Option.some.injEq] at htext
    rw [← htext, hyaml.2] at hload
    exact (YamlRoot.mapping.inj hload).symm
  rw [splitTupleSteps, List.mem_cons, List.mem_singleton] at hstep
  obtain rfl | rfl := hstep
  · refine Or.inl ?_
    split at hwrite
    · rename_i names written hpath hpayload
      cases hpayload
      cases hwrite
      exact ⟨hread _ hsurface rfl, hpath⟩
    · cases hwrite
  · refine Or.inr ?_
    split at hwrite
    · rename_i names written hpath hpayload
      cases hpayload
      cases hwrite
      exact ⟨hread _ hworker rfl, hpath⟩
    · cases hwrite

/-- A payload of either file is no tuple on its own. -/
theorem tupleFromPayload_of_workerRef {payload : Dict Json} {value : Json}
    (h : payload.get? "worker_ref" = some value) :
    tupleFromPayload pydantic py env payload = .error .configError := by
  rw [tupleFromPayload]
  split
  · rename_i record hrecord
    have hknown := (Schema.validate_isSome_iff.mp (Option.isSome_of_eq_some hrecord)).1
    have hkey : "worker_ref" ∈ (withExecutionSurface py env payload).keys := by
      rw [Dict.mem_keys, get?_withExecutionSurface (by decide)]
      exact ⟨value, h⟩
    have hforeign : "worker_ref" ∉ executionTupleFields.map SpecField.name := by decide +kernel
    rw [executionTupleSchema, List.map_map] at hknown
    exact absurd (hknown _ hkey) hforeign
  · rfl

/-- A tuple that comes back has landed. -/
theorem lands_of_loadsBack (hstrip : env.strip "" = "")
    (hsurface : yaml.RoundTrips (surfacePayload py env tuple))
    (hworker : yaml.RoundTrips (workerPayload py env tuple))
    (h : LoadsBack pydantic py env yaml root existsOutside force tuple) :
    ∃ file file', Lands root (tupleName py tuple) file file' := by
  obtain ⟨tree, tuples, record, spec, hwrite, hload, hvalues, -, -⟩ := h
  have hnamed : tree.Named := by
    refine named_runActivation ?_ ?_ hwrite
    · intro step hstep names hpath
      rw [splitTupleSteps, List.mem_cons, List.mem_singleton] at hstep
      obtain rfl | rfl := hstep
      · exact configPath_plain (by decide) hpath
      · exact configPath_plain (by decide) hpath
    · intro path entry hentry
      cases hentry
  obtain rfl := runActivation_ok hwrite
  have hwritten {path : List String} {payload : Dict Json} := @loadMapping_written py env yaml tuple root
    hsurface hworker path payload
  obtain ⟨hne, payloads, hsplit, hlayout⟩ := loadProviders_eq_ok.mp hload
  obtain ⟨hpayloads, -⟩ | ⟨-, htuples⟩ := hlayout
  · -- the first surface file has the payload of the surface, the first worker file that of the worker
    obtain ⟨-, rfl⟩ | ⟨-, workers, joined, hworkers, hjoined, -, rfl⟩ :=
      loadSplitTuplePayloads_eq_ok.mp hsplit
    · exact absurd rfl hpayloads
    obtain ⟨entry, hentry⟩ := List.exists_mem_of_ne_nil joined fun hnil => hpayloads (by rw [hnil]; rfl)
    obtain ⟨path, hpath, hloaded⟩ := OptionList.exists_of_forall₂_right hjoined hentry
    obtain ⟨surface, ref, worker, hfile, href, -, hfound, -⟩ := loadSurface_eq_ok hloaded
    obtain ⟨worker', hworker'⟩ := List.exists_mem_of_ne_nil workers fun hnil => by
      rw [hnil] at hfound
      cases hfound
    obtain ⟨path', hpath', hloaded'⟩ := OptionList.exists_of_forall₂_right hworkers hworker'
    obtain ⟨⟨entry, hlookup⟩, -, file, rfl⟩ := mem_ymlIn.mp hpath
    obtain ⟨⟨entry', hlookup'⟩, -, file', rfl⟩ := mem_ymlIn.mp hpath'
    have hsurfaces : configPath root "surfaces" (tupleName py tuple) = .inside ["surfaces", file] := by
      obtain ⟨-, hat⟩ | ⟨rfl, -⟩ := hwritten hfile
      · exact hat
      · rw [requiredRef_none (get?_workerPayload ..) hstrip] at href
        cases href
    refine ⟨file, file', hsurfaces, ?_, hnamed _ _ hlookup file (by simp),
      hnamed _ _ hlookup' file' (by simp)⟩
    obtain ⟨-, hat⟩ | ⟨-, hat⟩ := hwritten (loadWorker_eq_ok.mp hloaded').1
    · have hsame := hsurfaces.symm.trans hat
      simp at hsame
    · exact hat
  · -- no file of a tuple is a tuple file
    obtain ⟨records, hrecords, hentries⟩ := loadTuples_eq_ok.mp htuples
    obtain ⟨record, hrecord⟩ := List.exists_mem_of_ne_nil records fun hnil => hne (by rw [hentries, hnil]; rfl)
    obtain ⟨path, -, hloaded⟩ := OptionList.exists_of_forall₂_right hrecords hrecord
    unfold loadTuple at hloaded
    split at hloaded
    · cases hloaded
    · rename_i payload hfile
      obtain ⟨rfl, -⟩ | ⟨rfl, -⟩ := hwritten hfile
      · rw [tupleFromPayload_of_workerRef (get?_surfacePayload ..)] at hloaded
        cases hloaded
      · rw [tupleFromPayload_of_workerRef (get?_workerPayload ..)] at hloaded
        cases hloaded

/-- Nothing is lost of a tuple that is split: its files land, and it keeps its fields. -/
structure SplitsCleanly (py : Builtins) (env : Environment) (root : Folder) (tuple : Dict Json) :
    Prop extends KeepsFields py env tuple where
  lands : ∃ file file', Lands root (tupleName py tuple) file file'

/-- A tuple made from a candidate comes back from its two files exactly when it splits cleanly. -/
theorem loadsBack_iff (pydantic : Pydantic) (py : Builtins) (env : Environment)
    (hstrip : env.strip "" = "") (yaml : Yaml) (conv : Conversions) (root : Folder)
    (existsOutside : List String → Bool) (force : Bool) (candidate : Dict Json)
    (models : Dict CandidateModel) (tuple : Dict Json)
    (htuple : tupleFromCandidate pydantic py env conv candidate models = .ok tuple)
    (hsurface : yaml.RoundTrips (surfacePayload py env tuple))
    (hworker : yaml.RoundTrips (workerPayload py env tuple)) :
    LoadsBack pydantic py env yaml root existsOutside force tuple ↔ SplitsCleanly py env root tuple := by
  have hcandidate := isCandidateTuple htuple
  constructor
  · intro h
    obtain ⟨file, file', hlands⟩ := lands_of_loadsBack hstrip hsurface hworker h
    have hkeeps := (loadsBack_of_lands hcandidate hsurface hworker hlands).mp h
    exact ⟨hkeeps, file, file', hlands⟩
  · rintro ⟨hkeeps, file, file', hlands⟩
    exact (loadsBack_of_lands hcandidate hsurface hworker hlands).mpr hkeeps

/-! ## Two candidates -/

/-- A candidate with what it needs and the given placement. -/
def modalCandidate (placement : List (String × Json)) : List (String × Json) :=
  [("name", .str "modal-h100"), ("adapter", .str "modal"), ("execution_surface", .str "function_runtime"),
    ("model_ref", .str "qwen"), ("engine_ref", .str "vllm"), ("vram_gb", .number "80"),
    ("max_model_len", .number "32768")] ++ placement

def plainCandidate : Dict Json := { entries := modalCandidate [] }

def projectCandidate : Dict Json := { entries := modalCandidate [("project_id", .str "prod")] }

def qwen : CandidateModel where
  providerModelId := "Qwen/Qwen2.5"
  maxModelLen := 32768

def candidateModels : Dict CandidateModel := { entries := [("qwen", qwen)] }

def plainPydantic : Pydantic where
  positiveInt value := match value with
    | .number "80" => some 80
    | .number "32768" => some 32768
    | _ => none
  nonNegativeFloat value := match value with
    | .number text => some text
    | _ => none
  bool value := match value with
    | .bool value => some value
    | _ => none
  httpUrl value := match value with
    | .str value => some value
    | _ => none

def plainConversions : Conversions where
  toInt value := match value with
    | .number "80" => .ok 80
    | .number "32768" => .ok 32768
    | _ => .error .typeOrValue
  toFloat value := match value with
    | .number text => .ok text
    | _ => .error .typeError
  toDict _ := .error .typeError

/-- The tuple of a candidate of `modalCandidate` -/
def modalTuple (candidate : Dict Json) : Dict Json :=
  sourceTuple artifactBuiltins reviewEnvironment candidate qwen
    ⟨.number "80", .number "32768", .number "0.0", .obj []⟩

/-- A YAML library that knows the two files of a tuple. -/
def pairYaml (tuple : Dict Json) : Yaml where
  toYaml payload := if (payload.get? "surface_ref").isSome then "surface" else "worker"
  load text :=
    if text = "surface" then .mapping (surfacePayload artifactBuiltins reviewEnvironment tuple)
    else .mapping (workerPayload artifactBuiltins reviewEnvironment tuple)
  readText bytes := if bytes = utf8 "surface" then some "surface" else some "worker"
  nul_notMem_toYaml payload := by split <;> decide

theorem pairYaml_roundTrips (tuple : Dict Json) :
    (pairYaml tuple).RoundTrips (surfacePayload artifactBuiltins reviewEnvironment tuple) ∧
      (pairYaml tuple).RoundTrips (workerPayload artifactBuiltins reviewEnvironment tuple) := by
  have hsurface : (surfacePayload artifactBuiltins reviewEnvironment tuple).get? "surface_ref" =
      some (.str (tupleName artifactBuiltins tuple)) := get?_surfacePayload ..
  have hworker : (workerPayload artifactBuiltins reviewEnvironment tuple).get? "surface_ref" = none :=
    get?_workerPayload ..
  constructor
  · simp [Yaml.RoundTrips, pairYaml, hsurface]
  · have hne : utf8 "worker" ≠ utf8 "surface" := by decide
    simp [Yaml.RoundTrips, pairYaml, hworker, hne]

theorem isFileName_etcGpucall : ∀ name ∈ ["etc", "gpucall"], IsFileName name := by decide

def etcGpucall : Folder := ⟨["etc", "gpucall"], isFileName_etcGpucall⟩

theorem plainCandidate_ok : tupleFromCandidate plainPydantic artifactBuiltins reviewEnvironment
    plainConversions plainCandidate candidateModels = .ok (modalTuple plainCandidate) := by
  rfl

theorem projectCandidate_ok : tupleFromCandidate plainPydantic artifactBuiltins reviewEnvironment
    plainConversions projectCandidate candidateModels = .ok (modalTuple projectCandidate) := by
  rfl

theorem loadsBack_iff_plain :
    LoadsBack plainPydantic artifactBuiltins reviewEnvironment (pairYaml (modalTuple plainCandidate))
      etcGpucall (fun _ => false) false (modalTuple plainCandidate) := by
  obtain ⟨hsurface, hworker⟩ := pairYaml_roundTrips (modalTuple plainCandidate)
  refine (loadsBack_iff plainPydantic artifactBuiltins reviewEnvironment rfl _ plainConversions _ _ _
    plainCandidate candidateModels _ plainCandidate_ok hsurface hworker).mpr ⟨⟨rfl, nofun, ?_⟩, ?_⟩
  · decide
  · exact ⟨"modal-h100.yml", "modal-h100.yml", by decide, by decide, by decide, by decide⟩

/-- The project of a tuple is in neither of its files. -/
theorem not_loadsBack :
    ¬ ∀ (pydantic : Pydantic) (py : Builtins) (env : Environment), env.strip "" = "" →
      ∀ (yaml : Yaml) (conv : Conversions) (root : Folder) (existsOutside : List String → Bool)
        (force : Bool) (candidate : Dict Json) (models : Dict CandidateModel) (tuple : Dict Json),
        tupleFromCandidate pydantic py env conv candidate models = .ok tuple →
        yaml.RoundTrips (surfacePayload py env tuple) → yaml.RoundTrips (workerPayload py env tuple) →
          LoadsBack pydantic py env yaml root existsOutside force tuple := by
  intro h
  obtain ⟨hsurface, hworker⟩ := pairYaml_roundTrips (modalTuple projectCandidate)
  have hloads := h plainPydantic artifactBuiltins reviewEnvironment rfl _ plainConversions etcGpucall
    (fun _ => false) false projectCandidate candidateModels _ projectCandidate_ok hsurface hworker
  obtain ⟨file, file', hlands⟩ := lands_of_loadsBack rfl hsurface hworker hloads
  have hkeeps :=
    (loadsBack_of_lands (isCandidateTuple projectCandidate_ok) hsurface hworker hlands).mp hloads
  have hproject := hkeeps.placement "project_id" (by decide)
  cases hproject

end Gpucall
