import Gpucall.Lib.Each
import Gpucall.Panopticon.GpuRefs

/-! Applying a provisioning plan (`panopticon_provisioning.py`): each action makes at most one call to the provider,
and an endpoint may be made with the template that an earlier action has made. One `except` covers the call and
what is done with its answer. -/

namespace Gpucall

open Effects

inductive SupplyProvisioningActionName where
  | createRunpodTemplate
  | createRunpodServerlessEndpoint
  deriving DecidableEq

inductive SupplyProvisioningResourceType where
  | template
  | endpoint
  deriving DecidableEq

/-- The fields that a request has to have. -/
def SupplyProvisioningActionName.required : SupplyProvisioningActionName → List String
  | .createRunpodTemplate => ["imageName", "name", "isServerless", "env"]
  | .createRunpodServerlessEndpoint => ["name", "computeType", "gpuCount", "gpuTypeIds", "workersMin", "workersMax"]

/-- `bool(str(value or "").strip())` -/
def hasValue (py : Builtins) (value : Option Json) : Bool := strip (strOrEmpty py value) ≠ ""

/-- An action of a plan, as `validate_action_contract` lets it pass. The provider is RunPod. -/
structure ProviderSupplyProvisioningAction (py : Builtins) where
  actionId : String
  action : SupplyProvisioningActionName
  resourceType : SupplyProvisioningResourceType
  resourceId : String
  tuple : String
  applySupported : Bool
  applyBlockedReasons : List String
  request : Dict Json
  parameters : Dict Json
  postApplyConfigPatch : List (Dict Json)
  actionId_nonempty : strip actionId ≠ ""
  resourceId_nonempty : strip resourceId ≠ ""
  tuple_nonempty : strip tuple ≠ ""
  unblocked : applySupported = true → applyBlockedReasons = []
  required : ∀ field ∈ action.required, (request.get? field).isSome
  template : action = .createRunpodServerlessEndpoint → applySupported = true →
    hasValue py (request.get? "templateId") || hasValue py (parameters.get? "template_id_from_action")

inductive ProvisioningStatus where
  | applied
  | skipped
  | failed
  | dryRun
  deriving DecidableEq

/-- What the result lists of an action. -/
structure ProvisioningResult where
  actionId : String
  action : SupplyProvisioningActionName
  resourceType : SupplyProvisioningResourceType
  resourceId : String
  tuple : String
  status : ProvisioningStatus
  reason : Option String := none
  applyBlockedReasons : Option (List String) := none
  response : Option (Dict Json) := none
  materializedConfigPatch : Option (List (Dict Json)) := none

structure ProvisioningApplyResult where
  dryRun : Bool
  planActionCount : ℕ
  appliedCount : ℕ
  skippedCount : ℕ
  failedCount : ℕ
  results : List ProvisioningResult

section

variable (py : Builtins)

/-- A call to the provider: what `action` names is made as `request` says. -/
structure ProviderCall where
  action : ProviderSupplyProvisioningAction py
  request : Dict Json
  apiKey : String

/-- A provider answers a call with an object, or the call raises with a text. -/
abbrev ProviderProg (α : Type) : Type := Prog (ProviderCall py) (fun _ => Dict Json) String α

abbrev ProviderEvent : Type := Event (ProviderCall py) (fun _ => Dict Json) String

variable {py} in
def ProviderSupplyProvisioningAction.base (action : ProviderSupplyProvisioningAction py)
    (status : ProvisioningStatus) : ProvisioningResult where
  actionId := action.actionId
  action := action.action
  resourceType := action.resourceType
  resourceId := action.resourceId
  tuple := action.tuple
  status := status

variable {py} in
/-- The id of the action whose answer names the template -/
def ProviderSupplyProvisioningAction.dependency (action : ProviderSupplyProvisioningAction py) : String :=
  cleanString py (action.parameters.get? "template_id_from_action")

variable {py}

def resolveEndpointRequest (action : ProviderSupplyProvisioningAction py) (outputs : Dict (Dict Json)) :
    Except String (Dict Json) :=
  if (action.request.get? "templateId").any Json.truthy then .ok action.request
  else
    let templateId := cleanString py ((outputs.get? action.dependency).bind (·.get? "id"))
    if templateId = "" then .error ("missing template id from dependency action " ++ py.repr (.str action.dependency))
    else .ok (action.request.set "templateId" (.str templateId))

def materializedConfigPatch (action : ProviderSupplyProvisioningAction py) (response : Dict Json) :
    Except String (List (Dict Json)) :=
  let endpointId := cleanString py (response.get? "id")
  if endpointId = "" then .error ("provider response missing resource id for action " ++ action.actionId)
  else .ok (action.postApplyConfigPatch.map fun patch => patch.set "value" (.str endpointId))

/-- The part of `_apply_one_action` that is inside of `try` -/
def createResource (action : ProviderSupplyProvisioningAction py) (outputs : Dict (Dict Json)) (apiKey : String) :
    ProviderProg py ProvisioningResult :=
  match action.action with
  | .createRunpodTemplate => do
    let response ← Prog.perform ⟨action, action.request, apiKey⟩
    return { action.base .applied with response := some response }
  | .createRunpodServerlessEndpoint => do
    let request ← Prog.done (resolveEndpointRequest action outputs)
    let response ← Prog.perform ⟨action, request, apiKey⟩
    let patch ← Prog.done (materializedConfigPatch action response)
    return { action.base .applied with response := some response, materializedConfigPatch := some patch }

/-- `credentials.get("runpod", {}).get("api_key")`, if it is true -/
def runpodApiKey (credentials : Dict (Dict String)) : Option String :=
  ((credentials.get? "runpod").bind (·.get? "api_key")).filter (· ≠ "")

/-- `_apply_one_action`. Every name of an action is handled in `createResource`. -/
def applyOneAction (action : ProviderSupplyProvisioningAction py) (credentials : Dict (Dict String)) (dryRun : Bool)
    (outputs : Dict (Dict Json)) : ProviderProg py ProvisioningResult :=
  if dryRun then
    return { action.base .dryRun with reason := some "dry run; no provider mutation performed" }
  else if !action.applyBlockedReasons.isEmpty || !action.applySupported then
    return { action.base .skipped with
      reason := some "action is not apply-supported"
      applyBlockedReasons := some
        (if action.applyBlockedReasons.isEmpty then ["unsupported action"] else action.applyBlockedReasons) }
  else
    match runpodApiKey credentials with
    | none => return { action.base .failed with reason := some "missing RunPod API key" }
    | some apiKey => (createResource action outputs apiKey).tryCatch fun exc =>
      return { action.base .failed with reason := some exc }

/-- The local variables of the loop -/
structure ApplyState where
  outputs : Dict (Dict Json) := {}
  results : List ProvisioningResult := []
  applied : ℕ := 0
  skipped : ℕ := 0
  failed : ℕ := 0

/-- The response that is kept for the actions behind, if there is one. -/
def ProvisioningResult.output (result : ProvisioningResult) : Option (Dict Json) :=
  if result.status = .applied then result.response else none

def keepOutput (outputs : Dict (Dict Json)) (result : ProvisioningResult) : Dict (Dict Json) :=
  (result.output.map (outputs.set result.actionId)).getD outputs

def ApplyState.record (s : ApplyState) (result : ProvisioningResult) : ApplyState where
  outputs := keepOutput s.outputs result
  results := s.results ++ [result]
  applied := if result.status = .applied then s.applied + 1 else s.applied
  failed := if result.status = .failed then s.failed + 1 else s.failed
  skipped := if result.status ≠ .applied ∧ result.status ≠ .failed then s.skipped + 1 else s.skipped

def applyActions (credentials : Dict (Dict String)) (dryRun : Bool) :
    List (ProviderSupplyProvisioningAction py) → ApplyState → ProviderProg py ApplyState
  | [], s => return s
  | action :: actions, s => do
    let result ← applyOneAction action credentials dryRun s.outputs
    applyActions credentials dryRun actions (s.record result)

/-- `apply_provider_supply_provisioning_plan` -/
def applyProviderSupplyProvisioningPlan (actions : List (ProviderSupplyProvisioningAction py))
    (credentials : Dict (Dict String)) (dryRun : Bool) : ProviderProg py ProvisioningApplyResult := do
  let s ← applyActions credentials dryRun actions {}
  return { dryRun, planActionCount := actions.length, appliedCount := s.applied, skippedCount := s.skipped,
           failedCount := s.failed, results := s.results }

/-! ## What a run is to be -/

/-- What the provider says that it has created, and for which action. -/
def created (e : ProviderEvent py) : Option (String × Dict Json) :=
  e.outcome.toOption.map (e.op.action.actionId, ·)

/-- What a result lists as applied. -/
def ProvisioningResult.listed (result : ProvisioningResult) : Option (String × Dict Json) :=
  result.output.map (result.actionId, ·)

/-- The template of an endpoint is named by its request, or by an answer that came before, to the action it depends
on. -/
def HasTemplate (before : List (ProviderEvent py)) (call : ProviderCall py) : Prop :=
  (hasValue py (call.action.request.get? "templateId") = true ∧ call.request = call.action.request) ∨
    ∃ e ∈ before, ∃ response, created e = some (call.action.dependency, response) ∧
      cleanString py (response.get? "id") ≠ "" ∧
      call.request = call.action.request.set "templateId" (.str (cleanString py (response.get? "id")))

structure Warranted (actions : List (ProviderSupplyProvisioningAction py)) (before : List (ProviderEvent py))
    (call : ProviderCall py) : Prop where
  mem : call.action ∈ actions
  supported : call.action.applySupported = true
  unblocked : call.action.applyBlockedReasons = []
  template : call.action.action = .createRunpodServerlessEndpoint → HasTemplate before call

/-- The calls are warranted, and the result accounts for all actions and for all that was created. -/
structure Truthful (actions : List (ProviderSupplyProvisioningAction py)) (dryRun : Bool)
    (es : List (ProviderEvent py)) (result : ProvisioningApplyResult) : Prop where
  dryRun : dryRun = true → es = []
  warranted : ∀ before e after, es = before ++ e :: after → Warranted actions before e.op
  counts : result.appliedCount + result.skippedCount + result.failedCount = actions.length
  listed : result.results.filterMap (·.listed) = es.filterMap created
  appliedCount : result.appliedCount = (es.filterMap created).length

/-- The action is called without regard to its dependency. -/
def ProviderSupplyProvisioningAction.IsDirect (action : ProviderSupplyProvisioningAction py) : Prop :=
  action.applySupported = true ∧ action.action = .createRunpodServerlessEndpoint ∧
    (action.request.get? "templateId").any Json.truthy = true

/-- The template ids of the requests are no blanks, if there may be calls. -/
def NamesTemplates (actions : List (ProviderSupplyProvisioningAction py)) (credentials : Dict (Dict String))
    (dryRun : Bool) : Prop :=
  dryRun = false → (runpodApiKey credentials).isSome → ∀ action ∈ actions, action.IsDirect →
    hasValue py (action.request.get? "templateId") = true

/-- An endpoint that was created has an id in the answer. -/
def AnsweredWithId (e : ProviderEvent py) : Prop :=
  e.op.action.action = .createRunpodServerlessEndpoint → ∀ response, e.outcome = .ok response →
    cleanString py (response.get? "id") ≠ ""

/-! ## One action -/

/-- The request that is sent for the action. -/
def requestFor (action : ProviderSupplyProvisioningAction py) (outputs : Dict (Dict Json)) :
    Except String (Dict Json) :=
  match action.action with
  | .createRunpodTemplate => .ok action.request
  | .createRunpodServerlessEndpoint => resolveEndpointRequest action outputs

/-- What is kept of an answer to the action. -/
def keptAnswer (action : ProviderSupplyProvisioningAction py) (outcome : Except String (Dict Json)) :
    Option (Dict Json) :=
  outcome.toOption.filter fun response =>
    action.action = .createRunpodTemplate ∨ cleanString py (response.get? "id") ≠ ""

variable {action : ProviderSupplyProvisioningAction py} {actions : List (ProviderSupplyProvisioningAction py)}
  {credentials : Dict (Dict String)} {dryRun : Bool} {outputs : Dict (Dict Json)} {es : List (ProviderEvent py)}

variable (credentials dryRun) in
/-- The action may be called. -/
structure Due (action : ProviderSupplyProvisioningAction py) (apiKey : String) : Prop where
  live : dryRun = false
  supported : action.applySupported = true
  apiKey : runpodApiKey credentials = some apiKey

/-- What an action does: it makes no call, or one, and the result lists what is kept of the answer. -/
inductive Round (credentials : Dict (Dict String)) (dryRun : Bool) (outputs : Dict (Dict Json))
    (action : ProviderSupplyProvisioningAction py) : List (ProviderEvent py) → Option (Dict Json) → Prop where
  | idle (h : ∀ apiKey request, Due credentials dryRun action apiKey → requestFor action outputs ≠ .ok request) :
    Round credentials dryRun outputs action [] none
  | called {apiKey request} (outcome : Except String (Dict Json)) (hdue : Due credentials dryRun action apiKey)
      (hrequest : requestFor action outputs = .ok request) :
    Round credentials dryRun outputs action [⟨⟨action, request, apiKey⟩, outcome⟩] (keptAnswer action outcome)

theorem applied_iff_output {result : ProvisioningResult}
    (h : result.status = .applied → result.response.isSome) : result.status = .applied ↔ result.output.isSome := by
  unfold ProvisioningResult.output
  split_ifs with happlied
  · exact iff_of_true happlied (h happlied)
  · exact iff_of_false happlied (by simp)

theorem not_applied_iff_output {result : ProvisioningResult} (h : result.status ≠ .applied) :
    result.status = .applied ↔ result.output.isSome := applied_iff_output fun happlied => absurd happlied h

theorem keptAnswer_ok {response : Dict Json}
    (h : action.action = .createRunpodTemplate ∨ cleanString py (response.get? "id") ≠ "") :
    keptAnswer action (.ok response) = some response := Option.filter_eq_some_iff.mpr ⟨rfl, decide_eq_true h⟩

theorem round_createResource {apiKey : String} {r : Except String ProvisioningResult}
    (hdue : Due credentials dryRun action apiKey)
    (h : ((createResource action outputs apiKey).tryCatch fun exc =>
      return { action.base .failed with reason := some exc }).Steps es (.done r)) :
    ∃ result, r = .ok result ∧ result.actionId = action.actionId ∧
      (result.status = .applied ↔ result.output.isSome) ∧
        Round credentials dryRun outputs action es result.output := by
  unfold createResource at h
  split at h
  · rename_i haction
    have hrequest : requestFor action outputs = .ok action.request := by rw [requestFor, haction]
    obtain - | h := h
    rename_i outcome _
    have hround : Round credentials dryRun outputs action [⟨_, outcome⟩] (keptAnswer action outcome) :=
      .called outcome hdue hrequest
    cases outcome with
    | error exc =>
      cases h
      exact ⟨_, rfl, rfl, not_applied_iff_output (by rintro ⟨⟩), hround⟩
    | ok response =>
      cases h
      rw [keptAnswer_ok (.inl haction)] at hround
      exact ⟨_, rfl, rfl, applied_iff_output fun _ => rfl, hround⟩
  · rename_i haction
    have hrequest : requestFor action outputs = resolveEndpointRequest action outputs := by rw [requestFor, haction]
    cases hresolved : resolveEndpointRequest action outputs with
    | error exc =>
      rw [hresolved] at h hrequest
      cases h
      exact ⟨_, rfl, rfl, not_applied_iff_output (by rintro ⟨⟩), .idle fun _ _ _ => by simp [hrequest]⟩
    | ok request =>
      rw [hresolved] at h hrequest
      obtain - | h := h
      rename_i outcome _
      have hround : Round credentials dryRun outputs action [⟨_, outcome⟩] (keptAnswer action outcome) :=
        .called outcome hdue hrequest
      cases outcome with
      | error exc =>
        cases h
        exact ⟨_, rfl, rfl, not_applied_iff_output (by rintro ⟨⟩), hround⟩
      | ok response =>
        -- the endpoint is there, and its id may be missing
        by_cases hid : cleanString py (response.get? "id") = ""
        · have hpatch : materializedConfigPatch action response = _ := if_pos hid
          have hnone : keptAnswer action (.ok response) = none := by simp [keptAnswer, Except.toOption, haction, hid]
          simp only [Prog.done_andThen, hpatch] at h
          rw [hnone] at hround
          cases h
          exact ⟨_, rfl, rfl, not_applied_iff_output (by rintro ⟨⟩), hround⟩
        · have hpatch : materializedConfigPatch action response = _ := if_neg hid
          simp only [Prog.done_andThen, hpatch] at h
          rw [keptAnswer_ok (.inr hid)] at hround
          cases h
          exact ⟨_, rfl, rfl, applied_iff_output fun _ => rfl, hround⟩

theorem round_applyOneAction {r : Except String ProvisioningResult}
    (h : (applyOneAction action credentials dryRun outputs).Steps es (.done r)) :
    ∃ result, r = .ok result ∧ result.actionId = action.actionId ∧
      (result.status = .applied ↔ result.output.isSome) ∧
        Round credentials dryRun outputs action es result.output := by
  unfold applyOneAction at h
  split at h
  · rename_i hdry
    cases h
    exact ⟨_, rfl, rfl, not_applied_iff_output (by rintro ⟨⟩), .idle fun _ _ hdue => by cases hdue.live.symm.trans hdry⟩
  split at h
  · rename_i hblocked
    cases h
    refine ⟨_, rfl, rfl, not_applied_iff_output (by rintro ⟨⟩), .idle fun _ _ hdue => ?_⟩
    simp [action.unblocked hdue.supported, hdue.supported] at hblocked
  · rename_i hlive hsupported
    split at h
    · rename_i hkey
      cases h
      exact ⟨_, rfl, rfl, not_applied_iff_output (by rintro ⟨⟩), .idle fun _ _ hdue => by cases hkey.symm.trans hdue.apiKey⟩
    · rename_i apiKey hkey
      exact round_createResource ⟨by simpa using hlive, by simp_all, hkey⟩ h

/-! ## The actions of a plan -/

/-- The rounds of the loop: the events and the results of the actions, one behind the other. -/
inductive Rounds (credentials : Dict (Dict String)) (dryRun : Bool) : Dict (Dict Json) →
    List (ProviderSupplyProvisioningAction py) → List (ProviderEvent py) → List ProvisioningResult → Prop where
  | nil {outputs : Dict (Dict Json)} : Rounds credentials dryRun outputs [] [] []
  | cons {outputs : Dict (Dict Json)} {action : ProviderSupplyProvisioningAction py}
      {actions : List (ProviderSupplyProvisioningAction py)} {es es' : List (ProviderEvent py)}
      {result : ProvisioningResult} {results : List ProvisioningResult} (hid : result.actionId = action.actionId)
      (hstatus : result.status = .applied ↔ result.output.isSome)
      (hround : Round credentials dryRun outputs action es result.output)
      (hrest : Rounds credentials dryRun (keepOutput outputs result) actions es' results) :
    Rounds credentials dryRun outputs (action :: actions) (es ++ es') (result :: results)

theorem rounds_applyActions {s : ApplyState} {r : Except String ApplyState}
    (h : (applyActions credentials dryRun actions s).Steps es (.done r)) :
    ∃ results, Rounds credentials dryRun s.outputs actions es results ∧
      r = .ok (results.foldl ApplyState.record s) := by
  induction actions generalizing s es with
  | nil =>
    cases h
    exact ⟨[], .nil, rfl⟩
  | cons action actions ih =>
    obtain ⟨x, es₁, es₂, hfirst, hrest, rfl⟩ := Prog.Steps.of_andThen h
    obtain ⟨result, rfl, hid, hstatus, hround⟩ := round_applyOneAction hfirst
    obtain ⟨results, hresults, rfl⟩ := ih hrest
    exact ⟨result :: results, .cons hid hstatus hround hresults, rfl⟩

/-- What the loop has counted and listed at its end -/
theorem foldl_record (results : List ProvisioningResult) (s : ApplyState) :
    (results.foldl ApplyState.record s).results = s.results ++ results ∧
    (results.foldl ApplyState.record s).applied = s.applied + (results.filter (·.status = .applied)).length ∧
    (results.foldl ApplyState.record s).applied + (results.foldl ApplyState.record s).skipped +
      (results.foldl ApplyState.record s).failed = s.applied + s.skipped + s.failed + results.length := by
  induction results generalizing s with
  | nil => exact ⟨(List.append_nil _).symm, rfl, rfl⟩
  | cons result results ih =>
    obtain ⟨hresults, happlied, hcounts⟩ := ih (s.record result)
    refine ⟨hresults.trans (by simp [ApplyState.record]), happlied.trans ?_, hcounts.trans ?_⟩
    · cases hstatus : result.status <;> simp [ApplyState.record, hstatus]
      omega
    · cases hstatus : result.status <;> simp [ApplyState.record, hstatus] <;> omega

/-- What is listed of an event -/
def keptEvent (e : ProviderEvent py) : Option (String × Dict Json) :=
  (keptAnswer e.op.action e.outcome).map (e.op.action.actionId, ·)

theorem keptEvent_eq (e : ProviderEvent py) : keptEvent e = none ∨ keptEvent e = created e := by
  unfold keptEvent keptAnswer created
  cases e.outcome.toOption with
  | none => exact .inl rfl
  | some response =>
    rw [Option.filter_some]
    split_ifs
    · exact .inr rfl
    · exact .inl rfl

theorem keptEvent_eq_created {e : ProviderEvent py} : keptEvent e = created e ↔ AnsweredWithId e := by
  unfold keptEvent keptAnswer created AnsweredWithId
  cases houtcome : e.outcome with
  | error exc => simp [Except.toOption]
  | ok response =>
    cases e.op.action.action <;> simp [Except.toOption, Option.filter_some, apply_ite]

variable {results : List ProvisioningResult}

theorem Round.listed {response : Option (Dict Json)} (h : Round credentials dryRun outputs action es response) :
    es.filterMap keptEvent = (response.map (action.actionId, ·)).toList := by
  cases h with
  | idle _ => rfl
  | called outcome _ _ =>
    unfold keptEvent
    cases hkept : keptAnswer action outcome <;> simp [hkept]

/-- The results list what is kept of the answers, in their order. -/
theorem Rounds.listed (h : Rounds credentials dryRun outputs actions es results) :
    results.filterMap (·.listed) = es.filterMap keptEvent := by
  induction h with
  | nil => rfl
  | @cons _ _ _ _ _ result _ hid _ hround _ ih =>
    rw [List.filterMap_append, hround.listed, ← ih, List.filterMap_cons, ProvisioningResult.listed, hid]
    cases result.output <;> rfl

theorem Rounds.length (h : Rounds credentials dryRun outputs actions es results) :
    results.length = actions.length := by
  induction h with
  | nil => rfl
  | cons _ _ _ _ ih => exact congrArg (· + 1) ih

theorem Rounds.applied (h : Rounds credentials dryRun outputs actions es results) :
    (results.filter (·.status = .applied)).length = (results.filterMap (·.listed)).length := by
  induction h with
  | nil => rfl
  | @cons _ _ _ _ _ result _ _ hstatus _ _ ih =>
    rw [List.filter_cons, List.filterMap_cons, ProvisioningResult.listed]
    cases houtput : result.output with
    | none =>
      have hne : ¬ result.status = .applied := by simp [hstatus, houtput]
      simpa [hne] using ih
    | some response =>
      have happlied : result.status = .applied := by simp [hstatus, houtput]
      simpa [happlied] using ih

/-! ## The calls -/

/-- The responses that were kept are answers of the past. -/
def FromPast (outputs : Dict (Dict Json)) (past : List (ProviderEvent py)) : Prop :=
  ∀ id response, outputs.get? id = some response → ∃ e ∈ past, created e = some (id, response)

variable (credentials dryRun) in
/-- How a call comes about. -/
structure Called (actions : List (ProviderSupplyProvisioningAction py)) (before : List (ProviderEvent py))
    (call : ProviderCall py) : Prop where
  mem : call.action ∈ actions
  due : Due credentials dryRun call.action call.apiKey
  template : call.action.action = .createRunpodServerlessEndpoint →
    call.action.IsDirect ∧ call.request = call.action.request ∨
      ∃ e ∈ before, ∃ response, created e = some (call.action.dependency, response) ∧
        cleanString py (response.get? "id") ≠ "" ∧
        call.request = call.action.request.set "templateId" (.str (cleanString py (response.get? "id")))

theorem FromPast.append {past : List (ProviderEvent py)} (h : FromPast outputs past) (e : ProviderEvent py) :
    FromPast outputs (past ++ [e]) := by
  intro id response hresponse
  obtain ⟨e', he', hcreated⟩ := h id response hresponse
  exact ⟨e', List.mem_append_left _ he', hcreated⟩

theorem FromPast.keepOutput {past : List (ProviderEvent py)} {result : ProvisioningResult}
    (h : FromPast outputs past)
    (hresult : ∀ response, result.output = some response →
      ∃ e ∈ past, created e = some (result.actionId, response)) :
    FromPast (keepOutput outputs result) past := by
  intro id response hresponse
  unfold Gpucall.keepOutput at hresponse
  cases houtput : result.output with
  | none =>
    rw [houtput] at hresponse
    exact h id response hresponse
  | some kept =>
    rw [houtput, Option.map_some, Option.getD_some, Dict.get?_set] at hresponse
    split_ifs at hresponse with hid
    · obtain rfl := Option.some.inj hresponse
      rw [hid]
      exact hresult kept houtput
    · exact h id response hresponse

theorem resolveEndpointRequest_eq_ok {request : Dict Json} (haction : action.action = .createRunpodServerlessEndpoint)
    (hsupported : action.applySupported = true) (h : resolveEndpointRequest action outputs = .ok request) :
    action.IsDirect ∧ request = action.request ∨ ∃ response, outputs.get? action.dependency = some response ∧
      cleanString py (response.get? "id") ≠ "" ∧
      request = action.request.set "templateId" (.str (cleanString py (response.get? "id"))) := by
  unfold resolveEndpointRequest at h
  dsimp only at h
  split_ifs at h with hdirect hid
  · exact .inl ⟨⟨hsupported, haction, hdirect⟩, (Except.ok.inj h).symm⟩
  · cases houtput : outputs.get? action.dependency with
    | none =>
      rw [houtput] at hid
      exact absurd rfl hid
    | some response =>
      rw [houtput] at h hid
      exact .inr ⟨response, rfl, hid, (Except.ok.inj h).symm⟩

theorem Rounds.calls (h : Rounds credentials dryRun outputs actions es results) {past : List (ProviderEvent py)}
    (hpast : FromPast outputs past) {before after : List (ProviderEvent py)} {e : ProviderEvent py}
    (hsplit : es = before ++ e :: after) : Called credentials dryRun actions (past ++ before) e.op := by
  induction h generalizing past before with
  | nil => simp at hsplit
  | @cons outputs action actions es es' result results hid hstatus hround hrest ih =>
    generalize houtput : result.output = output at hround
    cases hround with
    | idle _ =>
      have hrestPast : FromPast (keepOutput outputs result) past :=
        hpast.keepOutput fun response hresponse => by cases houtput.symm.trans hresponse
      obtain ⟨hmem, hdue, htemplate⟩ := ih hrestPast hsplit
      exact ⟨List.mem_cons_of_mem _ hmem, hdue, htemplate⟩
    | @called apiKey request outcome hdue hrequest =>
      cases before with
      | nil =>
        obtain ⟨rfl, -⟩ := List.cons.inj hsplit
        refine ⟨List.mem_cons_self, hdue, fun haction => ?_⟩
        rw [requestFor, haction] at hrequest
        rw [List.append_nil]
        refine (resolveEndpointRequest_eq_ok haction hdue.supported hrequest).imp_right ?_
        rintro ⟨response, hresponse, hfound, hset⟩
        obtain ⟨e, he, hcreated⟩ := hpast _ _ hresponse
        exact ⟨e, he, response, hcreated, hfound, hset⟩
      | cons first before =>
        obtain ⟨rfl, htail⟩ := List.cons.inj hsplit
        have hrestPast : FromPast (keepOutput outputs result)
            (past ++ [⟨⟨action, request, apiKey⟩, outcome⟩]) := by
          refine (hpast.append _).keepOutput fun response hresponse =>
            ⟨_, List.mem_append_right _ List.mem_cons_self, ?_⟩
          -- what is kept was answered to this action
          have hevent : keptEvent (⟨⟨action, request, apiKey⟩, outcome⟩ : ProviderEvent py) =
              some (result.actionId, response) := by
            rw [keptEvent, ← houtput, hresponse, hid]
            rfl
          obtain hnone | hcreated := keptEvent_eq (⟨⟨action, request, apiKey⟩, outcome⟩ : ProviderEvent py)
          · cases hnone.symm.trans hevent
          · exact hcreated ▸ hevent
        obtain ⟨hmem, hdue, htemplate⟩ := ih hrestPast htail
        rw [List.append_assoc, List.singleton_append] at htemplate
        exact ⟨List.mem_cons_of_mem _ hmem, hdue, htemplate⟩

/-- An action whose request names a template is called as it stands. -/
theorem Rounds.direct (h : Rounds credentials dryRun outputs actions es results) {apiKey : String}
    (haction : action ∈ actions) (hdue : Due credentials dryRun action apiKey) (hdirect : action.IsDirect) :
    ∃ e ∈ es, e.op.action = action ∧ e.op.request = action.request := by
  have hresolved : ∀ outputs, requestFor action outputs = .ok action.request := by
    intro outputs
    rw [requestFor, hdirect.2.1]
    exact if_pos hdirect.2.2
  induction h with
  | nil => cases haction
  | @cons outputs first actions es es' result results _ _ hround _ ih =>
    obtain rfl | haction := List.mem_cons.mp haction
    · generalize result.output = output at hround
      cases hround with
      | idle hidle => exact absurd (hresolved outputs) (hidle apiKey _ hdue)
      | called outcome _ hrequest =>
        exact ⟨_, List.mem_append_left _ List.mem_cons_self, rfl,
          Except.ok.inj (hrequest.symm.trans (hresolved outputs))⟩
    · obtain ⟨e, he, hcalled⟩ := ih haction
      exact ⟨e, List.mem_append_right _ he, hcalled⟩

theorem rounds_applyPlan {r : Except String ProvisioningApplyResult}
    (h : (applyProviderSupplyProvisioningPlan actions credentials dryRun).Steps es (.done r)) :
    ∃ result, r = .ok result ∧ Rounds credentials dryRun {} actions es result.results ∧
      result.appliedCount = (result.results.filter (·.status = .applied)).length ∧
      result.appliedCount + result.skippedCount + result.failedCount = result.results.length := by
  obtain ⟨x, es₁, es₂, hloop, hreturn, rfl⟩ := Prog.Steps.of_andThen h
  obtain ⟨results, hrounds, rfl⟩ := rounds_applyActions hloop
  obtain ⟨hresults, happlied, hcounts⟩ := foldl_record results {}
  cases hreturn
  rw [List.append_nil]
  rw [List.nil_append] at hresults
  refine ⟨_, rfl, hresults.symm ▸ hrounds, ?_, ?_⟩
  · exact happlied.trans (by simp [hresults])
  · exact hcounts.trans (by simp [hresults])

/-- A request to which a template was added has one. -/
theorem hasValue_of_set {request request' : Dict Json} {value : Option Json} (hvalue : cleanString py value ≠ "")
    (h : request = request'.set "templateId" (.str (cleanString py value))) :
    hasValue py (request.get? "templateId") = true := by
  rw [h, Dict.get?_set_self, hasValue, strOrEmpty]
  simp [Option.filter_some, Json.truthy, hvalue, pyStr, cleanString_stripped]

/-- Applying a plan keeps to the plan and accounts for what was created exactly when no request has a blank for its
template and every endpoint that is created is answered with its id. -/
theorem truthful_iff {r : Except String ProvisioningApplyResult}
    (h : (applyProviderSupplyProvisioningPlan actions credentials dryRun).Steps es (.done r)) :
    (∃ result, r = .ok result ∧ Truthful actions dryRun es result) ↔
      NamesTemplates actions credentials dryRun ∧ ∀ e ∈ es, AnsweredWithId e := by
  obtain ⟨result, rfl, hrounds, happlied, hcounts⟩ := rounds_applyPlan h
  have hpast : FromPast {} ([] : List (ProviderEvent py)) := fun id response hresponse => by cases hresponse
  have hcalls : ∀ before e after, es = before ++ e :: after → Called credentials dryRun actions before e.op :=
    fun before e after hsplit => hrounds.calls hpast hsplit
  have hlisted : result.results.filterMap (·.listed) = es.filterMap created ↔ ∀ e ∈ es, AnsweredWithId e := by
    rw [hrounds.listed, OptionList.filterMap_eq_iff keptEvent_eq]
    simp only [keptEvent_eq_created]
  constructor
  · rintro ⟨_, ⟨⟩, htruthful⟩
    refine ⟨fun hlive hkey action hmem hdirect => ?_, hlisted.mp htruthful.listed⟩
    obtain ⟨apiKey, hkey⟩ := Option.isSome_iff_exists.mp hkey
    obtain ⟨e, he, rfl, hrequest⟩ := hrounds.direct hmem ⟨hlive, hdirect.1, hkey⟩ hdirect
    obtain ⟨before, after, hsplit⟩ := List.append_of_mem he
    obtain ⟨hvalue, -⟩ | ⟨_, _, response, _, hid, hset⟩ :=
      (htruthful.warranted before e after hsplit).template hdirect.2.1
    · exact hvalue
    · exact hasValue_of_set hid (hrequest ▸ hset)
  · rintro ⟨hnames, hanswered⟩
    refine ⟨result, rfl, ?_, fun before e after hsplit => ?_, hcounts.trans hrounds.length,
      hlisted.mpr hanswered, ?_⟩
    · intro hdry
      cases es with
      | nil => rfl
      | cons e es => cases (hcalls [] e es rfl).due.live.symm.trans hdry
    · obtain ⟨hmem, hdue, htemplate⟩ := hcalls before e after hsplit
      refine ⟨hmem, hdue.supported, e.op.action.unblocked hdue.supported, fun haction => ?_⟩
      refine (htemplate haction).imp_left fun ⟨hdirect, hrequest⟩ => ⟨?_, hrequest⟩
      exact hnames hdue.live (by simp [hdue.apiKey]) _ hmem hdirect
    · rw [happlied, hrounds.applied, hlisted.mpr hanswered]

end

/-! ## An endpoint without an id -/

def vllmTemplate : ProviderSupplyProvisioningAction artifactBuiltins where
  actionId := "template"
  action := .createRunpodTemplate
  resourceType := .template
  resourceId := "vllm"
  tuple := "runpod-vllm"
  applySupported := true
  applyBlockedReasons := []
  request := { entries := [("imageName", .str "vllm"), ("name", .str "vllm"), ("isServerless", .bool true),
    ("env", .obj [])] }
  parameters := {}
  postApplyConfigPatch := []
  actionId_nonempty := by decide
  resourceId_nonempty := by decide
  tuple_nonempty := by decide
  unblocked _ := rfl
  required := by decide
  template := nofun

def vllmEndpoint : ProviderSupplyProvisioningAction artifactBuiltins where
  actionId := "endpoint"
  action := .createRunpodServerlessEndpoint
  resourceType := .endpoint
  resourceId := "vllm"
  tuple := "runpod-vllm"
  applySupported := true
  applyBlockedReasons := []
  request := { entries := [("name", .str "vllm"), ("computeType", .str "GPU"), ("gpuCount", .number "1"),
    ("gpuTypeIds", .arr [.str "NVIDIA L4"]), ("workersMin", .number "0"), ("workersMax", .number "1")] }
  parameters := { entries := [("template_id_from_action", .str "template")] }
  postApplyConfigPatch := []
  actionId_nonempty := by decide
  resourceId_nonempty := by decide
  tuple_nonempty := by decide
  unblocked _ := rfl
  required := by decide
  template _ _ := by decide

def runpodCredentials : Dict (Dict String) where
  entries := [("runpod", { entries := [("api_key", "secret")] })]

/-- Both are created; the second answer is given. -/
def createdBoth (answer : Dict Json) : List (ProviderEvent artifactBuiltins) :=
  [⟨⟨vllmTemplate, vllmTemplate.request, "secret"⟩, .ok { entries := [("id", .str "tpl")] }⟩,
    ⟨⟨vllmEndpoint, vllmEndpoint.request.set "templateId" (.str "tpl"), "secret"⟩, .ok answer⟩]

theorem truthful_iff_id : ∃ result : ProvisioningApplyResult, result.appliedCount = 2 ∧
    Truthful [vllmTemplate, vllmEndpoint] false (createdBoth { entries := [("id", .str "ep")] }) result := by
  have hrun : (applyProviderSupplyProvisioningPlan [vllmTemplate, vllmEndpoint] runpodCredentials false).Steps
    (createdBoth { entries := [("id", .str "ep")] }) (.done (.ok _)) := .cons (.cons .nil)
  have hnames : NamesTemplates [vllmTemplate, vllmEndpoint] runpodCredentials false := by
    intro _ _ action haction hdirect
    obtain ⟨-, -, hdirect⟩ := hdirect
    simp only [List.mem_cons, List.not_mem_nil, or_false] at haction
    obtain rfl | rfl := haction <;> cases hdirect
  have hanswered : ∀ e ∈ createdBoth { entries := [("id", .str "ep")] }, AnsweredWithId e := by
    intro e he haction response hresponse
    simp only [createdBoth, List.mem_cons, List.not_mem_nil, or_false] at he
    obtain rfl | rfl := he
    · cases haction
    · cases hresponse
      decide
  obtain ⟨result, hresult, htruthful⟩ := (truthful_iff hrun).mpr ⟨hnames, hanswered⟩
  cases hresult
  exact ⟨_, rfl, htruthful⟩

/-- An endpoint that is answered without an id is there, and is listed as failed. -/
theorem not_truthful_withoutId : ∃ result : ProvisioningApplyResult,
    (applyProviderSupplyProvisioningPlan [vllmTemplate, vllmEndpoint] runpodCredentials false).Steps
      (createdBoth {}) (.done (.ok result)) ∧
    result.failedCount = 1 ∧ ¬ Truthful [vllmTemplate, vllmEndpoint] false (createdBoth {}) result := by
  refine ⟨_, .cons (.cons .nil), rfl, fun htruthful => ?_⟩
  cases htruthful.appliedCount

end Gpucall
