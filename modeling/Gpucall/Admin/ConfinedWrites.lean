import Gpucall.Admin.InboxWrites
import Gpucall.Admin.LiveValidation

/-! Whether `process_inbox` writes for a submission in the folders only that it is given. It makes the names of the
reports from the request id of the submission, without the test that the folder of a staged configuration has. -/

namespace Gpucall.Inbox

open Effects

/-! ## Runs of one submission -/

/-- A call returns, or raises an `Exception`. -/
def Answered (e : Event InboxCall InboxCall.Result InboxError) : Prop :=
  ∀ error, e.outcome = .error error → error.IsException

/-- What is written for a submission without a test that it is in the folders -/
inductive UncheckedPath (py : Builtins) (env : Environment) (conv : Conversions) (world : Materialization)
    (folders : InboxFolders) (automation : InboxAutomation) (name : String) (submission : Dict Json) :
    List String → Prop where
  | report : UncheckedPath py env conv world folders automation name submission
      (reportPath folders.reports (submissionRequestId py name submission) .report)
  | automation {artifact : Dict Json} {recipe : CanonicalRecipe} {path : List String}
      (hartifact : artifactFromSubmission submission = .ok artifact)
      (hrecipe : canonicalRecipeFromArtifact py env conv world artifact = .ok recipe)
      (h : ConfiguredPath folders automation (submissionRequestId py name submission) recipe.name path) :
    UncheckedPath py env conv world folders automation name submission path

/-- A submission as it is processed: the place and the fields of its file, and the settings. -/
structure InboxSubmission where
  py : Builtins
  env : Environment
  conv : Conversions
  world : Materialization
  alnum : Alphanumeric
  text : ActivationError → String
  folders : InboxFolders
  automation : InboxAutomation
  path : InboxPath
  fields : List (String × Json)

namespace InboxSubmission

variable (s : InboxSubmission)

def submission : Dict Json := .ofFields s.fields

def requestId : String := submissionRequestId s.py s.path.name s.submission

def program : InboxProg InboxResult :=
  processLoaded s.py s.env s.conv s.world s.alnum s.text s.folders s.automation s.path (.ok (.obj s.fields))

def Unchecked : List String → Prop :=
  UncheckedPath s.py s.env s.conv s.world s.folders s.automation s.path.name s.submission

/-- Whatever the calls answer, a file that is written is in the folders. -/
def Confined : Prop :=
  ∀ es q, s.program.Steps es q → (∀ e ∈ es, Answered e) → ∀ e ∈ es, (∃ a, e.outcome = .ok a) →
    ∀ path ∈ e.op.writes s.folders, IsPath path → s.folders.Inside path

/-- A run can write the report. -/
def WritesReport (path : List String) : Prop :=
  ∃ es q, s.program.Steps es q ∧ (∀ e ∈ es, Answered e) ∧ ∃ e ∈ es, e.op = .writeReport path ∧ ∃ a, e.outcome = .ok a

/-- Another submission under the same settings -/
def other (path : InboxPath) (fields : List (String × Json)) : InboxSubmission := { s with path, fields }

/-- No report of the one is written over a report of the other. -/
def ReportsApart (s' : InboxSubmission) : Prop := ∀ path, IsPath path → s.WritesReport path → ¬ s'.WritesReport path

end InboxSubmission

/-! ## What a submission calls -/

section Calls

variable {py : Builtins} {env : Environment} {conv : Conversions} {world : Materialization} {alnum : Alphanumeric}
  {text : ActivationError → String} {folders : InboxFolders} {automation : InboxAutomation} {path : InboxPath}
  {fields : List (String × Json)} {requestId : String} {unchecked : List String → Prop} {C : InboxCall → Prop}

/-- A call writes in the folders or without a test, and reports only under the request id. -/
def SubmissionCall (folders : InboxFolders) (unchecked : List String → Prop) (requestId : String) (op : InboxCall) :
    Prop :=
  Writes folders unchecked op ∧
    ∀ path, op = .writeReport path → ∃ kind, path = reportPath folders.reports requestId kind

theorem Automates.submissionCall {others : List String → Prop} {op : InboxCall}
    (h : Automates folders others requestId op) (hothers : ∀ path, others path → unchecked path) : SubmissionCall folders unchecked requestId op := by
  refine ⟨fun path hpath => (h.1 path hpath).imp id (hothers path), ?_⟩
  rintro path rfl
  obtain ⟨kind, -, hkind⟩ := h.2
  exact ⟨kind, hkind⟩

/-- The calls of a program with variables meet a condition, and it raises at most an `Exception`. -/
abbrev LocalCalls {α : Type} (C : InboxCall → Prop) (c : InboxLocal α) : Prop :=
  ∀ vars, c.wp (.calls C InboxError.IsException) (fun r _ _ => ∀ error, r = .error error → error.IsException) vars ()

theorem localCalls_bind {α β : Type} {c : InboxLocal α} {f : α → InboxLocal β} (hc : LocalCalls C c)
    (hf : ∀ a, LocalCalls C (f a)) : LocalCalls C (c >>= f) := by
  intro vars
  refine Local.wp_bind.mpr (Local.wp_mono (hc vars) fun r vars' _ hr => ?_)
  cases r with
  | ok a => exact hf a vars'
  | error e =>
    rintro _ ⟨⟩
    exact hr e rfl

theorem localCalls_pure {α : Type} (a : α) : LocalCalls C (pure a) := fun _ => Local.wp_pure.mpr nofun

theorem localCalls_write {f : InboxVars → InboxVars} : LocalCalls C (Local.write f) := fun _ => ⟨_, _, rfl, nofun⟩

theorem localCalls_read : LocalCalls C (Local.read : InboxLocal InboxVars) := fun _ => ⟨_, _, rfl, nofun⟩

theorem localCalls_lift {α : Type} {p : InboxProg α} (h : Calls C p) : LocalCalls C (liftM p) := by
  intro vars
  rw [Local.liftM_eq_ofProg, Local.wp_ofProg]
  refine Prog.wp_mono h fun r _ hr => ?_
  rintro error rfl
  exact hr

theorem localCalls_orRaise_bind {α β : Type} {value : Except ActivationError α} {f : α → InboxLocal β}
    (hf : ∀ a, value = .ok a → LocalCalls C (f a)) : LocalCalls C (liftM (orRaise value) >>= f) := by
  intro vars
  rw [Local.wp_bind, Local.liftM_eq_ofProg, Local.wp_ofProg]
  cases value with
  | ok a => exact hf a rfl vars
  | error e =>
    rintro _ ⟨⟩
    trivial

theorem localCalls_raise_bind {α β : Type} {e : ActivationError} {f : α → InboxLocal β} :
    LocalCalls C (liftM (raise e : InboxProg α) >>= f) := by
  intro vars
  rw [Local.wp_bind, Local.liftM_eq_ofProg, Local.wp_ofProg]
  rintro _ ⟨⟩
  trivial

/-- A call that writes no report -/
theorem localCalls_call {op : InboxCall} (hwrites : Writes folders unchecked op)
    (hreport : ∀ path, op ≠ .writeReport path) :
    LocalCalls (SubmissionCall folders unchecked requestId) (liftM (inboxCall op)) :=
  localCalls_lift (Prog.ensures_call ⟨hwrites, fun path hop => absurd hop (hreport path)⟩)

theorem writes_nothing {op : InboxCall} (h : op.writes folders = []) : Writes folders unchecked op :=
  fun path hpath => by simp [h] at hpath

theorem writes_inside {op : InboxCall} {path : List String} (h : op.writes folders = [path])
    (hpath : folders.Inside path) : Writes folders unchecked op := by
  intro written hwritten
  rw [h, List.mem_singleton] at hwritten
  exact .inl (hwritten ▸ hpath)

theorem inside_index : folders.Inside folders.index := .inl rfl

theorem localCalls_writeReport (h : unchecked (reportPath folders.reports requestId .report)) :
    LocalCalls (SubmissionCall folders unchecked requestId) (liftM (writeReport folders requestId .report)) := by
  refine localCalls_lift (Prog.ensures_call ⟨fun path hpath => .inr ?_, ?_⟩)
  · obtain rfl := List.mem_singleton.mp hpath
    exact h
  · rintro path ⟨⟩
    exact ⟨.report, rfl⟩

theorem calls_moveInside {source destination : InboxPath}
    (h : destination.folder ∈
      [folders.reports, folders.processed, folders.processing, folders.failed, folders.output]) :
    Calls (SubmissionCall folders unchecked requestId) (moveSubmission source destination) :=
  calls_moveSubmission (fun _ => ⟨writes_nothing rfl, nofun⟩) ⟨writes_nothing rfl, nofun⟩ fun _ =>
    ⟨writes_inside rfl (.inr ⟨destination.folder, h, List.prefix_append _ _⟩), nofun⟩

theorem localCalls_moveCurrent {folder : List String}
    (h : folder ∈ [folders.reports, folders.processed, folders.processing, folders.failed, folders.output]) :
    LocalCalls (SubmissionCall folders unchecked requestId) (moveCurrent folder) := by
  refine localCalls_bind localCalls_read fun vars => ?_
  refine localCalls_bind (localCalls_lift (calls_moveInside h)) fun destination => ?_
  exact localCalls_bind localCalls_write fun _ => localCalls_pure _

theorem localCalls_rejectDraft {reasons : String} (h : unchecked (reportPath folders.reports requestId .report)) :
    LocalCalls (SubmissionCall folders unchecked requestId) (rejectDraft folders requestId reasons) := by
  refine localCalls_bind (localCalls_writeReport h) fun _ => ?_
  refine localCalls_bind (localCalls_moveCurrent (by simp)) fun destination => ?_
  exact localCalls_bind (localCalls_call (writes_inside rfl inside_index) nofun) fun _ => localCalls_pure _

theorem localCalls_materializeSubmission {submission : Dict Json}
    (hreport : unchecked (reportPath folders.reports requestId .report))
    (hautomation : ∀ artifact recipe, artifactFromSubmission submission = .ok artifact →
      canonicalRecipeFromArtifact py env conv world artifact = .ok recipe →
      ∀ path, ConfiguredPath folders automation requestId recipe.name path → unchecked path) :
    LocalCalls (SubmissionCall folders unchecked requestId)
      (materializeSubmission py env conv world alnum folders automation requestId submission) := by
  refine localCalls_bind (localCalls_call (writes_nothing rfl) nofun) fun review => ?_
  split
  · exact localCalls_raise_bind
  refine localCalls_orRaise_bind fun artifact hartifact => localCalls_orRaise_bind fun recipe hrecipe => ?_
  have hname := recipeYamlPath_canonicalRecipe hrecipe
  have hpaths := hautomation artifact recipe hartifact hrecipe
  refine localCalls_bind (localCalls_call (writes_nothing rfl) nofun) fun _ => localCalls_orRaise_bind fun _ _ => ?_
  have houtput : folders.Inside (folders.output ++ [recipe.name ++ ".yml"]) :=
    .inr ⟨folders.output, by simp, List.prefix_append _ _⟩
  refine localCalls_bind (localCalls_call (writes_inside rfl houtput) nofun) fun _ => ?_
  refine localCalls_bind (localCalls_call (writes_nothing rfl) nofun) fun _ => ?_
  refine localCalls_bind (localCalls_lift ((automates_autoExistingTupleReport hname).mono
    fun op h => h.submissionCall hpaths)) fun _ => ?_
  refine localCalls_bind (localCalls_lift (automates_autoPromotionReport.mono
    fun op h => h.submissionCall hpaths)) fun _ => ?_
  refine localCalls_bind (localCalls_writeReport hreport) fun _ => ?_
  refine localCalls_bind (localCalls_moveCurrent (by simp)) fun destination => ?_
  exact localCalls_bind (localCalls_call (writes_inside rfl inside_index) nofun) fun _ => localCalls_pure _

theorem localCalls_inWork {submission : Dict Json}
    (hreport : unchecked (reportPath folders.reports requestId .report))
    (hautomation : ∀ artifact recipe, artifactFromSubmission submission = .ok artifact →
      canonicalRecipeFromArtifact py env conv world artifact = .ok recipe →
      ∀ path, ConfiguredPath folders automation requestId recipe.name path → unchecked path) :
    LocalCalls (SubmissionCall folders unchecked requestId) (do
      let vars ← Local.read
      inboxCall (.markProcessing requestId vars.currentPath.names)
      match ← inboxCall (.validateDraft submission) with
      | some reasons => rejectDraft folders requestId reasons
      | none => materializeSubmission py env conv world alnum folders automation requestId submission
        : InboxLocal InboxResult) := by
  refine localCalls_bind localCalls_read fun vars => ?_
  refine localCalls_bind (localCalls_call (writes_inside rfl inside_index) nofun) fun _ => ?_
  refine localCalls_bind (localCalls_call (writes_nothing rfl) nofun) fun reasons => ?_
  cases reasons with
  | some reasons => exact localCalls_rejectDraft hreport
  | none => exact localCalls_materializeSubmission hreport hautomation

theorem localCalls_processBody
    (hreport : unchecked (reportPath folders.reports (submissionRequestId py path.name (.ofFields fields)) .report))
    (hautomation : ∀ artifact recipe, artifactFromSubmission (.ofFields fields) = .ok artifact →
      canonicalRecipeFromArtifact py env conv world artifact = .ok recipe →
      ∀ path', ConfiguredPath folders automation (submissionRequestId py path.name (.ofFields fields)) recipe.name
        path' → unchecked path') :
    LocalCalls (SubmissionCall folders unchecked (submissionRequestId py path.name (.ofFields fields)))
      (processBody py env conv world alnum folders automation path (.ok (.obj fields))) := by
  show LocalCalls _ ((liftM (inboxCall (.upsertPending (requestMetadata py path.name (.ofFields fields)) path.names)) :
    InboxLocal Unit) >>= _)
  refine localCalls_bind (localCalls_call (writes_inside rfl inside_index) nofun) fun _ => ?_
  refine localCalls_bind localCalls_write fun _ => ?_
  have hrest := @localCalls_inWork py env conv world alnum folders automation _ _ _ hreport hautomation
  split
  · exact localCalls_bind (localCalls_moveCurrent (by simp)) fun _ => hrest
  · exact hrest

theorem localCalls_failSubmission {e : InboxError} (he : e.IsException) :
    LocalCalls (SubmissionCall folders unchecked requestId) (failSubmission text folders path e) := by
  cases e with
  | systemExit message => exact absurd he id
  | exception e =>
  refine localCalls_bind localCalls_read fun vars => ?_
  have hrest (destination : InboxPath) : LocalCalls (SubmissionCall folders unchecked requestId) (do
      inboxCall (.markTerminal vars.requestId
        { status := .failed, originalPath := destination.names, error := some (text e) })
      return { submission := destination.names, ok := false, error := some (text e) } : InboxLocal InboxResult) :=
    localCalls_bind (localCalls_call (writes_inside rfl inside_index) nofun) fun _ => localCalls_pure _
  refine localCalls_bind (localCalls_call (writes_nothing rfl) nofun) fun there => ?_
  split
  · exact localCalls_bind (localCalls_lift (calls_moveInside (by simp))) hrest
  · exact hrest _

theorem calls_processLoaded
    (hreport : unchecked (reportPath folders.reports (submissionRequestId py path.name (.ofFields fields)) .report))
    (hautomation : ∀ artifact recipe, artifactFromSubmission (.ofFields fields) = .ok artifact →
      canonicalRecipeFromArtifact py env conv world artifact = .ok recipe →
      ∀ path', ConfiguredPath folders automation (submissionRequestId py path.name (.ofFields fields)) recipe.name
        path' → unchecked path') :
    Calls (SubmissionCall folders unchecked (submissionRequestId py path.name (.ofFields fields)))
      (processLoaded py env conv world alnum text folders automation path (.ok (.obj fields))) := by
  have hlocal : (processBody py env conv world alnum folders automation path (.ok (.obj fields))).wp
      (.calls (SubmissionCall folders unchecked (submissionRequestId py path.name (.ofFields fields)))
        InboxError.IsException) _ ⟨path, pathStem path.name⟩ () := localCalls_processBody hreport hautomation _
  refine Local.wp_run (Local.wp_tryCatch.mpr (Local.wp_mono hlocal fun r vars _ hr => ?_))
  cases r with
  | ok result => trivial
  | error e =>
    refine Local.wp_mono (localCalls_failSubmission (hr e rfl) vars) fun r' _ _ hr' => ?_
    cases r' with
    | ok result => trivial
    | error e' => exact hr' e' rfl

end Calls

/-! ## What a submission can come to -/

section Reach

variable {alnum : Alphanumeric} {folders : InboxFolders} {automation : InboxAutomation} {requestId recipeName : String}
  {config : List String} {op : InboxCall}

theorem answered_ok {op : InboxCall} (value : op.Result) : Answered ⟨op, .ok value⟩ := nofun

theorem returns_call {α : Type} {o : InboxCall} {b : α} {f : o.Result → InboxProg α} (a : o.Result)
    (h : (f a).Returns Answered b) : (inboxCall o >>= f).Returns Answered b := .call a (answered_ok a) h

theorem reaches_call {α : Type} {o : InboxCall} {f : o.Result → InboxProg α} (a : o.Result)
    (h : (f a).Reaches Answered op) : (inboxCall o >>= f).Reaches Answered op := .call a (answered_ok a) h

theorem returns_checksPass : (checksPass automation config).Returns Answered true := by
  unfold checksPass
  by_cases hvalidate : automation.autoRunValidateConfig = true <;>
    by_cases hlaunch : automation.autoRunLaunchCheck = true <;>
    simp only [hvalidate, hlaunch, if_true, Bool.false_eq_true, if_false]
  · refine returns_call true (returns_call true ?_)
    exact .here
  · refine returns_call true ?_
    exact .here
  · refine returns_call true ?_
    exact .here
  · exact .here

theorem returns_stageActivationConfig : ∃ staged,
    (stageActivationConfig alnum folders requestId config).Returns Answered staged :=
  ⟨_, returns_call false (returns_call () .here)⟩

/-! ### Existing tuples -/

/-- The review of a recipe that a tuple is eligible for -/
def eligibleReview (matched : Bool) : InboxReview := { eligibleTuples := [""], matched }

theorem autoExistingTupleReport_eq (h : automation.autoValidateExistingTuples) (hconfig : folders.config = some config)
    (matched : Bool) :
    autoExistingTupleReport alnum folders automation requestId (eligibleReview matched) recipeName = (do
      if ← existingTupleValidated folders automation requestId (eligibleReview matched) recipeName then
        if automation.autoActivateExistingValidatedRecipe then
          activateExistingRecipe alnum folders automation requestId config recipeName
      writeReport folders requestId .existingTupleActivation) := by
  rw [autoExistingTupleReport, if_neg (by simp [h]), hconfig]
  rfl

theorem returns_existingTupleValidated :
    (existingTupleValidated folders automation requestId (eligibleReview true) recipeName).Returns Answered true :=
  .here

theorem reaches_existingTupleReport (h : automation.autoValidateExistingTuples) (hconfig : folders.config = some config)
    (hname : recipeYamlPath recipeName = .ok ["recipes", recipeName ++ ".yml"]) :
    (autoExistingTupleReport alnum folders automation requestId (eligibleReview true) recipeName).Reaches Answered
      (.writeReport (reportPath folders.reports requestId .existingTupleActivation)) := by
  rw [autoExistingTupleReport_eq h hconfig]
  refine returns_existingTupleValidated.reaches ?_
  rw [if_pos rfl]
  split
  · have hactive :
        (activateExistingRecipe alnum folders automation requestId config recipeName).Returns Answered () := by
      simp only [activateExistingRecipe, hname, orRaise, pure_bind]
      refine returns_call true ?_
      exact .here
    refine hactive.reaches ?_
    exact .here
  · exact .here

theorem reaches_existingTupleValidated (hbillable : automation.autoBillableValidation)
    (hop : op = .readiness recipeName ∨
      op = .writeReport (reportPath folders.reports requestId .existingTupleReadiness) ∨ op = .smoke "" recipeName) :
    (existingTupleValidated folders automation requestId (eligibleReview false) recipeName).Reaches Answered op := by
  obtain ⟨n, hn⟩ : ∃ n, max 1 automation.autoValidationMaxAttempts = n + 1 :=
    Nat.exists_eq_add_of_le' (le_max_left 1 _)
  have heq : existingTupleValidated folders automation requestId (eligibleReview false) recipeName = (do
      let refreshed ← inboxCall (.readiness recipeName)
      writeReport folders requestId .existingTupleReadiness
      if !refreshed then return false
      if !(← inboxCall (.inspect .existingTupleGate)) then return false
      let targets ← inboxCall .validationTargets
      anySmokePasses recipeName (targets.take (n + 1))) := by
    rw [existingTupleValidated, if_neg (by simp [eligibleReview]), if_neg (by simp [hbillable]), hn]
  rw [heq]
  rcases hop with rfl | rfl | rfl
  · exact .here
  · refine reaches_call true ?_
    exact .here
  · refine reaches_call true (reaches_call () (reaches_call true (reaches_call [""] ?_)))
    exact .here

theorem reaches_existingRecipe (h : automation.autoActivateExistingValidatedRecipe)
    (hconfig : folders.config = some config)
    (hname : recipeYamlPath recipeName = .ok ["recipes", recipeName ++ ".yml"]) :
    (autoExistingTupleReport alnum folders automation requestId (eligibleReview true) recipeName).Reaches Answered
      (.writeRecipe (config ++ ["recipes", recipeName ++ ".yml"])) := by
  rw [autoExistingTupleReport_eq (automation.activate_validates h) hconfig]
  refine returns_existingTupleValidated.reaches ?_
  rw [if_pos rfl, if_pos h]
  refine Prog.Reaches.bind ?_
  simp only [activateExistingRecipe, hname, orRaise, pure_bind]
  refine reaches_call false (reaches_call true ?_)
  rw [Bool.not_true, Bool.and_false, if_neg Bool.false_ne_true]
  split
  · obtain ⟨staged, hstaged⟩ := @returns_stageActivationConfig alnum folders requestId config
    refine hstaged.reaches (reaches_call () (returns_checksPass.reaches ?_))
    exact .here
  · exact .here

/-! ### Promotions -/

/-- The review of a recipe that there are candidates for -/
def candidateReview : InboxReview := { hasCandidates := true }

def submissionWorkDir (folders : InboxFolders) (requestId : String) : List String :=
  PosixPath.join folders.workRoot requestId

theorem reaches_promote (h : automation.autoPromoteCandidates) (hconfig : folders.config = some config) :
    (autoPromotionReport alnum folders automation requestId candidateReview recipeName).Reaches Answered
      (.promote (submissionWorkDir folders requestId)) := by
  rw [autoPromotionReport, if_neg (by simp [h]), hconfig]
  exact .here

theorem autoPromotionReport_eq (h : automation.autoPromoteCandidates) (hconfig : folders.config = some config)
    (hbillable : automation.autoBillableValidation → automation.autoProvisionSupply) :
    autoPromotionReport alnum folders automation requestId candidateReview recipeName = (do
      let promotion ← inboxCall (.promote (submissionWorkDir folders requestId))
      if automation.autoProvisionSupply then
        let supply ← provisionSupply folders requestId promotion
        postSupplyWorkflow alnum folders automation requestId config
          (submissionWorkDir folders requestId ++ ["config"]) promotion supply recipeName
        writeReport folders requestId .postSupplyWorkflow
      writeReport folders requestId .promotion) := by
  have hbudget : (automation.autoBillableValidation && !automation.autoProvisionSupply) = false := by
    cases hb : automation.autoBillableValidation with
    | false => rfl
    | true => rw [hbillable hb]; rfl
  rw [autoPromotionReport, if_neg (by simp [h]), hconfig]
  simp only [hbudget]
  rfl

theorem reaches_promotionReport (h : automation.autoPromoteCandidates) (hconfig : folders.config = some config)
    (hbillable : automation.autoBillableValidation → automation.autoProvisionSupply) :
    (autoPromotionReport alnum folders automation requestId candidateReview recipeName).Reaches Answered
      (.writeReport (reportPath folders.reports requestId .promotion)) := by
  rw [autoPromotionReport_eq h hconfig hbillable]
  refine reaches_call { tuple := "", configExists := false } ?_
  split
  · have hsupply : (provisionSupply folders requestId { tuple := "", configExists := false }).Returns Answered
        .skipped := .here
    have hworkflow : (postSupplyWorkflow alnum folders automation requestId config
        (submissionWorkDir folders requestId ++ ["config"]) { tuple := "", configExists := false } .skipped
        recipeName).Returns Answered () := .here
    refine hsupply.reaches (hworkflow.reaches (reaches_call () ?_))
    exact .here
  · exact .here

/-- With a supply that is provisioned, the reports of the supply and what the workflow behind it comes to. -/
theorem reaches_supply (h : automation.autoProvisionSupply) (hconfig : folders.config = some config)
    (hop : op = .writeReport (reportPath folders.reports requestId .supplyProvisioningPlan) ∨
      op = .writeReport (reportPath folders.reports requestId .supplyProvisioningApply) ∨
      op = .writeReport (reportPath folders.reports requestId .postSupplyWorkflow)) :
    (autoPromotionReport alnum folders automation requestId candidateReview recipeName).Reaches Answered op := by
  rw [autoPromotionReport_eq (automation.provision_promotes h) hconfig fun _ => h]
  rcases hop with rfl | rfl | rfl
  · refine reaches_call { tuple := "" } ?_
    rw [if_pos h]
    refine Prog.Reaches.bind (reaches_call true ?_)
    exact .here
  · refine reaches_call { tuple := "" } ?_
    rw [if_pos h]
    refine Prog.Reaches.bind (reaches_call true (reaches_call () (reaches_call .applied ?_)))
    exact .here
  · refine reaches_call { tuple := "", configExists := false } ?_
    rw [if_pos h]
    have hsupply : (provisionSupply folders requestId { tuple := "", configExists := false }).Returns Answered
        .skipped := .here
    have hworkflow : (postSupplyWorkflow alnum folders automation requestId config
        (submissionWorkDir folders requestId ++ ["config"]) { tuple := "", configExists := false } .skipped
        recipeName).Returns Answered () := .here
    refine hsupply.reaches (hworkflow.reaches ?_)
    exact .here

/-- What the workflow behind a supply does once the configuration is checked -/
def refreshAndValidate (alnum : Alphanumeric) (folders : InboxFolders) (automation : InboxAutomation)
    (requestId : String) (config : List String) (tuple recipeName : String) : InboxProg Unit := do
  let refreshed ← inboxCall (.readiness recipeName)
  writeReport folders requestId .postSupplyReadiness
  if !refreshed then return
  if !(← inboxCall (.inspect .postSupplyGate)) then return
  if !automation.autoBillableValidation then return
  let passed ← inboxCall (.smoke tuple recipeName)
  writeReport folders requestId .postSupplyValidation
  if passed && automation.autoActivateValidated then
    activatePostSupplyConfig alnum folders automation requestId config recipeName tuple

/-- Where nothing could be planned, the workflow goes on with the configuration as it is. -/
theorem reaches_postSupplyWorkflow {promotionConfig : List String} {tuple : String}
    (h : (refreshAndValidate alnum folders automation requestId config tuple recipeName).Reaches Answered op) :
    (postSupplyWorkflow alnum folders automation requestId config promotionConfig { tuple } .planFailed
      recipeName).Reaches Answered op := by
  have heq : postSupplyWorkflow alnum folders automation requestId config promotionConfig { tuple } .planFailed
      recipeName = (do
        if automation.autoRunValidateConfig then
          if !(← inboxCall (.check promotionConfig)) then return
        refreshAndValidate alnum folders automation requestId config tuple recipeName) := rfl
  rw [heq]
  split
  · exact reaches_call true h
  · exact h

theorem reaches_refreshAndValidate (tuple : String) (hprovision : automation.autoProvisionSupply)
    (hconfig : folders.config = some config)
    (h : (refreshAndValidate alnum folders automation requestId config tuple recipeName).Reaches Answered op) :
    (autoPromotionReport alnum folders automation requestId candidateReview recipeName).Reaches Answered op := by
  rw [autoPromotionReport_eq (automation.provision_promotes hprovision) hconfig fun _ => hprovision]
  refine reaches_call { tuple } ?_
  have hsupply : (provisionSupply folders requestId { tuple }).Returns Answered .planFailed := by
    refine returns_call false ?_
    exact .here
  rw [if_pos hprovision]
  exact hsupply.reaches (Prog.Reaches.bind (reaches_postSupplyWorkflow h))

theorem reaches_postSupplyReadiness {tuple : String}
    (hop : op = .readiness recipeName ∨ op = .writeReport (reportPath folders.reports requestId .postSupplyReadiness)) :
    (refreshAndValidate alnum folders automation requestId config tuple recipeName).Reaches Answered op := by
  rcases hop with rfl | rfl
  · exact .here
  · refine reaches_call true ?_
    exact .here

theorem reaches_postSupplyValidation {tuple : String} (hbillable : automation.autoBillableValidation)
    (hop : op = .smoke tuple recipeName ∨
      op = .writeReport (reportPath folders.reports requestId .postSupplyValidation)) :
    (refreshAndValidate alnum folders automation requestId config tuple recipeName).Reaches Answered op := by
  refine reaches_call true (reaches_call () (reaches_call true ?_))
  rw [if_neg (by decide), if_neg (by simp [hbillable])]
  rcases hop with rfl | rfl
  · exact .here
  · refine reaches_call true ?_
    exact .here

theorem reaches_activation {tuple : String} (hactivate : automation.autoActivateValidated) :
    (refreshAndValidate alnum folders automation requestId config tuple recipeName).Reaches Answered
      (.copyPromotionArtifacts config recipeName tuple) := by
  have hbillable := automation.activateValidated_validates hactivate
  refine reaches_call true (reaches_call () (reaches_call true ?_))
  rw [if_neg (by decide), if_neg (by simp [hbillable])]
  refine reaches_call true (reaches_call () ?_)
  rw [if_pos (by simp [hactivate])]
  obtain ⟨staged, hstaged⟩ := @returns_stageActivationConfig alnum folders (requestId ++ ".post-supply") config
  refine hstaged.reaches (reaches_call () (returns_checksPass.reaches ?_))
  exact .here

/-! ### The automation as a whole -/

theorem returns_autoExistingTupleReport (hconfig : folders.config = some config) :
    (autoExistingTupleReport alnum folders automation requestId candidateReview recipeName).Returns Answered () := by
  rw [autoExistingTupleReport, hconfig]
  split
  · exact .here
  · exact .here

/-- After a review, a run of the automation comes to a call. -/
inductive Automation (alnum : Alphanumeric) (folders : InboxFolders) (automation : InboxAutomation)
    (requestId recipeName : String) (op : InboxCall) (review : InboxReview) : Prop where
  | existing (h : (autoExistingTupleReport alnum folders automation requestId review recipeName).Reaches Answered op)
  | promotion
      (hreturns : (autoExistingTupleReport alnum folders automation requestId review recipeName).Returns Answered ())
      (h : (autoPromotionReport alnum folders automation requestId review recipeName).Reaches Answered op)

/-- What the automation may write to it writes to in some run. -/
theorem AutomationPath.written {path : List String} (hconfig : folders.config = some config)
    (hname : recipeYamlPath recipeName = .ok ["recipes", recipeName ++ ".yml"])
    (h : AutomationPath folders automation requestId recipeName config path) :
    ∃ op review, path ∈ op.writes folders ∧ review.rejection = none ∧
      Automation alnum folders automation requestId recipeName op review := by
  have hexisting {matched : Bool} (op : InboxCall) (hpath : path ∈ op.writes folders)
      (h : (autoExistingTupleReport alnum folders automation requestId (eligibleReview matched) recipeName).Reaches
        Answered op) : ∃ op review, path ∈ op.writes folders ∧ review.rejection = none ∧
        Automation alnum folders automation requestId recipeName op review :=
    ⟨op, _, hpath, rfl, .existing h⟩
  have hpromotion (op : InboxCall) (hpath : path ∈ op.writes folders)
      (h : (autoPromotionReport alnum folders automation requestId candidateReview recipeName).Reaches Answered op) :
      ∃ op review, path ∈ op.writes folders ∧ review.rejection = none ∧
        Automation alnum folders automation requestId recipeName op review :=
    ⟨op, _, hpath, rfl, .promotion (returns_autoExistingTupleReport hconfig) h⟩
  cases h with
  | existingReport h => exact hexisting _ List.mem_cons_self (reaches_existingTupleReport h hconfig hname)
  | existingReadiness h hbillable hpath =>
    have hreach {op : InboxCall} (hop : op = .readiness recipeName ∨
        op = .writeReport (reportPath folders.reports requestId .existingTupleReadiness) ∨
        op = .smoke "" recipeName) :
        (autoExistingTupleReport alnum folders automation requestId (eligibleReview false) recipeName).Reaches
          Answered op := by
      rw [autoExistingTupleReport_eq h hconfig]
      exact Prog.Reaches.bind (reaches_existingTupleValidated hbillable hop)
    rcases List.mem_cons.mp hpath with rfl | hpath
    · exact hexisting _ List.mem_cons_self (hreach (.inr (.inl rfl)))
    rcases List.mem_cons.mp hpath with rfl | hpath
    · exact hexisting (.readiness recipeName) List.mem_cons_self (hreach (.inl rfl))
    obtain rfl := List.mem_singleton.mp hpath
    exact hexisting (.smoke "" recipeName) List.mem_cons_self (hreach (.inr (.inr rfl)))
  | existingRecipe h => exact hexisting _ List.mem_cons_self (reaches_existingRecipe h hconfig hname)
  | workDir h =>
    exact hpromotion (.promote (submissionWorkDir folders requestId)) List.mem_cons_self (reaches_promote h hconfig)
  | promotion h hbillable => exact hpromotion _ List.mem_cons_self (reaches_promotionReport h hconfig hbillable)
  | supply h hpath =>
    simp only [List.map_cons, List.map_nil, List.mem_cons, List.not_mem_nil, or_false] at hpath
    rcases hpath with rfl | rfl | rfl | rfl | rfl
    · exact hpromotion (.readiness recipeName) List.mem_cons_self
        (reaches_refreshAndValidate "" h hconfig (reaches_postSupplyReadiness (.inl rfl)))
    · exact hpromotion _ List.mem_cons_self (reaches_supply h hconfig (.inl rfl))
    · exact hpromotion _ List.mem_cons_self (reaches_supply h hconfig (.inr (.inl rfl)))
    · exact hpromotion _ List.mem_cons_self
        (reaches_refreshAndValidate "" h hconfig (reaches_postSupplyReadiness (.inr rfl)))
    · exact hpromotion _ List.mem_cons_self (reaches_supply h hconfig (.inr (.inr rfl)))
  | validation h hbillable hpath =>
    simp only [List.mem_cons, List.not_mem_nil, or_false] at hpath
    rcases hpath with rfl | rfl
    · exact hpromotion (.smoke "" recipeName) List.mem_cons_self
        (reaches_refreshAndValidate _ h hconfig (reaches_postSupplyValidation hbillable (.inl rfl)))
    · exact hpromotion _ List.mem_cons_self
        (reaches_refreshAndValidate "" h hconfig (reaches_postSupplyValidation hbillable (.inr rfl)))
  | activation h hactivate tuple hpath =>
    exact hpromotion (.copyPromotionArtifacts config recipeName tuple) hpath
      (reaches_refreshAndValidate _ h hconfig (reaches_activation hactivate))

end Reach

/-! ### A submission -/

section ReachLocal

variable {py : Builtins} {env : Environment} {conv : Conversions} {world : Materialization} {alnum : Alphanumeric}
  {text : ActivationError → String} {folders : InboxFolders} {automation : InboxAutomation} {path : InboxPath}
  {fields : List (String × Json)} {requestId : String} {submission : Dict Json} {vars : InboxVars} {op : InboxCall}

theorem local_call {β : Type} {o : InboxCall} {f : o.Result → InboxLocal β} (a : o.Result)
    (h : (f a vars).Reaches Answered op) :
    ((liftM (inboxCall o) >>= f : InboxLocal β) vars).Reaches Answered op := .step (r := .ok a) (answered_ok a) h

theorem local_reaches {α β : Type} {p : InboxProg α} {f : α → InboxLocal β} (h : p.Reaches Answered op) :
    ((liftM p >>= f : InboxLocal β) vars).Reaches Answered op := h.andThen.andThen

theorem local_returns {α β : Type} {p : InboxProg α} {f : α → InboxLocal β} {a : α} (h : p.Returns Answered a)
    (hf : (f a vars).Reaches Answered op) : ((liftM p >>= f : InboxLocal β) vars).Reaches Answered op := by
  induction h with
  | here => exact hf
  | step hr _ ih => exact .step hr ih

theorem local_orRaise {α β : Type} {value : Except ActivationError α} {f : α → InboxLocal β} {a : α}
    (hvalue : value = .ok a) (hf : (f a vars).Reaches Answered op) :
    ((liftM (orRaise value) >>= f : InboxLocal β) vars).Reaches Answered op := by
  subst hvalue
  exact hf

theorem local_moveCurrent {β : Type} {folder : List String} {f : InboxPath → InboxLocal β}
    (h : ∀ destination vars, (f destination vars).Reaches Answered op) :
    ((moveCurrent folder >>= f) vars).Reaches Answered op := by
  refine .step (r := .ok false) (answered_ok _) ?_
  refine .step (r := .ok ()) (answered_ok _) ?_
  exact h _ _

theorem reaches_inWork (reasons : Option String) (vars : InboxVars)
    (h : ∀ vars, ((match reasons with
      | some reasons => rejectDraft folders requestId reasons
      | none => materializeSubmission py env conv world alnum folders automation requestId submission
        : InboxLocal InboxResult) vars).Reaches Answered op) :
    ((do
      let vars ← Local.read
      inboxCall (.markProcessing requestId vars.currentPath.names)
      match ← inboxCall (.validateDraft submission) with
      | some reasons => rejectDraft folders requestId reasons
      | none => materializeSubmission py env conv world alnum folders automation requestId submission
        : InboxLocal InboxResult) vars).Reaches Answered op := by
  refine local_call () (local_call reasons ?_)
  cases reasons with
  | some reasons => exact h vars
  | none => exact h vars

/-- A submission is taken into work whatever it says, and its draft may be rejected or not. -/
theorem reaches_processBody (reasons : Option String)
    (hid : submissionRequestId py path.name (.ofFields fields) = requestId)
    (h : ∀ vars, ((match reasons with
      | some reasons => rejectDraft folders requestId reasons
      | none => materializeSubmission py env conv world alnum folders automation requestId (.ofFields fields)
        : InboxLocal InboxResult) vars).Reaches Answered op) :
    (processBody py env conv world alnum folders automation path (.ok (.obj fields)) vars).Reaches Answered op := by
  subst hid
  show ((liftM (inboxCall (.upsertPending (requestMetadata py path.name (.ofFields fields)) path.names)) >>= _ :
    InboxLocal _) vars).Reaches Answered op
  refine local_call () ?_
  by_cases hinbox : path.folder = folders.inbox
  · rw [if_pos hinbox]
    exact local_moveCurrent fun _ vars => reaches_inWork reasons vars h
  · rw [if_neg hinbox]
    exact reaches_inWork reasons _ h

theorem reaches_rejectDraft {reasons : String} :
    (rejectDraft folders requestId reasons vars).Reaches Answered
      (.writeReport (reportPath folders.reports requestId .report)) := .here

/-- A submission that a recipe can be made from comes to what the automation comes to for the recipe. -/
theorem reaches_materializeSubmission {artifact : Dict Json} {recipe : CanonicalRecipe} {review : InboxReview}
    (hartifact : artifactFromSubmission submission = .ok artifact)
    (hrecipe : canonicalRecipeFromArtifact py env conv world artifact = .ok recipe)
    (hreview : review.rejection = none)
    (h : Automation alnum folders automation requestId recipe.name op review) :
    (materializeSubmission py env conv world alnum folders automation requestId submission vars).Reaches Answered
      op := by
  refine local_call review ?_
  rw [hreview]
  refine local_orRaise hartifact (local_orRaise hrecipe (local_call () ?_))
  refine local_orRaise (recipeYamlPath_canonicalRecipe hrecipe) (local_call .recipeWritten (local_call () ?_))
  cases h with
  | existing h => exact local_reaches h
  | promotion hreturns h => exact local_returns hreturns (local_reaches h)

theorem reaches_processLoaded
    (h : ∀ vars, (processBody py env conv world alnum folders automation path (.ok (.obj fields)) vars).Reaches
      Answered op) :
    (processLoaded py env conv world alnum text folders automation path (.ok (.obj fields))).Reaches Answered op :=
  (h _).andThen.andThen

end ReachLocal

/-! ## Confinement -/

theorem InboxCall.nonempty_result (op : InboxCall) : Nonempty op.Result := by
  cases op <;>
    first
    | exact ⟨()⟩
    | exact ⟨true⟩
    | exact ⟨(0 : ℕ)⟩
    | exact ⟨Json.null⟩
    | exact ⟨([] : List InboxPath)⟩
    | exact ⟨([] : List String)⟩
    | exact ⟨(none : Option String)⟩
    | exact ⟨({} : InboxReview)⟩
    | exact ⟨ProcessingAction.recipeWritten⟩
    | exact ⟨SupplyDecision.skipped⟩
    | exact ⟨(⟨"", true⟩ : InboxPromotion)⟩

namespace InboxSubmission

variable {s : InboxSubmission} {path : List String}

theorem calls_program : Calls (SubmissionCall s.folders s.Unchecked s.requestId) s.program :=
  calls_processLoaded .report fun _ _ hartifact hrecipe _ h => .automation hartifact hrecipe h

/-- What is written without a test some run writes. -/
theorem exists_written (h : s.Unchecked path) : ∃ op, path ∈ op.writes s.folders ∧ s.program.Reaches Answered op := by
  cases h with
  | report =>
    refine ⟨.writeReport _, List.mem_cons_self, reaches_processLoaded ?_⟩
    exact fun vars => reaches_processBody (some "") rfl fun vars => reaches_rejectDraft
  | automation hartifact hrecipe h =>
    obtain ⟨config, hconfig, hpath⟩ := h
    obtain ⟨op, review, hwrites, hreview, hop⟩ :=
      hpath.written hconfig (recipeYamlPath_canonicalRecipe hrecipe)
    refine ⟨op, hwrites, reaches_processLoaded ?_⟩
    exact fun vars => reaches_processBody none rfl fun vars =>
      reaches_materializeSubmission hartifact hrecipe hreview hop

/-- A call that is reached can succeed. -/
theorem exists_run {op : InboxCall} (a : op.Result) (h : s.program.Reaches Answered op) :
    ∃ es q, s.program.Steps es q ∧ (∀ e ∈ es, Answered e) ∧ (⟨op, .ok a⟩ : Event _ _ _) ∈ es := by
  obtain ⟨es, q, hsteps, hanswered⟩ := h.steps (.ok a)
  refine ⟨_, q, hsteps, fun e he => ?_, List.mem_append_right _ List.mem_cons_self⟩
  rcases List.mem_append.mp he with he | he
  · exact hanswered e he
  · obtain rfl := List.mem_singleton.mp he
    exact answered_ok a

theorem confined_iff : s.Confined ↔ ∀ path, s.Unchecked path → IsPath path → s.folders.Inside path := by
  constructor
  · intro h path hunchecked hpath
    obtain ⟨op, hwrites, hreaches⟩ := exists_written hunchecked
    obtain ⟨a⟩ := InboxCall.nonempty_result op
    obtain ⟨es, q, hsteps, hanswered, hmem⟩ := exists_run a hreaches
    exact h es q hsteps hanswered _ hmem ⟨a, rfl⟩ path hwrites hpath
  · intro h es q hsteps hanswered e he _ path hwrites hpath
    have hcall := hsteps.calls calls_program hanswered he
    rcases hcall.1 path hwrites with hinside | hunchecked
    · exact hinside
    · exact h path hunchecked hpath

/-- A run writes reports only where the request id leads, and can write its own report there. -/
theorem writesReport_kind (h : s.WritesReport path) : ∃ kind, path = reportPath s.folders.reports s.requestId kind := by
  obtain ⟨es, q, hsteps, hanswered, e, he, hop, -⟩ := h
  exact (hsteps.calls calls_program hanswered he).2 path hop

theorem writesReport_report : s.WritesReport (reportPath s.folders.reports s.requestId .report) := by
  have hreaches : s.program.Reaches Answered (.writeReport (reportPath s.folders.reports s.requestId .report)) :=
    reaches_processLoaded fun vars => reaches_processBody (some "") rfl fun vars => reaches_rejectDraft
  obtain ⟨es, q, hsteps, hanswered, hmem⟩ := exists_run () hreaches
  exact ⟨es, q, hsteps, hanswered, _, hmem, rfl, (), rfl⟩

/-- A report can be written where the own report can. -/
theorem isPath_report {reports : List String} {requestId : String} {kind : ReportKind}
    (h : IsPath (reportPath reports requestId kind)) : IsPath (reportPath reports requestId .report) := by
  obtain ⟨above, last, hplace⟩ := reportPath_place reports requestId
  rw [hplace] at h ⊢
  intro name hname
  rcases List.mem_append.mp hname with hname | hname
  · exact h name (List.mem_append_left _ hname)
  · obtain rfl := List.mem_singleton.mp hname
    have hlast := h _ (List.mem_append_right _ List.mem_cons_self)
    rw [String.toList_append, List.mem_append, not_or] at hlast ⊢
    exact ⟨hlast.1, by decide⟩

theorem reportsApart_iff {path : InboxPath} {fields : List (String × Json)} :
    s.ReportsApart (s.other path fields) ↔ (IsPath (reportPath s.folders.reports s.requestId .report) →
      reportPath s.folders.reports s.requestId .report ≠
        reportPath s.folders.reports (s.other path fields).requestId .report) := by
  constructor
  · intro h hpath heq
    refine h _ hpath writesReport_report ?_
    rw [heq]
    exact writesReport_report
  · intro h report hreport hwrites hwrites'
    obtain ⟨kind, rfl⟩ := writesReport_kind hwrites
    obtain ⟨kind', hkind'⟩ := writesReport_kind hwrites'
    exact h (isPath_report hreport) (reportPath_eq hkind' .report).2

end InboxSubmission

/-- What is written for a submission stays in the folders that are given when what is written without a test does; the
reports of two submissions are apart when their ids lead to different places. -/
theorem submission_confined_iff (s : InboxSubmission) (path : InboxPath) (fields : List (String × Json)) :
    (s.Confined ↔ ∀ path, s.Unchecked path → IsPath path → s.folders.Inside path) ∧
      (s.ReportsApart (s.other path fields) ↔ (IsPath (reportPath s.folders.reports s.requestId .report) →
        reportPath s.folders.reports s.requestId .report ≠
          reportPath s.folders.reports (s.other path fields).requestId .report)) :=
  ⟨InboxSubmission.confined_iff, InboxSubmission.reportsApart_iff⟩

section Examples

/-- A submission whose request id leads out of the folder of the reports -/
def climbingSubmission : InboxSubmission where
  py := reviewBuiltins
  env := reviewEnvironment
  conv := digitConversions
  world := draftsOnly
  alnum := ⟨fun _ => false, rfl⟩
  text _ := ""
  folders := { inbox := ["inbox"], processed := ["processed"], failed := ["failed"], reports := ["reports"]
               output := ["recipes"], index := ["index.db"], config := none, promotionWorkDir := none
               panopticon := ["panopticon"], state := ["state"] }
  automation := default
  path := ⟨["inbox"], "a.json"⟩
  fields := [("request_id", .str "../inbox/b")]

/-- Its report is written among the submissions. -/
theorem report_climbs : ¬ ∀ s : InboxSubmission, s.Confined ∧
    ∀ (path : InboxPath) (fields : List (String × Json)), path.name ≠ s.path.name →
      s.ReportsApart (s.other path fields) := by
  intro h
  have hplace : reportPath climbingSubmission.folders.reports climbingSubmission.requestId .report =
      ["inbox", "b.report.json"] := by decide +kernel
  have hunchecked : climbingSubmission.Unchecked ["inbox", "b.report.json"] := hplace ▸ .report
  have hpath : IsPath ["inbox", "b.report.json"] := by unfold IsPath; decide
  have hinside := InboxSubmission.confined_iff.mp (h climbingSubmission).1 _ hunchecked hpath
  rcases hinside with hindex | ⟨location, hmem, hprefix⟩
  · exact absurd hindex (by decide)
  · revert location
    decide

end Examples

end Gpucall.Inbox
