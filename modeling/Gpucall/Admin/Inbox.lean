import Gpucall.Admin.RequestIndex
import Gpucall.Lib.Each
import Gpucall.Recipes.InboxRecipes

/-! `process_inbox` of `recipe_admin.py` as a program that calls the file system, the index, the reviews and the
commands of the automation. Each call is a point where an exception can be raised. -/

namespace Gpucall.Inbox

open Effects

/-! ## Paths -/

/-- The path of a file in a folder. -/
structure InboxPath where
  folder : List String
  name : String
  deriving DecidableEq

def InboxPath.names (path : InboxPath) : List String := path.folder ++ [path.name]

/-- The folders and files that `process_inbox` is given, as absolute paths: `panopticon` and `state` are where the
commands of the automation keep their evidence. -/
structure InboxFolders where
  inbox : List String
  processed : List String
  failed : List String
  reports : List String
  output : List String
  index : List String
  config : Option (List String)
  promotionWorkDir : Option (List String)
  panopticon : List String
  state : List String

namespace InboxFolders

def processing (folders : InboxFolders) : List String := folders.inbox ++ ["processing"]

/-- Where the promotions of the inbox are made. -/
def workRoot (folders : InboxFolders) : List String :=
  folders.promotionWorkDir.getD (folders.inbox ++ ["promotions"])

end InboxFolders

inductive ReportKind where
  | report | existingTupleActivation | existingTupleReadiness | promotion
  | supplyProvisioningPlan | supplyProvisioningApply
  | postSupplyReadiness | postSupplyValidation | postSupplyWorkflow
  deriving DecidableEq

def ReportKind.suffix : ReportKind → String
  | report => ".report.json"
  | existingTupleActivation => ".existing-tuple-activation.json"
  | existingTupleReadiness => ".existing-tuple-readiness.json"
  | promotion => ".promotion.json"
  | supplyProvisioningPlan => ".supply-provisioning-plan.json"
  | supplyProvisioningApply => ".supply-provisioning-apply.json"
  | postSupplyReadiness => ".post-supply-readiness.json"
  | postSupplyValidation => ".post-supply-validation.json"
  | postSupplyWorkflow => ".post-supply-workflow.json"

/-- `report_dir / f"{request_id}.report.json"`, and so for the other kinds -/
def reportPath (reports : List String) (requestId : String) (kind : ReportKind) : List String :=
  PosixPath.join reports (requestId ++ kind.suffix)

/-- `str.isalnum` of a character -/
structure Alphanumeric where
  test : Char → Bool
  slash : test '/' = false

/-- The id that `_stage_activation_config` makes its folder from -/
def safeId (alnum : Alphanumeric) (requestId : String) : String :=
  orDefault (String.ofList (requestId.toList.map fun c =>
    if alnum.test c || c ∈ ['.', '_', '-'] then c else '_')) "request"

/-! ## Settings -/

/-- The settings of `RecipeAdminAutomationConfig` that decide on what is done, with what its validator checks. -/
structure InboxAutomation where
  autoValidateExistingTuples : Bool := false
  autoActivateExistingValidatedRecipe : Bool := false
  autoPromoteCandidates : Bool := false
  autoProvisionSupply : Bool := false
  autoBillableValidation : Bool := false
  autoActivateValidated : Bool := false
  autoRequireAutoSelectSafe : Bool := true
  autoRunValidateConfig : Bool := true
  autoRunLaunchCheck : Bool := false
  autoValidationMaxAttempts : ℕ := 3
  provision_promotes : autoProvisionSupply → autoPromoteCandidates := by decide
  activate_validates : autoActivateExistingValidatedRecipe → autoValidateExistingTuples := by decide
  activateValidated_validates : autoActivateValidated → autoBillableValidation := by decide
  launchCheck_validates : autoRunLaunchCheck → autoRunValidateConfig := by decide

instance : Inhabited InboxAutomation := ⟨{}⟩

/-! ## Calls -/

/-- What a review says that the inbox reads. -/
structure InboxReview where
  /-- The reasons, when its decision is `REJECT` -/
  rejection : Option String := none
  hasRecipe : Bool := true
  eligibleTuples : List String := []
  matched : Bool := false
  hasCandidates : Bool := false

/-- What becomes of the supply for a promotion -/
inductive SupplyDecision where
  | skipped | planFailed | planned | blocked | applyFailed | notRequired | applied
  deriving DecidableEq

/-- A tuple that `promote_production_tuple` has made a configuration for. -/
structure InboxPromotion where
  tuple : String
  configExists : Bool := true

/-- `inspect` stands for what the automation reads to go on: the gates of the readiness, the state of the active
recipe, whether it is safe to select it. -/
inductive InboxQuestion where
  | existingTupleGate | alreadyActive | autoSelectSafe | supplyPlan | patchesApplied | postSupplyGate
  deriving DecidableEq

/-- The calls. `load` is `_load_json`, up to the test of the root; `readiness` builds a readiness report with a live
refresh of the evidence, `smoke` is the command `tuple-smoke --write-artifact`, `check` a command that checks a
configuration directory, and `promote` is `promote_production_tuple` in a working directory. -/
inductive InboxCall where
  | materializationCatalog
  | listing
  | load (path : InboxPath)
  | exists (path : List String)
  | timeNs
  | move (source target : List String)
  | upsertPending (metadata : RequestMetadata) (path : List String)
  | markProcessing (requestId : String) (path : List String)
  | markTerminal (requestId : String) (update : TerminalUpdate)
  | validateDraft (submission : Dict Json)
  | review (submission : Dict Json)
  | materializationReport (recipe : CanonicalRecipe)
  | linkRetainOrWrite (path : List String) (recipe : CanonicalRecipe)
  | catalogReadiness (recipe : CanonicalRecipe)
  | writeReport (path : List String)
  | inspect (question : InboxQuestion)
  | readiness (recipeName : String)
  | validationTargets
  | smoke (tuple recipeName : String)
  | copyTree (source target : List String)
  | writeRecipe (path : List String)
  | check (config : List String)
  | promote (workDir : List String)
  | applySupply
  | applyPatches (config : List String)
  | copyPromotionArtifacts (config : List String) (recipeName tuple : String)

abbrev InboxCall.Result : InboxCall → Type
  | listing => List InboxPath
  | load _ => Json
  | .exists _ => Bool
  | timeNs => ℕ
  | validateDraft _ => Option String
  | review _ => InboxReview
  | linkRetainOrWrite .. => ProcessingAction
  | inspect _ => Bool
  | readiness _ => Bool
  | validationTargets => List String
  | smoke .. => Bool
  | check _ => Bool
  | promote _ => InboxPromotion
  | applySupply => SupplyDecision
  | _ => Unit

/-- `SystemExit` is no `Exception`. -/
inductive InboxError where
  | exception (e : ActivationError)
  | systemExit (message : String)

abbrev InboxProg (α : Type) := Prog InboxCall InboxCall.Result InboxError α

def raise {α : Type} (e : ActivationError) : InboxProg α := throw (.exception e)

def orRaise {α : Type} : Except ActivationError α → InboxProg α
  | .ok value => pure value
  | .error e => raise e

abbrev inboxCall (call : InboxCall) : InboxProg call.Result := Prog.perform call

/-! ## Moves -/

/-- The name that `_unique_destination` tries instead of one that is taken -/
def uniqueName (name : String) (now attempt : ℕ) : String :=
  (stemAndSuffix name).1 ++ "-" ++ toString now ++ "-" ++ toString attempt ++ (stemAndSuffix name).2

def tryDestinations (destination : InboxPath) : List ℕ → InboxProg InboxPath
  | [] => raise (.fileExists (.outside destination.names))
  | attempt :: attempts => do
    let now ← inboxCall .timeNs
    let candidate := { destination with name := uniqueName destination.name now attempt }
    if ← inboxCall (.exists candidate.names) then tryDestinations destination attempts
    else return candidate

/-- `_unique_destination` -/
def uniqueDestination (destination : InboxPath) : InboxProg InboxPath := do
  if ← inboxCall (.exists destination.names) then tryDestinations destination (List.range' 1 9999)
  else return destination

/-- `move_submission` -/
def moveSubmission (source destination : InboxPath) : InboxProg InboxPath := do
  let target ← uniqueDestination destination
  inboxCall (.move source.names target.names)
  return target

/-! ## Existing tuples -/

section Automation

variable (alnum : Alphanumeric) (folders : InboxFolders) (automation : InboxAutomation) (requestId : String)

def writeReport (kind : ReportKind) : InboxProg Unit :=
  inboxCall (.writeReport (reportPath folders.reports requestId kind))

def stageFrom (config : List String) (destination : String) : List ℕ → InboxProg (List String)
  | [] => raise (.fileExists (.outside (PosixPath.join folders.reports destination)))
  | attempt :: attempts => do
    let target := PosixPath.join folders.reports destination
    if ← inboxCall (.exists target) then
      let now ← inboxCall .timeNs
      stageFrom config (safeId alnum requestId ++ ".activation-config-" ++ toString now ++ "-" ++ toString attempt)
        attempts
    else
      inboxCall (.copyTree config target)
      return target

/-- `_stage_activation_config` -/
def stageActivationConfig (config : List String) : InboxProg (List String) :=
  stageFrom alnum folders requestId config (safeId alnum requestId ++ ".activation-config") (List.range' 1 9999)

def anySmokePasses (recipeName : String) : List String → InboxProg Bool
  | [] => return false
  | tuple :: tuples => do
    if ← inboxCall (.smoke tuple recipeName) then return true else anySmokePasses recipeName tuples

/-- Whether a tuple that exists is validated for the recipe, by the evidence that there is or by a new smoke -/
def existingTupleValidated (review : InboxReview) (recipeName : String) : InboxProg Bool := do
  if review.matched then return true
  if !automation.autoBillableValidation then return false
  let refreshed ← inboxCall (.readiness recipeName)
  writeReport folders requestId .existingTupleReadiness
  if !refreshed then return false
  if !(← inboxCall (.inspect .existingTupleGate)) then return false
  let targets ← inboxCall .validationTargets
  anySmokePasses recipeName (targets.take (max 1 automation.autoValidationMaxAttempts))

/-- The checks of a configuration directory: whether they pass that are wanted -/
def checksPass (config : List String) : InboxProg Bool := do
  if automation.autoRunValidateConfig then
    if !(← inboxCall (.check config)) then return false
  if automation.autoRunLaunchCheck then
    if !(← inboxCall (.check config)) then return false
  return true

/-- The recipe is written into the active configuration, after a copy of it has been checked. -/
def activateExistingRecipe (config : List String) (recipeName : String) : InboxProg Unit := do
  let file ← orRaise (recipeYamlPath recipeName)
  if ← inboxCall (.inspect .alreadyActive) then return
  let safe ← inboxCall (.inspect .autoSelectSafe)
  if automation.autoRequireAutoSelectSafe && !safe then return
  if automation.autoRunValidateConfig || automation.autoRunLaunchCheck then
    let staged ← stageActivationConfig alnum folders requestId config
    inboxCall (.writeRecipe (staged ++ file))
    if !(← checksPass automation staged) then return
  inboxCall (.writeRecipe (config ++ file))

/-- `_auto_existing_tuple_report`. Every way through it but the first three ends with its report. -/
def autoExistingTupleReport (review : InboxReview) (recipeName : String) : InboxProg Unit := do
  if !automation.autoValidateExistingTuples then return
  match folders.config with
  | none => raise (.valueError "recipe inbox existing tuple automation requires --config-dir")
  | some config =>
    if !review.hasRecipe then raise (.valueError "review does not contain canonical_recipe")
    if review.eligibleTuples.isEmpty then return
    if ← existingTupleValidated folders automation requestId review recipeName then
      if automation.autoActivateExistingValidatedRecipe then
        activateExistingRecipe alnum folders automation requestId config recipeName
    writeReport folders requestId .existingTupleActivation

/-! ## Promotions -/

/-- `_auto_supply_provisioning_report` -/
def provisionSupply (promotion : InboxPromotion) : InboxProg SupplyDecision := do
  if !promotion.configExists then return .skipped
  if !(← inboxCall (.inspect .supplyPlan)) then return .planFailed
  writeReport folders requestId .supplyProvisioningPlan
  let decision ← inboxCall .applySupply
  writeReport folders requestId .supplyProvisioningApply
  return decision

/-- `_activate_post_supply_config` -/
def activatePostSupplyConfig (config : List String) (recipeName tuple : String) : InboxProg Unit := do
  let staged ← stageActivationConfig alnum folders (requestId ++ ".post-supply") config
  inboxCall (.copyPromotionArtifacts staged recipeName tuple)
  if ← checksPass automation staged then inboxCall (.copyPromotionArtifacts config recipeName tuple)

/-- `_auto_post_supply_workflow_report`, up to its report: each early end is one of its decisions. -/
def postSupplyWorkflow (config promotionConfig : List String) (promotion : InboxPromotion)
    (supply : SupplyDecision) (recipeName : String) : InboxProg Unit := do
  if !promotion.configExists || supply ∈ [.planned, .blocked, .applyFailed] then return
  -- Without a plan there is no result of its application to take patches from.
  if supply ∉ [.skipped, .planFailed] then
    inboxCall (.applyPatches promotionConfig)
    if !(← inboxCall (.inspect .patchesApplied)) then return
  if automation.autoRunValidateConfig then
    if !(← inboxCall (.check promotionConfig)) then return
  let refreshed ← inboxCall (.readiness recipeName)
  writeReport folders requestId .postSupplyReadiness
  if !refreshed then return
  if !(← inboxCall (.inspect .postSupplyGate)) then return
  if !automation.autoBillableValidation then return
  let passed ← inboxCall (.smoke promotion.tuple recipeName)
  writeReport folders requestId .postSupplyValidation
  if passed && automation.autoActivateValidated then
    activatePostSupplyConfig alnum folders automation requestId config recipeName promotion.tuple

/-- `_auto_promotion_report`. It gives `promote_production_tuple` no budget, which refuses a validation then, and
an activation is wanted only with a validation. -/
def autoPromotionReport (review : InboxReview) (recipeName : String) : InboxProg Unit := do
  if !automation.autoPromoteCandidates then return
  match folders.config with
  | none => raise (.valueError "recipe inbox auto-promotion requires --config-dir")
  | some config =>
    if !review.hasCandidates then return
    let workDir := PosixPath.join folders.workRoot requestId
    let promotion ← inboxCall (.promote workDir)
    if automation.autoBillableValidation && !automation.autoProvisionSupply then
      raise (.valueError "--run-validation requires --validation-budget-usd")
    if automation.autoProvisionSupply then
      let supply ← provisionSupply folders requestId promotion
      postSupplyWorkflow alnum folders automation requestId config (workDir ++ ["config"]) promotion supply
        recipeName
      writeReport folders requestId .postSupplyWorkflow
    writeReport folders requestId .promotion

end Automation

/-! ## A submission -/

structure InboxResult where
  submission : List String
  report : Option (List String) := none
  recipe : Option (List String) := none
  ok : Bool
  error : Option String := none

/-- The variables that the handler of exceptions reads. -/
structure InboxVars where
  currentPath : InboxPath
  requestId : String

abbrev InboxLocal (α : Type) := Local InboxVars InboxCall InboxCall.Result InboxError α

section Submissions

variable (py : Builtins) (env : Environment) (conv : Conversions) (world : Materialization)
  (alnum : Alphanumeric) (text : ActivationError → String) (folders : InboxFolders)
  (automation : InboxAutomation)

/-- The current file is moved into a folder. -/
def moveCurrent (folder : List String) : InboxLocal InboxPath := do
  let vars ← Local.read
  let destination ← moveSubmission vars.currentPath ⟨folder, vars.currentPath.name⟩
  Local.write fun vars => { vars with currentPath := destination }
  return destination

/-- The branch of a draft that is rejected -/
def rejectDraft (requestId reasons : String) : InboxLocal InboxResult := do
  writeReport folders requestId .report
  let destination ← moveCurrent folders.failed
  let report := reportPath folders.reports requestId .report
  let error := "draft validation rejected submission: " ++ reasons
  inboxCall (.markTerminal requestId
    { status := .failed, originalPath := destination.names, reportPath := some report, error := some error })
  return { submission := destination.names, report := some report, ok := false, error := some error }

/-- The branch of a draft that is accepted. The name of a recipe does not depend on the catalog, so the recipe of
the review has the same. -/
def materializeSubmission (requestId : String) (submission : Dict Json) : InboxLocal InboxResult := do
  let review ← inboxCall (.review submission)
  if let some reasons := review.rejection then
    raise (.valueError ("admin review rejected submission: " ++ reasons))
  let artifact ← orRaise (artifactFromSubmission submission)
  let recipe ← orRaise (canonicalRecipeFromArtifact py env conv world artifact)
  inboxCall (.materializationReport recipe)
  let _ ← orRaise (recipeYamlPath recipe.name)
  let recipePath := folders.output ++ [recipe.name ++ ".yml"]
  let _ ← inboxCall (.linkRetainOrWrite recipePath recipe)
  inboxCall (.catalogReadiness recipe)
  autoExistingTupleReport alnum folders automation requestId review recipe.name
  autoPromotionReport alnum folders automation requestId review recipe.name
  writeReport folders requestId .report
  let destination ← moveCurrent folders.processed
  let report := reportPath folders.reports requestId .report
  inboxCall (.markTerminal requestId
    { status := .processed, originalPath := destination.names, reportPath := some report
      recipePath := some recipePath })
  return { submission := destination.names, report := some report, recipe := some recipePath, ok := true }

/-- The body of the loop, up to its handler of exceptions -/
def processBody (path : InboxPath) (loaded : Except InboxError Json) : InboxLocal InboxResult := do
  let submission ← match loaded with
    | .ok (.obj fields) => pure (Dict.ofFields fields)
    | .ok _ => throw (.systemExit "input JSON must be an object")
    | .error e => throw e
  let metadata := requestMetadata py path.name submission
  inboxCall (.upsertPending metadata path.names)
  Local.write fun vars => { vars with requestId := metadata.requestId }
  if path.folder = folders.inbox then
    let _ ← moveCurrent folders.processing
  let vars ← Local.read
  inboxCall (.markProcessing metadata.requestId vars.currentPath.names)
  match ← inboxCall (.validateDraft submission) with
  | some reasons => rejectDraft folders metadata.requestId reasons
  | none => materializeSubmission py env conv world alnum folders automation metadata.requestId submission

/-- `except Exception` -/
def failSubmission (path : InboxPath) : InboxError → InboxLocal InboxResult
  | .systemExit message => throw (.systemExit message)
  | .exception e => do
    let vars ← Local.read
    let destination ← do
      if ← inboxCall (.exists vars.currentPath.names) then
        moveSubmission vars.currentPath ⟨folders.failed, vars.currentPath.name⟩
      else pure ⟨folders.failed, path.name⟩
    inboxCall (.markTerminal vars.requestId
      { status := .failed, originalPath := destination.names, error := some (text e) })
    return { submission := destination.names, ok := false, error := some (text e) }

/-- What follows after a file has been read -/
def processLoaded (path : InboxPath) (loaded : Except InboxError Json) : InboxProg InboxResult :=
  Local.run
    ((processBody py env conv world alnum folders automation path loaded).tryCatch (failSubmission text folders path))
    ⟨path, pathStem path.name⟩

def processFile (path : InboxPath) : InboxProg InboxResult :=
  (inboxCall (.load path)).andThen (processLoaded py env conv world alnum text folders automation path)

/-- `process_inbox`, once it is allowed to run -/
def processInbox : InboxProg (List InboxResult) := do
  inboxCall .materializationCatalog
  let paths ← inboxCall .listing
  paths.mapM (processFile py env conv world alnum text folders automation)

end Submissions

end Gpucall.Inbox
