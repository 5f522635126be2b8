import Gpucall.Admin.LiveValidation
import Gpucall.Admin.ValidationRefresh
import Gpucall.Config.Activation
import Gpucall.Routing.EvidenceDigest

/-! The two activations of the recipe inbox, `_auto_existing_tuple_report` and
`_activate_post_supply_config` of `recipe_admin.py`, and what becomes of the evidence that they relied on:
it is bound to a digest of the directory that they write into. -/

namespace Gpucall

/-! ## What the automation works with -/

/-- The settings of `RecipeAdminAutomationConfig` that decide on an activation. -/
structure RecipeAdminAutomation where
  autoValidateExistingTuples : Bool
  autoBillableValidation : Bool
  autoActivateExistingValidatedRecipe : Bool
  autoSetAutoSelect : Bool
  autoRequireAutoSelectSafe : Bool
  autoRunValidateConfig : Bool
  autoRunLaunchCheck : Bool
  autoValidationMaxAttempts : ℕ

/-- What a review says that the automation reads. -/
structure RecipeReview where
  canonicalRecipe : Dict Json
  eligibleTuples : List String
  matched : List LiveMatch

/-- What the automation calls: readiness and its gate, the smokes, the loading of the configuration with
the recipe (whether it shadows no other), the staging of a copy beside the directory, and the two checks
of a directory by the return code of their command. -/
structure AdminWorld where
  readinessFailed : Bool
  gateDecision : String
  validationTargets : List String
  smokePasses : String → Bool
  budgetApproval : Bool
  autoSelectSafe : ConfigTree → Dict Json → Except ActivationError Bool
  stage : Except ActivationError Unit
  stagedDisk : Disk
  validateConfig : ConfigTree → ℤ
  launchCheck : ConfigTree → ℤ
  disk : Disk

structure ActivationReport where
  decision : String
  activated : Bool := false
  activationPath : Option (List String) := none

variable (py : Builtins) (yaml : Yaml)

/-! ## A recipe for tuples that exist -/

/-- The part of `_auto_existing_tuple_report` up to the validated tuple: the decision, if it stops. -/
def existingTupleDecision (world : AdminWorld) (automation : RecipeAdminAutomation)
    (review : RecipeReview) : Except ActivationError (Option String) :=
  if !review.matched.isEmpty then .ok none
  else if !automation.autoBillableValidation then .ok (some "READY_FOR_BILLABLE_VALIDATION")
  else if (review.canonicalRecipe.get? "name").isNone then .error (.keyError "name")
  else if world.readinessFailed then .ok (some "PANOPTICON_REFRESH_FAILED")
  else if world.gateDecision ≠ "READY_FOR_BILLABLE_VALIDATION" then .ok (some world.gateDecision)
  else if (world.validationTargets.take (max 1 automation.autoValidationMaxAttempts)).any
      world.smokePasses then .ok none
  else if world.budgetApproval then .ok (some "PENDING_BUDGET_APPROVAL")
  else .ok (some "VALIDATION_FAILED")

/-- `_recipe_yaml_path`, below the configuration directory -/
def recipeYamlPath (name : String) : Except ActivationError (List String) :=
  if name ∈ ["", ".", ".."] || '/' ∈ name.toList || '\\' ∈ name.toList then
    .error (.valueError "unsafe recipe name for YAML path")
  else .ok ["recipes", name ++ ".yml"]

/-- Where the recipe is active, by its name -/
def activeRecipePath (recipe : Dict Json) : Except ActivationError (List String) :=
  match recipe.get? "name" with
  | none => .error (.keyError "name")
  | some name => recipeYamlPath (pyStr py name)

/-- Whether `_existing_active_recipe_report` finds the recipe active already. -/
def existingActiveRecipe (tree : ConfigTree) (names : List String) (recipe : Dict Json)
    (requireAutoSelect : Bool) : Bool :=
  match ((tree.lookup names).bind (·.bytes)).bind yaml.readText with
  | none => false
  | some text =>
    match yaml.load text with
    | .mapping existing =>
      optEq py (existing.get? "name") (recipe.get? "name") &&
        ["task", "intent", "resource_class"].all (fun key =>
          !((existing.get? key).any Json.truthy && (recipe.get? key).any Json.truthy &&
            !optEq py (existing.get? key) (recipe.get? key))) &&
        (!requireAutoSelect || existing.get? "auto_select" matches some (.bool true))
    | _ => false

/-- A generated draft, which a recipe may be written over. -/
def overwritable (existing recipe : Dict Json) : Bool :=
  optEq py (existing.get? "name") (recipe.get? "name") &&
    (existing.get? "auto_select" matches some (.bool false)) &&
    (existing.get? "quality_floor" matches some (.str "draft"))

/-- `_write_recipe_guarded` -/
def writeRecipeGuarded (disk : Disk) (force : Bool) (tree : ConfigTree) (names : List String)
    (recipe : Dict Json) : ConfigTree × Except ActivationError Unit :=
  match force, tree.lookup names with
  | false, some entry =>
    match entry.bytes.bind yaml.readText with
    | none => (tree, .error .osError)
    | some current =>
      if current = yaml.toYaml recipe then (tree, .ok ())
      else
        match yaml.load current with
        | .unreadable => (tree, .error .yamlError)
        | .mapping existing =>
          if overwritable py existing recipe then
            writeText disk tree (.inside names) (yaml.toYaml recipe)
          else (tree, .error (.fileExists (.inside names)))
        | .other => (tree, .error (.fileExists (.inside names)))
  | _, _ => writeText disk tree (.inside names) (yaml.toYaml recipe)

/-- The two checks of a staged copy: the decision, if one fails. -/
def stagedDecision (world : AdminWorld) (automation : RecipeAdminAutomation) (staged : ConfigTree) :
    Option String :=
  if automation.autoRunValidateConfig && world.validateConfig staged ≠ 0 then
    some "VALIDATE_CONFIG_FAILED"
  else if automation.autoRunLaunchCheck && world.launchCheck staged ≠ 0 then some "LAUNCH_CHECK_FAILED"
  else none

/-- The recipe is written into a copy and the copy checked, where a check is wanted. -/
def checkExistingRecipe (world : AdminWorld) (automation : RecipeAdminAutomation) (force : Bool)
    (tree : ConfigTree) (names : List String) (recipe : Dict Json) :
    Except ActivationError (Option String) :=
  if !automation.autoRunValidateConfig && !automation.autoRunLaunchCheck then .ok none
  else
    match world.stage with
    | .error e => .error e
    | .ok () =>
      match writeRecipeGuarded py yaml world.stagedDisk force tree names recipe with
      | (_, .error e) => .error e
      | (staged, .ok ()) => .ok (stagedDecision world automation staged)

/-- The part of `_auto_existing_tuple_report` from the validated tuple on. -/
def activateExistingRecipe (world : AdminWorld) (automation : RecipeAdminAutomation) (force : Bool)
    (recipe : Dict Json) (tree : ConfigTree) : ConfigTree × Except ActivationError ActivationReport :=
  let active := activeRecipe automation.autoSetAutoSelect recipe
  match activeRecipePath py active with
  | .error e => (tree, .error e)
  | .ok names =>
    if existingActiveRecipe py yaml tree names active automation.autoSetAutoSelect then
      (tree, .ok { decision := "EXISTING_RECIPE_ALREADY_ACTIVE", activationPath := some names })
    else
      match world.autoSelectSafe tree active with
      | .error e => (tree, .error e)
      | .ok safe =>
        if automation.autoRequireAutoSelectSafe && !safe then
          (tree, .ok { decision := "BLOCKED_AUTO_SELECT_NOT_SAFE" })
        else
          match checkExistingRecipe py yaml world automation force tree names active with
          | .error e => (tree, .error e)
          | .ok (some decision) => (tree, .ok { decision })
          | .ok none =>
            match writeRecipeGuarded py yaml world.disk force tree names active with
            | (tree, .error e) => (tree, .error e)
            | (tree, .ok ()) =>
              (tree, .ok {
                decision :=
                  if active.get? "auto_select" matches some (.bool true) then "ACTIVATED"
                  else "ACTIVATED_NO_AUTO_SELECT"
                activated := true
                activationPath := some names })

/-- `_auto_existing_tuple_report` on an active configuration directory -/
def autoExistingTupleReport (world : AdminWorld) (automation : RecipeAdminAutomation) (force : Bool)
    (review : RecipeReview) (tree : ConfigTree) :
    ConfigTree × Except ActivationError (Option ActivationReport) :=
  if !automation.autoValidateExistingTuples then (tree, .ok none)
  else if review.canonicalRecipe.entries.isEmpty then
    (tree, .error (.valueError "review does not contain canonical_recipe"))
  else if (review.eligibleTuples.filter (· ≠ "")).isEmpty then
    (tree, .ok (some { decision := "SKIPPED_NO_ELIGIBLE_TUPLE" }))
  else
    match existingTupleDecision world automation review with
    | .error e => (tree, .error e)
    | .ok (some decision) => (tree, .ok (some { decision }))
    | .ok none =>
      if !automation.autoActivateExistingValidatedRecipe then
        (tree, .ok (some { decision := "VALIDATED_READY_TO_ACTIVATE" }))
      else
        match activateExistingRecipe py yaml world automation force review.canonicalRecipe tree with
        | (tree, .error e) => (tree, .error e)
        | (tree, .ok report) => (tree, .ok (some report))

/-! ## A promoted tuple that has been supplied -/

/-- `_activate_post_supply_config` with an active configuration directory -/
def activatePostSupplyConfig (world : AdminWorld) (automation : RecipeAdminAutomation) (force : Bool)
    (promotion : PromotionDir) (tupleName recipeName : String) (tree : ConfigTree) :
    ConfigTree × Except ActivationError ActivationReport :=
  match world.stage with
  | .error e => (tree, .error e)
  | .ok () =>
    match copyPromotionArtifacts world.stagedDisk yaml true automation.autoSetAutoSelect promotion
        tupleName recipeName tree with
    | (_, .error e) => (tree, .error e)
    | (staged, .ok ()) =>
      match stagedDecision world automation staged with
      | some decision => (tree, .ok { decision })
      | none =>
        match copyPromotionArtifacts world.disk yaml force automation.autoSetAutoSelect promotion
            tupleName recipeName tree with
        | (tree, .error e) => (tree, .error e)
        | (tree, .ok ()) =>
          (tree, .ok {
            decision :=
              if automation.autoSetAutoSelect then "ACTIVATED" else "ACTIVATED_NO_AUTO_SELECT"
            activated := true })

/-! ## What an activation writes -/

/-- What `_write_recipe_guarded` writes, where it comes to its end. -/
def recipeWrites (force : Bool) (tree : ConfigTree) (names : List String) (recipe : Dict Json) :
    List (List String × List ℕ) :=
  if !force && ((tree.lookup names).bind (·.bytes)).bind yaml.readText = some (yaml.toYaml recipe) then
    []
  else [(names, utf8 (yaml.toYaml recipe))]

/-- What the activation of a recipe for existing tuples writes. -/
def existingRecipeWrites (automation : RecipeAdminAutomation) (force : Bool) (review : RecipeReview)
    (tree : ConfigTree) : List (List String × List ℕ) :=
  let active := activeRecipe automation.autoSetAutoSelect review.canonicalRecipe
  match activeRecipePath py active with
  | .error _ => []
  | .ok names => recipeWrites yaml force tree names active

/-- What the activation of a promoted tuple writes. -/
def postSupplyWrites (root : Folder) (automation : RecipeAdminAutomation) (promotion : PromotionDir)
    (tupleName recipeName : String) : List (List String × List ℕ) :=
  filesWritten yaml
    (promotionSteps root automation.autoSetAutoSelect promotion tupleName recipeName)

variable {py yaml} {world : AdminWorld} {automation : RecipeAdminAutomation} {force : Bool}
  {tree tree' : ConfigTree}

theorem writeText_inside_ok {disk : Disk} {names : List String} {text : String}
    (hnamed : tree.Named) (hplain : ∀ name ∈ names, name ≠ "" ∧ '/' ∉ name.toList)
    (h : writeText disk tree (.inside names) text = (tree', .ok ())) :
    tree' = insertAll tree [(names, utf8 text)] ∧ tree'.Named := by
  obtain ⟨_, hpath, -⟩ | ⟨_, hpath, hnul, rfl⟩ := writeText_ok h
  · cases hpath
  · cases hpath
    refine ⟨rfl, named_insert hnamed fun name hname => ?_⟩
    exact ⟨(hplain name hname).1, (hplain name hname).2, hnul name hname⟩

theorem writeRecipeGuarded_ok {disk : Disk} {names : List String} {recipe : Dict Json}
    (hnamed : tree.Named) (hplain : ∀ name ∈ names, name ≠ "" ∧ '/' ∉ name.toList)
    (h : writeRecipeGuarded py yaml disk force tree names recipe = (tree', .ok ())) :
    tree' = insertAll tree (recipeWrites yaml force tree names recipe) ∧ tree'.Named := by
  unfold writeRecipeGuarded at h
  split at h
  · rename_i entry hentry
    split at h
    · cases congrArg Prod.snd h
    rename_i current hcurrent
    have hread : ((tree.lookup names).bind (·.bytes)).bind yaml.readText = some current := by
      rw [hentry, Option.bind_some, hcurrent]
    split_ifs at h with hsame
    · -- the text is there already, and nothing is written
      obtain rfl : tree = tree' := congrArg Prod.fst h
      rw [recipeWrites, if_pos (by simp [hread, hsame])]
      exact ⟨rfl, hnamed⟩
    · rw [recipeWrites, if_neg (by simp [hread, hsame])]
      split at h
      · cases congrArg Prod.snd h
      · split_ifs at h
        · exact writeText_inside_ok hnamed hplain h
        · cases congrArg Prod.snd h
      · cases congrArg Prod.snd h
  · rename_i hforce
    rw [recipeWrites, if_neg]
    · exact writeText_inside_ok hnamed hplain h
    · intro hsame
      simp only [Bool.and_eq_true, Bool.not_eq_true', decide_eq_true_eq] at hsame
      obtain ⟨hoff, hread⟩ := hsame
      cases hentry : tree.lookup names with
      | none => simp [hentry] at hread
      | some entry => exact hforce entry hoff hentry

theorem activeRecipePath_plain {recipe : Dict Json} {names : List String}
    (h : activeRecipePath py recipe = .ok names) :
    ∀ name ∈ names, name ≠ "" ∧ '/' ∉ name.toList := by
  unfold activeRecipePath at h
  split at h
  · cases h
  unfold recipeYamlPath at h
  split_ifs at h with hrefused
  cases h
  simp only [List.mem_cons, List.not_mem_nil, or_false, Bool.or_eq_true, decide_eq_true_eq,
    not_or] at hrefused
  rw [List.forall_mem_cons, List.forall_mem_singleton]
  refine ⟨by decide, fun hempty => ?_, ?_⟩
  · have hlength := congrArg String.length hempty
    rw [String.length_append] at hlength
    exact absurd hlength (by simp)
  · rw [String.toList_append, List.mem_append, not_or]
    exact ⟨hrefused.1.2, by decide⟩

theorem activateExistingRecipe_activated {recipe : Dict Json} {report : ActivationReport}
    (h : activateExistingRecipe py yaml world automation force recipe tree = (tree', .ok report))
    (hactivated : report.activated = true) :
    ∃ names, activeRecipePath py (activeRecipe automation.autoSetAutoSelect recipe) = .ok names ∧
      writeRecipeGuarded py yaml world.disk force tree names
        (activeRecipe automation.autoSetAutoSelect recipe) = (tree', .ok ()) := by
  unfold activateExistingRecipe at h
  dsimp only at h
  split at h
  · cases congrArg Prod.snd h
  rename_i names hnames
  split at h
  · cases congrArg Prod.snd h
    cases hactivated
  split at h
  · cases congrArg Prod.snd h
  split at h
  · cases congrArg Prod.snd h
    cases hactivated
  split at h
  · cases congrArg Prod.snd h
  · cases congrArg Prod.snd h
    cases hactivated
  split at h
  · cases congrArg Prod.snd h
  · rename_i written hwritten
    obtain rfl : written = tree' := congrArg Prod.fst h
    exact ⟨names, hnames, hwritten⟩

theorem autoExistingTupleReport_activated {review : RecipeReview} {report : ActivationReport}
    (hnamed : tree.Named)
    (h : autoExistingTupleReport py yaml world automation force review tree = (tree', .ok (some report)))
    (hactivated : report.activated = true) :
    tree' = insertAll tree (existingRecipeWrites py yaml automation force review tree) ∧
      tree'.Named := by
  unfold autoExistingTupleReport at h
  split at h
  · cases congrArg Prod.snd h
  split at h
  · cases congrArg Prod.snd h
  split at h
  · cases congrArg Prod.snd h
    cases hactivated
  split at h
  · cases congrArg Prod.snd h
  · cases congrArg Prod.snd h
    cases hactivated
  split at h
  · cases congrArg Prod.snd h
    cases hactivated
  split at h
  · cases congrArg Prod.snd h
  · rename_i activated written hactivate
    obtain rfl : activated = tree' := congrArg Prod.fst h
    cases congrArg Prod.snd h
    obtain ⟨names, hnames, hwritten⟩ := activateExistingRecipe_activated hactivate hactivated
    simp only [existingRecipeWrites, hnames]
    exact writeRecipeGuarded_ok hnamed (activeRecipePath_plain hnames) hwritten

theorem activatePostSupplyConfig_activated {promotion : PromotionDir} {tupleName recipeName : String}
    {report : ActivationReport} (hnamed : tree.Named)
    (h : activatePostSupplyConfig yaml world automation force promotion tupleName recipeName tree =
      (tree', .ok report)) (hactivated : report.activated = true) :
    tree' = insertAll tree
        (postSupplyWrites yaml world.disk.root automation promotion tupleName recipeName) ∧
      tree'.Named := by
  unfold activatePostSupplyConfig at h
  split at h
  · cases congrArg Prod.snd h
  split at h
  · cases congrArg Prod.snd h
  split at h
  · cases congrArg Prod.snd h
    cases hactivated
  split at h
  · cases congrArg Prod.snd h
  · rename_i copied hcopied
    obtain rfl : copied = tree' := congrArg Prod.fst h
    exact ⟨runActivation_ok hcopied, named_runActivation promotionSteps_plain hnamed hcopied⟩

/-! ## The evidence afterwards -/

theorem statusAccepted_insertAll_iff {sha256 : List ℕ → String} (hsha : Function.Injective sha256)
    (hnamed : tree.Named) (htexts : tree.YamlTexts) {writes : List (List String × List ℕ)}
    (hnamed' : (insertAll tree writes).Named)
    (hwrites : ∀ path contents, (path, contents) ∈ writes → 0 ∉ contents) {commit : Option String}
    {strict : Bool} {files : List ValidationFile} {key : RouteValidationKey}
    (h : StatusAccepted py (settingsOn sha256 commit strict tree) files key) :
    StatusAccepted py (settingsOn sha256 commit strict (insertAll tree writes)) files key ↔
      strict = false ∨ LeavesHashed tree writes := by
  rw [settingsOn, statusAccepted_of_hash h]
  cases strict with
  | false => simp
  | true =>
    refine or_congr_right ?_
    obtain ⟨digest, hdigest⟩ : ∃ digest, routeValidationConfigHash sha256 (some tree) = some digest := by
      rw [statusAccepted_iff_latestFor] at h
      obtain ⟨file, -, data, -, hpasses⟩ := h
      exact Option.ne_none_iff_exists'.mp
        ((routeValidationRejectionReason_eq_none.mp hpasses).2.2.1 rfl rfl).1
    rw [hdigest]
    exact routeValidationConfigHash_insertAll hsha hnamed htexts hnamed' hwrites hdigest

theorem zero_notMem_existingRecipeWrites {review : RecipeReview} {path : List String}
    {contents : List ℕ}
    (h : (path, contents) ∈ existingRecipeWrites py yaml automation force review tree) :
    0 ∉ contents := by
  unfold existingRecipeWrites recipeWrites at h
  dsimp only at h
  split at h
  · cases h
  split at h
  · cases h
  · obtain ⟨-, rfl⟩ := Prod.mk.inj (List.mem_singleton.mp h)
    exact zero_notMem_utf8 (yaml.nul_notMem_toYaml _)

/-- A recipe that is active for the first time, with nothing checked. -/
def firstAutomation : RecipeAdminAutomation where
  autoValidateExistingTuples := true
  autoBillableValidation := false
  autoActivateExistingValidatedRecipe := true
  autoSetAutoSelect := false
  autoRequireAutoSelectSafe := false
  autoRunValidateConfig := false
  autoRunLaunchCheck := false
  autoValidationMaxAttempts := 1

def quietWorld : AdminWorld where
  readinessFailed := false
  gateDecision := "READY_FOR_BILLABLE_VALIDATION"
  validationTargets := []
  smokePasses _ := false
  budgetApproval := false
  autoSelectSafe _ _ := .ok true
  stage := .ok ()
  stagedDisk := { root := ⟨["srv", "reports", "staged"], by decide⟩ }
  validateConfig _ := 0
  launchCheck _ := 0
  disk := { root := ⟨["etc", "gpucall"], by decide⟩ }

def nameYaml : Yaml where
  toYaml recipe := if recipe.entries.isEmpty then "{}\n" else "name: text-infer-standard\n"
  load _ := .other
  readText _ := none
  nul_notMem_toYaml recipe := by split <;> decide

def firstReview : RecipeReview where
  canonicalRecipe := { entries := [("name", .str "text-infer-standard")] }
  eligibleTuples := ["modal-h100"]
  matched := [⟨"a.json", some (.str "modal-h100"), some (.str "text-infer-standard"),
    some (.str "sync"), ""⟩]

/-- The artifact of a smoke on the directory. -/
def currentFile (tree : ConfigTree) : ValidationFile where
  path := "a.json"
  mtime := 1
  data := some ((tupleSmoke syncOutcome
    ((routeValidationConfigHash unaryDigest (some tree)).getD "")).artifact "modal-h100"
      "text-infer-standard")

theorem statusAccepted_currentFile (strict : Bool) :
    StatusAccepted artifactBuiltins (settingsOn unaryDigest (some "c0ffee") strict policyTree)
      [currentFile policyTree] ("modal-h100", "text-infer-standard", "sync") := by
  obtain ⟨digest, hdigest⟩ :
      ∃ digest, routeValidationConfigHash unaryDigest (some policyTree) = some digest :=
    policyDirectory.exists_configHash unaryDigest
  have hdata : (currentFile policyTree).data =
      some ((tupleSmoke syncOutcome digest).artifact "modal-h100" "text-infer-standard") := by
    rw [currentFile, hdigest]
    rfl
  have hkey : (currentFile policyTree).key artifactBuiltins =
      some ("modal-h100", "text-infer-standard", "sync") := by
    rw [ValidationFile.key, hdata, Option.bind_some, namedKey_artifact (by decide) (by decide)]
    rfl
  refine statusAccepted_iff_latestFor.mpr ⟨currentFile policyTree, ?_, _, hdata, ?_⟩
  · have hsorted : newestFirst [currentFile policyTree] = [currentFile policyTree] := rfl
    rw [latestFor, hsorted, List.find?_cons_of_pos (by simp [hkey])]
  · rw [settingsOn, hdigest, rejectionReason_artifact rfl rfl rfl]
    have hcontract : contractRejectionReason artifactBuiltins
        (some (.str smokedTuple.contractHash)) smokedTuple.contract = none := by decide +kernel
    refine ⟨?_, hcontract⟩
    rintro commit ⟨⟩
    rfl

end Gpucall
