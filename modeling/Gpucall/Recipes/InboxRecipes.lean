import Gpucall.Lib.StepRun
import Gpucall.Recipes.Narrowing

/-! The recipe files of `process_inbox`: a submission is linked to the recipe of its name, or that one is retained,
or it is written; then the automation may write the recipe of the review over it, where the output folder is the
`recipes` folder of the active configuration. -/

namespace Gpucall

variable (py : Builtins) (env : Environment) (conv : Conversions) (toYaml : Dict Json → String)

/-! ## Link, retain or write -/

inductive ProcessingAction where
  | existingRecipeLinked | existingRecipeRetained | recipeWritten
  deriving DecidableEq

/-- The branches of `process_inbox` that decide what becomes of a recipe -/
def linkRetainOrWrite (force allowContractNarrowing : Bool) (folder : RecipeFolder) (recipe : Dict Json) :
    Except ActivationError (RecipeFolder × ProcessingAction) := do
  let name ← recipeFileName py recipe
  let _ ← recipeYamlPath name
  let write := (writeRecipeYaml py env conv toYaml force allowContractNarrowing folder recipe).map
    fun folder => (folder, ProcessingAction.recipeWritten)
  match folder.get? name with
  | none => write
  | some file =>
    if !force then return (folder, .existingRecipeLinked)
    else if allowContractNarrowing then write
    else
      match file.root with
      | .unreadable => .error .yamlError
      | .other => .error (.valueError "refusing to overwrite invalid existing recipe YAML")
      | .mapping existing =>
        let narrowing ← contractNarrowingReasons py env conv existing recipe
        if narrowing ≠ [] then return (folder, .existingRecipeRetained) else write

/-! ## The automation -/

/-- Who writes a recipe into the active configuration, each with a guard of its own: `_write_recipe_guarded` for
existing tuples, `_write_yaml_guarded` in `promote_production_tuple` and `_copy_promotion_artifacts`. -/
inductive ActivationGuard where
  | recipe | yaml
  deriving DecidableEq

/-- The recipe of the review, as the automation writes it. -/
structure RecipeActivation where
  guard : ActivationGuard
  setAutoSelect : Bool := false

/-- Whether the guard lets a recipe be written over a file. -/
def ActivationGuard.overwrites (guard : ActivationGuard) (force : Bool) (file : RecipeFile)
    (recipe : Dict Json) : Bool :=
  force || (guard = .recipe && file.text ≠ toYaml recipe &&
    match file.root with
    | .mapping existing => overwritable py existing recipe
    | _ => false)

/-- `_write_recipe_guarded` and `_write_yaml_guarded` -/
def writeGuarded (guard : ActivationGuard) (force : Bool) (folder : RecipeFolder) (recipe : Dict Json) :
    RecipeFolder × Except ActivationError Unit :=
  match recipeFileName py recipe with
  | .error e => (folder, .error e)
  | .ok name =>
    match folder.get? name with
    | none => (folder.set name (recipeText toYaml recipe), .ok ())
    | some file =>
      if guard.overwrites py toYaml force file recipe then
        (folder.set name (recipeText toYaml recipe), .ok ())
      else if guard = .recipe && file.text = toYaml recipe then (folder, .ok ())
      else
        match guard, file.root with
        | .recipe, .unreadable => (folder, .error .yamlError)
        | _, _ => (folder, .error (.fileExists (.inside [name ++ ".yml"])))

/-! ## Steps -/

/-- What is done to the recipe files, one after another. -/
inductive RecipeStep where
  /-- `write_recipe_yaml` -/
  | write (recipe : Dict Json)
  /-- the branches of `process_inbox` -/
  | materialize (recipe : Dict Json)
  | activate (guard : ActivationGuard) (recipe : Dict Json)

def RecipeStep.recipe : RecipeStep → Dict Json
  | .write recipe | .materialize recipe | .activate _ recipe => recipe

def RecipeStep.isActivation : RecipeStep → Bool
  | .activate .. => true
  | _ => false

/-- A result or the folder as it was -/
def orUnchanged (folder : RecipeFolder) :
    Except ActivationError RecipeFolder → RecipeFolder × Except ActivationError Unit
  | .ok folder' => (folder', .ok ())
  | .error e => (folder, .error e)

def RecipeStep.act (force allowContractNarrowing : Bool) (step : RecipeStep) (folder : RecipeFolder) :
    RecipeFolder × Except ActivationError Unit :=
  match step with
  | .write recipe =>
    orUnchanged folder (writeRecipeYaml py env conv toYaml force allowContractNarrowing folder recipe)
  | .materialize recipe => orUnchanged folder
    ((linkRetainOrWrite py env conv toYaml force allowContractNarrowing folder recipe).map Prod.fst)
  | .activate guard recipe => writeGuarded py toYaml guard force folder recipe

/-- The fields that `Recipe` leaves as they are, among others. -/
def servedKeys : List String := ["name", "task", "intent", "output_contract"] ++ contractKeys

/-- `Recipe.model_validate(recipe).model_dump(mode="json")` -/
structure RecipeModel where
  dump : Dict Json → Option (Dict Json)
  get?_dump : dump recipe = some dumped → ∀ key ∈ servedKeys, dumped.get? key = recipe.get? key

/-- `_artifact_from_submission` -/
def artifactFromSubmission (data : Dict Json) : Except ActivationError (Dict Json) :=
  if data.get? "kind" matches some (.str "gpucall.recipe_request_submission") then
    match data.get? "draft", data.get? "intake" with
    | some (.obj draft), _ => .ok (.ofFields draft)
    | _, some (.obj intake) => .ok (.ofFields intake)
    | _, _ => .error (.valueError "submission does not contain intake or draft")
  else .ok data

/-- A submission, with what is found out about it elsewhere: whether the validation of the draft and the review let
it pass, the catalog that the review was made with, what the automation writes, and whether everything after that
goes through. -/
structure InboxSubmission where
  data : Dict Json
  accepted : Bool := true
  reviewCatalog : Option (List CatalogTuple) := none
  activations : List RecipeActivation := []
  finishes : Bool := true

variable (world : Materialization) (model : RecipeModel)

/-- The canonical recipe of a submission -/
def InboxSubmission.canonicalRecipe (submission : InboxSubmission) (catalog : Option (List CatalogTuple)) :
    Except ActivationError CanonicalRecipe := do
  canonicalRecipeFromArtifact py env conv { world with catalog } (← artifactFromSubmission submission.data)

/-- The canonical recipe of the review, as it is reported. -/
def InboxSubmission.reviewed (submission : InboxSubmission) : Option (Dict Json) :=
  if submission.accepted then
    (submission.canonicalRecipe py env conv world submission.reviewCatalog).toOption.bind
      fun recipe => model.dump recipe.fields
  else none

/-- The steps that a submission takes, with its own canonical recipe, unless it is rejected. -/
def InboxSubmission.steps (submission : InboxSubmission) : Option (CanonicalRecipe × List RecipeStep) := do
  let reviewed ← submission.reviewed py env conv world model
  let recipe ← (submission.canonicalRecipe py env conv world world.catalog).toOption
  return (recipe, .materialize recipe.fields :: submission.activations.map fun activation =>
    .activate activation.guard (activeRecipe activation.setAutoSelect reviewed))

/-- What `process_inbox` does to the recipe files for a submission, and the canonical recipe when it reports
`ok = True`. -/
def processSubmission (force allowContractNarrowing : Bool) (folder : RecipeFolder)
    (submission : InboxSubmission) : RecipeFolder × Option CanonicalRecipe :=
  match submission.steps py env conv world model with
  | none => (folder, none)
  | some (recipe, steps) =>
    match StepRun.run (RecipeStep.act py env conv toYaml force allowContractNarrowing) steps folder with
    | (folder, .ok ()) => (folder, if submission.finishes then some recipe else none)
    | (folder, .error _) => (folder, none)

/-! ## One step -/

section Steps

variable {py env conv toYaml} {force allowContractNarrowing : Bool} {folder folder' : RecipeFolder}
  {step : RecipeStep} {recipe : Dict Json} {name : String}

/-- When a step writes its recipe over a file -/
def RecipeStep.Overwrites (py : Builtins) (env : Environment) (conv : Conversions) (toYaml : Dict Json → String)
    (force allowContractNarrowing : Bool) (name : String) (file : RecipeFile) : RecipeStep → Prop
  | .write recipe => MayWrite py env conv force allowContractNarrowing (some file) recipe
  | .materialize recipe => (recipeYamlPath name).isOk ∧
    MayWrite py env conv force allowContractNarrowing (some file) recipe
  | .activate guard recipe => guard.overwrites py toYaml force file recipe

theorem linkRetainOrWrite_of_mayWrite (hname : recipeFileName py recipe = .ok name)
    (hpath : (recipeYamlPath name).isOk)
    (h : MayWrite py env conv force allowContractNarrowing (folder.get? name) recipe) :
    linkRetainOrWrite py env conv toYaml force allowContractNarrowing folder recipe =
      .ok (folder.set name (recipeText toYaml recipe), .recipeWritten) := by
  have hwrite : writeRecipeYaml py env conv toYaml force allowContractNarrowing folder recipe = _ :=
    (writeRecipeYaml_eq_ok_iff hname).mpr ⟨h, rfl⟩
  obtain ⟨path, hpath⟩ : ∃ path, recipeYamlPath name = .ok path := by
    cases hpath' : recipeYamlPath name with
    | error e => simp [hpath', Except.isOk, Except.toBool] at hpath
    | ok path => exact ⟨path, rfl⟩
  simp only [linkRetainOrWrite, hname, hpath, hwrite, bind, Except.bind, Except.map]
  cases hfile : folder.get? name with
  | none => rfl
  | some file =>
    obtain ⟨hforce, hallowed⟩ := h file hfile
    subst hforce
    cases allowContractNarrowing with
    | true => rfl
    | false =>
      obtain ⟨existing, hroot, hreasons⟩ := hallowed.resolve_left (by decide)
      simp [hroot, hreasons]

/-- The existing recipe stays: without force it is linked, and with it retained where it would be narrowed. -/
def LeftInPlace (py : Builtins) (env : Environment) (conv : Conversions) (force allowContractNarrowing : Bool)
    (file : RecipeFile) (recipe : Dict Json) : Prop :=
  force = false ∨ allowContractNarrowing = false ∧ ∃ existing reasons, file.root = .mapping existing ∧
    contractNarrowingReasons py env conv existing recipe = .ok reasons ∧ reasons ≠ []

theorem linkRetainOrWrite_eq_ok {action : ProcessingAction} (hname : recipeFileName py recipe = .ok name)
    (h : linkRetainOrWrite py env conv toYaml force allowContractNarrowing folder recipe = .ok (folder', action)) :
    (recipeYamlPath name).isOk ∧
      (MayWrite py env conv force allowContractNarrowing (folder.get? name) recipe ∧
          folder' = folder.set name (recipeText toYaml recipe) ∨
        folder' = folder ∧ ∃ file, folder.get? name = some file ∧
          LeftInPlace py env conv force allowContractNarrowing file recipe) := by
  have hwritten {result : RecipeFolder × ProcessingAction}
      (h : (writeRecipeYaml py env conv toYaml force allowContractNarrowing folder recipe).map
        (fun folder => (folder, ProcessingAction.recipeWritten)) = .ok result) :
      MayWrite py env conv force allowContractNarrowing (folder.get? name) recipe ∧
        result.1 = folder.set name (recipeText toYaml recipe) := by
    obtain ⟨written, hwrite, rfl⟩ := Fallible.map_eq_ok.mp h
    exact (writeRecipeYaml_eq_ok_iff hname).mp hwrite
  obtain ⟨found, hfound, h⟩ := Fallible.bind_eq_ok.mp h
  obtain rfl := Except.ok.inj (hname.symm.trans hfound)
  obtain ⟨path, hpath, h⟩ := Fallible.bind_eq_ok.mp h
  rw [hpath]
  refine ⟨rfl, ?_⟩
  cases hfile : folder.get? name with
  | none =>
    rw [hfile] at h
    exact .inl (hfile ▸ hwritten h)
  | some file =>
    rw [hfile] at h
    rw [← hfile]
    cases force with
    | false =>
      cases h
      exact .inr ⟨rfl, file, hfile, .inl rfl⟩
    | true =>
      cases allowContractNarrowing with
      | true => exact .inl (hwritten h)
      | false =>
        cases hroot : file.root with
        | unreadable => simp [hroot] at h
        | other => simp [hroot] at h
        | mapping existing =>
          simp only [hroot] at h
          obtain ⟨reasons, hreasons, h⟩ := Fallible.bind_eq_ok.mp h
          by_cases hnil : reasons = []
          · rw [if_neg (not_not.mpr hnil)] at h
            exact .inl (hwritten h)
          · rw [if_pos hnil] at h
            cases h
            exact .inr ⟨rfl, file, hfile, .inr ⟨rfl, existing, reasons, hroot, hreasons, hnil⟩⟩

theorem writeGuarded_fst {guard : ActivationGuard} (hname : recipeFileName py recipe = .ok name) :
    (writeGuarded py toYaml guard force folder recipe).1 =
      if ∀ file ∈ folder.get? name, guard.overwrites py toYaml force file recipe then
        folder.set name (recipeText toYaml recipe) else folder := by
  simp only [writeGuarded, hname]
  cases folder.get? name with
  | none => simp
  | some file =>
    cases hoverwrites : guard.overwrites py toYaml force file recipe with
    | true => simp [hoverwrites]
    | false =>
      have hnot : ¬ ∀ found ∈ some file, guard.overwrites py toYaml force found recipe = true := by
        intro h
        rw [h file rfl] at hoverwrites
        cases hoverwrites
      rw [if_neg hnot]
      simp only [Bool.false_eq_true, if_false, hoverwrites]
      split
      · rfl
      · split <;> rfl

/-- A step changes nothing, or it writes its recipe where there is no file or over one that it may. -/
theorem RecipeStep.act_fst (step : RecipeStep) (folder : RecipeFolder) :
    (step.act py env conv toYaml force allowContractNarrowing folder).1 = folder ∨
      ∃ name, recipeFileName py step.recipe = .ok name ∧
        (∀ file ∈ folder.get? name,
          step.Overwrites py env conv toYaml force allowContractNarrowing name file) ∧
        (step.act py env conv toYaml force allowContractNarrowing folder).1 =
          folder.set name (recipeText toYaml step.recipe) := by
  cases hname : recipeFileName py step.recipe with
  | error e =>
    left
    cases step with
    | write recipe =>
      replace hname : recipeFileName py recipe = .error e := hname
      simp [act, writeRecipeYaml, hname, bind, Except.bind, orUnchanged]
    | materialize recipe =>
      replace hname : recipeFileName py recipe = .error e := hname
      simp [act, linkRetainOrWrite, hname, bind, Except.bind, orUnchanged, Except.map]
    | activate guard recipe =>
      replace hname : recipeFileName py recipe = .error e := hname
      simp [act, writeGuarded, hname]
  | ok name =>
    cases step with
    | write recipe =>
      cases hwrite : writeRecipeYaml py env conv toYaml force allowContractNarrowing folder recipe with
      | error e => exact .inl (by rw [act, hwrite, orUnchanged])
      | ok folder' =>
        obtain ⟨hmay, rfl⟩ := (writeRecipeYaml_eq_ok_iff hname).mp hwrite
        refine .inr ⟨name, rfl, fun file hfile => ?_, by rw [act, hwrite, orUnchanged]⟩
        rintro _ ⟨⟩
        exact hmay file hfile
    | materialize recipe =>
      cases hlink : linkRetainOrWrite py env conv toYaml force allowContractNarrowing folder recipe with
      | error e => exact .inl (by rw [act, hlink, Except.map, orUnchanged])
      | ok result =>
        obtain ⟨folder', action⟩ := result
        have hact : (act py env conv toYaml force allowContractNarrowing (.materialize recipe) folder).1 =
            folder' := by
          rw [act, hlink, Except.map, orUnchanged]
        obtain ⟨hpath, ⟨hmay, rfl⟩ | ⟨rfl, -⟩⟩ := linkRetainOrWrite_eq_ok hname hlink
        · refine .inr ⟨name, rfl, fun file hfile => ⟨hpath, ?_⟩, hact⟩
          rintro _ ⟨⟩
          exact hmay file hfile
        · exact .inl hact
    | activate guard recipe =>
      have hact : (act py env conv toYaml force allowContractNarrowing (.activate guard recipe) folder).1 = _ :=
        writeGuarded_fst hname
      by_cases hoverwrites : ∀ file ∈ folder.get? name, guard.overwrites py toYaml force file recipe
      · exact .inr ⟨name, rfl, hoverwrites, hact.trans (if_pos hoverwrites)⟩
      · exact .inl (hact.trans (if_neg hoverwrites))

theorem RecipeStep.act_fst_of_overwrites {file : RecipeFile} (hname : recipeFileName py step.recipe = .ok name)
    (hfile : folder.get? name = some file)
    (h : step.Overwrites py env conv toYaml force allowContractNarrowing name file) :
    (step.act py env conv toYaml force allowContractNarrowing folder).1 =
      folder.set name (recipeText toYaml step.recipe) := by
  cases step with
  | write recipe =>
    have hmay : MayWrite py env conv force allowContractNarrowing (folder.get? name) recipe := by
      rw [hfile]
      exact h
    have hwrite : writeRecipeYaml py env conv toYaml force allowContractNarrowing folder recipe = _ :=
      (writeRecipeYaml_eq_ok_iff hname).mpr ⟨hmay, rfl⟩
    rw [act, hwrite, orUnchanged]
  | materialize recipe =>
    have hmay : MayWrite py env conv force allowContractNarrowing (folder.get? name) recipe := by
      rw [hfile]
      exact h.2
    have hlink : linkRetainOrWrite py env conv toYaml force allowContractNarrowing folder recipe = _ :=
      linkRetainOrWrite_of_mayWrite hname h.1 hmay
    rw [act, hlink, Except.map, orUnchanged]
    rfl
  | activate guard recipe =>
    have hover : ∀ found ∈ folder.get? name, guard.overwrites py toYaml force found recipe = true := by
      rw [hfile]
      rintro _ ⟨⟩
      exact h
    exact (writeGuarded_fst hname).trans (if_pos hover)

end Steps

/-! ## Drafts -/

/-- Numbers without sign and point -/
def digitConversions : Conversions where
  toInt
    | .number text => match text.toList.foldlM (fun (n : ℤ) c =>
        if c.isDigit then some (10 * n + (c.toNat - '0'.toNat)) else none) 0 with
      | some number => .ok number
      | none => .error .typeOrValue
    | _ => .error .typeOrValue
  toFloat
    | .number text => .ok text
    | _ => .error .typeError
  toDict _ := .error .typeError

/-- Neither a workload contract nor a catalog -/
def draftsOnly : Materialization where
  contractIntake _ := .error (.valueError "workload contract has no workloads")

def asDumped : RecipeModel where
  dump recipe := some recipe
  get?_dump h key _ := by
    cases h
    rfl

/-- The dump of a recipe in the flow style -/
def flowYaml (recipe : Dict Json) : String := String.ofList ((Json.obj recipe.entries).dumps true)

/-- A draft of the intent `summarize_text` -/
def summarizeDraft (fields : List (String × Json)) : Dict Json :=
  .ofFields [("proposed_recipe", .obj (("intent", .str "summarize_text") :: fields))]

end Gpucall
