import Gpucall.Recipes.InboxRecipes

/-! Sequences of `process_inbox` and `write_recipe_yaml` on one folder of recipes, without
`allow_contract_narrowing`: when the contracts in it only become wider. -/

namespace Gpucall

variable (py : Builtins) (env : Environment) (conv : Conversions) (toYaml : Dict Json → String)
  (world : Materialization) (model : RecipeModel)

/-! ## Calls -/

/-- A call of `write_recipe_yaml`, or a submission that `process_inbox` comes to. -/
inductive RecipeCall where
  | write (force : Bool) (recipe : Dict Json)
  | processInbox (force : Bool) (submission : InboxSubmission)

def RecipeCall.force : RecipeCall → Bool
  | .write force _ | .processInbox force _ => force

/-- The folder after a call -/
def RecipeCall.run (folder : RecipeFolder) : RecipeCall → RecipeFolder
  | .write force recipe => (orUnchanged folder (writeRecipeYaml py env conv toYaml force false folder recipe)).1
  | .processInbox force submission =>
    (processSubmission py env conv toYaml world model force false folder submission).1

/-- What a call does to the folder, step by step -/
def RecipeCall.steps : RecipeCall → List RecipeStep
  | .write _ recipe => [.write recipe]
  | .processInbox _ submission => ((submission.steps py env conv world model).map Prod.snd).getD []

def folderAfter (folder : RecipeFolder) (calls : List RecipeCall) : RecipeFolder :=
  calls.foldl (RecipeCall.run py env conv toYaml world model) folder

/-- A step that is taken in the course of some calls, and the folder that it meets. -/
structure Takes (initial : RecipeFolder) (calls : List RecipeCall) (folder : RecipeFolder) (force : Bool)
    (step : RecipeStep) : Prop where
  reached : ∃ before call steps, before ++ [call] <+: calls ∧ call.force = force ∧
    steps ++ [step] <+: call.steps py env conv world model ∧
      StepRun.run (RecipeStep.act py env conv toYaml force false) steps
        (folderAfter py env conv toYaml world model initial before) = (folder, .ok ())

/-! ## Wider folders -/

/-- No recipe is removed, and no contract loses anything. -/
def WidensFolder (folder folder' : RecipeFolder) : Prop :=
  ∀ name file, folder.get? name = some file → ∃ file', folder'.get? name = some file' ∧
    ∀ existing, file.root = .mapping existing → ∃ new, file'.root = .mapping new ∧
      Widens py env conv existing new

/-- Each change only widens the recipes, and so does any part of the run. -/
structure OnlyWidens (initial : RecipeFolder) (calls : List RecipeCall) : Prop where
  changes : ∀ folder force step, Takes py env conv toYaml world model initial calls folder force step →
    WidensFolder py env conv folder (step.act py env conv toYaml force false folder).1
  runs : ∀ before after, before ++ after <+: calls →
    WidensFolder py env conv (folderAfter py env conv toYaml world model initial before)
      (folderAfter py env conv toYaml world model initial (before ++ after))

/-- A recipe that is written over another one declares all that this one declares. One that the automation writes
has not passed the guard, and narrows nothing. -/
def DeclaresOver (force : Bool) (step : RecipeStep) (folder : RecipeFolder) : Prop :=
  ∀ name file existing, recipeFileName py step.recipe = .ok name → folder.get? name = some file →
    file.root = .mapping existing → step.Overwrites py env conv toYaml force false name file →
      Declares py env conv existing step.recipe ∧
        (step.isActivation → NarrowsNothing py env conv existing step.recipe)

section Runs

variable {py env conv toYaml world model}

theorem WidensFolder.refl (folder : RecipeFolder) : WidensFolder py env conv folder folder :=
  fun _ file hfile => ⟨file, hfile, fun existing hroot => ⟨existing, hroot, .refl existing⟩⟩

theorem WidensFolder.trans {folder mid folder' : RecipeFolder} (h : WidensFolder py env conv folder mid)
    (h' : WidensFolder py env conv mid folder') : WidensFolder py env conv folder folder' := by
  intro name file hfile
  obtain ⟨between, hbetween, hwidens⟩ := h name file hfile
  obtain ⟨file', hfile', hwidens'⟩ := h' name between hbetween
  refine ⟨file', hfile', fun existing hroot => ?_⟩
  obtain ⟨kept, hkept, hfirst⟩ := hwidens existing hroot
  obtain ⟨new, hnew, hsecond⟩ := hwidens' kept hkept
  exact ⟨new, hnew, hfirst.trans hsecond⟩

/-- A call takes its steps. -/
theorem RecipeCall.run_eq (call : RecipeCall) (folder : RecipeFolder) :
    call.run py env conv toYaml world model folder =
      (StepRun.run (RecipeStep.act py env conv toYaml call.force false)
        (call.steps py env conv world model) folder).1 := by
  cases call with
  | write force recipe =>
    simp only [run, steps, StepRun.run, RecipeStep.act, RecipeCall.force]
    cases writeRecipeYaml py env conv toYaml force false folder recipe <;> rfl
  | processInbox force submission =>
    rw [run, steps, processSubmission]
    cases submission.steps py env conv world model with
    | none => rfl
    | some found =>
      obtain ⟨recipe, steps⟩ := found
      simp only [Option.map_some, Option.getD_some]
      split <;> rename_i hrun <;> exact (congrArg Prod.fst hrun).symm

theorem folderAfter_concat (initial : RecipeFolder) (calls : List RecipeCall) (call : RecipeCall) :
    folderAfter py env conv toYaml world model initial (calls ++ [call]) =
      call.run py env conv toYaml world model (folderAfter py env conv toYaml world model initial calls) := by
  rw [folderAfter, List.foldl_append]
  rfl

/-- What a step that passes the guard writes is not narrower. -/
theorem narrowsNothing_of_overwrites {force : Bool} {step : RecipeStep} {name : String} {file : RecipeFile}
    {existing : Dict Json} (h : step.Overwrites py env conv toYaml force false name file)
    (hroot : file.root = .mapping existing) (hguarded : ¬ step.isActivation) :
    NarrowsNothing py env conv existing step.recipe := by
  have hmay {recipe : Dict Json} (hmay : MayWrite py env conv force false (some file) recipe) :
      NarrowsNothing py env conv existing recipe := by
    obtain ⟨-, hallowed⟩ := hmay file rfl
    obtain ⟨other, hother, hreasons⟩ := hallowed.resolve_left (by decide)
    cases hroot.symm.trans hother
    exact narrowsNothing_of_reasons hreasons
  cases step with
  | write recipe => exact hmay h
  | materialize recipe => exact hmay h.2
  | activate guard recipe => exact absurd rfl hguarded

/-- A step only widens the recipes exactly when it declares what it writes over. -/
theorem widensFolder_act_iff {force : Bool} {step : RecipeStep} {folder : RecipeFolder} :
    WidensFolder py env conv folder (step.act py env conv toYaml force false folder).1 ↔
      DeclaresOver py env conv toYaml force step folder := by
  constructor
  · intro h name file existing hname hfile hroot hoverwrites
    obtain ⟨file', hfile', hwidens⟩ := h name file hfile
    rw [step.act_fst_of_overwrites hname hfile hoverwrites, Dict.get?_set_self] at hfile'
    cases hfile'
    obtain ⟨_, ⟨⟩, hnew⟩ := hwidens existing hroot
    exact ⟨hnew.declares, fun _ => hnew.narrowsNothing⟩
  · intro h
    rcases step.act_fst folder with hsame | ⟨name, hname, hoverwrites, hset⟩
    · rw [hsame]
      exact .refl folder
    · rw [hset]
      intro other file hfile
      rw [Dict.get?_set]
      by_cases hother : other = name
      · rw [if_pos hother]
        subst hother
        refine ⟨_, rfl, fun existing hroot => ⟨step.recipe, rfl, widens_iff.mpr ?_⟩⟩
        obtain ⟨hdeclares, hactivation⟩ := h other file existing hname hfile hroot (hoverwrites file hfile)
        refine ⟨hdeclares, ?_⟩
        by_cases hguarded : step.isActivation
        · exact hactivation hguarded
        · exact narrowsNothing_of_overwrites (hoverwrites file hfile) hroot hguarded
      · rw [if_neg hother]
        exact ⟨file, hfile, fun existing hroot => ⟨existing, hroot, .refl existing⟩⟩

end Runs

/-! ## A recipe that loses its capabilities -/

/-- The recipe of a draft -/
def draftRecipe (fields : List (String × Json)) : Dict Json :=
  ((canonicalRecipeFromArtifact reviewBuiltins reviewEnvironment digitConversions draftsOnly
    (summarizeDraft fields)).toOption.map (·.fields)).getD ⟨[], List.nodup_nil⟩

/-- A draft with a capability, and one of the same name without any -/
def capabilityDropped : List RecipeCall :=
  [.write false (draftRecipe [("required_model_capabilities", .arr [.str "summarization"])]),
    .write true (draftRecipe [])]

/-- Whether the recipe of drafts has a capability after some of the calls -/
def hasCapability (calls : List RecipeCall) : Bool :=
  ((folderAfter reviewBuiltins reviewEnvironment digitConversions flowYaml draftsOnly asDumped ⟨[], List.nodup_nil⟩
    calls).get? "infer-draft").any fun file =>
      match file.root with
      | .mapping recipe => "summarization" ∈ stringSet reviewBuiltins (recipe.get? "required_model_capabilities")
      | _ => false

end Gpucall
