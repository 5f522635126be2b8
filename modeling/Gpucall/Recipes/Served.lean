import Gpucall.Lib.OptionList
import Gpucall.Recipes.InboxRecipes

/-! What is stored under the name of a submission's recipe when `process_inbox` reports that it went well. -/

namespace Gpucall

variable {py : Builtins} {env : Environment} {conv : Conversions} {toYaml : Dict Json → String}
  {world : Materialization} {model : RecipeModel}

/-! ## Serving -/

/-- A stored recipe serves what another recipe asks for. -/
structure ServesRecipe (py : Builtins) (env : Environment) (conv : Conversions) (asked stored : Dict Json) :
    Prop where
  same : ∀ key ∈ ["task", "intent", "output_contract"], stored.get? key = asked.get? key
  widens : Widens py env conv asked stored

/-- A file holds a recipe that serves another. -/
def RecipeFile.Serves (py : Builtins) (env : Environment) (conv : Conversions) (file : RecipeFile)
    (asked : Dict Json) : Prop :=
  ∃ stored, file.root = .mapping stored ∧ ServesRecipe py env conv asked stored

theorem ServesRecipe.of_same {asked stored : Dict Json} (h : ∀ key ∈ servedKeys, stored.get? key = asked.get? key) :
    ServesRecipe py env conv asked stored where
  same key hkey := h key (List.mem_append_left _ (List.mem_cons_of_mem _ hkey))
  widens := .of_same fun key hkey => h key (List.mem_append_right _ hkey)

theorem serves_recipeText (recipe : Dict Json) : (recipeText toYaml recipe).Serves py env conv recipe :=
  ⟨recipe, rfl, .of_same fun _ _ => rfl⟩

theorem get?_activeRecipe {setAutoSelect : Bool} {recipe : Dict Json} {key : String}
    (h : key ∉ ["auto_select", "quality_floor"]) : (activeRecipe setAutoSelect recipe).get? key = recipe.get? key := by
  simp only [List.mem_cons, List.not_mem_nil, or_false, not_or] at h
  cases setAutoSelect with
  | false => rfl
  | true =>
    simp only [activeRecipe, if_true]
    split_ifs <;> simp only [Dict.get?_set, if_neg h.1, if_neg h.2]

/-- The automation writes the recipe of the review, with the same contract. -/
theorem serves_activeRecipe {setAutoSelect : Bool} {recipe dumped : Dict Json} (h : model.dump recipe = some dumped) :
    (recipeText toYaml (activeRecipe setAutoSelect dumped)).Serves py env conv recipe := by
  refine ⟨_, rfl, .of_same fun key hkey => ?_⟩
  have hother : ∀ key ∈ servedKeys, key ∉ ["auto_select", "quality_floor"] := by decide
  rw [get?_activeRecipe (hother key hkey), model.get?_dump h key hkey]

theorem recipeFileName_fields (recipe : CanonicalRecipe) : recipeFileName py recipe.fields = .ok recipe.name := by
  have hname : recipe.fields.get? "name" = some (.str recipe.name) := by
    rw [CanonicalRecipe.fields, Dict.get?_ofFields]
    split <;> rfl
  rw [recipeFileName, hname]
  rfl

/-! ## A submission -/

/-- What `process_inbox` leaves under the name of a recipe. A catalog that has changed since it was loaded can give
the review a recipe of its own. -/
inductive Stored (py : Builtins) (env : Environment) (conv : Conversions) (world : Materialization)
    (force allowContractNarrowing : Bool) (submission : InboxSubmission) (recipe : CanonicalRecipe)
    (before : Option RecipeFile) (file : RecipeFile) : Prop where
  | served (h : file.Serves py env conv recipe.fields)
  | left (hbefore : before = some file)
      (h : LeftInPlace py env conv force allowContractNarrowing file recipe.fields)
  | reviewed (reviewed : CanonicalRecipe) (hcatalog : submission.reviewCatalog ≠ world.catalog)
      (hreviewed : submission.canonicalRecipe py env conv world submission.reviewCatalog = .ok reviewed)
      (h : file.Serves py env conv reviewed.fields)

variable {force allowContractNarrowing : Bool} {folder folder' : RecipeFolder} {submission : InboxSubmission}
  {recipe : CanonicalRecipe}

/-- The branches of `process_inbox` leave a file that serves the recipe, or the one that was there. -/
theorem stored_materialize
    (h : RecipeStep.act py env conv toYaml force allowContractNarrowing (.materialize recipe.fields) folder =
      (folder', .ok ())) :
    ∃ file, folder'.get? recipe.name = some file ∧
      Stored py env conv world force allowContractNarrowing submission recipe (folder.get? recipe.name) file := by
  rw [RecipeStep.act] at h
  cases hlink : linkRetainOrWrite py env conv toYaml force allowContractNarrowing folder recipe.fields with
  | error e =>
    rw [hlink] at h
    cases congrArg Prod.snd h
  | ok linked =>
    obtain ⟨linked, action⟩ := linked
    rw [hlink] at h
    obtain rfl : linked = folder' := congrArg Prod.fst h
    obtain ⟨-, ⟨-, rfl⟩ | ⟨rfl, file, hfile, hleft⟩⟩ :=
      linkRetainOrWrite_eq_ok (recipeFileName_fields recipe) hlink
    · exact ⟨_, Dict.get?_set_self _ _ _, .served (serves_recipeText _)⟩
    · exact ⟨file, hfile, .left hfile hleft⟩

/-- The review has a canonical recipe, which is the submission's own unless the catalog has changed. -/
theorem reviewed_eq_some {reviewed : Dict Json} (h : submission.reviewed py env conv world model = some reviewed) :
    ∃ other, submission.canonicalRecipe py env conv world submission.reviewCatalog = .ok other ∧
      model.dump other.fields = some reviewed := by
  rw [InboxSubmission.reviewed] at h
  split at h
  · obtain ⟨other, hother, hdump⟩ := Option.bind_eq_some_iff.mp h
    exact ⟨other, OptionList.toOption_eq_some.mp hother, hdump⟩
  · cases h

/-- An activation leaves what was stored, or stores the recipe of the review. -/
theorem stored_activate {guard : ActivationGuard} {setAutoSelect : Bool} {reviewed : Dict Json}
    {before : Option RecipeFile} (hreviewed : submission.reviewed py env conv world model = some reviewed)
    (hrecipe : submission.canonicalRecipe py env conv world world.catalog = .ok recipe)
    (hstored : ∃ file, folder.get? recipe.name = some file ∧
      Stored py env conv world force allowContractNarrowing submission recipe before file) :
    ∃ file, ((RecipeStep.activate guard (activeRecipe setAutoSelect reviewed)).act py env conv toYaml force
        allowContractNarrowing folder).1.get? recipe.name = some file ∧
      Stored py env conv world force allowContractNarrowing submission recipe before file := by
  rcases (RecipeStep.activate guard (activeRecipe setAutoSelect reviewed)).act_fst folder with
    hsame | ⟨name, -, -, hset⟩
  · rw [hsame]
    exact hstored
  · rw [hset, Dict.get?_set]
    by_cases hname : recipe.name = name
    · rw [if_pos hname]
      obtain ⟨other, hother, hdump⟩ := reviewed_eq_some hreviewed
      refine ⟨_, rfl, ?_⟩
      by_cases hcatalog : submission.reviewCatalog = world.catalog
      · rw [hcatalog, hrecipe] at hother
        cases hother
        exact .served (serves_activeRecipe hdump)
      · exact .reviewed other hcatalog hother (serves_activeRecipe hdump)
    · rw [if_neg hname]
      exact hstored

theorem steps_eq_some {steps : List RecipeStep}
    (h : submission.steps py env conv world model = some (recipe, steps)) :
    submission.canonicalRecipe py env conv world world.catalog = .ok recipe ∧
      ∃ reviewed, submission.reviewed py env conv world model = some reviewed ∧
        steps = .materialize recipe.fields :: submission.activations.map fun activation =>
          .activate activation.guard (activeRecipe activation.setAutoSelect reviewed) := by
  simp only [InboxSubmission.steps, bind, Option.bind_eq_some_iff, pure] at h
  obtain ⟨reviewed, hreviewed, found, hfound, hpair⟩ := h
  obtain ⟨rfl, rfl⟩ := Prod.mk.inj (Option.some.inj hpair)
  exact ⟨OptionList.toOption_eq_some.mp hfound, reviewed, hreviewed, rfl⟩

/-- The steps of a submission that come to their end leave one of these files. -/
theorem stored_steps {reviewed : Dict Json} {activations : List RecipeActivation} {last : RecipeFolder}
    (hrecipe : submission.canonicalRecipe py env conv world world.catalog = .ok recipe)
    (hreviewed : submission.reviewed py env conv world model = some reviewed)
    (h : StepRun.run (RecipeStep.act py env conv toYaml force allowContractNarrowing)
      (.materialize recipe.fields :: activations.map fun activation =>
        .activate activation.guard (activeRecipe activation.setAutoSelect reviewed)) folder = (last, .ok ())) :
    ∃ file, last.get? recipe.name = some file ∧
      Stored py env conv world force allowContractNarrowing submission recipe (folder.get? recipe.name) file := by
  rcases hfirst : (RecipeStep.materialize recipe.fields).act py env conv toYaml force allowContractNarrowing folder
    with ⟨next, _ | _⟩
  · rw [StepRun.run_cons_error hfirst] at h
    cases congrArg Prod.snd h
  · rw [StepRun.run_cons_ok hfirst] at h
    obtain rfl : _ = last := congrArg Prod.fst h
    -- The activations keep what the first step stored.
    refine StepRun.run_induction (motive := fun (next : RecipeFolder) => ∃ file, next.get? recipe.name = some file ∧
      Stored py env conv world force allowContractNarrowing submission recipe (folder.get? recipe.name) file)
      (stored_materialize hfirst) fun before step mid hsteps _ hmid => ?_
    have hstep : step ∈ activations.map fun activation =>
        RecipeStep.activate activation.guard (activeRecipe activation.setAutoSelect reviewed) :=
      hsteps.subset (List.mem_append_right _ (List.mem_singleton_self step))
    obtain ⟨activation, -, rfl⟩ := List.mem_map.mp hstep
    exact stored_activate hreviewed hrecipe hmid

/-- When a submission is reported as processed, its recipe serves it, or it is one that was there and was left. -/
theorem stored_of_processed
    (h : (processSubmission py env conv toYaml world model force allowContractNarrowing folder submission).2 =
      some recipe) :
    submission.canonicalRecipe py env conv world world.catalog = .ok recipe ∧ ∃ file,
      (processSubmission py env conv toYaml world model force allowContractNarrowing folder
        submission).1.get? recipe.name = some file ∧
      Stored py env conv world force allowContractNarrowing submission recipe (folder.get? recipe.name) file := by
  rw [processSubmission] at h ⊢
  cases hsteps : submission.steps py env conv world model with
  | none =>
    rw [hsteps] at h
    cases h
  | some taken =>
    obtain ⟨own, steps⟩ := taken
    rw [hsteps] at h
    obtain ⟨hown, reviewed, hreviewed, rfl⟩ := steps_eq_some hsteps
    simp only at h ⊢
    rcases hrun : StepRun.run (RecipeStep.act py env conv toYaml force allowContractNarrowing)
      (.materialize own.fields :: submission.activations.map fun activation =>
        .activate activation.guard (activeRecipe activation.setAutoSelect reviewed)) folder with ⟨last, _ | _⟩
    · rw [hrun] at h
      cases h
    · rw [hrun] at h ⊢
      simp only at h ⊢
      split at h
      · cases h
        exact ⟨hown, stored_steps hown hreviewed hrun⟩
      · cases h

/-! ## Drafts of one name -/

/-- A draft that asks for a context of some tokens -/
def budgetDraft (tokens : String) : InboxSubmission where
  data := summarizeDraft [("context_budget_tokens", .number tokens)]

/-- What becomes of a submission that is processed without force -/
def processDraft (folder : RecipeFolder) (submission : InboxSubmission) : RecipeFolder × Option CanonicalRecipe :=
  processSubmission reviewBuiltins reviewEnvironment digitConversions flowYaml draftsOnly asDumped false false folder
    submission

/-- Nothing is stored yet. -/
def noRecipes : RecipeFolder := ⟨[], List.nodup_nil⟩

theorem stored_of_processed_draft : ∃ recipe, (processDraft noRecipes (budgetDraft "8192")).2 = some recipe ∧
    ∃ file, (processDraft noRecipes (budgetDraft "8192")).1.get? recipe.name = some file ∧
      Stored reviewBuiltins reviewEnvironment digitConversions draftsOnly false false (budgetDraft "8192") recipe
        (noRecipes.get? recipe.name) file := by
  have hprocessed : (processDraft noRecipes (budgetDraft "8192")).2.isSome := by decide +kernel
  obtain ⟨recipe, hrecipe⟩ := Option.isSome_iff_exists.mp hprocessed
  exact ⟨recipe, hrecipe, (stored_of_processed hrecipe).2⟩

/-- The context budgets of a recipe and of a file that holds one -/
def contextBudgets (asked : Dict Json) (file : RecipeFile) : Option (Option ℤ × Option ℤ) :=
  match file.root with
  | .mapping stored => some (budgetOf digitConversions asked "context_budget_tokens",
      budgetOf digitConversions stored "context_budget_tokens")
  | _ => none

/-- A draft that asks for a longer context than an earlier one of its name is linked to the recipe of that one. -/
theorem linked_not_served : ∃ recipe,
    (processDraft (processDraft noRecipes (budgetDraft "8192")).1 (budgetDraft "700000")).2 = some recipe ∧
    ∃ file, (processDraft (processDraft noRecipes (budgetDraft "8192")).1
        (budgetDraft "700000")).1.get? recipe.name = some file ∧
      ¬ file.Serves reviewBuiltins reviewEnvironment digitConversions recipe.fields := by
  have hbudgets : ((processDraft (processDraft noRecipes (budgetDraft "8192")).1 (budgetDraft "700000")).2.bind
      fun recipe => ((processDraft (processDraft noRecipes (budgetDraft "8192")).1
        (budgetDraft "700000")).1.get? recipe.name).bind (contextBudgets recipe.fields)) =
      some (some 700000, some 8192) := by decide +kernel
  obtain ⟨recipe, hrecipe, hfile⟩ := Option.bind_eq_some_iff.mp hbudgets
  obtain ⟨file, hfile, hroot⟩ := Option.bind_eq_some_iff.mp hfile
  refine ⟨recipe, hrecipe, file, hfile, ?_⟩
  rintro ⟨stored, hstored, hserves⟩
  rw [contextBudgets, hstored] at hroot
  obtain ⟨hasked, hheld⟩ := Prod.mk.inj (Option.some.inj hroot)
  obtain ⟨next, hnext, hle⟩ := hserves.widens.budgets "context_budget_tokens" (by decide) 700000 hasked
  rw [hheld] at hnext
  obtain rfl := Option.some.inj hnext
  exact absurd hle (by decide)

end Gpucall
