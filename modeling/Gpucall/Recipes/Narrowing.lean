import Gpucall.Lib.OptionList
import Gpucall.Recipes.Materialize
import Mathlib.Data.Finset.Sort

/-! The guard of the recipe files: `contract_narrowing_reasons` and `write_recipe_yaml` of
`recipe_materialize.py`, and what it is to widen a contract. -/

namespace Gpucall

variable (py : Builtins) (env : Environment) (conv : Conversions)

/-! ## Contracts -/

/-- `_optional_positive_int` -/
def optionalPositiveInt (value : Option Json) : Except ActivationError (Option ℤ) :=
  (intOr conv value).map fun number => number.filter (0 < ·)

/-- `_string_set` -/
def stringSet : Option Json → Finset String
  | some (.arr items) => ((items.map (pyStr py)).filter (· ≠ "")).toFinset
  | _ => ∅

/-- `_classification_rank` -/
def recipeClassificationRank (value : Option Json) : Option ℕ :=
  [("public", 0), ("internal", 1), ("confidential", 2), ("restricted", 3)].lookup
    (env.lower (strip (strOrEmpty py value)))

def budgetKeys : List String := ["context_budget_tokens", "max_input_bytes"]

def setKeys : List String := ["allowed_modes", "required_model_capabilities", "allowed_mime_prefixes"]

/-- The budget as `contract_narrowing_reasons` reads it; one that raises is none. -/
def budgetOf (recipe : Dict Json) (key : String) : Option ℤ :=
  (optionalPositiveInt conv (recipe.get? key)).toOption.join

def rankOf (recipe : Dict Json) : Option ℕ := recipeClassificationRank py env (recipe.get? "data_classification")

/-- The contract of a recipe has all that another one has, and more or as much of it. -/
structure Widens (old new : Dict Json) : Prop where
  budgets : ∀ key ∈ budgetKeys, ∀ current, budgetOf conv old key = some current →
    ∃ next, budgetOf conv new key = some next ∧ current ≤ next
  sets : ∀ key ∈ setKeys, stringSet py (old.get? key) ⊆ stringSet py (new.get? key)
  rank : ∀ current, rankOf py env old = some current →
    ∃ next, rankOf py env new = some next ∧ current ≤ next

/-- A recipe declares each part of the contract that another one declares. -/
structure Declares (old new : Dict Json) : Prop where
  budgets : ∀ key ∈ budgetKeys, (budgetOf conv old key).isSome → (budgetOf conv new key).isSome
  sets : ∀ key ∈ setKeys, (stringSet py (old.get? key)).Nonempty → (stringSet py (new.get? key)).Nonempty
  rank : (rankOf py env old).isSome → (rankOf py env new).isSome

/-- What both recipes declare becomes no less. -/
structure NarrowsNothing (old new : Dict Json) : Prop where
  budgets : ∀ key ∈ budgetKeys, ∀ current, budgetOf conv old key = some current →
    ∀ next, budgetOf conv new key = some next → current ≤ next
  sets : ∀ key ∈ setKeys, (stringSet py (new.get? key)).Nonempty →
    stringSet py (old.get? key) ⊆ stringSet py (new.get? key)
  rank : ∀ current, rankOf py env old = some current → ∀ next, rankOf py env new = some next → current ≤ next

/-! ## The guard -/

/-- A budget that would decrease -/
def budgetReasons (existing proposed : Dict Json) (key : String) : Except ActivationError (List String) := do
  let current ← optionalPositiveInt conv (existing.get? key)
  let next ← optionalPositiveInt conv (proposed.get? key)
  match current, next with
  | some current, some next =>
    if next < current then
      return [key ++ " would decrease from " ++ toString current ++ " to " ++ toString next]
    else return []
  | _, _ => return []

/-- A set that would lose an element -/
def setReasons (existing proposed : Dict Json) (key : String) : List String :=
  let current := stringSet py (existing.get? key)
  let next := stringSet py (proposed.get? key)
  if current ≠ ∅ ∧ next ≠ ∅ ∧ ¬ current ⊆ next then
    [key ++ " would drop " ++ String.intercalate ", " ((current \ next).sort (· ≤ ·))]
  else []

/-- A classification that would decrease -/
def rankReasons (existing proposed : Dict Json) : List String :=
  match rankOf py env existing, rankOf py env proposed with
  | some current, some next =>
    if next < current then
      ["data_classification would decrease from " ++
        pyStr py ((existing.get? "data_classification").getD .null) ++ " to " ++
        pyStr py ((proposed.get? "data_classification").getD .null)]
    else []
  | _, _ => []

/-- `contract_narrowing_reasons` -/
def contractNarrowingReasons (existing proposed : Dict Json) : Except ActivationError (List String) := do
  let tokens ← budgetReasons conv existing proposed "context_budget_tokens"
  let bytes ← budgetReasons conv existing proposed "max_input_bytes"
  return tokens ++ bytes ++ setKeys.flatMap (setReasons py existing proposed) ++
    rankReasons py env existing proposed

/-! ## Recipe files -/

/-- A file: its text, and what `yaml.safe_load(text) or {}` gives, where it gives anything. -/
structure RecipeFile where
  text : String
  root : YamlRoot

/-- A folder of recipes: the files `f"{name}.yml"`, by the names -/
abbrev RecipeFolder := Dict RecipeFile

/-- `path.write_text(to_yaml(recipe))`. What is dumped is loaded as what it was. -/
def recipeText (toYaml : Dict Json → String) (recipe : Dict Json) : RecipeFile :=
  { text := toYaml recipe, root := .mapping recipe }

/-- The name in `f"{recipe['name']}.yml"` -/
def recipeFileName (recipe : Dict Json) : Except ActivationError String :=
  match recipe.get? "name" with
  | some name => .ok (pyStr py name)
  | none => .error (.keyError "name")

variable (toYaml : Dict Json → String)

/-- `write_recipe_yaml` -/
def writeRecipeYaml (force allowContractNarrowing : Bool) (folder : RecipeFolder) (recipe : Dict Json) :
    Except ActivationError RecipeFolder := do
  let name ← recipeFileName py recipe
  match folder.get? name with
  | none => return folder.set name (recipeText toYaml recipe)
  | some file =>
    if !force then .error (.fileExists (.inside [name ++ ".yml"]))
    else if allowContractNarrowing then return folder.set name (recipeText toYaml recipe)
    else
      match file.root with
      | .unreadable => .error .yamlError
      | .other => .error (.valueError "refusing to overwrite invalid existing recipe YAML")
      | .mapping existing =>
        let reasons ← contractNarrowingReasons py env conv existing recipe
        if reasons ≠ [] then
          .error (.valueError ("refusing to narrow existing recipe contract: " ++ String.intercalate "; " reasons))
        else return folder.set name (recipeText toYaml recipe)

/-! ## Wider contracts -/

section Widens

variable {py env conv} {old mid new : Dict Json}

/-- The fields that a contract is read from -/
def contractKeys : List String := budgetKeys ++ setKeys ++ ["data_classification"]

theorem Widens.of_same (h : ∀ key ∈ contractKeys, new.get? key = old.get? key) :
    Widens py env conv old new where
  budgets key hkey current hcurrent := by
    refine ⟨current, ?_, le_rfl⟩
    rw [budgetOf, h key (List.mem_append_left _ (List.mem_append_left _ hkey)), ← budgetOf, hcurrent]
  sets key hkey := by
    rw [h key (List.mem_append_left _ (List.mem_append_right _ hkey))]
  rank current hcurrent := by
    refine ⟨current, ?_, le_rfl⟩
    rw [rankOf, h _ (List.mem_append_right _ (List.mem_singleton_self _)), ← rankOf, hcurrent]

theorem Widens.refl (recipe : Dict Json) : Widens py env conv recipe recipe := .of_same fun _ _ => rfl

theorem Widens.trans (h : Widens py env conv old mid) (h' : Widens py env conv mid new) :
    Widens py env conv old new where
  budgets key hkey current hcurrent := by
    obtain ⟨between, hbetween, hle⟩ := h.budgets key hkey current hcurrent
    obtain ⟨next, hnext, hle'⟩ := h'.budgets key hkey between hbetween
    exact ⟨next, hnext, hle.trans hle'⟩
  sets key hkey := (h.sets key hkey).trans (h'.sets key hkey)
  rank current hcurrent := by
    obtain ⟨between, hbetween, hle⟩ := h.rank current hcurrent
    obtain ⟨next, hnext, hle'⟩ := h'.rank between hbetween
    exact ⟨next, hnext, hle.trans hle'⟩

theorem Widens.declares (h : Widens py env conv old new) : Declares py env conv old new where
  budgets key hkey hsome := by
    obtain ⟨current, hcurrent⟩ := Option.isSome_iff_exists.mp hsome
    obtain ⟨next, hnext, -⟩ := h.budgets key hkey current hcurrent
    exact Option.isSome_of_eq_some hnext
  sets key hkey hnonempty := hnonempty.mono (h.sets key hkey)
  rank hsome := by
    obtain ⟨current, hcurrent⟩ := Option.isSome_iff_exists.mp hsome
    obtain ⟨next, hnext, -⟩ := h.rank current hcurrent
    exact Option.isSome_of_eq_some hnext

theorem Widens.narrowsNothing (h : Widens py env conv old new) : NarrowsNothing py env conv old new where
  budgets key hkey current hcurrent next hnext := by
    obtain ⟨_, hnext', hle⟩ := h.budgets key hkey current hcurrent
    exact Option.some.inj (hnext'.symm.trans hnext) ▸ hle
  sets key hkey _ := h.sets key hkey
  rank current hcurrent next hnext := by
    obtain ⟨_, hnext', hle⟩ := h.rank current hcurrent
    exact Option.some.inj (hnext'.symm.trans hnext) ▸ hle

theorem widens_iff :
    Widens py env conv old new ↔ Declares py env conv old new ∧ NarrowsNothing py env conv old new := by
  constructor
  · intro h
    exact ⟨h.declares, h.narrowsNothing⟩
  · rintro ⟨hdeclares, hnarrows⟩
    refine ⟨fun key hkey current hcurrent => ?_, fun key hkey => ?_, fun current hcurrent => ?_⟩
    · obtain ⟨next, hnext⟩ := Option.isSome_iff_exists.mp
        (hdeclares.budgets key hkey (Option.isSome_of_eq_some hcurrent))
      exact ⟨next, hnext, hnarrows.budgets key hkey current hcurrent next hnext⟩
    · rcases (stringSet py (old.get? key)).eq_empty_or_nonempty with hempty | hnonempty
      · rw [hempty]
        exact Finset.empty_subset _
      · exact hnarrows.sets key hkey (hdeclares.sets key hkey hnonempty)
    · obtain ⟨next, hnext⟩ := Option.isSome_iff_exists.mp
        (hdeclares.rank (Option.isSome_of_eq_some hcurrent))
      exact ⟨next, hnext, hnarrows.rank current hcurrent next hnext⟩

end Widens

/-! ## What the guard sees -/

section Guard

variable {py env conv} {existing proposed : Dict Json}

theorem budgetOf_eq_some {recipe : Dict Json} {key : String} {value : ℤ} :
    budgetOf conv recipe key = some value ↔ optionalPositiveInt conv (recipe.get? key) = .ok (some value) := by
  rw [budgetOf]
  rcases optionalPositiveInt conv (recipe.get? key) with _ | _ | _ <;> simp [Except.toOption]

theorem le_of_budgetReasons {key : String} {current next : ℤ}
    (h : budgetReasons conv existing proposed key = .ok []) (hcurrent : budgetOf conv existing key = some current)
    (hnext : budgetOf conv proposed key = some next) : current ≤ next := by
  rw [budgetReasons, budgetOf_eq_some.mp hcurrent, budgetOf_eq_some.mp hnext] at h
  by_contra hlt
  simp [bind, Except.bind, pure, Except.pure, not_le.mp hlt] at h

theorem subset_of_setReasons {key : String} (h : setReasons py existing proposed key = [])
    (hnext : (stringSet py (proposed.get? key)).Nonempty) :
    stringSet py (existing.get? key) ⊆ stringSet py (proposed.get? key) := by
  rw [setReasons] at h
  by_contra hdrop
  rw [if_pos ⟨fun hempty => hdrop (hempty ▸ Finset.empty_subset _), hnext.ne_empty, hdrop⟩] at h
  cases h

theorem le_of_rankReasons {current next : ℕ} (h : rankReasons py env existing proposed = [])
    (hcurrent : rankOf py env existing = some current) (hnext : rankOf py env proposed = some next) :
    current ≤ next := by
  rw [rankReasons, hcurrent, hnext] at h
  by_contra hlt
  simp [not_le.mp hlt] at h

/-- Without a reason, each part of the guard has found none. -/
theorem contractNarrowingReasons_eq_nil (h : contractNarrowingReasons py env conv existing proposed = .ok []) :
    (∀ key ∈ budgetKeys, budgetReasons conv existing proposed key = .ok []) ∧
      (∀ key ∈ setKeys, setReasons py existing proposed key = []) ∧
        rankReasons py env existing proposed = [] := by
  obtain ⟨tokens, htokens, h⟩ := Fallible.bind_eq_ok.mp h
  obtain ⟨bytes, hbytes, h⟩ := Fallible.bind_eq_ok.mp h
  have hnil : tokens ++ bytes ++ setKeys.flatMap (setReasons py existing proposed) ++
      rankReasons py env existing proposed = [] := Except.ok.inj h
  simp only [List.append_eq_nil_iff, List.flatMap_eq_nil_iff] at hnil
  obtain ⟨⟨⟨rfl, rfl⟩, hsets⟩, hrank⟩ := hnil
  refine ⟨fun key hkey => ?_, hsets, hrank⟩
  rcases List.mem_pair.mp hkey with rfl | rfl
  · exact htokens
  · exact hbytes

/-- The guard compares all that both recipes declare. -/
theorem narrowsNothing_of_reasons (h : contractNarrowingReasons py env conv existing proposed = .ok []) :
    NarrowsNothing py env conv existing proposed := by
  obtain ⟨hbudgets, hsets, hrank⟩ := contractNarrowingReasons_eq_nil h
  exact ⟨fun key hkey _ hcurrent _ hnext => le_of_budgetReasons (hbudgets key hkey) hcurrent hnext,
    fun key hkey hnext => subset_of_setReasons (hsets key hkey) hnext,
    fun _ hcurrent _ hnext => le_of_rankReasons hrank hcurrent hnext⟩

/-- The recipe may be written: there is no file, or it may be overwritten. -/
def MayWrite (py : Builtins) (env : Environment) (conv : Conversions) (force allowContractNarrowing : Bool)
    (file : Option RecipeFile) (recipe : Dict Json) : Prop :=
  ∀ found ∈ file, force ∧ (allowContractNarrowing ∨ ∃ existing, found.root = .mapping existing ∧
    contractNarrowingReasons py env conv existing recipe = .ok [])

variable {toYaml : Dict Json → String} {force allowContractNarrowing : Bool} {folder folder' : RecipeFolder}
    {recipe : Dict Json} {name : String}

/-- A recipe that may be written is, and nothing else changes. -/
theorem writeRecipeYaml_eq_ok_iff (hname : recipeFileName py recipe = .ok name) :
    writeRecipeYaml py env conv toYaml force allowContractNarrowing folder recipe = .ok folder' ↔
      MayWrite py env conv force allowContractNarrowing (folder.get? name) recipe ∧
        folder' = folder.set name (recipeText toYaml recipe) := by
  simp only [writeRecipeYaml, hname, MayWrite, bind, Except.bind, pure, Except.pure]
  cases folder.get? name with
  | none => simpa using eq_comm
  | some file =>
    cases force with
    | false => simp
    | true =>
      cases allowContractNarrowing with
      | true => simpa using eq_comm
      | false =>
        cases hroot : file.root with
        | unreadable => simp [hroot]
        | other => simp [hroot]
        | mapping existing =>
          cases hreasons : contractNarrowingReasons py env conv existing recipe with
          | error e => simp [hroot, hreasons]
          | ok reasons =>
            by_cases hnil : reasons = []
            · simpa [hroot, hreasons, hnil] using eq_comm
            · simp [hroot, hreasons, hnil]

end Guard

end Gpucall
