import Gpucall.Config.Fingerprint
import Gpucall.Lib.PosixPath
import Gpucall.Lib.StepRun
import Gpucall.Routing.ValidationEvidence

/-! The files that an activation writes into the active configuration directory, one after another, each
behind a guard: `_write_yaml_guarded` and `_copy_promotion_artifacts` of `recipe_admin.py` and the
activation of `promote_production_tuple` of `tuple_promotion.py`. -/

namespace Gpucall

/-! ## Paths -/

/-- A path below the configuration directory, or one that leads out of it. -/
inductive ConfigPath where
  | inside (names : List String)
  | outside (names : List String)
  deriving DecidableEq

instance : DecidablePred IsFileName := fun name =>
  inferInstanceAs (Decidable (name ≠ "" ∧ '/' ∉ name.toList ∧ '\x00' ∉ name.toList))

/-- The absolute path of a folder. -/
structure Folder where
  names : List String
  named : ∀ name ∈ names, IsFileName name := by decide

/-- A path as one below the configuration directory or out of it. -/
def Folder.relative (root : Folder) (path : List String) : ConfigPath :=
  if root.names <+: path then .inside (path.drop root.names.length) else .outside path

/-- `config_dir / directory / f"{name}.yml"` -/
def configPath (root : Folder) (directory name : String) : ConfigPath :=
  root.relative (PosixPath.join (root.names ++ [directory]) (name ++ ".yml"))

/-! ## Writes -/

/-- What becomes of a write that fails: nothing is written, or the file is left with other contents. -/
inductive WriteFault where
  | refused
  | cut (left : List ℕ)

/-- Where the configuration directory is, the writes that fail, and the files out of it that exist. -/
structure Disk where
  root : Folder
  fault : ConfigPath → Option WriteFault := fun _ => none
  existsOutside : List String → Bool := fun _ => false

inductive ActivationError where
  | fileExists (path : ConfigPath)
  | osError
  | yamlError
  | valueError (message : String)
  | keyError (key : String)
  | typeError
  | overflowError
  | configError

/-- What `yaml.safe_load(..) or {}` gives. -/
inductive YamlRoot where
  | unreadable
  | mapping (payload : Dict Json)
  | other

/-- The YAML library and the decoding of a file. A dump escapes the character NUL. -/
structure Yaml where
  toYaml : Dict Json → String
  load : String → YamlRoot
  readText : List ℕ → Option String
  nul_notMem_toYaml : ∀ payload, '\x00' ∉ (toYaml payload).toList

variable (disk : Disk) (yaml : Yaml)

def existsAt (tree : ConfigTree) : ConfigPath → Bool
  | .inside names => (tree.lookup names).isSome
  | .outside names => disk.existsOutside names

/-- A file stands where a folder would have to be. -/
def belowFile (tree : ConfigTree) (names : List String) : Bool :=
  names.inits.any fun dir => dir ≠ names && (tree.lookup dir).any (·.isFile)

/-- `path.write_text(text)`. What a write outside of the directory leaves there is not followed. -/
def writeText (tree : ConfigTree) (path : ConfigPath) (text : String) :
    ConfigTree × Except ActivationError Unit :=
  match path with
  | .outside _ => (tree, if (disk.fault path).isSome then .error .osError else .ok ())
  | .inside names =>
    if ∃ name ∈ names, '\x00' ∈ name.toList then (tree, .error (.valueError "embedded null byte"))
    else if (tree.lookup names).any (!·.isFile) || belowFile tree names then (tree, .error .osError)
    else
      match disk.fault path with
      | none => (tree.insert names { bytes := some (utf8 text) }, .ok ())
      | some .refused => (tree, .error .osError)
      | some (.cut left) => (tree.insert names { bytes := some left }, .error .osError)

/-- `_write_yaml_guarded`. The folders that it makes are no files. -/
def writeYamlGuarded (force : Bool) (tree : ConfigTree) (path : ConfigPath) (payload : Dict Json) :
    ConfigTree × Except ActivationError Unit :=
  if existsAt disk tree path && !force then (tree, .error (.fileExists path))
  else writeText disk tree path (yaml.toYaml payload)

/-- A file of an activation: where it goes, and what is loaded for it, if anything. -/
structure ActivationStep where
  path : ConfigPath
  payload : Except ActivationError (Option (Dict Json))

def activateStep (force : Bool) (step : ActivationStep) (tree : ConfigTree) :
    ConfigTree × Except ActivationError Unit :=
  match step.payload with
  | .error e => (tree, .error e)
  | .ok none => (tree, .ok ())
  | .ok (some payload) => writeYamlGuarded disk yaml force tree step.path payload

/-- The files are loaded and written one after another. -/
def runActivation (force : Bool) (steps : List ActivationStep) (tree : ConfigTree) :
    ConfigTree × Except ActivationError Unit :=
  StepRun.run (activateStep disk yaml force) steps tree

/-! ## Copying a promotion -/

/-- The promotion directory: what is in `directory / f"{name}.yml"`, if it exists. -/
abbrev PromotionDir := String → String → Option YamlRoot

/-- The recipe as it is activated. -/
def activeRecipe (setAutoSelect : Bool) (recipe : Dict Json) : Dict Json :=
  if setAutoSelect then
    let recipe := recipe.set "auto_select" (.bool true)
    if recipe.get? "quality_floor" matches some (.str "draft") then
      recipe.set "quality_floor" (.str "standard")
    else recipe
  else recipe

/-- The mapping in a file that is there. -/
def mappingIn (message : String) : YamlRoot → Except ActivationError (Dict Json)
  | .unreadable => .error .yamlError
  | .mapping payload => .ok payload
  | .other => .error (.valueError message)

/-- The files of `_copy_promotion_artifacts`. -/
def promotionSteps (root : Folder) (setAutoSelect : Bool) (promotion : PromotionDir)
    (tupleName recipeName : String) : List ActivationStep :=
  { path := configPath root "recipes" recipeName
    payload := match promotion "recipes" recipeName with
      | none => .error .osError
      | some root => (mappingIn "promotion recipe YAML is not a mapping" root).map
          fun recipe => some (activeRecipe setAutoSelect recipe) } ::
  ["tuples", "surfaces", "workers"].map fun directory =>
    { path := configPath root directory tupleName
      payload := match promotion directory tupleName with
        | none => .ok none
        | some root =>
          (mappingIn ("promotion " ++ directory ++ " YAML is not a mapping") root).map some }

def copyPromotionArtifacts (force setAutoSelect : Bool) (promotion : PromotionDir)
    (tupleName recipeName : String) (tree : ConfigTree) : ConfigTree × Except ActivationError Unit :=
  runActivation disk yaml force
    (promotionSteps disk.root setAutoSelect promotion tupleName recipeName) tree

/-! ## What a completed activation leaves -/

/-- The files below the directory that the steps write, each with its contents. -/
def filesWritten (steps : List ActivationStep) : List (List String × List ℕ) :=
  steps.filterMap fun step =>
    match step.path, step.payload with
    | .inside names, .ok (some payload) => some (names, utf8 (yaml.toYaml payload))
    | _, _ => none

def insertAll (tree : ConfigTree) (writes : List (List String × List ℕ)) : ConfigTree :=
  writes.foldl (fun tree write => tree.insert write.1 { bytes := some write.2 }) tree

/-- The contents that are last written to a path. -/
def lastWritten (writes : List (List String × List ℕ)) (path : List String) : Option (List ℕ) :=
  writes.reverse.lookup path

variable {disk yaml} {force : Bool} {tree tree' : ConfigTree}

theorem lookup_insertAll (tree : ConfigTree) (writes : List (List String × List ℕ))
    (path : List String) :
    (insertAll tree writes).lookup path =
      ((lastWritten writes path).map fun contents => { bytes := some contents }).or
        (tree.lookup path) := by
  induction writes generalizing tree with
  | nil => rfl
  | cons write writes ih =>
    obtain ⟨written, contents⟩ := write
    rw [insertAll, List.foldl_cons, ← insertAll, ih, lastWritten, lastWritten, List.reverse_cons,
      List.lookup_append]
    cases writes.reverse.lookup path with
    | some contents => rfl
    | none =>
      by_cases hpath : path = written
      · subst hpath
        simp [Finmap.lookup_insert]
      · rw [Finmap.lookup_insert_of_ne _ hpath]
        simp [List.lookup_cons, beq_eq_false_iff_ne.mpr hpath]

theorem insertAll_append (tree : ConfigTree) (writes writes' : List (List String × List ℕ)) :
    insertAll tree (writes ++ writes') = insertAll (insertAll tree writes) writes' :=
  List.foldl_append ..

theorem filesWritten_append (steps steps' : List ActivationStep) :
    filesWritten yaml (steps ++ steps') = filesWritten yaml steps ++ filesWritten yaml steps' :=
  List.filterMap_append

/-! ## One write -/

theorem writeText_ok {path : ConfigPath} {text : String}
    (h : writeText disk tree path text = (tree', .ok ())) :
    (∃ names, path = .outside names ∧ tree' = tree) ∨
      ∃ names, path = .inside names ∧ (∀ name ∈ names, '\x00' ∉ name.toList) ∧
        tree' = tree.insert names { bytes := some (utf8 text) } := by
  unfold writeText at h
  split at h
  · exact Or.inl ⟨_, rfl, (congrArg Prod.fst h).symm⟩
  · rename_i names
    split_ifs at h with hnul hfile
    · cases congrArg Prod.snd h
    · cases congrArg Prod.snd h
    · split at h
      · refine Or.inr ⟨names, rfl, fun name hname hmem => hnul ⟨name, hname, hmem⟩, ?_⟩
        exact (congrArg Prod.fst h).symm
      · cases congrArg Prod.snd h
      · cases congrArg Prod.snd h

theorem writeYamlGuarded_ok {path : ConfigPath} {payload : Dict Json}
    (h : writeYamlGuarded disk yaml force tree path payload = (tree', .ok ())) :
    (existsAt disk tree path && !force) = false ∧
      writeText disk tree path (yaml.toYaml payload) = (tree', .ok ()) := by
  unfold writeYamlGuarded at h
  split at h
  · cases congrArg Prod.snd h
  · rename_i hguard
    exact ⟨eq_false_of_ne_true hguard, h⟩

/-- What a step writes when it succeeds is there afterwards, under names without NUL. -/
theorem activateStep_ok {step : ActivationStep}
    (h : activateStep disk yaml force step tree = (tree', .ok ())) :
    tree' = insertAll tree (filesWritten yaml [step]) ∧
      ∀ names, step.path = .inside names → filesWritten yaml [step] ≠ [] →
        ∀ name ∈ names, '\x00' ∉ name.toList := by
  unfold activateStep at h
  split at h
  · cases congrArg Prod.snd h
  · rename_i hpayload
    have hwritten : filesWritten yaml [step] = [] := by
      unfold filesWritten
      rw [List.filterMap_cons_none (by rw [hpayload]; split <;> simp_all), List.filterMap_nil]
    rw [hwritten]
    exact ⟨(congrArg Prod.fst h).symm, fun _ _ hne => absurd rfl hne⟩
  · rename_i payload hpayload
    obtain ⟨names, hpath, rfl⟩ | ⟨names, hpath, hnul, rfl⟩ :=
      writeText_ok (writeYamlGuarded_ok h).2
    · have hwritten : filesWritten yaml [step] = [] := by simp [filesWritten, hpath]
      rw [hwritten]
      exact ⟨rfl, fun _ _ hne => absurd rfl hne⟩
    · have hwritten : filesWritten yaml [step] = [(names, utf8 (yaml.toYaml payload))] := by
        simp [filesWritten, hpath, hpayload]
      rw [hwritten]
      refine ⟨rfl, fun names' hnames' _ => ?_⟩
      rw [hpath] at hnames'
      cases hnames'
      exact hnul

/-- The names that a step writes to are names of files, but for NUL. -/
def ActivationStep.Plain (step : ActivationStep) : Prop :=
  ∀ names, step.path = .inside names → ∀ name ∈ names, name ≠ "" ∧ '/' ∉ name.toList

theorem named_activateStep {step : ActivationStep} (hplain : step.Plain) (hnamed : tree.Named)
    (h : activateStep disk yaml force step tree = (tree', .ok ())) : tree'.Named := by
  obtain ⟨rfl, hnul⟩ := activateStep_ok h
  cases hwritten : filesWritten yaml [step] with
  | nil => exact hnamed
  | cons write writes =>
    unfold filesWritten at hwritten
    rw [List.filterMap_cons, List.filterMap_nil] at hwritten
    split at hwritten
    · cases hwritten
    · rename_i written hfirst
      cases hwritten
      split at hfirst
      · rename_i names payload hpath hpayload
        cases hfirst
        refine named_insert hnamed fun name hname => ?_
        obtain ⟨hne, hslash⟩ := hplain names hpath name hname
        refine ⟨hne, hslash, hnul names hpath ?_ name hname⟩
        simp [filesWritten, hpath, hpayload]
      · cases hfirst

/-! ## A run -/

/-- An activation that comes to its end has inserted what its steps write. -/
theorem runActivation_ok {steps : List ActivationStep}
    (h : runActivation disk yaml force steps tree = (tree', .ok ())) :
    tree' = insertAll tree (filesWritten yaml steps) := by
  refine StepRun.run_ok_induction (motive := fun before next =>
    next = insertAll tree (filesWritten yaml before)) rfl ?_ h
  intro before step next next' _ hnext hstep
  rw [filesWritten_append, insertAll_append, ← hnext]
  exact (activateStep_ok hstep).1

theorem named_runActivation {steps : List ActivationStep} (hplain : ∀ step ∈ steps, step.Plain)
    (hnamed : tree.Named) (h : runActivation disk yaml force steps tree = (tree', .ok ())) :
    tree'.Named := by
  refine StepRun.run_ok_induction (motive := fun _ next => next.Named) hnamed ?_ h
  intro before step next next' hprefix hnext hstep
  have hmem : step ∈ steps := hprefix.subset (List.mem_append_right _ List.mem_cons_self)
  exact named_activateStep (hplain step hmem) hnext hstep

theorem configPath_plain {root : Folder} {names : List String} {directory name : String}
    (hdirectory : directory ≠ "" ∧ '/' ∉ directory.toList)
    (h : configPath root directory name = .inside names) :
    ∀ part ∈ names, part ≠ "" ∧ '/' ∉ part.toList := by
  unfold configPath Folder.relative at h
  split_ifs at h
  cases h
  intro part hpart
  obtain hpart | hpart := PosixPath.mem_join (List.mem_of_mem_drop hpart)
  · obtain hpart | hpart := List.mem_append.mp hpart
    · exact ⟨(root.named part hpart).1, (root.named part hpart).2.1⟩
    · rw [List.mem_singleton.mp hpart]
      exact hdirectory
  · exact hpart

/-- A file that is written below the directory is one that `*.yml` matches. -/
theorem isYml_of_configPath {root : Folder} {names : List String} {directory name : String}
    (h : configPath root directory name = .inside names) (hne : names ≠ []) : isYml names = true := by
  obtain ⟨above, last, happend⟩ := PosixPath.join_append (root.names ++ [directory]) name
  have hjoin : PosixPath.join (root.names ++ [directory]) (name ++ ".yml") = above ++ [last ++ ".yml"] :=
    happend (by decide) (by decide)
  unfold configPath Folder.relative at h
  rw [hjoin] at h
  split_ifs at h
  cases h
  have hlength : root.names.length < (above ++ [last ++ ".yml"]).length := by
    by_contra hle
    exact hne (List.drop_eq_nil_of_le (not_lt.mp hle))
  rw [isYml, List.getLast?_drop, if_neg (not_le.mpr hlength), List.getLast?_concat, Option.any_some,
    endswith, List.isSuffixOf_iff_suffix, String.toList_append]
  exact List.suffix_append ..

/-- The file of a name lies below each folder at the same place, or at one place whatever the folder. -/
theorem configPath_below (name : String) :
    (∃ rel, ∀ root directory, configPath root directory name = .inside (directory :: rel)) ∨
      ∀ root directory directory',
        configPath root directory name = configPath root directory' name := by
  obtain ⟨rel, hrel⟩ | hout := PosixPath.join_below (name ++ ".yml")
  · refine Or.inl ⟨rel, fun root directory => ?_⟩
    rw [configPath, hrel, Folder.relative, if_pos (List.prefix_append ..), List.drop_left]
  · refine Or.inr fun root directory directory' => ?_
    rw [configPath, configPath, hout]

/-- A name without slashes makes a file directly in the folder. -/
theorem configPath_of_name {root : Folder} {directory name : String} (h : '/' ∉ name.toList) :
    configPath root directory name = .inside [directory, name ++ ".yml"] := by
  have hslash : '/' ∉ (name ++ ".yml").toList := by
    rw [String.toList_append, List.mem_append, not_or]
    exact ⟨h, by decide⟩
  have hlong : ∀ short : String, short.length ≤ 3 → name ++ ".yml" ≠ short := by
    rintro short hshort rfl
    have hyml : ".yml".length = 4 := rfl
    rw [String.length_append] at hshort
    omega
  rw [configPath, PosixPath.join_name hslash
    ⟨hlong "" (by decide), hlong "." (by decide), hlong ".." (by decide)⟩, List.append_assoc, Folder.relative,
    if_pos (List.prefix_append ..), List.drop_left]
  rfl

theorem promotionSteps_plain {root : Folder} {setAutoSelect : Bool} {promotion : PromotionDir}
    {tupleName recipeName : String} :
    ∀ step ∈ promotionSteps root setAutoSelect promotion tupleName recipeName, step.Plain := by
  intro step hstep names hpath
  obtain rfl | hstep := List.mem_cons.mp hstep
  · exact configPath_plain (by decide) hpath
  · obtain ⟨directory, hdirectory, rfl⟩ := List.mem_map.mp hstep
    refine configPath_plain ?_ hpath
    have hall : ∀ directory ∈ ["tuples", "surfaces", "workers"],
        directory ≠ "" ∧ '/' ∉ directory.toList := by decide
    exact hall directory hdirectory

theorem zero_notMem_of_mem_filesWritten {steps : List ActivationStep} {path : List String}
    {contents : List ℕ} (h : (path, contents) ∈ filesWritten yaml steps) : 0 ∉ contents := by
  obtain ⟨step, -, hstep⟩ := List.mem_filterMap.mp h
  split at hstep
  · obtain ⟨rfl, rfl⟩ := Prod.mk.inj (Option.some.inj hstep)
    exact zero_notMem_utf8 (yaml.nul_notMem_toYaml _)
  · cases hstep

theorem mem_of_lastWritten {writes : List (List String × List ℕ)} {path : List String}
    {contents : List ℕ} (h : lastWritten writes path = some contents) : (path, contents) ∈ writes := by
  obtain ⟨before, after, hsplit, -⟩ := List.lookup_eq_some_iff.mp h
  rw [← List.mem_reverse, hsplit]
  simp

/-! ## The digest after an activation -/

variable {sha256 : List ℕ → String}

/-- Whatever is written to a path that the digest covers was there before. -/
def LeavesHashed (tree : ConfigTree) (writes : List (List String × List ℕ)) : Prop :=
  ∀ path contents, lastWritten writes path = some contents → isHashed path = true →
    tree.lookup path = some { bytes := some contents }

theorem routeValidationConfigHash_insertAll {writes : List (List String × List ℕ)} {digest : String}
    (hsha : Function.Injective sha256) (hnamed : tree.Named) (htexts : tree.YamlTexts)
    (hnamed' : (insertAll tree writes).Named)
    (hwrites : ∀ path contents, (path, contents) ∈ writes → 0 ∉ contents)
    (h : routeValidationConfigHash sha256 (some tree) = some digest) :
    routeValidationConfigHash sha256 (some (insertAll tree writes)) = some digest ↔
      LeavesHashed tree writes := by
  have hlookup := lookup_insertAll tree writes
  obtain ⟨hreadable, -⟩ := routeValidationConfigHash_eq_some.mp h
  obtain ⟨digest', hdigest'⟩ : ∃ digest',
      routeValidationConfigHash sha256 (some (insertAll tree writes)) = some digest' := by
    refine ⟨_, routeValidationConfigHash_eq_some.mpr ⟨?_, rfl⟩⟩
    rintro ⟨path, entry⟩ hentry hskip
    obtain ⟨hyml, hentry⟩ := FileTree.mem_listing.mp hentry
    rw [hlookup] at hentry
    cases hwritten : lastWritten writes path with
    | some contents =>
      rw [hwritten] at hentry
      obtain rfl := Option.some.inj hentry
      rfl
    | none =>
      rw [hwritten] at hentry
      exact hreadable (path, entry) (FileTree.mem_listing.mpr ⟨hyml, hentry⟩) hskip
  have hnul : ∀ path contents contents', (path, contents) ∈ hashedFiles tree →
      (path, contents') ∈ hashedFiles (insertAll tree writes) → contents ≠ contents' →
        0 ∉ contents ∧ 0 ∉ contents' := by
    intro path contents contents' hmem hmem' _
    refine ⟨htexts path contents hmem, ?_⟩
    obtain ⟨hhashed, hmem'⟩ := mem_hashedFiles.mp hmem'
    rw [hlookup] at hmem'
    cases hwritten : lastWritten writes path with
    | some written =>
      rw [hwritten] at hmem'
      obtain rfl : written = contents' := by simpa using hmem'
      exact hwrites path written (mem_of_lastWritten hwritten)
    | none =>
      rw [hwritten] at hmem'
      exact htexts path contents' (mem_hashedFiles.mpr ⟨hhashed, hmem'⟩)
  rw [hdigest', Option.some_inj, eq_comm,
    routeValidationConfigHash_eq_iff hsha hnamed hnamed' h hdigest' hnul, hashedFiles_eq_iff]
  constructor
  · intro hsame path contents hwritten hhashed
    rw [hsame path contents hhashed, hlookup, hwritten]
    rfl
  · intro hleaves path contents hhashed
    rw [hlookup]
    cases hwritten : lastWritten writes path with
    | none => rfl
    | some written =>
      rw [hleaves path written hwritten hhashed]
      rfl

end Gpucall
