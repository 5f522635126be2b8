import Gpucall.Admin.SplitTuple
import Gpucall.Lib.OptionList

/-! The tuples of a configuration directory after one more has been activated in it: which layout the
loader takes for the directory, and what becomes of the tuples that it had. -/

namespace Gpucall

variable {pydantic : Pydantic} {py : Builtins} {env : Environment} {yaml : Yaml} {conv : Conversions}
  {tree tree' : ConfigTree} {old new tuples : Dict TupleRecord}

/-! ## What a loaded tuple is made from -/

/-- The tuples are made from the given sources, each from one of them. -/
structure MadeFrom {α : Type} (make : α → Option TupleRecord) (xs : List α)
    (tuples : Dict TupleRecord) : Prop where
  made : ∀ x ∈ xs, ∃ record, make x = some record ∧ tuples.get? record.name = some record
  source : ∀ name record, tuples.get? name = some record →
    ∃ x ∈ xs, make x = some record ∧ record.name = name
  unique : ∀ x ∈ xs, ∀ y ∈ xs, ∀ record record', make x = some record → make y = some record' →
    record.name = record'.name → x = y

/-- One tuple is added, and nothing else changes. -/
structure AddsOnly (old new : Dict TupleRecord) (name : String) : Prop where
  others : ∀ other, other ≠ name → new.get? other = old.get? other
  added : name ∈ new.keys

theorem madeFrom_of_forall₂ {α : Type} {make : α → Option TupleRecord} {xs : List α}
    {records : List TupleRecord} (h : List.Forall₂ (fun x record => make x = some record) xs records)
    (hentries : tuples.entries = records.map fun record => (record.name, record)) :
    MadeFrom make xs tuples where
  made x hx := by
    obtain ⟨record, hrecord, hmake⟩ := OptionList.exists_of_forall₂_left h hx
    refine ⟨record, hmake, Dict.get?_eq_some.mpr ?_⟩
    rw [hentries]
    exact List.mem_map.mpr ⟨record, hrecord, rfl⟩
  source name record hfound := by
    have hmem := Dict.get?_eq_some.mp hfound
    rw [hentries] at hmem
    obtain ⟨record', hrecord', heq⟩ := List.mem_map.mp hmem
    obtain ⟨rfl, rfl⟩ := Prod.mk.inj heq
    obtain ⟨x, hx, hmake⟩ := OptionList.exists_of_forall₂_right h hrecord'
    exact ⟨x, hx, hmake, rfl⟩
  unique := by
    have hnodup : (records.map TupleRecord.name).Nodup := by
      have hkeys := tuples.nodup
      rw [hentries, List.map_map] at hkeys
      exact hkeys
    clear hentries
    induction h with
    | nil => nofun
    | @cons first record₀ rest records hfirst hrest ih =>
      rw [List.map_cons, List.nodup_cons] at hnodup
      have hapart : ∀ y ∈ rest, ∀ record', make y = some record' → record₀.name ≠ record'.name := by
        intro y hy record' hmake hname
        obtain ⟨record'', hmem, hmake'⟩ := OptionList.exists_of_forall₂_left hrest hy
        obtain rfl : record' = record'' := Option.some.inj (hmake.symm.trans hmake')
        exact hnodup.1 (hname ▸ List.mem_map_of_mem hmem)
      intro x hx y hy record record' hmake hmake' hname
      obtain rfl | hx' := List.mem_cons.mp hx <;> obtain rfl | hy' := List.mem_cons.mp hy
      · rfl
      · cases hfirst.symm.trans hmake
        exact absurd hname (hapart y hy' record' hmake')
      · cases hfirst.symm.trans hmake'
        exact absurd hname.symm (hapart x hx' record hmake)
      · exact ih hnodup.2 x hx' y hy' record record' hmake hmake' hname

/-- One more source, and the others make what they made. -/
theorem MadeFrom.addsOnly {α : Type} {make make' : α → Option TupleRecord} {xs xs' : List α} {added : α}
    {name : String} (hold : MadeFrom make xs old) (hnew : MadeFrom make' xs' new)
    (hsources : ∀ x, x ∈ xs' ↔ x ∈ xs ∨ x = added) (hsame : ∀ x ∈ xs, make' x = make x)
    (hname : ∀ record, make' added = some record → record.name = name) : AddsOnly old new name := by
  constructor
  · intro other hother
    refine Option.ext fun record => ?_
    constructor
    · intro hfound
      obtain ⟨x, hx, hmake, rfl⟩ := hnew.source _ _ hfound
      obtain hx | rfl := (hsources x).mp hx
      · obtain ⟨record', hmake', hfound'⟩ := hold.made x hx
        rw [← hsame x hx, hmake] at hmake'
        cases hmake'
        exact hfound'
      · exact absurd (hname record hmake) hother
    · intro hfound
      obtain ⟨x, hx, hmake, rfl⟩ := hold.source _ _ hfound
      obtain ⟨record', hmake', hfound'⟩ := hnew.made x ((hsources x).mpr (Or.inl hx))
      rw [hsame x hx, hmake] at hmake'
      cases hmake'
      exact hfound'
  · obtain ⟨record, hmake, hfound⟩ := hnew.made added ((hsources added).mpr (Or.inr rfl))
    exact Dict.mem_keys.mpr ⟨record, hname record hmake ▸ hfound⟩

/-! ## The two layouts -/

/-- The tuples of the directory are those of its surfaces. -/
structure SplitInUse (tree : ConfigTree) : Prop where
  surfaces : hasFolder tree "surfaces" = true
  workers : hasFolder tree "workers" = true
  listed : ymlIn tree "surfaces" ≠ []

section Layouts

variable (pydantic : Pydantic) (py : Builtins) (env : Environment) (yaml : Yaml) (tree : ConfigTree)

/-- The workers of a directory -/
def workersOf : List (String × Dict Json) :=
  (ymlIn tree "workers").filterMap fun path => (loadWorker py env yaml tree path).toOption

/-- The tuple that a surface makes with its worker, if they make one. -/
def surfaceTuple (path : List String) : Option TupleRecord :=
  (loadSurface py env yaml tree (workersOf py env yaml tree) path).toOption.bind fun entry =>
    (tupleFromPayload pydantic py env entry.2).toOption

/-- The tuple in a file of `tuples`, if there is one. -/
def fileTuple (path : List String) : Option TupleRecord :=
  (loadTuple pydantic py env yaml tree path).toOption

end Layouts

theorem filterMap_of_forall₂ {ε α β : Type} {f : α → Except ε β} {xs : List α} {ys : List β}
    (h : List.Forall₂ (fun x y => f x = .ok y) xs ys) :
    xs.filterMap (fun x => (f x).toOption) = ys := by
  induction h with
  | nil => rfl
  | cons hxy _ ih =>
    rw [List.filterMap_cons, OptionList.toOption_eq_some.mpr hxy]
    exact congrArg _ ih

theorem forall₂_trans {α β γ : Type} {R : α → β → Prop} {S : β → γ → Prop} {T : α → γ → Prop}
    {xs : List α} {ys : List β} {zs : List γ} (hR : List.Forall₂ R xs ys) (hS : List.Forall₂ S ys zs)
    (h : ∀ x y z, R x y → S y z → T x z) : List.Forall₂ T xs zs := by
  induction hR generalizing zs with
  | nil =>
    cases hS
    exact .nil
  | cons hxy _ ih =>
    cases hS with
    | cons hyz hrest => exact .cons (h _ _ _ hxy hyz) (ih hrest)

theorem madeFrom_surfaces (h : loadProviders pydantic py env yaml tree = .ok tuples)
    (hsplit : SplitInUse tree) :
    MadeFrom (surfaceTuple pydantic py env yaml tree) (ymlIn tree "surfaces") tuples := by
  obtain ⟨-, payloads, hpayloads, hlayout⟩ := loadProviders_eq_ok.mp h
  obtain ⟨hmissing, -⟩ | ⟨-, workers, joined, hworkers, hjoined, -, rfl⟩ :=
    loadSplitTuplePayloads_eq_ok.mp hpayloads
  · exact absurd ⟨hsplit.surfaces, hsplit.workers⟩ hmissing
  obtain rfl : workersOf py env yaml tree = workers := filterMap_of_forall₂ hworkers
  obtain ⟨-, hload⟩ | ⟨hnil, -⟩ := hlayout
  · obtain ⟨records, hrecords, hentries⟩ := loadTuples_eq_ok.mp hload
    rw [List.forall₂_map_left_iff] at hrecords
    refine madeFrom_of_forall₂ (forall₂_trans hjoined hrecords fun path entry record hentry hrecord => ?_)
      hentries
    rw [surfaceTuple, OptionList.toOption_eq_some.mpr hentry, Option.bind_some, OptionList.toOption_eq_some]
    exact hrecord
  · rw [List.map_eq_nil_iff] at hnil
    rw [hnil, List.forall₂_nil_right_iff] at hjoined
    exact absurd hjoined hsplit.listed

theorem madeFrom_tuples (h : loadProviders pydantic py env yaml tree = .ok tuples)
    (hsplit : ¬ SplitInUse tree) :
    MadeFrom (fileTuple pydantic py env yaml tree) (ymlIn tree "tuples") tuples := by
  obtain ⟨-, payloads, hpayloads, hlayout⟩ := loadProviders_eq_ok.mp h
  obtain ⟨hne, -⟩ | ⟨-, hload⟩ := hlayout
  · obtain ⟨-, hnil⟩ | ⟨hfolders, workers, joined, -, hjoined, -, rfl⟩ :=
      loadSplitTuplePayloads_eq_ok.mp hpayloads
    · exact absurd hnil hne
    refine absurd ⟨hfolders.1, hfolders.2, fun hnil => hne ?_⟩ hsplit
    rw [hnil, List.forall₂_nil_left_iff] at hjoined
    rw [hjoined, List.map_nil]
  · obtain ⟨records, hrecords, hentries⟩ := loadTuples_eq_ok.mp hload
    exact madeFrom_of_forall₂ (hrecords.imp fun path record hrecord => OptionList.toOption_eq_some.mpr hrecord)
      hentries

/-! ## What the files decide -/

theorem loadMapping_congr {path : List String} (h : tree'.lookup path = tree.lookup path) :
    loadMapping yaml tree' path = loadMapping yaml tree path := by
  rw [loadMapping, loadYaml, h]
  rfl

theorem ymlIn_congr {directory : String}
    (h : ∀ file, tree'.lookup [directory, file] = tree.lookup [directory, file]) :
    ymlIn tree' directory = ymlIn tree directory := by
  unfold ymlIn
  rw [FileTree.listing_eq_iff.mpr]
  intro path hpath
  simp only [Bool.and_eq_true, decide_eq_true_eq] at hpath
  obtain ⟨⟨hlength, hhead⟩, -⟩ := hpath
  match path with
  | [first, file] =>
    obtain rfl : first = directory := Option.some.inj hhead
    exact h file

theorem loadWorker_congr {path : List String} (h : tree'.lookup path = tree.lookup path) :
    loadWorker py env yaml tree' path = loadWorker py env yaml tree path := by
  rw [loadWorker, loadMapping_congr h]
  rfl

theorem workersOf_congr (h : ∀ file, tree'.lookup ["workers", file] = tree.lookup ["workers", file]) :
    workersOf py env yaml tree' = workersOf py env yaml tree := by
  rw [workersOf, ymlIn_congr h]
  refine List.filterMap_congr fun path hpath => ?_
  obtain ⟨-, -, file, rfl⟩ := mem_ymlIn.mp hpath
  rw [loadWorker_congr (h file)]

theorem surfaceTuple_congr {path : List String} (h : tree'.lookup path = tree.lookup path)
    (hworkers : workersOf py env yaml tree' = workersOf py env yaml tree) :
    surfaceTuple pydantic py env yaml tree' path = surfaceTuple pydantic py env yaml tree path := by
  rw [surfaceTuple, hworkers, loadSurface, loadMapping_congr h]
  rfl

theorem fileTuple_congr {path : List String} (h : tree'.lookup path = tree.lookup path) :
    fileTuple pydantic py env yaml tree' path = fileTuple pydantic py env yaml tree path := by
  rw [fileTuple, loadTuple, loadMapping_congr h]
  rfl

/-- A tuple has the name that its surface refers to it by. -/
theorem surfaceTuple_eq_some {path : List String} {record : TupleRecord}
    (h : surfaceTuple pydantic py env yaml tree path = some record) :
    ∃ surface, loadMapping yaml tree path = .ok surface ∧
      requiredRef py env surface "surface_ref" = .ok record.name := by
  obtain ⟨entry, hentry, hrecord⟩ := Option.bind_eq_some_iff.mp h
  obtain ⟨surface, ref, worker, hload, href, -, -, hpayload⟩ :=
    loadSurface_eq_ok (OptionList.toOption_eq_some.mp hentry)
  rw [OptionList.toOption_eq_some, tupleFromPayload] at hrecord
  refine ⟨surface, hload, ?_⟩
  split at hrecord
  · rename_i record' hvalid
    cases hrecord
    have hget : (withExecutionSurface py env entry.2).get? "name" = some (.str ref) := by
      rw [get?_withExecutionSurface (by decide), hpayload, get?_joinedPayload]
      rfl
    have hname : List.lookup "name" record = some (.plain (.text ref)) := by
      rw [← fieldValue_name _ hget]
      exact lookup_modelValidate hvalid nameField_mem
    rw [href, TupleRecord.name, hname]
  · cases hrecord

theorem mem_ymlIn_of_lookup_eq {directory : String} {path : List String}
    (h : tree'.lookup path = tree.lookup path) (hpath : path ∈ ymlIn tree' directory) :
    path ∈ ymlIn tree directory := by
  rw [mem_ymlIn, h] at hpath
  exact mem_ymlIn.mpr hpath

theorem requiredRef_surface {tuple : Dict Json} {ref : String}
    (h : requiredRef py env (surfacePayload py env tuple) "surface_ref" = .ok ref) :
    env.strip (tupleName py tuple) = ref := by
  rw [requiredRef_text (get?_surfacePayload ..)] at h
  split_ifs at h
  exact Except.ok.inj h

/-- Two surfaces with one text make tuples of one name. -/
theorem name_eq_of_lookup_eq {path : List String} {record record' : TupleRecord}
    (h : tree'.lookup path = tree.lookup path)
    (hmake : surfaceTuple pydantic py env yaml tree' path = some record)
    (hmake' : surfaceTuple pydantic py env yaml tree path = some record') :
    record.name = record'.name := by
  obtain ⟨surface, hload, href⟩ := surfaceTuple_eq_some hmake
  obtain ⟨surface', hload', href'⟩ := surfaceTuple_eq_some hmake'
  rw [loadMapping_congr h, hload'] at hload
  cases hload
  exact Except.ok.inj (href.symm.trans href')

section Unchanged

variable (hold : loadProviders pydantic py env yaml tree = .ok old)
  {path : List String} {record : TupleRecord} (hsame : tree'.lookup path = tree.lookup path)

include hold hsame

/-- A surface that was there made a tuple of the same name. -/
theorem mem_keys_of_surface (hlayout : hasFolder tree "surfaces" = hasFolder tree "workers")
    (hpath : path ∈ ymlIn tree' "surfaces")
    (hmake : surfaceTuple pydantic py env yaml tree' path = some record) : record.name ∈ old.keys := by
  have hlisted := mem_ymlIn_of_lookup_eq hsame hpath
  obtain ⟨⟨entry, hentry⟩, -, file, rfl⟩ := mem_ymlIn.mp hlisted
  have hfolder : hasFolder tree "surfaces" = true := hasFolder_iff.mpr ⟨_, entry, hentry, rfl⟩
  have hsplit : SplitInUse tree := ⟨hfolder, hlayout ▸ hfolder, List.ne_nil_of_mem hlisted⟩
  obtain ⟨record', hmake', hfound⟩ := (madeFrom_surfaces hold hsplit).made _ hlisted
  rw [name_eq_of_lookup_eq hsame hmake hmake']
  exact Dict.mem_keys.mpr ⟨record', hfound⟩

/-- A file that was there made the same tuple. -/
theorem mem_keys_of_file (hsplit : ¬ SplitInUse tree) (hpath : path ∈ ymlIn tree' "tuples")
    (hmake : fileTuple pydantic py env yaml tree' path = some record) : record.name ∈ old.keys := by
  obtain ⟨record', hmake', hfound⟩ :=
    (madeFrom_tuples hold hsplit).made path (mem_ymlIn_of_lookup_eq hsame hpath)
  rw [fileTuple_congr hsame, hmake'] at hmake
  cases hmake
  exact Dict.mem_keys.mpr ⟨record, hfound⟩

end Unchanged

/-! ## What an activation leaves -/

/-- A file with the YAML text of a payload -/
def yamlFile (yaml : Yaml) (payload : Dict Json) : ConfigEntry where
  bytes := some (utf8 (yaml.toYaml payload))

variable {root : Folder} {world : PromotionWorld} {call : PromotionCall} {promotion : Promotion}
  {promoted : ConfigTree}

/-- What the last of the steps to a file writes is in it. -/
theorem lastWritten_filesWritten {steps : List ActivationStep} {names : List String}
    {payload : Dict Json}
    (h : steps.reverse.find? (fun step => step.path == .inside names) =
      some ⟨.inside names, .ok (some payload)⟩) :
    lastWritten (filesWritten yaml steps) names = some (utf8 (yaml.toYaml payload)) := by
  unfold lastWritten filesWritten
  rw [← List.filterMap_reverse]
  generalize steps.reverse = reversed at h
  induction reversed with
  | nil => cases h
  | cons step rest ih =>
    rw [List.find?_cons] at h
    split at h
    · cases h
      simp
    · rename_i hother
      rw [List.filterMap_cons]
      split
      · exact ih h
      · rename_i write hwrite
        split at hwrite
        · rename_i written payload' hpath _
          cases hwrite
          have hne : names ≠ written := by
            rintro rfl
            rw [hpath, beq_self_eq_true] at hother
            cases hother
          rw [List.lookup_cons, beq_eq_false_iff_ne.mpr hne]
          exact ih h
        · cases hwrite

/-- A file of a promotion is read back as what was last written to it. -/
theorem loadYamlFile_of_last {path : ConfigPath} {payload : Dict Json} {files : ConfigTree}
    (hpromoted : promoted = insertAll files (filesWritten yaml (promotedSteps py env root promotion)))
    (hlast : (promotedSteps py env root promotion).reverse.find? (fun step => step.path == path) =
      some ⟨path, .ok (some payload)⟩)
    (hyaml : yaml.RoundTrips payload) :
    loadYamlFile py env yaml root promoted promotion path = .ok payload := by
  have htext : promotedText py env yaml root promoted promotion path = some (yaml.toYaml payload) := by
    cases path with
    | outside names => simp only [promotedText, hlast]
    | inside names =>
      rw [promotedText, hpromoted, lookup_insertAll, lastWritten_filesWritten hlast]
      exact hyaml.1
  simp only [loadYamlFile, htext, hyaml.2, mappingIn]

/-- The files of a promotion are read back as the two payloads; where both have one path, the worker has
taken the place of the surface. -/
theorem activationSteps_eq {files : ConfigTree}
    (hpromoted : promoted = insertAll files
      (filesWritten yaml (promotedSteps py env world.promotionDisk.root promotion)))
    (hsurface : yaml.RoundTrips (surfacePayload py env promotion.tuple))
    (hworker : yaml.RoundTrips (workerPayload py env promotion.tuple)) :
    activationSteps py env yaml world promoted promotion =
      contractSteps py world.disk.root promotion ++
        [fileStep world.disk.root "surfaces" (tupleName py promotion.tuple)
          (if configPath world.promotionDisk.root "workers" (tupleName py promotion.tuple) =
              configPath world.promotionDisk.root "surfaces" (tupleName py promotion.tuple)
            then workerPayload py env promotion.tuple else surfacePayload py env promotion.tuple),
        fileStep world.disk.root "workers" (tupleName py promotion.tuple)
          (workerPayload py env promotion.tuple)] := by
  have hreverse : (promotedSteps py env world.promotionDisk.root promotion).reverse =
      fileStep world.promotionDisk.root "workers" (tupleName py promotion.tuple)
          (workerPayload py env promotion.tuple) ::
        fileStep world.promotionDisk.root "surfaces" (tupleName py promotion.tuple)
          (surfacePayload py env promotion.tuple) ::
        (contractSteps py world.promotionDisk.root promotion).reverse := rfl
  have hread : readBackStep py env yaml world promoted promotion "workers" =
      fileStep world.disk.root "workers" (tupleName py promotion.tuple)
        (workerPayload py env promotion.tuple) := by
    rw [readBackStep, loadYamlFile_of_last hpromoted ?_ hworker]
    · rfl
    · rw [hreverse]
      exact List.find?_cons_of_pos (beq_self_eq_true _)
  have hread' : readBackStep py env yaml world promoted promotion "surfaces" =
      fileStep world.disk.root "surfaces" (tupleName py promotion.tuple)
        (if configPath world.promotionDisk.root "workers" (tupleName py promotion.tuple) =
            configPath world.promotionDisk.root "surfaces" (tupleName py promotion.tuple)
          then workerPayload py env promotion.tuple else surfacePayload py env promotion.tuple) := by
    rw [readBackStep]
    split_ifs with hsame
    · rw [loadYamlFile_of_last hpromoted ?_ hworker]
      · rfl
      · rw [hreverse, ← hsame]
        exact List.find?_cons_of_pos (beq_self_eq_true _)
    · rw [loadYamlFile_of_last hpromoted ?_ hsurface]
      · rfl
      · rw [hreverse, List.find?_cons_of_neg (by simpa [fileStep] using hsame)]
        exact List.find?_cons_of_pos (beq_self_eq_true _)
  rw [activationSteps, List.map_cons, List.map_singleton, hread, hread']

/-- A name as `_canonical_name` makes them for recipes -/
def IsCanonicalName (name : String) : Prop :=
  ∀ c ∈ name.toList, 'a' ≤ c ∧ c ≤ 'z' ∨ '0' ≤ c ∧ c ≤ '9' ∨ c = '-'

/-- The last of the steps takes the place of what the others have written to its file. -/
theorem lookup_insertAll_concat {steps : List ActivationStep} {directory name : String}
    {payload : Dict Json} {path : List String} :
    (insertAll tree (filesWritten yaml (steps ++ [fileStep root directory name payload]))).lookup path =
      if configPath root directory name = .inside path then some (yamlFile yaml payload)
      else (insertAll tree (filesWritten yaml steps)).lookup path := by
  rw [filesWritten_append, insertAll_append]
  cases hpath : configPath root directory name with
  | inside names =>
    rw [filesWritten_fileStep hpath, insertAll, List.foldl_cons, List.foldl_nil]
    split_ifs with hsame
    · cases hsame
      exact Finmap.lookup_insert _
    · exact Finmap.lookup_insert_of_ne _ fun hpath => hsame (congrArg _ hpath.symm)
  | outside names =>
    have hnothing : filesWritten yaml [fileStep root directory name payload] = [] := by
      simp [filesWritten, fileStep, hpath]
    rw [hnothing]
    exact (if_neg (by rintro ⟨⟩)).symm

/-- What is at a path of the tuples, the surfaces or the workers after an activation: the name of the
tuple leads below each of the three folders, or to one file, which in the end is that of the worker. -/
theorem lookup_activated {files : ConfigTree}
    (hpromoted : promoted = insertAll files
      (filesWritten yaml (promotedSteps py env world.promotionDisk.root promotion)))
    (hsurface : yaml.RoundTrips (surfacePayload py env promotion.tuple))
    (hworker : yaml.RoundTrips (workerPayload py env promotion.tuple))
    (hrecipe : IsCanonicalName promotion.recipeName)
    (h : runActivation world.disk yaml call.force (activationSteps py env yaml world promoted promotion)
      tree = (tree', .ok ())) :
    (∃ rel, (∀ root directory,
        configPath root directory (tupleName py promotion.tuple) = .inside (directory :: rel)) ∧
      ∀ path, path.head? ≠ some "recipes" → tree'.lookup path =
        if path = "workers" :: rel then some (yamlFile yaml (workerPayload py env promotion.tuple))
        else if path = "surfaces" :: rel then
          some (yamlFile yaml (surfacePayload py env promotion.tuple))
        else if path = "tuples" :: rel then some (yamlFile yaml promotion.tuple)
        else tree.lookup path) ∨
    ∃ target, (∀ directory,
        configPath world.disk.root directory (tupleName py promotion.tuple) = target) ∧
      ∀ path, path.head? ≠ some "recipes" → tree'.lookup path =
        if .inside path = target then some (yamlFile yaml (workerPayload py env promotion.tuple))
        else tree.lookup path := by
  have hslash : '/' ∉ promotion.recipeName.toList := fun hmem => absurd (hrecipe _ hmem) (by decide)
  have hsteps : activationSteps py env yaml world promoted promotion = [] ++
      [fileStep world.disk.root "recipes" promotion.recipeName promotion.recipe] ++
      [fileStep world.disk.root "tuples" (tupleName py promotion.tuple) promotion.tuple] ++
      [fileStep world.disk.root "surfaces" (tupleName py promotion.tuple) _] ++
      [fileStep world.disk.root "workers" (tupleName py promotion.tuple)
        (workerPayload py env promotion.tuple)] := activationSteps_eq hpromoted hsurface hworker
  have hlookup (path : List String) (hhead : path.head? ≠ some "recipes") :
      tree'.lookup path =
        if configPath world.disk.root "workers" (tupleName py promotion.tuple) = .inside path then
          some (yamlFile yaml (workerPayload py env promotion.tuple))
        else if configPath world.disk.root "surfaces" (tupleName py promotion.tuple) = .inside path then
          some (yamlFile yaml
            (if configPath world.promotionDisk.root "workers" (tupleName py promotion.tuple) =
                configPath world.promotionDisk.root "surfaces" (tupleName py promotion.tuple)
              then workerPayload py env promotion.tuple else surfacePayload py env promotion.tuple))
        else if configPath world.disk.root "tuples" (tupleName py promotion.tuple) = .inside path then
          some (yamlFile yaml promotion.tuple)
        else tree.lookup path := by
    have hrecipes : configPath world.disk.root "recipes" promotion.recipeName ≠ .inside path := by
      rw [configPath_of_name hslash]
      rintro ⟨⟩
      exact hhead rfl
    rw [runActivation_ok h, hsteps, lookup_insertAll_concat, lookup_insertAll_concat,
      lookup_insertAll_concat, lookup_insertAll_concat, if_neg hrecipes]
    rfl
  obtain ⟨rel, hrel⟩ | hout := configPath_below (tupleName py promotion.tuple)
  · refine Or.inl ⟨rel, hrel, fun path hhead => ?_⟩
    rw [hlookup path hhead]
    simp only [hrel, ConfigPath.inside.injEq, List.cons.injEq, String.reduceEq, false_and, if_false,
      eq_comm (b := path)]
  · refine Or.inr ⟨configPath world.disk.root "workers" (tupleName py promotion.tuple),
      fun directory => hout _ _ _, fun path hhead => ?_⟩
    rw [hlookup path hhead, if_pos (hout ..), hout world.disk.root "surfaces" "workers",
      hout world.disk.root "tuples" "workers"]
    simp only [eq_comm (b := ConfigPath.inside path)]
    split_ifs <;> rfl

/-- A promotion that gets as far as its activation has written its files. -/
theorem files_of_validated
    (h : promotionStage pydantic py env yaml conv world call tree = .ok (.validated promoted promotion)) :
    ∃ files, promoted = insertAll files
      (filesWritten yaml (promotedSteps py env world.promotionDisk.root promotion)) := by
  have hwritten (selected : Promotion) (written : ConfigTree)
      (hwrite : writePromotion py env yaml world call selected tree = .ok written) :
      written = insertAll (copiedTree tree)
        (filesWritten yaml (promotedSteps py env world.promotionDisk.root selected)) := by
    unfold writePromotion at hwrite
    split at hwrite
    · cases hwrite
    · split at hwrite
      · cases hwrite
      · rename_i hrun
        cases hwrite
        exact runActivation_ok hrun
  unfold promotionStage at h
  obtain ⟨selected, -, h⟩ := Fallible.bind_eq_ok.mp h
  obtain ⟨written, hwrite, h⟩ := Fallible.bind_eq_ok.mp h
  refine ⟨copiedTree tree, ?_⟩
  have hfiles := hwritten selected written hwrite
  -- the stage is `validated` on two branches, and on both with the files that were written
  simp only [bind, Except.bind] at h
  repeat' split at h
  all_goals cases h
  · exact hfiles
  · exact hfiles

theorem run_of_activated
    (hstage : promotionStage pydantic py env yaml conv world call tree =
      .ok (.validated promoted promotion))
    (h : promoteProductionTuple pydantic py env yaml conv world call tree = (tree', .ok "ACTIVATED")) :
    runActivation world.disk yaml call.force (activationSteps py env yaml world promoted promotion) tree =
      (tree', .ok ()) ∧ ∃ new, loadProviders pydantic py env yaml tree' = .ok new := by
  unfold promoteProductionTuple at h
  rw [hstage] at h
  dsimp only at h
  split_ifs at h
  · have hdecision := Except.ok.inj (congrArg Prod.snd h)
    simp at hdecision
  · split at h
    · cases congrArg Prod.snd h
    · rename_i hrun
      split at h
      · cases congrArg Prod.snd h
      · rename_i hload
        obtain rfl := congrArg Prod.fst h
        refine ⟨hrun, ?_⟩
        unfold loadConfig at hload
        split at hload
        · cases hload
        · rename_i tuples htuples
          exact ⟨tuples, htuples⟩

/-- The surface and the worker of a tuple are in their folders, under one name, and nothing else in these
has changed. -/
structure Landed (py : Builtins) (env : Environment) (yaml : Yaml) (tuple : Dict Json) (file : String)
    (tree tree' : ConfigTree) : Prop where
  isYml : isYml ["surfaces", file] = true
  surfaces : ∀ other, tree'.lookup ["surfaces", other] =
    if other = file then some (yamlFile yaml (surfacePayload py env tuple))
    else tree.lookup ["surfaces", other]
  workers : ∀ other, tree'.lookup ["workers", other] =
    if other = file then some (yamlFile yaml (workerPayload py env tuple))
    else tree.lookup ["workers", other]

section Activated

variable (hpromoted : ∃ files, promoted = insertAll files
    (filesWritten yaml (promotedSteps py env world.promotionDisk.root promotion)))
  (hsurface : yaml.RoundTrips (surfacePayload py env promotion.tuple))
  (hworker : yaml.RoundTrips (workerPayload py env promotion.tuple))
  (hrecipe : IsCanonicalName promotion.recipeName)
  (hrun : runActivation world.disk yaml call.force (activationSteps py env yaml world promoted promotion)
    tree = (tree', .ok ()))
  (hold : loadProviders pydantic py env yaml tree = .ok old)
  (hnew : loadProviders pydantic py env yaml tree' = .ok new)
  (hfresh : tupleName py promotion.tuple ∉ old.keys)

include hpromoted hsurface hworker hrecipe hrun

/-- Nothing is removed. -/
theorem exists_lookup_activated {path : List String} (hhead : path.head? ≠ some "recipes")
    (hpath : ∃ entry, tree.lookup path = some entry) : ∃ entry, tree'.lookup path = some entry := by
  obtain ⟨files, hpromoted⟩ := hpromoted
  obtain ⟨rel, -, hlookup⟩ | ⟨target, -, hlookup⟩ :=
    lookup_activated hpromoted hsurface hworker hrecipe hrun
  · rw [hlookup path hhead]
    split_ifs
    · exact ⟨_, rfl⟩
    · exact ⟨_, rfl⟩
    · exact ⟨_, rfl⟩
    · exact hpath
  · rw [hlookup path hhead]
    split_ifs
    · exact ⟨_, rfl⟩
    · exact hpath

theorem mem_ymlIn_activated {directory : String} (hdirectory : directory ≠ "recipes")
    {path : List String} (hpath : path ∈ ymlIn tree directory) : path ∈ ymlIn tree' directory := by
  obtain ⟨hentry, hyml, file, rfl⟩ := mem_ymlIn.mp hpath
  refine mem_ymlIn.mpr ⟨?_, hyml, file, rfl⟩
  refine exists_lookup_activated hpromoted hsurface hworker hrecipe hrun ?_ hentry
  exact fun hhead => hdirectory (Option.some.inj hhead)

theorem splitInUse_activated (hsplit : SplitInUse tree) : SplitInUse tree' where
  surfaces := by
    obtain ⟨path, entry, hentry, hhead⟩ := hasFolder_iff.mp hsplit.surfaces
    obtain ⟨entry', hentry'⟩ := exists_lookup_activated hpromoted hsurface hworker hrecipe hrun
      (by rw [hhead]; decide) ⟨entry, hentry⟩
    exact hasFolder_iff.mpr ⟨path, entry', hentry', hhead⟩
  workers := by
    obtain ⟨path, entry, hentry, hhead⟩ := hasFolder_iff.mp hsplit.workers
    obtain ⟨entry', hentry'⟩ := exists_lookup_activated hpromoted hsurface hworker hrecipe hrun
      (by rw [hhead]; decide) ⟨entry, hentry⟩
    exact hasFolder_iff.mpr ⟨path, entry', hentry', hhead⟩
  listed := by
    obtain ⟨path, hpath⟩ := List.exists_mem_of_ne_nil _ hsplit.listed
    exact List.ne_nil_of_mem
      (mem_ymlIn_activated hpromoted hsurface hworker hrecipe hrun (by decide) hpath)

include hold hnew hfresh

/-- A surface that makes the new tuple is the one that was written. -/
theorem lands_of_mem_keys (hstrip : env.strip "" = "")
    (hlayout : hasFolder tree "surfaces" = hasFolder tree "workers") (hsplit : SplitInUse tree')
    (hmem : tupleName py promotion.tuple ∈ new.keys) :
    env.strip (tupleName py promotion.tuple) = tupleName py promotion.tuple ∧
      ∃ file, ∀ root directory,
        configPath root directory (tupleName py promotion.tuple) = .inside [directory, file] := by
  obtain ⟨record, hrecord⟩ := Dict.mem_keys.mp hmem
  obtain ⟨path, hpath, hmake, hname⟩ := (madeFrom_surfaces hnew hsplit).source _ _ hrecord
  have hchanged : tree'.lookup path ≠ tree.lookup path := fun hsame =>
    hfresh (hname ▸ mem_keys_of_surface hold hsame hlayout hpath hmake)
  obtain ⟨surface, hload, href⟩ := surfaceTuple_eq_some hmake
  obtain ⟨-, -, file, rfl⟩ := mem_ymlIn.mp hpath
  obtain ⟨files, hfiles⟩ := hpromoted
  obtain ⟨rel, hrel, hlookup⟩ | ⟨target, -, hlookup⟩ :=
    lookup_activated hfiles hsurface hworker hrecipe hrun
  · have hentry := hlookup ["surfaces", file] (by simp)
    rw [if_neg (by simp), if_neg (c := ["surfaces", file] = "tuples" :: rel) (by simp)] at hentry
    split_ifs at hentry with hfile
    · obtain rfl : [file] = rel := (List.cons.inj hfile).2
      cases (loadMapping_of_roundTrips hentry hsurface).symm.trans hload
      exact ⟨hname ▸ requiredRef_surface href, file, hrel⟩
    · exact absurd hentry hchanged
  · have hentry := hlookup ["surfaces", file] (by simp)
    split_ifs at hentry
    · -- the worker is no surface
      cases (loadMapping_of_roundTrips hentry hworker).symm.trans hload
      rw [requiredRef_none (get?_workerPayload ..) hstrip] at href
      cases href
    · exact absurd hentry hchanged

/-- The file of the new tuple itself is not loaded: where it is in its folder, there is a surface. -/
theorem splitInUse_of_mem_keys (hmem : tupleName py promotion.tuple ∈ new.keys) : SplitInUse tree' := by
  by_contra hsplit
  have hsplit' : ¬ SplitInUse tree := fun h =>
    hsplit (splitInUse_activated hpromoted hsurface hworker hrecipe hrun h)
  obtain ⟨record, hrecord⟩ := Dict.mem_keys.mp hmem
  obtain ⟨path, hpath, hmake, hname⟩ := (madeFrom_tuples hnew hsplit).source _ _ hrecord
  have hchanged : tree'.lookup path ≠ tree.lookup path := fun hsame =>
    hfresh (hname ▸ mem_keys_of_file hold hsame hsplit' hpath hmake)
  obtain ⟨-, -, file, rfl⟩ := mem_ymlIn.mp hpath
  obtain ⟨files, hfiles⟩ := hpromoted
  obtain ⟨rel, hrel, hlookup⟩ | ⟨target, -, hlookup⟩ :=
    lookup_activated hfiles hsurface hworker hrecipe hrun
  · have hentry := hlookup ["tuples", file] (by simp)
    rw [if_neg (by simp), if_neg (by simp)] at hentry
    split_ifs at hentry with hfile
    · obtain rfl : [file] = rel := (List.cons.inj hfile).2
      have hsurfaceFile : tree'.lookup ["surfaces", file] =
          some (yamlFile yaml (surfacePayload py env promotion.tuple)) := by
        rw [hlookup _ (by simp), if_neg (by simp), if_pos rfl]
      have hworkerFile : tree'.lookup ["workers", file] =
          some (yamlFile yaml (workerPayload py env promotion.tuple)) := by
        rw [hlookup _ (by simp), if_pos rfl]
      have hyml := isYml_of_configPath (hrel world.disk.root "surfaces") (List.cons_ne_nil _ _)
      have hlisted := mem_ymlIn.mpr ⟨⟨_, hsurfaceFile⟩, hyml, file, rfl⟩
      exact hsplit ⟨hasFolder_iff.mpr ⟨_, _, hsurfaceFile, rfl⟩,
        hasFolder_iff.mpr ⟨_, _, hworkerFile, rfl⟩, List.ne_nil_of_mem hlisted⟩
    · exact hchanged hentry
  · have hentry := hlookup ["tuples", file] (by simp)
    split_ifs at hentry
    · -- nor is the worker a tuple
      rw [fileTuple, loadTuple, loadMapping_of_roundTrips hentry hworker] at hmake
      dsimp only at hmake
      rw [tupleFromPayload_of_workerRef (get?_workerPayload ..)] at hmake
      cases hmake
    · exact hchanged hentry

omit hold hfresh hnew

/-- Where the name makes a file directly in each folder, the surface and the worker are in theirs. -/
theorem landed_of_run {file : String}
    (hlands : configPath world.disk.root "surfaces" (tupleName py promotion.tuple) =
      .inside ["surfaces", file])
    (hlands' : configPath world.disk.root "workers" (tupleName py promotion.tuple) =
      .inside ["workers", file]) : Landed py env yaml promotion.tuple file tree tree' := by
  obtain ⟨files, hfiles⟩ := hpromoted
  obtain ⟨rel, hrel, hlookup⟩ | ⟨target, htarget, -⟩ :=
    lookup_activated hfiles hsurface hworker hrecipe hrun
  · obtain rfl : rel = [file] := by
      rw [hrel] at hlands
      exact (List.cons.inj (ConfigPath.inside.inj hlands)).2
    refine ⟨isYml_of_configPath hlands (List.cons_ne_nil _ _), fun other => ?_, fun other => ?_⟩
    · rw [hlookup _ (by simp)]
      simp
    · rw [hlookup _ (by simp)]
      simp
  · rw [htarget] at hlands hlands'
    have hsame := hlands.symm.trans hlands'
    simp at hsame

end Activated

/-! ## One more surface -/

/-- The tuple comes to be one more surface of the directory: its name makes a new file directly in the
folder of the surfaces, and no surface gets another worker by it. -/
structure BecomesSurface (pydantic : Pydantic) (py : Builtins) (env : Environment) (yaml : Yaml)
    (root : Folder) (tuple : Dict Json) (tree : ConfigTree) (file : String) : Prop where
  surface : configPath root "surfaces" (tupleName py tuple) = .inside ["surfaces", file]
  worker : configPath root "workers" (tupleName py tuple) = .inside ["workers", file]
  stripped : env.strip (tupleName py tuple) = tupleName py tuple
  split : SplitInUse tree
  fresh : tree.lookup ["surfaces", file] = none
  others : ∀ path ∈ ymlIn tree "surfaces",
    surfaceTuple pydantic py env yaml
        (tree.insert ["workers", file] (yamlFile yaml (workerPayload py env tuple))) path =
      surfaceTuple pydantic py env yaml tree path

section Landed

variable {tuple : Dict Json} {file : String} (h : Landed py env yaml tuple file tree tree')

include h

theorem Landed.mem_surfaces {path : List String} :
    path ∈ ymlIn tree' "surfaces" ↔ path ∈ ymlIn tree "surfaces" ∨ path = ["surfaces", file] := by
  constructor
  · intro hpath
    obtain ⟨-, -, other, rfl⟩ := mem_ymlIn.mp hpath
    by_cases hother : other = file
    · exact Or.inr (by rw [hother])
    · exact Or.inl (mem_ymlIn_of_lookup_eq ((h.surfaces other).trans (if_neg hother)) hpath)
  · rintro (hpath | rfl)
    · obtain ⟨hentry, hyml, other, rfl⟩ := mem_ymlIn.mp hpath
      refine mem_ymlIn.mpr ⟨?_, hyml, other, rfl⟩
      rw [h.surfaces]
      split_ifs
      · exact ⟨_, rfl⟩
      · exact hentry
    · exact mem_ymlIn.mpr ⟨⟨_, (h.surfaces file).trans (if_pos rfl)⟩, h.isYml, file, rfl⟩

theorem Landed.lookup_eq {path : List String} (hpath : path ∈ ymlIn tree' "surfaces")
    (hother : path ≠ ["surfaces", file]) : tree'.lookup path = tree.lookup path := by
  obtain ⟨-, -, other, rfl⟩ := mem_ymlIn.mp hpath
  exact (h.surfaces other).trans (if_neg fun heq => hother (by rw [heq]))

/-- The new surface makes the tuple of the name, but for blanks around it. -/
theorem Landed.name_eq (hsurface : yaml.RoundTrips (surfacePayload py env tuple)) {record : TupleRecord}
    (hmake : surfaceTuple pydantic py env yaml tree' ["surfaces", file] = some record) :
    record.name = env.strip (tupleName py tuple) := by
  obtain ⟨surface, hload, href⟩ := surfaceTuple_eq_some hmake
  have hentry := (h.surfaces file).trans (if_pos rfl)
  cases (loadMapping_of_roundTrips hentry hsurface).symm.trans hload
  exact (requiredRef_surface href).symm

/-- The other surfaces have the workers that are there with the new one. -/
theorem Landed.surfaceTuple_eq {path : List String} (hpath : path ∈ ymlIn tree' "surfaces")
    (hother : path ≠ ["surfaces", file]) :
    surfaceTuple pydantic py env yaml tree' path = surfaceTuple pydantic py env yaml
      (tree.insert ["workers", file] (yamlFile yaml (workerPayload py env tuple))) path := by
  refine surfaceTuple_congr ?_ (workersOf_congr fun other => ?_)
  · rw [h.lookup_eq hpath hother, Finmap.lookup_insert_of_ne]
    obtain ⟨-, -, other, rfl⟩ := mem_ymlIn.mp hpath
    simp
  · rw [h.workers]
    split_ifs with hsame
    · rw [hsame, Finmap.lookup_insert]
    · rw [Finmap.lookup_insert_of_ne _ (by simpa using hsame)]

variable (hnew : loadProviders pydantic py env yaml tree' = .ok new) (hsplit : SplitInUse tree')
  (hsurface : yaml.RoundTrips (surfacePayload py env tuple))
  (hstripped : env.strip (tupleName py tuple) = tupleName py tuple)

include hnew hsplit hsurface hstripped

/-- Where the tuples are those of the surfaces and no surface has another worker, only one tuple is
added. -/
theorem Landed.addsOnly (hold : loadProviders pydantic py env yaml tree = .ok old)
    (hinUse : SplitInUse tree) (hfresh : tree.lookup ["surfaces", file] = none)
    (hothers : ∀ path ∈ ymlIn tree "surfaces", surfaceTuple pydantic py env yaml
        (tree.insert ["workers", file] (yamlFile yaml (workerPayload py env tuple))) path =
      surfaceTuple pydantic py env yaml tree path) : AddsOnly old new (tupleName py tuple) := by
  refine (madeFrom_surfaces hold hinUse).addsOnly (madeFrom_surfaces hnew hsplit)
    (fun _ => h.mem_surfaces) (fun path hpath => ?_) fun record hmake => ?_
  · have hother : path ≠ ["surfaces", file] := by
      rintro rfl
      obtain ⟨⟨entry, hentry⟩, -⟩ := mem_ymlIn.mp hpath
      cases hfresh.symm.trans hentry
    rw [h.surfaceTuple_eq (h.mem_surfaces.mpr (Or.inl hpath)) hother, hothers path hpath]
  · rw [h.name_eq hsurface hmake, hstripped]

variable (hadds : AddsOnly old new (tupleName py tuple)) (hname : tupleName py tuple ∉ old.keys)

include hadds hname

/-- A tuple that was there comes from a surface that was there. -/
theorem Landed.source_of_old {name : String} {record : TupleRecord}
    (hrecord : old.get? name = some record) : ∃ path ∈ ymlIn tree "surfaces",
      path ≠ ["surfaces", file] ∧ tree'.lookup path = tree.lookup path ∧
      surfaceTuple pydantic py env yaml tree' path = some record ∧ record.name = name := by
  have hne : name ≠ tupleName py tuple := by
    rintro rfl
    exact hname (Dict.mem_keys.mpr ⟨record, hrecord⟩)
  obtain ⟨path, hpath, hmake, hrecordName⟩ :=
    (madeFrom_surfaces hnew hsplit).source _ _ ((hadds.others name hne).trans hrecord)
  have hother : path ≠ ["surfaces", file] := by
    rintro rfl
    exact hne (hrecordName.symm.trans ((h.name_eq hsurface hmake).trans hstripped))
  have hsame := h.lookup_eq hpath hother
  exact ⟨path, mem_ymlIn_of_lookup_eq hsame hpath, hother, hsame, hmake, hrecordName⟩

variable (hold : loadProviders pydantic py env yaml tree = .ok old)

include hold

/-- Where only one tuple is added, the tuples were those of the surfaces. -/
theorem Landed.splitInUse (hlayout : hasFolder tree "surfaces" = hasFolder tree "workers") :
    SplitInUse tree := by
  obtain ⟨⟨name, record⟩, hentry⟩ := List.exists_mem_of_ne_nil _ (loadProviders_eq_ok.mp hold).1
  obtain ⟨path, hpath, -⟩ := h.source_of_old hnew hsplit hsurface hstripped hadds hname
    (Dict.get?_eq_some.mpr hentry)
  obtain ⟨⟨entry, hlookup⟩, -, other, rfl⟩ := mem_ymlIn.mp hpath
  have hfolder : hasFolder tree "surfaces" = true := hasFolder_iff.mpr ⟨_, entry, hlookup, rfl⟩
  exact ⟨hfolder, hlayout ▸ hfolder, List.ne_nil_of_mem hpath⟩

/-- Each surface that was there is the source of its tuple afterwards. -/
theorem Landed.made_of_old (hinUse : SplitInUse tree) {path : List String}
    (hpath : path ∈ ymlIn tree "surfaces") : path ≠ ["surfaces", file] ∧
      surfaceTuple pydantic py env yaml tree' path = surfaceTuple pydantic py env yaml tree path := by
  have hmade := madeFrom_surfaces hold hinUse
  obtain ⟨record, hmake, hrecord⟩ := hmade.made path hpath
  obtain ⟨path', hpath', hother, hsame, hmake', -⟩ :=
    h.source_of_old hnew hsplit hsurface hstripped hadds hname hrecord
  obtain ⟨record', hmake'', -⟩ := hmade.made path' hpath'
  obtain rfl : path' = path := hmade.unique path' hpath' path hpath record' record hmake'' hmake
    (name_eq_of_lookup_eq hsame hmake' hmake'').symm
  exact ⟨hother, hmake'.trans hmake.symm⟩

end Landed

section Promotion

variable (hstrip : env.strip "" = "") (hlayout : hasFolder tree "surfaces" = hasFolder tree "workers")
  (hold : loadProviders pydantic py env yaml tree = .ok old)
  (hstage : promotionStage pydantic py env yaml conv world call tree =
    .ok (.validated promoted promotion))
  (hrecipe : IsCanonicalName promotion.recipeName)
  (hname : tupleName py promotion.tuple ∉ old.keys)
  (hsurface : yaml.RoundTrips (surfacePayload py env promotion.tuple))
  (hworker : yaml.RoundTrips (workerPayload py env promotion.tuple))
  (h : promoteProductionTuple pydantic py env yaml conv world call tree = (tree', .ok "ACTIVATED"))

include hold hstage hrecipe hname hsurface hworker h

include hstrip hlayout in
theorem becomesSurface_of_addsOnly (hnew : loadProviders pydantic py env yaml tree' = .ok new)
    (hadds : AddsOnly old new (tupleName py promotion.tuple)) : ∃ file,
      BecomesSurface pydantic py env yaml world.disk.root promotion.tuple tree file := by
  have hpromoted := files_of_validated hstage
  obtain ⟨hrun, -⟩ := run_of_activated hstage h
  have hsplit := splitInUse_of_mem_keys hpromoted hsurface hworker hrecipe hrun hold hnew hname
    hadds.added
  obtain ⟨hstripped, file, hlands⟩ := lands_of_mem_keys hpromoted hsurface hworker hrecipe hrun hold hnew
    hname hstrip hlayout hsplit hadds.added
  have hlanded := landed_of_run hpromoted hsurface hworker hrecipe hrun
    (hlands world.disk.root "surfaces") (hlands world.disk.root "workers")
  have hinUse := hlanded.splitInUse hnew hsplit hsurface hstripped hadds hname hold hlayout
  have hmade {path : List String} (hpath : path ∈ ymlIn tree "surfaces") :=
    hlanded.made_of_old hnew hsplit hsurface hstripped hadds hname hold hinUse hpath
  refine ⟨file, hlands .., hlands .., hstripped, hinUse, ?_, fun path hpath => ?_⟩
  · refine Option.eq_none_iff_forall_ne_some.mpr fun entry hentry => ?_
    exact (hmade (mem_ymlIn.mpr ⟨⟨entry, hentry⟩, hlanded.isYml, file, rfl⟩)).1 rfl
  · obtain ⟨hother, hsame⟩ := hmade hpath
    rw [← hlanded.surfaceTuple_eq (hlanded.mem_surfaces.mpr (Or.inl hpath)) hother, hsame]

omit hname in
theorem addsOnly_of_becomesSurface {file : String}
    (hbecomes : BecomesSurface pydantic py env yaml world.disk.root promotion.tuple tree file) :
    ∃ new, loadProviders pydantic py env yaml tree' = .ok new ∧
      AddsOnly old new (tupleName py promotion.tuple) := by
  have hpromoted := files_of_validated hstage
  obtain ⟨hrun, new, hnew⟩ := run_of_activated hstage h
  have hlanded := landed_of_run hpromoted hsurface hworker hrecipe hrun hbecomes.surface hbecomes.worker
  have hsplit := splitInUse_activated hpromoted hsurface hworker hrecipe hrun hbecomes.split
  exact ⟨new, hnew, hlanded.addsOnly hnew hsplit hsurface hbecomes.stripped hold hbecomes.split
    hbecomes.fresh hbecomes.others⟩

end Promotion

/-- An activation adds its tuple to those that are loaded, and leaves these as they were, exactly when
the tuple comes to be one more surface. -/
theorem addsOnly_iff_becomesSurface (pydantic : Pydantic) (py : Builtins) (env : Environment)
    (hstrip : env.strip "" = "") (yaml : Yaml) (conv : Conversions) (world : PromotionWorld)
    (call : PromotionCall) (tree : ConfigTree)
    (hlayout : hasFolder tree "surfaces" = hasFolder tree "workers") (old : Dict TupleRecord)
    (hold : loadProviders pydantic py env yaml tree = .ok old) (promoted : ConfigTree)
    (promotion : Promotion)
    (hstage : promotionStage pydantic py env yaml conv world call tree =
      .ok (.validated promoted promotion))
    (hrecipe : IsCanonicalName promotion.recipeName)
    (hname : tupleName py promotion.tuple ∉ old.keys)
    (hsurface : yaml.RoundTrips (surfacePayload py env promotion.tuple))
    (hworker : yaml.RoundTrips (workerPayload py env promotion.tuple)) (tree' : ConfigTree)
    (h : promoteProductionTuple pydantic py env yaml conv world call tree = (tree', .ok "ACTIVATED")) :
    (∃ new, loadProviders pydantic py env yaml tree' = .ok new ∧
        AddsOnly old new (tupleName py promotion.tuple)) ↔
      ∃ file, BecomesSurface pydantic py env yaml world.disk.root promotion.tuple tree file := by
  constructor
  · rintro ⟨new, hnew, hadds⟩
    exact becomesSurface_of_addsOnly hstrip hlayout hold hstage hrecipe hname hsurface hworker h hnew hadds
  · rintro ⟨file, hbecomes⟩
    exact addsOnly_of_becomesSurface hold hstage hrecipe hsurface hworker h hbecomes

/-! ## A directory of tuple files -/

/-- A tuple in a file of its own -/
def echoTuple : Dict Json where
  entries :=
    [("name", .str "local-echo"), ("gpu", .str "cpu"), ("vram_gb", .number "80"),
      ("max_model_len", .number "32768"), ("cost_per_second", .number "0.0")]

def echoRecord : TupleRecord :=
  (modelValidate plainPydantic (withExecutionSurface artifactBuiltins reviewEnvironment echoTuple)).getD []

def echoTuples : Dict TupleRecord := ⟨[("local-echo", echoRecord)], List.nodup_singleton _⟩

def echoTree : ConfigTree :=
  Finmap.singleton ["tuples", "local-echo.yml"] { bytes := some (utf8 "echo") }

/-- A YAML library that knows the files of a promotion and the file of the other tuple. -/
def promotionYaml : Yaml where
  toYaml payload :=
    if (payload.get? "surface_ref").isSome then "surface"
    else if (payload.get? "worker_ref").isSome then "worker"
    else if (payload.get? "gpu").isSome then "tuple" else "recipe"
  load text :=
    if text = "surface" then
      .mapping (surfacePayload artifactBuiltins reviewEnvironment (modalTuple plainCandidate))
    else if text = "worker" then
      .mapping (workerPayload artifactBuiltins reviewEnvironment (modalTuple plainCandidate))
    else if text = "echo" then .mapping echoTuple else .other
  readText bytes := ["surface", "worker", "echo"].find? fun text => bytes = utf8 text
  nul_notMem_toYaml payload := by split_ifs <;> decide

/-- A candidate that is promoted with a recipe, and an artifact that validates it. -/
def promotionWorld : PromotionWorld where
  restOfConfig _ _ := .ok candidateModels
  candidatePayload _ := .ok plainCandidate
  copyConfigTree := .ok ()
  promotionDisk := { root := ⟨["var", "promotion"], by decide⟩ }
  validationPasses _ := .ok true
  validationFound _ := .ok true
  disk := { root := etcGpucall }

def promotionCall : PromotionCall where
  review := { entries :=
    [("tuple_candidate_matches", .arr [.obj [("name", .str "modal-h100"), ("path", .str "c.yml")]]),
      ("canonical_recipe", .obj [("name", .str "infer-draft")])] }
  activate := true

def modalPromotion : Promotion where
  recipe := Dict.ofFields [("name", .str "infer-draft")]
  recipeName := "infer-draft"
  tuple := modalTuple plainCandidate

/-- The directory with the files of the promotion -/
def promotedEchoTree : ConfigTree :=
  insertAll echoTree [(["recipes", "infer-draft.yml"], utf8 "recipe"),
    (["tuples", "modal-h100.yml"], utf8 "tuple"), (["surfaces", "modal-h100.yml"], utf8 "surface"),
    (["workers", "modal-h100.yml"], utf8 "worker")]

theorem loadProviders_echoTree :
    loadProviders plainPydantic artifactBuiltins reviewEnvironment promotionYaml echoTree =
      .ok echoTuples := by
  have hyml : ymlIn echoTree "tuples" = [["tuples", "local-echo.yml"]] := by
    refine ymlIn_eq_singleton rfl (by decide) fun other hother => ?_
    by_contra hne
    refine hother (Finmap.lookup_eq_none.mpr ?_)
    rw [echoTree, Finmap.mem_singleton]
    simpa using hne
  have hsplit : loadSplitTuplePayloads artifactBuiltins reviewEnvironment promotionYaml echoTree =
      .ok [] := by
    rw [loadSplitTuplePayloads, if_pos (by decide)]
  rw [loadProviders, hsplit, hyml]
  rfl

theorem copiedTree_echoTree : copiedTree echoTree = echoTree := by
  have hlisting : echoTree.listing (fun path => !path.any ignoredName) =
      [(["tuples", "local-echo.yml"], { bytes := some (utf8 "echo") })] := by
    refine FileTree.listing_eq_singleton fun other entry => ?_
    constructor
    · rintro ⟨-, hentry⟩
      have hmem := Finmap.mem_of_lookup_eq_some hentry
      rw [echoTree, Finmap.mem_singleton] at hmem
      subst hmem
      exact ⟨rfl, (Option.some.inj hentry).symm⟩
    · rintro ⟨rfl, rfl⟩
      exact ⟨by decide, rfl⟩
  rw [copiedTree, hlisting]
  rfl

theorem promotionYaml_roundTrips :
    promotionYaml.RoundTrips
        (surfacePayload artifactBuiltins reviewEnvironment (modalTuple plainCandidate)) ∧
      promotionYaml.RoundTrips
        (workerPayload artifactBuiltins reviewEnvironment (modalTuple plainCandidate)) := by
  have hsurface : (surfacePayload artifactBuiltins reviewEnvironment (modalTuple plainCandidate)).get?
      "surface_ref" = some (.str (tupleName artifactBuiltins (modalTuple plainCandidate))) :=
    get?_surfacePayload ..
  have hworker : (workerPayload artifactBuiltins reviewEnvironment (modalTuple plainCandidate)).get?
      "surface_ref" = none := get?_workerPayload ..
  have hworker' : (workerPayload artifactBuiltins reviewEnvironment (modalTuple plainCandidate)).get?
      "worker_ref" = some (.str (tupleName artifactBuiltins (modalTuple plainCandidate))) :=
    get?_workerPayload ..
  constructor
  · simp [Yaml.RoundTrips, promotionYaml, hsurface]
  · have hne : utf8 "worker" ≠ utf8 "surface" := by decide
    simp [Yaml.RoundTrips, promotionYaml, hworker, hworker', hne]

theorem loadProviders_promotedEchoTree : ∃ tuples,
    loadProviders plainPydantic artifactBuiltins reviewEnvironment promotionYaml promotedEchoTree =
      .ok tuples := by
  obtain ⟨hsurface, hworker⟩ := promotionYaml_roundTrips
  have honly (directory other : String) (hdirectory : directory ∈ ["surfaces", "workers"])
      (hother : promotedEchoTree.lookup [directory, other] ≠ none) : other = "modal-h100.yml" := by
    by_contra hne
    refine hother ?_
    have hold : echoTree.lookup [directory, other] = none := by
      rw [Finmap.lookup_eq_none, echoTree, Finmap.mem_singleton]
      rintro ⟨⟩
      exact absurd hdirectory (by decide)
    rw [promotedEchoTree, lookup_insertAll, hold, Option.or_none]
    have hother : lastWritten [(["recipes", "infer-draft.yml"], utf8 "recipe"),
        (["tuples", "modal-h100.yml"], utf8 "tuple"), (["surfaces", "modal-h100.yml"], utf8 "surface"),
        (["workers", "modal-h100.yml"], utf8 "worker")] [directory, other] = none := by
      refine List.lookup_eq_none_iff.mpr fun write hwrite => bne_iff_ne.mpr ?_
      rw [List.mem_reverse] at hwrite
      simp only [List.mem_cons, List.not_mem_nil, or_false] at hwrite
      obtain rfl | rfl | rfl | rfl := hwrite <;> rintro ⟨⟩
      · exact absurd hdirectory (by decide)
      · exact absurd hdirectory (by decide)
      · exact hne rfl
      · exact hne rfl
    rw [hother]
    rfl
  obtain ⟨record, hrecord⟩ : ∃ record, modelValidate plainPydantic
      (rejoinedPayload artifactBuiltins reviewEnvironment modalPromotion.tuple) = some record :=
    ⟨_, rfl⟩
  refine ⟨⟨[(record.name, record)], List.nodup_singleton _⟩, ?_⟩
  refine (loadProviders_of_pair (isCandidateTuple plainCandidate_ok) (by decide) (by decide)
    (ymlIn_eq_singleton rfl (by decide) (honly "surfaces" · (by decide)))
    (ymlIn_eq_singleton rfl (by decide) (honly "workers" · (by decide)))
    (loadMapping_of_roundTrips rfl hsurface) (loadMapping_of_roundTrips rfl hworker)).mpr ?_
  exact ⟨by decide, record, hrecord, rfl⟩

theorem promotionStage_echoTree :
    promotionStage plainPydantic artifactBuiltins reviewEnvironment promotionYaml plainConversions
      promotionWorld promotionCall echoTree = .ok (.validated promotedEchoTree modalPromotion) := by
  have hselect : selectPromotion plainPydantic artifactBuiltins reviewEnvironment promotionYaml
      plainConversions promotionWorld promotionCall echoTree = .ok modalPromotion := by
    unfold selectPromotion loadConfig
    rw [loadProviders_echoTree]
    rfl
  have hwrite : writePromotion artifactBuiltins reviewEnvironment promotionYaml promotionWorld
      promotionCall modalPromotion echoTree = .ok promotedEchoTree := by
    unfold writePromotion
    rw [copiedTree_echoTree]
    rfl
  obtain ⟨tuples, hload⟩ := loadProviders_promotedEchoTree
  unfold promotionStage loadConfig
  simp only [hselect, hwrite, bind, Except.bind, hload]
  rfl

theorem promoteProductionTuple_echoTree :
    promoteProductionTuple plainPydantic artifactBuiltins reviewEnvironment promotionYaml
      plainConversions promotionWorld promotionCall echoTree = (promotedEchoTree, .ok "ACTIVATED") := by
  obtain ⟨tuples, hload⟩ := loadProviders_promotedEchoTree
  have hrun : runActivation promotionWorld.disk promotionYaml promotionCall.force
      (activationSteps artifactBuiltins reviewEnvironment promotionYaml promotionWorld promotedEchoTree
        modalPromotion) echoTree = (promotedEchoTree, .ok ()) := rfl
  unfold promoteProductionTuple loadConfig
  simp only [promotionStage_echoTree, hrun, hload]
  rfl

/-- The tuples of a directory without surfaces are not loaded any more after an activation. -/
theorem addsOnly_iff_becomesSurface_echo :
    ¬ ∃ new, loadProviders plainPydantic artifactBuiltins reviewEnvironment promotionYaml
        promotedEchoTree = .ok new ∧
      AddsOnly echoTuples new (tupleName artifactBuiltins modalPromotion.tuple) := by
  intro hadds
  obtain ⟨file, hbecomes⟩ := (addsOnly_iff_becomesSurface plainPydantic artifactBuiltins
    reviewEnvironment rfl promotionYaml plainConversions promotionWorld promotionCall echoTree (by decide)
    echoTuples loadProviders_echoTree promotedEchoTree modalPromotion promotionStage_echoTree
    (by unfold IsCanonicalName; decide) (by decide) promotionYaml_roundTrips.1 promotionYaml_roundTrips.2
    promotedEchoTree promoteProductionTuple_echoTree).mp hadds
  exact absurd hbecomes.split.surfaces (by decide)

theorem not_addsOnly :
    ¬ ∀ (pydantic : Pydantic) (py : Builtins) (env : Environment), env.strip "" = "" →
      ∀ (yaml : Yaml) (conv : Conversions) (world : PromotionWorld) (call : PromotionCall)
        (tree : ConfigTree), hasFolder tree "surfaces" = hasFolder tree "workers" →
      ∀ old : Dict TupleRecord, loadProviders pydantic py env yaml tree = .ok old →
      ∀ (promoted : ConfigTree) (promotion : Promotion),
        promotionStage pydantic py env yaml conv world call tree = .ok (.validated promoted promotion) →
        IsCanonicalName promotion.recipeName → tupleName py promotion.tuple ∉ old.keys →
        yaml.RoundTrips (surfacePayload py env promotion.tuple) →
        yaml.RoundTrips (workerPayload py env promotion.tuple) →
      ∀ tree' : ConfigTree,
        promoteProductionTuple pydantic py env yaml conv world call tree = (tree', .ok "ACTIVATED") →
        ∃ new, loadProviders pydantic py env yaml tree' = .ok new ∧
          AddsOnly old new (tupleName py promotion.tuple) := by
  intro h
  obtain ⟨new, hnew, hadds⟩ := h plainPydantic artifactBuiltins reviewEnvironment rfl promotionYaml
    plainConversions promotionWorld promotionCall echoTree (by decide) echoTuples loadProviders_echoTree
    promotedEchoTree modalPromotion promotionStage_echoTree (by unfold IsCanonicalName; decide)
    (by decide) promotionYaml_roundTrips.1 promotionYaml_roundTrips.2 promotedEchoTree
    promoteProductionTuple_echoTree
  obtain ⟨file, hbecomes⟩ := becomesSurface_of_addsOnly rfl (by decide) loadProviders_echoTree
    promotionStage_echoTree (by unfold IsCanonicalName; decide) (by decide) promotionYaml_roundTrips.1
    promotionYaml_roundTrips.2 promoteProductionTuple_echoTree hnew hadds
  exact absurd hbecomes.split.surfaces (by decide)

end Gpucall
