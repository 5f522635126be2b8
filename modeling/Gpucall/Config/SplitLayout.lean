import Gpucall.Admin.PromotedTuples

/-! The files of the split layout that `load_providers` leaves unread in effect: a worker in a later file takes
the place of one of the same reference, where the other loaders of `config.py` refuse a second name. -/

namespace Gpucall

section Definitions

variable (pydantic : Pydantic) (py : Builtins) (env : Environment) (yaml : Yaml) (tree : ConfigTree)

/-- The reference that a file has in a field -/
def NamesRef (field : String) (path : List String) (ref : String) : Prop :=
  ∃ payload, loadMapping yaml tree path = .ok payload ∧ requiredRef py env payload field = .ok ref

/-- The fields that a worker gives are those of the tuple; an execution surface that is left empty is that of
the adapter. -/
def TupleRecord.TakesFrom (record : TupleRecord) (worker : Dict Json) : Prop :=
  ∀ field ∈ executionTupleFields, field.name ≠ "name" → ∀ value, worker.get? field.name = some value →
    (field.name = "execution_surface" → value.truthy) →
      List.lookup field.name record = field.type.parse pydantic value

/-- The tuple has the fields of the worker in a file, and it is the worker that the surface names. -/
def WorkerPart (workerPath surfacePath : List String) (record : TupleRecord) : Prop :=
  ∃ ref worker, loadWorker py env yaml tree workerPath = .ok (ref, worker) ∧
    NamesRef py env yaml tree "worker_ref" surfacePath ref ∧ record.TakesFrom pydantic worker

/-- No two files of a folder have one reference. -/
def DistinctRefs (directory field : String) : Prop :=
  ∀ path ∈ ymlIn tree directory, ∀ path' ∈ ymlIn tree directory, ∀ ref,
    NamesRef py env yaml tree field path ref → NamesRef py env yaml tree field path' ref → path = path'

/-- Every file of the split layout is in the tuples. -/
structure NothingIgnored (tuples : Dict TupleRecord) : Prop where
  surfaces : ∀ path ∈ ymlIn tree "surfaces", ∃ record,
    NamesRef py env yaml tree "surface_ref" path record.name ∧ tuples.get? record.name = some record
  loaded : ∀ name record, tuples.get? name = some record → record.name = name ∧
    ∃ path ∈ ymlIn tree "surfaces", NamesRef py env yaml tree "surface_ref" path name ∧
      ∃ workerPath ∈ ymlIn tree "workers", WorkerPart pydantic py env yaml tree workerPath path record
  workers : ∀ workerPath ∈ ymlIn tree "workers", ∃ path ∈ ymlIn tree "surfaces", ∃ record,
    NamesRef py env yaml tree "surface_ref" path record.name ∧ tuples.get? record.name = some record ∧
      WorkerPart pydantic py env yaml tree workerPath path record
  surfaceRefs : DistinctRefs py env yaml tree "surfaces" "surface_ref"
  workerRefs : DistinctRefs py env yaml tree "workers" "worker_ref"

end Definitions

variable {pydantic : Pydantic} {py : Builtins} {env : Environment} {yaml : Yaml} {tree : ConfigTree}
  {tuples : Dict TupleRecord} {path : List String} {record : TupleRecord}

/-! ## One surface -/

theorem NamesRef.unique {field : String} (h : NamesRef py env yaml tree field path ref)
    (h' : NamesRef py env yaml tree field path ref') : ref = ref' := by
  obtain ⟨payload, hload, href⟩ := h
  obtain ⟨payload', hload', href'⟩ := h'
  obtain rfl := Except.ok.inj (hload.symm.trans hload')
  exact Except.ok.inj (href.symm.trans href')

theorem namesRef_of_loadWorker (h : loadWorker py env yaml tree path = .ok (ref, worker)) :
    NamesRef py env yaml tree "worker_ref" path ref :=
  ⟨worker, loadWorker_eq_ok.mp h⟩

/-- An execution surface that the payload has stays. -/
theorem get?_withExecutionSurface_of_truthy {payload : Dict Json} {field : String} {value : Json}
    (hget : payload.get? field = some value) (htruthy : field = "execution_surface" → value.truthy) :
    (withExecutionSurface py env payload).get? field = some value := by
  by_cases hfield : field = "execution_surface"
  · subst hfield
    rw [withExecutionSurface, hget, Option.any_some, if_pos (htruthy rfl), hget]
  · rw [get?_withExecutionSurface hfield, hget]

theorem joinNames_notMem : ∀ field ∈ executionTupleFields, field.name ∉ joinNames := by
  decide

theorem takesFrom_of_tupleFromPayload {ref : String} {surface worker : Dict Json}
    (h : tupleFromPayload pydantic py env (joinedPayload ref surface worker) = .ok record) :
    record.TakesFrom pydantic worker := by
  intro field hfield hname value hvalue htruthy
  rw [tupleFromPayload] at h
  split at h
  · next record' hvalid =>
    obtain rfl := Except.ok.inj h
    have hjoined : (joinedPayload ref surface worker).get? field.name = some value := by
      rw [get?_joinedPayload, if_neg (joinNames_notMem field hfield), if_neg hname, hvalue, Option.some_or]
    have hget := @get?_withExecutionSurface_of_truthy py env _ _ _ hjoined htruthy
    rw [lookup_modelValidate hvalid hfield, Schema.fieldValue]
    simp only [SpecField.entry, hget]
  · contradiction

/-- The tuple of a surface has the fields of the last worker that the surface names. -/
theorem surfaceTuple_takesFrom (h : surfaceTuple pydantic py env yaml tree path = some record) :
    ∃ ref workerPath worker, workerPath ∈ ymlIn tree "workers" ∧
      loadWorker py env yaml tree workerPath = .ok (ref, worker) ∧
        NamesRef py env yaml tree "worker_ref" path ref ∧ record.TakesFrom pydantic worker := by
  obtain ⟨⟨ref, payload⟩, hentry, hrecord⟩ := Option.bind_eq_some_iff.mp h
  obtain ⟨surface, surfaceRef, worker, hload, -, href, hlookup, hpayload⟩ :=
    loadSurface_eq_ok (OptionList.toOption_eq_some.mp hentry)
  obtain ⟨workerPath, hpath, hworker⟩ :=
    List.mem_filterMap.mp (List.mem_reverse.mp (OptionList.mem_of_lookup hlookup))
  dsimp only at hpayload
  subst hpayload
  exact ⟨ref, workerPath, worker, hpath, OptionList.toOption_eq_some.mp hworker, ⟨surface, hload, href⟩,
    takesFrom_of_tupleFromPayload (OptionList.toOption_eq_some.mp hrecord)⟩

/-! ## The directory -/

/-- Some surface names each worker. -/
theorem exists_surface_of_worker (h : loadProviders pydantic py env yaml tree = .ok tuples)
    (hsplit : SplitInUse tree) (hpath : path ∈ ymlIn tree "workers") :
    ∃ ref worker, loadWorker py env yaml tree path = .ok (ref, worker) ∧
      ∃ surfacePath ∈ ymlIn tree "surfaces", NamesRef py env yaml tree "worker_ref" surfacePath ref := by
  obtain ⟨-, payloads, hpayloads, -⟩ := loadProviders_eq_ok.mp h
  obtain ⟨hmissing, -⟩ | ⟨-, workers, joined, hworkers, hjoined, hused, -⟩ :=
    loadSplitTuplePayloads_eq_ok.mp hpayloads
  · exact absurd ⟨hsplit.surfaces, hsplit.workers⟩ hmissing
  obtain ⟨⟨ref, worker⟩, hmem, hload⟩ := OptionList.exists_of_forall₂_left hworkers hpath
  obtain ⟨entry, hentry, rfl⟩ := List.mem_map.mp (hused _ hmem)
  obtain ⟨surfacePath, hsurfacePath, hsurface⟩ := OptionList.exists_of_forall₂_right hjoined hentry
  obtain ⟨surface, -, -, hsurfaceLoad, -, href, -⟩ := loadSurface_eq_ok hsurface
  exact ⟨_, worker, hload, surfacePath, hsurfacePath, surface, hsurfaceLoad, href⟩

/-- In the split layout nothing is ignored exactly when no two worker files have one reference. -/
theorem nothingIgnored_iff (h : loadProviders pydantic py env yaml tree = .ok tuples)
    (hsplit : SplitInUse tree) :
    NothingIgnored pydantic py env yaml tree tuples ↔ DistinctRefs py env yaml tree "workers" "worker_ref" := by
  refine ⟨fun hall => hall.workerRefs, fun hdistinct => ?_⟩
  have hmade := madeFrom_surfaces h hsplit
  constructor
  · intro path hpath
    obtain ⟨record, hmake, hget⟩ := hmade.made path hpath
    exact ⟨record, surfaceTuple_eq_some hmake, hget⟩
  · intro name record hget
    obtain ⟨path, hpath, hmake, rfl⟩ := hmade.source name record hget
    obtain ⟨ref, workerPath, worker, hworkerPath, hload, hnames, htakes⟩ := surfaceTuple_takesFrom hmake
    exact ⟨rfl, path, hpath, surfaceTuple_eq_some hmake, workerPath, hworkerPath, ref, worker, hload, hnames,
      htakes⟩
  · intro workerPath hworkerPath
    obtain ⟨ref, worker, hload, path, hpath, hnames⟩ := exists_surface_of_worker h hsplit hworkerPath
    obtain ⟨record, hmake, hget⟩ := hmade.made path hpath
    refine ⟨path, hpath, record, surfaceTuple_eq_some hmake, hget, ref, worker, hload, hnames, ?_⟩
    -- the worker of the tuple has the same reference, so it is in this file
    obtain ⟨ref', workerPath', worker', hworkerPath', hload', hnames', htakes⟩ := surfaceTuple_takesFrom hmake
    obtain rfl := hnames.unique hnames'
    obtain rfl := hdistinct _ hworkerPath _ hworkerPath' _ (namesRef_of_loadWorker hload)
      (namesRef_of_loadWorker hload')
    obtain rfl := (Prod.mk.inj (Except.ok.inj (hload.symm.trans hload'))).2
    exact htakes
  · intro path hpath path' hpath' ref hnames hnames'
    obtain ⟨record, hmake, -⟩ := hmade.made path hpath
    obtain ⟨record', hmake', -⟩ := hmade.made path' hpath'
    refine hmade.unique path hpath path' hpath' record record' hmake hmake' ?_
    have hname : NamesRef py env yaml tree "surface_ref" path record.name := surfaceTuple_eq_some hmake
    have hname' : NamesRef py env yaml tree "surface_ref" path' record'.name := surfaceTuple_eq_some hmake'
    exact (hname.unique hnames).trans (hname'.unique hnames').symm
  · exact hdistinct

/-! ## Two workers of one reference -/

/-- A folder with the given `*.yml` and no others -/
theorem ymlIn_eq {directory : String} {paths : List (List String)} (hsorted : paths.Pairwise (· < ·))
    (hmem : ∀ path, path ∈ ymlIn tree directory ↔ path ∈ paths) : ymlIn tree directory = paths := by
  have hnodup {paths : List (List String)} (h : paths.Pairwise (· < ·)) : paths.Nodup :=
    h.imp fun hlt => ne_of_lt hlt
  have hperm := (List.perm_ext_iff_of_nodup (hnodup (ymlIn_pairwise tree directory)) (hnodup hsorted)).mpr hmem
  exact hperm.eq_of_pairwise (fun a b _ _ hab hba => absurd hba (not_lt_of_gt hab))
    (ymlIn_pairwise tree directory) hsorted

def vllmSurface : Dict Json where
  entries := [("surface_ref", .str "modal-h100"), ("worker_ref", .str "vllm"), ("gpu", .str "H100"),
    ("cost_per_second", .number "0.001")]

def vllmWorker (target : String) : Dict Json where
  entries := [("worker_ref", .str "vllm"), ("adapter", .str "modal"),
    ("execution_surface", .str "function_runtime"), ("vram_gb", .number "80"),
    ("max_model_len", .number "32768"), ("target", .str target)]
  nodup := (by decide : ["worker_ref", "adapter", "execution_surface", "vram_gb", "max_model_len", "target"].Nodup)

/-- A YAML library that knows the surface, and a worker under its target. -/
def vllmYaml : Yaml where
  toYaml _ := ""
  load text := if text = "surface" then .mapping vllmSurface else .mapping (vllmWorker text)
  readText bytes := ["surface", "old", "new"].find? (utf8 · = bytes)
  nul_notMem_toYaml _ := by decide

theorem mem_ymlIn_insertAll {writes : List (List String × List ℕ)} {directory : String} :
    path ∈ ymlIn (insertAll ∅ writes) directory ↔
      path ∈ (writes.map Prod.fst).filter fun path => isYml path ∧ path = [directory, path.getLastD ""] := by
  have hlast : (∃ file, path = [directory, file]) ↔ path = [directory, path.getLastD ""] := by
    constructor
    · rintro ⟨file, rfl⟩
      rfl
    · exact fun h => ⟨_, h⟩
  rw [mem_ymlIn, hlast, lookup_insertAll, Finmap.lookup_empty, Option.or_none, List.mem_filter,
    decide_eq_true_eq]
  refine and_congr ?_ Iff.rfl
  rw [← Option.isSome_iff_exists, Option.isSome_map, lastWritten, List.lookup_isSome_iff]
  simp

/-- One surface, and its worker in the files that are given -/
def vllmTree (workers : List (List String × List ℕ)) : ConfigTree :=
  insertAll ∅ ((["surfaces", "modal.yml"], utf8 "surface") :: workers)

/-- The worker of the surface, and an older file that was left behind -/
def oldAndNew : List (List String × List ℕ) :=
  [(["workers", "a.yml"], utf8 "old"), (["workers", "b.yml"], utf8 "new")]

section VllmTree

variable {workers : List (List String × List ℕ)} (hworkers : workers = oldAndNew ∨ workers = oldAndNew.tail)

include hworkers

theorem ymlIn_vllmTree :
    ymlIn (vllmTree workers) "surfaces" = [["surfaces", "modal.yml"]] ∧
      ymlIn (vllmTree workers) "workers" = workers.map Prod.fst := by
  obtain rfl | rfl := hworkers <;> constructor <;>
    exact ymlIn_eq (by decide) fun path => mem_ymlIn_insertAll.trans (Iff.of_eq (by rfl))

theorem splitInUse_vllmTree : SplitInUse (vllmTree workers) := by
  refine ⟨?_, ?_, ?_⟩
  · obtain rfl | rfl := hworkers <;> decide +kernel
  · obtain rfl | rfl := hworkers <;> decide +kernel
  · rw [(ymlIn_vllmTree hworkers).1]
    exact List.cons_ne_nil _ _

theorem loadProviders_vllmTree :
    ∃ record, loadProviders plainPydantic artifactBuiltins reviewEnvironment vllmYaml (vllmTree workers) =
      .ok { entries := [("modal-h100", record)], nodup := List.nodup_singleton _ } ∧
        List.lookup "target" record = some (.plain (.text "new")) := by
  obtain ⟨hsurfaceFiles, hworkerFiles⟩ := ymlIn_vllmTree hworkers
  obtain ⟨hsurfaces, hworkerFolder, -⟩ := splitInUse_vllmTree hworkers
  rw [loadProviders, loadSplitTuplePayloads, hsurfaceFiles, hworkerFiles, hsurfaces, hworkerFolder]
  obtain rfl | rfl := hworkers <;> exact ⟨_, rfl, rfl⟩

end VllmTree

theorem nothingIgnored_iff_new : ∃ tuples,
    loadProviders plainPydantic artifactBuiltins reviewEnvironment vllmYaml (vllmTree oldAndNew.tail) =
      .ok tuples ∧
        NothingIgnored plainPydantic artifactBuiltins reviewEnvironment vllmYaml (vllmTree oldAndNew.tail)
          tuples := by
  obtain ⟨record, hload, -⟩ := loadProviders_vllmTree (.inr rfl)
  refine ⟨_, hload, (nothingIgnored_iff hload (splitInUse_vllmTree (.inr rfl))).mpr ?_⟩
  intro path hpath path' hpath' ref _ _
  rw [(ymlIn_vllmTree (.inr rfl)).2] at hpath hpath'
  exact (List.mem_singleton.mp hpath).trans (List.mem_singleton.mp hpath').symm

/-- The older of two files for one worker is not in the tuple, and the directory loads. -/
theorem not_nothingIgnored_oldAndNew : ∃ tuples,
    loadProviders plainPydantic artifactBuiltins reviewEnvironment vllmYaml (vllmTree oldAndNew) = .ok tuples ∧
      SplitInUse (vllmTree oldAndNew) ∧
        ¬ NothingIgnored plainPydantic artifactBuiltins reviewEnvironment vllmYaml (vllmTree oldAndNew)
          tuples := by
  obtain ⟨record, hload, htarget⟩ := loadProviders_vllmTree (.inl rfl)
  refine ⟨_, hload, splitInUse_vllmTree (.inl rfl), fun hall => ?_⟩
  have hpath : ["workers", "a.yml"] ∈ ymlIn (vllmTree oldAndNew) "workers" := by
    rw [(ymlIn_vllmTree (.inl rfl)).2]
    exact List.mem_cons_self
  obtain ⟨-, -, record', -, hget, ref, worker, hworker, -, htakes⟩ := hall.workers _ hpath
  obtain rfl : worker = vllmWorker "old" := (Prod.mk.inj (Except.ok.inj hworker)).2.symm
  have hmem := Dict.get?_eq_some.mp hget
  obtain rfl : record' = record := (Prod.mk.inj (List.mem_singleton.mp hmem)).2
  have htarget' := htakes (.optional "target" .str) (by simp [executionTupleFields]) (by decide) (.str "old")
    rfl nofun
  have hsame : some (SpecValue.plain (.text "new")) = some (.plain (.text "old")) := htarget.symm.trans htarget'
  exact absurd (ScalarValue.text.inj (SpecValue.plain.inj (Option.some.inj hsame))) (by decide)

end Gpucall
