import Gpucall.Catalog.OldEvidence

/-! `generate_tuple_candidates` of `execution_catalog.py`: each resource of a snapshot, joined with a worker. The
workers are looked up by their binding alone, where the last one has it; the candidates come behind the active
tuples, so an active tuple may be reported with the worker of a candidate. -/

namespace Gpucall

/-! ## Candidates -/

structure RecipeFit where
  eligible : Bool
  reasons : List String

/-- What is reported of a resource and its worker; `tuple_ref`, the digest of the rest, is left out. -/
structure TupleCandidate where
  source : CatalogSource
  accountRef : String
  tupleName : String
  adapter : String
  executionSurface : String
  resourceRef : String
  workerRef : String
  gpu : String
  vramGb : ℕ
  maxModelLen : ℕ
  configuredPricePerSecond : ℚ
  pricePerSecond : PyFloat
  livePricePerSecond : Option PyFloat
  liveStockState : LiveStockState
  liveCatalogStatus : LiveCatalogStatus
  modelRef : Option String
  engineRef : Option String
  modes : List String
  productionState : String
  recipeFit : Option RecipeFit

/-- `_output_contract_compatible` -/
def outputContractCompatible (recipeContract workerContract : String) : Bool :=
  recipeContract = workerContract ||
    workerContract = "openai-chat-completions" && recipeContract ∈ ["plain-text", "json_object", "json_schema"]

/-- `_requires_recipe_vram_gate` -/
def WorkerContract.requiresRecipeVramGate (worker : WorkerContract) : Bool :=
  !(truthyStr worker.controlledRuntimeRef && worker.executionSurface = "local_runtime")

/-- `_recipe_fit` -/
def recipeFit (recipe : Recipe) (resource : ResourceEntry) (worker : WorkerContract) : RecipeFit :=
  let requirements := recipeRequirements recipe
  let modes := recipe.allowedModes.map (·.value)
  let inputs := worker.inputContracts
  let checks : List (Bool × String) := [
    (worker.requiresRecipeVramGate && resource.vramGb < requirements.minimumVramGb,
      "resource vram_gb is below derived recipe requirement"),
    (resource.maxModelLen < requirements.contextBudgetTokens,
      "resource max_model_len is below recipe requirement"),
    (modes ≠ [] && modes.all (· ∉ worker.modes), "worker modes do not intersect recipe allowed_modes"),
    (recipe.task = "vision" && "image" ∉ inputs, "worker input_contracts do not declare image support"),
    (recipe.task = "infer" && inputs ≠ [] && "text" ∉ inputs && "chat_messages" ∉ inputs,
      "worker input_contracts do not declare text or chat support"),
    (recipe.task = "transcribe" && inputs ≠ [] && "audio" ∉ inputs,
      "worker input_contracts do not declare audio support"),
    (recipe.task = "convert" && inputs ≠ [] && "document" ∉ inputs,
      "worker input_contracts do not declare document support"),
    (truthyStr recipe.outputContract && truthyStr worker.outputContract &&
        !outputContractCompatible (recipe.outputContract.getD "") (worker.outputContract.getD ""),
      "worker output_contract does not match recipe output_contract")]
  let reasons := (checks.filter (·.1)).map Prod.snd
  { eligible := reasons.isEmpty, reasons }

/-- The order of prices; a live price is never `nan`. -/
def PyFloat.rank : PyFloat → WithTop ℚ
  | .finite value => value
  | .infinite | .nan => ⊤

def TupleCandidate.rank (candidate : TupleCandidate) : String ×ₗ String ×ₗ WithTop ℚ ×ₗ String :=
  toLex (candidate.productionState, toLex (candidate.executionSurface,
    toLex (candidate.pricePerSecond.rank, candidate.tupleName)))

namespace ResourceCatalogSnapshot

variable (snapshot : ResourceCatalogSnapshot) (recipe : Option Recipe)

/-- One round of the loop: the candidate of a resource, if the loop does not `continue`. -/
def tupleCandidate (resource : ResourceEntry) : Option TupleCandidate :=
  (lookupLast (·.workerBindingRef) snapshot.workers resource.workerBindingRef).map fun worker =>
    { source := resource.source
      accountRef := resource.accountRef
      tupleName := resource.tupleName
      adapter := resource.adapter
      executionSurface := resource.executionSurface
      resourceRef := resource.resourceRef
      workerRef := worker.workerRef
      gpu := resource.gpu
      vramGb := resource.vramGb
      maxModelLen := resource.maxModelLen
      configuredPricePerSecond := resource.configuredPricePerSecond
      pricePerSecond := resource.livePricePerSecond.getD (.finite resource.configuredPricePerSecond)
      livePricePerSecond := resource.livePricePerSecond
      liveStockState := resource.liveStockState
      liveCatalogStatus := resource.liveCatalogStatus
      modelRef := worker.modelRef
      engineRef := worker.engineRef
      modes := worker.modes
      productionState := if resource.source = .activeTuple then "production_configured" else "candidate_draft"
      recipeFit := recipe.map fun recipe => recipeFit recipe resource worker }

/-- `generate_tuple_candidates` -/
def generateTupleCandidates : List TupleCandidate :=
  (snapshot.resources.filterMap (snapshot.tupleCandidate recipe)).insertionSort fun a b => a.rank ≤ b.rank

end ResourceCatalogSnapshot

/-! ## Joining a resource with its own worker -/

/-- The worker is of the source and the binding of the resource. -/
def ResourceEntry.Binds (resource : ResourceEntry) (worker : WorkerContract) : Prop :=
  worker.source = resource.source ∧ worker.workerBindingRef = resource.workerBindingRef

/-- What a candidate reports of a worker -/
structure WorkerReport where
  workerRef : String
  modelRef : Option String
  engineRef : Option String
  modes : List String

def WorkerContract.report (worker : WorkerContract) : WorkerReport :=
  ⟨worker.workerRef, worker.modelRef, worker.engineRef, worker.modes⟩

def TupleCandidate.report (candidate : TupleCandidate) : WorkerReport :=
  ⟨candidate.workerRef, candidate.modelRef, candidate.engineRef, candidate.modes⟩

/-- Each resource that has a worker of its own has one candidate, which is about that resource and satisfies `own`;
these are all the candidates. -/
structure Joins (snapshot : ResourceCatalogSnapshot) (recipe : Option Recipe)
    (own : ResourceEntry → TupleCandidate → Prop) : Prop where
  perm : (snapshot.generateTupleCandidates recipe).Perm
    (snapshot.resources.filterMap (snapshot.tupleCandidate recipe))
  each : ∀ resource ∈ snapshot.resources, (∃ worker ∈ snapshot.workers, resource.Binds worker) →
    ∃ candidate, snapshot.tupleCandidate recipe resource = some candidate ∧
      candidate.resourceRef = resource.resourceRef ∧ candidate.source = resource.source ∧
        candidate.tupleName = resource.tupleName ∧ own resource candidate

/-- Each worker of the resource's source and binding is the one reported. -/
def ReportsEach (snapshot : ResourceCatalogSnapshot) (resource : ResourceEntry) (candidate : TupleCandidate) : Prop :=
  ∀ worker ∈ snapshot.workers, resource.Binds worker → candidate.report = worker.report

/-- Some worker of the resource's source and binding is the one reported. -/
def ReportsOne (snapshot : ResourceCatalogSnapshot) (resource : ResourceEntry) (candidate : TupleCandidate) : Prop :=
  ∃ worker ∈ snapshot.workers, resource.Binds worker ∧ candidate.report = worker.report

theorem Joins.one_of_each {snapshot : ResourceCatalogSnapshot} {recipe : Option Recipe}
    (h : Joins snapshot recipe (ReportsEach snapshot)) : Joins snapshot recipe (ReportsOne snapshot) := by
  refine ⟨h.perm, fun resource hresource hworker => ?_⟩
  obtain ⟨candidate, hcandidate, href, hsource, hname, hown⟩ := h.each resource hresource hworker
  obtain ⟨worker, hmem, hbinds⟩ := hworker
  exact ⟨candidate, hcandidate, href, hsource, hname, worker, hmem, hbinds, hown worker hmem hbinds⟩

/-! ## Last entries -/

/-- With an index whose last entry wins, all entries find their own value exactly when those of one key agree. -/
theorem lookupLast_agrees_iff {key : α → String} {value : α → β} {items : List α} :
    (∀ item ∈ items, ∀ found, lookupLast key items (key item) = some found → value found = value item) ↔
      ∀ a ∈ items, ∀ b ∈ items, key a = key b → value a = value b := by
  constructor
  · intro h a ha b hb hkey
    obtain ⟨found, hfound⟩ := Option.isSome_iff_exists.mp (lookupLast_isSome.mpr ⟨a, ha, rfl⟩)
    have hb' := h b hb found (hkey ▸ hfound)
    exact (h a ha found hfound).symm.trans hb'
  · intro h item hitem found hfound
    obtain ⟨hmem, hkey⟩ := lookupLast_eq_some hfound
    exact h found hmem item hitem hkey

/-! ## Snapshots that are built -/

theorem CatalogRow.workerRef_inj {a b : CatalogRow} (h : a.workerRef = b.workerRef) :
    a.source = b.source ∧ a.name = b.name :=
  CatalogSource.qualified_inj h

/-- The two rows make one worker contract, as far as candidates report it. -/
structure SameContract (a b : CatalogRow) : Prop where
  source : a.source = b.source
  name : a.name = b.name
  modelRef : a.modelRef.filter (· ≠ "") = b.modelRef.filter (· ≠ "")
  engineRef : a.engineRef.filter (· ≠ "") = b.engineRef.filter (· ≠ "")
  modes : (if a.modes = [] then ["sync", "async"] else a.modes) = if b.modes = [] then ["sync", "async"] else b.modes

variable {py : PriceBuiltins} {env : Environment} {iso : IsoFormat} {inputs : CatalogInputs}
  {snapshot : ResourceCatalogSnapshot} {now : ℤ} {recipe : Option Recipe}
  {own : ResourceEntry → TupleCandidate → Prop}

theorem report_eq_iff {a b : CatalogRow} :
    (workerContract env a).report = (workerContract env b).report ↔ SameContract a b := by
  constructor
  · intro h
    obtain ⟨href, hmodel, hengine, hmodes⟩ := WorkerReport.mk.inj h
    obtain ⟨hsource, hname⟩ := CatalogRow.workerRef_inj href
    exact ⟨hsource, hname, hmodel, hengine, hmodes⟩
  · rintro ⟨hsource, hname, hmodel, hengine, hmodes⟩
    have href : a.workerRef = b.workerRef := by rw [CatalogRow.workerRef, CatalogRow.workerRef, hsource, hname]
    exact WorkerReport.mk.injEq .. ▸ ⟨href, hmodel, hengine, hmodes⟩

/-- What the rows of the inputs become in the snapshot -/
structure BuiltFrom (env : Environment) (inputs : CatalogInputs) (snapshot : ResourceCatalogSnapshot) : Prop where
  workers : snapshot.workers = inputs.rows.map (workerContract env)
  resources : ∀ resource ∈ snapshot.resources, ∃ row ∈ inputs.rows, resource.source = row.source ∧
    resource.workerBindingRef = row.workerBindingRef
  rows : ∀ row ∈ inputs.rows, ∃ resource ∈ snapshot.resources, resource.source = row.source ∧
    resource.workerBindingRef = row.workerBindingRef

theorem builtFrom (h : buildResourceCatalogSnapshot py env iso inputs now = some snapshot) :
    BuiltFrom env inputs snapshot := by
  obtain ⟨evidence, -, rfl⟩ := Option.map_eq_some_iff.mp h
  refine ⟨rfl, fun resource hresource => ?_, fun row hrow => ⟨_, List.mem_map_of_mem hrow, rfl, rfl⟩⟩
  obtain ⟨row, hrow, rfl⟩ := List.mem_map.mp hresource
  exact ⟨row, hrow, rfl, rfl⟩

namespace BuiltFrom

variable (h : BuiltFrom env inputs snapshot)

include h

theorem exists_binds {resource : ResourceEntry} (hresource : resource ∈ snapshot.resources) :
    ∃ worker ∈ snapshot.workers, resource.Binds worker := by
  obtain ⟨row, hrow, hsource, hbinding⟩ := h.resources resource hresource
  rw [h.workers]
  exact ⟨_, List.mem_map_of_mem hrow, hsource.symm, hbinding.symm⟩

theorem exists_resource {worker : WorkerContract} (hworker : worker ∈ snapshot.workers) :
    ∃ resource ∈ snapshot.resources, resource.Binds worker := by
  rw [h.workers] at hworker
  obtain ⟨row, hrow, rfl⟩ := List.mem_map.mp hworker
  obtain ⟨resource, hresource, hsource, hbinding⟩ := h.rows row hrow
  exact ⟨resource, hresource, hsource.symm, hbinding.symm⟩

theorem source_eq {a b : WorkerContract} (ha : a ∈ snapshot.workers) (hb : b ∈ snapshot.workers)
    (href : a.workerRef = b.workerRef) : a.source = b.source := by
  rw [h.workers] at ha hb
  obtain ⟨row, -, rfl⟩ := List.mem_map.mp ha
  obtain ⟨row', -, rfl⟩ := List.mem_map.mp hb
  exact (CatalogRow.workerRef_inj href).1

/-- Each resource finds some worker, and its candidate reports the one that it finds. -/
theorem joins_iff_found (recipe : Option Recipe) (own : ResourceEntry → WorkerReport → Prop) :
    Joins snapshot recipe (fun resource candidate => own resource candidate.report) ↔
      ∀ resource ∈ snapshot.resources, ∀ found,
        lookupLast (·.workerBindingRef) snapshot.workers resource.workerBindingRef = some found →
          own resource found.report := by
  constructor
  · intro hjoins resource hresource found hfound
    obtain ⟨candidate, hcandidate, -, -, -, hown⟩ := hjoins.each resource hresource (h.exists_binds hresource)
    rw [ResourceCatalogSnapshot.tupleCandidate, hfound] at hcandidate
    obtain rfl := Option.some.inj hcandidate
    exact hown
  · intro hall
    refine ⟨List.perm_insertionSort _ _, fun resource hresource hworker => ?_⟩
    obtain ⟨worker, hmem, -, hbinding⟩ := hworker
    obtain ⟨found, hfound⟩ := Option.isSome_iff_exists.mp (lookupLast_isSome.mpr ⟨worker, hmem, hbinding⟩)
    refine ⟨_, congrArg (Option.map _) hfound, rfl, rfl, rfl, hall resource hresource found hfound⟩

theorem reportsEach_iff (recipe : Option Recipe) :
    Joins snapshot recipe (ReportsEach snapshot) ↔
      ∀ a ∈ snapshot.workers, ∀ b ∈ snapshot.workers, a.workerBindingRef = b.workerBindingRef →
        a.report = b.report := by
  refine (h.joins_iff_found recipe fun resource report =>
    ∀ worker ∈ snapshot.workers, resource.Binds worker → report = worker.report).trans ?_
  rw [← lookupLast_agrees_iff]
  constructor
  · intro hall worker hworker found hfound
    obtain ⟨resource, hresource, hbinds⟩ := h.exists_resource hworker
    exact hall resource hresource found (hbinds.2 ▸ hfound) worker hworker hbinds
  · intro hall resource _ found hfound worker hworker hbinds
    exact hall worker hworker found (hbinds.2.symm ▸ hfound)

theorem reportsOne_iff (recipe : Option Recipe) :
    Joins snapshot recipe (ReportsOne snapshot) ↔
      ∀ a ∈ snapshot.workers, ∀ b ∈ snapshot.workers, a.workerBindingRef = b.workerBindingRef →
        a.source = b.source := by
  refine (h.joins_iff_found recipe fun resource report =>
    ∃ worker ∈ snapshot.workers, resource.Binds worker ∧ report = worker.report).trans ?_
  rw [← lookupLast_agrees_iff]
  constructor
  · intro hall worker hworker found hfound
    obtain ⟨resource, hresource, hbinds⟩ := h.exists_resource hworker
    obtain ⟨own, hown, hownBinds, hreport⟩ := hall resource hresource found (hbinds.2 ▸ hfound)
    have href : found.workerRef = own.workerRef := congrArg WorkerReport.workerRef hreport
    rw [h.source_eq (lookupLast_eq_some hfound).1 hown href, hownBinds.1, hbinds.1]
  · intro hall resource hresource found hfound
    obtain ⟨worker, hworker, hbinds⟩ := h.exists_binds hresource
    obtain ⟨hmem, hbinding⟩ := lookupLast_eq_some hfound
    exact ⟨found, hmem, ⟨(hall worker hworker found (hbinds.2.symm ▸ hfound)).trans hbinds.1, hbinding⟩, rfl⟩

theorem forall_workers_iff {p : WorkerContract → WorkerContract → Prop} :
    (∀ a ∈ snapshot.workers, ∀ b ∈ snapshot.workers, a.workerBindingRef = b.workerBindingRef → p a b) ↔
      ∀ a ∈ inputs.rows, ∀ b ∈ inputs.rows, a.workerBindingRef = b.workerBindingRef →
        p (workerContract env a) (workerContract env b) := by
  rw [h.workers]
  simp only [List.forall_mem_map]
  rfl

end BuiltFrom

/-- Resources are joined with the workers of their own rows exactly when the rows that share a binding make one
contract; for some worker of the right source it is enough that they are of one source. -/
theorem joins_iff (h : buildResourceCatalogSnapshot py env iso inputs now = some snapshot)
    (recipe : Option Recipe) :
    (Joins snapshot recipe (ReportsEach snapshot) ↔ ∀ a ∈ inputs.rows, ∀ b ∈ inputs.rows,
      a.workerBindingRef = b.workerBindingRef → SameContract a b) ∧
    (Joins snapshot recipe (ReportsOne snapshot) ↔ ∀ a ∈ inputs.rows, ∀ b ∈ inputs.rows,
      a.workerBindingRef = b.workerBindingRef → a.source = b.source) := by
  have hbuilt := builtFrom h
  constructor
  · rw [hbuilt.reportsEach_iff, hbuilt.forall_workers_iff]
    simp only [report_eq_iff]
  · rw [hbuilt.reportsOne_iff, hbuilt.forall_workers_iff]
    rfl

/-! ## A candidate that was promoted -/

/-- An active tuple with one model, and a candidate with another -/
def qwenAndLlama (candidate : String) : CatalogInputs where
  tuples := [{ GovernanceCompiler.modalTuple "modal-a10g" 24 (1 / 1000) with modelRef := some "qwen" }]
  candidates := [{ source := .tupleCandidate, name := candidate, adapter := "modal", costPerSecond := 1
                   modelRef := some "llama" }]
  candidates_source row hrow := by
    obtain rfl := List.mem_singleton.mp hrow
    rfl
  expected := { configHash := "c0ffee", commit := none }
  artifacts := []

/-- The rows of the two -/
theorem mem_rows_qwenAndLlama {candidate : String} {row : CatalogRow} (h : row ∈ (qwenAndLlama candidate).rows) :
    row.source = .activeTuple ∧ row.workerBindingRef = "modal-a10g" ∧
        row = activeTuplePayload { GovernanceCompiler.modalTuple "modal-a10g" 24 (1 / 1000) with
          modelRef := some "qwen" } ∨
      row.source = .tupleCandidate ∧ row.workerBindingRef = candidate ∧
        row = { source := .tupleCandidate, name := candidate, adapter := "modal", costPerSecond := 1
                modelRef := some "llama" } := by
  obtain rfl | hrow := List.mem_cons.mp h
  · exact .inl ⟨rfl, rfl, rfl⟩
  · obtain rfl := List.mem_singleton.mp hrow
    exact .inr ⟨rfl, rfl, rfl⟩

theorem joins_iff_other : ∃ snapshot, buildResourceCatalogSnapshot livePriceBuiltins januaryEnvironment januaryIso
    (qwenAndLlama "modal-h100") 0 = some snapshot ∧
      Joins snapshot none (ReportsEach snapshot) ∧ Joins snapshot none (ReportsOne snapshot) := by
  obtain ⟨snapshot, hbuild⟩ : ∃ snapshot, buildResourceCatalogSnapshot livePriceBuiltins januaryEnvironment
    januaryIso (qwenAndLlama "modal-h100") 0 = some snapshot := ⟨_, rfl⟩
  have hrows : ∀ a ∈ (qwenAndLlama "modal-h100").rows, ∀ b ∈ (qwenAndLlama "modal-h100").rows,
      a.workerBindingRef = b.workerBindingRef → a = b := by
    have hne : "modal-a10g" ≠ "modal-h100" := by decide
    intro a ha b hb hbinding
    obtain ⟨-, hbindingA, hrowA⟩ | ⟨-, hbindingA, hrowA⟩ := mem_rows_qwenAndLlama ha <;>
      obtain ⟨-, hbindingB, hrowB⟩ | ⟨-, hbindingB, hrowB⟩ := mem_rows_qwenAndLlama hb
    · exact hrowA.trans hrowB.symm
    · exact absurd (hbindingA.symm.trans (hbinding.trans hbindingB)) hne
    · exact absurd (hbindingB.symm.trans (hbinding.symm.trans hbindingA)) hne
    · exact hrowA.trans hrowB.symm
  refine ⟨snapshot, hbuild, (joins_iff hbuild none).1.mpr ?_, (joins_iff hbuild none).2.mpr ?_⟩
  · intro a ha b hb hbinding
    obtain rfl := hrows a ha b hb hbinding
    exact ⟨rfl, rfl, rfl, rfl, rfl⟩
  · intro a ha b hb hbinding
    exact congrArg CatalogRow.source (hrows a ha b hb hbinding)

/-- An active tuple is reported with the model of the candidate of its name. -/
theorem not_joins_promoted : ∃ snapshot, buildResourceCatalogSnapshot livePriceBuiltins januaryEnvironment januaryIso
    (qwenAndLlama "modal-a10g") 0 = some snapshot ∧
      (∃ candidate ∈ snapshot.generateTupleCandidates none, candidate.source = .activeTuple ∧
        candidate.modelRef = some "llama") ∧
      ¬ Joins snapshot none (ReportsEach snapshot) ∧ ¬ Joins snapshot none (ReportsOne snapshot) := by
  have hone : ∀ snapshot, buildResourceCatalogSnapshot livePriceBuiltins januaryEnvironment januaryIso
      (qwenAndLlama "modal-a10g") 0 = some snapshot → ¬ Joins snapshot none (ReportsOne snapshot) := by
    intro snapshot hbuild hjoins
    have hbuilt := builtFrom hbuild
    have hsource := (hbuilt.forall_workers_iff.mp ((hbuilt.reportsOne_iff none).mp hjoins)) _ List.mem_cons_self _
      (List.mem_cons_of_mem _ List.mem_cons_self) rfl
    cases hsource
  refine ⟨_, rfl, ?_, fun hjoins => ?_, hone _ rfl⟩
  · exact ⟨_, (List.perm_insertionSort _ _).mem_iff.mpr
      (List.mem_filterMap.mpr ⟨_, List.mem_cons_self, rfl⟩), rfl, rfl⟩
  · exact hone _ rfl hjoins.one_of_each

end Gpucall
