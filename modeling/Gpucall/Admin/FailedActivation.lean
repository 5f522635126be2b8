import Gpucall.Admin.EvidenceKept
import Gpucall.Admin.TuplePromotion

/-! What an activation that fails leaves in the active configuration directory: the files that were written
before the step that failed, and what that step has left of its own. -/

namespace Gpucall

variable (disk : Disk) (yaml : Yaml)

/-! ## Where an activation stops -/

/-- The fault of a write. A write out of the directory leaves nothing in it. -/
def writeFault (tree : ConfigTree) : ConfigPath → Option WriteFault
  | .outside names => if (disk.fault (.outside names)).isSome then some .refused else none
  | .inside names =>
    if ∃ name ∈ names, '\x00' ∈ name.toList then some .refused
    else if (tree.lookup names).any (!·.isFile) || belowFile tree names then some .refused
    else disk.fault (.inside names)

def WriteFault.leaves : WriteFault → ConfigPath → List (List String × List ℕ)
  | .cut left, .inside names => [(names, left)]
  | _, _ => []

/-- The ways in which a step fails on a tree, each with what it leaves there. -/
inductive ActivationStep.Fails (force : Bool) (tree : ConfigTree) (step : ActivationStep) :
    List (List String × List ℕ) → Prop
  | unloaded (e : ActivationError) : step.payload = .error e → step.Fails force tree []
  | guarded (payload : Dict Json) : step.payload = .ok (some payload) →
    existsAt disk tree step.path = true → force = false → step.Fails force tree []
  | unwritten (payload : Dict Json) (fault : WriteFault) : step.payload = .ok (some payload) →
    (existsAt disk tree step.path = true → force = true) →
    writeFault disk tree step.path = some fault → step.Fails force tree (fault.leaves step.path)

/-- No step fails on what the steps before it have written. -/
def GoesThrough (force : Bool) (steps : List ActivationStep) (tree : ConfigTree) : Prop :=
  ∀ before step, before ++ [step] <+: steps →
    ∀ left, ¬ step.Fails disk force (insertAll tree (filesWritten yaml before)) left

/-- After the steps `before` the next one fails and leaves `left`. -/
def StopsAfter (force : Bool) (steps : List ActivationStep) (tree : ConfigTree)
    (before : List ActivationStep) (left : List (List String × List ℕ)) : Prop :=
  ∃ step, before ++ [step] <+: steps ∧ GoesThrough disk yaml force before tree ∧
    step.Fails disk force (insertAll tree (filesWritten yaml before)) left

/-- Whatever is written was there before. -/
def LeavesAll (tree : ConfigTree) (writes : List (List String × List ℕ)) : Prop :=
  ∀ path contents, lastWritten writes path = some contents →
    tree.lookup path = some { bytes := some contents }

/-- Wherever the activation stops, in a step or in the check at its end, all that it had written was
there before. -/
structure LeavesNoTrace (force : Bool) (steps : List ActivationStep) (rejected : ConfigTree → Prop)
    (tree : ConfigTree) : Prop where
  step : ∀ before left, StopsAfter disk yaml force steps tree before left →
    LeavesAll tree (filesWritten yaml before ++ left)
  check : GoesThrough disk yaml force steps tree →
    rejected (insertAll tree (filesWritten yaml steps)) → LeavesAll tree (filesWritten yaml steps)

variable {disk yaml} {force : Bool} {tree tree' : ConfigTree}

theorem insertAll_eq_self_iff {writes : List (List String × List ℕ)} :
    insertAll tree writes = tree ↔ LeavesAll tree writes := by
  constructor
  · intro heq path contents hwritten
    have hlookup := lookup_insertAll tree writes path
    rw [heq, hwritten] at hlookup
    exact hlookup
  · intro hleaves
    refine Finmap.ext_lookup fun path => ?_
    rw [lookup_insertAll]
    cases hwritten : lastWritten writes path with
    | none => rfl
    | some contents =>
      rw [hleaves path contents hwritten]
      rfl

theorem writeText_error_iff {path : ConfigPath} {text : String} :
    (∃ e, writeText disk tree path text = (tree', .error e)) ↔
      ∃ fault, writeFault disk tree path = some fault ∧ tree' = insertAll tree (fault.leaves path) := by
  cases path with
  | outside names =>
    cases hfault : (disk.fault (.outside names)).isSome with
    | true => simp [writeText, writeFault, hfault, WriteFault.leaves, insertAll, eq_comm]
    | false => simp [writeText, writeFault, hfault]
  | inside names =>
    simp only [writeText, writeFault]
    split_ifs with hnul hblocked
    · simp [WriteFault.leaves, insertAll, eq_comm]
    · simp [WriteFault.leaves, insertAll, eq_comm]
    · cases hfault : disk.fault (.inside names) with
      | none => simp
      | some fault =>
        cases fault <;> simp [WriteFault.leaves, insertAll, eq_comm]

theorem activateStep_error_iff {step : ActivationStep} :
    (∃ e, activateStep disk yaml force step tree = (tree', .error e)) ↔
      ∃ left, step.Fails disk force tree left ∧ tree' = insertAll tree left := by
  cases hpayload : step.payload with
  | error e =>
    simp only [activateStep, hpayload, Prod.mk.injEq, Except.error.injEq, exists_and_left,
      exists_eq', and_true]
    constructor
    · rintro rfl
      exact ⟨[], .unloaded e hpayload, rfl⟩
    · rintro ⟨left, hfails, rfl⟩
      cases hfails with
      | unloaded e' _ => rfl
      | guarded payload hpayload' _ _ => cases hpayload.symm.trans hpayload'
      | unwritten payload fault hpayload' _ _ => cases hpayload.symm.trans hpayload'
  | ok found =>
    cases found with
    | none =>
      simp only [activateStep, hpayload, Prod.mk.injEq, reduceCtorEq, and_false, exists_false,
        false_iff]
      rintro ⟨left, hfails, -⟩
      cases hfails with
      | unloaded e hpayload' => cases hpayload.symm.trans hpayload'
      | guarded payload hpayload' _ _ => cases hpayload.symm.trans hpayload'
      | unwritten payload fault hpayload' _ _ => cases hpayload.symm.trans hpayload'
    | some payload =>
      simp only [activateStep, hpayload, writeYamlGuarded]
      split
      · rename_i hguard
        rw [Bool.and_eq_true, Bool.not_eq_true'] at hguard
        simp only [Prod.mk.injEq, Except.error.injEq, exists_and_left, exists_eq', and_true]
        constructor
        · rintro rfl
          exact ⟨[], .guarded payload hpayload hguard.1 hguard.2, rfl⟩
        · rintro ⟨left, hfails, rfl⟩
          cases hfails with
          | unloaded e _ => rfl
          | guarded payload' _ _ _ => rfl
          | unwritten payload' fault _ hforce _ =>
            rw [hforce hguard.1] at hguard
            cases hguard.2
      · rename_i hguard
        have hforce : existsAt disk tree step.path = true → force = true := by simpa using hguard
        rw [writeText_error_iff]
        constructor
        · rintro ⟨fault, hfault, rfl⟩
          exact ⟨_, .unwritten payload fault hpayload hforce hfault, rfl⟩
        · rintro ⟨left, hfails, rfl⟩
          cases hfails with
          | unloaded e hpayload' => cases hpayload.symm.trans hpayload'
          | guarded payload' _ hexists hforce' => cases hforce'.symm.trans (hforce hexists)
          | unwritten payload' fault _ _ hfault => exact ⟨fault, hfault, rfl⟩

theorem goesThrough_cons {step : ActivationStep} {steps : List ActivationStep} :
    GoesThrough disk yaml force (step :: steps) tree ↔
      (∀ left, ¬ step.Fails disk force tree left) ∧
        GoesThrough disk yaml force steps (insertAll tree (filesWritten yaml [step])) := by
  constructor
  · intro h
    refine ⟨h [] step (List.cons_prefix_cons.mpr ⟨rfl, List.nil_prefix⟩), ?_⟩
    intro before other hprefix left
    rw [← insertAll_append, ← filesWritten_append, List.singleton_append]
    exact h (step :: before) other (List.cons_prefix_cons.mpr ⟨rfl, hprefix⟩) left
  · rintro ⟨hfirst, hrest⟩ before other hprefix left
    cases before with
    | nil =>
      obtain ⟨rfl, -⟩ := List.cons_prefix_cons.mp hprefix
      exact hfirst left
    | cons first before =>
      obtain ⟨rfl, hprefix'⟩ := List.cons_prefix_cons.mp hprefix
      have hother := hrest before other hprefix' left
      rwa [← insertAll_append, ← filesWritten_append, List.singleton_append] at hother

theorem runActivation_ok_iff {steps : List ActivationStep} :
    runActivation disk yaml force steps tree = (tree', .ok ()) ↔
      GoesThrough disk yaml force steps tree ∧ tree' = insertAll tree (filesWritten yaml steps) := by
  induction steps generalizing tree with
  | nil =>
    have hthrough : GoesThrough disk yaml force [] tree := by
      intro before step hprefix
      cases List.append_eq_nil_iff.mp (List.prefix_nil.mp hprefix) |>.2
    rw [and_iff_right hthrough, runActivation, StepRun.run, Prod.mk.injEq, and_iff_left rfl, eq_comm]
    rfl
  | cons step steps ih =>
    rw [goesThrough_cons, ← List.singleton_append, filesWritten_append, insertAll_append,
      List.singleton_append]
    cases hstep : activateStep disk yaml force step tree with
    | mk next result =>
      cases result with
      | ok =>
        rw [runActivation, StepRun.run_cons_ok hstep, ← runActivation, ih, (activateStep_ok hstep).1]
        refine and_congr_left fun _ => (and_iff_right fun left hfails => ?_).symm
        obtain ⟨e, he⟩ := activateStep_error_iff.mpr ⟨left, hfails, rfl⟩
        rw [hstep] at he
        cases congrArg Prod.snd he
      | error e =>
        rw [runActivation, StepRun.run_cons_error hstep]
        obtain ⟨left, hfails, -⟩ := activateStep_error_iff.mp ⟨e, hstep⟩
        refine iff_of_false (fun h => ?_) fun h => h.1.1 left hfails
        cases congrArg Prod.snd h

/-- An activation that fails leaves what was written before the step at which it stops, and what this one
leaves. -/
theorem runActivation_error_iff {steps : List ActivationStep} :
    (∃ e, runActivation disk yaml force steps tree = (tree', .error e)) ↔
      ∃ before left, StopsAfter disk yaml force steps tree before left ∧
        tree' = insertAll tree (filesWritten yaml before ++ left) := by
  constructor
  · rintro ⟨e, h⟩
    obtain ⟨before, step, next, hprefix, hbefore, hstep⟩ := StepRun.run_eq_error_iff.mp h
    obtain ⟨hthrough, rfl⟩ := runActivation_ok_iff.mp hbefore
    obtain ⟨left, hfails, rfl⟩ := activateStep_error_iff.mp ⟨e, hstep⟩
    exact ⟨before, left, ⟨step, hprefix, hthrough, hfails⟩, (insertAll_append ..).symm⟩
  · rintro ⟨before, left, ⟨step, hprefix, hthrough, hfails⟩, rfl⟩
    obtain ⟨e, hstep⟩ := activateStep_error_iff.mpr ⟨left, hfails, rfl⟩
    refine ⟨e, StepRun.run_eq_error_iff.mpr ⟨before, step, _, hprefix,
      runActivation_ok_iff.mpr ⟨hthrough, rfl⟩, ?_⟩⟩
    rw [hstep, insertAll_append]

/-- Activated and then checked, a directory is as it was after every failure exactly when no trace is
left. -/
theorem leavesNoTrace_iff {steps : List ActivationStep} {rejected : ConfigTree → Prop} :
    ((∀ tree' e, runActivation disk yaml force steps tree = (tree', .error e) → tree' = tree) ∧
        ∀ tree', runActivation disk yaml force steps tree = (tree', .ok ()) → rejected tree' →
          tree' = tree) ↔
      LeavesNoTrace disk yaml force steps rejected tree := by
  constructor
  · rintro ⟨herror, hok⟩
    constructor
    · intro before left hstops
      obtain ⟨e, he⟩ := runActivation_error_iff.mpr ⟨before, left, hstops, rfl⟩
      exact insertAll_eq_self_iff.mp (herror _ e he)
    · intro hthrough hrejected
      exact insertAll_eq_self_iff.mp (hok _ (runActivation_ok_iff.mpr ⟨hthrough, rfl⟩) hrejected)
  · intro h
    constructor
    · intro tree' e he
      obtain ⟨before, left, hstops, rfl⟩ := runActivation_error_iff.mp ⟨e, he⟩
      exact insertAll_eq_self_iff.mpr (h.step before left hstops)
    · intro tree' hok hrejected
      obtain ⟨hthrough, rfl⟩ := runActivation_ok_iff.mp hok
      exact insertAll_eq_self_iff.mpr (h.check hthrough hrejected)

/-! ## Without force -/

theorem exists_lastWritten {writes : List (List String × List ℕ)} {path : List String}
    {contents : List ℕ} (h : (path, contents) ∈ writes) : ∃ last, lastWritten writes path = some last := by
  have hmem : (path, contents) ∈ writes.reverse := List.mem_reverse.mpr h
  exact Option.isSome_iff_exists.mp (List.lookup_isSome_iff.mpr ⟨_, hmem, beq_self_eq_true path⟩)

theorem lookup_eq_none_of_insertAll {writes : List (List String × List ℕ)} {path : List String}
    (h : (insertAll tree writes).lookup path = none) : tree.lookup path = none := by
  rw [lookup_insertAll, Option.or_eq_none_iff] at h
  exact h.2

/-- A step that does not fail writes a path at which there was nothing. -/
theorem lookup_eq_none_of_not_fails {step : ActivationStep} {path : List String} {contents : List ℕ}
    (hfails : ∀ left, ¬ step.Fails disk false tree left)
    (hwritten : (path, contents) ∈ filesWritten yaml [step]) : tree.lookup path = none := by
  obtain ⟨other, hother, hwrite⟩ := List.mem_filterMap.mp hwritten
  obtain rfl := List.mem_singleton.mp hother
  split at hwrite
  · rename_i names payload hpath hpayload
    cases hwrite
    by_contra hne
    refine hfails [] (.guarded payload hpayload ?_ rfl)
    rw [hpath, existsAt]
    exact Option.isSome_iff_ne_none.mpr hne
  · cases hwrite

theorem lookup_eq_none_of_goesThrough {steps : List ActivationStep} {path : List String}
    {contents : List ℕ} (hthrough : GoesThrough disk yaml false steps tree)
    (hwritten : (path, contents) ∈ filesWritten yaml steps) : tree.lookup path = none := by
  induction steps generalizing tree with
  | nil => cases hwritten
  | cons step steps ih =>
    obtain ⟨hfirst, hrest⟩ := goesThrough_cons.mp hthrough
    rw [← List.singleton_append, filesWritten_append, List.mem_append] at hwritten
    obtain hwritten | hwritten := hwritten
    · exact lookup_eq_none_of_not_fails hfirst hwritten
    · exact lookup_eq_none_of_insertAll (ih hrest hwritten)

theorem lookup_eq_none_of_stopsAfter {steps before : List ActivationStep}
    {left : List (List String × List ℕ)} {path : List String} {contents : List ℕ}
    (hstops : StopsAfter disk yaml false steps tree before left)
    (hwritten : (path, contents) ∈ filesWritten yaml before ++ left) : tree.lookup path = none := by
  obtain ⟨step, -, hthrough, hfails⟩ := hstops
  obtain hwritten | hwritten := List.mem_append.mp hwritten
  · exact lookup_eq_none_of_goesThrough hthrough hwritten
  cases hfails with
  | unloaded => cases hwritten
  | guarded => cases hwritten
  | unwritten payload fault _ hforce _ =>
    cases hpath : step.path with
    | outside names =>
      rw [hpath] at hwritten
      cases fault <;> cases hwritten
    | inside names =>
      rw [hpath] at hwritten hforce
      cases fault with
      | refused => cases hwritten
      | cut left =>
        cases List.mem_singleton.mp hwritten
        have hnone : (insertAll tree (filesWritten yaml before)).lookup path = none := by
          refine Option.not_isSome_iff_eq_none.mp fun hsome => ?_
          cases hforce hsome
        exact lookup_eq_none_of_insertAll hnone

theorem leavesAll_iff_of_new {writes : List (List String × List ℕ)}
    (hnew : ∀ path contents, (path, contents) ∈ writes → tree.lookup path = none) :
    LeavesAll tree writes ↔ writes = [] := by
  constructor
  · intro hleaves
    refine List.eq_nil_iff_forall_not_mem.mpr ?_
    rintro ⟨path, contents⟩ hmem
    obtain ⟨last, hlast⟩ := exists_lastWritten hmem
    cases (hnew path contents hmem).symm.trans (hleaves path last hlast)
  · rintro rfl path contents hwritten
    cases hwritten

/-- An activation that may write over nothing leaves no trace exactly when it stops before it has written
anything. -/
theorem leavesNoTrace_iff_of_not_force {steps : List ActivationStep} {rejected : ConfigTree → Prop} :
    LeavesNoTrace disk yaml false steps rejected tree ↔
      (∀ before left, StopsAfter disk yaml false steps tree before left →
        filesWritten yaml before = [] ∧ left = []) ∧
      (GoesThrough disk yaml false steps tree →
        rejected (insertAll tree (filesWritten yaml steps)) → filesWritten yaml steps = []) := by
  have hstep (before left) (hstops : StopsAfter disk yaml false steps tree before left) :
      LeavesAll tree (filesWritten yaml before ++ left) ↔ filesWritten yaml before = [] ∧ left = [] := by
    rw [leavesAll_iff_of_new fun _ _ => lookup_eq_none_of_stopsAfter hstops, List.append_eq_nil_iff]
  have hcheck (hthrough : GoesThrough disk yaml false steps tree) :
      LeavesAll tree (filesWritten yaml steps) ↔ filesWritten yaml steps = [] :=
    leavesAll_iff_of_new fun _ _ => lookup_eq_none_of_goesThrough hthrough
  constructor
  · intro h
    refine ⟨fun before left hstops => (hstep before left hstops).mp (h.step before left hstops), ?_⟩
    exact fun hthrough hrejected => (hcheck hthrough).mp (h.check hthrough hrejected)
  · rintro ⟨hstops, hrejects⟩
    refine ⟨fun before left hstop => (hstep before left hstop).mpr (hstops before left hstop), ?_⟩
    exact fun hthrough hrejected => (hcheck hthrough).mpr (hrejects hthrough hrejected)

/-! ## The two activations -/

section Activations

variable (pydantic : Pydantic) (py : Builtins) (env : Environment) (yaml : Yaml) (conv : Conversions)

/-- A promotion that raises leaves the active directory as it was. -/
def PromotionFailsClean (world : PromotionWorld) (call : PromotionCall) (tree : ConfigTree) : Prop :=
  ∀ tree' e, promoteProductionTuple pydantic py env yaml conv world call tree = (tree', .error e) →
    tree' = tree

/-- A post-supply activation that raises leaves the active directory as it was. -/
def PostSupplyFailsClean (world : AdminWorld) (automation : RecipeAdminAutomation) (force : Bool)
    (promotion : PromotionDir) (tupleName recipeName : String) (tree : ConfigTree) : Prop :=
  ∀ tree' e, activatePostSupplyConfig yaml world automation force promotion tupleName recipeName tree =
    (tree', .error e) → tree' = tree

/-- The promotion comes to its activation, with these files. -/
def Activates (world : PromotionWorld) (call : PromotionCall) (tree : ConfigTree)
    (steps : List ActivationStep) : Prop :=
  call.activate = true ∧ ∃ promoted promotion,
    promotionStage pydantic py env yaml conv world call tree = .ok (.validated promoted promotion) ∧
      steps = activationSteps py env yaml world promoted promotion

/-- The copy of the directory passes its checks with the files of the promotion. -/
def StagedPasses (world : AdminWorld) (automation : RecipeAdminAutomation) (promotion : PromotionDir)
    (tupleName recipeName : String) (tree : ConfigTree) : Prop :=
  world.stage = .ok () ∧ ∃ staged,
    copyPromotionArtifacts world.stagedDisk yaml true automation.autoSetAutoSelect promotion tupleName
      recipeName tree = (staged, .ok ()) ∧ stagedDecision world automation staged = none

variable {pydantic py env yaml conv}

theorem promotionFailsClean_iff {world : PromotionWorld} {call : PromotionCall} :
    PromotionFailsClean pydantic py env yaml conv world call tree ↔
      ∀ steps, Activates pydantic py env yaml conv world call tree steps →
        LeavesNoTrace world.disk yaml call.force steps
          (fun tree => ∃ e, loadConfig pydantic py env yaml world tree = .error e) tree := by
  unfold PromotionFailsClean promoteProductionTuple
  cases hstage : promotionStage pydantic py env yaml conv world call tree with
  | error e =>
    refine iff_of_true (fun tree' e' h => (congrArg Prod.fst h).symm) ?_
    rintro steps ⟨-, promoted, promotion, hvalidated, -⟩
    cases hstage.symm.trans hvalidated
  | ok stage =>
    cases stage with
    | decided decision =>
      refine iff_of_true (fun tree' e' h => (congrArg Prod.fst h).symm) ?_
      rintro steps ⟨-, promoted, promotion, hvalidated, -⟩
      cases hstage.symm.trans hvalidated
    | validated promoted promotion =>
      cases hactivate : call.activate with
      | false =>
        refine iff_of_true (fun tree' e' h => (congrArg Prod.fst h).symm) ?_
        rintro steps ⟨hon, -⟩
        cases hactivate.symm.trans hon
      | true =>
        have hsteps : (∀ steps, Activates pydantic py env yaml conv world call tree steps →
            LeavesNoTrace world.disk yaml call.force steps
              (fun tree => ∃ e, loadConfig pydantic py env yaml world tree = .error e) tree) ↔
            LeavesNoTrace world.disk yaml call.force (activationSteps py env yaml world promoted promotion)
              (fun tree => ∃ e, loadConfig pydantic py env yaml world tree = .error e) tree := by
          constructor
          · intro h
            exact h _ ⟨hactivate, promoted, promotion, hstage, rfl⟩
          · rintro h steps ⟨-, promoted', promotion', hvalidated, rfl⟩
            cases hstage.symm.trans hvalidated
            exact h
        rw [hsteps, ← leavesNoTrace_iff]
        dsimp only
        rw [Bool.not_true, if_neg Bool.false_ne_true]
        cases hrun : runActivation world.disk yaml call.force
            (activationSteps py env yaml world promoted promotion) tree with
        | mk written result =>
          cases result with
          | error e => simp
          | ok =>
            cases hload : loadConfig pydantic py env yaml world written with
            | error e => simp +contextual [hload]
            | ok models => simp +contextual [hload]

theorem postSupplyFailsClean_iff {world : AdminWorld} {automation : RecipeAdminAutomation}
    {promotion : PromotionDir} {tupleName recipeName : String} :
    PostSupplyFailsClean yaml world automation force promotion tupleName recipeName tree ↔
      (StagedPasses yaml world automation promotion tupleName recipeName tree →
        LeavesNoTrace world.disk yaml force
          (promotionSteps world.disk.root automation.autoSetAutoSelect promotion tupleName recipeName)
          (fun _ => False) tree) := by
  unfold PostSupplyFailsClean activatePostSupplyConfig StagedPasses
  cases hstage : world.stage with
  | error e =>
    refine iff_of_true (fun tree' e' h => (congrArg Prod.fst h).symm) ?_
    rintro ⟨hstaged, -⟩
    cases hstaged
  | ok =>
    rw [← leavesNoTrace_iff]
    dsimp only
    cases hcopy : copyPromotionArtifacts world.stagedDisk yaml true automation.autoSetAutoSelect
        promotion tupleName recipeName tree with
    | mk staged result =>
      cases result with
      | error e => simp +contextual
      | ok =>
        cases hdecision : stagedDecision world automation staged with
        | some decision => simp [hdecision]
        | none =>
          rw [copyPromotionArtifacts] at hcopy ⊢
          cases hrun : runActivation world.disk yaml force (promotionSteps world.disk.root
              automation.autoSetAutoSelect promotion tupleName recipeName) tree with
          | mk written result =>
            cases result with
            | error e => simp [hdecision]
            | ok => simp [hdecision]

end Activations

/-- A failed activation changes nothing exactly when all that it had written was there before. -/
theorem failedActivation_iff (pydantic : Pydantic) (py : Builtins) (env : Environment) (yaml : Yaml)
    (conv : Conversions) :
    (∀ (world : PromotionWorld) (call : PromotionCall) (tree : ConfigTree),
      PromotionFailsClean pydantic py env yaml conv world call tree ↔
        ∀ steps, Activates pydantic py env yaml conv world call tree steps →
          LeavesNoTrace world.disk yaml call.force steps
            (fun tree => ∃ e, loadConfig pydantic py env yaml world tree = .error e) tree) ∧
    ∀ (world : AdminWorld) (automation : RecipeAdminAutomation) (force : Bool)
      (promotion : PromotionDir) (tupleName recipeName : String) (tree : ConfigTree),
      PostSupplyFailsClean yaml world automation force promotion tupleName recipeName tree ↔
        (StagedPasses yaml world automation promotion tupleName recipeName tree →
          LeavesNoTrace world.disk yaml force
            (promotionSteps world.disk.root automation.autoSetAutoSelect promotion tupleName recipeName)
            (fun _ => False) tree) :=
  ⟨fun _ _ _ => promotionFailsClean_iff, fun _ _ _ _ _ _ _ => postSupplyFailsClean_iff⟩

/-! ## A tuple that is there already -/

/-- A promotion of a recipe and of a tuple. -/
def firstPromotion : PromotionDir := fun directory _ =>
  if directory ∈ ["recipes", "tuples"] then
    some (.mapping firstReview.canonicalRecipe)
  else none

/-- A directory that has a tuple of the name. -/
def suppliedTree : ConfigTree :=
  Finmap.singleton ["tuples", "modal-h100.yml"] { bytes := some (utf8 "name: modal-h100\n") }

/-- Where the tuple is there already, the recipe stays behind. -/
theorem not_failedActivation :
    ¬ ((∀ (pydantic : Pydantic) (py : Builtins) (env : Environment) (yaml : Yaml) (conv : Conversions)
        (world : PromotionWorld) (call : PromotionCall) (tree : ConfigTree),
        PromotionFailsClean pydantic py env yaml conv world call tree) ∧
      ∀ (yaml : Yaml) (world : AdminWorld) (automation : RecipeAdminAutomation) (force : Bool)
        (promotion : PromotionDir) (tupleName recipeName : String) (tree : ConfigTree),
        PostSupplyFailsClean yaml world automation force promotion tupleName recipeName tree) := by
  rintro ⟨-, h⟩
  have hsame := h nameYaml quietWorld firstAutomation false firstPromotion "modal-h100"
    "text-infer-standard" suppliedTree _ _ rfl
  have hrecipe := congrArg (Finmap.lookup ["recipes", "text-infer-standard.yml"]) hsame
  revert hrecipe
  decide

end Gpucall
