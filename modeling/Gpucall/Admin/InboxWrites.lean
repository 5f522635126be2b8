import Gpucall.Admin.Inbox

/-! Where `process_inbox` writes for a submission. The moved files, the recipes and the staged configurations stay in
the folders that they are meant for, whatever the submission says. The names of its reports are made from its request
id as it is. -/

namespace Gpucall.Inbox

open Effects

/-! ## Paths -/

/-- The path leads into one of the folders, or to the index. -/
def InboxFolders.Inside (folders : InboxFolders) (path : List String) : Prop :=
  path = folders.index ∨ ∃ location ∈ [folders.reports, folders.processed, folders.processing, folders.failed,
    folders.output], location <+: path

/-- A file system knows no path with a null character in it. -/
def IsPath (path : List String) : Prop := ∀ name ∈ path, '\x00' ∉ name.toList

/-- The files that are copied for a promoted tuple -/
def artifactPaths (config : List String) (recipeName tuple : String) : List (List String) :=
  (config ++ ["recipes", recipeName ++ ".yml"]) ::
    ["tuples", "surfaces", "workers"].map fun directory => config ++ [directory, tuple ++ ".yml"]

/-- The files, or the folders of files, that a call creates or writes over -/
def InboxCall.writes (folders : InboxFolders) : InboxCall → List (List String)
  | move _ target | copyTree _ target => [target]
  | upsertPending .. | markProcessing .. | markTerminal .. => [folders.index]
  | linkRetainOrWrite path _ | writeReport path | writeRecipe path => [path]
  | readiness _ => [folders.panopticon]
  | smoke .. => [folders.state]
  | promote workDir => [workDir ++ ["config"]]
  | applyPatches config => [config]
  | copyPromotionArtifacts config recipeName tuple => artifactPaths config recipeName tuple
  | _ => []

/-- What the automation writes to without a test that it stays in the folders. -/
inductive AutomationPath (folders : InboxFolders) (automation : InboxAutomation) (requestId recipeName : String)
    (config : List String) : List String → Prop where
  | existingReport (h : automation.autoValidateExistingTuples) :
    AutomationPath folders automation requestId recipeName config
      (reportPath folders.reports requestId .existingTupleActivation)
  | existingReadiness (h : automation.autoValidateExistingTuples) (hbillable : automation.autoBillableValidation)
      {path : List String} (hpath : path ∈ [reportPath folders.reports requestId .existingTupleReadiness,
        folders.panopticon, folders.state]) :
    AutomationPath folders automation requestId recipeName config path
  | existingRecipe (h : automation.autoActivateExistingValidatedRecipe) :
    AutomationPath folders automation requestId recipeName config (config ++ ["recipes", recipeName ++ ".yml"])
  | workDir (h : automation.autoPromoteCandidates) :
    AutomationPath folders automation requestId recipeName config
      (PosixPath.join folders.workRoot requestId ++ ["config"])
  | promotion (h : automation.autoPromoteCandidates)
      (hbillable : automation.autoBillableValidation → automation.autoProvisionSupply) :
    AutomationPath folders automation requestId recipeName config (reportPath folders.reports requestId .promotion)
  | supply (h : automation.autoProvisionSupply) {path : List String}
      (hpath : path ∈ folders.panopticon :: [ReportKind.supplyProvisioningPlan, .supplyProvisioningApply,
        .postSupplyReadiness, .postSupplyWorkflow].map (reportPath folders.reports requestId)) :
    AutomationPath folders automation requestId recipeName config path
  | validation (h : automation.autoProvisionSupply) (hbillable : automation.autoBillableValidation)
      {path : List String} (hpath : path ∈ [folders.state,
        reportPath folders.reports requestId .postSupplyValidation]) :
    AutomationPath folders automation requestId recipeName config path
  | activation (h : automation.autoProvisionSupply) (hactivate : automation.autoActivateValidated) (tuple : String)
      {path : List String} (hpath : path ∈ artifactPaths config recipeName tuple) :
    AutomationPath folders automation requestId recipeName config path

/-! ## Names -/

section Names

variable {env : Environment}

theorem mem_dashRuns {keep : Char → Bool} {inRun : Bool} {chars : List Char} {c : Char}
    (h : c ∈ dashRuns keep inRun chars) : keep c ∨ c = '-' := by
  induction chars generalizing inRun with
  | nil => cases h
  | cons first chars ih =>
    rw [dashRuns] at h
    split_ifs at h with hkeep hrun
    · rcases List.mem_cons.mp h with rfl | h
      · exact .inl hkeep
      · exact ih h
    · exact ih h
    · rcases List.mem_cons.mp h with rfl | h
      · exact .inr rfl
      · exact ih h

theorem mem_dashed {keep : Char → Bool} {text : String} {c : Char} (h : c ∈ (dashed keep text).toList) :
    keep c ∨ c = '-' := by
  rw [dashed, String.toList_ofList, List.mem_reverse] at h
  exact mem_dashRuns (List.dropWhile_subset _ (List.mem_reverse.mp (List.dropWhile_subset _ h)))

/-- The characters of a recipe's name make it a file name. -/
theorem mem_canonicalName {value : String} {c : Char} (h : c ∈ (canonicalName env value).toList) :
    isNameChar c ∨ c = '-' := by
  rw [canonicalName, orDefault] at h
  split_ifs at h with hempty
  · have hdraft : ∀ c ∈ "recipe-draft".toList, isNameChar c ∨ c = '-' := by decide
    exact hdraft c h
  · rcases mem_dashed h with hkeep | hdash
    · simpa using hkeep
    · exact .inr hdash

theorem canonicalName_ne_empty {value : String} : canonicalName env value ≠ "" := by
  rw [canonicalName, orDefault]
  split_ifs with hempty
  · decide
  · exact hempty

theorem recipeYamlPath_canonicalName (value : String) :
    recipeYamlPath (canonicalName env value) = .ok ["recipes", canonicalName env value ++ ".yml"] := by
  have hnot (c : Char) (hc : ¬ (isNameChar c ∨ c = '-')) : c ∉ (canonicalName env value).toList :=
    fun hmem => hc (mem_canonicalName hmem)
  have hdots : canonicalName env value ≠ "." ∧ canonicalName env value ≠ ".." := by
    refine ⟨fun heq => hnot '.' (by decide) ?_, fun heq => hnot '.' (by decide) ?_⟩ <;> rw [heq] <;> decide
  rw [recipeYamlPath, if_neg]
  simp [canonicalName_ne_empty, hdots.1, hdots.2, hnot '/' (by decide), hnot '\\' (by decide)]

theorem recipeYamlPath_canonicalRecipe {py : Builtins} {conv : Conversions} {world : Materialization}
    {artifact : Dict Json} {recipe : CanonicalRecipe}
    (h : canonicalRecipeFromArtifact py env conv world artifact = .ok recipe) :
    recipeYamlPath recipe.name = .ok ["recipes", recipe.name ++ ".yml"] := by
  simp only [canonicalRecipeFromArtifact, bind, Except.bind, pure, Except.pure] at h
  repeat (split at h; · cases h)
  rw [← Except.ok.inj h]
  dsimp only
  exact recipeYamlPath_canonicalName _

/-- No suffix of a report ends another one. -/
theorem ReportKind.suffix_inj {kind kind' : ReportKind} (h : kind.suffix.toList <:+ kind'.suffix.toList) :
    kind = kind' := by
  revert h
  cases kind <;> cases kind' <;> decide

theorem ReportKind.append_suffix {kind kind' : ReportKind} {name name' : String}
    (h : name ++ kind.suffix = name' ++ kind'.suffix) : kind = kind' ∧ name = name' := by
  have hlists := congrArg String.toList h
  rw [String.toList_append, String.toList_append] at hlists
  have hkind : kind = kind' := by
    have hends : kind.suffix.toList <:+ name.toList ++ kind.suffix.toList := List.suffix_append _ _
    have hends' : kind'.suffix.toList <:+ name.toList ++ kind.suffix.toList := hlists ▸ List.suffix_append _ _
    rcases List.suffix_or_suffix_of_suffix hends hends' with hsuffix | hsuffix
    · exact suffix_inj hsuffix
    · exact (suffix_inj hsuffix).symm
  subst hkind
  exact ⟨rfl, (String.append_left_inj _).mp h⟩

/-- The reports of an id are beside each other, with one name before their endings. -/
theorem reportPath_place (reports : List String) (requestId : String) :
    ∃ above last, ∀ kind, reportPath reports requestId kind = above ++ [last ++ kind.suffix] := by
  obtain ⟨above, last, happend⟩ := PosixPath.join_append reports requestId
  exact ⟨above, last, fun kind => happend (by cases kind <;> decide) (by cases kind <;> decide)⟩

/-- Ids of which two reports are at one place have all their reports there. -/
theorem reportPath_eq {reports : List String} {requestId other : String} {kind kind' : ReportKind}
    (h : reportPath reports requestId kind = reportPath reports other kind') (kind'' : ReportKind) :
    kind = kind' ∧ reportPath reports requestId kind'' = reportPath reports other kind'' := by
  obtain ⟨above, last, hplace⟩ := reportPath_place reports requestId
  obtain ⟨above', last', hplace'⟩ := reportPath_place reports other
  rw [hplace, hplace'] at h
  obtain ⟨rfl, hname⟩ := List.append_inj' h rfl
  obtain ⟨hkind, rfl⟩ := ReportKind.append_suffix (List.singleton_inj.mp hname)
  exact ⟨hkind, (hplace kind'').trans (hplace' kind'').symm⟩

/-- A sanitized id makes a file name. -/
theorem slash_notMem_safeId {alnum : Alphanumeric} {requestId : String} :
    '/' ∉ (safeId alnum requestId).toList := by
  rw [safeId, orDefault]
  split_ifs with hempty
  · decide
  · rw [String.toList_ofList, List.mem_map]
    rintro ⟨c, -, hc⟩
    split_ifs at hc with hkeep
    · subst hc
      simp [alnum.slash] at hkeep
    · exact absurd hc (by decide)

end Names

/-! ## What each part writes -/

section Parts

variable {alnum : Alphanumeric} {folders : InboxFolders} {automation : InboxAutomation} {requestId : String}
  {recipeName : String} {config : List String} {C : InboxCall → Prop}

/-- Each path that is written is inside, or one of some others. -/
def Writes (folders : InboxFolders) (others : List String → Prop) (op : InboxCall) : Prop :=
  ∀ path ∈ op.writes folders, folders.Inside path ∨ others path

/-- The call leaves the submissions, their rows and their own reports alone. -/
def InboxCall.Quiet (reports : List String) (requestId : String) : InboxCall → Prop
  | materializationCatalog | listing | load _ | move .. | upsertPending .. | markProcessing ..
  | markTerminal .. => False
  | writeReport path => ∃ kind ≠ .report, path = reportPath reports requestId kind
  | _ => True

/-- What the automation may call. -/
def Automates (folders : InboxFolders) (others : List String → Prop) (requestId : String) (op : InboxCall) : Prop :=
  Writes folders others op ∧ op.Quiet folders.reports requestId

/-- It is an `Exception`. -/
def InboxError.IsException : InboxError → Prop
  | .exception _ => True
  | .systemExit _ => False

/-- The calls of a program meet a condition, and what it raises is an `Exception`, as what they raise. -/
abbrev Calls {α : Type} (C : InboxCall → Prop) (p : InboxProg α) : Prop :=
  p.Ensures C InboxError.IsException fun _ => True

variable {others : List String → Prop}

theorem calls_pure {α : Type} (a : α) : Calls C (pure a) := Prog.ensures_pure trivial

theorem calls_raise {α : Type} (e : ActivationError) : Calls C (raise e : InboxProg α) := Prog.ensures_throw trivial

theorem calls_raise_bind {α β : Type} {e : ActivationError} {f : α → InboxProg β} : Calls C (raise e >>= f) :=
  Prog.ensures_throw trivial

theorem calls_orRaise {α : Type} (value : Except ActivationError α) : Calls C (orRaise value) := by
  cases value with
  | ok value => exact calls_pure value
  | error e => exact calls_raise e

theorem calls_bind {α β : Type} {p : InboxProg α} {f : α → InboxProg β} (hp : Calls C p)
    (hf : ∀ a, Calls C (f a)) : Calls C (p >>= f) := hp.bind fun a _ => hf a

theorem calls_ite {α : Type} {c : Prop} [Decidable c] {p q : InboxProg α} (hp : c → Calls C p)
    (hq : ¬ c → Calls C q) : Calls C (if c then p else q) := by
  split
  · exact hp ‹_›
  · exact hq ‹_›

/-- A call that writes nothing -/
theorem calls_read {op : InboxCall} (h : op.writes folders = []) :
    Calls (Writes folders others) (inboxCall op) :=
  Prog.ensures_call fun path hpath => by simp [h] at hpath

/-- A call that writes one path -/
theorem calls_write {op : InboxCall} {path : List String} (h : op.writes folders = [path])
    (hpath : folders.Inside path ∨ others path) : Calls (Writes folders others) (inboxCall op) := by
  refine Prog.ensures_call fun written hwritten => ?_
  rw [h, List.mem_singleton] at hwritten
  rwa [hwritten]

/-- A call of the automation that writes nothing -/
theorem automates_read {op : InboxCall} (h : op.writes folders = [])
    (hquiet : op.Quiet folders.reports requestId) :
    Calls (Automates folders others requestId) (inboxCall op) :=
  Prog.ensures_call ⟨fun path hpath => by simp [h] at hpath, hquiet⟩

/-- A call of the automation that writes one path -/
theorem automates_write {op : InboxCall} {path : List String} (h : op.writes folders = [path])
    (hpath : folders.Inside path ∨ others path) (hquiet : op.Quiet folders.reports requestId) :
    Calls (Automates folders others requestId) (inboxCall op) := by
  refine Prog.ensures_call ⟨fun written hwritten => ?_, hquiet⟩
  rw [h, List.mem_singleton] at hwritten
  rwa [hwritten]

theorem automates_report {kind : ReportKind} (hkind : kind ≠ .report)
    (hpath : others (reportPath folders.reports requestId kind)) :
    Calls (Automates folders others requestId) (writeReport folders requestId kind) :=
  automates_write rfl (.inr hpath) ⟨kind, hkind, rfl⟩

theorem inside_reports (rest : List String) : folders.Inside (folders.reports ++ rest) :=
  .inr ⟨folders.reports, List.mem_cons_self, List.prefix_append _ _⟩

/-- A file gets another name in the folder that it is moved to, at most. -/
theorem ensures_tryDestinations {destination : InboxPath} (hexists : ∀ path, C (.exists path)) (htime : C .timeNs)
    (attempts : List ℕ) : (tryDestinations destination attempts).Ensures C InboxError.IsException
      fun target => target.folder = destination.folder := by
  induction attempts with
  | nil => exact Prog.ensures_throw trivial
  | cons attempt attempts ih =>
    refine (Prog.ensures_call htime).bind fun now _ => (Prog.ensures_call (hexists _)).bind fun taken _ => ?_
    split
    · exact ih
    · exact Prog.ensures_pure rfl

theorem ensures_uniqueDestination {destination : InboxPath} (hexists : ∀ path, C (.exists path)) (htime : C .timeNs) :
    (uniqueDestination destination).Ensures C InboxError.IsException
      fun target => target.folder = destination.folder := by
  refine (Prog.ensures_call (hexists _)).bind fun taken _ => ?_
  split
  · exact ensures_tryDestinations hexists htime _
  · exact Prog.ensures_pure rfl

theorem calls_moveSubmission {source destination : InboxPath} (hexists : ∀ path, C (.exists path)) (htime : C .timeNs)
    (hmove : ∀ name, C (.move source.names (destination.folder ++ [name]))) :
    Calls C (moveSubmission source destination) := by
  refine (ensures_uniqueDestination hexists htime).bind fun target htarget => ?_
  have hnames : target.names = destination.folder ++ [target.name] := by rw [InboxPath.names, htarget]
  exact calls_bind (Prog.ensures_call (hnames ▸ hmove target.name)) fun _ => calls_pure _

/-- A configuration is staged in a folder of the reports. -/
theorem join_staged (requestId ending : String) (h : '/' ∉ ending.toList)
    (hlong : 2 < ending.length) :
    PosixPath.join folders.reports (safeId alnum requestId ++ ending) =
      folders.reports ++ [safeId alnum requestId ++ ending] := by
  have hshort : ∀ short : String, short.length ≤ 2 → safeId alnum requestId ++ ending ≠ short := by
    intro short hle heq
    have hlength := congrArg String.length heq
    rw [String.length_append] at hlength
    omega
  refine PosixPath.join_name ?_ ⟨hshort "" (by decide), hshort "." (by decide), hshort ".." (by decide)⟩
  rw [String.toList_append, List.mem_append, not_or]
  exact ⟨slash_notMem_safeId, h⟩

theorem slash_notMem_toString (n : ℕ) : '/' ∉ (toString n).toList := by
  intro h
  rw [Nat.toString_eq_repr, Nat.toList_repr] at h
  exact absurd (Nat.isDigit_of_mem_toDigits (by decide) (by decide) h) (by decide)

theorem ensures_stageFrom {destination ending : String} {attempts : List ℕ} {stagedId : String}
    (hdestination : destination = safeId alnum stagedId ++ ending) (hslash : '/' ∉ ending.toList)
    (hlong : 2 < ending.length) :
    (stageFrom alnum folders stagedId config destination attempts).Ensures (Automates folders others requestId)
      InboxError.IsException fun staged => folders.reports <+: staged := by
  induction attempts generalizing destination ending with
  | nil => exact Prog.ensures_throw trivial
  | cons attempt attempts ih =>
    have hjoin : PosixPath.join folders.reports destination = folders.reports ++ [destination] := by
      rw [hdestination]
      exact join_staged stagedId ending hslash hlong
    refine Prog.Ensures.bind (automates_read rfl trivial) fun taken _ => ?_
    split
    · refine Prog.Ensures.bind (automates_read rfl trivial) fun now _ => ?_
      refine @ih _ (".activation-config-" ++ toString now ++ "-" ++ toString attempt) ?_ ?_ ?_
      · simp only [String.append_assoc]
      · simp only [String.toList_append, List.mem_append, not_or]
        exact ⟨⟨⟨by decide, slash_notMem_toString _⟩, by decide⟩, slash_notMem_toString _⟩
      · simp only [String.length_append]
        have hfirst : ".activation-config-".length = 19 := by decide
        omega
    · have hprefix : folders.reports <+: PosixPath.join folders.reports destination :=
        hjoin ▸ List.prefix_append _ _
      exact Prog.Ensures.bind (automates_write rfl (.inl (.inr ⟨_, List.mem_cons_self, hprefix⟩)) trivial)
        fun _ _ => Prog.ensures_pure hprefix

theorem ensures_stageActivationConfig {stagedId : String} :
    (stageActivationConfig alnum folders stagedId config).Ensures (Automates folders others requestId)
      InboxError.IsException fun staged => folders.reports <+: staged :=
  ensures_stageFrom rfl (by decide) (by decide)

theorem inside_of_reports {path : List String} (h : folders.reports <+: path) : folders.Inside path :=
  .inr ⟨_, List.mem_cons_self, h⟩

theorem calls_anySmokePasses (hstate : others folders.state) (tuples : List String) :
    Calls (Automates folders others requestId) (anySmokePasses recipeName tuples) := by
  induction tuples with
  | nil => exact calls_pure _
  | cons tuple tuples ih =>
    exact calls_bind (automates_write rfl (.inr hstate) trivial) fun passed => calls_ite (fun _ => calls_pure _) fun _ => ih

theorem calls_checksPass : Calls (Automates folders others requestId) (checksPass automation config) := by
  have hcheck {rest : InboxProg Bool} (hrest : Calls (Automates folders others requestId) rest) :
      Calls (Automates folders others requestId) (do
        if !(← inboxCall (.check config)) then return false
        rest) :=
    calls_bind (automates_read rfl trivial) fun passed => calls_ite (fun _ => calls_pure _) fun _ => hrest
  have hlaunch := calls_ite (c := automation.autoRunLaunchCheck = true) (fun _ => hcheck (calls_pure true))
    fun _ => calls_pure true
  exact calls_ite (fun _ => hcheck hlaunch) fun _ => hlaunch

end Parts

/-! ## What the automation writes -/

section Automation

variable {alnum : Alphanumeric} {folders : InboxFolders} {automation : InboxAutomation} {requestId : String}
  {recipeName : String} {config : List String}

/-- A call of the automation writes inside, or to one of its own paths. -/
abbrev AutomationWrites (folders : InboxFolders) (automation : InboxAutomation) (requestId recipeName : String)
    (config : List String) : InboxCall → Prop :=
  Automates folders (AutomationPath folders automation requestId recipeName config) requestId

theorem calls_existingTupleValidated {review : InboxReview} (h : automation.autoValidateExistingTuples) :
    Calls (AutomationWrites folders automation requestId recipeName config)
      (existingTupleValidated folders automation requestId review recipeName) := by
  refine calls_ite (fun _ => calls_pure _) fun _ => calls_ite (fun _ => calls_pure _) fun hbillable => ?_
  have hbillable : automation.autoBillableValidation := by simpa using hbillable
  have hpath {path : List String} (hmem : path ∈ [reportPath folders.reports requestId .existingTupleReadiness,
      folders.panopticon, folders.state]) :
      AutomationPath folders automation requestId recipeName config path := .existingReadiness h hbillable hmem
  refine calls_bind (automates_write rfl (.inr (hpath (by simp))) trivial) fun refreshed => ?_
  refine calls_bind (automates_report (by decide) (hpath (by simp))) fun _ => ?_
  refine calls_ite (fun _ => calls_pure _) fun _ => calls_bind (automates_read rfl trivial) fun ready => ?_
  refine calls_ite (fun _ => calls_pure _) fun _ => calls_bind (automates_read rfl trivial) fun targets => ?_
  exact calls_anySmokePasses (hpath (by simp)) _

theorem calls_activateExistingRecipe (h : automation.autoActivateExistingValidatedRecipe)
    (hname : recipeYamlPath recipeName = .ok ["recipes", recipeName ++ ".yml"]) :
    Calls (AutomationWrites folders automation requestId recipeName config)
      (activateExistingRecipe alnum folders automation requestId config recipeName) := by
  have hactive : Calls (AutomationWrites folders automation requestId recipeName config)
      (inboxCall (.writeRecipe (config ++ ["recipes", recipeName ++ ".yml"]))) :=
    automates_write rfl (.inr (.existingRecipe h)) trivial
  simp only [activateExistingRecipe, hname, orRaise, pure_bind]
  refine calls_bind (automates_read rfl trivial) fun active => calls_ite (fun _ => calls_pure _) fun _ => ?_
  refine calls_bind (automates_read rfl trivial) fun safe => calls_ite (fun _ => calls_pure _) fun _ => ?_
  refine calls_ite (fun _ => ?_) fun _ => hactive
  refine ensures_stageActivationConfig.bind fun staged hstaged => ?_
  have hinside := inside_of_reports (hstaged.trans (List.prefix_append staged ["recipes", recipeName ++ ".yml"]))
  refine calls_bind (automates_write rfl (.inl hinside) trivial) fun _ => ?_
  exact calls_bind calls_checksPass fun passed => calls_ite (fun _ => calls_pure _) fun _ => hactive

theorem calls_autoExistingTupleReport {review : InboxReview} (hconfig : folders.config = some config)
    (hname : recipeYamlPath recipeName = .ok ["recipes", recipeName ++ ".yml"]) :
    Calls (AutomationWrites folders automation requestId recipeName config)
      (autoExistingTupleReport alnum folders automation requestId review recipeName) := by
  rw [autoExistingTupleReport, hconfig]
  refine calls_ite (fun _ => calls_pure _) fun h => ?_
  have h : automation.autoValidateExistingTuples := by simpa using h
  have hreport : Calls (AutomationWrites folders automation requestId recipeName config)
      (writeReport folders requestId .existingTupleActivation) := automates_report (by decide) (.existingReport h)
  refine calls_ite (fun _ => calls_raise_bind) fun _ => ?_
  refine calls_ite (fun _ => calls_pure _) fun _ => calls_bind (calls_existingTupleValidated h) fun validated => ?_
  refine calls_ite (fun _ => calls_ite (fun hactivate => ?_) fun _ => hreport) fun _ => hreport
  exact calls_bind (calls_activateExistingRecipe hactivate hname) fun _ => hreport

theorem calls_provisionSupply {promotion : InboxPromotion} (h : automation.autoProvisionSupply) :
    Calls (AutomationWrites folders automation requestId recipeName config)
      (provisionSupply folders requestId promotion) := by
  have hpath {kind : ReportKind} (hkind : kind ∈ [ReportKind.supplyProvisioningPlan, .supplyProvisioningApply,
      .postSupplyReadiness, .postSupplyWorkflow]) :
      AutomationPath folders automation requestId recipeName config (reportPath folders.reports requestId kind) :=
    .supply h (List.mem_cons_of_mem _ (List.mem_map_of_mem hkind))
  refine calls_ite (fun _ => calls_pure _) fun _ => calls_bind (automates_read rfl trivial) fun planned => ?_
  refine calls_ite (fun _ => calls_pure _) fun _ => ?_
  refine calls_bind (automates_report (by decide) (hpath (by decide))) fun _ => ?_
  refine calls_bind (automates_read rfl trivial) fun decision => ?_
  exact calls_bind (automates_report (by decide) (hpath (by decide))) fun _ => calls_pure _

theorem calls_activatePostSupplyConfig {tuple : String} (h : automation.autoProvisionSupply)
    (hactivate : automation.autoActivateValidated) :
    Calls (AutomationWrites folders automation requestId recipeName config)
      (activatePostSupplyConfig alnum folders automation requestId config recipeName tuple) := by
  refine ensures_stageActivationConfig.bind fun staged hstaged => ?_
  refine calls_bind (Prog.ensures_call ⟨fun path hpath => .inl (inside_of_reports ?_), trivial⟩) fun _ => ?_
  · rcases List.mem_cons.mp hpath with rfl | hpath
    · exact hstaged.trans (List.prefix_append _ _)
    · obtain ⟨directory, -, rfl⟩ := List.mem_map.mp hpath
      exact hstaged.trans (List.prefix_append _ _)
  · refine calls_bind calls_checksPass fun passed => calls_ite (fun _ => ?_) fun _ => calls_pure _
    exact Prog.ensures_call ⟨fun path hpath => .inr (.activation h hactivate tuple hpath), trivial⟩

theorem calls_postSupplyWorkflow {workDir : List String} {promotion : InboxPromotion} {supply : SupplyDecision}
    (hworkDir : workDir = PosixPath.join folders.workRoot requestId) (h : automation.autoProvisionSupply) :
    Calls (AutomationWrites folders automation requestId recipeName config)
      (postSupplyWorkflow alnum folders automation requestId config (workDir ++ ["config"]) promotion supply
        recipeName) := by
  have hsupply {path : List String} (hpath : path ∈ folders.panopticon :: [ReportKind.supplyProvisioningPlan,
      .supplyProvisioningApply, .postSupplyReadiness, .postSupplyWorkflow].map
        (reportPath folders.reports requestId)) :
      AutomationPath folders automation requestId recipeName config path := .supply h hpath
  have hpatched : AutomationPath folders automation requestId recipeName config (workDir ++ ["config"]) :=
    hworkDir ▸ .workDir (automation.provision_promotes h)
  have hvalidated {passed : Bool} (hbillable : automation.autoBillableValidation) :
      Calls (AutomationWrites folders automation requestId recipeName config) (do
        writeReport folders requestId .postSupplyValidation
        if passed && automation.autoActivateValidated then
          activatePostSupplyConfig alnum folders automation requestId config recipeName promotion.tuple) := by
    refine calls_bind (automates_report (by decide) (.validation h hbillable (by simp))) fun _ => ?_
    refine calls_ite (fun hactivate => ?_) fun _ => calls_pure _
    exact calls_activatePostSupplyConfig h (Bool.and_eq_true _ _ ▸ hactivate).2
  have hfresh : Calls (AutomationWrites folders automation requestId recipeName config) (do
      let refreshed ← inboxCall (.readiness recipeName)
      writeReport folders requestId .postSupplyReadiness
      if !refreshed then return
      if !(← inboxCall (.inspect .postSupplyGate)) then return
      if !automation.autoBillableValidation then return
      let passed ← inboxCall (.smoke promotion.tuple recipeName)
      writeReport folders requestId .postSupplyValidation
      if passed && automation.autoActivateValidated then
        activatePostSupplyConfig alnum folders automation requestId config recipeName promotion.tuple) := by
    refine calls_bind (automates_write rfl (.inr (hsupply (by simp))) trivial) fun refreshed => ?_
    refine calls_bind (automates_report (by decide) (hsupply (by simp))) fun _ => ?_
    refine calls_ite (fun _ => calls_pure _) fun _ => calls_bind (automates_read rfl trivial) fun ready => ?_
    refine calls_ite (fun _ => calls_pure _) fun _ => calls_ite (fun _ => calls_pure _) fun hbillable => ?_
    have hbillable : automation.autoBillableValidation := by simpa using hbillable
    exact calls_bind (automates_write rfl (.inr (.validation h hbillable (by simp))) trivial) fun _ => hvalidated hbillable
  have hchecked := calls_ite (c := automation.autoRunValidateConfig = true)
    (fun _ => calls_bind (p := inboxCall (.check (workDir ++ ["config"]))) (automates_read rfl trivial) fun passed =>
      calls_ite (c := (!passed) = true) (fun _ => calls_pure ()) fun _ => hfresh) fun _ => hfresh
  refine calls_ite (fun _ => calls_pure _) fun _ => calls_ite (fun _ => ?_) fun _ => hchecked
  refine calls_bind (automates_write rfl (.inr hpatched) trivial) fun _ => ?_
  refine calls_bind (automates_read rfl trivial) fun applied => ?_
  exact calls_ite (fun _ => calls_pure _) fun _ => hchecked

theorem calls_autoPromotionReport {review : InboxReview} (hconfig : folders.config = some config) :
    Calls (AutomationWrites folders automation requestId recipeName config)
      (autoPromotionReport alnum folders automation requestId review recipeName) := by
  rw [autoPromotionReport, hconfig]
  refine calls_ite (fun _ => calls_pure _) fun h => ?_
  have h : automation.autoPromoteCandidates := by simpa using h
  have hreport (hbillable : automation.autoBillableValidation → automation.autoProvisionSupply) :
      Calls (AutomationWrites folders automation requestId recipeName config)
        (writeReport folders requestId .promotion) := automates_report (by decide) (.promotion h hbillable)
  refine calls_ite (fun _ => calls_pure _) fun _ => ?_
  refine calls_bind (automates_write rfl (.inr (.workDir h)) trivial) fun promotion => ?_
  refine calls_ite (fun _ => calls_raise_bind) fun hbudget => ?_
  have hbillable : automation.autoBillableValidation → automation.autoProvisionSupply := by
    simpa using hbudget
  refine calls_ite (fun hprovision => ?_) fun _ => hreport hbillable
  refine calls_bind (calls_provisionSupply hprovision) fun supply => ?_
  refine calls_bind (calls_postSupplyWorkflow rfl hprovision) fun _ => ?_
  exact calls_bind (automates_report (by decide) (.supply hprovision (by simp))) fun _ => hreport hbillable

/-! ### Under the configuration that is given -/

/-- What the automation writes to without a test, where a configuration is given. -/
def ConfiguredPath (folders : InboxFolders) (automation : InboxAutomation) (requestId recipeName : String)
    (path : List String) : Prop :=
  ∃ config, folders.config = some config ∧ AutomationPath folders automation requestId recipeName config path

theorem Automates.configured {op : InboxCall} (hconfig : folders.config = some config)
    (h : AutomationWrites folders automation requestId recipeName config op) :
    Automates folders (ConfiguredPath folders automation requestId recipeName) requestId op :=
  ⟨fun path hpath => (h.1 path hpath).imp id fun hother => ⟨config, hconfig, hother⟩, h.2⟩

theorem automates_autoExistingTupleReport {review : InboxReview}
    (hname : recipeYamlPath recipeName = .ok ["recipes", recipeName ++ ".yml"]) :
    Calls (Automates folders (ConfiguredPath folders automation requestId recipeName) requestId)
      (autoExistingTupleReport alnum folders automation requestId review recipeName) := by
  cases hconfig : folders.config with
  | some config => exact (calls_autoExistingTupleReport hconfig hname).mono fun op h => h.configured hconfig
  | none =>
    rw [autoExistingTupleReport, hconfig]
    exact calls_ite (fun _ => calls_pure _) fun _ => calls_raise _

theorem automates_autoPromotionReport {review : InboxReview} :
    Calls (Automates folders (ConfiguredPath folders automation requestId recipeName) requestId)
      (autoPromotionReport alnum folders automation requestId review recipeName) := by
  cases hconfig : folders.config with
  | some config => exact (calls_autoPromotionReport hconfig).mono fun op h => h.configured hconfig
  | none =>
    rw [autoPromotionReport, hconfig]
    exact calls_ite (fun _ => calls_pure _) fun _ => calls_raise _

end Automation

end Gpucall.Inbox
