import Gpucall.Catalog.ValidatorPlan

/-! When the plan made from a catalog snapshot validates again the tuples whose evidence is old: the snapshot
counts the seven days of `expires_at` from the time at which it is built. -/

namespace Gpucall

variable (py : PriceBuiltins) (env : Environment)

/-- The newest of the rows passed, and ended more than seven days before `now`. -/
def PassedLongAgo (rows : List ArtifactRow) (now : DateTime) : Prop :=
  ∃ row ∈ rows, row.passed ∧ ∃ ended, env.parseTime (endedText py row) = some ended ∧
    (∀ other ∈ rows, ∀ time, env.parseTime (endedText py other) = some time →
      time.toMicroseconds ≤ ended.toMicroseconds) ∧
    ended.toMicroseconds + sevenDays < now.toMicroseconds

/-- The plan has an item for the active tuple. -/
def ValidatorPlan.Revalidates (plan : ValidatorPlan) (name : String) : Prop :=
  ∃ item ∈ plan.items, item.tupleName = name ∧ item.source = .activeTuple

/-- Every active tuple with old evidence is to be validated again. -/
def RevalidatesOldEvidence (inputs : CatalogInputs) (now : DateTime) (plan : ValidatorPlan) : Prop :=
  ∀ tuple ∈ inputs.tuples,
    PassedLongAgo py env (matchingRows py inputs.expected inputs.artifacts tuple.name) now →
      plan.Revalidates tuple.name

/-! ## References of resources -/

theorem CatalogSource.qualified_inj {s s' : CatalogSource} {name name' tail : String}
    (h : s.value ++ ":" ++ name ++ tail = s'.value ++ ":" ++ name' ++ tail) : s = s' ∧ name = name' := by
  have hlist := congrArg String.toList h
  simp only [String.toList_append] at hlist
  rw [List.append_left_inj, List.append_assoc, List.append_assoc] at hlist
  cases s <;> cases s'
  · rw [List.append_right_inj, List.append_right_inj] at hlist
    exact ⟨rfl, String.toList_injective hlist⟩
  · exact absurd hlist (by simp [CatalogSource.value])
  · exact absurd hlist (by simp [CatalogSource.value])
  · rw [List.append_right_inj, List.append_right_inj] at hlist
    exact ⟨rfl, String.toList_injective hlist⟩

theorem CatalogRow.resourceRef_inj {a b : CatalogRow} (h : a.resourceRef = b.resourceRef) :
    a.source = b.source ∧ a.name = b.name :=
  CatalogSource.qualified_inj h

theorem CatalogRow.resourceRef_ne_empty (row : CatalogRow) : row.resourceRef ≠ "" := by
  intro h
  have hlist := congrArg String.toList h
  rw [resourceRef, String.toList_append] at hlist
  exact absurd (List.append_eq_nil_iff.mp hlist).2 (by decide)

theorem CatalogInputs.mem_rows_of_mem_tuples {inputs : CatalogInputs} {tuple : ExecutionTupleSpec}
    (h : tuple ∈ inputs.tuples) : activeTuplePayload tuple ∈ inputs.rows :=
  List.mem_append_left _ (List.mem_map_of_mem ((List.perm_insertionSort _ _).mem_iff.mpr h))

theorem CatalogInputs.exists_tuple {inputs : CatalogInputs} {row : CatalogRow} (h : row ∈ inputs.rows)
    (hsource : row.source = .activeTuple) : ∃ tuple ∈ inputs.tuples, tuple.name = row.name := by
  rcases List.mem_append.mp h with hrow | hrow
  · obtain ⟨tuple, htuple, rfl⟩ := List.mem_map.mp hrow
    exact ⟨tuple, (List.perm_insertionSort _ _).mem_iff.mp htuple, rfl⟩
  · rw [inputs.candidates_source row hrow] at hsource
    cases hsource

/-! ## The snapshot -/

section Snapshot

variable {py env} {iso : IsoFormat} {inputs : CatalogInputs} {snapshot : ResourceCatalogSnapshot}
  {now : DateTime}

theorem tupleValidationEvidence_get? {expected : ArtifactExpectation} {files : List ArtifactFile}
    {evidence : Dict ValidationSummary} (h : tupleValidationEvidence py expected files = some evidence)
    (name : String) :
    evidence.get? name =
      if matchingRows py expected files name = [] then none
      else some (validationSummary py (matchingRows py expected files name)) := by
  rw [tupleValidationEvidence] at h
  split at h
  · cases h
  · cases h
    rw [Dict.get?_filterMap, get?_groupedRows]
    split <;> rfl

/-- The status that the snapshot has for a tuple. -/
abbrev CatalogInputs.status (py : PriceBuiltins) (inputs : CatalogInputs) (name : String) :
    LiveCatalogStatus := liveStatus py inputs.liveEvidence name

/-- What the plan reads from the snapshot for the claim of a row. -/
structure PlannedFrom (py : PriceBuiltins) (iso : IsoFormat) (inputs : CatalogInputs) (now : DateTime)
    (row : CatalogRow) (overlay : Option LiveStatusOverlay) (validation : Option ValidationEvidenceSpec) :
    Prop where
  overlay_status : overlay.map (·.status) = some (inputs.status py row.name)
  overlay_next : ∀ found ∈ overlay, ∀ text ∈ found.nextRevalidateAfter,
    ∃ ttl : ℕ, 0 < ttl ∧ text = iso (now.toMicroseconds + ttl * 1000000)
  evidence_isSome : validation.isSome ↔ matchingRows py inputs.expected inputs.artifacts row.name ≠ []
  evidence : ∀ found ∈ validation, found.expiresAt = some (iso (now.toMicroseconds + sevenDays)) ∧
    found.latestPassed =
      (validationSummary py (matchingRows py inputs.expected inputs.artifacts row.name)).latestPassed

theorem overlay_next_eq {resource : ResourceEntry} {text : String} (now : ℤ)
    (h : text ∈ (liveStatusOverlay py iso now resource).nextRevalidateAfter) :
    ∃ ttl : ℕ, 0 < ttl ∧ text = iso (now + ttl * 1000000) := by
  simp only [liveStatusOverlay] at h
  split at h
  · rename_i hchecked
    rw [Bool.and_eq_true, decide_eq_true_iff] at hchecked
    cases h
    exact ⟨_, hchecked.2, rfl⟩
  · cases h

theorem mem_liveStatusOverlay_of_build {found : LiveStatusOverlay}
    (h : buildResourceCatalogSnapshot py env iso inputs now.toMicroseconds = some snapshot)
    (hfound : found ∈ snapshot.liveStatusOverlay) :
    ∃ row ∈ inputs.rows, found.resourceRef = row.resourceRef ∧
      found.status = inputs.status py row.name ∧
        ∀ text ∈ found.nextRevalidateAfter, ∃ ttl : ℕ, 0 < ttl ∧
          text = iso (now.toMicroseconds + ttl * 1000000) := by
  obtain ⟨evidence, -, rfl⟩ := Option.map_eq_some_iff.mp h
  obtain ⟨resource, hresource, rfl⟩ := List.mem_map.mp hfound
  obtain ⟨row, hrow, rfl⟩ := List.mem_map.mp hresource
  exact ⟨row, hrow, rfl, rfl, fun text htext => overlay_next_eq _ htext⟩

theorem exists_liveStatusOverlay_of_build {row : CatalogRow}
    (h : buildResourceCatalogSnapshot py env iso inputs now.toMicroseconds = some snapshot)
    (hrow : row ∈ inputs.rows) : ∃ found ∈ snapshot.liveStatusOverlay, found.resourceRef = row.resourceRef := by
  obtain ⟨evidence, -, rfl⟩ := Option.map_eq_some_iff.mp h
  exact ⟨_, List.mem_map_of_mem (List.mem_map_of_mem hrow), rfl⟩

theorem mem_validationEvidence_of_build {found : ValidationEvidenceSpec}
    (h : buildResourceCatalogSnapshot py env iso inputs now.toMicroseconds = some snapshot)
    (hfound : found ∈ snapshot.validationEvidence) :
    ∃ row ∈ inputs.rows, found.resourceRef = some row.resourceRef ∧
      matchingRows py inputs.expected inputs.artifacts row.name ≠ [] ∧
        found.expiresAt = some (iso (now.toMicroseconds + sevenDays)) ∧ found.latestPassed =
          (validationSummary py (matchingRows py inputs.expected inputs.artifacts row.name)).latestPassed := by
  obtain ⟨evidence, hevidence, rfl⟩ := Option.map_eq_some_iff.mp h
  obtain ⟨resource, hresource, hmap⟩ := List.mem_filterMap.mp hfound
  obtain ⟨row, hrow, rfl⟩ := List.mem_map.mp hresource
  obtain ⟨summary, hsummary, rfl⟩ := Option.map_eq_some_iff.mp hmap
  have hget : evidence.get? row.name = some summary := hsummary
  rw [tupleValidationEvidence_get? hevidence] at hget
  split at hget
  · cases hget
  · rename_i hne
    cases hget
    exact ⟨row, hrow, rfl, hne, rfl, rfl⟩

theorem exists_validationEvidence_of_build {row : CatalogRow}
    (h : buildResourceCatalogSnapshot py env iso inputs now.toMicroseconds = some snapshot)
    (hrow : row ∈ inputs.rows) (hne : matchingRows py inputs.expected inputs.artifacts row.name ≠ []) :
    ∃ found ∈ snapshot.validationEvidence, found.resourceRef = some row.resourceRef := by
  obtain ⟨evidence, hevidence, rfl⟩ := Option.map_eq_some_iff.mp h
  obtain ⟨summary, hsummary⟩ : ∃ summary, evidence.get? row.name = some summary := by
    rw [tupleValidationEvidence_get? hevidence, if_neg hne]
    exact ⟨_, rfl⟩
  let resource := resourceEntry py env inputs.liveEvidence evidence row
  refine ⟨validationEvidenceRow iso now.toMicroseconds resource summary, ?_, rfl⟩
  refine List.mem_filterMap.mpr ⟨resource, List.mem_map_of_mem hrow, ?_⟩
  exact congrArg (Option.map _) hsummary

theorem plannedFrom_of_build
    (h : buildResourceCatalogSnapshot py env iso inputs now.toMicroseconds = some snapshot)
    {row : CatalogRow} (hrow : row ∈ inputs.rows) :
    PlannedFrom py iso inputs now row
      (lookupLast (·.resourceRef) snapshot.liveStatusOverlay row.resourceRef)
      (snapshot.evidenceFor row.resourceRef) := by
  constructor
  · obtain ⟨found, hfound⟩ :=
      Option.isSome_iff_exists.mp (lookupLast_isSome.mpr (exists_liveStatusOverlay_of_build h hrow))
    obtain ⟨hmem, href⟩ := lookupLast_eq_some hfound
    obtain ⟨other, -, hother, hstatus, -⟩ := mem_liveStatusOverlay_of_build h hmem
    rw [hfound, Option.map_some, hstatus, (CatalogRow.resourceRef_inj (hother.symm.trans href)).2]
  · intro found hfound
    obtain ⟨-, -, -, -, hnext⟩ := mem_liveStatusOverlay_of_build h (lookupLast_eq_some hfound).1
    exact hnext
  · constructor
    · intro hsome
      obtain ⟨found, hfound⟩ := Option.isSome_iff_exists.mp hsome
      obtain ⟨hmem, href⟩ := ResourceCatalogSnapshot.evidenceFor_eq_some hfound
      obtain ⟨other, -, hother, hne, -⟩ := mem_validationEvidence_of_build h hmem
      rwa [(CatalogRow.resourceRef_inj (Option.some.inj (hother.symm.trans href))).2] at hne
    · intro hne
      obtain ⟨found, hmem, href⟩ := exists_validationEvidence_of_build h hrow hne
      exact ResourceCatalogSnapshot.evidenceFor_isSome hmem href row.resourceRef_ne_empty
  · intro found hfound
    obtain ⟨hmem, href⟩ := ResourceCatalogSnapshot.evidenceFor_eq_some hfound
    obtain ⟨other, -, hother, -, hexpires, hpassed⟩ := mem_validationEvidence_of_build h hmem
    rw [← (CatalogRow.resourceRef_inj (Option.some.inj (hother.symm.trans href))).2]
    exact ⟨hexpires, hpassed⟩

/-! ## Reasons -/

theorem dueAt_iso_add (hiso : ∀ us time, env.parseTime (iso us) = some time → time.toMicroseconds = us)
    {text : String} (htext : text = iso (now.toMicroseconds + later)) (hlater : 0 < later) :
    dueAt env now (some text) = false := by
  rw [dueAt, Option.any_eq_false]
  intro time htime
  obtain ⟨found, hfound, hparse⟩ := Option.bind_eq_some_iff.mp htime
  rw [Option.filter_eq_some_iff] at hfound
  cases hfound.1
  rw [htext] at hparse
  have htime := hiso _ _ hparse
  exact decide_eq_false (by omega)

/-- The plan never sees a date that has passed: a tuple is due again when it has no artifact, when the artifact
that sorts last did not pass, or when its live status is not known. -/
theorem PlannedFrom.reason_isSome
    (hiso : ∀ us time, env.parseTime (iso us) = some time → time.toMicroseconds = us) {row : CatalogRow}
    (h : PlannedFrom py iso inputs now row overlay validation) :
    (validationReason env validation overlay now).isSome ↔
      matchingRows py inputs.expected inputs.artifacts row.name = [] ∨
        (validationSummary py (matchingRows py inputs.expected inputs.artifacts row.name)).latestPassed =
          false ∨ inputs.status py row.name ∈ [.unknown, .notChecked] := by
  cases hvalidation : validation with
  | none =>
    have hnil := h.evidence_isSome.not.mp (by simp [hvalidation])
    simp only [validationReason, Option.isSome_some, true_iff]
    exact .inl (not_ne_iff.mp hnil)
  | some found =>
    have hne := h.evidence_isSome.mp (by simp [hvalidation])
    obtain ⟨hexpires, hpassed⟩ := h.evidence found hvalidation
    obtain ⟨live, hlive, hstatus⟩ := Option.map_eq_some_iff.mp h.overlay_status
    have hexpiry := @dueAt_iso_add env iso now sevenDays hiso _ rfl (by decide)
    have hnext : dueAt env now live.nextRevalidateAfter = false := by
      cases htext : live.nextRevalidateAfter with
      | none => rfl
      | some text =>
        obtain ⟨ttl, httl, heq⟩ := h.overlay_next live hlive text htext
        exact dueAt_iso_add hiso heq (by omega)
    rw [← hpassed, ← hstatus, hlive]
    simp only [validationReason, hexpires, hexpiry, hnext]
    cases hlatest : found.latestPassed <;> by_cases hunknown : live.status ∈ [.unknown, .notChecked] <;>
      simp [hne, hunknown]

/-! ## Items -/

theorem rawItem_eq_some {settings : PlanSettings} {claim : CapabilityClaim} {item : ValidatorQueueItem}
    (h : snapshot.rawItem env settings now claim = some item) :
    (∃ resource ∈ snapshot.resources, resource.resourceRef = claim.resourceRef ∧
      item.tupleName = resource.tupleName) ∧
    item.source = claim.source ∧
    validationReason env (snapshot.evidenceFor claim.resourceRef)
      (lookupLast (·.resourceRef) snapshot.liveStatusOverlay claim.resourceRef) now = some item.reason := by
  simp only [ResourceCatalogSnapshot.rawItem] at h
  split at h
  · cases h
  · simp only [Option.bind_eq_bind, Option.bind_eq_some_iff, Option.pure_def, Option.some.injEq] at h
    obtain ⟨resource, hresource, reason, hreason, rfl⟩ := h
    have href := List.find?_some hresource
    exact ⟨⟨resource, List.mem_of_find?_eq_some hresource, by simpa using href, rfl⟩, rfl, hreason⟩

theorem exists_rawItem {settings : PlanSettings} {claim : CapabilityClaim} {reason : String}
    (hsource : claim.source = .activeTuple)
    (hresource : ∃ resource ∈ snapshot.resources, resource.resourceRef = claim.resourceRef)
    (hreason : validationReason env (snapshot.evidenceFor claim.resourceRef)
      (lookupLast (·.resourceRef) snapshot.liveStatusOverlay claim.resourceRef) now = some reason) :
    ∃ item, snapshot.rawItem env settings now claim = some item := by
  have hsome : (snapshot.resources.find? fun item => item.resourceRef = claim.resourceRef).isSome := by
    rw [List.find?_isSome]
    simpa using hresource
  obtain ⟨resource, hfind⟩ := Option.isSome_iff_exists.mp hsome
  have hcandidate : ¬ (decide (claim.source = .tupleCandidate) && !settings.includeCandidates) = true := by
    simp [hsource]
  rw [ResourceCatalogSnapshot.rawItem, if_neg hcandidate, hfind]
  simp only [Option.bind_eq_bind, Option.bind_some, hreason]
  exact ⟨_, rfl⟩

theorem revalidates_iff_rawItem {settings : PlanSettings} {name : String} :
    (buildValidatorPlan env settings snapshot now).Revalidates name ↔
      ∃ claim ∈ snapshot.capabilityClaims, ∃ item, snapshot.rawItem env settings now claim = some item ∧
        item.tupleName = name ∧ item.source = .activeTuple := by
  have hwork := fun work => (buildValidatorPlan_work env settings snapshot now).mem_iff (a := work)
  constructor
  · rintro ⟨item, hitem, hname, hsource⟩
    obtain ⟨raw, hraw, heq⟩ := List.mem_map.mp ((hwork item.work).mp (List.mem_map_of_mem hitem))
    obtain ⟨claim, hclaim, hsome⟩ := List.mem_filterMap.mp hraw
    simp only [ValidatorQueueItem.work, Prod.mk.injEq] at heq
    exact ⟨claim, hclaim, raw, hsome, heq.2.1.trans hname, heq.2.2.1.trans hsource⟩
  · rintro ⟨claim, hclaim, raw, hsome, hname, hsource⟩
    have hraw := List.mem_filterMap.mpr ⟨claim, hclaim, hsome⟩
    obtain ⟨item, hitem, heq⟩ := List.mem_map.mp ((hwork raw.work).mpr (List.mem_map_of_mem hraw))
    simp only [ValidatorQueueItem.work, Prod.mk.injEq] at heq
    exact ⟨item, hitem, heq.2.1.trans hname, heq.2.2.1.trans hsource⟩

/-- Which active tuples the plan made from a new snapshot validates again. -/
theorem revalidates_iff {settings : PlanSettings}
    (hiso : ∀ us time, env.parseTime (iso us) = some time → time.toMicroseconds = us)
    (h : buildResourceCatalogSnapshot py env iso inputs now.toMicroseconds = some snapshot)
    {tuple : ExecutionTupleSpec} (htuple : tuple ∈ inputs.tuples) :
    (buildValidatorPlan env settings snapshot now).Revalidates tuple.name ↔
      matchingRows py inputs.expected inputs.artifacts tuple.name = [] ∨
        (validationSummary py (matchingRows py inputs.expected inputs.artifacts tuple.name)).latestPassed =
          false ∨ inputs.status py tuple.name ∈ [.unknown, .notChecked] := by
  have hbuild := h
  obtain ⟨evidence, -, rfl⟩ := Option.map_eq_some_iff.mp h
  rw [revalidates_iff_rawItem]
  constructor
  · rintro ⟨claim, hclaim, item, hitem, hname, hsource⟩
    obtain ⟨row, hrow, rfl⟩ := List.mem_map.mp hclaim
    obtain ⟨⟨resource, hresource, href, htupleName⟩, hitemSource, hreason⟩ := rawItem_eq_some hitem
    obtain ⟨other, -, rfl⟩ := List.mem_map.mp hresource
    have hrowName : row.name = tuple.name := by
      rw [← hname, htupleName]
      exact (CatalogRow.resourceRef_inj href).2.symm
    rw [← hrowName]
    exact ((plannedFrom_of_build hbuild hrow).reason_isSome hiso).mp (Option.isSome_of_eq_some hreason)
  · intro hdue
    have hrow := CatalogInputs.mem_rows_of_mem_tuples htuple
    obtain ⟨reason, hreason⟩ := Option.isSome_iff_exists.mp
      (((plannedFrom_of_build hbuild hrow).reason_isSome hiso).mpr hdue)
    have hsource : (capabilityClaim (activeTuplePayload tuple)).source = .activeTuple := rfl
    obtain ⟨item, hitem⟩ := @exists_rawItem env _ now settings (capabilityClaim (activeTuplePayload tuple))
      reason hsource ⟨_, List.mem_map_of_mem hrow, rfl⟩ hreason
    obtain ⟨⟨resource, hresource, href, htupleName⟩, hitemSource, -⟩ := rawItem_eq_some hitem
    obtain ⟨other, -, rfl⟩ := List.mem_map.mp hresource
    refine ⟨_, List.mem_map_of_mem hrow, item, hitem, ?_, hitemSource⟩
    rw [htupleName]
    exact (CatalogRow.resourceRef_inj href).2

/-- Old evidence that passed is found exactly where something else makes the tuple due: the artifact that sorts
last did not pass, or the live status is not known. -/
theorem revalidatesOldEvidence_iff {settings : PlanSettings}
    (hiso : ∀ us time, env.parseTime (iso us) = some time → time.toMicroseconds = us)
    (h : buildResourceCatalogSnapshot py env iso inputs now.toMicroseconds = some snapshot) :
    RevalidatesOldEvidence py env inputs now (buildValidatorPlan env settings snapshot now) ↔
      ∀ tuple ∈ inputs.tuples,
        PassedLongAgo py env (matchingRows py inputs.expected inputs.artifacts tuple.name) now →
          (validationSummary py
            (matchingRows py inputs.expected inputs.artifacts tuple.name)).latestPassed = false ∨
          inputs.status py tuple.name ∈ [.unknown, .notChecked] := by
  refine forall₃_congr fun tuple htuple hold => ?_
  obtain ⟨row, hrow, -⟩ := hold
  rw [revalidates_iff hiso h htuple]
  exact or_iff_right (List.ne_nil_of_mem hrow)

end Snapshot

/-! ## An artifact of nineteen days ago -/

def januaryInstants : List (String × DateTime) :=
  [("2026-01-01T00:00:00+00:00", firstOfJanuary),
    ("2026-01-20T00:00:00+00:00", { year := 2026, month := 1, day := 20 }),
    ("2026-01-27T00:00:00+00:00", { year := 2026, month := 1, day := 27 })]

def januaryEnvironment : Environment :=
  { GovernanceCompiler.modalEnvironment with parseTime := fun text => januaryInstants.lookup text }

def januaryIso : IsoFormat := fun us =>
  ((januaryInstants.find? fun entry => entry.2.toMicroseconds = us).map Prod.fst).getD ""

theorem januaryIso_parses (us : ℤ) (time : DateTime)
    (h : januaryEnvironment.parseTime (januaryIso us) = some time) : time.toMicroseconds = us := by
  cases hfind : januaryInstants.find? fun entry => entry.2.toMicroseconds = us with
  | none =>
    rw [januaryIso, hfind] at h
    cases h
  | some entry =>
    have hparse : ∀ entry ∈ januaryInstants, januaryInstants.lookup entry.1 = some entry.2 := by
      decide +kernel
    rw [januaryIso, hfind, Option.map_some, Option.getD_some] at h
    have htime := Option.some.inj ((hparse entry (List.mem_of_find?_eq_some hfind)).symm.trans h)
    rw [← htime]
    simpa using List.find?_some hfind

/-- One tuple, which passed on the first of January, and its live status. -/
def passedInJanuary (status : String) : CatalogInputs where
  tuples := [GovernanceCompiler.modalTuple "modal-a10g" 24 (1 / 1000)]
  candidates := []
  expected := { configHash := "c0ffee", commit := none }
  artifacts := [{
    path := "a.json"
    mtime := 0
    root := .object { entries := [("validation_schema_version", .number "1"),
      ("config_hash", .str "c0ffee"), ("tuple", .str "modal-a10g"), ("passed", .bool true),
      ("ended_at", .str "2026-01-01T00:00:00+00:00")] } }]
  liveEvidence := some ⟨[("modal-a10g", ⟨[("status", .str status)], List.nodup_singleton _⟩)],
    List.nodup_singleton _⟩

def twentiethOfJanuary : DateTime := { year := 2026, month := 1, day := 20 }

def freePlan : PlanSettings where
  budgetUsd := 1
  round8 := id

theorem passedInJanuary_old (status : String) : PassedLongAgo livePriceBuiltins januaryEnvironment
    (matchingRows livePriceBuiltins (passedInJanuary status).expected (passedInJanuary status).artifacts
      "modal-a10g") twentiethOfJanuary := by
  refine ⟨_, List.mem_singleton_self _, rfl, firstOfJanuary, rfl, ?_, by decide⟩
  intro other hother time htime
  obtain rfl := List.mem_singleton.mp hother
  exact le_of_eq (congrArg DateTime.toMicroseconds (Option.some.inj htime)).symm

theorem passedInJanuary_builds (status : String) :
    ∃ snapshot, buildResourceCatalogSnapshot livePriceBuiltins januaryEnvironment januaryIso
      (passedInJanuary status) twentiethOfJanuary.toMicroseconds = some snapshot :=
  ⟨_, rfl⟩

theorem revalidatesOldEvidence_iff_notChecked :
    ∃ snapshot, buildResourceCatalogSnapshot livePriceBuiltins januaryEnvironment januaryIso
        (passedInJanuary "not_checked") twentiethOfJanuary.toMicroseconds = some snapshot ∧
      RevalidatesOldEvidence livePriceBuiltins januaryEnvironment (passedInJanuary "not_checked")
        twentiethOfJanuary (buildValidatorPlan januaryEnvironment freePlan snapshot twentiethOfJanuary) := by
  obtain ⟨snapshot, hbuild⟩ := passedInJanuary_builds "not_checked"
  refine ⟨snapshot, hbuild, (revalidatesOldEvidence_iff januaryIso_parses hbuild).mpr ?_⟩
  intro tuple htuple _
  cases List.mem_singleton.mp htuple
  exact .inr (by decide +kernel)

/-- A tuple that is live and passed nineteen days ago is in no plan. -/
theorem not_revalidatesOldEvidence :
    ∃ snapshot, buildResourceCatalogSnapshot livePriceBuiltins januaryEnvironment januaryIso
        (passedInJanuary "live_revalidated") twentiethOfJanuary.toMicroseconds = some snapshot ∧
      ¬ RevalidatesOldEvidence livePriceBuiltins januaryEnvironment (passedInJanuary "live_revalidated")
        twentiethOfJanuary (buildValidatorPlan januaryEnvironment freePlan snapshot twentiethOfJanuary) := by
  obtain ⟨snapshot, hbuild⟩ := passedInJanuary_builds "live_revalidated"
  refine ⟨snapshot, hbuild, fun hall => ?_⟩
  have htuple := List.mem_singleton_self (GovernanceCompiler.modalTuple "modal-a10g" 24 (1 / 1000))
  have hdue := (revalidates_iff januaryIso_parses hbuild htuple).mp
    (hall _ htuple (passedInJanuary_old "live_revalidated"))
  revert hdue
  decide +kernel

end Gpucall
