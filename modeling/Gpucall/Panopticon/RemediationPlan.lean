import Gpucall.Panopticon.Remediation

/-! What a remediation plan says of a whole snapshot: an endpoint is scaled down by what one of its findings says,
and of the findings that ask for one action the first is heard. -/

namespace Gpucall

variable {py : Builtins} {conv : Conversions} {policy : RemediationPolicy} {tuple adapter : String}
  {finding : Dict Json} {a b : RemediationAction}

/-! ## The rows of a snapshot -/

section

variable (py : Builtins) (snapshot : Dict Json)

def rowOf (entry : String × Json) : Option RemediationRow := (remediationRow py entry.1 entry.2).toOption.join

/-- The rows, in the order in which they are judged -/
def remediationRows : List RemediationRow := (sortedEntries snapshot).filterMap (rowOf py)

/-- All findings of the snapshot -/
def reportedFindings : List (Dict Json) := (remediationRows py snapshot).flatMap (·.findings)

/-- No row is refused. -/
def RowsRead : Prop := ∀ entry ∈ sortedEntries snapshot, ∃ row, remediationRow py entry.1 entry.2 = .ok row

end

variable {snapshot : Dict Json} {plan : RemediationPlan} {name : String} {findings : List (Dict Json)}

theorem mapM_entryActions {entries : List (String × Json)} {lists : List (List RemediationAction)}
    (h : List.Forall₂ (fun entry list => entryActions py conv policy entry = .ok list) entries lists) :
    (∀ entry ∈ entries, ∃ row, remediationRow py entry.1 entry.2 = .ok row) ∧
      ∃ chosen, List.Forall₂ (fun row list => rowActions py conv policy row = .ok list)
        (entries.filterMap (rowOf py)) chosen ∧ chosen.flatten = lists.flatten := by
  induction h with
  | nil => exact ⟨nofun, [], .nil, rfl⟩
  | @cons entry list entries lists hentry _ ih =>
    obtain ⟨hread, chosen, hchosen, hflatten⟩ := ih
    obtain ⟨found, hfound, hactions⟩ := Fallible.bind_eq_ok.mp hentry
    have hrow : rowOf py entry = found := by rw [rowOf, hfound]; rfl
    refine ⟨List.forall_mem_cons.mpr ⟨⟨found, hfound⟩, hread⟩, ?_⟩
    cases found with
    | none =>
      obtain rfl := Except.ok.inj hactions
      rw [List.filterMap_cons_none hrow]
      exact ⟨chosen, hchosen, hflatten⟩
    | some row =>
      rw [List.filterMap_cons_some hrow]
      exact ⟨list :: chosen, .cons hactions hchosen, by rw [List.flatten_cons, List.flatten_cons, hflatten]⟩

theorem exists_mapM_entryActions {entries : List (String × Json)} {chosen : List (List RemediationAction)}
    (hread : ∀ entry ∈ entries, ∃ row, remediationRow py entry.1 entry.2 = .ok row)
    (h : List.Forall₂ (fun row list => rowActions py conv policy row = .ok list) (entries.filterMap (rowOf py))
      chosen) :
    ∃ lists, List.Forall₂ (fun entry list => entryActions py conv policy entry = .ok list) entries lists ∧
      lists.flatten = chosen.flatten := by
  induction entries generalizing chosen with
  | nil =>
    cases h
    exact ⟨[], .nil, rfl⟩
  | cons entry entries ih =>
    obtain ⟨⟨found, hfound⟩, hread⟩ := List.forall_mem_cons.mp hread
    have hrow : rowOf py entry = found := by rw [rowOf, hfound]; rfl
    cases found with
    | none =>
      rw [List.filterMap_cons_none hrow] at h
      obtain ⟨lists, hlists, hflatten⟩ := ih hread h
      exact ⟨[] :: lists, .cons (Fallible.bind_eq_ok.mpr ⟨none, hfound, rfl⟩) hlists, hflatten⟩
    | some row =>
      rw [List.filterMap_cons_some hrow] at h
      cases h with
      | @cons _ list _ rest hlist hrest =>
        obtain ⟨lists, hlists, hflatten⟩ := ih hread hrest
        refine ⟨list :: lists, .cons (Fallible.bind_eq_ok.mpr ⟨some row, hfound, hlist⟩) hlists, ?_⟩
        rw [List.flatten_cons, List.flatten_cons, hflatten]

/-- A plan keeps the first of what the rows propose. -/
theorem buildRemediationPlan_eq_ok (h : buildRemediationPlan py conv policy snapshot = .ok plan) :
    RowsRead py snapshot ∧ ∃ chosen, List.Forall₂ (fun row list => rowActions py conv policy row = .ok list)
      (remediationRows py snapshot) chosen ∧
      plan.actions = FirstWins.keepFirst RemediationAction.key chosen.flatten := by
  obtain ⟨lists, hlists, h⟩ := Fallible.bind_eq_ok.mp h
  obtain rfl := Except.ok.inj h
  obtain ⟨hread, chosen, hchosen, hflatten⟩ := mapM_entryActions (Fallible.mapM_eq_ok.mp hlists)
  refine ⟨hread, chosen, hchosen, ?_⟩
  rw [hflatten]

theorem exists_buildRemediationPlan (hread : RowsRead py snapshot)
    (h : ∀ row ∈ remediationRows py snapshot, ∃ list, rowActions py conv policy row = .ok list) :
    ∃ plan, buildRemediationPlan py conv policy snapshot = .ok plan := by
  obtain ⟨chosen, hchosen⟩ := OptionList.exists_forall₂ h
  obtain ⟨lists, hlists, -⟩ := exists_mapM_entryActions hread hchosen
  exact ⟨_, Fallible.bind_eq_ok.mpr ⟨lists, Fallible.mapM_eq_ok.mpr hlists, rfl⟩⟩

/-! ## Snapshots with findings in another place -/

/-- The findings as they stand in a row -/
def findingItems (findings : List (Dict Json)) : Json := .arr (findings.map fun finding => .obj finding.entries)

theorem iterateOr_arr (items : List Json) : iterateOr (some (.arr items)) = .ok items := by
  cases items <;> rfl

theorem remediationRow_findings {fields : List (String × Json)} {row : RemediationRow}
    (h : remediationRow py name (.obj fields) = .ok (some row)) (findings : List (Dict Json)) :
    remediationRow py name (.obj ((Dict.ofFields fields).set "findings" (findingItems findings)).entries) =
      .ok (some { row with findings }) := by
  obtain ⟨items, -, hrow⟩ := Fallible.map_eq_ok.mp h
  obtain rfl := Option.some.inj hrow
  have hitems : (findings.map fun finding => Json.obj finding.entries).filterMap findingItem = findings := by
    rw [List.filterMap_map]
    refine (List.filterMap_congr fun finding _ => ?_).trans List.filterMap_some
    exact congrArg some (Dict.ofFields_entries finding)
  simp only [remediationRow, Dict.ofFields_entries, Dict.get?_set]
  simp only [findingItems, if_true, iterateOr_arr, Except.map, hitems]
  rfl

/-- The snapshot has all findings under one name. -/
def singleRow (findings : List (Dict Json)) : Dict Json :=
  (⟨[], List.nodup_nil⟩ : Dict Json).set "x"
    (.obj ((Dict.ofFields []).set "findings" (findingItems findings)).entries)

theorem remediationRows_singleRow (py : Builtins) (findings : List (Dict Json)) :
    RowsRead py (singleRow findings) ∧ remediationRows py (singleRow findings) =
      [{ tuple := "x", adapter := "", blocked := false, stale := false, findings }] := by
  have hempty : remediationRow py "x" (.obj []) =
      .ok (some { tuple := "x", adapter := "", blocked := false, stale := false, findings := [] }) := rfl
  have hrow := remediationRow_findings hempty findings
  have hentries : sortedEntries (singleRow findings) =
      [("x", .obj ((Dict.ofFields []).set "findings" (findingItems findings)).entries)] := rfl
  rw [RowsRead, remediationRows, hentries]
  constructor
  · exact List.forall_mem_singleton.mpr ⟨_, hrow⟩
  · rw [List.filterMap_cons_some (b := { tuple := "x", adapter := "", blocked := false, stale := false, findings })
      (by rw [rowOf, hrow]; rfl), List.filterMap_nil]

theorem sortedEntries_nodup (snapshot : Dict Json) : ((sortedEntries snapshot).map Prod.fst).Nodup :=
  ((List.perm_insertionSort _ snapshot.entries).map Prod.fst).nodup_iff.mpr snapshot.nodup

/-- A value that is set anew keeps its place. -/
theorem sortedEntries_set {front back : List (String × Json)} {old new : Json}
    (h : sortedEntries snapshot = front ++ (name, old) :: back) :
    sortedEntries (snapshot.set name new) = front ++ (name, new) :: back := by
  have hold : (name, old) ∈ snapshot.entries := by
    rw [← List.mem_insertionSort (·.1 ≤ ·.1), ← sortedEntries, h]
    exact List.mem_append_right _ List.mem_cons_self
  have hkey : name ∈ snapshot.keys := List.mem_map.mpr ⟨_, hold, rfl⟩
  have hsorted : sortedEntries (snapshot.set name new) =
      (sortedEntries snapshot).map fun entry => if entry.1 = name then (name, new) else entry := by
    rw [sortedEntries, sortedEntries, Dict.entries_set_of_mem hkey]
    refine (List.map_insertionSort _ _ _ _ fun a _ b _ => ?_).symm
    have hname (entry : String × Json) : (if entry.1 = name then (name, new) else entry).1 = entry.1 := by
      split
      · rename_i hentry
        exact hentry.symm
      · rfl
    rw [hname, hname]
  have hnodup := sortedEntries_nodup snapshot
  rw [h, List.map_append, List.map_cons, List.nodup_append, List.nodup_cons] at hnodup
  obtain ⟨-, ⟨hback, -⟩, hfront⟩ := hnodup
  rw [hsorted, h, List.map_append, List.map_cons, if_pos rfl]
  congr 1
  · refine (List.map_congr_left fun entry hentry => if_neg fun heq => ?_).trans (List.map_id' _)
    exact hfront _ (List.mem_map_of_mem hentry) _ List.mem_cons_self heq
  · congr 1
    refine (List.map_congr_left fun entry hentry => if_neg fun heq => ?_).trans (List.map_id' _)
    exact hback (List.mem_map.mpr ⟨entry, hentry, heq⟩)

/-- Any findings can stand in the place of those of a row. -/
theorem exists_snapshot {before after : List RemediationRow} {row : RemediationRow} (hread : RowsRead py snapshot)
    (hrows : remediationRows py snapshot = before ++ row :: after) (findings : List (Dict Json)) :
    ∃ snapshot', RowsRead py snapshot' ∧
      remediationRows py snapshot' = before ++ { row with findings } :: after := by
  obtain ⟨front, rest, hsplit, hfront, hrest⟩ := List.filterMap_eq_append_iff.mp hrows
  obtain ⟨skipped, ⟨name, json⟩, back, rfl, hskipped, hrow, hback⟩ := List.filterMap_eq_cons_iff.mp hrest
  have hfound : remediationRow py name json = .ok (some row) := by
    obtain ⟨found, hfound⟩ := hread (name, json) (by
      rw [hsplit]
      exact List.mem_append_right _ (List.mem_append_right _ List.mem_cons_self))
    rw [rowOf, hfound] at hrow
    rw [hfound]
    exact congrArg Except.ok hrow
  cases json with
  | obj fields =>
    have hrow' := remediationRow_findings hfound findings
    generalize (Dict.ofFields fields).set "findings" (findingItems findings) = fields' at hrow'
    rw [← List.append_assoc] at hsplit
    have hset : sortedEntries (snapshot.set name (.obj fields'.entries)) = _ := sortedEntries_set hsplit
    refine ⟨snapshot.set name (.obj fields'.entries), ?_, ?_⟩
    · rw [RowsRead, hset]
      rw [RowsRead, hsplit] at hread
      intro entry hentry
      obtain hentry | hentry := List.mem_append.mp hentry
      · exact hread entry (List.mem_append_left _ hentry)
      · obtain rfl | hentry := List.mem_cons.mp hentry
        · exact ⟨_, hrow'⟩
        · exact hread entry (List.mem_append_right _ (List.mem_cons_of_mem _ hentry))
    · have hnew : rowOf py (name, .obj fields'.entries) = some { row with findings } := by
        rw [rowOf, hrow']
        rfl
      rw [remediationRows, hset, List.filterMap_append, List.filterMap_append, List.filterMap_cons_some hnew, hfront,
        List.filterMap_eq_nil_iff.mpr hskipped, List.append_nil, hback]
  | null | bool | number | str | arr => cases hfound

/-! ## What a plan says of all findings -/

/-- The plan has the action for an endpoint, whatever tuple it names. -/
def RemediationPlan.OnEndpoint (plan : RemediationPlan) (a : RemediationAction) : Prop :=
  ∃ b ∈ plan.actions, b.resourceType = .endpoint ∧ b.unfiled = a

/-- No endpoint is scaled down that a finding calls busy. The plan is the same in every order of the findings of a
row, and what is done to an endpoint is the same wherever the findings are filed. -/
structure RemediatesSafely (py : Builtins) (conv : Conversions) (policy : RemediationPolicy) (snapshot : Dict Json)
    (plan : RemediationPlan) : Prop where
  idle : ∀ a ∈ plan.actions, a.action = .scaleWorkersMinToZero → a.applySupported = true →
    ∀ finding ∈ reportedFindings py snapshot, findingEndpoint py finding = a.resourceId →
      ReportsIdle py conv policy finding
  order : ∀ snapshot' plan', List.Forall₂ SameButOrder (remediationRows py snapshot) (remediationRows py snapshot') →
    buildRemediationPlan py conv policy snapshot' = .ok plan' → ∀ a, a ∈ plan.actions ↔ a ∈ plan'.actions
  filing : ∀ snapshot' plan', (reportedFindings py snapshot).Perm (reportedFindings py snapshot') →
    buildRemediationPlan py conv policy snapshot' = .ok plan' → ∀ a, plan.OnEndpoint a ↔ plan'.OnEndpoint a

/-- The finding proposes to do this to an endpoint. -/
def ProposesFor (py : Builtins) (conv : Conversions) (policy : RemediationPolicy) (finding : Dict Json)
    (key : RemediationActionName × RemediationProvider × String) : Prop :=
  ∃ tuple adapter a, Proposes py conv policy tuple adapter finding a ∧ a.resourceType = .endpoint ∧ a.key = key

/-- Where one idle finding would scale an endpoint down, all findings about the endpoint are idle. What is done to
an endpoint is proposed by one finding, and in the first row that can ask for an action all that can ask for it ask
for the same. -/
structure FindingsAgree (py : Builtins) (conv : Conversions) (policy : RemediationPolicy) (snapshot : Dict Json) :
    Prop where
  idle : ∀ f ∈ reportedFindings py snapshot, ReportsWorkersMin py conv policy f → ReportsIdle py conv policy f →
    ∀ g ∈ reportedFindings py snapshot, findingEndpoint py g = findingEndpoint py f → ReportsIdle py conv policy g
  endpoint : ∀ f ∈ reportedFindings py snapshot, ∀ g ∈ reportedFindings py snapshot, ∀ key,
    ProposesFor py conv policy f key → ProposesFor py conv policy g key → f = g
  row : ∀ key, FirstWins.FirstGroupAgrees RemediationAction.key
    ((remediationRows py snapshot).map (Candidate py conv policy)) key

/-- What makes up a plan -/
structure PlanOf (py : Builtins) (conv : Conversions) (policy : RemediationPolicy) (snapshot : Dict Json)
    (plan : RemediationPlan) (chosen : List (List RemediationAction)) : Prop where
  read : RowsRead py snapshot
  rows : List.Forall₂ (fun row list => rowActions py conv policy row = .ok list) (remediationRows py snapshot) chosen
  actions : plan.actions = FirstWins.keepFirst RemediationAction.key chosen.flatten

variable {chosen : List (List RemediationAction)}

theorem exists_planOf (h : buildRemediationPlan py conv policy snapshot = .ok plan) :
    ∃ chosen, PlanOf py conv policy snapshot plan chosen := by
  obtain ⟨hread, chosen, hrows, hactions⟩ := buildRemediationPlan_eq_ok h
  exact ⟨chosen, hread, hrows, hactions⟩

theorem PlanOf.mem_actions (h : PlanOf py conv policy snapshot plan chosen) :
    a ∈ plan.actions ↔ chosen.flatten.find? (·.key = a.key) = some a := by
  rw [h.actions, FirstWins.mem_keepFirst]

theorem PlanOf.eq_of_key (h : PlanOf py conv policy snapshot plan chosen) (ha : a ∈ plan.actions)
    (hb : b ∈ plan.actions) (hkey : a.key = b.key) : a = b := by
  rw [h.actions] at ha hb
  exact FirstWins.eq_of_mem_keepFirst ha hb hkey

theorem PlanOf.groups (h : PlanOf py conv policy snapshot plan chosen) :
    List.Forall₂ (FirstWins.Chosen RemediationAction.key) chosen
      ((remediationRows py snapshot).map (Candidate py conv policy)) :=
  List.forall₂_map_right_iff.mpr (h.rows.flip.imp fun _ _ hmade => chosen_rowActions hmade)

theorem PlanOf.candidate (h : PlanOf py conv policy snapshot plan chosen) (ha : a ∈ plan.actions) :
    ∃ row ∈ remediationRows py snapshot, Candidate py conv policy row a := by
  rw [h.actions] at ha
  obtain ⟨list, hlist, ha⟩ := List.mem_flatten.mp (FirstWins.mem_of_mem_keepFirst ha)
  obtain ⟨row, hrow, hmade⟩ := OptionList.exists_of_forall₂_right h.rows hlist
  exact ⟨row, hrow, (chosen_rowActions hmade).mem a ha⟩

theorem PlanOf.exists_made (h : PlanOf py conv policy snapshot plan chosen) {row : RemediationRow}
    (hrow : row ∈ remediationRows py snapshot) : ∃ list, rowActions py conv policy row = .ok list := by
  obtain ⟨list, -, hmade⟩ := OptionList.exists_of_forall₂_left h.rows hrow
  exact ⟨list, hmade⟩

/-- No action that a row may ask for is lost. -/
theorem PlanOf.exists_key (h : PlanOf py conv policy snapshot plan chosen) {row : RemediationRow}
    (hrow : row ∈ remediationRows py snapshot) (ha : Candidate py conv policy row a) :
    ∃ b ∈ plan.actions, b.key = a.key := by
  obtain ⟨list, hlist, hmade⟩ := OptionList.exists_of_forall₂_left h.rows hrow
  obtain ⟨b, hb, hkey⟩ := (chosen_rowActions hmade).keys a ha
  have hmem : a.key ∈ chosen.flatten.map RemediationAction.key :=
    List.mem_map.mpr ⟨b, List.mem_flatten_of_mem hlist hb, hkey⟩
  rw [← FirstWins.mem_map_keepFirst, ← h.actions] at hmem
  exact List.mem_map.mp hmem

theorem Proposes.refiled (h : Proposes py conv policy tuple adapter finding a) (tuple' adapter' : String) :
    ∃ b, Proposes py conv policy tuple' adapter' finding b ∧ b.unfiled = a.unfiled := by
  obtain ⟨list, hmade, ha⟩ := h
  obtain ⟨list', hmade', hsame⟩ := findingActions_refiled tuple' adapter' hmade
  have hmem : a.unfiled ∈ list'.map (·.unfiled) := by
    rw [hsame]
    exact List.mem_map_of_mem ha
  obtain ⟨b, hb, hunfiled⟩ := List.mem_map.mp hmem
  exact ⟨b, ⟨list', hmade', hb⟩, hunfiled⟩

theorem RemediationAction.unfiled_key (a : RemediationAction) : a.unfiled.key = a.key := rfl

theorem key_of_unfiled (h : b.unfiled = a.unfiled) : b.key = a.key := by
  rw [← b.unfiled_key, h, a.unfiled_key]

theorem RemediationAction.unfiled_resourceType (a : RemediationAction) : a.unfiled.resourceType = a.resourceType := rfl

theorem resourceType_of_unfiled (h : b.unfiled = a.unfiled) : b.resourceType = a.resourceType := by
  rw [← b.unfiled_resourceType, h, a.unfiled_resourceType]

theorem mem_reportedFindings :
    finding ∈ reportedFindings py snapshot ↔ ∃ row ∈ remediationRows py snapshot, finding ∈ row.findings :=
  List.mem_flatMap

theorem Candidate.onEndpoint {row : RemediationRow} (h : Candidate py conv policy row a)
    (hendpoint : a.resourceType = .endpoint) :
    ∃ finding ∈ row.findings, Proposes py conv policy row.tuple row.adapter finding a := by
  cases h with
  | exclusion _ _ made => cases hendpoint.symm.trans (exclusionFor_eq_some made).2
  | proposal mem proposed => exact ⟨_, mem, proposed⟩

/-- The endpoints of a plan are those that the findings ask for, when no two findings ask for the same. -/
theorem PlanOf.onEndpoint_iff (h : PlanOf py conv policy snapshot plan chosen)
    (hone : ∀ f ∈ reportedFindings py snapshot, ∀ g ∈ reportedFindings py snapshot, ∀ key,
      ProposesFor py conv policy f key → ProposesFor py conv policy g key → f = g) {c : RemediationAction} :
    plan.OnEndpoint c ↔ ∃ f ∈ reportedFindings py snapshot, ∃ tuple adapter a,
      Proposes py conv policy tuple adapter f a ∧ a.resourceType = .endpoint ∧ a.unfiled = c := by
  constructor
  · rintro ⟨b, hb, hendpoint, rfl⟩
    obtain ⟨row, hrow, hcandidate⟩ := h.candidate hb
    obtain ⟨f, hf, hproposes⟩ := hcandidate.onEndpoint hendpoint
    exact ⟨f, mem_reportedFindings.mpr ⟨row, hrow, hf⟩, _, _, b, hproposes, hendpoint, rfl⟩
  · rintro ⟨f, hf, tuple, adapter, a, hproposes, hendpoint, rfl⟩
    obtain ⟨row, hrow, hmem⟩ := mem_reportedFindings.mp hf
    obtain ⟨a', hproposes', hunfiled⟩ := hproposes.refiled row.tuple row.adapter
    obtain ⟨b, hb, hkey⟩ := h.exists_key hrow (.proposal hmem hproposes')
    rw [key_of_unfiled hunfiled] at hkey
    obtain ⟨other, hother, hcandidate⟩ := h.candidate hb
    -- the action with the same key is a proposal too, and so one of the same finding
    obtain ⟨g, hg, hproposes''⟩ : ∃ g ∈ other.findings, Proposes py conv policy other.tuple other.adapter g b := by
      cases hcandidate with
      | exclusion _ _ made =>
        have haction : b.action = a.action := congrArg Prod.fst hkey
        rw [(exclusionFor_eq_some made).1] at haction
        exact absurd haction.symm hproposes.cases.not_exclusion
      | proposal mem proposed => exact ⟨_, mem, proposed⟩
    have hendpoint' : b.resourceType = .endpoint := by
      have haction : b.action = a.action := congrArg Prod.fst hkey
      rw [hproposes''.cases.onEndpoint_iff, haction, ← hproposes.cases.onEndpoint_iff]
      exact hendpoint
    obtain rfl : f = g := hone f hf g (mem_reportedFindings.mpr ⟨other, hother, hg⟩) a.key
      ⟨_, _, a, hproposes, hendpoint, rfl⟩ ⟨_, _, b, hproposes'', hendpoint', hkey⟩
    obtain ⟨a'', ⟨list, hmade, ha''⟩, hunfiled'⟩ := hproposes.refiled other.tuple other.adapter
    obtain ⟨list', hmade', hb'⟩ := hproposes''
    obtain rfl := Except.ok.inj (hmade.symm.trans hmade')
    have hsame : b = a'' := eq_of_proposed hmade hb' ha'' (hkey.trans (key_of_unfiled hunfiled').symm)
    exact ⟨b, hb, hendpoint', hsame ▸ hunfiled'⟩

/-- An endpoint that a finding asks for is in a plan in which the finding stands first. -/
theorem PlanOf.exists_filed (h : PlanOf py conv policy snapshot plan chosen)
    (hf : finding ∈ reportedFindings py snapshot) (ha : Proposes py conv policy tuple adapter finding a)
    (hendpoint : a.resourceType = .endpoint) :
    ∃ snapshot' plan', (reportedFindings py snapshot).Perm (reportedFindings py snapshot') ∧
      buildRemediationPlan py conv policy snapshot' = .ok plan' ∧ plan'.OnEndpoint a.unfiled := by
  obtain ⟨before, after, hsplit⟩ := List.append_of_mem hf
  obtain ⟨hread, hrows⟩ := remediationRows_singleRow py (finding :: (before ++ after))
  generalize singleRow (finding :: (before ++ after)) = snapshot' at hread hrows
  have hperm : (reportedFindings py snapshot).Perm (finding :: (before ++ after)) := hsplit ▸ List.perm_middle
  have hfindings : ∀ f ∈ finding :: (before ++ after), ∃ list, findingActions py conv policy "x" "" f = .ok list := by
    intro f hmem
    obtain ⟨row, hrow, hmem⟩ := mem_reportedFindings.mp (hperm.mem_iff.mpr hmem)
    obtain ⟨proposed, hproposed⟩ := h.exists_made hrow
    obtain ⟨list, hlist⟩ := exists_findingActions hproposed hmem
    obtain ⟨list', hlist', -⟩ := findingActions_refiled "x" "" hlist
    exact ⟨list', hlist'⟩
  have hmade : ∀ row ∈ remediationRows py snapshot', ∃ list, rowActions py conv policy row = .ok list := by
    rw [hrows]
    refine List.forall_mem_singleton.mpr (exists_rowActions (fun _ => ⟨finding, ?_⟩) hfindings)
    rw [exclusionFor]
    split
    · exact ⟨none, rfl⟩
    · rw [dif_neg (show strip "x" ≠ "" by decide)]
      exact ⟨_, rfl⟩
  obtain ⟨plan', hplan'⟩ := exists_buildRemediationPlan hread hmade
  refine ⟨snapshot', plan', ?_, hplan', ?_⟩
  · have hfindings' : reportedFindings py snapshot' = finding :: (before ++ after) := by
      rw [reportedFindings, hrows, List.flatMap_singleton]
    rw [hfindings']
    exact hperm
  · obtain ⟨a', ha', hunfiled⟩ := ha.refiled "x" ""
    obtain ⟨chosen', h'⟩ := exists_planOf hplan'
    have hchosen := h'.rows
    rw [hrows] at hchosen
    obtain ⟨list, lists, hlist, hnil, rfl⟩ := List.forall₂_cons_left_iff.mp hchosen
    cases hnil
    refine ⟨a', h'.mem_actions.mpr ?_, (resourceType_of_unfiled hunfiled).trans hendpoint, hunfiled⟩
    rw [List.flatten_cons, List.flatten_nil, List.append_nil]
    exact find?_rowActions_cons hlist rfl ha'

/-- A candidate of the first row that has its key is in the plan for some order of the findings. -/
theorem PlanOf.exists_ordered (h : PlanOf py conv policy snapshot plan chosen) {before after : List RemediationRow}
    {row : RemediationRow} (hrows : remediationRows py snapshot = before ++ row :: after)
    (ha : Candidate py conv policy row a) (hfirst : ∀ r ∈ before, ∀ x, Candidate py conv policy r x → x.key ≠ a.key) :
    ∃ snapshot' plan', List.Forall₂ SameButOrder (remediationRows py snapshot) (remediationRows py snapshot') ∧
      buildRemediationPlan py conv policy snapshot' = .ok plan' ∧ a ∈ plan'.actions := by
  obtain ⟨row', hsame, hfound⟩ := ha.exists_order
  obtain ⟨snapshot', hread', hrows'⟩ := exists_snapshot h.read hrows row'.findings
  rw [← hsame.rest] at hrows'
  have hmade : ∀ r ∈ remediationRows py snapshot', ∃ list, rowActions py conv policy r = .ok list := by
    have hold : ∀ r ∈ before ++ row :: after, ∃ list, rowActions py conv policy r = .ok list :=
      fun r hr => h.exists_made (hrows ▸ hr)
    obtain ⟨proposed, hproposed⟩ := hold row (List.mem_append_right _ List.mem_cons_self)
    rw [hrows']
    intro r hr
    obtain hr | hr := List.mem_append.mp hr
    · exact hold r (List.mem_append_left _ hr)
    · obtain rfl | hr := List.mem_cons.mp hr
      · exact hsame.exists_rowActions hproposed
      · exact hold r (List.mem_append_right _ (List.mem_cons_of_mem _ hr))
  obtain ⟨plan', hplan'⟩ := exists_buildRemediationPlan hread' hmade
  obtain ⟨chosen', h'⟩ := exists_planOf hplan'
  refine ⟨snapshot', plan', ?_, hplan', h'.mem_actions.mpr ?_⟩
  · have hrefl (rows : List RemediationRow) : List.Forall₂ SameButOrder rows rows :=
      List.forall₂_same.mpr fun r _ => .refl r
    rw [hrows, hrows']
    exact List.rel_append (hrefl before) (.cons hsame (hrefl after))
  · have hchosen := h'.rows
    rw [hrows'] at hchosen
    exact FirstWins.find?_flatten_of_first hchosen
      (fun r hr list hlist => (chosen_rowActions hlist).find?_eq_none (hfirst r hr)) hfound

theorem map_candidate_eq {rows rows' : List RemediationRow} (h : List.Forall₂ SameButOrder rows rows') :
    rows'.map (Candidate py conv policy) = rows.map (Candidate py conv policy) := by
  induction h with
  | nil => rfl
  | cons hsame _ ih => rw [List.map_cons, List.map_cons, hsame.candidate_iff, ih]

theorem FindingsAgree.remediatesSafely (hagree : FindingsAgree py conv policy snapshot)
    (hplan : buildRemediationPlan py conv policy snapshot = .ok plan)
    (hinflight : policy.scaleWorkersMinToZero.requireNoInflightJobs = true) :
    RemediatesSafely py conv policy snapshot plan := by
  obtain ⟨chosen, h⟩ := exists_planOf hplan
  refine ⟨fun a ha hscale hsupported g hg hendpoint => ?_, fun snapshot' plan' hsame hplan' a => ?_,
    fun snapshot' plan' hperm hplan' c => ?_⟩
  · obtain ⟨row, hrow, hcandidate⟩ := h.candidate ha
    cases hcandidate with
    | exclusion _ _ made => cases hscale.symm.trans (exclusionFor_eq_some made).1
    | @proposal f mem proposed =>
      cases proposed.cases with
      | scale reported scales =>
        exact hagree.idle f (mem_reportedFindings.mpr ⟨row, hrow, mem⟩) reported
          ((scales.supported hinflight).mp hsupported) g hg (hendpoint.trans scales.resourceId)
      | volume deletes => cases hscale.symm.trans deletes.action
      | endpoint deletes => cases hscale.symm.trans deletes.action
  · obtain ⟨chosen', h'⟩ := exists_planOf hplan'
    have hgroups := h'.groups
    rw [map_candidate_eq hsame] at hgroups
    rw [h.mem_actions, h'.mem_actions, FirstWins.find?_chosen h.groups hgroups (hagree.row a.key)]
  · obtain ⟨chosen', h'⟩ := exists_planOf hplan'
    rw [h.onEndpoint_iff hagree.endpoint, h'.onEndpoint_iff fun f hf g hg =>
      hagree.endpoint f (hperm.mem_iff.mpr hf) g (hperm.mem_iff.mpr hg)]
    exact exists_congr fun f => and_congr_left fun _ => hperm.mem_iff

theorem RemediatesSafely.findingsAgree (hsafe : RemediatesSafely py conv policy snapshot plan)
    (hplan : buildRemediationPlan py conv policy snapshot = .ok plan)
    (hinflight : policy.scaleWorkersMinToZero.requireNoInflightJobs = true) :
    FindingsAgree py conv policy snapshot := by
  obtain ⟨chosen, h⟩ := exists_planOf hplan
  -- what a finding asks for an endpoint is in the plan
  have hfiled : ∀ {f tuple adapter a}, f ∈ reportedFindings py snapshot → Proposes py conv policy tuple adapter f a →
      a.resourceType = .endpoint → plan.OnEndpoint a.unfiled := by
    intro f tuple adapter a hf ha hendpoint
    obtain ⟨snapshot', plan', hperm, hplan', hon⟩ := h.exists_filed hf ha hendpoint
    exact (hsafe.filing snapshot' plan' hperm hplan' _).mpr hon
  refine ⟨fun f hf hreported hidle g hg hendpoint => ?_, fun f hf g hg key hfor hfor' => ?_, fun key => ?_⟩
  · obtain ⟨row, hrow, hmem⟩ := mem_reportedFindings.mp hf
    obtain ⟨list, hlist⟩ := h.exists_made hrow
    obtain ⟨proposed, hproposed⟩ := exists_findingActions hlist hmem
    obtain ⟨a, ha, hscales⟩ := hreported.exists_scales hproposed
    obtain ⟨b, hb, -, hunfiled⟩ := hfiled hf ha hscales.resourceType
    obtain ⟨haction, -, hid⟩ := Prod.ext_iff.mp (key_of_unfiled hunfiled) |>.imp_right Prod.ext_iff.mp
    have hsupported : b.unfiled.applySupported = true := by
      rw [hunfiled]
      exact (hscales.supported hinflight).mpr hidle
    exact hsafe.idle b hb (haction.trans hscales.action) hsupported g hg
      (hendpoint.trans (hscales.resourceId.symm.trans hid.symm))
  · obtain ⟨tuple, adapter, a, ha, hendpoint, rfl⟩ := hfor
    obtain ⟨tuple', adapter', b, hb, hendpoint', hkey⟩ := hfor'
    obtain ⟨a', ha', -, hunfiled⟩ := hfiled hf ha hendpoint
    obtain ⟨b', hb', -, hunfiled'⟩ := hfiled hg hb hendpoint'
    have hkeys : a'.key = b'.key :=
      (key_of_unfiled hunfiled).trans (hkey.symm.trans (key_of_unfiled hunfiled').symm)
    obtain rfl := h.eq_of_key ha' hb' hkeys
    have hsource : a.unfiled.sourceFinding = b.unfiled.sourceFinding := by rw [← hunfiled, hunfiled']
    exact ha.cases.sourceFinding.symm.trans (hsource.trans hb.cases.sourceFinding)
  · intro before group after hsplit hbefore x y hx hy hxkey hykey
    obtain ⟨front, rest, hrows, rfl, hrest⟩ := List.map_eq_append_iff.mp hsplit
    obtain ⟨row, back, rfl, rfl, -⟩ := List.map_eq_cons_iff.mp hrest
    have hmem : ∀ {z}, Candidate py conv policy row z → z.key = key → z ∈ plan.actions := by
      rintro z hz rfl
      obtain ⟨snapshot', plan', hsame, hplan', hmem⟩ := h.exists_ordered hrows hz fun r hr w hw =>
        hbefore _ (List.mem_map_of_mem hr) w hw
      exact (hsafe.order snapshot' plan' hsame hplan' z).mpr hmem
    exact h.eq_of_key (hmem hx hxkey) (hmem hy hykey) (hxkey.trans hykey.symm)

/-- A plan never scales a busy endpoint down and heeds neither the order nor the filing of the findings exactly when
the findings about each endpoint agree. -/
theorem remediatesSafely_iff (hplan : buildRemediationPlan py conv policy snapshot = .ok plan)
    (hinflight : policy.scaleWorkersMinToZero.requireNoInflightJobs = true) :
    RemediatesSafely py conv policy snapshot plan ↔ FindingsAgree py conv policy snapshot :=
  ⟨fun hsafe => hsafe.findingsAgree hplan hinflight, fun hagree => hagree.remediatesSafely hplan hinflight⟩

/-! ## Two tuples on one endpoint -/

def probedCounts : Conversions where
  toInt value := match value with
    | .number "0" => .ok 0
    | .number "1" => .ok 1
    | _ => .error .typeOrValue
  toFloat _ := .error .typeError
  toDict _ := .error .typeError

/-- What a probe of the endpoint says -/
def probedEndpoint (activeWorkers : String) : Dict Json where
  entries := [("severity", .str "error"),
    ("raw", .obj [("endpoint_id", .str "endpoint-1"), ("workers_min", .number "1"),
      ("active_workers", .number activeWorkers), ("active_pods", .number "0"),
      ("live_reason", .str "workers_min_positive")])]
  nodup := (by decide : ["severity", "raw"].Nodup)

/-- Two tuples share the endpoint, and the worker was started between their probes. -/
def probedAgain : Dict Json where
  entries := [("runpod-vllm-a", .obj [("findings", .arr [.obj (probedEndpoint "0").entries])]),
    ("runpod-vllm-b", .obj [("findings", .arr [.obj (probedEndpoint "1").entries])])]

theorem not_remediatesSafely_probedAgain : ∃ plan,
    buildRemediationPlan artifactBuiltins probedCounts {} probedAgain = .ok plan ∧
      ¬ RemediatesSafely artifactBuiltins probedCounts {} probedAgain plan := by
  obtain ⟨plan, hplan⟩ : ∃ plan, buildRemediationPlan artifactBuiltins probedCounts {} probedAgain = .ok plan :=
    ⟨_, rfl⟩
  have hfindings : reportedFindings artifactBuiltins probedAgain = [probedEndpoint "0", probedEndpoint "1"] := rfl
  refine ⟨plan, hplan, fun hsafe => ?_⟩
  have hidle := (hsafe.findingsAgree hplan rfl).idle
  rw [hfindings] at hidle
  have hnothing {field : String} (h : nonNegativeInt probedCounts ((findingDetails (probedEndpoint "0")).get? field) =
      .ok (some 0)) : ¬ ReportsPositive probedCounts field (probedEndpoint "0") :=
    (reportsPositive_iff h).not.mpr (lt_irrefl 0)
  have hbusy := hidle (probedEndpoint "0") List.mem_cons_self
    ⟨rfl, by decide, ⟨1, Nat.one_pos, rfl⟩, nofun⟩ ⟨hnothing rfl, hnothing rfl, fun _ => rfl⟩
    (probedEndpoint "1") (List.mem_cons_of_mem _ List.mem_cons_self) rfl
  exact hbusy.workers ⟨1, Nat.one_pos, rfl⟩

/-- One tuple, with the worker at rest -/
def probedIdle : Dict Json where
  entries := [("runpod-vllm-a", .obj [("findings", .arr [.obj (probedEndpoint "0").entries])])]

/-- A row with one finding has no choice. -/
theorem Candidate.eq_of_single {row : RemediationRow} (hfindings : row.findings = [finding])
    (ha : Candidate py conv policy row a) (hb : Candidate py conv policy row b) (hkey : a.key = b.key) : a = b := by
  have haction : a.action = b.action := congrArg Prod.fst hkey
  have hnamed : ∀ {source}, NamedFor row.findings source → source = finding := by
    rw [hfindings]
    intro source h
    cases h with
    | blocking mem _ => exact List.mem_singleton.mp mem
    | other mem _ => exact List.mem_singleton.mp mem
  have hmem : ∀ {f}, f ∈ row.findings → f = finding := fun h => List.mem_singleton.mp (hfindings ▸ h)
  cases ha with
  | exclusion _ named made =>
    cases hb with
    | exclusion _ named' made' =>
      rw [hnamed named] at made
      rw [hnamed named'] at made'
      exact Option.some.inj (Except.ok.inj (made.symm.trans made'))
    | proposal _ proposed =>
      exact absurd (haction.symm.trans (exclusionFor_eq_some made).1) proposed.cases.not_exclusion
  | proposal mem proposed =>
    cases hb with
    | exclusion _ _ made => exact absurd (haction.trans (exclusionFor_eq_some made).1) proposed.cases.not_exclusion
    | proposal mem' proposed' =>
      obtain ⟨list, hmade, ha⟩ := hmem mem ▸ proposed
      obtain ⟨list', hmade', hb⟩ := hmem mem' ▸ proposed'
      obtain rfl := Except.ok.inj (hmade.symm.trans hmade')
      exact eq_of_proposed hmade ha hb hkey

theorem findingsAgree_probedIdle : FindingsAgree artifactBuiltins probedCounts {} probedIdle := by
  have hfindings : reportedFindings artifactBuiltins probedIdle = [probedEndpoint "0"] := rfl
  refine ⟨fun f hf _ hidle g hg _ => ?_, fun f hf g hg _ _ _ => ?_, fun key => ?_⟩
  · rw [hfindings, List.mem_singleton] at hf hg
    rw [hg, ← hf]
    exact hidle
  · rw [hfindings, List.mem_singleton] at hf hg
    rw [hf, hg]
  · rintro (_ | ⟨group, before⟩) group' after hsplit -
    · obtain ⟨rfl, -⟩ := List.cons.inj hsplit
      intro x y hx hy hxkey hykey
      exact hx.eq_of_single rfl hy (hxkey.trans hykey.symm)
    · cases (List.append_eq_nil_iff.mp (List.cons.inj hsplit).2.symm).2

/-- The worker at rest is scaled down, and no other order or filing would do otherwise. -/
theorem remediatesSafely_probedIdle : ∃ plan,
    buildRemediationPlan artifactBuiltins probedCounts {} probedIdle = .ok plan ∧
      RemediatesSafely artifactBuiltins probedCounts {} probedIdle plan :=
  ⟨_, rfl, (remediatesSafely_iff rfl rfl).mpr findingsAgree_probedIdle⟩

end Gpucall
