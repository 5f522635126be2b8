import Gpucall.Panopticon.MergeOrder
import Gpucall.Panopticon.Store

/-! Sequences of calls to `store_panopticon_evidence` on one file. What is stored of a tuple in a dimension is what
the last call gave; whether a call is refused can depend on what earlier calls have left. -/

namespace Gpucall

/-! ## Updating a dictionary entry by entry -/

namespace Dict

variable {α β : Type} {f : String → β → Option α → Option α}

/-- Each entry changes its own key, and only looks at what is there under that key. -/
theorem foldlM_update {entries : List (String × β)} (hnodup : (entries.map Prod.fst).Nodup) {d d' : Dict α}
    (h : entries.foldlM (fun d entry => (f entry.1 entry.2 (d.get? entry.1)).map (d.set entry.1)) d =
      some d') (name : String) :
    match entries.lookup name with
    | none => d'.get? name = d.get? name
    | some value => d'.get? name = f name value (d.get? name) ∧ (d'.get? name).isSome := by
  induction entries generalizing d with
  | nil =>
    cases h
    rfl
  | cons entry entries ih =>
    rw [List.map_cons, List.nodup_cons] at hnodup
    rw [List.foldlM_cons] at h
    obtain ⟨next, hnext, hrest⟩ := Option.bind_eq_some_iff.mp h
    obtain ⟨value, hvalue, rfl⟩ := Option.map_eq_some_iff.mp hnext
    have hih := ih hnodup.2 hrest
    rw [get?_set] at hih
    by_cases hname : name = entry.1
    · subst hname
      have habsent : entries.lookup entry.1 = none := by
        rw [List.lookup_eq_none_iff]
        intro other hother
        simpa using fun heq : entry.1 = other.1 => hnodup.1 (heq ▸ List.mem_map_of_mem hother)
      rw [habsent, if_pos rfl] at hih
      rw [List.lookup_cons_self]
      exact ⟨hih.trans hvalue.symm, by rw [hih]; rfl⟩
    · rw [List.lookup_cons, beq_eq_false_iff_ne.mpr hname]
      rwa [if_neg hname] at hih

theorem foldlM_update_isSome {entries : List (String × β)} (hnodup : (entries.map Prod.fst).Nodup)
    {d : Dict α} :
    (entries.foldlM (fun d entry => (f entry.1 entry.2 (d.get? entry.1)).map (d.set entry.1)) d).isSome ↔
      ∀ entry ∈ entries, (f entry.1 entry.2 (d.get? entry.1)).isSome := by
  induction entries generalizing d with
  | nil => simp
  | cons entry entries ih =>
    rw [List.map_cons, List.nodup_cons] at hnodup
    rw [List.foldlM_cons, List.forall_mem_cons]
    cases hvalue : f entry.1 entry.2 (d.get? entry.1) with
    | none => simp
    | some value =>
      simp only [Option.map_some, Option.bind_eq_bind, Option.bind_some, Option.isSome_some, true_and,
        ih hnodup.2]
      refine forall₂_congr fun other hother => ?_
      have hne : other.1 ≠ entry.1 := fun heq => hnodup.1 (heq ▸ List.mem_map_of_mem hother)
      rw [get?_set, if_neg hne]

theorem lookup_map_value {γ : Type} (g : String → β → γ) (entries : List (String × β)) (name : String) :
    (entries.map fun entry => (entry.1, g entry.1 entry.2)).lookup name = (entries.lookup name).map (g name) := by
  induction entries with
  | nil => rfl
  | cons entry entries ih =>
    rw [List.map_cons, List.lookup_cons, List.lookup_cons, ih]
    cases hname : name == entry.1 with
    | true => rw [← eq_of_beq hname, Option.map_some]
    | false => rfl

end Dict

variable {reads : PanopticonReads}

/-! ## One row -/

/-- What a call does to the row of one tuple. -/
def storeRow (reads : PanopticonReads) (call : EvidenceCall) (name : String) (raw : Dict Json)
    (existing : Option PanopticonRow) : Option PanopticonRow :=
  (readNewRow reads call existing name raw).bind (storedRow reads call.now existing name)

/-- The findings of the row that is stored -/
def storedFindings (reads : PanopticonReads) (existing : Option PanopticonRow) (new : NewRow) :
    List PanopticonFinding :=
  dedupeFindings reads (keptFindings existing new.findings ++ new.findings)

/-- The earliest expiry of findings, and the time to live of the call where none expires. -/
def expiryOf (findings : List PanopticonFinding) (now ttl : ℤ) : Option ℤ :=
  (earliest (findings.map (·.expiresAt))).or (plusSeconds now ttl)

/-- The earliest observation of findings -/
def observationOf (findings : List PanopticonFinding) (now : ℤ) : ℤ :=
  (earliest (findings.map (·.observedAt))).getD now

/-- A row is stored with these findings. -/
structure Storable (now : ℤ) (name : String) (new : NewRow) (findings : List PanopticonFinding) : Prop where
  tuple : strip name ≠ ""
  adapter : strip new.adapter ≠ ""
  times : ∃ expires ∈ expiryOf findings now new.ttl, observationOf findings now ≤ expires
  identity : ∀ finding ∈ findings, finding.tuple = name ∧ finding.adapter = new.adapter
  nonempty : findings = [] → new.status ≠ some .liveRevalidated ∧ new.status ≠ some .blocked
  checked : findings ≠ [] → (∃ finding ∈ findings, finding.blocks) ∨ new.checked

theorem storedStatus_of_ne_nil {status : Option PanopticonStatus} {findings : List PanopticonFinding}
    (h : findings ≠ []) :
    storedStatus status findings =
      if ∃ finding ∈ findings, finding.blocks then .blocked else .liveRevalidated := by
  rw [storedStatus]
  simp only [statusFromFindings_eq_blocked]
  split_ifs <;> simp_all

/-- The fields of the row that is stored, before they are checked -/
def storedFields (reads : PanopticonReads) (now : ℤ) (existing : Option PanopticonRow) (name : String)
    (new : NewRow) (expiresAt : ℤ) : RowFields :=
  let findings := storedFindings reads existing new
  { tuple := name
    adapter := new.adapter
    status := storedStatus new.status findings
    checked := new.checked
    findings
    dimensions := findingDimensions findings
    observedAt := observationOf findings now
    expiresAt
    ttlSeconds := (wholeSeconds (observationOf findings now) expiresAt).toNat
    catalogValidator := new.catalogValidator.or (existing.bind (·.catalogValidator)) }

theorem storedRow_eq_some {now : ℤ} {existing : Option PanopticonRow} {name : String} {new : NewRow}
    {row : PanopticonRow} :
    storedRow reads now existing name new = some row ↔
      ∃ expires ∈ expiryOf (storedFindings reads existing new) now new.ttl,
        row.toRowFields = storedFields reads now existing name new expires := by
  constructor
  · intro h
    rw [storedRow] at h
    obtain ⟨expires, hexpires, h⟩ := Option.bind_eq_some_iff.mp h
    obtain ⟨_, -, h⟩ := Option.bind_eq_some_iff.mp h
    exact ⟨expires, hexpires, RowFields.validated_eq_some.mp h⟩
  · rintro ⟨expires, hexpires, hfields⟩
    have hexpiry : observationOf (storedFindings reads existing new) now ≤ expires := by
      have h := row.valid.expiry
      rwa [hfields] at h
    rw [storedRow]
    refine Option.bind_eq_some_iff.mpr ⟨expires, hexpires, ?_⟩
    refine Option.bind_eq_some_iff.mpr ⟨(), ?_, RowFields.validated_eq_some.mpr hfields⟩
    exact if_pos (wholeSeconds_nonneg hexpiry)

theorem storedStatus_nil (status : Option PanopticonStatus) : storedStatus status [] = status.getD .unknown := by
  cases status <;> rfl

theorem storedFields_status {now : ℤ} {existing : Option PanopticonRow} {name : String} {new : NewRow}
    {expires : ℤ} {status : PanopticonStatus} (hnil : storedFindings reads existing new = [])
    (h : new.status = some status) : (storedFields reads now existing name new expires).status = status := by
  rw [storedFields, hnil, storedStatus_nil, h, Option.getD_some]

theorem status_of_storedFields {now : ℤ} {existing : Option PanopticonRow} {name : String} {new : NewRow}
    {expires : ℤ} {status : PanopticonStatus} (hnil : storedFindings reads existing new = [])
    (h : (storedFields reads now existing name new expires).status = status) (hne : status ≠ .unknown) :
    new.status = some status := by
  rw [storedFields, hnil, storedStatus_nil] at h
  cases hgiven : new.status with
  | none =>
    rw [hgiven] at h
    exact absurd h.symm hne
  | some given =>
    rw [hgiven] at h
    exact congrArg some h

theorem storedRow_isSome {now : ℤ} {existing : Option PanopticonRow} {name : String} {new : NewRow} :
    (storedRow reads now existing name new).isSome ↔
      Storable now name new (storedFindings reads existing new) := by
  rw [Option.isSome_iff_exists]
  constructor
  · rintro ⟨row, h⟩
    obtain ⟨expires, hexpires, hfields⟩ := storedRow_eq_some.mp h
    have hvalid : (storedFields reads now existing name new expires).Valid := hfields ▸ row.valid
    refine ⟨hvalid.tuple, hvalid.adapter, ⟨expires, hexpires, hvalid.expiry⟩, hvalid.identity, ?_, ?_⟩
    · intro hnil
      constructor <;> intro hgiven
      · exact hvalid.nonempty (.inl (storedFields_status hnil hgiven)) hnil
      · exact hvalid.nonempty (.inr (storedFields_status hnil hgiven)) hnil
    · intro hne
      by_cases hblocks : ∃ finding ∈ storedFindings reads existing new, finding.blocks
      · exact .inl hblocks
      · exact .inr (hvalid.checked ((storedStatus_of_ne_nil hne).trans (if_neg hblocks)))
  · intro h
    obtain ⟨expires, hexpires, hexpiry⟩ := h.times
    refine ⟨⟨storedFields reads now existing name new expires, ⟨h.tuple, h.adapter, hexpiry,
      Int.toNat_of_nonneg (wholeSeconds_nonneg hexpiry), rfl, h.identity, ?_, ?_, ?_⟩⟩,
        storedRow_eq_some.mpr ⟨expires, hexpires, rfl⟩⟩
    · rintro (hlive | hblocked) hnil
      · exact (h.nonempty hnil).1 (status_of_storedFields hnil hlive (by decide))
      · exact (h.nonempty hnil).2 (status_of_storedFields hnil hblocked (by decide))
    · intro hblocks
      exact storedStatus_eq_blocked.mpr (.inl (List.any_eq_true.mp hblocks))
    · intro hlive
      have hne : storedFindings reads existing new ≠ [] := fun hnil =>
        (h.nonempty hnil).1 (status_of_storedFields hnil hlive (by decide))
      rcases h.checked hne with hblocks | hchecked
      · have hstatus : storedStatus new.status (storedFindings reads existing new) = .blocked :=
          storedStatus_eq_blocked.mpr (.inl hblocks)
        exact nomatch hstatus.symm.trans hlive
      · exact hchecked

/-! ## Leftovers -/

/-- What a row keeps goes together with what is new. -/
structure FitsLeftovers (reads : PanopticonReads) (now : ℤ) (existing : Option PanopticonRow) (new : NewRow) :
    Prop where
  adapter : ∀ row ∈ existing, row.adapter = new.adapter
  times : ∀ expires ∈ expiryOf (storedFindings reads existing new) now new.ttl,
    observationOf (storedFindings reads existing new) now ≤ expires
  checked : (∃ finding ∈ storedFindings reads existing new, finding.blocks) ∨ new.checked

theorem mem_keptFindings {existing : Option PanopticonRow} {findings : List PanopticonFinding}
    {finding : PanopticonFinding} :
    finding ∈ keptFindings existing findings ↔
      (∃ row ∈ existing, finding ∈ row.findings) ∧ finding.dimension ∉ findings.map (·.dimension) := by
  cases existing <;> simp [keptFindings]

/-- The findings of one dimension -/
def ofDimension (dimension : PanopticonDimension) (findings : List PanopticonFinding) : List PanopticonFinding :=
  findings.filter fun finding => finding.dimension = dimension

theorem ofDimension_eq_nil {dimension : PanopticonDimension} {findings : List PanopticonFinding} :
    ofDimension dimension findings = [] ↔ dimension ∉ findings.map (·.dimension) := by
  simp [ofDimension, List.filter_eq_nil_iff]

theorem ofDimension_dedupeFindings (dimension : PanopticonDimension) (findings : List PanopticonFinding) :
    ofDimension dimension (dedupeFindings reads findings) =
      dedupeFindings reads (ofDimension dimension findings) := by
  refine FirstWins.filter_keepFirst (fun finding other hkey => ?_) findings
  have hdimension : finding.dimension = other.dimension := congrArg FindingKey.dimension hkey
  rw [hdimension]

theorem ofDimension_keptFindings {dimension : PanopticonDimension} {existing : Option PanopticonRow}
    {findings : List PanopticonFinding} :
    ofDimension dimension (keptFindings existing findings) =
      if dimension ∈ findings.map (·.dimension) then []
      else ofDimension dimension ((existing.map (·.findings)).getD []) := by
  split
  · rename_i hnew
    rw [ofDimension_eq_nil]
    intro h
    obtain ⟨finding, hkept, rfl⟩ := List.mem_map.mp h
    exact (mem_keptFindings.mp hkept).2 hnew
  · rename_i hnew
    rw [ofDimension, keptFindings, List.filter_filter, ofDimension]
    refine List.filter_congr fun finding _ => ?_
    by_cases hdimension : finding.dimension = dimension
    · rw [hdimension, decide_eq_true hnew, Bool.and_true]
    · rw [decide_eq_false hdimension, Bool.false_and]

/-- In each dimension a row has what is new, or what was there where nothing is new. -/
theorem ofDimension_storedFindings (dimension : PanopticonDimension) (existing : Option PanopticonRow)
    (new : NewRow) :
    ofDimension dimension (storedFindings reads existing new) = dedupeFindings reads
      (if dimension ∈ new.findings.map (·.dimension) then ofDimension dimension new.findings
      else ofDimension dimension ((existing.map (·.findings)).getD [])) := by
  rw [storedFindings, ofDimension_dedupeFindings, ofDimension, List.filter_append, ← ofDimension,
    ofDimension_keptFindings, ← ofDimension]
  split
  · rfl
  · rename_i hnew
    rw [ofDimension_eq_nil.mpr hnew, List.append_nil]

/-- In a dimension with something new, the row that was there does not matter. -/
theorem mem_storedFindings_iff {existing : Option PanopticonRow} {new : NewRow} {finding : PanopticonFinding}
    (hnew : finding.dimension ∈ new.findings.map (·.dimension)) :
    finding ∈ storedFindings reads existing new ↔ finding ∈ storedFindings reads none new := by
  have heq : ofDimension finding.dimension (storedFindings reads existing new) =
      ofDimension finding.dimension (storedFindings reads none new) := by
    rw [ofDimension_storedFindings, ofDimension_storedFindings, if_pos hnew, if_pos hnew]
  have hmem (findings : List PanopticonFinding) :
      finding ∈ ofDimension finding.dimension findings ↔ finding ∈ findings := by
    simp [ofDimension]
  rw [← hmem, heq, hmem]

theorem mem_storedFindings_of_none {existing : Option PanopticonRow} {new : NewRow}
    {finding : PanopticonFinding} (h : finding ∈ storedFindings reads none new) :
    finding ∈ storedFindings reads existing new :=
  (mem_storedFindings_iff (List.mem_map_of_mem (mem_of_mem_dedupeFindings h))).mpr h

theorem mem_storedFindings {existing : Option PanopticonRow} {new : NewRow} {finding : PanopticonFinding}
    (h : finding ∈ storedFindings reads existing new) :
    finding ∈ keptFindings existing new.findings ∨ finding ∈ storedFindings reads none new := by
  rcases List.mem_append.mp (mem_of_mem_dedupeFindings h) with hkept | hnew
  · exact .inl hkept
  · exact .inr ((mem_storedFindings_iff (List.mem_map_of_mem hnew)).mp h)

theorem isSome_expiryOf_storedFindings {now ttl : ℤ} (existing : Option PanopticonRow) {new : NewRow}
    (h : (expiryOf (storedFindings reads none new) now ttl).isSome) :
    (expiryOf (storedFindings reads existing new) now ttl).isSome := by
  rw [expiryOf] at h ⊢
  cases hexisting : earliest ((storedFindings reads existing new).map (·.expiresAt)) with
  | some expires => rfl
  | none =>
    -- then no new finding expires either
    have hnone : earliest ((storedFindings reads none new).map (·.expiresAt)) = none := by
      rw [Option.eq_none_iff_forall_ne_some]
      intro expires hnew
      obtain ⟨_, hmem, -⟩ := (earliest_le hnew).mp le_rfl
      obtain ⟨finding, hfinding, heq⟩ := List.mem_map.mp hmem
      exact earliest_eq_none hexisting _ (List.mem_map.mpr ⟨finding, mem_storedFindings_of_none hfinding, heq⟩)
    rwa [hnone, Option.none_or] at h

/-- A row that could be stored on its own can be stored over another exactly when the leftovers fit. -/
theorem storable_iff_fitsLeftovers {now : ℤ} {existing : Option PanopticonRow} {name : String} {new : NewRow}
    (hrow : ∀ row ∈ existing, row.tuple = name) (hkept : keptFindings existing new.findings ≠ [])
    (hnone : Storable now name new (storedFindings reads none new)) :
    Storable now name new (storedFindings reads existing new) ↔ FitsLeftovers reads now existing new := by
  have hne : storedFindings reads existing new ≠ [] := fun hnil =>
    hkept (List.append_eq_nil_iff.mp (dedupeFindings_eq_nil.mp hnil)).1
  constructor
  · intro h
    refine ⟨fun row hexisting => ?_, fun expires hexpires => ?_, h.checked hne⟩
    · obtain ⟨kept, hmem⟩ := List.exists_mem_of_ne_nil _ hkept
      obtain ⟨⟨_, hexisting', hfinding⟩, -⟩ := mem_keptFindings.mp hmem
      cases Option.mem_unique hexisting hexisting'
      -- the adapter stands in the key, so a finding with it is stored
      obtain ⟨stored, hstored, -, hadapter⟩ := exists_mem_dedupeFindings (List.mem_append_left _ hmem)
      rw [← (row.valid.identity kept hfinding).2, ← hadapter]
      exact (h.identity stored hstored).2
    · obtain ⟨_, hexpires', hle⟩ := h.times
      cases Option.mem_unique hexpires hexpires'
      exact hle
  · intro h
    obtain ⟨_, hsome, -⟩ := hnone.times
    obtain ⟨expires, hexpires⟩ := Option.isSome_iff_exists.mp
      (isSome_expiryOf_storedFindings existing (Option.isSome_of_mem hsome))
    refine ⟨hnone.tuple, hnone.adapter, ⟨expires, hexpires, h.times expires hexpires⟩, ?_,
      fun hnil => (hne hnil).elim, fun _ => h.checked⟩
    intro finding hfinding
    rcases mem_storedFindings hfinding with hkept | hnew
    · obtain ⟨⟨row, hexisting, hmem⟩, -⟩ := mem_keptFindings.mp hkept
      rw [← hrow row hexisting, ← h.adapter row hexisting]
      exact row.valid.identity finding hmem
    · exact hnone.identity finding hnew

/-! ## One call -/

/-- The adapter of a row is only taken from the file where the input has none. -/
theorem readNewRow_of_none {call : EvidenceCall} {name : String} {raw : Dict Json} {new : NewRow}
    (existing : Option PanopticonRow) (h : readNewRow reads call none name raw = some new) :
    readNewRow reads call existing name raw = some new := by
  rw [readNewRow] at h ⊢
  obtain ⟨input, hinput, h⟩ := Option.bind_eq_some_iff.mp h
  obtain ⟨tuple, htuple, h⟩ := Option.bind_eq_some_iff.mp h
  obtain ⟨adapter, hadapter, h⟩ := Option.bind_eq_some_iff.mp h
  refine Option.bind_eq_some_iff.mpr ⟨input, hinput, Option.bind_eq_some_iff.mpr ⟨tuple, htuple,
    Option.bind_eq_some_iff.mpr ⟨adapter, ?_, h⟩⟩⟩
  rw [Option.map_none, Option.or_none] at hadapter
  rw [hadapter, Option.some_or]

theorem storeRow_isSome {call : EvidenceCall} {name : String} {raw : Dict Json} {existing : Option PanopticonRow} :
    (storeRow reads call name raw existing).isSome ↔
      ∃ new, readNewRow reads call existing name raw = some new ∧
        Storable call.now name new (storedFindings reads existing new) := by
  rw [storeRow]
  cases readNewRow reads call existing name raw with
  | none => simp
  | some new => simp [storedRow_isSome]

theorem storeEntry_eq (call : EvidenceCall) : storeEntry reads call = fun tuples entry =>
    (storeRow reads call entry.1 entry.2 (tuples.get? entry.1)).map (tuples.set entry.1) := by
  funext tuples entry
  rw [storeEntry, storeRow]
  cases readNewRow reads call (tuples.get? entry.1) entry.1 entry.2 with
  | none => rfl
  | some new =>
    simp only [Option.bind_eq_bind, Option.bind_some]
    cases storedRow reads call.now (tuples.get? entry.1) entry.1 new <;> rfl

/-- What the file has for a tuple. -/
def storedTuple (file : Option PanopticonPayload) (name : String) : Option PanopticonRow :=
  file.bind (·.tuples.get? name)

theorem get?_readStored (now : ℤ) (file : Option PanopticonPayload) (name : String) :
    (readStored now file).tuples.get? name = storedTuple file name := by
  cases file <;> rfl

theorem tuple_of_storedTuple {file : Option PanopticonPayload} {name : String} {row : PanopticonRow}
    (h : storedTuple file name = some row) : row.tuple = name := by
  obtain ⟨payload, -, hrow⟩ := Option.bind_eq_some_iff.mp h
  exact (payload.named _ (Dict.get?_eq_some.mp hrow)).symm

theorem storeRow_eq_some {call : EvidenceCall} {name : String} {raw : Dict Json} {existing : Option PanopticonRow}
    {row : PanopticonRow} (h : storeRow reads call name raw existing = some row) :
    ∃ new, readNewRow reads call existing name raw = some new ∧
      ∃ expires ∈ expiryOf (storedFindings reads existing new) call.now new.ttl,
        row.toRowFields = storedFields reads call.now existing name new expires := by
  obtain ⟨new, hnew, hrow⟩ := Option.bind_eq_some_iff.mp h
  exact ⟨new, hnew, storedRow_eq_some.mp hrow⟩

theorem PanopticonPayload.validated_eq_some {updatedAt : ℤ} {tuples : Dict PanopticonRow}
    {payload : PanopticonPayload} (h : PanopticonPayload.validated updatedAt tuples = some payload) :
    payload.tuples = tuples := by
  rw [validated] at h
  split at h
  · cases h
    rfl
  · cases h

/-- A call does to each tuple of its evidence what it does to its row, and nothing to the others. -/
theorem storePanopticonEvidence_eq_some {file : Option PanopticonPayload} {call : EvidenceCall}
    {payload : PanopticonPayload} (h : storePanopticonEvidence reads file call = some payload) (name : String) :
    match call.evidence.get? name with
    | none => payload.tuples.get? name = storedTuple file name
    | some raw => payload.tuples.get? name = storeRow reads call name raw (storedTuple file name) ∧
        (payload.tuples.get? name).isSome := by
  obtain ⟨tuples, htuples, hpayload⟩ := Option.bind_eq_some_iff.mp h
  rw [storeEntry_eq] at htuples
  rw [PanopticonPayload.validated_eq_some hpayload, ← get?_readStored call.now file name]
  have hupdate := Dict.foldlM_update call.evidence.nodup htuples name
  cases hraw : call.evidence.get? name <;> rw [← Dict.get?, hraw] at hupdate <;> exact hupdate

/-- A call is accepted when each of its rows is. -/
theorem storePanopticonEvidence_isSome {file : Option PanopticonPayload} {call : EvidenceCall} :
    (storePanopticonEvidence reads file call).isSome ↔
      ∀ name raw, call.evidence.get? name = some raw →
        (storeRow reads call name raw (storedTuple file name)).isSome := by
  have hrows : (call.evidence.entries.foldlM (storeEntry reads call) (readStored call.now file).tuples).isSome ↔
      ∀ name raw, call.evidence.get? name = some raw →
        (storeRow reads call name raw (storedTuple file name)).isSome := by
    rw [storeEntry_eq, Dict.foldlM_update_isSome call.evidence.nodup]
    simp only [get?_readStored, Dict.get?_eq_some, Prod.forall]
  rw [← hrows, storePanopticonEvidence]
  cases htuples : call.evidence.entries.foldlM (storeEntry reads call) (readStored call.now file).tuples with
  | none => rfl
  | some tuples =>
    refine iff_of_true ?_ rfl
    have hnamed : ∀ entry ∈ tuples.entries, entry.1 = entry.2.tuple := by
      rintro ⟨name, row⟩ hentry
      have hget := Dict.get?_eq_some.mpr hentry
      rw [storeEntry_eq] at htuples
      have hupdate := Dict.foldlM_update call.evidence.nodup htuples name
      rw [get?_readStored, hget] at hupdate
      split at hupdate
      · exact (tuple_of_storedTuple hupdate.symm).symm
      · obtain ⟨_, -, _, -, hfields⟩ := storeRow_eq_some hupdate.1.symm
        rw [hfields]
        rfl
    rw [Option.bind_eq_bind, Option.bind_some, PanopticonPayload.validated, dif_pos hnamed]
    rfl

/-! ## Runs of calls -/

/-- The file after calls on one that was not there -/
def fileRun (reads : PanopticonReads) (calls : List EvidenceCall) : Option PanopticonPayload :=
  calls.foldl (fileAfter reads) none

theorem fileRun_concat (calls : List EvidenceCall) (call : EvidenceCall) :
    fileRun reads (calls ++ [call]) = fileAfter reads (fileRun reads calls) call := by
  rw [fileRun, List.foldl_append]
  rfl

/-- Calls at times that do not decrease -/
structure StoreRun where
  calls : List EvidenceCall
  ordered : (calls.map (·.now)).Pairwise (· ≤ ·)

/-- The findings that the evidence of a call has for a tuple -/
def givenFindings (reads : PanopticonReads) (file : Option PanopticonPayload) (call : EvidenceCall) (name : String) :
    List PanopticonFinding :=
  (((call.evidence.get? name).bind (readNewRow reads call (storedTuple file name) name)).map (·.findings)).getD []

/-- After some calls, a call succeeds and gives a tuple a finding in a dimension. -/
structure Gives (reads : PanopticonReads) (before : List EvidenceCall) (call : EvidenceCall) (name : String)
    (dimension : PanopticonDimension) : Prop where
  accepted : (storePanopticonEvidence reads (fileRun reads before) call).isSome
  given : dimension ∈ (givenFindings reads (fileRun reads before) call name).map (·.dimension)

/-- The latest call that succeeds and gives a tuple a finding in a dimension -/
structure LatestGiver (reads : PanopticonReads) (calls before : List EvidenceCall) (call : EvidenceCall) (name : String)
    (dimension : PanopticonDimension) : Prop where
  run : before ++ [call] <+: calls
  gives : Gives reads before call name dimension
  latest : ∀ between later, before ++ [call] ++ between ++ [later] <+: calls →
    ¬ Gives reads (before ++ [call] ++ between) later name dimension

/-- What the file has for a tuple in a dimension -/
def findingsOf (file : Option PanopticonPayload) (name : String) (dimension : PanopticonDimension) :
    List PanopticonFinding :=
  ofDimension dimension (((storedTuple file name).map (·.findings)).getD [])

/-- Nothing of a loaded row is alarming, and nothing has expired. -/
structure LoadedRow.Fresh (reads : PanopticonReads) (now : ℤ) (loaded : LoadedRow) : Prop where
  findings : loaded.findings = loaded.row.findings.map (findingDump reads)
  harmless : ∀ finding ∈ loaded.row.findings, ¬ finding.blocks
  unexpired : ∀ finding ∈ loaded.row.findings, ∃ time ∈ finding.expiresAt, now < time

/-- What is promised of a call after some calls -/
structure KeepsStep (reads : PanopticonReads) (before : List EvidenceCall) (call : EvidenceCall) : Prop where
  raises : storePanopticonEvidence reads (fileRun reads before) call = none →
    fileRun reads (before ++ [call]) = fileRun reads before
  accepts : (storePanopticonEvidence reads none call).isSome →
    (storePanopticonEvidence reads (fileRun reads before) call).isSome
  latest : ∀ name dimension giving giver,
    LatestGiver reads (before ++ [call]) giving giver name dimension →
      findingsOf (fileRun reads (before ++ [call])) name dimension =
        dedupeFindings reads (ofDimension dimension (givenFindings reads (fileRun reads giving) giver name))
  never : ∀ name dimension,
    (∀ giving giver, giving ++ [giver] <+: before ++ [call] → ¬ Gives reads giving giver name dimension) →
      findingsOf (fileRun reads (before ++ [call])) name dimension = []
  others : ∀ name, call.evidence.get? name = none →
    storedTuple (fileRun reads (before ++ [call])) name = storedTuple (fileRun reads before) name
  fresh : ∀ settings now payload, call.now ≤ now → fileRun reads (before ++ [call]) = some payload →
    ∀ name loaded, (loadPayload reads settings now payload).get? name = some loaded →
      loaded.status = .liveRevalidated → loaded.Fresh reads now

/-- Stored evidence is fresh, complete and independent of old evidence. -/
def KeepsEvidence (reads : PanopticonReads) (run : StoreRun) : Prop :=
  ∀ before call, before ++ [call] <+: run.calls → KeepsStep reads before call

/-- The evidence of a call fits what the file has, and what does not expire cannot be served. -/
structure StoreFits (reads : PanopticonReads) (file : Option PanopticonPayload) (call : EvidenceCall) : Prop where
  leftovers : (storePanopticonEvidence reads none call).isSome → ∀ name raw new,
    call.evidence.get? name = some raw → readNewRow reads call none name raw = some new →
      keptFindings (storedTuple file name) new.findings ≠ [] →
        FitsLeftovers reads call.now (storedTuple file name) new
  expiries : (storePanopticonEvidence reads file call).isSome → ∀ name raw new,
    call.evidence.get? name = some raw → readNewRow reads call (storedTuple file name) name raw = some new →
      (∃ finding ∈ storedFindings reads (storedTuple file name) new, finding.blocks) ∨
      (∀ finding ∈ storedFindings reads (storedTuple file name) new, finding.expiresAt.isSome) ∨
      ∃ expires ∈ expiryOf (storedFindings reads (storedTuple file name) new) call.now new.ttl,
        expires ≤ call.now

/-- A call that is accepted on a file that is not there is accepted exactly where the leftovers fit. -/
theorem storeAccepts_iff {file : Option PanopticonPayload} {call : EvidenceCall}
    (hnone : (storePanopticonEvidence reads none call).isSome) :
    (storePanopticonEvidence reads file call).isSome ↔ ∀ name raw new,
      call.evidence.get? name = some raw → readNewRow reads call none name raw = some new →
        keptFindings (storedTuple file name) new.findings ≠ [] →
          FitsLeftovers reads call.now (storedTuple file name) new := by
  rw [storePanopticonEvidence_isSome] at hnone ⊢
  constructor
  · intro h name raw new hraw hnew hkept
    obtain ⟨_, hread, hstorable⟩ := storeRow_isSome.mp (h name raw hraw)
    obtain ⟨_, hread', hstorable'⟩ := storeRow_isSome.mp (hnone name raw hraw)
    rw [readNewRow_of_none _ hnew] at hread
    replace hread' := hnew.symm.trans hread'
    cases hread
    cases hread'
    exact (storable_iff_fitsLeftovers (fun row => tuple_of_storedTuple) hkept hstorable').mp hstorable
  · intro h name raw hraw
    obtain ⟨new, hnew, hstorable⟩ := storeRow_isSome.mp (hnone name raw hraw)
    refine storeRow_isSome.mpr ⟨new, readNewRow_of_none _ hnew, ?_⟩
    by_cases hkept : keptFindings (storedTuple file name) new.findings = []
    · rw [storedFindings, hkept]
      exact hstorable
    · exact (storable_iff_fitsLeftovers (fun row => tuple_of_storedTuple) hkept hstorable).mpr
        (h name raw new hraw hnew hkept)

/-- The call that stored a row -/
theorem exists_storeRow {calls : List EvidenceCall} {name : String} {row : PanopticonRow}
    (h : storedTuple (fileRun reads calls) name = some row) :
    ∃ before call raw, before ++ [call] <+: calls ∧
      (storePanopticonEvidence reads (fileRun reads before) call).isSome ∧
        call.evidence.get? name = some raw ∧
          storeRow reads call name raw (storedTuple (fileRun reads before) name) = some row := by
  induction calls using List.reverseRecOn with
  | nil => cases h
  | append_singleton calls last ih =>
    have hearlier (hbefore : storedTuple (fileRun reads calls) name = some row) :
        ∃ before call raw, before ++ [call] <+: calls ++ [last] ∧
          (storePanopticonEvidence reads (fileRun reads before) call).isSome ∧
            call.evidence.get? name = some raw ∧
              storeRow reads call name raw (storedTuple (fileRun reads before) name) = some row := by
      obtain ⟨before, call, raw, hrun, hrest⟩ := ih hbefore
      exact ⟨before, call, raw, hrun.trans (List.prefix_append _ _), hrest⟩
    rw [fileRun_concat, fileAfter] at h
    cases hstore : storePanopticonEvidence reads (fileRun reads calls) last with
    | none =>
      rw [hstore, Option.none_or] at h
      exact hearlier h
    | some payload =>
      rw [hstore, Option.some_or] at h
      have hname := storePanopticonEvidence_eq_some hstore name
      cases hraw : last.evidence.get? name with
      | none =>
        rw [hraw] at hname
        exact hearlier (hname.symm.trans h)
      | some raw =>
        rw [hraw] at hname
        exact ⟨calls, last, raw, List.prefix_rfl, Option.isSome_of_eq_some hstore, hraw, hname.1.symm.trans h⟩

theorem dedupeFindings_findingsOf (calls : List EvidenceCall) (name : String) (dimension : PanopticonDimension) :
    dedupeFindings reads (findingsOf (fileRun reads calls) name dimension) =
      findingsOf (fileRun reads calls) name dimension := by
  rw [findingsOf, ← ofDimension_dedupeFindings]
  cases hrow : storedTuple (fileRun reads calls) name with
  | none => rfl
  | some row =>
    obtain ⟨_, _, _, -, -, -, hstored⟩ := exists_storeRow hrow
    obtain ⟨new, -, expires, -, hfields⟩ := storeRow_eq_some hstored
    have hfindings : row.findings = dedupeFindings reads _ := congrArg RowFields.findings hfields
    rw [Option.map_some, Option.getD_some, hfindings, dedupeFindings, dedupeFindings,
      FirstWins.keepFirst_keepFirst]

/-- A call that gives a tuple findings in a dimension replaces those, and only those. -/
theorem findingsOf_concat (calls : List EvidenceCall) (call : EvidenceCall) (name : String)
    (dimension : PanopticonDimension) :
    (Gives reads calls call name dimension →
      findingsOf (fileRun reads (calls ++ [call])) name dimension =
        dedupeFindings reads (ofDimension dimension (givenFindings reads (fileRun reads calls) call name))) ∧
    (¬ Gives reads calls call name dimension →
      findingsOf (fileRun reads (calls ++ [call])) name dimension =
        findingsOf (fileRun reads calls) name dimension) := by
  rw [fileRun_concat, fileAfter]
  cases hstore : storePanopticonEvidence reads (fileRun reads calls) call with
  | none =>
    refine ⟨fun h => ?_, fun _ => by rw [Option.none_or]⟩
    have haccepted := h.accepted
    rw [hstore] at haccepted
    cases haccepted
  | some payload =>
    have haccepted := Option.isSome_of_eq_some hstore
    have hname := storePanopticonEvidence_eq_some hstore name
    rw [Option.some_or]
    cases hraw : call.evidence.get? name with
    | none =>
      rw [hraw] at hname
      refine ⟨fun h => ?_, fun _ => ?_⟩
      · have hgiven := h.given
        rw [givenFindings, hraw] at hgiven
        cases hgiven
      · rw [findingsOf, findingsOf, storedTuple, Option.bind_some, hname]
    | some raw =>
      rw [hraw] at hname
      obtain ⟨row, hrow⟩ := Option.isSome_iff_exists.mp hname.2
      obtain ⟨new, hnew, expires, -, hfields⟩ := storeRow_eq_some (hname.1.symm.trans hrow)
      have hgiven : givenFindings reads (fileRun reads calls) call name = new.findings := by
        rw [givenFindings, hraw, Option.bind_some, hnew]
        rfl
      have hfindings : findingsOf (some payload) name dimension =
          ofDimension dimension (storedFindings reads (storedTuple (fileRun reads calls) name) new) := by
        rw [findingsOf, storedTuple, Option.bind_some, hrow, Option.map_some, Option.getD_some,
          show row.findings = _ from congrArg RowFields.findings hfields]
        rfl
      rw [hfindings, ofDimension_storedFindings, hgiven]
      constructor
      · intro h
        rw [if_pos (hgiven ▸ h.given)]
      · intro h
        rw [if_neg fun hdimension => h ⟨haccepted, hgiven.symm ▸ hdimension⟩]
        exact dedupeFindings_findingsOf calls name dimension

/-- In each dimension the file has what the latest call gave. -/
theorem findingsOf_run (calls : List EvidenceCall) (name : String) (dimension : PanopticonDimension) :
    (∀ giving giver, LatestGiver reads calls giving giver name dimension →
      findingsOf (fileRun reads calls) name dimension =
        dedupeFindings reads (ofDimension dimension (givenFindings reads (fileRun reads giving) giver name))) ∧
    ((∀ giving giver, giving ++ [giver] <+: calls → ¬ Gives reads giving giver name dimension) →
      findingsOf (fileRun reads calls) name dimension = []) := by
  induction calls using List.reverseRecOn with
  | nil =>
    refine ⟨fun giving giver h => ?_, fun _ => rfl⟩
    exact absurd (List.prefix_nil.mp h.run) (List.append_ne_nil_of_right_ne_nil _ (List.cons_ne_nil _ _))
  | append_singleton calls last ih =>
    obtain ⟨hgives, hkeeps⟩ := @findingsOf_concat reads calls last name dimension
    constructor
    · intro giving giver h
      rcases List.prefix_concat_iff.mp h.run with heq | hrun
      · obtain ⟨rfl, hlast⟩ := List.append_inj' heq rfl
        cases hlast
        exact hgives h.gives
      · obtain ⟨between, rfl⟩ := hrun
        rw [hkeeps (h.latest between last List.prefix_rfl)]
        refine ih.1 giving giver ⟨List.prefix_append _ _, h.gives, fun between' later hlater => ?_⟩
        exact h.latest between' later (hlater.trans (List.prefix_append _ _))
    · intro h
      rw [hkeeps (h calls last List.prefix_rfl)]
      exact ih.2 fun giving giver hrun => h giving giver (hrun.trans (List.prefix_append _ _))

theorem loadRow_eq_live {settings : LoadSettings} {now : ℤ} {name : String} {row : PanopticonRow} :
    (loadRow reads settings now name row).status = .liveRevalidated ↔
      now < row.expiresAt ∧ row.status = .liveRevalidated := by
  rw [loadRow]
  by_cases h : row.expiresAt ≤ now
  · rw [if_pos h]
    have hsettings : settings.expiredStatus ≠ .liveRevalidated := by
      rcases settings.allowed with h | h <;> rw [h] <;> decide
    exact iff_of_false hsettings fun hlive => absurd hlive.1 (not_lt.mpr h)
  · rw [if_neg h]
    exact (and_iff_right (not_le.mp h)).symm

theorem get?_loadPayload (settings : LoadSettings) (now : ℤ) (payload : PanopticonPayload) (name : String) :
    (loadPayload reads settings now payload).get? name =
      (payload.tuples.get? name).map (loadRow reads settings now name) :=
  Dict.lookup_map_value (loadRow reads settings now) payload.tuples.entries name

/-- A row that a fitting call has stored is live only with fresh evidence. -/
theorem loadRow_fresh {settings : LoadSettings} {now : ℤ} {call : EvidenceCall} {name : String}
    {file : Option PanopticonPayload} {raw : Dict Json} {row : PanopticonRow} (hfits : StoreFits reads file call)
    (haccepted : (storePanopticonEvidence reads file call).isSome) (hraw : call.evidence.get? name = some raw)
    (hrow : storeRow reads call name raw (storedTuple file name) = some row) (hlater : call.now ≤ now)
    (hlive : (loadRow reads settings now name row).status = .liveRevalidated) :
    (loadRow reads settings now name row).Fresh reads now := by
  obtain ⟨hunexpired, hstatus⟩ := loadRow_eq_live.mp hlive
  obtain ⟨new, hnew, expires, hexpires, hfields⟩ := storeRow_eq_some hrow
  have hfindings : row.findings = storedFindings reads (storedTuple file name) new :=
    congrArg RowFields.findings hfields
  have hexpiry : row.expiresAt = expires := congrArg RowFields.expiresAt hfields
  have hharmless : ∀ finding ∈ row.findings, ¬ finding.blocks := by
    intro finding hfinding hblocks
    exact nomatch (row.status_of_blocks ⟨finding, hfinding, hblocks⟩).symm.trans hstatus
  rw [loadRow, if_neg (not_le.mpr hunexpired)]
  refine ⟨rfl, hharmless, fun finding hfinding => ?_⟩
  replace hfinding : finding ∈ row.findings := hfinding
  rcases hfits.expiries haccepted name raw new hraw hnew with ⟨other, hother, hblocks⟩ | hall | hpast
  · exact absurd hblocks (hharmless other (hfindings ▸ hother))
  · obtain ⟨time, htime⟩ := Option.isSome_iff_exists.mp (hall finding (hfindings ▸ hfinding))
    refine ⟨time, htime, hunexpired.trans_le ?_⟩
    have hmem : some time ∈ (storedFindings reads (storedTuple file name) new).map (·.expiresAt) :=
      List.mem_map.mpr ⟨finding, hfindings ▸ hfinding, htime⟩
    rw [expiryOf] at hexpires
    cases hearliest : earliest ((storedFindings reads (storedTuple file name) new).map (·.expiresAt)) with
    | none => exact absurd hmem (earliest_eq_none hearliest time)
    | some first =>
      rw [hearliest, Option.some_or] at hexpires
      cases hexpires
      rw [hexpiry]
      exact (earliest_le hearliest).mpr ⟨time, hmem, le_rfl⟩
  · obtain ⟨_, hexpires', hpast⟩ := hpast
    cases Option.mem_unique hexpires hexpires'
    omega

theorem StoreRun.now_le {run : StoreRun} {before giving : List EvidenceCall} {call giver : EvidenceCall}
    (hrun : before ++ [call] <+: run.calls) (hgiving : giving ++ [giver] <+: before ++ [call]) :
    giver.now ≤ call.now := by
  rcases List.prefix_concat_iff.mp hgiving with heq | hearlier
  · obtain ⟨-, hcall⟩ := List.append_inj' heq rfl
    rw [List.cons.inj hcall |>.1]
  · have hordered : ((before ++ [call]).map (·.now)).Pairwise (· ≤ ·) :=
      run.ordered.sublist (hrun.sublist.map _)
    rw [List.map_append, List.pairwise_append] at hordered
    have hmem : giver ∈ before := hearlier.subset (List.mem_append_right _ (List.mem_singleton_self _))
    exact hordered.2.2 _ (List.mem_map_of_mem hmem) _ (List.mem_singleton_self _)

theorem others_of_store {before : List EvidenceCall} {call : EvidenceCall} {name : String}
    (hname : call.evidence.get? name = none) :
    storedTuple (fileRun reads (before ++ [call])) name = storedTuple (fileRun reads before) name := by
  rw [fileRun_concat, fileAfter]
  cases hstore : storePanopticonEvidence reads (fileRun reads before) call with
  | none => rw [Option.none_or]
  | some payload =>
    have h := storePanopticonEvidence_eq_some hstore name
    rw [hname] at h
    rw [Option.some_or]
    exact h

/-- A step that keeps what is promised fits the file. -/
theorem KeepsStep.storeFits {before : List EvidenceCall} {call : EvidenceCall} (h : KeepsStep reads before call) :
    StoreFits reads (fileRun reads before) call where
  leftovers hnone := (storeAccepts_iff hnone).mp (h.accepts hnone)
  expiries haccepted name raw new hraw hnew := by
    by_contra hnot
    simp only [not_or, not_exists, not_and, not_forall, not_le] at hnot
    obtain ⟨hharmless, ⟨finding, hfinding, hnever⟩, hlater⟩ := hnot
    obtain ⟨row, hrow⟩ := Option.isSome_iff_exists.mp (storePanopticonEvidence_isSome.mp haccepted name raw hraw)
    obtain ⟨payload, hpayload⟩ := Option.isSome_iff_exists.mp haccepted
    have hstored := storePanopticonEvidence_eq_some hpayload name
    rw [hraw] at hstored
    replace hstored := hstored.1.trans hrow
    obtain ⟨new', hnew', expires, hexpires, hfields⟩ := storeRow_eq_some hrow
    cases Option.some.inj (hnew.symm.trans hnew')
    have hfindings : row.findings = storedFindings reads (storedTuple (fileRun reads before) name) new :=
      congrArg RowFields.findings hfields
    have hstatus : row.status = .liveRevalidated := by
      have hne : storedFindings reads (storedTuple (fileRun reads before) name) new ≠ [] :=
        List.ne_nil_of_mem hfinding
      rw [show row.status = _ from congrArg RowFields.status hfields]
      refine (storedStatus_of_ne_nil hne).trans (if_neg ?_)
      rintro ⟨other, hother, hblocks⟩
      exact hharmless other hother hblocks
    have hexpiry : row.expiresAt = expires := congrArg RowFields.expiresAt hfields
    have hlive : (loadRow reads {} call.now name row).status = .liveRevalidated :=
      loadRow_eq_live.mpr ⟨hexpiry ▸ hlater expires hexpires, hstatus⟩
    have hfile : fileRun reads (before ++ [call]) = some payload := by
      rw [fileRun_concat, fileAfter, hpayload, Option.some_or]
    have hfresh := h.fresh {} call.now payload le_rfl hfile name _
      (by rw [get?_loadPayload, hstored, Option.map_some]) hlive
    have hrowOf : (loadRow reads {} call.now name row).row = row := by
      rw [loadRow]
      split <;> rfl
    obtain ⟨time, htime, -⟩ := hfresh.unexpired finding (by rw [hrowOf, hfindings]; exact hfinding)
    rw [Option.mem_def.mp htime] at hnever
    exact hnever rfl

/-- Stored evidence is fresh, complete and independent of old evidence exactly when every call fits the file that it
meets. -/
theorem keepsEvidence_iff (run : StoreRun) :
    KeepsEvidence reads run ↔
      ∀ before call, before ++ [call] <+: run.calls → StoreFits reads (fileRun reads before) call := by
  constructor
  · intro h before call hrun
    exact (h before call hrun).storeFits
  · intro h before call hrun
    have hfindings := @findingsOf_run reads (before ++ [call])
    refine ⟨fun hraises => ?_, fun hnone => (storeAccepts_iff hnone).mpr ((h before call hrun).leftovers hnone),
      fun name dimension => (hfindings name dimension).1, fun name dimension => (hfindings name dimension).2,
      fun name => others_of_store, ?_⟩
    · rw [fileRun_concat, fileAfter, hraises, Option.none_or]
    · intro settings now payload hlater hfile name loaded hloaded hlive
      rw [get?_loadPayload] at hloaded
      obtain ⟨row, hrow, rfl⟩ := Option.map_eq_some_iff.mp hloaded
      have hstored : storedTuple (fileRun reads (before ++ [call])) name = some row := by
        rw [hfile]
        exact hrow
      obtain ⟨giving, giver, raw, hgiving, haccepted, hraw, hstore⟩ := exists_storeRow hstored
      exact loadRow_fresh (h giving giver (hgiving.trans hrun)) haccepted hraw hstore
        ((StoreRun.now_le hrun hgiving).trans hlater) hlive

/-! ## An adapter that is replaced -/

def endpointOf (adapter : String) : EvidenceCall where
  evidence := inputEvidence "unknown" [("adapter", .str adapter), ("dimension", .str "endpoint")]
  now := newYear

def stockOf (adapter : String) : EvidenceCall where
  evidence := inputEvidence "unknown" [("adapter", .str adapter), ("dimension", .str "stock"),
    ("live_stock_state", .str "available")]
  now := newYear

/-- The endpoint of the old adapter blocks the stock of the new one. -/
theorem not_keepsEvidence :
    ¬ KeepsEvidence januaryReads ⟨[endpointOf "modal", stockOf "runpod"], List.pairwise_pair.mpr (Int.le_refl _)⟩ := by
  intro h
  have haccepts := (h [endpointOf "modal"] (stockOf "runpod") List.prefix_rfl).accepts (by decide +kernel)
  have hrefused : (storePanopticonEvidence januaryReads (fileRun januaryReads [endpointOf "modal"])
      (stockOf "runpod")).isSome = false := by
    decide +kernel
  rw [hrefused] at haccepts
  cases haccepts

end Gpucall
