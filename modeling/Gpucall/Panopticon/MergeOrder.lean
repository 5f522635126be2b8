import Gpucall.Lib.OptionList
import Gpucall.Panopticon.Merge

/-! What is left of an alarm when evidence is merged, and when the order of the sources does not matter. A merged
row is the least upper bound of the rows it was made from; what can be lost is lost where a row is read. -/

namespace Gpucall

variable {reads : PanopticonReads}

/-! ## Two rows -/

theorem wholeSeconds_nonneg {observed expires : ℤ} (h : observed ≤ expires) :
    0 ≤ wholeSeconds observed expires := Int.tdiv_nonneg (by omega) (by decide)

theorem mem_of_mem_dedupeFindings {findings : List PanopticonFinding} {finding : PanopticonFinding}
    (h : finding ∈ dedupeFindings reads findings) : finding ∈ findings :=
  FirstWins.mem_of_mem_keepFirst h

theorem dedupeFindings_eq_nil {findings : List PanopticonFinding} :
    dedupeFindings reads findings = [] ↔ findings = [] := FirstWins.keepFirst_eq_nil

/-- The tuple and the adapter stand in the key. -/
theorem exists_mem_dedupeFindings {findings : List PanopticonFinding} {finding : PanopticonFinding}
    (h : finding ∈ findings) :
    ∃ kept ∈ dedupeFindings reads findings, kept.tuple = finding.tuple ∧ kept.adapter = finding.adapter := by
  have hkey : findingKey reads finding ∈ (dedupeFindings reads findings).map (findingKey reads) :=
    FirstWins.mem_map_keepFirst.mpr (List.mem_map_of_mem h)
  obtain ⟨kept, hkept, heq⟩ := List.mem_map.mp hkey
  exact ⟨kept, hkept, congrArg FindingKey.tuple heq, congrArg FindingKey.adapter heq⟩

theorem PanopticonRow.status_of_blocks (row : PanopticonRow)
    (h : ∃ finding ∈ row.findings, finding.blocks) : row.status = .blocked :=
  row.valid.blocked (List.any_eq_true.mpr h)

theorem PanopticonRow.blocked_of_mem_dedupe {current row : PanopticonRow} {finding : PanopticonFinding}
    (hmem : finding ∈ dedupeFindings reads (current.findings ++ row.findings)) (hblocks : finding.blocks) :
    current.status = .blocked ∨ row.status = .blocked := by
  rcases List.mem_append.mp (mem_of_mem_dedupeFindings hmem) with h | h
  · exact .inl (current.status_of_blocks ⟨finding, h, hblocks⟩)
  · exact .inr (row.status_of_blocks ⟨finding, h, hblocks⟩)

theorem statusFromFindings_eq_blocked {findings : List PanopticonFinding} :
    statusFromFindings findings = .blocked ↔ ∃ finding ∈ findings, finding.blocks := by
  rw [statusFromFindings, ← List.any_eq_true]
  split_ifs <;> simp_all

/-- How alarming a status is -/
def PanopticonStatus.rank : PanopticonStatus → ℕ
  | .notChecked => 0
  | .unknown => 1
  | .liveRevalidated => 2
  | .blocked => 3

theorem PanopticonStatus.rank_injective : Function.Injective PanopticonStatus.rank := by
  intro a b h
  cases a <;> cases b <;> first | rfl | cases h

theorem PanopticonStatus.two_le_rank {status : PanopticonStatus} :
    2 ≤ status.rank ↔ status = .liveRevalidated ∨ status = .blocked := by
  cases status <;> simp [rank]

/-- The findings only matter to `_merged_status` where a row is blocked already. -/
theorem mergedStatus_rank (current row : PanopticonRow) :
    (mergedStatus current.status row.status
      (dedupeFindings reads (current.findings ++ row.findings))).rank =
        max current.status.rank row.status.rank := by
  have hfindings : statusFromFindings (dedupeFindings reads (current.findings ++ row.findings)) = .blocked →
      current.status = .blocked ∨ row.status = .blocked := by
    intro h
    obtain ⟨finding, hmem, hblocks⟩ := statusFromFindings_eq_blocked.mp h
    exact PanopticonRow.blocked_of_mem_dedupe hmem hblocks
  rw [mergedStatus]
  by_cases hstatus :
      statusFromFindings (dedupeFindings reads (current.findings ++ row.findings)) = .blocked
  · rcases hfindings hstatus with h | h <;> rw [h] <;> simp [hstatus, PanopticonStatus.rank]
    · cases row.status <;> decide
    · cases current.status <;> decide
  · cases current.status <;> cases row.status <;> simp [hstatus, PanopticonStatus.rank]

/-- The findings of a row fit under another row. -/
def PanopticonRow.Fits (row current : PanopticonRow) : Prop :=
  ∀ finding ∈ row.findings, finding.tuple = current.tuple ∧ finding.adapter = current.adapter

/-- Two rows are merged exactly when the findings of the second fit under the first. -/
theorem mergeRow_isSome {current row : PanopticonRow} :
    (mergeRow reads current row).isSome ↔ row.Fits current := by
  rw [mergeRow, RowFields.validated_isSome]
  constructor
  · intro h finding hfinding
    obtain ⟨kept, hkept, htuple, hadapter⟩ := exists_mem_dedupeFindings (List.mem_append_right _ hfinding)
    rw [← htuple, ← hadapter]
    exact h.identity kept hkept
  · intro h
    have hrank := @mergedStatus_rank reads current row
    have hvalid := current.valid
    have hexpiry : min current.observedAt row.observedAt ≤ min current.expiresAt row.expiresAt :=
      min_le_min hvalid.expiry row.valid.expiry
    refine ⟨hvalid.tuple, hvalid.adapter, hexpiry, Int.toNat_of_nonneg (wholeSeconds_nonneg hexpiry), rfl,
      ?_, ?_, ?_, ?_⟩
    · intro finding hfinding
      rcases List.mem_append.mp (mem_of_mem_dedupeFindings hfinding) with hcurrent | hrow
      · exact hvalid.identity finding hcurrent
      · exact h finding hrow
    · intro hstatus hnil
      obtain ⟨hcurrent, hrow⟩ := List.append_eq_nil_iff.mp (dedupeFindings_eq_nil.mp hnil)
      rcases le_max_iff.mp (hrank ▸ PanopticonStatus.two_le_rank.mpr hstatus) with hside | hside
      · exact hvalid.nonempty (PanopticonStatus.two_le_rank.mp hside) hcurrent
      · exact row.valid.nonempty (PanopticonStatus.two_le_rank.mp hside) hrow
    · intro hblocks
      have hstatus := statusFromFindings_eq_blocked.mpr (List.any_eq_true.mp hblocks)
      simp [mergedStatus, hstatus]
    · intro hlive
      have hmax : max current.status.rank row.status.rank = PanopticonStatus.rank .liveRevalidated := by
        rw [← hrank]
        exact congrArg _ hlive
      rw [Bool.or_eq_true]
      rcases max_choice current.status.rank row.status.rank with hside | hside <;> rw [hside] at hmax
      · exact .inl (hvalid.checked (PanopticonStatus.rank_injective hmax))
      · exact .inr (row.valid.checked (PanopticonStatus.rank_injective hmax))

/-! ## Many rows -/

/-- What a merge is about: how alarming the status is, how early the row expires and was observed, and the
findings. Where one is at least another, it is at least as alarming, as early, and has all its findings. -/
abbrev RowEvidence := ℕ × ℤᵒᵈ × ℤᵒᵈ × Set FindingKey

def PanopticonRow.evidence (reads : PanopticonReads) (row : PanopticonRow) : RowEvidence :=
  (row.status.rank, OrderDual.toDual row.expiresAt, OrderDual.toDual row.observedAt,
    {key | key ∈ row.findings.map (findingKey reads)})

theorem mergeRow_eq_some {current row merged : PanopticonRow} (h : mergeRow reads current row = some merged) :
    merged.tuple = current.tuple ∧ merged.adapter = current.adapter ∧
      merged.evidence reads = current.evidence reads ⊔ row.evidence reads := by
  have hfields := RowFields.validated_eq_some.mp h
  have hstatus := @mergedStatus_rank reads current row
  refine ⟨by rw [hfields], by rw [hfields], ?_⟩
  simp only [PanopticonRow.evidence, hfields, Prod.mk_sup_mk]
  refine Prod.ext hstatus (Prod.ext rfl (Prod.ext rfl ?_))
  ext key
  simp only [Set.mem_ofPred_eq, Set.sup_eq_union, Set.mem_union, dedupeFindings, FirstWins.mem_map_keepFirst,
    List.map_append, List.mem_append]

/-- `rows` of one tuple, merged from left to right -/
def mergeRows (reads : PanopticonReads) : List PanopticonRow → Option PanopticonRow
  | [] => none
  | first :: rest => rest.foldlM (mergeRow reads) first

theorem foldlM_mergeRow_isSome {current : PanopticonRow} {rows : List PanopticonRow} :
    (rows.foldlM (mergeRow reads) current).isSome ↔ ∀ row ∈ rows, row.Fits current := by
  induction rows generalizing current with
  | nil => simp
  | cons row rows ih =>
    rw [List.foldlM_cons, List.forall_mem_cons, ← @mergeRow_isSome reads]
    cases hmerge : mergeRow reads current row with
    | none => simp
    | some merged =>
      obtain ⟨htuple, hadapter, -⟩ := mergeRow_eq_some hmerge
      have hfits (other : PanopticonRow) : other.Fits merged ↔ other.Fits current := by
        rw [PanopticonRow.Fits, PanopticonRow.Fits, htuple, hadapter]
      simp only [Option.bind_eq_bind, Option.bind_some, ih, hfits, Option.isSome_some, true_and]

/-- The rows are merged into their least upper bound. -/
theorem foldlM_mergeRow_isLUB {current merged : PanopticonRow} {rows : List PanopticonRow}
    (h : rows.foldlM (mergeRow reads) current = some merged) :
    IsLUB {evidence | ∃ row ∈ current :: rows, row.evidence reads = evidence} (merged.evidence reads) := by
  induction rows generalizing current with
  | nil =>
    cases h
    have hset : {evidence | ∃ row ∈ [merged], row.evidence reads = evidence} =
        {merged.evidence reads} := by
      ext evidence
      simp [eq_comm]
    rw [hset]
    exact isLUB_singleton
  | cons row rows ih =>
    rw [List.foldlM_cons] at h
    obtain ⟨both, hboth, hrest⟩ := Option.bind_eq_some_iff.mp h
    obtain ⟨-, -, hsup⟩ := mergeRow_eq_some hboth
    have hlub := ih hrest
    refine ⟨?_, fun bound hbound => hlub.2 ?_⟩
    · rintro _ ⟨other, hother, rfl⟩
      rcases List.mem_cons.mp hother with rfl | hother
      · exact (le_sup_left.trans_eq hsup.symm).trans (hlub.1 ⟨both, List.mem_cons_self, rfl⟩)
      rcases List.mem_cons.mp hother with rfl | hother
      · exact (le_sup_right.trans_eq hsup.symm).trans (hlub.1 ⟨both, List.mem_cons_self, rfl⟩)
      · exact hlub.1 ⟨other, List.mem_cons_of_mem _ hother, rfl⟩
    · rintro _ ⟨other, hother, rfl⟩
      rcases List.mem_cons.mp hother with rfl | hother
      · rw [hsup]
        exact sup_le (hbound ⟨current, List.mem_cons_self, rfl⟩)
          (hbound ⟨row, List.mem_cons_of_mem _ List.mem_cons_self, rfl⟩)
      · exact hbound ⟨other, List.mem_cons_of_mem _ (List.mem_cons_of_mem _ hother), rfl⟩

theorem foldlM_mergeRow_iff {P : RowEvidence → Prop} (hP : ∀ a b, P (a ⊔ b) ↔ P a ∨ P b)
    {current merged : PanopticonRow} {rows : List PanopticonRow}
    (h : rows.foldlM (mergeRow reads) current = some merged) :
    P (merged.evidence reads) ↔ ∃ row ∈ current :: rows, P (row.evidence reads) := by
  induction rows generalizing current with
  | nil =>
    cases h
    simp
  | cons row rows ih =>
    rw [List.foldlM_cons] at h
    obtain ⟨both, hboth, hrest⟩ := Option.bind_eq_some_iff.mp h
    obtain ⟨-, -, hsup⟩ := mergeRow_eq_some hboth
    rw [ih hrest]
    simp only [List.exists_mem_cons_iff, hsup, hP, or_assoc]

/-! ## Alarms -/

/-- `status` is `blocked`. -/
def SaysBlocked (data : Dict Json) : Prop := requireField readStatus data "status" = some .blocked

/-- `expires_at` is a time at or before `now`. -/
def ExpiresBy (reads : PanopticonReads) (data : Dict Json) (now : ℤ) : Prop :=
  ∃ time, requireField reads.datetime data "expires_at" = some time ∧ time ≤ now

/-- The findings of a row that has not been read. -/
def rawFindings (data : Dict Json) : List (Dict Json) :=
  (readField (readList readObject) [] data "findings").getD []

/-- A finding of an error or of unavailable stock -/
def RawBlocks (finding : Dict Json) : Prop :=
  requireField readSeverity finding "severity" = some .error ∨
    requireField readStockState finding "live_stock_state" = some .unavailable

/-- A row is blocked, has a finding that blocks, or carries a time of expiry that has come. -/
def Alarming (reads : PanopticonReads) (data : Dict Json) (now : ℤ) : Prop :=
  SaysBlocked data ∨ ExpiresBy reads data now ∨
    ∃ finding ∈ rawFindings data, RawBlocks finding ∨ ExpiresBy reads finding now

/-- The alarms that are still there after the row has been read: in a row of the strict format its own status and
expiry, in any other row those of its findings. -/
def KeepsAlarm (reads : PanopticonReads) (raw : Dict Json) (now : ℤ) : Prop :=
  let data := stripLoadedRowMetadata raw
  if (readRow reads data).isSome then SaysBlocked data ∨ ExpiresBy reads data now
  else ∃ finding ∈ rawFindings data, RawBlocks finding ∨ ExpiresBy reads finding now

theorem FindingFields.blocks_iff {defaults : FindingDefaults} {data : Dict Json} {finding : PanopticonFinding}
    (h : readFinding reads defaults data = some finding) : finding.blocks ↔ RawBlocks data := by
  obtain ⟨-, -, -, hseverity, hstock, -, -⟩ := readFinding_eq_some h
  rw [RawBlocks, requireField_eq_some_iff hseverity (by decide),
    requireField_eq_some_iff_orNull hstock rfl, PanopticonFinding.blocks, Bool.or_eq_true,
    decide_eq_true_iff, decide_eq_true_iff]
  refine or_congr_right (iff_self_and.mpr fun hunavailable => ?_)
  by_contra hnone
  rw [readField, Option.not_isSome_iff_eq_none.mp hnone] at hstock
  rw [← Option.some.inj hstock] at hunavailable
  cases hunavailable

theorem ttlSecondsForFindings_pos (findings : List (Dict Json)) : 0 < ttlSecondsForFindings findings := by
  rw [ttlSecondsForFindings]
  cases hmin : (findings.filterMap fun finding =>
      ((finding.get? "dimension").filter Json.truthy).map fun dimension =>
        ((readDimension dimension).map (·.ttl)).getD 300).min? with
  | none => decide
  | some ttl =>
    obtain ⟨finding, -, hfinding⟩ := List.mem_filterMap.mp (List.min?_mem hmin)
    obtain ⟨dimension, -, rfl⟩ := Option.map_eq_some_iff.mp hfinding
    rw [Option.getD_some]
    cases readDimension dimension with
    | none => decide
    | some dimension => cases dimension <;> decide

theorem plusSeconds_eq_some {time seconds sum : ℤ} (h : plusSeconds time seconds = some sum) :
    sum = time + seconds * 1000000 := by
  rw [plusSeconds] at h
  split at h
  · exact (Option.some.inj h).symm
  · cases h

/-- A canonical finding blocks where the raw one does, and has expired where the raw one says so. -/
theorem canonicalFinding_iff {tupleName adapter : String} {now ttl : ℤ} (httl : 0 < ttl) {raw : Dict Json}
    {finding : PanopticonFinding} (h : canonicalFinding reads tupleName adapter now ttl raw = some finding) :
    (finding.blocks ↔ RawBlocks raw) ∧
      ((∃ time ∈ finding.expiresAt, time ≤ now) ↔ ExpiresBy reads raw now) := by
  obtain ⟨data, later, hlater, hread, hkeys⟩ := canonicalFinding_eq_some h
  obtain ⟨-, -, -, -, -, -, hexpires⟩ := readFinding_eq_some hread
  have hget : data.get? "expires_at" = raw.get? "expires_at" := hkeys _ (by decide)
  constructor
  · rw [FindingFields.blocks_iff hread, RawBlocks, RawBlocks, requireField, requireField, requireField,
      requireField, hkeys "severity" (by decide), hkeys "live_stock_state" (by decide)]
  · rw [readField, hget] at hexpires
    rw [ExpiresBy, requireField]
    cases hraw : raw.get? "expires_at" with
    | none =>
      rw [hraw] at hexpires
      have hlate : now < later := by
        rw [plusSeconds_eq_some hlater]
        omega
      simp [← Option.some.inj hexpires, hlate]
    | some json =>
      rw [hraw] at hexpires
      cases json with
      | null => simp [← Option.some.inj hexpires, reads.datetime_null]
      | _ =>
        obtain ⟨time, htime, heq⟩ := Option.map_eq_some_iff.mp hexpires
        simp [← heq, htime]

theorem earliest_le {times : List (Option ℤ)} {first now : ℤ} (h : earliest times = some first) :
    first ≤ now ↔ ∃ time, some time ∈ times ∧ time ≤ now := by
  have hmem (time : ℤ) : time ∈ times.filterMap id ↔ some time ∈ times := by simp
  have hmin := List.min?_eq_some_iff.mp h
  constructor
  · intro hle
    exact ⟨first, (hmem first).mp hmin.1, hle⟩
  · rintro ⟨time, htime, hle⟩
    exact (hmin.2 time ((hmem time).mpr htime)).trans hle

theorem earliest_eq_none {times : List (Option ℤ)} (h : earliest times = none) (time : ℤ) :
    some time ∉ times := by
  have hnil := List.min?_eq_none_iff.mp h
  intro hmem
  have hfilter : time ∈ times.filterMap id := by simpa using hmem
  rw [hnil] at hfilter
  cases hfilter

theorem storedStatus_eq_blocked {status : Option PanopticonStatus} {findings : List PanopticonFinding} :
    storedStatus status findings = .blocked ↔
      (∃ finding ∈ findings, finding.blocks) ∨ findings = [] ∧ status = some .blocked := by
  rw [storedStatus, ← statusFromFindings_eq_blocked]
  cases findings with
  | nil => cases status <;> simp [statusFromFindings]
  | cons finding findings => simp

/-- A row that is rebuilt from input only knows the alarms of its findings. -/
theorem rowFromInput_iff {name : String} {data : Dict Json} {now : ℤ} {row : PanopticonRow}
    (h : rowFromInput reads name data now = some row) :
    row.status = .blocked ∨ row.expiresAt ≤ now ↔
      ∃ finding ∈ rawFindings data, RawBlocks finding ∨ ExpiresBy reads finding now := by
  obtain ⟨input, hinput, h⟩ := Option.bind_eq_some_iff.mp h
  obtain ⟨tuple, -, h⟩ := Option.bind_eq_some_iff.mp h
  obtain ⟨adapter, -, h⟩ := Option.bind_eq_some_iff.mp h
  obtain ⟨findings, hfindings, h⟩ := Option.bind_eq_some_iff.mp h
  obtain ⟨expiresAt, hexpires, h⟩ := Option.bind_eq_some_iff.mp h
  have hfields := RowFields.validated_eq_some.mp h
  have hraw : rawFindings data = input.findings := by
    rw [rawFindings, readInputRow_eq_some hinput, Option.getD_some]
  have httl : (0 : ℤ) < ((input.ttlSeconds.filter (· ≠ 0)).getD (ttlSecondsForFindings input.findings) : ℕ) := by
    cases hgiven : input.ttlSeconds.filter (· ≠ 0) with
    | none => exact_mod_cast ttlSecondsForFindings_pos _
    | some ttl =>
      have hne := (Option.filter_eq_some_iff.mp hgiven).2
      have hpos : ttl ≠ 0 := by simpa using hne
      exact_mod_cast Nat.pos_of_ne_zero hpos
  have hblocks := OptionList.exists_mem_mapM hfindings
    (fun raw _ finding hfinding => (canonicalFinding_iff httl hfinding).1)
  have hexpired := OptionList.exists_mem_mapM hfindings
    (fun raw _ finding hfinding => (canonicalFinding_iff httl hfinding).2)
  have hstatus : row.status = .blocked ↔ ∃ finding ∈ input.findings, RawBlocks finding := by
    have hrow : row.status = storedStatus input.status findings := by rw [hfields]
    rw [hrow, storedStatus_eq_blocked, ← hblocks]
    refine or_iff_left ?_
    rintro ⟨hnil, hblocked⟩
    -- a blocked row without findings is no valid row
    have hrowBlocked : row.status = .blocked := by rw [hrow, hblocked, hnil]; rfl
    exact row.valid.nonempty (.inr hrowBlocked) (by rw [hfields]; exact hnil)
  have hexpiry : row.expiresAt ≤ now ↔ ∃ finding ∈ input.findings, ExpiresBy reads finding now := by
    have hrow : row.expiresAt = expiresAt := by rw [hfields]
    rw [hrow, ← hexpired]
    cases hearliest : earliest (findings.map (·.expiresAt)) with
    | none =>
      rw [hearliest, Option.none_or] at hexpires
      have hlate : ¬ expiresAt ≤ now := by
        rw [plusSeconds_eq_some hexpires]
        omega
      refine iff_of_false hlate ?_
      rintro ⟨finding, hfinding, time, htime, -⟩
      exact earliest_eq_none hearliest time (List.mem_map.mpr ⟨finding, hfinding, htime⟩)
    | some first =>
      rw [hearliest, Option.some_or] at hexpires
      cases hexpires
      rw [earliest_le hearliest]
      constructor
      · rintro ⟨time, htime, hle⟩
        obtain ⟨finding, hfinding, heq⟩ := List.mem_map.mp htime
        exact ⟨finding, hfinding, time, heq, hle⟩
      · rintro ⟨finding, hfinding, time, htime, hle⟩
        exact ⟨time, List.mem_map.mpr ⟨finding, hfinding, htime⟩, hle⟩
  rw [hstatus, hexpiry, hraw]
  simp only [and_or_left, exists_or]

/-- A row that has been read is blocked or has expired exactly where it keeps an alarm. -/
theorem rowFromLoadedOrInput_iff {name : String} {raw : Dict Json} {now : ℤ} {row : PanopticonRow}
    (h : rowFromLoadedOrInput reads name raw now = some row) :
    row.status = .blocked ∨ row.expiresAt ≤ now ↔ KeepsAlarm reads raw now := by
  rw [rowFromLoadedOrInput] at h
  rw [KeepsAlarm]
  cases hstrict : readRow reads (stripLoadedRowMetadata raw) with
  | none =>
    simp only [hstrict] at h
    simpa using rowFromInput_iff h
  | some strict =>
    simp only [hstrict, Option.some.injEq] at h
    subst h
    obtain ⟨hstatus, hexpires⟩ := readRow_eq_some hstrict
    simp [SaysBlocked, ExpiresBy, hstatus, hexpires]

/-! ## The rows of each tuple -/

/-- The rows that the sources have for a tuple, as they are read. -/
def rowsOf (reads : PanopticonReads) (now : ℤ) (entries : List (String × Dict Json)) (name : String) :
    List PanopticonRow :=
  entries.filterMap fun entry =>
    if entry.1 = name then rowFromLoadedOrInput reads entry.1 entry.2 now else none

/-- Further rows of a tuple after what has been merged so far. -/
def mergeOnto (reads : PanopticonReads) : Option PanopticonRow → List PanopticonRow →
    Option (Option PanopticonRow)
  | none, [] => some none
  | none, row :: rows => (rows.foldlM (mergeRow reads) row).map some
  | some current, rows => (rows.foldlM (mergeRow reads) current).map some

theorem mergeOnto_cons (current : Option PanopticonRow) (row : PanopticonRow) (rows : List PanopticonRow) :
    mergeOnto reads current (row :: rows) =
      ((current.elim (some row) fun current => mergeRow reads current row).bind fun merged =>
        mergeOnto reads (some merged) rows) := by
  cases current with
  | none => rfl
  | some current =>
    rw [mergeOnto, List.foldlM_cons, Option.elim_some]
    cases mergeRow reads current row <;> rfl

/-- One round merges the row into what its tuple has, and leaves the other tuples alone. -/
theorem mergeEntry_eq_some {now : ℤ} {rows rows' : Dict PanopticonRow} {entry : String × Dict Json} :
    mergeEntry reads now rows entry = some rows' ↔
      ∃ row merged, rowFromLoadedOrInput reads entry.1 entry.2 now = some row ∧
        (rows.get? entry.1).elim (some row) (fun current => mergeRow reads current row) = some merged ∧
          rows' = rows.set entry.1 merged := by
  rw [mergeEntry]
  cases hrow : rowFromLoadedOrInput reads entry.1 entry.2 now with
  | none => simp
  | some row =>
    cases hget : rows.get? entry.1 with
    | none => simp [eq_comm]
    | some current =>
      cases hmerge : mergeRow reads current row with
      | none => simp [hmerge]
      | some merged => simp [hmerge, eq_comm]

theorem rowsOf_cons_self {now : ℤ} {entry : String × Dict Json} {entries : List (String × Dict Json)}
    {row : PanopticonRow} (h : rowFromLoadedOrInput reads entry.1 entry.2 now = some row) :
    rowsOf reads now (entry :: entries) entry.1 = row :: rowsOf reads now entries entry.1 :=
  List.filterMap_cons_some (by rw [if_pos rfl, h])

theorem rowsOf_cons_of_ne {now : ℤ} {entry : String × Dict Json} {entries : List (String × Dict Json)}
    {name : String} (h : entry.1 ≠ name) : rowsOf reads now (entry :: entries) name = rowsOf reads now entries name :=
  List.filterMap_cons_none (if_neg h)

theorem foldlM_mergeEntry {now : ℤ} {entries : List (String × Dict Json)} {rows rows' : Dict PanopticonRow}
    (h : entries.foldlM (mergeEntry reads now) rows = some rows') (name : String) :
    mergeOnto reads (rows.get? name) (rowsOf reads now entries name) = some (rows'.get? name) := by
  induction entries generalizing rows with
  | nil =>
    cases h
    cases hget : rows'.get? name <;> rfl
  | cons entry entries ih =>
    rw [List.foldlM_cons] at h
    obtain ⟨next, hnext, hrest⟩ := Option.bind_eq_some_iff.mp h
    obtain ⟨row, merged, hrow, hmerged, rfl⟩ := mergeEntry_eq_some.mp hnext
    have hih := ih hrest
    rw [Dict.get?_set] at hih
    by_cases hname : entry.1 = name
    · subst hname
      rw [if_pos rfl] at hih
      rw [rowsOf_cons_self hrow, mergeOnto_cons, hmerged]
      exact hih
    · rw [if_neg (Ne.symm hname)] at hih
      rw [rowsOf_cons_of_ne hname, hih]

theorem foldlM_mergeEntry_isSome {now : ℤ} {entries : List (String × Dict Json)} {rows : Dict PanopticonRow}
    (hread : ∀ entry ∈ entries, (rowFromLoadedOrInput reads entry.1 entry.2 now).isSome)
    (hmerge : ∀ name, (mergeOnto reads (rows.get? name) (rowsOf reads now entries name)).isSome) :
    (entries.foldlM (mergeEntry reads now) rows).isSome := by
  induction entries generalizing rows with
  | nil => rfl
  | cons entry entries ih =>
    obtain ⟨hfirst, hrest⟩ := List.forall_mem_cons.mp hread
    obtain ⟨row, hrow⟩ := Option.isSome_iff_exists.mp hfirst
    have hentry := hmerge entry.1
    rw [rowsOf_cons_self hrow, mergeOnto_cons] at hentry
    obtain ⟨found, hfound⟩ := Option.isSome_iff_exists.mp hentry
    obtain ⟨merged, hmerged, hfound⟩ := Option.bind_eq_some_iff.mp hfound
    rw [List.foldlM_cons, mergeEntry_eq_some.mpr ⟨row, merged, hrow, hmerged, rfl⟩]
    refine ih hrest fun name => ?_
    rw [Dict.get?_set]
    by_cases hname : name = entry.1
    · rw [if_pos hname, hname, hfound]
      rfl
    · have hother := hmerge name
      rw [rowsOf_cons_of_ne (Ne.symm hname)] at hother
      rwa [if_neg hname]

theorem read_of_foldlM_mergeEntry {now : ℤ} {entries : List (String × Dict Json)}
    {rows rows' : Dict PanopticonRow} (h : entries.foldlM (mergeEntry reads now) rows = some rows') :
    ∀ entry ∈ entries, (rowFromLoadedOrInput reads entry.1 entry.2 now).isSome := by
  induction entries generalizing rows with
  | nil => simp
  | cons entry entries ih =>
    rw [List.foldlM_cons] at h
    obtain ⟨next, hnext, hrest⟩ := Option.bind_eq_some_iff.mp h
    obtain ⟨row, merged, hrow, -, -⟩ := mergeEntry_eq_some.mp hnext
    exact List.forall_mem_cons.mpr ⟨Option.isSome_of_eq_some hrow, ih hrest⟩

/-! ## The merged evidence -/

/-- What a merge promises of a row: it is blocked or stale. -/
def MergedRow.Alarmed (merged : MergedRow) : Prop :=
  merged.row.status = .blocked ∨ merged.panopticonStale = true

/-- Where a source has an alarm for a tuple, the merged row of the tuple has one. -/
def FailsClosed (reads : PanopticonReads) (now : ℤ) (items : List (Option PanopticonEvidence))
    (merged : Dict MergedRow) : Prop :=
  ∀ entry ∈ evidenceEntries items, Alarming reads entry.2 now →
    ∃ row, merged.get? entry.1 = some row ∧ row.Alarmed

structure MergedRow.Same (reads : PanopticonReads) (a b : MergedRow) : Prop where
  status : a.row.status = b.row.status
  expiresAt : a.row.expiresAt = b.row.expiresAt
  observedAt : a.row.observedAt = b.row.observedAt
  stale : a.panopticonStale = b.panopticonStale
  findings : ∀ key, key ∈ a.row.findings.map (findingKey reads) ↔ key ∈ b.row.findings.map (findingKey reads)

/-- In every order the sources are accepted and give the same rows. -/
def OrderIrrelevant (reads : PanopticonReads) (now : ℤ) (items : List (Option PanopticonEvidence))
    (merged : Dict MergedRow) : Prop :=
  ∀ items', items'.Perm items → ∃ merged', mergePanopticonEvidence reads items' now = some merged' ∧
    ∀ name, Option.Rel (MergedRow.Same reads) (merged.get? name) (merged'.get? name)

section Merged

variable {now : ℤ} {items : List (Option PanopticonEvidence)} {merged : Dict MergedRow}

/-- The merged row of a tuple is its rows merged one onto the other. -/
theorem mergePanopticonEvidence_get? (h : mergePanopticonEvidence reads items now = some merged)
    (name : String) : ∃ row, mergeOnto reads none (rowsOf reads now (evidenceEntries items) name) = some row ∧
      merged.get? name = row.map fun row => { row, panopticonStale := row.expiresAt ≤ now } := by
  obtain ⟨rows, hrows, rfl⟩ := Option.map_eq_some_iff.mp h
  refine ⟨rows.get? name, foldlM_mergeEntry hrows name, ?_⟩
  rw [Dict.get?_filterMap]
  cases rows.get? name <;> rfl

theorem mergePanopticonEvidence_isSome :
    (mergePanopticonEvidence reads items now).isSome ↔
      (∀ entry ∈ evidenceEntries items, (rowFromLoadedOrInput reads entry.1 entry.2 now).isSome) ∧
        ∀ name, (mergeOnto reads none (rowsOf reads now (evidenceEntries items) name)).isSome := by
  constructor
  · intro h
    obtain ⟨merged, hmerged⟩ := Option.isSome_iff_exists.mp h
    obtain ⟨rows, hrows, -⟩ := Option.map_eq_some_iff.mp hmerged
    refine ⟨read_of_foldlM_mergeEntry hrows, fun name => ?_⟩
    obtain ⟨row, hrow, -⟩ := mergePanopticonEvidence_get? hmerged name
    exact Option.isSome_of_eq_some hrow
  · rintro ⟨hread, hmerge⟩
    rw [mergePanopticonEvidence, Option.isSome_map]
    exact foldlM_mergeEntry_isSome hread hmerge

theorem mergeOnto_none_eq_some {rows : List PanopticonRow} {found : PanopticonRow} :
    mergeOnto reads none rows = some (some found) ↔
      ∃ first rest, rows = first :: rest ∧ rest.foldlM (mergeRow reads) first = some found := by
  cases rows with
  | nil => simp [mergeOnto]
  | cons first rest => simp [mergeOnto]

theorem mergeOnto_none_eq_none {rows : List PanopticonRow} :
    mergeOnto reads none rows = some none ↔ rows = [] := by
  cases rows with
  | nil => simp [mergeOnto]
  | cons first rest => simp [mergeOnto]

theorem mergeOnto_none_isSome {rows : List PanopticonRow} :
    (mergeOnto reads none rows).isSome ↔ ∀ first rest, rows = first :: rest → ∀ row ∈ rest, row.Fits first := by
  cases rows with
  | nil => simp [mergeOnto]
  | cons first rest =>
    rw [mergeOnto, Option.isSome_map, foldlM_mergeRow_isSome]
    constructor
    · rintro h _ _ ⟨⟩
      exact h
    · intro h
      exact h first rest rfl

/-- Two merges of the same rows in different orders give the same row. -/
theorem MergedRow.same_of_perm {rows rows' : List PanopticonRow} (hperm : rows'.Perm rows)
    {row row' : PanopticonRow} (h : mergeOnto reads none rows = some (some row))
    (h' : mergeOnto reads none rows' = some (some row')) :
    MergedRow.Same reads { row, panopticonStale := row.expiresAt ≤ now }
      { row := row', panopticonStale := row'.expiresAt ≤ now } := by
  obtain ⟨first, rest, rfl, hfold⟩ := mergeOnto_none_eq_some.mp h
  obtain ⟨first', rest', rfl, hfold'⟩ := mergeOnto_none_eq_some.mp h'
  have hlub' := foldlM_mergeRow_isLUB hfold'
  simp only [hperm.mem_iff] at hlub'
  have heq := (foldlM_mergeRow_isLUB hfold).unique hlub'
  simp only [PanopticonRow.evidence, Prod.mk.injEq, EmbeddingLike.apply_eq_iff_eq, Set.ext_iff,
    Set.mem_ofPred_eq] at heq
  obtain ⟨hstatus, hexpires, hobserved, hfindings⟩ := heq
  exact ⟨PanopticonStatus.rank_injective hstatus, hexpires, hobserved, by rw [hexpires], hfindings⟩

/-- The merged row is blocked or stale exactly when one of its rows is blocked or has expired. -/
theorem alarmed_iff (h : mergePanopticonEvidence reads items now = some merged) (name : String) :
    (∃ row, merged.get? name = some row ∧ row.Alarmed) ↔
      ∃ row ∈ rowsOf reads now (evidenceEntries items) name, row.status = .blocked ∨ row.expiresAt ≤ now := by
  obtain ⟨found, hfound, hget⟩ := mergePanopticonEvidence_get? h name
  let Alarm (evidence : RowEvidence) : Prop := 3 ≤ evidence.1 ∨ OrderDual.ofDual evidence.2.1 ≤ now
  have hsup (a b : RowEvidence) : Alarm (a ⊔ b) ↔ Alarm a ∨ Alarm b := by
    have hrank : 3 ≤ (a ⊔ b).1 ↔ 3 ≤ a.1 ∨ 3 ≤ b.1 := le_max_iff
    have hexpiry : OrderDual.ofDual (a ⊔ b).2.1 ≤ now ↔
        OrderDual.ofDual a.2.1 ≤ now ∨ OrderDual.ofDual b.2.1 ≤ now := min_le_iff
    simp only [Alarm, hrank, hexpiry]
    tauto
  have halarm (row : PanopticonRow) : Alarm (row.evidence reads) ↔
      row.status = .blocked ∨ row.expiresAt ≤ now := by
    have hrank : 3 ≤ row.status.rank ↔ row.status = .blocked := by
      cases row.status <;> simp [PanopticonStatus.rank]
    exact or_congr_left hrank
  cases found with
  | none =>
    rw [hget]
    cases hrows : rowsOf reads now (evidenceEntries items) name with
    | nil => simp
    | cons first rest =>
      rw [hrows, mergeOnto] at hfound
      obtain ⟨_, -, hnone⟩ := Option.map_eq_some_iff.mp hfound
      cases hnone
  | some row =>
    obtain ⟨first, rest, hrows, hfold⟩ := mergeOnto_none_eq_some.mp hfound
    have hmerged := foldlM_mergeRow_iff hsup hfold
    simp only [halarm] at hmerged
    rw [hget, hrows, ← hmerged]
    simp [MergedRow.Alarmed]

theorem exists_mem_rowsOf {entries : List (String × Dict Json)}
    (hread : ∀ entry ∈ entries, (rowFromLoadedOrInput reads entry.1 entry.2 now).isSome) (name : String) :
    (∃ row ∈ rowsOf reads now entries name, row.status = .blocked ∨ row.expiresAt ≤ now) ↔
      ∃ other ∈ entries, other.1 = name ∧ KeepsAlarm reads other.2 now := by
  constructor
  · rintro ⟨row, hrow, halarm⟩
    obtain ⟨other, hother, hread⟩ := List.mem_filterMap.mp hrow
    split at hread
    · rename_i hname
      exact ⟨other, hother, hname, (rowFromLoadedOrInput_iff hread).mp halarm⟩
    · cases hread
  · rintro ⟨other, hother, rfl, halarm⟩
    obtain ⟨row, hrow⟩ := Option.isSome_iff_exists.mp (hread other hother)
    exact ⟨row, List.mem_filterMap.mpr ⟨other, hother, by rw [if_pos rfl, hrow]⟩,
      (rowFromLoadedOrInput_iff hrow).mpr halarm⟩

/-- Every alarm for a tuple leaves one that is kept when the rows of the tuple are read. -/
def AlarmsKept (reads : PanopticonReads) (now : ℤ) (items : List (Option PanopticonEvidence)) : Prop :=
  ∀ entry ∈ evidenceEntries items, Alarming reads entry.2 now →
    ∃ other ∈ evidenceEntries items, other.1 = entry.1 ∧ KeepsAlarm reads other.2 now

theorem failsClosed_iff (h : mergePanopticonEvidence reads items now = some merged) :
    FailsClosed reads now items merged ↔ AlarmsKept reads now items := by
  have hread := (mergePanopticonEvidence_isSome.mp (Option.isSome_of_eq_some h)).1
  refine forall₃_congr fun entry _ _ => ?_
  rw [alarmed_iff h, exists_mem_rowsOf hread]

/-! ## Orders -/

theorem rowsOf_perm {entries entries' : List (String × Dict Json)} (h : entries'.Perm entries)
    (name : String) : (rowsOf reads now entries' name).Perm (rowsOf reads now entries name) :=
  h.filterMap _

theorem evidenceEntries_perm {items' : List (Option PanopticonEvidence)} (h : items'.Perm items) :
    (evidenceEntries items').Perm (evidenceEntries items) := h.flatMap_right _

theorem eq_singleton_of_length_le_one {xs : List α} (hlength : xs.length ≤ 1) (hmem : x ∈ xs) : xs = [x] := by
  match xs, hlength, hmem with
  | [y], _, hmem => rw [List.mem_singleton.mp hmem]

/-- A source has one row for a tuple at most. -/
theorem rowsOf_source (source : Option PanopticonEvidence) (name : String) :
    (rowsOf reads now ((source.map (·.entries)).getD []) name).length ≤ 1 := by
  cases source with
  | none => exact Nat.zero_le 1
  | some evidence =>
    have hnamed : (evidence.entries.filter fun entry => entry.1 = name).length ≤ 1 := by
      have hcount := List.nodup_iff_count_le_one.mp evidence.nodup name
      rw [List.count, List.countP_map, List.countP_eq_length_filter] at hcount
      simpa only [Function.comp_def, beq_eq_decide] using hcount
    have hrows : rowsOf reads now evidence.entries name =
        (evidence.entries.filter fun entry => entry.1 = name).filterMap fun entry =>
          rowFromLoadedOrInput reads entry.1 entry.2 now := by
      rw [rowsOf, List.filterMap_filter]
      simp only [decide_eq_true_eq]
    rw [Option.map_some, Option.getD_some, hrows]
    exact (List.length_filterMap_le _ _).trans hnamed

/-- The findings of every row of a tuple fit under every other row of it. -/
def RowsFit (reads : PanopticonReads) (now : ℤ) (items : List (Option PanopticonEvidence)) : Prop :=
  ∀ name, ∀ row ∈ rowsOf reads now (evidenceEntries items) name,
    ∀ other ∈ rowsOf reads now (evidenceEntries items) name, row.Fits other

theorem orderIrrelevant_iff (h : mergePanopticonEvidence reads items now = some merged) :
    OrderIrrelevant reads now items merged ↔ RowsFit reads now items := by
  have hread := (mergePanopticonEvidence_isSome.mp (Option.isSome_of_eq_some h)).1
  constructor
  · intro horder name row hrow other hother
    -- the source of the other row comes first
    obtain ⟨entry, hentry, hfound⟩ := List.mem_filterMap.mp hother
    obtain ⟨source, hsource, hentrySource⟩ := List.mem_flatMap.mp hentry
    obtain ⟨before, after, rfl⟩ := List.append_of_mem hsource
    have hperm : (source :: (before ++ after)).Perm (before ++ source :: after) := List.perm_middle.symm
    obtain ⟨merged', hmerged', -⟩ := horder _ hperm
    have hsingle : rowsOf reads now ((source.map (·.entries)).getD []) name = [other] :=
      eq_singleton_of_length_le_one (rowsOf_source source name) (List.mem_filterMap.mpr ⟨entry, hentrySource, hfound⟩)
    have hrows : rowsOf reads now (evidenceEntries (source :: (before ++ after))) name =
        other :: rowsOf reads now (evidenceEntries (before ++ after)) name := by
      rw [evidenceEntries, List.flatMap_cons, rowsOf, List.filterMap_append, ← rowsOf, hsingle]
      rfl
    have hmem := (@rowsOf_perm reads now _ _ (evidenceEntries_perm hperm) name).mem_iff.mpr hrow
    rw [hrows] at hmem
    rcases List.mem_cons.mp hmem with rfl | hrest
    · exact row.valid.identity
    · have hsome := (mergePanopticonEvidence_isSome.mp (Option.isSome_of_eq_some hmerged')).2 name
      exact mergeOnto_none_isSome.mp hsome other _ hrows row hrest
  · intro hfit items' hperm
    have hentries := evidenceEntries_perm hperm
    have hsome : (mergePanopticonEvidence reads items' now).isSome := by
      refine mergePanopticonEvidence_isSome.mpr ⟨fun entry hentry => hread entry (hentries.mem_iff.mp hentry), ?_⟩
      intro name
      refine mergeOnto_none_isSome.mpr fun first rest hrows row hrow => ?_
      have hmem (some : PanopticonRow) (hsome : some ∈ first :: rest) :
          some ∈ rowsOf reads now (evidenceEntries items) name :=
        (rowsOf_perm hentries name).mem_iff.mp (hrows ▸ hsome)
      exact hfit name row (hmem row (List.mem_cons_of_mem _ hrow)) first (hmem first List.mem_cons_self)
    obtain ⟨merged', hmerged'⟩ := Option.isSome_iff_exists.mp hsome
    refine ⟨merged', hmerged', fun name => ?_⟩
    obtain ⟨found, hfound, hget⟩ := mergePanopticonEvidence_get? h name
    obtain ⟨found', hfound', hget'⟩ := mergePanopticonEvidence_get? hmerged' name
    have hrows := @rowsOf_perm reads now _ _ hentries name
    rw [hget, hget']
    cases found with
    | none =>
      rw [mergeOnto_none_eq_none.mp hfound] at hrows
      rw [hrows.eq_nil] at hfound'
      cases hfound'
      exact .none
    | some row =>
      cases found' with
      | none =>
        rw [mergeOnto_none_eq_none.mp hfound'] at hrows
        rw [hrows.symm.eq_nil] at hfound
        cases hfound
      | some row' => exact .some (MergedRow.same_of_perm hrows hfound hfound')

/-- A merge fails closed in every order exactly when each alarm leaves one that is kept and the rows of a tuple
fit together. -/
theorem mergesFailClosed_iff (h : mergePanopticonEvidence reads items now = some merged) :
    FailsClosed reads now items merged ∧ OrderIrrelevant reads now items merged ↔
      AlarmsKept reads now items ∧ RowsFit reads now items :=
  and_congr (failsClosed_iff h) (orderIrrelevant_iff h)

end Merged

/-! ## A blocked row with old input -/

/-- The first of January at midnight and five minutes later, and the next midnight. -/
def januaryTimes : List (String × ℤ) :=
  [("2026-01-01T00:00:00+00:00", 1767225600000000), ("2026-01-01T00:05:00+00:00", 1767225900000000),
    ("2026-01-02T00:00:00+00:00", 1767312000000000)]

/-- A number without sign and point -/
def readDigits (text : String) : Option ℕ :=
  text.toList.foldlM (fun n c => if c.isDigit then some (10 * n + (c.toNat - '0'.toNat)) else none) 0

def januaryReads : PanopticonReads where
  datetime
    | .str text => januaryTimes.lookup text
    | _ => none
  datetime_null := rfl
  boolean
    | .bool value => some value
    | _ => none
  count
    | .number text => readDigits text
    | _ => none
  price
    | .number text => some text
    | _ => none
  detailFields details := some details
  schemaVersion
    | .number text => text = "1"
    | _ => false
  iso time := ((januaryTimes.find? fun entry => entry.2 = time).map Prod.fst).getD ""
  seconds time := toString (time / 1000000) ++ ".0"

/-- The first of January at midnight -/
def newYear : ℤ := 1767225600000000

/-- A row of the input format with one finding -/
def inputEvidence (status : String) (finding : List (String × Json)) : PanopticonEvidence where
  entries := [("t4", ⟨[("status", .str status), ("findings", .arr [.obj finding])], by simp⟩)]
  nodup := List.nodup_singleton _

def missingStock : PanopticonEvidence := inputEvidence "unknown" [("adapter", .str "modal"),
  ("dimension", .str "stock"), ("live_stock_state", .str "unavailable")]

/-- The row is blocked, and its endpoint is well. -/
def blockedRow : PanopticonEvidence :=
  inputEvidence "blocked" [("adapter", .str "modal"), ("dimension", .str "endpoint")]

theorem mergesFailClosed_missingStock :
    ∃ merged, mergePanopticonEvidence januaryReads [some missingStock] newYear = some merged ∧
      FailsClosed januaryReads newYear [some missingStock] merged ∧
        OrderIrrelevant januaryReads newYear [some missingStock] merged := by
  have hsome : (mergePanopticonEvidence januaryReads [some missingStock] newYear).isSome := by
    decide +kernel
  obtain ⟨merged, hmerged⟩ := Option.isSome_iff_exists.mp hsome
  refine ⟨merged, hmerged, (mergesFailClosed_iff hmerged).mpr ⟨?_, ?_⟩⟩
  · intro entry hentry _
    refine ⟨entry, hentry, rfl, ?_⟩
    cases List.mem_singleton.mp hentry
    rw [KeepsAlarm, if_neg (by decide +kernel)]
    exact ⟨_, List.mem_singleton_self _, .inl (.inr rfl)⟩
  · intro name row hrow other hother
    have hlength : (rowsOf januaryReads newYear (evidenceEntries [some missingStock]) name).length ≤ 1 :=
      @rowsOf_source januaryReads newYear (some missingStock) name
    rw [eq_singleton_of_length_le_one hlength hrow] at hother
    rw [List.mem_singleton.mp hother]
    exact row.valid.identity

/-- The status of a blocked row of the input format is forgotten where its findings are well. -/
theorem not_mergesFailClosed :
    ∃ merged, mergePanopticonEvidence januaryReads [some blockedRow] newYear = some merged ∧
      ¬ (FailsClosed januaryReads newYear [some blockedRow] merged ∧
        OrderIrrelevant januaryReads newYear [some blockedRow] merged) := by
  have hmerge : (mergePanopticonEvidence januaryReads [some blockedRow] newYear).any fun merged =>
      (merged.get? "t4").any fun row => row.row.status ≠ .blocked && !row.panopticonStale := by
    decide +kernel
  cases hmerged : mergePanopticonEvidence januaryReads [some blockedRow] newYear with
  | none =>
    rw [hmerged] at hmerge
    cases hmerge
  | some merged =>
    refine ⟨merged, rfl, fun h => ?_⟩
    obtain ⟨row, hrow, halarmed⟩ := h.1 _ (List.mem_singleton_self _) (.inl rfl)
    rw [hmerged, Option.any_some, hrow, Option.any_some] at hmerge
    simp only [ne_eq, Bool.and_eq_true, decide_eq_true_eq, Bool.not_eq_true'] at hmerge
    rcases halarmed with hstatus | hstale
    · exact hmerge.1 hstatus
    · rw [hmerge.2] at hstale
      cases hstale

end Gpucall
