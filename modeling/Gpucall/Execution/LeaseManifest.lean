import Gpucall.JsonChars
import Gpucall.JsonLoads
import Gpucall.Routing.ValidationEvidence
import Gpucall.Text

/-! The lease manifest of `execution_surfaces/hyperstack_vm.py`: the events that the adapters append to
it, one JSON object a line, and its two readers, `_active_manifest_leases` of the adapter and
`active_manifest_leases` of `lease_reaper.py`. -/

namespace Gpucall

/-- A decoded event, or a lease that events were merged into. -/
abbrev ManifestRow := List (String × Json)

/-! ## Writing -/

/-- `{**old, **row}` -/
def mergeFields (old row : ManifestRow) : ManifestRow :=
  row.foldl (fun fields field => Json.setField field.1 field.2 fields) old

theorem lookup_mergeFields {row : ManifestRow} (hnodup : (row.map Prod.fst).Nodup) (old : ManifestRow)
    (name : String) :
    (mergeFields old row).lookup name = (row.lookup name).or (old.lookup name) := by
  induction row generalizing old with
  | nil => rfl
  | cons field row ih =>
    obtain ⟨key, value⟩ := field
    rw [List.map_cons, List.nodup_cons] at hnodup
    have hmerge : mergeFields old ((key, value) :: row) = mergeFields (Json.setField key value old) row :=
      rfl
    rw [hmerge, ih hnodup.2, List.lookup_cons]
    by_cases hname : name = key
    · subst hname
      have habsent : row.lookup name = none := by
        rw [List.lookup_eq_none_iff]
        intro entry hentry
        exact bne_iff_ne.mpr fun heq => hnodup.1 (List.mem_map.mpr ⟨entry, hentry, heq.symm⟩)
      simp [habsent, Json.lookup_setField_self]
    · rw [Json.lookup_setField hname, beq_eq_false_iff_ne.mpr hname]

/-- The events of the adapter. Instants are the texts of `isoformat()`. -/
inductive LeaseEvent where
  | provisionRequested (vmName planId expiresAt : String)
  | provisionCreated (vmName : String) (vmId : Json) (planId expiresAt : String)
  | destroyRequested (vmId : Json) (destroyRequestedAt : String) (statusCode : ℕ)
  | destroyPending (vmId : Json) (recordedAt : String)
  | destroyed (vmId : Json) (destroyedAt : String)
  | sgRuleDestroyed (vmId sgRuleId : String)

def LeaseEvent.fields : LeaseEvent → ManifestRow
  | .provisionRequested vmName planId expiresAt =>
    [("event", .str "provision.requested"), ("vm_name", .str vmName), ("plan_id", .str planId),
      ("expires_at", .str expiresAt)]
  | .provisionCreated vmName vmId planId expiresAt =>
    [("event", .str "provision.created"), ("vm_name", .str vmName), ("vm_id", vmId),
      ("plan_id", .str planId), ("expires_at", .str expiresAt)]
  | .destroyRequested vmId destroyRequestedAt statusCode =>
    [("event", .str "destroy.requested"), ("vm_id", vmId),
      ("destroy_requested_at", .str destroyRequestedAt), ("status_code", .number (toString statusCode))]
  | .destroyPending vmId recordedAt =>
    [("event", .str "destroy.pending"), ("vm_id", vmId), ("recorded_at", .str recordedAt)]
  | .destroyed vmId destroyedAt =>
    [("event", .str "destroyed"), ("vm_id", vmId), ("destroyed_at", .str destroyedAt)]
  | .sgRuleDestroyed vmId sgRuleId =>
    [("event", .str "sg_rule.destroyed"), ("vm_id", .str vmId), ("sg_rule_id", .str sgRuleId)]

/-- The row that `_record_lease` appends; `tuple` is the name of the adapter. -/
def recordLease (tuple recordedAt : String) (event : LeaseEvent) : ManifestRow :=
  mergeFields [("tuple", .str tuple), ("recorded_at", .str recordedAt)] event.fields

theorem nodup_mergeFields {old : ManifestRow} (h : (old.map Prod.fst).Nodup) (row : ManifestRow) :
    ((mergeFields old row).map Prod.fst).Nodup := by
  induction row generalizing old with
  | nil => exact h
  | cons field row ih => exact ih (Json.nodup_setField h field.1 field.2)

theorem LeaseEvent.nodup_fields (event : LeaseEvent) : (event.fields.map Prod.fst).Nodup := by
  cases event <;> simp [LeaseEvent.fields]

theorem nodup_recordLease (tuple recordedAt : String) (event : LeaseEvent) :
    ((recordLease tuple recordedAt event).map Prod.fst).Nodup :=
  nodup_mergeFields (by simp) event.fields

theorem lookup_recordLease {name : String} (htuple : name ≠ "tuple") (hrecorded : name ≠ "recorded_at")
    (tuple recordedAt : String) (event : LeaseEvent) :
    (recordLease tuple recordedAt event).lookup name = event.fields.lookup name := by
  rw [recordLease, lookup_mergeFields event.nodup_fields]
  simp [List.lookup_cons, beq_eq_false_iff_ne.mpr htuple, beq_eq_false_iff_ne.mpr hrecorded]

/-! ## Reading -/

variable (py : Builtins)

/-- What a reader raises: an error of `json.loads`, the `AttributeError` of a line that is no object,
or the `TypeError` of an event that cannot be hashed. -/
inductive ManifestError where
  | loads (error : Json.LoadsError)
  | attribute
  | type
  deriving DecidableEq

/-- The effect of an event on the leases; `created` are the events that start one. -/
def applyEvent (created : List String) (active : Dict ManifestRow) (key event : String)
    (row : ManifestRow) : Dict ManifestRow :=
  if event = "destroyed" then active.pop key
  else if event ∈ created then active.set key row
  else if event ∈ ["destroy.requested", "destroy.pending"] then
    active.set key (mergeFields ((active.get? key).getD []) row)
  else active

/-- One row in the reader of the adapter. -/
def adapterRow (active : Dict ManifestRow) (row : ManifestRow) : Except ManifestError (Dict ManifestRow) :=
  match (row.lookup "vm_id").filter Json.truthy with
  | none => .ok active
  | some vmId =>
    match row.lookup "event" with
    | some (.str event) => .ok (applyEvent ["provision.created"] active (pyStr py vmId) event row)
    | some (.arr _) | some (.obj _) => .error .type
    | _ => .ok active

/-- One row in the reader of the reaper, which also knows leases of other providers. -/
def reaperRow (active : Dict ManifestRow) (row : ManifestRow) : Dict ManifestRow :=
  let remoteId := strOrEmpty py
    (((row.lookup "vm_id").filter Json.truthy).or (row.lookup "remote_id"))
  if remoteId = "" then active
  else
    applyEvent ["provision.created", "lease.started"] active remoteId
      (strOrEmpty py (row.lookup "event")) row

/-- The lines of a file in text mode, where `\n`, `\r` and `\r\n` end a line. The first one starts with
`line`. -/
def fileLinesFrom (line : List Char) : List Char → List (List Char)
  | [] => if line.isEmpty then [] else [line]
  | '\r' :: '\n' :: rest => line :: fileLinesFrom [] rest
  | c :: rest =>
    if c = '\n' || c = '\r' then line :: fileLinesFrom [] rest
    else fileLinesFrom (line ++ [c]) rest

/-- `for line in handle`. The line end, which `json.loads` skips, is left out. -/
def fileLines (text : String) : List String := (fileLinesFrom [] text.toList).map String.ofList

def adapterLine (recursionLimit : ℕ) (active : Dict ManifestRow) (line : String) :
    Except ManifestError (Dict ManifestRow) :=
  if strip line = "" then .ok active
  else
    match Json.loads recursionLimit line with
    | .error error => .error (.loads error)
    | .ok (.obj row) => adapterRow py active row
    | .ok _ => .error .attribute

def reaperLine (recursionLimit : ℕ) (active : Dict ManifestRow) (line : String) :
    Except ManifestError (Dict ManifestRow) :=
  if strip line = "" then .ok active
  else
    match Json.loads recursionLimit line with
    | .error .decode => .ok active
    | .error error => .error (.loads error)
    | .ok (.obj row) => .ok (reaperRow py active row)
    | .ok _ => .error .attribute

/-- `HyperstackAdapter._active_manifest_leases`; there is no text when the file does not exist. -/
def HyperstackAdapter.activeManifestLeases (recursionLimit : ℕ) (text : Option String) :
    Except ManifestError (List ManifestRow) :=
  match text with
  | none => .ok []
  | some text => do
    let active ← (fileLines text).foldlM (adapterLine py recursionLimit) {}
    return active.values

/-- `lease_reaper.active_manifest_leases` -/
def LeaseReaper.activeManifestLeases (recursionLimit : ℕ) (text : Option String) :
    Except ManifestError (List ManifestRow) :=
  match text with
  | none => .ok []
  | some text => do
    let active ← (splitlines text).foldlM (reaperLine py recursionLimit) {}
    return active.values

/-! ## The characters of a dumped row -/

/-- The characters of a dumped value. -/
def Plain (c : Char) : Prop := 32 ≤ c.toNat ∧ c.toNat < 127

instance (c : Char) : Decidable (Plain c) := inferInstanceAs (Decidable (_ ∧ _))

theorem plain_toString (n : ℕ) : ∀ c ∈ (toString n).toList, Plain c := by
  intro c hc
  rw [Nat.toString_eq_repr, Nat.toList_repr] at hc
  have hdigit := Nat.isDigit_of_mem_toDigits (by decide) (by decide) hc
  rw [Char.isDigit_iff_toNat] at hdigit
  have hzero : '0'.toNat = 48 := by decide
  have hnine : '9'.toNat = 57 := by decide
  unfold Plain
  omega

/-- A string or a status code. -/
def IsPlainValue : Json → Prop
  | .str _ => True
  | .number text => ∃ n : ℕ, text = toString n
  | _ => False

theorem IsPlainValue.numbersPrintable {value : Json} (h : IsPlainValue value) : value.NumbersPrintable := by
  cases value with
  | str text => exact Json.numbersPrintable_str text
  | number text =>
    obtain ⟨n, rfl⟩ := h
    rw [Json.NumbersPrintable]
    exact plain_toString n
  | _ => exact h.elim

/-- A dumped row has no control character and no other than ASCII. -/
theorem plain_dumps_row {row : ManifestRow} (h : ∀ field ∈ row, IsPlainValue field.2) :
    ∀ c ∈ (Json.obj row).dumps true, Plain c :=
  Json.printable_dumps (.obj row)
    (Json.fieldsPrintable_iff.mpr fun field hfield => (h field hfield).numbersPrintable)

theorem forall_mergeFields {p : Json → Prop} {old row : ManifestRow} (hold : ∀ field ∈ old, p field.2)
    (hrow : ∀ field ∈ row, p field.2) : ∀ field ∈ mergeFields old row, p field.2 := by
  induction row generalizing old with
  | nil => exact hold
  | cons field row ih =>
    rw [List.forall_mem_cons] at hrow
    exact ih (Json.forall_setField hold field.1 hrow.1) hrow.2

/-! ## Agreement -/

/-- What a text made of dumped rows, whole or torn, has in it. -/
def ManifestChar (c : Char) : Prop := c = '\n' ∨ Plain c

/-- A row as `_record_lease` writes it, with a `vm_id` that is a string. -/
structure IsAdapterRow (row : ManifestRow) : Prop where
  remoteId : row.lookup "remote_id" = none
  event : ∃ event, row.lookup "event" = some (.str event) ∧ event ≠ "lease.started"
  vmId : row.lookup "vm_id" = none ∨ ∃ id, row.lookup "vm_id" = some (.str id)

/-- The text of a manifest. A line that decodes to an object is one that an adapter has written; any
other line is a torn one. -/
structure ManifestText (recursionLimit : ℕ) (text : String) : Prop where
  chars : ∀ c ∈ text.toList, ManifestChar c
  rows : ∀ line ∈ splitlines text, ∀ row,
    Json.loads recursionLimit line = .ok (.obj row) → IsAdapterRow row

/-- The id that an event is about. -/
def LeaseEvent.vmId? (event : LeaseEvent) : Option Json := event.fields.lookup "vm_id"

/-- What `_record_lease` appends is such a row. -/
theorem recordLease_isAdapterRow (tuple recordedAt : String) {event : LeaseEvent}
    (h : event.vmId? = none ∨ ∃ id, event.vmId? = some (.str id)) :
    IsAdapterRow (recordLease tuple recordedAt event) := by
  constructor <;> rw [lookup_recordLease (by decide) (by decide)]
  · cases event <;> rfl
  · cases event <;> exact ⟨_, rfl, by decide⟩
  · exact h

/-- And its line has the characters of a manifest. -/
theorem manifestChar_recordLease (tuple recordedAt : String) {event : LeaseEvent}
    (h : event.vmId? = none ∨ ∃ id, event.vmId? = some (.str id)) :
    ∀ c ∈ (Json.obj (recordLease tuple recordedAt event)).dumps true ++ ['\n'], ManifestChar c := by
  have hfields : ∀ field ∈ event.fields, IsPlainValue field.2 := by
    cases event <;>
      simp_all [LeaseEvent.fields, LeaseEvent.vmId?, IsPlainValue, List.lookup_cons]
    all_goals
      obtain ⟨id, rfl⟩ := h
      exact trivial
  have hhead : ∀ field ∈ [("tuple", Json.str tuple), ("recorded_at", .str recordedAt)],
      IsPlainValue field.2 := by simp [IsPlainValue]
  intro c hc
  rcases List.mem_append.mp hc with hc | hc
  · exact .inr (plain_dumps_row (forall_mergeFields hhead hfields) c hc)
  · exact .inl (List.mem_singleton.mp hc)

/-- The ids that a reader reports. -/
def vmIds (leases : List ManifestRow) : List Json := leases.filterMap (·.lookup "vm_id")

/-- Both readers return, and they report the same ids. -/
def ReadersAgree (recursionLimit : ℕ) (text : String) : Prop :=
  ∃ leases reaped,
    HyperstackAdapter.activeManifestLeases py recursionLimit (some text) = .ok leases ∧
    LeaseReaper.activeManifestLeases py recursionLimit (some text) = .ok reaped ∧
    ∀ id, id ∈ vmIds leases ↔ id ∈ vmIds reaped

/-- A line with something on it that is not a JSON object. -/
def TornLine (recursionLimit : ℕ) (line : String) : Prop :=
  strip line ≠ "" ∧ ∀ row, Json.loads recursionLimit line ≠ .ok (.obj row)

def isAdapterRow (row : ManifestRow) : Bool :=
  (row.lookup "remote_id").isNone &&
  (match row.lookup "event" with
    | some (.str event) => decide (event ≠ "lease.started")
    | _ => false) &&
  (match row.lookup "vm_id" with
    | none | some (.str _) => true
    | _ => false)

theorem isAdapterRow_iff (row : ManifestRow) : isAdapterRow row = true ↔ IsAdapterRow row := by
  rw [isAdapterRow, Bool.and_eq_true, Bool.and_eq_true]
  constructor
  · rintro ⟨⟨hremote, hevent⟩, hvm⟩
    refine ⟨Option.isNone_iff_eq_none.mp hremote, ?_, ?_⟩
    · split at hevent
      · exact ⟨_, by assumption, of_decide_eq_true hevent⟩
      · cases hevent
    · split at hvm
      · exact .inl (by assumption)
      · exact .inr ⟨_, by assumption⟩
      · cases hvm
  · rintro ⟨hremote, ⟨event, hevent, hstarted⟩, hvm⟩
    rw [hremote, hevent]
    rcases hvm with hvm | ⟨id, hvm⟩ <;> simp [hvm, hstarted]

instance (row : ManifestRow) : Decidable (IsAdapterRow row) := decidable_of_iff _ (isAdapterRow_iff row)

instance (decoded : Except Json.LoadsError Json) (p : ManifestRow → Prop) [DecidablePred p] :
    Decidable (∀ row, decoded = .ok (.obj row) → p row) :=
  match decoded with
  | .ok (.obj row) =>
    decidable_of_iff (p row) ⟨fun h row' heq => by cases heq; exact h, fun h => h row rfl⟩
  | .error _ | .ok .null | .ok (.bool _) | .ok (.number _) | .ok (.str _) | .ok (.arr _) =>
    isTrue fun row heq => by cases heq

instance (recursionLimit : ℕ) (line : String) : Decidable (TornLine recursionLimit line) :=
  inferInstanceAs (Decidable (_ ∧ ∀ row, _ = Except.ok (Json.obj row) → False))

instance (c : Char) : Decidable (ManifestChar c) := inferInstanceAs (Decidable (_ ∨ _))

instance (recursionLimit : ℕ) (text : String) : Decidable (ManifestText recursionLimit text) :=
  decidable_of_iff (_ ∧ _) ⟨fun h => ⟨h.1, h.2⟩, fun h => ⟨h.chars, h.rows⟩⟩

theorem fileLinesFrom_eq {text : List Char} (h : ∀ c ∈ text, ManifestChar c) (line : List Char) :
    fileLinesFrom line text = linesFrom line text := by
  induction text generalizing line with
  | nil => rfl
  | cons c text ih =>
    have hrest := ih fun c hmem => h c (List.mem_cons_of_mem _ hmem)
    have hreturn : c ≠ '\r' := by
      rintro rfl
      exact absurd (h _ List.mem_cons_self) (by unfold ManifestChar; decide)
    have hbreak : (c = '\n' || c = '\r') = isLineBreak c := by
      rcases h c List.mem_cons_self with rfl | hprintable
      · rfl
      · have hnewline : c ≠ '\n' := by
          rintro rfl
          exact absurd hprintable (by decide)
        obtain ⟨hlow, hhigh⟩ := hprintable
        simp only [isLineBreak, hnewline, hreturn]
        grind
    rw [fileLinesFrom, linesFrom, hbreak, hrest, hrest]
    all_goals
      intro rest heq
      exact absurd heq hreturn

theorem splitlines_eq_fileLines {text : String} (h : ∀ c ∈ text.toList, ManifestChar c) :
    splitlines text = fileLines text := by
  rw [splitlines, fileLines, fileLinesFrom_eq h]

theorem applyEvent_leaseStarted (hevent : event ≠ "lease.started") (active : Dict ManifestRow)
    (key : String) (row : ManifestRow) :
    applyEvent ["provision.created", "lease.started"] active key event row =
      applyEvent ["provision.created"] active key event row := by
  simp only [applyEvent, List.mem_cons, List.not_mem_nil, or_false, hevent]

theorem filter_truthy_str (text : String) :
    (some (Json.str text)).filter Json.truthy = if text = "" then none else some (.str text) := by
  simp [Option.filter_some, Json.truthy]

theorem strOrEmpty_str (text : String) : strOrEmpty py (some (.str text)) = text := by
  rw [strOrEmpty, filter_truthy_str]
  split
  · simp [*]
  · rfl

/-- The readers do the same with a row of an adapter. -/
theorem IsAdapterRow.adapterRow_eq (h : IsAdapterRow row) (active : Dict ManifestRow) :
    adapterRow py active row = .ok (reaperRow py active row) := by
  obtain ⟨event, hevent, hstarted⟩ := h.event
  simp only [adapterRow, reaperRow, h.remoteId, hevent, strOrEmpty_str, Option.or_none,
    applyEvent_leaseStarted hstarted]
  rcases h.vmId with hvm | ⟨id, hvm⟩
  · simp [hvm, strOrEmpty]
  · rw [hvm, filter_truthy_str]
    by_cases hempty : id = ""
    · simp [hempty, strOrEmpty]
    · rw [if_neg hempty, strOrEmpty_str, if_neg hempty]
      rfl

theorem adapterLine_torn {line : String} (h : TornLine recursionLimit line)
    (active : Dict ManifestRow) : ∃ error, adapterLine py recursionLimit active line = .error error := by
  unfold adapterLine
  rw [if_neg h.1]
  split
  · exact ⟨_, rfl⟩
  · rename_i row hrow
    exact absurd hrow (h.2 row)
  · exact ⟨_, rfl⟩

theorem adapterLine_eq {line : String} (h : ¬ TornLine recursionLimit line)
    (hrow : ∀ row, Json.loads recursionLimit line = .ok (.obj row) → IsAdapterRow row)
    (active : Dict ManifestRow) :
    ∃ active', adapterLine py recursionLimit active line = .ok active' ∧
      reaperLine py recursionLimit active line = .ok active' := by
  unfold adapterLine reaperLine
  by_cases hblank : strip line = ""
  · rw [if_pos hblank, if_pos hblank]
    exact ⟨active, rfl, rfl⟩
  · rw [if_neg hblank, if_neg hblank]
    obtain ⟨row, hloads⟩ : ∃ row, Json.loads recursionLimit line = .ok (.obj row) := by
      by_contra hnone
      exact h ⟨hblank, fun row hloads => hnone ⟨row, hloads⟩⟩
    rw [hloads]
    exact ⟨_, (hrow row hloads).adapterRow_eq py active, rfl⟩

/-- A run of the adapter's reader over the lines that returns has met no torn line. -/
theorem not_tornLine_of_foldlM {lines : List String} {active final : Dict ManifestRow}
    (h : lines.foldlM (adapterLine py recursionLimit) active = .ok final) :
    ∀ line ∈ lines, ¬ TornLine recursionLimit line := by
  induction lines generalizing active with
  | nil => simp
  | cons line lines ih =>
    rw [List.foldlM_cons] at h
    have hwhole : ¬ TornLine recursionLimit line := by
      intro htorn
      obtain ⟨error, herror⟩ := adapterLine_torn py htorn active
      rw [herror] at h
      cases h
    cases hline : adapterLine py recursionLimit active line with
    | error error =>
      rw [hline] at h
      cases h
    | ok next =>
      rw [hline] at h
      rw [List.forall_mem_cons]
      exact ⟨hwhole, ih h⟩

/-- Without torn lines the readers go through the same leases. -/
theorem foldlM_eq {lines : List String} (h : ∀ line ∈ lines, ¬ TornLine recursionLimit line)
    (hrows : ∀ line ∈ lines, ∀ row,
      Json.loads recursionLimit line = .ok (.obj row) → IsAdapterRow row)
    (active : Dict ManifestRow) :
    ∃ final, lines.foldlM (adapterLine py recursionLimit) active = .ok final ∧
      lines.foldlM (reaperLine py recursionLimit) active = .ok final := by
  induction lines generalizing active with
  | nil => exact ⟨active, rfl, rfl⟩
  | cons line lines ih =>
    rw [List.forall_mem_cons] at h hrows
    obtain ⟨next, hadapter, hreaper⟩ := adapterLine_eq py h.1 hrows.1 active
    obtain ⟨final, hfinal⟩ := ih h.2 hrows.2 next
    refine ⟨final, ?_⟩
    rw [List.foldlM_cons, List.foldlM_cons, hadapter, hreaper]
    exact hfinal

/-- The readers agree on a manifest if and only if none of its lines is torn. -/
theorem readersAgree_iff (recursionLimit : ℕ) (text : String)
    (h : ManifestText recursionLimit text) :
    ReadersAgree py recursionLimit text ↔
      ∀ line ∈ splitlines text, ¬ TornLine recursionLimit line := by
  have hlines := splitlines_eq_fileLines h.chars
  constructor
  · rintro ⟨leases, reaped, hadapter, -, -⟩
    rw [HyperstackAdapter.activeManifestLeases, ← hlines] at hadapter
    cases hfold : (splitlines text).foldlM (adapterLine py recursionLimit) {} with
    | error error =>
      rw [hfold] at hadapter
      cases hadapter
    | ok final => exact not_tornLine_of_foldlM py hfold
  · intro hwhole
    obtain ⟨final, hadapter, hreaper⟩ := foldlM_eq py hwhole h.rows {}
    refine ⟨final.values, final.values, ?_, ?_, fun id => Iff.rfl⟩
    · rw [HyperstackAdapter.activeManifestLeases, ← hlines, hadapter]
      rfl
    · rw [LeaseReaper.activeManifestLeases, hreaper]
      rfl

/-- A lease whose VM is being destroyed. -/
def pendingVm : String :=
  "\x7b\"event\":\"destroy.pending\",\"recorded_at\":\"2026-01-01T00:00:00+00:00\"," ++
  "\"tuple\":\"vm\",\"vm_id\":\"5\"\x7d\n"

theorem readersAgree_iff_pendingVm :
    ManifestText 1000 pendingVm ∧ ReadersAgree artifactBuiltins 1000 pendingVm :=
  have hmanifest : ManifestText 1000 pendingVm := by decide +kernel
  ⟨hmanifest, (readersAgree_iff artifactBuiltins 1000 pendingVm hmanifest).mpr (by decide +kernel)⟩

/-- A crash in the middle of the first line. -/
def tornManifest : String := "\x7b\"event\":\"provision.req"

/-- The reaper skips the line; the adapter raises. -/
theorem tornManifest_not_readersAgree :
    ManifestText 1000 tornManifest ∧
      LeaseReaper.activeManifestLeases artifactBuiltins 1000 (some tornManifest) = .ok [] ∧
      ¬ ReadersAgree artifactBuiltins 1000 tornManifest := by
  have hreaper : ((LeaseReaper.activeManifestLeases artifactBuiltins 1000
      (some tornManifest)).toOption.map List.length) = some 0 := by decide +kernel
  refine ⟨by decide +kernel, ?_, ?_⟩
  · cases hleases : LeaseReaper.activeManifestLeases artifactBuiltins 1000 (some tornManifest) with
    | error error =>
      rw [hleases] at hreaper
      cases hreaper
    | ok leases =>
      rw [hleases] at hreaper
      rw [List.length_eq_zero_iff.mp (Option.some.inj hreaper)]
  · rintro ⟨leases, -, hadapter, -, -⟩
    have hraises : (HyperstackAdapter.activeManifestLeases artifactBuiltins 1000
        (some tornManifest)).toOption.isNone := by decide +kernel
    rw [hadapter] at hraises
    cases hraises

end Gpucall
