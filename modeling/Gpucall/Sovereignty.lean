import Mathlib.Data.Finset.Basic
import Gpucall.DateTime
import Gpucall.Lib.StepRun
import Gpucall.Routing.Environment

/-! `reap_objects` of `sovereignty.py`: the objects of the store that are old are deleted, checked and
put on record in one receipt file for each run. -/

namespace Gpucall

/-! ## Inventory -/

/-- An object as the store lists it. -/
structure ListedObject where
  key : String
  size : ℕ
  lastModified : Option DateTime

structure InventoryItem where
  key : String
  bytes : ℕ
  lastModified : Option DateTime
  ageSeconds : Option ℤ

/-- `object_inventory` at the time `now` -/
def objectInventory (now : DateTime) (listing : List ListedObject) : List InventoryItem :=
  (listing.map fun obj => {
    key := obj.key, bytes := obj.size, lastModified := obj.lastModified
    ageSeconds := obj.lastModified.map fun modified =>
      (now.toMicroseconds - modified.toMicroseconds).tdiv 1000000 }).insertionSort (·.key ≤ ·.key)

/-! ## Receipts -/

structure Receipt where
  key : String
  bytes : ℕ
  ageSeconds : Option ℤ
  action : String
  deletedAt : Option DateTime := none
  verifiedAbsent : Option Bool := none
  deriving DecidableEq

structure ReclamationReport where
  schemaVersion : ℕ := 1
  phase : String := "object-reclamation"
  bucket : String
  keyPrefix : Option String
  olderThanDays : ℚ
  generatedAt : DateTime
  apply : Bool
  objectCountTotal : ℕ
  objectCountEligible : ℕ
  bytesEligible : ℕ
  receipts : List Receipt
  allVerifiedAbsent : Option Bool

/-- A receipt file: a report, or what a write that failed has left. -/
inductive ReceiptFile where
  | report (r : ReclamationReport)
  | cut

def twoDigits (n : ℕ) : String := if n < 10 then "0" ++ toString n else toString n

/-- `f"reclamation-{current.strftime('%Y%m%dT%H%M%SZ')}.json"` -/
def receiptName (current : DateTime) : String :=
  "reclamation-" ++ toString current.year ++ twoDigits current.month ++ twoDigits current.day ++ "T" ++
    twoDigits current.hour ++ twoDigits current.minute ++ twoDigits current.second ++ "Z.json"

/-! ## The store and the disk -/

/-- What becomes of a deletion: `lost` is one that the store has made when the call raises. -/
inductive DeleteReply where
  | done | refused | lost
  deriving DecidableEq

/-- What the store does for one object. Between the deletion and the check others may upload. -/
structure StoreReply where
  delete : DeleteReply := .done
  deletedAt : DateTime
  uploads : Finset String := ∅
  /-- `head_object` raises, and not because the object is absent. -/
  headFails : Bool := false

/-- How `_write_receipt` raises: before the file is opened, while it is written, or after that. -/
inductive ReceiptFault where
  | refused | cut | chmod
  deriving DecidableEq

/-- One run, with all that it meets: `listing` is none when the listing raises. -/
structure ReapCall where
  bucket : String
  olderThanDays : ℚ
  keyPrefix : Option String := none
  apply : Bool := true
  now : Option DateTime := none
  clock : DateTime
  inventoryClock : DateTime
  listing : Option (List ListedObject)
  /-- The objects that are there when the deletions start. -/
  objects : Finset String
  reply : ℕ → StoreReply
  fault : Option ReceiptFault := none

inductive ReapError where
  | valueError (message : String)
  | storeError
  | osError

/-- `now or datetime.now(timezone.utc)` -/
def ReapCall.current (call : ReapCall) : DateTime := call.now.getD call.clock

/-! ## Deletions -/

/-- A receipt, with whether the object was there when it was checked. -/
structure CheckedReceipt extends Receipt where
  present : Option Bool := none

/-- The objects of the store, the receipts so far, and the keys that were deleted. -/
structure ReapState where
  objects : Finset String
  receipts : List CheckedReceipt := []
  deleted : List String := []

/-- One candidate of the loop -/
def reapStep (apply : Bool) (candidate : InventoryItem × StoreReply) (s : ReapState) :
    ReapState × Except ReapError Unit :=
  let (item, reply) := candidate
  let receipt : CheckedReceipt := {
    key := item.key, bytes := item.bytes, ageSeconds := item.ageSeconds
    action := if apply then "delete" else "would_delete" }
  if !apply then ({ s with receipts := s.receipts ++ [receipt] }, .ok ())
  else
    match reply.delete with
    | .refused => (s, .error .storeError)
    | .lost =>
      ({ s with objects := s.objects.erase item.key, deleted := s.deleted ++ [item.key] },
        .error .storeError)
    | .done =>
      let objects := s.objects.erase item.key ∪ reply.uploads
      let receipt : CheckedReceipt := { receipt with
        deletedAt := some reply.deletedAt
        -- any exception of the check counts as absence
        verifiedAbsent := some (reply.headFails || item.key ∉ objects)
        present := some (item.key ∈ objects) }
      ({ objects, receipts := s.receipts ++ [receipt], deleted := s.deleted ++ [item.key] }, .ok ())

/-- What a run leaves: its receipts and deletions, the receipt files, and what it returns. -/
structure ReapOutcome where
  receipts : List CheckedReceipt := []
  deleted : List String := []
  files : Dict ReceiptFile
  result : Except ReapError ReclamationReport

namespace ReapCall

variable (call : ReapCall)

/-- The inventory, or the exception before there is one. -/
def inventory : Except ReapError (List InventoryItem) :=
  if call.olderThanDays < 0 then .error (.valueError "older_than_days must be >= 0")
  else
    match call.listing with
    | none => .error .storeError
    | some listing => .ok (objectInventory call.inventoryClock listing)

/-- The items that are old enough -/
def candidates (inventory : List InventoryItem) : List InventoryItem :=
  inventory.filter fun item =>
    item.ageSeconds.any fun age => call.olderThanDays * 86400 ≤ age

/-- The candidates, each with what the store does for it. -/
def attempts (inventory : List InventoryItem) : List (InventoryItem × StoreReply) :=
  (call.candidates inventory).zipIdx.map fun (item, i) => (item, call.reply i)

def report (inventory : List InventoryItem) (receipts : List Receipt) : ReclamationReport where
  bucket := call.bucket
  keyPrefix := call.keyPrefix
  olderThanDays := call.olderThanDays
  generatedAt := call.current
  apply := call.apply
  objectCountTotal := inventory.length
  objectCountEligible := (call.candidates inventory).length
  bytesEligible := ((call.candidates inventory).map (·.bytes)).sum
  receipts := receipts
  allVerifiedAbsent :=
    if call.apply && !receipts.isEmpty then some (receipts.all (·.verifiedAbsent = some true)) else none

/-- `_write_receipt` -/
def writeReceipt (report : ReclamationReport) (files : Dict ReceiptFile) :
    Dict ReceiptFile × Except ReapError Unit :=
  match call.fault with
  | none => (files.set (receiptName call.current) (.report report), .ok ())
  | some .refused => (files, .error .osError)
  | some .cut => (files.set (receiptName call.current) .cut, .error .osError)
  | some .chmod => (files.set (receiptName call.current) (.report report), .error .osError)

/-- `reap_objects` -/
def reapObjects (files : Dict ReceiptFile) : ReapOutcome :=
  match call.inventory with
  | .error e => { files, result := .error e }
  | .ok inventory =>
    let (s, result) :=
      StepRun.run (reapStep call.apply) (call.attempts inventory) { objects := call.objects }
    match result with
    | .error e => { receipts := s.receipts, deleted := s.deleted, files, result := .error e }
    | .ok () =>
      let report := call.report inventory (s.receipts.map (·.toReceipt))
      if !call.apply then
        { receipts := s.receipts, deleted := s.deleted, files, result := .ok report }
      else
        let (files, written) := call.writeReceipt report files
        { receipts := s.receipts, deleted := s.deleted, files, result := written.map fun _ => report }

end ReapCall

/-- The runs one after another, each with the receipt files that it finds. -/
def reapRuns : List ReapCall → Dict ReceiptFile → List (Dict ReceiptFile × ReapOutcome)
  | [], _ => []
  | call :: calls, files =>
    (files, call.reapObjects files) :: reapRuns calls (call.reapObjects files).files

/-- The receipts of a run are true, its deletions are on disk, and the receipts of other runs stay. -/
structure Accounted (files : Dict ReceiptFile) (outcome : ReapOutcome) : Prop where
  truthful : ∀ receipt ∈ outcome.receipts, receipt.verifiedAbsent = some true →
    receipt.present = some false
  recorded : ∀ key ∈ outcome.deleted, ∃ name report, outcome.files.get? name = some (.report report) ∧
    ∃ receipt ∈ outcome.receipts, receipt.key = key ∧ receipt.toReceipt ∈ report.receipts
  kept : ∀ name file, files.get? name = some file → outcome.files.get? name = some file

/-- A run whose deletions end up in a receipt file of their own. -/
structure ReapCall.LeavesReceipts (call : ReapCall) (inventory : List InventoryItem)
    (files : Dict ReceiptFile) : Prop where
  deletes : ∀ attempt ∈ call.attempts inventory, attempt.2.delete = .done
  checks : ∀ attempt ∈ call.attempts inventory, attempt.2.headFails = true →
    attempt.1.key ∉ attempt.2.uploads
  fresh : call.fault = some .refused ∨ receiptName call.current ∉ files.keys
  written : call.attempts inventory = [] ∨ call.fault = none ∨ call.fault = some .chmod

/-- A run that applies its deletions gets a refusal for its first one, or leaves receipts. -/
def ReapCall.StaysAccounted (call : ReapCall) (files : Dict ReceiptFile) : Prop :=
  call.apply = true → ∀ inventory, call.inventory = .ok inventory →
    (∃ attempt rest, call.attempts inventory = attempt :: rest ∧ attempt.2.delete = .refused) ∨
      call.LeavesReceipts inventory files

/-- Every one of the runs stays accounted, with the files that the runs before it leave. -/
def AllStayAccounted : List ReapCall → Dict ReceiptFile → Prop
  | [], _ => True
  | call :: calls, files =>
    call.StaysAccounted files ∧ AllStayAccounted calls (call.reapObjects files).files

/-! ## One candidate -/

variable {apply : Bool} {attempt : InventoryItem × StoreReply} {attempts : List (InventoryItem × StoreReply)}
  {s s' : ReapState} {files : Dict ReceiptFile} {call : ReapCall} {inventory : List InventoryItem}

theorem reapStep_dry : reapStep false attempt s = ({ s with receipts := s.receipts ++ [{
    key := attempt.1.key, bytes := attempt.1.bytes, ageSeconds := attempt.1.ageSeconds
    action := "would_delete" }] }, .ok ()) := rfl

/-- What a step that comes to its end adds. -/
theorem reapStep_eq_ok (h : reapStep true attempt s = (s', .ok ())) :
    ∃ receipt : CheckedReceipt, s'.receipts = s.receipts ++ [receipt] ∧
      s'.deleted = s.deleted ++ [attempt.1.key] ∧ receipt.key = attempt.1.key ∧
      receipt.verifiedAbsent = some (attempt.2.headFails || attempt.1.key ∉ attempt.2.uploads) ∧
      receipt.present = some (decide (attempt.1.key ∈ attempt.2.uploads)) := by
  obtain ⟨item, reply⟩ := attempt
  unfold reapStep at h
  cases hdelete : reply.delete with
  | refused | lost =>
    simp only [hdelete] at h
    cases congrArg Prod.snd h
  | done =>
    simp only [hdelete, Bool.not_true, Bool.false_eq_true, if_false, if_true, Prod.mk.injEq, and_true] at h
    obtain rfl := h
    refine ⟨_, rfl, rfl, rfl, ?_, ?_⟩ <;> simp

theorem reapStep_done (h : attempt.2.delete = .done) : ∃ s', reapStep apply attempt s = (s', .ok ()) := by
  cases apply with
  | false => exact ⟨_, reapStep_dry⟩
  | true =>
    obtain ⟨item, reply⟩ := attempt
    unfold reapStep
    simp only at h
    simp [h]

/-! ## The candidates of a run -/

theorem run_reapStep_dry (s : ReapState) (h : ∀ receipt ∈ s.receipts, receipt.verifiedAbsent = none) :
    ∃ s', StepRun.run (reapStep false) attempts s = (s', .ok ()) ∧ s'.deleted = s.deleted ∧
      ∀ receipt ∈ s'.receipts, receipt.verifiedAbsent = none := by
  induction attempts generalizing s with
  | nil => exact ⟨s, rfl, rfl, h⟩
  | cons attempt attempts ih =>
    rw [StepRun.run_cons_ok reapStep_dry]
    refine ih _ fun receipt hreceipt => ?_
    obtain hreceipt | hreceipt := List.mem_append.mp hreceipt
    · exact h receipt hreceipt
    · rw [List.mem_singleton.mp hreceipt]

theorem run_reapStep_done (h : ∀ attempt ∈ attempts, attempt.2.delete = .done) (s : ReapState) :
    ∃ s', StepRun.run (reapStep true) attempts s = (s', .ok ()) := by
  induction attempts generalizing s with
  | nil => exact ⟨s, rfl⟩
  | cons attempt attempts ih =>
    obtain ⟨next, hnext⟩ := @reapStep_done true attempt s (h attempt List.mem_cons_self)
    rw [StepRun.run_cons_ok hnext]
    exact ih (fun other hother => h other (List.mem_cons_of_mem _ hother)) next

/-- The receipts are true, and there is one for each deletion. -/
structure ReapState.Accounted (s : ReapState) : Prop where
  truthful : ∀ receipt ∈ s.receipts, receipt.verifiedAbsent = some true → receipt.present = some false
  recorded : ∀ key ∈ s.deleted, ∃ receipt ∈ s.receipts, receipt.key = key

theorem ReapState.Accounted.step (hs : s.Accounted)
    (hchecks : attempt.2.headFails = true → attempt.1.key ∉ attempt.2.uploads)
    (h : reapStep true attempt s = (s', .ok ())) : s'.Accounted := by
  obtain ⟨receipt, hreceipts, hdeleted, hkey, habsent, hpresent⟩ := reapStep_eq_ok h
  refine ⟨fun other hother htrue => ?_, fun key hmem => ?_⟩
  · rw [hreceipts] at hother
    obtain hother | hother := List.mem_append.mp hother
    · exact hs.truthful other hother htrue
    · obtain rfl := List.mem_singleton.mp hother
      rw [habsent, Option.some.injEq, Bool.or_eq_true, decide_eq_true_eq] at htrue
      rw [hpresent, Option.some.injEq, decide_eq_false_iff_not]
      exact htrue.elim hchecks id
  · rw [hdeleted] at hmem
    rw [hreceipts]
    obtain hmem | hmem := List.mem_append.mp hmem
    · obtain ⟨other, hother, heq⟩ := hs.recorded key hmem
      exact ⟨other, List.mem_append_left _ hother, heq⟩
    · rw [List.mem_singleton.mp hmem]
      exact ⟨receipt, List.mem_append_right _ List.mem_cons_self, hkey⟩

theorem accounted_of_run (hs : s.Accounted) (hchecks : ∀ attempt ∈ attempts,
      attempt.2.headFails = true → attempt.1.key ∉ attempt.2.uploads)
    (h : StepRun.run (reapStep true) attempts s = (s', .ok ())) : s'.Accounted := by
  refine StepRun.run_ok_induction (motive := fun _ s => s.Accounted) hs ?_ h
  intro before attempt next next' hprefix hnext hstep
  have hmem : attempt ∈ attempts := hprefix.subset (List.mem_append_right _ List.mem_cons_self)
  exact hnext.step (hchecks attempt hmem) hstep

/-! ## Runs -/

theorem writeReceipt_written (h : call.fault = none ∨ call.fault = some .chmod)
    (report : ReclamationReport) :
    (call.writeReceipt report files).1.get? (receiptName call.current) = some (.report report) := by
  unfold ReapCall.writeReceipt
  obtain h | h := h <;> simp only [h, Dict.get?_set_self]

/-- The write of a run touches no other file than its own. -/
theorem writeReceipt_kept (h : call.fault = some .refused ∨ receiptName call.current ∉ files.keys)
    (report : ReclamationReport) {name : String} {file : ReceiptFile} (hfile : files.get? name = some file) :
    (call.writeReceipt report files).1.get? name = some file := by
  unfold ReapCall.writeReceipt
  obtain h | h := h
  · simp only [h, hfile]
  · have hne : name ≠ receiptName call.current := fun heq => h (heq ▸ Dict.mem_keys.mpr ⟨file, hfile⟩)
    cases call.fault with
    | none => exact (Dict.get?_set_of_ne hne).mpr hfile
    | some fault =>
      cases fault with
      | refused => exact hfile
      | cut | chmod => exact (Dict.get?_set_of_ne hne).mpr hfile

theorem ReapCall.StaysAccounted.accounted (h : call.StaysAccounted files) :
    Accounted files (call.reapObjects files) := by
  unfold reapObjects
  cases hinventory : call.inventory with
  | error e => exact ⟨by simp, by simp, fun _ _ => id⟩
  | ok inventory =>
    cases happly : call.apply with
    | false =>
      obtain ⟨s, hrun, hdeleted, hreceipts⟩ :=
        @run_reapStep_dry (call.attempts inventory) { objects := call.objects } (by simp)
      simp only [hrun, Bool.not_false, if_true]
      refine ⟨fun receipt hreceipt htrue => ?_, fun key hkey => ?_, fun _ _ => id⟩
      · rw [hreceipts receipt hreceipt] at htrue
        cases htrue
      · rw [hdeleted] at hkey
        cases hkey
    | true =>
      obtain ⟨attempt, rest, hattempts, hrefused⟩ | hleaves := h happly inventory hinventory
      · have hstep : reapStep true attempt { objects := call.objects } =
            ({ objects := call.objects }, .error .storeError) := by
          obtain ⟨item, reply⟩ := attempt
          unfold reapStep
          simp only at hrefused
          simp [hrefused]
        simp only [hattempts, StepRun.run_cons_error hstep]
        exact ⟨by simp, by simp, fun _ _ => id⟩
      · obtain ⟨s, hrun⟩ := run_reapStep_done hleaves.deletes { objects := call.objects }
        have hs : s.Accounted := accounted_of_run ⟨by simp, by simp⟩ hleaves.checks hrun
        simp only [hrun, Bool.not_true, Bool.false_eq_true, if_false]
        refine ⟨hs.truthful, fun key hkey => ?_, fun name file hfile => ?_⟩
        · obtain hnone | hfault := hleaves.written
          · rw [hnone] at hrun
            cases hrun
            cases hkey
          · obtain ⟨receipt, hreceipt, heq⟩ := hs.recorded key hkey
            exact ⟨_, _, writeReceipt_written hfault _, receipt, hreceipt, heq,
              List.mem_map_of_mem hreceipt⟩
        · exact writeReceipt_kept hleaves.fresh _ hfile

/-- Runs that all stay accounted have true receipts for all they delete, and keep all receipts. -/
theorem accounted_of_allStayAccounted (calls : List ReapCall) (files : Dict ReceiptFile)
    (h : AllStayAccounted calls files) :
    ∀ run ∈ reapRuns calls files, Accounted run.1 run.2 := by
  induction calls generalizing files with
  | nil => simp [reapRuns]
  | cons call calls ih =>
    intro run hrun
    obtain rfl | hrun := List.mem_cons.mp hrun
    · exact h.1.accounted
    · exact ih _ h.2 run hrun

/-- An old object -/
def oldObject (key : String) : ListedObject where
  key := key
  size := 1
  lastModified := some { year := 2026, month := 7, day := 1 }

/-- A run over two old objects, in which `second` becomes of the deletion of the second one. -/
def reapTwo (second : DeleteReply) : ReapCall where
  bucket := "objects"
  olderThanDays := 7
  clock := { year := 2026, month := 7, day := 12, second := 5 }
  inventoryClock := { year := 2026, month := 7, day := 12, second := 5 }
  listing := some [oldObject "a.txt", oldObject "b.txt"]
  objects := {"a.txt", "b.txt"}
  reply i := {
    delete := if i = 0 then .done else second
    deletedAt := { year := 2026, month := 7, day := 12, second := 6 } }

theorem allStayAccounted_reapTwo : AllStayAccounted [reapTwo .done] {} := by
  refine ⟨fun _ inventory _ => .inr ⟨?_, ?_, .inr List.not_mem_nil, .inr (.inl rfl)⟩, trivial⟩
  · intro attempt hattempt
    obtain ⟨candidate, -, rfl⟩ := List.mem_map.mp hattempt
    exact ite_self _
  · intro attempt hattempt hfails
    obtain ⟨candidate, -, rfl⟩ := List.mem_map.mp hattempt
    cases hfails

theorem accounted_of_allStayAccounted_reapTwo : Accounted {} ((reapTwo .done).reapObjects {}) :=
  accounted_of_allStayAccounted [reapTwo .done] {} allStayAccounted_reapTwo _ List.mem_cons_self

/-- When the second deletion is refused, the first one is on no record. -/
theorem not_accounted :
    ¬ ∀ (calls : List ReapCall) (files : Dict ReceiptFile), (∀ call ∈ calls, call.apply = true) →
      ∀ run ∈ reapRuns calls files, Accounted run.1 run.2 := by
  intro h
  have hrun := h [reapTwo .refused] {} (by simp [reapTwo]) _ List.mem_cons_self
  obtain ⟨name, report, hfile, -⟩ := hrun.recorded "a.txt" (by decide +kernel)
  have hfiles : ((reapTwo .refused).reapObjects {}).files.entries = [] :=
    List.isEmpty_iff.mp (by decide +kernel)
  rw [Dict.get?, hfiles] at hfile
  cases hfile

end Gpucall
