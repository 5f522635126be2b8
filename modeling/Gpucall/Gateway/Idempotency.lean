import Mathlib.Algebra.Order.Ring.Rat
import Mathlib.Data.List.Sort
import Gpucall.Json
import Gpucall.Lib.Pool
import Gpucall.Dispatcher.Errors

/-! The idempotency stores (`SQLiteIdempotencyStore`, `PostgresIdempotencyStore`), which make the same
statements, and the requests that use one between their lookup and their reply. A method of a store is
one atomic step. `idempotency_execution_lock` orders the requests of one process only and is left
out. -/

namespace Gpucall

open Effects

/-! ## The table -/

inductive IdempotencyStatus where
  | pending | completed
  deriving DecidableEq

structure IdempotentResponse where
  status : ℤ := 0
  content : Json := .obj []
  headers : List (String × String) := []

/-- A row of `idempotency_entries`. The response is null while the request is pending. -/
structure IdempotencyRow where
  key : String
  createdAt : ℚ
  requestHash : String
  response : Option IdempotentResponse := none
  idempotencyStatus : IdempotencyStatus := .completed

abbrev IdempotencyRow.Pending (row : IdempotencyRow) : Prop := row.idempotencyStatus = .pending

structure IdempotencyTable where
  rows : List IdempotencyRow := []
  nodup : (rows.map (·.key)).Nodup := by decide

namespace IdempotencyTable

variable (t : IdempotencyTable)

def find (key : String) : Option IdempotencyRow := t.rows.find? (·.key = key)

/-- `DELETE` of the rows that do not meet the condition -/
def keep (condition : IdempotencyRow → Bool) : IdempotencyTable where
  rows := t.rows.filter condition
  nodup := t.nodup.sublist (List.filter_sublist.map _)

/-- `INSERT .. ON CONFLICT DO NOTHING`, and whether a row was inserted -/
def insertNew (row : IdempotencyRow) : Bool × IdempotencyTable :=
  if h : row.key ∈ t.rows.map (·.key) then (false, t)
  else
    (true,
      { rows := t.rows ++ [row]
        nodup := by
          rw [List.map_append, List.nodup_append]
          refine ⟨t.nodup, by simp, fun a ha b hb hab => h ?_⟩
          obtain rfl : b = row.key := by simpa using hb
          exact hab ▸ ha })

/-- `UPDATE` of the row of a key, which keeps its key -/
def update (key : String) (change : IdempotencyRow → IdempotencyRow) : IdempotencyTable where
  rows := t.rows.map fun row => if row.key = key then { change row with key } else row
  nodup := by
    have hkeys : (t.rows.map fun row => if row.key = key then { change row with key } else row).map
        (·.key) = t.rows.map (·.key) := by
      rw [List.map_map]
      refine List.map_congr_left fun row _ => ?_
      by_cases h : row.key = key <;> simp [h]
    rw [hkeys]
    exact t.nodup

/-- The first statement of `prune`. No time to live is an infinite one. -/
def expire (now : ℚ) (ttlSeconds : Option ℚ) : IdempotencyTable :=
  t.keep fun row => ttlSeconds.all fun ttl => now - ttl ≤ row.createdAt

/-- The second statement of `prune`: the rows beyond the newest `max_entries` are deleted. The order
of rows of the same instant is not specified. -/
structure Trimmed (maxEntries : ℕ) (t t' : IdempotencyTable) : Prop where
  length : t'.rows.length = min maxEntries t.rows.length
  newest : ∃ kept : IdempotencyRow → Bool, t' = t.keep kept ∧
    ∀ row ∈ t.rows, ∀ other ∈ t.rows, kept row = true → kept other = false →
      other.createdAt ≤ row.createdAt

def Pruned (now : ℚ) (ttlSeconds : Option ℚ) (maxEntries : ℕ) (t t' : IdempotencyTable) : Prop :=
  Trimmed maxEntries (t.expire now ttlSeconds) t'

/-- The statement of `reserve`. -/
def reserve (now : ℚ) (key requestHash : String) : Bool × IdempotencyTable :=
  t.insertNew { key, createdAt := now, requestHash, idempotencyStatus := .pending }

/-- The statement of `set`. -/
def complete (now : ℚ) (key requestHash : String) (response : IdempotentResponse) :
    IdempotencyTable :=
  match t.find key with
  | none => (t.insertNew { key, createdAt := now, requestHash, response := some response }).2
  | some row =>
    if row.idempotencyStatus = .pending && row.requestHash = requestHash then
      t.update key fun row =>
        { row with createdAt := now, response := some response, idempotencyStatus := .completed }
    else t

/-- The statement of `release`. -/
def free (key requestHash : String) : IdempotencyTable :=
  t.keep fun row =>
    !(row.key = key && row.requestHash = requestHash && row.idempotencyStatus = .pending)

end IdempotencyTable

/-! ## The requests -/

/-- The calls of a request: those of the store, its work from the budget to the response, and the
refund of the budget. -/
inductive StoreCall where
  | get (key : String) (ttlSeconds : Option ℚ) (maxEntries : ℕ)
  | reserve (key requestHash : String) (maxEntries : ℕ)
  | execute
  | refund
  | set (key requestHash : String) (response : IdempotentResponse) (maxEntries : ℕ)
  | release (key requestHash : String)

@[reducible] def StoreCall.Res : StoreCall → Type
  | get .. => Option (String × IdempotentResponse × IdempotencyStatus)
  | reserve .. => Bool
  | execute => IdempotentResponse
  | refund | set .. | release .. => Unit

abbrev StoreProgram := Prog StoreCall StoreCall.Res PyExc

abbrev StoreEvent := Event StoreCall StoreCall.Res PyExc

abbrev StoreCall.perform (op : StoreCall) : StoreProgram op.Res := Prog.perform op

/-- A request with an idempotency key, and the settings of the process that serves it. -/
structure IdempotentRequest where
  key : String
  requestHash : String
  ttlSeconds : Option ℚ
  maxEntries : ℕ

def alreadyProcessed : IdempotentResponse where
  status := 409
  content := .obj [("detail", .str "idempotency key is already being processed")]

namespace IdempotentRequest

variable (request : IdempotentRequest)

/-- The `except` clauses of `task_sync` after the key is reserved: all of them release it. -/
def except (exc : PyExc) : StoreProgram IdempotentResponse :=
  match exc with
  | .cancelledError | .generatorExit => throw exc
  | .governanceError .. | .tenantBudgetError .. => do
    StoreCall.perform (.release request.key request.requestHash)
    throw exc
  | _ => do
    StoreCall.perform .refund
    StoreCall.perform (.release request.key request.requestHash)
    throw exc

/-- The body of `task_sync` after the key is reserved. -/
def body : StoreProgram IdempotentResponse :=
  Prog.tryCatch
    (do
      let response ← StoreCall.perform .execute
      StoreCall.perform (.set request.key request.requestHash response request.maxEntries)
      return response)
    request.except

/-- `idempotency_lookup`, `idempotency_reserve` and what follows. -/
def program : StoreProgram IdempotentResponse := do
  match ← StoreCall.perform (.get request.key request.ttlSeconds request.maxEntries) with
  | some (cachedHash, response, status) =>
    if cachedHash ≠ request.requestHash then throw (.httpException 409)
    else
      match status with
      | .pending => return alreadyProcessed
      | .completed => return response
  | none =>
    if ← StoreCall.perform (.reserve request.key request.requestHash request.maxEntries) then
      request.body
    else return alreadyProcessed

end IdempotentRequest

/-- One call as a step of the table, by the clock `now`. A call that raises leaves the table as it
is. -/
def storeStep (now : ℚ) (t : IdempotencyTable) (e : StoreEvent) (t' : IdempotencyTable) : Prop :=
  match e.op, e.outcome with
  | .get key ttlSeconds maxEntries, .ok found =>
    ∃ pruned : IdempotencyTable, IdempotencyTable.Pruned now ttlSeconds maxEntries t pruned ∧
      match pruned.find key with
      | none => found = none ∧ t' = pruned
      | some row =>
        if ttlSeconds.any fun ttl => ttl < now - row.createdAt then
          found = none ∧ t' = pruned.keep (·.key ≠ key)
        else
          found = some (row.requestHash, row.response.getD {}, row.idempotencyStatus) ∧ t' = pruned
  | .reserve key requestHash maxEntries, .ok reserved =>
    (t.reserve now key requestHash).1 = reserved ∧
      IdempotencyTable.Pruned now none maxEntries (t.reserve now key requestHash).2 t'
  | .set key requestHash response maxEntries, .ok _ =>
    IdempotencyTable.Pruned now none maxEntries (t.complete now key requestHash response) t'
  | .release key requestHash, .ok _ => t' = t.free key requestHash
  | _, _ => t' = t

/-! ## Pending rows -/

/-- A row is among the newest ones, in whatever order those of one instant come. -/
def IdempotencyTable.Recent (maxEntries : ℕ) (t : IdempotencyTable) (row : IdempotencyRow) : Prop :=
  t.rows.countP (fun other => row.createdAt ≤ other.createdAt) ≤ maxEntries

/-- No pending row is too old or beyond the newest `max_entries`. -/
def IdempotencyTable.PendingSafe (now : ℚ) (ttlSeconds : Option ℚ) (maxEntries : ℕ)
    (t : IdempotencyTable) : Prop :=
  ∀ row ∈ t.rows, row.Pending →
    (ttlSeconds.all fun ttl => now - ttl ≤ row.createdAt) = true ∧ t.Recent maxEntries row

/-- The table in which a call prunes has no pending row to prune. -/
def PruneSafe (now : ℚ) (t : IdempotencyTable) (op : StoreCall) : Prop :=
  match op with
  | .get _ ttlSeconds maxEntries => t.PendingSafe now ttlSeconds maxEntries
  | .reserve key requestHash maxEntries =>
    (t.reserve now key requestHash).2.PendingSafe now none maxEntries
  | .set key requestHash response maxEntries =>
    (t.complete now key requestHash response).PendingSafe now none maxEntries
  | _ => True

instance (maxEntries : ℕ) (t : IdempotencyTable) (row : IdempotencyRow) :
    Decidable (t.Recent maxEntries row) :=
  inferInstanceAs (Decidable (_ ≤ _))

instance (now : ℚ) (ttlSeconds : Option ℚ) (maxEntries : ℕ) (t : IdempotencyTable) :
    Decidable (t.PendingSafe now ttlSeconds maxEntries) :=
  inferInstanceAs (Decidable (∀ row ∈ t.rows, _ → _ ∧ _))

instance (now : ℚ) (t : IdempotencyTable) : (op : StoreCall) → Decidable (PruneSafe now t op)
  | .get _ ttlSeconds maxEntries =>
    inferInstanceAs (Decidable (t.PendingSafe now ttlSeconds maxEntries))
  | .reserve key requestHash maxEntries =>
    inferInstanceAs (Decidable ((t.reserve now key requestHash).2.PendingSafe now none maxEntries))
  | .set key requestHash response maxEntries =>
    inferInstanceAs (Decidable
      ((t.complete now key requestHash response).PendingSafe now none maxEntries))
  | .execute | .refund | .release .. => isTrue trivial

namespace IdempotencyTable

variable {t t' : IdempotencyTable} {key : String} {row : IdempotencyRow}

theorem find_eq_some_iff : t.find key = some row ↔ row ∈ t.rows ∧ row.key = key := by
  constructor
  · intro h
    exact ⟨List.mem_of_find?_eq_some h, by simpa using List.find?_some h⟩
  · rintro ⟨hmem, rfl⟩
    obtain ⟨found, hfound⟩ : ∃ found, t.find row.key = some found :=
      Option.isSome_iff_exists.mp (List.find?_isSome.mpr ⟨row, hmem, by simp⟩)
    have heq : found = row := List.inj_on_of_nodup_map t.nodup (List.mem_of_find?_eq_some hfound) hmem
      (by simpa using List.find?_some hfound)
    rw [hfound, heq]

theorem mem_keep {condition : IdempotencyRow → Bool} :
    row ∈ (t.keep condition).rows ↔ row ∈ t.rows ∧ condition row = true :=
  List.mem_filter

theorem countP_lt_countP {α : Type} {p q : α → Bool} {l : List α} {a : α} (ha : a ∈ l)
    (hp : p a = false) (hq : q a = true) (hle : ∀ x ∈ l, p x = true → q x = true) :
    l.countP p < l.countP q := by
  obtain ⟨before, rest, rfl⟩ := List.append_of_mem ha
  have hbefore : before.countP p ≤ before.countP q :=
    List.countP_mono_left fun x hx => hle x (by simp [hx])
  have hrest : rest.countP p ≤ rest.countP q :=
    List.countP_mono_left fun x hx => hle x (by simp [hx])
  rw [List.countP_append, List.countP_append, List.countP_cons_of_neg (by simp [hp]),
    List.countP_cons_of_pos hq]
  omega

/-- A row that is recent stays. -/
theorem Trimmed.mem {maxEntries : ℕ} (h : Trimmed maxEntries t t') (hrow : row ∈ t.rows)
    (hrecent : t.Recent maxEntries row) : row ∈ t'.rows := by
  obtain ⟨hlength, kept, rfl, hnewest⟩ := h
  by_contra hdropped
  have hkept : kept row = false := by simpa [mem_keep, hrow] using hdropped
  have hlt := countP_lt_countP (p := kept) (q := fun other => row.createdAt ≤ other.createdAt) hrow
    hkept (by simp) fun other hother hk => by simpa using hnewest other hother row hrow hk hkept
  have hlt' := countP_lt_countP (p := kept) (q := fun _ => true) hrow hkept rfl fun _ _ _ => rfl
  have hcount : (t.keep kept).rows.length = t.rows.countP kept := by
    rw [List.countP_eq_length_filter]
    rfl
  rw [hcount] at hlength
  unfold Recent at hrecent
  rw [List.countP_true] at hlt'
  omega

/-- A prune without pending rows to prune keeps the pending ones. -/
theorem Pruned.find {now : ℚ} {ttlSeconds : Option ℚ} {maxEntries : ℕ}
    (h : Pruned now ttlSeconds maxEntries t t') (hsafe : t.PendingSafe now ttlSeconds maxEntries)
    (hfind : t.find key = some row) (hpending : row.Pending) : t'.find key = some row := by
  obtain ⟨hmem, rfl⟩ := find_eq_some_iff.mp hfind
  obtain ⟨hage, hrecent⟩ := hsafe row hmem hpending
  refine find_eq_some_iff.mpr ⟨Trimmed.mem h ?_ ?_, rfl⟩
  · exact mem_keep.mpr ⟨hmem, hage⟩
  · exact (List.Sublist.countP_le List.filter_sublist).trans hrecent

theorem find_keep {condition : IdempotencyRow → Bool} (hfind : t.find key = some row)
    (hrow : condition row = true) : (t.keep condition).find key = some row := by
  obtain ⟨hmem, rfl⟩ := find_eq_some_iff.mp hfind
  exact find_eq_some_iff.mpr ⟨mem_keep.mpr ⟨hmem, hrow⟩, rfl⟩

theorem find_insertNew {new : IdempotencyRow} (hfind : t.find key = some row) :
    (t.insertNew new).2.find key = some row := by
  obtain ⟨hmem, rfl⟩ := find_eq_some_iff.mp hfind
  unfold insertNew
  split
  · exact hfind
  · exact find_eq_some_iff.mpr ⟨List.mem_append_left _ hmem, rfl⟩

/-- A row is inserted only under a key that is free. -/
theorem insertNew_true {new : IdempotencyRow} (h : (t.insertNew new).1 = true) :
    t.find new.key = none ∧ (t.insertNew new).2.find new.key = some new := by
  unfold insertNew at h ⊢
  split_ifs at h ⊢ with hkey
  constructor
  · refine Option.eq_none_iff_forall_ne_some.mpr fun row hrow => hkey ?_
    obtain ⟨hmem, hrow⟩ := find_eq_some_iff.mp hrow
    exact hrow ▸ List.mem_map_of_mem hmem
  · exact find_eq_some_iff.mpr ⟨List.mem_append_right _ (List.mem_singleton.mpr rfl), rfl⟩

theorem find_update_of_ne {key' : String} {change : IdempotencyRow → IdempotencyRow}
    (hfind : t.find key = some row) (hne : key' ≠ key) :
    (t.update key' change).find key = some row := by
  obtain ⟨hmem, rfl⟩ := find_eq_some_iff.mp hfind
  refine find_eq_some_iff.mpr ⟨List.mem_map.mpr ⟨row, hmem, ?_⟩, rfl⟩
  rw [if_neg hne.symm]

/-- `set` of another key. -/
theorem find_complete_of_ne {now : ℚ} {key' requestHash : String} {response : IdempotentResponse}
    (hfind : t.find key = some row) (hne : key' ≠ key) :
    (t.complete now key' requestHash response).find key = some row := by
  unfold complete
  split
  · exact find_insertNew hfind
  · split
    · exact find_update_of_ne hfind hne
    · exact hfind

/-- `release` of another key. -/
theorem find_free_of_ne {key' requestHash : String} (hfind : t.find key = some row)
    (hne : key' ≠ key) : (t.free key' requestHash).find key = some row := by
  refine find_keep hfind ?_
  simp [(find_eq_some_iff.mp hfind).2, hne.symm]

end IdempotencyTable

/-! ## Interleavings -/

/-- The key and the hash that a request has reserved and neither set nor released. -/
def holdingAfter (held : Option (String × String)) (e : StoreEvent) : Option (String × String) :=
  match e.op, e.outcome with
  | .reserve key requestHash _, .ok true => some (key, requestHash)
  | .set .., .ok _ | .release .., .ok _ => none
  | _, _ => held

/-- A request reserves once, and sets or releases only what it holds. -/
def holdingProtocol : Protocol StoreCall StoreCall.Res PyExc (Option (String × String)) where
  pre held op :=
    match op with
    | .reserve .. => held = none
    | .set key requestHash _ _ | .release key requestHash => held = some (key, requestHash)
    | _ => True
  allowed _ _ := True
  after := holdingAfter

theorem wp_release (request : IdempotentRequest) (exc : PyExc) :
    (do
      StoreCall.perform (.release request.key request.requestHash)
      throw exc : StoreProgram IdempotentResponse).wp holdingProtocol (fun _ _ => True)
      (some (request.key, request.requestHash)) := by
  refine Prog.wp_perform_bind.mpr ⟨rfl, fun r _ => ?_⟩
  cases r <;> trivial

theorem wp_except (request : IdempotentRequest) (exc : PyExc) :
    (request.except exc).wp holdingProtocol (fun _ _ => True)
      (some (request.key, request.requestHash)) := by
  cases exc with
  | cancelledError | generatorExit => trivial
  | governanceError | tenantBudgetError => exact wp_release request _
  | tupleError | timeoutError | valueError | httpException | exception =>
    refine Prog.wp_perform_bind.mpr ⟨trivial, fun r _ => ?_⟩
    cases r with
    | error e => trivial
    | ok u => exact wp_release request _

theorem wp_body (request : IdempotentRequest) :
    request.body.wp holdingProtocol (fun _ _ => True)
      (some (request.key, request.requestHash)) := by
  refine Prog.wp_tryCatch.mpr (Prog.wp_perform_bind.mpr ⟨trivial, fun r _ => ?_⟩)
  cases r with
  | error exc => exact wp_except request exc
  | ok response =>
    refine Prog.wp_perform_bind.mpr ⟨rfl, fun r _ => ?_⟩
    cases r with
    | error exc => exact wp_except request exc
    | ok u => trivial

theorem wp_program (request : IdempotentRequest) :
    request.program.wp holdingProtocol (fun _ _ => True) none := by
  refine Prog.wp_perform_bind.mpr ⟨trivial, fun r _ => ?_⟩
  match r with
  | .error exc => trivial
  | .ok (some (cachedHash, response, status)) =>
    dsimp only
    split
    · trivial
    · cases status <;> trivial
  | .ok none =>
    refine Prog.wp_perform_bind.mpr ⟨rfl, fun r _ => ?_⟩
    match r with
    | .error exc => trivial
    | .ok false => trivial
    | .ok true => exact wp_body request

abbrev IdempotencyPool := Pool IdempotencyTable StoreCall StoreCall.Res PyExc IdempotentResponse

/-- Requests about to run on an empty store. -/
def idempotencyPool (requests : List IdempotentRequest) : IdempotencyPool where
  world := {}
  threads := requests.map (·.program)

/-- What request `i` has reserved and neither set nor released in a run. -/
def inFlight (trace : List (ℕ × StoreEvent)) (i : ℕ) : Option (String × String) :=
  Pool.ghost holdingProtocol none trace i

/-- Every reservation in flight has its row, and no two are for one key. -/
structure Reserved (t : IdempotencyTable) (held : ℕ → Option (String × String)) : Prop where
  row : ∀ i key requestHash, held i = some (key, requestHash) →
    ∃ row, t.find key = some row ∧ row.Pending ∧ row.requestHash = requestHash
  unique : ∀ i j key hash hash', held i = some (key, hash) → held j = some (key, hash') → i = j

/-- A step that prunes no pending row. -/
def safeStep (t : IdempotencyTable) (e : StoreEvent) (t' : IdempotencyTable) : Prop :=
  ∃ now, storeStep now t e t' ∧ PruneSafe now t e.op

/-- The request sets or releases the key. -/
def StoreEvent.settles (e : StoreEvent) (key : String) : Prop :=
  match e.op, e.outcome with
  | .set key' _ _ _, .ok _ | .release key' _, .ok _ => key' = key
  | _, _ => False

section

variable {t t' : IdempotencyTable} {e : StoreEvent} {key : String} {row : IdempotencyRow}

/-- A pending row stays until its key is set or released. -/
theorem safeStep.find (h : safeStep t e t') (hfind : t.find key = some row) (hpending : row.Pending)
    (hkey : ¬e.settles key) : t'.find key = some row := by
  obtain ⟨now, hstep, hsafe⟩ := h
  have hrow := (IdempotencyTable.find_eq_some_iff.mp hfind).2
  obtain ⟨op, r⟩ := e
  cases op with
  | get key' ttlSeconds maxEntries =>
    cases r with
    | error exc =>
      obtain rfl : t' = t := hstep
      exact hfind
    | ok found =>
      obtain ⟨pruned, hpruned, hstep⟩ := hstep
      have hfind' := hpruned.find hsafe hfind hpending
      split at hstep
      · obtain ⟨-, rfl⟩ := hstep
        exact hfind'
      · rename_i row' hrow'
        split at hstep
        · rename_i hexpired
          obtain ⟨-, rfl⟩ := hstep
          refine IdempotencyTable.find_keep hfind' ?_
          -- the row that has expired is another one
          have hne : row.key ≠ key' := by
            rintro rfl
            rw [hrow, hfind'] at hrow'
            obtain rfl := Option.some.inj hrow'
            obtain ⟨ttl, rfl, hlt⟩ := Option.any_eq_true _ _ |>.mp hexpired
            have hage : now - ttl ≤ row.createdAt := of_decide_eq_true
              (hsafe row (IdempotencyTable.find_eq_some_iff.mp hfind).1 hpending).1
            exact absurd hage (not_le.mpr (lt_sub_comm.mp (by simpa using hlt)))
          simpa using hne
        · obtain ⟨-, rfl⟩ := hstep
          exact hfind'
  | reserve key' requestHash maxEntries =>
    cases r with
    | error exc =>
      obtain rfl : t' = t := hstep
      exact hfind
    | ok reserved =>
      exact hstep.2.find hsafe (IdempotencyTable.find_insertNew hfind) hpending
  | execute | refund =>
    obtain rfl : t' = t := by cases r <;> exact hstep
    exact hfind
  | set key' requestHash response maxEntries =>
    cases r with
    | error exc =>
      obtain rfl : t' = t := hstep
      exact hfind
    | ok u =>
      exact IdempotencyTable.Pruned.find hstep hsafe
        (IdempotencyTable.find_complete_of_ne hfind hkey) hpending
  | release key' requestHash =>
    cases r with
    | error exc =>
      obtain rfl : t' = t := hstep
      exact hfind
    | ok u =>
      obtain rfl : t' = t.free key' requestHash := hstep
      exact IdempotencyTable.find_free_of_ne hfind hkey

/-- A reservation that is granted finds its key free, and leaves its pending row. -/
theorem safeStep.reserve {requestHash : String} {maxEntries : ℕ}
    (h : safeStep t ⟨.reserve key requestHash maxEntries, .ok true⟩ t') :
    t.find key = none ∧ ∃ row, t'.find key = some row ∧ row.Pending ∧
      row.requestHash = requestHash := by
  obtain ⟨now, ⟨hreserved, hpruned⟩, hsafe⟩ := h
  obtain ⟨hnone, hfind⟩ := IdempotencyTable.insertNew_true hreserved
  exact ⟨hnone, _, hpruned.find hsafe hfind rfl, rfl, rfl⟩

end

/-- What others hold stays, after a step of request `i` that keeps their rows. -/
theorem Reserved.others {t t' : IdempotencyTable} {held : ℕ → Option (String × String)} {i : ℕ}
    (h : Reserved t held) {held' : Option (String × String)}
    (hrows : ∀ j key hash row, j ≠ i → held j = some (key, hash) → t.find key = some row →
      row.Pending → t'.find key = some row)
    (hown : ∀ key hash, held' = some (key, hash) →
      (∃ row, t'.find key = some row ∧ row.Pending ∧ row.requestHash = hash) ∧
        ∀ j hash', j ≠ i → held j ≠ some (key, hash')) :
    Reserved t' (Function.update held i held') := by
  constructor
  · intro j key hash hj
    by_cases hji : j = i
    · subst hji
      rw [Function.update_self] at hj
      exact (hown key hash hj).1
    · rw [Function.update_of_ne hji] at hj
      obtain ⟨row, hfind, hpending, hhash⟩ := h.row j key hash hj
      exact ⟨row, hrows j key hash row hji hj hfind hpending, hpending, hhash⟩
  · intro j k key hash hash' hj hk
    by_cases hji : j = i <;> by_cases hki : k = i
    · rw [hji, hki]
    · subst hji
      rw [Function.update_self] at hj
      rw [Function.update_of_ne hki] at hk
      exact absurd hk ((hown key hash hj).2 k hash' hki)
    · subst hki
      rw [Function.update_self] at hk
      rw [Function.update_of_ne hji] at hj
      exact absurd hj ((hown key hash' hk).2 j hash hji)
    · rw [Function.update_of_ne hji] at hj
      rw [Function.update_of_ne hki] at hk
      exact h.unique j k key hash hash' hj hk

/-- What a request holds is settled by no other one. -/
theorem Reserved.not_settles {t : IdempotencyTable} {held : ℕ → Option (String × String)} {i j : ℕ}
    {e : StoreEvent} (h : Reserved t held) (hpre : holdingProtocol.pre (held i) e.op)
    {key hash : String} (hj : held j = some (key, hash)) (hji : j ≠ i) : ¬e.settles key := by
  intro hsettles
  obtain ⟨op, r⟩ := e
  cases op with
  | set | release =>
    cases r with
    | error exc => exact hsettles
    | ok u =>
      obtain rfl := hsettles
      exact hji (h.unique j i _ _ _ hj hpre)
  | _ => exact hsettles

/-- One step of request `i`. -/
theorem Reserved.step {t t' : IdempotencyTable} {held : ℕ → Option (String × String)} {i : ℕ}
    {e : StoreEvent} (h : Reserved t held) (hpre : holdingProtocol.pre (held i) e.op)
    (hstep : safeStep t e t') :
    Reserved t' (Function.update held i (holdingAfter (held i) e)) := by
  refine h.others (fun j key hash row hji hj hfind hpending =>
    hstep.find hfind hpending (h.not_settles hpre hj hji)) fun key hash hheld => ?_
  have hsame (hi : held i = some (key, hash)) (hsettles : ¬e.settles key) :
      (∃ row, t'.find key = some row ∧ row.Pending ∧ row.requestHash = hash) ∧
        ∀ j hash', j ≠ i → held j ≠ some (key, hash') := by
    obtain ⟨row, hfind, hpending, hhash⟩ := h.row i key hash hi
    exact ⟨⟨row, hstep.find hfind hpending hsettles, hpending, hhash⟩,
      fun j hash' hji hj => hji (h.unique j i _ _ _ hj hi)⟩
  obtain ⟨op, r⟩ := e
  cases op with
  | reserve key' hash' maxEntries =>
    match r, hheld with
    | .error exc, hheld => exact hsame hheld nofun
    | .ok false, hheld => exact hsame hheld nofun
    | .ok true, hheld =>
      cases hheld
      obtain ⟨hnone, hrow⟩ := hstep.reserve
      refine ⟨hrow, fun j hash' _ hj => ?_⟩
      obtain ⟨row, hfind, -⟩ := h.row j key hash' hj
      rw [hnone] at hfind
      cases hfind
  | set | release =>
    cases r with
    | error exc => exact hsame hheld nofun
    | ok u => cases hheld
  | get | execute | refund => exact hsame (by cases r <;> exact hheld) (by cases r <;> nofun)

/-- While a key is reserved no one else is granted it, and no other request changes its row, if no
prune reaches a pending row. -/
theorem atMostOnce_of_pruneSafe (requests : List IdempotentRequest)
    {trace : List (ℕ × StoreEvent)} {pool : IdempotencyPool}
    (hrun : Pool.Run safeStep (idempotencyPool requests) trace pool) {i : ℕ}
    {key requestHash : String} (hi : inFlight trace i = some (key, requestHash)) {j : ℕ}
    {op : StoreCall} {next : Except PyExc op.Res → StoreProgram IdempotentResponse}
    (hj : pool.threads[j]? = some (.step op next)) {r : Except PyExc op.Res} {t' : IdempotencyTable}
    (hstep : safeStep pool.world ⟨op, r⟩ t') :
    (∀ hash maxEntries, (⟨op, r⟩ : StoreEvent) ≠ ⟨.reserve key hash maxEntries, .ok true⟩) ∧
    ∃ row, pool.world.find key = some row ∧ row.Pending ∧ row.requestHash = requestHash ∧
      (j ≠ i → t'.find key = some row) := by
  have hthreads : ∀ p ∈ (idempotencyPool requests).threads,
      p.wp holdingProtocol (fun _ _ => True) none := by
    intro p hp
    obtain ⟨request, -, rfl⟩ := List.mem_map.mp hp
    exact wp_program request
  obtain ⟨hwp, hreserved⟩ := hrun.invariant holdingProtocol (I := fun t held => Reserved t held)
    hthreads ⟨nofun, nofun⟩ (fun h _ hpre _ hw => h.step hpre hw) (fun _ _ _ => trivial)
  obtain ⟨row, hfind, hpending, hhash⟩ := hreserved.row i key requestHash hi
  constructor
  · intro hash maxEntries he
    rw [he] at hstep
    rw [hstep.reserve.1] at hfind
    cases hfind
  · refine ⟨row, hfind, hpending, hhash, fun hji => hstep.find hfind hpending ?_⟩
    exact hreserved.not_settles (hwp j _ hj).1 hi hji.symm

/-! ### Runs by a schedule -/

/-- The newest rows, those of one instant in the order of the table. -/
def IdempotencyTable.newest (maxEntries : ℕ) (t : IdempotencyTable) : List IdempotencyRow :=
  (t.rows.insertionSort fun a b => b.createdAt ≤ a.createdAt).take maxEntries

/-- `prune`, in that order -/
def IdempotencyTable.prune (now : ℚ) (ttlSeconds : Option ℚ) (maxEntries : ℕ)
    (t : IdempotencyTable) : IdempotencyTable :=
  (t.expire now ttlSeconds).keep fun row =>
    row.key ∈ ((t.expire now ttlSeconds).newest maxEntries).map (·.key)

theorem IdempotencyTable.trimmed_newest (maxEntries : ℕ) (t : IdempotencyTable) :
    Trimmed maxEntries t (t.keep fun row => row.key ∈ (t.newest maxEntries).map (·.key)) := by
  let sorted := t.rows.insertionSort fun a b => b.createdAt ≤ a.createdAt
  have hperm : sorted.Perm t.rows := List.perm_insertionSort _ _
  have hsorted : sorted.Pairwise fun a b => b.createdAt ≤ a.createdAt := by
    have : Std.Total fun a b : IdempotencyRow => b.createdAt ≤ a.createdAt :=
      ⟨fun a b => le_total _ _⟩
    have : IsTrans IdempotencyRow fun a b => b.createdAt ≤ a.createdAt :=
      ⟨fun _ _ _ h h' => h'.trans h⟩
    exact List.pairwise_insertionSort _ _
  have hsplit : t.newest maxEntries ++ sorted.drop maxEntries = sorted := List.take_append_drop _ _
  have hkeys : ∀ row ∈ sorted.drop maxEntries, row.key ∉ (t.newest maxEntries).map (·.key) := by
    have hnodup := (hperm.map (·.key)).nodup_iff.mpr t.nodup
    rw [← hsplit, List.map_append, List.nodup_append] at hnodup
    intro row hrow hmem
    exact hnodup.2.2 _ hmem _ (List.mem_map_of_mem hrow) rfl
  constructor
  · have hcount : (t.keep fun row => row.key ∈ (t.newest maxEntries).map (·.key)).rows.length =
        sorted.countP fun row => row.key ∈ (t.newest maxEntries).map (·.key) := by
      rw [hperm.countP_eq, List.countP_eq_length_filter]
      rfl
    have hnewest : (t.newest maxEntries).countP
        (fun row => row.key ∈ (t.newest maxEntries).map (·.key)) = (t.newest maxEntries).length := by
      refine List.countP_eq_length.mpr fun row hrow => ?_
      simpa using ⟨row, hrow, rfl⟩
    have hdrop : (sorted.drop maxEntries).countP
        (fun row => row.key ∈ (t.newest maxEntries).map (·.key)) = 0 := by
      refine List.countP_eq_zero.mpr fun row hrow => ?_
      simpa using hkeys row hrow
    rw [hcount]
    conv_lhs => rw [← hsplit]
    rw [List.countP_append, hnewest, hdrop, newest, List.length_take, hperm.length_eq, Nat.add_zero]
  · refine ⟨_, rfl, fun row hrow other hother hkept hdropped => ?_⟩
    rw [← hsplit, List.pairwise_append] at hsorted
    refine hsorted.2.2 row ?_ other ?_
    · have hmem := hperm.mem_iff.mpr hrow
      rw [← hsplit] at hmem
      obtain hmem | hmem := List.mem_append.mp hmem
      · exact hmem
      · exact absurd (by simpa using hkept) (hkeys row hmem)
    · have hmem := hperm.mem_iff.mpr hother
      rw [← hsplit] at hmem
      obtain hmem | hmem := List.mem_append.mp hmem
      · exact absurd (List.mem_map_of_mem hmem) (by simpa using hdropped)
      · exact hmem

theorem IdempotencyTable.pruned_prune (now : ℚ) (ttlSeconds : Option ℚ) (maxEntries : ℕ)
    (t : IdempotencyTable) : Pruned now ttlSeconds maxEntries t (t.prune now ttlSeconds maxEntries) :=
  trimmed_newest maxEntries _

/-- The methods of a store that do not raise. The work of a request returns an empty response. -/
def storeAnswer (now : ℚ) (op : StoreCall) (t : IdempotencyTable) :
    Option (Except PyExc op.Res × IdempotencyTable) :=
  match op with
  | .get key ttlSeconds maxEntries =>
    let pruned := t.prune now ttlSeconds maxEntries
    match pruned.find key with
    | none => some (.ok none, pruned)
    | some row =>
      if ttlSeconds.any fun ttl => ttl < now - row.createdAt then
        some (.ok none, pruned.keep (·.key ≠ key))
      else
        some (.ok (some (row.requestHash, row.response.getD {}, row.idempotencyStatus)), pruned)
  | .reserve key requestHash maxEntries =>
    let inserted := t.reserve now key requestHash
    some (.ok inserted.1, inserted.2.prune now none maxEntries)
  | .execute => some (.ok {}, t)
  | .refund => some (.ok (), t)
  | .set key requestHash response maxEntries =>
    some (.ok (), (t.complete now key requestHash response).prune now none maxEntries)
  | .release key requestHash => some (.ok (), t.free key requestHash)

theorem storeStep_storeAnswer {now : ℚ} {op : StoreCall} {t t' : IdempotencyTable}
    {r : Except PyExc op.Res} (h : storeAnswer now op t = some (r, t')) :
    storeStep now t ⟨op, r⟩ t' := by
  cases op with
  | get key ttlSeconds maxEntries =>
    have hpruned := t.pruned_prune now ttlSeconds maxEntries
    dsimp only [storeAnswer] at h
    split at h
    · rename_i hfind
      cases h
      refine ⟨_, hpruned, ?_⟩
      rw [hfind]
      exact ⟨rfl, rfl⟩
    · rename_i row hfind
      split at h
      · rename_i hexpired
        cases h
        refine ⟨_, hpruned, ?_⟩
        rw [hfind]
        exact (if_pos hexpired).mpr ⟨rfl, rfl⟩
      · rename_i hexpired
        cases h
        refine ⟨_, hpruned, ?_⟩
        rw [hfind]
        exact (if_neg hexpired).mpr ⟨rfl, rfl⟩
  | reserve key requestHash maxEntries =>
    cases h
    exact ⟨rfl, IdempotencyTable.pruned_prune ..⟩
  | set key requestHash response maxEntries =>
    cases h
    exact IdempotencyTable.pruned_prune ..
  | execute | refund | release =>
    cases h
    rfl

/-- The same under the condition of `safeStep`. The clock counts the rows. -/
def safeAnswer (op : StoreCall) (t : IdempotencyTable) :
    Option (Except PyExc op.Res × IdempotencyTable) :=
  if PruneSafe t.rows.length t op then storeAnswer t.rows.length op t else none

theorem safeStep_safeAnswer {op : StoreCall} {t t' : IdempotencyTable} {r : Except PyExc op.Res}
    (h : safeAnswer op t = some (r, t')) : safeStep t ⟨op, r⟩ t' := by
  unfold safeAnswer at h
  split at h
  · exact ⟨_, storeStep_storeAnswer h, ‹_›⟩
  · cases h

/-- Two equal requests; the first has reserved the key. -/
def reservedOnce : IdempotencyPool × List (ℕ × StoreEvent) :=
  Pool.exec safeAnswer [0, 0]
    (idempotencyPool [⟨"k", "h", some 3600, 10⟩, ⟨"k", "h", some 3600, 10⟩]) []

/-- The second of two equal requests finds the row of the first one, and leaves it. -/
theorem atMostOnce_of_pruneSafe_twice :
    inFlight reservedOnce.2 0 = some ("k", "h") ∧
    ∃ row, reservedOnce.1.world.find "k" = some row ∧ row.Pending ∧
      ∀ r t', safeStep reservedOnce.1.world ⟨.get "k" (some 3600) 10, r⟩ t' →
        t'.find "k" = some row := by
  have hrun : Pool.Run safeStep _ reservedOnce.2 reservedOnce.1 :=
    Pool.Run.exec (fun h => safeStep_safeAnswer h) [0, 0] .nil
  have hheld : inFlight reservedOnce.2 0 = some ("k", "h") := by decide +kernel
  obtain ⟨next, hnext⟩ : ∃ next, reservedOnce.1.threads[1]? =
      some (.step (.get "k" (some 3600) 10) next) := ⟨_, rfl⟩
  have hfind : (reservedOnce.1.world.find "k").any (·.idempotencyStatus = .pending) = true := by
    decide +kernel
  obtain ⟨row, hrow, hpending⟩ := (Option.any_eq_true _ _).mp hfind
  replace hpending : row.Pending := by simpa using hpending
  refine ⟨hheld, row, hrow, hpending, fun r t' hstep => ?_⟩
  obtain ⟨-, row', hrow', -, -, hkept⟩ := atMostOnce_of_pruneSafe _ hrun hheld hnext hstep
  rw [hrow] at hrow'
  rw [Option.some.inj hrow']
  exact hkept (by decide)

/-- A call of `set` or `release`. -/
def StoreCall.isSettlement : StoreCall → Bool
  | set .. | release .. => true
  | _ => false

/-- The first request has reserved its key, the second one another key where there is room for one
row, and the third one has looked up the key of the first. -/
def evicted : IdempotencyPool × List (ℕ × StoreEvent) :=
  Pool.exec (fun op t => storeAnswer t.rows.length op t) [0, 0, 1, 1, 2] (idempotencyPool
    [⟨"a", "h", some 3600, 1⟩, ⟨"b", "h", some 3600, 1⟩, ⟨"a", "h", some 3600, 1⟩]) []

/-- The next call of a request reserves a key, with room for a number of rows. -/
def reserves (key requestHash : String) (maxEntries : ℕ) : StoreProgram IdempotentResponse → Bool
  | .step (.reserve key' requestHash' maxEntries') _ =>
    key' = key && requestHash' = requestHash && maxEntries' = maxEntries
  | _ => false

/-- With room for one row, a request with another key makes room for a second execution. -/
theorem not_alwaysAtMostOnce :
    ¬ ∀ (requests : List IdempotentRequest) (trace : List (ℕ × StoreEvent)) (pool : IdempotencyPool),
      (∀ request ∈ requests, 1 ≤ request.maxEntries) →
      Pool.Run (fun t e t' => ∃ now, storeStep now t e t') (idempotencyPool requests) trace pool →
      ∀ i key requestHash, inFlight trace i = some (key, requestHash) →
      ∀ (j : ℕ) op next (r : Except PyExc op.Res) t', pool.threads[j]? = some (.step op next) →
        (∃ now, storeStep now pool.world ⟨op, r⟩ t') →
        (∀ hash maxEntries, (⟨op, r⟩ : StoreEvent) ≠ ⟨.reserve key hash maxEntries, .ok true⟩) ∧
        (j ≠ i → op.isSettlement = true → ∀ row, pool.world.find key = some row → row.Pending →
          t'.find key = some row) := by
  intro h
  have hrun : Pool.Run (fun t e t' => ∃ now, storeStep now t e t') _ evicted.2 evicted.1 :=
    Pool.Run.exec (fun h => ⟨_, storeStep_storeAnswer h⟩) [0, 0, 1, 1, 2] .nil
  obtain ⟨next, hnext⟩ : ∃ next, evicted.1.threads[2]? = some (.step (.reserve "a" "h" 1) next) := by
    have hthread : evicted.1.threads[2]?.any (reserves "a" "h" 1) = true := by decide +kernel
    obtain ⟨p, hp, hmatch⟩ := (Option.any_eq_true _ _).mp hthread
    unfold reserves at hmatch
    split at hmatch
    · obtain ⟨⟨rfl, rfl⟩, rfl⟩ : (_ = "a" ∧ _ = "h") ∧ _ = 1 := by simpa using hmatch
      exact ⟨_, hp⟩
    · cases hmatch
  have hreserved : (evicted.1.world.reserve 1 "a" "h").1 = true := by decide +kernel
  exact (h _ evicted.2 evicted.1 (by simp) hrun 0 "a" "h" (by decide +kernel) 2 (.reserve "a" "h" 1)
    next (.ok true) _ hnext ⟨1, hreserved, IdempotencyTable.pruned_prune ..⟩).1 "h" 1 rfl

end Gpucall
