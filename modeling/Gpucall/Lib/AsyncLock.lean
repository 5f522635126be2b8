import Mathlib.Data.List.Nodup

/-! `asyncio.Lock`, between the suspension points of the tasks that use it: a flag and the futures of
the tasks that wait, in the order in which they came. A release wakes the first waiter, which takes the
lock only when it runs again; a task that is cancelled while it waits stays in the queue until then. -/

namespace Asyncio

/-- The future a task waits for. A waiter that has been woken may be cancelled before it runs. -/
inductive Future where
  | pending | granted | revoked | cancelled
  deriving DecidableEq

/-- Its result is set. -/
def Future.Woken (f : Future) : Prop := f = .granted ∨ f = .revoked

structure Lock (τ : Type) where
  locked : Bool := false
  waiters : List (τ × Future) := []

namespace Lock

variable {τ : Type}

/-- `acquire` returns at once: the lock is free and whoever waits for it is cancelled. -/
def available (l : Lock τ) : Bool := !l.locked && l.waiters.all (·.2 = .cancelled)

def take (l : Lock τ) : Lock τ := { l with locked := true }

/-- `acquire` waits. -/
def enqueue (l : Lock τ) (t : τ) : Lock τ := { l with waiters := l.waiters ++ [(t, .pending)] }

/-- `_wake_up_first`: a future that is done is left alone. -/
def wakeUpFirst (l : Lock τ) : Lock τ :=
  match l.waiters with
  | (t, .pending) :: rest => { l with waiters := (t, .granted) :: rest }
  | _ => l

/-- `release` of a lock that is held -/
def release (l : Lock τ) : Lock τ := wakeUpFirst { l with locked := false }

section

variable [DecidableEq τ]

/-- The future of a task that waits. -/
def future (l : Lock τ) (t : τ) : Option Future := l.waiters.lookup t

/-- `Task.cancel` of a task that waits -/
def cancel (l : Lock τ) (t : τ) : Lock τ :=
  { l with waiters := l.waiters.map fun w =>
      if w.1 = t then
        (w.1, match w.2 with
          | .pending | .cancelled => .cancelled
          | .granted | .revoked => .revoked)
      else w }

def remove (l : Lock τ) (t : τ) : Lock τ := { l with waiters := l.waiters.filter (·.1 ≠ t) }

/-- A waiter runs again and takes the lock. -/
def resume (l : Lock τ) (t : τ) : Lock τ := (l.remove t).take

/-- A waiter runs again with `CancelledError`. -/
def abandon (l : Lock τ) (t : τ) : Lock τ :=
  if l.locked then l.remove t else (l.remove t).wakeUpFirst

end

/-- The tasks that wait. -/
def names (l : Lock τ) : List τ := l.waiters.map Prod.fst

/-- Only the first waiter may be woken, and only while the lock is free. -/
structure WF (l : Lock τ) : Prop where
  tail : ∀ w ∈ l.waiters.tail, ¬w.2.Woken
  free : ∀ w ∈ l.waiters, w.2.Woken → l.locked = false

/-! ### What the operations leave as it is -/

section

variable (l : Lock τ) (t : τ)

@[simp] theorem locked_take : l.take.locked = true := rfl

@[simp] theorem names_take : l.take.names = l.names := rfl

@[simp] theorem locked_enqueue : (l.enqueue t).locked = l.locked := rfl

@[simp] theorem names_enqueue : (l.enqueue t).names = l.names ++ [t] := by
  simp [names, enqueue]

@[simp] theorem locked_wakeUpFirst : l.wakeUpFirst.locked = l.locked := by
  unfold wakeUpFirst
  split <;> rfl

@[simp] theorem names_wakeUpFirst : l.wakeUpFirst.names = l.names := by
  unfold wakeUpFirst
  split
  · next h => simp [names, h]
  · rfl

@[simp] theorem locked_release : l.release.locked = false := locked_wakeUpFirst _

@[simp] theorem names_release : l.release.names = l.names := names_wakeUpFirst _

variable [DecidableEq τ]

@[simp] theorem locked_cancel : (l.cancel t).locked = l.locked := rfl

@[simp] theorem names_cancel : (l.cancel t).names = l.names := by
  rw [names, cancel, List.map_map]
  refine List.map_congr_left fun w _ => ?_
  by_cases h : w.1 = t <;> simp [h]

@[simp] theorem locked_remove : (l.remove t).locked = l.locked := rfl

@[simp] theorem locked_resume : (l.resume t).locked = true := rfl

@[simp] theorem locked_abandon : (l.abandon t).locked = l.locked := by
  unfold abandon
  split
  · rfl
  · exact locked_wakeUpFirst _

variable {l t} {u : τ}

theorem mem_names_remove : u ∈ (l.remove t).names ↔ u ∈ l.names ∧ u ≠ t := by
  simp only [names, remove, List.mem_map, List.mem_filter]
  constructor
  · rintro ⟨w, ⟨hw, hne⟩, rfl⟩
    exact ⟨⟨w, hw, rfl⟩, by simpa using hne⟩
  · rintro ⟨⟨w, hw, rfl⟩, hne⟩
    exact ⟨w, ⟨hw, by simpa using hne⟩, rfl⟩

theorem mem_names_resume : u ∈ (l.resume t).names ↔ u ∈ l.names ∧ u ≠ t := by
  rw [resume, names_take, mem_names_remove]

theorem mem_names_abandon : u ∈ (l.abandon t).names ↔ u ∈ l.names ∧ u ≠ t := by
  unfold abandon
  split
  · exact mem_names_remove
  · rw [names_wakeUpFirst, mem_names_remove]

end

/-! ### The queue stays in order -/

namespace WF

variable {l : Lock τ}

theorem empty : ({} : Lock τ).WF := ⟨fun _ h => absurd h List.not_mem_nil,
  fun _ h => absurd h List.not_mem_nil⟩

/-- Nobody is woken while the lock is held. -/
theorem not_woken (h : l.WF) (hlocked : l.locked = true) : ∀ w ∈ l.waiters, ¬w.2.Woken :=
  fun w hw hwoken => Bool.noConfusion (hlocked.symm.trans (h.free w hw hwoken))

/-- A lock that is available has no waiter that is about to take it. -/
theorem take (h : l.available = true) : l.take.WF := by
  have hcancelled : ∀ w ∈ l.waiters, ¬w.2.Woken := by
    intro w hw
    simp only [available, Bool.and_eq_true, List.all_eq_true, decide_eq_true_eq] at h
    rw [h.2 w hw]
    rintro (h | h) <;> cases h
  exact ⟨fun w hw => hcancelled w (List.mem_of_mem_tail hw), fun w hw hwoken =>
    absurd hwoken (hcancelled w hw)⟩

theorem enqueue (h : l.WF) (t : τ) : (l.enqueue t).WF := by
  have hpending : ¬Future.pending.Woken := by rintro (h | h) <;> cases h
  constructor
  · intro w hw
    cases hl : l.waiters with
    | nil => simp [Lock.enqueue, hl] at hw
    | cons first rest =>
      rw [Lock.enqueue, hl, List.cons_append, List.tail_cons, List.mem_append] at hw
      rcases hw with hw | hw
      · exact h.tail w (by rw [hl]; exact hw)
      · rw [List.mem_singleton.mp hw]
        exact hpending
  · intro w hw hwoken
    rcases List.mem_append.mp hw with hw | hw
    · exact h.free w hw hwoken
    · rw [List.mem_singleton.mp hw] at hwoken
      exact absurd hwoken hpending

theorem wakeUpFirst (h : l.WF) (hfree : l.locked = false) : l.wakeUpFirst.WF := by
  unfold Lock.wakeUpFirst
  split
  · next t rest hl =>
    exact ⟨fun w hw => h.tail w (by rw [hl]; exact hw), fun _ _ _ => hfree⟩
  · exact h

theorem release (h : l.WF) (hlocked : l.locked = true) : l.release.WF := by
  refine wakeUpFirst ⟨h.tail, fun w hw hwoken => ?_⟩ rfl
  exact absurd hwoken (h.not_woken hlocked w hw)

variable [DecidableEq τ]

theorem cancel (h : l.WF) (t : τ) : (l.cancel t).WF := by
  have hwoken (w : τ × Future) : (if w.1 = t then (w.1, match w.2 with
      | .pending | .cancelled => .cancelled
      | .granted | .revoked => .revoked) else w : τ × Future).2.Woken → w.2.Woken := by
    obtain ⟨u, f⟩ := w
    split
    · cases f <;> simp [Future.Woken]
    · exact id
  constructor
  · intro w hw
    rw [Lock.cancel, ← List.map_tail] at hw
    obtain ⟨old, hold, rfl⟩ := List.mem_map.mp hw
    exact fun h' => h.tail old hold (hwoken old h')
  · intro w hw h'
    obtain ⟨old, hold, rfl⟩ := List.mem_map.mp hw
    exact h.free old hold (hwoken old h')

theorem remove (h : l.WF) (t : τ) : (l.remove t).WF := by
  refine ⟨fun w hw => h.tail w ?_, fun w hw hwoken => h.free w (List.mem_of_mem_filter hw) hwoken⟩
  cases hl : l.waiters with
  | nil => simp [Lock.remove, hl] at hw
  | cons first rest =>
    rw [Lock.remove, hl, List.filter_cons] at hw
    split at hw
    · exact List.mem_of_mem_filter hw
    · exact List.mem_of_mem_filter (List.mem_of_mem_tail hw)

/-- The task that was woken is the only one. -/
theorem resume (h : l.WF) {t : τ} (ht : ∃ w ∈ l.waiters, w.1 = t ∧ w.2.Woken) : (l.resume t).WF := by
  obtain ⟨w, hw, rfl, hwoken⟩ := ht
  have hothers : ∀ v ∈ (l.remove w.1).waiters, ¬v.2.Woken := by
    intro v hv
    obtain ⟨hv, hne⟩ := List.mem_filter.mp hv
    cases hl : l.waiters with
    | nil => rw [hl] at hv; cases hv
    | cons first rest =>
      have htail := h.tail
      rw [hl] at hv hw htail
      rcases List.mem_cons.mp hw with rfl | hw
      · rcases List.mem_cons.mp hv with rfl | hv
        · simp at hne
        · exact htail v hv
      · exact absurd hwoken (htail w hw)
  exact ⟨fun v hv => hothers v (List.mem_of_mem_tail hv), fun v hv hv' => absurd hv' (hothers v hv)⟩

theorem abandon (h : l.WF) (t : τ) : (l.abandon t).WF := by
  unfold Lock.abandon
  split
  · exact h.remove t
  · next hfree => exact (h.remove t).wakeUpFirst (by simpa using hfree)

end WF

theorem mem_of_future [DecidableEq τ] {l : Lock τ} {t : τ} {f : Future} (h : l.future t = some f) :
    (t, f) ∈ l.waiters := by
  rw [future, List.lookup_eq_some_iff] at h
  obtain ⟨before, after, hl, -⟩ := h
  rw [hl]
  exact List.mem_append_right _ List.mem_cons_self

end Lock

end Asyncio
