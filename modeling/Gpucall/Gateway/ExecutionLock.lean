import Mathlib.Logic.Function.Basic
import Mathlib.Data.List.Induction
import Gpucall.Lib.AsyncLock

/-! `idempotency_execution_lock` of one process. Tasks interleave at their suspension points only, so
a step is the code from one such point to the next. -/

namespace Gpucall.ExecutionLock

open Asyncio

/-- Where a task stands. Waiting for the guard, it has still to read the dictionary, or to clean up. -/
inductive Phase where
  | idle
  | guardEntry (key : String)
  | waiting (key : String) (lock : ℕ)
  | unlocked
  | inside (key : String) (lock : ℕ)
  | guardExit (key : String) (lock : ℕ) (hasWaiters : Bool)
  deriving DecidableEq

/-- The lock objects by their identities, the dictionary, the guard and the tasks. -/
structure Locks (τ : Type) where
  objects : ℕ → Lock τ := fun _ => {}
  created : ℕ := 0
  locks : String → Option ℕ := fun _ => none
  guard : Lock τ := {}
  phase : τ → Phase := fun _ => .idle

namespace Locks

variable {τ : Type} [DecidableEq τ] (s : Locks τ)

def setPhase (t : τ) (phase : Phase) : Locks τ :=
  { s with phase := Function.update s.phase t phase }

def setObject (lock : ℕ) (object : Lock τ) : Locks τ :=
  { s with objects := Function.update s.objects lock object }

def setGuard (guard : Lock τ) : Locks τ := { s with guard }

/-- `locks.setdefault(key, asyncio.Lock())` -/
def setdefault (key : String) : ℕ × Locks τ :=
  match s.locks key with
  | some lock => (lock, s)
  | none =>
    (s.created, { s.setObject s.created {} with
      created := s.created + 1
      locks := Function.update s.locks key (some s.created) })

/-- From the guard on: the dictionary is read, the guard given back, and the lock acquired. -/
def enterGuarded (t : τ) (key : String) : Locks τ :=
  let (lock, s) := s.setdefault key
  let s := s.setGuard s.guard.release
  if (s.objects lock).available then
    (s.setObject lock (s.objects lock).take).setPhase t (.inside key lock)
  else (s.setObject lock ((s.objects lock).enqueue t)).setPhase t (.waiting key lock)

/-- The body of `async with guard` in the `finally` clause, up to the end. -/
def exitGuarded (t : τ) (key : String) (lock : ℕ) (hasWaiters : Bool) : Locks τ :=
  let s :=
    if s.locks key = some lock && !(s.objects lock).locked && !hasWaiters then
      { s with locks := Function.update s.locks key none }
    else s
  (s.setGuard s.guard.release).setPhase t .idle

/-- A task enters the context manager. -/
def enter (t : τ) : Option String → Locks τ
  | none => s.setPhase t .unlocked
  | some key =>
    if s.guard.available then (s.setGuard s.guard.take).enterGuarded t key
    else (s.setGuard (s.guard.enqueue t)).setPhase t (.guardEntry key)

/-- The body ends, normally or not. -/
def leave (t : τ) : Locks τ :=
  match s.phase t with
  | .unlocked => s.setPhase t .idle
  | .inside key lock =>
    let s := s.setObject lock (s.objects lock).release
    let hasWaiters := !(s.objects lock).waiters.isEmpty
    if s.guard.available then (s.setGuard s.guard.take).exitGuarded t key lock hasWaiters
    else (s.setGuard (s.guard.enqueue t)).setPhase t (.guardExit key lock hasWaiters)
  | _ => s

/-- A task that waits runs again if its future is done. -/
def resume (t : τ) : Locks τ :=
  match s.phase t with
  | .guardEntry key =>
    match s.guard.future t with
    | some .granted => (s.setGuard (s.guard.resume t)).enterGuarded t key
    | some .revoked | some .cancelled => (s.setGuard (s.guard.abandon t)).setPhase t .idle
    | _ => s
  | .waiting key lock =>
    match (s.objects lock).future t with
    | some .granted =>
      (s.setObject lock ((s.objects lock).resume t)).setPhase t (.inside key lock)
    | some .revoked | some .cancelled =>
      (s.setObject lock ((s.objects lock).abandon t)).setPhase t .idle
    | _ => s
  | .guardExit key lock hasWaiters =>
    match s.guard.future t with
    | some .granted => (s.setGuard (s.guard.resume t)).exitGuarded t key lock hasWaiters
    | some .revoked | some .cancelled => (s.setGuard (s.guard.abandon t)).setPhase t .idle
    | _ => s
  | _ => s

/-- `Task.cancel`. In the body it only ends the body, by `leave`. -/
def cancel (t : τ) : Locks τ :=
  match s.phase t with
  | .guardEntry _ | .guardExit .. => s.setGuard (s.guard.cancel t)
  | .waiting _ lock => s.setObject lock ((s.objects lock).cancel t)
  | _ => s

end Locks

inductive Event (τ : Type) where
  | enter (t : τ) (key : Option String)
  | leave (t : τ)
  | resume (t : τ)
  | cancel (t : τ)

section

variable {τ : Type} [DecidableEq τ]

/-- A task enters again only after it has come out. -/
def exec (s : Locks τ) : Event τ → Locks τ
  | .enter t key => if s.phase t = .idle then s.enter t key else s
  | .leave t => s.leave t
  | .resume t => s.resume t
  | .cancel t => s.cancel t

def run (events : List (Event τ)) : Locks τ := events.foldl exec {}

/-- The task is inside of the body under the lock of a key, or waits for it. -/
def Locks.Uses (s : Locks τ) (t : τ) (key : String) (lock : ℕ) : Prop :=
  s.phase t = .waiting key lock ∨ s.phase t = .inside key lock

/-- No two tasks are inside with one key, and a key has one lock object. -/
structure Excludes (s : Locks τ) : Prop where
  body : ∀ t u key lock lock', s.phase t = .inside key lock → s.phase u = .inside key lock' → t = u
  object : ∀ t u key lock lock', s.Uses t key lock → s.Uses u key lock' → lock = lock'

/-- Nobody waits for the guard. -/
def Phase.Unguarded : Phase → Prop
  | .guardEntry _ | .guardExit .. => False
  | _ => True

/-- A lock that is used is the one of its key; whoever waits for it is in its queue, and it is locked
if one task, the only one, is inside. -/
structure Inv (s : Locks τ) : Prop where
  guard : s.guard = {}
  unguarded : ∀ t, (s.phase t).Unguarded
  wf : ∀ lock, (s.objects lock).WF
  bound : ∀ key lock, s.locks key = some lock → lock < s.created
  named : ∀ t key lock, s.Uses t key lock → s.locks key = some lock
  queued : ∀ t key lock, s.phase t = .waiting key lock → t ∈ (s.objects lock).names
  locked : ∀ t key lock, s.phase t = .inside key lock → (s.objects lock).locked = true
  unique : ∀ t u key key' lock, s.phase t = .inside key lock → s.phase u = .inside key' lock → t = u

omit [DecidableEq τ] in
theorem Inv.excludes {s : Locks τ} (h : Inv s) : Excludes s where
  body t u key lock lock' ht hu := by
    have hlock := (h.named t key lock (.inr ht)).symm.trans (h.named u key lock' (.inr hu))
    rw [← Option.some.inj hlock] at hu
    exact h.unique t u key key lock ht hu
  object t u key lock lock' ht hu :=
    Option.some.inj ((h.named t key lock ht).symm.trans (h.named u key lock' hu))

omit [DecidableEq τ] in
theorem Inv.init : Inv ({} : Locks τ) where
  guard := rfl
  unguarded _ := trivial
  wf _ := .empty
  bound _ _ h := nomatch h
  named _ _ _ h := by rcases h with h | h <;> cases h
  queued _ _ _ h := nomatch h
  locked _ _ _ h := nomatch h
  unique _ _ _ _ _ h := nomatch h

/-! ## One step -/

variable {s : Locks τ} {t u : τ} {key : String} {lock : ℕ}

/-- A task moves on and changes one lock object. -/
theorem Inv.update (h : Inv s) {phase : Phase} {object : Lock τ} (hphase : phase.Unguarded)
    (hwf : object.WF)
    (hqueued : ∀ u key, u ≠ t → s.phase u = .waiting key lock → u ∈ object.names)
    (hlocked : ∀ u key, u ≠ t → s.phase u = .inside key lock → object.locked = true)
    (hwaiting : ∀ key lock', phase = .waiting key lock' →
      lock' = lock ∧ s.locks key = some lock ∧ t ∈ object.names)
    (hinside : ∀ key lock', phase = .inside key lock' →
      lock' = lock ∧ s.locks key = some lock ∧ object.locked = true ∧
        ∀ u key', u ≠ t → s.phase u ≠ .inside key' lock) :
    Inv ((s.setObject lock object).setPhase t phase) := by
  have hphases {u : τ} {p : Phase} (hp : ((s.setObject lock object).setPhase t phase).phase u = p) :
      u = t ∧ phase = p ∨ u ≠ t ∧ s.phase u = p := by
    rcases eq_or_ne u t with rfl | hne
    · exact .inl ⟨rfl, (Function.update_self ..).symm.trans hp⟩
    · exact .inr ⟨hne, (Function.update_of_ne hne ..).symm.trans hp⟩
  have hobject (lock' : ℕ) : ((s.setObject lock object).setPhase t phase).objects lock' =
      if lock' = lock then object else s.objects lock' := Function.update_apply ..
  constructor
  · exact h.guard
  · intro u
    rcases hphases (u := u) rfl with ⟨-, hp⟩ | ⟨-, hp⟩
    · exact hp ▸ hphase
    · exact hp ▸ h.unguarded u
  · intro lock'
    rw [hobject]
    split
    · exact hwf
    · exact h.wf lock'
  · exact h.bound
  · intro u key lock' huses
    rcases huses with hp | hp
    · rcases hphases hp with ⟨-, hp⟩ | ⟨-, hp⟩
      · obtain ⟨rfl, hnamed, -⟩ := hwaiting key lock' hp
        exact hnamed
      · exact h.named u key lock' (.inl hp)
    · rcases hphases hp with ⟨-, hp⟩ | ⟨-, hp⟩
      · obtain ⟨rfl, hnamed, -⟩ := hinside key lock' hp
        exact hnamed
      · exact h.named u key lock' (.inr hp)
  · intro u key lock' hwait
    rw [hobject]
    rcases hphases hwait with ⟨rfl, hp⟩ | ⟨hne, hp⟩
    · obtain ⟨rfl, -, hmem⟩ := hwaiting key lock' hp
      rwa [if_pos rfl]
    · split
      · next heq => exact hqueued u key hne (heq ▸ hp)
      · exact h.queued u key lock' hp
  · intro u key lock' hin
    rw [hobject]
    rcases hphases hin with ⟨-, hp⟩ | ⟨hne, hp⟩
    · obtain ⟨rfl, -, hheld, -⟩ := hinside key lock' hp
      rwa [if_pos rfl]
    · split
      · next heq => exact hlocked u key hne (heq ▸ hp)
      · exact h.locked u key lock' hp
  · intro u v key key' lock' hin hin'
    rcases hphases hin with ⟨rfl, hp⟩ | ⟨hu, hp⟩
    · rcases hphases hin' with ⟨rfl, -⟩ | ⟨hv, hp'⟩
      · rfl
      · obtain ⟨rfl, -, -, halone⟩ := hinside key lock' hp
        exact absurd hp' (halone v key' hv)
    · rcases hphases hin' with ⟨rfl, hp'⟩ | ⟨-, hp'⟩
      · obtain ⟨rfl, -, -, halone⟩ := hinside key' lock' hp'
        exact absurd hp (halone u key hu)
      · exact h.unique u v key key' lock' hp hp'

/-- A task that moves on outside of every lock. -/
theorem Inv.setPhase (h : Inv s) {phase : Phase} (hphase : phase = .idle ∨ phase = .unlocked) :
    Inv (s.setPhase t phase) := by
  have hsame : s.setPhase t phase = (s.setObject s.created (s.objects s.created)).setPhase t phase := by
    rw [Locks.setObject, Function.update_eq_self]
  rw [hsame]
  refine h.update ?_ (h.wf _) (fun u key _ hu => h.queued u key _ hu)
    (fun u key _ hu => h.locked u key _ hu) ?_ ?_
  · rcases hphase with rfl | rfl <;> trivial
  · rcases hphase with rfl | rfl <;> exact fun _ _ h => nomatch h
  · rcases hphase with rfl | rfl <;> exact fun _ _ h => nomatch h

omit [DecidableEq τ] in
/-- A key gets a lock object of its own where it has none. -/
theorem Inv.setdefault (h : Inv s) (key : String) : Inv (s.setdefault key).2 ∧
    (s.setdefault key).2.locks key = some (s.setdefault key).1 ∧
    (s.setdefault key).2.phase = s.phase ∧ (s.setdefault key).2.guard = s.guard := by
  unfold Locks.setdefault
  split
  · next lock hlock => exact ⟨h, hlock, rfl, rfl⟩
  next hnone =>
  refine ⟨?_, Function.update_self .., rfl, rfl⟩
  -- nobody uses an object that is not created yet
  have hused (u : τ) (key' : String) (lock : ℕ) (hu : s.Uses u key' lock) :
      key' ≠ key ∧ lock ≠ s.created := by
    have hnamed := h.named u key' lock hu
    refine ⟨fun heq => ?_, Nat.ne_of_lt (h.bound _ _ hnamed)⟩
    rw [heq, hnone] at hnamed
    cases hnamed
  constructor
  · exact h.guard
  · exact h.unguarded
  · intro lock
    change (Function.update s.objects s.created {} lock).WF
    rw [Function.update_apply]
    split
    · exact .empty
    · exact h.wf lock
  · intro key' lock hlock
    change Function.update s.locks key (some s.created) key' = some lock at hlock
    change lock < s.created + 1
    rw [Function.update_apply] at hlock
    split at hlock
    · exact Option.some.inj hlock ▸ Nat.lt_succ_self _
    · exact Nat.lt_succ_of_lt (h.bound key' lock hlock)
  · intro u key' lock hu
    change Function.update s.locks key (some s.created) key' = some lock
    rw [Function.update_of_ne (hused u key' lock hu).1]
    exact h.named u key' lock hu
  · intro u key' lock hu
    change u ∈ (Function.update s.objects s.created {} lock).names
    rw [Function.update_of_ne (hused u key' lock (.inl hu)).2]
    exact h.queued u key' lock hu
  · intro u key' lock hu
    change (Function.update s.objects s.created {} lock).locked = true
    rw [Function.update_of_ne (hused u key' lock (.inr hu)).2]
    exact h.locked u key' lock hu
  · exact h.unique

omit [DecidableEq τ] in
theorem Inv.setGuard (h : Inv s) : s.setGuard {} = s := by
  rw [Locks.setGuard, ← h.guard]

omit [DecidableEq τ] in
theorem setdefault_setGuard (guard : Lock τ) (key : String) :
    (s.setGuard guard).setdefault key =
      ((s.setdefault key).1, (s.setdefault key).2.setGuard guard) := by
  unfold Locks.setdefault
  change (match s.locks key with | some lock => _ | none => _) = _
  cases s.locks key <;> rfl

/-- With the guard free, a task gets through to its lock. -/
theorem Inv.enter (h : Inv s) (ht : s.phase t = .idle) (key : Option String) :
    Inv (s.enter t key) := by
  cases key with
  | none => exact h.setPhase (.inr rfl)
  | some key =>
    obtain ⟨h', hnamed, hphase, hguard⟩ := h.setdefault key
    have hfree : (s.guard).available = true := by rw [h.guard]; rfl
    have hreleased : ((s.setdefault key).2.setGuard s.guard.take).setGuard
        ((s.setdefault key).2.setGuard s.guard.take).guard.release = (s.setdefault key).2 := by
      change (s.setdefault key).2.setGuard s.guard.take.release = _
      rw [h.guard]
      exact h'.setGuard
    rw [Locks.enter, if_pos hfree, Locks.enterGuarded, setdefault_setGuard]
    dsimp only
    rw [hreleased]
    generalize s.setdefault key = r at *
    obtain ⟨lock, s'⟩ := r
    dsimp only at *
    have hout (phase : Phase) (hp : s'.phase t = phase) : phase = .idle := by
      rw [← hp, hphase, ht]
    split
    · next havailable =>
      have hunlocked : (s'.objects lock).locked = false := by
        simp only [Lock.available, Bool.and_eq_true, Bool.not_eq_true'] at havailable
        exact havailable.1
      refine h'.update trivial (.take havailable) (fun u key' _ hu => h'.queued u key' lock hu)
        (fun _ _ _ _ => rfl) (fun _ _ h => by cases h) ?_
      rintro key' lock' heq
      obtain ⟨rfl, rfl⟩ := Phase.inside.inj heq
      refine ⟨rfl, hnamed, rfl, fun u key'' _ hu => ?_⟩
      have hlocked := h'.locked u key'' lock hu
      rw [hunlocked] at hlocked
      cases hlocked
    · refine h'.update trivial ((h'.wf lock).enqueue t) ?_ (fun u key' _ hu => h'.locked u key' lock hu)
        ?_ (fun _ _ h => by cases h)
      · intro u key' _ hu
        rw [Lock.names_enqueue]
        exact List.mem_append_left _ (h'.queued u key' lock hu)
      · rintro key' lock' heq
        obtain ⟨rfl, rfl⟩ := Phase.waiting.inj heq
        exact ⟨rfl, hnamed, by rw [Lock.names_enqueue]; exact List.mem_append_right _ List.mem_cons_self⟩

omit [DecidableEq τ] in
/-- The key of a lock that is free and has no waiters is not used. -/
theorem Inv.pop (h : Inv s) (hlock : s.locks key = some lock)
    (hfree : (s.objects lock).locked = false) (hempty : (s.objects lock).names = []) :
    Inv { s with locks := Function.update s.locks key none } := by
  have hkept (k : String) (hk : k ≠ key) : Function.update s.locks key none k = s.locks k :=
    Function.update_of_ne hk ..
  refine { h with bound := fun k lock' hk => ?_, named := fun u k lock' hu => ?_ }
  · by_cases hkey : k = key
    · subst hkey
      change Function.update s.locks k none k = some lock' at hk
      rw [Function.update_self] at hk
      cases hk
    · exact h.bound k lock' ((hkept k hkey).symm.trans hk)
  · refine (hkept k ?_).trans (h.named u k lock' hu)
    rintro rfl
    obtain rfl := Option.some.inj (hlock.symm.trans (h.named u k lock' hu))
    rcases hu with hu | hu
    · have hmem := h.queued u k lock hu
      rw [hempty] at hmem
      cases hmem
    · have hlocked := h.locked u k lock hu
      rw [hfree] at hlocked
      cases hlocked

/-- A lock that is given back is taken out of the dictionary only if nobody uses it. -/
theorem Inv.leave (h : Inv s) (t : τ) : Inv (s.leave t) := by
  have hunguarded := h.unguarded t
  unfold Locks.leave
  split
  · exact h.setPhase (.inl rfl)
  · next key lock ht =>
    have hlocked := h.locked t key lock ht
    have halone (u : τ) (key' : String) (hu : u ≠ t) : s.phase u ≠ .inside key' lock :=
      fun hin => hu (h.unique u t key' key lock hin ht)
    have hobject : ((s.setObject lock (s.objects lock).release).setPhase t .idle).objects lock =
        (s.objects lock).release := Function.update_self ..
    have hguard : s.guard.take.release = s.guard := by rw [h.guard]; rfl
    have hfree : s.guard.available = true := by rw [h.guard]; rfl
    have hnext : Inv ((s.setObject lock (s.objects lock).release).setPhase t .idle) := by
      refine h.update trivial ((h.wf lock).release hlocked) (fun u key' _ hu => ?_)
        (fun u key' hu hin => absurd hin (halone u key' hu)) (fun _ _ h => nomatch h)
        (fun _ _ h => nomatch h)
      rw [Lock.names_release]
      exact h.queued u key' lock hu
    dsimp only
    rw [if_pos (by exact hfree), Locks.exitGuarded]
    split
    · next hpop =>
      simp only [Bool.and_eq_true, decide_eq_true_eq, Bool.not_eq_true', Bool.not_eq_false',
        List.isEmpty_iff] at hpop
      obtain ⟨⟨hlock, -⟩, hempty⟩ := hpop
      have hnames : ((s.setObject lock (s.objects lock).release).setPhase t .idle |>.objects lock).names
          = [] := by
        rw [Lock.names, List.map_eq_nil_iff]
        exact hempty
      have hpopped := hnext.pop hlock (by rw [hobject, Lock.locked_release]) hnames
      change Inv { (s.setObject lock (s.objects lock).release).setPhase t .idle with
        locks := Function.update s.locks key none, guard := s.guard.take.release }
      rw [hguard]
      exact hpopped
    · change Inv { (s.setObject lock (s.objects lock).release).setPhase t .idle with
        guard := s.guard.take.release }
      rw [hguard]
      exact hnext
  · exact h

/-- A waiter that runs again takes its lock, if it was woken, or leaves the queue. -/
theorem Inv.resume (h : Inv s) (t : τ) : Inv (s.resume t) := by
  have hunguarded := h.unguarded t
  unfold Locks.resume
  split
  · next ht =>
    rw [ht] at hunguarded
    exact hunguarded.elim
  · next key lock ht =>
    have hqueued (object : Lock τ) (hnames : ∀ u, u ∈ object.names ↔ u ∈ (s.objects lock).names ∧ u ≠ t)
        (u : τ) (key' : String) (hu : u ≠ t) (hwait : s.phase u = .waiting key' lock) :
        u ∈ object.names :=
      (hnames u).mpr ⟨h.queued u key' lock hwait, hu⟩
    have habandon : Inv ((s.setObject lock ((s.objects lock).abandon t)).setPhase t .idle) := by
      refine h.update trivial ((h.wf lock).abandon t) (hqueued _ fun _ => Lock.mem_names_abandon) ?_
        (fun _ _ h => nomatch h) (fun _ _ h => nomatch h)
      intro u key' _ hin
      rw [Lock.locked_abandon]
      exact h.locked u key' lock hin
    split
    · next hgranted =>
      have hmem := Lock.mem_of_future hgranted
      have hunlocked := (h.wf lock).free _ hmem (.inl rfl)
      refine h.update trivial ((h.wf lock).resume ⟨_, hmem, rfl, .inl rfl⟩)
        (hqueued _ fun _ => Lock.mem_names_resume) (fun _ _ _ _ => rfl) (fun _ _ h => nomatch h) ?_
      rintro key' lock' heq
      obtain ⟨rfl, rfl⟩ := Phase.inside.inj heq
      refine ⟨rfl, h.named t key lock (.inl ht), rfl, fun u key' _ hin => ?_⟩
      have hlocked := h.locked u key' lock hin
      rw [hunlocked] at hlocked
      cases hlocked
    · exact habandon
    · exact habandon
    · exact h
  · next ht =>
    rw [ht] at hunguarded
    exact hunguarded.elim
  · exact h

theorem Inv.cancel (h : Inv s) (t : τ) : Inv (s.cancel t) := by
  have hunguarded := h.unguarded t
  unfold Locks.cancel
  split
  · next ht =>
    rw [ht] at hunguarded
    exact hunguarded.elim
  · next ht =>
    rw [ht] at hunguarded
    exact hunguarded.elim
  · next key lock ht =>
    have hphase : (s.setObject lock ((s.objects lock).cancel t)).setPhase t (.waiting key lock) =
        s.setObject lock ((s.objects lock).cancel t) := by
      rw [Locks.setPhase, ← ht]
      exact congrArg (fun phase => { s.setObject lock ((s.objects lock).cancel t) with phase })
        (Function.update_eq_self t s.phase)
    rw [← hphase]
    refine h.update trivial ((h.wf lock).cancel t) ?_ (fun u key' _ hu => h.locked u key' lock hu) ?_
      (fun _ _ h => nomatch h)
    · intro u key' _ hu
      rw [Lock.names_cancel]
      exact h.queued u key' lock hu
    · rintro key' lock' heq
      obtain ⟨rfl, rfl⟩ := Phase.waiting.inj heq
      exact ⟨rfl, h.named t key lock (.inl ht), by rw [Lock.names_cancel]; exact h.queued t key lock ht⟩
  · exact h

/-! ## Runs -/

theorem Inv.exec (h : Inv s) (e : Event τ) : Inv (exec s e) := by
  cases e with
  | enter t key =>
    change Inv (if s.phase t = .idle then s.enter t key else s)
    split
    · next ht => exact h.enter ht key
    · exact h
  | leave t => exact h.leave t
  | resume t => exact h.resume t
  | cancel t => exact h.cancel t

theorem Inv.run (events : List (Event τ)) : Inv (run events) := by
  unfold ExecutionLock.run
  induction events using List.reverseRecOn with
  | nil => exact .init
  | append_singleton events e ih =>
    rw [List.foldl_append]
    exact ih.exec e

/-- **The lock excludes.** Whatever the tasks, the keys, the interleaving and the cancellations, no two
tasks are in the body with one key, and no key has two lock objects that are held or waited for. -/
theorem lock_excludes {τ : Type} [DecidableEq τ] (events : List (Event τ)) : Excludes (run events) :=
  (Inv.run events).excludes

/-- The first waiter is cancelled after the release has woken it, and the next one takes the lock. -/
example : let s := run [.enter 0 (some "k"), .enter 1 (some "k"), .enter 2 (some "k"), .leave 0,
      .cancel 1, .enter 3 (some "k"), .resume 1, .resume 2]
    s.phase 1 = .idle ∧ s.phase 2 = .inside "k" 0 ∧ s.phase 3 = .waiting "k" 0 := by
  decide

end

end Gpucall.ExecutionLock
