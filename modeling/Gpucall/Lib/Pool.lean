import Mathlib.Data.List.Induction
import Mathlib.Logic.Function.Basic
import Gpucall.Lib.Each

/-! Programs that run side by side on one shared world. A run is the list of the calls made, each
with the place of the program that made it; one call is one atomic step of the world `W`. -/

namespace Effects

variable {Op : Type} {Res : Op → Type} {ε α σ G : Type}

structure Pool (σ Op : Type) (Res : Op → Type) (ε α : Type) where
  world : σ
  threads : List (Prog Op Res ε α)

namespace Pool

/-- The calls of thread `i`, in order. -/
def eventsOf (i : ℕ) (trace : List (ℕ × Event Op Res ε)) : List (Event Op Res ε) :=
  trace.filterMap fun x => if x.1 = i then some x.2 else none

theorem eventsOf_snoc (i j : ℕ) (trace : List (ℕ × Event Op Res ε)) (e : Event Op Res ε) :
    eventsOf i (trace ++ [(j, e)]) = eventsOf i trace ++ if j = i then [e] else [] := by
  by_cases h : j = i <;> simp [eventsOf, List.filterMap_append, h]

/-- `W w e w'`: in the world `w` the call `e.op` may have the outcome `e.outcome` and leave `w'`. -/
inductive Run (W : σ → Event Op Res ε → σ → Prop) (init : Pool σ Op Res ε α) :
    List (ℕ × Event Op Res ε) → Pool σ Op Res ε α → Prop where
  | nil : Run W init [] init
  | snoc {trace w threads i op k r w'} : Run W init trace ⟨w, threads⟩ →
      threads[i]? = some (.step op k) → W w ⟨op, r⟩ w' →
      Run W init (trace ++ [(i, ⟨op, r⟩)]) ⟨w', threads.set i (k r)⟩

variable {W : σ → Event Op Res ε → σ → Prop} {init pool : Pool σ Op Res ε α}
  {trace : List (ℕ × Event Op Res ε)}

/-- The ghost value of each thread after a run. -/
def ghost (P : Protocol Op Res ε G) (g₀ : G) (trace : List (ℕ × Event Op Res ε)) (i : ℕ) : G :=
  (eventsOf i trace).foldl P.after g₀

theorem ghost_snoc (P : Protocol Op Res ε G) (g₀ : G) (j : ℕ) (e : Event Op Res ε) :
    ghost P g₀ (trace ++ [(j, e)]) =
      Function.update (ghost P g₀ trace) j (P.after (ghost P g₀ trace j) e) := by
  funext i
  by_cases h : i = j
  · subst h
    simp [ghost, eventsOf_snoc]
  · simp [ghost, eventsOf_snoc, h, Ne.symm h]

theorem Run.length_threads (h : Run W init trace pool) :
    pool.threads.length = init.threads.length := by
  induction h with
  | nil => rfl
  | snoc _ _ _ ih => simpa using ih

/-- Every call of a run is a step of the world. -/
theorem Run.exists_step (h : Run W init trace pool) {x : ℕ × Event Op Res ε} (hx : x ∈ trace) :
    ∃ w w', W w x.2 w' := by
  induction h with
  | nil => cases hx
  | snoc _ _ hw ih =>
    rcases List.mem_append.mp hx with hx | hx
    · exact ih hx
    · obtain rfl := List.mem_singleton.mp hx
      exact ⟨_, _, hw⟩

/-- **Invariant rule.** If every thread is proved alone against the protocol, and a step that meets
the protocol keeps an invariant of the world and the ghost values, then both facts hold after every
run whose outcomes are allowed. -/
theorem Run.invariant (P : Protocol Op Res ε G) {g₀ : G} {Q : Except ε α → G → Prop}
    {I : σ → (ℕ → G) → Prop} (hthreads : ∀ p ∈ init.threads, p.wp P Q g₀)
    (hinit : I init.world fun _ => g₀)
    (hstep : ∀ {w γ i e w'}, I w γ → i < init.threads.length → P.pre (γ i) e.op →
      P.allowed (γ i) e → W w e w' → I w' (Function.update γ i (P.after (γ i) e)))
    (h : Run W init trace pool) (hallowed : ∀ x ∈ trace, ∀ g, P.allowed g x.2) :
    (∀ (i : ℕ) p, pool.threads[i]? = some p → p.wp P Q (ghost P g₀ trace i)) ∧
      I pool.world (ghost P g₀ trace) := by
  induction h with
  | nil => exact ⟨fun i p hp => hthreads p (List.mem_of_getElem? hp), hinit⟩
  | @snoc trace w threads i op k r w' hrun hi hw ih =>
    obtain ⟨hwp, hI⟩ := ih fun x hx => hallowed x (by simp [hx])
    have hev (g : G) : P.allowed g ⟨op, r⟩ := hallowed (i, ⟨op, r⟩) (by simp) g
    obtain ⟨hpre, hk⟩ := hwp i _ hi
    have hlt : i < threads.length := (List.getElem?_eq_some_iff.mp hi).1
    have hlen : threads.length = init.threads.length := hrun.length_threads
    rw [ghost_snoc]
    refine ⟨fun j p hp => ?_, hstep hI (hlen ▸ hlt) hpre (hev _) hw⟩
    by_cases hj : j = i
    · subst hj
      simp only [List.getElem?_set_self hlt, Option.some.injEq] at hp
      subst hp
      simpa using hk r (hev _)
    · simp only [List.getElem?_set_ne (Ne.symm hj)] at hp
      simpa [hj] using hwp j p hp

/-- In a run whose outcomes are allowed, every call is made in a state that allows it. -/
theorem Run.pre (P : Protocol Op Res ε G) {g₀ : G} {Q : Except ε α → G → Prop}
    (hthreads : ∀ p ∈ init.threads, p.wp P Q g₀) {i : ℕ} {op : Op}
    {k : Except ε (Res op) → Prog Op Res ε α} (h : Run W init trace pool)
    (hallowed : ∀ x ∈ trace, ∀ g, P.allowed g x.2) (hi : pool.threads[i]? = some (.step op k)) :
    P.pre (ghost P g₀ trace i) op := by
  obtain ⟨hwp, -⟩ := h.invariant P (I := fun _ _ => True) hthreads trivial
    (fun _ _ _ _ _ => trivial) hallowed
  exact (hwp i _ hi).1

theorem Run.trans {pool' : Pool σ Op Res ε α} {trace' : List (ℕ × Event Op Res ε)}
    (h : Run W init trace pool) (h' : Run W pool trace' pool') :
    Run W init (trace ++ trace') pool' := by
  induction h' with
  | nil => simpa using h
  | snoc _ hi hw ih =>
    rw [← List.append_assoc]
    exact ih.snoc hi hw

/-- The last step of a run. -/
theorem Run.snoc_inv {x : ℕ × Event Op Res ε} (h : Run W init (trace ++ [x]) pool) :
    ∃ w threads k, Run W init trace ⟨w, threads⟩ ∧ threads[x.1]? = some (.step x.2.op k) ∧
      W w x.2 pool.world ∧ pool.threads = threads.set x.1 (k x.2.outcome) := by
  generalize hall : trace ++ [x] = all at h
  cases h with
  | nil => simp at hall
  | snoc hrun hi hw =>
    obtain ⟨rfl, hx⟩ := List.append_inj' hall rfl
    obtain rfl := List.singleton_inj.mp hx
    exact ⟨_, _, _, hrun, hi, hw, rfl⟩

theorem Run.split {trace' : List (ℕ × Event Op Res ε)} (h : Run W init (trace ++ trace') pool) :
    ∃ mid, Run W init trace mid ∧ Run W mid trace' pool := by
  induction trace' using List.reverseRecOn generalizing pool with
  | nil => exact ⟨pool, by simpa using h, .nil⟩
  | append_singleton trace' x ih =>
    rw [← List.append_assoc] at h
    obtain ⟨w, threads, k, hrun, hi, hw, hthreads⟩ := h.snoc_inv
    obtain ⟨mid, hmid, hrest⟩ := ih hrun
    obtain ⟨w', threads'⟩ := pool
    cases hthreads
    exact ⟨mid, hmid, hrest.snoc hi hw⟩

/-- Each thread has run its own program, with the outcomes of its own calls. -/
theorem Run.steps (h : Run W init trace pool) {i : ℕ} {p : Prog Op Res ε α} (hi : init.threads[i]? = some p) :
    ∃ q, pool.threads[i]? = some q ∧ p.Steps (eventsOf i trace) q := by
  induction h with
  | nil => exact ⟨p, hi, .nil⟩
  | @snoc trace w threads j op k r w' _ hj _ ih =>
    obtain ⟨q, hq, hsteps⟩ := ih
    rw [eventsOf_snoc]
    by_cases hij : j = i
    · subst hij
      obtain rfl := Option.some.inj (hj.symm.trans hq)
      rw [if_pos rfl]
      exact ⟨k r, List.getElem?_set_self (List.getElem?_eq_some_iff.mp hj).1, hsteps.append (.cons .nil)⟩
    · rw [if_neg hij, List.append_nil]
      exact ⟨q, (List.getElem?_set_ne hij).trans hq, hsteps⟩

/-! ## Runs by a schedule -/

/-- Let the threads of a schedule make one call each, as a handler answers it. -/
def exec (handle : (op : Op) → σ → Option (Except ε (Res op) × σ)) :
    List ℕ → Pool σ Op Res ε α → List (ℕ × Event Op Res ε) →
      Pool σ Op Res ε α × List (ℕ × Event Op Res ε)
  | [], pool, trace => (pool, trace)
  | i :: schedule, pool, trace =>
    match pool.threads[i]? with
    | some (.step op k) =>
      match handle op pool.world with
      | some (r, w) =>
        exec handle schedule ⟨w, pool.threads.set i (k r)⟩ (trace ++ [(i, ⟨op, r⟩)])
      | none => exec handle schedule pool trace
    | _ => exec handle schedule pool trace

/-- What a handler of the world answers makes a run. -/
theorem Run.exec {handle : (op : Op) → σ → Option (Except ε (Res op) × σ)}
    (hW : ∀ {op w r w'}, handle op w = some (r, w') → W w ⟨op, r⟩ w') (schedule : List ℕ)
    (h : Run W init trace pool) :
    Run W init (exec handle schedule pool trace).2 (exec handle schedule pool trace).1 := by
  induction schedule generalizing trace pool with
  | nil => exact h
  | cons i schedule ih =>
    unfold Pool.exec
    split
    · rename_i op k hi
      split
      · rename_i r w hr
        exact ih (h.snoc hi (hW hr))
      · exact ih h
    · exact ih h

end Pool

end Effects
