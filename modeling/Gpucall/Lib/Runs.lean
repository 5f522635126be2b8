import Gpucall.Lib.Each

/-! Runs of a program, taken apart along its text. A run of a traversal is made of the runs for the elements, of
which only the last may have been left or have failed. -/

namespace Effects

variable {Op : Type} {Res : Op → Type} {ε α β : Type}

namespace Prog

theorem Steps.of_done {r : Except ε α} {q : Prog Op Res ε α} {es : List (Event Op Res ε)}
    (h : (done r).Steps es q) : es = [] ∧ q = done r := by
  cases h
  exact ⟨rfl, rfl⟩

/-- A program that is answered at once runs to its end. -/
theorem steps_run {σ : Type} (handle : (op : Op) → σ → Except ε (Res op) × σ) (p : Prog Op Res ε α)
    (s : σ) : ∃ es, p.Steps es (done (p.run handle s).1) := by
  induction p generalizing s with
  | done r => exact ⟨[], .nil⟩
  | step op k ih =>
    obtain ⟨es, hes⟩ := ih (handle op s).1 (handle op s).2
    exact ⟨⟨op, (handle op s).1⟩ :: es, .cons hes⟩

/-- Where the answers do not depend on what came before, a traversal fails or has the values of its elements. -/
theorem run_mapM (handle : (op : Op) → Unit → Except ε (Res op) × Unit) (f : α → Prog Op Res ε β)
    (xs : List α) : ((xs.mapM f).run handle ()).1 = xs.mapM fun x => ((f x).run handle ()).1 := by
  induction xs with
  | nil => rfl
  | cons x xs ih =>
    rw [List.mapM_cons, List.mapM_cons, ← ih]
    refine (congrArg Prod.fst (run_andThen handle (f x) _ ())).trans ?_
    cases ((f x).run handle ()).1 with
    | error e => rfl
    | ok y =>
      refine (congrArg Prod.fst (run_andThen handle (xs.mapM f) _ ())).trans ?_
      cases ((xs.mapM f).run handle ()).1 with
      | error e => rfl
      | ok ys => rfl

/-- A program that begins with a value goes on from it, or has ended with the exception. -/
theorem Steps.of_done_bind {r : Except ε α} {f : α → Prog Op Res ε β} {q : Prog Op Res ε β}
    {es : List (Event Op Res ε)} (h : (done r >>= f).Steps es q) :
    (∃ e, r = .error e ∧ es = [] ∧ q = done (.error e)) ∨ ∃ a, r = .ok a ∧ (f a).Steps es q := by
  cases r with
  | ok a => exact .inr ⟨a, rfl, h⟩
  | error e =>
    obtain ⟨rfl, rfl⟩ := Steps.of_done h
    exact .inl ⟨e, rfl, rfl, rfl⟩

/-- A program that begins with a call stands before it, or has its outcome. -/
theorem Steps.of_call {op : Op} {f : Res op → Prog Op Res ε β} {q : Prog Op Res ε β}
    {es : List (Event Op Res ε)} (h : (perform op >>= f).Steps es q) :
    (es = [] ∧ ∀ b, q ≠ done (.ok b)) ∨ (∃ e, es = [⟨op, .error e⟩] ∧ q = done (.error e)) ∨
      ∃ a es', es = ⟨op, .ok a⟩ :: es' ∧ (f a).Steps es' q := by
  obtain _ | @⟨_, _, r, _, _, h⟩ := h
  · refine .inl ⟨rfl, fun b hb => ?_⟩
    cases hb
  · cases r with
    | ok a => exact .inr (.inr ⟨a, _, rfl, h⟩)
    | error e =>
      obtain ⟨rfl, rfl⟩ := Steps.of_done h
      exact .inr (.inl ⟨e, rfl, rfl⟩)

/-- A run is still in the first program, or it goes on from its value. -/
theorem Steps.of_bind {p : Prog Op Res ε α} {f : α → Prog Op Res ε β} {q : Prog Op Res ε β}
    {es : List (Event Op Res ε)} (h : (p >>= f).Steps es q) :
    (∃ p', p.Steps es p' ∧ q = p' >>= f ∧ ∀ a, p' ≠ done (.ok a)) ∨
      ∃ a es₁ es₂, p.Steps es₁ (done (.ok a)) ∧ (f a).Steps es₂ q ∧ es = es₁ ++ es₂ := by
  induction p generalizing es with
  | done r =>
    cases r with
    | ok a => exact .inr ⟨a, [], es, .nil, h, rfl⟩
    | error e =>
      obtain ⟨rfl, rfl⟩ := Steps.of_done h
      exact .inl ⟨_, .nil, rfl, by simp⟩
  | step op k ih =>
    cases h with
    | nil => exact .inl ⟨_, .nil, rfl, by simp⟩
    | cons h =>
      rcases ih _ h with ⟨p', hp, hq, hp'⟩ | ⟨a, es₁, es₂, hp, hf, rfl⟩
      · exact .inl ⟨p', .cons hp, hq, hp'⟩
      · exact .inr ⟨a, _ :: es₁, es₂, .cons hp, hf, rfl⟩

theorem bind_ne_ok {p : Prog Op Res ε α} {f : α → Prog Op Res ε β} (h : ∀ a, p ≠ done (.ok a)) (b : β) :
    (p >>= f) ≠ done (.ok b) := by
  intro hbind
  cases p with
  | done r =>
    cases r with
    | ok a => exact h a rfl
    | error e => cases hbind
  | step op k => cases hbind

/-- The runs of `f` on the elements, each to its end -/
inductive MapRun (f : α → Prog Op Res ε β) : List α → List (List (Event Op Res ε)) → List β → Prop where
  | nil : MapRun f [] [] []
  | cons {x xs es runs y ys} : (f x).Steps es (done (.ok y)) → MapRun f xs runs ys →
    MapRun f (x :: xs) (es :: runs) (y :: ys)

theorem Steps.of_mapM {f : α → Prog Op Res ε β} {xs : List α} {q : Prog Op Res ε (List β)}
    {es : List (Event Op Res ε)} (h : (xs.mapM f).Steps es q) :
    (∃ runs ys, MapRun f xs runs ys ∧ es = runs.flatten ∧ q = done (.ok ys)) ∨
      ∃ before x after runs ys last p, xs = before ++ x :: after ∧ MapRun f before runs ys ∧
        (f x).Steps last p ∧ es = runs.flatten ++ last ∧ ∀ zs, q ≠ done (.ok zs) := by
  induction xs generalizing es q with
  | nil =>
    obtain ⟨rfl, rfl⟩ := Steps.of_done h
    exact .inl ⟨[], [], .nil, rfl, rfl⟩
  | cons x xs ih =>
    rw [List.mapM_cons] at h
    rcases h.of_bind with ⟨p, hp, rfl, hnot⟩ | ⟨y, es₁, es₂, hx, hrest, rfl⟩
    · exact .inr ⟨[], x, xs, [], [], es, p, rfl, .nil, hp, rfl, bind_ne_ok hnot⟩
    rcases hrest.of_bind with ⟨p, hp, rfl, hnot⟩ | ⟨ys, es₃, es₄, hxs, hend, rfl⟩
    · rcases ih hp with ⟨runs, ys, -, -, rfl⟩ | ⟨before, z, after, runs, ys, last, p', rfl, hruns, hz, rfl, -⟩
      · exact absurd rfl (hnot ys)
      · exact .inr ⟨x :: before, z, after, es₁ :: runs, y :: ys, last, p', rfl, .cons hx hruns, hz,
          by rw [List.flatten_cons, List.append_assoc], bind_ne_ok hnot⟩
    · obtain ⟨rfl, rfl⟩ := Steps.of_done hend
      rcases ih hxs with ⟨runs, ys', hruns, rfl, hys⟩ | ⟨_, _, _, _, _, _, _, _, _, _, _, hnot⟩
      · cases hys
        exact .inl ⟨es₁ :: runs, y :: ys, .cons hx hruns, by simp, rfl⟩
      · exact absurd rfl (hnot ys)

end Prog

end Effects
