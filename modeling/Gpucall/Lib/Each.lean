import Gpucall.Lib.Wp

/-! Conditions that a program meets at each of its calls. Unlike a weakest precondition, such a
condition sees what follows a call after every outcome, so it can compare two of them. -/

namespace Effects

variable {Op : Type} {Res : Op → Type} {ε α β σ : Type}

/-- A condition on a call and what follows it, which stays when more follows. -/
structure CallCondition (Op : Type) (Res : Op → Type) (ε : Type) where
  holds : {α : Type} → (op : Op) → (Except ε (Res op) → Prog Op Res ε α) → Prop
  andThen : ∀ {α β : Type} {op : Op} {k : Except ε (Res op) → Prog Op Res ε α}
    (f : Except ε α → Prog Op Res ε β), holds op k → holds op fun r => (k r).andThen f

variable (C : CallCondition Op Res ε)

namespace Prog

/-- The condition holds at every call that the program can get to. -/
def Each : Prog Op Res ε α → Prop
  | done _ => True
  | step op k => C.holds op k ∧ ∀ r, (k r).Each

variable {C}

theorem Each.andThen {p : Prog Op Res ε α} {f : Except ε α → Prog Op Res ε β} (hp : p.Each C)
    (hf : ∀ r, (f r).Each C) : (p.andThen f).Each C := by
  induction p with
  | done r => exact hf r
  | step op k ih => exact ⟨C.andThen f hp.1, fun r => ih r (hp.2 r)⟩

theorem Each.bind {p : Prog Op Res ε α} {f : α → Prog Op Res ε β} (hp : p.Each C)
    (hf : ∀ a, (f a).Each C) : (p >>= f).Each C := by
  refine hp.andThen fun r => ?_
  cases r with
  | ok a => exact hf a
  | error e => trivial

theorem Each.of_steps {p q : Prog Op Res ε α} {es : List (Event Op Res ε)} (hp : p.Each C)
    (hs : p.Steps es q) : q.Each C := by
  induction hs with
  | nil => exact hp
  | cons hs ih => exact ih (hp.2 _)

/-- A run, taken apart at one of its calls. -/
theorem Steps.split {p q : Prog Op Res ε α} {es es' : List (Event Op Res ε)} {e : Event Op Res ε}
    (hs : p.Steps (es ++ e :: es') q) :
    ∃ k, p.Steps es (step e.op k) ∧ (k e.outcome).Steps es' q := by
  induction es generalizing p with
  | nil =>
    cases hs with
    | cons hs => exact ⟨_, .nil, hs⟩
  | cons e₁ es ih =>
    cases hs with
    | cons hs =>
      obtain ⟨k, hbefore, hafter⟩ := ih hs
      exact ⟨k, .cons hbefore, hafter⟩

theorem Steps.append {p q r : Prog Op Res ε α} {es es' : List (Event Op Res ε)}
    (hs : p.Steps es q) (hs' : q.Steps es' r) : p.Steps (es ++ es') r := by
  induction hs with
  | nil => exact hs'
  | cons hs ih => exact .cons (ih hs')

/-- A run to the end, taken apart where a program goes over into the next. -/
theorem Steps.of_andThen {p : Prog Op Res ε α} {f : Except ε α → Prog Op Res ε β} {es : List (Event Op Res ε)}
    {r : Except ε β} (h : (p.andThen f).Steps es (done r)) :
    ∃ x es₁ es₂, p.Steps es₁ (done x) ∧ (f x).Steps es₂ (done r) ∧ es = es₁ ++ es₂ := by
  induction p generalizing es with
  | done x => exact ⟨x, [], es, .nil, h, rfl⟩
  | step op k ih =>
    cases h with
    | cons h =>
      obtain ⟨x, es₁, es₂, hfirst, hrest, rfl⟩ := ih _ h
      exact ⟨x, _ :: es₁, es₂, .cons hfirst, hrest, rfl⟩

end Prog

namespace Local

/-- The condition holds at every call, whatever the variables are. -/
def Each (c : Local σ Op Res ε α) : Prop := ∀ s, (c s).Each C

variable {C}

theorem each_pure (a : α) : (pure a : Local σ Op Res ε α).Each C := fun _ => trivial

theorem each_throw (e : ε) : (throw e : Local σ Op Res ε α).Each C := fun _ => trivial

theorem each_read : (read : Local σ Op Res ε σ).Each C := fun _ => trivial

theorem each_write (f : σ → σ) : (write f : Local σ Op Res ε Unit).Each C := fun _ => trivial

theorem each_ofProg {p : Prog Op Res ε α} (hp : p.Each C) :
    (ofProg p : Local σ Op Res ε α).Each C :=
  fun _ => hp.andThen fun _ => trivial

theorem Each.andThen {c : Local σ Op Res ε α} {f : Except ε α → Local σ Op Res ε β} (hc : c.Each C)
    (hf : ∀ r, (f r).Each C) : (c.andThen f).Each C :=
  fun s => (hc s).bind fun x => hf x.1 x.2

theorem Each.bind {c : Local σ Op Res ε α} {f : α → Local σ Op Res ε β} (hc : c.Each C)
    (hf : ∀ a, (f a).Each C) : (c >>= f).Each C := by
  refine hc.andThen fun r => ?_
  cases r with
  | ok a => exact hf a
  | error e => exact each_throw e

theorem Each.tryCatch {c : Local σ Op Res ε α} {d : ε → Local σ Op Res ε α} (hc : c.Each C)
    (hd : ∀ e, (d e).Each C) : (c.tryCatch d).Each C := by
  refine hc.andThen fun r => ?_
  cases r with
  | ok a => exact each_pure a
  | error e => exact hd e

theorem Each.tryFinally {c : Local σ Op Res ε α} {d : Local σ Op Res ε Unit} (hc : c.Each C)
    (hd : d.Each C) : (c.tryFinally d).Each C := by
  refine hc.andThen fun r => hd.andThen fun r' => ?_
  cases r' with
  | ok a => exact fun _ => trivial
  | error e => exact each_throw e

theorem Each.forEach {body : α → Local σ Op Res ε (Flow β)} (hbody : ∀ x, (body x).Each C)
    (xs : List α) : (Effects.forEach body xs).Each C := by
  induction xs with
  | nil => exact each_pure none
  | cons x xs ih =>
    refine (hbody x).bind fun flow => ?_
    cases flow with
    | next => exact ih
    | stop => exact each_pure none
    | ret value => exact each_pure (some value)

theorem Each.whileTrue {more : Local σ Op Res ε β} {body : Local σ Op Res ε (Option β)}
    (hmore : more.Each C) (hbody : body.Each C) (rounds : ℕ) :
    (Effects.whileTrue more body rounds).Each C := by
  induction rounds with
  | zero => exact hmore
  | succ rounds ih =>
    refine hbody.bind fun value => ?_
    cases value with
    | none => exact ih
    | some value => exact each_pure value

theorem Each.run {c : Local σ Op Res ε α} (hc : c.Each C) (s : σ) : (c.run s).Each C :=
  (hc s).bind fun _ => trivial

end Local

end Effects
