import Mathlib.Logic.Basic

/-! Programs that call an outside world. A program either has ended, with a value or an exception,
or makes a call `op` and goes on with the call's outcome, which may again be a value or an exception.
The three ways to compose programs with exceptions (`bind`, `tryCatch`, `tryFinally`) are one
operation, `andThen`, which hands the whole outcome of a program to the next one. -/

namespace Effects

variable {Op : Type} {Res : Op → Type} {ε ε' α β γ σ : Type}

inductive Prog (Op : Type) (Res : Op → Type) (ε α : Type) : Type where
  | done (r : Except ε α)
  | step (op : Op) (k : Except ε (Res op) → Prog Op Res ε α)

namespace Prog

/-- Run `p`, then go on with its outcome. -/
def andThen : Prog Op Res ε α → (Except ε α → Prog Op Res ε β) → Prog Op Res ε β
  | done r, f => f r
  | step op k, f => step op fun r => (k r).andThen f

def perform (op : Op) : Prog Op Res ε (Res op) := step op done

protected def bind (p : Prog Op Res ε α) (f : α → Prog Op Res ε β) : Prog Op Res ε β :=
  p.andThen fun
    | .ok a => f a
    | .error e => done (.error e)

/-- `try: p except: h` -/
def tryCatch (p : Prog Op Res ε α) (h : ε → Prog Op Res ε α) : Prog Op Res ε α :=
  p.andThen fun
    | .ok a => done (.ok a)
    | .error e => h e

/-- `try: p finally: q`. An exception of `q` replaces the outcome of `p`. -/
def tryFinally (p : Prog Op Res ε α) (q : Prog Op Res ε Unit) : Prog Op Res ε α :=
  p.andThen fun r => q.andThen fun
    | .ok () => done r
    | .error e => done (.error e)

instance : Monad (Prog Op Res ε) where
  pure a := done (.ok a)
  bind := Prog.bind

instance : MonadExceptOf ε (Prog Op Res ε) where
  throw e := done (.error e)
  tryCatch := tryCatch

theorem pure_def (a : α) : (pure a : Prog Op Res ε α) = done (.ok a) := rfl

theorem bind_def (p : Prog Op Res ε α) (f : α → Prog Op Res ε β) : p >>= f = p.bind f := rfl

@[simp] theorem done_andThen (r : Except ε α) (f : Except ε α → Prog Op Res ε β) :
    (done r).andThen f = f r := rfl

@[simp] theorem step_andThen (op : Op) (k : Except ε (Res op) → Prog Op Res ε α)
    (f : Except ε α → Prog Op Res ε β) :
    (step op k).andThen f = step op fun r => (k r).andThen f := rfl

theorem andThen_assoc (p : Prog Op Res ε α) (f : Except ε α → Prog Op Res ε β)
    (g : Except ε β → Prog Op Res ε γ) :
    (p.andThen f).andThen g = p.andThen fun r => (f r).andThen g := by
  induction p with
  | done r => rfl
  | step op k ih => simp only [step_andThen, ih]

theorem andThen_done (p : Prog Op Res ε α) : p.andThen done = p := by
  induction p with
  | done r => rfl
  | step op k ih => simp only [step_andThen, ih]

instance : LawfulMonad (Prog Op Res ε) := LawfulMonad.mk' _
  (fun p => by
    refine Eq.trans ?_ p.andThen_done
    exact congrArg p.andThen (funext fun r => by cases r <;> rfl))
  (fun _ _ => rfl)
  (fun p f g => by
    refine (andThen_assoc p _ _).trans ?_
    exact congrArg p.andThen (funext fun r => by cases r <;> rfl))

/-! ## Running a program alone -/

/-- The outcome of a program and the state it leaves, when each call is answered at once. -/
def run (handle : (op : Op) → σ → Except ε (Res op) × σ) :
    Prog Op Res ε α → σ → Except ε α × σ
  | done r, s => (r, s)
  | step op k, s => (k (handle op s).1).run handle (handle op s).2

variable (handle : (op : Op) → σ → Except ε (Res op) × σ)

@[simp] theorem run_done (r : Except ε α) (s : σ) : (done r).run handle s = (r, s) := rfl

@[simp] theorem run_step (op : Op) (k : Except ε (Res op) → Prog Op Res ε α) (s : σ) :
    (step op k).run handle s = (k (handle op s).1).run handle (handle op s).2 := rfl

@[simp] theorem run_andThen (p : Prog Op Res ε α) (f : Except ε α → Prog Op Res ε β) (s : σ) :
    (p.andThen f).run handle s = (f (p.run handle s).1).run handle (p.run handle s).2 := by
  induction p generalizing s with
  | done r => rfl
  | step op k ih => exact ih _ _

end Prog

end Effects
