import Mathlib.Data.Nat.Notation
import Gpucall.Lib.Prog

/-! A logic for programs that call an outside world. A `Protocol` says what must hold before a call,
which outcomes are considered, and how a ghost value follows the calls; `wp` is the weakest
precondition of a program over it. Programs with local variables, which keep their values when an
exception passes, are `Local` programs; their rules are those of `wp`. -/

namespace Effects

variable {Op : Type} {Res : Op → Type} {ε α β γ σ G : Type}

/-- A call and its outcome. -/
structure Event (Op : Type) (Res : Op → Type) (ε : Type) where
  op : Op
  outcome : Except ε (Res op)

structure Protocol (Op : Type) (Res : Op → Type) (ε G : Type) where
  pre : G → Op → Prop
  allowed : G → Event Op Res ε → Prop
  after : G → Event Op Res ε → G

/-- Calls that meet a condition, and raise at most what meets another -/
def Protocol.calls (C : Op → Prop) (E : ε → Prop) : Protocol Op Res ε Unit where
  pre _ := C
  allowed _ e := ∀ error, e.outcome = .error error → E error
  after _ _ := ()

/-- An iteration of a loop goes on, breaks, or returns from the function. -/
inductive Flow (β : Type) where
  | next
  | stop
  | ret (value : β)

/-- `for x in xs: body`, where `some` is the value of a `return` inside the loop. -/
def forEach {m : Type → Type} [Monad m] (body : α → m (Flow β)) : List α → m (Option β)
  | [] => pure none
  | x :: xs => do
    match ← body x with
    | .next => forEach body xs
    | .stop => return none
    | .ret value => return some value

/-- `while True: body`, unrolled `rounds` times, where `some` is the value with which a round leaves
the loop and `more` stands for the rounds after the last. -/
def whileTrue {m : Type → Type} [Monad m] (more : m β) (body : m (Option β)) : ℕ → m β
  | 0 => more
  | rounds + 1 => do
    match ← body with
    | none => whileTrue more body rounds
    | some value => return value

namespace Prog

/-- `p.Steps es q`: `p` makes the calls `es` and is then `q`. -/
inductive Steps : Prog Op Res ε α → List (Event Op Res ε) → Prog Op Res ε α → Prop where
  | nil {p} : Steps p [] p
  | cons {op k r es q} : Steps (k r) es q → Steps (step op k) (⟨op, r⟩ :: es) q

/-- The program can get to the call `op`, with outcomes before it that are `ok`. -/
inductive Reaches (ok : Event Op Res ε → Prop) (op : Op) : Prog Op Res ε α → Prop where
  | here {k} : Reaches ok op (step op k)
  | step {o k r} : ok ⟨o, r⟩ → Reaches ok op (k r) → Reaches ok op (step o k)

theorem Reaches.andThen {ok : Event Op Res ε → Prop} {op : Op} {p : Prog Op Res ε α}
    {f : Except ε α → Prog Op Res ε β} (h : p.Reaches ok op) : (p.andThen f).Reaches ok op := by
  induction h with
  | here => exact .here
  | step hr _ ih => exact .step hr ih

theorem Reaches.steps {ok : Event Op Res ε → Prop} {op : Op} {p : Prog Op Res ε α}
    (h : p.Reaches ok op) (r : Except ε (Res op)) :
    ∃ es q, p.Steps (es ++ [⟨op, r⟩]) q ∧ ∀ e ∈ es, ok e := by
  induction h with
  | here => exact ⟨[], _, .cons .nil, by simp⟩
  | @step o k r' hr _ ih =>
    obtain ⟨es, q, hsteps, hok⟩ := ih
    refine ⟨⟨o, r'⟩ :: es, q, .cons hsteps, fun e he => ?_⟩
    rcases List.mem_cons.mp he with rfl | he
    · exact hr
    · exact hok e he

/-- The program can return a value, with outcomes that are `ok`. -/
inductive Returns (ok : Event Op Res ε → Prop) (a : α) : Prog Op Res ε α → Prop where
  | here : Returns ok a (done (.ok a))
  | step {o k r} : ok ⟨o, r⟩ → Returns ok a (k r) → Returns ok a (step o k)

theorem Returns.bind {ok : Event Op Res ε → Prop} {a : α} {b : β} {p : Prog Op Res ε α}
    {f : α → Prog Op Res ε β} (h : p.Returns ok a) (hf : (f a).Returns ok b) : (p >>= f).Returns ok b := by
  induction h with
  | here => exact hf
  | step hr _ ih => exact .step hr ih

/-- What is reached behind a program that returns is reached. -/
theorem Returns.reaches {ok : Event Op Res ε → Prop} {op : Op} {a : α} {p : Prog Op Res ε α}
    {f : α → Prog Op Res ε β} (h : p.Returns ok a) (hf : (f a).Reaches ok op) : (p >>= f).Reaches ok op := by
  induction h with
  | here => exact hf
  | step hr _ ih => exact .step hr ih

/-- A call that returns a value, before the rest -/
theorem Reaches.call {ok : Event Op Res ε → Prop} {o op : Op} {f : Res o → Prog Op Res ε β} (a : Res o)
    (ha : ok ⟨o, .ok a⟩) (h : (f a).Reaches ok op) : (perform o >>= f).Reaches ok op := .step (r := .ok a) ha h

theorem Returns.call {ok : Event Op Res ε → Prop} {o : Op} {b : β} {f : Res o → Prog Op Res ε β} (a : Res o)
    (ha : ok ⟨o, .ok a⟩) (h : (f a).Returns ok b) : (perform o >>= f).Returns ok b := .step (r := .ok a) ha h

theorem Reaches.bind {ok : Event Op Res ε → Prop} {op : Op} {p : Prog Op Res ε α}
    {f : α → Prog Op Res ε β} (h : p.Reaches ok op) : (p >>= f).Reaches ok op := h.andThen

variable (P : Protocol Op Res ε G)

def wp : Prog Op Res ε α → (Except ε α → G → Prop) → G → Prop
  | done r, Q, g => Q r g
  | step op k, Q, g => P.pre g op ∧ ∀ r, P.allowed g ⟨op, r⟩ → (k r).wp Q (P.after g ⟨op, r⟩)

variable {P} {Q Q' : Except ε α → G → Prop} {g : G}

theorem wp_mono {p : Prog Op Res ε α} (h : p.wp P Q g) (hQ : ∀ r g', Q r g' → Q' r g') :
    p.wp P Q' g := by
  induction p generalizing g with
  | done r => exact hQ _ _ h
  | step op k ih => exact ⟨h.1, fun r hr => ih r (h.2 r hr)⟩

@[simp] theorem wp_andThen {p : Prog Op Res ε α} {f : Except ε α → Prog Op Res ε β}
    {Q : Except ε β → G → Prop} :
    (p.andThen f).wp P Q g ↔ p.wp P (fun r g' => (f r).wp P Q g') g := by
  induction p generalizing g with
  | done r => rfl
  | step op k ih => exact and_congr_right fun _ => forall₂_congr fun r _ => ih r

@[simp] theorem wp_perform {op : Op} {Q : Except ε (Res op) → G → Prop} :
    (perform op : Prog Op Res ε (Res op)).wp P Q g ↔
      P.pre g op ∧ ∀ r, P.allowed g ⟨op, r⟩ → Q r (P.after g ⟨op, r⟩) := Iff.rfl

theorem wp_bind {p : Prog Op Res ε α} {f : α → Prog Op Res ε β} {Q : Except ε β → G → Prop} :
    (p >>= f).wp P Q g ↔ p.wp P (fun r g' => match r with
      | .ok a => (f a).wp P Q g'
      | .error e => Q (.error e) g') g := by
  refine wp_andThen.trans (iff_of_eq (congrArg (fun Q => p.wp P Q g) ?_))
  funext r g'
  cases r with
  | ok a => rfl
  | error e => rfl

/-- The head of a traversal runs first, and the tail from where it ends. -/
theorem wp_mapM_cons {γ : Type} {f : γ → Prog Op Res ε β} {x : γ} {xs : List γ} {Q : Except ε (List β) → G → Prop} :
    ((x :: xs).mapM f).wp P Q g ↔ (f x).wp P (fun r g' => match r with
      | .ok y => (xs.mapM f).wp P (fun r g'' => Q (r.map (y :: ·)) g'') g'
      | .error e => Q (.error e) g') g := by
  rw [List.mapM_cons, wp_bind]
  refine iff_of_eq (congrArg (fun Q => (f x).wp P Q g) ?_)
  funext r g'
  cases r with
  | error e => rfl
  | ok y =>
    refine propext (wp_bind.trans (iff_of_eq (congrArg (fun Q => (xs.mapM f).wp P Q g') ?_)))
    funext r g''
    cases r with
    | ok ys => rfl
    | error e => rfl

theorem wp_perform_bind {op : Op} {f : Res op → Prog Op Res ε β} {Q : Except ε β → G → Prop} :
    (perform op >>= f).wp P Q g ↔ P.pre g op ∧ ∀ r, P.allowed g ⟨op, r⟩ → match r with
      | .ok a => (f a).wp P Q (P.after g ⟨op, r⟩)
      | .error e => Q (.error e) (P.after g ⟨op, r⟩) := by
  rw [wp_bind, wp_perform]
  refine and_congr_right fun _ => forall₂_congr fun r _ => ?_
  cases r with
  | ok a => rfl
  | error e => rfl

theorem wp_tryCatch {p : Prog Op Res ε α} {h : ε → Prog Op Res ε α} :
    (p.tryCatch h).wp P Q g ↔ p.wp P (fun r g' => match r with
      | .ok a => Q (.ok a) g'
      | .error e => (h e).wp P Q g') g := by
  refine wp_andThen.trans (iff_of_eq (congrArg (fun Q => p.wp P Q g) ?_))
  funext r g'
  cases r with
  | ok a => rfl
  | error e => rfl

variable (P) in
/-- The program keeps the invariant `I` of the ghost value, however it ends. -/
def Stays (I : G → Prop) (p : Prog Op Res ε α) : Prop := ∀ g, I g → p.wp P (fun _ g' => I g') g

section Stays

variable {I : G → Prop}

theorem stays_done (r : Except ε α) : (done r : Prog Op Res ε α).Stays P I := fun _ h => h

theorem Stays.bind {p : Prog Op Res ε α} {f : α → Prog Op Res ε β} (hp : p.Stays P I)
    (hf : ∀ a, (f a).Stays P I) : (p >>= f).Stays P I := by
  refine fun g h => wp_bind.mpr (wp_mono (hp g h) fun r g' h' => ?_)
  cases r with
  | ok a => exact hf a _ h'
  | error e => exact h'

theorem Stays.tryCatch {p : Prog Op Res ε α} {h : ε → Prog Op Res ε α} (hp : p.Stays P I)
    (hh : ∀ e, (h e).Stays P I) : (p.tryCatch h).Stays P I := by
  refine fun g hg => wp_tryCatch.mpr (wp_mono (hp g hg) fun r g' h' => ?_)
  cases r with
  | ok a => exact h'
  | error e => exact hh e _ h'

theorem Stays.forEach {body : α → Prog Op Res ε (Flow β)} {xs : List α}
    (hbody : ∀ x ∈ xs, (body x).Stays P I) : (forEach body xs).Stays P I := by
  induction xs with
  | nil => exact stays_done _
  | cons x xs ih =>
    refine (hbody x (by simp)).bind fun r => ?_
    cases r with
    | next => exact ih fun y hy => hbody y (by simp [hy])
    | stop => exact stays_done _
    | ret value => exact stays_done _

theorem Stays.whileTrue {more : Prog Op Res ε β} {body : Prog Op Res ε (Option β)} (rounds : ℕ)
    (hmore : more.Stays P I) (hbody : body.Stays P I) :
    (whileTrue more body rounds).Stays P I := by
  induction rounds with
  | zero => exact hmore
  | succ rounds ih =>
    refine hbody.bind fun r => ?_
    cases r with
    | none => exact ih
    | some value => exact stays_done _

end Stays

/-- The calls of a program meet a condition, its exceptions another, as those of its calls do, and its
value a third. -/
def Ensures (C : Op → Prop) (E : ε → Prop) (p : Prog Op Res ε α) (R : α → Prop) : Prop :=
  p.wp (.calls C E) (fun r _ => match r with
    | .ok a => R a
    | .error e => E e) ()

section Ensures

variable {C : Op → Prop} {E : ε → Prop} {R : α → Prop}

theorem ensures_pure {a : α} (h : R a) : (pure a : Prog Op Res ε α).Ensures C E R := h

theorem ensures_throw {e : ε} (h : E e) : (throw e : Prog Op Res ε α).Ensures C E R := h

theorem ensures_call {op : Op} (h : C op) :
    (perform op : Prog Op Res ε (Res op)).Ensures C E fun _ => True := by
  refine ⟨h, fun r hr => ?_⟩
  cases r with
  | ok a => exact trivial
  | error e => exact hr e rfl

theorem Ensures.bind {p : Prog Op Res ε α} {f : α → Prog Op Res ε β} {R' : β → Prop} (hp : p.Ensures C E R)
    (hf : ∀ a, R a → (f a).Ensures C E R') : (p >>= f).Ensures C E R' := by
  refine wp_bind.mpr (wp_mono hp fun r g hr => ?_)
  cases r with
  | ok a => exact hf a hr
  | error e => exact hr

theorem Ensures.mono {C' : Op → Prop} {p : Prog Op Res ε α} (hp : p.Ensures C E R) (h : ∀ op, C op → C' op) :
    p.Ensures C' E R := by
  unfold Ensures at hp ⊢
  induction p with
  | done r => exact hp
  | step op k ih => exact ⟨h op hp.1, fun r hr => ih r (hp.2 r hr)⟩

/-- What each of the calls keeps, the program keeps. -/
theorem Ensures.keeps {p : Prog Op Res ε α} {I : G → Prop} (hp : p.Ensures C E R)
    (h : ∀ g op, C op → I g → P.pre g op ∧ ∀ r, P.allowed g ⟨op, r⟩ →
      I (P.after g ⟨op, r⟩) ∧ ∀ error, r = .error error → E error) (hg : I g) :
    p.wp P (fun r g' => I g' ∧ match r with
      | .ok a => R a
      | .error e => E e) g := by
  unfold Ensures at hp
  induction p generalizing g with
  | done r => exact ⟨hg, hp⟩
  | step op k ih =>
    obtain ⟨hpre, hkeep⟩ := h g op hp.1 hg
    exact ⟨hpre, fun r hr => ih r (hp.2 r (hkeep r hr).2) (hkeep r hr).1⟩

end Ensures

variable (P) in
/-- `p.RunsTo P g r g'`: with outcomes that are allowed where they come, `p` ends with `r` and leaves `g'`. -/
inductive RunsTo : Prog Op Res ε α → G → Except ε α → G → Prop where
  | done {r g} : RunsTo (done r) g r g
  | step {op k g o r g'} : P.allowed g ⟨op, o⟩ → RunsTo (k o) (P.after g ⟨op, o⟩) r g' →
    RunsTo (step op k) g r g'

theorem RunsTo.wp {p : Prog Op Res ε α} {r : Except ε α} {g' : G} (hrun : p.RunsTo P g r g')
    (h : p.wp P Q g) : Q r g' := by
  induction hrun with
  | done => exact h
  | step hallowed _ ih => exact ih (h.2 _ hallowed)

variable (P) in
/-- With outcomes that are allowed, the program can end so. -/
def MayEnd (p : Prog Op Res ε α) (Q : Except ε α → G → Prop) (g : G) : Prop := ∃ r g', p.RunsTo P g r g' ∧ Q r g'

theorem MayEnd.done {r : Except ε α} (h : Q r g) : (done r : Prog Op Res ε α).MayEnd P Q g := ⟨r, g, .done, h⟩

theorem MayEnd.step {op : Op} {k : Except ε (Res op) → Prog Op Res ε α} {o : Except ε (Res op)}
    (hallowed : P.allowed g ⟨op, o⟩) (h : (k o).MayEnd P Q (P.after g ⟨op, o⟩)) : (step op k).MayEnd P Q g := by
  obtain ⟨r, g', hrun, hQ⟩ := h
  exact ⟨r, g', .step hallowed hrun, hQ⟩

theorem runsTo_run {handle : (op : Op) → G → Except ε (Res op) × G}
    (h : ∀ op g, P.allowed g ⟨op, (handle op g).1⟩ ∧ P.after g ⟨op, (handle op g).1⟩ = (handle op g).2)
    (p : Prog Op Res ε α) (g : G) : p.RunsTo P g (p.run handle g).1 (p.run handle g).2 := by
  induction p generalizing g with
  | done r => exact .done
  | step op k ih =>
    refine .step (h op g).1 ?_
    rw [(h op g).2]
    exact ih _ _

/-- Along a run with outcomes that are allowed, the weakest precondition is kept and every call
was made in a state that allows it. -/
theorem Steps.wp {p q : Prog Op Res ε α} {es : List (Event Op Res ε)} (hs : p.Steps es q)
    (h : p.wp P Q g) (hes : ∀ e ∈ es, ∀ g, P.allowed g e) :
    q.wp P Q (es.foldl P.after g) ∧
      ∀ es₁ e es₂, es = es₁ ++ e :: es₂ → P.pre (es₁.foldl P.after g) e.op := by
  induction hs generalizing g with
  | nil => exact ⟨h, fun es₁ e es₂ hes => by simp at hes⟩
  | @cons op k r es q hs ih =>
    obtain ⟨hq, hpre⟩ := ih (h.2 r (hes _ (by simp) _)) fun e he => hes e (by simp [he])
    refine ⟨hq, fun es₁ e es₂ hsplit => ?_⟩
    cases es₁ with
    | nil =>
      obtain ⟨rfl, -⟩ := List.cons.inj hsplit
      exact h.1
    | cons e₁ es₁ =>
      obtain ⟨rfl, htail⟩ := List.cons.inj hsplit
      exact hpre es₁ e es₂ htail

theorem Steps.calls {C : Op → Prop} {E : ε → Prop} {p q : Prog Op Res ε α} {es : List (Event Op Res ε)}
    {R : α → Prop} (hs : p.Steps es q) (h : p.Ensures C E R)
    (hes : ∀ e ∈ es, ∀ error, e.outcome = .error error → E error) {e : Event Op Res ε} (he : e ∈ es) :
    C e.op := by
  obtain ⟨before, after, hsplit⟩ := List.append_of_mem he
  exact (hs.wp h fun e he _ => hes e he).2 before e after hsplit

/-- An invariant that every call keeps where it is made holds all along a run. -/
theorem Steps.invariant {p q : Prog Op Res ε α} {es : List (Event Op Res ε)} {I : G → Prop}
    (hs : p.Steps es q) (h : p.wp P Q g) (hes : ∀ e ∈ es, ∀ g, P.allowed g e)
    (hstep : ∀ {g e}, P.pre g e.op → P.allowed g e → I g → I (P.after g e)) (hI : I g) :
    q.wp P Q (es.foldl P.after g) ∧ I (es.foldl P.after g) := by
  induction hs generalizing g with
  | nil => exact ⟨h, hI⟩
  | @cons op k r es q hs ih =>
    have hr : P.allowed g ⟨op, r⟩ := hes _ (by simp) g
    exact ih (h.2 r hr) (fun e he => hes e (by simp [he])) (hstep h.1 hr hI)

end Prog

/-! ## Local variables -/

/-- A program that reads and writes local variables `σ`. Its exceptions are outcomes of the inner
program, so that the variables survive them. -/
def Local (σ Op : Type) (Res : Op → Type) (ε α : Type) : Type :=
  σ → Prog Op Res ε (Except ε α × σ)

namespace Local

def done (r : Except ε α) : Local σ Op Res ε α := fun s => .done (.ok (r, s))

def andThen (c : Local σ Op Res ε α) (f : Except ε α → Local σ Op Res ε β) :
    Local σ Op Res ε β :=
  fun s => (c s).bind fun x => f x.1 x.2

/-- A program that does not see the variables. -/
def ofProg (p : Prog Op Res ε α) : Local σ Op Res ε α :=
  fun s => p.andThen fun r => .done (.ok (r, s))

def read : Local σ Op Res ε σ := fun s => .done (.ok (.ok s, s))

def write (f : σ → σ) : Local σ Op Res ε Unit := fun s => .done (.ok (.ok (), f s))

def tryCatch (c : Local σ Op Res ε α) (h : ε → Local σ Op Res ε α) : Local σ Op Res ε α :=
  c.andThen fun
    | .ok a => done (.ok a)
    | .error e => h e

def tryFinally (c : Local σ Op Res ε α) (d : Local σ Op Res ε Unit) : Local σ Op Res ε α :=
  c.andThen fun r => d.andThen fun
    | .ok () => done r
    | .error e => done (.error e)

instance : Monad (Local σ Op Res ε) where
  pure a := done (.ok a)
  bind c f := c.andThen fun
    | .ok a => f a
    | .error e => done (.error e)

instance : MonadExceptOf ε (Local σ Op Res ε) where
  throw e := done (.error e)
  tryCatch := tryCatch

instance : MonadLift (Prog Op Res ε) (Local σ Op Res ε) := ⟨ofProg⟩

@[simp] theorem liftM_eq_ofProg (p : Prog Op Res ε α) :
    (liftM p : Local σ Op Res ε α) = ofProg p := rfl

/-- The program, with the variables forgotten at its end. -/
def run (c : Local σ Op Res ε α) (s : σ) : Prog Op Res ε α := (c s).bind fun x => .done x.1

variable (P : Protocol Op Res ε G)

def wp (c : Local σ Op Res ε α) (Q : Except ε α → σ → G → Prop) (s : σ) (g : G) : Prop :=
  (c s).wp P (fun r g' => ∃ a s', r = .ok (a, s') ∧ Q a s' g') g

variable {P} {Q Q' : Except ε α → σ → G → Prop} {s : σ} {g : G}

theorem wp_mono {c : Local σ Op Res ε α} (h : c.wp P Q s g)
    (hQ : ∀ r s' g', Q r s' g' → Q' r s' g') : c.wp P Q' s g :=
  Prog.wp_mono h fun _ _ ⟨a, s', hr, hq⟩ => ⟨a, s', hr, hQ _ _ _ hq⟩

@[simp] theorem wp_done {r : Except ε α} :
    (done r : Local σ Op Res ε α).wp P Q s g ↔ Q r s g := by
  constructor
  · rintro ⟨_, _, h, hq⟩
    cases h
    exact hq
  · exact fun h => ⟨_, _, rfl, h⟩

theorem wp_andThen {c : Local σ Op Res ε α} {f : Except ε α → Local σ Op Res ε β}
    {Q : Except ε β → σ → G → Prop} :
    (c.andThen f).wp P Q s g ↔ c.wp P (fun r s' g' => (f r).wp P Q s' g') s g := by
  unfold wp andThen Prog.bind
  rw [Prog.wp_andThen]
  refine ⟨fun h => Prog.wp_mono h fun r g' hr => ?_, fun h => Prog.wp_mono h fun r g' hr => ?_⟩
  · cases r with
    | ok x => exact ⟨x.1, x.2, rfl, hr⟩
    | error e =>
      obtain ⟨_, _, h, _⟩ := hr
      cases h
  · obtain ⟨a, s', rfl, hr⟩ := hr
    exact hr

@[simp] theorem wp_pure {a : α} :
    (pure a : Local σ Op Res ε α).wp P Q s g ↔ Q (.ok a) s g := wp_done

@[simp] theorem wp_throw {e : ε} :
    (throw e : Local σ Op Res ε α).wp P Q s g ↔ Q (.error e) s g := wp_done

@[simp] theorem wp_bind {c : Local σ Op Res ε α} {f : α → Local σ Op Res ε β}
    {Q : Except ε β → σ → G → Prop} :
    (c >>= f).wp P Q s g ↔ c.wp P (fun r s' g' => match r with
      | .ok a => (f a).wp P Q s' g'
      | .error e => Q (.error e) s' g') s g := by
  refine wp_andThen.trans (iff_of_eq (congrArg (fun Q => c.wp P Q s g) ?_))
  funext r s' g'
  cases r with
  | ok a => rfl
  | error e => exact propext wp_done

@[simp] theorem wp_tryCatch {c : Local σ Op Res ε α} {h : ε → Local σ Op Res ε α} :
    (c.tryCatch h).wp P Q s g ↔ c.wp P (fun r s' g' => match r with
      | .ok a => Q (.ok a) s' g'
      | .error e => (h e).wp P Q s' g') s g := by
  refine wp_andThen.trans (iff_of_eq (congrArg (fun Q => c.wp P Q s g) ?_))
  funext r s' g'
  cases r with
  | ok a => exact propext wp_done
  | error e => rfl

@[simp] theorem wp_tryFinally {c : Local σ Op Res ε α} {d : Local σ Op Res ε Unit} :
    (c.tryFinally d).wp P Q s g ↔
      c.wp P (fun r s' g' => d.wp P (fun
        | .ok () => Q r
        | .error e => Q (.error e)) s' g') s g := by
  refine wp_andThen.trans (iff_of_eq (congrArg (fun Q => c.wp P Q s g) ?_))
  funext r s' g'
  refine propext (wp_andThen.trans (iff_of_eq (congrArg (fun Q => d.wp P Q s' g') ?_)))
  funext r' s'' g''
  cases r' with
  | ok a => exact propext wp_done
  | error e => exact propext wp_done

@[simp] theorem wp_ofProg {p : Prog Op Res ε α} :
    (ofProg p : Local σ Op Res ε α).wp P Q s g ↔ p.wp P (fun r g' => Q r s g') g := by
  unfold wp ofProg
  rw [Prog.wp_andThen]
  refine iff_of_eq (congrArg (fun Q => p.wp P Q g) ?_)
  funext r g'
  refine propext ⟨?_, fun h => ⟨_, _, rfl, h⟩⟩
  rintro ⟨_, _, h, hq⟩
  cases h
  exact hq

@[simp] theorem wp_read {Q : Except ε σ → σ → G → Prop} :
    (read : Local σ Op Res ε σ).wp P Q s g ↔ Q (.ok s) s g := by
  refine ⟨?_, fun h => ⟨_, _, rfl, h⟩⟩
  rintro ⟨_, _, h, hq⟩
  cases h
  exact hq

@[simp] theorem wp_write {f : σ → σ} {Q : Except ε Unit → σ → G → Prop} :
    (write f : Local σ Op Res ε Unit).wp P Q s g ↔ Q (.ok ()) (f s) g := by
  refine ⟨?_, fun h => ⟨_, _, rfl, h⟩⟩
  rintro ⟨_, _, h, hq⟩
  cases h
  exact hq

theorem wp_read_bind {f : σ → Local σ Op Res ε β} {Q : Except ε β → σ → G → Prop} :
    (read >>= f).wp P Q s g ↔ (f s).wp P Q s g := wp_bind.trans wp_read

theorem wp_write_bind {w : σ → σ} {f : Unit → Local σ Op Res ε β}
    {Q : Except ε β → σ → G → Prop} :
    (write w >>= f).wp P Q s g ↔ (f ()).wp P Q (w s) g := wp_bind.trans wp_write

theorem wp_perform_bind {op : Op} {f : Res op → Local σ Op Res ε β}
    {Q : Except ε β → σ → G → Prop} :
    ((liftM (Prog.perform op : Prog Op Res ε (Res op)) : Local σ Op Res ε (Res op)) >>= f).wp P Q s g ↔
      P.pre g op ∧ ∀ r, P.allowed g ⟨op, r⟩ → match r with
        | .ok a => (f a).wp P Q s (P.after g ⟨op, r⟩)
        | .error e => Q (.error e) s (P.after g ⟨op, r⟩) := by
  rw [wp_bind, liftM_eq_ofProg, wp_ofProg, Prog.wp_perform]
  refine and_congr_right fun _ => forall₂_congr fun r _ => ?_
  cases r with
  | ok a => rfl
  | error e => rfl

/-- What a round of a `while True` loop leaves. -/
def roundPost (I : σ → G → Prop) (Q : Except ε β → σ → G → Prop) :
    Except ε (Option β) → σ → G → Prop
  | .ok none => I
  | .ok (some value) => Q (.ok value)
  | .error e => Q (.error e)

/-- A `while True` loop: `I` holds at the start of each round. -/
theorem wp_whileTrue {I : σ → G → Prop} {Q : Except ε β → σ → G → Prop}
    {more : Local σ Op Res ε β} {body : Local σ Op Res ε (Option β)} (rounds : ℕ)
    (hmore : ∀ s g, I s g → more.wp P Q s g)
    (hbody : ∀ s g, I s g → body.wp P (roundPost I Q) s g) (h : I s g) :
    (whileTrue more body rounds).wp P Q s g := by
  induction rounds generalizing s g with
  | zero => exact hmore s g h
  | succ rounds ih =>
    refine wp_bind.mpr (wp_mono (hbody s g h) fun r s' g' h' => ?_)
    match r, h' with
    | .ok none, h' => exact ih h'
    | .ok (some value), h' => exact wp_pure.mpr h'
    | .error e, h' => exact h'

/-- What a round of a `for` loop leaves. -/
def flowPost (I : σ → G → Prop) (Q : Except ε (Option β) → σ → G → Prop) :
    Except ε (Flow β) → σ → G → Prop
  | .ok .next => I
  | .ok .stop => Q (.ok none)
  | .ok (.ret value) => Q (.ok (some value))
  | .error e => Q (.error e)

/-- A `for` loop: `I` holds of the elements that are left at the start of each round. -/
theorem wp_forEach {I : List α → σ → G → Prop} {Q : Except ε (Option β) → σ → G → Prop}
    {body : α → Local σ Op Res ε (Flow β)} {xs : List α} (hnil : ∀ s g, I [] s g → Q (.ok none) s g)
    (hbody : ∀ x xs s g, I (x :: xs) s g → (body x).wp P (flowPost (I xs) Q) s g) (h : I xs s g) :
    (forEach body xs).wp P Q s g := by
  induction xs generalizing s g with
  | nil => exact wp_pure.mpr (hnil s g h)
  | cons x xs ih =>
    refine wp_bind.mpr (wp_mono (hbody x xs s g h) fun r s' g' h' => ?_)
    match r, h' with
    | .ok .next, h' => exact ih h'
    | .ok .stop, h' => exact wp_pure.mpr h'
    | .ok (.ret value), h' => exact wp_pure.mpr h'
    | .error e, h' => exact h'

variable (P) in
/-- The program keeps the invariant `I` of the variables and the ghost value, however it ends. -/
def Stays (I : σ → G → Prop) (c : Local σ Op Res ε α) : Prop :=
  ∀ s g, I s g → c.wp P (fun _ s' g' => I s' g') s g

section Stays

variable {I : σ → G → Prop}

theorem stays_pure (a : α) : (pure a : Local σ Op Res ε α).Stays P I := fun _ _ h => wp_pure.mpr h

theorem stays_throw (e : ε) : (throw e : Local σ Op Res ε α).Stays P I :=
  fun _ _ h => wp_throw.mpr h

theorem stays_read : (read : Local σ Op Res ε σ).Stays P I := fun _ _ h => wp_read.mpr h

theorem stays_write {w : σ → σ} (hw : ∀ s g, I s g → I (w s) g) :
    (write w : Local σ Op Res ε Unit).Stays P I := fun s g h => wp_write.mpr (hw s g h)

theorem stays_write_ghost {I : G → Prop} (w : σ → σ) :
    (write w : Local σ Op Res ε Unit).Stays P fun _ => I := stays_write fun _ _ h => h

theorem stays_ofProg {p : Prog Op Res ε α} (hp : ∀ s, p.Stays P (I s)) :
    (ofProg p : Local σ Op Res ε α).Stays P I := fun s g h => wp_ofProg.mpr (hp s g h)

theorem Stays.bind {c : Local σ Op Res ε α} {k : α → Local σ Op Res ε β} (hc : c.Stays P I)
    (hk : ∀ a, (k a).Stays P I) : (c >>= k).Stays P I := by
  refine fun s g h => wp_bind.mpr (wp_mono (hc s g h) fun r s' g' h' => ?_)
  cases r with
  | ok a => exact hk a _ _ h'
  | error e => exact h'

theorem Stays.tryCatch {c : Local σ Op Res ε α} {d : ε → Local σ Op Res ε α} (hc : c.Stays P I)
    (hd : ∀ e, (d e).Stays P I) : (c.tryCatch d).Stays P I := by
  refine fun s g h => wp_tryCatch.mpr (wp_mono (hc s g h) fun r s' g' h' => ?_)
  cases r with
  | ok a => exact h'
  | error e => exact hd e _ _ h'

theorem Stays.tryFinally {c : Local σ Op Res ε α} {d : Local σ Op Res ε Unit} (hc : c.Stays P I)
    (hd : d.Stays P I) : (c.tryFinally d).Stays P I := by
  refine fun s g h => wp_tryFinally.mpr (wp_mono (hc s g h) fun r s' g' h' => ?_)
  refine wp_mono (hd _ _ h') fun r' s'' g'' h'' => ?_
  cases r' with
  | ok a => exact h''
  | error e => exact h''

theorem Stays.forEach {body : α → Local σ Op Res ε (Flow β)} {xs : List α}
    (hbody : ∀ x ∈ xs, (body x).Stays P I) : (forEach body xs).Stays P I := by
  induction xs with
  | nil => exact stays_pure none
  | cons x xs ih =>
    refine (hbody x (by simp)).bind fun r => ?_
    cases r with
    | next => exact ih fun y hy => hbody y (by simp [hy])
    | stop => exact stays_pure none
    | ret value => exact stays_pure (some value)

theorem Stays.whileTrue {more : Local σ Op Res ε β} {body : Local σ Op Res ε (Option β)}
    (rounds : ℕ) (hmore : more.Stays P I) (hbody : body.Stays P I) :
    (whileTrue more body rounds).Stays P I := by
  induction rounds with
  | zero => exact hmore
  | succ rounds ih =>
    refine hbody.bind fun r => ?_
    cases r with
    | none => exact ih
    | some value => exact stays_pure value

end Stays

/-- What a program leaves that keeps `I` when it returns and ensures `E` when it raises. -/
def keepPost (I : σ → G → Prop) (E : ε → σ → G → Prop) : Except ε α → σ → G → Prop
  | .ok _ => I
  | .error e => E e

variable (P) in
/-- The program keeps `I` when it returns, and ensures `E` when it raises. -/
def Keeps (I : σ → G → Prop) (E : ε → σ → G → Prop) (c : Local σ Op Res ε α) : Prop :=
  ∀ s g, I s g → c.wp P (keepPost I E) s g

section Keeps

variable {I : σ → G → Prop} {E : ε → σ → G → Prop}

theorem keeps_pure (a : α) : (pure a : Local σ Op Res ε α).Keeps P I E :=
  fun _ _ h => wp_pure.mpr h

theorem keeps_write {w : σ → σ} (hw : ∀ s g, I s g → I (w s) g) :
    (write w : Local σ Op Res ε Unit).Keeps P I E := fun s g h => wp_write.mpr (hw s g h)

theorem keeps_read : (read : Local σ Op Res ε σ).Keeps P I E := fun _ _ h => wp_read.mpr h

/-- A part that keeps `I`, before one that needs it. -/
theorem Keeps.wp_bind {c : Local σ Op Res ε α} {k : α → Local σ Op Res ε β}
    {Q : Except ε β → σ → G → Prop} (hc : c.Keeps P I E) (h : I s g)
    (herror : ∀ e s g, E e s g → Q (.error e) s g) (hk : ∀ a s g, I s g → (k a).wp P Q s g) :
    (c >>= k).wp P Q s g := by
  refine Local.wp_bind.mpr (wp_mono (hc s g h) fun r s' g' h' => ?_)
  cases r with
  | ok a => exact hk a s' g' h'
  | error e => exact herror e s' g' h'

theorem Keeps.bind {c : Local σ Op Res ε α} {k : α → Local σ Op Res ε β} (hc : c.Keeps P I E)
    (hk : ∀ a, (k a).Keeps P I E) : (c >>= k).Keeps P I E :=
  fun _ _ h => hc.wp_bind h (fun _ _ _ h => h) fun a s g h => hk a s g h

theorem Keeps.stays {c : Local σ Op Res ε α} (hc : c.Keeps P I fun _ => I) : c.Stays P I := by
  refine fun s g h => wp_mono (hc s g h) fun r s' g' h' => ?_
  cases r with
  | ok a => exact h'
  | error e => exact h'

theorem Stays.keeps {c : Local σ Op Res ε α} (hc : c.Stays P I) : c.Keeps P I fun _ => I := by
  refine fun s g h => wp_mono (hc s g h) fun r s' g' h' => ?_
  cases r with
  | ok a => exact h'
  | error e => exact h'

end Keeps

theorem wp_run {c : Local σ Op Res ε α} {Q : Except ε α → G → Prop}
    (h : c.wp P (fun r _ g' => Q r g') s g) : (c.run s).wp P Q g := by
  unfold run Prog.bind
  refine Prog.wp_andThen.mpr (Prog.wp_mono h fun r g' hr => ?_)
  obtain ⟨a, s', rfl, hq⟩ := hr
  exact hq

end Local

/-! ## Worlds that answer every call -/

variable {handle : (op : Op) → γ → Except ε (Res op) × γ} {w w' : γ}

variable (handle) in
/-- The world, which is its own ghost value, gives the answers of `handle`. -/
def Protocol.ofHandler : Protocol Op Res ε γ where
  pre _ _ := True
  allowed w e := e.outcome = (handle e.op w).1
  after w e := (handle e.op w).2

/-- A postcondition over such a world is one of the run in it. -/
theorem Prog.wp_ofHandler {p : Prog Op Res ε α} {Q : Except ε α → γ → Prop} :
    p.wp (.ofHandler handle) Q w ↔ Q (p.run handle w).1 (p.run handle w).2 := by
  induction p generalizing w with
  | done r => rfl
  | step op k ih =>
    constructor
    · intro h
      exact (ih _).mp (h.2 _ rfl)
    · intro h
      refine ⟨trivial, fun r hr => ?_⟩
      obtain rfl : r = (handle op w).1 := hr
      exact (ih _).mpr h

namespace Local

theorem wp_answered {op : Op} {r : Except ε (Res op)} {Q : Except ε (Res op) → σ → γ → Prop} {s : σ}
    (h : handle op w = (r, w')) :
    (liftM (Prog.perform op : Prog Op Res ε (Res op)) : Local σ Op Res ε (Res op)).wp
      (.ofHandler handle) Q s w ↔ Q r s w' := by
  rw [liftM_eq_ofProg, wp_ofProg, Prog.wp_ofHandler]
  simp [Prog.perform, h]

theorem wp_answered_bind {op : Op} {f : Res op → Local σ Op Res ε β} {a : Res op}
    {Q : Except ε β → σ → γ → Prop} {s : σ} (h : handle op w = (.ok a, w')) :
    ((liftM (Prog.perform op : Prog Op Res ε (Res op)) : Local σ Op Res ε (Res op)) >>= f).wp
      (.ofHandler handle) Q s w ↔ (f a).wp (.ofHandler handle) Q s w' := by
  rw [wp_bind, wp_answered h]

end Local

end Effects
