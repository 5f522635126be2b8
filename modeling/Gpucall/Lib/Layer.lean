import Gpucall.Lib.Wp

/-! Complete runs of one program, and programs in layers: a call of the upper layer is a program of
the lower one, and a run of it is one step of the upper world. -/

namespace Effects

variable {Op Op' : Type} {Res : Op → Type} {Res' : Op' → Type} {ε α β σ G : Type}

namespace Prog

/-- `p.Exec W w es r w'`: in the world `w`, `p` makes the calls `es`, ends with `r` and leaves
`w'`. -/
inductive Exec (W : σ → Event Op Res ε → σ → Prop) : Prog Op Res ε α → σ → List (Event Op Res ε) →
    Except ε α → σ → Prop where
  | done {r w} : Exec W (done r) w [] r w
  | step {op k o w w' es r w''} : W w ⟨op, o⟩ w' → Exec W (k o) w' es r w'' →
      Exec W (step op k) w (⟨op, o⟩ :: es) r w''

section Exec

variable {W : σ → Event Op Res ε → σ → Prop} {P : Protocol Op Res ε G} {p : Prog Op Res ε α}
  {w w' : σ} {g : G} {es : List (Event Op Res ε)} {r : Except ε α}

/-- If the ghost value follows the world, a complete run meets the postcondition. -/
theorem Exec.wp {R : σ → G → Prop} {Q : Except ε α → G → Prop} (h : p.Exec W w es r w')
    (hstep : ∀ {w e w' g}, P.pre g e.op → W w e w' → R w g →
      P.allowed g e ∧ R w' (P.after g e)) (hR : R w g) (hp : p.wp P Q g) : Q r (es.foldl P.after g) ∧ R w' (es.foldl P.after g) := by
  induction h generalizing g with
  | done => exact ⟨hp, hR⟩
  | step hw _ ih =>
    obtain ⟨hallowed, hR'⟩ := hstep hp.1 hw hR
    exact ih hR' (hp.2 _ hallowed)

theorem Exec.steps (h : p.Exec W w es r w') : p.Steps es (.done r) := by
  induction h with
  | done => exact .nil
  | step _ _ ih => exact .cons ih

theorem Exec.forall {φ : Event Op Res ε → Prop} (h : p.Exec W w es r w')
    (hW : ∀ {w e w'}, W w e w' → φ e) : ∀ e ∈ es, φ e := by
  induction h with
  | done => simp
  | step hw _ ih =>
    intro e he
    obtain rfl | he := List.mem_cons.mp he
    · exact hW hw
    · exact ih e he

theorem Exec.of_perform {op : Op} {o : Except ε (Res op)} (h : (perform op).Exec W w es o w') :
    W w ⟨op, o⟩ w' := by
  obtain _ | ⟨hw, hdone⟩ := h
  obtain _ | _ := hdone
  exact hw

theorem Exec.andThen {f : Except ε α → Prog Op Res ε β} {es' : List (Event Op Res ε)}
    {r' : Except ε β} {w'' : σ} (h : p.Exec W w es r w') (h' : (f r).Exec W w' es' r' w'') :
    (p.andThen f).Exec W w (es ++ es') r' w'' := by
  induction h with
  | done => exact h'
  | step hw _ ih => exact .step hw (ih h')

theorem Exec.andThen_inv {f : Except ε α → Prog Op Res ε β} {r' : Except ε β} {w'' : σ}
    (h : (p.andThen f).Exec W w es r' w'') :
    ∃ es₁ r w' es₂, p.Exec W w es₁ r w' ∧ (f r).Exec W w' es₂ r' w'' := by
  induction p generalizing w es with
  | done r => exact ⟨[], r, w, es, .done, h⟩
  | step op k ih =>
    obtain _ | ⟨hw, hrest⟩ := h
    obtain ⟨es₁, r, w', es₂, h₁, h₂⟩ := ih _ hrest
    exact ⟨_, r, w', es₂, .step hw h₁, h₂⟩

/-- The run of a program by answers to its calls, if every call has one. -/
def answer (handle : (op : Op) → σ → Option (Except ε (Res op) × σ)) :
    Prog Op Res ε α → σ → Option (List (Event Op Res ε) × Except ε α × σ)
  | done r, w => some ([], r, w)
  | step op k, w =>
    match handle op w with
    | none => none
    | some (o, w') => ((k o).answer handle w').map fun x => (⟨op, o⟩ :: x.1, x.2)

theorem Exec.of_answer {handle : (op : Op) → σ → Option (Except ε (Res op) × σ)}
    (hW : ∀ {op w r w'}, handle op w = some (r, w') → W w ⟨op, r⟩ w')
    (h : p.answer handle w = some (es, r, w')) : p.Exec W w es r w' := by
  induction p generalizing w es with
  | done r =>
    cases h
    exact .done
  | step op k ih =>
    unfold answer at h
    split at h
    · cases h
    · rename_i o w₁ ho
      obtain ⟨⟨es₁, r₁, w₂⟩, hrest, hx⟩ := Option.map_eq_some_iff.mp h
      cases hx
      exact .step (hW ho) (ih o hrest)

end Exec

/-! ## Layers -/

/-- Replace every call by a program of the lower layer. -/
def interp (h : (op : Op) → Prog Op' Res' ε (Res op)) : Prog Op Res ε α → Prog Op' Res' ε α
  | done r => done r
  | step op k => (h op).andThen fun r => (k r).interp h

/-- One step of the upper world is a complete run of the call's program in the lower one. -/
def layer (W : σ → Event Op' Res' ε → σ → Prop) (h : (op : Op) → Prog Op' Res' ε (Res op)) (w : σ)
    (e : Event Op Res ε) (w' : σ) : Prop :=
  ∃ es, (h e.op).Exec W w es e.outcome w'

section interp

variable {h : (op : Op) → Prog Op' Res' ε (Res op)} {P : Protocol Op' Res' ε G}
  {W : σ → Event Op' Res' ε → σ → Prop} {p : Prog Op Res ε α} {w w' : σ} {g : G}

theorem interp_andThen (f : Except ε α → Prog Op Res ε β) :
    (p.andThen f).interp h = (p.interp h).andThen fun r => (f r).interp h := by
  induction p with
  | done r => rfl
  | step op k ih => simp only [step_andThen, interp, andThen_assoc, ih]

theorem wp_interp_perform {op : Op} {Q : Except ε (Res op) → G → Prop} :
    ((perform op : Prog Op Res ε (Res op)).interp h).wp P Q g ↔ (h op).wp P Q g := by
  unfold perform interp
  rw [wp_andThen]
  rfl

theorem wp_interp_bind {f : α → Prog Op Res ε β} {Q : Except ε β → G → Prop} :
    ((p >>= f).interp h).wp P Q g ↔ (p.interp h).wp P (fun r g' => match r with
      | .ok a => ((f a).interp h).wp P Q g'
      | .error e => Q (.error e) g') g := by
  rw [show (p >>= f) = p.andThen _ from rfl, interp_andThen, wp_andThen]
  refine iff_of_eq (congrArg (fun Q => (p.interp h).wp P Q g) ?_)
  funext r g'
  cases r with
  | ok a => rfl
  | error e => rfl

theorem wp_interp_tryCatch {f : ε → Prog Op Res ε α} {Q : Except ε α → G → Prop} :
    ((p.tryCatch f).interp h).wp P Q g ↔ (p.interp h).wp P (fun r g' => match r with
      | .ok a => Q (.ok a) g'
      | .error e => ((f e).interp h).wp P Q g') g := by
  rw [Prog.tryCatch, interp_andThen, wp_andThen]
  refine iff_of_eq (congrArg (fun Q => (p.interp h).wp P Q g) ?_)
  funext r g'
  cases r with
  | ok a => rfl
  | error e => rfl

/-- An invariant that each of the calls keeps in the lower layer, the program keeps there. -/
theorem Stays.interp {C : Op → Prop} {I : G → Prop} (hp : p.Stays (.calls C fun _ => True) fun _ => True)
    (hh : ∀ op, C op → (h op).Stays P I) : (p.interp h).Stays P I := by
  have hcalls : p.wp (.calls C fun _ => True) (fun _ _ => True) () := hp () trivial
  clear hp
  induction p with
  | done r => exact stays_done r
  | step op k ih =>
    intro g hg
    rw [Prog.interp, wp_andThen]
    exact wp_mono (hh op hcalls.1 g hg) fun r g' h' => ih r (hcalls.2 r fun _ _ => trivial) g' h'

/-- The runs of a program in the upper world are its runs in the lower one. -/
theorem exec_interp {r : Except ε α} :
    (∃ es, (p.interp h).Exec W w es r w') ↔ ∃ es, p.Exec (layer W h) w es r w' := by
  constructor
  · rintro ⟨es, hexec⟩
    induction p generalizing w es with
    | done r =>
      obtain _ | _ := hexec
      exact ⟨[], .done⟩
    | step op k ih =>
      obtain ⟨es₁, o, w₁, es₂, h₁, h₂⟩ := Exec.andThen_inv hexec
      obtain ⟨es', h'⟩ := ih o es₂ h₂
      exact ⟨⟨op, o⟩ :: es', .step ⟨es₁, h₁⟩ h'⟩
  · rintro ⟨es, hexec⟩
    induction hexec with
    | done => exact ⟨[], .done⟩
    | step hw _ ih =>
      obtain ⟨es₁, h₁⟩ := hw
      obtain ⟨es₂, h₂⟩ := ih
      exact ⟨es₁ ++ es₂, h₁.andThen h₂⟩

end interp

end Prog

end Effects
