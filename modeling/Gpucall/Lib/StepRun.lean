import Mathlib.Data.List.Basic

/-! Steps that are taken one after another on a state until one of them fails. What a failed step has done
to the state stays. -/

namespace StepRun

variable {σ ι ε : Type} (act : ι → σ → σ × Except ε Unit)

def run : List ι → σ → σ × Except ε Unit
  | [], s => (s, .ok ())
  | step :: steps, s =>
    match act step s with
    | (s, .ok ()) => run steps s
    | (s, .error e) => (s, .error e)

variable {act} {step : ι} {steps : List ι} {s s' : σ} {e : ε}

theorem run_cons_ok {next : σ} (h : act step s = (next, .ok ())) :
    run act (step :: steps) s = run act steps next := by
  rw [run, h]

theorem run_cons_error (h : act step s = (s', .error e)) :
    run act (step :: steps) s = (s', .error e) := by
  rw [run, h]

/-- The rule for runs that come to their end: what each step that succeeds keeps, relative to the steps
taken so far. -/
theorem run_ok_induction {motive : List ι → σ → Prop} (hnil : motive [] s)
    (hstep : ∀ before step next next', before ++ [step] <+: steps → motive before next →
      act step next = (next', .ok ()) → motive (before ++ [step]) next')
    (h : run act steps s = (s', .ok ())) : motive steps s' := by
  induction steps generalizing s motive with
  | nil =>
    obtain rfl : s = s' := congrArg Prod.fst h
    exact hnil
  | cons step steps ih =>
    rw [run] at h
    split at h
    · rename_i next hact
      have hfirst : motive [step] next :=
        hstep [] step s next (List.cons_prefix_cons.mpr ⟨rfl, List.nil_prefix⟩) hnil hact
      refine ih (motive := fun before => motive (step :: before)) hfirst ?_ h
      intro before other mid mid' hprefix hmid hother
      exact hstep (step :: before) other mid mid' (List.cons_prefix_cons.mpr ⟨rfl, hprefix⟩) hmid hother
    · cases congrArg Prod.snd h

/-- The rule for all runs: what each step keeps that is taken, whether it succeeds or not. -/
theorem run_induction {motive : σ → Prop} (hstart : motive s)
    (hstep : ∀ before step next, before ++ [step] <+: steps → run act before s = (next, .ok ()) →
      motive next → motive (act step next).1) : motive (run act steps s).1 := by
  induction steps generalizing s with
  | nil => exact hstart
  | cons step steps ih =>
    have hfirst : motive (act step s).1 :=
      hstep [] step s (List.cons_prefix_cons.mpr ⟨rfl, List.nil_prefix⟩) rfl hstart
    rcases hact : act step s with ⟨next, _ | _⟩
    · rw [run_cons_error hact]
      rwa [hact] at hfirst
    · rw [run_cons_ok hact]
      rw [hact] at hfirst
      refine ih hfirst fun before other mid hbefore hmid hmotive => ?_
      refine hstep (step :: before) other mid (List.cons_prefix_cons.mpr ⟨rfl, hbefore⟩) ?_ hmotive
      rw [run_cons_ok hact, hmid]

/-- A run fails where one of its steps does, after steps that succeed. -/
theorem run_eq_error_iff : run act steps s = (s', .error e) ↔
    ∃ before step next, before ++ [step] <+: steps ∧ run act before s = (next, .ok ()) ∧
      act step next = (s', .error e) := by
  induction steps generalizing s with
  | nil =>
    constructor
    · intro h
      cases congrArg Prod.snd h
    · rintro ⟨before, step, _, hprefix, -, -⟩
      cases List.append_eq_nil_iff.mp (List.prefix_nil.mp hprefix) |>.2
  | cons first steps ih =>
    cases hact : act first s with
    | mk next result =>
      cases result with
      | ok =>
        rw [run_cons_ok hact, ih]
        constructor
        · rintro ⟨before, step, mid, hprefix, hbefore, hstep⟩
          refine ⟨first :: before, step, mid, List.cons_prefix_cons.mpr ⟨rfl, hprefix⟩, ?_, hstep⟩
          rw [run_cons_ok hact, hbefore]
        · rintro ⟨before, step, mid, hprefix, hbefore, hstep⟩
          cases before with
          | nil =>
            obtain ⟨rfl, -⟩ := List.cons_prefix_cons.mp hprefix
            obtain rfl : s = mid := congrArg Prod.fst hbefore
            rw [hact] at hstep
            cases congrArg Prod.snd hstep
          | cons first' before =>
            obtain ⟨rfl, hrest⟩ := List.cons_prefix_cons.mp hprefix
            rw [run_cons_ok hact] at hbefore
            exact ⟨before, step, mid, hrest, hbefore, hstep⟩
      | error e' =>
        rw [run_cons_error hact]
        constructor
        · intro h
          refine ⟨[], first, s, List.cons_prefix_cons.mpr ⟨rfl, List.nil_prefix⟩, rfl, ?_⟩
          rw [hact, h]
        · rintro ⟨before, step, mid, hprefix, hbefore, hstep⟩
          cases before with
          | nil =>
            obtain ⟨rfl, -⟩ := List.cons_prefix_cons.mp hprefix
            obtain rfl : s = mid := congrArg Prod.fst hbefore
            rw [← hact, hstep]
          | cons first' before =>
            obtain ⟨rfl, -⟩ := List.cons_prefix_cons.mp hprefix
            rw [run_cons_error hact] at hbefore
            cases congrArg Prod.snd hbefore

end StepRun
