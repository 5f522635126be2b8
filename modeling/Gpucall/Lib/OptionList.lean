import Mathlib.Data.List.Forall2

/-! Functions that may fail. A sequence of them succeeds when each one does. Lists that are gone through with a
partial function: either it has a value everywhere, and then the result holds these values, or there is no
result. -/

namespace Fallible

universe u v

variable {ε : Type u} {α β : Type v} {result : Except ε α} {next : α → Except ε β} {f : α → β} {y : β}

theorem bind_eq_ok : (result >>= next) = .ok y ↔ ∃ x, result = .ok x ∧ next x = .ok y := by
  constructor
  · intro h
    cases result with
    | error e => cases h
    | ok x => exact ⟨x, rfl, h⟩
  · rintro ⟨x, rfl, h⟩
    exact h

theorem ok_bind (x : α) : ((.ok x : Except ε α) >>= next) = next x := rfl

theorem map_eq_ok : result.map f = .ok y ↔ ∃ x, result = .ok x ∧ f x = y := by
  constructor
  · intro h
    cases result with
    | error e => cases h
    | ok x => exact ⟨x, rfl, Except.ok.inj h⟩
  · rintro ⟨x, rfl, rfl⟩
    rfl

theorem mapM_eq_ok {γ δ : Type v} {g : γ → Except ε δ} {xs : List γ} {ys : List δ} :
    xs.mapM g = .ok ys ↔ List.Forall₂ (fun x y => g x = .ok y) xs ys := by
  induction xs generalizing ys with
  | nil =>
    rw [List.mapM_nil, List.forall₂_nil_left_iff]
    constructor
    · rintro ⟨⟩
      rfl
    · rintro rfl
      rfl
  | cons x xs ih =>
    rw [List.mapM_cons, List.forall₂_cons_left_iff]
    cases hx : g x with
    | error e =>
      refine iff_of_false nofun ?_
      rintro ⟨y, ys', hy, -, -⟩
      cases hy
    | ok y =>
      cases hxs : xs.mapM g with
      | error e =>
        refine iff_of_false nofun ?_
        rintro ⟨y', ys', -, hys', -⟩
        cases hxs.symm.trans (ih.mpr hys')
      | ok ys' =>
        simp only [bind, Except.bind, pure, Except.pure]
        constructor
        · rintro ⟨⟩
          exact ⟨y, ys', rfl, ih.mp hxs, rfl⟩
        · rintro ⟨y', ys'', ⟨⟩, hys'', rfl⟩
          rw [Except.ok.inj (hxs.symm.trans (ih.mpr hys''))]

/-- Two computations that go on with the same value give results that agree where the rest agrees. -/
theorem map_bind_congr {γ : Type v} {next' : α → Except ε β} {g : β → γ} (h : ∀ x, (next x).map g = (next' x).map g) :
    (result >>= next).map g = (result >>= next').map g := by
  cases result with
  | error e => rfl
  | ok x => exact h x

end Fallible

namespace OptionList

theorem exists_of_forall₂_right {α β : Type} {R : α → β → Prop} {xs : List α} {ys : List β}
    (h : List.Forall₂ R xs ys) {y : β} (hy : y ∈ ys) : ∃ x ∈ xs, R x y := by
  induction h with
  | nil => cases hy
  | cons hxy _ ih =>
    obtain rfl | hy := List.mem_cons.mp hy
    · exact ⟨_, List.mem_cons_self, hxy⟩
    · obtain ⟨x, hx, hR⟩ := ih hy
      exact ⟨x, List.mem_cons_of_mem _ hx, hR⟩

theorem exists_of_forall₂_left {α β : Type} {R : α → β → Prop} {xs : List α} {ys : List β}
    (h : List.Forall₂ R xs ys) {x : α} (hx : x ∈ xs) : ∃ y ∈ ys, R x y :=
  exists_of_forall₂_right h.flip hx

theorem exists_forall₂ {α β : Type} {R : α → β → Prop} {xs : List α} (h : ∀ x ∈ xs, ∃ y, R x y) :
    ∃ ys, List.Forall₂ R xs ys := by
  induction xs with
  | nil => exact ⟨[], .nil⟩
  | cons x xs ih =>
    obtain ⟨⟨y, hy⟩, hrest⟩ := List.forall_mem_cons.mp h
    obtain ⟨ys, hys⟩ := ih hrest
    exact ⟨y :: ys, .cons hy hys⟩

theorem mem_of_lookup {κ ν : Type} [BEq κ] [LawfulBEq κ] {entries : List (κ × ν)} {key : κ} {value : ν}
    (h : entries.lookup key = some value) : (key, value) ∈ entries := by
  obtain ⟨front, back, heq, -⟩ := List.lookup_eq_some_iff.mp h
  rw [heq]
  exact List.mem_append_right _ List.mem_cons_self

theorem filterMap_cons_eq_append {α β : Type} (f : α → Option β) (x : α) (xs : List α) :
    (x :: xs).filterMap f = (f x).toList ++ xs.filterMap f := by
  cases h : f x <;> simp [h]

theorem toOption_eq_some {ε α : Type} {result : Except ε α} {x : α} :
    result.toOption = some x ↔ result = .ok x := by
  cases result <;> simp [Except.toOption]

variable {α β : Type} {f : α → Option β} {xs : List α} {ys : List β}

theorem mapM_eq_some_iff : xs.mapM f = some ys ↔ (∀ x ∈ xs, (f x).isSome) ∧ xs.filterMap f = ys := by
  induction xs generalizing ys with
  | nil => simp
  | cons x xs ih =>
    rw [List.mapM_cons, List.forall_mem_cons]
    cases hx : f x with
    | none => simp
    | some y =>
      rw [List.filterMap_cons_some hx]
      simp only [Option.bind_eq_bind, Option.bind_some, Option.isSome_some, true_and]
      constructor
      · intro h
        obtain ⟨rest, hrest, heq⟩ := Option.bind_eq_some_iff.mp h
        cases heq
        exact ⟨(ih.mp hrest).1, congrArg _ (ih.mp hrest).2⟩
      · rintro ⟨hall, rfl⟩
        rw [ih.mpr ⟨hall, rfl⟩]
        rfl

theorem mem_of_mapM (h : xs.mapM f = some ys) {y : β} : y ∈ ys ↔ ∃ x ∈ xs, f x = some y := by
  rw [← (mapM_eq_some_iff.mp h).2, List.mem_filterMap]

/-- Elements and their values that agree on a property -/
theorem exists_mem_mapM (h : xs.mapM f = some ys) {P : β → Prop} {Q : α → Prop}
    (hiff : ∀ x ∈ xs, ∀ y, f x = some y → (P y ↔ Q x)) : (∃ y ∈ ys, P y) ↔ ∃ x ∈ xs, Q x := by
  constructor
  · rintro ⟨y, hy, hP⟩
    obtain ⟨x, hx, hf⟩ := (mem_of_mapM h).mp hy
    exact ⟨x, hx, (hiff x hx y hf).mp hP⟩
  · rintro ⟨x, hx, hQ⟩
    obtain ⟨y, hf⟩ := Option.isSome_iff_exists.mp ((mapM_eq_some_iff.mp h).1 x hx)
    exact ⟨y, (mem_of_mapM h).mpr ⟨x, hx, hf⟩, (hiff x hx y hf).mpr hQ⟩

/-- Two functions that agree where the first has a value keep the same of a list only where they agree. -/
theorem filterMap_eq_iff {α β : Type} {f g : α → Option β} (h : ∀ x, f x = none ∨ f x = g x) {xs : List α} :
    xs.filterMap f = xs.filterMap g ↔ ∀ x ∈ xs, f x = g x := by
  have hle : ∀ xs : List α, (xs.filterMap f).length ≤ (xs.filterMap g).length := by
    intro xs
    induction xs with
    | nil => exact Nat.le_refl _
    | cons x xs ih =>
      obtain hx | hx := h x
      · rw [List.filterMap_cons_none hx, List.filterMap_cons]
        cases g x with
        | none => exact ih
        | some y => exact Nat.le_succ_of_le ih
      · rw [List.filterMap_cons, List.filterMap_cons, hx]
        cases g x with
        | none => exact ih
        | some y => exact Nat.succ_le_succ ih
  induction xs with
  | nil => simp
  | cons x xs ih =>
    refine Iff.trans ?_ (List.forall_mem_cons.trans (and_congr_right fun _ => ih.symm)).symm
    obtain hx | hx := h x
    · cases hg : g x with
      | none => rw [List.filterMap_cons_none hx, List.filterMap_cons_none hg, hx, and_iff_right rfl]
      | some y =>
        -- the second list is longer
        rw [List.filterMap_cons_none hx, List.filterMap_cons_some hg, hx]
        refine iff_of_false (fun heq => ?_) (by simp)
        have hlength := hle xs
        rw [heq, List.length_cons] at hlength
        exact absurd hlength (Nat.not_succ_le_self _)
    · rw [and_iff_right hx, List.filterMap_cons, List.filterMap_cons, hx]
      cases g x <;> simp

end OptionList
