import Mathlib.Data.List.Sort

/-! Reordering a sorted list inside its groups. `groupwise` cuts a list where a key changes and hands
each piece to a function that reorders or thins it. When every piece comes back as a rearrangement of
some of its members, so does the whole list, and a list sorted by the key stays sorted. -/

namespace GroupSort

variable {α κ : Type} [DecidableEq κ] (key : α → κ) (f : List α → List α)

/-- Cut at key changes, with the key and the members of the piece under way. -/
def groupwiseFrom : Option κ → List α → List α → List α
  | _, group, [] => if group.isEmpty then [] else f group
  | current, group, a :: l =>
    if current.isSome && current ≠ some (key a) then
      f group ++ groupwiseFrom (some (key a)) [a] l
    else groupwiseFrom (some (key a)) (group ++ [a]) l

def groupwise (l : List α) : List α := groupwiseFrom key f none [] l

variable {key f}

theorem groupwiseFrom_perm {p : α → Bool} (hf : ∀ l, (f l).Perm (l.filter p))
    (current : Option κ) (group l : List α) :
    (groupwiseFrom key f current group l).Perm ((group ++ l).filter p) := by
  induction l generalizing current group with
  | nil =>
    unfold groupwiseFrom
    split
    · next h => rw [List.isEmpty_iff.mp h]; rfl
    · rw [List.append_nil]
      exact hf group
  | cons a l ih =>
    unfold groupwiseFrom
    split
    · have h := (hf group).append (ih (some (key a)) [a])
      rwa [← List.filter_append] at h
    · have h := ih (some (key a)) (group ++ [a])
      rwa [List.append_assoc] at h

theorem groupwise_perm {p : α → Bool} (hf : ∀ l, (f l).Perm (l.filter p)) (l : List α) :
    (groupwise key f l).Perm (l.filter p) :=
  groupwiseFrom_perm hf none [] l

variable [LinearOrder κ]

/-- The pieces follow each other in the order of their keys. -/
theorem groupwiseFrom_sorted {p : α → Bool} (hf : ∀ l, (f l).Perm (l.filter p))
    {current : Option κ} {group l : List α} (hgroup : ∀ a ∈ group, current = some (key a))
    (hl : l.Pairwise fun a b => key a ≤ key b) (hle : ∀ a ∈ group, ∀ b ∈ l, key a ≤ key b) :
    (groupwiseFrom key f current group l).Pairwise fun a b => key a ≤ key b := by
  have hpiece : ∀ {current : Option κ} {group : List α}, (∀ a ∈ group, current = some (key a)) →
      (f group).Pairwise fun a b => key a ≤ key b := by
    intro current group hgroup
    refine List.Pairwise.imp_of_mem ?_ (List.pairwise_of_forall (R := fun _ _ => True) fun _ _ => trivial)
    intro a b ha hb _
    have ha := hgroup a (List.mem_filter.mp ((hf group).mem_iff.mp ha)).1
    have hb := hgroup b (List.mem_filter.mp ((hf group).mem_iff.mp hb)).1
    exact le_of_eq (Option.some.inj (ha.symm.trans hb))
  induction l generalizing current group with
  | nil =>
    unfold groupwiseFrom
    split
    · exact .nil
    · exact hpiece hgroup
  | cons a l ih =>
    obtain ⟨hal, hl⟩ := List.pairwise_cons.mp hl
    unfold groupwiseFrom
    split
    · refine List.pairwise_append.mpr ⟨hpiece hgroup, ih ?_ hl ?_, ?_⟩
      · simp
      · simpa using hal
      · intro b hb c hc
        have hb := (List.mem_filter.mp ((hf group).mem_iff.mp hb)).1
        have hc := (List.mem_filter.mp ((groupwiseFrom_perm hf _ _ _).mem_iff.mp hc)).1
        exact hle b hb c hc
    · next hsame =>
      refine ih ?_ hl ?_
      · intro b hb
        rcases List.mem_append.mp hb with hb | hb
        · have hcur := hgroup b hb
          simp only [hcur, Option.isSome_some, Bool.true_and, decide_eq_true_eq, not_not] at hsame
          exact congrArg some (Option.some.inj hsame).symm
        · rw [List.mem_singleton.mp hb]
      · intro b hb c hc
        rcases List.mem_append.mp hb with hb | hb
        · exact hle b hb c (List.mem_cons_of_mem _ hc)
        · rw [List.mem_singleton.mp hb]
          exact hal c hc

theorem groupwise_sorted {p : α → Bool} (hf : ∀ l, (f l).Perm (l.filter p)) {l : List α}
    (hl : l.Pairwise fun a b => key a ≤ key b) :
    (groupwise key f l).Pairwise fun a b => key a ≤ key b :=
  groupwiseFrom_sorted hf (by simp) hl (by simp)

/-- Sorting by a key. -/
theorem insertionSort_key_sorted {ι : Type} [LinearOrder ι] (k : α → ι) (l : List α) :
    (l.insertionSort fun a b => k a ≤ k b).Pairwise fun a b => k a ≤ k b := by
  have : IsTrans α fun a b => k a ≤ k b := ⟨fun _ _ _ => le_trans⟩
  have : Std.Total fun a b => k a ≤ k b := ⟨fun a b => le_total (k a) (k b)⟩
  exact List.pairwise_insertionSort _ l

/-- A key that tells the members apart leaves nothing to the order of the input. -/
theorem insertionSort_key_perm {ι : Type} [LinearOrder ι] (k : α → ι) {l l' : List α}
    (h : l.Perm l') (hk : ∀ a ∈ l, ∀ b ∈ l, k a = k b → a = b) :
    (l.insertionSort fun a b => k a ≤ k b) = l'.insertionSort fun a b => k a ≤ k b := by
  refine List.Perm.eq_of_pairwise ?_ (insertionSort_key_sorted k l) (insertionSort_key_sorted k l') ?_
  · intro a b ha hb hab hba
    have ha := (List.perm_insertionSort _ _).mem_iff.mp ha
    have hb := h.mem_iff.mpr ((List.perm_insertionSort _ _).mem_iff.mp hb)
    exact hk a ha b hb (le_antisymm hab hba)
  · exact ((List.perm_insertionSort _ l).trans h).trans (List.perm_insertionSort _ l').symm

end GroupSort
