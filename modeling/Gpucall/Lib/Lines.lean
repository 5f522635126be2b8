import Mathlib.Data.List.Basic

/-! The lines of a list that are not blank, a line being what is between two breaks. The last of them can
be found from the end of the list: a suffix that has two of them ends in the same one. -/

namespace Lines

variable {α : Type}

/-- The parts between breaks that are not blank throughout -/
def fullLines (isBreak isBlank : α → Bool) (l : List α) : List (List α) :=
  (l.splitOnP isBreak).filter fun line => !line.all isBlank

variable {isBreak isBlank : α → Bool} {l xs ys : List α} {b : α}

theorem fullLines_append_cons (hb : isBreak b = true) :
    fullLines isBreak isBlank (xs ++ b :: ys) = fullLines isBreak isBlank xs ++ fullLines isBreak isBlank ys := by
  rw [fullLines, List.splitOnP_append_cons xs ys hb, List.filter_append]
  rfl

theorem fullLines_cons (hb : isBreak b = true) :
    fullLines isBreak isBlank (b :: ys) = fullLines isBreak isBlank ys := by
  rw [← List.nil_append (b :: ys), fullLines_append_cons hb]
  rfl

/-- A list without breaks is one line. -/
theorem fullLines_eq_ite (h : ∀ x ∈ l, isBreak x = false) :
    fullLines isBreak isBlank l = if l.all isBlank then [] else [l] := by
  rw [fullLines, List.splitOnP_eq_singleton h]
  cases hblank : l.all isBlank <;> simp [hblank]

theorem fullLines_eq_singleton (h : ∀ x ∈ l, isBreak x = false) (hfull : ∃ x ∈ l, isBlank x = false) :
    fullLines isBreak isBlank l = [l] := by
  obtain ⟨x, hx, hblank⟩ := hfull
  have hall : l.all isBlank = false := List.all_eq_false.mpr ⟨x, hx, by simp [hblank]⟩
  rw [fullLines_eq_ite h, hall]
  rfl

theorem fullLines_nil : fullLines isBreak isBlank [] = [] := rfl

/-- A list has no break, or a first one. -/
theorem eq_append_break (isBreak : α → Bool) (l : List α) : (∀ x ∈ l, isBreak x = false) ∨
    ∃ line b rest, l = line ++ b :: rest ∧ isBreak b = true ∧ ∀ x ∈ line, isBreak x = false := by
  induction l with
  | nil => exact .inl nofun
  | cons x l ih =>
    cases hx : isBreak x with
    | true => exact .inr ⟨[], x, l, rfl, hx, nofun⟩
    | false =>
      obtain hnone | ⟨line, b, rest, rfl, hb, hline⟩ := ih
      · exact .inl (List.forall_mem_cons.mpr ⟨hx, hnone⟩)
      · exact .inr ⟨x :: line, b, rest, rfl, hb, List.forall_mem_cons.mpr ⟨hx, hline⟩⟩

theorem fullLines_eq_nil (h : ∀ x ∈ l, isBlank x = true) : fullLines isBreak isBlank l = [] := by
  induction hlength : l.length using Nat.strongRecOn generalizing l with
  | ind n ih =>
    obtain hnone | ⟨line, b, rest, rfl, hb, hline⟩ := eq_append_break isBreak l
    · rw [fullLines_eq_ite hnone, List.all_eq_true.mpr h]
      rfl
    · have hblank : line.all isBlank = true :=
        List.all_eq_true.mpr fun x hx => h x (List.mem_append_left _ hx)
      have hrest : fullLines isBreak isBlank rest = [] := by
        refine ih rest.length ?_ (fun x hx => h x ?_) rfl
        · rw [← hlength, List.length_append, List.length_cons]
          omega
        · exact List.mem_append_right _ (List.mem_cons_of_mem _ hx)
      rw [fullLines_append_cons hb, fullLines_eq_ite hline, hblank, hrest]
      rfl

/-- What comes before a list with two full lines does not change the last one. -/
theorem getLast?_fullLines_append (h : 2 ≤ (fullLines isBreak isBlank l).length) (before : List α) :
    (fullLines isBreak isBlank (before ++ l)).getLast? = (fullLines isBreak isBlank l).getLast? := by
  obtain hnone | ⟨line, b, rest, rfl, hb, hline⟩ := eq_append_break isBreak l
  · rw [fullLines_eq_ite hnone] at h
    split at h <;> simp at h
  · -- the first line is one at most, so the second one lies behind the break
    rw [fullLines_append_cons hb, fullLines_eq_ite hline] at h
    have hrest : fullLines isBreak isBlank rest ≠ [] := by
      intro hnil
      rw [hnil] at h
      split at h <;> simp at h
    rw [← List.append_assoc, fullLines_append_cons hb, fullLines_append_cons hb,
      List.getLast?_append_of_ne_nil _ hrest, List.getLast?_append_of_ne_nil _ hrest]

/-- The block before a suffix, with the suffix -/
theorem block_append_drop {size position : ℕ} (h : size ≤ position) :
    (l.drop (position - size)).take size ++ l.drop position = l.drop (position - size) := by
  have hdrop : l.drop position = (l.drop (position - size)).drop size := by
    rw [List.drop_drop, Nat.sub_add_cancel h]
  rw [hdrop, List.take_append_drop]

end Lines
