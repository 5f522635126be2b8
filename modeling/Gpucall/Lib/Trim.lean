import Mathlib.Data.List.DropRight

/-! Lists without the elements of one kind at either end. -/

namespace List

variable {α : Type} {p : α → Bool} {l tail : List α}

/-- The list without the elements of `p` at either end -/
def trim (p : α → Bool) (l : List α) : List α := (l.dropWhile p).rdropWhile p

theorem trim_sublist (p : α → Bool) (l : List α) : (l.trim p).Sublist l :=
  ( rdropWhile_prefix _ _).sublist.trans (dropWhile_sublist _)

theorem dropWhile_eq_self_iff_head? : l.dropWhile p = l ↔ ∀ x ∈ l.head?, p x = false := by
  rw [dropWhile_eq_self_iff]
  cases l with
  | nil => simp
  | cons x l => simp

theorem rdropWhile_eq_self_iff_getLast? : l.rdropWhile p = l ↔ ∀ x ∈ l.getLast?, p x = false := by
  rw [rdropWhile_eq_self_iff]
  constructor
  · intro h x hx
    obtain ⟨hne, rfl⟩ := mem_getLast?_eq_getLast hx
    exact Bool.eq_false_iff.mpr (h hne)
  · intro h hne
    exact Bool.eq_false_iff.mp (h _ (getLast?_eq_some_getLast hne))

theorem trim_eq_self_iff : l.trim p = l ↔ (∀ x ∈ l.head?, p x = false) ∧ ∀ x ∈ l.getLast?, p x = false := by
  rw [← dropWhile_eq_self_iff_head?, ← rdropWhile_eq_self_iff_getLast?]
  constructor
  · intro h
    have hdrop : l.dropWhile p = l := by
      refine (dropWhile_sublist p).eq_of_length_le ?_
      conv_lhs => rw [← h]
      exact ( rdropWhile_prefix _ _).length_le
    rw [trim, hdrop] at h
    exact ⟨hdrop, h⟩
  · rintro ⟨hdrop, hrdrop⟩
    rw [trim, hdrop, hrdrop]

/-- What is left begins and ends with no such element. -/
theorem trim_trim (p : α → Bool) (l : List α) : (l.trim p).trim p = l.trim p := by
  have hhead : (l.trim p).dropWhile p = l.trim p := by
    refine dropWhile_eq_self_iff_head?.mpr fun x hx => ?_
    -- the first element that is left is the first one behind those that were dropped
    obtain ⟨rest, hrest⟩ := head?_eq_some_iff.mp hx
    obtain ⟨more, hmore⟩ := rdropWhile_prefix p (l.dropWhile p)
    have hnot := head?_dropWhile_not p l
    rw [← hmore, ← trim, hrest] at hnot
    simpa using hnot
  rw [trim, hhead, trim, rdropWhile_idempotent]

theorem trim_eq_nil_iff : l.trim p = [] ↔ ∀ x ∈ l, p x = true := by
  rw [trim, rdropWhile_eq_nil_iff]
  constructor
  · intro h
    refine dropWhile_eq_nil_iff.mp ?_
    by_contra hne
    have hpos := length_pos_of_ne_nil hne
    exact dropWhile_get_zero_not p l hpos (h _ (getElem_mem hpos))
  · exact fun h x hx => h x ((dropWhile_sublist _).subset hx)

theorem rdropWhile_append_of_all (htail : ∀ x ∈ tail, p x = true) : (l ++ tail).rdropWhile p = l.rdropWhile p := by
  induction tail using reverseRecOn with
  | nil => rw [append_nil]
  | append_singleton tail x ih =>
    obtain ⟨htail, hx⟩ := forall_mem_append.mp htail
    rw [← append_assoc, rdropWhile_concat_pos _ _ _ (hx x (mem_singleton_self x))]
    exact ih htail

theorem trim_append (h : l.trim p = l) (hne : l ≠ []) (htail : ∀ x ∈ tail, p x = true) :
    (l ++ tail).trim p = l := by
  obtain ⟨hhead, -⟩ := trim_eq_self_iff.mp h
  obtain ⟨x, rest, rfl⟩ := exists_cons_of_ne_nil hne
  have hdrop (more : List α) : (x :: more).dropWhile p = x :: more :=
    dropWhile_cons_of_neg (Bool.eq_false_iff.mp (hhead x rfl))
  rw [trim, hdrop] at h
  rw [trim, cons_append, hdrop, ← cons_append, rdropWhile_append_of_all htail, h]

end List
