import Mathlib.Data.List.Infix
import Mathlib.Data.Nat.Find

/-! Searching a text: the first place of a pattern, and the first place of any of several patterns. A
place that has been found stays one when the text grows, but an earlier one may come up behind it. -/

namespace Gpucall.Search

variable {α : Type} {patterns : List (List α)} {pattern text rest : List α} {i : ℕ}

/-! ## What a separator splits -/

section

variable {x : α} {before after front : List α}

/-- What stands before the first `x` has no part in what stands behind it. -/
theorem append_eq_append_cons (h : front ++ rest = before ++ x :: after) (hx : x ∉ front) :
    ∃ middle, before = front ++ middle ∧ rest = middle ++ x :: after := by
  obtain ⟨middle, hbefore, hrest⟩ | ⟨middle, hfront, hafter⟩ := List.append_eq_append_iff.mp h
  · exact ⟨middle, hbefore, hrest⟩
  · cases middle with
    | nil => exact ⟨[], by simpa using hfront.symm, by simpa using hafter.symm⟩
    | cons y middle =>
      obtain ⟨rfl, -⟩ := List.cons.inj hafter
      exact absurd (hfront ▸ List.mem_append_right _ List.mem_cons_self) hx

theorem cons_append_eq_append (h : before ++ x :: after = front ++ rest) (hx : x ∉ rest) :
    ∃ middle, after = middle ++ rest := by
  obtain ⟨middle, -, hcons⟩ | ⟨middle, -, hrest⟩ := List.append_eq_append_iff.mp h
  · cases middle with
    | nil =>
      rw [List.nil_append] at hcons
      exact absurd (hcons ▸ List.mem_cons_self) hx
    | cons y middle =>
      obtain ⟨rfl, hafter⟩ := List.cons.inj hcons
      exact ⟨middle, hafter⟩
  · exact absurd (hrest ▸ List.mem_append_right _ List.mem_cons_self) hx

end

/-! ## Where a pattern stands -/

/-- One of the patterns stands at place `i`. -/
def StandsAt (patterns : List (List α)) (text : List α) (i : ℕ) : Prop :=
  ∃ pattern ∈ patterns, pattern ≠ [] ∧ pattern <+: text.drop i

theorem StandsAt.append (h : StandsAt patterns text i) : StandsAt patterns (text ++ rest) i := by
  obtain ⟨pattern, hmem, hne, hstands⟩ := h
  refine ⟨pattern, hmem, hne, hstands.trans ?_⟩
  rw [List.drop_append]
  exact List.prefix_append ..

theorem StandsAt.lt_length (h : StandsAt patterns text i) : i < text.length := by
  obtain ⟨pattern, -, hne, hstands⟩ := h
  have hlength := hstands.length_le
  have hpos : 0 < pattern.length := List.length_pos_of_ne_nil hne
  rw [List.length_drop] at hlength
  omega

variable [DecidableEq α]

/-- The first place at which `pattern` stands in the text. -/
def find (pattern : List α) : List α → Option ℕ
  | [] => if pattern = [] then some 0 else none
  | a :: text => if pattern <+: a :: text then some 0 else (find pattern text).map (· + 1)

/-- The first place at which one of the patterns stands. -/
def findAny (patterns : List (List α)) (text : List α) : Option ℕ :=
  (patterns.filterMap (find · text)).min?

theorem find_eq_some_iff (hne : pattern ≠ []) :
    find pattern text = some i ↔ pattern <+: text.drop i ∧ ∀ j < i, ¬ pattern <+: text.drop j := by
  induction text generalizing i with
  | nil => simp [find, hne]
  | cons a text ih =>
    unfold find
    split
    · next hhead =>
      constructor
      · rintro ⟨⟩
        exact ⟨hhead, fun j hj => absurd hj (Nat.not_lt_zero j)⟩
      · rintro ⟨-, hfirst⟩
        rcases i with _ | i
        · rfl
        · exact absurd hhead (hfirst 0 (Nat.zero_lt_succ i))
    · next hhead =>
      rw [Option.map_eq_some_iff]
      constructor
      · rintro ⟨k, hk, rfl⟩
        obtain ⟨hstands, hfirst⟩ := ih.mp hk
        refine ⟨hstands, fun j hj => ?_⟩
        rcases j with _ | j
        · exact hhead
        · exact hfirst j (Nat.lt_of_succ_lt_succ hj)
      · rintro ⟨hstands, hfirst⟩
        rcases i with _ | i
        · exact absurd hstands hhead
        · exact ⟨i, ih.mpr ⟨hstands, fun j hj => hfirst (j + 1) (Nat.succ_lt_succ hj)⟩, rfl⟩

theorem find_eq_none_iff (hne : pattern ≠ []) :
    find pattern text = none ↔ ∀ i, ¬ pattern <+: text.drop i := by
  constructor
  · intro h i hstands
    classical
    have hex : ∃ j, pattern <+: text.drop j := ⟨i, hstands⟩
    have hsome := (find_eq_some_iff hne).mpr ⟨Nat.find_spec hex, fun j hj => Nat.find_min hex hj⟩
    rw [h] at hsome
    cases hsome
  · intro h
    cases hfind : find pattern text with
    | none => rfl
    | some i => exact absurd ((find_eq_some_iff hne).mp hfind).1 (h i)

theorem findAny_eq_some_iff (hne : ∀ pattern ∈ patterns, pattern ≠ []) :
    findAny patterns text = some i ↔
      StandsAt patterns text i ∧ ∀ j < i, ¬ StandsAt patterns text j := by
  simp only [findAny, List.min?_eq_some_iff, List.mem_filterMap]
  constructor
  · rintro ⟨⟨pattern, hmem, hfind⟩, hmin⟩
    refine ⟨⟨pattern, hmem, hne pattern hmem, ((find_eq_some_iff (hne pattern hmem)).mp hfind).1⟩, ?_⟩
    rintro j hj ⟨other, hother, hothers, hstands⟩
    cases hplace : find other text with
    | none => exact (find_eq_none_iff hothers).mp hplace j hstands
    | some k =>
      have hle : i ≤ k := hmin k ⟨other, hother, hplace⟩
      exact ((find_eq_some_iff hothers).mp hplace).2 j (hj.trans_le hle) hstands
  · rintro ⟨⟨pattern, hmem, hpattern, hstands⟩, hfirst⟩
    have hnone (j : ℕ) (hj : j < i) (other : List α) (hother : other ∈ patterns) :
        ¬ other <+: text.drop j :=
      fun h => hfirst j hj ⟨other, hother, hne other hother, h⟩
    refine ⟨⟨pattern, hmem, (find_eq_some_iff hpattern).mpr
      ⟨hstands, fun j hj => hnone j hj pattern hmem⟩⟩, ?_⟩
    rintro k ⟨other, hother, hfind⟩
    by_contra hlt
    exact hnone k (not_le.mp hlt) other hother ((find_eq_some_iff (hne other hother)).mp hfind).1

theorem findAny_eq_none_iff (hne : ∀ pattern ∈ patterns, pattern ≠ []) :
    findAny patterns text = none ↔ ∀ i, ¬ StandsAt patterns text i := by
  constructor
  · intro h i hstands
    classical
    have hex : ∃ j, StandsAt patterns text j := ⟨i, hstands⟩
    have hsome := (findAny_eq_some_iff hne).mpr
      ⟨Nat.find_spec hex, fun j hj => Nat.find_min hex hj⟩
    rw [h] at hsome
    cases hsome
  · intro h
    cases hfind : findAny patterns text with
    | none => rfl
    | some i => exact absurd ((findAny_eq_some_iff hne).mp hfind).1 (h i)

/-! ## A growing text -/

theorem findAny_eq_none_of_append (hne : ∀ pattern ∈ patterns, pattern ≠ [])
    (h : findAny patterns (text ++ rest) = none) : findAny patterns text = none :=
  (findAny_eq_none_iff hne).mpr fun i hstands => (findAny_eq_none_iff hne).mp h i hstands.append

theorem findAny_append_le (hne : ∀ pattern ∈ patterns, pattern ≠ [])
    (h : findAny patterns text = some i) : ∃ j ≤ i, findAny patterns (text ++ rest) = some j := by
  have hstands : StandsAt patterns (text ++ rest) i := ((findAny_eq_some_iff hne).mp h).1.append
  cases hfind : findAny patterns (text ++ rest) with
  | none => exact absurd hstands ((findAny_eq_none_iff hne).mp hfind i)
  | some j =>
    refine ⟨j, ?_, rfl⟩
    by_contra hlt
    exact ((findAny_eq_some_iff hne).mp hfind).2 i (not_le.mp hlt) hstands

end Gpucall.Search
