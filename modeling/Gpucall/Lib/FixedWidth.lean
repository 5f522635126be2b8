import Mathlib.Data.List.Lex
import Mathlib.Data.Nat.Digits.Defs
import Mathlib.Data.String.Basic

/-! Texts that are compared from left to right: a part of fixed width decides before what comes behind it,
and numerals of one width, with zeros before them, are ordered like the numbers. -/

namespace FixedWidth

/-! ## Parts of one length -/

section

variable {α : Type} [LinearOrder α] {l l' rest rest' : List α}

theorem append_lt_append_iff (hlength : l.length = l'.length) :
    l ++ rest < l' ++ rest' ↔ l < l' ∨ l = l' ∧ rest < rest' := by
  induction l generalizing l' with
  | nil =>
    obtain rfl := List.length_eq_zero_iff.mp hlength.symm
    simp
  | cons x l ih =>
    cases l' with
    | nil => cases hlength
    | cons x' l' =>
      rw [List.cons_append, List.cons_append, List.cons_lt_cons_iff, List.cons_lt_cons_iff,
        ih (Nat.succ.inj hlength), List.cons.injEq]
      tauto

end

/-! ## Numerals -/

/-- The decimal numeral, with zeros before it up to a width -/
def numeral (width n : ℕ) : List Char :=
  List.replicate (width - (Nat.toDigits 10 n).length) '0' ++ Nat.toDigits 10 n

variable {width m n : ℕ}

theorem isDigit_of_mem_numeral {c : Char} (h : c ∈ numeral width n) : c.isDigit := by
  rcases List.mem_append.mp h with h | h
  · rw [(List.mem_replicate.mp h).2]
    rfl
  · exact Nat.isDigit_of_mem_toDigits (by decide) (by decide) h

/-- The last digit is that of the remainder, those before it are the numeral of the quotient. -/
theorem numeral_succ (hwidth : 0 < width) (n : ℕ) :
    numeral (width + 1) n = numeral width (n / 10) ++ [Nat.digitChar (n % 10)] := by
  unfold numeral
  by_cases hn : n < 10
  · have hzero : n / 10 = 0 := by omega
    have hmod : n % 10 = n := Nat.mod_eq_of_lt hn
    rw [Nat.toDigits_of_lt_base hn, hzero, hmod, Nat.toDigits_zero, ← List.replicate_succ',
      List.length_singleton, List.length_singleton, Nat.add_sub_cancel, Nat.sub_add_cancel hwidth]
  · rw [Nat.toDigits_of_base_le (by decide) (by omega), List.length_append, List.length_singleton,
      Nat.add_sub_add_right, List.append_assoc]

theorem length_numeral (hwidth : 0 < width) (hn : n < 10 ^ width) : (numeral width n).length = width := by
  have hle : (Nat.toDigits 10 n).length ≤ width := Nat.toDigits_length 10 n width hwidth hn
  rw [numeral, List.length_append, List.length_replicate, Nat.sub_add_cancel hle]

/-- What is ordered like the numbers tells them apart. -/
theorem eq_iff_of_lt_iff {text : ℕ → List Char} (hmn : text m < text n ↔ m < n)
    (hnm : text n < text m ↔ n < m) : text m = text n ↔ m = n := by
  constructor
  · intro h
    refine le_antisymm (not_lt.mp fun hlt => ?_) (not_lt.mp fun hlt => ?_)
    · exact List.lt_irrefl _ (h ▸ hnm.mpr hlt)
    · exact List.lt_irrefl _ (h ▸ hmn.mpr hlt)
  · intro h
    rw [h]

theorem digitChar_lt_digitChar_iff : ∀ m < 10, ∀ n < 10, Nat.digitChar m < Nat.digitChar n ↔ m < n := by
  decide

theorem numeral_lt_numeral_iff (hwidth : 0 < width) (hm : m < 10 ^ width) (hn : n < 10 ^ width) :
    numeral width m < numeral width n ↔ m < n := by
  induction width, hwidth using Nat.le_induction generalizing m n with
  | base =>
    have hone (k : ℕ) (hk : k < 10) : numeral 1 k = [Nat.digitChar k] := by
      rw [numeral, Nat.toDigits_of_lt_base hk]
      rfl
    rw [pow_one] at hm hn
    rw [hone m hm, hone n hn, List.cons_lt_cons_iff, digitChar_lt_digitChar_iff m hm n hn]
    simp
  | succ width hwidth ih =>
    have hm' : m / 10 < 10 ^ width := by rw [pow_succ] at hm; omega
    have hn' : n / 10 < 10 ^ width := by rw [pow_succ] at hn; omega
    have heq : numeral width (m / 10) = numeral width (n / 10) ↔ m / 10 = n / 10 :=
      eq_iff_of_lt_iff (ih hm' hn') (ih hn' hm')
    rw [numeral_succ hwidth, numeral_succ hwidth,
      append_lt_append_iff ((length_numeral hwidth hm').trans (length_numeral hwidth hn').symm), ih hm' hn', heq,
      List.cons_lt_cons_iff,
      digitChar_lt_digitChar_iff _ (Nat.mod_lt _ (by decide)) _ (Nat.mod_lt _ (by decide))]
    simp only [List.lt_irrefl, and_false, or_false]
    omega

theorem numeral_inj (hwidth : 0 < width) (hm : m < 10 ^ width) (hn : n < 10 ^ width) :
    numeral width m = numeral width n ↔ m = n :=
  eq_iff_of_lt_iff (numeral_lt_numeral_iff hwidth hm hn) (numeral_lt_numeral_iff hwidth hn hm)

/-- A numeral decides before what comes behind it. -/
theorem numeral_append_lt_iff {rest rest' : List Char} (hwidth : 0 < width) (hm : m < 10 ^ width)
    (hn : n < 10 ^ width) :
    numeral width m ++ rest < numeral width n ++ rest' ↔ m < n ∨ m = n ∧ rest < rest' := by
  rw [append_lt_append_iff ((length_numeral hwidth hm).trans (length_numeral hwidth hn).symm),
    numeral_lt_numeral_iff hwidth hm hn, numeral_inj hwidth hm hn]

end FixedWidth
