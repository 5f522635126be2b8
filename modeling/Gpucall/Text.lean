import Gpucall.Lib.Trim
import Gpucall.Lib.Utf8
import Gpucall.Routing.Environment

/-! The Unicode-aware string methods of Python that the streams go through. -/

namespace Gpucall

/-- `c.isspace()` -/
def isSpace (c : Char) : Bool :=
  let n := c.toNat
  (9 ≤ n && n ≤ 13) || (28 ≤ n && n ≤ 32) || n = 0x85 || n = 0xa0 || n = 0x1680 ||
    (0x2000 ≤ n && n ≤ 0x200a) || n = 0x2028 || n = 0x2029 || n = 0x202f || n = 0x205f || n = 0x3000

/-- The line boundaries of `splitlines`. -/
def isLineBreak (c : Char) : Bool :=
  let n := c.toNat
  (10 ≤ n && n ≤ 13) || (28 ≤ n && n ≤ 30) || n = 0x85 || n = 0x2028 || n = 0x2029

/-- `s.strip()` -/
def strip (s : String) : String :=
  String.ofList ((s.toList.dropWhile isSpace).reverse.dropWhile isSpace).reverse

/-- The lines of a text whose first line starts with `line`; `\r\n` is one boundary. -/
def linesFrom (line : List Char) : List Char → List (List Char)
  | [] => if line.isEmpty then [] else [line]
  | '\r' :: '\n' :: rest => line :: linesFrom [] rest
  | c :: rest => if isLineBreak c then line :: linesFrom [] rest else linesFrom (line ++ [c]) rest

/-- `s.splitlines()` -/
def splitlines (s : String) : List String := (linesFrom [] s.toList).map String.ofList

/-- `s.removeprefix(stem)` -/
def removePrefix (s stem : String) : String :=
  if startswith s stem then String.ofList (s.toList.drop stem.toList.length) else s

/-- `s.encode("utf-8")` -/
def utf8 (s : String) : List ℕ := s.toList.flatMap Utf8.encode

example : splitlines "a\r\nb\n\nc" = ["a", "b", "", "c"] := by decide

theorem utf8_injective : Function.Injective utf8 := fun _ _ heq =>
  String.toList_inj.mp (Utf8.flatMap_encode_injective heq)

theorem zero_notMem_utf8 {s : String} (h : '\x00' ∉ s.toList) : 0 ∉ utf8 s := by
  intro hmem
  obtain ⟨c, hc, hzero⟩ := List.mem_flatMap.mp hmem
  exact h (Utf8.eq_of_zero_mem_encode hzero ▸ hc)

theorem strip_space (s : String) : strip (" " ++ s) = strip s := by
  have hspace : isSpace ' ' = true := by decide
  simp [strip, hspace]

/-! ## Blanks -/

theorem toList_strip (s : String) : (strip s).toList = s.toList.trim isSpace := by
  rw [strip, String.toList_ofList, List.trim, List.rdropWhile]

theorem sublist_strip (s : String) : (strip s).toList.Sublist s.toList := by
  rw [toList_strip]
  exact List.trim_sublist _ _

theorem strip_strip (s : String) : strip (strip s) = strip s := by
  refine String.toList_inj.mp ?_
  rw [toList_strip, toList_strip, List.trim_trim]

theorem strip_eq_empty {s : String} : strip s = "" ↔ ∀ c ∈ s.toList, isSpace c = true := by
  rw [← String.toList_inj, toList_strip, String.toList_empty, List.trim_eq_nil_iff]

/-- A text that neither begins nor ends with a blank stays. -/
theorem strip_eq_self_iff {s : String} : strip s = s ↔
    (∀ c ∈ s.toList.head?, isSpace c = false) ∧ ∀ c ∈ s.toList.getLast?, isSpace c = false := by
  rw [← String.toList_inj, toList_strip, List.trim_eq_self_iff]

theorem strip_eq_self {s : String} (h : ∀ c ∈ s.toList, isSpace c = false) : strip s = s :=
  strip_eq_self_iff.mpr
    ⟨fun c hc => h c (List.mem_of_mem_head? hc), fun c hc => h c (List.mem_of_getLast? hc)⟩

/-- What is left begins and ends with no blank. -/
theorem isSpace_head_strip {s : String} {c : Char} (h : (strip s).toList.head? = some c) : isSpace c = false :=
  (strip_eq_self_iff.mp (strip_strip s)).1 c h

theorem isSpace_getLast_strip {s : String} {c : Char} (h : (strip s).toList.getLast? = some c) :
    isSpace c = false :=
  (strip_eq_self_iff.mp (strip_strip s)).2 c h

/-! ## Numerals -/

theorem foldl_toDigits (n : ℕ) :
    (Nat.toDigits 10 n).foldl (fun value c => value * 10 + (c.toNat - 48)) 0 = n := by
  induction n using Nat.strongRecOn with
  | ind n ih =>
    by_cases hlt : n < 10
    · rw [Nat.toDigits_of_lt_base hlt, List.foldl_cons, List.foldl_nil,
        Nat.toNat_digitChar_sub_48_of_lt_ten hlt]
      omega
    · rw [Nat.toDigits_of_base_le (by decide) (by omega), List.foldl_append, ih (n / 10) (by omega),
        List.foldl_cons, List.foldl_nil, Nat.toNat_digitChar_sub_48_of_lt_ten (by omega)]
      omega

theorem repr_injective {m n : ℕ} (h : m.repr = n.repr) : m = n := by
  rw [← foldl_toDigits m, ← foldl_toDigits n, ← Nat.toList_repr, ← Nat.toList_repr, h]

/-! ## Lines -/

/-- A text without boundaries is taken into the line as a whole. -/
theorem linesFrom_append {line text : List Char} (h : ∀ c ∈ text, isLineBreak c = false)
    (rest : List Char) : linesFrom line (text ++ rest) = linesFrom (line ++ text) rest := by
  induction text generalizing line with
  | nil => simp
  | cons c text ih =>
    have hc : isLineBreak c = false := h c List.mem_cons_self
    have hreturn : c ≠ '\r' := by
      rintro rfl
      exact absurd hc (by decide)
    rw [List.cons_append, linesFrom, hc, if_neg Bool.false_ne_true,
      ih fun c hmem => h c (List.mem_cons_of_mem _ hmem), List.append_assoc, List.singleton_append]
    intro rest' heq
    exact absurd heq hreturn

end Gpucall
