import Gpucall.DateTime
import Gpucall.Lib.FixedWidth

/-! The texts of aware UTC datetimes, as `isoformat()` writes them, are ordered like the datetimes. -/

namespace Gpucall.DateTime

open FixedWidth

/-- `%04d` and the like -/
def zeroPad (width n : ℕ) : String := String.ofList (numeral width n)

/-- The fraction of the second, which is left out when it is zero -/
def isoFraction (microsecond : ℕ) : String :=
  if microsecond = 0 then "" else "." ++ zeroPad 6 microsecond

/-- `t.isoformat()` in UTC -/
def isoformat (t : DateTime) : String :=
  zeroPad 4 t.year ++ "-" ++ zeroPad 2 t.month ++ "-" ++ zeroPad 2 t.day ++ "T" ++ zeroPad 2 t.hour ++ ":" ++
    zeroPad 2 t.minute ++ ":" ++ zeroPad 2 t.second ++ isoFraction t.microsecond ++ "+00:00"

example : isoformat { year := 2024, month := 2, day := 29, hour := 19, microsecond := 50 } =
    "2024-02-29T19:00:00.000050+00:00" := by decide +kernel

variable {a b : DateTime}

/-- The zone is compared with a fraction where there is none, and `+` is before `.`. -/
theorem isoFraction_lt_iff {m n : ℕ} (hm : m < 1000000) (hn : n < 1000000) :
    (isoFraction m).toList ++ "+00:00".toList < (isoFraction n).toList ++ "+00:00".toList ↔ m < n := by
  have hfraction (k : ℕ) (hk : k ≠ 0) :
      (isoFraction k).toList ++ "+00:00".toList = '.' :: (numeral 6 k ++ "+00:00".toList) := by
    simp only [isoFraction, if_neg hk, String.toList_append, zeroPad, String.toList_ofList]
    rfl
  have hzone : (isoFraction 0).toList ++ "+00:00".toList = '+' :: "00:00".toList := rfl
  have hplus : '+' < '.' := by decide
  obtain rfl | hm0 := Nat.eq_zero_or_pos m <;> obtain rfl | hn0 := Nat.eq_zero_or_pos n
  · simp only [List.lt_irrefl, Nat.lt_irrefl]
  · rw [hzone, hfraction n hn0.ne', List.cons_lt_cons_iff]
    exact iff_of_true (.inl hplus) hn0
  · rw [hzone, hfraction m hm0.ne', List.cons_lt_cons_iff]
    refine iff_of_false ?_ (Nat.not_lt_zero m)
    rintro (hlt | ⟨heq, -⟩)
    · exact absurd hlt (by decide)
    · exact absurd heq (by decide)
  · rw [hfraction m hm0.ne', hfraction n hn0.ne', List.cons_lt_cons_self,
      numeral_append_lt_iff (by decide) hm hn]
    simp only [List.lt_irrefl, and_false, or_false]

theorem toList_isoformat (t : DateTime) : t.isoformat.toList =
    numeral 4 t.year ++ '-' :: (numeral 2 t.month ++ '-' :: (numeral 2 t.day ++ 'T' :: (numeral 2 t.hour ++
      ':' :: (numeral 2 t.minute ++ ':' :: (numeral 2 t.second ++
        ((isoFraction t.microsecond).toList ++ "+00:00".toList)))))) := by
  simp [isoformat, zeroPad]

theorem daysInMonth_le (year month : ℕ) : daysInMonth year month ≤ 31 := by
  have hall : ∀ days ∈ [31, 28, 31, 30, 31, 30, 31, 31, 30, 31, 30, 31], days ≤ 31 := by decide
  unfold daysInMonth
  split
  · decide
  · rw [List.getD_eq_getElem?_getD]
    cases hmonth : [31, 28, 31, 30, 31, 30, 31, 31, 30, 31, 30, 31][month - 1]? with
    | none => exact Nat.zero_le _
    | some days => exact hall days (List.mem_of_getElem? hmonth)

/-- The numerals of a datetime fit into their widths. -/
theorem widths (t : DateTime) : t.year < 10 ^ 4 ∧ t.month < 10 ^ 2 ∧ t.day < 10 ^ 2 ∧ t.hour < 10 ^ 2 ∧
    t.minute < 10 ^ 2 ∧ t.second < 10 ^ 2 ∧ t.microsecond < 1000000 := by
  obtain ⟨-, hyear, -, hmonth, -, hday, hhour, hminute, hsecond, hmicrosecond⟩ := t.valid
  have hdays := daysInMonth_le t.year t.month
  omega

theorem lt_iff_key : a < b ↔ a.key < b.key := Iff.rfl

/-- The order of the texts is the order of the times. -/
theorem isoformat_lt_isoformat_iff : a.isoformat < b.isoformat ↔ a < b := by
  obtain ⟨hyear, hmonth, hday, hhour, hminute, hsecond, hmicrosecond⟩ := a.widths
  obtain ⟨hyear', hmonth', hday', hhour', hminute', hsecond', hmicrosecond'⟩ := b.widths
  rw [String.lt_iff_toList_lt, toList_isoformat, toList_isoformat,
    numeral_append_lt_iff (by decide) hyear hyear', List.cons_lt_cons_self,
    numeral_append_lt_iff (by decide) hmonth hmonth', List.cons_lt_cons_self,
    numeral_append_lt_iff (by decide) hday hday', List.cons_lt_cons_self,
    numeral_append_lt_iff (by decide) hhour hhour', List.cons_lt_cons_self,
    numeral_append_lt_iff (by decide) hminute hminute', List.cons_lt_cons_self,
    numeral_append_lt_iff (by decide) hsecond hsecond', isoFraction_lt_iff hmicrosecond hmicrosecond']
  simp only [lt_iff_key, key, Prod.Lex.toLex_lt_toLex]

theorem isoformat_le_isoformat_iff : a.isoformat ≤ b.isoformat ↔ a ≤ b := by
  rw [← not_lt, isoformat_lt_isoformat_iff, not_lt]

theorem isoformat_injective : Function.Injective isoformat := fun _ _ h =>
  le_antisymm (isoformat_le_isoformat_iff.mp h.le) (isoformat_le_isoformat_iff.mp h.ge)

end Gpucall.DateTime
