import Mathlib.Data.Prod.Lex
import Mathlib.Data.Rat.Floor

/-! Aware UTC datetimes as `datetime` has them: validated civil fields, compared field by field,
`replace` at the start of the day and of the month, and the subtraction of a `timedelta` through the
proleptic Gregorian ordinal (`toordinal`, `fromordinal`). -/

namespace Gpucall

def isLeap (year : Nat) : Bool :=
  year % 4 = 0 && (year % 100 ≠ 0 || year % 400 = 0)

def daysInMonth (year month : Nat) : Nat :=
  if month = 2 && isLeap year then 29
  else [31, 28, 31, 30, 31, 30, 31, 31, 30, 31, 30, 31].getD (month - 1) 0

/-- The field ranges the `datetime` constructor checks. -/
def ValidDateTime (year month day hour minute second microsecond : Nat) : Prop :=
  1 ≤ year ∧ year ≤ 9999 ∧ 1 ≤ month ∧ month ≤ 12 ∧ 1 ≤ day ∧ day ≤ daysInMonth year month ∧
    hour < 24 ∧ minute < 60 ∧ second < 60 ∧ microsecond < 1000000

instance : Decidable (ValidDateTime y mo d h mi s us) := by
  unfold ValidDateTime; infer_instance

structure DateTime where
  year : Nat
  month : Nat
  day : Nat
  hour : Nat := 0
  minute : Nat := 0
  second : Nat := 0
  microsecond : Nat := 0
  valid : ValidDateTime year month day hour minute second microsecond := by decide
  deriving DecidableEq

namespace DateTime

/-- The fields in the order in which two datetimes are compared. -/
def key (t : DateTime) : ℕ ×ₗ ℕ ×ₗ ℕ ×ₗ ℕ ×ₗ ℕ ×ₗ ℕ ×ₗ ℕ :=
  toLex (t.year, toLex (t.month, toLex (t.day, toLex (t.hour, toLex (t.minute,
    toLex (t.second, t.microsecond))))))

theorem key_injective : Function.Injective key := by
  intro a b h
  cases a; cases b
  simp only [key, EmbeddingLike.apply_eq_iff_eq, Prod.mk.injEq] at h
  obtain ⟨rfl, rfl, rfl, rfl, rfl, rfl, rfl⟩ := h
  rfl

instance : LinearOrder DateTime := LinearOrder.lift' key key_injective

theorem le_iff_key {a b : DateTime} : a ≤ b ↔ a.key ≤ b.key := Iff.rfl

def date (t : DateTime) : ℕ × ℕ × ℕ := (t.year, t.month, t.day)

def yearMonth (t : DateTime) : ℕ × ℕ := (t.year, t.month)

/-- `now.replace(hour=0, minute=0, second=0, microsecond=0)` -/
def dayStart (now : DateTime) : DateTime where
  year := now.year
  month := now.month
  day := now.day
  valid := by
    obtain ⟨h1, h2, h3, h4, h5, h6, -⟩ := now.valid
    exact ⟨h1, h2, h3, h4, h5, h6, by decide, by decide, by decide, by decide⟩

/-- `now.replace(day=1, hour=0, minute=0, second=0, microsecond=0)` -/
def monthStart (now : DateTime) : DateTime where
  year := now.year
  month := now.month
  day := 1
  valid := by
    obtain ⟨h1, h2, h3, h4, h5, h6, -⟩ := now.valid
    exact ⟨h1, h2, h3, h4, le_rfl, h5.trans h6, by decide, by decide, by decide, by decide⟩

theorem dayStart_le_of_date_eq {now t : DateTime} (h : t.date = now.date) : now.dayStart ≤ t := by
  simp only [date, Prod.mk.injEq] at h
  obtain ⟨hy, hm, hd⟩ := h
  simp only [le_iff_key, key, dayStart, Prod.Lex.toLex_le_toLex, hy, hm, hd,
    lt_irrefl, false_or, true_and]
  omega

theorem monthStart_le_of_yearMonth_eq {now t : DateTime} (h : t.yearMonth = now.yearMonth) :
    now.monthStart ≤ t := by
  simp only [yearMonth, Prod.mk.injEq] at h
  obtain ⟨hy, hm⟩ := h
  have hd : 1 ≤ t.day := t.valid.2.2.2.2.1
  simp only [le_iff_key, key, monthStart, Prod.Lex.toLex_le_toLex, hy, hm, lt_irrefl,
    false_or, true_and]
  omega

/-! ## Subtracting a `timedelta` -/

def daysBeforeYear (year : Nat) : Nat :=
  (year - 1) * 365 + (year - 1) / 4 - (year - 1) / 100 + (year - 1) / 400

def daysBeforeMonth (year month : Nat) : Nat :=
  ((List.range (month - 1)).map fun m => daysInMonth year (m + 1)).sum

def toordinal (t : DateTime) : Nat :=
  daysBeforeYear t.year + daysBeforeMonth t.year t.month + t.day

/-- Microseconds since the start of the day before 0001-01-01. -/
def toMicroseconds (t : DateTime) : Int :=
  (((t.toordinal * 24 + t.hour) * 60 + t.minute) * 60 + t.second) * 1000000 + t.microsecond

/-- The civil date of an ordinal (`datetime._ord2ymd`). -/
def ord2ymd (ordinal : Nat) : ℕ × ℕ × ℕ :=
  let n := ordinal - 1
  let n400 := n / 146097
  let n := n % 146097
  let n100 := n / 36524
  let n := n % 36524
  let n4 := n / 1461
  let n := n % 1461
  let n1 := n / 365
  let n := n % 365
  let year := n400 * 400 + 1 + n100 * 100 + n4 * 4 + n1
  if n1 = 4 || n100 = 4 then (year - 1, 12, 31)
  else
    let month := (n + 50) / 32
    -- the estimate of the month is at most one too large
    let month := if n < daysBeforeMonth year month then month - 1 else month
    (year, month, n - daysBeforeMonth year month + 1)

/-- The datetime of a microsecond count, or none outside the years 1 to 9999 (`OverflowError`). -/
def ofMicroseconds? (us : Int) : Option DateTime :=
  -- the first day has the ordinal 1
  if us < 86400000000 then none
  else
    let us := us.toNat
    let ymd := ord2ymd (us / 86400000000)
    let rest := us % 86400000000
    if h : ValidDateTime ymd.1 ymd.2.1 ymd.2.2 (rest / 3600000000) (rest / 60000000 % 60)
        (rest / 1000000 % 60) (rest % 1000000) then
      some { year := ymd.1, month := ymd.2.1, day := ymd.2.2, hour := rest / 3600000000,
             minute := rest / 60000000 % 60, second := rest / 1000000 % 60,
             microsecond := rest % 1000000, valid := h }
    else none

/-- `timedelta(seconds=..)` in microseconds: the nearest one, ties to the even one. -/
def timedeltaMicroseconds (seconds : ℚ) : Int :=
  let us := seconds * 1000000
  if us - ⌊us⌋ < 1 / 2 then ⌊us⌋
  else if 1 / 2 < us - ⌊us⌋ then ⌊us⌋ + 1
  else if ⌊us⌋ % 2 = 0 then ⌊us⌋ else ⌊us⌋ + 1

/-- `t - timedelta(seconds=..)` -/
def subSeconds? (t : DateTime) (seconds : ℚ) : Option DateTime :=
  ofMicroseconds? (t.toMicroseconds - timedeltaMicroseconds seconds)

example : subSeconds? { year := 2024, month := 3, day := 1, hour := 1 } 21600 =
    some { year := 2024, month := 2, day := 29, hour := 19 } := by decide +kernel

end DateTime

/-- The start of 2024 -/
def midnight : DateTime := { year := 2024, month := 1, day := 1 }

end Gpucall
