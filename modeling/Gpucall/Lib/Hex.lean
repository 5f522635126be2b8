import Gpucall.Lib.Trim

/-! Byte strings: blanks at their ends, and bytes that are written as two hexadecimal digits each. -/

namespace Bytes

/-- ASCII whitespace -/
def isSpace (b : UInt8) : Bool := b = 32 || (9 ≤ b && b ≤ 13)

/-- The bytes without blanks at either end -/
def strip (bytes : List UInt8) : List UInt8 := bytes.trim isSpace

/-- The value of a hexadecimal digit, of either case -/
def digitValue (c : UInt8) : Option UInt8 :=
  if 48 ≤ c && c ≤ 57 then some (c - 48)
  else if 97 ≤ c && c ≤ 102 then some (c - 87)
  else if 65 ≤ c && c ≤ 70 then some (c - 55)
  else none

/-- The bytes that are written in a text; blanks may stand between them. -/
def fromHex : List UInt8 → Option (List UInt8)
  | [] => some []
  | [c] => if isSpace c then some [] else none
  | c :: d :: text =>
    if isSpace c then fromHex (d :: text)
    else do
      let high ← digitValue c
      let low ← digitValue d
      let bytes ← fromHex text
      return (high * 16 + low) :: bytes

/-- The text has two digits for each byte. -/
inductive Spells : List UInt8 → List UInt8 → Prop where
  | nil : Spells [] []
  | cons (hhigh : digitValue c = some (b / 16)) (hlow : digitValue d = some (b % 16))
    (htext : Spells text bytes) : Spells (c :: d :: text) (b :: bytes)

variable {text bytes : List UInt8}

theorem forall_byte {p : UInt8 → Prop} (h : ∀ n : Fin 256, p (.ofFin n)) (b : UInt8) : p b := h b.toFin

theorem isSpace_of_digitValue : ∀ c, (digitValue c).isSome → isSpace c = false ∧ c < 128 :=
  forall_byte (by decide +kernel)

theorem Spells.fromHex (h : Spells text bytes) : fromHex text = some bytes := by
  have hparts : ∀ b : UInt8, b / 16 * 16 + b % 16 = b := forall_byte (by decide +kernel)
  induction h with
  | nil => rfl
  | cons hhigh hlow _ ih =>
    have hspace := (isSpace_of_digitValue _ (Option.isSome_of_eq_some hhigh)).1
    simp only [Bytes.fromHex, hspace, hhigh, hlow, ih]
    simp [hparts]

theorem Spells.length (h : Spells text bytes) : text.length = 2 * bytes.length := by
  induction h with
  | nil => rfl
  | cons _ _ _ ih =>
    simp only [List.length_cons, ih]
    omega

theorem Spells.digits (h : Spells text bytes) : ∀ c ∈ text, isSpace c = false ∧ c < 128 := by
  induction h with
  | nil => nofun
  | cons hhigh hlow _ ih =>
    simp only [List.forall_mem_cons]
    exact ⟨isSpace_of_digitValue _ (Option.isSome_of_eq_some hhigh),
      isSpace_of_digitValue _ (Option.isSome_of_eq_some hlow), ih⟩

end Bytes
