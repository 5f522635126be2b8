import Gpucall.Lib.Rfc8259

/-! Braces in texts that have JSON strings in them. In a string a brace is a character like any other; outside of
the strings each brace has its partner. -/

namespace Rfc8259

/-- The characters that open and close -/
def marks : List Char := ['"', '\x7b', '\x7d']

/-- What stands between the two texts is complete: its strings are closed and its braces have partners. -/
inductive Skips : List Char → List Char → Prop
  | refl : Skips s s
  | plain : c ∉ marks → Skips s rest → Skips (c :: s) rest
  | string : Chars s t → Skips t rest → Skips ('"' :: s) rest
  | braces : Skips s ('\x7d' :: t) → Skips t rest → Skips ('\x7b' :: s) rest

variable {c : Char} {s t u rest w : List Char}

theorem Chars.append (h : Chars s t) (tail : List Char) : Chars (s ++ tail) (t ++ tail) := by
  induction h with
  | close => exact .close
  | unescaped hcontrol hquote hslash _ ih => exact .unescaped hcontrol hquote hslash ih
  | escaped hmem _ ih => exact .escaped hmem ih
  | unicode ha hb hc hd _ ih => exact .unicode ha hb hc hd ih

namespace Skips

theorem trans (h : Skips s t) (h' : Skips t u) : Skips s u := by
  induction h with
  | refl => exact h'
  | plain hc _ ih => exact .plain hc (ih h')
  | string hchars _ ih => exact .string hchars (ih h')
  | braces hinner _ _ ih => exact .braces hinner (ih h')

theorem append (h : Skips s t) (tail : List Char) : Skips (s ++ tail) (t ++ tail) := by
  induction h with
  | refl => exact .refl
  | plain hc _ ih => exact .plain hc ih
  | string hchars _ ih => exact .string (hchars.append tail) ih
  | braces _ _ ih ih' => exact .braces ih ih'

theorem of_append (h : ∀ c ∈ w, c ∉ marks) : Skips (w ++ rest) rest := by
  induction w with
  | nil => exact .refl
  | cons c w ih =>
    obtain ⟨hc, hw⟩ := List.forall_mem_cons.mp h
    exact .plain hc (ih hw)

theorem quote (h : Chars s rest) : Skips ('"' :: s) rest := .string h .refl

/-- A pair of braces with what is between them -/
theorem pair (h : Skips s ('\x7d' :: rest)) : Skips ('\x7b' :: s) rest := .braces h .refl

/-- One character more that is neither quote nor brace -/
theorem tail (h : Skips s (c :: rest)) (hc : c ∉ marks) : Skips s rest := h.trans (.plain hc .refl)

end Skips

theorem Ws.skips (h : Ws s rest) : Skips s rest := by
  obtain ⟨spaces, hspaces, rfl⟩ := h
  refine .of_append fun c hc => ?_
  have hplain : ∀ c ∈ [' ', '\t', '\n', '\r'], c ∉ marks := by decide
  exact hplain c (hspaces c hc)

theorem isDigit_plain (h : c.isDigit) : c ∉ marks := by
  intro hmem
  have hnot : ∀ c ∈ marks, c.isDigit = false := by decide
  exact Bool.false_ne_true ((hnot c hmem).symm.trans h)

theorem Number.skips (h : Number s rest) : Skips s rest := by
  obtain ⟨minus, int, frac, exp, hminus, hint, hfrac, hexp, rfl⟩ := h
  refine .of_append fun c hc => ?_
  simp only [List.mem_append] at hc
  rcases hc with ((hc | hc) | hc) | hc
  · have hsigns : ∀ sign ∈ [[], ['-']], ∀ c ∈ sign, c ∉ marks := by decide
    exact hsigns minus hminus c hc
  · cases hint with
    | zero =>
      obtain rfl := List.mem_singleton.mp hc
      decide
    | digits hfirst _ hdigits =>
      rcases List.mem_cons.mp hc with rfl | hc
      · exact isDigit_plain hfirst
      · exact isDigit_plain (hdigits c hc)
  · cases hfrac with
    | absent => exact absurd hc List.not_mem_nil
    | present _ hdigits =>
      rcases List.mem_cons.mp hc with rfl | hc
      · decide
      · exact isDigit_plain (hdigits c hc)
  · cases hexp with
    | absent => exact absurd hc List.not_mem_nil
    | present he hsign _ hdigits =>
      have hmarks : ∀ e ∈ ['e', 'E'], e ∉ marks := by decide
      have hsigns : ∀ sign ∈ [[], ['-'], ['+']], ∀ c ∈ sign, c ∉ marks := by decide
      rcases List.mem_cons.mp hc with rfl | hc
      · exact hmarks _ he
      · rcases List.mem_append.mp hc with hc | hc
        · exact hsigns _ hsign c hc
        · exact isDigit_plain (hdigits c hc)

end Rfc8259
