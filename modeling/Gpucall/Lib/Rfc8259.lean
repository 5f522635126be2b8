import Mathlib.Data.List.Basic
import Mathlib.Data.Char

/-! The grammar of JSON texts, RFC 8259. A production relates a text to what is left of it behind one
word of the production. `outsideStrings` is what a text is without its strings; the grammar has few
characters there. -/

namespace Rfc8259

/-! ## Productions -/

/-- `*ws` -/
def Ws (s rest : List Char) : Prop :=
  ∃ spaces : List Char, (∀ c ∈ spaces, c ∈ [' ', '\t', '\n', '\r']) ∧ s = spaces ++ rest

def IsHex (c : Char) : Prop := c.isDigit ∨ ('a' ≤ c ∧ c ≤ 'f') ∨ ('A' ≤ c ∧ c ≤ 'F')

/-- `*char quotation-mark` -/
inductive Chars : List Char → List Char → Prop
  | close : Chars ('"' :: rest) rest
  | unescaped : 0x20 ≤ c.toNat → c ≠ '"' → c ≠ '\\' → Chars s rest → Chars (c :: s) rest
  | escaped : c ∈ ['"', '\\', '/', 'b', 'f', 'n', 'r', 't'] → Chars s rest →
    Chars ('\\' :: c :: s) rest
  | unicode : IsHex a → IsHex b → IsHex c → IsHex d → Chars s rest →
    Chars ('\\' :: 'u' :: a :: b :: c :: d :: s) rest

/-- `zero / ( digit1-9 *DIGIT )` -/
inductive Int : List Char → Prop
  | zero : Int ['0']
  | digits : first.isDigit → first ≠ '0' → (∀ c ∈ digits, c.isDigit) → Int (first :: digits)

/-- `[ decimal-point 1*DIGIT ]` -/
inductive Frac : List Char → Prop
  | absent : Frac []
  | present : digits ≠ [] → (∀ c ∈ digits, c.isDigit) → Frac ('.' :: digits)

/-- `[ e [ minus / plus ] 1*DIGIT ]` -/
inductive Exp : List Char → Prop
  | absent : Exp []
  | present : e ∈ ['e', 'E'] → sign ∈ [[], ['-'], ['+']] → digits ≠ [] → (∀ c ∈ digits, c.isDigit) →
    Exp (e :: (sign ++ digits))

def Number (s rest : List Char) : Prop :=
  ∃ minus int frac exp, minus ∈ [[], ['-']] ∧ Int int ∧ Frac frac ∧ Exp exp ∧
    s = minus ++ int ++ frac ++ exp ++ rest

inductive Part where
  | value
  /-- The elements of an array up to its end. -/
  | elements
  /-- The members of an object up to its end. -/
  | members

inductive Derives : Part → List Char → List Char → Prop
  | literal : word ∈ ["null", "true", "false"] → Derives .value (word.toList ++ rest) rest
  | number : Number s rest → Derives .value s rest
  | string : Chars s rest → Derives .value ('"' :: s) rest
  | emptyArray : Ws s (']' :: rest) → Derives .value ('[' :: s) rest
  | array : Ws s s' → Derives .elements s' rest → Derives .value ('[' :: s) rest
  | emptyObject : Ws s ('\x7d' :: rest) → Derives .value ('\x7b' :: s) rest
  | object : Ws s s' → Derives .members s' rest → Derives .value ('\x7b' :: s) rest
  | lastElement : Derives .value s s' → Ws s' (']' :: rest) → Derives .elements s rest
  | nextElement : Derives .value s s' → Ws s' (',' :: t) → Ws t t' → Derives .elements t' rest →
    Derives .elements s rest
  | lastMember : Chars s s' → Ws s' (':' :: t) → Ws t t' → Derives .value t' u →
    Ws u ('\x7d' :: rest) → Derives .members ('"' :: s) rest
  | nextMember : Chars s s' → Ws s' (':' :: t) → Ws t t' → Derives .value t' u → Ws u (',' :: v) →
    Ws v v' → Derives .members v' rest → Derives .members ('"' :: s) rest

/-- `JSON-text` -/
def Text (t : List Char) : Prop := ∃ s rest, Ws t s ∧ Derives .value s rest ∧ Ws rest []

/-- A `JSON-text` whose value is an object. -/
def ObjectText (t : List Char) : Prop :=
  ∃ s rest, Ws t ('\x7b' :: s) ∧ Derives .value ('\x7b' :: s) rest ∧ Ws rest []

theorem ObjectText.text (h : ObjectText t) : Text t :=
  let ⟨_, rest, hws, hvalue, hrest⟩ := h
  ⟨_, rest, hws, hvalue, hrest⟩

/-! ## Outside of the strings -/

mutual
/-- The text without its strings. -/
def outsideStrings : List Char → List Char
  | [] => []
  | c :: s => if c = '"' then insideString s else c :: outsideStrings s

/-- The text behind an opening quote, without its strings. -/
def insideString : List Char → List Char
  | [] => []
  | c :: s =>
    if c = '"' then outsideStrings s else if c = '\\' then afterBackslash s else insideString s

def afterBackslash : List Char → List Char
  | [] => []
  | _ :: s => insideString s
end

theorem outsideStrings_quote : outsideStrings ('"' :: s) = insideString s := rfl

theorem outsideStrings_cons (h : c ≠ '"') : outsideStrings (c :: s) = c :: outsideStrings s :=
  if_neg h

theorem outsideStrings_append {w : List Char} (h : '"' ∉ w) :
    outsideStrings (w ++ s) = w ++ outsideStrings s := by
  induction w with
  | nil => rfl
  | cons c w ih =>
    obtain ⟨hc, hw⟩ := not_or.mp (mt List.mem_cons.mpr h)
    rw [List.cons_append, outsideStrings_cons (Ne.symm hc), ih hw, List.cons_append]

theorem insideString_of_ne (hquote : c ≠ '"') (hslash : c ≠ '\\') :
    insideString (c :: s) = insideString s := by
  rw [insideString, if_neg hquote, if_neg hslash]

theorem insideString_escaped : insideString ('\\' :: c :: s) = insideString s := rfl

theorem IsHex.ne_quote (h : IsHex c) : c ≠ '"' := by
  rintro rfl
  simp [IsHex, Char.isDigit] at h

theorem IsHex.ne_backslash (h : IsHex c) : c ≠ '\\' := by
  rintro rfl
  simp [IsHex, Char.isDigit] at h

theorem Chars.insideString_eq (h : Chars s rest) : insideString s = outsideStrings rest := by
  induction h with
  | close => rfl
  | unescaped _ hquote hslash _ ih => rw [insideString_of_ne hquote hslash, ih]
  | escaped _ _ ih => rw [insideString_escaped, ih]
  | unicode ha hb hc hd _ ih =>
    rw [insideString_escaped, insideString_of_ne ha.ne_quote ha.ne_backslash,
      insideString_of_ne hb.ne_quote hb.ne_backslash, insideString_of_ne hc.ne_quote hc.ne_backslash,
      insideString_of_ne hd.ne_quote hd.ne_backslash, ih]

/-! ## The alphabet -/

/-- The characters that the grammar has outside of strings. -/
def alphabet : List Char := " \t\n\r\x7b\x7d[]:,+-.0123456789eEnultrfas".toList

/-- What is between two texts outside of strings is of the alphabet. -/
def Plain (s rest : List Char) : Prop :=
  ∃ w : List Char, (∀ c ∈ w, c ∈ alphabet) ∧ outsideStrings s = w ++ outsideStrings rest

namespace Plain

theorem of_append {w : List Char} (h : ∀ c ∈ w, c ∈ alphabet) : Plain (w ++ rest) rest :=
  ⟨w, h, outsideStrings_append fun hquote => absurd (h _ hquote) (by decide)⟩

theorem cons (hc : c ∈ alphabet) (h : Plain s rest) : Plain (c :: s) rest := by
  obtain ⟨w, hw, heq⟩ := h
  refine ⟨c :: w, List.forall_mem_cons.mpr ⟨hc, hw⟩, ?_⟩
  rw [outsideStrings_cons (by rintro rfl; exact absurd hc (by decide)), heq, List.cons_append]

theorem trans (h : Plain s t) (h' : Plain t rest) : Plain s rest := by
  obtain ⟨w, hw, heq⟩ := h
  obtain ⟨w', hw', heq'⟩ := h'
  refine ⟨w ++ w', fun c hc => ?_, by rw [heq, heq', List.append_assoc]⟩
  exact (List.mem_append.mp hc).elim (hw c) (hw' c)

theorem quote (h : Chars s rest) : Plain ('"' :: s) rest :=
  ⟨[], nofun, by rw [outsideStrings_quote, h.insideString_eq, List.nil_append]⟩

/-- Behind a character of the alphabet. -/
theorem tail (h : Plain s (c :: rest)) (hc : c ∈ alphabet) : Plain s rest :=
  h.trans (of_append (w := [c]) (by simpa using hc))

end Plain

theorem Ws.plain (h : Ws s rest) : Plain s rest := by
  obtain ⟨spaces, hspaces, rfl⟩ := h
  refine .of_append fun c hc => ?_
  have hspace : ∀ c ∈ [' ', '\t', '\n', '\r'], c ∈ alphabet := by decide
  exact hspace c (hspaces c hc)

theorem isDigit_mem_alphabet (h : c.isDigit) : c ∈ alphabet := by
  have hdigits : ∀ n < 10, Char.ofNat (48 + n) ∈ alphabet := by decide
  have hrange : 48 ≤ c.toNat ∧ c.toNat ≤ 57 := by
    simp only [Char.isDigit, Bool.and_eq_true, decide_eq_true_eq, UInt32.le_iff_toNat_le, ge_iff_le] at h
    exact h
  have hmem := hdigits (c.toNat - 48) (by omega)
  rwa [Nat.add_sub_cancel' hrange.1, Char.ofNat_toNat] at hmem

theorem Int.alphabet (h : Int t) : ∀ c ∈ t, c ∈ alphabet := by
  cases h with
  | zero => decide
  | digits hfirst _ hdigits =>
    exact List.forall_mem_cons.mpr
      ⟨isDigit_mem_alphabet hfirst, fun c hc => isDigit_mem_alphabet (hdigits c hc)⟩

theorem Frac.alphabet (h : Frac t) : ∀ c ∈ t, c ∈ alphabet := by
  cases h with
  | absent => exact nofun
  | present _ hdigits =>
    exact List.forall_mem_cons.mpr
      ⟨by decide, fun c hc => isDigit_mem_alphabet (hdigits c hc)⟩

theorem Exp.alphabet (h : Exp t) : ∀ c ∈ t, c ∈ alphabet := by
  cases h with
  | absent => exact nofun
  | present he hsign _ hdigits =>
    have hletters : ∀ e ∈ ['e', 'E'], e ∈ Rfc8259.alphabet := by decide
    have hsigns : ∀ sign ∈ [[], ['-'], ['+']], ∀ c ∈ sign, c ∈ Rfc8259.alphabet := by decide
    refine List.forall_mem_cons.mpr ⟨hletters _ he, fun c hc => ?_⟩
    exact (List.mem_append.mp hc).elim (hsigns _ hsign c) fun hc => isDigit_mem_alphabet (hdigits c hc)

theorem Number.plain (h : Number s rest) : Plain s rest := by
  obtain ⟨minus, int, frac, exp, hminus, hint, hfrac, hexp, rfl⟩ := h
  have hsigns : ∀ minus ∈ [[], ['-']], ∀ c ∈ minus, c ∈ alphabet := by decide
  refine .of_append fun c hc => ?_
  simp only [List.mem_append] at hc
  rcases hc with ((hc | hc) | hc) | hc
  · exact hsigns _ hminus c hc
  · exact hint.alphabet c hc
  · exact hfrac.alphabet c hc
  · exact hexp.alphabet c hc

theorem Derives.plain (h : Derives part s rest) : Plain s rest := by
  induction h with
  | literal hword =>
    have hwords : ∀ word ∈ ["null", "true", "false"], ∀ c ∈ word.toList, c ∈ alphabet := by decide
    exact .of_append (hwords _ hword)
  | number h => exact h.plain
  | string h => exact .quote h
  | emptyArray h => exact .cons (by decide) (h.plain.tail (by decide))
  | array h _ ih => exact .cons (by decide) (h.plain.trans ih)
  | emptyObject h => exact .cons (by decide) (h.plain.tail (by decide))
  | object h _ ih => exact .cons (by decide) (h.plain.trans ih)
  | lastElement _ h ih => exact ih.trans (h.plain.tail (by decide))
  | nextElement _ hcomma h _ ih ih' =>
    exact ih.trans ((hcomma.plain.tail (by decide)).trans (h.plain.trans ih'))
  | lastMember hname hcolon h _ hclose ih =>
    exact (Plain.quote hname).trans ((hcolon.plain.tail (by decide)).trans
      (h.plain.trans (ih.trans (hclose.plain.tail (by decide)))))
  | nextMember hname hcolon h _ hcomma h' _ ih ih' =>
    exact (Plain.quote hname).trans ((hcolon.plain.tail (by decide)).trans
      (h.plain.trans (ih.trans ((hcomma.plain.tail (by decide)).trans (h'.plain.trans ih')))))

/-- Outside of its strings, a JSON text has only characters of the grammar. -/
theorem Text.outsideStrings_alphabet (h : Text t) : ∀ c ∈ outsideStrings t, c ∈ alphabet := by
  obtain ⟨s, rest, hws, hvalue, hrest⟩ := h
  obtain ⟨w, hw, heq⟩ := hws.plain.trans (hvalue.plain.trans hrest.plain)
  rwa [heq, show outsideStrings [] = [] from rfl, List.append_nil]

end Rfc8259
