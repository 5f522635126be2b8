import Mathlib.Tactic.IntervalCases
import Gpucall.Lib.Utf8
import Gpucall.Routing.Environment

/-! `urllib.parse` and `pathlib`, as far as object references go through them. -/

namespace Gpucall

/-- `PurePosixPath(path).name` -/
def pathName (path : String) : String :=
  String.ofList (((path.toList.splitOn '/').filter fun part => part ∉ [[], ['.']]).getLastD [])

/-- `s.strip("/")` -/
def stripSlashes (s : String) : String :=
  String.ofList ((s.toList.dropWhile (· = '/')).reverse.dropWhile (· = '/')).reverse

/-! ## urlparse -/

structure ParseResult where
  scheme : List Char
  netloc : List Char
  path : List Char

/-- `scheme_chars` -/
def schemeChar (c : Char) : Bool := c.isAlphanum || c ∈ ['+', '-', '.']

/-- `urlparse` of a URL whose scheme has no parameters. -/
def urlparse (url : List Char) : ParseResult :=
  let url := (url.dropWhile fun c => c.toNat ≤ 32).filter fun c => c ∉ ['\t', '\r', '\n']
  let scheme := url.takeWhile (· ≠ ':')
  let found := scheme.length < url.length && scheme.head?.any Char.isAlpha && scheme.all schemeChar
  let rest := if found then url.drop (scheme.length + 1) else url
  let (netloc, rest) :=
    if rest.take 2 = ['/', '/'] then (rest.drop 2).span fun c => c ∉ ['/', '?', '#'] else ([], rest)
  { scheme := if found then scheme.map Char.toLower else []
    netloc := netloc
    path := (rest.takeWhile (· ≠ '#')).takeWhile (· ≠ '?') }

/-! ## Percent-encoding -/

def hexValue (c : Char) : Option ℕ :=
  let n := c.toNat
  if 48 ≤ n && n ≤ 57 then some (n - 48)
  else if 65 ≤ n && n ≤ 70 then some (n - 55)
  else if 97 ≤ n && n ≤ 102 then some (n - 87)
  else none

/-- The byte of an escape at the front of a text. -/
def escape : List Char → Option ℕ
  | '%' :: a :: b :: _ => do return (← hexValue a) * 16 + (← hexValue b)
  | _ => none

/-- `unquote`, with the decoder that reads the bytes of the ASCII run under way. -/
def unquoteFrom : Utf8.State → List Char → List Char
  | s, [] => Utf8.finish s
  | s, '%' :: a :: b :: rest =>
    match escape ['%', a, b] with
    | some byte => (Utf8.step s byte).2 ++ unquoteFrom (Utf8.step s byte).1 rest
    | none => (Utf8.step s 37).2 ++ unquoteFrom (Utf8.step s 37).1 (a :: b :: rest)
  | s, c :: rest =>
    if c.toNat < 128 then (Utf8.step s c.toNat).2 ++ unquoteFrom (Utf8.step s c.toNat).1 rest
    else Utf8.finish s ++ c :: unquoteFrom .ready rest

def unquote (text : List Char) : List Char := unquoteFrom .ready text

def hexDigit (n : ℕ) : Char := "0123456789ABCDEF".toList.getD n '0'

def percentByte (b : ℕ) : List Char := ['%', hexDigit (b / 16), hexDigit (b % 16)]

/-- A character as it stands in a URL whose legal characters are given. -/
def percentEncode (legal : Char → Bool) (c : Char) : List Char :=
  if legal c then [c] else (Utf8.encode c).flatMap percentByte

example : unquote "%E3%81%82+%C3x%zz%4".toList = "あ+\uFFFDx%zz%4".toList := by decide

/-- Some place of the text reads as an escape. -/
def hasEscape : List Char → Bool
  | [] => false
  | c :: rest => (escape (c :: rest)).isSome || hasEscape rest

/-! ## What unquote undoes -/

section

variable {s : Utf8.State} {c : Char} {rest : List Char}

theorem escape_ne_percent (h : c ≠ '%') : escape (c :: rest) = none := by
  unfold escape
  split
  · next heq => exact absurd (List.cons.inj heq).1 h
  · rfl

theorem escape_of_first {a : Char} (h : hexValue a = none) : escape ('%' :: a :: rest) = none := by
  cases rest with
  | nil => rfl
  | cons b rest => simp [escape, h]

theorem escape_of_second {a b : Char} (h : hexValue b = none) :
    escape ('%' :: a :: b :: rest) = none := by
  simp [escape, h]

theorem escape_eq_some {text : List Char} {byte : ℕ} (h : escape (c :: text) = some byte) :
    ∃ a b tail, c = '%' ∧ text = a :: b :: tail ∧ (hexValue a).isSome ∧ (hexValue b).isSome := by
  unfold escape at h
  split at h
  · next a b tail heq =>
    obtain ⟨rfl, rfl⟩ := List.cons.inj heq
    obtain ⟨x, hx, h⟩ := Option.bind_eq_some_iff.mp h
    obtain ⟨y, hy, -⟩ := Option.bind_eq_some_iff.mp h
    exact ⟨a, b, tail, rfl, rfl, hx ▸ rfl, hy ▸ rfl⟩
  · contradiction

/-- A character that begins no escape ends what is under way and comes out. -/
theorem unquoteFrom_cons (hs : s.WF) (h : escape (c :: rest) = none) :
    unquoteFrom s (c :: rest) = Utf8.finish s ++ c :: unquoteFrom .ready rest := by
  have hascii (hc : c.toNat < 128) (rest : List Char) :
      (Utf8.step s c.toNat).2 ++ unquoteFrom (Utf8.step s c.toNat).1 rest =
        Utf8.finish s ++ c :: unquoteFrom .ready rest := by
    rw [Utf8.step_ascii hs hc, List.append_assoc, List.singleton_append]
  by_cases hshape : ∃ a b tail, c = '%' ∧ rest = a :: b :: tail
  · obtain ⟨a, b, tail, rfl, rfl⟩ := hshape
    have h : escape ['%', a, b] = none := h
    rw [unquoteFrom, h]
    exact hascii (by decide) _
  · rw [unquoteFrom]
    · split
      · next hc => exact hascii hc rest
      · rfl
    · intro a b tail hc hrest
      exact hshape ⟨a, b, tail, hc, hrest⟩

theorem unquoteFrom_escape {a b : Char} {byte : ℕ} (h : escape ['%', a, b] = some byte) :
    unquoteFrom s ('%' :: a :: b :: rest) =
      (Utf8.step s byte).2 ++ unquoteFrom (Utf8.step s byte).1 rest := by
  rw [unquoteFrom, h]

theorem hexValue_hexDigit (n : ℕ) (h : n < 16) : hexValue (hexDigit n) = some n := by
  interval_cases n <;> rfl

theorem escape_percentByte {b : ℕ} (h : b < 256) :
    escape ['%', hexDigit (b / 16), hexDigit (b % 16)] = some b := by
  simp only [escape, hexValue_hexDigit _ (show b / 16 < 16 by omega),
    hexValue_hexDigit _ (show b % 16 < 16 by omega), Option.pure_def, Option.bind_eq_bind,
    Option.bind_some, Option.some.injEq]
  omega

theorem unquoteFrom_percentBytes {bytes : List ℕ} (h : ∀ b ∈ bytes, b < 256) :
    unquoteFrom s (bytes.flatMap percentByte ++ rest) =
      (Utf8.feed s bytes).2 ++ unquoteFrom (Utf8.feed s bytes).1 rest := by
  induction bytes generalizing s with
  | nil => rfl
  | cons b bytes ih =>
    have hb : b < 256 := h b List.mem_cons_self
    rw [List.flatMap_cons, percentByte, List.append_assoc, List.cons_append, List.cons_append,
      List.cons_append, List.nil_append, unquoteFrom_escape (escape_percentByte hb),
      ih fun b hmem => h b (List.mem_cons_of_mem _ hmem), Utf8.feed, List.append_assoc]

variable {legal : Char → Bool}

theorem unquoteFrom_percentEncode (hs : s.WF) (h : legal c = false) :
    unquoteFrom s (percentEncode legal c ++ rest) = Utf8.finish s ++ c :: unquoteFrom .ready rest := by
  rw [percentEncode, h, if_neg Bool.false_ne_true, unquoteFrom_percentBytes (Utf8.encode_lt c),
    Utf8.feed_encode hs, List.append_assoc, List.singleton_append]

theorem percentEncode_legal (h : legal c = true) : percentEncode legal c = [c] := if_pos h

theorem percentEncode_illegal (h : legal c = false) : ∃ tail, percentEncode legal c = '%' :: tail := by
  obtain ⟨b, bytes, hc, -⟩ := Utf8.encode_start c
  exact ⟨_, by rw [percentEncode, h, if_neg Bool.false_ne_true, hc]; rfl⟩

section

-- The escape sign and the digits of escapes stand in a URL as they are.
variable (hpercent : legal '%' = true) (hhex : ∀ c, (hexValue c).isSome → legal c = true)
include hhex

theorem hexValue_illegal (h : legal c = false) : hexValue c = none := by
  cases hvalue : hexValue c with
  | none => rfl
  | some n =>
    have hlegal := hhex c (hvalue ▸ rfl)
    exact Bool.noConfusion (h.symm.trans hlegal)

/-- Encoding makes no escape out of a sign that begins none. -/
theorem escape_percentEncode (rest : List Char) :
    escape ('%' :: rest.flatMap (percentEncode legal)) = escape ('%' :: rest) := by
  match rest with
  | [] => rfl
  | a :: rest =>
    cases ha : legal a with
    | false =>
      obtain ⟨tail, htail⟩ := percentEncode_illegal ha
      rw [List.flatMap_cons, htail, List.cons_append, escape_of_first (hexValue_illegal hhex ha),
        escape_of_first (show hexValue '%' = none by decide)]
    | true =>
      rw [List.flatMap_cons, percentEncode_legal ha, List.singleton_append]
      match rest with
      | [] => rfl
      | b :: rest =>
        cases hb : legal b with
        | true => rw [List.flatMap_cons, percentEncode_legal hb]; rfl
        | false =>
          obtain ⟨tail, htail⟩ := percentEncode_illegal hb
          rw [List.flatMap_cons, htail, List.cons_append,
            escape_of_second (hexValue_illegal hhex hb),
            escape_of_second (show hexValue '%' = none by decide)]

/-- A character of the encoded text that begins no escape comes out as itself. -/
theorem unquoteFrom_flatMap_cons (hs : s.WF) (h : escape (c :: rest) = none) :
    unquoteFrom s ((c :: rest).flatMap (percentEncode legal)) =
      Utf8.finish s ++ c :: unquoteFrom .ready (rest.flatMap (percentEncode legal)) := by
  rw [List.flatMap_cons]
  cases hc : legal c with
  | false => exact unquoteFrom_percentEncode hs hc
  | true =>
    rw [percentEncode_legal hc, List.singleton_append]
    refine unquoteFrom_cons hs ?_
    by_cases hsign : c = '%'
    · subst hsign
      rw [escape_percentEncode hhex, h]
    · exact escape_ne_percent hsign

theorem unquote_of_no_escape {text : List Char} (hs : s.WF) (h : hasEscape text = false) :
    unquoteFrom s (text.flatMap (percentEncode legal)) = Utf8.finish s ++ text := by
  induction text generalizing s with
  | nil => exact (List.append_nil _).symm
  | cons c text ih =>
    simp only [hasEscape, Bool.or_eq_false_iff, Option.isSome_eq_false_iff,
      Option.isNone_iff_eq_none] at h
    rw [unquoteFrom_flatMap_cons hhex hs h.1, ih (s := .ready) trivial h.2]
    rfl

include hpercent

/-- Escapes only shorten a text. -/
theorem unquote_length_le (hs : s.WF) (text : List Char) :
    (unquoteFrom s (text.flatMap (percentEncode legal))).length +
      (if hasEscape text then 1 else 0) ≤ (Utf8.finish s).length + text.length := by
  induction h : text.length using Nat.strong_induction_on generalizing s text with
  | _ n ih =>
  match text with
  | [] => simp [hasEscape, unquoteFrom]
  | c :: rest =>
    cases hescape : escape (c :: rest) with
    | none =>
      have hrest := ih rest.length (by simp at h; omega) (s := .ready) trivial rest rfl
      rw [unquoteFrom_flatMap_cons hhex hs hescape]
      simp only [List.length_append, List.length_cons, hasEscape, hescape, Option.isSome_none,
        Bool.false_or] at h hrest ⊢
      have hready : (Utf8.finish .ready).length = 0 := rfl
      omega
    | some byte =>
      obtain ⟨a, b, tail, rfl, rfl, ha, hb⟩ := escape_eq_some hescape
      have hstep := Utf8.step_length s byte
      have hrest := ih tail.length (by simp at h; omega) (Utf8.step_wf s byte) tail rfl
      simp only [List.flatMap_cons, percentEncode_legal hpercent, percentEncode_legal (hhex a ha),
        percentEncode_legal (hhex b hb), List.singleton_append]
      rw [unquoteFrom_escape hescape]
      simp only [List.length_append, List.length_cons, hasEscape, hescape, Option.isSome_some,
        Bool.true_or, if_true] at h ⊢
      split at hrest <;> omega

end

/-! ## Texts in parts -/

theorem escape_append (hhex : hexValue c = none) (first : Char) (text : List Char) :
    escape (first :: (text ++ c :: rest)) = escape (first :: text) := by
  by_cases hfirst : first = '%'
  · subst hfirst
    match text with
    | [] => exact escape_of_first hhex
    | [_] => exact escape_of_second hhex
    | _ :: _ :: _ => rfl
  · rw [escape_ne_percent hfirst, escape_ne_percent hfirst]

/-- A separator that is no part of an escape keeps the escapes of the two sides apart. -/
theorem hasEscape_append (hsign : c ≠ '%') (hhex : hexValue c = none) (text : List Char) :
    hasEscape (text ++ c :: rest) = (hasEscape text || hasEscape rest) := by
  induction text with
  | nil => simp [hasEscape, escape_ne_percent hsign]
  | cons first text ih =>
    simp only [List.cons_append, hasEscape, ih, escape_append hhex, Bool.or_assoc]

theorem hasEscape_of_no_percent {text : List Char} (h : '%' ∉ text) : hasEscape text = false := by
  induction text with
  | nil => rfl
  | cons c text ih =>
    obtain ⟨hc, htext⟩ := not_or.mp (List.mem_cons.not.mp h)
    simp [hasEscape, escape_ne_percent (Ne.symm hc), ih htext]

theorem mem_percentEncode {x : Char} (h : x ∈ percentEncode legal c) :
    (x = c ∧ legal c = true) ∨ x = '%' ∨ (hexValue x).isSome := by
  unfold percentEncode at h
  split at h
  · next hlegal => exact .inl ⟨List.mem_singleton.mp h, hlegal⟩
  · obtain ⟨b, hb, hx⟩ := List.mem_flatMap.mp h
    have hb := Utf8.encode_lt c b hb
    simp only [percentByte, List.mem_cons, List.not_mem_nil, or_false] at hx
    rcases hx with rfl | rfl | rfl
    · exact .inr (.inl rfl)
    · exact .inr (.inr (by rw [hexValue_hexDigit _ (by omega)]; rfl))
    · exact .inr (.inr (by rw [hexValue_hexDigit _ (by omega)]; rfl))

/-- A text is cut at a delimiter before or after it is encoded. -/
theorem takeWhile_percentEncode {delimiter : Char} (hlegal : legal delimiter = true)
    (hsign : delimiter ≠ '%') (hhex : hexValue delimiter = none) (text : List Char) :
    (text.flatMap (percentEncode legal)).takeWhile (· ≠ delimiter) =
      (text.takeWhile (· ≠ delimiter)).flatMap (percentEncode legal) := by
  induction text with
  | nil => rfl
  | cons c text ih =>
    by_cases hc : c = delimiter
    · subst hc
      simp [percentEncode_legal hlegal]
    · have hpart : ∀ x ∈ percentEncode legal c, decide (x ≠ delimiter) = true := by
        intro x hx
        simp only [ne_eq, decide_not, Bool.not_eq_eq_eq_not, Bool.not_true, decide_eq_false_iff_not]
        rintro rfl
        rcases mem_percentEncode hx with ⟨rfl, -⟩ | rfl | hx
        · exact hc rfl
        · exact hsign rfl
        · simp [hhex] at hx
      rw [List.flatMap_cons, List.takeWhile_append_of_pos hpart, ih,
        List.takeWhile_cons_of_pos (by simpa using hc), List.flatMap_cons]

end

end Gpucall
