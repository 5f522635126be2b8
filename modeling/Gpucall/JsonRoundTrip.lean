import Gpucall.JsonDumps

/-! `json.dumps` in each of the layouts that the program asks for, and that `json.loads` reads back what it
writes. -/

namespace Gpucall

namespace Json

/-! ## Layouts -/

/-- The layout that `json.dumps` is asked for: the blanks behind the separators, the indent of a level, and
`ensure_ascii` and `sort_keys`. -/
structure Layout where
  ensureAscii : Bool := true
  sortKeys : Bool := false
  itemBlanks : ℕ := 1
  keyBlanks : ℕ := 1
  indent : Option ℕ := none

/-- `separators=(",", ":")` -/
def Layout.compact : Layout := { itemBlanks := 0, keyBlanks := 0 }

/-- `indent=n`, with which the item separator has no blank behind it -/
def Layout.indented (n : ℕ) : Layout := { itemBlanks := 0, indent := some n }

namespace Layout

variable (layout : Layout)

/-- The line break before an item of a level. -/
def newline (level : ℕ) : List Char :=
  match layout.indent with
  | none => []
  | some n => '\n' :: List.replicate (n * level) ' '

/-- `sorted(d.items())` if the keys are sorted -/
def order (fields : List (String × α)) : List (String × α) :=
  if layout.sortKeys then fields.insertionSort (·.1 ≤ ·.1) else fields

/-- The parts of an array or an object whose brackets stand on the level. -/
def enclose (level : ℕ) (opening closing : Char) (parts : List (List Char)) : List Char :=
  if parts.isEmpty then [opening, closing]
  else
    opening :: (layout.newline (level + 1) ++
      ((',' :: (List.replicate layout.itemBlanks ' ' ++ layout.newline (level + 1))).intercalate parts ++
        (layout.newline level ++ [closing])))

def field (name : String) (text : List Char) : List Char :=
  dumpsString layout.ensureAscii name ++ ':' :: (List.replicate layout.keyBlanks ' ' ++ text)

end Layout

mutual
/-- `json.dumps(value, ..)` of a value that stands on the level -/
def render (layout : Layout) (level : ℕ) : Json → List Char
  | null => "null".toList
  | bool true => "true".toList
  | bool false => "false".toList
  | number text => text.toList
  | str value => dumpsString layout.ensureAscii value
  | arr items => layout.enclose level '[' ']' (renderItems layout (level + 1) items)
  | obj fields =>
    layout.enclose level '\x7b' '\x7d'
      ((layout.order (renderFields layout (level + 1) fields)).map fun f => layout.field f.1 f.2)

def renderItems (layout : Layout) (level : ℕ) : List Json → List (List Char)
  | [] => []
  | item :: items => item.render layout level :: renderItems layout level items

def renderFields (layout : Layout) (level : ℕ) : List (String × Json) → List (String × List Char)
  | [] => []
  | (name, value) :: fields => (name, value.render layout level) :: renderFields layout level fields
end

/-- `json.dumps(value, ..)` -/
def dumpsText (layout : Layout) (value : Json) : String := String.ofList (value.render layout 0)

/-! ## Values that are read back -/

/-- The text of a number that is read as it stands. -/
def numberText (text : String) : Bool :=
  match scanOnce 0 1 text.toList with
  | .ok (number found, []) => found = text
  | _ => false

mutual
/-- The numbers of the value are numbers, and no object has a name twice. -/
def WellFormed : Json → Prop
  | number text => numberText text
  | arr items => ItemsWellFormed items
  | obj fields => (fields.map Prod.fst).Nodup ∧ FieldsWellFormed fields
  | _ => True

def ItemsWellFormed : List Json → Prop
  | [] => True
  | item :: items => item.WellFormed ∧ ItemsWellFormed items

def FieldsWellFormed : List (String × Json) → Prop
  | [] => True
  | (_, value) :: fields => value.WellFormed ∧ FieldsWellFormed fields
end

mutual
/-- How deep arrays and objects are nested. -/
def height : Json → ℕ
  | arr items => heightItems items + 1
  | obj fields => heightFields fields + 1
  | _ => 0

def heightItems : List Json → ℕ
  | [] => 0
  | item :: items => max item.height (heightItems items)

def heightFields : List (String × Json) → ℕ
  | [] => 0
  | (_, value) :: fields => max value.height (heightFields fields)
end

mutual
/-- The value with the fields of its objects in the order in which they are written. -/
def arranged (layout : Layout) : Json → Json
  | arr items => arr (arrangedItems layout items)
  | obj fields => obj (layout.order (arrangedFields layout fields))
  | value => value

def arrangedItems (layout : Layout) : List Json → List Json
  | [] => []
  | item :: items => item.arranged layout :: arrangedItems layout items

def arrangedFields (layout : Layout) : List (String × Json) → List (String × Json)
  | [] => []
  | (name, value) :: fields => (name, value.arranged layout) :: arrangedFields layout fields
end

example : dumpsText (Layout.indented 2) (obj [("a", arr [number "1", null]), ("b", obj [])]) =
    "\x7b\n  \"a\": [\n    1,\n    null\n  ],\n  \"b\": \x7b\x7d\n\x7d" := by decide

/-! ## Strings -/

theorem escapeChar_of_control {c : Char} {escaped : List Char} (h : escapeControl c = some escaped)
    (ensureAscii : Bool) : escapeChar ensureAscii c = escaped := by
  rw [escapeChar, h]

theorem escapeChar_false {c : Char} (h : escapeControl c = none) : escapeChar false c = [c] := by
  rw [escapeChar, h]
  rfl

/-- A character is read back from its escape, whether ASCII is ensured or not. -/
theorem scanChar_escape (ensureAscii : Bool) (c : Char) (rest : List Char) :
    scanChar (escapeChar ensureAscii c ++ rest) = some (c, rest) := by
  cases ensureAscii with
  | true => exact scanChar_escapeChar c rest
  | false =>
    cases hcontrol : escapeControl c with
    | some escaped =>
      rw [escapeChar_of_control hcontrol, ← escapeChar_of_control hcontrol true]
      exact scanChar_escapeChar c rest
    | none =>
      obtain ⟨-, hslash, hlarge⟩ := escapeControl_eq_none hcontrol
      rw [escapeChar_false hcontrol, List.singleton_append, scanChar.eq_4 _ _ (fun _ h => absurd h hslash)
        (fun _ _ h => absurd h hslash) (fun h => absurd h hslash), if_neg (by omega)]

theorem escape_head (ensureAscii : Bool) (c : Char) :
    ∃ first rest, escapeChar ensureAscii c = first :: rest ∧ first ≠ '"' := by
  cases ensureAscii with
  | true => exact escapeChar_head c
  | false =>
    cases hcontrol : escapeControl c with
    | some escaped =>
      rw [escapeChar_of_control hcontrol, ← escapeChar_of_control hcontrol true]
      exact escapeChar_head c
    | none => exact ⟨c, [], escapeChar_false hcontrol, (escapeControl_eq_none hcontrol).1⟩

theorem escape_ne_nil (ensureAscii : Bool) (c : Char) : escapeChar ensureAscii c ≠ [] := by
  obtain ⟨first, rest, heq, -⟩ := escape_head ensureAscii c
  rw [heq]
  exact List.cons_ne_nil _ _

theorem length_le_escape (ensureAscii : Bool) (s : List Char) :
    s.length ≤ (s.flatMap (escapeChar ensureAscii)).length := by
  induction s with
  | nil => exact Nat.le_refl _
  | cons c s ih =>
    have hpos := List.length_pos_iff.mpr (escape_ne_nil ensureAscii c)
    rw [List.flatMap_cons, List.length_append, List.length_cons]
    omega

theorem scanString_dumps (ensureAscii : Bool) {fuel : ℕ} {s : List Char} (hfuel : s.length < fuel) (rest : List Char) :
    scanString fuel (s.flatMap (escapeChar ensureAscii) ++ '"' :: rest) = .ok (s, rest) := by
  induction s generalizing fuel with
  | nil =>
    obtain ⟨fuel, rfl⟩ := Nat.exists_eq_add_of_lt hfuel
    rfl
  | cons c s ih =>
    obtain ⟨fuel, rfl⟩ : ∃ n, fuel = n + 1 := ⟨fuel - 1, by omega⟩
    have hscan := scanChar_escape ensureAscii c (s.flatMap (escapeChar ensureAscii) ++ '"' :: rest)
    obtain ⟨first, tail, hescape, hquote⟩ := escape_head ensureAscii c
    rw [List.flatMap_cons, List.append_assoc]
    rw [hescape, List.cons_append] at hscan ⊢
    rw [scanString.eq_3 _ fuel (fun _ h => hquote (List.cons.inj h).1), hscan]
    simp only [ih (Nat.lt_of_succ_lt_succ hfuel), bind, Except.bind, pure, Except.pure]

/-- The string whose dump starts the text. -/
theorem scanString_dumpsString (ensureAscii : Bool) (s : String) (rest : List Char) :
    let body := s.toList.flatMap (escapeChar ensureAscii) ++ '"' :: rest
    dumpsString ensureAscii s ++ rest = '"' :: body ∧ scanString body.length body = .ok (s.toList, rest) := by
  refine ⟨by simp [dumpsString], scanString_dumps ensureAscii ?_ rest⟩
  have hle := length_le_escape ensureAscii s.toList
  rw [List.length_append, List.length_cons]
  omega

/-! ## Numbers -/

/-- What may stand behind a value in a text. -/
def Ends (rest : List Char) : Prop := ∀ c ∈ rest.head?, c ∈ [',', ']', '\x7d', ' ', '\t', '\n', '\r']

theorem Ends.cons {c : Char} (h : c ∈ [',', ']', '\x7d', ' ', '\t', '\n', '\r']) (rest : List Char) :
    Ends (c :: rest) := by
  intro d hd
  obtain rfl := Option.some.inj hd
  exact h

theorem ends_nil : Ends [] := by
  intro c hc
  cases hc

theorem takeWhile_append_of_head {p : Char → Bool} {rest : List Char} (h : ∀ c ∈ rest.head?, p c = false)
    (s : List Char) : (s ++ rest).takeWhile p = s.takeWhile p := by
  induction s with
  | nil =>
    cases rest with
    | nil => rfl
    | cons c rest =>
      rw [List.nil_append, List.takeWhile_cons, h c rfl]
      rfl
  | cons c s ih =>
    rw [List.cons_append, List.takeWhile_cons, List.takeWhile_cons, ih]

theorem dropWhile_append_of_head {p : Char → Bool} {rest : List Char} (h : ∀ c ∈ rest.head?, p c = false)
    (s : List Char) : (s ++ rest).dropWhile p = s.dropWhile p ++ rest := by
  induction s with
  | nil =>
    cases rest with
    | nil => rfl
    | cons c rest =>
      rw [List.nil_append, List.dropWhile_cons, h c rfl]
      rfl
  | cons c s ih =>
    rw [List.cons_append, List.dropWhile_cons, List.dropWhile_cons, ih]
    split <;> rfl

theorem Ends.head_false {p : Char → Bool} {rest : List Char} (h : Ends rest)
    (hp : ∀ c ∈ [',', ']', '\x7d', ' ', '\t', '\n', '\r'], p c = false) : ∀ c ∈ rest.head?, p c = false :=
  fun c hc => hp c (h c hc)

theorem Ends.not_digit {rest : List Char} (h : Ends rest) : ∀ c ∈ rest.head?, c.isDigit = false :=
  h.head_false (by decide)

theorem scanDigits_append {rest : List Char} (h : Ends rest) (lead s : List Char) :
    scanDigits lead (s ++ rest) = ((scanDigits lead s).1, (scanDigits lead s).2 ++ rest) := by
  unfold scanDigits
  rw [takeWhile_append_of_head h.not_digit, dropWhile_append_of_head h.not_digit]
  split
  · rw [List.append_assoc]
  · rfl

theorem scanFraction_append {rest : List Char} (h : Ends rest) (s : List Char) :
    scanFraction (s ++ rest) = ((scanFraction s).1, (scanFraction s).2 ++ rest) := by
  cases s with
  | nil =>
    cases rest with
    | nil => rfl
    | cons c rest =>
      have hdot : c ≠ '.' := by
        rintro rfl
        exact absurd (h '.' rfl) (by decide)
      rw [List.nil_append, scanFraction.eq_2 (c :: rest) (fun _ heq => hdot (List.cons.inj heq).1)]
      rfl
  | cons c s =>
    by_cases hdot : c = '.'
    · subst hdot
      exact scanDigits_append h ['.'] s
    · rw [List.cons_append, scanFraction.eq_2 _ (fun _ heq => hdot (List.cons.inj heq).1),
        scanFraction.eq_2 _ (fun _ heq => hdot (List.cons.inj heq).1)]
      rfl

theorem scanExponent_of_head {s : List Char} (h : ∀ c ∈ s.head?, c ≠ 'e' ∧ c ≠ 'E') : scanExponent s = ([], s) := by
  cases s with
  | nil => rfl
  | cons c s =>
    cases s with
    | nil => rfl
    | cons sign s =>
      obtain ⟨hlower, hupper⟩ := h c rfl
      simp [scanExponent, hlower, hupper]

theorem scanDigits_of_head {s lead : List Char} (h : ∀ c ∈ s.head?, c.isDigit = false) :
    scanDigits lead s = ([], lead ++ s) := by
  have htake : s.takeWhile Char.isDigit = [] := by
    cases s with
    | nil => rfl
    | cons c s => rw [List.takeWhile_cons, h c rfl, if_neg Bool.false_ne_true]
  rw [scanDigits, htake]

theorem scanExponent_append {rest : List Char} (h : Ends rest) (s : List Char) :
    scanExponent (s ++ rest) = ((scanExponent s).1, (scanExponent s).2 ++ rest) := by
  have hhead : ∀ c ∈ rest.head?, c ≠ 'e' ∧ c ≠ 'E' := fun c hc => by
    have hmem := h c hc
    constructor <;> rintro rfl <;> exact absurd hmem (by decide)
  match s with
  | [] => rw [List.nil_append, scanExponent_of_head hhead]; rfl
  | [e] =>
    cases rest with
    | nil => rfl
    | cons c rest =>
      -- one character without what an exponent needs behind it
      have hsign : c ≠ '-' ∧ c ≠ '+' := by
        have hmem := h c rfl
        constructor <;> rintro rfl <;> exact absurd hmem (by decide)
      have hdigits : scanDigits [e] (c :: rest) = ([], [e] ++ c :: rest) := scanDigits_of_head h.not_digit
      simp [scanExponent, hsign.1, hsign.2, hdigits]
  | e :: sign :: s =>
    simp only [List.cons_append, scanExponent]
    split_ifs
    · exact scanDigits_append h [e, sign] s
    · exact scanDigits_append h [e] (sign :: s)
    · rfl

theorem scanInteger_append {rest s integer behind : List Char} (h : Ends rest)
    (hscan : scanInteger s = some (integer, behind)) :
    scanInteger (s ++ rest) = some (integer, behind ++ rest) := by
  cases s with
  | nil => cases hscan
  | cons c s =>
    by_cases hzero : c = '0'
    · subst hzero
      cases hscan
      rfl
    · rw [List.cons_append, scanInteger.eq_2 _ _ (fun heq => hzero heq)]
      rw [scanInteger.eq_2 _ _ (fun heq => hzero heq)] at hscan
      split at hscan
      · rename_i hdigit
        cases hscan
        rw [if_pos hdigit, takeWhile_append_of_head h.not_digit, dropWhile_append_of_head h.not_digit]
      · cases hscan

theorem scanNumber_append {rest s : List Char} {value : Json} (h : Ends rest)
    (hscan : scanNumber s = .ok (value, [])) : scanNumber (s ++ rest) = .ok (value, rest) := by
  have hminus : ∀ c ∈ rest.head?, decide (c = '-') = false := h.head_false (by decide)
  have hlength : (s.takeWhile (· = '-')).length ≤ s.length := (List.takeWhile_prefix _).length_le
  unfold scanNumber at hscan ⊢
  dsimp only at hscan ⊢
  rw [takeWhile_append_of_head hminus, List.drop_append_of_le_length hlength]
  generalize s.takeWhile (· = '-') = sign at *
  split at hscan
  · cases hscan
  · rename_i integer behind hinteger
    split at hinteger
    · rename_i hsign
      rw [if_pos hsign, scanInteger_append h hinteger]
      simp only [scanFraction_append h, scanExponent_append h] at hscan ⊢
      split at hscan
      · cases hscan
      · rename_i hdigits
        rw [if_neg hdigits]
        obtain ⟨hvalue, hnil⟩ := Prod.mk.inj (Except.ok.inj hscan)
        rw [hvalue, hnil, List.nil_append]
    · cases hinteger

/-- A number begins with a digit, behind a sign or not. -/
theorem scanNumber_head {s rest : List Char} {value : Json} (h : scanNumber s = .ok (value, rest)) :
    ∃ d tail, d.isDigit ∧ (s = d :: tail ∨ s = '-' :: d :: tail) := by
  have hdigit {t integer behind : List Char} (hscan : scanInteger t = some (integer, behind)) :
      ∃ d tail, d.isDigit ∧ t = d :: tail := by
    cases t with
    | nil => cases hscan
    | cons c t =>
      by_cases hzero : c = '0'
      · exact ⟨c, t, hzero ▸ by decide, rfl⟩
      · rw [scanInteger.eq_2 _ _ (fun heq => hzero heq)] at hscan
        split at hscan
        · exact ⟨c, t, ‹_›, rfl⟩
        · cases hscan
  unfold scanNumber at h
  dsimp only at h
  split at h
  · cases h
  · rename_i integer behind hinteger
    split at hinteger
    · rename_i hsign
      obtain ⟨d, tail, hd, hdrop⟩ := hdigit hinteger
      have hs : s.takeWhile (· = '-') ++ d :: tail = s :=
        hdrop ▸ List.prefix_iff_eq_append.mp (List.takeWhile_prefix _)
      refine ⟨d, tail, hd, ?_⟩
      cases hminus : s.takeWhile (· = '-') with
      | nil => exact .inl (by rw [← hs, hminus]; rfl)
      | cons c signs =>
        rw [hminus, List.length_cons] at hsign
        obtain rfl := List.length_eq_zero_iff.mp (Nat.le_zero.mp (Nat.le_of_succ_le_succ hsign))
        have hc : c = '-' := by
          have hall := List.all_takeWhile (p := fun c => decide (c = '-')) (l := s)
          rw [hminus, List.all_cons, Bool.and_eq_true] at hall
          exact of_decide_eq_true hall.1
        exact .inr (by rw [← hs, hminus, hc]; rfl)
    · cases hinteger

theorem scanConstant_of_digit {d : Char} (hd : d.isDigit) (tail : List Char) :
    scanConstant (d :: tail) = none ∧ scanConstant ('-' :: d :: tail) = none := by
  have hne : d ≠ 'n' ∧ d ≠ 't' ∧ d ≠ 'f' ∧ d ≠ 'N' ∧ d ≠ 'I' ∧ d ≠ '-' := by
    refine ⟨?_, ?_, ?_, ?_, ?_, ?_⟩ <;> rintro rfl <;> exact absurd hd (by decide)
  obtain ⟨h1, h2, h3, h4, h5, h6⟩ := hne
  constructor
  · simp [scanConstant, constants, h1.symm, h2.symm, h3.symm, h4.symm, h5.symm, h6.symm]
  · simp [scanConstant, constants, h5.symm]

theorem eq_of_scanConstant {s : List Char} {value : Json} (h : scanConstant s = some (value, [])) :
    ∃ text, (text, value) ∈ constants ∧ s = text.toList := by
  obtain ⟨⟨text, found⟩, hmem, hfound⟩ := List.exists_of_findSome?_eq_some h
  dsimp only at hfound
  split at hfound
  · rename_i hprefix
    obtain ⟨hvalue, hdrop⟩ := Prod.mk.inj (Option.some.inj hfound)
    have happend := List.prefix_iff_eq_append.mp (List.isPrefixOf_iff_prefix.mp hprefix)
    rw [hdrop, List.append_nil] at happend
    exact ⟨text, hvalue ▸ hmem, happend.symm⟩
  · cases hfound

theorem scanConstant_append {s : List Char} {value : Json} (h : scanConstant s = some (value, []))
    (rest : List Char) : scanConstant (s ++ rest) = some (value, rest) := by
  obtain ⟨text, hmem, rfl⟩ := eq_of_scanConstant h
  simp only [constants, List.mem_cons, List.not_mem_nil, or_false, Prod.mk.injEq] at hmem
  rcases hmem with ⟨rfl, rfl⟩ | ⟨rfl, rfl⟩ | ⟨rfl, rfl⟩ | ⟨rfl, rfl⟩ | ⟨rfl, rfl⟩ | ⟨rfl, rfl⟩ <;> rfl

/-- A value that is no string, array or object is read as a constant or else as a number. -/
theorem scanOnce_scalar {depth fuel : ℕ} {s : List Char}
    (h : ∀ c ∈ s.head?, c ≠ '"' ∧ c ≠ '[' ∧ c ≠ '\x7b') :
    scanOnce depth (fuel + 1) s = (scanConstant s).elim (scanNumber s) .ok := by
  cases s with
  | nil => rfl
  | cons c s =>
    obtain ⟨hquote, hbracket, hbrace⟩ := h c rfl
    rw [scanOnce.eq_7 _ _ _ (fun _ heq => hquote (List.cons.inj heq).1) (fun _ heq => hbracket (List.cons.inj heq).1)
      (fun _ heq => hbrace (List.cons.inj heq).1)]

theorem exists_of_numberText {text : String} (h : numberText text) :
    scanOnce 0 1 text.toList = .ok (number text, []) := by
  unfold numberText at h
  split at h
  · rename_i found hscan
    rw [hscan, of_decide_eq_true h]
  · cases h

/-- Blanks, closing brackets and the byte order mark, with which no value begins. -/
def neverFirst : List Char := [' ', '\t', '\n', '\r', ']', '\x7d', Char.ofNat 0xfeff]

/-- What a value begins with. -/
def Starts (s : List Char) : Prop := ∃ c tail, s = c :: tail ∧ c ∉ neverFirst

theorem starts_cons {c : Char} (h : c ∉ neverFirst) (tail : List Char) :
    Starts (c :: tail) := ⟨c, tail, rfl, h⟩

theorem skipSpace_of_starts {s : List Char} (h : Starts s) : skipSpace s = s := by
  obtain ⟨c, tail, rfl, hc⟩ := h
  have hspace : c ∉ [' ', '\t', '\n', '\r'] := fun hmem =>
    hc (List.mem_append_left [']', '\x7d', Char.ofNat 0xfeff] hmem)
  rw [skipSpace, List.dropWhile_cons, if_neg (by simpa using hspace)]

theorem not_opening_of_digit {d : Char} (hd : d.isDigit) :
    d ∉ neverFirst ∧ d ≠ '"' ∧ d ≠ '[' ∧ d ≠ '\x7b' := by
  refine ⟨fun hmem => ?_, ?_, ?_, ?_⟩
  · simp only [neverFirst, List.mem_cons, List.not_mem_nil, or_false] at hmem
    rcases hmem with rfl | rfl | rfl | rfl | rfl | rfl | rfl <;> exact absurd hd (by decide)
  all_goals rintro rfl; exact absurd hd (by decide)

/-- What the text of a number is. -/
theorem numberText_cases {text : String} (h : numberText text) :
    (number text ∈ constants.map Prod.snd ∧ scanConstant text.toList = some (number text, [])) ∨
      scanNumber text.toList = .ok (number text, []) := by
  have hscan := exists_of_numberText h
  by_cases hscalar : ∀ c ∈ text.toList.head?, c ≠ '"' ∧ c ≠ '[' ∧ c ≠ '\x7b'
  · rw [scanOnce_scalar hscalar] at hscan
    cases hconstant : scanConstant text.toList with
    | none => exact .inr (by rwa [hconstant] at hscan)
    | some found =>
      rw [hconstant] at hscan
      obtain rfl := Except.ok.inj hscan
      obtain ⟨constant, hmem, -⟩ := eq_of_scanConstant hconstant
      exact .inl ⟨List.mem_map.mpr ⟨_, hmem, rfl⟩, rfl⟩
  · -- a string, an array or an object is no number
    exfalso
    simp only [not_forall] at hscalar
    obtain ⟨c, hc, hnot⟩ := hscalar
    obtain ⟨tail, htext⟩ : ∃ tail, text.toList = c :: tail := List.head?_eq_some_iff.mp hc
    rw [htext] at hscan
    by_cases hquote : c = '"'
    · subst hquote
      rw [scanOnce.eq_2] at hscan
      cases hstring : scanString tail.length tail with
      | error e => simp [hstring, bind, Except.bind] at hscan
      | ok found => simp [hstring, bind, Except.bind, pure, Except.pure] at hscan
    · by_cases hbracket : c = '['
      · subst hbracket
        rw [scanOnce.eq_3] at hscan
        cases hscan
      · by_cases hbrace : c = '\x7b'
        · subst hbrace
          rw [scanOnce.eq_5] at hscan
          cases hscan
        · exact hnot ⟨hquote, hbracket, hbrace⟩

theorem scanOnce_number {text : String} (h : numberText text) {rest : List Char} (hrest : Ends rest) (depth fuel : ℕ) :
    scanOnce depth (fuel + 1) (text.toList ++ rest) = .ok (number text, rest) ∧ Starts text.toList := by
  rcases numberText_cases h with ⟨hmem, hconstant⟩ | hnumber
  · obtain ⟨constant, hconst, heq⟩ := eq_of_scanConstant hconstant
    simp only [constants, List.mem_cons, List.not_mem_nil, or_false, Prod.mk.injEq, reduceCtorEq, and_false,
      false_or, number.injEq] at hconst
    have hhead : ∃ c tail, text.toList = c :: tail ∧ c ∈ ['N', 'I', '-'] := by
      rcases hconst with ⟨-, rfl⟩ | ⟨-, rfl⟩ | ⟨-, rfl⟩
      · exact ⟨'N', _, rfl, by decide⟩
      · exact ⟨'I', _, rfl, by decide⟩
      · exact ⟨'-', _, rfl, by decide⟩
    obtain ⟨c, tail, htext, hc⟩ := hhead
    have happend := scanConstant_append hconstant rest
    rw [htext, List.cons_append] at happend ⊢
    simp only [List.mem_cons, List.not_mem_nil, or_false] at hc
    constructor
    · rw [scanOnce_scalar, happend]
      · rfl
      · intro d hd
        obtain rfl := Option.some.inj hd
        rcases hc with rfl | rfl | rfl <;> decide
    · exact starts_cons (by rcases hc with rfl | rfl | rfl <;> decide) tail
  · have happend := scanNumber_append hrest hnumber
    obtain ⟨d, tail, hd, hs⟩ := scanNumber_head hnumber
    obtain ⟨hstart, hquote, hbracket, hbrace⟩ := not_opening_of_digit hd
    obtain ⟨hconst, hconst'⟩ := scanConstant_of_digit hd (tail ++ rest)
    rcases hs with hs | hs
    · rw [hs, List.cons_append] at happend ⊢
      refine ⟨?_, starts_cons hstart tail⟩
      rw [scanOnce_scalar, hconst, happend]
      · rfl
      · intro c hc
        obtain rfl := Option.some.inj hc
        exact ⟨hquote, hbracket, hbrace⟩
    · rw [hs, List.cons_append, List.cons_append] at happend ⊢
      refine ⟨?_, starts_cons (by decide) _⟩
      rw [scanOnce_scalar, hconst', happend]
      · rfl
      · intro c hc
        obtain rfl := Option.some.inj hc
        decide

/-! ## Arrays and objects -/

/-- The text is read as the value, whatever stands behind it. -/
structure Reads (nesting : ℕ) (text : List Char) (value : Json) : Prop where
  starts : Starts text
  scan : ∀ {depth fuel : ℕ} {rest : List Char}, nesting ≤ depth → Ends rest →
    2 * (text ++ rest).length + 1 ≤ fuel → scanOnce depth fuel (text ++ rest) = .ok (value, rest)

theorem Reads.mono {nesting nesting' : ℕ} {text : List Char} {value : Json} (h : Reads nesting text value)
    (hle : nesting ≤ nesting') : Reads nesting' text value :=
  ⟨h.starts, fun hdepth => h.scan (hle.trans hdepth)⟩

theorem reads_constant {text : String} {value : Json} (hstarts : Starts text.toList)
    (hconstant : scanConstant text.toList = some (value, []))
    (hhead : ∀ c ∈ text.toList.head?, c ≠ '"' ∧ c ≠ '[' ∧ c ≠ '\x7b') : Reads 0 text.toList value := by
  refine ⟨hstarts, fun {_ fuel rest} _ _ hfuel => ?_⟩
  obtain ⟨fuel, rfl⟩ : ∃ n, fuel = n + 1 := ⟨fuel - 1, by omega⟩
  obtain ⟨c, tail, htext, -⟩ := hstarts
  have happend := scanConstant_append hconstant rest
  rw [htext] at hhead
  rw [htext, List.cons_append] at happend ⊢
  rw [scanOnce_scalar (s := c :: (tail ++ rest)) hhead, happend]
  rfl

theorem reads_number {text : String} (h : numberText text) : Reads 0 text.toList (number text) := by
  refine ⟨(scanOnce_number h ends_nil 0 0).2, fun {depth fuel rest} _ hrest hfuel => ?_⟩
  obtain ⟨fuel, rfl⟩ : ∃ n, fuel = n + 1 := ⟨fuel - 1, by omega⟩
  exact (scanOnce_number h hrest depth fuel).1

theorem reads_str (ensureAscii : Bool) (value : String) : Reads 0 (dumpsString ensureAscii value) (str value) := by
  refine ⟨starts_cons (by decide) _, fun {depth fuel rest} _ _ hfuel => ?_⟩
  obtain ⟨fuel, rfl⟩ : ∃ n, fuel = n + 1 := ⟨fuel - 1, by omega⟩
  obtain ⟨htext, hscan⟩ := scanString_dumpsString ensureAscii value rest
  rw [htext, scanOnce.eq_2, hscan]
  simp only [bind, Except.bind, pure, Except.pure, String.ofList_toList]

def Blank (s : List Char) : Prop := ∀ c ∈ s, c ∈ [' ', '\t', '\n', '\r']

theorem blank_replicate (n : ℕ) : Blank (List.replicate n ' ') := by
  intro c hc
  rw [List.eq_of_mem_replicate hc]
  decide

theorem Blank.append {s t : List Char} (hs : Blank s) (ht : Blank t) : Blank (s ++ t) :=
  List.forall_mem_append.mpr ⟨hs, ht⟩

theorem Layout.blank_newline (layout : Layout) (level : ℕ) : Blank (layout.newline level) := by
  unfold Layout.newline
  split
  · exact List.forall_mem_nil _
  · exact List.forall_mem_cons.mpr ⟨by decide, blank_replicate _⟩

theorem skipSpace_append {w : List Char} (hw : Blank w) (s : List Char) : skipSpace (w ++ s) = skipSpace s := by
  have hall : ∀ c ∈ w, decide (c ∈ [' ', '\t', '\n', '\r']) = true := fun c hc => decide_eq_true (hw c hc)
  exact List.dropWhile_append_of_pos hall

theorem skipSpace_blank_starts {w s : List Char} (hw : Blank w) (hs : Starts s) (rest : List Char) :
    skipSpace (w ++ (s ++ rest)) = s ++ rest := by
  obtain ⟨c, tail, rfl, hc⟩ := hs
  rw [skipSpace_append hw, List.cons_append, skipSpace_of_starts (starts_cons hc _)]

theorem skipSpace_closing {w : List Char} (hw : Blank w) {c : Char} (hc : c ∈ [',', ':', ']', '\x7d'])
    (rest : List Char) : skipSpace (w ++ c :: rest) = c :: rest := by
  have hspace : c ∉ [' ', '\t', '\n', '\r'] := by
    simp only [List.mem_cons, List.not_mem_nil, or_false] at hc
    rcases hc with rfl | rfl | rfl | rfl <;> decide
  rw [skipSpace_append hw, skipSpace, List.dropWhile_cons, if_neg (by simpa using hspace)]

theorem ends_closing {w : List Char} (hw : Blank w) {c : Char} (hc : c ∈ [',', ']', '\x7d']) (rest : List Char) :
    Ends (w ++ c :: rest) := by
  cases w with
  | nil => exact Ends.cons (List.mem_append_left [' ', '\t', '\n', '\r'] hc) rest
  | cons d w => exact Ends.cons (List.mem_append_right [',', ']', '\x7d'] (hw d List.mem_cons_self)) _

theorem starts_intercalate {sep part : List Char} (h : Starts part) (parts : List (List Char)) :
    Starts (sep.intercalate (part :: parts)) := by
  obtain ⟨c, tail, rfl, hc⟩ := h
  exact ⟨c, _, List.intercalate_cons_cons_left, hc⟩

/-- The items of an array, up to its closing bracket. -/
theorem scanItems_joined {depth nesting : ℕ} {gap closing : List Char} {parts : List (List Char × Json)}
    (hgap : Blank gap) (hclosing : Blank closing) (hdepth : nesting ≤ depth) (hne : parts ≠ [])
    (hparts : ∀ part ∈ parts, Reads nesting part.1 part.2) {fuel : ℕ} {rest : List Char}
    (hfuel : 2 * ((',' :: gap).intercalate (parts.map Prod.fst) ++ (closing ++ ']' :: rest)).length + 2 ≤ fuel) :
    scanItems depth fuel ((',' :: gap).intercalate (parts.map Prod.fst) ++ (closing ++ ']' :: rest)) =
      .ok (parts.map Prod.snd, rest) := by
  induction parts generalizing fuel with
  | nil => exact absurd rfl hne
  | cons part parts ih =>
    obtain ⟨fuel, rfl⟩ : ∃ n, fuel = n + 1 := ⟨fuel - 1, by omega⟩
    have hpart := hparts part List.mem_cons_self
    have hrest : ∀ other ∈ parts, Reads nesting other.1 other.2 :=
      fun other hother => hparts other (List.mem_cons_of_mem _ hother)
    by_cases hlast : parts = []
    · subst hlast
      rw [List.map_singleton, List.intercalate_singleton] at hfuel ⊢
      rw [scanItems, hpart.scan hdepth (ends_closing hclosing (by decide) rest) (by omega)]
      simp only [bind, Except.bind, skipSpace_closing hclosing (c := ']') (by decide), pure, Except.pure,
        List.map_singleton]
    · have hmap : parts.map Prod.fst ≠ [] := fun h => hlast (List.map_eq_nil_iff.mp h)
      have hnext : Starts ((',' :: gap).intercalate (parts.map Prod.fst)) := by
        cases parts with
        | nil => exact absurd rfl hlast
        | cons next parts => exact starts_intercalate (hrest next List.mem_cons_self).starts _
      rw [List.map_cons, List.intercalate_cons_of_ne_nil hmap, List.append_assoc, List.append_assoc,
        List.cons_append] at hfuel ⊢
      have hlength := hfuel
      rw [List.length_append, List.length_cons, List.length_append] at hlength
      have hcomma := skipSpace_closing (List.forall_mem_nil _) (c := ',') (by decide)
        (gap ++ ((',' :: gap).intercalate (parts.map Prod.fst) ++ (closing ++ ']' :: rest)))
      rw [List.nil_append] at hcomma
      rw [scanItems, hpart.scan hdepth (Ends.cons (by decide) _) (by omega)]
      simp only [bind, Except.bind, hcomma, skipSpace_blank_starts hgap hnext]
      rw [ih hlast hrest (by omega)]
      rfl

/-- One field of an object, with what stands behind it left free. -/
theorem scanFields_field {layout : Layout} {depth nesting fuel : ℕ} {known : List (String × Json)} {name : String}
    {text behind rest : List Char} {value : Json} (hread : Reads nesting text value) (hdepth : nesting ≤ depth)
    (hbehind : Ends behind) (hfuel : 2 * (layout.field name text ++ behind).length + 2 ≤ fuel + 1) :
    (skipSpace behind = ',' :: rest →
      scanFields depth (fuel + 1) known (layout.field name text ++ behind) =
        scanFields depth fuel (setField name value known) (skipSpace rest)) ∧
    (skipSpace behind = '\x7d' :: rest →
      scanFields depth (fuel + 1) known (layout.field name text ++ behind) =
        .ok (setField name value known, rest)) := by
  obtain ⟨hname, hscan⟩ := scanString_dumpsString layout.ensureAscii name
    (':' :: (List.replicate layout.keyBlanks ' ' ++ (text ++ behind)))
  have htext : layout.field name text ++ behind = dumpsString layout.ensureAscii name ++
      (':' :: (List.replicate layout.keyBlanks ' ' ++ (text ++ behind))) := by
    simp only [Layout.field, List.append_assoc, List.cons_append]
  have hcolon (t : List Char) : skipSpace (':' :: t) = ':' :: t :=
    skipSpace_closing (List.forall_mem_nil _) (by decide) t
  have hvalue : 2 * (text ++ behind).length + 1 ≤ fuel := by
    rw [htext, List.length_append, List.length_cons, List.length_append] at hfuel
    omega
  constructor
  · intro hcomma
    rw [htext, hname, scanFields, hscan]
    simp only [bind, Except.bind, hcolon, skipSpace_blank_starts (blank_replicate _) hread.starts,
      hread.scan hdepth hbehind hvalue, String.ofList_toList, hcomma]
  · intro hbrace
    rw [htext, hname, scanFields, hscan]
    simp only [bind, Except.bind, hcolon, skipSpace_blank_starts (blank_replicate _) hread.starts,
      hread.scan hdepth hbehind hvalue, String.ofList_toList, hbrace, pure, Except.pure]

/-- The fields of an object, up to its closing brace. -/
theorem scanFields_joined {layout : Layout} {depth nesting : ℕ} {gap closing : List Char}
    {parts : List (String × List Char × Json)} (hgap : Blank gap) (hclosing : Blank closing)
    (hdepth : nesting ≤ depth) (hne : parts ≠ []) (hparts : ∀ part ∈ parts, Reads nesting part.2.1 part.2.2)
    {fuel : ℕ} {rest : List Char}
    (hfuel : 2 * ((',' :: gap).intercalate (parts.map fun part => layout.field part.1 part.2.1) ++
      (closing ++ '\x7d' :: rest)).length + 2 ≤ fuel) (known : List (String × Json)) :
    scanFields depth fuel known ((',' :: gap).intercalate (parts.map fun part => layout.field part.1 part.2.1) ++
        (closing ++ '\x7d' :: rest)) =
      .ok (parts.foldl (fun fields part => setField part.1 part.2.2 fields) known, rest) := by
  induction parts generalizing fuel known with
  | nil => exact absurd rfl hne
  | cons part parts ih =>
    obtain ⟨fuel, rfl⟩ : ∃ n, fuel = n + 1 := ⟨fuel - 1, by omega⟩
    have hpart := hparts part List.mem_cons_self
    have hrest : ∀ other ∈ parts, Reads nesting other.2.1 other.2.2 :=
      fun other hother => hparts other (List.mem_cons_of_mem _ hother)
    by_cases hlast : parts = []
    · subst hlast
      rw [List.map_singleton, List.intercalate_singleton] at hfuel ⊢
      exact (scanFields_field hpart hdepth (ends_closing hclosing (by decide) rest) hfuel).2
        (skipSpace_closing hclosing (by decide) rest)
    · have hmap : parts.map (fun part => layout.field part.1 part.2.1) ≠ [] := fun h => hlast (List.map_eq_nil_iff.mp h)
      have hnext : Starts ((',' :: gap).intercalate (parts.map fun part => layout.field part.1 part.2.1)) := by
        cases parts with
        | nil => exact absurd rfl hlast
        | cons next parts => exact starts_intercalate (starts_cons (by decide) _) _
      rw [List.map_cons, List.intercalate_cons_of_ne_nil hmap, List.append_assoc, List.append_assoc,
        List.cons_append] at hfuel ⊢
      have hlength := hfuel
      rw [List.length_append, List.length_cons, List.length_append] at hlength
      have hcomma := skipSpace_closing (List.forall_mem_nil _) (c := ',') (by decide)
        (gap ++ ((',' :: gap).intercalate (parts.map fun part => layout.field part.1 part.2.1) ++
          (closing ++ '\x7d' :: rest)))
      rw [(scanFields_field hpart hdepth (Ends.cons (by decide) _) hfuel).1 hcomma, skipSpace_blank_starts hgap hnext,
        ih hlast hrest (by omega)]
      rfl

/-- Fields of distinct names are put down as they come. -/
theorem foldl_setField {fields known : List (String × Json)} (hnodup : ((known ++ fields).map Prod.fst).Nodup) :
    fields.foldl (fun known field => setField field.1 field.2 known) known = known ++ fields := by
  induction fields generalizing known with
  | nil => rw [List.foldl_nil, List.append_nil]
  | cons field fields ih =>
    have hnew : known.any (·.1 = field.1) = false := by
      rw [List.any_eq_false]
      intro other hother
      rw [decide_eq_true_iff]
      rw [List.map_append, List.nodup_append] at hnodup
      exact hnodup.2.2 _ (List.mem_map_of_mem hother) _ (List.mem_map_of_mem List.mem_cons_self)
    have hset : setField field.1 field.2 known = known ++ [field] := by
      rw [setField, hnew]
      rfl
    rw [List.foldl_cons, hset, ih (by rwa [List.append_assoc]), List.append_assoc]
    rfl

theorem Layout.blank_gap (layout : Layout) (level : ℕ) :
    Blank (List.replicate layout.itemBlanks ' ' ++ layout.newline level) :=
  (blank_replicate _).append (layout.blank_newline level)

theorem Layout.enclose_append {parts : List (List Char)} (hne : parts ≠ []) (layout : Layout) (level : ℕ)
    (opening closing : Char) (rest : List Char) :
    layout.enclose level opening closing parts ++ rest =
      opening :: (layout.newline (level + 1) ++
        ((',' :: (List.replicate layout.itemBlanks ' ' ++ layout.newline (level + 1))).intercalate parts ++
          (layout.newline level ++ closing :: rest))) := by
  rw [Layout.enclose, if_neg (by simpa using hne)]
  simp only [List.cons_append, List.append_assoc, List.nil_append]

theorem Layout.enclose_nil (layout : Layout) (level : ℕ) (opening closing : Char) (rest : List Char) :
    layout.enclose level opening closing [] ++ rest = opening :: closing :: rest := rfl

theorem starts_enclose (layout : Layout) (level : ℕ) {opening : Char}
    (h : opening ∉ neverFirst) (closing : Char) (parts : List (List Char)) :
    Starts (layout.enclose level opening closing parts) := by
  unfold Layout.enclose
  split <;> exact starts_cons h _

theorem reads_arr {layout : Layout} {level nesting : ℕ} {parts : List (List Char × Json)}
    (hparts : ∀ part ∈ parts, Reads nesting part.1 part.2) :
    Reads (nesting + 1) (layout.enclose level '[' ']' (parts.map Prod.fst)) (arr (parts.map Prod.snd)) := by
  refine ⟨starts_enclose layout level (by decide) _ _, fun {depth fuel rest} hdepth _ hfuel => ?_⟩
  obtain ⟨depth, rfl⟩ : ∃ n, depth = n + 1 := ⟨depth - 1, by omega⟩
  obtain ⟨fuel, rfl⟩ : ∃ n, fuel = n + 1 := ⟨fuel - 1, by omega⟩
  by_cases hne : parts = []
  · subst hne
    have hclosing := skipSpace_closing (List.forall_mem_nil _) (c := ']') (by decide) rest
    rw [List.nil_append] at hclosing
    rw [List.map_nil, Layout.enclose_nil, scanOnce.eq_4, hclosing]
    rfl
  · have hmap : parts.map Prod.fst ≠ [] := fun h => hne (List.map_eq_nil_iff.mp h)
    obtain ⟨part, others, rfl⟩ := List.exists_cons_of_ne_nil hne
    have hstarts : Starts ((',' :: (List.replicate layout.itemBlanks ' ' ++ layout.newline (level + 1))).intercalate
        ((part :: others).map Prod.fst)) := starts_intercalate (hparts part List.mem_cons_self).starts _
    rw [Layout.enclose_append hmap] at hfuel ⊢
    have hlength : 2 * ((',' :: (List.replicate layout.itemBlanks ' ' ++ layout.newline (level + 1))).intercalate
        ((part :: others).map Prod.fst) ++ (layout.newline level ++ ']' :: rest)).length + 2 ≤ fuel := by
      rw [List.length_cons, List.length_append] at hfuel
      omega
    have hscan := scanItems_joined (layout.blank_gap (level + 1)) (layout.blank_newline level)
      (Nat.le_of_succ_le_succ hdepth) hne hparts hlength
    rw [scanOnce.eq_4, skipSpace_blank_starts (layout.blank_newline _) hstarts]
    obtain ⟨c, tail, hjoined, hc⟩ := hstarts
    rw [hjoined, List.cons_append] at hscan ⊢
    split
    · rename_i hbracket
      exact absurd (List.cons.inj hbracket).1 fun heq => hc (by rw [heq]; decide)
    · rw [hscan]
      rfl

theorem reads_obj {layout : Layout} {level nesting : ℕ} {parts : List (String × List Char × Json)}
    (hnodup : (parts.map Prod.fst).Nodup) (hparts : ∀ part ∈ parts, Reads nesting part.2.1 part.2.2) :
    Reads (nesting + 1)
      (layout.enclose level '\x7b' '\x7d' (parts.map fun part => layout.field part.1 part.2.1))
      (obj (parts.map fun part => (part.1, part.2.2))) := by
  refine ⟨starts_enclose layout level (by decide) _ _, fun {depth fuel rest} hdepth _ hfuel => ?_⟩
  obtain ⟨depth, rfl⟩ : ∃ n, depth = n + 1 := ⟨depth - 1, by omega⟩
  obtain ⟨fuel, rfl⟩ : ∃ n, fuel = n + 1 := ⟨fuel - 1, by omega⟩
  by_cases hne : parts = []
  · subst hne
    have hclosing := skipSpace_closing (List.forall_mem_nil _) (c := '\x7d') (by decide) rest
    rw [List.nil_append] at hclosing
    rw [List.map_nil, Layout.enclose_nil, scanOnce.eq_6, hclosing]
    rfl
  · have hmap : parts.map (fun part => layout.field part.1 part.2.1) ≠ [] := fun h => hne (List.map_eq_nil_iff.mp h)
    obtain ⟨part, others, rfl⟩ := List.exists_cons_of_ne_nil hne
    have hstarts : Starts ((',' :: (List.replicate layout.itemBlanks ' ' ++ layout.newline (level + 1))).intercalate
        ((part :: others).map fun part => layout.field part.1 part.2.1)) :=
      starts_intercalate (starts_cons (by decide) _) _
    rw [Layout.enclose_append hmap] at hfuel ⊢
    have hlength : 2 * ((',' :: (List.replicate layout.itemBlanks ' ' ++ layout.newline (level + 1))).intercalate
        ((part :: others).map fun part => layout.field part.1 part.2.1) ++
          (layout.newline level ++ '\x7d' :: rest)).length + 2 ≤ fuel := by
      rw [List.length_cons, List.length_append] at hfuel
      omega
    have hfields : (part :: others).foldl (fun fields part => setField part.1 part.2.2 fields) [] =
        (part :: others).map fun part => (part.1, part.2.2) := by
      rw [← List.foldl_map (f := fun part : String × List Char × Json => (part.1, part.2.2))
        (g := fun fields field => setField field.1 field.2 fields)]
      refine (foldl_setField ?_).trans (List.nil_append _)
      rwa [List.nil_append, List.map_map]
    have hscan := scanFields_joined (layout.blank_gap (level + 1)) (layout.blank_newline level)
      (Nat.le_of_succ_le_succ hdepth) hne hparts hlength []
    rw [hfields] at hscan
    rw [scanOnce.eq_6, skipSpace_blank_starts (layout.blank_newline _) hstarts]
    obtain ⟨c, tail, hjoined, hc⟩ := hstarts
    rw [hjoined, List.cons_append] at hscan ⊢
    split
    · rename_i hbrace
      exact absurd (List.cons.inj hbrace).1 fun heq => hc (by rw [heq]; decide)
    · rw [hscan]
      rfl

/-! ## The round trip -/

theorem Layout.order_perm (layout : Layout) (fields : List (String × α)) : (layout.order fields).Perm fields := by
  unfold Layout.order
  split
  · exact List.perm_insertionSort _ _
  · exact List.Perm.refl _

theorem Layout.map_order (layout : Layout) {f : String × α → String × β} (hf : ∀ field, (f field).1 = field.1)
    (fields : List (String × α)) : (layout.order fields).map f = layout.order (fields.map f) := by
  unfold Layout.order
  split
  · refine List.map_insertionSort _ _ f fields fun a _ b _ => ?_
    rw [hf, hf]
  · rfl

theorem arrangedFields_names (layout : Layout) (fields : List (String × Json)) :
    (arrangedFields layout fields).map Prod.fst = fields.map Prod.fst := by
  induction fields with
  | nil => rw [arrangedFields]
  | cons field fields ih => rw [arrangedFields, List.map_cons, List.map_cons, ih]

mutual
theorem reads_render (layout : Layout) : ∀ (value : Json) (level : ℕ), value.WellFormed →
    Reads value.height (value.render layout level) (value.arranged layout)
  | null, level, _ => by
    rw [render, height, arranged]
    · exact reads_constant (starts_cons (by decide) _) rfl (by simp)
    all_goals simp
  | bool true, level, _ => by
    rw [render, height, arranged]
    · exact reads_constant (starts_cons (by decide) _) rfl (by simp)
    all_goals simp
  | bool false, level, _ => by
    rw [render, height, arranged]
    · exact reads_constant (starts_cons (by decide) _) rfl (by simp)
    all_goals simp
  | number text, level, h => by
    rw [WellFormed] at h
    rw [render, height, arranged]
    · exact reads_number h
    all_goals simp
  | str value, level, _ => by
    rw [render, height, arranged]
    · exact reads_str layout.ensureAscii value
    all_goals simp
  | arr items, level, h => by
    rw [WellFormed] at h
    obtain ⟨parts, htexts, hvalues, hparts⟩ := reads_renderItems layout items (level + 1) h
    rw [render, height, arranged, ← htexts, ← hvalues]
    exact reads_arr hparts
  | obj fields, level, h => by
    rw [WellFormed] at h
    obtain ⟨parts, htexts, hvalues, hparts⟩ := reads_renderFields layout fields (level + 1) h.2
    have hperm := layout.order_perm parts
    have hnames : parts.map Prod.fst = fields.map Prod.fst := by
      rw [← arrangedFields_names layout, ← hvalues, List.map_map]
      rfl
    have hnodup : ((layout.order parts).map Prod.fst).Nodup :=
      (hperm.map Prod.fst).nodup_iff.mpr (hnames ▸ h.1)
    rw [render, height, arranged, ← htexts, ← hvalues, ← layout.map_order (by intro; rfl),
      ← layout.map_order (by intro; rfl), List.map_map]
    exact reads_obj hnodup fun part hpart => hparts part (hperm.mem_iff.mp hpart)

theorem reads_renderItems (layout : Layout) : ∀ (items : List Json) (level : ℕ), ItemsWellFormed items →
    ∃ parts : List (List Char × Json), parts.map Prod.fst = renderItems layout level items ∧
      parts.map Prod.snd = arrangedItems layout items ∧ ∀ part ∈ parts, Reads (heightItems items) part.1 part.2
  | [], level, _ => ⟨[], by rw [renderItems]; rfl, by rw [arrangedItems]; rfl, List.forall_mem_nil _⟩
  | item :: items, level, h => by
    rw [ItemsWellFormed] at h
    obtain ⟨parts, htexts, hvalues, hparts⟩ := reads_renderItems layout items level h.2
    refine ⟨(item.render layout level, item.arranged layout) :: parts, ?_, ?_, ?_⟩
    · rw [renderItems, List.map_cons, htexts]
    · rw [arrangedItems, List.map_cons, hvalues]
    · rw [heightItems]
      refine List.forall_mem_cons.mpr ⟨?_, fun part hpart => (hparts part hpart).mono (le_max_right _ _)⟩
      exact (reads_render layout item level h.1).mono (le_max_left _ _)

theorem reads_renderFields (layout : Layout) : ∀ (fields : List (String × Json)) (level : ℕ),
    FieldsWellFormed fields → ∃ parts : List (String × List Char × Json),
      parts.map (fun part => (part.1, part.2.1)) = renderFields layout level fields ∧
      parts.map (fun part => (part.1, part.2.2)) = arrangedFields layout fields ∧
      ∀ part ∈ parts, Reads (heightFields fields) part.2.1 part.2.2
  | [], level, _ => ⟨[], by rw [renderFields]; rfl, by rw [arrangedFields]; rfl, List.forall_mem_nil _⟩
  | (name, value) :: fields, level, h => by
    rw [FieldsWellFormed] at h
    obtain ⟨parts, htexts, hvalues, hparts⟩ := reads_renderFields layout fields level h.2
    refine ⟨(name, value.render layout level, value.arranged layout) :: parts, ?_, ?_, ?_⟩
    · rw [renderFields, List.map_cons, htexts]
    · rw [arrangedFields, List.map_cons, hvalues]
    · rw [heightFields]
      refine List.forall_mem_cons.mpr ⟨?_, fun part hpart => (hparts part hpart).mono (le_max_right _ _)⟩
      exact (reads_render layout value level h.1).mono (le_max_left _ _)
end

theorem Blank.ends {s : List Char} (h : Blank s) : Ends s := by
  intro c hc
  exact List.mem_append_right [',', ']', '\x7d'] (h c (List.mem_of_mem_head? hc))

/-- `json.loads(json.dumps(value, ..))`, with blanks behind the text such as the line break at the end of a
file. -/
theorem loads_render (layout : Layout) {value : Json} (h : value.WellFormed) {limit : ℕ}
    (hlimit : value.height ≤ limit) {behind : List Char} (hbehind : Blank behind) :
    loads limit (String.ofList (value.render layout 0 ++ behind)) = .ok (value.arranged layout) := by
  have hreads := reads_render layout value 0 h
  obtain ⟨c, tail, htext, hc⟩ := hreads.starts
  have hskip : skipSpace (value.render layout 0 ++ behind) = value.render layout 0 ++ behind := by
    rw [htext]
    exact skipSpace_of_starts (starts_cons hc _)
  have hmark : (value.render layout 0 ++ behind).head? ≠ some (Char.ofNat 0xfeff) := by
    rw [htext]
    intro heq
    exact hc (Option.some.inj heq ▸ by decide)
  have hblank : skipSpace behind = [] := by
    rw [← List.append_nil behind, skipSpace_append hbehind]
    rfl
  rw [loads, String.toList_ofList]
  simp only [if_neg hmark, hskip, hreads.scan hlimit hbehind.ends (Nat.le_refl _), hblank, if_true, bind, Except.bind,
    pure, Except.pure]

theorem loads_dumpsText (layout : Layout) {value : Json} (h : value.WellFormed) {limit : ℕ}
    (hlimit : value.height ≤ limit) : loads limit (value.dumpsText layout) = .ok (value.arranged layout) := by
  rw [dumpsText, ← List.append_nil (value.render layout 0)]
  exact loads_render layout h hlimit (List.forall_mem_nil _)

mutual
/-- Without sorted keys the value itself is read back. -/
theorem arranged_of_unsorted {layout : Layout} (h : layout.sortKeys = false) : ∀ value : Json,
    value.arranged layout = value
  | null | bool _ | number _ | str _ => by rw [arranged]; all_goals simp
  | arr items => by rw [arranged, arrangedItems_of_unsorted h items]
  | obj fields => by
    rw [arranged, arrangedFields_of_unsorted h fields, Layout.order, h, if_neg Bool.false_ne_true]

theorem arrangedItems_of_unsorted {layout : Layout} (h : layout.sortKeys = false) : ∀ items : List Json,
    arrangedItems layout items = items
  | [] => by rw [arrangedItems]
  | item :: items => by rw [arrangedItems, arranged_of_unsorted h item, arrangedItems_of_unsorted h items]

theorem arrangedFields_of_unsorted {layout : Layout} (h : layout.sortKeys = false) :
    ∀ fields : List (String × Json), arrangedFields layout fields = fields
  | [] => by rw [arrangedFields]
  | (name, value) :: fields => by
    rw [arrangedFields, arranged_of_unsorted h value, arrangedFields_of_unsorted h fields]
end

end Json

end Gpucall
