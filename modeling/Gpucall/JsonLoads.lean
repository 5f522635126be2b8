import Gpucall.Json

/-! `json.loads` of a string. A number is kept as its text, and a lone surrogate, which is no `Char`,
is read as the replacement character. The recursion is on fuel, of which the length of the text is
enough; nesting is bounded by the recursion limit of the interpreter. -/

namespace Gpucall

namespace Json

/-- What `json.loads` raises: `JSONDecodeError`, or an error of another kind, which is
`RecursionError` or the `ValueError` of an integer that is too long. -/
inductive LoadsError where
  | decode
  | other
  deriving DecidableEq

/-- `d[key] = value` of a dictionary -/
def setField (key : String) (value : Json) (fields : List (String × Json)) : List (String × Json) :=
  if fields.any (·.1 = key) then fields.map fun field => if field.1 = key then (key, value) else field
  else fields ++ [(key, value)]

/-- `d.setdefault(key, value)` -/
def setDefault (key : String) (value : Json) (fields : List (String × Json)) :
    List (String × Json) :=
  if fields.any (·.1 = key) then fields else fields ++ [(key, value)]

theorem lookup_concat {key name : String} (hne : name ≠ key) (value : Json)
    (fields : List (String × Json)) :
    (fields ++ [(key, value)]).lookup name = fields.lookup name := by
  have hbeq : (name == key) = false := beq_eq_false_iff_ne.mpr hne
  simp [List.lookup_append, List.lookup_cons, hbeq]

theorem lookup_setField {key name : String} (hne : name ≠ key) (value : Json)
    (fields : List (String × Json)) :
    (setField key value fields).lookup name = fields.lookup name := by
  have hmap : (fields.map fun field => if field.1 = key then (key, value) else field).lookup name =
      fields.lookup name := by
    induction fields with
    | nil => rfl
    | cons field fields ih =>
      rw [List.map_cons, List.lookup_cons, List.lookup_cons, ih]
      by_cases hkey : field.1 = key
      · have hbeq : (name == key) = false := beq_eq_false_iff_ne.mpr hne
        rw [if_pos hkey, hkey, hbeq]
      · rw [if_neg hkey]
  unfold setField
  split
  · exact hmap
  · exact lookup_concat hne value fields

theorem lookup_setField_self (key : String) (value : Json) (fields : List (String × Json)) :
    (setField key value fields).lookup key = some value := by
  unfold setField
  induction fields with
  | nil => simp
  | cons field fields ih =>
    by_cases hkey : field.1 = key
    · simp [hkey]
    · have hbeq : (key == field.1) = false := beq_eq_false_iff_ne.mpr (Ne.symm hkey)
      simp only [List.any_cons, hkey, decide_false, Bool.false_or] at ih ⊢
      split at ih
      · rw [if_pos ‹_›, List.map_cons, if_neg hkey, List.lookup_cons, hbeq]
        exact ih
      · rw [if_neg ‹_›, List.cons_append, List.lookup_cons, hbeq]
        exact ih

theorem mem_setField {key : String} {value : Json} {fields : List (String × Json)} {field : String × Json}
    (h : field ∈ setField key value fields) : field = (key, value) ∨ field ∈ fields := by
  unfold setField at h
  split at h
  · obtain ⟨old, hold, heq⟩ := List.mem_map.mp h
    split at heq
    · exact .inl heq.symm
    · exact .inr (heq ▸ hold)
  · rcases List.mem_append.mp h with hold | hnew
    · exact .inr hold
    · exact .inl (List.mem_singleton.mp hnew)

theorem forall_setField {p : Json → Prop} {value : Json} {fields : List (String × Json)}
    (h : ∀ field ∈ fields, p field.2) (key : String) (hvalue : p value) :
    ∀ field ∈ setField key value fields, p field.2 := by
  intro field hfield
  rcases mem_setField hfield with rfl | hold
  · exact hvalue
  · exact h field hold

theorem nodup_setField {fields : List (String × Json)} (h : (fields.map Prod.fst).Nodup) (key : String)
    (value : Json) : ((setField key value fields).map Prod.fst).Nodup := by
  unfold setField
  split
  · have hnames : (fields.map fun field => if field.1 = key then (key, value) else field).map Prod.fst =
        fields.map Prod.fst := by
      rw [List.map_map]
      refine List.map_congr_left fun field _ => ?_
      by_cases hkey : field.1 = key <;> simp [hkey]
    rwa [hnames]
  · rename_i habsent
    rw [List.map_append, List.nodup_append]
    refine ⟨h, List.nodup_singleton _, ?_⟩
    rintro name hname _ hkey rfl
    rw [List.map_singleton, List.mem_singleton] at hkey
    obtain ⟨field, hfield, rfl⟩ := List.mem_map.mp hname
    exact habsent (List.any_eq_true.mpr ⟨field, hfield, decide_eq_true hkey⟩)

theorem lookup_setDefault {key name : String} (hne : name ≠ key) (value : Json)
    (fields : List (String × Json)) :
    (setDefault key value fields).lookup name = fields.lookup name := by
  unfold setDefault
  split
  · rfl
  · exact lookup_concat hne value fields

def skipSpace (s : List Char) : List Char := s.dropWhile (· ∈ [' ', '\t', '\n', '\r'])

def hexValue (c : Char) : Option ℕ :=
  if '0' ≤ c ∧ c ≤ '9' then some (c.toNat - '0'.toNat)
  else if 'a' ≤ c ∧ c ≤ 'f' then some (c.toNat - 'a'.toNat + 10)
  else if 'A' ≤ c ∧ c ≤ 'F' then some (c.toNat - 'A'.toNat + 10)
  else none

/-- The unit of a `\uXXXX` whose digits start the text. -/
def scanUnit : List Char → Option (ℕ × List Char)
  | a :: b :: c :: d :: rest => do
    let unit := (((← hexValue a) * 16 + (← hexValue b)) * 16 + (← hexValue c)) * 16 + (← hexValue d)
    return (unit, rest)
  | _ => none

/-- The low half of a surrogate pair. -/
def scanLow : List Char → Option (ℕ × List Char)
  | '\\' :: 'u' :: rest => (scanUnit rest).filter fun (low, _) => 0xdc00 ≤ low && low ≤ 0xdfff
  | _ => none

def charOfUnit (unit : ℕ) : Char :=
  if 0xd800 ≤ unit ∧ unit ≤ 0xdfff then Char.ofNat 0xfffd else Char.ofNat unit

def unescape : Char → Option Char
  | '"' => some '"'
  | '\\' => some '\\'
  | '/' => some '/'
  | 'b' => some (Char.ofNat 8)
  | 'f' => some (Char.ofNat 12)
  | 'n' => some '\n'
  | 'r' => some '\r'
  | 't' => some '\t'
  | _ => none

/-- One character of a string, and what is behind it. -/
def scanChar : List Char → Option (Char × List Char)
  | '\\' :: 'u' :: rest => do
    let (unit, rest) ← scanUnit rest
    if 0xd800 ≤ unit ∧ unit ≤ 0xdbff then
      if let some (low, rest) := scanLow rest then
        return (Char.ofNat (0x10000 + (unit - 0xd800) * 0x400 + (low - 0xdc00)), rest)
    return (charOfUnit unit, rest)
  | '\\' :: c :: rest => (unescape c).map (·, rest)
  | '\\' :: [] => none
  | c :: rest => if c.toNat < 32 then none else some (c, rest)
  | [] => none

/-- The string whose opening quote is before the text. -/
def scanString : ℕ → List Char → Except LoadsError (List Char × List Char)
  | 0, _ => .error .decode
  | _ + 1, '"' :: rest => .ok ([], rest)
  | fuel + 1, s =>
    match scanChar s with
    | none => .error .decode
    | some (c, rest) => do
      let (text, rest) ← scanString fuel rest
      return (c :: text, rest)

/-- The digits of `\.[0-9]+` or `[eE][-+]?[0-9]+`, if the text starts with them. -/
def scanDigits (lead : List Char) (s : List Char) : List Char × List Char :=
  match s.takeWhile Char.isDigit with
  | [] => ([], lead ++ s)
  | digits => (lead ++ digits, s.dropWhile Char.isDigit)

def scanFraction : List Char → List Char × List Char
  | '.' :: rest => scanDigits ['.'] rest
  | s => ([], s)

def scanExponent : List Char → List Char × List Char
  | e :: sign :: rest =>
    if e = 'e' || e = 'E' then
      if sign = '-' || sign = '+' then scanDigits [e, sign] rest else scanDigits [e] (sign :: rest)
    else ([], e :: sign :: rest)
  | s => ([], s)

/-- The integer part of a number without its sign. -/
def scanInteger : List Char → Option (List Char × List Char)
  | '0' :: rest => some (['0'], rest)
  | c :: rest =>
    if c.isDigit then some (c :: rest.takeWhile Char.isDigit, rest.dropWhile Char.isDigit) else none
  | [] => none

/-- `sys.int_info.default_max_str_digits` -/
def maxStrDigits : ℕ := 4300

def scanNumber (s : List Char) : Except LoadsError (Json × List Char) :=
  let sign := s.takeWhile (· = '-')
  match if sign.length ≤ 1 then scanInteger (s.drop sign.length) else none with
  | none => .error .decode
  | some (integer, rest) =>
    let (fraction, rest) := scanFraction rest
    let (exponent, rest) := scanExponent rest
    if fraction.isEmpty && exponent.isEmpty && maxStrDigits < integer.length then .error .other
    else .ok (number (String.ofList (sign ++ integer ++ fraction ++ exponent)), rest)

/-- The constants, with their texts. -/
def constants : List (String × Json) :=
  [("null", null), ("true", bool true), ("false", bool false), ("NaN", number "NaN"),
    ("Infinity", number "Infinity"), ("-Infinity", number "-Infinity")]

def scanConstant (s : List Char) : Option (Json × List Char) :=
  constants.findSome? fun (text, value) =>
    if text.toList.isPrefixOf s then some (value, s.drop text.toList.length) else none

mutual
/-- `scan_once` -/
def scanOnce (depth : ℕ) : ℕ → List Char → Except LoadsError (Json × List Char)
  | 0, _ => .error .decode
  | fuel + 1, s =>
    match s with
    | '"' :: rest => do
      let (text, rest) ← scanString rest.length rest
      return (str (String.ofList text), rest)
    | '[' :: rest =>
      match depth with
      | 0 => .error .other
      | depth + 1 =>
        match skipSpace rest with
        | ']' :: rest => .ok (arr [], rest)
        | rest => do
          let (items, rest) ← scanItems depth fuel rest
          return (arr items, rest)
    | '\x7b' :: rest =>
      match depth with
      | 0 => .error .other
      | depth + 1 =>
        match skipSpace rest with
        | '\x7d' :: rest => .ok (obj [], rest)
        | rest => do
          let (fields, rest) ← scanFields depth fuel [] rest
          return (obj fields, rest)
    | s => (scanConstant s).elim (scanNumber s) .ok

/-- The items of an array up to its end. -/
def scanItems (depth : ℕ) : ℕ → List Char → Except LoadsError (List Json × List Char)
  | 0, _ => .error .decode
  | fuel + 1, s => do
    let (item, rest) ← scanOnce depth fuel s
    match skipSpace rest with
    | ',' :: rest => do
      let (items, rest) ← scanItems depth fuel (skipSpace rest)
      return (item :: items, rest)
    | ']' :: rest => return ([item], rest)
    | _ => .error .decode

/-- The fields of an object up to its end, behind those that were read; of fields with one name the
last one counts. -/
def scanFields (depth : ℕ) :
    ℕ → List (String × Json) → List Char → Except LoadsError (List (String × Json) × List Char)
  | 0, _, _ => .error .decode
  | fuel + 1, fields, s =>
    match s with
    | '"' :: rest => do
      let (name, rest) ← scanString rest.length rest
      match skipSpace rest with
      | ':' :: rest => do
        let (value, rest) ← scanOnce depth fuel (skipSpace rest)
        let fields := setField (String.ofList name) value fields
        match skipSpace rest with
        | ',' :: rest => scanFields depth fuel fields (skipSpace rest)
        | '\x7d' :: rest => return (fields, rest)
        | _ => .error .decode
      | _ => .error .decode
    | _ => .error .decode
end

/-- `json.loads(text)` -/
def loads (recursionLimit : ℕ) (text : String) : Except LoadsError Json := do
  let s := text.toList
  if s.head? = some (Char.ofNat 0xfeff) then
    throw .decode
  let (value, rest) ← scanOnce recursionLimit (2 * s.length + 1) (skipSpace s)
  if skipSpace rest = [] then return value else throw .decode

end Json

end Gpucall
