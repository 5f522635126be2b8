import Mathlib.Data.List.Sort
import Mathlib.Data.String.Basic
import Mathlib.Order.Lex

/-! JSON values as the request models carry them, and the compact dump
`json.dumps(.., sort_keys=True, separators=(",", ":"))`, whose length the token estimates use. A
number is kept as the text it is dumped with. -/

namespace Gpucall

/-! A statement about the characters of a text is decided along the text, also where `Char` is known to
be finite. -/

instance (priority := 2000) decidableForallChar (l : List Char) (p : Char → Prop) [DecidablePred p] :
    Decidable (∀ c ∈ l, p c) := List.decidableBAll p l

instance (priority := 2000) decidableExistsChar (l : List Char) (p : Char → Prop) [DecidablePred p] :
    Decidable (∃ c ∈ l, p c) := List.decidableBEx p l

inductive Json where
  | null
  | bool (value : Bool)
  | number (text : String)
  | str (value : String)
  | arr (items : List Json)
  | obj (fields : List (String × Json))

namespace Json

/-- Python truthiness of a decoded value. A number counts as true unless it is dumped as a zero. -/
def truthy : Json → Bool
  | null => false
  | bool value => value
  | number text => text ∉ ["0", "-0", "0.0", "-0.0"]
  | str value => value ≠ ""
  | arr items => !items.isEmpty
  | obj fields => !fields.isEmpty

def hexDigit (n : Nat) : Char :=
  "0123456789abcdef".toList.getD n '0'

/-- `\uXXXX` for one UTF-16 unit. -/
def escapeUnit (n : Nat) : List Char :=
  ['\\', 'u', hexDigit (n / 4096 % 16), hexDigit (n / 256 % 16), hexDigit (n / 16 % 16),
    hexDigit (n % 16)]

/-- The escapes that `json.dumps` always makes. -/
def escapeControl (c : Char) : Option (List Char) :=
  if c = '"' then some ['\\', '"']
  else if c = '\\' then some ['\\', '\\']
  else if c = '\n' then some ['\\', 'n']
  else if c = '\r' then some ['\\', 'r']
  else if c = '\t' then some ['\\', 't']
  else if c.toNat = 8 then some ['\\', 'b']
  else if c.toNat = 12 then some ['\\', 'f']
  else if c.toNat < 32 then some (escapeUnit c.toNat)
  else none

/-- The escape of one character. With `ensure_ascii` every non-ASCII one is escaped, beyond the basic
plane as two UTF-16 units. -/
def escapeChar (ensureAscii : Bool) (c : Char) : List Char :=
  match escapeControl c with
  | some escaped => escaped
  | none =>
    if !ensureAscii || c.toNat < 127 then [c]
    else if c.toNat < 65536 then escapeUnit c.toNat
    else
      escapeUnit (0xd800 + (c.toNat - 0x10000) / 0x400) ++
        escapeUnit (0xdc00 + (c.toNat - 0x10000) % 0x400)

def dumpsString (ensureAscii : Bool) (s : String) : List Char :=
  ['"'] ++ s.toList.flatMap (escapeChar ensureAscii) ++ ['"']

def sortKeys (fields : List (String × List Char)) : List (String × List Char) :=
  fields.insertionSort (·.1 ≤ ·.1)

mutual
def dumps (ensureAscii : Bool) : Json → List Char
  | null => "null".toList
  | bool true => "true".toList
  | bool false => "false".toList
  | number text => text.toList
  | str value => dumpsString ensureAscii value
  | arr items => ['['] ++ [','].intercalate (dumpsItems ensureAscii items) ++ [']']
  | obj fields =>
    let rendered := (sortKeys (dumpsFields ensureAscii fields)).map fun f =>
      dumpsString ensureAscii f.1 ++ [':'] ++ f.2
    ['\x7b'] ++ [','].intercalate rendered ++ ['\x7d']

def dumpsItems (ensureAscii : Bool) : List Json → List (List Char)
  | [] => []
  | item :: items => item.dumps ensureAscii :: dumpsItems ensureAscii items

def dumpsFields (ensureAscii : Bool) : List (String × Json) → List (String × List Char)
  | [] => []
  | (name, value) :: fields => (name, value.dumps ensureAscii) :: dumpsFields ensureAscii fields
end

/-- `len(json.dumps(value, ..).encode("utf-8"))`; every dumped character is ASCII. -/
def dumpsBytes (value : Json) : Nat := (value.dumps true).length

example : (obj [("b", arr [number "1", null]), ("a", str "é")]).dumps true =
    "\x7b\"a\":\"\\u00e9\",\"b\":[1,null]\x7d".toList := by decide

end Json

end Gpucall
