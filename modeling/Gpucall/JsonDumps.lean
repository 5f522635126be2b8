import Gpucall.JsonLoads

/-! What can be read off a dumped value: a string is read back, and a value ends where its text says,
whatever comes behind it. So the dump of an object with known names determines the dump of each of its
values. -/

namespace Gpucall

namespace Json

/-! ## Strings -/

theorem hexValue_hexDigit : ∀ n < 16, hexValue (hexDigit n) = some n := by decide

theorem scanUnit_escapeUnit {n : ℕ} (hn : n < 65536) (rest : List Char) :
    scanUnit ((escapeUnit n).drop 2 ++ rest) = some (n, rest) := by
  have hdigit (k : ℕ) : hexValue (hexDigit (n / k % 16)) = some (n / k % 16) :=
    hexValue_hexDigit _ (Nat.mod_lt _ (by decide))
  have hlast : hexValue (hexDigit (n % 16)) = some (n % 16) :=
    hexValue_hexDigit _ (Nat.mod_lt _ (by decide))
  simp only [escapeUnit, List.drop_succ_cons, List.drop_zero, List.cons_append, List.nil_append,
    scanUnit, hdigit, hlast, Option.bind_eq_bind, Option.bind_some, Option.pure_def,
    Option.some.injEq, Prod.mk.injEq, and_true]
  omega

theorem escapeUnit_eq (n : ℕ) : escapeUnit n = '\\' :: 'u' :: (escapeUnit n).drop 2 := rfl

/-- A unit that is no high surrogate stands for a character. -/
theorem scanChar_escapeUnit {n : ℕ} (hn : n < 65536) (hsurrogate : n < 0xd800 ∨ 0xdbff < n)
    (rest : List Char) : scanChar (escapeUnit n ++ rest) = some (charOfUnit n, rest) := by
  rw [escapeUnit_eq, List.cons_append, List.cons_append, scanChar, scanUnit_escapeUnit hn]
  have hnot : ¬(0xd800 ≤ n ∧ n ≤ 0xdbff) := by omega
  simp only [Option.bind_eq_bind, Option.bind_some, if_neg hnot, Option.pure_def]

theorem charOfUnit_toNat (c : Char) : charOfUnit c.toNat = c := by
  have hvalid : c.toNat < 0xd800 ∨ 0xdfff < c.toNat ∧ c.toNat < 0x110000 := c.valid
  rw [charOfUnit, if_neg (by omega), Char.ofNat_toNat]

/-- The two units of a surrogate pair stand for one character. -/
theorem scanChar_pair {high low : ℕ} (hhigh : 0xd800 ≤ high ∧ high ≤ 0xdbff)
    (hlow : 0xdc00 ≤ low ∧ low ≤ 0xdfff) (rest : List Char) :
    scanChar (escapeUnit high ++ (escapeUnit low ++ rest)) =
      some (Char.ofNat (0x10000 + (high - 0xd800) * 0x400 + (low - 0xdc00)), rest) := by
  have hlowscan : scanLow (escapeUnit low ++ rest) = some (low, rest) := by
    rw [escapeUnit_eq, List.cons_append, List.cons_append, scanLow,
      scanUnit_escapeUnit (by omega), Option.filter_some]
    simp only [Bool.and_eq_true, decide_eq_true_eq, hlow, and_self, if_true]
  rw [escapeUnit_eq high, List.cons_append, List.cons_append, scanChar,
    scanUnit_escapeUnit (by omega)]
  simp only [Option.bind_eq_bind, Option.bind_some, if_pos hhigh, hlowscan, Option.pure_def]

theorem escapeControl_cases {c : Char} {escaped : List Char} (h : escapeControl c = some escaped) :
    (∃ e, unescape e = some c ∧ e ≠ 'u' ∧ escaped = ['\\', e]) ∨
      c.toNat < 32 ∧ escaped = escapeUnit c.toNat := by
  unfold escapeControl at h
  split_ifs at h with h1 h2 h3 h4 h5 h6 h7 h8 <;> obtain rfl := Option.some.inj h
  · exact .inl ⟨'"', by rw [h1]; rfl, by decide, rfl⟩
  · exact .inl ⟨'\\', by rw [h2]; rfl, by decide, rfl⟩
  · exact .inl ⟨'n', by rw [h3]; rfl, by decide, rfl⟩
  · exact .inl ⟨'r', by rw [h4]; rfl, by decide, rfl⟩
  · exact .inl ⟨'t', by rw [h5]; rfl, by decide, rfl⟩
  · exact .inl ⟨'b', by rw [← Char.ofNat_toNat c, h6]; rfl, by decide, rfl⟩
  · exact .inl ⟨'f', by rw [← Char.ofNat_toNat c, h7]; rfl, by decide, rfl⟩
  · exact .inr ⟨h8, rfl⟩

theorem escapeControl_eq_none {c : Char} (h : escapeControl c = none) :
    c ≠ '"' ∧ c ≠ '\\' ∧ 32 ≤ c.toNat := by
  unfold escapeControl at h
  split_ifs at h with h1 h2 h3 h4 h5 h6 h7 h8
  exact ⟨h1, h2, Nat.le_of_not_lt h8⟩

/-- A character is read back from its escape. -/
theorem scanChar_escapeChar (c : Char) (rest : List Char) :
    scanChar (escapeChar true c ++ rest) = some (c, rest) := by
  have hvalid : c.toNat < 0xd800 ∨ 0xdfff < c.toNat ∧ c.toNat < 0x110000 := c.valid
  unfold escapeChar
  split
  · rcases escapeControl_cases ‹_› with ⟨e, he, hu, rfl⟩ | ⟨hc, rfl⟩
    · rw [List.cons_append, List.cons_append, List.nil_append, scanChar.eq_2 _ _ (by simpa using hu),
        he, Option.map_some]
    · rw [scanChar_escapeUnit (by omega) (by omega), charOfUnit_toNat]
  · obtain ⟨-, hslash, hlarge⟩ := escapeControl_eq_none ‹_›
    split_ifs with hascii hbmp
    · rw [List.cons_append, List.nil_append, scanChar.eq_4 _ _ (fun _ h => absurd h hslash)
        (fun _ _ h => absurd h hslash) (fun h => absurd h hslash), if_neg (by omega)]
    · rw [scanChar_escapeUnit hbmp (by omega), charOfUnit_toNat]
    · have hunits : 0x10000 + (0xd800 + (c.toNat - 0x10000) / 0x400 - 0xd800) * 0x400 +
          (0xdc00 + (c.toNat - 0x10000) % 0x400 - 0xdc00) = c.toNat := by omega
      rw [List.append_assoc, scanChar_pair (by omega) (by omega), hunits, Char.ofNat_toNat]

theorem escapeChar_head (c : Char) : ∃ first rest, escapeChar true c = first :: rest ∧
    first ≠ '"' := by
  unfold escapeChar
  split
  · rcases escapeControl_cases ‹_› with ⟨e, -, -, rfl⟩ | ⟨-, rfl⟩
    · exact ⟨_, _, rfl, by decide⟩
    · exact ⟨_, _, escapeUnit_eq _, by decide⟩
  · obtain ⟨hquote, -, -⟩ := escapeControl_eq_none ‹_›
    split_ifs
    · exact ⟨_, _, rfl, hquote⟩
    · exact ⟨_, _, escapeUnit_eq _, by decide⟩
    · exact ⟨_, _, by rw [escapeUnit_eq, List.cons_append], by decide⟩

/-- A string is read back from its dump. -/
theorem scanString_escape {fuel : ℕ} {s : List Char} (hfuel : s.length < fuel) (rest : List Char) :
    scanString fuel (s.flatMap (escapeChar true) ++ '"' :: rest) = .ok (s, rest) := by
  induction s generalizing fuel with
  | nil =>
    obtain ⟨fuel, rfl⟩ := Nat.exists_eq_add_of_lt hfuel
    rfl
  | cons c s ih =>
    obtain ⟨fuel, rfl⟩ : ∃ n, fuel = n + 1 := ⟨fuel - 1, by omega⟩
    have hscan := scanChar_escapeChar c (s.flatMap (escapeChar true) ++ '"' :: rest)
    obtain ⟨first, tail, hescape, hquote⟩ := escapeChar_head c
    rw [List.flatMap_cons, List.append_assoc]
    rw [hescape, List.cons_append] at hscan ⊢
    rw [scanString.eq_3 _ fuel (fun _ h => hquote (List.cons.inj h).1), hscan]
    simp only [ih (Nat.lt_of_succ_lt_succ hfuel), bind, Except.bind, pure, Except.pure]

theorem dumpsString_inj {s t : String} (h : dumpsString true s = dumpsString true t) : s = t := by
  have hbody : s.toList.flatMap (escapeChar true) ++ '"' :: [] =
      t.toList.flatMap (escapeChar true) ++ '"' :: [] := by
    simpa only [dumpsString, List.singleton_append, List.cons_append, List.nil_append,
      List.cons.injEq, true_and] using h
  have hs := scanString_escape (Nat.lt_succ_of_le (le_max_left s.toList.length t.toList.length)) []
  have ht := scanString_escape (Nat.lt_succ_of_le (le_max_right s.toList.length t.toList.length)) []
  rw [hbody, ht] at hs
  exact (String.toList_inj.mp (Prod.mk.inj (Except.ok.inj hs)).1).symm

/-! ## Where a value ends -/

/-- A text up to the first comma or closing bracket outside of its strings and brackets, and the rest.
The flag says whether the text starts inside a string. -/
def splitValue : ℕ → Bool → List Char → List Char × List Char
  | _, _, [] => ([], [])
  | depth, true, '\\' :: c :: rest => (splitValue depth true rest).map (['\\', c] ++ ·) id
  | depth, true, c :: rest => (splitValue depth (c ≠ '"') rest).map ([c] ++ ·) id
  | depth, false, c :: rest =>
    if c = '"' then (splitValue depth true rest).map ([c] ++ ·) id
    else if c = '[' || c = '\x7b' then (splitValue (depth + 1) false rest).map ([c] ++ ·) id
    else if c = ']' || c = '\x7d' then
      if depth = 0 then ([], c :: rest)
      else (splitValue (depth - 1) false rest).map ([c] ++ ·) id
    else if c = ',' && depth = 0 then ([], c :: rest)
    else (splitValue depth false rest).map ([c] ++ ·) id

/-- At this depth the text is passed over as a whole. -/
def Passes (depth : ℕ) (s : List Char) : Prop :=
  ∀ rest, splitValue depth false (s ++ rest) = (splitValue depth false rest).map (s ++ ·) id

theorem map_append (s t : List Char) (split : List Char × List Char) :
    (split.map (t ++ ·) id).map (s ++ ·) id = split.map ((s ++ t) ++ ·) id := by
  simp [Prod.map, List.append_assoc]

theorem Passes.nil (depth : ℕ) : Passes depth [] := fun _ => by simp [Prod.map]

theorem Passes.append {depth : ℕ} {s t : List Char} (hs : Passes depth s) (ht : Passes depth t) :
    Passes depth (s ++ t) := fun rest => by
  rw [List.append_assoc, hs, ht, map_append]

/-- A character that neither opens nor closes anything and separates nothing. -/
def PlainChar (c : Char) : Prop := c ∉ ['"', '[', ']', '\x7b', '\x7d', ',']

instance (c : Char) : Decidable (PlainChar c) := inferInstanceAs (Decidable (c ∉ _))

theorem PlainChar.passes {c : Char} (hc : PlainChar c) (depth : ℕ) : Passes depth [c] := fun rest => by
  simp only [PlainChar, List.mem_cons, List.not_mem_nil, or_false, not_or] at hc
  obtain ⟨hquote, hopen, hclose, hopen', hclose', hcomma⟩ := hc
  simp [splitValue, hquote, hopen, hclose, hopen', hclose', hcomma]

theorem passes_of_plain {s : List Char} (hs : ∀ c ∈ s, PlainChar c) (depth : ℕ) :
    Passes depth s := by
  induction s with
  | nil => exact .nil depth
  | cons c s ih =>
    rw [← List.singleton_append]
    exact ((hs c List.mem_cons_self).passes depth).append
      (ih fun e he => hs e (List.mem_cons_of_mem _ he))

theorem passes_comma (depth : ℕ) : Passes (depth + 1) [','] := fun rest => by
  simp [splitValue]

/-- What stands between brackets of one kind is passed over with them. -/
theorem Passes.enclosed {depth : ℕ} {s : List Char} {opening closing : Char}
    (hs : Passes (depth + 1) s) (hopen : opening = '[' ∨ opening = '\x7b')
    (hclose : closing = ']' ∨ closing = '\x7d') : Passes depth ([opening] ++ s ++ [closing]) := by
  have hfirst (rest : List Char) : splitValue depth false ([opening] ++ rest) =
      (splitValue (depth + 1) false rest).map ([opening] ++ ·) id := by
    rcases hopen with rfl | rfl <;> simp [splitValue]
  have hlast (rest : List Char) : splitValue (depth + 1) false ([closing] ++ rest) =
      (splitValue depth false rest).map ([closing] ++ ·) id := by
    rcases hclose with rfl | rfl <;> simp [splitValue]
  intro rest
  rw [List.append_assoc, List.append_assoc, hfirst, hs, hlast, map_append, map_append,
    List.append_assoc]

/-- Inside of a string nothing but its end is seen. -/
def PassesQuoted (s : List Char) : Prop :=
  ∀ depth rest, splitValue depth true (s ++ rest) = (splitValue depth true rest).map (s ++ ·) id

theorem PassesQuoted.append {s t : List Char} (hs : PassesQuoted s) (ht : PassesQuoted t) :
    PassesQuoted (s ++ t) := fun depth rest => by
  rw [List.append_assoc, hs, ht, map_append]

theorem passesQuoted_singleton {c : Char} (hquote : c ≠ '"') (hslash : c ≠ '\\') :
    PassesQuoted [c] := fun depth rest => by
  rw [List.singleton_append, splitValue.eq_3 _ _ _ (fun _ _ h => absurd h hslash)]
  simp [hquote]

theorem passesQuoted_escape (c : Char) : PassesQuoted ['\\', c] := fun _ _ => rfl

theorem hexDigit_ne (n : ℕ) : hexDigit (n % 16) ≠ '"' ∧ hexDigit (n % 16) ≠ '\\' := by
  have hall : ∀ k < 16, hexDigit k ≠ '"' ∧ hexDigit k ≠ '\\' := by decide
  exact hall _ (Nat.mod_lt _ (by decide))

theorem passesQuoted_escapeUnit (n : ℕ) : PassesQuoted (escapeUnit n) := by
  have hdigit (k : ℕ) : PassesQuoted [hexDigit (k % 16)] :=
    passesQuoted_singleton (hexDigit_ne k).1 (hexDigit_ne k).2
  exact (passesQuoted_escape 'u').append ((hdigit _).append ((hdigit _).append ((hdigit _).append
    (hdigit _))))

theorem passesQuoted_escapeChar (c : Char) : PassesQuoted (escapeChar true c) := by
  unfold escapeChar
  split
  · rcases escapeControl_cases ‹_› with ⟨e, -, -, rfl⟩ | ⟨-, rfl⟩
    · exact passesQuoted_escape e
    · exact passesQuoted_escapeUnit _
  · obtain ⟨hquote, hslash, -⟩ := escapeControl_eq_none ‹_›
    split_ifs
    · exact passesQuoted_singleton hquote hslash
    · exact passesQuoted_escapeUnit _
    · exact (passesQuoted_escapeUnit _).append (passesQuoted_escapeUnit _)

theorem passes_dumpsString (s : String) (depth : ℕ) : Passes depth (dumpsString true s) := by
  have hbody : PassesQuoted (s.toList.flatMap (escapeChar true)) := by
    induction s.toList with
    | nil => exact fun _ _ => by simp [Prod.map]
    | cons c cs ih =>
      rw [List.flatMap_cons]
      exact (passesQuoted_escapeChar c).append ih
  intro rest
  have hstart (rest : List Char) : splitValue depth false (['"'] ++ rest) =
      (splitValue depth true rest).map (['"'] ++ ·) id := by simp [splitValue]
  have hend (rest : List Char) : splitValue depth true (['"'] ++ rest) =
      (splitValue depth false rest).map (['"'] ++ ·) id := by
    rw [List.singleton_append, splitValue.eq_3 _ _ _ (fun _ _ h => absurd h (by decide))]
    simp
  rw [dumpsString, List.append_assoc, List.append_assoc, hstart, hbody, hend, map_append, map_append,
    List.append_assoc]

theorem passes_intercalate {depth : ℕ} {parts : List (List Char)}
    (hparts : ∀ part ∈ parts, Passes (depth + 1) part) :
    Passes (depth + 1) ([','].intercalate parts) := by
  induction parts with
  | nil => exact .nil _
  | cons part parts ih =>
    have hpart := hparts part List.mem_cons_self
    cases parts with
    | nil => simpa using hpart
    | cons next parts =>
      rw [List.intercalate_cons_cons]
      exact (hpart.append (passes_comma depth)).append
        (ih fun other hother => hparts other (List.mem_cons_of_mem _ hother))

/-! ## Values -/

mutual
/-- The texts of the numbers are those of numbers. -/
def PlainNumbers : Json → Prop
  | number text => ∀ c ∈ text.toList, PlainChar c
  | arr items => PlainItems items
  | obj fields => PlainFields fields
  | _ => True

def PlainItems : List Json → Prop
  | [] => True
  | item :: items => item.PlainNumbers ∧ PlainItems items

def PlainFields : List (String × Json) → Prop
  | [] => True
  | field :: fields => field.2.PlainNumbers ∧ PlainFields fields
end

theorem passes_fields {depth : ℕ} {fields : List (String × List Char)}
    (h : ∀ field ∈ fields, Passes (depth + 1) field.2) :
    Passes (depth + 1) ([','].intercalate ((sortKeys fields).map fun f =>
      dumpsString true f.1 ++ [':'] ++ f.2)) := by
  refine passes_intercalate fun part hpart => ?_
  obtain ⟨field, hfield, rfl⟩ := List.mem_map.mp hpart
  rw [sortKeys, List.mem_insertionSort] at hfield
  refine ((passes_dumpsString _ _).append (passes_of_plain ?_ _)).append (h field hfield)
  simp [PlainChar]

mutual
theorem passes_dumps : ∀ value : Json, value.PlainNumbers → ∀ depth, Passes depth (value.dumps true)
  | null, _, depth => passes_of_plain (by rw [dumps]; decide) depth
  | bool true, _, depth => passes_of_plain (by rw [dumps]; decide) depth
  | bool false, _, depth => passes_of_plain (by rw [dumps]; decide) depth
  | number text, h, depth => by
    rw [dumps]
    exact passes_of_plain (by simpa only [PlainNumbers] using h) depth
  | str value, _, depth => by
    rw [dumps]
    exact passes_dumpsString value depth
  | arr items, h, depth => by
    rw [dumps]
    rw [PlainNumbers] at h
    exact (passes_intercalate fun part hpart =>
      passes_dumpsItems items h part hpart (depth + 1)).enclosed (.inl rfl) (.inl rfl)
  | obj fields, h, depth => by
    rw [dumps]
    rw [PlainNumbers] at h
    exact (passes_fields fun field hfield =>
      passes_dumpsFields fields h field hfield (depth + 1)).enclosed (.inr rfl) (.inr rfl)

theorem passes_dumpsItems : ∀ items : List Json, PlainItems items →
    ∀ part ∈ dumpsItems true items, ∀ depth, Passes depth part
  | [], _, part, hpart, _ => by simp [dumpsItems] at hpart
  | item :: items, h, part, hpart, depth => by
    rw [PlainItems] at h
    rw [dumpsItems, List.mem_cons] at hpart
    rcases hpart with rfl | hpart
    · exact passes_dumps item h.1 depth
    · exact passes_dumpsItems items h.2 part hpart depth

theorem passes_dumpsFields : ∀ fields : List (String × Json), PlainFields fields →
    ∀ field ∈ dumpsFields true fields, ∀ depth, Passes depth field.2
  | [], _, field, hfield, _ => by simp [dumpsFields] at hfield
  | (name, value) :: fields, h, field, hfield, depth => by
    rw [PlainFields] at h
    rw [dumpsFields, List.mem_cons] at hfield
    rcases hfield with rfl | hfield
    · exact passes_dumps value h.1 depth
    · exact passes_dumpsFields fields h.2 field hfield depth
end

/-- Where a value may end. -/
def Stops (rest : List Char) : Prop := splitValue 0 false rest = ([], rest)

theorem stops_comma (rest : List Char) : Stops (',' :: rest) := by simp [Stops, splitValue]

theorem stops_brace (rest : List Char) : Stops ('\x7d' :: rest) := by simp [Stops, splitValue]

/-- No dump goes on where another one ends. -/
theorem dumps_append_inj {v w : Json} (hv : v.PlainNumbers) (hw : w.PlainNumbers)
    {rest rest' : List Char} (hrest : Stops rest) (hrest' : Stops rest')
    (h : v.dumps true ++ rest = w.dumps true ++ rest') :
    v.dumps true = w.dumps true ∧ rest = rest' := by
  have hsplit := passes_dumps v hv 0 rest
  rw [h, passes_dumps w hw 0 rest', hrest, hrest'] at hsplit
  simp only [Prod.map, id_eq, List.append_nil, Prod.mk.injEq] at hsplit
  exact ⟨hsplit.1.symm, hsplit.2.symm⟩

/-! ## Objects with known names -/

theorem dumpsFields_map (names : List String) (value : String → Json) :
    dumpsFields true (names.map fun name => (name, value name)) =
      names.map fun name => (name, (value name).dumps true) := by
  induction names with
  | nil => rw [List.map_nil, dumpsFields, List.map_nil]
  | cons name names ih => rw [List.map_cons, dumpsFields, ih, List.map_cons]

theorem sortKeys_map (names : List String) (text : String → List Char) :
    sortKeys (names.map fun name => (name, text name)) =
      (names.insertionSort (· ≤ ·)).map fun name => (name, text name) := by
  unfold sortKeys
  exact (List.map_insertionSort _ (fun a b : String × List Char => a.1 ≤ b.1) _ names
    fun _ _ _ _ => Iff.rfl).symm

theorem intercalate_inj {names : List String} {v w : String → Json}
    (hv : ∀ name ∈ names, (v name).PlainNumbers) (hw : ∀ name ∈ names, (w name).PlainNumbers)
    (h : [','].intercalate (names.map fun name =>
        dumpsString true name ++ [':'] ++ (v name).dumps true) ++ ['\x7d'] =
      [','].intercalate (names.map fun name =>
        dumpsString true name ++ [':'] ++ (w name).dumps true) ++ ['\x7d']) :
    ∀ name ∈ names, (v name).dumps true = (w name).dumps true := by
  induction names with
  | nil => simp
  | cons name names ih =>
    have hname := hv name List.mem_cons_self
    have hname' := hw name List.mem_cons_self
    cases names with
    | nil =>
      simp only [List.map_cons, List.map_nil, List.intercalate_singleton, List.append_assoc,
        List.append_cancel_left_eq] at h
      simpa using (dumps_append_inj hname hname' (stops_brace []) (stops_brace []) h).1
    | cons next names =>
      simp only [List.map_cons, List.intercalate_cons_cons, List.append_assoc,
        List.append_cancel_left_eq] at h ih
      obtain ⟨hfirst, hrest⟩ := dumps_append_inj hname hname' (stops_comma _) (stops_comma _) h
      rw [List.forall_mem_cons]
      exact ⟨hfirst, ih (fun n hn => hv n (List.mem_cons_of_mem _ hn))
        (fun n hn => hw n (List.mem_cons_of_mem _ hn)) (List.cons.inj hrest).2⟩

/-- The dump of an object with known names determines the dumps of its values. -/
theorem dumps_obj_inj {names : List String} {v w : String → Json}
    (hv : ∀ name ∈ names, (v name).PlainNumbers) (hw : ∀ name ∈ names, (w name).PlainNumbers)
    (h : (obj (names.map fun name => (name, v name))).dumps true =
      (obj (names.map fun name => (name, w name))).dumps true) :
    ∀ name ∈ names, (v name).dumps true = (w name).dumps true := by
  have hmem (name : String) : name ∈ names ↔ name ∈ names.insertionSort (· ≤ ·) :=
    List.mem_insertionSort _ |>.symm
  simp only [hmem] at hv hw ⊢
  refine intercalate_inj hv hw ?_
  simpa only [dumps, dumpsFields_map, sortKeys_map, List.map_map, Function.comp_def,
    List.append_assoc, List.append_cancel_left_eq] using h

end Json

end Gpucall
