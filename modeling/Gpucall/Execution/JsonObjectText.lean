import Gpucall.JsonGrammar
import Gpucall.Lib.Braces
import Gpucall.Text

/-! `_parse_json_object_from_text` of the Modal worker: the object in what a model has written. Where the text as
a whole is no object, a scanner that knows strings, escapes and depth looks from every opening brace for the one
that closes it, and reads what it has found. -/

namespace Gpucall

open Rfc8259

/-! ## The scanner -/

/-- The loop over `index`, with what it cuts out from there: `candidate`, if the depth comes back to zero. -/
def candidateFrom (depth : ℤ) (inString escape : Bool) : List Char → Option (List Char)
  | [] => none
  | char :: rest =>
    if inString then
      if escape then (candidateFrom depth true false rest).map (char :: ·)
      else if char = '\\' then (candidateFrom depth true true rest).map (char :: ·)
      else if char = '"' then (candidateFrom depth false escape rest).map (char :: ·)
      else (candidateFrom depth true escape rest).map (char :: ·)
    else if char = '"' then (candidateFrom depth true escape rest).map (char :: ·)
    else if char = '\x7b' then (candidateFrom (depth + 1) false escape rest).map (char :: ·)
    else if char = '\x7d' then
      if depth - 1 = 0 then some [char] else (candidateFrom (depth - 1) false escape rest).map (char :: ·)
    else (candidateFrom depth false escape rest).map (char :: ·)

/-- The loop over `start`, at the texts that begin there -/
def objectInText (recursionLimit : ℕ) : List Char → Except Json.LoadsError (Option (List (String × Json)))
  | [] => .ok none
  | char :: rest =>
    if char = '\x7b' then
      match candidateFrom 0 false false (char :: rest) with
      | none => objectInText recursionLimit rest
      | some candidate =>
        match Json.loads recursionLimit (String.ofList candidate) with
        | .ok (.obj value) => .ok (some value)
        | .error .other => .error .other
        | _ => objectInText recursionLimit rest
    else objectInText recursionLimit rest

/-- `_parse_json_object_from_text` -/
def parseJsonObjectFromText (recursionLimit : ℕ) (text : String) :
    Except Json.LoadsError (Option (List (String × Json))) :=
  let stripped := strip text
  match Json.loads recursionLimit stripped with
  | .ok (.obj value) => .ok (some value)
  | .error .other => .error .other
  | _ => objectInText recursionLimit stripped.toList

/-! ## Where the scanner stops -/

section Scanner

variable {s t rest : List Char} {depth : ℤ}

/-- A string is passed as a whole. -/
theorem candidateFrom_chars (h : Chars s t) : ∃ w, s = w ++ t ∧
    candidateFrom depth true false s = (candidateFrom depth false false t).map (w ++ ·) := by
  induction h with
  | close => exact ⟨['"'], rfl, rfl⟩
  | @unescaped c s rest _ hquote hslash _ ih =>
    obtain ⟨w, rfl, hw⟩ := ih
    refine ⟨c :: w, rfl, ?_⟩
    rw [candidateFrom, if_pos rfl, if_neg Bool.false_ne_true, if_neg hslash, if_neg hquote, hw, Option.map_map]
    rfl
  | @escaped c s rest _ _ ih =>
    obtain ⟨w, rfl, hw⟩ := ih
    refine ⟨'\\' :: c :: w, rfl, ?_⟩
    rw [candidateFrom, if_pos rfl, if_neg Bool.false_ne_true, if_pos rfl, candidateFrom, if_pos rfl, if_pos rfl, hw,
      Option.map_map, Option.map_map]
    rfl
  | @unicode a b c d s rest ha hb hc hd _ ih =>
    obtain ⟨w, rfl, hw⟩ := ih
    refine ⟨'\\' :: 'u' :: a :: b :: c :: d :: w, rfl, ?_⟩
    have hdigit {x : Char} (hx : IsHex x) (tail : List Char) :
        candidateFrom depth true false (x :: tail) = (candidateFrom depth true false tail).map (x :: ·) := by
      rw [candidateFrom, if_pos rfl, if_neg Bool.false_ne_true, if_neg hx.ne_backslash, if_neg hx.ne_quote]
    rw [candidateFrom, if_pos rfl, if_neg Bool.false_ne_true, if_pos rfl, candidateFrom, if_pos rfl, if_pos rfl,
      hdigit ha, hdigit hb, hdigit hc, hdigit hd, hw]
    simp only [Option.map_map]
    rfl

/-- What is complete is passed without leaving the object. -/
theorem candidateFrom_skips (hdepth : 1 ≤ depth) (h : Skips s t) : ∃ w, s = w ++ t ∧
    candidateFrom depth false false s = (candidateFrom depth false false t).map (w ++ ·) := by
  induction h generalizing depth with
  | refl => exact ⟨[], rfl, by simp⟩
  | @plain c s rest hc _ ih =>
    obtain ⟨w, rfl, hw⟩ := ih hdepth
    simp only [marks, List.mem_cons, List.not_mem_nil, or_false, not_or] at hc
    refine ⟨c :: w, rfl, ?_⟩
    rw [candidateFrom, if_neg Bool.false_ne_true, if_neg hc.1, if_neg hc.2.1, if_neg hc.2.2, hw, Option.map_map]
    rfl
  | @string s t rest hchars _ ih =>
    obtain ⟨w, rfl, hw⟩ := ih hdepth
    obtain ⟨w', rfl, hw'⟩ := @candidateFrom_chars _ _ depth hchars
    refine ⟨'"' :: (w' ++ w), by simp, ?_⟩
    rw [candidateFrom, if_neg Bool.false_ne_true, if_pos rfl, hw', hw, Option.map_map, Option.map_map]
    simp [Function.comp_def]
  | @braces s t rest _ _ ihInner ih =>
    obtain ⟨inner, rfl, hinner⟩ := ihInner (show 1 ≤ depth + 1 by omega)
    obtain ⟨w, rfl, hw⟩ := ih hdepth
    refine ⟨'\x7b' :: (inner ++ '\x7d' :: w), by simp, ?_⟩
    have hclose : candidateFrom (depth + 1) false false ('\x7d' :: (w ++ rest)) =
        (candidateFrom depth false false (w ++ rest)).map ('\x7d' :: ·) := by
      have hne : ¬ depth + 1 - 1 = 0 := by omega
      rw [candidateFrom, if_neg Bool.false_ne_true, if_neg (by decide), if_neg (by decide), if_pos rfl, if_neg hne,
        Int.add_sub_cancel]
    rw [candidateFrom, if_neg Bool.false_ne_true, if_neg (by decide), if_pos rfl, hinner, hclose, hw]
    simp [Function.comp_def]

/-- From an opening brace the scanner cuts out what ends with its partner. -/
theorem candidateFrom_object (h : Skips s ('\x7d' :: rest)) : ∃ w, '\x7b' :: s = w ++ rest ∧
    candidateFrom 0 false false ('\x7b' :: s) = some w := by
  obtain ⟨inner, rfl, hinner⟩ := candidateFrom_skips (le_refl 1) h
  refine ⟨'\x7b' :: (inner ++ ['\x7d']), by simp, ?_⟩
  rw [candidateFrom, if_neg Bool.false_ne_true, if_neg (by decide), if_pos rfl, zero_add, hinner]
  simp [candidateFrom]

end Scanner

/-! ## What the reader passes -/

namespace Json

theorem skips_of_scanConstant (h : scanConstant s = some (value, rest)) : Skips s rest := by
  obtain ⟨⟨word, value'⟩, hmem, h⟩ := List.exists_of_findSome?_eq_some h
  dsimp only at h
  split at h
  · next hstart =>
    obtain ⟨-, rfl⟩ := Prod.mk.inj (Option.some.inj h)
    have hs : s = word.toList ++ s.drop word.toList.length :=
      (List.prefix_iff_eq_append.mp (List.isPrefixOf_iff_prefix.mp hstart)).symm
    have hwords : ∀ constant ∈ constants, ∀ c ∈ constant.1.toList, c ∉ marks := by decide
    have hskips : Skips (word.toList ++ s.drop word.toList.length) _ := .of_append (hwords _ hmem)
    rwa [← hs] at hskips
  · contradiction

/-- What the reader passes on so much fuel is complete; the fields of an object end before its brace. -/
structure ScanSkips (fuel : ℕ) : Prop where
  once : scanOnce depth fuel s = .ok (value, rest) → Skips s rest
  items : scanItems depth fuel s = .ok (found, rest) → Skips s rest
  fields : scanFields depth fuel known s = .ok (found, rest) → Skips s ('\x7d' :: rest)

section

variable {fuel depth : ℕ} (ih : ScanSkips fuel)
include ih

/-- Behind an opening brace the reader stops at its partner. -/
theorem ScanSkips.object (h : Json.scanOnce depth (fuel + 1) ('\x7b' :: s) = .ok (value, rest)) :
    Skips s ('\x7d' :: rest) := by
  generalize hs : '\x7b' :: s = text at h
  unfold Json.scanOnce at h
  split at h
  · exact absurd (List.cons.inj hs).1 (by decide)
  · exact absurd (List.cons.inj hs).1 (by decide)
  · next s' =>
    obtain rfl := (List.cons.inj hs).2
    have hws := (ws_skipSpace s).skips
    split at h
    · contradiction
    split at h
    · next behind hskip =>
      obtain ⟨-, rfl⟩ := Prod.mk.inj (Except.ok.inj h)
      exact hskip ▸ hws
    · obtain ⟨⟨fields, behind⟩, hfields, h⟩ := Fallible.bind_eq_ok.mp h
      obtain ⟨-, rfl⟩ := Prod.mk.inj (Except.ok.inj h)
      exact hws.trans (ih.fields hfields)
  · next hne => exact absurd hs.symm (hne s)

theorem ScanSkips.scanOnce (h : Json.scanOnce depth (fuel + 1) s = .ok (value, rest)) : Skips s rest := by
  by_cases hbrace : ∃ s', s = '\x7b' :: s'
  · obtain ⟨s', rfl⟩ := hbrace
    exact .pair (ih.object h)
  unfold Json.scanOnce at h
  split at h
  · obtain ⟨⟨text, behind⟩, hstring, h⟩ := Fallible.bind_eq_ok.mp h
    obtain ⟨-, rfl⟩ := Prod.mk.inj (Except.ok.inj h)
    exact .quote (chars_of_scanString hstring)
  · next s' =>
    split at h
    · contradiction
    next depth =>
    have hws := (ws_skipSpace s').skips
    have hopen : Skips ('[' :: s') (skipSpace s') := .plain (by decide) hws
    split at h
    · next behind hskip =>
      obtain ⟨-, rfl⟩ := Prod.mk.inj (Except.ok.inj h)
      exact (hskip ▸ hopen).tail (by decide)
    · obtain ⟨⟨items, behind⟩, hitems, h⟩ := Fallible.bind_eq_ok.mp h
      obtain ⟨-, rfl⟩ := Prod.mk.inj (Except.ok.inj h)
      exact hopen.trans (ih.items hitems)
  · next s' => exact absurd ⟨s', rfl⟩ hbrace
  · cases hconstant : scanConstant s with
    | some found =>
      rw [hconstant] at h
      obtain rfl := Except.ok.inj h
      exact skips_of_scanConstant hconstant
    | none =>
      rw [hconstant] at h
      exact (number_of_scanNumber h).skips

theorem ScanSkips.scanItems (h : Json.scanItems depth (fuel + 1) s = .ok (found, rest)) : Skips s rest := by
  obtain ⟨⟨item, behind⟩, honce, h⟩ := Fallible.bind_eq_ok.mp h
  have hitem := (ih.once honce).trans (ws_skipSpace behind).skips
  dsimp only at h
  split at h
  · next s' hskip =>
    obtain ⟨⟨items', behind'⟩, hitems, h⟩ := Fallible.bind_eq_ok.mp h
    obtain ⟨-, rfl⟩ := Prod.mk.inj (Except.ok.inj h)
    have hcomma := (hskip ▸ hitem).tail (by decide)
    exact (hcomma.trans (ws_skipSpace s').skips).trans (ih.items hitems)
  · next s' hskip =>
    obtain ⟨-, rfl⟩ := Prod.mk.inj (Except.ok.inj h)
    exact (hskip ▸ hitem).tail (by decide)
  · contradiction

theorem ScanSkips.scanFields (h : Json.scanFields depth (fuel + 1) known s = .ok (found, rest)) :
    Skips s ('\x7d' :: rest) := by
  unfold Json.scanFields at h
  split at h
  · next s' =>
    obtain ⟨⟨name, behind⟩, hstring, h⟩ := Fallible.bind_eq_ok.mp h
    have hname : Skips ('"' :: s') (skipSpace behind) :=
      (Skips.quote (chars_of_scanString hstring)).trans (ws_skipSpace behind).skips
    dsimp only at h
    split at h
    · next t hskip =>
      have hcolon := ((hskip ▸ hname).tail (by decide)).trans (ws_skipSpace t).skips
      obtain ⟨⟨value, behind'⟩, honce, h⟩ := Fallible.bind_eq_ok.mp h
      have hvalue := (hcolon.trans (ih.once honce)).trans (ws_skipSpace behind').skips
      dsimp only at h
      split at h
      · next u hskip' =>
        have hcomma := ((hskip' ▸ hvalue).tail (by decide)).trans (ws_skipSpace u).skips
        exact hcomma.trans (ih.fields h)
      · next u hskip' =>
        obtain ⟨-, rfl⟩ := Prod.mk.inj (Except.ok.inj h)
        exact hskip' ▸ hvalue
      · contradiction
    · contradiction
  · contradiction

end

theorem scanSkips (fuel : ℕ) : ScanSkips fuel := by
  induction fuel with
  | zero => exact ⟨nofun, nofun, nofun⟩
  | succ fuel ih => exact ⟨ih.scanOnce, ih.scanItems, ih.scanFields⟩

end Json

/-! ## The leftmost object -/

open Json

/-- A complete JSON object text begins at the position: from its brace to a brace it is read as an object. -/
def ObjectAt (recursionLimit : ℕ) (s : List Char) (i : ℕ) (value : List (String × Json)) : Prop :=
  ∃ piece, piece <+: s.drop i ∧ piece.head? = some '\x7b' ∧ piece.getLast? = some '\x7d' ∧
    loads recursionLimit (String.ofList piece) = .ok (.obj value)

/-- The object that begins first, if there is one. -/
def Leftmost (recursionLimit : ℕ) (s : List Char) : Option (List (String × Json)) → Prop
  | none => ∀ i value, ¬ ObjectAt recursionLimit s i value
  | some value => ∃ i, ObjectAt recursionLimit s i value ∧ ∀ j < i, ∀ other, ¬ ObjectAt recursionLimit s j other

section Leftmost

variable {recursionLimit : ℕ} {c : Char} {s w : List Char} {value value' : List (String × Json)}

theorem candidateFrom_eq_some {depth : ℤ} {inString escape : Bool}
    (h : candidateFrom depth inString escape s = some w) : w <+: s ∧ w.getLast? = some '\x7d' := by
  have hcons {rest : List Char} {found : Option (List Char)} {c : Char} {w : List Char}
      (ih : ∀ w, found = some w → w <+: rest ∧ w.getLast? = some '\x7d') (h : found.map (c :: ·) = some w) :
      w <+: c :: rest ∧ w.getLast? = some '\x7d' := by
    obtain ⟨w', hw', rfl⟩ := Option.map_eq_some_iff.mp h
    obtain ⟨hstart, hlast⟩ := ih w' hw'
    refine ⟨List.cons_prefix_cons.mpr ⟨rfl, hstart⟩, ?_⟩
    rw [List.getLast?_cons, hlast]
    rfl
  induction s generalizing depth inString escape w with
  | nil => contradiction
  | cons c rest ih =>
    rw [candidateFrom] at h
    split_ifs at h with _ _ _ _ _ _ hclose
    any_goals exact hcons (fun w => ih) h
    obtain rfl := Option.some.inj h
    exact ⟨⟨rest, rfl⟩, congrArg some hclose⟩

/-- What is read as an object is complete up to the brace behind which only spaces are. -/
theorem skips_of_loads (h : loads recursionLimit (String.ofList ('\x7b' :: s)) = .ok (.obj value)) :
    ∃ rest, Skips s ('\x7d' :: rest) ∧ Ws rest [] := by
  obtain ⟨rest, hscan, hrest⟩ := loads_eq_ok h
  rw [String.toList_ofList] at hscan
  exact ⟨rest, (scanSkips _).object hscan, hrest⟩

/-- Spaces behind a text that does not end with one are none. -/
theorem eq_nil_of_ws {rest : List Char} (hspace : Ws rest [])
    (hlast : ∀ c, (w ++ rest).getLast? = some c → c ∉ [' ', '\t', '\n', '\r']) : rest = [] := by
  obtain ⟨spaces, hspaces, rfl⟩ := hspace
  rw [List.append_nil] at hlast ⊢
  cases hend : spaces.getLast? with
  | none => exact List.getLast?_eq_none_iff.mp hend
  | some c =>
    have hmem := hspaces c (List.mem_of_getLast? hend)
    exact absurd hmem (hlast c (by rw [List.getLast?_append, hend, Option.some_or]))

/-- At the front of a text the scanner finds the object text, if there is one. -/
theorem objectAt_zero_iff : ObjectAt recursionLimit s 0 value ↔
    (∃ rest, s = '\x7b' :: rest) ∧ ∃ candidate, candidateFrom 0 false false s = some candidate ∧
      loads recursionLimit (String.ofList candidate) = .ok (.obj value) := by
  constructor
  · rintro ⟨piece, ⟨tail, rfl⟩, hhead, hlast, hloads⟩
    obtain ⟨inner, rfl⟩ := List.head?_eq_some_iff.mp hhead
    obtain ⟨rest, hskips, hspace⟩ := skips_of_loads hloads
    obtain ⟨w, hw, -⟩ := candidateFrom_object hskips
    obtain rfl : rest = [] := eq_nil_of_ws hspace fun c hc => by
      obtain rfl := Option.some.inj (hlast.symm.trans (hw ▸ hc))
      decide
    obtain ⟨candidate, hcandidate, hfound⟩ := candidateFrom_object (hskips.append tail)
    obtain rfl : '\x7b' :: inner = candidate := List.append_cancel_right hcandidate
    exact ⟨⟨inner ++ tail, rfl⟩, _, hfound, hloads⟩
  · rintro ⟨⟨rest, rfl⟩, candidate, hfound, hloads⟩
    obtain ⟨hstart, hlast⟩ := candidateFrom_eq_some hfound
    refine ⟨candidate, hstart, ?_, hlast, hloads⟩
    cases candidate with
    | nil => contradiction
    | cons c candidate => exact congrArg some (List.cons_prefix_cons.mp hstart).1

theorem ObjectAt.unique_zero (h : ObjectAt recursionLimit s 0 value) (h' : ObjectAt recursionLimit s 0 value') :
    value = value' := by
  obtain ⟨-, candidate, hfound, hloads⟩ := objectAt_zero_iff.mp h
  obtain ⟨-, candidate', hfound', hloads'⟩ := objectAt_zero_iff.mp h'
  obtain rfl := Option.some.inj (hfound.symm.trans hfound')
  exact Json.obj.inj (Except.ok.inj (hloads.symm.trans hloads'))

theorem objectAt_drop {i : ℕ} : ObjectAt recursionLimit (s.drop i) 0 value ↔ ObjectAt recursionLimit s i value := by
  rw [ObjectAt, List.drop_zero, ObjectAt]

theorem Leftmost.unique {found found' : Option (List (String × Json))} (h : Leftmost recursionLimit s found)
    (h' : Leftmost recursionLimit s found') : found = found' := by
  match found, found', h, h' with
  | none, none, _, _ => rfl
  | none, some value, h, ⟨i, hat, _⟩ => exact absurd hat (h i value)
  | some value, none, ⟨i, hat, _⟩, h' => exact absurd hat (h' i value)
  | some value, some value', ⟨i, hat, hfirst⟩, ⟨j, hat', hfirst'⟩ =>
    obtain rfl : i = j := by
      rcases Nat.lt_trichotomy i j with hlt | heq | hgt
      · exact absurd hat (hfirst' i hlt value)
      · exact heq
      · exact absurd hat' (hfirst j hgt value')
    rw [(objectAt_drop.mpr hat).unique_zero (objectAt_drop.mpr hat')]

/-- Where no object begins at the front, the first one is that of the tail. -/
theorem Leftmost.cons {found : Option (List (String × Json))} (h : Leftmost recursionLimit s found)
    (hfront : ∀ value, ¬ ObjectAt recursionLimit (c :: s) 0 value) : Leftmost recursionLimit (c :: s) found := by
  match found, h with
  | none, h =>
    intro i value
    cases i with
    | zero => exact hfront value
    | succ i => exact h i value
  | some value, ⟨i, hat, hfirst⟩ =>
    refine ⟨i + 1, hat, fun j hj other => ?_⟩
    cases j with
    | zero => exact hfront other
    | succ j => exact hfirst j (Nat.lt_of_succ_lt_succ hj) other

theorem leftmost_front (h : ObjectAt recursionLimit s 0 value) : Leftmost recursionLimit s (some value) :=
  ⟨0, h, fun _ hj => absurd hj (Nat.not_lt_zero _)⟩

/-- The reader meets none of the limits of the interpreter in the text: whatever piece of it is not read is no
JSON text. -/
def ReadsGrammar (recursionLimit : ℕ) (s : List Char) : Prop :=
  ∀ piece, piece <:+: s → loads recursionLimit (String.ofList piece) ≠ .error .other

theorem objectInText_leftmost (hgrammar : ReadsGrammar recursionLimit s) :
    ∃ found, objectInText recursionLimit s = .ok found ∧ Leftmost recursionLimit s found := by
  induction s with
  | nil =>
    refine ⟨none, rfl, fun i value => ?_⟩
    rintro ⟨piece, hstart, hhead, -⟩
    rw [List.drop_nil, List.prefix_nil] at hstart
    subst hstart
    contradiction
  | cons c s ih =>
    obtain ⟨found, hfound, hleftmost⟩ := ih fun piece hpiece => hgrammar piece (hpiece.trans (List.suffix_cons c s).isInfix)
    rw [objectInText]
    by_cases hbrace : c = '\x7b'
    · rw [if_pos hbrace]
      cases hcandidate : candidateFrom 0 false false (c :: s) with
      | none =>
        refine ⟨found, hfound, hleftmost.cons fun value hat => ?_⟩
        obtain ⟨-, candidate, hsome, -⟩ := objectAt_zero_iff.mp hat
        exact nomatch hcandidate.symm.trans hsome
      | some candidate =>
        have hat (value : List (String × Json)) : ObjectAt recursionLimit (c :: s) 0 value ↔
            loads recursionLimit (String.ofList candidate) = .ok (.obj value) := by
          rw [objectAt_zero_iff, hcandidate]
          simp [hbrace]
        have hlimit := hgrammar candidate (candidateFrom_eq_some hcandidate).1.isInfix
        dsimp only
        split
        · next value hloads => exact ⟨some value, rfl, leftmost_front ((hat value).mpr hloads)⟩
        · next hloads => exact absurd hloads hlimit
        · next hnot _ => exact ⟨found, hfound, hleftmost.cons fun value h => hnot value ((hat value).mp h)⟩
    · rw [if_neg hbrace]
      refine ⟨found, hfound, hleftmost.cons fun value hat => ?_⟩
      obtain ⟨⟨rest, hrest⟩, -⟩ := objectAt_zero_iff.mp hat
      exact hbrace (List.cons.inj hrest).1

/-- A stripped text that is read as an object is the object text. -/
theorem objectAt_of_loads_strip {text : String} (h : loads recursionLimit (strip text) = .ok (.obj value)) :
    ObjectAt recursionLimit (strip text).toList 0 value := by
  have hspaces : ∀ c ∈ [' ', '\t', '\n', '\r'], isSpace c = true := by decide
  obtain ⟨rest, hscan, hrest⟩ := loads_eq_ok h
  have hskip : skipSpace (strip text).toList = (strip text).toList := by
    cases hs : (strip text).toList with
    | nil => rfl
    | cons c s =>
      have hhead := isSpace_head_strip (s := text) (congrArg List.head? hs)
      refine List.dropWhile_cons_of_neg fun hmem => ?_
      exact Bool.false_ne_true (hhead.symm.trans (hspaces c (of_decide_eq_true hmem)))
  rw [hskip] at hscan
  obtain ⟨s, hs⟩ := scanOnce_obj hscan
  rw [hs] at hscan
  obtain ⟨w, hw, hcandidate⟩ := candidateFrom_object ((scanSkips _).object hscan)
  obtain rfl : rest = [] := eq_nil_of_ws hrest fun c hc hmem => by
    rw [← hw, ← hs] at hc
    exact Bool.false_ne_true ((isSpace_getLast_strip hc).symm.trans (hspaces c hmem))
  rw [List.append_nil] at hw
  refine objectAt_zero_iff.mpr ⟨⟨s, hs⟩, w, hs ▸ hcandidate, ?_⟩
  rw [← hw, ← hs, String.ofList_toList]
  exact h

/-- What is read from a text is the object that begins first in it, whatever is before or behind that object. -/
theorem parseJsonObjectFromText_leftmost (recursionLimit : ℕ) (text : String)
    (hgrammar : ReadsGrammar recursionLimit (strip text).toList) :
    ∃ found, parseJsonObjectFromText recursionLimit text = .ok found ∧
      (found = none ↔ ∀ i value, ¬ ObjectAt recursionLimit (strip text).toList i value) ∧
      ∀ value, found = some value ↔ ∃ i, ObjectAt recursionLimit (strip text).toList i value ∧
        ∀ j < i, ∀ other, ¬ ObjectAt recursionLimit (strip text).toList j other := by
  have hleftmost : ∃ found, parseJsonObjectFromText recursionLimit text = .ok found ∧
      Leftmost recursionLimit (strip text).toList found := by
    have hlimit := hgrammar _ (List.infix_refl _)
    rw [String.ofList_toList] at hlimit
    rw [parseJsonObjectFromText]
    split
    · next value hloads => exact ⟨some value, rfl, leftmost_front (objectAt_of_loads_strip hloads)⟩
    · next hloads => exact absurd hloads hlimit
    · exact objectInText_leftmost hgrammar
  obtain ⟨found, hfound, hleftmost⟩ := hleftmost
  refine ⟨found, hfound, ⟨?_, fun h => ?_⟩, fun value => ⟨?_, fun h => ?_⟩⟩
  · rintro rfl
    exact hleftmost
  · have hnone : Leftmost recursionLimit (strip text).toList none := h
    exact hleftmost.unique hnone
  · rintro rfl
    exact hleftmost
  · have hsome : Leftmost recursionLimit (strip text).toList (some value) := h
    exact hleftmost.unique hsome

end Leftmost

theorem readsGrammar_of_pieces {recursionLimit : ℕ} {s : List Char} (h : ∀ piece ∈ s.tails.flatMap List.inits,
    (loads recursionLimit (String.ofList piece) matches .error .other) = false) : ReadsGrammar recursionLimit s := by
  intro piece hpiece hother
  obtain ⟨t, hstart, hsuffix⟩ := List.infix_iff_prefix_suffix.mp hpiece
  have hmem := List.mem_flatMap.mpr ⟨t, (List.mem_tails _ _).mpr hsuffix, (List.mem_inits _ _).mpr hstart⟩
  have hnot := h piece hmem
  rw [hother] at hnot
  contradiction

/-- A brace that is not closed, a brace in a string, and an object behind them. -/
def bracesBefore : String := " \x7b\"\x7d\" \x7b\"a\":1\x7d"

theorem parseJsonObjectFromText_leftmost_braces :
    ∃ found, parseJsonObjectFromText 8 bracesBefore = .ok found ∧
      (found = none ↔ ∀ i value, ¬ ObjectAt 8 (strip bracesBefore).toList i value) ∧
      ∀ value, found = some value ↔ ∃ i, ObjectAt 8 (strip bracesBefore).toList i value ∧
        ∀ j < i, ∀ other, ¬ ObjectAt 8 (strip bracesBefore).toList j other :=
  parseJsonObjectFromText_leftmost 8 bracesBefore (readsGrammar_of_pieces (by decide +kernel))

end Gpucall
