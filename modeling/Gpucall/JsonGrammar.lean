import Gpucall.JsonLoads
import Gpucall.Lib.OptionList
import Gpucall.Lib.Rfc8259
import Mathlib.Data.List.TakeWhile

/-! What `json.loads` accepts against the grammar of RFC 8259. The reader has three constants that the
grammar does not have, `NaN`, `Infinity` and `-Infinity`; a text without them is a JSON text when it is
read. -/

namespace Gpucall

namespace Json

open Rfc8259

/-- One of the constants `NaN`, `Infinity` and `-Infinity` is in the text. Of what can stand outside of
the strings of a text that is read, only these have one of the two letters. -/
def hasConstant (text : String) : Bool := (outsideStrings text.toList).any (· ∈ ['N', 'I'])

/-- No letter of the constants is outside of the strings. -/
def Clean (s : List Char) : Prop := ∀ c ∈ outsideStrings s, c ∉ ['N', 'I']

theorem hasConstant_eq_false : hasConstant text = false ↔ Clean text.toList := by
  simp [hasConstant, Clean]

theorem Clean.of_plain (h : Clean s) (hplain : Plain s rest) : Clean rest := by
  obtain ⟨w, -, heq⟩ := hplain
  exact fun c hc => h c (by rw [heq]; exact List.mem_append_right _ hc)

theorem Clean.tail (h : Clean (c :: s)) (hc : c ≠ '"') : Clean s :=
  fun x hx => h x (by rw [outsideStrings_cons hc]; exact List.mem_cons_of_mem _ hx)

/-- A JSON text has no constant. -/
theorem hasConstant_of_text (h : Text text.toList) : hasConstant text = false := by
  have hletters : ∀ c ∈ alphabet, c ∉ ['N', 'I'] := by decide
  exact hasConstant_eq_false.mpr fun c hc => hletters c (h.outsideStrings_alphabet c hc)

/-! ## Spaces and strings -/

theorem ws_skipSpace (s : List Char) : Ws s (skipSpace s) :=
  ⟨s.takeWhile (· ∈ [' ', '\t', '\n', '\r']),
    fun c hc => by simpa using List.mem_takeWhile_imp hc, List.takeWhile_append_dropWhile.symm⟩

theorem ws_of_skipSpace (h : skipSpace s = rest) : Ws s rest := h ▸ ws_skipSpace s

theorem isHex_of_hexValue (h : hexValue c = some n) : IsHex c := by
  unfold hexValue at h
  split at h
  · next hdigit => exact .inl (by simpa [Char.isDigit, Char.le_def] using hdigit)
  split at h
  · next hlower => exact .inr (.inl hlower)
  split at h
  · next hupper => exact .inr (.inr hupper)
  · contradiction

theorem scanUnit_sound (h : scanUnit s = some (unit, rest)) :
    ∃ a b c d, s = a :: b :: c :: d :: rest ∧ IsHex a ∧ IsHex b ∧ IsHex c ∧ IsHex d := by
  match s, h with
  | a :: b :: c :: d :: rest', h =>
    simp only [scanUnit, Option.bind_eq_bind, Option.bind_eq_some_iff, Option.pure_def,
      Option.some.injEq, Prod.mk.injEq] at h
    obtain ⟨_, ha, _, hb, _, hc, _, hd, -, rfl⟩ := h
    exact ⟨a, b, c, d, rfl, isHex_of_hexValue ha, isHex_of_hexValue hb, isHex_of_hexValue hc,
      isHex_of_hexValue hd⟩

/-- What stands behind a `\u` and its digits closes what stands before them. -/
theorem chars_of_scanUnit (h : scanUnit s = some (unit, rest)) (hrest : Chars rest t) :
    Chars ('\\' :: 'u' :: s) t := by
  obtain ⟨a, b, c, d, rfl, ha, hb, hc, hd⟩ := scanUnit_sound h
  exact .unicode ha hb hc hd hrest

theorem chars_of_scanLow (h : scanLow s = some (low, rest)) (hrest : Chars rest t) : Chars s t := by
  unfold scanLow at h
  split at h
  · exact chars_of_scanUnit (Option.filter_eq_some_iff.mp h).1 hrest
  · contradiction

theorem mem_escapes_of_unescape (h : unescape e = some c) :
    e ∈ ['"', '\\', '/', 'b', 'f', 'n', 'r', 't'] := by
  unfold unescape at h
  split at h <;> first | decide | contradiction

theorem chars_of_scanChar (hquote : s.head? ≠ some '"') (h : scanChar s = some (c, rest))
    (hrest : Chars rest t) : Chars s t := by
  unfold scanChar at h
  split at h
  · next s' =>
    simp only [Option.bind_eq_bind, Option.bind_eq_some_iff, Prod.exists] at h
    obtain ⟨unit, behind, hunit, h⟩ := h
    refine chars_of_scanUnit hunit ?_
    split at h
    · split at h
      · next low behind' hlow =>
        obtain ⟨-, rfl⟩ := Prod.mk.inj (Option.some.inj h)
        exact chars_of_scanLow hlow hrest
      · obtain ⟨-, rfl⟩ := Prod.mk.inj (Option.some.inj h)
        exact hrest
    · obtain ⟨-, rfl⟩ := Prod.mk.inj (Option.some.inj h)
      exact hrest
  · next e s' hne =>
    obtain ⟨c', hc', h⟩ := Option.map_eq_some_iff.mp h
    obtain ⟨rfl, rfl⟩ := Prod.mk.inj h
    exact .escaped (mem_escapes_of_unescape hc') hrest
  · contradiction
  · next c' s' _ hslash hslash' =>
    split at h
    · contradiction
    next hcontrol =>
    obtain ⟨rfl, rfl⟩ := Prod.mk.inj (Option.some.inj h)
    refine .unescaped (not_lt.mp hcontrol) (by simpa using hquote) (fun hc => ?_) hrest
    rcases s' with _ | ⟨e, s'⟩
    · exact hslash' hc rfl
    · exact hslash e s' hc rfl
  · contradiction

theorem chars_of_scanString {fuel : ℕ} (h : scanString fuel s = .ok (text, rest)) :
    Chars s rest := by
  induction fuel generalizing s text with
  | zero => contradiction
  | succ fuel ih =>
    unfold scanString at h
    split at h
    · contradiction
    · obtain ⟨-, rfl⟩ := Prod.mk.inj (Except.ok.inj h)
      exact .close
    · next fuel' hfuel hquote =>
      obtain rfl := Nat.succ.inj hfuel
      split at h
      · contradiction
      next c behind hchar =>
      obtain ⟨⟨text', rest'⟩, hrest, h⟩ := Fallible.bind_eq_ok.mp h
      obtain ⟨-, rfl⟩ := Prod.mk.inj (Except.ok.inj h)
      refine chars_of_scanChar (fun hhead => ?_) hchar (ih hrest)
      obtain ⟨s', rfl⟩ := List.head?_eq_some_iff.mp hhead
      exact hquote s' rfl

/-! ## Numbers -/

theorem scanDigits_cases (lead s : List Char) :
    scanDigits lead s = ([], lead ++ s) ∨ ∃ digits rest, digits ≠ [] ∧ (∀ c ∈ digits, c.isDigit) ∧
      s = digits ++ rest ∧ scanDigits lead s = (lead ++ digits, rest) := by
  unfold scanDigits
  split
  · exact .inl rfl
  · next digits hdigits =>
    exact .inr ⟨s.takeWhile Char.isDigit, s.dropWhile Char.isDigit, hdigits,
      fun c hc => List.mem_takeWhile_imp hc, List.takeWhile_append_dropWhile.symm, rfl⟩

theorem scanFraction_sound (s : List Char) :
    Frac (scanFraction s).1 ∧ s = (scanFraction s).1 ++ (scanFraction s).2 := by
  unfold scanFraction
  split
  · next s' =>
    obtain heq | ⟨digits, rest, hne, hdigits, rfl, heq⟩ := scanDigits_cases ['.'] s'
    · exact heq ▸ ⟨.absent, rfl⟩
    · exact heq ▸ ⟨.present hne hdigits, rfl⟩
  · exact ⟨.absent, rfl⟩

theorem scanExponent_sound (s : List Char) :
    Exp (scanExponent s).1 ∧ s = (scanExponent s).1 ++ (scanExponent s).2 := by
  unfold scanExponent
  split
  · next e sign s' =>
    split
    · next he =>
      have he : e ∈ ['e', 'E'] := by simpa using he
      split
      · next hsign =>
        obtain heq | ⟨digits, rest, hne, hdigits, rfl, heq⟩ := scanDigits_cases [e, sign] s'
        · exact heq ▸ ⟨.absent, rfl⟩
        · have hsign : [sign] ∈ [[], ['-'], ['+']] := by simpa using hsign
          exact heq ▸ ⟨.present he hsign hne hdigits, rfl⟩
      · obtain heq | ⟨digits, rest, hne, hdigits, hs, heq⟩ := scanDigits_cases [e] (sign :: s')
        · exact heq ▸ ⟨.absent, rfl⟩
        · rw [heq, hs]
          have hsign : [] ∈ [[], ['-'], ['+']] := by decide
          exact ⟨.present he hsign hne hdigits, rfl⟩
    · exact ⟨.absent, rfl⟩
  · exact ⟨.absent, rfl⟩

theorem scanInteger_sound (h : scanInteger s = some (t, rest)) : Rfc8259.Int t ∧ s = t ++ rest := by
  unfold scanInteger at h
  split at h
  · obtain ⟨rfl, rfl⟩ := Prod.mk.inj (Option.some.inj h)
    exact ⟨.zero, rfl⟩
  · next c s' hzero =>
    split at h
    · next hdigit =>
      obtain ⟨rfl, rfl⟩ := Prod.mk.inj (Option.some.inj h)
      exact ⟨.digits hdigit (fun hc => hzero hc) fun c hc => List.mem_takeWhile_imp hc,
        by rw [List.cons_append, List.takeWhile_append_dropWhile]⟩
    · contradiction
  · contradiction

theorem takeWhile_minus_mem {s : List Char} (h : (s.takeWhile (· = '-')).length ≤ 1) :
    s.takeWhile (· = '-') ∈ [[], ['-']] := by
  match hsign : s.takeWhile (· = '-'), h with
  | [], _ => decide
  | [c], _ =>
    have hc : c ∈ s.takeWhile (· = '-') := by simp [hsign]
    have hminus : c = '-' := by simpa using List.mem_takeWhile_imp hc
    simp [hminus]

theorem number_of_scanNumber (h : scanNumber s = .ok (value, rest)) : Number s rest := by
  simp only [scanNumber] at h
  split at h
  · contradiction
  next integer behind hinteger =>
  split at hinteger
  · next hsign =>
    obtain ⟨hint, hs⟩ := scanInteger_sound hinteger
    obtain ⟨hfrac, hfraction⟩ := scanFraction_sound behind
    obtain ⟨hexp, hexponent⟩ := scanExponent_sound (scanFraction behind).2
    split at h
    · contradiction
    obtain ⟨-, rfl⟩ := Prod.mk.inj (Except.ok.inj h)
    refine ⟨_, integer, _, _, takeWhile_minus_mem hsign, hint, hfrac, hexp, ?_⟩
    calc s = s.takeWhile (· = '-') ++ s.drop (s.takeWhile (· = '-')).length :=
          (List.prefix_iff_eq_append.mp (List.takeWhile_prefix _)).symm
      _ = s.takeWhile (· = '-') ++ (integer ++ ((scanFraction behind).1 ++
            ((scanExponent (scanFraction behind).2).1 ++
              (scanExponent (scanFraction behind).2).2))) := by
          rw [hs, ← hexponent, ← hfraction]
      _ = _ := by simp only [List.append_assoc]
  · contradiction

/-! ## Values -/

theorem literal_of_scanConstant (hclean : Clean s) (h : scanConstant s = some (value, rest)) :
    Derives .value s rest := by
  obtain ⟨⟨word, value'⟩, hmem, h⟩ := List.exists_of_findSome?_eq_some h
  dsimp only at h
  split at h
  · next hprefix =>
    obtain ⟨-, rfl⟩ := Prod.mk.inj (Option.some.inj h)
    have hs : s = word.toList ++ s.drop word.toList.length :=
      (List.prefix_iff_eq_append.mp (List.isPrefixOf_iff_prefix.mp hprefix)).symm
    have hwords : ∀ constant ∈ constants, constant.1 ∈ ["null", "true", "false"] ∨
        '"' ∉ constant.1.toList ∧ ∃ c ∈ constant.1.toList, c ∈ ['N', 'I'] := by
      decide
    obtain hword | ⟨hquote, c, hc, hletter⟩ := hwords _ hmem
    · rw [hs]
      have hderives : Derives .value (word.toList ++ s.drop word.toList.length) (s.drop word.toList.length) :=
        .literal hword
      simpa using hderives
    · have hout : c ∈ outsideStrings s := by
        rw [hs, outsideStrings_append hquote]
        exact List.mem_append_left _ hc
      exact absurd hletter (hclean c hout)
  · contradiction

/-- What the scanner reads on so much fuel is derived by the grammar, where no constant is in it. -/
structure ScanSound (fuel : ℕ) : Prop where
  once : scanOnce depth fuel s = .ok (value, rest) → Clean s → Derives .value s rest
  items : scanItems depth fuel s = .ok (found, rest) → Clean s → Derives .elements s rest
  fields : scanFields depth fuel known s = .ok (found, rest) → Clean s → Derives .members s rest

section

variable {fuel depth : ℕ} (ih : ScanSound fuel)
include ih

theorem ScanSound.scanOnce (h : Json.scanOnce depth (fuel + 1) s = .ok (value, rest))
    (hclean : Clean s) : Derives .value s rest := by
  unfold Json.scanOnce at h
  split at h
  · obtain ⟨⟨text, behind⟩, hstring, h⟩ := Fallible.bind_eq_ok.mp h
    obtain ⟨-, rfl⟩ := Prod.mk.inj (Except.ok.inj h)
    exact .string (chars_of_scanString hstring)
  · next s' =>
    split at h
    · contradiction
    next depth =>
    have hws := ws_skipSpace s'
    split at h
    · next behind hskip =>
      obtain ⟨-, rfl⟩ := Prod.mk.inj (Except.ok.inj h)
      exact .emptyArray (hskip ▸ hws)
    · obtain ⟨⟨items, behind⟩, hitems, h⟩ := Fallible.bind_eq_ok.mp h
      obtain ⟨-, rfl⟩ := Prod.mk.inj (Except.ok.inj h)
      have hopen := (hclean.tail (by decide)).of_plain hws.plain
      exact .array hws (ih.items hitems hopen)
  · next s' =>
    split at h
    · contradiction
    next depth =>
    have hws := ws_skipSpace s'
    split at h
    · next behind hskip =>
      obtain ⟨-, rfl⟩ := Prod.mk.inj (Except.ok.inj h)
      exact .emptyObject (hskip ▸ hws)
    · obtain ⟨⟨fields, behind⟩, hfields, h⟩ := Fallible.bind_eq_ok.mp h
      obtain ⟨-, rfl⟩ := Prod.mk.inj (Except.ok.inj h)
      have hopen := (hclean.tail (by decide)).of_plain hws.plain
      exact .object hws (ih.fields hfields hopen)
  · cases hconstant : scanConstant s with
    | some found =>
      rw [hconstant] at h
      obtain rfl := Except.ok.inj h
      exact literal_of_scanConstant hclean hconstant
    | none =>
      rw [hconstant] at h
      exact .number (number_of_scanNumber h)

theorem ScanSound.scanItems (h : Json.scanItems depth (fuel + 1) s = .ok (found, rest))
    (hclean : Clean s) : Derives .elements s rest := by
  obtain ⟨⟨item, behind⟩, honce, h⟩ := Fallible.bind_eq_ok.mp h
  have hitem := ih.once honce hclean
  have hws := ws_skipSpace behind
  dsimp only at h
  split at h
  · next s' hskip =>
    rw [hskip] at hws
    obtain ⟨⟨items', behind'⟩, hitems, h⟩ := Fallible.bind_eq_ok.mp h
    obtain ⟨-, rfl⟩ := Prod.mk.inj (Except.ok.inj h)
    have hspace := ws_skipSpace s'
    have hnext := ((hclean.of_plain hitem.plain).of_plain hws.plain).tail (by decide)
    exact .nextElement hitem hws hspace (ih.items hitems (hnext.of_plain hspace.plain))
  · next s' hskip =>
    obtain ⟨-, rfl⟩ := Prod.mk.inj (Except.ok.inj h)
    exact .lastElement hitem (hskip ▸ hws)
  · contradiction

theorem ScanSound.scanFields (h : Json.scanFields depth (fuel + 1) known s = .ok (found, rest))
    (hclean : Clean s) : Derives .members s rest := by
  unfold Json.scanFields at h
  split at h
  · next s' =>
    obtain ⟨⟨name, behind⟩, hstring, h⟩ := Fallible.bind_eq_ok.mp h
    have hname := chars_of_scanString hstring
    have hcolon := ws_skipSpace behind
    dsimp only at h
    split at h
    · next t hskip =>
      rw [hskip] at hcolon
      have hspace := ws_skipSpace t
      obtain ⟨⟨value, behind'⟩, honce, h⟩ := Fallible.bind_eq_ok.mp h
      have hvalue := ih.once honce ((((hclean.of_plain (.quote hname)).of_plain
        hcolon.plain).tail (by decide)).of_plain hspace.plain)
      have hws := ws_skipSpace behind'
      dsimp only at h
      split at h
      · next u hskip' =>
        rw [hskip'] at hws
        have hspace' := ws_skipSpace u
        have hnext := ((((((hclean.of_plain (.quote hname)).of_plain hcolon.plain).tail
          (by decide)).of_plain hspace.plain).of_plain hvalue.plain).of_plain hws.plain).tail
          (by decide)
        exact .nextMember hname hcolon hspace hvalue hws hspace'
          (ih.fields h (hnext.of_plain hspace'.plain))
      · next u hskip' =>
        obtain ⟨-, rfl⟩ := Prod.mk.inj (Except.ok.inj h)
        exact .lastMember hname hcolon hspace hvalue (hskip' ▸ hws)
      · contradiction
    · contradiction
  · contradiction

end

theorem scanSound (fuel : ℕ) : ScanSound fuel := by
  induction fuel with
  | zero => exact ⟨nofun, nofun, nofun⟩
  | succ fuel ih => exact ⟨ih.scanOnce, ih.scanItems, ih.scanFields⟩

/-! ## Texts -/

theorem loads_eq_ok {limit : ℕ} (h : loads limit text = .ok value) :
    ∃ rest, scanOnce limit (2 * text.toList.length + 1) (skipSpace text.toList) = .ok (value, rest) ∧
      Ws rest [] := by
  simp only [loads] at h
  split at h
  · contradiction
  obtain ⟨⟨value', rest⟩, hscan, h⟩ := Fallible.bind_eq_ok.mp h
  dsimp only at h
  split at h
  · next hrest =>
    obtain rfl := Except.ok.inj h
    exact ⟨rest, hscan, ws_of_skipSpace hrest⟩
  · contradiction

/-- A text that is read is a JSON text exactly when none of the constants is in it. -/
theorem text_iff_of_loads {limit : ℕ} (h : loads limit text = .ok value) :
    Text text.toList ↔ hasConstant text = false := by
  refine ⟨hasConstant_of_text, fun hclean => ?_⟩
  obtain ⟨rest, hscan, hrest⟩ := loads_eq_ok h
  have hws := ws_skipSpace text.toList
  exact ⟨_, rest, hws, (scanSound _).once hscan ((hasConstant_eq_false.mp hclean).of_plain hws.plain),
    hrest⟩

theorem scanNumber_number (h : scanNumber s = .ok (value, rest)) : ∃ n, value = number n := by
  simp only [scanNumber] at h
  split at h
  · contradiction
  split at h
  · contradiction
  obtain ⟨rfl, -⟩ := Prod.mk.inj (Except.ok.inj h)
  exact ⟨_, rfl⟩

/-- Only an opening brace starts an object. -/
theorem scanOnce_obj {depth fuel : ℕ} (h : scanOnce depth fuel s = .ok (obj fields, rest)) :
    ∃ s', s = '\x7b' :: s' := by
  cases fuel with
  | zero => contradiction
  | succ fuel =>
    unfold scanOnce at h
    split at h
    · obtain ⟨_, -, h⟩ := Fallible.bind_eq_ok.mp h
      cases Except.ok.inj h
    · split at h
      · contradiction
      split at h
      · cases Except.ok.inj h
      · obtain ⟨_, -, h⟩ := Fallible.bind_eq_ok.mp h
        cases Except.ok.inj h
    · exact ⟨_, rfl⟩
    · cases hconstant : scanConstant s with
      | some found =>
        rw [hconstant] at h
        obtain ⟨constant, hmem, hfound⟩ := List.exists_of_findSome?_eq_some hconstant
        obtain rfl := Except.ok.inj h
        dsimp only at hfound
        split at hfound
        · obtain ⟨hobj, -⟩ := Prod.mk.inj (Option.some.inj hfound)
          have hconstants : ∀ constant ∈ constants, ∀ fields, constant.2 ≠ obj fields := by
            simp [constants]
          exact absurd hobj (hconstants _ hmem _)
        · contradiction
      | none =>
        rw [hconstant] at h
        obtain ⟨n, hn⟩ := scanNumber_number h
        cases hn

/-- A text that is read as an object, with none of the constants in it, is the text of an object. -/
theorem objectText_of_loads {limit : ℕ} (h : loads limit text = .ok (obj fields))
    (hclean : hasConstant text = false) : ObjectText text.toList := by
  obtain ⟨rest, hscan, hrest⟩ := loads_eq_ok h
  have hws := ws_skipSpace text.toList
  have hvalue := (scanSound _).once hscan ((hasConstant_eq_false.mp hclean).of_plain hws.plain)
  obtain ⟨s, hs⟩ := scanOnce_obj hscan
  exact ⟨s, rest, hs ▸ hws, hs ▸ hvalue, hrest⟩

end Json

end Gpucall
