import Gpucall.JsonChars
import Gpucall.JsonGrammar
import Gpucall.JsonRoundTrip

/-! What `json.loads` returns is well formed and nested no deeper than the recursion limit allows, so that it can be
written and read again. -/

namespace Gpucall

namespace Json

open Rfc8259

variable {s rest t : List Char} {value : Json} {text : String}

/-! ## Numbers -/

theorem exp_head {exp : List Char} (h : Exp exp) : ∀ c ∈ exp.head?, c = 'e' ∨ c = 'E' := by
  intro c hc
  cases h with
  | absent => cases hc
  | present he =>
    obtain rfl := Option.some.inj hc
    simpa using he

theorem exp_head_not_digit {exp : List Char} (h : Exp exp) : ∀ c ∈ exp.head?, c.isDigit = false := by
  intro c hc
  rcases exp_head h c hc with rfl | rfl <;> decide

theorem frac_head_not_digit {frac exp : List Char} (hfrac : Frac frac) (hexp : Exp exp) :
    ∀ c ∈ (frac ++ exp).head?, c.isDigit = false := by
  cases hfrac with
  | absent => exact exp_head_not_digit hexp
  | present =>
    intro c hc
    obtain rfl := Option.some.inj hc
    decide

theorem scanDigits_complete {digits : List Char} (hne : digits ≠ []) (hdigits : ∀ c ∈ digits, c.isDigit)
    {rest : List Char} (hrest : ∀ c ∈ rest.head?, c.isDigit = false) (lead : List Char) :
    scanDigits lead (digits ++ rest) = (lead ++ digits, rest) := by
  have htake : (digits ++ rest).takeWhile Char.isDigit = digits := by
    rw [takeWhile_append_of_head hrest, List.takeWhile_eq_self_iff.mpr hdigits]
  have hdrop : (digits ++ rest).dropWhile Char.isDigit = rest := by
    rw [dropWhile_append_of_head hrest, List.dropWhile_eq_nil_iff.mpr hdigits, List.nil_append]
  unfold scanDigits
  rw [htake, hdrop]
  split
  · exact absurd rfl hne
  · rfl

theorem scanInteger_complete {int : List Char} (h : Rfc8259.Int int) {rest : List Char}
    (hrest : ∀ c ∈ rest.head?, c.isDigit = false) : scanInteger (int ++ rest) = some (int, rest) := by
  cases h with
  | zero => rfl
  | digits hfirst hzero hdigits =>
    rw [List.cons_append, scanInteger.eq_2 _ _ (fun heq => hzero heq), if_pos hfirst,
      takeWhile_append_of_head hrest, List.takeWhile_eq_self_iff.mpr hdigits, dropWhile_append_of_head hrest,
      List.dropWhile_eq_nil_iff.mpr hdigits, List.nil_append]

theorem scanFraction_complete {frac exp : List Char} (hfrac : Frac frac) (hexp : Exp exp) :
    scanFraction (frac ++ exp) = (frac, exp) := by
  cases hfrac with
  | absent =>
    rw [List.nil_append]
    cases exp with
    | nil => rfl
    | cons c exp =>
      have hdot : c ≠ '.' := by
        rintro rfl
        rcases exp_head hexp '.' rfl with h | h <;> exact absurd h (by decide)
      exact scanFraction.eq_2 _ fun _ heq => hdot (List.cons.inj heq).1
  | present hne hdigits => exact scanDigits_complete hne hdigits (exp_head_not_digit hexp) ['.']

theorem scanExponent_complete {exp : List Char} (h : Exp exp) : scanExponent exp = (exp, []) := by
  cases h with
  | absent => rfl
  | @present e sign digits he hsign hne hdigits =>
    have hexp : (decide (e = 'e') || decide (e = 'E')) = true := by simpa using he
    have hnone : ∀ c ∈ ([] : List Char).head?, c.isDigit = false := fun _ hc => by cases hc
    have hread := scanDigits_complete hne hdigits hnone
    rw [List.append_nil] at hread
    simp only [List.mem_cons, List.not_mem_nil, or_false] at hsign
    obtain ⟨d, digits, rfl⟩ := List.exists_cons_of_ne_nil hne
    rcases hsign with rfl | rfl | rfl
    · -- without a sign the first digit stands in its place
      have hd := hdigits d List.mem_cons_self
      have hnot : (decide (d = '-') || decide (d = '+')) = false := by
        rw [Bool.or_eq_false_iff]
        constructor <;> refine decide_eq_false ?_ <;> rintro rfl <;> exact absurd hd (by decide)
      rw [List.nil_append, scanExponent, if_pos hexp, hnot, if_neg Bool.false_ne_true, hread]
      rfl
    · rw [List.singleton_append, scanExponent, if_pos hexp, if_pos (by decide), hread]
      rfl
    · rw [List.singleton_append, scanExponent, if_pos hexp, if_pos (by decide), hread]
      rfl

theorem takeWhile_minus {minus : List Char} (hminus : minus ∈ [[], ['-']]) {t : List Char}
    (ht : ∀ c ∈ t.head?, c.isDigit) : (minus ++ t).takeWhile (· = '-') = minus := by
  have hhead : ∀ c ∈ t.head?, decide (c = '-') = false := by
    intro c hc
    refine decide_eq_false ?_
    rintro rfl
    exact absurd (ht _ hc) (by decide)
  rw [takeWhile_append_of_head hhead]
  simp only [List.mem_cons, List.not_mem_nil, or_false] at hminus
  rcases hminus with rfl | rfl <;> rfl

theorem int_head {int : List Char} (h : Rfc8259.Int int) (t : List Char) : ∀ c ∈ (int ++ t).head?, c.isDigit := by
  intro c hc
  cases h with
  | zero =>
    obtain rfl := Option.some.inj hc
    decide
  | digits hfirst =>
    obtain rfl := Option.some.inj hc
    exact hfirst

theorem scanNumber_complete {minus int frac exp : List Char} (hminus : minus ∈ [[], ['-']]) (hint : Rfc8259.Int int)
    (hfrac : Frac frac) (hexp : Exp exp)
    (hlength : (frac.isEmpty && exp.isEmpty && decide (maxStrDigits < int.length)) = false) :
    scanNumber (minus ++ (int ++ (frac ++ exp))) =
      .ok (number (String.ofList (minus ++ int ++ frac ++ exp)), []) := by
  have htake := takeWhile_minus hminus (int_head hint (frac ++ exp))
  have hsign : minus.length ≤ 1 := by
    simp only [List.mem_cons, List.not_mem_nil, or_false] at hminus
    rcases hminus with rfl | rfl <;> decide
  unfold scanNumber
  dsimp only
  rw [htake, if_pos hsign, List.drop_left, scanInteger_complete hint (frac_head_not_digit hfrac hexp)]
  simp only [scanFraction_complete hfrac hexp, scanExponent_complete hexp]
  rw [hlength, if_neg Bool.false_ne_true]

/-- The text that a number was read from is read as it again. -/
theorem numberText_of_scanNumber (h : scanNumber s = .ok (number text, rest)) : numberText text := by
  have hagain : scanNumber text.toList = .ok (number text, []) := by
    unfold scanNumber at h
    dsimp only at h
    split at h
    · cases h
    rename_i integer behind hinteger
    split at hinteger
    · rename_i hsign
      obtain ⟨hint, -⟩ := scanInteger_sound hinteger
      obtain ⟨hfrac, -⟩ := scanFraction_sound behind
      obtain ⟨hexp, -⟩ := scanExponent_sound (scanFraction behind).2
      split at h
      · cases h
      · rename_i hlength
        have hcomplete :=
          scanNumber_complete (takeWhile_minus_mem hsign) hint hfrac hexp (Bool.eq_false_iff.mpr hlength)
        obtain ⟨htext, -⟩ := Prod.mk.inj (Except.ok.inj h)
        obtain rfl := number.inj htext
        rw [String.toList_ofList]
        simpa only [List.append_assoc] using hcomplete
    · cases hinteger
  obtain ⟨d, tail, hd, hs⟩ := scanNumber_head hagain
  obtain ⟨-, hquote, hbracket, hbrace⟩ := not_opening_of_digit hd
  have hscan : scanOnce 0 1 text.toList = .ok (number text, []) := by
    obtain ⟨hconstant, hconstant'⟩ := scanConstant_of_digit hd tail
    rcases hs with hs | hs
    · rw [scanOnce_scalar (by rw [hs]; intro c hc; obtain rfl := Option.some.inj hc; exact ⟨hquote, hbracket, hbrace⟩),
        hagain, hs, hconstant]
      rfl
    · rw [scanOnce_scalar (by rw [hs]; intro c hc; obtain rfl := Option.some.inj hc; decide), hagain, hs, hconstant']
      rfl
  rw [numberText, hscan]
  exact decide_eq_true rfl

/-! ## Values -/

theorem fieldsWellFormed_iff {fields : List (String × Json)} :
    FieldsWellFormed fields ↔ ∀ field ∈ fields, field.2.WellFormed := by
  induction fields with
  | nil => simp [FieldsWellFormed]
  | cons field fields ih => simp [FieldsWellFormed, ih]

theorem heightFields_le_iff {fields : List (String × Json)} {n : ℕ} :
    heightFields fields ≤ n ↔ ∀ field ∈ fields, field.2.height ≤ n := by
  induction fields with
  | nil => simp [heightFields]
  | cons field fields ih => simp [heightFields, ih]

/-- Fields that may be written, and that are nested no deeper than so much. -/
structure FieldsFit (depth : ℕ) (fields : List (String × Json)) : Prop where
  nodup : (fields.map Prod.fst).Nodup
  wellFormed : ∀ field ∈ fields, field.2.WellFormed ∧ field.2.height ≤ depth

theorem FieldsFit.setField {depth : ℕ} {fields : List (String × Json)} (h : FieldsFit depth fields) (key : String)
    (hvalue : value.WellFormed ∧ value.height ≤ depth) : FieldsFit depth (setField key value fields) :=
  ⟨nodup_setField h.nodup key value,
    forall_setField (p := fun value => value.WellFormed ∧ value.height ≤ depth) h.wellFormed key hvalue⟩

theorem FieldsFit.obj {depth : ℕ} {fields : List (String × Json)} (h : FieldsFit depth fields) :
    (obj fields).WellFormed ∧ (obj fields).height ≤ depth + 1 := by
  rw [WellFormed, Json.height]
  refine ⟨⟨h.nodup, fieldsWellFormed_iff.mpr fun field hfield => (h.wellFormed field hfield).1⟩, ?_⟩
  exact Nat.succ_le_succ (heightFields_le_iff.mpr fun field hfield => (h.wellFormed field hfield).2)

/-- What the scanner reads on so much fuel. -/
structure ScanFits (fuel : ℕ) : Prop where
  once : ∀ {depth : ℕ} {s rest : List Char} {value : Json}, scanOnce depth fuel s = .ok (value, rest) →
    value.WellFormed ∧ value.height ≤ depth
  items : ∀ {depth : ℕ} {s rest : List Char} {found : List Json}, scanItems depth fuel s = .ok (found, rest) →
    ItemsWellFormed found ∧ heightItems found ≤ depth
  fields : ∀ {depth : ℕ} {s rest : List Char} {known found : List (String × Json)},
    scanFields depth fuel known s = .ok (found, rest) → FieldsFit depth known → FieldsFit depth found

theorem scanConstant_fits (h : scanConstant s = some (value, rest)) : value.WellFormed ∧ value.height = 0 := by
  obtain ⟨⟨text, found⟩, hmem, hfound⟩ := List.exists_of_findSome?_eq_some h
  dsimp only at hfound
  split at hfound
  · obtain ⟨rfl, -⟩ := Prod.mk.inj (Option.some.inj hfound)
    simp only [constants, List.mem_cons, List.not_mem_nil, or_false, Prod.mk.injEq] at hmem
    rcases hmem with ⟨-, rfl⟩ | ⟨-, rfl⟩ | ⟨-, rfl⟩ | ⟨-, rfl⟩ | ⟨-, rfl⟩ | ⟨-, rfl⟩ <;>
      simp [WellFormed, Json.height] <;> rfl
  · cases hfound

section

variable {fuel depth : ℕ} (ih : ScanFits fuel)
include ih

theorem ScanFits.scanOnce (h : Json.scanOnce depth (fuel + 1) s = .ok (value, rest)) :
    value.WellFormed ∧ value.height ≤ depth := by
  unfold Json.scanOnce at h
  split at h
  · obtain ⟨⟨text, behind⟩, -, h⟩ := Fallible.bind_eq_ok.mp h
    obtain ⟨rfl, -⟩ := Prod.mk.inj (Except.ok.inj h)
    simp [WellFormed, Json.height]
  · split at h
    · cases h
    rename_i depth
    split at h
    · obtain ⟨rfl, -⟩ := Prod.mk.inj (Except.ok.inj h)
      simp [WellFormed, Json.height, ItemsWellFormed, heightItems]
    · obtain ⟨⟨items, behind⟩, hitems, h⟩ := Fallible.bind_eq_ok.mp h
      obtain ⟨rfl, -⟩ := Prod.mk.inj (Except.ok.inj h)
      obtain ⟨hfit, hdepth⟩ := ih.items hitems
      rw [WellFormed, Json.height]
      exact ⟨hfit, Nat.succ_le_succ hdepth⟩
  · split at h
    · cases h
    rename_i depth
    split at h
    · obtain ⟨rfl, -⟩ := Prod.mk.inj (Except.ok.inj h)
      simp [WellFormed, Json.height, FieldsWellFormed, heightFields]
    · obtain ⟨⟨fields, behind⟩, hfields, h⟩ := Fallible.bind_eq_ok.mp h
      obtain ⟨rfl, -⟩ := Prod.mk.inj (Except.ok.inj h)
      exact (ih.fields hfields ⟨List.nodup_nil, List.forall_mem_nil _⟩).obj
  · cases hconstant : scanConstant s with
    | some found =>
      rw [hconstant] at h
      obtain rfl := Except.ok.inj h
      obtain ⟨hfit, hdepth⟩ := scanConstant_fits hconstant
      exact ⟨hfit, hdepth ▸ Nat.zero_le _⟩
    | none =>
      rw [hconstant] at h
      have hnumber : scanNumber s = .ok (value, rest) := h
      obtain ⟨text, rfl⟩ := scanNumber_number hnumber
      simpa [WellFormed, Json.height] using numberText_of_scanNumber hnumber

theorem ScanFits.scanItems {found : List Json} (h : Json.scanItems depth (fuel + 1) s = .ok (found, rest)) :
    ItemsWellFormed found ∧ heightItems found ≤ depth := by
  obtain ⟨⟨item, behind⟩, honce, h⟩ := Fallible.bind_eq_ok.mp h
  obtain ⟨hitem, hdepth⟩ := ih.once honce
  dsimp only at h
  split at h
  · obtain ⟨⟨items, behind'⟩, hitems, h⟩ := Fallible.bind_eq_ok.mp h
    obtain ⟨rfl, -⟩ := Prod.mk.inj (Except.ok.inj h)
    obtain ⟨hrest, hdepth'⟩ := ih.items hitems
    rw [ItemsWellFormed, heightItems]
    exact ⟨⟨hitem, hrest⟩, max_le hdepth hdepth'⟩
  · obtain ⟨rfl, -⟩ := Prod.mk.inj (Except.ok.inj h)
    simpa [ItemsWellFormed, heightItems] using And.intro hitem hdepth
  · cases h

theorem ScanFits.scanFields {known found : List (String × Json)}
    (h : Json.scanFields depth (fuel + 1) known s = .ok (found, rest)) (hknown : FieldsFit depth known) :
    FieldsFit depth found := by
  unfold Json.scanFields at h
  split at h
  · obtain ⟨⟨name, behind⟩, -, h⟩ := Fallible.bind_eq_ok.mp h
    dsimp only at h
    split at h
    · obtain ⟨⟨value, behind'⟩, honce, h⟩ := Fallible.bind_eq_ok.mp h
      have hset := hknown.setField (String.ofList name) (ih.once honce)
      dsimp only at h
      split at h
      · exact ih.fields h hset
      · obtain ⟨rfl, -⟩ := Prod.mk.inj (Except.ok.inj h)
        exact hset
      · cases h
    · cases h
  · cases h

end

theorem scanFits (fuel : ℕ) : ScanFits fuel := by
  induction fuel with
  | zero => exact ⟨fun h => (by cases h), fun h => (by cases h), fun h => (by cases h)⟩
  | succ fuel ih => exact ⟨ih.scanOnce, ih.scanItems, ih.scanFields⟩

/-- What was loaded can be written in any layout and loaded again. -/
theorem loads_fits {limit : ℕ} (h : loads limit text = .ok value) : value.WellFormed ∧ value.height ≤ limit := by
  obtain ⟨rest, hscan, -⟩ := loads_eq_ok h
  exact (scanFits _).once hscan

/-! ## One line -/

theorem graphic_of_digit {c : Char} (h : c.isDigit) : 32 ≤ c.toNat := by
  rw [Char.isDigit, Bool.and_eq_true, decide_eq_true_iff, decide_eq_true_iff] at h
  exact le_trans (by decide) (UInt32.le_iff_toNat_le.mp h.1)

theorem graphic_int {int : List Char} (h : Rfc8259.Int int) : ∀ c ∈ int, 32 ≤ c.toNat := by
  cases h with
  | zero => decide
  | digits hfirst _ hdigits =>
    exact List.forall_mem_cons.mpr ⟨graphic_of_digit hfirst, fun c hc => graphic_of_digit (hdigits c hc)⟩

theorem graphic_frac {frac : List Char} (h : Frac frac) : ∀ c ∈ frac, 32 ≤ c.toNat := by
  cases h with
  | absent => exact List.forall_mem_nil _
  | present _ hdigits =>
    exact List.forall_mem_cons.mpr ⟨by decide, fun c hc => graphic_of_digit (hdigits c hc)⟩

theorem graphic_exp {exp : List Char} (h : Exp exp) : ∀ c ∈ exp, 32 ≤ c.toNat := by
  cases h with
  | absent => exact List.forall_mem_nil _
  | present he hsign _ hdigits =>
    simp only [List.mem_cons, List.not_mem_nil, or_false] at he hsign
    refine List.forall_mem_cons.mpr ⟨by rcases he with rfl | rfl <;> decide, List.forall_mem_append.mpr ⟨?_, ?_⟩⟩
    · rcases hsign with rfl | rfl | rfl <;> decide
    · exact fun c hc => graphic_of_digit (hdigits c hc)

/-- The text of a number has no control character. -/
theorem graphic_number (h : numberText text) : ∀ c ∈ text.toList, 32 ≤ c.toNat := by
  rcases numberText_cases h with ⟨-, hconstant⟩ | hnumber
  · obtain ⟨constant, hmem, htext⟩ := eq_of_scanConstant hconstant
    have hgraphic : ∀ entry ∈ constants, ∀ c ∈ entry.1.toList, 32 ≤ c.toNat := by decide
    exact htext ▸ hgraphic _ hmem
  · obtain ⟨minus, int, frac, exp, hminus, hint, hfrac, hexp, hs⟩ := number_of_scanNumber hnumber
    simp only [List.mem_cons, List.not_mem_nil, or_false] at hminus
    rw [hs]
    simp only [List.forall_mem_append]
    exact ⟨⟨⟨⟨by rcases hminus with rfl | rfl <;> decide, graphic_int hint⟩, graphic_frac hfrac⟩, graphic_exp hexp⟩,
      List.forall_mem_nil _⟩

theorem graphic_escape (ensureAscii : Bool) (c : Char) : ∀ e ∈ escapeChar ensureAscii c, 32 ≤ e.toNat := by
  intro e he
  cases ensureAscii with
  | true => exact (printable_escapeChar c e he).1
  | false =>
    cases hcontrol : escapeControl c with
    | some escaped =>
      rw [escapeChar_of_control hcontrol, ← escapeChar_of_control hcontrol true] at he
      exact (printable_escapeChar c e he).1
    | none =>
      rw [escapeChar_false hcontrol, List.mem_singleton] at he
      exact he ▸ (escapeControl_eq_none hcontrol).2.2

theorem graphic_dumpsString (ensureAscii : Bool) (value : String) :
    ∀ c ∈ dumpsString ensureAscii value, 32 ≤ c.toNat := by
  unfold dumpsString
  simp only [List.forall_mem_append, List.forall_mem_singleton]
  refine ⟨⟨by decide, fun c hc => ?_⟩, by decide⟩
  obtain ⟨d, -, he⟩ := List.mem_flatMap.mp hc
  exact graphic_escape ensureAscii d c he

theorem graphic_enclose {layout : Layout} (hindent : layout.indent = none) (level : ℕ) {opening closing : Char}
    (hopening : 32 ≤ opening.toNat) (hclosing : 32 ≤ closing.toNat) {parts : List (List Char)}
    (hparts : ∀ part ∈ parts, ∀ c ∈ part, 32 ≤ c.toNat) :
    ∀ c ∈ layout.enclose level opening closing parts, 32 ≤ c.toNat := by
  have hnewline (n : ℕ) : layout.newline n = [] := by rw [Layout.newline, hindent]
  have hblanks (n : ℕ) : ∀ c ∈ List.replicate n ' ', 32 ≤ c.toNat := fun c hc => by
    rw [List.eq_of_mem_replicate hc]
    decide
  unfold Layout.enclose
  split
  · simp [hopening, hclosing]
  · simp only [hnewline, List.nil_append, List.append_nil, List.forall_mem_cons, List.forall_mem_append]
    refine ⟨hopening, fun c hc => ?_, hclosing, List.forall_mem_nil _⟩
    obtain hmem | ⟨part, hpart, hmem⟩ := mem_intercalate hc
    · exact List.forall_mem_cons.mpr ⟨by decide, hblanks _⟩ c hmem
    · exact hparts part hpart c hmem

theorem Layout.mem_order {layout : Layout} {fields : List (String × α)} {field : String × α} :
    field ∈ layout.order fields ↔ field ∈ fields := by
  unfold Layout.order
  split
  · exact List.mem_insertionSort _
  · rfl

theorem graphic_field {layout : Layout} (name : String) {text : List Char} (h : ∀ c ∈ text, 32 ≤ c.toNat) :
    ∀ c ∈ layout.field name text, 32 ≤ c.toNat := by
  unfold Layout.field
  refine List.forall_mem_append.mpr ⟨graphic_dumpsString _ name, List.forall_mem_cons.mpr ⟨by decide, ?_⟩⟩
  refine List.forall_mem_append.mpr ⟨fun c hc => ?_, h⟩
  rw [List.eq_of_mem_replicate hc]
  decide

mutual
/-- Without an indent the text of a value is one line without control characters. -/
theorem graphic_render {layout : Layout} (hindent : layout.indent = none) (level : ℕ) :
    ∀ value : Json, value.WellFormed → ∀ c ∈ value.render layout level, 32 ≤ c.toNat
  | null, _ => by rw [render]; decide
  | bool true, _ => by rw [render]; decide
  | bool false, _ => by rw [render]; decide
  | number text, h => by
    rw [WellFormed] at h
    rw [render]
    exact graphic_number h
  | str value, _ => by
    rw [render]
    exact graphic_dumpsString _ value
  | arr items, h => by
    rw [WellFormed] at h
    rw [render]
    exact graphic_enclose hindent level (by decide) (by decide) (graphic_renderItems hindent (level + 1) items h)
  | obj fields, h => by
    rw [WellFormed] at h
    rw [render]
    refine graphic_enclose hindent level (by decide) (by decide) fun part hpart => ?_
    obtain ⟨field, hfield, rfl⟩ := List.mem_map.mp hpart
    exact graphic_field field.1
      (graphic_renderFields hindent (level + 1) fields h.2 field (Layout.mem_order.mp hfield))

theorem graphic_renderItems {layout : Layout} (hindent : layout.indent = none) (level : ℕ) :
    ∀ items : List Json, ItemsWellFormed items → ∀ part ∈ renderItems layout level items, ∀ c ∈ part, 32 ≤ c.toNat
  | [], _, part, hpart => by simp [renderItems] at hpart
  | item :: items, h, part, hpart => by
    rw [ItemsWellFormed] at h
    rw [renderItems, List.mem_cons] at hpart
    obtain rfl | hpart := hpart
    · exact graphic_render hindent level item h.1
    · exact graphic_renderItems hindent level items h.2 part hpart

theorem graphic_renderFields {layout : Layout} (hindent : layout.indent = none) (level : ℕ) :
    ∀ fields : List (String × Json), FieldsWellFormed fields →
      ∀ field ∈ renderFields layout level fields, ∀ c ∈ field.2, 32 ≤ c.toNat
  | [], _, field, hfield => by simp [renderFields] at hfield
  | (name, value) :: fields, h, field, hfield => by
    rw [FieldsWellFormed] at h
    rw [renderFields, List.mem_cons] at hfield
    obtain rfl | hfield := hfield
    · exact graphic_render hindent level value h.1
    · exact graphic_renderFields hindent level fields h.2 field hfield
end

theorem newline_not_mem_dumpsText {layout : Layout} (hindent : layout.indent = none) {value : Json}
    (h : value.WellFormed) : '\n' ∉ (value.dumpsText layout).toList := by
  intro hmem
  rw [dumpsText, String.toList_ofList] at hmem
  exact absurd (graphic_render hindent 0 value h _ hmem) (by decide)

/-! ## Numerals -/

theorem toDigits_head {n : ℕ} (h : 0 < n) : ∃ first digits, Nat.toDigits 10 n = first :: digits ∧ first ≠ '0' := by
  induction n using Nat.strongRecOn with
  | ind n ih =>
    obtain hlt | hle := Nat.lt_or_ge n 10
    · refine ⟨n.digitChar, [], Nat.toDigits_of_lt_base hlt, ?_⟩
      have hdigits : ∀ m < 10, 0 < m → m.digitChar ≠ '0' := by decide
      exact hdigits n hlt h
    · obtain ⟨first, digits, hdigits, hfirst⟩ := ih (n / 10) (by omega) (by omega)
      refine ⟨first, digits ++ [(n % 10).digitChar], ?_, hfirst⟩
      rw [Nat.toDigits_of_base_le (by decide) hle, hdigits, List.cons_append]

theorem int_toDigits (n : ℕ) : Rfc8259.Int (Nat.toDigits 10 n) := by
  obtain rfl | hpos := Nat.eq_zero_or_pos n
  · exact .zero
  · obtain ⟨first, digits, hdigits, hfirst⟩ := toDigits_head hpos
    have hdigit : ∀ c ∈ first :: digits, c.isDigit := fun c hc =>
      Nat.isDigit_of_mem_toDigits (by decide) (by decide) (hdigits ▸ hc)
    rw [hdigits]
    exact .digits (hdigit first List.mem_cons_self) hfirst fun c hc => hdigit c (List.mem_cons_of_mem _ hc)

theorem numberText_repr {n : ℕ} (h : n.repr.length ≤ maxStrDigits) : numberText n.repr := by
  have hscan := scanNumber_complete (List.mem_cons_self (a := [])) (int_toDigits n) .absent .absent
    (by rw [← Nat.toList_repr, String.length_toList]; simpa using h)
  simp only [List.nil_append, List.append_nil, ← Nat.toList_repr, String.ofList_toList] at hscan
  exact numberText_of_scanNumber hscan

/-! ## Numbers in another text -/

mutual
/-- The value with each of its numbers in the text that is written for it. -/
def respell (spell : String → String) : Json → Json
  | number text => number (spell text)
  | arr items => arr (respellItems spell items)
  | obj fields => obj (respellFields spell fields)
  | value => value

def respellItems (spell : String → String) : List Json → List Json
  | [] => []
  | item :: items => item.respell spell :: respellItems spell items

def respellFields (spell : String → String) : List (String × Json) → List (String × Json)
  | [] => []
  | (name, value) :: fields => (name, value.respell spell) :: respellFields spell fields
end

variable {spell : String → String}

theorem respellFields_names (fields : List (String × Json)) :
    (respellFields spell fields).map Prod.fst = fields.map Prod.fst := by
  induction fields with
  | nil => rw [respellFields]
  | cons field fields ih => rw [respellFields, List.map_cons, List.map_cons, ih]

mutual
theorem WellFormed.respell (hspell : ∀ text, numberText text → numberText (spell text)) :
    ∀ value : Json, value.WellFormed → (value.respell spell).WellFormed
  | null, h | bool _, h | str _, h => by rwa [Json.respell] <;> simp
  | number text, h => by
    rw [WellFormed] at h
    rw [Json.respell, WellFormed]
    exact hspell text h
  | arr items, h => by
    rw [WellFormed] at h
    rw [Json.respell, WellFormed]
    exact ItemsWellFormed.respell hspell items h
  | obj fields, h => by
    rw [WellFormed] at h
    rw [Json.respell, WellFormed, respellFields_names]
    exact ⟨h.1, FieldsWellFormed.respell hspell fields h.2⟩

theorem ItemsWellFormed.respell (hspell : ∀ text, numberText text → numberText (spell text)) :
    ∀ items : List Json, ItemsWellFormed items → ItemsWellFormed (respellItems spell items)
  | [], h => by rwa [respellItems]
  | item :: items, h => by
    rw [ItemsWellFormed] at h
    rw [respellItems, ItemsWellFormed]
    exact ⟨WellFormed.respell hspell item h.1, ItemsWellFormed.respell hspell items h.2⟩

theorem FieldsWellFormed.respell (hspell : ∀ text, numberText text → numberText (spell text)) :
    ∀ fields : List (String × Json), FieldsWellFormed fields → FieldsWellFormed (respellFields spell fields)
  | [], h => by rwa [respellFields]
  | (name, value) :: fields, h => by
    rw [FieldsWellFormed] at h
    rw [respellFields, FieldsWellFormed]
    exact ⟨WellFormed.respell hspell value h.1, FieldsWellFormed.respell hspell fields h.2⟩
end

mutual
theorem height_respell : ∀ value : Json, (value.respell spell).height = value.height
  | null | bool _ | str _ => by rw [Json.respell] <;> simp
  | number text => by rw [Json.respell, height, height] <;> simp
  | arr items => by rw [Json.respell, height, height, heightItems_respell items]
  | obj fields => by rw [Json.respell, height, height, heightFields_respell fields]

theorem heightItems_respell : ∀ items : List Json, heightItems (respellItems spell items) = heightItems items
  | [] => by rw [respellItems]
  | item :: items => by
    rw [respellItems, heightItems, heightItems, height_respell item, heightItems_respell items]

theorem heightFields_respell : ∀ fields : List (String × Json),
    heightFields (respellFields spell fields) = heightFields fields
  | [] => by rw [respellFields]
  | (name, value) :: fields => by
    rw [respellFields, heightFields, heightFields, height_respell value, heightFields_respell fields]
end

end Json

end Gpucall
