import Gpucall.Json

/-! The characters of a dumped value: with `ensure_ascii` no control character and no other than ASCII. So
a dumped value is one line. -/

namespace Gpucall

namespace Json

/-- The characters of a dumped value -/
def Printable (c : Char) : Prop := 32 ≤ c.toNat ∧ c.toNat < 127

instance (c : Char) : Decidable (Printable c) := inferInstanceAs (Decidable (_ ∧ _))

theorem printable_hexDigit (n : ℕ) : Printable (hexDigit n) := by
  by_cases hn : n < 16
  · have hall : ∀ n < 16, Printable (hexDigit n) := by decide +kernel
    exact hall n hn
  · have hzero : hexDigit n = '0' := by
      unfold hexDigit
      rw [List.getD_eq_getElem?_getD, List.getElem?_eq_none (by simpa using hn)]
      rfl
    rw [hzero]
    decide

theorem printable_escapeUnit (n : ℕ) : ∀ c ∈ escapeUnit n, Printable c := by
  intro c hc
  simp only [escapeUnit, List.mem_cons, List.not_mem_nil, or_false] at hc
  rcases hc with rfl | rfl | rfl | rfl | rfl | rfl
  · decide
  · decide
  all_goals exact printable_hexDigit _

theorem printable_escapeControl {c : Char} {escaped : List Char}
    (h : escapeControl c = some escaped) : ∀ c ∈ escaped, Printable c := by
  unfold escapeControl at h
  split_ifs at h <;> cases h
  all_goals first
    | exact printable_escapeUnit _
    | decide

theorem printable_escapeChar (c : Char) : ∀ e ∈ escapeChar true c, Printable e := by
  unfold escapeChar
  split
  · exact printable_escapeControl ‹_›
  · rename_i hcontrol
    split_ifs with hascii
    · have hlarge : ¬ c.toNat < 32 := by
        intro hsmall
        simp only [escapeControl, hsmall] at hcontrol
        split_ifs at hcontrol
      intro e he
      rw [List.mem_singleton.mp he]
      simp only [Bool.not_true, Bool.false_or, decide_eq_true_eq] at hascii
      exact ⟨Nat.le_of_not_lt hlarge, hascii⟩
    · exact printable_escapeUnit _
    · intro e he
      rcases List.mem_append.mp he with he | he
      · exact printable_escapeUnit _ e he
      · exact printable_escapeUnit _ e he

theorem printable_dumpsString (s : String) : ∀ c ∈ dumpsString true s, Printable c := by
  intro c hc
  simp only [dumpsString, List.mem_append, List.mem_singleton, List.mem_flatMap] at hc
  rcases hc with (rfl | ⟨source, -, hc⟩) | rfl
  · decide
  · exact printable_escapeChar source c hc
  · decide

theorem mem_intercalate {α : Type} {sep : List α} {c : α} {parts : List (List α)} (h : c ∈ sep.intercalate parts) :
    c ∈ sep ∨ ∃ part ∈ parts, c ∈ part := by
  induction parts with
  | nil => simp at h
  | cons part parts ih =>
    cases parts with
    | nil => simp_all
    | cons next parts =>
      rw [List.intercalate_cons_cons] at h
      simp only [List.mem_append] at h
      rcases h with (h | h) | h
      · exact .inr ⟨part, List.mem_cons_self, h⟩
      · exact .inl h
      · rcases ih h with hsep | ⟨other, hother, hc⟩
        · exact .inl hsep
        · exact .inr ⟨other, List.mem_cons_of_mem _ hother, hc⟩

mutual
/-- The texts of the numbers have printable characters. -/
def NumbersPrintable : Json → Prop
  | number text => ∀ c ∈ text.toList, Printable c
  | arr items => ItemsPrintable items
  | obj fields => FieldsPrintable fields
  | _ => True

def ItemsPrintable : List Json → Prop
  | [] => True
  | item :: items => item.NumbersPrintable ∧ ItemsPrintable items

def FieldsPrintable : List (String × Json) → Prop
  | [] => True
  | field :: fields => field.2.NumbersPrintable ∧ FieldsPrintable fields
end

theorem numbersPrintable_str (text : String) : (str text).NumbersPrintable := by simp [NumbersPrintable]

theorem numbersPrintable_null : null.NumbersPrintable := by simp [NumbersPrintable]

theorem fieldsPrintable_iff {fields : List (String × Json)} :
    FieldsPrintable fields ↔ ∀ field ∈ fields, field.2.NumbersPrintable := by
  induction fields with
  | nil => simp [FieldsPrintable]
  | cons field fields ih => rw [FieldsPrintable, ih, List.forall_mem_cons]

theorem printable_intercalate {parts : List (List Char)} (h : ∀ part ∈ parts, ∀ c ∈ part, Printable c) :
    ∀ c ∈ [','].intercalate parts, Printable c := by
  intro c hc
  obtain hc | ⟨part, hpart, hc⟩ := mem_intercalate hc
  · exact List.mem_singleton.mp hc ▸ by decide
  · exact h part hpart c hc

theorem printable_enclosed {first last : Char} {body : List Char} (hfirst : Printable first) (hlast : Printable last)
    (h : ∀ c ∈ body, Printable c) : ∀ c ∈ [first] ++ body ++ [last], Printable c := by
  intro c hc
  simp only [List.mem_append, List.mem_singleton] at hc
  obtain (rfl | hc) | rfl := hc
  · exact hfirst
  · exact h c hc
  · exact hlast

theorem printable_rendered {fields : List (String × List Char)}
    (h : ∀ field ∈ fields, ∀ c ∈ field.2, Printable c) : ∀ part ∈ (sortKeys fields).map fun f =>
      dumpsString true f.1 ++ [':'] ++ f.2, ∀ c ∈ part, Printable c := by
  intro part hpart c hc
  obtain ⟨field, hfield, rfl⟩ := List.mem_map.mp hpart
  rw [sortKeys, List.mem_insertionSort] at hfield
  simp only [List.mem_append, List.mem_singleton] at hc
  obtain (hc | rfl) | hc := hc
  · exact printable_dumpsString _ c hc
  · decide
  · exact h field hfield c hc

mutual
theorem printable_dumps : ∀ value : Json, value.NumbersPrintable → ∀ c ∈ value.dumps true, Printable c
  | null, _ => by rw [dumps]; decide
  | bool true, _ => by rw [dumps]; decide
  | bool false, _ => by rw [dumps]; decide
  | number text, h => by
    rw [dumps]
    rwa [NumbersPrintable] at h
  | str value, _ => by
    rw [dumps]
    exact printable_dumpsString value
  | arr items, h => by
    rw [dumps]
    rw [NumbersPrintable] at h
    exact printable_enclosed (by decide) (by decide) (printable_intercalate (printable_dumpsItems items h))
  | obj fields, h => by
    rw [dumps]
    rw [NumbersPrintable] at h
    exact printable_enclosed (by decide) (by decide)
      (printable_intercalate (printable_rendered (printable_dumpsFields fields h)))

theorem printable_dumpsItems : ∀ items : List Json, ItemsPrintable items →
    ∀ part ∈ dumpsItems true items, ∀ c ∈ part, Printable c
  | [], _, part, hpart => by simp [dumpsItems] at hpart
  | item :: items, h, part, hpart => by
    rw [ItemsPrintable] at h
    rw [dumpsItems, List.mem_cons] at hpart
    obtain rfl | hpart := hpart
    · exact printable_dumps item h.1
    · exact printable_dumpsItems items h.2 part hpart

theorem printable_dumpsFields : ∀ fields : List (String × Json), FieldsPrintable fields →
    ∀ field ∈ dumpsFields true fields, ∀ c ∈ field.2, Printable c
  | [], _, field, hfield => by simp [dumpsFields] at hfield
  | (name, value) :: fields, h, field, hfield => by
    rw [FieldsPrintable] at h
    rw [dumpsFields, List.mem_cons] at hfield
    obtain rfl | hfield := hfield
    · exact printable_dumps value h.1
    · exact printable_dumpsFields fields h.2 field hfield
end

end Json

end Gpucall
