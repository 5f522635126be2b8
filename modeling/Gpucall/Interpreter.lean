import Gpucall.JsonWellFormed
import Gpucall.Routing.ValidationEvidence

/-! `json` as the program's interpreter runs it: a number is read in the text in which it is written again, and
what is nested deeper than the recursion limit is neither read nor written. A value that was written is read back
with the fields of its objects in another order at most. -/

namespace Gpucall

open Json (LoadsError Layout)

/-- The interpreter that runs the program. -/
structure Interpreter where
  builtins : Builtins
  recursionLimit : ℕ
  /-- It is more than the program's own values are nested. -/
  recursionLimit_ge : 8 ≤ recursionLimit
  /-- The text in which a number is written that was read from the text -/
  spell : String → String
  spell_reads : ∀ text, Json.numberText text → Json.numberText (spell text)
  spell_spell : ∀ text, Json.numberText text → spell (spell text) = spell text

namespace Json

variable {α β : Type} {layout : Layout} {spell : String → String} {value : Json}

/-! ## The order of fields -/

theorem arrangedFields_eq_map (fields : List (String × Json)) :
    arrangedFields layout fields = fields.map fun field => (field.1, field.2.arranged layout) := by
  induction fields with
  | nil => rw [arrangedFields, List.map_nil]
  | cons field fields ih => rw [arrangedFields, List.map_cons, ih]

theorem respellFields_eq_map (fields : List (String × Json)) :
    respellFields spell fields = fields.map fun field => (field.1, field.2.respell spell) := by
  induction fields with
  | nil => rw [respellFields, List.map_nil]
  | cons field fields ih => rw [respellFields, List.map_cons, ih]

theorem Layout.order_order (layout : Layout) (fields : List (String × α)) :
    layout.order (layout.order fields) = layout.order fields := by
  unfold Layout.order
  split
  · have htrans : IsTrans (String × α) fun left right => left.1 ≤ right.1 := ⟨fun _ _ _ => le_trans⟩
    have htotal : Std.Total fun left right : String × α => left.1 ≤ right.1 :=
      ⟨fun left right => le_total left.1 right.1⟩
    exact (List.pairwise_insertionSort _ fields).insertionSort_eq
  · rfl

theorem lookup_iff_mem {fields : List (String × α)} (h : (fields.map Prod.fst).Nodup) {key : String} {value : α} :
    fields.lookup key = some value ↔ (key, value) ∈ fields :=
  Dict.get?_eq_some (d := { entries := fields, nodup := h })

theorem Layout.lookup_order (layout : Layout) {fields : List (String × α)} (h : (fields.map Prod.fst).Nodup)
    (key : String) : (layout.order fields).lookup key = fields.lookup key := by
  have hperm := layout.order_perm fields
  refine Option.ext fun value => ?_
  rw [lookup_iff_mem ((hperm.map Prod.fst).nodup_iff.mpr h), lookup_iff_mem h, hperm.mem_iff]

theorem lookup_mapValues (f : α → β) (fields : List (String × α)) (key : String) :
    (fields.map fun field => (field.1, f field.2)).lookup key = (fields.lookup key).map f := by
  induction fields with
  | nil => rfl
  | cons field fields ih =>
    rw [List.map_cons, List.lookup_cons, List.lookup_cons, ih]
    split <;> rfl

theorem arrangedFields_order (fields : List (String × Json)) :
    arrangedFields layout (layout.order fields) = layout.order (arrangedFields layout fields) := by
  rw [arrangedFields_eq_map, arrangedFields_eq_map]
  apply layout.map_order
  exact fun _ => rfl

theorem respellFields_order (fields : List (String × Json)) :
    respellFields spell (layout.order fields) = layout.order (respellFields spell fields) := by
  rw [respellFields_eq_map, respellFields_eq_map]
  apply layout.map_order
  exact fun _ => rfl

mutual
theorem arranged_arranged : ∀ value : Json, (value.arranged layout).arranged layout = value.arranged layout
  | null | bool _ | number _ | str _ => by simp [arranged]
  | arr items => by rw [arranged, arranged, arrangedItems_arrangedItems items]
  | obj fields => by
    rw [arranged, arranged, arrangedFields_order, arrangedFields_arrangedFields fields, layout.order_order]

theorem arrangedItems_arrangedItems : ∀ items : List Json,
    arrangedItems layout (arrangedItems layout items) = arrangedItems layout items
  | [] => by rw [arrangedItems, arrangedItems]
  | item :: items => by rw [arrangedItems, arrangedItems, arranged_arranged item, arrangedItems_arrangedItems items]

theorem arrangedFields_arrangedFields : ∀ fields : List (String × Json),
    arrangedFields layout (arrangedFields layout fields) = arrangedFields layout fields
  | [] => by rw [arrangedFields, arrangedFields]
  | (name, value) :: fields => by
    rw [arrangedFields, arrangedFields, arranged_arranged value, arrangedFields_arrangedFields fields]
end

/-! ## The text of numbers -/

mutual
theorem respell_arranged : ∀ value : Json,
    (value.arranged layout).respell spell = (value.respell spell).arranged layout
  | null | bool _ | number _ | str _ => by simp [arranged, respell]
  | arr items => by rw [arranged, respell, respell, arranged, respellItems_arrangedItems items]
  | obj fields => by
    rw [arranged, respell, respell, arranged, respellFields_order, respellFields_arrangedFields fields]

theorem respellItems_arrangedItems : ∀ items : List Json,
    respellItems spell (arrangedItems layout items) = arrangedItems layout (respellItems spell items)
  | [] => by rw [arrangedItems, respellItems, arrangedItems]
  | item :: items => by
    rw [arrangedItems, respellItems, respellItems, arrangedItems, respell_arranged item,
      respellItems_arrangedItems items]

theorem respellFields_arrangedFields : ∀ fields : List (String × Json),
    respellFields spell (arrangedFields layout fields) = arrangedFields layout (respellFields spell fields)
  | [] => by rw [arrangedFields, respellFields, arrangedFields]
  | (name, value) :: fields => by
    rw [arrangedFields, respellFields, respellFields, arrangedFields, respell_arranged value,
      respellFields_arrangedFields fields]
end

mutual
theorem respell_respell (hspell : ∀ text, numberText text → spell (spell text) = spell text) :
    ∀ value : Json, value.WellFormed → (value.respell spell).respell spell = value.respell spell
  | null, _ | bool _, _ | str _, _ => by simp [respell]
  | number text, h => by
    rw [WellFormed] at h
    rw [respell, respell, hspell text h]
  | arr items, h => by
    rw [WellFormed] at h
    rw [respell, respell, respellItems_respellItems hspell items h]
  | obj fields, h => by
    rw [WellFormed] at h
    rw [respell, respell, respellFields_respellFields hspell fields h.2]

theorem respellItems_respellItems (hspell : ∀ text, numberText text → spell (spell text) = spell text) :
    ∀ items : List Json, ItemsWellFormed items →
      respellItems spell (respellItems spell items) = respellItems spell items
  | [], _ => by rw [respellItems, respellItems]
  | item :: items, h => by
    rw [ItemsWellFormed] at h
    rw [respellItems, respellItems, respell_respell hspell item h.1, respellItems_respellItems hspell items h.2]

theorem respellFields_respellFields (hspell : ∀ text, numberText text → spell (spell text) = spell text) :
    ∀ fields : List (String × Json), FieldsWellFormed fields →
      respellFields spell (respellFields spell fields) = respellFields spell fields
  | [], _ => by rw [respellFields, respellFields]
  | (name, value) :: fields, h => by
    rw [FieldsWellFormed] at h
    rw [respellFields, respellFields, respell_respell hspell value h.1,
      respellFields_respellFields hspell fields h.2]
end

end Json

namespace Interpreter

variable (py : Interpreter)

/-- `json.loads(text)` -/
def loads (text : String) : Except LoadsError Json :=
  (Json.loads py.recursionLimit text).map (Json.respell py.spell)

/-- `json.dumps(value, ..)`, or none if the value is nested too deep -/
def dumps (layout : Layout) (value : Json) : Option String :=
  if value.height ≤ py.recursionLimit then some (value.dumpsText layout) else none

/-- A value of the interpreter: it can be written, and each of its numbers has the text that is written for it. -/
structure IsValue (value : Json) : Prop where
  wellFormed : value.WellFormed
  spelled : value.respell py.spell = value

variable {py} {text : String} {value : Json} {layout : Layout}

theorem dumps_eq_some : py.dumps layout value = some text ↔
    value.height ≤ py.recursionLimit ∧ value.dumpsText layout = text := by
  rw [dumps, Option.ite_none_right_eq_some, Option.some.injEq]

theorem dumps_eq_none : py.dumps layout value = none ↔ py.recursionLimit < value.height := by
  rw [dumps, ite_eq_right_iff]
  simp

theorem loads_isValue (h : py.loads text = .ok value) : py.IsValue value ∧ value.height ≤ py.recursionLimit := by
  unfold loads at h
  cases hload : Json.loads py.recursionLimit text with
  | error e => rw [hload] at h; cases h
  | ok found =>
    rw [hload] at h
    obtain rfl := Except.ok.inj h
    obtain ⟨hwell, hdepth⟩ := Json.loads_fits hload
    refine ⟨⟨.respell py.spell_reads found hwell, Json.respell_respell py.spell_spell found hwell⟩, ?_⟩
    rwa [Json.height_respell]

/-- What was written is read back, with the fields in the order in which they were written. -/
theorem loads_render (h : py.IsValue value) (hdepth : value.height ≤ py.recursionLimit) {behind : List Char}
    (hbehind : Json.Blank behind) :
    py.loads (String.ofList (value.render layout 0 ++ behind)) = .ok (value.arranged layout) := by
  rw [loads, Json.loads_render layout h.wellFormed hdepth hbehind]
  exact congrArg Except.ok ((Json.respell_arranged value).trans (congrArg _ h.spelled))

theorem loads_dumps (h : py.IsValue value) (hdumps : py.dumps layout value = some text) :
    py.loads text = .ok (value.arranged layout) := by
  obtain ⟨hdepth, rfl⟩ := dumps_eq_some.mp hdumps
  rw [Json.dumpsText, ← List.append_nil (value.render layout 0)]
  exact loads_render h hdepth (List.forall_mem_nil _)

/-- What was written is read back without its layout, with the numbers as they are written again. -/
theorem loads_dumpsText_append (h : value.WellFormed) (hdepth : value.height ≤ py.recursionLimit) (behind : String)
    (hbehind : Json.Blank behind.toList) :
    py.loads (value.dumpsText layout ++ behind) = .ok ((value.arranged layout).respell py.spell) := by
  have htext : value.dumpsText layout ++ behind = String.ofList (value.render layout 0 ++ behind.toList) := by
    rw [Json.dumpsText, String.ofList_append, String.ofList_toList]
  rw [htext, loads, Json.loads_render layout h hdepth hbehind]
  rfl

theorem isValue_str (text : String) : py.IsValue (.str text) where
  wellFormed := by simp [Json.WellFormed]
  spelled := by simp [Json.respell]

theorem isValue_null : py.IsValue .null where
  wellFormed := by simp [Json.WellFormed]
  spelled := by simp [Json.respell]

namespace IsValue

variable {fields : List (String × Json)} {key : String}

theorem obj (hnodup : (fields.map Prod.fst).Nodup) (h : ∀ field ∈ fields, py.IsValue field.2) :
    py.IsValue (.obj fields) where
  wellFormed := by
    rw [Json.WellFormed, Json.fieldsWellFormed_iff]
    exact ⟨hnodup, fun field hfield => (h field hfield).wellFormed⟩
  spelled := by
    rw [Json.respell, Json.respellFields_eq_map]
    refine congrArg Json.obj ((List.map_congr_left fun field hfield => ?_).trans (List.map_id fields))
    rw [(h field hfield).spelled, id]

theorem nodup (h : py.IsValue (.obj fields)) : (fields.map Prod.fst).Nodup := by
  have hwell := h.wellFormed
  rw [Json.WellFormed] at hwell
  exact hwell.1

theorem of_mem (h : py.IsValue (.obj fields)) {field : String × Json} (hfield : field ∈ fields) :
    py.IsValue field.2 := by
  have hwell := h.wellFormed
  have hspelled := h.spelled
  rw [Json.WellFormed, Json.fieldsWellFormed_iff] at hwell
  rw [Json.respell, Json.respellFields_eq_map, Json.obj.injEq] at hspelled
  have hself := List.map_inj_left.mp (hspelled.trans (List.map_id fields).symm) field hfield
  exact ⟨hwell.2 field hfield, congrArg Prod.snd hself⟩

/-- A value of a dictionary is one too, and is nested less deep. -/
theorem lookup (h : py.IsValue (.obj fields)) (hlookup : fields.lookup key = some value) :
    py.IsValue value ∧ value.height + 1 ≤ (Json.obj fields).height := by
  have hmem := (Json.lookup_iff_mem h.nodup).mp hlookup
  refine ⟨h.of_mem hmem, ?_⟩
  rw [Json.height]
  exact Nat.succ_le_succ (Json.heightFields_le_iff.mp (Nat.le_refl _) _ hmem)

end IsValue

end Interpreter

end Gpucall
