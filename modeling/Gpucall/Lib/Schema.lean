import Mathlib.Data.List.Basic

/-! Records with named fields that are validated from a payload: a field that is given is parsed, one that
is not has its default, and a name that no field has is refused. -/

/-- How a field is parsed and what stands for it where it is not given; a required field has nothing. -/
structure FieldSpec (ι ν : Type) where
  parse : ι → Option ν
  default : Option ν := none

/-- The fields of a record, in the order of their declaration. -/
abbrev Schema (κ ι ν : Type) := List (κ × FieldSpec ι ν)

namespace Schema

variable {κ ι ν : Type}

/-- The value of a field. -/
def fieldValue (payload : κ → Option ι) (entry : κ × FieldSpec ι ν) : Option ν :=
  match payload entry.1 with
  | some x => entry.2.parse x
  | none => entry.2.default

variable [DecidableEq κ]

/-- The record of a payload, which is given by what it has at a name and by the names that it has. -/
def validate (schema : Schema κ ι ν) (payload : κ → Option ι) (given : List κ) :
    Option (List (κ × ν)) :=
  if given.all (· ∈ schema.map Prod.fst) && schema.all (fun entry => (fieldValue payload entry).isSome)
  then
    some (schema.filterMap fun entry => (fieldValue payload entry).map (entry.1, ·))
  else none

variable {schema : Schema κ ι ν} {payload : κ → Option ι} {given : List κ}
  {record : List (κ × ν)}

/-- A payload is accepted exactly when it has no other names and each field has a value. -/
theorem validate_isSome_iff : (schema.validate payload given).isSome = true ↔
    (∀ name ∈ given, name ∈ schema.map Prod.fst) ∧
      ∀ entry ∈ schema, (fieldValue payload entry).isSome = true := by
  unfold validate
  split
  · rename_i h
    simpa using h
  · rename_i h
    simpa using h

/-- What an accepted record has at a name. -/
theorem lookup_of_validate (h : schema.validate payload given = some record) (key : κ) :
    record.lookup key = (schema.lookup key).bind fun field => fieldValue payload (key, field) := by
  have hvalues := (validate_isSome_iff.mp (Option.isSome_of_eq_some h)).2
  unfold validate at h
  split at h
  · cases h
    rename_i haccepted
    clear haccepted
    induction schema with
    | nil => rfl
    | cons entry schema ih =>
      obtain ⟨name, field⟩ := entry
      rw [List.forall_mem_cons] at hvalues
      obtain ⟨value, hvalue⟩ := Option.isSome_iff_exists.mp hvalues.1
      rw [List.filterMap_cons]
      simp only [hvalue, Option.map_some, List.lookup_cons]
      by_cases hkey : key = name
      · subst hkey
        simpa using hvalue.symm
      · rw [beq_eq_false_iff_ne.mpr hkey]
        exact ih hvalues.2
  · cases h

end Schema
