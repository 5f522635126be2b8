import Gpucall.Config.Activation

/-! `load_credentials` and `save_credentials` of `credentials.py`: the credentials file as one mapping of
providers, each with its own mapping of values. -/

namespace Gpucall

/-- `CredentialEnvOverride` -/
structure CredentialEnvOverride where
  provider : String
  key : String
  env : String

/-- What reading and writing the credentials depends on besides the file. `dump` is `yaml.safe_dump`
with sorted keys. -/
structure CredentialsHost where
  py : Builtins
  yaml : Yaml
  dump : Dict Json → String
  getenv : String → Option String
  /-- `env_overrides()` -/
  overrides : List CredentialEnvOverride
  /-- A new file cannot be put in place of the old one. -/
  readOnly : Bool := false

inductive CredentialsError where
  | typeError
  | permissionError

namespace CredentialsHost

variable (host : CredentialsHost)

/-- `yaml.safe_load(path.read_text(encoding="utf-8")) or {}` -/
def readRoot (bytes : List ℕ) : YamlRoot :=
  match host.yaml.readText bytes with
  | none => .unreadable
  | some text => host.yaml.load text

/-- The values of one provider as text, without those that are `None`. -/
def providerValues (values : List (String × Json)) : Dict String :=
  (Dict.ofFields values).filterMap fun
    | .null => none
    | value => some (pyStr host.py value)

/-- The providers of the file; there are none where the file has no mapping of them. -/
def storedProviders (file : Option (List ℕ)) : Dict Json :=
  match file with
  | none => {}
  | some bytes =>
    match host.readRoot bytes with
    | .mapping data =>
      match data.get? "providers" with
      | some (.obj raw) => .ofFields raw
      | _ => {}
    | _ => {}

/-- `_env_override` -/
def envOverride (providers : Dict (Dict String)) (override : CredentialEnvOverride) :
    Dict (Dict String) :=
  match host.getenv override.env with
  | none | some "" => providers
  | some value =>
    providers.set override.provider
      (((providers.get? override.provider).getD {}).set override.key value)

/-- `load_credentials` -/
def loadCredentials (file : Option (List ℕ)) : Dict (Dict String) :=
  host.overrides.foldl host.envOverride <| (host.storedProviders file).filterMap fun
    | .obj values => some (host.providerValues values)
    | _ => none

/-- The data that `save_credentials` starts from. -/
def loadedData (file : Option (List ℕ)) : Dict Json :=
  let fresh : Dict Json := { entries := [("version", .number "1"), ("providers", .obj [])] }
  match file with
  | none => fresh
  | some bytes =>
    match host.readRoot bytes with
    | .mapping data => data
    | _ => fresh

/-- `{key: value for key, value in values.items() if value}` -/
def savedValues (values : Dict String) : List (String × Json) :=
  (values.entries.filter (·.2 ≠ "")).map fun (key, value) => (key, .str value)

/-- `data.setdefault("providers", {})` and the assignment of the values of one provider. -/
def setProvider (data : Dict Json) (provider : String) (values : Dict String) :
    Except CredentialsError (Dict Json) :=
  match (data.get? "providers").getD (.obj []) with
  | .obj providers =>
    .ok (data.set "providers"
      (.obj ((Dict.ofFields providers).set provider (.obj (savedValues values))).entries))
  | _ => .error .typeError

/-- `save_credentials`, with the data that is dumped. The file is replaced as a whole. -/
def saveCredentials (file : Option (List ℕ)) (provider : String) (values : Dict String) :
    Except CredentialsError (Dict Json) := do
  let data ← setProvider (host.loadedData file) provider values
  if host.readOnly then throw .permissionError
  return data

/-- The file that the data is dumped to. -/
def dumped (data : Dict Json) : Option (List ℕ) := some (utf8 (host.dump data))

/-- The dumped data is read back equal, in whatever order its keys are. -/
def ReadsBack (data : Dict Json) : Prop :=
  ∃ reread, host.readRoot (utf8 (host.dump data)) = .mapping reread ∧
    pyEq host.py (.obj data.entries) (.obj reread.entries) = true

/-- No variable takes the place of a stored credential. -/
def Unset : Prop := ∀ name, host.getenv name = none ∨ host.getenv name = some ""

end CredentialsHost

/-! ## Equality of mappings -/

theorem lookup_of_pyEqFields {py : Builtins} {left right : List (String × Json)}
    (h : pyEqFields py left right = true) {key : String} {value : Json}
    (hvalue : left.lookup key = some value) :
    ∃ value', right.lookup key = some value' ∧ pyEq py value value' = true := by
  induction left with
  | nil => cases hvalue
  | cons field left ih =>
    rw [pyEqFields, Bool.and_eq_true] at h
    rw [List.lookup_cons] at hvalue
    split at hvalue
    · rename_i hkey
      obtain rfl : key = field.1 := eq_of_beq hkey
      cases hvalue
      have hfirst := h.1
      split at hfirst
      · rename_i value' hvalue'
        exact ⟨value', hvalue', hfirst⟩
      · cases hfirst
    · exact ih h.2 hvalue

theorem lookup_isSome_iff_mem {fields : List (String × α)} {key : String} :
    (fields.lookup key).isSome = true ↔ key ∈ fields.map Prod.fst := by
  rw [List.lookup_isSome_iff, List.mem_map]
  refine exists_congr fun field => and_congr_right fun _ => ?_
  rw [beq_iff_eq, eq_comm]

/-- Equal mappings have the same keys. -/
theorem perm_keys_of_pyEq {py : Builtins} {left right : List (String × Json)}
    (hnodup : (left.map Prod.fst).Nodup) (h : pyEq py (.obj left) (.obj right) = true) :
    (left.map Prod.fst).Perm (right.map Prod.fst) := by
  rw [pyEq, Bool.and_eq_true, decide_eq_true_eq] at h
  have hsubset : left.map Prod.fst ⊆ right.map Prod.fst := by
    intro key hkey
    obtain ⟨value, hvalue⟩ := Option.isSome_iff_exists.mp (lookup_isSome_iff_mem.mpr hkey)
    obtain ⟨value', hvalue', -⟩ := lookup_of_pyEqFields h.2 hvalue
    exact lookup_isSome_iff_mem.mp (Option.isSome_iff_exists.mpr ⟨value', hvalue'⟩)
  refine (hnodup.subperm hsubset).perm_of_length_le ?_
  rw [List.length_map, List.length_map, h.1]

theorem rel_lookup_of_pyEq {py : Builtins} {left right : List (String × Json)}
    (hnodup : (left.map Prod.fst).Nodup) (h : pyEq py (.obj left) (.obj right) = true) (key : String) :
    Option.Rel (fun value value' => pyEq py value value' = true) (left.lookup key)
      (right.lookup key) := by
  have hkeys := (perm_keys_of_pyEq hnodup h).mem_iff (a := key)
  rw [pyEq, Bool.and_eq_true] at h
  cases hvalue : left.lookup key with
  | some value =>
    obtain ⟨value', hvalue', heq⟩ := lookup_of_pyEqFields h.2 hvalue
    rw [hvalue']
    exact .some heq
  | none =>
    have habsent : right.lookup key = none := by
      rw [← Option.not_isSome_iff_eq_none, lookup_isSome_iff_mem, ← hkeys, ← lookup_isSome_iff_mem, hvalue]
      exact Bool.false_ne_true
    rw [habsent]
    exact .none

theorem eq_obj_of_pyEq {py : Builtins} {left : List (String × Json)} {value : Json}
    (h : pyEq py (.obj left) value = true) : ∃ right, value = .obj right := by
  cases value with
  | obj right => exact ⟨right, rfl⟩
  | _ => cases h

theorem eq_str_of_pyEq {py : Builtins} {text : String} {value : Json}
    (h : pyEq py (.str text) value = true) : value = .str text := by
  cases value with
  | str other =>
    rw [pyEq, decide_eq_true_eq] at h
    rw [h]
  | _ => cases h

/-! ## What is read after a save -/

namespace CredentialsHost

variable {host : CredentialsHost} {file : Option (List ℕ)} {provider : String} {values : Dict String}
  {saved : Dict Json}

theorem lookup_savedValues (values : Dict String) (key : String) :
    (savedValues values).lookup key = ((values.get? key).filter (· ≠ "")).map .str := by
  have hfilter : (values.entries.filter (·.2 ≠ "")).map (fun (key, value) => (key, Json.str value)) =
      (values.filterMap fun value => if value = "" then none else some (Json.str value)).entries := by
    rw [Dict.filterMap, ← List.filterMap_eq_map', ← List.filterMap_eq_filter, List.filterMap_filterMap]
    refine List.filterMap_congr fun entry _ => ?_
    by_cases hempty : entry.2 = "" <;> simp [hempty, Option.guard]
  rw [savedValues, hfilter]
  refine (Dict.get?_filterMap _ values key).trans ?_
  cases values.get? key with
  | none => rfl
  | some value => by_cases hempty : value = "" <;> simp [hempty]

theorem nodup_savedValues (values : Dict String) : ((savedValues values).map Prod.fst).Nodup := by
  rw [savedValues, List.map_map]
  exact values.nodup.sublist (List.filter_sublist.map Prod.fst)

theorem storedProviders_eq {providers : List (String × Json)}
    (h : ((host.loadedData file).get? "providers").getD (.obj []) = .obj providers) :
    host.storedProviders file = .ofFields providers := by
  unfold loadedData at h
  unfold storedProviders
  cases file with
  | none =>
    cases h
    rfl
  | some bytes =>
    cases hroot : host.readRoot bytes with
    | mapping data =>
      simp only [hroot] at h ⊢
      cases hproviders : data.get? "providers" with
      | none =>
        rw [hproviders] at h
        cases h
        rfl
      | some value =>
        rw [hproviders, Option.getD_some] at h
        rw [h]
    | unreadable | other =>
      simp only [hroot] at h ⊢
      cases h
      rfl

theorem saveCredentials_eq_ok (hsave : host.saveCredentials file provider values = .ok saved) :
    saved = (host.loadedData file).set "providers"
      (.obj ((host.storedProviders file).set provider (.obj (savedValues values))).entries) := by
  unfold saveCredentials setProvider at hsave
  cases hproviders : ((host.loadedData file).get? "providers").getD (.obj []) with
  | obj providers =>
    simp only [hproviders] at hsave
    rw [storedProviders_eq hproviders]
    cases hreadOnly : host.readOnly with
    | true =>
      rw [hreadOnly] at hsave
      cases hsave
    | false =>
      rw [hreadOnly] at hsave
      cases hsave
      rfl
  | _ =>
    simp only [hproviders] at hsave
    cases hsave

theorem rel_storedProviders_dumped (hsave : host.saveCredentials file provider values = .ok saved)
    (hback : host.ReadsBack saved) (name : String) :
    Option.Rel (fun value value' => pyEq host.py value value' = true)
      (((host.storedProviders file).set provider (.obj (savedValues values))).get? name)
      ((host.storedProviders (host.dumped saved)).get? name) := by
  obtain ⟨reread, hreread, heq⟩ := hback
  have hproviders := rel_lookup_of_pyEq saved.nodup heq "providers"
  have hsaved : saved.entries.lookup "providers" = some (.obj
      ((host.storedProviders file).set provider (.obj (savedValues values))).entries) := by
    rw [saveCredentials_eq_ok hsave]
    exact Dict.get?_set_self ..
  rw [hsaved] at hproviders
  generalize (host.storedProviders file).set provider (.obj (savedValues values)) = stored at *
  cases hraw : reread.entries.lookup "providers" with
  | none =>
    rw [hraw] at hproviders
    cases hproviders
  | some value =>
    rw [hraw] at hproviders
    obtain ⟨hvalue⟩ := hproviders
    obtain ⟨raw, rfl⟩ := eq_obj_of_pyEq hvalue
    have hread : host.storedProviders (host.dumped saved) = .ofFields raw := by
      unfold storedProviders dumped
      simp only [hreread, Dict.get?, hraw]
    rw [hread, Dict.get?_ofFields_of_nodup ((perm_keys_of_pyEq stored.nodup hvalue).nodup stored.nodup)]
    exact rel_lookup_of_pyEq stored.nodup hvalue name

theorem loadCredentials_of_unset (hunset : host.Unset) (file : Option (List ℕ)) :
    host.loadCredentials file = (host.storedProviders file).filterMap fun
      | .obj values => some (host.providerValues values)
      | _ => none := by
  have hsame (providers : Dict (Dict String)) (override : CredentialEnvOverride) :
      host.envOverride providers override = providers := by
    unfold envOverride
    obtain h | h := hunset override.env <;> simp only [h]
  unfold loadCredentials
  generalize (host.storedProviders file).filterMap _ = providers
  induction host.overrides with
  | nil => rfl
  | cons override overrides ih => rw [List.foldl_cons, hsame, ih]

/-- The values that were saved are loaded again, but for the empty ones. -/
theorem get?_loadCredentials_dumped (hunset : host.Unset)
    (hsave : host.saveCredentials file provider values = .ok saved) (hback : host.ReadsBack saved) :
    ∃ loaded, (host.loadCredentials (host.dumped saved)).get? provider = some loaded ∧
      ∀ key, loaded.get? key = (values.get? key).filter (· ≠ "") := by
  have hstored := rel_storedProviders_dumped hsave hback provider
  rw [Dict.get?_set_self] at hstored
  cases hvalue : (host.storedProviders (host.dumped saved)).get? provider with
  | none =>
    rw [hvalue] at hstored
    cases hstored
  | some value =>
    rw [hvalue] at hstored
    obtain ⟨heq⟩ := hstored
    obtain ⟨fields, rfl⟩ := eq_obj_of_pyEq heq
    refine ⟨host.providerValues fields, ?_, fun key => ?_⟩
    · rw [loadCredentials_of_unset hunset, Dict.get?_filterMap, hvalue]
      rfl
    · have hkey := rel_lookup_of_pyEq (nodup_savedValues values) heq key
      rw [lookup_savedValues] at hkey
      rw [providerValues, Dict.get?_filterMap, Dict.get?_ofFields_of_nodup
        ((perm_keys_of_pyEq (nodup_savedValues values) heq).nodup (nodup_savedValues values))]
      cases hfound : (values.get? key).filter (· ≠ "") with
      | none =>
        rw [hfound] at hkey
        generalize fields.lookup key = other at hkey
        cases hkey
        rfl
      | some text =>
        rw [hfound] at hkey
        generalize fields.lookup key = other at hkey
        obtain ⟨htext⟩ := hkey
        rw [eq_str_of_pyEq htext]
        rfl

end CredentialsHost

end Gpucall
