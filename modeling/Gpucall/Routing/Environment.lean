import Mathlib.Data.List.Infix
import Gpucall.Domain

/-! What routing reads besides the configuration: the string methods of Python, the adapters that are
registered, and the process environment. -/

namespace Gpucall

/-! ## Dictionaries -/

/-- A `dict` with string keys, in insertion order. -/
structure Dict (α : Type) where
  entries : List (String × α) := []
  nodup : (entries.map Prod.fst).Nodup := by first | exact List.nodup_nil | decide

namespace Dict

def get? (d : Dict α) (key : String) : Option α := d.entries.lookup key

def keys (d : Dict α) : List String := d.entries.map Prod.fst

def values (d : Dict α) : List α := d.entries.map Prod.snd

/-- `sorted(d)` -/
def sortedKeys (d : Dict α) : List String := d.keys.insertionSort (· ≤ ·)

theorem map_fst_replace (entries : List (String × α)) (key : String) (value : α) :
    (entries.map fun entry => if entry.1 = key then (key, value) else entry).map Prod.fst =
      entries.map Prod.fst := by
  rw [List.map_map]
  apply List.map_congr_left
  intro entry _
  by_cases hkey : entry.1 = key <;> simp [hkey]

/-- `d[key] = value` -/
def set (d : Dict α) (key : String) (value : α) : Dict α where
  entries :=
    if key ∈ d.keys then d.entries.map fun entry => if entry.1 = key then (key, value) else entry
    else d.entries ++ [(key, value)]
  nodup := by
    split
    · rw [map_fst_replace]
      exact d.nodup
    · rename_i hkey
      rw [List.map_append, List.nodup_append]
      refine ⟨d.nodup, List.nodup_singleton _, ?_⟩
      rintro a ha b hb rfl
      rw [List.map_singleton, List.mem_singleton] at hb
      subst hb
      exact hkey ha

/-- `d.pop(key, None)` -/
def pop (d : Dict α) (key : String) : Dict α where
  entries := d.entries.filter (·.1 ≠ key)
  nodup := d.nodup.sublist (List.filter_sublist.map _)

/-- The fields of a decoded mapping as a dictionary. -/
def ofFields (fields : List (String × α)) : Dict α :=
  fields.foldl (fun d entry => d.set entry.1 entry.2) ⟨[], List.nodup_nil⟩

/-- `{**left, **right}` -/
def update (left right : Dict α) : Dict α :=
  right.entries.foldl (fun d entry => d.set entry.1 entry.2) left

/-- `{key: f(value) for key, value in d.items()}`, without the values that `f` leaves out -/
def filterMap (f : α → Option β) (d : Dict α) : Dict β where
  entries := d.entries.filterMap fun entry => (f entry.2).map (entry.1, ·)
  nodup := by
    refine d.nodup.sublist ?_
    rw [List.map_filterMap]
    have hkeys : ∀ entry : String × α,
        ((f entry.2).map (entry.1, ·)).map Prod.fst = if (f entry.2).isSome then some entry.1 else none := by
      intro entry
      cases f entry.2 <;> rfl
    simp only [hkeys]
    induction d.entries with
    | nil => exact List.Sublist.slnil
    | cons entry entries ih =>
      rw [List.filterMap_cons, List.map_cons]
      split
      · exact ih.cons _
      · rename_i key hkey
        split at hkey
        · cases hkey
          exact ih.cons_cons _
        · cases hkey

theorem ext_entries {d d' : Dict α} (h : d.entries = d'.entries) : d = d' := by
  cases d
  cases d'
  cases h
  rfl

theorem get?_eq_some {d : Dict α} : d.get? key = some value ↔ (key, value) ∈ d.entries := by
  obtain ⟨entries, hnodup⟩ := d
  simp only [get?]
  induction entries with
  | nil => simp
  | cons entry entries ih =>
    obtain ⟨name, other⟩ := entry
    rw [List.map_cons, List.nodup_cons] at hnodup
    rw [List.lookup_cons, List.mem_cons, ← ih hnodup.2]
    by_cases hkey : key = name
    · subst hkey
      have habsent : entries.lookup key ≠ some value := by
        intro hlookup
        exact hnodup.1 (List.mem_map.mpr ⟨_, (ih hnodup.2).mp hlookup, rfl⟩)
      simp [habsent, eq_comm]
    · simp [beq_eq_false_iff_ne.mpr hkey, hkey]

theorem mem_values {d : Dict α} : value ∈ d.values ↔ ∃ key, d.get? key = some value := by
  simp only [values, List.mem_map, get?_eq_some, Prod.exists, exists_eq_right]

theorem mem_keys {d : Dict α} : key ∈ d.keys ↔ ∃ value, d.get? key = some value := by
  simp only [keys, List.mem_map, get?_eq_some, Prod.exists, exists_and_right, exists_eq_right]

theorem get?_set_self (d : Dict α) (key : String) (value : α) :
    (d.set key value).get? key = some value := by
  rw [get?_eq_some, set]
  split
  · rename_i hkey
    obtain ⟨old, hold⟩ := mem_keys.mp hkey
    exact List.mem_map.mpr ⟨(key, old), get?_eq_some.mp hold, if_pos rfl⟩
  · exact List.mem_append_right _ List.mem_cons_self

theorem get?_set_of_ne {d : Dict α} (hne : other ≠ key) :
    (d.set key value).get? other = some found ↔ d.get? other = some found := by
  rw [get?_eq_some, get?_eq_some, set]
  split
  · rw [List.mem_map]
    constructor
    · rintro ⟨entry, hentry, heq⟩
      by_cases hkey : entry.1 = key
      · rw [if_pos hkey, Prod.mk.injEq] at heq
        exact absurd heq.1.symm hne
      · rw [if_neg hkey] at heq
        exact heq ▸ hentry
    · intro hentry
      exact ⟨_, hentry, if_neg hne⟩
  · simp [hne]

theorem get?_set (d : Dict α) (key other : String) (value : α) :
    (d.set key value).get? other = if other = key then some value else d.get? other := by
  split
  · rename_i hkey
    rw [hkey, get?_set_self]
  · rename_i hkey
    exact Option.ext fun found => get?_set_of_ne hkey

theorem get?_update (left right : Dict α) (key : String) :
    (left.update right).get? key = (right.get? key).or (left.get? key) := by
  obtain ⟨entries, hnodup⟩ := right
  simp only [update, get?]
  rw [← get?, ← get?]
  induction entries generalizing left with
  | nil => rfl
  | cons entry entries ih =>
    obtain ⟨name, value⟩ := entry
    rw [List.map_cons, List.nodup_cons] at hnodup
    rw [List.foldl_cons, ih _ hnodup.2, get?_set, List.lookup_cons]
    by_cases hkey : key = name
    · subst hkey
      have habsent : entries.lookup key = none := by
        refine List.lookup_eq_none_iff.mpr fun entry hentry => ?_
        rw [bne_iff_ne]
        rintro rfl
        exact hnodup.1 (List.mem_map.mpr ⟨entry, hentry, rfl⟩)
      simp [habsent]
    · rw [if_neg hkey, beq_eq_false_iff_ne.mpr hkey]

theorem get?_ofFields (fields : List (String × α)) (key : String) :
    (ofFields fields).get? key = fields.reverse.lookup key := by
  induction fields using List.reverseRecOn with
  | nil => rfl
  | append_singleton fields field ih =>
    rw [ofFields, List.foldl_append, List.foldl_cons, List.foldl_nil, ← ofFields, get?_set,
      List.reverse_append, List.reverse_singleton, List.singleton_append, List.lookup_cons, ih]
    by_cases hkey : key = field.1
    · simp [hkey]
    · simp [hkey, beq_eq_false_iff_ne.mpr hkey]

theorem get?_ofFields_of_nodup {fields : List (String × α)} (h : (fields.map Prod.fst).Nodup)
    (key : String) : (ofFields fields).get? key = fields.lookup key := by
  have hreverse : (fields.reverse.map Prod.fst).Nodup := by
    rw [List.map_reverse]
    exact List.nodup_reverse.mpr h
  rw [get?_ofFields]
  refine Option.ext fun value => ?_
  have hleft := @get?_eq_some α key value ⟨fields.reverse, hreverse⟩
  have hright := @get?_eq_some α key value ⟨fields, h⟩
  rw [get?] at hleft hright
  rw [hleft, hright, List.mem_reverse]

theorem entries_set_of_notMem {d : Dict α} (h : key ∉ d.keys) :
    (d.set key value).entries = d.entries ++ [(key, value)] := by
  rw [set]
  exact if_neg h

theorem entries_set_of_mem {d : Dict α} (h : key ∈ d.keys) :
    (d.set key value).entries = d.entries.map fun entry => if entry.1 = key then (key, value) else entry := by
  rw [set]
  exact if_pos h

/-- The fields of a dictionary are read back as it. -/
theorem ofFields_entries (d : Dict α) : ofFields d.entries = d := by
  obtain ⟨entries, hnodup⟩ := d
  apply ext_entries
  induction entries using List.reverseRecOn with
  | nil => rfl
  | append_singleton entries entry ih =>
    rw [List.map_append, List.nodup_append] at hnodup
    have hentries : (ofFields entries).entries = entries := ih hnodup.1
    have hnew : entry.1 ∉ (ofFields entries).keys := by
      intro hmem
      rw [keys, hentries] at hmem
      exact hnodup.2.2 _ hmem _ (List.mem_map_of_mem List.mem_cons_self) rfl
    rw [ofFields, List.foldl_append, List.foldl_cons, List.foldl_nil, ← ofFields,
      entries_set_of_notMem hnew, hentries]

theorem get?_filterMap (f : α → Option β) (d : Dict α) (key : String) :
    (d.filterMap f).get? key = (d.get? key).bind f := by
  refine Option.ext fun value => ?_
  rw [get?_eq_some, Option.bind_eq_some_iff, filterMap, List.mem_filterMap]
  constructor
  · rintro ⟨entry, hentry, hvalue⟩
    obtain ⟨found, hfound, heq⟩ := Option.map_eq_some_iff.mp hvalue
    cases heq
    exact ⟨entry.2, get?_eq_some.mpr hentry, hfound⟩
  · rintro ⟨found, hfound, hvalue⟩
    refine ⟨(key, found), get?_eq_some.mp hfound, ?_⟩
    rw [hvalue, Option.map_some]

theorem get?_pop {d : Dict α} :
    (d.pop key).get? other = some found ↔ other ≠ key ∧ d.get? other = some found := by
  rw [get?_eq_some, get?_eq_some, pop, List.mem_filter, and_comm, decide_eq_true_iff]

end Dict

/-- `d.get(ref) if ref else None` -/
def Dict.getRef? (d : Dict α) (ref : Option String) : Option α :=
  match ref with
  | none | some "" => none
  | some ref => d.get? ref

/-! ## Strings -/

instance lawfulBEq_chars : LawfulBEq (List Char) := inferInstance

/-- Python truthiness of an optional string. -/
def truthyStr (s : Option String) : Bool := s.getD "" ≠ ""

def startswith (s stem : String) : Bool := stem.toList.isPrefixOf s.toList

def endswith (s tail : String) : Bool := tail.toList.isSuffixOf s.toList

/-- `part in s` -/
def containsStr (s part : String) : Bool := part.toList <:+: s.toList

/-- `s.split(c, 1)[0]` -/
def splitFirst (c : Char) (s : String) : String := String.ofList (s.toList.takeWhile (· ≠ c))

def replaceChar (old new : Char) (s : String) : String :=
  String.ofList (s.toList.map fun c => if c = old then new else c)

/-- `sep.join(..)` -/
def joinStr (sep : String) (parts : List String) : String := sep.intercalate parts

/-! ## Adapters and the process environment -/

/-- The tuple fields that adapter descriptors require. -/
inductive DescriptorField where
  | target | streamTarget | endpoint
  deriving DecidableEq

def ExecutionSurface.value : ExecutionSurface → String
  | .localRuntime => "local_runtime"
  | .iaasVm => "iaas_vm"
  | .containerInstance => "container_instance"
  | .managedEndpoint => "managed_endpoint"
  | .functionRuntime => "function_runtime"
  | .sandboxRuntime => "sandbox_runtime"
  | .clusterRuntime => "cluster_runtime"
  | .lifecycleOnly => "lifecycle_only"

/-- `TupleAdapterDescriptor`, the fields that routing reads. -/
structure TupleAdapterDescriptor where
  executionSurface : Option ExecutionSurface := none
  endpointContract : Option String := none
  outputContract : Option String := none
  productionEligible : Bool := true
  productionRejectionReason : Option String := none
  localExecution : Bool := false
  requiresModelForAuto : Bool := true
  requiredAutoFields : List (DescriptorField × String) := []
  streamRequiredFields : List (DescriptorField × String) := []

/-- The surroundings of a gateway process. The three string methods are Unicode-aware in Python; the
adapters may come from plugins; `isConfiguredCidr` stands for `is_configured_cidr`, which parses with
`ipaddress`. -/
structure Environment where
  lower : String → String
  strip : String → String
  repr : String → String
  /-- `_ALIASES` -/
  aliases : String → Option String := fun _ => none
  /-- `_DESCRIPTORS` -/
  descriptors : String → Option TupleAdapterDescriptor
  /-- `GPUCALL_ALLOW_FAKE_AUTO_TUPLES` is set to a true value. -/
  allowFakeAutoTuples : Bool := false
  isConfiguredCidr : String → Bool
  /-- `parse_time`, as UTC -/
  parseTime : String → Option DateTime
  /-- The matches of the two fact patterns in a text: where they start and what they match. -/
  weekdayMatches : String → List (ℕ × String)
  numericMatches : String → List (ℕ × String)

variable (env : Environment)

/-- `_normalize` of `execution/registry.py` -/
def normalizeAdapter (adapter : String) : String := env.lower (env.strip adapter)

def vendorFamilyForAdapter (adapter : String) : String :=
  let adapter := normalizeAdapter env adapter
  if startswith adapter "runpod-" then "runpod"
  else if adapter = "azure-compute-vm" then "azure"
  else if adapter = "gcp-confidential-space-vm" then "gcp"
  else if adapter = "ovhcloud-public-cloud-instance" then "ovhcloud"
  else if adapter = "scaleway-instance" then "scaleway"
  else if adapter ∈ ["echo", "local-ollama", "local-openai-compatible", "local-dataref-openai-worker"]
  then "local"
  else adapter

def adapterDescriptor (tuple : ExecutionTupleSpec) : Option TupleAdapterDescriptor :=
  let key := normalizeAdapter env tuple.adapter
  env.descriptors ((env.aliases key).getD key)

def isLocalExecutionTuple (tuple : ExecutionTupleSpec) : Bool :=
  match adapterDescriptor env tuple with
  | some descriptor => descriptor.localExecution
  | none => false

/-! ## Targets -/

/-- `_EMPTY_TARGETS` -/
def emptyTargets : List String := ["", "none", "null", "nil", "changeme", "change-me", "todo", "tbd"]

def isConfiguredTarget (value : Option String) : Bool :=
  match value with
  | none => false
  | some value =>
    let text := env.strip value
    let lowered := env.lower text
    if lowered ∈ emptyTargets then false
    else if containsStr lowered "placeholder" then false
    else if containsStr lowered "xxxxxxxx" then false
    else if startswith text "<" && endswith text ">" then false
    else true

def ExecutionTupleSpec.field (tuple : ExecutionTupleSpec) : DescriptorField → Option String
  | .target => tuple.target
  | .streamTarget => tuple.streamTarget
  | .endpoint => tuple.endpoint

/-- The loop over a descriptor's required fields: the reason of the first one that is missing. -/
def missingFieldReason (tuple : ExecutionTupleSpec) (fields : List (DescriptorField × String)) :
    Option String :=
  fields.findSome? fun (field, reason) =>
    let present :=
      match field with
      | .target | .streamTarget => isConfiguredTarget env (tuple.field field)
      | .endpoint => truthyStr (tuple.field field)
    if present then none else some reason

end Gpucall
