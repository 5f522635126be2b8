import Mathlib.Data.List.Induction
import Mathlib.Data.List.Sort
import Mathlib.Order.Basic
import Gpucall.Lib.OptionList

/-! A scan that remembers the first entry of each key, and what it finds in a list sorted by a rank:
the entry of the highest rank. -/

namespace FirstWins

variable {α κ β γ : Type} [BEq κ]

/-- `if key in entries: continue; entries[key] = value` -/
def insertNew (entries : List (κ × β)) (entry : κ × β) : List (κ × β) :=
  if (entries.lookup entry.1).isSome then entries else entries ++ [entry]

/-- The entries of a scan, each key with its first one. -/
def scan (entry : α → Option (κ × β)) (xs : List α) : List (κ × β) :=
  xs.foldl (fun entries x => (entry x).elim entries (insertNew entries)) []

variable [LawfulBEq κ]

theorem lookup_insertNew (entries : List (κ × β)) (entry : κ × β) (key : κ) :
    (insertNew entries entry).lookup key = (entries ++ [entry]).lookup key := by
  unfold insertNew
  split
  · rename_i h
    rw [List.lookup_append]
    by_cases hkey : key = entry.1
    · subst hkey
      rw [Option.or_of_isSome h]
    · have hnone : [entry].lookup key = none := by simp [hkey]
      rw [hnone, Option.or_none]
  · rfl

theorem lookup_scan (entry : α → Option (κ × β)) (xs : List α) (key : κ) :
    (scan entry xs).lookup key = (xs.filterMap entry).lookup key := by
  induction xs using List.reverseRecOn with
  | nil => rfl
  | append_singleton xs x ih =>
    unfold scan at ih ⊢
    rw [List.foldl_append, List.filterMap_append, List.lookup_append, ← ih]
    cases hx : entry x with
    | none => simp [hx]
    | some e => simp [hx, lookup_insertNew, List.lookup_append]

/-- The scan finds for a key what the first element with that key enters. -/
theorem lookup_filterMap (entry : α → Option (κ × β)) (xs : List α) (key : κ) :
    (xs.filterMap entry).lookup key =
      (xs.find? fun x => (entry x).map Prod.fst == some key).bind fun x => (entry x).map Prod.snd := by
  induction xs with
  | nil => rfl
  | cons x xs ih =>
    cases hentry : entry x with
    | none => simp [hentry, ih]
    | some e =>
      rw [List.filterMap_cons_some hentry, List.lookup_cons, List.find?_cons, hentry]
      by_cases hkey : e.1 = key
      · subst hkey
        simp [hentry]
      · have hother : (key == e.1) = false := beq_eq_false_iff_ne.mpr (Ne.symm hkey)
        have hother' : (e.1 == key) = false := beq_eq_false_iff_ne.mpr hkey
        simp [hother, hother', ih]

/-- The key is in the entries when some element of the list has it. -/
theorem mem_keys_scan {entry : α → Option (κ × β)} {xs : List α} {key : κ} :
    key ∈ (scan entry xs).map Prod.fst ↔ ∃ x ∈ xs, ∃ value, entry x = some (key, value) := by
  have hmem : key ∈ (scan entry xs).map Prod.fst ↔ ((scan entry xs).lookup key).isSome := by
    rw [List.mem_map, List.lookup_isSome_iff]
    refine exists_congr fun entry => and_congr_right fun _ => ?_
    rw [beq_iff_eq, eq_comm]
  rw [hmem, lookup_scan, List.lookup_isSome_iff]
  constructor
  · rintro ⟨e, he, hkey⟩
    obtain ⟨x, hx, hentry⟩ := List.mem_filterMap.mp he
    obtain rfl : key = e.1 := by simpa using hkey
    exact ⟨x, hx, e.2, hentry⟩
  · rintro ⟨x, hx, value, hentry⟩
    exact ⟨(key, value), List.mem_filterMap.mpr ⟨x, hx, hentry⟩, by simp⟩

variable [LinearOrder γ]

/-- In a list sorted by decreasing rank the scan finds the entry of the highest rank. -/
theorem lookup_scan_of_sorted {entry : α → Option (κ × β)} {rank : α → γ} {xs : List α} {key : κ}
    {value : β} (hsorted : xs.Pairwise fun x y => rank y < rank x) :
    (scan entry xs).lookup key = some value ↔ ∃ x ∈ xs, entry x = some (key, value) ∧
      ∀ y ∈ xs, (∃ value, entry y = some (key, value)) → rank y ≤ rank x := by
  rw [lookup_scan]
  induction xs with
  | nil => simp
  | cons x xs ih =>
    obtain ⟨hfirst, hrest⟩ := List.pairwise_cons.mp hsorted
    by_cases hx : ∃ value, entry x = some (key, value)
    · obtain ⟨first, hx⟩ := hx
      rw [List.filterMap_cons_some hx, List.lookup_cons_self]
      constructor
      · rintro ⟨⟩
        refine ⟨x, List.mem_cons_self, hx, fun y hy _ => ?_⟩
        obtain rfl | hy := List.mem_cons.mp hy
        · exact le_rfl
        · exact le_of_lt (hfirst y hy)
      · rintro ⟨z, hz, hentry, hmax⟩
        obtain rfl | hz := List.mem_cons.mp hz
        · rw [hx] at hentry
          cases hentry
          rfl
        · exact absurd (hmax x List.mem_cons_self ⟨first, hx⟩) (not_le.mpr (hfirst z hz))
    · -- `x` is not about the key, and neither side looks at it
      have hskip : ((x :: xs).filterMap entry).lookup key = (xs.filterMap entry).lookup key := by
        cases hentry : entry x with
        | none => rw [List.filterMap_cons_none hentry]
        | some e =>
          rw [List.filterMap_cons_some hentry, List.lookup_cons]
          have hne : (key == e.1) = false := by
            rw [beq_eq_false_iff_ne]
            rintro rfl
            exact hx ⟨e.2, hentry⟩
          rw [hne]
      rw [hskip, ih hrest]
      constructor
      · rintro ⟨z, hz, hentry, hmax⟩
        refine ⟨z, List.mem_cons_of_mem x hz, hentry, fun y hy hy' => ?_⟩
        obtain rfl | hy := List.mem_cons.mp hy
        · exact absurd hy' hx
        · exact hmax y hy hy'
      · rintro ⟨z, hz, hentry, hmax⟩
        obtain rfl | hz := List.mem_cons.mp hz
        · exact absurd ⟨value, hentry⟩ hx
        · exact ⟨z, hz, hentry, fun y hy => hmax y (List.mem_cons_of_mem x hy)⟩

/-! ## A scan that may fail -/

section TryScan

variable {ε : Type} (read : α → Except ε (Option (κ × β))) (check : α → Except ε Unit)

/-- One round: the element is read, and what is new is checked before it is entered. -/
def tryInsert (entries : List (κ × β)) (x : α) : Except ε (List (κ × β)) := do
  match ← read x with
  | none => return entries
  | some entry =>
    if (entries.lookup entry.1).isSome then return entries
    check x
    return entries ++ [entry]

def tryScan (xs : List α) : Except ε (List (κ × β)) := xs.foldlM (tryInsert read check) []

variable {read check} {entry : α → Option (κ × β)} {xs : List α} {entries result : List (κ × β)}

omit [LawfulBEq κ] in
theorem tryInsert_none {x : α} (hread : read x = .ok none) : tryInsert read check entries x = .ok entries := by
  rw [tryInsert, hread]
  rfl

omit [LawfulBEq κ] in
theorem tryInsert_old {x : α} {e : κ × β} (hread : read x = .ok (some e)) (hold : (entries.lookup e.1).isSome) :
    tryInsert read check entries x = .ok entries := by
  rw [tryInsert, hread]
  exact if_pos hold

omit [LawfulBEq κ] in
theorem tryInsert_new {x : α} {e : κ × β} (hread : read x = .ok (some e))
    (hnew : entries.lookup e.1 = none) :
    tryInsert read check entries x = (check x).map fun _ => entries ++ [e] := by
  rw [tryInsert, hread]
  have hlookup : ¬ (entries.lookup e.1).isSome := by simp [hnew]
  refine (if_neg hlookup).trans ?_
  cases check x <;> rfl

omit [LawfulBEq κ] in
/-- What enters nothing may be left out. -/
theorem tryScan_filter {p : α → Bool} (h : ∀ x ∈ xs, p x = false → read x = .ok none) :
    tryScan read check (xs.filter p) = tryScan read check xs := by
  unfold tryScan
  generalize ([] : List (κ × β)) = entries
  induction xs generalizing entries with
  | nil => rfl
  | cons x xs ih =>
    replace ih := ih fun y hy => h y (List.mem_cons_of_mem x hy)
    rw [List.filter_cons, List.foldlM_cons]
    cases hx : p x with
    | true =>
      rw [if_pos rfl, List.foldlM_cons]
      exact bind_congr ih
    | false =>
      rw [tryInsert_none (h x List.mem_cons_self hx)]
      exact ih entries

omit [LawfulBEq κ] in
/-- Nothing is read from a scan one of whose elements cannot be read. -/
theorem exists_read_of_foldlM (h : xs.foldlM (tryInsert read check) entries = .ok result) :
    ∀ x ∈ xs, ∃ found, read x = .ok found := by
  induction xs generalizing entries with
  | nil => exact fun x hx => absurd hx List.not_mem_nil
  | cons x xs ih =>
    rw [List.foldlM_cons] at h
    obtain ⟨next, hx, hxs⟩ := Fallible.bind_eq_ok.mp h
    intro y hy
    obtain rfl | hy := List.mem_cons.mp hy
    · obtain ⟨found, hfound, -⟩ := Fallible.bind_eq_ok.mp hx
      exact ⟨found, hfound⟩
    · exact ih hxs y hy

theorem foldlM_tryInsert (hread : ∀ x ∈ xs, read x = .ok (entry x)) :
    xs.foldlM (tryInsert read check) entries = .ok result ↔
      (∀ key, entries.lookup key = none → ∀ x, xs.find? (fun x => (entry x).map Prod.fst == some key) = some x →
        check x = .ok ()) ∧
      xs.foldl (fun entries x => (entry x).elim entries (insertNew entries)) entries = result := by
  induction xs generalizing entries with
  | nil =>
    rw [List.foldlM_nil, List.foldl_nil]
    refine ⟨fun h => ⟨fun _ _ _ hfound => ?_, Except.ok.inj h⟩, fun h => congrArg _ h.2⟩
    simp at hfound
  | cons x xs ih =>
    have hx := hread x List.mem_cons_self
    replace ih := fun entries => @ih entries fun y hy => hread y (List.mem_cons_of_mem x hy)
    rw [List.foldlM_cons, List.foldl_cons]
    simp only [List.find?_cons]
    cases hentry : entry x with
    | none =>
      rw [hentry] at hx
      rw [tryInsert_none hx]
      exact ih entries
    | some e =>
      rw [hentry] at hx
      by_cases hold : (entries.lookup e.1).isSome
      · -- the element is passed over, and no key without an entry is its own
        rw [tryInsert_old hx hold, Option.elim_some, insertNew, if_pos hold]
        refine (ih entries).trans (and_congr_left fun _ => forall₂_congr fun key hkey => ?_)
        have hne : ((some e).map Prod.fst == some key) = false := by
          rw [beq_eq_false_iff_ne]
          rintro ⟨⟩
          rw [hkey] at hold
          cases hold
        rw [hne]
      · replace hold : entries.lookup e.1 = none := Option.not_isSome_iff_eq_none.mp hold
        have hnone : ∀ key, (entries ++ [e]).lookup key = none ↔ entries.lookup key = none ∧ key ≠ e.1 := by
          intro key
          rw [List.lookup_append, Option.or_eq_none_iff]
          simp
        rw [tryInsert_new hx hold, Option.elim_some, insertNew, hold]
        cases hcheck : check x with
        | error error =>
          refine iff_of_false (fun h => by cases h) fun h => ?_
          have := h.1 e.1 hold x (by simp)
          rw [hcheck] at this
          cases this
        | ok _ =>
          refine (ih (entries ++ [e])).trans (and_congr_left fun _ => forall_congr' fun key => ?_)
          rw [hnone]
          by_cases hkey : e.1 = key
          · subst hkey
            simp [hcheck]
          · have hne : ((some e).map Prod.fst == some key) = false := by simpa using hkey
            rw [hne]
            simp [Ne.symm hkey]

/-- Where every element can be read, the scan succeeds when it may enter the first element of each key. -/
theorem tryScan_eq_ok (hread : ∀ x ∈ xs, read x = .ok (entry x)) :
    tryScan read check xs = .ok result ↔
      (∀ key x, xs.find? (fun x => (entry x).map Prod.fst == some key) = some x → check x = .ok ()) ∧
        scan entry xs = result := by
  refine (foldlM_tryInsert hread).trans (and_congr_left fun _ => forall_congr' fun key => ?_)
  simp

end TryScan

/-! ## The first element of each key -/

section KeepFirst

variable {ξ : Type} [DecidableEq ξ] (key : α → ξ)

/-- `if key(x) in seen: continue; seen.add(key(x)); result.append(x)` -/
def keepNew (result : List α) (x : α) : List α :=
  if key x ∈ result.map key then result else result ++ [x]

def keepFirst (xs : List α) : List α := xs.foldl (keepNew key) []

variable {key}

theorem keepFirst_concat (xs : List α) (x : α) :
    keepFirst key (xs ++ [x]) = keepNew key (keepFirst key xs) x := by
  rw [keepFirst, List.foldl_append]
  rfl

theorem mem_of_mem_keepFirst {xs : List α} {x : α} (h : x ∈ keepFirst key xs) : x ∈ xs := by
  induction xs using List.reverseRecOn with
  | nil => exact h
  | append_singleton xs last ih =>
    rw [keepFirst_concat, keepNew] at h
    split at h
    · exact List.mem_append_left _ (ih h)
    · rcases List.mem_append.mp h with h | h
      · exact List.mem_append_left _ (ih h)
      · exact List.mem_append_right _ h

/-- No key is lost. -/
theorem mem_map_keepFirst {xs : List α} {k : ξ} :
    k ∈ (keepFirst key xs).map key ↔ k ∈ xs.map key := by
  induction xs using List.reverseRecOn with
  | nil => rfl
  | append_singleton xs last ih =>
    rw [keepFirst_concat, keepNew, List.map_append, List.mem_append, ← ih]
    split
    · rename_i hseen
      constructor
      · exact .inl
      · rintro (h | h)
        · exact h
        · rw [List.mem_singleton.mp h]
          exact hseen
    · rw [List.map_append, List.mem_append]

theorem find?_keepFirst (xs : List α) (k : ξ) :
    (keepFirst key xs).find? (key · = k) = xs.find? (key · = k) := by
  induction xs using List.reverseRecOn with
  | nil => rfl
  | append_singleton xs last ih =>
    rw [keepFirst_concat, keepNew, List.find?_append, ← ih]
    split
    · rename_i hseen
      by_cases hk : key last = k
      · -- an element with the key was kept before
        obtain ⟨x, hx, hkey⟩ := List.mem_map.mp hseen
        have hfound : ((keepFirst key xs).find? (key · = k)).isSome :=
          List.find?_isSome.mpr ⟨x, hx, decide_eq_true (hkey.trans hk)⟩
        rw [Option.or_of_isSome hfound]
      · rw [List.find?_singleton, if_neg (by simpa using hk), Option.or_none]
    · exact List.find?_append

theorem find?_of_unique {xs : List α} {x : α} (hx : x ∈ xs) (h : ∀ y ∈ xs, key y = key x → y = x) :
    xs.find? (key · = key x) = some x := by
  have hfound : (xs.find? (key · = key x)).isSome := List.find?_isSome.mpr ⟨x, hx, decide_eq_true rfl⟩
  obtain ⟨y, hy⟩ := Option.isSome_iff_exists.mp hfound
  have hkey : decide (key y = key x) = true := List.find?_some (p := (key · = key x)) hy
  rw [hy, h y (List.mem_of_find?_eq_some hy) (of_decide_eq_true hkey)]

/-- What is kept is what the list has first under the key. -/
theorem mem_keepFirst {xs : List α} {x : α} : x ∈ keepFirst key xs ↔ xs.find? (key · = key x) = some x := by
  rw [← find?_keepFirst]
  constructor
  · induction xs using List.reverseRecOn with
    | nil => exact nofun
    | append_singleton xs last ih =>
      rw [keepFirst_concat, keepNew]
      split
      · exact ih
      · rename_i hnew
        intro hx
        rw [List.find?_append]
        obtain hx | hx := List.mem_append.mp hx
        · rw [ih hx, Option.some_or]
        · obtain rfl := List.mem_singleton.mp hx
          have hnone : (keepFirst key xs).find? (key · = key x) = none :=
            List.find?_eq_none.mpr fun y hy heq => hnew (List.mem_map.mpr ⟨y, hy, of_decide_eq_true heq⟩)
          rw [hnone, Option.none_or, List.find?_singleton, if_pos (decide_eq_true rfl)]
  · exact List.mem_of_find?_eq_some

/-- One element is kept of each key. -/
theorem eq_of_mem_keepFirst {xs : List α} {x y : α} (hx : x ∈ keepFirst key xs) (hy : y ∈ keepFirst key xs)
    (h : key x = key y) : x = y := by
  rw [mem_keepFirst] at hx hy
  rw [h, hy] at hx
  exact (Option.some.inj hx).symm

theorem keepFirst_eq_nil {xs : List α} : keepFirst key xs = [] ↔ xs = [] := by
  constructor
  · intro h
    rw [List.eq_nil_iff_forall_not_mem]
    intro x hx
    have hkey : key x ∈ (keepFirst key xs).map key := mem_map_keepFirst.mpr (List.mem_map_of_mem hx)
    rw [h] at hkey
    cases hkey
  · rintro rfl
    rfl

theorem keepFirst_keepFirst (xs : List α) : keepFirst key (keepFirst key xs) = keepFirst key xs := by
  induction xs using List.reverseRecOn with
  | nil => rfl
  | append_singleton xs last ih =>
    by_cases hseen : key last ∈ (keepFirst key xs).map key
    · rw [keepFirst_concat, keepNew, if_pos hseen, ih]
    · rw [keepFirst_concat, keepNew, if_neg hseen, keepFirst_concat, ih, keepNew, if_neg hseen]

/-- A filter that only looks at the key can be applied before. -/
theorem filter_keepFirst {p : α → Bool} (hp : ∀ x y, key x = key y → p x = p y) (xs : List α) :
    (keepFirst key xs).filter p = keepFirst key (xs.filter p) := by
  induction xs using List.reverseRecOn with
  | nil => rfl
  | append_singleton xs last ih =>
    cases hlast : p last with
    | false =>
      have hkept : (keepNew key (keepFirst key xs) last).filter p = (keepFirst key xs).filter p := by
        rw [keepNew]
        split
        · rfl
        · rw [List.filter_append, List.filter_singleton, hlast, cond_false, List.append_nil]
      rw [keepFirst_concat, hkept, ih, List.filter_append, List.filter_singleton, hlast, cond_false,
        List.append_nil]
    | true =>
      have hseen : key last ∈ (keepFirst key xs).map key ↔
          key last ∈ (keepFirst key (xs.filter p)).map key := by
        rw [mem_map_keepFirst, mem_map_keepFirst]
        constructor
        · intro h
          obtain ⟨x, hx, heq⟩ := List.mem_map.mp h
          exact List.mem_map.mpr ⟨x, List.mem_filter.mpr ⟨hx, (hp x last heq).trans hlast⟩, heq⟩
        · intro h
          obtain ⟨x, hx, heq⟩ := List.mem_map.mp h
          exact List.mem_map.mpr ⟨x, (List.mem_filter.mp hx).1, heq⟩
      rw [keepFirst_concat, List.filter_append, List.filter_singleton, hlast, cond_true, keepFirst_concat,
        keepNew, keepNew]
      by_cases h : key last ∈ (keepFirst key xs).map key
      · rw [if_pos h, if_pos (hseen.mp h), ih]
      · rw [if_neg h, if_neg (fun hkept => h (hseen.mpr hkept)), List.filter_append, List.filter_singleton,
          hlast, cond_true, ih]

/-! ## Groups of which some elements are chosen -/

/-- The elements are from the group, and no key of it is lost. -/
structure Chosen (key : α → ξ) (chosen : List α) (group : α → Prop) : Prop where
  mem : ∀ x ∈ chosen, group x
  keys : ∀ x, group x → ∃ y ∈ chosen, key y = key x

/-- The first group that has the key has one element with it. -/
def FirstGroupAgrees (key : α → ξ) (groups : List (α → Prop)) (k : ξ) : Prop :=
  ∀ before group after, groups = before ++ group :: after → (∀ g ∈ before, ∀ x, g x → key x ≠ k) →
    ∀ x y, group x → group y → key x = k → key y = k → x = y

theorem Chosen.find?_eq_none {chosen : List α} {group : α → Prop} {k : ξ} (h : Chosen key chosen group)
    (hnone : ∀ x, group x → key x ≠ k) : chosen.find? (key · = k) = none :=
  List.find?_eq_none.mpr fun x hx hkey => hnone x (h.mem x hx) (of_decide_eq_true hkey)

theorem Chosen.exists_find? {chosen : List α} {group : α → Prop} {x : α} (h : Chosen key chosen group)
    (hx : group x) : ∃ y, group y ∧ key y = key x ∧ chosen.find? (key · = key x) = some y := by
  obtain ⟨y, hy, hkey⟩ := h.keys x hx
  have hfound : (chosen.find? (key · = key x)).isSome := List.find?_isSome.mpr ⟨y, hy, decide_eq_true hkey⟩
  obtain ⟨found, hfound⟩ := Option.isSome_iff_exists.mp hfound
  have hsame : decide (key found = key x) = true := List.find?_some (p := (key · = key x)) hfound
  exact ⟨found, h.mem found (List.mem_of_find?_eq_some hfound), of_decide_eq_true hsame, hfound⟩

/-- The first list in which there is something to find decides. -/
theorem find?_flatten_of_first {ρ : Type} {R : ρ → List α → Prop} {before after : List ρ} {r : ρ}
    {lists : List (List α)} {p : α → Bool} {x : α} (h : List.Forall₂ R (before ++ r :: after) lists)
    (hnone : ∀ s ∈ before, ∀ list, R s list → list.find? p = none)
    (hfound : ∀ list, R r list → list.find? p = some x) : lists.flatten.find? p = some x := by
  induction before generalizing lists with
  | nil =>
    obtain ⟨list, rest, hlist, -, rfl⟩ := List.forall₂_cons_left_iff.mp h
    rw [List.flatten_cons, List.find?_append, hfound list hlist, Option.some_or]
  | cons s before ih =>
    obtain ⟨list, rest, hlist, hrest, rfl⟩ := List.forall₂_cons_left_iff.mp h
    obtain ⟨hnone, hnoneRest⟩ := List.forall_mem_cons.mp hnone
    rw [List.flatten_cons, List.find?_append, hnone list hlist, Option.none_or]
    exact ih hrest hnoneRest

/-- Where the first group agrees, it does not matter which elements are chosen. -/
theorem find?_chosen {groups : List (α → Prop)} {chosen chosen' : List (List α)} {k : ξ}
    (h : List.Forall₂ (Chosen key) chosen groups) (h' : List.Forall₂ (Chosen key) chosen' groups)
    (hagrees : FirstGroupAgrees key groups k) :
    chosen.flatten.find? (key · = k) = chosen'.flatten.find? (key · = k) := by
  induction h generalizing chosen' with
  | nil =>
    cases h'
    rfl
  | @cons first group rest groups hfirst _ ih =>
    cases h' with
    | @cons first' _ rest' _ hfirst' hrest' =>
      rw [List.flatten_cons, List.flatten_cons, List.find?_append, List.find?_append]
      by_cases hk : ∃ x, group x ∧ key x = k
      · obtain ⟨x, hx, rfl⟩ := hk
        obtain ⟨y, hy, hkey, hfound⟩ := hfirst.exists_find? hx
        obtain ⟨y', hy', hkey', hfound'⟩ := hfirst'.exists_find? hx
        obtain rfl : y = y' := hagrees [] group groups rfl nofun y y' hy hy' hkey hkey'
        rw [hfound, hfound', Option.some_or, Option.some_or]
      · have hnone : ∀ x, group x → key x ≠ k := fun x hx hkey => hk ⟨x, hx, hkey⟩
        rw [hfirst.find?_eq_none hnone, hfirst'.find?_eq_none hnone, Option.none_or, Option.none_or]
        refine ih hrest' fun before next after hsplit hbefore => ?_
        refine hagrees (group :: before) next after (congrArg (group :: ·) hsplit) fun g hg => ?_
        obtain rfl | hg := List.mem_cons.mp hg
        · exact hnone
        · exact hbefore g hg

end KeepFirst

/-! ## The best element of a list

A list is sorted and the first element with a property is taken. Among equally good ones this is the
first of the list, since the sort is stable. -/

section Sorted

variable (r : α → α → Prop) [DecidableRel r]

/-- The better of two candidates; the left one when neither is. -/
def better : Option α → Option α → Option α
  | none, right => right
  | some left, none => some left
  | some left, some right => if r left right then some left else some right

theorem better_none (x : Option α) : better r x none = x := by
  cases x <;> rfl

theorem exists_find?_insertionSort {p : α → Bool} {x : α} {xs : List α} (hx : x ∈ xs)
    (hp : p x = true) : ∃ best, (xs.insertionSort r).find? p = some best := by
  rw [← Option.isSome_iff_exists, List.find?_isSome]
  exact ⟨x, (List.mem_insertionSort r).mpr hx, hp⟩

variable [IsTrans α r]

theorem find?_orderedInsert (p : α → Bool) (x : α) {xs : List α} (hsorted : xs.Pairwise r) :
    (xs.orderedInsert r x).find? p = better r ([x].find? p) (xs.find? p) := by
  induction xs with
  | nil => cases hx : p x <;> simp [hx, better]
  | cons y xs ih =>
    obtain ⟨hfirst, hrest⟩ := List.pairwise_cons.mp hsorted
    rw [List.orderedInsert_cons]
    split_ifs with hxy
    · cases hx : p x with
      | false => simp [hx, better]
      | true =>
        cases hfound : (y :: xs).find? p with
        | none => simp [hx, better]
        | some z =>
          have hxz : r x z := by
            obtain rfl | hz := List.mem_cons.mp (List.mem_of_find?_eq_some hfound)
            · exact hxy
            · exact Trans.trans hxy (hfirst z hz)
          simp [hx, better, hxz]
    · cases hy : p y with
      | true => cases hx : p x <;> simp [hx, hy, better, hxy]
      | false => simpa [hy] using ih hrest

/-- The sort is stable: what is left of it when some elements are left out is the sort of the others. -/
theorem filter_orderedInsert (p : α → Bool) (x : α) {xs : List α} (hsorted : xs.Pairwise r) :
    (xs.orderedInsert r x).filter p = if p x then (xs.filter p).orderedInsert r x else xs.filter p := by
  induction xs with
  | nil => cases hx : p x <;> simp [hx]
  | cons y xs ih =>
    obtain ⟨hfirst, hrest⟩ := List.pairwise_cons.mp hsorted
    rw [List.orderedInsert_cons]
    by_cases hxy : r x y
    · rw [if_pos hxy, List.filter_cons]
      cases hx : p x with
      | false => rfl
      | true =>
        -- `x` goes before `y`, and before everything behind it
        have hall : ∀ z ∈ (y :: xs).filter p, r x z := by
          intro z hz
          obtain rfl | hz := List.mem_cons.mp (List.mem_of_mem_filter hz)
          · exact hxy
          · exact Trans.trans hxy (hfirst z hz)
        cases hrests : (y :: xs).filter p with
        | nil => rfl
        | cons z zs =>
          rw [hrests] at hall
          exact (List.orderedInsert_cons_of_le r zs (hall z List.mem_cons_self)).symm
    · rw [if_neg hxy, List.filter_cons, List.filter_cons, ih hrest]
      cases hx : p x <;> cases hy : p y <;> simp [hxy]

/-- A candidate that is no better than `new` can take its place where `new` does not win. -/
theorem better_of_not_wins {new : α} {before old after : Option α}
    (hold : ∀ x, old = some x → r new x)
    (h : ¬ ((∀ x, before = some x → ¬ r x new) ∧ ∀ x, after = some x → r new x)) :
    better r before (better r (some new) after) = better r before (better r old after) := by
  by_cases hafter : ∀ x, after = some x → r new x
  · -- then `new` loses to a candidate before it, and so does what takes its place
    have hbefore : ¬ ∀ x, before = some x → ¬ r x new := fun hbefore => h ⟨hbefore, hafter⟩
    push Not at hbefore
    obtain ⟨b, rfl, hb⟩ := hbefore
    have hloses : ∀ {x}, (∀ y, x = some y → r b y) → better r (some b) x = some b := by
      intro x hx
      cases x with
      | none => rfl
      | some y => simp [better, hx y rfl]
    have hreplaced : ∀ y, better r old after = some y → r new y := by
      intro y hy
      cases old with
      | none => exact hafter y (by simpa [better] using hy)
      | some o =>
        cases after with
        | none => exact hold y (by simpa [better] using hy)
        | some a =>
          simp only [better] at hy
          split_ifs at hy
          · exact hold y hy
          · exact hafter y hy
    rw [hloses fun y hy => ?_, hloses fun y hy => Trans.trans hb (hreplaced y hy)]
    cases after with
    | none => exact Option.some.inj hy ▸ hb
    | some a =>
      rw [better, if_pos (hafter a rfl)] at hy
      exact Option.some.inj hy ▸ hb
  · push Not at hafter
    obtain ⟨a, rfl, ha⟩ := hafter
    have hwins : ∀ {x}, (∀ y, x = some y → r new y) → better r x (some a) = some a := by
      intro x hx
      cases x with
      | none => rfl
      | some y =>
        rw [better, if_neg]
        intro hya
        exact ha (Trans.trans (hx y rfl) hya)
    rw [hwins hold, better, if_neg ha]

variable [Std.Total r]

theorem find?_insertionSort_cons (p : α → Bool) (x : α) (xs : List α) :
    ((x :: xs).insertionSort r).find? p =
      better r ([x].find? p) ((xs.insertionSort r).find? p) := by
  rw [List.insertionSort_cons, find?_orderedInsert r p x (List.pairwise_insertionSort r xs)]

theorem filter_insertionSort (p : α → Bool) (xs : List α) :
    (xs.insertionSort r).filter p = (xs.filter p).insertionSort r := by
  induction xs with
  | nil => rfl
  | cons x xs ih =>
    rw [List.insertionSort_cons, filter_orderedInsert r p x (List.pairwise_insertionSort r xs), ih,
      List.filter_cons]
    cases p x <;> rfl

theorem better_assoc (x y z : Option α) : better r (better r x y) z = better r x (better r y z) := by
  rcases x with - | x
  · rfl
  rcases y with - | y
  · rw [better_none, better]
  rcases z with - | z
  · rw [better_none, better_none]
  by_cases hxy : r x y <;> by_cases hyz : r y z
  · have hxz : r x z := Trans.trans hxy hyz
    simp [better, hxy, hyz, hxz]
  · simp [better, hxy, hyz]
  · simp [better, hxy, hyz]
  · have hzy : r z y := (Std.Total.total y z).resolve_left hyz
    have hxz : ¬ r x z := fun hxz => hxy (Trans.trans hxz hzy)
    simp [better, hxy, hyz, hxz]

theorem find?_insertionSort_append (p : α → Bool) (xs ys : List α) :
    ((xs ++ ys).insertionSort r).find? p =
      better r ((xs.insertionSort r).find? p) ((ys.insertionSort r).find? p) := by
  induction xs with
  | nil => rfl
  | cons x xs ih =>
    rw [List.cons_append, find?_insertionSort_cons, ih, find?_insertionSort_cons, better_assoc]

/-- What is found in a sorted list is at least as good as every candidate. -/
theorem rel_of_find?_insertionSort {p : α → Bool} {x y : α} {xs : List α}
    (hfound : (xs.insertionSort r).find? p = some x) (hy : y ∈ xs) (hp : p y = true) : r x y := by
  have hrefl : r x x := (Std.Total.total x x).elim id id
  obtain ⟨-, before, after, hsplit, hbefore⟩ := List.find?_eq_some_iff_append.mp hfound
  have hsorted := List.pairwise_insertionSort r xs
  rw [hsplit] at hsorted
  have hmem : y ∈ before ++ x :: after := hsplit ▸ (List.mem_insertionSort r).mpr hy
  obtain hmem | hmem := List.mem_append.mp hmem
  · have hnot := hbefore y hmem
    rw [hp] at hnot
    cases hnot
  · obtain rfl | hmem := List.mem_cons.mp hmem
    · exact hrefl
    · exact (List.pairwise_cons.mp (List.pairwise_append.mp hsorted).2.1).1 y hmem

/-- An element that takes the place of one that is no better, or comes in anew, is the one that is
found, or else nothing changes. -/
theorem find?_insertionSort_replaced {p : α → Bool} {new : α} {old : Option α} {before after : List α}
    (hnew : p new = true) (hold : ∀ x, old = some x → r new x) :
    (((before ++ new :: after).insertionSort r).find? p = some new ∧
        (∀ x ∈ before, p x = true → ¬ r x new) ∧ ∀ x ∈ after, p x = true → r new x) ∨
      (((before ++ new :: after).insertionSort r).find? p =
          ((before ++ (old.toList ++ after)).insertionSort r).find? p ∧
        ¬ ((∀ x ∈ before, p x = true → ¬ r x new) ∧ ∀ x ∈ after, p x = true → r new x)) := by
  have hbefore : (∀ x ∈ before, p x = true → ¬ r x new) ↔
      ∀ x, (before.insertionSort r).find? p = some x → ¬ r x new := by
    constructor
    · intro h x hx
      exact h x ((List.mem_insertionSort r).mp (List.mem_of_find?_eq_some hx)) (List.find?_some hx)
    · intro h x hx hp hr
      obtain ⟨best, hbest⟩ := exists_find?_insertionSort r hx hp
      exact h best hbest (Trans.trans (rel_of_find?_insertionSort r hbest hx hp) hr)
  have hafter : (∀ x ∈ after, p x = true → r new x) ↔
      ∀ x, (after.insertionSort r).find? p = some x → r new x := by
    constructor
    · intro h x hx
      exact h x ((List.mem_insertionSort r).mp (List.mem_of_find?_eq_some hx)) (List.find?_some hx)
    · intro h x hx hp
      obtain ⟨best, hbest⟩ := exists_find?_insertionSort r hx hp
      exact Trans.trans (h best hbest) (rel_of_find?_insertionSort r hbest hx hp)
  have hnewFound : [new].find? p = some new := by simp [hnew]
  rw [hbefore, hafter, find?_insertionSort_append, find?_insertionSort_cons, hnewFound]
  by_cases hwins : (∀ x, (before.insertionSort r).find? p = some x → ¬ r x new) ∧
      ∀ x, (after.insertionSort r).find? p = some x → r new x
  · refine Or.inl ⟨?_, hwins⟩
    have hright : better r (some new) ((after.insertionSort r).find? p) = some new := by
      cases hfound : (after.insertionSort r).find? p with
      | none => rfl
      | some x => rw [better, if_pos (hwins.2 x hfound)]
    rw [hright]
    cases hfound : (before.insertionSort r).find? p with
    | none => rfl
    | some x => rw [better, if_neg (hwins.1 x hfound)]
  · refine Or.inr ⟨?_, hwins⟩
    rw [find?_insertionSort_append, find?_insertionSort_append]
    refine better_of_not_wins r (fun x hx => ?_) hwins
    have hmem := (List.mem_insertionSort r).mp (List.mem_of_find?_eq_some hx)
    exact hold x (Option.mem_toList.mp hmem)

end Sorted
end FirstWins
