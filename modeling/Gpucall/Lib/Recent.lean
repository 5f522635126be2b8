import Mathlib.Data.List.Dedup
import Mathlib.Data.List.Induction
import Mathlib.Data.List.Perm.Basic
import Mathlib.Data.List.Sort
import Mathlib.Order.Basic
import Mathlib.Logic.Function.Basic

/-! Rows in groups, of which the newest `n` of each group are kept: a memory that keeps them in the order
in which they come, and a table that keeps them by their keys. A query returns rows of equal keys in an
order of its own (`Sorter`). The two keep the same rows as long as the rows of each group come in the
order of their keys (`Mirrors`), and then the memory can be loaded from the table. -/

namespace Recent

variable {α γ κ : Type}

/-- A way of sorting, which is free to order what the relation leaves open. -/
structure Sorter (r : α → α → Prop) where
  sort : List α → List α
  perm : ∀ rows, (sort rows).Perm rows
  sorted : ∀ rows, (sort rows).Pairwise r

/-- The other way round -/
def Sorter.reverse {r : α → α → Prop} (s : Sorter r) : Sorter fun a b => r b a where
  sort rows := (s.sort rows).reverse
  perm rows := (List.reverse_perm _).trans (s.perm rows)
  sorted rows := List.pairwise_reverse.mpr (s.sorted rows)

/-- Insertion sort by a key -/
def Sorter.byKey [LinearOrder κ] (key : α → κ) : Sorter fun a b => key a ≤ key b where
  sort rows := rows.insertionSort fun a b => key a ≤ key b
  perm _ := List.perm_insertionSort ..
  sorted rows :=
    have : Std.Total fun a b : α => key a ≤ key b := ⟨fun _ _ => le_total _ _⟩
    have : IsTrans α fun a b => key a ≤ key b := ⟨fun _ _ _ => le_trans⟩
    List.pairwise_insertionSort (r := fun a b : α => key a ≤ key b) rows

/-- Sorting what the rows stand for, by sorting the rows: `read` gives back what `write` made a row of. -/
def Sorter.through {β : Type} {r : α → α → Prop} {r' : β → β → Prop} (s : Sorter r) (write : β → α)
    (read : α → β) (hread : Function.LeftInverse read write) (hr : ∀ a b, r (write a) (write b) → r' a b) :
    Sorter r' where
  sort items := (s.sort (items.map write)).map read
  perm items := by
    have hperm := (s.perm (items.map write)).map read
    rwa [List.map_map, hread.comp_eq_id, List.map_id] at hperm
  sorted items := by
    refine List.pairwise_map.mpr ((s.sorted (items.map write)).imp_of_mem fun {x y} hx hy hxy => ?_)
    obtain ⟨a, -, rfl⟩ := List.mem_map.mp ((s.perm _).mem_iff.mp hx)
    obtain ⟨b, -, rfl⟩ := List.mem_map.mp ((s.perm _).mem_iff.mp hy)
    rw [hread a, hread b]
    exact hr a b hxy

theorem Sorter.map_sort_through {β : Type} {r : α → α → Prop} {r' : β → β → Prop} (s : Sorter r)
    {write : β → α} {read : α → β} (hread : Function.LeftInverse read write)
    (hr : ∀ a b, r (write a) (write b) → r' a b) (items : List β) :
    ((s.through write read hread hr).sort items).map write = s.sort (items.map write) := by
  have hid : (s.sort (items.map write)).map (write ∘ read) = (s.sort (items.map write)).map id := by
    refine List.map_congr_left fun x hx => ?_
    obtain ⟨a, -, rfl⟩ := List.mem_map.mp ((s.perm _).mem_iff.mp hx)
    exact congrArg write (hread a)
  rw [through, List.map_map, hid, List.map_id]

/-- The last `n` rows -/
def trim (n : ℕ) (rows : List α) : List α := rows.drop (rows.length - n)

theorem trim_eq_self {n : ℕ} {rows : List α} (h : rows.length ≤ n) : trim n rows = rows := by
  rw [trim, Nat.sub_eq_zero_of_le h, List.drop_zero]

theorem length_trim_le (n : ℕ) (rows : List α) : (trim n rows).length ≤ n := by
  rw [trim, List.length_drop]
  omega

theorem trim_trim_append (n : ℕ) (rows : List α) (row : α) :
    trim n (trim n rows ++ [row]) = trim n (rows ++ [row]) := by
  by_cases h : rows.length ≤ n
  · rw [trim_eq_self h]
  · have hlength : (trim n rows).length = n := by
      rw [trim, List.length_drop]
      omega
    have hone : (trim n rows ++ [row]).length - n = 1 := by
      rw [List.length_append, hlength, List.length_singleton]
      omega
    have hall : (rows ++ [row]).length - n = rows.length - n + 1 := by
      rw [List.length_append, List.length_singleton]
      omega
    have hdrop : (rows ++ [row]).drop (rows.length - n) = trim n rows ++ [row] :=
      List.drop_append_of_le_length (Nat.sub_le ..)
    calc trim n (trim n rows ++ [row])
        _ = (trim n rows ++ [row]).drop 1 := by rw [trim, hone]
        _ = ((rows ++ [row]).drop (rows.length - n)).drop 1 := by rw [hdrop]
        _ = trim n (rows ++ [row]) := by rw [List.drop_drop, trim, hall]

/-! ## The order of the rows -/

section

variable [LinearOrder κ] (key : α → κ)

/-- The row comes after the other one, or is the same. -/
def Later (a b : α) : Prop := key a < key b ∨ a = b

/-- Rows in the order of their keys, where only equal rows have equal keys. -/
def Chronological (rows : List α) : Prop := rows.Pairwise (Later key)

variable {key} {rows rows' : List α}

theorem Later.le {a b : α} (h : Later key a b) : key a ≤ key b := by
  obtain h | rfl := h
  · exact h.le
  · exact le_rfl

theorem Chronological.eq_of_key_eq (h : Chronological key rows) {a b : α} (ha : a ∈ rows)
    (hb : b ∈ rows) (hkey : key a = key b) : a = b := by
  have hsame : rows.Pairwise fun a b => key a = key b → a = b := by
    refine h.imp fun hlater hkey => ?_
    obtain hlt | rfl := hlater
    · exact absurd hkey hlt.ne
    · rfl
  exact hsame.forall_of_forall_of_flip (fun _ _ _ => rfl)
    (hsame.imp fun hflip hkey => (hflip hkey.symm).symm) ha hb hkey

/-- There is one way of sorting the rows of a chronicle. -/
theorem Chronological.eq_of_sorted (h : Chronological key rows) (hperm : rows'.Perm rows)
    (hsorted : rows'.Pairwise fun a b => key a ≤ key b) : rows' = rows :=
  hperm.eq_of_pairwise
    (fun _ _ ha hb hab hba => h.eq_of_key_eq (hperm.mem_iff.mp ha) hb (le_antisymm hab hba))
    hsorted (h.imp Later.le)

theorem Chronological.eq_reverse_of_sorted (h : Chronological key rows) (hperm : rows'.Perm rows)
    (hsorted : rows'.Pairwise fun a b => key b ≤ key a) : rows' = rows.reverse := by
  have hreverse : rows'.reverse = rows :=
    h.eq_of_sorted ((List.reverse_perm _).trans hperm) (List.pairwise_reverse.mpr hsorted)
  rw [← hreverse, List.reverse_reverse]

theorem Chronological.trim (h : Chronological key rows) (n : ℕ) :
    Chronological key (trim n rows) := h.sublist (List.drop_sublist ..)

theorem Chronological.append {row : α} (h : Chronological key rows)
    (hlater : ∀ a ∈ rows, Later key a row) : Chronological key (rows ++ [row]) :=
  List.pairwise_append.mpr ⟨h, List.pairwise_singleton .., fun a ha _ hb =>
    List.mem_singleton.mp hb ▸ hlater a ha⟩

end

/-! ## The memory and the table -/

section

variable [DecidableEq γ] (group : α → γ)

/-- A row is appended to its group, and the group is cut. -/
def remember (n : ℕ) (memory : γ → List α) (row : α) : γ → List α :=
  Function.update memory (group row) (trim n (memory (group row) ++ [row]))

variable [LinearOrder κ] {key : α → κ} (newest : Sorter fun a b : α => key b ≤ key a)
  (oldest : Sorter fun a b : α => key a ≤ key b)

/-- The rows of a group that are not among its newest `n` are deleted. -/
def deleteOld (n : ℕ) (g : γ) (table : List α) : List α :=
  table.filter (group · ≠ g) ++ (newest.sort (table.filter (group · = g))).take n

/-- The newest `n` rows of each group -/
def selectNewest (n : ℕ) (table : List α) : List α :=
  (table.map group).dedup.flatMap fun g => (newest.sort (table.filter (group · = g))).take n

/-- The memory that is filled from the table, the oldest rows first. -/
def load (n : ℕ) (table : List α) : γ → List α :=
  (oldest.sort (selectNewest group newest n table)).foldl (remember group n) fun _ => []

/-- The table has the rows of the memory, which are few enough and in order. -/
structure Mirrors (key : α → κ) (n : ℕ) (table : List α) (memory : γ → List α) : Prop where
  rows : ∀ g, (table.filter (group · = g)).Perm (memory g)
  chronological : ∀ g, Chronological key (memory g)
  bounded : ∀ g, (memory g).length ≤ n

variable {group newest oldest} {n : ℕ} {table : List α} {memory : γ → List α}

theorem Mirrors.empty : Mirrors group key n [] fun _ => [] where
  rows _ := .refl _
  chronological _ := .nil
  bounded _ := Nat.zero_le _

theorem filter_deleteOld_of_ne {g other : γ} (h : other ≠ g) :
    (deleteOld group newest n g table).filter (group · = other) =
      table.filter (group · = other) := by
  have hgone : ((newest.sort (table.filter (group · = g))).take n).filter (group · = other) = [] := by
    refine List.filter_eq_nil_iff.mpr fun row hrow hother => h ?_
    have hmem := (newest.perm _).mem_iff.mp (List.mem_of_mem_take hrow)
    rw [← of_decide_eq_true hother, ← of_decide_eq_true (List.mem_filter.mp hmem).2]
  rw [deleteOld, List.filter_append, hgone, List.append_nil, List.filter_filter]
  refine List.filter_congr fun row _ => ?_
  by_cases hrow : group row = other
  · simp [hrow, h]
  · simp [hrow]

theorem filter_deleteOld_self {g : γ} :
    (deleteOld group newest n g table).filter (group · = g) =
      (newest.sort (table.filter (group · = g))).take n := by
  have hothers : (table.filter (group · ≠ g)).filter (group · = g) = [] :=
    List.filter_eq_nil_iff.mpr fun row hrow => by simpa using (List.mem_filter.mp hrow).2
  have hown : ((newest.sort (table.filter (group · = g))).take n).filter (group · = g) =
      (newest.sort (table.filter (group · = g))).take n := by
    refine List.filter_eq_self.mpr fun row hrow => ?_
    exact (List.mem_filter.mp ((newest.perm _).mem_iff.mp (List.mem_of_mem_take hrow))).2
  rw [deleteOld, List.filter_append, hothers, hown, List.nil_append]

/-- A row that comes after those of its group is kept in both, and the same rows are dropped. -/
theorem Mirrors.insert {row : α} (h : Mirrors group key n table memory)
    (hlater : ∀ a ∈ memory (group row), Later key a row) :
    Mirrors group key n (deleteOld group newest n (group row) (table ++ [row]))
      (remember group n memory row) := by
  have hchronological := (h.chronological (group row)).append hlater
  refine ⟨fun g => ?_, fun g => ?_, fun g => ?_⟩
  · by_cases hg : g = group row
    · subst hg
      have hrows : ((table ++ [row]).filter (group · = group row)).Perm
          (memory (group row) ++ [row]) := by
        rw [List.filter_append, List.filter_singleton, decide_eq_true rfl]
        exact (h.rows _).append_right _
      rw [filter_deleteOld_self, remember, Function.update_self,
        hchronological.eq_reverse_of_sorted ((newest.perm _).trans hrows) (newest.sorted _),
        List.take_reverse]
      exact List.reverse_perm _
    · rw [filter_deleteOld_of_ne hg, remember, Function.update_of_ne hg, List.filter_append]
      simpa [Ne.symm hg] using h.rows g
  · by_cases hg : g = group row
    · subst hg
      rw [remember, Function.update_self]
      exact hchronological.trim n
    · rw [remember, Function.update_of_ne hg]
      exact h.chronological g
  · by_cases hg : g = group row
    · subst hg
      rw [remember, Function.update_self]
      exact length_trim_le ..
    · rw [remember, Function.update_of_ne hg]
      exact h.bounded g

/-! ## Loading -/

theorem foldl_remember (rows : List α) (g : γ) :
    rows.foldl (remember group n) (fun _ => []) g = trim n (rows.filter (group · = g)) := by
  induction rows using List.reverseRecOn with
  | nil => simp [trim]
  | append_singleton rows row ih =>
    rw [List.foldl_append, List.foldl_cons, List.foldl_nil, remember, List.filter_append]
    by_cases hg : g = group row
    · subst hg
      rw [Function.update_self, ih, trim_trim_append]
      simp
    · rw [Function.update_of_ne hg, ih]
      simp [Ne.symm hg]

/-- Rows that are taken group by group -/
theorem flatMap_groups_perm {groups : List γ} (hnodup : groups.Nodup) (rows : List α) :
    (groups.flatMap fun g => rows.filter (group · = g)).Perm (rows.filter (group · ∈ groups)) := by
  induction groups with
  | nil => simp
  | cons g groups ih =>
    obtain ⟨hg, hnodup⟩ := List.nodup_cons.mp hnodup
    have hfirst : (rows.filter (group · ∈ g :: groups)).filter (group · = g) =
        rows.filter (group · = g) := by
      rw [List.filter_filter]
      refine List.filter_congr fun row _ => ?_
      by_cases hrow : group row = g <;> simp [hrow]
    have hrest : ((rows.filter (group · ∈ g :: groups)).filter fun row => !decide (group row = g)) =
        rows.filter (group · ∈ groups) := by
      rw [List.filter_filter]
      refine List.filter_congr fun row _ => ?_
      by_cases hrow : group row = g
      · simp [hrow, hg]
      · simp [hrow]
    rw [List.flatMap_cons, ← hfirst]
    refine .trans ?_ (List.filter_append_perm (fun row => decide (group row = g)) _)
    rw [hrest]
    exact (ih hnodup).append_left _

theorem Mirrors.selectNewest_perm (h : Mirrors group key n table memory) :
    (selectNewest group newest n table).Perm table := by
  have hall : (fun g => (newest.sort (table.filter (group · = g))).take n) =
      fun g => newest.sort (table.filter (group · = g)) := by
    funext g
    refine List.take_of_length_le ?_
    rw [(newest.perm _).length_eq, (h.rows g).length_eq]
    exact h.bounded g
  have hgroups : ((table.map group).dedup.flatMap fun g => table.filter (group · = g)).Perm
      (table.filter fun row => decide (group row ∈ (table.map group).dedup)) :=
    flatMap_groups_perm (List.nodup_dedup _) table
  have hmem : table.filter (fun row => decide (group row ∈ (table.map group).dedup)) = table :=
    List.filter_eq_self.mpr fun row hrow =>
      decide_eq_true (List.mem_dedup.mpr (List.mem_map_of_mem hrow))
  rw [hmem] at hgroups
  rw [selectNewest, hall]
  exact (List.Perm.flatMap_left _ fun g _ => newest.perm _).trans hgroups

theorem Mirrors.load (h : Mirrors group key n table memory) :
    load group newest oldest n table = memory := by
  funext g
  have hperm : ((oldest.sort (selectNewest group newest n table)).filter (group · = g)).Perm
      (memory g) :=
    (((oldest.perm _).trans h.selectNewest_perm).filter _).trans (h.rows g)
  rw [Recent.load, foldl_remember,
    (h.chronological g).eq_of_sorted hperm ((oldest.sorted _).filter _),
    trim_eq_self (h.bounded g)]

/-! ## Rows that stand for something -/

section

variable {β κ' : Type} [LinearOrder κ'] {key' : β → κ'} {write : β → α} {items : List β}
  {newest' : Sorter fun a b : β => key' b ≤ key' a} {oldest' : Sorter fun a b : β => key' a ≤ key' b}

theorem deleteOld_map (hnewest : ∀ items, (newest'.sort items).map write = newest.sort (items.map write))
    (g : γ) : deleteOld group newest n g (items.map write) =
      (deleteOld (group ∘ write) newest' n g items).map write := by
  rw [deleteOld, deleteOld, List.map_append, List.filter_map, List.filter_map, ← hnewest, List.map_take]
  rfl

theorem selectNewest_map
    (hnewest : ∀ items, (newest'.sort items).map write = newest.sort (items.map write)) :
    selectNewest group newest n (items.map write) =
      (selectNewest (group ∘ write) newest' n items).map write := by
  rw [selectNewest, selectNewest, List.map_map, List.map_flatMap]
  refine List.flatMap_congr fun g _ => ?_
  rw [List.filter_map, ← hnewest, List.map_take]
  rfl

theorem load_map (hnewest : ∀ items, (newest'.sort items).map write = newest.sort (items.map write))
    (holdest : ∀ items, (oldest'.sort items).map write = oldest.sort (items.map write)) (g : γ) :
    Recent.load group newest oldest n (items.map write) g =
      (Recent.load (group ∘ write) newest' oldest' n items g).map write := by
  rw [Recent.load, Recent.load, foldl_remember, foldl_remember, selectNewest_map hnewest, ← holdest,
    List.filter_map, trim, trim, List.length_map, List.map_drop]
  rfl

end

end

end Recent
