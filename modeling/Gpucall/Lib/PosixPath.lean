import Mathlib.Data.List.Basic

/-! Absolute paths as lists of names. A path that is written in a text is split at the slashes and followed
from a folder, where `..` leads one folder up; no file is looked at. -/

namespace PosixPath

/-- `s.split("/")` -/
def split (s : String) : List String := (s.toList.splitOn '/').map String.ofList

/-- The folder below or above a folder that a name leads to. -/
def enter (dir : List String) (name : String) : List String :=
  if name = "" ∨ name = "." then dir
  else if name = ".." then dir.dropLast
  else dir ++ [name]

def resolve (dir : List String) (names : List String) : List String := names.foldl enter dir

/-- `dir / s` -/
def join (dir : List String) (s : String) : List String :=
  resolve (if s.toList.head? = some '/' then [] else dir) (split s)

variable {name : String} {dir names : List String}

theorem slash_notMem_splitOn {chars part : List Char} (h : part ∈ chars.splitOn '/') : '/' ∉ part := by
  induction chars generalizing part with
  | nil =>
    rw [List.splitOn_nil, List.mem_singleton] at h
    simp [h]
  | cons c chars ih =>
    rw [List.splitOn_cons_eq_if_modifyHead] at h
    split at h
    · obtain rfl | h := List.mem_cons.mp h
      · simp
      · exact ih h
    · rename_i hc
      cases hparts : chars.splitOn '/' with
      | nil => simp [hparts] at h
      | cons first parts =>
        rw [hparts, List.modifyHead_cons] at h
        obtain rfl | h := List.mem_cons.mp h
        · rw [List.mem_cons, not_or]
          refine ⟨fun heq => hc (beq_iff_eq.mpr heq.symm), ih ?_⟩
          rw [hparts]
          exact List.mem_cons_self
        · refine ih ?_
          rw [hparts]
          exact List.mem_cons_of_mem _ h

theorem slash_notMem_of_mem_split {s : String} (h : name ∈ split s) : '/' ∉ name.toList := by
  obtain ⟨part, hpart, rfl⟩ := List.mem_map.mp h
  rw [String.toList_ofList]
  exact slash_notMem_splitOn hpart

theorem mem_enter {other : String} (h : name ∈ enter dir other) :
    name ∈ dir ∨ name = other ∧ name ≠ "" := by
  unfold enter at h
  split_ifs at h with hnothing hup
  · exact Or.inl h
  · exact Or.inl ((List.dropLast_subset dir) h)
  · obtain h | h := List.mem_append.mp h
    · exact Or.inl h
    · obtain rfl := List.mem_singleton.mp h
      exact Or.inr ⟨rfl, fun hempty => hnothing (Or.inl hempty)⟩

/-- Following a path takes names away and adds none but its own. -/
theorem mem_resolve (h : name ∈ resolve dir names) : name ∈ dir ∨ name ∈ names ∧ name ≠ "" := by
  induction names generalizing dir with
  | nil => exact Or.inl h
  | cons first names ih =>
    obtain h | ⟨hmem, hne⟩ := ih h
    · obtain h | ⟨rfl, hne⟩ := mem_enter h
      · exact Or.inl h
      · exact Or.inr ⟨List.mem_cons_self, hne⟩
    · exact Or.inr ⟨List.mem_cons_of_mem _ hmem, hne⟩

theorem mem_join {s : String} (h : name ∈ join dir s) :
    name ∈ dir ∨ name ≠ "" ∧ '/' ∉ name.toList := by
  obtain hdir | ⟨hmem, hne⟩ := mem_resolve h
  · split_ifs at hdir
    · cases hdir
    · exact Or.inl hdir
  · exact Or.inr ⟨hne, slash_notMem_of_mem_split hmem⟩

/-- What comes after the last slash takes the ending of a text, whatever the ending is. -/
theorem splitOn_append (chars : List Char) :
    ∃ init last, ∀ {tail : List Char}, '/' ∉ tail → (chars ++ tail).splitOn '/' = init ++ [last ++ tail] := by
  induction chars with
  | nil =>
    refine ⟨[], [], fun {tail} h => List.splitOnP_eq_singleton fun c hc => ?_⟩
    exact beq_eq_false_iff_ne.mpr fun heq => h (heq ▸ hc)
  | cons c chars ih =>
    obtain ⟨init, last, hsplit⟩ := ih
    by_cases hslash : (c == '/') = true
    · refine ⟨[] :: init, last, fun h => ?_⟩
      rw [List.cons_append, List.splitOn_cons_eq_if_modifyHead, hsplit h, if_pos hslash]
      rfl
    · cases init with
      | nil =>
        refine ⟨[], c :: last, fun h => ?_⟩
        rw [List.cons_append, List.splitOn_cons_eq_if_modifyHead, hsplit h, if_neg hslash]
        rfl
      | cons first init =>
        refine ⟨(c :: first) :: init, last, fun h => ?_⟩
        rw [List.cons_append, List.splitOn_cons_eq_if_modifyHead, hsplit h, if_neg hslash]
        rfl

/-- A path that ends in a longer ending than `..` leads to a name with that ending, and where this is does not depend
on the ending. -/
theorem join_append (dir : List String) (s : String) :
    ∃ above last, ∀ {tail : String}, '/' ∉ tail.toList → 2 < tail.length →
      join dir (s ++ tail) = above ++ [last ++ tail] := by
  obtain ⟨init, last, hsplit⟩ := splitOn_append s.toList
  refine ⟨resolve (if s.toList.head? = some '/' then [] else dir) (init.map String.ofList), String.ofList last,
    fun {tail} h hlength => ?_⟩
  have hlast : String.ofList (last ++ tail.toList) = String.ofList last ++ tail := by
    rw [← String.toList_inj, String.toList_ofList, String.toList_append, String.toList_ofList]
  have hnames : split (s ++ tail) = init.map String.ofList ++ [String.ofList last ++ tail] := by
    rw [split, String.toList_append, hsplit h, List.map_append, List.map_singleton, hlast]
  have hlong : ∀ short : String, short.length ≤ 2 → String.ofList last ++ tail ≠ short := by
    intro short hshort heq
    have := congrArg String.length heq
    rw [String.length_append] at this
    omega
  have hhead : (s ++ tail).toList.head? = some '/' ↔ s.toList.head? = some '/' := by
    rw [String.toList_append]
    cases s.toList with
    | nil =>
      rw [List.nil_append]
      exact ⟨fun hhead => absurd (List.mem_of_head? hhead) h, nofun⟩
    | cons c chars => rfl
  simp only [join, hnames, hhead]
  rw [resolve, List.foldl_append, List.foldl_cons, List.foldl_nil, ← resolve, enter,
    if_neg (not_or.mpr ⟨hlong "" (by decide), hlong "." (by decide)⟩), if_neg (hlong ".." (by decide))]

theorem resolve_cons : resolve dir (name :: names) = resolve (enter dir name) names := rfl

/-- Followed from a folder, names stay below it, or lead where they lead from any folder beside it. -/
theorem resolve_below (names start : List String) :
    (∃ rel, ∀ base d, resolve (base ++ d :: start) names = base ++ d :: rel) ∨
      ∀ base d d', resolve (base ++ d :: start) names = resolve (base ++ d' :: start) names := by
  induction names generalizing start with
  | nil => exact Or.inl ⟨start, fun _ _ => rfl⟩
  | cons name names ih =>
    simp only [resolve_cons, enter]
    split_ifs with hnothing hup
    · exact ih start
    · cases start with
      | nil => exact Or.inr fun base d d' => by rw [List.dropLast_concat, List.dropLast_concat]
      | cons first rest =>
        have hdrop (base : List String) (d : String) :
            (base ++ d :: first :: rest).dropLast = base ++ d :: (first :: rest).dropLast := by
          rw [List.dropLast_append_of_ne_nil (List.cons_ne_nil _ _), List.dropLast_cons_cons]
        simp only [hdrop]
        exact ih (first :: rest).dropLast
    · have hconcat (base : List String) (d : String) :
          base ++ d :: start ++ [name] = base ++ d :: (start ++ [name]) := by
        rw [List.append_assoc, List.cons_append]
      simp only [hconcat]
      exact ih (start ++ [name])

/-- The same for a path in a text. -/
theorem join_below (s : String) :
    (∃ rel, ∀ base d, join (base ++ [d]) s = base ++ d :: rel) ∨
      ∀ base d d', join (base ++ [d]) s = join (base ++ [d']) s := by
  unfold join
  split_ifs
  · exact Or.inr fun _ _ _ => rfl
  · exact resolve_below (split s) []

/-- A text without slashes that is no `.` or `..` is a name. -/
theorem join_name {s : String} (hslash : '/' ∉ s.toList) (hplain : s ≠ "" ∧ s ≠ "." ∧ s ≠ "..") :
    join dir s = dir ++ [s] := by
  have hsplit : split s = [s] := by
    have hwhole : s.toList.splitOn '/' = [s.toList] := by
      refine List.splitOnP_eq_singleton fun c hc => ?_
      exact beq_eq_false_iff_ne.mpr fun heq => hslash (heq ▸ hc)
    rw [split, hwhole, List.map_singleton, String.ofList_toList]
  have hhead : s.toList.head? ≠ some '/' := fun hhead => hslash (List.mem_of_head? hhead)
  rw [join, if_neg hhead, hsplit, resolve_cons, enter, if_neg (not_or.mpr ⟨hplain.1, hplain.2.1⟩),
    if_neg hplain.2.2]
  rfl

end PosixPath
