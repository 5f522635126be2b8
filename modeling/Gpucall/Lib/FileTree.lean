import Mathlib.Data.Finmap
import Mathlib.Data.Finset.Sort
import Mathlib.Data.List.Lex
import Mathlib.Data.String.Basic

/-! Trees of files as finite maps from paths, a path being the list of its names; what is listed of a
tree in the order of the paths; and the stream of terminated blocks that a listing is fingerprinted by. -/

/-- What is at each path of a tree. -/
abbrev FileTree (α : Type) := Finmap fun _ : List String => α

namespace FileTree

variable {α : Type} {t t' : FileTree α} {p : List String → Bool} {path : List String} {x : α}

/-! ## Listings -/

/-- The entries whose path satisfies `p`, in the order of the paths. -/
def listing (t : FileTree α) (p : List String → Bool) : List (List String × α) :=
  ((t.keys.filter (p ·)).sort (· ≤ ·)).filterMap fun path => (t.lookup path).map (path, ·)

theorem mem_listing : (path, x) ∈ t.listing p ↔ p path = true ∧ t.lookup path = some x := by
  simp only [listing, List.mem_filterMap, Finset.mem_sort, Finset.mem_filter, Finmap.mem_keys,
    Option.map_eq_some_iff, Prod.mk.injEq]
  constructor
  · rintro ⟨other, ⟨-, hp⟩, value, hvalue, rfl, rfl⟩
    exact ⟨hp, hvalue⟩
  · rintro ⟨hp, hvalue⟩
    exact ⟨path, ⟨Finmap.mem_of_lookup_eq_some hvalue, hp⟩, x, hvalue, rfl, rfl⟩

/-- A listing is determined by what is at the paths that it lists. -/
theorem listing_eq_iff :
    t.listing p = t'.listing p ↔ ∀ path, p path = true → t.lookup path = t'.lookup path := by
  constructor
  · intro heq path hp
    refine Option.ext fun x => ?_
    have hmem : (path, x) ∈ t.listing p ↔ (path, x) ∈ t'.listing p := by rw [heq]
    simpa only [mem_listing, hp, true_and] using hmem
  · intro hsame
    have hkeys : t.keys.filter (p ·) = t'.keys.filter (p ·) := by
      ext path
      simp only [Finset.mem_filter, Finmap.mem_keys, ← Finmap.lookup_isSome]
      refine and_congr_left fun hp => ?_
      rw [hsame path hp]
    unfold listing
    rw [hkeys]
    refine List.filterMap_congr fun path hpath => ?_
    rw [Finset.mem_sort, Finset.mem_filter] at hpath
    rw [hsame path hpath.2]

/-- The paths of a listing come in strict order. -/
theorem listing_pairwise (t : FileTree α) (p : List String → Bool) :
    (t.listing p).Pairwise fun entry entry' => entry.1 < entry'.1 := by
  have hsorted := ((t.keys.filter (p ·)).sortedLT_sort).pairwise
  refine hsorted.filterMap _ fun path path' hlt entry hentry entry' hentry' => ?_
  obtain ⟨_, -, rfl⟩ := Option.map_eq_some_iff.mp hentry
  obtain ⟨_, -, rfl⟩ := Option.map_eq_some_iff.mp hentry'
  exact hlt

/-- Two listings in strict order with the same entries are the same. -/
theorem eq_of_mem_iff {β : Type} {l l' : List (List String × β)}
    (hl : l.Pairwise fun entry entry' => entry.1 < entry'.1)
    (hl' : l'.Pairwise fun entry entry' => entry.1 < entry'.1)
    (hmem : ∀ entry, entry ∈ l ↔ entry ∈ l') : l = l' := by
  have hne {l : List (List String × β)} (h : l.Pairwise fun entry entry' => entry.1 < entry'.1) :
      l.Nodup := h.imp fun hlt heq => absurd hlt (by rw [heq]; exact lt_irrefl _)
  refine ((List.perm_ext_iff_of_nodup (hne hl) (hne hl')).mpr hmem).eq_of_pairwise ?_ hl hl'
  intro entry entry' _ _ hlt hgt
  exact absurd hlt (lt_asymm hgt)

/-- Whatever the order in which the entries come, sorted by their paths they are the listing. -/
theorem insertionSort_eq_listing {entries : List (List String × α)} (hperm : entries.Perm (t.listing p)) :
    entries.insertionSort (fun entry entry' => entry.1 ≤ entry'.1) = t.listing p := by
  have hsorted : (entries.insertionSort fun entry entry' => entry.1 ≤ entry'.1).Pairwise
      fun entry entry' => entry.1 ≤ entry'.1 := by
    have : Std.Total fun entry entry' : List String × α => entry.1 ≤ entry'.1 := ⟨fun _ _ => le_total _ _⟩
    have : IsTrans (List String × α) fun entry entry' => entry.1 ≤ entry'.1 := ⟨fun _ _ _ => le_trans⟩
    exact List.pairwise_insertionSort _ entries
  refine ((List.perm_insertionSort _ entries).trans hperm).eq_of_pairwise ?_ hsorted
    ((t.listing_pairwise p).imp le_of_lt)
  intro entry entry' hentry hentry' hle hge
  obtain ⟨path, x⟩ := entry
  obtain ⟨path', x'⟩ := entry'
  obtain rfl : path = path' := le_antisymm hle hge
  have hmem := hperm.mem_iff.mp ((List.perm_insertionSort _ entries).mem_iff.mp hentry)
  obtain rfl := Option.some.inj ((mem_listing.mp hmem).2.symm.trans (mem_listing.mp hentry').2)
  rfl

/-- A listing of one entry -/
theorem listing_eq_singleton
    (h : ∀ other y, p other = true ∧ t.lookup other = some y ↔ other = path ∧ y = x) :
    t.listing p = [(path, x)] := by
  refine eq_of_mem_iff (t.listing_pairwise p) (List.pairwise_singleton _ _) ?_
  rintro ⟨other, y⟩
  rw [mem_listing, h, List.mem_singleton, Prod.mk.injEq]

theorem insert_eq_self_iff : t.insert path x = t ↔ t.lookup path = some x := by
  constructor
  · intro heq
    rw [← heq, Finmap.lookup_insert]
  · intro hlookup
    refine Finmap.ext_lookup fun other => ?_
    by_cases hother : other = path
    · rw [hother, Finmap.lookup_insert, hlookup]
    · rw [Finmap.lookup_insert_of_ne _ hother]

/-! ## Streams of blocks -/

section Stream

variable {β κ : Type} {encode : κ → List β} {z : β} {l l' : List (κ × List β)}

/-- The key and the contents of an entry, each with a terminator. -/
def block (encode : κ → List β) (z : β) (entry : κ × List β) : List β :=
  encode entry.1 ++ z :: (entry.2 ++ [z])

/-- What a listing is fingerprinted by. -/
def stream (encode : κ → List β) (z : β) (l : List (κ × List β)) : List β := l.flatMap (block encode z)

theorem block_ne_nil (entry : κ × List β) : block encode z entry ≠ [] := by simp [block]

theorem stream_cons (entry : κ × List β) (l : List (κ × List β)) :
    stream encode z (entry :: l) = block encode z entry ++ stream encode z l := List.flatMap_cons

/-- A part of a listing has the stream of the whole only if it is the whole. -/
theorem eq_of_sublist_of_stream_eq (hsub : l'.Sublist l)
    (heq : stream encode z l' = stream encode z l) : l' = l := by
  have hle {l l' : List (κ × List β)} (hsub : l'.Sublist l) :
      (stream encode z l').length ≤ (stream encode z l).length :=
    (hsub.flatMap _).length_le
  induction hsub with
  | slnil => rfl
  | @cons l' l entry hsub ih =>
    have hlen := congrArg List.length heq
    have hne : block encode z entry ≠ [] := block_ne_nil entry
    have hpos := List.length_pos_iff.mpr hne
    rw [stream_cons, List.length_append] at hlen
    have := hle hsub
    omega
  | @cons_cons l' l entry hsub ih =>
    rw [stream_cons, stream_cons, List.append_cancel_left_eq] at heq
    rw [ih heq]

/-- What comes before the first terminator is determined. -/
theorem eq_of_append_cons_eq {s s' rest rest' : List β} (hs : z ∉ s) (hs' : z ∉ s')
    (heq : s ++ z :: rest = s' ++ z :: rest') : s = s' ∧ rest = rest' := by
  induction s generalizing s' with
  | nil =>
    cases s' with
    | nil => exact ⟨rfl, (List.cons.inj heq).2⟩
    | cons b s' => exact absurd (List.mem_cons.mpr (.inl (List.cons.inj heq).1)) hs'
  | cons b s ih =>
    cases s' with
    | nil => exact absurd (List.mem_cons.mpr (.inl (List.cons.inj heq).1.symm)) hs
    | cons b' s' =>
      obtain ⟨rfl, hrest⟩ := List.cons.inj heq
      obtain ⟨rfl, rfl⟩ := ih (fun h => hs (List.mem_cons_of_mem _ h))
        (fun h => hs' (List.mem_cons_of_mem _ h)) hrest
      exact ⟨rfl, rfl⟩

/-- The stream determines the listing, if the terminator is in no key and in no contents that the two
listings do not share. -/
theorem eq_of_stream_eq
    (hencode : ∀ entry ∈ l, ∀ entry' ∈ l', encode entry.1 = encode entry'.1 → entry.1 = entry'.1)
    (hkey : ∀ entry ∈ l ++ l', z ∉ encode entry.1)
    (hcontents : ∀ entry ∈ l, ∀ entry' ∈ l', entry.1 = entry'.1 → entry.2 ≠ entry'.2 →
      z ∉ entry.2 ∧ z ∉ entry'.2)
    (heq : stream encode z l = stream encode z l') : l = l' := by
  induction l generalizing l' with
  | nil =>
    cases l' with
    | nil => rfl
    | cons entry l' => simp [stream, block] at heq
  | cons entry l ih =>
    cases l' with
    | nil => simp [stream, block] at heq
    | cons entry' l' =>
      simp only [stream_cons, block, List.append_assoc, List.cons_append, List.nil_append] at heq
      obtain ⟨hfirst, heq⟩ := eq_of_append_cons_eq (hkey entry (by simp)) (hkey entry' (by simp)) heq
      have hpath : entry.1 = entry'.1 := hencode entry (by simp) entry' (by simp) hfirst
      have hsame : entry.2 = entry'.2 := by
        by_contra hne
        obtain ⟨hz, hz'⟩ := hcontents entry (by simp) entry' (by simp) hpath hne
        exact hne (eq_of_append_cons_eq hz hz' heq).1
      rw [hsame, List.append_cancel_left_eq, List.cons.injEq] at heq
      rw [Prod.ext hpath hsame, ih (fun e he e' he' => hencode e ?_ e' ?_) (fun e he => hkey e ?_)
        (fun e he e' he' => hcontents e ?_ e' ?_) heq.2]
      · exact List.mem_cons_of_mem _ he
      · exact List.mem_cons_of_mem _ he'
      · rcases List.mem_append.mp he with he | he <;> simp [he]
      · exact List.mem_cons_of_mem _ he
      · exact List.mem_cons_of_mem _ he'

end Stream

end FileTree
