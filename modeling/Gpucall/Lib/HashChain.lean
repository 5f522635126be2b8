import Mathlib.Data.List.Basic
import Mathlib.Data.List.Induction

/-! Lists of records that are linked by hashes: each record names the hash of the one before it. -/

namespace HashChain

variable {E H : Type}

/-- The hash that the next record names, `p` if there is none. -/
def lastHash (hash : E → Option H) (p : Option H) (es : List E) : Option H := es.getLast?.elim p hash

theorem lastHash_concat {hash : E → Option H} {p : Option H} (es : List E) (e : E) :
    lastHash hash p (es ++ [e]) = hash e := by simp [lastHash]

/-- The last hash of a list that is cut into pieces is that of the last piece that has one. -/
theorem lastHash_flatten {hash : E → Option H} {pieces : List (List E)}
    (hsome : ∀ e ∈ pieces.flatten, hash e ≠ none) :
    pieces.reverse.findSome? (fun piece => piece.getLast?.bind hash) =
      lastHash hash none pieces.flatten := by
  induction pieces using List.reverseRecOn with
  | nil => rfl
  | append_singleton pieces piece ih =>
    rw [List.reverse_append, List.reverse_singleton, List.singleton_append, List.findSome?_cons,
      List.flatten_concat]
    cases hlast : piece.getLast? with
    | none =>
      obtain rfl := List.getLast?_eq_none_iff.mp hlast
      rw [List.append_nil]
      exact ih fun e he => hsome e (by simpa using he)
    | some e =>
      have hmem : e ∈ (pieces ++ [piece]).flatten := by
        rw [List.flatten_concat]
        exact List.mem_append_right _ (List.mem_of_getLast? hlast)
      obtain ⟨h, hh⟩ := Option.ne_none_iff_exists'.mp (hsome e hmem)
      simp [lastHash, List.getLast?_append, hlast, hh]

variable [DecidableEq H] (previous hash : E → Option H) (valid : E → Bool)

/-- Every record names the hash before it, `p` at the start, and is valid on its own. -/
def check : Option H → List E → Bool
  | _, [] => true
  | p, e :: es => previous e = p && valid e && check (hash e) es

variable {previous hash valid} {p : Option H} {es : List E}

theorem check_append (es' : List E) : check previous hash valid p (es ++ es') =
    (check previous hash valid p es && check previous hash valid (lastHash hash p es) es') := by
  induction es generalizing p with
  | nil => rfl
  | cons e es ih =>
    have hlast : lastHash hash p (e :: es) = lastHash hash (hash e) es := by
      cases h : es.getLast? with
      | none => simp [lastHash, List.getLast?_eq_none_iff.mp h]
      | some last => simp [lastHash, List.getLast?_cons, h]
    rw [List.cons_append, check, check, ih, hlast]
    simp only [Bool.and_assoc]

theorem check_concat_iff {e : E} : check previous hash valid p (es ++ [e]) = true ↔
    check previous hash valid p es = true ∧ previous e = lastHash hash p es ∧ valid e = true := by
  rw [check_append]
  simp [check]

/-- A valid record that names the last hash continues the chain. -/
theorem check_concat {e : E} (h : check previous hash valid p es = true)
    (hprevious : previous e = lastHash hash p es) (hvalid : valid e = true) :
    check previous hash valid p (es ++ [e]) = true :=
  check_concat_iff.mpr ⟨h, hprevious, hvalid⟩

/-- The last hash of a chain determines its records, as far as `view` sees them: where the hashes of
two valid records are equal `view` sees no difference, and it sees the hash that a record names. -/
theorem map_eq_of_lastHash_eq {V : Type} {view : E → V} {es es' : List E}
    (hsome : ∀ e, valid e = true → hash e ≠ none)
    (hprevious : ∀ e e', view e = view e' → previous e = previous e')
    (hview : ∀ e ∈ es, ∀ e' ∈ es', valid e = true → valid e' = true → hash e = hash e' →
      view e = view e')
    (h : check previous hash valid none es = true) (h' : check previous hash valid none es' = true)
    (hlast : lastHash hash none es = lastHash hash none es') : es.map view = es'.map view := by
  induction es using List.reverseRecOn generalizing es' with
  | nil =>
    cases es' using List.reverseRecOn with
    | nil => rfl
    | append_singleton es' e' =>
      obtain ⟨-, -, hvalid⟩ := check_concat_iff.mp h'
      rw [lastHash_concat] at hlast
      exact absurd hlast.symm (hsome e' hvalid)
  | append_singleton es e ih =>
    obtain ⟨h, hnames, hvalid⟩ := check_concat_iff.mp h
    cases es' using List.reverseRecOn with
    | nil =>
      rw [lastHash_concat] at hlast
      exact absurd hlast (hsome e hvalid)
    | append_singleton es' e' =>
      obtain ⟨h', hnames', hvalid'⟩ := check_concat_iff.mp h'
      rw [lastHash_concat, lastHash_concat] at hlast
      have hsame : view e = view e' := hview e (by simp) e' (by simp) hvalid hvalid' hlast
      -- equal last records name equal hashes, which are those of the records before
      have hbefore : lastHash hash none es = lastHash hash none es' := by
        rw [← hnames, ← hnames', hprevious e e' hsame]
      have hrest : es.map view = es'.map view :=
        ih (fun e he e' he' => hview e (List.mem_append_left _ he) e' (List.mem_append_left _ he'))
          h h' hbefore
      rw [List.map_append, List.map_append, hrest, List.map_singleton, List.map_singleton, hsame]

end HashChain
