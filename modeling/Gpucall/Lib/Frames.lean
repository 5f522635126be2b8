import Mathlib.Data.List.Infix

/-! Texts that are sequences of frames, each of which shows its own end: it ends with a mark, and nothing
that has been read of it before can be taken for such an end. Whoever cuts such a text where it has just
shown a mark cuts it between two frames. -/

namespace Frames

variable {α : Type*} {mark frame text : List α} {frames : List (List α)}

/-- The frame ends with the mark; a part of it from its start that ends with the mark, or with which the
mark ends, is the whole frame. -/
structure IsFrame (mark frame : List α) : Prop where
  ends : mark <:+ frame
  whole : ∀ {part : List α}, part ≠ [] → part <+: frame → part <:+ mark ∨ mark <:+ part → part = frame

/-- What is read of a sequence of frames up to a mark is some of them. -/
theorem exists_front (hframes : ∀ frame ∈ frames, IsFrame mark frame)
    (htext : text <+: frames.flatten) (hmark : text <:+ mark ∨ mark <:+ text) :
    ∃ front back, frames = front ++ back ∧ text = front.flatten := by
  induction frames generalizing text with
  | nil => exact ⟨[], [], rfl, List.prefix_nil.mp htext⟩
  | cons frame frames ih =>
    rw [List.flatten_cons] at htext
    rcases List.prefix_or_prefix_of_prefix htext (List.prefix_append frame _) with
      hinside | ⟨rest, rfl⟩
    · by_cases hempty : text = []
      · exact ⟨[], frame :: frames, rfl, hempty⟩
      · refine ⟨[frame], frames, rfl, ?_⟩
        rw [List.flatten_singleton]
        exact (hframes frame List.mem_cons_self).whole hempty hinside hmark
    · -- the text goes on behind the first frame
      have hrest : rest <+: frames.flatten := (List.prefix_append_right_inj frame).mp htext
      have hrest_mark : rest <:+ mark ∨ mark <:+ rest := by
        have hsuffix : rest <:+ frame ++ rest := List.suffix_append _ _
        rcases hmark with hmark | hmark
        · exact .inl (hsuffix.trans hmark)
        · exact List.suffix_or_suffix_of_suffix hsuffix hmark
      obtain ⟨front, back, rfl, rfl⟩ :=
        ih (fun f hf => hframes f (List.mem_cons_of_mem _ hf)) hrest hrest_mark
      exact ⟨frame :: front, back, rfl, rfl⟩

/-- Pieces that end with the mark are made of whole frames. -/
theorem exists_groups {pieces : List (List α)} (hne : mark ≠ [])
    (hframes : ∀ frame ∈ frames, IsFrame mark frame) (hends : ∀ piece ∈ pieces, piece = [] ∨ mark <:+ piece)
    (hflatten : pieces.flatten = frames.flatten) :
    ∃ groups : List (List (List α)), groups.flatten = frames ∧ pieces = groups.map List.flatten := by
  induction pieces generalizing frames with
  | nil =>
    refine ⟨[], ?_, rfl⟩
    cases frames with
    | nil => rfl
    | cons frame frames =>
      rw [List.flatten_nil, List.flatten_cons, eq_comm, List.append_eq_nil_iff] at hflatten
      have hsuffix : mark <:+ [] := hflatten.1 ▸ (hframes frame List.mem_cons_self).ends
      exact absurd (List.suffix_nil.mp hsuffix) hne
  | cons piece pieces ih =>
    rw [List.flatten_cons] at hflatten
    have hpart : piece <+: frames.flatten := ⟨pieces.flatten, hflatten⟩
    have hmark : piece <:+ mark ∨ mark <:+ piece := by
      rcases hends piece List.mem_cons_self with rfl | hmark
      · exact .inl List.nil_suffix
      · exact .inr hmark
    obtain ⟨front, back, rfl, rfl⟩ := exists_front hframes hpart hmark
    rw [List.flatten_append] at hflatten
    obtain ⟨groups, rfl, rfl⟩ := ih (fun f hf => hframes f (List.mem_append_right _ hf))
      (fun piece hpiece => hends piece (List.mem_cons_of_mem _ hpiece))
      (List.append_cancel_left hflatten)
    exact ⟨front :: groups, rfl, rfl⟩

end Frames
