import Mathlib.Data.String.Basic
import Gpucall.Lib.Search

/-! The stop tokens of the streaming worker in `worker_contracts/modal.py`: `_stream_text` collects the
generated chunks in a buffer, passes each on, and looks for the stop tokens in the buffer. -/

namespace Gpucall

namespace Modal

/-- `min((buffer.find(token) for token in stop_tokens if token in buffer), default=-1)`, which is
`none` for -1. -/
def stopAt (stopTokens : List String) (buffer : String) : Option ℕ :=
  Search.findAny (stopTokens.map String.toList) buffer.toList

/-- The loop of `_stream_text` with its buffer. -/
def streamChunks (stopTokens : List String) : String → List String → List String
  | _, [] => []
  | buffer, chunk :: chunks =>
    if chunk = "" then streamChunks stopTokens buffer chunks
    else
      match stopAt stopTokens (buffer ++ chunk) with
      | some place =>
        let tail := String.ofList ((buffer ++ chunk).toList.take place)
        if tail = "" then [] else [tail]
      | none => chunk :: streamChunks stopTokens (buffer ++ chunk) chunks

/-- What `_stream_text` yields of the chunks that the model generates, with the stop tokens that
`_streaming_generate_kwargs` takes from the payload. -/
def streamText (stopTokens chunks : List String) : List String := streamChunks stopTokens "" chunks

/-! ## What a stream should hold -/

/-- The text up to its first stop token. -/
def textUpToStop (stopTokens : List String) (text : String) : String :=
  match stopAt stopTokens text with
  | none => text
  | some place => String.ofList (text.toList.take place)

/-- The first chunk that is not empty. -/
def firstChunk (chunks : List String) : String := (chunks.find? (· ≠ "")).getD ""

variable {stopTokens : List String} {buffer chunk : String} {chunks : List String}

theorem patterns_ne_nil (h : ∀ token ∈ stopTokens, token ≠ "") :
    ∀ pattern ∈ stopTokens.map String.toList, pattern ≠ [] := by
  rintro _ hpattern
  obtain ⟨token, htoken, rfl⟩ := List.mem_map.mp hpattern
  exact fun hnil => h token htoken (String.toList_eq_nil_iff.mp hnil)

/-- How the loop ends that has found no stop token in its buffer: with all the text, or in the chunk
that completes a stop token, with what it has passed on before and the buffer up to that token. -/
inductive Ending (stopTokens : List String) (buffer : String) (chunks : List String) : String → Prop
  | all (h : stopAt stopTokens (buffer ++ String.join chunks) = none) :
    Ending stopTokens buffer chunks (String.join chunks)
  | stopped {before chunk after : String} {place : ℕ}
    (split : String.join chunks = before ++ (chunk ++ after))
    (clear : stopAt stopTokens (buffer ++ before) = none)
    (found : stopAt stopTokens (buffer ++ before ++ chunk) = some place)
    (first : (before = "" ∧ firstChunk chunks = chunk) ∨
      (before ≠ "" ∧ ∃ rest, before = firstChunk chunks ++ rest)) :
    Ending stopTokens buffer chunks
      (before ++ String.ofList ((buffer ++ before ++ chunk).toList.take place))

theorem firstChunk_cons (hchunk : chunk ≠ "") : firstChunk (chunk :: chunks) = chunk := by
  simp [firstChunk, hchunk]

theorem firstChunk_cons_empty : firstChunk ("" :: chunks) = firstChunk chunks := by
  simp [firstChunk]

theorem join_tail (tail : String) : String.join (if tail = "" then [] else [tail]) = tail := by
  split <;> simp [*]

theorem Ending.skip {text : String} (h : Ending stopTokens buffer chunks text) :
    Ending stopTokens buffer ("" :: chunks) text := by
  have hjoin : String.join ("" :: chunks) = String.join chunks := by simp
  cases h with
  | all h => exact hjoin ▸ .all (hjoin ▸ h)
  | stopped split clear found first =>
    exact .stopped (hjoin.trans split) clear found (firstChunk_cons_empty ▸ first)

theorem Ending.pass {text : String} (hchunk : chunk ≠ "")
    (h : Ending stopTokens (buffer ++ chunk) chunks text) :
    Ending stopTokens buffer (chunk :: chunks) (chunk ++ text) := by
  have hassoc (rest : String) : buffer ++ chunk ++ rest = buffer ++ (chunk ++ rest) :=
    String.append_assoc ..
  cases h with
  | all h =>
    rw [← String.join_cons]
    exact .all (by rwa [String.join_cons, ← hassoc])
  | @stopped before next after place split clear found _ =>
    have hsplit : String.join (chunk :: chunks) = chunk ++ before ++ (next ++ after) := by
      rw [String.join_cons, split, String.append_assoc]
    rw [← String.append_assoc, hassoc]
    exact .stopped hsplit (hassoc before ▸ clear) (hassoc before ▸ found)
      (.inr ⟨by simp [hchunk], before, congrArg (· ++ before) (firstChunk_cons hchunk).symm⟩)

theorem Ending.stop {place : ℕ} (hbuffer : stopAt stopTokens buffer = none) (hchunk : chunk ≠ "")
    (hfound : stopAt stopTokens (buffer ++ chunk) = some place) :
    Ending stopTokens buffer (chunk :: chunks)
      (String.ofList ((buffer ++ chunk).toList.take place)) := by
  have hsplit : String.join (chunk :: chunks) = "" ++ (chunk ++ String.join chunks) := by simp
  have hstart : buffer ++ "" = buffer := String.append_empty
  have hending := Ending.stopped hsplit (hstart.symm ▸ hbuffer) (hstart.symm ▸ hfound)
    (.inl ⟨rfl, firstChunk_cons hchunk⟩)
  rwa [hstart, String.empty_append] at hending

theorem ending_streamChunks (hbuffer : stopAt stopTokens buffer = none) :
    Ending stopTokens buffer chunks (String.join (streamChunks stopTokens buffer chunks)) := by
  induction chunks generalizing buffer with
  | nil => exact .all (by simpa using hbuffer)
  | cons chunk chunks ih =>
    unfold streamChunks
    split
    · next hempty =>
      subst hempty
      exact (ih hbuffer).skip
    next hchunk =>
    split
    · next place hfound =>
      rw [join_tail]
      exact .stop hbuffer hchunk hfound
    · next hnone =>
      rw [String.join_cons]
      exact (ih hnone).pass hchunk

/-! ## The stream and its law -/

section Growing
variable (htokens : ∀ token ∈ stopTokens, token ≠ "")
include htokens

theorem stopAt_eq_none_of_append {text rest : String} (h : stopAt stopTokens (text ++ rest) = none) :
    stopAt stopTokens text = none := by
  rw [stopAt, String.toList_append] at h
  exact Search.findAny_eq_none_of_append (patterns_ne_nil htokens) h

theorem stopAt_append_le {text rest : String} {place : ℕ} (h : stopAt stopTokens text = some place) :
    ∃ first ≤ place, stopAt stopTokens (text ++ rest) = some first := by
  rw [stopAt, String.toList_append]
  exact Search.findAny_append_le (patterns_ne_nil htokens) h

theorem stopAt_lt_length {text : String} {place : ℕ} (h : stopAt stopTokens text = some place) :
    place < text.toList.length :=
  ((Search.findAny_eq_some_iff (patterns_ne_nil htokens)).mp h).1.lt_length

theorem stopAt_empty : stopAt stopTokens "" = none := by
  cases h : stopAt stopTokens "" with
  | none => rfl
  | some place => exact absurd (stopAt_lt_length htokens h) (Nat.not_lt_zero place)

end Growing

/-- The first chunk starts the text. -/
theorem exists_join_eq_firstChunk (chunks : List String) :
    ∃ rest, String.join chunks = firstChunk chunks ++ rest := by
  induction chunks with
  | nil => exact ⟨"", by simp [firstChunk]⟩
  | cons chunk chunks ih =>
    by_cases hchunk : chunk = ""
    · subst hchunk
      rw [firstChunk_cons_empty]
      simpa using ih
    · exact ⟨String.join chunks, by rw [String.join_cons, firstChunk_cons hchunk]⟩

/-- A stream holds the text up to its first stop token exactly when the first chunk that is not empty
holds that token, or there is none in the text: later on, the buffer that is cut at the token has been
passed on already. -/
theorem stream_stops_at_token_iff (stopTokens chunks : List String)
    (htokens : ∀ token ∈ stopTokens, token ≠ "") :
    String.join (streamText stopTokens chunks) = textUpToStop stopTokens (String.join chunks) ↔
      stopAt stopTokens (firstChunk chunks) = stopAt stopTokens (String.join chunks) := by
  obtain ⟨rest, hrest⟩ := exists_join_eq_firstChunk chunks
  have hending : Ending stopTokens "" chunks (String.join (streamChunks stopTokens "" chunks)) :=
    ending_streamChunks (stopAt_empty htokens)
  rw [streamText]
  revert hending
  generalize String.join (streamChunks stopTokens "" chunks) = streamed
  rintro (⟨hnone⟩ | @⟨before, chunk, after, place, split, clear, found, first⟩)
  · rw [String.empty_append] at hnone
    have hfirst : stopAt stopTokens (firstChunk chunks) = none :=
      stopAt_eq_none_of_append htokens (hrest ▸ hnone)
    simp only [textUpToStop, hnone, hfirst]
  · rw [String.empty_append] at clear found ⊢
    obtain ⟨earliest, hle, hearliest⟩ : ∃ earliest ≤ place,
        stopAt stopTokens (before ++ chunk ++ after) = some earliest := stopAt_append_le htokens found
    rw [String.append_assoc, ← split] at hearliest
    have hlt := stopAt_lt_length htokens found
    have hlength : earliest ≤ (String.join chunks).toList.length := by
      rw [split, ← String.append_assoc, String.toList_append, List.length_append]
      omega
    simp only [textUpToStop, hearliest]
    obtain ⟨rfl, hchunk⟩ | ⟨hne, start, hstart⟩ := first
    · rw [String.empty_append] at found split hlt ⊢
      rw [hchunk, found, String.empty_append, String.ofList_inj, split, String.toList_append]
      constructor
      · intro htake
        have hcut := congrArg List.length htake
        rw [List.length_take, List.length_take, List.length_append] at hcut
        exact congrArg some (by omega)
      · intro heq
        obtain rfl := Option.some.inj heq
        rw [List.take_append_of_le_length hlt.le]
    · -- what was passed on before the token makes the stream too long
      have hfirst : stopAt stopTokens (firstChunk chunks) = none :=
        stopAt_eq_none_of_append htokens (hstart ▸ clear)
      have hpos : 0 < before.toList.length :=
        List.length_pos_of_ne_nil fun hnil => hne (String.toList_eq_nil_iff.mp hnil)
      simp only [hfirst, reduceCtorEq, iff_false]
      intro heq
      have hcut := congrArg (fun s : String => s.toList.length) heq
      simp only [String.toList_append, String.toList_ofList, List.length_append,
        List.length_take] at hcut hlt
      omega

theorem stream_stops_at_token_iff_end :
    String.join (streamText ["END"] ["", "one END", " two"]) = "one " :=
  (stream_stops_at_token_iff ["END"] ["", "one END", " two"] (by decide)).mpr (by decide)

/-- A token in the second chunk, which sends the first one again. -/
theorem second_chunk_repeats_first :
    ¬ ∀ stopTokens chunks : List String, (∀ token ∈ stopTokens, token ≠ "") →
      String.join (streamText stopTokens chunks) = textUpToStop stopTokens (String.join chunks) := by
  intro h
  exact absurd (h ["END"] ["one", " END"] (by decide)) (by decide)

end Modal

end Gpucall
