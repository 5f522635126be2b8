import Mathlib.Order.Nat

/-! UTF-8 with replacement characters. The decoder reads byte by byte; what does not begin or continue
a character is replaced, the longest ill-formed stretch by one U+FFFD. A character that was encoded
comes out as itself, whatever was read before it. Bytes are numbers below 256. -/

namespace Utf8

def encode (c : Char) : List ℕ :=
  let v := c.toNat
  if v < 0x80 then [v]
  else if v < 0x800 then [0xc0 + v / 64, 0x80 + v % 64]
  else if v < 0x10000 then [0xe0 + v / 4096, 0x80 + v / 64 % 64, 0x80 + v % 64]
  else [0xf0 + v / 262144, 0x80 + v / 4096 % 64, 0x80 + v / 64 % 64, 0x80 + v % 64]

/-- Between two characters, or inside one: `missing` bytes are to come after the next one, which has
to be in a range, and the bits so far make up `value`. -/
inductive State where
  | ready
  | inside (missing low high value : ℕ)

def replacement : Char := '\uFFFD'

/-- A byte between two characters: the next state and what comes out. -/
def lead (b : ℕ) : State × List Char :=
  if b < 0x80 then (.ready, [Char.ofNat b])
  else if 0xc2 ≤ b && b ≤ 0xdf then (.inside 0 0x80 0xbf (b - 0xc0), [])
  else if 0xe0 ≤ b && b ≤ 0xef then
    -- neither overlong forms nor surrogates
    (.inside 1 (if b = 0xe0 then 0xa0 else 0x80) (if b = 0xed then 0x9f else 0xbf) (b - 0xe0), [])
  else if 0xf0 ≤ b && b ≤ 0xf4 then
    (.inside 2 (if b = 0xf0 then 0x90 else 0x80) (if b = 0xf4 then 0x8f else 0xbf) (b - 0xf0), [])
  else (.ready, [replacement])

def step : State → ℕ → State × List Char
  | .ready, b => lead b
  | .inside missing low high value, b =>
    if low ≤ b && b ≤ high then
      match missing with
      | 0 => (.ready, [Char.ofNat (value * 64 + (b - 0x80))])
      | missing + 1 => (.inside missing 0x80 0xbf (value * 64 + (b - 0x80)), [])
    else ((lead b).1, replacement :: (lead b).2)

/-- What comes out at the end of the input. -/
def finish : State → List Char
  | .ready => []
  | .inside .. => [replacement]

/-- The state and the output after some bytes. -/
def feed : State → List ℕ → State × List Char
  | s, [] => (s, [])
  | s, b :: bytes => ((feed (step s b).1 bytes).1, (step s b).2 ++ (feed (step s b).1 bytes).2)

variable {s : State} {b : ℕ} {bytes : List ℕ}

theorem step_ready : step .ready b = lead b := rfl

theorem step_last {low high value : ℕ} (h : low ≤ b ∧ b ≤ high) :
    step (.inside 0 low high value) b = (.ready, [Char.ofNat (value * 64 + (b - 0x80))]) := by
  simp only [step, h, decide_true, Bool.and_self, if_true]

theorem step_more {missing low high value : ℕ} (h : low ≤ b ∧ b ≤ high) :
    step (.inside (missing + 1) low high value) b =
      (.inside missing 0x80 0xbf (value * 64 + (b - 0x80)), []) := by
  simp only [step, h, decide_true, Bool.and_self, if_true]

theorem step_ill {missing low high value : ℕ} (h : ¬ (low ≤ b ∧ b ≤ high)) :
    step (.inside missing low high value) b = ((lead b).1, replacement :: (lead b).2) := by
  have h : ¬ (decide (low ≤ b) && decide (b ≤ high)) = true := by simpa using h
  simp only [step, h, Bool.false_eq_true, if_false]

/-! ## How much comes out -/

theorem lead_length (b : ℕ) : (lead b).2.length + (finish (lead b).1).length = 1 := by
  unfold lead
  split
  · rfl
  split
  · rfl
  split
  · rfl
  split
  · rfl
  · rfl

/-- A byte adds at most one character to the output. -/
theorem step_length (s : State) (b : ℕ) :
    (step s b).2.length + (finish (step s b).1).length ≤ (finish s).length + 1 := by
  have hlead := lead_length b
  cases s with
  | ready =>
    rw [step_ready]
    exact hlead.trans_le (Nat.le_add_left 1 _)
  | inside missing low high value =>
    by_cases h : low ≤ b ∧ b ≤ high
    · cases missing with
      | zero =>
        rw [step_last h]
        simp [finish]
      | succ missing =>
        rw [step_more h]
        simp [finish]
    · rw [step_ill h]
      change (lead b).2.length + 1 + (finish (lead b).1).length ≤ 1 + 1
      omega

/-! ## A character that was encoded -/

/-- A byte that begins a character continues none. -/
def State.WF : State → Prop
  | .ready => True
  | .inside _ low high _ => 0x80 ≤ low ∧ high ≤ 0xbf

theorem lead_wf (b : ℕ) : (lead b).1.WF := by
  unfold lead
  split
  · trivial
  split
  · exact ⟨le_rfl, le_rfl⟩
  split
  · constructor
    · split <;> decide
    · split <;> decide
  split
  · constructor
    · split <;> decide
    · split <;> decide
  · trivial

theorem step_wf (s : State) (b : ℕ) : (step s b).1.WF := by
  cases s with
  | ready => exact lead_wf b
  | inside missing low high value =>
    by_cases h : low ≤ b ∧ b ≤ high
    · cases missing with
      | zero =>
        rw [step_last h]
        trivial
      | succ missing =>
        rw [step_more h]
        exact ⟨le_rfl, le_rfl⟩
    · rw [step_ill h]
      exact lead_wf b

theorem step_of_start (hs : s.WF) (hb : b < 0x80 ∨ 0xc0 ≤ b) :
    step s b = ((lead b).1, finish s ++ (lead b).2) := by
  cases s with
  | ready => rfl
  | inside missing low high value =>
    obtain ⟨hlow, hhigh⟩ := hs
    rw [step_ill (by omega)]
    rfl

theorem feed_of_start (hs : s.WF) (hb : b < 0x80 ∨ 0xc0 ≤ b) :
    feed s (b :: bytes) = ((feed .ready (b :: bytes)).1, finish s ++ (feed .ready (b :: bytes)).2) := by
  simp only [feed, step_of_start hs hb, step_ready, List.append_assoc]

theorem encode_start (c : Char) : ∃ b bytes, encode c = b :: bytes ∧ (b < 0x80 ∨ 0xc0 ≤ b) := by
  unfold encode
  dsimp only
  split
  · next h => exact ⟨_, _, rfl, .inl h⟩
  split
  · exact ⟨_, _, rfl, .inr (by omega)⟩
  split
  · exact ⟨_, _, rfl, .inr (by omega)⟩
  · exact ⟨_, _, rfl, .inr (by omega)⟩

theorem lead_one (h : b < 0x80) : lead b = (.ready, [Char.ofNat b]) := if_pos h

theorem lead_two (h : 0xc2 ≤ b ∧ b ≤ 0xdf) : lead b = (.inside 0 0x80 0xbf (b - 0xc0), []) := by
  have h1 : ¬ b < 0x80 := by omega
  simp [lead, h1, h]

theorem lead_three (h : 0xe0 ≤ b ∧ b ≤ 0xef) :
    lead b = (.inside 1 (if b = 0xe0 then 0xa0 else 0x80) (if b = 0xed then 0x9f else 0xbf)
      (b - 0xe0), []) := by
  have h1 : ¬ b < 0x80 := by omega
  have h2 : ¬ b ≤ 0xdf := by omega
  simp [lead, h1, h2, h]

theorem lead_four (h : 0xf0 ≤ b ∧ b ≤ 0xf4) :
    lead b = (.inside 2 (if b = 0xf0 then 0x90 else 0x80) (if b = 0xf4 then 0x8f else 0xbf)
      (b - 0xf0), []) := by
  have h1 : ¬ b < 0x80 := by omega
  have h2 : ¬ b ≤ 0xdf := by omega
  have h3 : ¬ b ≤ 0xef := by omega
  simp [lead, h1, h2, h3, h]

/-- The values of characters, which are no surrogates. -/
theorem toNat_valid (c : Char) : c.toNat < 0xd800 ∨ 0xdfff < c.toNat ∧ c.toNat < 0x110000 := c.valid

theorem feed_ready_encode (c : Char) : feed .ready (encode c) = (.ready, [c]) := by
  have hv := toNat_valid c
  have hc : Char.ofNat c.toNat = c := Char.ofNat_toNat c
  unfold encode
  dsimp only
  generalize c.toNat = v at hv hc
  split
  · next h1 => simp only [feed, step_ready, lead_one h1, hc, List.append_nil]
  split
  · next h1 h2 =>
    have hvalue : (0xc0 + v / 64 - 0xc0) * 64 + (0x80 + v % 64 - 0x80) = v := by omega
    simp only [feed, step_ready, lead_two (show 0xc2 ≤ 0xc0 + v / 64 ∧ 0xc0 + v / 64 ≤ 0xdf by omega),
      step_last (show 0x80 ≤ 0x80 + v % 64 ∧ 0x80 + v % 64 ≤ 0xbf by omega), hvalue, hc,
      List.nil_append, List.append_nil]
  split
  · next h1 h2 h3 =>
    have hvalue : ((0xe0 + v / 4096 - 0xe0) * 64 + (0x80 + v / 64 % 64 - 0x80)) * 64 +
        (0x80 + v % 64 - 0x80) = v := by omega
    have hsecond : (if 0xe0 + v / 4096 = 0xe0 then 0xa0 else 0x80) ≤ 0x80 + v / 64 % 64 ∧
        0x80 + v / 64 % 64 ≤ (if 0xe0 + v / 4096 = 0xed then 0x9f else 0xbf) := by
      constructor
      · split <;> omega
      · split <;> omega
    simp only [feed, step_ready,
      lead_three (show 0xe0 ≤ 0xe0 + v / 4096 ∧ 0xe0 + v / 4096 ≤ 0xef by omega),
      step_more hsecond, step_last (show 0x80 ≤ 0x80 + v % 64 ∧ 0x80 + v % 64 ≤ 0xbf by omega),
      hvalue, hc, List.nil_append, List.append_nil]
  · next h1 h2 h3 =>
    have hvalue : (((0xf0 + v / 262144 - 0xf0) * 64 + (0x80 + v / 4096 % 64 - 0x80)) * 64 +
        (0x80 + v / 64 % 64 - 0x80)) * 64 + (0x80 + v % 64 - 0x80) = v := by omega
    have hsecond : (if 0xf0 + v / 262144 = 0xf0 then 0x90 else 0x80) ≤ 0x80 + v / 4096 % 64 ∧
        0x80 + v / 4096 % 64 ≤ (if 0xf0 + v / 262144 = 0xf4 then 0x8f else 0xbf) := by
      constructor
      · split <;> omega
      · split <;> omega
    simp only [feed, step_ready,
      lead_four (show 0xf0 ≤ 0xf0 + v / 262144 ∧ 0xf0 + v / 262144 ≤ 0xf4 by omega),
      step_more hsecond,
      step_more (show 0x80 ≤ 0x80 + v / 64 % 64 ∧ 0x80 + v / 64 % 64 ≤ 0xbf by omega),
      step_last (show 0x80 ≤ 0x80 + v % 64 ∧ 0x80 + v % 64 ≤ 0xbf by omega),
      hvalue, hc, List.nil_append, List.append_nil]

/-- Whatever was read before, an encoded character comes out. -/
theorem feed_encode (hs : s.WF) (c : Char) : feed s (encode c) = (.ready, finish s ++ [c]) := by
  obtain ⟨b, bytes, hc, hb⟩ := encode_start c
  have hready := feed_ready_encode c
  rw [hc] at hready ⊢
  rw [feed_of_start hs hb, hready]

theorem step_ascii (hs : s.WF) {c : Char} (hc : c.toNat < 0x80) :
    step s c.toNat = (.ready, finish s ++ [c]) := by
  rw [step_of_start hs (.inl hc), lead_one hc, Char.ofNat_toNat]

theorem encode_lt (c : Char) : ∀ b ∈ encode c, b < 256 := by
  have hv := toNat_valid c
  unfold encode
  dsimp only
  generalize c.toNat = v at hv
  intro b hb
  split at hb
  · simp only [List.mem_singleton] at hb
    omega
  split at hb
  · simp only [List.mem_cons, List.not_mem_nil, or_false] at hb
    omega
  split at hb
  · simp only [List.mem_cons, List.not_mem_nil, or_false] at hb
    omega
  · simp only [List.mem_cons, List.not_mem_nil, or_false] at hb
    omega

theorem feed_flatMap_encode (text : List Char) : feed .ready (text.flatMap encode) = (.ready, text) := by
  have hfeed (s : State) (bytes rest : List ℕ) : feed s (bytes ++ rest) =
      ((feed (feed s bytes).1 rest).1, (feed s bytes).2 ++ (feed (feed s bytes).1 rest).2) := by
    induction bytes generalizing s with
    | nil => rfl
    | cons b bytes ih => simp only [List.cons_append, feed, ih, List.append_assoc]
  induction text with
  | nil => rfl
  | cons c text ih => rw [List.flatMap_cons, hfeed, feed_ready_encode, ih, List.singleton_append]

/-- An encoded text is read back as it was. -/
theorem flatMap_encode_injective : Function.Injective fun text : List Char => text.flatMap encode := by
  intro text text' heq
  have hfeed := congrArg (feed .ready) heq
  rw [feed_flatMap_encode, feed_flatMap_encode] at hfeed
  exact (Prod.mk.inj hfeed).2

/-- Only the encoding of a null character has a null byte. -/
theorem eq_of_zero_mem_encode {c : Char} (h : 0 ∈ encode c) : c = '\x00' := by
  unfold encode at h
  dsimp only at h
  split at h
  · rw [List.mem_singleton] at h
    exact Char.toNat_inj.mp h.symm
  split at h
  · simp only [List.mem_cons, List.not_mem_nil, or_false] at h
    omega
  split at h
  · simp only [List.mem_cons, List.not_mem_nil, or_false] at h
    omega
  · simp only [List.mem_cons, List.not_mem_nil, or_false] at h
    omega

/-! ## Letters and digits -/

theorem isAlphanum_iff {c : Char} : c.isAlphanum = true ↔
    ((65 ≤ c.toNat ∧ c.toNat ≤ 90) ∨ (97 ≤ c.toNat ∧ c.toNat ≤ 122)) ∨ (48 ≤ c.toNat ∧ c.toNat ≤ 57) := by
  have hupper : c.isUpper = true ↔ 65 ≤ c.toNat ∧ c.toNat ≤ 90 := decide_eq_true_iff
  have hlower : c.isLower = true ↔ 97 ≤ c.toNat ∧ c.toNat ≤ 122 :=
    Bool.and_eq_true_iff.trans (and_congr decide_eq_true_iff decide_eq_true_iff)
  have hdigit : c.isDigit = true ↔ 48 ≤ c.toNat ∧ c.toNat ≤ 57 :=
    Bool.and_eq_true_iff.trans (and_congr decide_eq_true_iff decide_eq_true_iff)
  rw [← hupper, ← hlower, ← hdigit, ← Bool.or_eq_true, ← Bool.or_eq_true]
  rfl

end Utf8
