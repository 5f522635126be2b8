import Gpucall.AuditTrail
import Gpucall.JsonChars
import Gpucall.Lib.Lines
import Gpucall.Lib.Trim
import Gpucall.Lib.Utf8

/-! `_read_last_hash_from_path` of `audit.py`, which reads a file of the trail backwards, block by block,
until it has seen the last line that is not blank; and the files as bytes, over which the readings of
`AuditTrail.lean` are those of this reader. -/

namespace Gpucall.Audit

/-! ## Bytes -/

/-- ASCII whitespace -/
def isSpaceByte (b : ℕ) : Bool := b = 32 || (9 ≤ b && b ≤ 13)

/-- `b.strip()` -/
def stripBytes (bytes : List ℕ) : List ℕ := bytes.trim isSpaceByte

/-- The line boundaries of bytes -/
def isBreakByte (b : ℕ) : Bool := b = 10 || b = 13

/-- The lines of bytes whose first line starts with `line`; `\r\n` is one boundary. -/
def byteLinesFrom (line : List ℕ) : List ℕ → List (List ℕ)
  | [] => if line.isEmpty then [] else [line]
  | 13 :: 10 :: rest => line :: byteLinesFrom [] rest
  | b :: rest => if isBreakByte b then line :: byteLinesFrom [] rest else byteLinesFrom (line ++ [b]) rest

/-- `[line for line in buffer.splitlines() if line.strip()]` -/
def fullByteLines (buffer : List ℕ) : List (List ℕ) :=
  (byteLinesFrom [] buffer).filter fun line => !(stripBytes line).isEmpty

/-! ## The reader -/

section

variable {ε : Type} (validate : List ℕ → Except ε AuditEvent)

/-- `AuditEvent.model_validate_json(lines[-1]).hash if lines else None` -/
def hashOfLast (lines : List (List ℕ)) : Except ε (Option String) :=
  match lines.getLast? with
  | none => .ok none
  | some line => (validate line).map AuditEvent.hash

/-- The loop: what lies behind `position` is in the buffer. -/
def readBackwards (contents : List ℕ) (position : ℕ) (buffer : List ℕ) : Except ε (Option String) :=
  if 0 < position then
    let size := min 8192 position
    let start := position - size
    let buffer := (contents.drop start).take size ++ buffer
    let lines := fullByteLines buffer
    if 2 ≤ lines.length ∨ start = 0 then hashOfLast validate lines
    else readBackwards contents start buffer
  else .ok none
termination_by position

/-- `_read_last_hash_from_path`, by the contents of the file if there is one -/
def readLastHashFromPath : Option (List ℕ) → Except ε (Option String)
  | none => .ok none
  | some contents =>
    if contents.length = 0 then .ok none else readBackwards validate contents contents.length []

/-- `_read_last_hash` over the files of the chain, the last one first -/
def readLastHashOfPaths : List (List ℕ) → Except ε (Option String)
  | [] => .ok none
  | contents :: rest => do
    match ← readLastHashFromPath validate (some contents) with
    | some last => .ok (some last)
    | none => readLastHashOfPaths rest

end

/-- The line of an event in a file, without its end -/
def AuditEvent.lineBytes (e : AuditEvent) : List ℕ := e.line.flatMap Utf8.encode

/-- The file that the appends of some events have written -/
def fileBytes (events : List AuditEvent) : List ℕ := events.flatMap fun e => e.lineBytes ++ [10]

/-! ## Lines of a buffer -/

variable {ε : Type} {validate : List ℕ → Except ε AuditEvent} {line buffer contents : List ℕ}

theorem isEmpty_stripBytes (line : List ℕ) : (stripBytes line).isEmpty = line.all isSpaceByte := by
  rw [Bool.eq_iff_iff, List.isEmpty_iff, stripBytes, List.trim_eq_nil_iff, List.all_eq_true]

/-- With the blank lines left out it does not matter that `\r\n` is one boundary. -/
theorem filter_byteLinesFrom (h : ∀ b ∈ line, isBreakByte b = false) :
    (byteLinesFrom line buffer).filter (fun line => !line.all isSpaceByte) =
      Lines.fullLines isBreakByte isSpaceByte (line ++ buffer) := by
  have hfilter (line : List ℕ) (lines : List (List ℕ)) (h : ∀ b ∈ line, isBreakByte b = false) :
      (line :: lines).filter (fun line => !line.all isSpaceByte) =
        Lines.fullLines isBreakByte isSpaceByte line ++ lines.filter fun line => !line.all isSpaceByte := by
    rw [Lines.fullLines_eq_ite h]
    cases hblank : line.all isSpaceByte <;> simp [hblank]
  fun_induction byteLinesFrom line buffer with
  | case1 line hempty =>
    rw [List.isEmpty_iff.mp hempty]
    rfl
  | case2 line hempty => rw [hfilter line [] h, List.filter_nil, List.append_nil, List.append_nil]
  | case3 line rest ih =>
    rw [hfilter line _ h, ih nofun, List.nil_append, Lines.fullLines_append_cons (by decide)]
    exact congrArg _ (Lines.fullLines_cons (by decide)).symm
  | case4 line b rest _ hbreak ih =>
    rw [hfilter line _ h, ih nofun, List.nil_append, Lines.fullLines_append_cons hbreak]
  | case5 line b rest _ hbreak ih =>
    rw [ih, List.append_assoc, List.singleton_append]
    intro x hx
    obtain hx | hx := List.mem_append.mp hx
    · exact h x hx
    · rw [List.mem_singleton.mp hx]
      exact Bool.eq_false_iff.mpr hbreak

theorem fullByteLines_eq (buffer : List ℕ) :
    fullByteLines buffer = Lines.fullLines isBreakByte isSpaceByte buffer := by
  simp only [fullByteLines, isEmpty_stripBytes]
  exact filter_byteLinesFrom nofun

/-! ## The loop -/

/-- The invariant: the buffer has the file from `position` on. Each round moves to an earlier position or
ends with the last line. -/
theorem readBackwards_eq (validate : List ℕ → Except ε AuditEvent) (contents : List ℕ) {position : ℕ}
    (hpos : 0 < position) :
    readBackwards validate contents position (contents.drop position) =
      hashOfLast validate (fullByteLines contents) := by
  induction position using Nat.strongRecOn with
  | ind position ih =>
    have hsize : min 8192 position ≤ position := min_le_right ..
    rw [readBackwards, if_pos hpos]
    simp only [Lines.block_append_drop hsize]
    split
    · next hstop =>
      obtain htwo | hstart := hstop
      · -- the last line of the buffer is complete, because another one begins before it
        simp only [fullByteLines_eq] at htwo ⊢
        have hsplit := List.take_append_drop (position - min 8192 position) contents
        have hlast := Lines.getLast?_fullLines_append htwo (contents.take (position - min 8192 position))
        rw [hsplit] at hlast
        rw [hashOfLast, hashOfLast, hlast]
      · rw [hstart, List.drop_zero]
    · next hstop =>
      refine ih _ ?_ ?_ <;> omega

/-- The hash is that of the last line of the file that is not blank, whatever its bytes. -/
theorem readLastHashFromPath_some (validate : List ℕ → Except ε AuditEvent) (contents : List ℕ) :
    readLastHashFromPath validate (some contents) = hashOfLast validate (fullByteLines contents) := by
  rw [readLastHashFromPath]
  split
  · next hempty =>
    rw [List.length_eq_zero_iff.mp hempty]
    rfl
  · next hempty =>
    have h := readBackwards_eq validate contents (Nat.pos_of_ne_zero hempty)
    rwa [List.drop_length] at h

/-! ## Files of events -/

/-- A line with an event in it, with its end. Like any text of JSON it is not blank, and it has no line end
inside. -/
structure EventLine (validate : List ℕ → Except ε AuditEvent) where
  bytes : List ℕ
  ending : List ℕ
  event : AuditEvent
  oneLine : ∀ b ∈ bytes, isBreakByte b = false
  full : ∃ b ∈ bytes, isSpaceByte b = false
  ended : ending = [10] ∨ ending = [13, 10]
  parses : validate bytes = .ok event

/-- The lines one after another -/
def joinLines (lines : List (EventLine validate)) : List ℕ :=
  lines.flatMap fun line => line.bytes ++ line.ending

namespace EventLine

theorem fullLines_append (line : EventLine validate) (rest : List ℕ) :
    Lines.fullLines isBreakByte isSpaceByte (line.bytes ++ line.ending ++ rest) =
      line.bytes :: Lines.fullLines isBreakByte isSpaceByte rest := by
  have hline := Lines.fullLines_eq_singleton line.oneLine line.full
  obtain hending | hending := line.ended
  · rw [hending, List.append_assoc, List.singleton_append, Lines.fullLines_append_cons (by decide), hline,
      List.singleton_append]
  · rw [hending, List.append_assoc, List.cons_append, List.singleton_append,
      Lines.fullLines_append_cons (by decide), hline, Lines.fullLines_cons (by decide), List.singleton_append]

end EventLine

theorem fullByteLines_joinLines (lines : List (EventLine validate)) {blanks : List ℕ}
    (hblanks : ∀ b ∈ blanks, isSpaceByte b = true) :
    fullByteLines (joinLines lines ++ blanks) = lines.map EventLine.bytes := by
  rw [fullByteLines_eq]
  induction lines with
  | nil => exact Lines.fullLines_eq_nil hblanks
  | cons line lines ih =>
    rw [joinLines, List.flatMap_cons, List.append_assoc, line.fullLines_append, List.map_cons, ← ih]
    rfl

theorem hashOfLast_lines (lines : List (EventLine validate)) :
    hashOfLast validate (lines.map EventLine.bytes) = .ok (lines.getLast?.bind fun line => line.event.hash) := by
  rw [hashOfLast, List.getLast?_map]
  cases lines.getLast? with
  | none => rfl
  | some line =>
    simp only [Option.map_some, line.parses]
    rfl

/-! ## Files of the trail -/

/-- The numbers of the payload are dumped without control characters. -/
def AuditEvent.PrintablePayload (e : AuditEvent) : Prop := e.payload.NumbersPrintable

theorem numbersPrintable_jsonOfText (text : Option String) : (jsonOfText text).NumbersPrintable := by
  cases text with
  | none => exact Json.numbersPrintable_null
  | some text => exact Json.numbersPrintable_str text

theorem AuditEvent.printable_line {e : AuditEvent} (h : e.PrintablePayload) : ∀ c ∈ e.line, Json.Printable c := by
  refine Json.printable_dumps _ (Json.fieldsPrintable_iff.mpr ?_)
  simp only [material, List.cons_append, List.nil_append, List.forall_mem_cons]
  exact ⟨Json.numbersPrintable_str _, Json.numbersPrintable_str _, Json.numbersPrintable_str _, h,
    numbersPrintable_jsonOfText _, numbersPrintable_jsonOfText _, List.forall_mem_nil _⟩

theorem encode_printable {c : Char} (h : Json.Printable c) : Utf8.encode c = [c.toNat] := by
  have hascii : c.toNat < 0x80 := by
    have := h.2
    omega
  rw [Utf8.encode, if_pos hascii]

theorem AuditEvent.printable_lineBytes {e : AuditEvent} (h : e.PrintablePayload) :
    ∀ b ∈ e.lineBytes, 32 ≤ b ∧ b < 127 := by
  intro b hb
  obtain ⟨c, hc, hb⟩ := List.mem_flatMap.mp hb
  have hprintable := printable_line h c hc
  rw [encode_printable hprintable, List.mem_singleton] at hb
  exact hb ▸ hprintable

theorem AuditEvent.full_lineBytes (e : AuditEvent) : ∃ b ∈ e.lineBytes, isSpaceByte b = false := by
  have hbrace : '\x7b' ∈ e.line := by
    rw [line, Json.dumps]
    simp
  exact ⟨123, List.mem_flatMap.mpr ⟨_, hbrace, List.mem_singleton.mpr rfl⟩, rfl⟩

/-- The line that `append` writes -/
def AuditEvent.eventLine (e : AuditEvent) (hprintable : e.PrintablePayload) (hparses : validate e.lineBytes = .ok e) :
    EventLine validate where
  bytes := e.lineBytes
  ending := [10]
  event := e
  oneLine b hb := by
    obtain ⟨hlow, -⟩ := e.printable_lineBytes hprintable b hb
    simp only [isBreakByte, Bool.or_eq_false_iff, decide_eq_false_iff_not]
    omega
  full := e.full_lineBytes
  ended := .inl rfl
  parses := hparses

theorem fileBytes_eq_joinLines {events : List AuditEvent} (hprintable : ∀ e ∈ events, e.PrintablePayload)
    (hparses : ∀ e ∈ events, validate e.lineBytes = .ok e) :
    ∃ lines : List (EventLine validate), fileBytes events = joinLines lines ∧
      lines.map EventLine.event = events := by
  induction events with
  | nil => exact ⟨[], rfl, rfl⟩
  | cons e events ih =>
    rw [List.forall_mem_cons] at hprintable hparses
    obtain ⟨lines, hbytes, hevents⟩ := ih hprintable.2 hparses.2
    refine ⟨e.eventLine hprintable.1 hparses.1 :: lines, ?_, congrArg (e :: ·) hevents⟩
    rw [joinLines, List.flatMap_cons, ← joinLines, ← hbytes]
    rfl

/-- `path.stat().st_size` is the number of the bytes. -/
theorem length_fileBytes {events : List AuditEvent} (hprintable : ∀ e ∈ events, e.PrintablePayload) :
    (fileBytes events).length = fileSize events := by
  induction events with
  | nil => rfl
  | cons e events ih =>
    rw [List.forall_mem_cons] at hprintable
    have hline : e.lineBytes = e.line.map Char.toNat := by
      rw [AuditEvent.lineBytes, List.map_eq_flatMap]
      exact List.flatMap_congr fun c hc => encode_printable (AuditEvent.printable_line hprintable.1 c hc)
    have hsize : fileSize (e :: events) = e.line.length + 1 + fileSize events := by
      simp only [fileSize, List.map_cons, List.sum_cons]
    rw [fileBytes, List.flatMap_cons, List.length_append, ← fileBytes, ih hprintable.2, hline, hsize,
      List.length_append, List.length_map, List.length_singleton]

theorem readLastHashFromPath_fileBytes {events : List AuditEvent} (hprintable : ∀ e ∈ events, e.PrintablePayload)
    (hparses : ∀ e ∈ events, validate e.lineBytes = .ok e) :
    readLastHashFromPath validate (some (fileBytes events)) =
      .ok (events.getLast?.bind AuditEvent.hash) := by
  obtain ⟨lines, hbytes, hevents⟩ := fileBytes_eq_joinLines hprintable hparses
  rw [readLastHashFromPath_some, hbytes, ← List.append_nil (joinLines lines),
    fullByteLines_joinLines lines (fun _ hb => absurd hb List.not_mem_nil), ← hevents, hashOfLast_lines,
    List.getLast?_map]
  cases lines.getLast? <;> rfl

/-- The readings of the trail over its files of events are those of the reader over their bytes. -/
theorem readLastHashOfPaths_chain {files : AuditFiles} (hprintable : ∀ e ∈ files.events, e.PrintablePayload)
    (hparses : ∀ e ∈ files.events, validate e.lineBytes = .ok e) :
    readLastHashOfPaths validate (files.chain.reverse.map fileBytes) = .ok files.readLastHash := by
  have hchain : ∀ events ∈ files.chain.reverse, ∀ e ∈ events, e.PrintablePayload ∧ validate e.lineBytes = .ok e := by
    intro events hevents e he
    have hmem : e ∈ files.events := List.mem_flatten.mpr ⟨events, List.mem_reverse.mp hevents, he⟩
    exact ⟨hprintable e hmem, hparses e hmem⟩
  rw [AuditFiles.readLastHash]
  generalize files.chain.reverse = chain at hchain ⊢
  induction chain with
  | nil => rfl
  | cons events rest ih =>
    rw [List.forall_mem_cons] at hchain
    rw [List.map_cons, readLastHashOfPaths, readLastHashFromPath_fileBytes (fun e he => (hchain.1 e he).1)
      fun e he => (hchain.1 e he).2, List.findSome?_cons]
    cases events.getLast?.bind AuditEvent.hash with
    | none => exact ih hchain.2
    | some last => rfl

/-! ## The last line -/

/-- The reader ends, and finds the last line that is not blank: for any contents it validates that line of
the file, and of a file of events, with any blanks behind them, it returns the hash of the last event. -/
theorem readLastHashFromPath_last (validate : List ℕ → Except ε AuditEvent) :
    (∀ contents, readLastHashFromPath validate (some contents) =
      hashOfLast validate (fullByteLines contents)) ∧
    ∀ (lines : List (EventLine validate)) (blanks : List ℕ), (∀ b ∈ blanks, isSpaceByte b = true) →
      readLastHashFromPath validate (some (joinLines lines ++ blanks)) =
        .ok (lines.getLast?.bind fun line => line.event.hash) := by
  refine ⟨readLastHashFromPath_some validate, fun lines blanks hblanks => ?_⟩
  rw [readLastHashFromPath_some, fullByteLines_joinLines lines hblanks, hashOfLast_lines]

/-- A text that is longer than a block -/
def longText : String := String.ofList (List.replicate 9000 'x')

/-- An event whose line is longer than a block -/
def longEvent : AuditEvent where
  eventId := "e1"
  eventType := "job.created"
  occurredAt := "2026-01-01T00:00:00.000002Z"
  payload := .obj [("note", .str longText)]
  hash := some "b25c65fd"

/-- Validation, where there is one text that it takes -/
def validateLong (bytes : List ℕ) : Except Unit AuditEvent :=
  if bytes = longEvent.lineBytes then .ok longEvent else .error ()

theorem readLastHashFromPath_last_long :
    readLastHashFromPath validateLong (some (longEvent.lineBytes ++ [10] ++ [32, 10, 10])) =
      .ok (some "b25c65fd") := by
  have hparses : validateLong longEvent.lineBytes = .ok longEvent := if_pos rfl
  have hprintable : longEvent.PrintablePayload := by
    rw [AuditEvent.PrintablePayload, longEvent, Json.NumbersPrintable, Json.fieldsPrintable_iff, List.forall_mem_singleton]
    exact Json.numbersPrintable_str _
  have h := (readLastHashFromPath_last validateLong).2 [longEvent.eventLine hprintable hparses] [32, 10, 10]
    (by decide)
  rw [joinLines, List.flatMap_singleton] at h
  exact h

end Gpucall.Audit
