import Mathlib.Algebra.Order.BigOperators.Group.List
import Mathlib.Algebra.Ring.Nat
import Mathlib.Data.List.Sort
import Gpucall.Json
import Gpucall.Lib.HashChain

/-! `AuditTrail` of `audit.py`: a chain of events over the files of one directory. The critical
sections of its file lock are single steps, so the calls of all the trails on one path make one
sequence. A file is the list of its events: dumping and parsing an event is taken to round-trip. -/

namespace Gpucall

mutual
/-- The value with the keys of its objects in order, at all depths. -/
def Json.sorted : Json → Json
  | .arr items => .arr (sortedItems items)
  | .obj fields => .obj ((sortedFields fields).insertionSort (·.1 ≤ ·.1))
  | value => value

def Json.sortedItems : List Json → List Json
  | [] => []
  | item :: items => item.sorted :: sortedItems items

def Json.sortedFields : List (String × Json) → List (String × Json)
  | [] => []
  | (name, value) :: fields => (name, value.sorted) :: sortedFields fields
end

namespace Audit

structure AuditEvent where
  eventId : String
  eventType : String
  occurredAt : String
  payload : Json
  previousHash : Option String := none
  hash : Option String := none

/-- What the trail uses of the standard library: SHA-256 in hexadecimal digits, and the texts of an
instant as `isoformat()` and as a dumped model have them. -/
structure AuditBuiltins where
  sha256 : List Char → String
  isoformat : ℕ → String
  dumpTime : ℕ → String

def jsonOfText (text : Option String) : Json := text.elim .null .str

namespace AuditEvent

/-- `event.model_dump(mode="json", exclude={"hash"})` -/
def material (e : AuditEvent) : List (String × Json) :=
  [("event_id", .str e.eventId), ("event_type", .str e.eventType),
    ("occurred_at", .str e.occurredAt), ("payload", e.payload),
    ("previous_hash", jsonOfText e.previousHash)]

/-- The line of the event without its end. -/
def line (e : AuditEvent) : List Char :=
  (Json.obj (e.material ++ [("hash", jsonOfText e.hash)])).dumps true

/-- `_hash` of the material -/
def actualHash (py : AuditBuiltins) (e : AuditEvent) : String :=
  py.sha256 ((Json.obj e.material).dumps true)

end AuditEvent

/-- The files of a trail. A rotated file is named by the second of its rotation; the names have a
fixed width and sort as the seconds do. -/
structure AuditFiles where
  rotated : List (ℕ × List AuditEvent) := []
  current : Option (List AuditEvent) := none

/-- Instants are readings of the wall clock in microseconds. -/
def stampOf (now : ℕ) : ℕ := now / 1000000

/-- `path.stat().st_size` -/
def fileSize (events : List AuditEvent) : ℕ := (events.map fun e => e.line.length + 1).sum

namespace AuditFiles

variable (files : AuditFiles)

/-- The contents of `_chain_paths()`. -/
def chain : List (List AuditEvent) :=
  (files.rotated.insertionSort (·.1 ≤ ·.1)).map Prod.snd ++ files.current.toList

/-- The events of the chain, in its order. -/
def events : List AuditEvent := files.chain.flatten

/-- `_read_last_hash` -/
def readLastHash : Option String :=
  files.chain.reverse.findSome? fun events => events.getLast?.bind (·.hash)

def verify (py : AuditBuiltins) : Bool :=
  HashChain.check AuditEvent.previousHash AuditEvent.hash
    (fun e => e.hash = some (e.actualHash py)) none files.events

/-- The event that `append` makes, at two readings of the clock. The payload is the one that
`redact_for_audit` returns. -/
def newEvent (py : AuditBuiltins) (now occurredAt : ℕ) (eventType : String) (payload : Json) :
    AuditEvent :=
  let previous := files.readLastHash
  let event : AuditEvent :=
    { eventId := py.sha256 (py.isoformat now ++ ":" ++ eventType ++ ":" ++
        previous.getD "None").toList
      eventType, occurredAt := py.dumpTime occurredAt, payload, previousHash := previous }
  { event with hash := some (event.actualHash py) }

def append (event : AuditEvent) : AuditFiles :=
  { files with current := some (files.current.getD [] ++ [event]) }

/-- The file is there and has reached the size. -/
def rotationNeeded (maxBytes : ℤ) : Bool :=
  0 < maxBytes && files.current.any fun events => maxBytes ≤ fileSize events

/-- `os.replace` of the current file, which overwrites a file of the same name. -/
def rotate (now : ℕ) : AuditFiles where
  rotated := files.rotated.filter (·.1 ≠ stampOf now) ++
    files.current.toList.map fun events => (stampOf now, events)
  current := none

/-- The critical section of `rotate_if_needed`. The check before it can only leave the files as they
are. -/
def rotateIfNeeded (now : ℕ) (maxBytes : ℤ) : AuditFiles :=
  if files.rotationNeeded maxBytes then files.rotate now else files

end AuditFiles

/-! ## Sequences of calls -/

/-- A call of one of the trails on the path, with its readings of the clock. -/
inductive AuditCall where
  | append (now occurredAt : ℕ) (eventType : String) (payload : Json)
  | rotateIfNeeded (now : ℕ) (maxBytes : ℤ)

def AuditCall.readings : AuditCall → List ℕ
  | append now occurredAt _ _ => [now, occurredAt]
  | rotateIfNeeded now _ => [now]

/-- The files, and the events that were appended. -/
structure AuditState where
  files : AuditFiles := {}
  appended : List AuditEvent := []

namespace AuditState

variable (py : AuditBuiltins)

def exec (s : AuditState) : AuditCall → AuditState
  | .append now occurredAt eventType payload =>
    let event := s.files.newEvent py now occurredAt eventType payload
    { files := s.files.append event, appended := s.appended ++ [event] }
  | .rotateIfNeeded now maxBytes => { s with files := s.files.rotateIfNeeded now maxBytes }

def run (calls : List AuditCall) : AuditState := calls.foldl (exec py) {}

/-- No event is lost, the files have them in order, and the chain is valid. -/
structure Intact (s : AuditState) : Prop where
  events : s.files.events = s.appended
  verified : s.files.verify py = true

/-- The call rotates the file to a name that is taken. -/
def Overwrites (s : AuditState) : AuditCall → Prop
  | .append .. => False
  | .rotateIfNeeded now maxBytes =>
    s.files.rotationNeeded maxBytes = true ∧ stampOf now ∈ s.files.rotated.map Prod.fst

end AuditState

section

variable {py : AuditBuiltins} {files : AuditFiles} {s : AuditState}

theorem AuditFiles.events_append (event : AuditEvent) :
    (files.append event).events = files.events ++ [event] := by
  unfold events chain append
  cases files.current <;> simp

theorem AuditFiles.length_events : files.events.length =
    (files.rotated.map fun x => x.2.length).sum + (files.current.map List.length).getD 0 := by
  have hperm := List.perm_insertionSort (fun a b : ℕ × List AuditEvent => a.1 ≤ b.1) files.rotated
  have hsum := (hperm.map fun x => x.2.length).sum_nat
  unfold events chain
  rw [List.flatten_append, List.length_append, List.length_flatten, List.map_map, ← hsum]
  cases files.current <;> simp [Function.comp_def]

/-- A trail whose rotations came in different seconds, none after the readings to come. -/
structure AuditState.Sound (py : AuditBuiltins) (future : List ℕ) (s : AuditState) : Prop
    extends s.Intact py where
  hashed : ∀ e ∈ s.appended, e.hash ≠ none
  sorted : s.files.rotated.Pairwise fun a b => a.1 < b.1
  past : ∀ x ∈ s.files.rotated, ∀ t ∈ future, x.1 ≤ stampOf t
  nonempty : ∀ x ∈ s.files.rotated, x.2 ≠ []

theorem AuditFiles.readLastHash_eq (hhashed : ∀ e ∈ files.events, e.hash ≠ none) :
    files.readLastHash = HashChain.lastHash AuditEvent.hash none files.events :=
  HashChain.lastHash_flatten hhashed

theorem AuditState.Sound.append {now occurredAt : ℕ} {future : List ℕ}
    (h : s.Sound py (now :: occurredAt :: future)) (eventType : String) (payload : Json) :
    (s.exec py (.append now occurredAt eventType payload)).Sound py future where
  events := by
    show (s.files.append _).events = _
    rw [AuditFiles.events_append, h.events]
    rfl
  verified := by
    show HashChain.check _ _ _ none (s.files.append _).events = true
    rw [AuditFiles.events_append]
    refine HashChain.check_concat h.verified ?_ ?_
    · exact AuditFiles.readLastHash_eq (h.events ▸ h.hashed)
    · exact decide_eq_true rfl
  hashed e he := by
    obtain he | he := List.mem_append.mp he
    · exact h.hashed e he
    · rw [List.mem_singleton.mp he]
      exact Option.some_ne_none _
  sorted := h.sorted
  past x hx t ht := h.past x hx t (by simp [ht])
  nonempty := h.nonempty

/-- Files in the order of their seconds are in the order of their names. -/
theorem AuditFiles.events_eq (hsorted : files.rotated.Pairwise fun a b => a.1 < b.1) :
    files.events = (files.rotated.map Prod.snd ++ files.current.toList).flatten := by
  unfold events chain
  rw [List.Pairwise.insertionSort_eq (hsorted.imp le_of_lt)]

theorem AuditFiles.rotationNeeded_iff {maxBytes : ℤ} : files.rotationNeeded maxBytes = true ↔
    ∃ events, files.current = some events ∧ 0 < maxBytes ∧ maxBytes ≤ fileSize events := by
  unfold rotationNeeded
  cases files.current <;> simp

/-- The file that a rotation moves has events. -/
theorem AuditFiles.ne_nil_of_rotationNeeded {maxBytes : ℤ} {events : List AuditEvent}
    (hpos : 0 < maxBytes) (hsize : maxBytes ≤ fileSize events) : events ≠ [] := by
  rintro rfl
  have hzero : fileSize [] = 0 := rfl
  omega

theorem AuditFiles.rotate_eq {now : ℕ} {events : List AuditEvent}
    (hcurrent : files.current = some events)
    (hfree : stampOf now ∉ files.rotated.map Prod.fst) :
    files.rotate now = ⟨files.rotated ++ [(stampOf now, events)], none⟩ := by
  have hfilter : files.rotated.filter (·.1 ≠ stampOf now) = files.rotated := by
    refine List.filter_eq_self.mpr fun x hx => decide_eq_true fun heq => hfree ?_
    exact heq ▸ List.mem_map_of_mem hx
  unfold rotate
  rw [hfilter, hcurrent]
  rfl

theorem AuditState.Sound.rotate {now : ℕ} {maxBytes : ℤ} {future : List ℕ}
    (h : s.Sound py (now :: future)) (hfuture : ∀ t ∈ future, now ≤ t)
    (hfree : ¬s.Overwrites (.rotateIfNeeded now maxBytes)) :
    (s.exec py (.rotateIfNeeded now maxBytes)).Sound py future := by
  show Sound py future { s with files := s.files.rotateIfNeeded now maxBytes }
  unfold AuditFiles.rotateIfNeeded
  by_cases hneeded : s.files.rotationNeeded maxBytes = true
  · rw [if_pos hneeded]
    obtain ⟨events, hcurrent, hpos, hsize⟩ := AuditFiles.rotationNeeded_iff.mp hneeded
    have hstamp : stampOf now ∉ s.files.rotated.map Prod.fst := fun hmem => hfree ⟨hneeded, hmem⟩
    rw [AuditFiles.rotate_eq hcurrent hstamp]
    have hlt : ∀ x ∈ s.files.rotated, x.1 < stampOf now := fun x hx =>
      lt_of_le_of_ne (h.past x hx now List.mem_cons_self)
        fun heq => hstamp (heq ▸ List.mem_map_of_mem hx)
    have hsorted : (s.files.rotated ++ [(stampOf now, events)]).Pairwise fun a b => a.1 < b.1 :=
      List.pairwise_append.mpr ⟨h.sorted, List.pairwise_singleton _ _,
        fun x hx y hy => List.mem_singleton.mp hy ▸ hlt x hx⟩
    have hsame : AuditFiles.events ⟨s.files.rotated ++ [(stampOf now, events)], none⟩ =
        s.files.events := by
      rw [AuditFiles.events_eq hsorted, AuditFiles.events_eq h.sorted, hcurrent]
      simp
    refine { events := hsame.trans h.events, verified := ?_, hashed := h.hashed, sorted := hsorted,
             past := fun x hx t ht => ?_, nonempty := fun x hx => ?_ }
    · unfold AuditFiles.verify
      rw [hsame]
      exact h.verified
    · obtain hx | hx := List.mem_append.mp hx
      · exact h.past x hx t (List.mem_cons_of_mem _ ht)
      · rw [List.mem_singleton.mp hx]
        exact Nat.div_le_div_right (hfuture t ht)
    · obtain hx | hx := List.mem_append.mp hx
      · exact h.nonempty x hx
      · rw [List.mem_singleton.mp hx]
        exact AuditFiles.ne_nil_of_rotationNeeded hpos hsize
  · rw [if_neg hneeded]
    exact { h with past := fun x hx t ht => h.past x hx t (List.mem_cons_of_mem _ ht) }

/-- A file that is overwritten takes its events with it. -/
theorem AuditFiles.length_events_rotate {now : ℕ} {events : List AuditEvent} {x : ℕ × List AuditEvent}
    (hcurrent : files.current = some events) (hx : x ∈ files.rotated) (hstamp : x.1 = stampOf now)
    (hne : x.2 ≠ []) : (files.rotate now).events.length < files.events.length := by
  have hlost : ((files.rotated.filter (·.1 ≠ stampOf now)).map fun x => x.2.length).sum <
      (files.rotated.map fun x => x.2.length).sum := by
    have hperm := (List.filter_append_perm (fun x => decide (x.1 ≠ stampOf now)) files.rotated).map
      fun x => x.2.length
    have hmem : x.2.length ∈ (files.rotated.filter fun x => !decide (x.1 ≠ stampOf now)).map
        fun x => x.2.length :=
      List.mem_map_of_mem (List.mem_filter.mpr ⟨hx, by simp [hstamp]⟩)
    have hle := List.single_le_sum (fun _ _ => Nat.zero_le _) _ hmem
    have hpos := List.length_pos_of_ne_nil hne
    rw [← hperm.sum_nat, List.map_append, List.sum_append]
    omega
  rw [length_events, length_events, hcurrent]
  simp only [rotate, hcurrent, Option.toList_some, List.map_append, List.sum_append]
  simpa using hlost

theorem AuditState.Sound.not_intact {call : AuditCall} {future : List ℕ} (h : s.Sound py future)
    (hoverwrites : s.Overwrites call) : ¬(s.exec py call).Intact py := by
  rintro ⟨hevents, -⟩
  cases call with
  | append => exact hoverwrites
  | rotateIfNeeded now maxBytes =>
    obtain ⟨hneeded, hstamp⟩ := hoverwrites
    obtain ⟨events, hcurrent, -⟩ := AuditFiles.rotationNeeded_iff.mp hneeded
    obtain ⟨x, hx, heq⟩ := List.mem_map.mp hstamp
    have hless := AuditFiles.length_events_rotate hcurrent hx heq (h.nonempty x hx)
    have hsame : (s.files.rotate now).events = s.files.events := by
      simpa [exec, AuditFiles.rotateIfNeeded, hneeded, h.events] using hevents
    rw [hsame] at hless
    exact Nat.lt_irrefl _ hless

theorem AuditState.Sound.exec {call : AuditCall} {future : List ℕ}
    (h : s.Sound py (call.readings ++ future)) (hclock : (call.readings ++ future).Pairwise (· ≤ ·))
    (hfree : ¬s.Overwrites call) : (s.exec py call).Sound py future := by
  cases call with
  | append => exact h.append ..
  | rotateIfNeeded => exact h.rotate (List.pairwise_cons.mp hclock).1 hfree

theorem AuditState.Sound.empty {future : List ℕ} : Sound py future {} where
  events := rfl
  verified := rfl
  hashed _ he := absurd he List.not_mem_nil
  sorted := .nil
  past _ hx := absurd hx List.not_mem_nil
  nonempty _ hx := absurd hx List.not_mem_nil

theorem AuditState.Sound.intact_iff {calls : List AuditCall}
    (h : s.Sound py (calls.flatMap AuditCall.readings))
    (hclock : (calls.flatMap AuditCall.readings).Pairwise (· ≤ ·)) :
    (∀ n, ((calls.take n).foldl (AuditState.exec py) s).Intact py) ↔
      ∀ n call, calls[n]? = some call → ¬((calls.take n).foldl (AuditState.exec py) s).Overwrites call := by
  induction calls generalizing s with
  | nil => simpa using h.toIntact
  | cons first calls ih =>
    rw [List.flatMap_cons] at h hclock
    -- the first call keeps the state sound or loses a file, and the rest is a run from there
    by_cases hfree : s.Overwrites first
    · refine iff_of_false (fun hintact => ?_) fun hall => hall 0 first rfl hfree
      exact h.not_intact hfree (hintact 1)
    · have ih := ih (h.exec hclock hfree) (List.pairwise_append.mp hclock).2.1
      constructor
      · intro hintact n call hcall
        cases n with
        | zero =>
          obtain rfl : first = call := Option.some.inj hcall
          exact hfree
        | succ n => exact ih.mp (fun n => hintact (n + 1)) n call hcall
      · intro hall n
        cases n with
        | zero => exact h.toIntact
        | succ n => exact ih.mpr (fun n call hcall => hall (n + 1) call hcall) n

end

/-- The chain survives every sequence of calls under the file lock in which no rotation comes in the
second of an earlier one. -/
theorem intact_iff_not_overwrites (py : AuditBuiltins) {calls : List AuditCall}
    (hclock : (calls.flatMap AuditCall.readings).Pairwise (· ≤ ·)) :
    (∀ n, (AuditState.run py (calls.take n)).Intact py) ↔
      ∀ n call, calls[n]? = some call → ¬(AuditState.run py (calls.take n)).Overwrites call :=
  AuditState.Sound.empty.intact_iff hclock

/-- The texts and digests of two appends, a second apart. -/
def twoAppendBuiltins : AuditBuiltins where
  isoformat t := if t = 1767225600000001 then "2026-01-01T00:00:00.000001+00:00"
    else "2026-01-01T00:00:01.000001+00:00"
  dumpTime t := if t = 1767225600000002 then "2026-01-01T00:00:00.000002Z"
    else "2026-01-01T00:00:01.000002Z"
  sha256 text :=
    if text = "2026-01-01T00:00:00.000001+00:00:job.created:None".toList then
      "061a7b688f9a47132abb556d725814ee4b121958a0f59c40267397b2b4483ba4"
    else if text = ("2026-01-01T00:00:01.000001+00:00:job.created:" ++
        "b25c65fdddb6c0f0b1173fa837f81c2446d290f2bb7f3fe02ce672455c07c165").toList then
      "5192b8cb212d1ec182e0c792a626529eb124d62f06983283d54f1e63b46c422c"
    else if "null\x7d".toList <:+ text then
      "b25c65fdddb6c0f0b1173fa837f81c2446d290f2bb7f3fe02ce672455c07c165"
    else "1253b8a4fa5b8c55bcd466438bcc183cf418d2e11e1300bc17bce37a5bb1d0e9"

def twoAppendCalls : List AuditCall :=
  [.append 1767225600000001 1767225600000002 "job.created" (.obj []),
    .rotateIfNeeded 1767225600500000 1,
    .append 1767225601000001 1767225601000002 "job.created" (.obj [])]

theorem intact_iff_not_overwrites_twoAppend :
    (twoAppendCalls.flatMap AuditCall.readings).Pairwise (· ≤ ·) ∧
      ∀ n, (AuditState.run twoAppendBuiltins (twoAppendCalls.take n)).Intact twoAppendBuiltins := by
  refine ⟨by decide, (intact_iff_not_overwrites twoAppendBuiltins (by decide)).mpr
    fun n call hcall => ?_⟩
  match n with
  | 0 =>
    obtain rfl := Option.some.inj hcall
    exact id
  | 1 =>
    obtain rfl := Option.some.inj hcall
    exact fun ⟨_, hstamp⟩ => List.not_mem_nil hstamp
  | 2 =>
    obtain rfl := Option.some.inj hcall
    exact id
  | n + 3 => cases hcall

/-- The file that the second rotation of a second moves takes the place of the first. -/
theorem not_alwaysIntact : ¬∃ py, ∀ calls : List AuditCall,
    (calls.flatMap AuditCall.readings).Pairwise (· ≤ ·) →
      ∀ n, (AuditState.run py (calls.take n)).Intact py := by
  rintro ⟨py, hintact⟩
  let calls : List AuditCall :=
    [.append 0 0 "job.created" (.obj []), .rotateIfNeeded 0 1,
      .append 0 0 "job.created" (.obj []), .rotateIfNeeded 0 1]
  have hclock : (calls.flatMap AuditCall.readings).Pairwise (· ≤ ·) := by decide
  have hfree := (AuditState.Sound.empty.intact_iff hclock).mp (hintact calls hclock)
  refine hfree 3 _ rfl ⟨?_, ?_⟩
  · simp [calls, AuditState.exec, AuditFiles.append, AuditFiles.rotateIfNeeded,
      AuditFiles.rotationNeeded, AuditFiles.rotate, fileSize]
  · simp [calls, AuditState.exec, AuditFiles.append, AuditFiles.rotateIfNeeded,
      AuditFiles.rotationNeeded, AuditFiles.rotate, fileSize]

/-! ## Tampering -/

/-- The event with the keys of its payload in order, at all depths: equal for two events exactly when
Python's `==` takes them for equal. -/
def AuditEvent.sorted (e : AuditEvent) : AuditEvent := { e with payload := e.payload.sorted }

theorem jsonOfText_inj {a b : Option String} (h : jsonOfText a = jsonOfText b) : a = b := by
  cases a <;> cases b <;> simp_all [jsonOfText]

theorem AuditEvent.eq_of_material {e e' : AuditEvent} (h : e.material = e'.material)
    (hhash : e.hash = e'.hash) : e = e' := by
  obtain ⟨eventId, eventType, occurredAt, payload, previousHash, hash⟩ := e
  simp only [material, List.cons.injEq, Prod.mk.injEq, Json.str.injEq, true_and, and_true] at h
  obtain ⟨rfl, rfl, rfl, rfl, hprevious⟩ := h
  obtain rfl := jsonOfText_inj hprevious
  obtain rfl := hhash
  rfl

/-- Two trails that are accepted and end in the same hash have the same events, if the digest has no
collisions and the canonical dump tells different events apart. -/
theorem verify_tamper_evident (py : AuditBuiltins) (files files' : AuditFiles)
    (last last' : AuditEvent) (hsha : Function.Injective py.sha256)
    (hdump : ∀ e ∈ files.events, ∀ e' ∈ files'.events,
      (Json.obj e.material).dumps true = (Json.obj e'.material).dumps true →
        e.sorted.material = e'.sorted.material)
    (hverify : files.verify py = true) (hverify' : files'.verify py = true)
    (hlast : files.events.getLast? = some last)
    (hlast' : files'.events.getLast? = some last') (hhash : last.hash = last'.hash) :
    files.events.map AuditEvent.sorted = files'.events.map AuditEvent.sorted := by
  refine HashChain.map_eq_of_lastHash_eq (fun e hvalid => ?_) (fun e e' hsame => ?_)
    (fun e he e' he' hvalid hvalid' hequal => ?_) hverify hverify' ?_
  · rw [of_decide_eq_true hvalid]
    exact Option.some_ne_none _
  · have hprevious := congrArg AuditEvent.previousHash hsame
    exact hprevious
  · have hactual : e.actualHash py = e'.actualHash py :=
      Option.some.inj ((of_decide_eq_true hvalid).symm.trans
        (hequal.trans (of_decide_eq_true hvalid')))
    exact AuditEvent.eq_of_material (hdump e he e' he' (hsha hactual)) hequal
  · rw [HashChain.lastHash, HashChain.lastHash, hlast, hlast']
    exact hhash

/-- A digest without collisions -/
def plainBuiltins : AuditBuiltins where
  sha256 := String.ofList
  isoformat := toString
  dumpTime := toString

def firstEvent : AuditEvent := AuditFiles.newEvent {} plainBuiltins 1 2 "job.created" (.obj [])

/-- The first event of a trail, before a rotation and after it. -/
theorem verify_tamper_evident_rotated :
    (AuditFiles.events { current := some [firstEvent] }).map AuditEvent.sorted =
      (AuditFiles.events { rotated := [(2, [firstEvent])] }).map AuditEvent.sorted := by
  have hverify : HashChain.check AuditEvent.previousHash AuditEvent.hash
      (fun e => e.hash = some (e.actualHash plainBuiltins)) none [firstEvent] = true :=
    HashChain.check_concat (show HashChain.check _ _ _ none [] = true from rfl) rfl
      (decide_eq_true rfl)
  refine verify_tamper_evident plainBuiltins { current := some [firstEvent] }
    { rotated := [(2, [firstEvent])] } firstEvent firstEvent
    (fun _ _ h => String.ofList_injective h) (fun e he e' he' _ => ?_) hverify hverify rfl rfl rfl
  rw [List.mem_singleton.mp he, List.mem_singleton.mp he']

end Audit

end Gpucall
