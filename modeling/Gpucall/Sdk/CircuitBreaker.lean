import Gpucall.Text
import Mathlib.Data.List.DropRight
import Mathlib.Tactic.Linarith

/-! The circuit breaker that the SDK gives to callers. It is keyed by task, intent, mode and transport, and what it
answers for a key is determined by the history of that key alone. -/

namespace Gpucall

/-! ## Scopes -/

structure GPUCallCircuitScope where
  task : String
  intent : String
  mode : String
  transport : String
  deriving DecidableEq

/-- The parts of a key in their order. -/
def GPUCallCircuitScope.parts (scope : GPUCallCircuitScope) : List String :=
  [scope.task, scope.intent, scope.mode, scope.transport].map strip

/-- `GPUCallCircuitScope.key` -/
def GPUCallCircuitScope.key (scope : GPUCallCircuitScope) : Except String String :=
  if "" ∈ scope.parts then .error "circuit breaker scope requires task, intent, mode, and transport"
  else .ok (":".intercalate scope.parts)

/-- What a caller may name a circuit with. -/
inductive CircuitName where
  | scope (scope : GPUCallCircuitScope)
  | text (text : String)

/-- `_coerce_key` -/
def coerceKey : CircuitName → Except String String
  | .scope scope => scope.key
  | .text text =>
    let key := strip text
    if key.toList.count ':' < 3 then .error "circuit breaker scope key must include task:intent:mode:transport"
    else .ok key

/-! ## The breaker -/

/-- An exception that a call of the gateway ended with. -/
inductive CallerException where
  | providerRuntime (statusCode : ℤ)
  | other

/-- `is_provider_failure` -/
def isProviderFailure : CallerException → Bool
  | .providerRuntime statusCode => 500 ≤ statusCode
  | .other => false

structure CircuitState where
  failures : ℕ := 0
  openedAt : ℚ := 0

/-- The settings that pass the checks of the constructor. -/
structure GPUCallCircuitBreaker where
  failureThreshold : ℕ
  recoveryTimeoutSeconds : ℚ
  threshold_pos : 1 ≤ failureThreshold
  recovery_nonneg : 0 ≤ recoveryTimeoutSeconds

/-- `GPUCallCircuitBreaker.__init__` -/
def GPUCallCircuitBreaker.init (failureThreshold : ℤ) (recoveryTimeoutSeconds : ℚ) :
    Except String GPUCallCircuitBreaker :=
  if hthreshold : failureThreshold < 1 then .error "failure_threshold must be >= 1"
  else if hrecovery : recoveryTimeoutSeconds < 0 then .error "recovery_timeout_seconds must be >= 0"
  else .ok
    { failureThreshold := failureThreshold.toNat
      recoveryTimeoutSeconds
      threshold_pos := by omega
      recovery_nonneg := not_lt.mp hrecovery }

inductive BreakerCall where
  | beforeRequest
  | recordSuccess
  | recordException (exc : CallerException)
  | failureCount

/-- A call with the name that the caller gives and the time of the monotonic clock. -/
structure BreakerEvent where
  now : ℚ
  name : CircuitName
  call : BreakerCall

/-- The text of `GPUCallCircuitOpenError` -/
def circuitOpenMessage (key : String) : String := "gpucall circuit open for scope " ++ key

inductive BreakerResult where
  | returned
  | count (failures : ℕ)
  | circuitOpen (message : String)
  | valueError (message : String)
  deriving DecidableEq

namespace GPUCallCircuitBreaker

variable (breaker : GPUCallCircuitBreaker)

/-- `before_request`, once the key is known -/
def beforeRequest (states : Dict CircuitState) (key : String) (now : ℚ) : Dict CircuitState × BreakerResult :=
  match states.get? key with
  | none => (states, .returned)
  | some state =>
    if state.openedAt = 0 then (states, .returned)
    else if breaker.recoveryTimeoutSeconds ≤ now - state.openedAt then
      (states.set key { state with openedAt := 0 }, .returned)
    else (states, .circuitOpen (circuitOpenMessage key))

/-- `record_exception` of a provider failure, once the key is known -/
def recordFailure (states : Dict CircuitState) (key : String) (now : ℚ) : Dict CircuitState :=
  let state := (states.get? key).getD {}
  let failures := state.failures + 1
  states.set key
    { failures, openedAt := if breaker.failureThreshold ≤ failures then now else state.openedAt }

def step (states : Dict CircuitState) (event : BreakerEvent) : Dict CircuitState × BreakerResult :=
  let keyed (act : String → Dict CircuitState × BreakerResult) :=
    match coerceKey event.name with
    | .ok key => act key
    | .error message => (states, .valueError message)
  match event.call with
  | .beforeRequest => keyed fun key => breaker.beforeRequest states key event.now
  | .recordSuccess => keyed fun key => (states.pop key, .returned)
  | .recordException exc =>
    -- the name is read only after the exception was found to count
    if isProviderFailure exc then keyed fun key => (breaker.recordFailure states key event.now, .returned)
    else (states, .returned)
  | .failureCount => keyed fun key => (states, .count ((states.get? key).map (·.failures) |>.getD 0))

/-- The states after a run that began with a new breaker. -/
def run (events : List BreakerEvent) : Dict CircuitState :=
  events.foldl (fun states event => (breaker.step states event).1) {}

end GPUCallCircuitBreaker

/-! ## What the history says -/

namespace BreakerEvent

def succeeds (key : String) (event : BreakerEvent) : Bool :=
  match event.call, coerceKey event.name with
  | .recordSuccess, .ok found => found = key
  | _, _ => false

def fails (key : String) (event : BreakerEvent) : Bool :=
  match event.call, coerceKey event.name with
  | .recordException exc, .ok found => isProviderFailure exc && found = key
  | _, _ => false

def concerns (key : String) (event : BreakerEvent) : Bool :=
  match coerceKey event.name with
  | .ok found => found = key
  | .error _ => false

end BreakerEvent

/-- The times of the provider failures of a key since its last success. -/
def recentFailures (key : String) (before : List BreakerEvent) : List ℚ :=
  ((before.rtakeWhile fun event => !event.succeeds key).filter (·.fails key)).map (·.now)

namespace GPUCallCircuitBreaker

variable (breaker : GPUCallCircuitBreaker)

/-- Enough failures, of which the last one is more recent than the recovery timeout. -/
def Tripped (failures : List ℚ) (now : ℚ) : Prop :=
  breaker.failureThreshold ≤ failures.length ∧
    ∃ last ∈ failures.getLast?, now - last < breaker.recoveryTimeoutSeconds

instance (failures : List ℚ) (now : ℚ) : Decidable (breaker.Tripped failures now) :=
  inferInstanceAs (Decidable (_ ∧ ∃ last ∈ failures.getLast?, _))

/-- The answer that the history of the key gives. -/
def answer (before : List BreakerEvent) (event : BreakerEvent) : BreakerResult :=
  match event.call, coerceKey event.name with
  | .beforeRequest, .ok key =>
    if breaker.Tripped (recentFailures key before) event.now then .circuitOpen (circuitOpenMessage key) else .returned
  | .failureCount, .ok key => .count (recentFailures key before).length
  | .recordException exc, .error message => if isProviderFailure exc then .valueError message else .returned
  | _, .ok _ => .returned
  | _, .error message => .valueError message

end GPUCallCircuitBreaker

/-- The readings of a monotonic clock, which has left zero. -/
def Monotonic (events : List BreakerEvent) : Prop :=
  events.Pairwise (fun e e' => e.now ≤ e'.now) ∧ ∀ e ∈ events, 0 < e.now

/-! ## The history after one more event -/

theorem recentFailures_concat (key : String) (before : List BreakerEvent) (event : BreakerEvent) :
    recentFailures key (before ++ [event]) =
      if event.succeeds key then []
      else if event.fails key then recentFailures key before ++ [event.now]
      else recentFailures key before := by
  unfold recentFailures
  rw [List.rtakeWhile_concat]
  cases hsucceeds : event.succeeds key with
  | true => simp
  | false =>
    cases hfails : event.fails key with
    | true => simp [List.filter_append, hfails]
    | false => simp [List.filter_append, hfails]

theorem not_succeeds_of_fails {key : String} {event : BreakerEvent} (h : event.fails key) :
    event.succeeds key = false := by
  unfold BreakerEvent.fails at h
  split at h
  · rename_i hcall _
    rw [BreakerEvent.succeeds, hcall]
  · cases h

theorem recentFailures_of_succeeds {key : String} {before : List BreakerEvent} {event : BreakerEvent}
    (h : event.succeeds key) : recentFailures key (before ++ [event]) = [] := by
  rw [recentFailures_concat, if_pos h]

theorem recentFailures_of_fails {key : String} {before : List BreakerEvent} {event : BreakerEvent}
    (h : event.fails key) :
    recentFailures key (before ++ [event]) = recentFailures key before ++ [event.now] := by
  rw [recentFailures_concat, not_succeeds_of_fails h, if_neg Bool.false_ne_true, if_pos h]

theorem recentFailures_of_neither {key : String} {before : List BreakerEvent} {event : BreakerEvent}
    (hsucceeds : event.succeeds key = false) (hfails : event.fails key = false) :
    recentFailures key (before ++ [event]) = recentFailures key before := by
  rw [recentFailures_concat, hsucceeds, hfails, if_neg Bool.false_ne_true, if_neg Bool.false_ne_true]

theorem concerns_of_succeeds {key : String} {event : BreakerEvent} (h : event.succeeds key) :
    event.concerns key := by
  unfold BreakerEvent.succeeds at h
  split at h
  · rename_i hkey
    rwa [BreakerEvent.concerns, hkey]
  · cases h

theorem concerns_of_fails {key : String} {event : BreakerEvent} (h : event.fails key) :
    event.concerns key := by
  unfold BreakerEvent.fails at h
  split at h
  · rename_i hkey
    rw [Bool.and_eq_true] at h
    rw [BreakerEvent.concerns, hkey]
    exact h.2
  · cases h

/-- What happens under other keys is no part of the history of a key. -/
theorem recentFailures_filter (key : String) (before : List BreakerEvent) :
    recentFailures key (before.filter (·.concerns key)) = recentFailures key before := by
  induction before using List.reverseRecOn with
  | nil => rfl
  | append_singleton before event ih =>
    rw [List.filter_append]
    cases hconcerns : event.concerns key with
    | true =>
      rw [List.filter_singleton, hconcerns, cond_true, recentFailures_concat, recentFailures_concat, ih]
    | false =>
      have hsucceeds : event.succeeds key = false := by
        by_contra h
        rw [concerns_of_succeeds (Bool.not_eq_false _ ▸ h)] at hconcerns
        cases hconcerns
      have hfails : event.fails key = false := by
        by_contra h
        rw [concerns_of_fails (Bool.not_eq_false _ ▸ h)] at hconcerns
        cases hconcerns
      rw [List.filter_singleton, hconcerns, cond_false, List.append_nil, ih,
        recentFailures_of_neither hsucceeds hfails]

/-! ## The state of a key -/

namespace GPUCallCircuitBreaker

variable {breaker : GPUCallCircuitBreaker} {states : Dict CircuitState} {key : String}

/-- The circuit of the state is open from some time on exactly when the failures have tripped it. -/
structure Agrees (breaker : GPUCallCircuitBreaker) (failures : List ℚ) (now : ℚ) (state : CircuitState) : Prop where
  count : state.failures = failures.length
  isOpen : ∀ later, now ≤ later →
    (state.openedAt ≠ 0 ∧ later - state.openedAt < breaker.recoveryTimeoutSeconds ↔
      breaker.Tripped failures later)

theorem Agrees.later {failures : List ℚ} {now later : ℚ} {state : CircuitState}
    (h : breaker.Agrees failures now state) (hle : now ≤ later) : breaker.Agrees failures later state :=
  ⟨h.count, fun time htime => h.isOpen time (hle.trans htime)⟩

/-- A circuit that is not in the table is closed. -/
theorem agrees_new (now : ℚ) : breaker.Agrees [] now {} := by
  refine ⟨rfl, fun later _ => ?_⟩
  constructor
  · intro h
    exact absurd rfl h.1
  · intro h
    exact absurd h.1 (Nat.not_le.mpr (Nat.lt_of_lt_of_le Nat.zero_lt_one breaker.threshold_pos))

/-- After the recovery timeout the circuit is closed, and its failures stay counted. -/
theorem Agrees.recover {failures : List ℚ} {now : ℚ} {state : CircuitState}
    (h : breaker.Agrees failures now state)
    (helapsed : breaker.recoveryTimeoutSeconds ≤ now - state.openedAt) :
    breaker.Agrees failures now { state with openedAt := 0 } := by
  refine ⟨h.count, fun later hlater => ?_⟩
  rw [← h.isOpen later hlater]
  constructor
  · intro hopen
    exact absurd rfl hopen.1
  · intro hopen
    have hlt := hopen.2
    linarith

theorem Agrees.fail {failures : List ℚ} {now : ℚ} {state : CircuitState} (hnow : 0 < now)
    (h : breaker.Agrees failures now state) :
    breaker.Agrees (failures ++ [now]) now
      { failures := state.failures + 1
        openedAt := if breaker.failureThreshold ≤ state.failures + 1 then now else state.openedAt } := by
  refine ⟨by rw [h.count, List.length_append, List.length_singleton], fun later hlater => ?_⟩
  have hlast : breaker.Tripped (failures ++ [now]) later ↔
      breaker.failureThreshold ≤ failures.length + 1 ∧ later - now < breaker.recoveryTimeoutSeconds := by
    simp [Tripped]
  rw [hlast, h.count]
  split
  · rename_i hthreshold
    rw [and_iff_right hnow.ne', and_iff_right hthreshold]
  · rename_i hthreshold
    -- too few failures before this one, so the circuit was closed
    have hfew : ¬breaker.Tripped failures later := fun htripped =>
      hthreshold (htripped.1.trans (Nat.le_succ _))
    rw [h.isOpen later hlater, iff_false_left hfew]
    exact fun hopen => hthreshold hopen.1

/-- The states of the table agree with the histories of their keys. -/
def Reflects (breaker : GPUCallCircuitBreaker) (before : List BreakerEvent) (now : ℚ)
    (states : Dict CircuitState) : Prop :=
  ∀ key, breaker.Agrees (recentFailures key before) now ((states.get? key).getD {})

variable {before : List BreakerEvent} {event : BreakerEvent} {now : ℚ}

theorem beforeRequest_cases (breaker : GPUCallCircuitBreaker) (states : Dict CircuitState) (key : String) (now : ℚ) :
    let state := (states.get? key).getD {}
    state.openedAt ≠ 0 ∧ now - state.openedAt < breaker.recoveryTimeoutSeconds ∧
        breaker.beforeRequest states key now = (states, .circuitOpen (circuitOpenMessage key)) ∨
      state.openedAt = 0 ∧ breaker.beforeRequest states key now = (states, .returned) ∨
      breaker.recoveryTimeoutSeconds ≤ now - state.openedAt ∧
        breaker.beforeRequest states key now = (states.set key { state with openedAt := 0 }, .returned) := by
  unfold beforeRequest
  cases states.get? key with
  | none => exact .inr (.inl ⟨rfl, rfl⟩)
  | some state =>
    simp only [Option.getD_some]
    split_ifs with hzero helapsed
    · exact .inr (.inl ⟨hzero, rfl⟩)
    · exact .inr (.inr ⟨helapsed, rfl⟩)
    · exact .inl ⟨hzero, not_le.mp helapsed, rfl⟩

theorem Reflects.beforeRequest (h : breaker.Reflects before now states) :
    breaker.Reflects before now (breaker.beforeRequest states key now).1 := by
  rcases beforeRequest_cases breaker states key now with ⟨-, -, heq⟩ | ⟨-, heq⟩ | ⟨helapsed, heq⟩
  · rwa [heq]
  · rwa [heq]
  · rw [heq]
    intro other
    rw [Dict.get?_set]
    split
    · rename_i hkey
      exact hkey ▸ (h key).recover helapsed
    · exact h other

theorem Reflects.beforeRequest_answer (h : breaker.Reflects before now states) :
    (breaker.beforeRequest states key now).2 =
      if breaker.Tripped (recentFailures key before) now then .circuitOpen (circuitOpenMessage key)
      else .returned := by
  have hopen := (h key).isOpen now le_rfl
  rcases beforeRequest_cases breaker states key now with ⟨hne, hlt, heq⟩ | ⟨hzero, heq⟩ | ⟨helapsed, heq⟩
  · rw [heq, if_pos (hopen.mp ⟨hne, hlt⟩)]
  · rw [heq, if_neg fun htripped => (hopen.mpr htripped).1 hzero]
  · rw [heq, if_neg fun htripped => absurd (hopen.mpr htripped).2 (not_lt.mpr helapsed)]

theorem Reflects.of_neither (h : breaker.Reflects before now states)
    (hsucceeds : ∀ key, event.succeeds key = false) (hfails : ∀ key, event.fails key = false) :
    breaker.Reflects (before ++ [event]) now states := by
  intro key
  rw [recentFailures_of_neither (hsucceeds key) (hfails key)]
  exact h key

theorem Reflects.success (h : breaker.Reflects before now states) (hcall : event.call = .recordSuccess)
    (hkey : coerceKey event.name = .ok key) : breaker.Reflects (before ++ [event]) now (states.pop key) := by
  intro other
  by_cases hother : other = key
  · have hsucceeds : event.succeeds other := by simp [BreakerEvent.succeeds, hcall, hkey, hother]
    have hnone : (states.pop key).get? other = none := Option.eq_none_iff_forall_ne_some.mpr fun found hfound =>
      (Dict.get?_pop.mp hfound).1 hother
    rw [recentFailures_of_succeeds hsucceeds, hnone]
    exact agrees_new now
  · have hsucceeds : event.succeeds other = false := by
      simp [BreakerEvent.succeeds, hcall, hkey, Ne.symm hother]
    have hfails : event.fails other = false := by simp [BreakerEvent.fails, hcall]
    have hget : (states.pop key).get? other = states.get? other :=
      Option.ext fun found => by rw [Dict.get?_pop, and_iff_right hother]
    rw [recentFailures_of_neither hsucceeds hfails, hget]
    exact h other

theorem Reflects.failure {exc : CallerException} (h : breaker.Reflects before event.now states)
    (hnow : 0 < event.now) (hcall : event.call = .recordException exc) (hexc : isProviderFailure exc)
    (hkey : coerceKey event.name = .ok key) :
    breaker.Reflects (before ++ [event]) event.now (breaker.recordFailure states key event.now) := by
  intro other
  rw [recordFailure, Dict.get?_set]
  split
  · rename_i hother
    have hfails : event.fails other := by simp [BreakerEvent.fails, hcall, hexc, hkey, hother]
    rw [recentFailures_of_fails hfails, hother]
    exact (h key).fail hnow
  · rename_i hother
    have hsucceeds : event.succeeds other = false := by simp [BreakerEvent.succeeds, hcall]
    have hfails : event.fails other = false := by
      simp [BreakerEvent.fails, hcall, hkey, Ne.symm hother]
    rw [recentFailures_of_neither hsucceeds hfails]
    exact h other

theorem Reflects.later {later : ℚ} (h : breaker.Reflects before now states) (hle : now ≤ later) :
    breaker.Reflects before later states := fun key => (h key).later hle

/-- One call keeps the agreement with the history. -/
theorem Reflects.step (h : breaker.Reflects before event.now states) (hnow : 0 < event.now) :
    breaker.Reflects (before ++ [event]) event.now (breaker.step states event).1 := by
  unfold GPUCallCircuitBreaker.step
  cases hcall : event.call with
  | beforeRequest =>
    have hsucceeds : ∀ key, event.succeeds key = false := fun key => by simp [BreakerEvent.succeeds, hcall]
    have hfails : ∀ key, event.fails key = false := fun key => by simp [BreakerEvent.fails, hcall]
    cases coerceKey event.name with
    | ok key => exact h.beforeRequest.of_neither hsucceeds hfails
    | error => exact h.of_neither hsucceeds hfails
  | recordSuccess =>
    cases hkey : coerceKey event.name with
    | ok key => exact h.success hcall hkey
    | error =>
      refine h.of_neither (fun key => ?_) (fun key => ?_)
      · simp [BreakerEvent.succeeds, hcall, hkey]
      · simp [BreakerEvent.fails, hcall]
  | recordException exc =>
    have hsucceeds : ∀ key, event.succeeds key = false := fun key => by simp [BreakerEvent.succeeds, hcall]
    dsimp only
    cases hexc : isProviderFailure exc with
    | false =>
      refine h.of_neither hsucceeds fun key => ?_
      cases hkey : coerceKey event.name <;> simp [BreakerEvent.fails, hcall, hkey, hexc]
    | true =>
      cases hkey : coerceKey event.name with
      | ok key => exact h.failure hnow hcall hexc hkey
      | error => exact h.of_neither hsucceeds fun key => by simp [BreakerEvent.fails, hcall, hkey]
  | failureCount =>
    have hsucceeds : ∀ key, event.succeeds key = false := fun key => by simp [BreakerEvent.succeeds, hcall]
    have hfails : ∀ key, event.fails key = false := fun key => by simp [BreakerEvent.fails, hcall]
    cases coerceKey event.name with
    | ok key => exact h.of_neither hsucceeds hfails
    | error => exact h.of_neither hsucceeds hfails

/-- A call is answered as the history says. -/
theorem Reflects.answer (h : breaker.Reflects before event.now states) :
    (breaker.step states event).2 = breaker.answer before event := by
  unfold GPUCallCircuitBreaker.step GPUCallCircuitBreaker.answer
  cases event.call with
  | beforeRequest =>
    cases coerceKey event.name with
    | ok key => exact h.beforeRequest_answer
    | error => rfl
  | recordSuccess => cases coerceKey event.name <;> rfl
  | recordException exc => cases hexc : isProviderFailure exc <;> cases coerceKey event.name <;> simp [hexc]
  | failureCount =>
    cases coerceKey event.name with
    | ok key =>
      have hcount := (h key).count
      cases hstate : states.get? key with
      | none => simpa [hstate] using hcount
      | some state => simpa [hstate] using hcount
    | error => rfl

theorem reflects_run (breaker : GPUCallCircuitBreaker) (hclock : Monotonic (before ++ [event])) :
    breaker.Reflects before event.now (breaker.run before) := by
  induction before using List.reverseRecOn generalizing event with
  | nil => exact fun key => agrees_new event.now
  | append_singleton before last ih =>
    obtain ⟨hsorted, hpos⟩ := hclock
    rw [List.pairwise_append] at hsorted
    have hbefore : breaker.Reflects before last.now (breaker.run before) :=
      ih ⟨hsorted.1, fun e he => hpos e (List.mem_append_left _ he)⟩
    have hlast : last ∈ before ++ [last] := List.mem_append_right _ List.mem_cons_self
    have hle : last.now ≤ event.now := hsorted.2.2 last hlast event List.mem_cons_self
    have hstep := (hbefore.step (hpos last (List.mem_append_left _ hlast))).later hle
    rwa [run, List.foldl_append, List.foldl_cons, List.foldl_nil, ← run]

end GPUCallCircuitBreaker

/-! ## Scopes that share a circuit -/

/-- The parts of a scope are read back from its key if none of them holds the colon. -/
theorem GPUCallCircuitScope.splitOn_key {scope : GPUCallCircuitScope} {key : String}
    (hparts : ∀ part ∈ scope.parts, ':' ∉ part.toList) (h : scope.key = .ok key) :
    key.toList.splitOn ':' = scope.parts.map String.toList := by
  unfold GPUCallCircuitScope.key at h
  split at h
  · cases h
  · rw [← Except.ok.inj h, String.toList_intercalate]
    exact List.splitOn_intercalate ':' (List.forall_mem_map.mpr hparts) (by simp [parts])

/-- So two such scopes have one circuit only if they are the same up to blanks. -/
theorem GPUCallCircuitScope.parts_eq_of_key {scope scope' : GPUCallCircuitScope} {key : String}
    (hparts : ∀ part ∈ scope.parts, ':' ∉ part.toList) (hparts' : ∀ part ∈ scope'.parts, ':' ∉ part.toList)
    (h : scope.key = .ok key) (h' : scope'.key = .ok key) : scope.parts = scope'.parts := by
  have heq := (splitOn_key hparts h).symm.trans (splitOn_key hparts' h')
  exact List.map_injective_iff.mpr (fun _ _ => String.toList_inj.mp) heq

/-! ## Every run -/

namespace GPUCallCircuitBreaker

/-- The answer to a call depends on what happened under its own key only. -/
theorem answer_filter (breaker : GPUCallCircuitBreaker) (before : List BreakerEvent) {event : BreakerEvent}
    {key : String} (hkey : coerceKey event.name = .ok key) :
    breaker.answer (before.filter (·.concerns key)) event = breaker.answer before event := by
  unfold answer
  rw [hkey]
  cases event.call <;> simp only [recentFailures_filter]

/-- Two failures of one circuit, with one of another circuit between them. -/
def twoFailures : List BreakerEvent :=
  [{ now := 1, name := .text "infer:chat:sync:http", call := .recordException (.providerRuntime 503) },
    { now := 2, name := .text "vision:ocr:sync:http", call := .recordException (.providerRuntime 503) },
    { now := 3, name := .text "infer:chat:sync:http", call := .recordException (.providerRuntime 500) }]

def refusedRequest : BreakerEvent where
  now := 10
  name := .text "infer:chat:sync:http"
  call := .beforeRequest

def smallBreaker : GPUCallCircuitBreaker where
  failureThreshold := 2
  recoveryTimeoutSeconds := 60
  threshold_pos := by decide
  recovery_nonneg := by decide

theorem monotonic_twoFailures : Monotonic (twoFailures ++ [refusedRequest]) := by
  unfold Monotonic
  decide

end GPUCallCircuitBreaker

end Gpucall
