import Gpucall.Dispatcher.Execute
import Gpucall.Lib.Frames

/-! `LocalOpenAICompatibleAdapter.stream` of `execution_surfaces/local_runtime.py` under
`execute_stream`: the adapter hands on what `aiter_text` gives, chunk by chunk, and the dispatcher takes
each chunk for an event. -/

namespace Gpucall

open Effects

/-! ## The adapter -/

/-- The response to the chat request: its status and what `aiter_text` gives. -/
structure StreamResponse where
  statusCode : ℕ
  chunks : List String

/-- `stream`: what it raises before its first event, or the events. -/
def localOpenaiStream (plan : CompiledPlan) (response : StreamResponse) :
    Except PyExc (List String) :=
  if !plan.inputRefs.isEmpty then
    .error (.tupleError {
      message := "local OpenAI-compatible adapter does not dereference DataRefs"
      retryable := false
      statusCode := 400 })
  else if response.statusCode = 404 then
    .error (.tupleError {
      message := "local OpenAI-compatible endpoint not found"
      retryable := false
      statusCode := 502 })
  -- `raise_for_status`
  else if response.statusCode < 200 ∨ 300 ≤ response.statusCode then
    let retryable := decide (500 ≤ response.statusCode)
    .error (.tupleError {
      message := "local OpenAI-compatible server failed: " ++ toString response.statusCode
      retryable
      statusCode := 502
      code := if retryable then some "PROVIDER_UPSTREAM_UNAVAILABLE" else none })
  else .ok (response.chunks.filter (· ≠ ""))

/-! ## A gateway in which nothing else fails -/

/-- What the call has seen: how many calls it has made, the events that the stream will give, and the
events that it has yielded. -/
structure StreamWorld where
  ticks : ℕ := 0
  upcoming : Except PyExc (List String)
  yielded : List String := []

namespace StreamWorld

def tick (w : StreamWorld) : StreamWorld := { w with ticks := w.ticks + 1 }

/-- `__anext__` of the stream -/
def anext (w : StreamWorld) : Except PyExc (Option String) × StreamWorld :=
  match w.upcoming with
  | .error exc => (.error exc, { w with upcoming := .ok [] })
  | .ok [] => (.ok none, w)
  | .ok (event :: events) => (.ok (some event), { w with upcoming := .ok events })

end StreamWorld

/-- The rest of the gateway: the tuple of the local server, which tuples the registry calls available,
and whatever the clocks, the admission and the adapter answer at each call. -/
structure LocalService where
  tuple : String
  available : String → Bool
  monotonic : ℕ → ℚ
  utcNow : ℕ → DateTime
  lease : ℕ → AdmissionLease
  handle : ℕ → RemoteHandle

/-- The answers to the calls of `execute_stream`. A loop that still runs has no outcome but this
exception; the calls after it are not made for a stream. -/
def LocalService.answer (service : LocalService) :
    (op : Call) → StreamWorld → Except PyExc op.Res × StreamWorld
  | .monotonic, w => (.ok (service.monotonic w.ticks), w.tick)
  | .utcNow, w => (.ok (service.utcNow w.ticks), w.tick)
  | .isAvailable tuple, w => (.ok (service.available tuple), w.tick)
  | .acquire .., w => (.ok (.allowed (service.lease w.ticks)), w.tick)
  | .start .., w => (.ok (service.handle w.ticks), w.tick)
  | .nextEvent .., w => w.tick.anext
  | .yieldEvent event, w => (.ok (), { w.tick with yielded := w.yielded ++ [event] })
  | .audit _, w | .sleep _, w | .recordObservation .., w | .suppress .., w | .release _, w
  | .openStream .., w | .cancelRemote .., w => (.ok (), w.tick)
  | .stillRunning, w => (.error (.exception "still running"), w)
  | _, w => (.error (.exception "not called"), w)

/-- A call of `execute_stream` over the local server. -/
def Dispatcher.streamLocally (d : Dispatcher) (service : LocalService) (plan : CompiledPlan)
    (response : StreamResponse) : Except PyExc Unit × StreamWorld :=
  (d.executeStream plan).run service.answer { upcoming := localOpenaiStream plan response }

/-- The local server serves the plan: it answers the request, and it is the only tuple of the chain that
can be used; the rounds are enough for its chunks. -/
structure Serves (d : Dispatcher) (service : LocalService) (plan : CompiledPlan)
    (response : StreamResponse) : Prop where
  adapter : service.tuple ∈ d.adapters
  available : service.available service.tuple = true
  chain : ∃ before after, plan.tupleChain = before ++ service.tuple :: after ∧
    ∀ tuple ∈ before ++ after, service.available tuple = false ∨ tuple ∉ d.adapters
  gate : ∀ n, securityGateError plan.attestations (service.utcNow n) = none
  noRefs : plan.inputRefs = []
  success : 200 ≤ response.statusCode ∧ response.statusCode < 300
  rounds : response.chunks.length < d.rounds

/-! ## Events -/

def concat (texts : List String) : List Char := texts.flatMap String.toList

/-- The text starts with data or a comment. -/
def SseStart (text : String) : Prop :=
  startswith text ": " = true ∨ startswith text ":\n" = true ∨ startswith text "data: " = true

/-- What `_validate_stream_event` asks of a text. -/
def SseFramed (text : String) : Prop := endswith text "\n\n" = true ∧ SseStart text

/-- An event of an OpenAI-compatible server: data or a comment, with a blank line at its end and none
before. -/
def SseEvent (event : String) : Prop :=
  SseStart event ∧ ∃ body, event.toList = body ++ ['\n', '\n'] ∧ ¬['\n', '\n'] <:+: body ++ ['\n']

/-- The call ends without raising, and has yielded the text of the events. -/
def Relays (events : List String) (outcome : Except PyExc Unit × StreamWorld) : Prop :=
  outcome.1 = .ok () ∧ concat outcome.2.yielded = concat events

/-- Each chunk consists of whole events. -/
def CutsBetween (events chunks : List String) : Prop :=
  ∃ groups : List (List String), groups.flatten = events ∧
    chunks.map String.toList = groups.map concat

section

variable {plan : CompiledPlan} {text : String}

variable (plan) in
theorem streamEventError_eq_none : streamEventError plan text = none ↔ SseFramed text := by
  unfold streamEventError SseFramed SseStart
  cases endswith text "\n\n" <;> cases startswith text ": " <;> cases startswith text ":\n" <;>
    cases startswith text "data: " <;> simp

/-! ## The run -/

variable {d : Dispatcher} {service : LocalService} {attempt : ProviderEgressAttempt}
  {handle : RemoteHandle} {response : StreamResponse} {s : Locals} {w : StreamWorld}
  {chunks : List String}

/-- What the loop over the events leaves. -/
def loopOutcome (chunks yielded : List String) (r : Except PyExc Unit) (w : StreamWorld) : Prop :=
  match r with
  | .ok _ => (∀ chunk ∈ chunks, SseFramed chunk) ∧ w.yielded = yielded ++ chunks
  | .error exc => (¬∀ chunk ∈ chunks, SseFramed chunk) ∧ ∃ error, exc = .tupleError error

theorem wp_eventLoop {rounds : ℕ} (hrounds : chunks.length < rounds) (hw : w.upcoming = .ok chunks) :
    (whileTrue (liftM (stillRunning : Program Unit)) (Dispatcher.streamRound plan attempt handle)
      rounds).wp (.ofHandler service.answer) (fun r _ => loopOutcome chunks w.yielded r) s w := by
  induction chunks generalizing rounds s w with
  | nil =>
    obtain ⟨rounds, rfl⟩ := Nat.exists_eq_add_one_of_ne_zero (Nat.ne_zero_of_lt hrounds)
    have hend : service.answer (.nextEvent attempt.tuple handle) w = (.ok none, w.tick) := by
      simp [LocalService.answer, StreamWorld.anext, StreamWorld.tick, hw]
    refine Local.wp_bind.mpr ((Local.wp_answered_bind hend).mpr (Local.wp_pure.mpr ?_))
    refine Local.wp_pure.mpr ⟨by simp, ?_⟩
    simp [StreamWorld.tick]
  | cons chunk chunks ih =>
    obtain ⟨rounds, rfl⟩ := Nat.exists_eq_add_one_of_ne_zero (Nat.ne_zero_of_lt hrounds)
    have hnext : service.answer (.nextEvent attempt.tuple handle) w =
        (.ok (some chunk), { w.tick with upcoming := .ok chunks }) := by
      simp [LocalService.answer, StreamWorld.anext, StreamWorld.tick, hw]
    refine Local.wp_bind.mpr ((Local.wp_answered_bind hnext).mpr ?_)
    dsimp only
    cases hvalid : streamEventError plan chunk with
    | some error =>
      have hframed : ¬SseFramed chunk := by
        rw [← streamEventError_eq_none plan, hvalid]
        simp
      refine Local.wp_throw.mpr ⟨fun hall => ?_, error, rfl⟩
      exact hframed (hall chunk List.mem_cons_self)
    | none =>
      have hframed : SseFramed chunk := (streamEventError_eq_none plan).mp hvalid
      refine Local.wp_write_bind.mpr ((Local.wp_answered_bind rfl).mpr (Local.wp_pure.mpr ?_))
      have hrest : chunks.length < rounds := by
        rw [List.length_cons] at hrounds
        omega
      refine Local.wp_mono (ih hrest rfl) fun r _ w' h => ?_
      cases r with
      | ok _ =>
        refine ⟨List.forall_mem_cons.mpr ⟨hframed, h.1⟩, ?_⟩
        rw [h.2]
        simp [StreamWorld.tick]
      | error exc =>
        refine ⟨fun hall => h.1 (List.forall_mem_cons.mp hall).2, h.2⟩

/-- What an attempt of the local tuple leaves for the fallback loop. -/
def attemptOutcome (chunks : List String) (r : Except PyExc (Flow Unit)) (w : StreamWorld) : Prop :=
  match r with
  | .ok (.ret _) => (∀ chunk ∈ chunks, SseFramed chunk) ∧ w.yielded = chunks
  | .ok .stop => False
  | .ok .next | .error _ => ¬∀ chunk ∈ chunks, SseFramed chunk

namespace Dispatcher

theorem wp_startAttempt_local (hrounds : 0 < d.rounds)
    (hgate : ∀ n, securityGateError plan.attestations (service.utcNow n) = none)
    (rejected : AdmissionReason → Option ℚ → Code Unit) :
    (d.startAttempt plan attempt rejected).wp (.ofHandler service.answer)
      (fun r _ w' => (∃ handle, r = .ok (some handle)) ∧ w'.upcoming = w.upcoming ∧
        w'.yielded = w.yielded) s w := by
  obtain ⟨rounds, hsucc⟩ := Nat.exists_eq_add_one_of_ne_zero hrounds.ne'
  have hacquire : (d.acquireWithWait attempt.tuple (some attempt.workloadScope)
      (d.waitSeconds plan)).wp (.ofHandler service.answer) (fun r s' w' =>
        (∃ lease, r = .ok (.allowed lease)) ∧ w' = w.tick.tick) s w := by
    refine (Local.wp_answered_bind rfl).mpr ?_
    dsimp only
    rw [hsucc]
    refine Local.wp_bind.mpr ((Local.wp_answered_bind rfl).mpr (Local.wp_pure.mpr ?_))
    exact Local.wp_pure.mpr ⟨⟨_, rfl⟩, rfl⟩
  refine Local.wp_bind.mpr (Local.wp_mono hacquire fun r s w' h => ?_)
  obtain ⟨⟨lease, rfl⟩, rfl⟩ := h
  have hgate' (w : StreamWorld) : (enforcePreExecutionSecurityGate plan).run service.answer w =
      (.ok (), w.tick) := by
    unfold enforcePreExecutionSecurityGate
    simp only [Prog.bind_def, Prog.bind, Prog.run_andThen, call, Prog.perform, Prog.run_step,
      Prog.run_done, LocalService.answer, hgate]
    rfl
  refine Local.wp_write_bind.mpr ((Local.wp_answered_bind rfl).mpr ?_)
  refine Local.wp_bind.mpr ?_
  rw [Local.liftM_eq_ofProg, Local.wp_ofProg, Prog.wp_ofHandler, hgate']
  refine (Local.wp_answered_bind rfl).mpr (Local.wp_write_bind.mpr ?_)
  refine (Local.wp_answered_bind rfl).mpr ?_
  exact Local.wp_pure.mpr ⟨⟨_, rfl⟩, rfl, rfl⟩

theorem wp_streamBody_local (hrounds : chunks.length < d.rounds)
    (hgate : ∀ n, securityGateError plan.attestations (service.utcNow n) = none)
    (hw : w.upcoming = .ok chunks) (hyielded : w.yielded = []) :
    (d.streamBody plan attempt).wp (.ofHandler service.answer)
      (fun r _ w' => match r with
        | .ok flow => flow = .ret () ∧ (∀ chunk ∈ chunks, SseFramed chunk) ∧ w'.yielded = chunks
        | .error exc => (¬∀ chunk ∈ chunks, SseFramed chunk) ∧ ∃ error, exc = .tupleError error) s w := by
  have hpos : 0 < d.rounds := by omega
  refine Local.wp_bind.mpr (Local.wp_mono (d.wp_startAttempt_local hpos hgate _) fun r s w' h => ?_)
  obtain ⟨⟨handle, rfl⟩, hupcoming, hkept⟩ := h
  refine (Local.wp_answered_bind rfl).mpr (Local.wp_bind.mpr ?_)
  refine Local.wp_mono (wp_eventLoop hrounds (hupcoming.trans hw)) fun r s w'' h => ?_
  cases r with
  | error exc => exact h
  | ok u =>
    refine (Local.wp_answered_bind rfl).mpr ((Local.wp_answered_bind rfl).mpr (Local.wp_pure.mpr ?_))
    refine ⟨rfl, h.1, h.2.trans ?_⟩
    rw [StreamWorld.tick, hkept, hyielded, List.nil_append]

/-- The clause for a chunk that is refused: the call raises, or goes on to the next tuple. -/
theorem wp_streamExcept_local (error : TupleError) :
    (streamExcept attempt (.tupleError error)).wp (.ofHandler service.answer)
      (fun r _ _ => r = .ok .next ∨ ∃ exc, r = .error exc) s w := by
  have hfailure : (providerFailure attempt error).wp (.ofHandler service.answer)
      (fun r _ _ => r = .ok ()) { s with lastError := some error } w := by
    refine (Local.wp_answered_bind rfl).mpr ?_
    dsimp only
    split
    · refine (Local.wp_answered_bind rfl).mpr ?_
      exact (Local.wp_answered rfl).mpr rfl
    · exact (Local.wp_answered rfl).mpr rfl
  refine Local.wp_write_bind.mpr (Local.wp_bind.mpr (Local.wp_mono hfailure fun r s w h => ?_))
  obtain rfl := h
  refine Local.wp_read_bind.mpr ?_
  split
  · exact Local.wp_throw.mpr (.inr ⟨_, rfl⟩)
  · exact Local.wp_pure.mpr (.inl rfl)

theorem wp_finishAttempt_local :
    (finishAttempt attempt).wp (.ofHandler service.answer)
      (fun r _ w' => r = .ok () ∧ w'.yielded = w.yielded) s w := by
  have hrelease (w : StreamWorld) : releaseLease.wp (.ofHandler service.answer)
      (fun r _ w' => r = .ok () ∧ w'.yielded = w.yielded) s w := by
    refine Local.wp_read_bind.mpr ?_
    split
    · refine (Local.wp_answered rfl).mpr ?_
      exact ⟨rfl, rfl⟩
    · exact Local.wp_pure.mpr ⟨rfl, rfl⟩
  refine Local.wp_read_bind.mpr ?_
  split
  · refine Local.wp_bind.mpr (Local.wp_bind.mpr (Local.wp_tryCatch.mpr ?_))
    refine (Local.wp_answered_bind rfl).mpr (Local.wp_pure.mpr ?_)
    refine (Local.wp_answered rfl).mpr ?_
    exact hrelease w.tick.tick
  · exact hrelease w

/-- The attempt of the local tuple, the first one of the call. -/
theorem wp_streamTuple_local (hserves : Serves d service plan response)
    (hw : w.upcoming = .ok chunks) (hchunks : chunks.length ≤ response.chunks.length)
    (hyielded : w.yielded = []) :
    (d.streamTuple plan service.tuple).wp (.ofHandler service.answer)
      (fun r _ w' => attemptOutcome chunks r w') {} w := by
  refine (Local.wp_answered_bind rfl).mpr ?_
  rw [hserves.available, if_neg (by simp), if_neg (by simpa using hserves.adapter)]
  refine Local.wp_read_bind.mpr ?_
  -- no attempt has been counted yet
  have hfresh (limit : ℕ) : ¬(0 < limit && limit ≤ 0) = true := by
    cases limit <;> simp
  rw [if_neg (hfresh _)]
  dsimp only
  rw [if_neg (hfresh _)]
  have hrounds : chunks.length < d.rounds := hchunks.trans_lt hserves.rounds
  refine Local.wp_write_bind.mpr (Local.wp_tryFinally.mpr (Local.wp_mono
    (Q := fun r _ w' => attemptOutcome chunks r w') ?_ fun r s w' h => ?_))
  · refine Local.wp_tryCatch.mpr (Local.wp_mono
      (d.wp_streamBody_local hrounds hserves.gate hw hyielded) fun r s w' h => ?_)
    cases r with
    | ok flow =>
      obtain ⟨rfl, hframed, hall⟩ := h
      exact ⟨hframed, hall⟩
    | error exc =>
      obtain ⟨hframed, error, rfl⟩ := h
      refine Local.wp_mono (wp_streamExcept_local error) fun r s w' h => ?_
      rcases h with rfl | ⟨exc, rfl⟩
      · exact hframed
      · exact hframed
  · refine Local.wp_mono wp_finishAttempt_local fun r' s w'' hfinish => ?_
    obtain ⟨rfl, hkept⟩ := hfinish
    change attemptOutcome chunks r w''
    unfold attemptOutcome at h ⊢
    rw [hkept]
    exact h

/-- A tuple that cannot be used is passed over. -/
theorem wp_streamTuple_unusable {tuple : String}
    (hunusable : service.available tuple = false ∨ tuple ∉ d.adapters) :
    (d.streamTuple plan tuple).wp (.ofHandler service.answer)
      (fun r s' w' => r = .ok .next ∧ s' = s ∧ w' = w.tick) s w := by
  refine (Local.wp_answered_bind rfl).mpr ?_
  split
  · exact Local.wp_pure.mpr ⟨rfl, rfl, rfl⟩
  · rename_i havailable
    rw [if_pos (hunusable.resolve_left (by simpa using havailable))]
    exact Local.wp_pure.mpr ⟨rfl, rfl, rfl⟩

/-- The whole call ends normally exactly if every chunk is framed; it then has yielded them all. -/
theorem wp_executeStream_local (hserves : Serves d service plan response)
    (hw : w.upcoming = .ok chunks) (hchunks : chunks.length ≤ response.chunks.length)
    (hyielded : w.yielded = []) :
    (d.executeStream plan).wp (.ofHandler service.answer)
      (fun r w' => match r with
        | .ok _ => (∀ chunk ∈ chunks, SseFramed chunk) ∧ w'.yielded = chunks
        | .error _ => ¬∀ chunk ∈ chunks, SseFramed chunk) w := by
  obtain ⟨before, after, hchain, hothers⟩ := hserves.chain
  have hunusable {t : String} (ht : t ∈ before ∨ t ∈ after) :
      service.available t = false ∨ t ∉ d.adapters := hothers t (List.mem_append.mpr ht)
  refine Local.wp_run ((Local.wp_answered_bind rfl).mpr (Local.wp_bind.mpr ?_))
  -- either the local tuple is still to come, or its stream was refused
  refine Local.wp_mono (Local.wp_forEach
    (I := fun chain s w => (∃ front, front ⊆ before ∧ chain = front ++ service.tuple :: after ∧ s = {} ∧
        w.upcoming = .ok chunks ∧ w.yielded = []) ∨
      chain ⊆ after ∧ ¬∀ chunk ∈ chunks, SseFramed chunk)
    (Q := fun r _ w => match r with
      | .ok (some _) => (∀ chunk ∈ chunks, SseFramed chunk) ∧ w.yielded = chunks
      | .ok none | .error _ => ¬∀ chunk ∈ chunks, SseFramed chunk)
    (fun s w h => ?_) (fun tuple chain s w h => ?_)
    (.inl ⟨before, List.Subset.refl _, hchain, rfl, hw, hyielded⟩)) fun r s w h => ?_
  · rcases h with ⟨front, -, hnil, -⟩ | ⟨-, hframed⟩
    · simp at hnil
    · exact hframed
  · rcases h with ⟨front, hfront, hsplit, rfl, hupcoming, hnone⟩ | ⟨hafter, hframed⟩
    · cases front with
      | nil =>
        obtain ⟨rfl, rfl⟩ := List.cons.inj hsplit
        refine Local.wp_mono (d.wp_streamTuple_local hserves hupcoming hchunks hnone)
          fun r s w h => ?_
        match r, h with
        | .ok .next, h => exact .inr ⟨List.Subset.refl _, h⟩
        | .ok (.ret _), h => exact h
        | .error _, h => exact h
      | cons first front =>
        obtain ⟨rfl, rfl⟩ := List.cons.inj hsplit
        have htuple := hunusable (.inl (hfront List.mem_cons_self))
        refine Local.wp_mono (d.wp_streamTuple_unusable htuple) fun r s w h => ?_
        obtain ⟨rfl, rfl, rfl⟩ := h
        refine .inl ⟨front, fun t ht => hfront (List.mem_cons_of_mem _ ht), rfl, rfl, hupcoming, hnone⟩
    · have htuple := hunusable (.inr (hafter List.mem_cons_self))
      refine Local.wp_mono (d.wp_streamTuple_unusable htuple) fun r s w h => ?_
      obtain ⟨rfl, -, -⟩ := h
      exact .inr ⟨fun t ht => hafter (List.mem_cons_of_mem _ ht), hframed⟩
  · match r, h with
    | .ok (some _), h => exact Local.wp_pure.mpr h
    | .ok none, h => exact Local.wp_read_bind.mpr (Local.wp_throw.mpr h)
    | .error _, h => exact h

end Dispatcher

/-! ## Cuts of the transport -/

theorem startswith_mono {text longer stem : String} (h : text.toList <+: longer.toList)
    (hstarts : startswith text stem = true) : startswith longer stem = true := by
  rw [startswith, List.isPrefixOf_iff_prefix] at hstarts ⊢
  exact hstarts.trans h

/-- An event does not start with a line break. -/
theorem SseEvent.head?_ne {event : String} (h : SseEvent event) : event.toList.head? ≠ some '\n' := by
  have hstem {c : Char} {stem : String} (hc : stem.toList.head? = some c)
      (hstarts : startswith event stem = true) : event.toList.head? = some c := by
    rw [startswith, List.isPrefixOf_iff_prefix] at hstarts
    obtain ⟨rest, hrest⟩ := hstarts
    rw [← hrest, List.head?_append, hc, Option.some_or]
  rcases h.1 with hstarts | hstarts | hstarts
  · rw [hstem rfl hstarts]
    decide
  · rw [hstem rfl hstarts]
    decide
  · rw [hstem rfl hstarts]
    decide

theorem SseEvent.isFrame {event : String} (h : SseEvent event) :
    Frames.IsFrame ['\n', '\n'] event.toList := by
  obtain ⟨body, hevent, hblank⟩ := h.2
  refine ⟨⟨body, hevent.symm⟩, fun {part} hne hpart hmark => ?_⟩
  rcases hmark with hmark | hmark
  · cases part with
    | nil => contradiction
    | cons c part =>
      have hc : c = '\n' := by simpa using hmark.subset List.mem_cons_self
      obtain ⟨rest, hrest⟩ := hpart
      refine absurd ?_ h.head?_ne
      rw [← hrest, hc]
      rfl
  · have hconcat : body ++ ['\n', '\n'] = (body ++ ['\n']) ++ ['\n'] := by simp
    rw [hevent, hconcat, List.prefix_concat_iff] at hpart
    rcases hpart with hwhole | hshort
    · rw [hevent, hconcat]
      exact hwhole
    · exact absurd (hmark.isInfix.trans hshort.isInfix) hblank

theorem concat_filter (chunks : List String) : concat (chunks.filter (· ≠ "")) = concat chunks := by
  induction chunks with
  | nil => rfl
  | cons chunk chunks ih =>
    by_cases hchunk : chunk = ""
    · subst hchunk
      rw [List.filter_cons_of_neg (by simp), ih]
      rfl
    · rw [List.filter_cons_of_pos (by simpa using hchunk)]
      simp only [concat, List.flatMap_cons] at ih ⊢
      rw [ih]

/-- Whole events, one after another, make a framed chunk. -/
theorem sseFramed_of_events {group : List String} {chunk : String} (hne : chunk ≠ "")
    (hevents : ∀ event ∈ group, SseEvent event) (hconcat : concat group = chunk.toList) :
    SseFramed chunk := by
  rcases List.eq_nil_or_concat group with rfl | ⟨front, last, rfl⟩
  · exact absurd (String.toList_eq_nil_iff.mp hconcat.symm) hne
  constructor
  · obtain ⟨body, hlast, -⟩ := (hevents last (by simp)).2
    rw [endswith, List.isSuffixOf_iff_suffix, ← hconcat]
    refine ⟨concat front ++ body, ?_⟩
    simp [concat, hlast]
  · obtain ⟨first, rest, hfirst⟩ : ∃ first rest, front ++ [last] = first :: rest :=
      List.exists_cons_of_ne_nil (by simp)
    have hbefore : first.toList <+: chunk.toList := by
      rw [← hconcat, List.concat_eq_append, hfirst]
      exact List.prefix_append _ _
    have hevent := hevents first (by rw [List.concat_eq_append, hfirst]; exact List.mem_cons_self)
    exact hevent.1.imp (startswith_mono hbefore) fun h =>
      h.imp (startswith_mono hbefore) (startswith_mono hbefore)

/-- Framed chunks of the events' text are cut between events: a blank line is only at their ends. -/
theorem cutsBetween_of_framed {events : List String} (hevents : ∀ event ∈ events, SseEvent event)
    (htext : concat chunks = concat events)
    (hframed : ∀ chunk ∈ chunks, chunk ≠ "" → SseFramed chunk) : CutsBetween events chunks := by
  have hframes : ∀ frame ∈ events.map String.toList, Frames.IsFrame ['\n', '\n'] frame := by
    intro frame hframe
    obtain ⟨event, hevent, rfl⟩ := List.mem_map.mp hframe
    exact (hevents event hevent).isFrame
  have hends : ∀ piece ∈ chunks.map String.toList, piece = [] ∨ ['\n', '\n'] <:+ piece := by
    intro piece hpiece
    obtain ⟨chunk, hchunk, rfl⟩ := List.mem_map.mp hpiece
    by_cases hempty : chunk = ""
    · exact .inl (hempty ▸ rfl)
    · have hend := (hframed chunk hchunk hempty).1
      rw [endswith, List.isSuffixOf_iff_suffix] at hend
      exact .inr hend
  have hflatten : (chunks.map String.toList).flatten = (events.map String.toList).flatten := by
    rw [← List.flatMap_def, ← List.flatMap_def]
    exact htext
  obtain ⟨groups, hgroups, hpieces⟩ :=
    Frames.exists_groups (List.cons_ne_nil _ _) hframes hends hflatten
  refine ⟨groups.map fun group => group.map String.ofList, ?_, ?_⟩
  · rw [← List.map_flatten, hgroups, List.map_map]
    simp
  · rw [hpieces, List.map_map]
    refine List.map_congr_left fun group _ => ?_
    simp [concat, List.flatMap_map]

theorem framed_iff_cutsBetween {events : List String} (hevents : ∀ event ∈ events, SseEvent event)
    (htext : concat chunks = concat events) :
    (∀ chunk ∈ chunks, chunk ≠ "" → SseFramed chunk) ↔ CutsBetween events chunks := by
  refine ⟨cutsBetween_of_framed hevents htext, ?_⟩
  rintro ⟨groups, rfl, hchunks⟩ chunk hchunk hne
  have hmem : chunk.toList ∈ groups.map concat := hchunks ▸ List.mem_map_of_mem hchunk
  obtain ⟨group, hgroup, hconcat⟩ := List.mem_map.mp hmem
  exact sseFramed_of_events hne
    (fun event hevent => hevents event (List.mem_flatten.mpr ⟨group, hgroup, hevent⟩)) hconcat

/-! ## Streaming over the local server -/

theorem localOpenaiStream_ok (hserves : Serves d service plan response) :
    localOpenaiStream plan response = .ok (response.chunks.filter (· ≠ "")) := by
  obtain ⟨hleast, hbelow⟩ := hserves.success
  have hfound : response.statusCode ≠ 404 := by omega
  have hok : ¬(response.statusCode < 200 ∨ 300 ≤ response.statusCode) := by omega
  rw [localOpenaiStream, hserves.noRefs, if_neg (by simp), if_neg hfound, if_neg hok]

theorem relays_iff_framed {events : List String} (hserves : Serves d service plan response)
    (htext : concat response.chunks = concat events) :
    Relays events (d.streamLocally service plan response) ↔
      ∀ chunk ∈ response.chunks, chunk ≠ "" → SseFramed chunk := by
  have hfilter : (∀ chunk ∈ response.chunks.filter (· ≠ ""), SseFramed chunk) ↔
      ∀ chunk ∈ response.chunks, chunk ≠ "" → SseFramed chunk := by
    simp
  have hrun := Prog.wp_ofHandler.mp (d.wp_executeStream_local hserves
    (w := { upcoming := localOpenaiStream plan response }) (localOpenaiStream_ok hserves)
    (List.length_filter_le _ _) rfl)
  rw [← hfilter]
  unfold Dispatcher.streamLocally Relays
  split at hrun
  · rename_i hok
    refine iff_of_true ⟨hok, ?_⟩ hrun.1
    rw [hrun.2, concat_filter, htext]
  · rename_i herror
    refine iff_of_false (fun h => ?_) hrun
    rw [herror] at h
    cases h.1

end

/-- What a server sends reaches the caller, whatever it is, exactly if each chunk of the transport has
the frame of an event; if it is a sequence of events, exactly if each chunk consists of whole ones. -/
theorem relays_iff (d : Dispatcher) (service : LocalService) (plan : CompiledPlan)
    (response : StreamResponse) (events : List String) (hserves : Serves d service plan response)
    (htext : concat response.chunks = concat events) :
    (Relays events (d.streamLocally service plan response) ↔
      ∀ chunk ∈ response.chunks, chunk ≠ "" → SseFramed chunk) ∧
    ((∀ event ∈ events, SseEvent event) →
      (Relays events (d.streamLocally service plan response) ↔
        CutsBetween events response.chunks)) := by
  have hframed := relays_iff_framed hserves htext
  refine ⟨hframed, fun hevents => ?_⟩
  rw [hframed]
  exact framed_iff_cutsBetween hevents htext

/-! ### One event in two chunks -/

def localPlan : CompiledPlan := { echoPlan with mode := .stream, tupleChain := ["local-vllm"] }

def localDispatcher : Dispatcher := { echoDispatcher with adapters := ["local-vllm"], rounds := 4 }

def localService : LocalService where
  tuple := "local-vllm"
  available tuple := tuple = "local-vllm"
  monotonic _ := 0
  utcNow _ := midnight
  lease _ := { tuple := "local-vllm", family := "local-vllm", workloadScope := none }
  handle _ := { tuple := "local-vllm", remoteId := "remote-1" }

theorem serves_localPlan {chunks : List String} (hrounds : chunks.length < 4) :
    Serves localDispatcher localService localPlan { statusCode := 200, chunks } where
  adapter := List.mem_singleton_self _
  available := rfl
  chain := ⟨[], [], rfl, nofun⟩
  gate _ := rfl
  noRefs := rfl
  success := ⟨Nat.le_refl 200, (by decide : 200 < 300)⟩
  rounds := hrounds

theorem relays_iff_ping :
    let events := [": ping\n\n", "data: hello\n\n", "data: [DONE]\n\n"]
    Relays events (localDispatcher.streamLocally localService localPlan
      { statusCode := 200, chunks := [": ping\n\ndata: hello\n\n", "data: [DONE]\n\n"] }) := by
  intro events
  have hevents : ∀ event ∈ events, SseEvent event := by
    intro event hevent
    simp only [events, List.mem_cons, List.not_mem_nil, or_false] at hevent
    rcases hevent with rfl | rfl | rfl
    · exact ⟨.inl (by decide), ": ping".toList, by decide, by decide⟩
    · exact ⟨.inr (.inr (by decide)), "data: hello".toList, by decide, by decide⟩
    · exact ⟨.inr (.inr (by decide)), "data: [DONE]".toList, by decide, by decide⟩
  have hserves : Serves localDispatcher localService localPlan
      { statusCode := 200, chunks := [": ping\n\ndata: hello\n\n", "data: [DONE]\n\n"] } :=
    serves_localPlan (by decide)
  refine ((relays_iff localDispatcher localService localPlan _ events hserves (by decide)).2
    hevents).mpr ?_
  exact ⟨[[": ping\n\n", "data: hello\n\n"], ["data: [DONE]\n\n"]], rfl, by decide⟩

/-- An event that the transport cuts in two does not reach the caller. -/
theorem not_relays_cut :
    SseEvent "data: hello\n\n" ∧
    concat ["data: hel", "lo\n\n"] = concat ["data: hello\n\n"] ∧
    (∀ chunk ∈ ["data: hel", "lo\n\n"], chunk ≠ "") ∧
    Serves localDispatcher localService localPlan
      { statusCode := 200, chunks := ["data: hel", "lo\n\n"] } ∧
    ¬Relays ["data: hello\n\n"] (localDispatcher.streamLocally localService localPlan
      { statusCode := 200, chunks := ["data: hel", "lo\n\n"] }) := by
  have hserves : Serves localDispatcher localService localPlan
      { statusCode := 200, chunks := ["data: hel", "lo\n\n"] } := serves_localPlan (by decide)
  have hevent : SseEvent "data: hello\n\n" :=
    ⟨.inr (.inr (by decide)), "data: hello".toList, by decide, by decide⟩
  refine ⟨hevent, by decide, by decide, hserves, ?_⟩
  rw [relays_iff_framed hserves (by decide)]
  intro hframed
  have hfirst : SseFramed "data: hel" := hframed _ List.mem_cons_self (by decide)
  exact absurd hfirst.1 (by decide)

end Gpucall
