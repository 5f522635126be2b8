import Gpucall.Lib.Layer
import Gpucall.Dispatcher.Rules

/-! The events of one `execute_stream` call. A stream is known by what its `__anext__` has answered;
the call yields events of the stream that it has opened last, and opens no other one after it has
yielded. -/

namespace Gpucall

open Effects

/-- A stream of an adapter: what it has given at each `__anext__`, an exception or a timeout, or
nothing at its end. -/
structure AdapterStream where
  tuple : String
  answers : List (Except PyExc (Option String)) := []

/-- The streams that a call has opened, the last one first, and the events that it has yielded. -/
structure Relay where
  streams : List AdapterStream := []
  yielded : List String := []

namespace Relay

def after (g : Relay) (e : CallEvent) : Relay :=
  match e.op, e.outcome with
  | .openStream tuple _ _, .ok _ => { g with streams := { tuple } :: g.streams }
  | .nextEvent _ _, answer =>
    { g with streams := g.streams.modifyHead fun s => { s with answers := s.answers ++ [answer] } }
  | .yieldEvent event, _ => { g with yielded := g.yielded ++ [event] }
  | _, _ => g

/-- What the steps of a call show of its streams. -/
def ofSteps (steps : List CallEvent) : Relay := steps.foldl after {}

end Relay

/-- The answers of a stream that has given the events. -/
def gave (events : List String) : List (Except PyExc (Option String)) :=
  events.map fun event => .ok (some event)

/-- A stream is opened before the first event is yielded; an event that is yielded was validated and
is the last answer of the last stream, and the answers before it were yielded. -/
def relayProtocol (plan : CompiledPlan) : Protocol Call Call.Res PyExc Relay where
  pre g op :=
    match op with
    | .openStream tuple _ _ => tuple ∈ plan.tupleChain ∧ g.yielded = []
    | .yieldEvent event => streamEventError plan event = none ∧
        ∃ tuple ∈ plan.tupleChain, ∃ rest,
          g.streams = ⟨tuple, gave g.yielded ++ [.ok (some event)]⟩ :: rest
    | _ => True
  allowed _ e := Possible e
  after := Relay.after

/-- All events are from one stream. -/
structure Relay.OneSource (plan : CompiledPlan) (g : Relay) : Prop where
  valid : ∀ event ∈ g.yielded, streamEventError plan event = none
  source : g.yielded = [] ∨ ∃ s rest, g.streams = s :: rest ∧ s.tuple ∈ plan.tupleChain ∧
    gave g.yielded <+: s.answers

/-- The last stream has ended, and all its events were yielded. -/
def Relay.Complete (plan : CompiledPlan) (g : Relay) : Prop :=
  ∃ s rest, g.streams = s :: rest ∧ s.tuple ∈ plan.tupleChain ∧
    s.answers = gave g.yielded ++ [.ok none]

theorem Relay.OneSource.step {plan : CompiledPlan} {g : Relay} {e : CallEvent}
    (hpre : (relayProtocol plan).pre g e.op) (hg : g.OneSource plan) :
    (g.after e).OneSource plan := by
  obtain ⟨op, r⟩ := e
  cases op with
  | openStream tuple handle plan' =>
    cases r with
    | ok u => exact ⟨hg.valid, .inl hpre.2⟩
    | error exc => exact hg
  | nextEvent tuple handle =>
    refine ⟨hg.valid, hg.source.imp_right ?_⟩
    rintro ⟨s, rest, hstreams, htuple, hprefix⟩
    refine ⟨{ s with answers := s.answers ++ [r] }, rest, ?_, htuple, ?_⟩
    · show g.streams.modifyHead _ = _
      rw [hstreams]
      rfl
    · exact hprefix.trans (List.prefix_append _ _)
  | yieldEvent event =>
    obtain ⟨hvalid, tuple, htuple, rest, hstreams⟩ := hpre
    refine ⟨fun event' hmem => ?_, .inr ⟨_, rest, hstreams, htuple, ?_⟩⟩
    · obtain hmem | hmem := List.mem_append.mp hmem
      · exact hg.valid event' hmem
      · rw [List.mem_singleton.mp hmem]
        exact hvalid
    · show gave (g.yielded ++ [event]) <+: _
      simp [gave]
  | _ => exact hg

/-- A call that is not one of a stream leaves the relay as it is. -/
def Call.streams : Call → Bool
  | .openStream .. | .nextEvent .. | .yieldEvent _ => true
  | _ => false

section

variable {plan : CompiledPlan} {I : Relay → Prop}

theorem stays_relay {op : Call} (hop : op.streams = false) :
    (call op).Stays (relayProtocol plan) I := by
  refine fun g hg => Prog.wp_perform.mpr ⟨?_, fun r _ => ?_⟩
  · cases op <;> trivial
  · cases op <;> first | exact hg | cases hop

theorem relay_quiet {I : Locals → Relay → Prop}
    (hI : ∀ {s g} error, I s g → I { s with lastError := error } g) :
    Quiet (relayProtocol plan) I fun _ => I where
  call := fun {op} hop =>
    (Local.stays_ofProg fun _ => stays_relay (by cases op <;> first | rfl | cases hop)).keeps
  lastError := hI

theorem relay_admits : Admits (relayProtocol plan) I plan where
  quiet := relay_quiet fun _ h => h
  running _ := ⟨trivial, fun _ h => h⟩
  acquire _ _ := stays_relay rfl
  release _ := stays_relay rfl
  audit _ := stays_relay rfl
  utcNow := stays_relay rfl
  cancelRemote _ _ := stays_relay rfl
  start _ _ _ := stays_relay rfl

namespace Dispatcher

variable (d : Dispatcher) {attempt : ProviderEgressAttempt}

/-- Inside the loop over a stream: the stream has given exactly what was yielded, and the flag says
whether that is something. -/
def Relaying (attempt : ProviderEgressAttempt) (s : Locals) (g : Relay) : Prop :=
  (∃ rest, g.streams = ⟨attempt.tuple, gave g.yielded⟩ :: rest) ∧
    (s.streamYielded = false → g.yielded = [])

/-- The flag tells the `except` clauses whether something was yielded. -/
def Flagged (s : Locals) (g : Relay) : Prop := s.streamYielded = false → g.yielded = []

/-- The loop over a stream has ended: normally with the whole stream. -/
def loopPost (plan : CompiledPlan) (r : Except PyExc Unit) (s : Locals) (g : Relay) : Prop :=
  Flagged s g ∧ ∀ u, r = .ok u → g.Complete plan

theorem wp_streamRound (handle : RemoteHandle) (htuple : attempt.tuple ∈ plan.tupleChain)
    {s : Locals} {g : Relay} (h : Relaying attempt s g) :
    (streamRound plan attempt handle).wp (relayProtocol plan)
      (Local.roundPost (Relaying attempt) (loopPost plan)) s g := by
  obtain ⟨⟨rest, hstreams⟩, hflag⟩ := h
  refine Local.wp_perform_bind.mpr ⟨trivial, fun r _ => ?_⟩
  cases r with
  | error exc => exact ⟨hflag, by simp⟩
  | ok answer =>
    have hafter : (g.after ⟨.nextEvent attempt.tuple handle, .ok answer⟩).streams =
        ⟨attempt.tuple, gave g.yielded ++ [.ok answer]⟩ :: rest := by
      show g.streams.modifyHead _ = _
      rw [hstreams]
      rfl
    cases answer with
    | none => exact Local.wp_pure.mpr ⟨hflag, fun _ _ => ⟨_, rest, hafter, htuple, rfl⟩⟩
    | some event =>
      dsimp only
      cases hvalid : streamEventError plan event with
      | some error => exact Local.wp_throw.mpr ⟨hflag, by simp⟩
      | none =>
        refine Local.wp_write_bind.mpr (Local.wp_perform_bind.mpr
          ⟨⟨hvalid, attempt.tuple, htuple, rest, hafter⟩, fun r _ => ?_⟩)
        have hyielded : gave (g.yielded ++ [event]) = gave g.yielded ++ [.ok (some event)] := by
          simp [gave]
        cases r with
        | error exc => exact ⟨nofun, by simp⟩
        | ok u =>
          refine Local.wp_pure.mpr ⟨⟨rest, ?_⟩, nofun⟩
          exact hafter.trans (by rw [← hyielded]; rfl)

/-- What an attempt leaves for the fallback loop: it goes on only if nothing was yielded. -/
def relayPost (plan : CompiledPlan) : Except PyExc (Flow Unit) → Relay → Prop
  | .ok .next, g | .ok .stop, g => g.yielded = []
  | .ok (.ret _), g => g.Complete plan
  | .error _, _ => True

theorem wp_streamBody (htuple : attempt.tuple ∈ plan.tupleChain) {s : Locals} {g : Relay}
    (hg : g.yielded = []) :
    (d.streamBody plan attempt).wp (relayProtocol plan)
      (fun r s g => relayPost plan r g ∧ Flagged s g) s g := by
  have hadmits : Admits (relayProtocol plan) (fun g => g.yielded = []) plan := relay_admits
  refine (d.stays_startAttempt hadmits attempt htuple fun _ _ => Local.stays_pure ()).keeps.wp_bind hg
    (fun _ _ _ hg => ⟨trivial, fun _ => hg⟩) fun handle s g hg => ?_
  cases handle with
  | none => exact Local.wp_pure.mpr ⟨hg, fun _ => hg⟩
  | some handle =>
    refine Local.wp_perform_bind.mpr ⟨⟨htuple, hg⟩, fun r _ => ?_⟩
    cases r with
    | error exc => exact ⟨trivial, fun _ => hg⟩
    | ok u =>
      have hopened : Relaying attempt s (g.after ⟨.openStream attempt.tuple handle plan, .ok u⟩) := by
        refine ⟨⟨g.streams, ?_⟩, fun _ => hg⟩
        show _ = (⟨attempt.tuple, gave g.yielded⟩ : AdapterStream) :: g.streams
        rw [hg]
        rfl
      refine Local.wp_bind.mpr (Local.wp_mono (Local.wp_whileTrue (Q := loopPost plan) d.rounds
        (fun _ _ _ => ?_) (fun s g h => wp_streamRound handle htuple h) hopened) fun r s g hr => ?_)
      · exact Local.wp_ofProg.mpr (Prog.wp_perform_bind.mpr ⟨trivial, fun _ h => h.elim⟩)
      cases r with
      | error exc => exact ⟨trivial, hr.1⟩
      | ok u =>
        -- the stream is complete; the two calls that are left may still raise
        have hcomplete : g.Complete plan ∧ Flagged s g := ⟨hr.2 u rfl, hr.1⟩
        have hquiet : Quiet (relayProtocol plan) (fun s g => g.Complete plan ∧ Flagged s g)
            fun _ s g => g.Complete plan ∧ Flagged s g :=
          relay_quiet fun _ h => h
        refine (hquiet.call rfl).wp_bind hcomplete (fun _ _ _ h => ⟨trivial, h.2⟩) fun _ s g h => ?_
        refine (hquiet.call rfl).wp_bind h (fun _ _ _ h => ⟨trivial, h.2⟩) fun _ s g h => ?_
        exact Local.wp_pure.mpr h

theorem wp_streamExcept (exc : PyExc) {s : Locals} {g : Relay} (h : Flagged s g) :
    (streamExcept attempt exc).wp (relayProtocol plan) (fun r _ g => relayPost plan r g) s g := by
  have hquiet : Quiet (relayProtocol plan) Flagged fun _ => Flagged := relay_quiet fun _ h => h
  -- the clause raises if the flag is set
  have hend {p : Prop} [Decidable p] {e : PyExc} {s : Locals} {g : Relay}
      (hp : ¬p → s.streamYielded = false) (h : Flagged s g) :
      (if p then throw e else pure .next : Code (Flow Unit)).wp (relayProtocol plan)
        (fun r _ g => relayPost plan r g) s g := by
    split
    · exact Local.wp_throw.mpr trivial
    · exact Local.wp_pure.mpr (h (hp ‹_›))
  cases exc with
  | tupleError exc =>
    refine (keeps_setLastError hquiet _).wp_bind h (fun _ _ _ _ => trivial) fun _ s g h => ?_
    refine (keeps_providerFailure hquiet _ _).wp_bind h (fun _ _ _ _ => trivial) fun _ s g h => ?_
    exact Local.wp_read_bind.mpr (hend (by simp +contextual) h)
  | timeoutError =>
    refine (keeps_timeoutFailure hquiet _ _).wp_bind h (fun _ _ _ _ => trivial) fun _ s g h => ?_
    exact Local.wp_read_bind.mpr (hend (by simp) h)
  | cancelledError => exact Local.wp_throw.mpr trivial
  | generatorExit => exact Local.wp_throw.mpr trivial
  | governanceError | valueError | httpException | tenantBudgetError | exception =>
    refine (keeps_unexpectedFailure hquiet _ _).wp_bind h (fun _ _ _ _ => trivial) fun _ s g h => ?_
    exact Local.wp_read_bind.mpr (hend (by simp) h)

theorem wp_streamTuple {tuple : String} (htuple : tuple ∈ plan.tupleChain) {s : Locals} {g : Relay}
    (hg : g.yielded = []) :
    (d.streamTuple plan tuple).wp (relayProtocol plan) (fun r _ g => relayPost plan r g) s g := by
  have hstays {op : Call} (hop : op.streams = false) :
      (liftM (call op) : Code op.Res).Stays (relayProtocol plan) fun _ g => g.yielded = [] :=
    Local.stays_ofProg fun _ => stays_relay hop
  have herror (e : PyExc) (s : Locals) (g : Relay) (_ : g.yielded = []) :
      relayPost plan (.error e) g := trivial
  refine (hstays rfl).keeps.wp_bind hg herror fun available s g hg => ?_
  split
  · exact Local.wp_pure.mpr hg
  split
  · exact Local.wp_pure.mpr hg
  refine Local.wp_read_bind.mpr ?_
  split
  · exact (hstays rfl).keeps.wp_bind hg herror fun _ _ _ hg => Local.wp_pure.mpr hg
  dsimp only
  split
  · exact (hstays rfl).keeps.wp_bind hg herror fun _ s g hg =>
      Local.wp_write_bind.mpr (Local.wp_pure.mpr hg)
  refine Local.wp_write_bind.mpr (Local.wp_tryFinally.mpr (Local.wp_mono
    (Q := fun r _ g => relayPost plan r g) ?_ fun r s g hr => ?_))
  · refine Local.wp_tryCatch.mpr (Local.wp_mono (d.wp_streamBody htuple hg) fun r s g hr => ?_)
    cases r with
    | ok flow => exact hr.1
    | error exc => exact wp_streamExcept exc hr.2
  · -- the cleanup keeps what the attempt has left
    have hquiet : Quiet (relayProtocol plan) (fun _ g => relayPost plan r g)
        fun _ _ g => relayPost plan r g := relay_quiet fun _ h => h
    refine Local.wp_mono (keeps_finishAttempt hquiet
      (fun _ => (Local.stays_ofProg fun _ => stays_relay rfl).keeps) (fun _ _ _ => stays_relay rfl)
      (fun _ _ _ _ h => h) _ s g hr) fun r' s g hr => ?_
    cases r' with
    | ok u => exact hr
    | error e => trivial

theorem wp_executeStream :
    (d.executeStream plan).wp (relayProtocol plan)
      (fun r g => ∀ u, r = .ok u → g.Complete plan) {} := by
  have hquiet : Quiet (relayProtocol plan) (fun _ g => g.yielded = [])
      fun _ _ g => g.yielded = [] := relay_quiet fun _ h => h
  refine Local.wp_run ((hquiet.call rfl).wp_bind rfl (fun _ _ _ _ => by simp) fun _ s g hg => ?_)
  refine Local.wp_bind.mpr (Local.wp_mono (Local.wp_forEach
    (I := fun chain _ g => (∀ tuple ∈ chain, tuple ∈ plan.tupleChain) ∧ g.yielded = [])
    (Q := fun r _ g => ∀ u, r = .ok (some u) → g.Complete plan) (fun _ _ _ => by simp)
    (fun tuple chain s g h => ?_) ⟨fun _ h => h, hg⟩) fun r s g hr => ?_)
  · refine Local.wp_mono (d.wp_streamTuple (h.1 tuple (by simp)) h.2) fun r s g hr => ?_
    match r, hr with
    | .ok .next, hr => exact ⟨fun t ht => h.1 t (by simp [ht]), hr⟩
    | .ok .stop, hr => exact by simp [Local.flowPost]
    | .ok (.ret u), hr => exact fun _ _ => hr
    | .error e, _ => exact by simp [Local.flowPost]
  · match r with
    | .error e => simp
    | .ok none => exact Local.wp_read_bind.mpr (Local.wp_throw.mpr (by simp))
    | .ok (some u) => exact Local.wp_pure.mpr fun _ _ => hr u rfl

end Dispatcher

end

/-- **A stream never mixes providers.** At every point of an `execute_stream` call, the events that it
has yielded were validated and are a prefix of one stream of one tuple of the chain; if the call
returns, that stream has ended and they are all its events. -/
theorem stream_single_source (d : Dispatcher) (plan : CompiledPlan) (steps : List CallEvent)
    (q : Program Unit) (hsteps : (d.executeStream plan).Steps steps q)
    (hpossible : ∀ e ∈ steps, Possible e) :
    (∀ event ∈ (Relay.ofSteps steps).yielded, streamEventError plan event = none) ∧
      ((Relay.ofSteps steps).yielded = [] ∧ (∀ u, q ≠ .done (.ok u)) ∨
        ∃ stream ∈ (Relay.ofSteps steps).streams, stream.tuple ∈ plan.tupleChain ∧
          gave (Relay.ofSteps steps).yielded <+: stream.answers ∧
          ∀ u, q = .done (.ok u) →
            stream.answers = gave (Relay.ofSteps steps).yielded ++ [.ok none]) := by
  obtain ⟨hq, hsource⟩ := hsteps.invariant (I := Relay.OneSource plan) d.wp_executeStream
    (fun e he _ => hpossible e he) (fun hpre _ hg => hg.step hpre) ⟨by simp, .inl rfl⟩
  replace hsource : (Relay.ofSteps steps).OneSource plan := hsource
  refine ⟨hsource.valid, ?_⟩
  by_cases hend : ∃ u, q = .done (.ok u)
  · obtain ⟨u, rfl⟩ := hend
    obtain ⟨stream, rest, hstreams, htuple, hanswers⟩ : (Relay.ofSteps steps).Complete plan :=
      hq u rfl
    exact .inr ⟨stream, by simp [hstreams], htuple, hanswers ▸ List.prefix_append _ _,
      fun _ _ => hanswers⟩
  · have hend' (u : Unit) : q ≠ .done (.ok u) := fun h => hend ⟨u, h⟩
    refine hsource.source.imp (fun hnone => ⟨hnone, hend'⟩) ?_
    rintro ⟨stream, rest, hstreams, htuple, hprefix⟩
    exact ⟨stream, by simp [hstreams], htuple, hprefix, fun u h => absurd h (hend' u)⟩

/-- A stream of one event. -/
theorem stream_single_source_echo :
    ∃ steps, (({ echoDispatcher with rounds := 2 } : Dispatcher).executeStream echoPlan).Steps steps
        (.done (.ok ())) ∧
      (Relay.ofSteps steps).yielded = ["data: hello\n\n"] ∧
      ∃ stream ∈ (Relay.ofSteps steps).streams, stream.tuple ∈ echoPlan.tupleChain ∧
        stream.answers = gave (Relay.ofSteps steps).yielded ++ [.ok none] := by
  let d : Dispatcher := { echoDispatcher with rounds := 2 }
  have hrun : (d.executeStream echoPlan).Exec (Script.step fun _ => none)
      { events := [.ok (some "data: hello\n\n")] } _ _ _ := Prog.Exec.of_answer (fun h => h) rfl
  obtain ⟨-, ⟨-, hend⟩ | ⟨stream, hmem, htuple, -, hanswers⟩⟩ := stream_single_source d echoPlan _ _
    hrun.steps (hrun.forall Script.possible_of_step)
  · exact absurd rfl (hend ())
  · exact ⟨_, hrun.steps, rfl, stream, hmem, htuple, hanswers () rfl⟩

end Gpucall
