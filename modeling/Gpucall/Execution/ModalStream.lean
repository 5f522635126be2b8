import Mathlib.Data.List.Basic

/-! `ModalAdapter.stream` of `execution_surfaces/function_runtime.py`: a producer thread puts the chunks
on a queue, and the generator gets them with one worker thread after the other. A wait that times out
leaves its thread behind, and the thread still takes the next item it can get. -/

namespace Gpucall

/-- What `ModalAdapter.stream` yields an event for. -/
inductive StreamItem where
  | heartbeat
  | chunk (text : String)

def StreamItem.event : StreamItem → String
  | heartbeat => ": heartbeat\n\n"
  | chunk text => "data: " ++ text ++ "\n\n"

namespace ModalStream

/-- An item of the queue; `sentinel` is `None`. -/
inductive QueueItem (ε : Type) where
  | chunk (text : String)
  | error (e : ε)
  | sentinel

/-- What the producer puts. -/
def produced (chunks : List String) (error : Option ε) : List (QueueItem ε) :=
  chunks.map .chunk ++ (error.toList.map .error ++ [.sentinel])

/-- Where the generator is: before the next `q.get`, waiting for it, or at its end. -/
inductive Consumer (ε : Type) where
  | idle
  | waiting
  | ended
  | raised (e : ε)

/-- `toPut` is what the producer has not put yet, `abandoned` the number of threads that were left
behind. -/
structure RelayState (ε : Type) where
  toPut : List (QueueItem ε)
  queue : List (QueueItem ε) := []
  consumer : Consumer ε := .idle
  abandoned : ℕ := 0
  yielded : List StreamItem := [.heartbeat]

namespace RelayState

/-- The generator gets an item. -/
def receive (s : RelayState ε) : QueueItem ε → RelayState ε
  | .chunk text => { s with consumer := .idle, yielded := s.yielded ++ [.chunk text] }
  | .error e => { s with consumer := .raised e }
  | .sentinel => { s with consumer := .ended }

/-- The generator has not ended. -/
def Running (s : RelayState ε) : Prop :=
  match s.consumer with
  | .idle | .waiting => True
  | .ended | .raised _ => False

/-- The chunks whose frames were yielded. -/
def chunks (s : RelayState ε) : List String :=
  s.yielded.filterMap fun
    | .heartbeat => none
    | .chunk text => some text

end RelayState

inductive Action where
  | put | start | take | steal | timeout
  deriving DecidableEq

/-- The steps of the threads in any order. `start` begins an iteration of the loop; the item at the head
of the queue goes to the thread that is waited for (`take`) or to one that was left behind (`steal`). A
get returns at once unless the queue is empty, so only then a wait can time out. -/
inductive Step : RelayState ε → Action → RelayState ε → Prop where
  | put (h : s.toPut = item :: rest) :
    Step s .put { s with toPut := rest, queue := s.queue ++ [item] }
  | start (h : s.consumer = .idle) : Step s .start { s with consumer := .waiting }
  | take (h : s.consumer = .waiting) (hqueue : s.queue = item :: rest) :
    Step s .take ({ s with queue := rest }.receive item)
  | steal (h : s.abandoned = n + 1) (hqueue : s.queue = item :: rest) :
    Step s .steal { s with queue := rest, abandoned := n }
  | timeout (h : s.consumer = .waiting) (hqueue : s.queue = []) :
    Step s .timeout { s with
      consumer := .idle, abandoned := s.abandoned + 1, yielded := s.yielded ++ [.heartbeat] }

/-- A thread that was left behind takes an item of a generator that has not ended. -/
def Loses (s : RelayState ε) (action : Action) : Prop := action = .steal ∧ s.Running

/-- A run whose steps all meet a condition. -/
inductive Run (P : RelayState ε → Action → Prop) :
    RelayState ε → List Action → RelayState ε → Prop where
  | nil : Run P s [] s
  | cons (hstep : Step s action s₁) (h : P s action) (hrun : Run P s₁ actions s') :
    Run P s (action :: actions) s'

/-- The frames so far are those of the first chunks, and at its end the generator has yielded them all
and raised the exception if there is one. -/
structure Relayed (chunks : List String) (error : Option ε) (s : RelayState ε) : Prop where
  inOrder : s.chunks <+: chunks
  ended : s.consumer = .ended → s.chunks = chunks ∧ error = none
  raised : ∀ e, s.consumer = .raised e → s.chunks = chunks ∧ error = some e

section

variable {chunks : List String} {error : Option ε} {s s' : RelayState ε} {action : Action}

/-- A run that loses nothing: what was yielded, what is on the queue and what is to be put are all that is
produced. -/
def Whole (chunks : List String) (error : Option ε) (s : RelayState ε) : Prop :=
  match s.consumer with
  | .idle | .waiting => s.chunks.map .chunk ++ (s.queue ++ s.toPut) = produced chunks error
  | .ended => s.chunks = chunks ∧ error = none
  | .raised e => s.chunks = chunks ∧ error = some e

theorem produced_chunks {sent : List String} {rest : List (QueueItem ε)}
    (h : sent.map .chunk ++ rest = produced chunks error) :
    ∃ left, chunks = sent ++ left ∧ rest = produced left error := by
  induction sent generalizing chunks with
  | nil => exact ⟨chunks, rfl, h⟩
  | cons text sent ih =>
    cases chunks with
    | nil => cases error <;> simp [produced] at h
    | cons first chunks =>
      obtain ⟨hfirst, hrest⟩ := List.cons.inj h
      obtain ⟨left, rfl, hleft⟩ := ih hrest
      exact ⟨left, by rw [QueueItem.chunk.inj hfirst, List.cons_append], hleft⟩

theorem Whole.relayed (h : Whole chunks error s) : Relayed chunks error s := by
  cases hconsumer : s.consumer with
  | idle | waiting =>
    simp only [Whole, hconsumer] at h
    obtain ⟨left, hleft, -⟩ := produced_chunks h
    exact ⟨⟨left, hleft.symm⟩, fun he => absurd (hconsumer.symm.trans he) nofun,
      fun e he => absurd (hconsumer.symm.trans he) nofun⟩
  | ended =>
    simp only [Whole, hconsumer] at h
    exact ⟨h.1 ▸ List.prefix_refl _, fun _ => h, fun e he => absurd (hconsumer.symm.trans he) nofun⟩
  | raised e =>
    simp only [Whole, hconsumer] at h
    refine ⟨h.1 ▸ List.prefix_refl _, fun he => absurd (hconsumer.symm.trans he) nofun, ?_⟩
    intro e' he
    exact Consumer.raised.inj (hconsumer.symm.trans he) ▸ h

/-- The item that comes after the chunks is the exception, or the sentinel if there is none. -/
theorem Whole.receive {item : QueueItem ε} {rest : List (QueueItem ε)}
    (h : s.chunks.map .chunk ++ (item :: rest ++ s.toPut) = produced chunks error) :
    Whole chunks error ({ s with queue := rest }.receive item) := by
  obtain ⟨left, rfl, hleft⟩ := produced_chunks h
  cases item with
  | chunk text =>
    cases left with
    | nil => cases error <;> simp [produced] at hleft
    | cons first left =>
      obtain ⟨hfirst, hrest⟩ := List.cons.inj hleft
      obtain rfl := QueueItem.chunk.inj hfirst
      simp_all [Whole, RelayState.receive, RelayState.chunks, produced]
  | error e =>
    cases left with
    | cons => cases hleft
    | nil => cases error <;> simp_all [Whole, RelayState.receive, RelayState.chunks, produced]
  | sentinel =>
    cases left with
    | cons => cases hleft
    | nil => cases error <;> simp_all [Whole, RelayState.receive, RelayState.chunks, produced]

theorem Whole.step (h : Whole chunks error s) (hstep : Step s action s') (hkept : ¬Loses s action) :
    Whole chunks error s' := by
  cases hstep with
  | put hput =>
    unfold Whole at h ⊢
    cases hconsumer : s.consumer <;> simp_all [RelayState.chunks]
  | start hidle =>
    simpa only [Whole, hidle, RelayState.chunks] using h
  | take hwaiting hqueue =>
    simp only [Whole, hwaiting, hqueue] at h
    exact Whole.receive h
  | steal habandoned hqueue =>
    have hended : ¬s.Running := fun hrunning => hkept ⟨rfl, hrunning⟩
    unfold Whole RelayState.Running at *
    cases hconsumer : s.consumer <;> simp_all [RelayState.chunks]
  | timeout hwaiting hqueue =>
    simpa [Whole, hwaiting, RelayState.chunks] using h

theorem Whole.run {actions : List Action} (h : Whole chunks error s)
    (hrun : Run (fun s action => ¬Loses s action) s actions s') : Whole chunks error s' := by
  induction hrun with
  | nil => exact h
  | cons hstep hkept _ ih => exact ih (h.step hstep hkept)

/-! ## Iterations after the sentinel -/

/-- The iterations that are left once everything has been put. -/
def startsLeft (s : RelayState ε) : ℕ :=
  match s.consumer with
  | .idle => s.queue.length
  | .waiting => s.queue.length - 1
  | .ended | .raised _ => 0

theorem startsLeft_le : startsLeft s ≤ s.queue.length := by
  unfold startsLeft
  split <;> omega

theorem queue_ne_nil (h : s.chunks.map .chunk ++ (s.queue ++ s.toPut) = produced chunks error)
    (hput : s.toPut = []) : s.queue ≠ [] := by
  obtain ⟨left, -, hleft⟩ := produced_chunks h
  intro hempty
  rw [hput, hempty] at hleft
  simp [produced] at hleft

theorem startsLeft_step (h : Whole chunks error s) (hput : s.toPut = []) (hstep : Step s action s')
    (hkept : ¬Loses s action) :
    s'.toPut = [] ∧ startsLeft s' + (if action = .start then 1 else 0) ≤ startsLeft s := by
  cases hstep with
  | put hitem => exact absurd (hput.symm.trans hitem) nofun
  | start hidle =>
    simp only [Whole, hidle] at h
    have hpos := List.length_pos_of_ne_nil (queue_ne_nil h hput)
    refine ⟨hput, ?_⟩
    simp only [startsLeft, hidle, if_true]
    omega
  | take hwaiting hqueue =>
    rename_i item rest
    refine ⟨by cases item <;> exact hput, ?_⟩
    cases item <;> simp [startsLeft, RelayState.receive, hwaiting, hqueue]
  | steal habandoned hqueue =>
    have hended : ¬s.Running := fun hrunning => hkept ⟨rfl, hrunning⟩
    refine ⟨hput, ?_⟩
    unfold RelayState.Running at hended
    cases hconsumer : s.consumer <;> simp_all [startsLeft]
  | timeout hwaiting hqueue =>
    simp only [Whole, hwaiting] at h
    exact absurd hqueue (queue_ne_nil h hput)

theorem count_start_le {actions : List Action} (h : Whole chunks error s) (hput : s.toPut = [])
    (hrun : Run (fun s action => ¬Loses s action) s actions s') :
    actions.count .start ≤ startsLeft s := by
  induction hrun with
  | nil => exact Nat.zero_le _
  | @cons s action s₁ actions s' hstep hkept _ ih =>
    obtain ⟨hput₁, hle⟩ := startsLeft_step h hput hstep hkept
    have hcount := ih (h.step hstep hkept) hput₁
    rw [List.count_cons]
    simp only [beq_iff_eq]
    omega

end

/-- A run in which no thread that was left behind takes an item relays every chunk and the exception
exactly once, in order, and after the sentinel there are no more iterations than items on the queue. -/
theorem relayed_of_not_loses (chunks : List String) (error : Option ε) {actions : List Action}
    {s : RelayState ε} (hrun : Run (fun s action => ¬Loses s action)
      { toPut := produced chunks error } actions s) :
    Relayed chunks error s ∧
    (s.toPut = [] → ∀ later s', Run (fun s action => ¬Loses s action) s later s' →
      later.count .start ≤ s.queue.length) := by
  have hwhole : Whole chunks error s := Whole.run (s := { toPut := produced chunks error }) rfl hrun
  refine ⟨hwhole.relayed, fun hput later s' hlater => ?_⟩
  exact Nat.le_trans (count_start_le hwhole hput hlater) startsLeft_le

/-- A stream with a heartbeat, whose thread never gets anything. -/
theorem relayed_of_not_loses_heartbeat : ∃ s : RelayState String,
    Run (fun s action => ¬Loses s action) { toPut := produced ["a"] none }
      [.start, .timeout, .put, .start, .take, .put, .start, .take] s ∧
    s.consumer = .ended ∧ s.chunks = ["a"] := by
  have hkept {s : RelayState String} {action : Action} (h : action ≠ .steal) : ¬Loses s action :=
    fun hloses => h hloses.1
  have hrun : Run (fun s action => ¬Loses s action)
      { toPut := produced (ε := String) ["a"] none }
      [.start, .timeout, .put, .start, .take, .put, .start, .take] _ :=
    .cons (.start rfl) (hkept nofun) <| .cons (.timeout rfl rfl) (hkept nofun) <|
    .cons (.put rfl) (hkept nofun) <| .cons (.start rfl) (hkept nofun) <|
    .cons (.take rfl rfl) (hkept nofun) <| .cons (.put rfl) (hkept nofun) <|
    .cons (.start rfl) (hkept nofun) <| .cons (.take rfl rfl) (hkept nofun) .nil
  exact ⟨_, hrun, rfl, ((relayed_of_not_loses ["a"] none hrun).1.ended rfl).1⟩

/-- A chunk that comes after a heartbeat may go to the thread that was left behind. -/
theorem not_alwaysRelayed : ¬∀ (chunks : List String) (error : Option String) (actions : List Action)
    (s : RelayState String),
    Run (fun _ _ => True) { toPut := produced chunks error } actions s →
      Relayed chunks error s := by
  intro h
  have hrun : Run (fun _ _ => True) { toPut := produced (ε := String) ["a"] none }
      [.start, .timeout, .put, .steal, .put, .start, .take] _ :=
    .cons (.start rfl) trivial <| .cons (.timeout rfl rfl) trivial <|
    .cons (.put rfl) trivial <| .cons (.steal rfl rfl) trivial <|
    .cons (.put rfl) trivial <| .cons (.start rfl) trivial <|
    .cons (.take rfl rfl) trivial .nil
  have hlost : [] = ["a"] := ((h ["a"] none _ _ hrun).ended rfl).1
  cases hlost

end ModalStream

end Gpucall
