import Gpucall.Lib.Layer
import Gpucall.Dispatcher.Rules

/-! The starts of one `execute_sync` call. A start is in the order of the chain, within the limits on
attempts, after its own admission and the security gate, and after nothing that ends the dispatch. -/

namespace Gpucall

open Effects

/-- The clause for a rejected output takes the error. -/
def TupleError.isOutputRejection (exc : TupleError) : Bool :=
  exc.code.any (· ∈ ["EMPTY_OUTPUT", "MALFORMED_OUTPUT", "OUTPUT_TRUNCATED"])

/-- A truncated output, or an error of the provider after which there is no fallback. -/
def TupleError.endsDispatch (exc : TupleError) : Bool :=
  exc.code = some "OUTPUT_TRUNCATED" ||
    (!exc.isOutputRejection && !providerErrorFallbackEligible exc)

def errorEnds : Except PyExc α → Bool
  | .error (.tupleError exc) => exc.endsDispatch
  | _ => false

/-- What the steps of a call show of its starts. `position` counts the rounds of the loop over the
chain that have begun; `starts` are the positions in the chain and the tuples of the starts;
`admitted` is the tuple of the last decision to admit, until it is started, and `gatePassed` whether
the gate has let the plan pass since; `rejected` is the tuple of an output that was rejected after the
last start and may be tried again; `ended` says that an output was accepted or an error ends the
dispatch. -/
structure StartLog where
  position : ℕ := 0
  starts : List (ℕ × String) := []
  admitted : Option String := none
  gatePassed : Bool := false
  rejected : Option String := none
  ended : Bool := false

namespace StartLog

def after (plan : CompiledPlan) (g : StartLog) (e : CallEvent) : StartLog :=
  match e.op, e.outcome with
  | .isAvailable _, _ => { g with position := g.position + 1 }
  | .acquire tuple _, .ok (.allowed _) => { g with admitted := some tuple, gatePassed := false }
  | .utcNow, .ok now =>
    match securityGateError plan.attestations now with
    | none => { g with gatePassed := true }
    | some exc => { g with ended := g.ended || exc.endsDispatch }
  | .start tuple _, r =>
    { g with
      starts := g.starts ++ [(g.position - 1, tuple)]
      admitted := none, gatePassed := false, rejected := none
      ended := g.ended || errorEnds r }
  | .wait .., r => { g with ended := g.ended || errorEnds r }
  | .validateOutput .., r => { g with ended := g.ended || r.isOk || errorEnds r }
  | .audit (.outputRejected attempt _ _ true), _ => { g with rejected := some attempt.tuple }
  | _, _ => g

def ofSteps (plan : CompiledPlan) (steps : List CallEvent) : StartLog := steps.foldl (after plan) {}

/-- The starts at a position of the chain. -/
def startsAt (g : StartLog) (index : ℕ) : ℕ := g.starts.countP (·.1 = index)

/-- The families of the starts. -/
def families (d : Dispatcher) (g : StartLog) : List String := g.starts.map fun x => d.familyFor x.2

end StartLog

/-- What holds of the steps before a start. -/
structure StartAllowed (d : Dispatcher) (plan : CompiledPlan) (g : StartLog) (tuple : String) : Prop
    where
  position : 0 < g.position
  chain : plan.tupleChain[g.position - 1]? = some tuple
  admitted : g.admitted = some tuple
  gatePassed : g.gatePassed = true
  running : g.ended = false
  attempts : g.startsAt (g.position - 1) < plan.outputValidationAttempts
  restart : (g.starts.getLast?.map Prod.fst) = some (g.position - 1) → g.rejected = some tuple
  fallback : 0 < d.maxFallbackAttempts → g.starts.length < d.maxFallbackAttempts
  family : 0 < d.maxFamilyAttempts →
    (g.families d).count (d.familyFor tuple) < d.maxFamilyAttempts

/-- A step after an accepted output fails, and the clauses of the attempt take it for a failure of the
provider. -/
def BookkeepingFault (e : CallEvent) : Bool :=
  match e.op, e.outcome with
  | .recordObservation _ true, .error exc | .audit (.planCompleted ..), .error exc => exc.isException
  | .recordAttempt record, .error exc => record.outcome = .success && exc.isException
  | _, _ => false

def startsProtocol (d : Dispatcher) (plan : CompiledPlan) :
    Protocol Call Call.Res PyExc StartLog where
  pre g op :=
    match op with
    | .start tuple plan' => plan' = plan ∧ StartAllowed d plan g tuple
    | _ => True
  allowed _ e := Possible e ∧ BookkeepingFault e = false
  after := StartLog.after plan

/-! ## The log -/

/-- The starts are in the order of the chain and within the limits. -/
structure StartLog.Bounded (d : Dispatcher) (plan : CompiledPlan) (g : StartLog) : Prop where
  before : ∀ x ∈ g.starts, x.1 < g.position
  chain : ∀ x ∈ g.starts, plan.tupleChain[x.1]? = some x.2
  ordered : (g.starts.map Prod.fst).Pairwise (· ≤ ·)
  attempts : ∀ index, g.startsAt index ≤ plan.outputValidationAttempts
  fallback : 0 < d.maxFallbackAttempts → g.starts.length ≤ d.maxFallbackAttempts
  family : 0 < d.maxFamilyAttempts → ∀ family, (g.families d).count family ≤ d.maxFamilyAttempts

/-- A call that leaves the starts and the position alone. -/
theorem StartLog.Bounded.congr {d : Dispatcher} {plan : CompiledPlan} {g g' : StartLog}
    (hg : g.Bounded d plan) (hstarts : g'.starts = g.starts) (hposition : g.position ≤ g'.position) :
    g'.Bounded d plan where
  before x hx := Nat.lt_of_lt_of_le (hg.before x (hstarts ▸ hx)) hposition
  chain x hx := hg.chain x (hstarts ▸ hx)
  ordered := by
    rw [hstarts]
    exact hg.ordered
  attempts index := by
    rw [startsAt, hstarts]
    exact hg.attempts index
  fallback h := by
    rw [hstarts]
    exact hg.fallback h
  family h f := by
    rw [families, hstarts]
    exact hg.family h f

theorem StartLog.Bounded.start {d : Dispatcher} {plan : CompiledPlan} {g : StartLog} {tuple : String}
    (hallowed : StartAllowed d plan g tuple) (hg : g.Bounded d plan) {g' : StartLog}
    (hstarts : g'.starts = g.starts ++ [(g.position - 1, tuple)])
    (hposition : g'.position = g.position) : g'.Bounded d plan where
  before x hx := by
    rw [hstarts] at hx
    rw [hposition]
    obtain hx | hx := List.mem_append.mp hx
    · exact hg.before x hx
    · rw [List.mem_singleton.mp hx]
      exact Nat.sub_lt hallowed.position Nat.one_pos
  chain x hx := by
    rw [hstarts] at hx
    obtain hx | hx := List.mem_append.mp hx
    · exact hg.chain x hx
    · rw [List.mem_singleton.mp hx]
      exact hallowed.chain
  ordered := by
    rw [hstarts, List.map_append, List.pairwise_append]
    refine ⟨hg.ordered, by simp, fun i hi j hj => ?_⟩
    obtain ⟨x, hx, rfl⟩ := List.mem_map.mp hi
    obtain rfl : j = g.position - 1 := by simpa using hj
    exact Nat.le_sub_one_of_lt (hg.before x hx)
  attempts index := by
    have hcount : g'.startsAt index =
        g.startsAt index + if g.position - 1 = index then 1 else 0 := by
      simp [startsAt, hstarts, List.countP_append, List.countP_singleton]
    rw [hcount]
    split
    · rename_i hindex
      exact hindex ▸ hallowed.attempts
    · exact hg.attempts index
  fallback h := by
    rw [hstarts, List.length_append]
    exact hallowed.fallback h
  family h f := by
    have hcount : (g'.families d).count f =
        (g.families d).count f + if d.familyFor tuple = f then 1 else 0 := by
      simp [families, hstarts, List.count_append, List.count_singleton]
    rw [hcount]
    split
    · rename_i hf
      exact hf ▸ hallowed.family h
    · exact hg.family h f

theorem StartLog.Bounded.step {d : Dispatcher} {plan : CompiledPlan} {g : StartLog} {e : CallEvent}
    (hpre : (startsProtocol d plan).pre g e.op) (hg : g.Bounded d plan) :
    (g.after plan e).Bounded d plan := by
  obtain ⟨op, r⟩ := e
  cases op with
  | start tuple plan' => exact hg.start hpre.2 rfl rfl
  | isAvailable tuple => exact hg.congr rfl (Nat.le_succ _)
  | wait | validateOutput => exact hg.congr rfl le_rfl
  | acquire tuple scope =>
    match r with
    | .error _ | .ok (.rejected ..) => exact hg
    | .ok (.allowed lease) => exact hg.congr rfl le_rfl
  | utcNow =>
    cases r with
    | error exc => exact hg
    | ok now =>
      show (match securityGateError plan.attestations now with
        | none => { g with gatePassed := true }
        | some exc => { g with ended := g.ended || exc.endsDispatch } : StartLog).Bounded d plan
      split
      · exact hg.congr rfl le_rfl
      · exact hg.congr rfl le_rfl
  | audit event =>
    cases event with
    | outputRejected attempt code reason retryable =>
      cases retryable with
      | true => exact hg.congr rfl le_rfl
      | false => exact hg
    | _ => exact hg
  | _ => exact hg

/-! ## The attempts of a tuple -/

/-- A call that leaves the log as it is. -/
def Call.unlogged : Call → Bool
  | .isAvailable _ | .acquire .. | .utcNow | .start .. | .wait .. | .validateOutput .. => false
  | .audit (.outputRejected ..) => false
  | _ => true

/-- The counters of the call cover the families of the starts, and are within the limits. -/
structure Counted (d : Dispatcher) (s : Locals) (families : List String) : Prop where
  started : families.length ≤ s.startedAttempts
  family : ∀ f, families.count f ≤ s.familyAttempts f
  startedLimit : 0 < d.maxFallbackAttempts → s.startedAttempts ≤ d.maxFallbackAttempts
  familyLimit : 0 < d.maxFamilyAttempts → ∀ f, s.familyAttempts f ≤ d.maxFamilyAttempts

theorem Counted.of_append {d : Dispatcher} {s : Locals} {families : List String} {f : String}
    (h : Counted d s (families ++ [f])) : Counted d s families where
  started := Nat.le_of_succ_le (by simpa using h.started)
  family f' := by
    have hcount := h.family f'
    rw [List.count_append] at hcount
    omega
  startedLimit := h.startedLimit
  familyLimit := h.familyLimit

/-- One more attempt is admitted. -/
theorem Counted.increment {d : Dispatcher} {s s' : Locals} {families : List String} {f : String}
    (h : Counted d s families)
    (hstarted : 0 < d.maxFallbackAttempts → s.startedAttempts < d.maxFallbackAttempts)
    (hfamily : 0 < d.maxFamilyAttempts → s.familyAttempts f < d.maxFamilyAttempts)
    (hs : s'.startedAttempts = s.startedAttempts + 1)
    (hs' : s'.familyAttempts = increment s.familyAttempts f) :
    Counted d s' (families ++ [f]) where
  started := by
    have hle := h.started
    simp [hs, hle]
  family f' := by
    have hle := h.family f'
    rw [hs', List.count_append, Gpucall.increment]
    by_cases hf : f' = f
    · subst hf
      simpa using hle
    · rw [Function.update_of_ne hf]
      simpa [List.count_singleton, Ne.symm hf] using hle
  startedLimit hpos := by
    rw [hs]
    exact hstarted hpos
  familyLimit hpos f' := by
    rw [hs', Gpucall.increment]
    by_cases hf : f' = f
    · subst hf
      rw [Function.update_self]
      exact hfamily hpos
    · rw [Function.update_of_ne hf]
      exact h.familyLimit hpos f'

/-- During the attempts of the tuple at a position of the chain. -/
structure StartLog.At (d : Dispatcher) (index attempt : ℕ) (s : Locals) (g : StartLog) : Prop where
  position : g.position = index + 1
  before : ∀ x ∈ g.starts, x.1 < g.position
  attempts : g.startsAt index ≤ attempt
  counted : Counted d s (g.families d)

theorem StartLog.At.congr {d : Dispatcher} {index attempt : ℕ} {s s' : Locals} {g g' : StartLog}
    (h : g.At d index attempt s) (hposition : g'.position = g.position)
    (hstarts : g'.starts = g.starts) (hstarted : s'.startedAttempts = s.startedAttempts)
    (hfamily : s'.familyAttempts = s.familyAttempts) : g'.At d index attempt s' where
  position := hposition.trans h.position
  before := by
    rw [hstarts, hposition]
    exact h.before
  attempts := by
    rw [startsAt, hstarts]
    exact h.attempts
  counted := by
    rw [families, hstarts]
    exact ⟨hstarted ▸ h.counted.started, hfamily ▸ h.counted.family,
      hstarted ▸ h.counted.startedLimit, hfamily ▸ h.counted.familyLimit⟩

theorem StartLog.At.mono {d : Dispatcher} {index attempt attempt' : ℕ} {s : Locals} {g : StartLog}
    (h : g.At d index attempt s) (hle : attempt ≤ attempt') : g.At d index attempt' s :=
  ⟨h.position, h.before, h.attempts.trans hle, h.counted⟩

/-- Before an attempt of the tuple: it was not started at this position, or its output was rejected. -/
structure StartLog.Ready (d : Dispatcher) (tuple : String) (index attempt : ℕ) (s : Locals)
    (g : StartLog) : Prop extends StartLog.At d index attempt s g where
  running : g.ended = false
  restart : g.starts.getLast?.map Prod.fst = some index → g.rejected = some tuple

section

variable {d : Dispatcher} {plan : CompiledPlan} {I : Locals → StartLog → Prop} {s : Locals}
  {g : StartLog}

theorem stays_unlogged {I : StartLog → Prop} {op : Call} (hop : op.unlogged = true) :
    (call op).Stays (startsProtocol d plan) I := by
  refine fun g hg => Prog.wp_perform.mpr ⟨?_, fun r _ => ?_⟩
  · cases op <;> trivial
  · cases op with
    | audit event => cases event <;> first | exact hg | cases hop
    | _ => first | exact hg | cases hop

theorem starts_quiet (hI : ∀ {s g} error, I s g → I { s with lastError := error } g) :
    Quiet (startsProtocol d plan) I fun _ => I where
  call := fun {op} hop => by
    refine (Local.stays_ofProg fun _ => stays_unlogged ?_).keeps
    cases op with
    | audit event => cases event <;> first | rfl | cases hop
    | _ => first | rfl | cases hop
  lastError := hI

/-- The decision to admit a tuple is the last one. -/
theorem wp_acquireWithWait (hI : ∀ s g tuple passed, I s g →
      I s { g with admitted := tuple, gatePassed := passed })
    (hlast : ∀ {s g} error, I s g → I { s with lastError := error } g)
    (tuple : String) (scope : Option String) (waitSeconds : ℚ) (h : I s g) :
    (d.acquireWithWait tuple scope waitSeconds).wp (startsProtocol d plan) (fun r s g =>
      I s g ∧ ∀ lease, r = .ok (.allowed lease) → g.admitted = some tuple) s g := by
  have hquiet : Quiet (startsProtocol d plan) I fun _ => I := starts_quiet hlast
  refine (hquiet.call rfl).wp_bind h (fun _ _ _ h => ⟨h, by simp⟩) fun now s g h => ?_
  refine Local.wp_whileTrue (I := I) d.rounds (fun s g _ => ?_) (fun s g h => ?_) h
  · exact Local.wp_ofProg.mpr (Prog.wp_perform_bind.mpr ⟨trivial, fun _ h => h.1.elim⟩)
  refine Local.wp_perform_bind.mpr ⟨trivial, fun r _ => ?_⟩
  match r with
  | .error exc => exact ⟨h, by simp⟩
  | .ok (.allowed lease) =>
    exact Local.wp_pure.mpr ⟨hI s g (some tuple) false h, fun _ _ => rfl⟩
  | .ok (.rejected reason secs) =>
    dsimp only
    split
    · exact Local.wp_pure.mpr ⟨h, by simp⟩
    refine (keeps_sleepUntil hquiet _).wp_bind h (fun _ _ _ h => ⟨h, by simp⟩) fun more s g h => ?_
    split
    · exact Local.wp_pure.mpr h
    · exact Local.wp_pure.mpr ⟨h, by simp⟩

/-- An exception that ends the call. -/
def PyExc.endsDispatch : PyExc → Bool
  | .tupleError exc => exc.endsDispatch
  | .cancelledError | .generatorExit => true
  | _ => false

theorem endsDispatch_of_errorEnds {r : Except PyExc α} {exc : PyExc} (hr : r = .error exc)
    (hended : errorEnds r = true) : exc.endsDispatch = true := by
  subst hr
  cases exc with
  | tupleError exc => exact hended
  | _ => cases hended

/-- The attempt is admitted and counted, but not yet started. -/
structure StartLog.Admitted (d : Dispatcher) (tuple : String) (index attempt : ℕ) (s : Locals)
    (g : StartLog) : Prop where
  position : g.position = index + 1
  before : ∀ x ∈ g.starts, x.1 < g.position
  attempts : g.startsAt index ≤ attempt
  counted : Counted d s (g.families d ++ [d.familyFor tuple])
  running : g.ended = false
  restart : g.starts.getLast?.map Prod.fst = some index → g.rejected = some tuple
  admitted : g.admitted = some tuple

theorem StartLog.Admitted.toAt {tuple : String} {index attempt : ℕ}
    (h : g.Admitted d tuple index attempt s) : g.At d index (attempt + 1) s :=
  ⟨h.position, h.before, h.attempts.trans (Nat.le_succ _), h.counted.of_append⟩

theorem StartLog.Admitted.startAllowed {tuple : String} {index attempt : ℕ}
    (h : g.Admitted d tuple index attempt s) (hpassed : g.gatePassed = true)
    (hchain : plan.tupleChain[index]? = some tuple)
    (hattempt : attempt < plan.outputValidationAttempts) : StartAllowed d plan g tuple := by
  have hindex : g.position - 1 = index := by rw [h.position, Nat.add_sub_cancel]
  refine ⟨h.position ▸ Nat.succ_pos index, hindex ▸ hchain, h.admitted, hpassed, h.running,
    hindex ▸ Nat.lt_of_le_of_lt h.attempts hattempt, hindex ▸ h.restart, fun hpos => ?_,
    fun hpos => ?_⟩
  · have hstarted := h.counted.started.trans (h.counted.startedLimit hpos)
    exact Nat.lt_of_succ_le (by simpa [families] using hstarted)
  · have hfamily := (h.counted.family (d.familyFor tuple)).trans (h.counted.familyLimit hpos _)
    rw [List.count_append] at hfamily
    exact Nat.lt_of_succ_le (by simpa using hfamily)

/-- The attempt after its start. -/
theorem StartLog.Admitted.start {tuple : String} {index attempt : ℕ}
    (h : g.Admitted d tuple index attempt s) {g' : StartLog}
    (hstarts : g'.starts = g.starts ++ [(g.position - 1, tuple)])
    (hposition : g'.position = g.position) : g'.At d index (attempt + 1) s where
  position := hposition.trans h.position
  before x hx := by
    rw [hstarts] at hx
    rw [hposition]
    obtain hx | hx := List.mem_append.mp hx
    · exact h.before x hx
    · rw [List.mem_singleton.mp hx, h.position]
      exact Nat.lt_succ_self _
  attempts := by
    rw [startsAt, hstarts, List.countP_append, h.position]
    exact Nat.add_le_add h.attempts (by simp)
  counted := by
    rw [families, hstarts, List.map_append]
    exact h.counted

/-- What an attempt leaves, by its outcome. -/
def attemptPost (d : Dispatcher) (index attempt : ℕ) (r : Except PyExc α) (s : Locals)
    (g : StartLog) : Prop :=
  g.At d index (attempt + 1) s ∧
    match r with
    | .ok _ => g.ended = false
    | .error exc => g.ended = true → exc.endsDispatch = true

theorem attemptPost.of_running {r : Except PyExc α} {index n : ℕ} (h : g.At d index (n + 1) s)
    (hrunning : g.ended = false) : attemptPost d index n r s g := by
  refine ⟨h, ?_⟩
  cases r with
  | ok a => exact hrunning
  | error exc => simp [hrunning]

/-- From the decision to admit to the remote handle. -/
theorem wp_startAdmitted {attempt : ProviderEgressAttempt} {index n : ℕ}
    (hchain : plan.tupleChain[index]? = some attempt.tuple)
    (hattempt : n < plan.outputValidationAttempts) (h : g.Admitted d attempt.tuple index n s) :
    Local.wp (startsProtocol d plan)
      (do
        call (.audit (.admissionAccepted attempt))
        enforcePreExecutionSecurityGate plan
        let handle ← call (.start attempt.tuple plan)
        Local.write fun s => { s with handle := some handle }
        call (.audit (.leaseStarted handle attempt))
        return some handle)
      (attemptPost d index n) s g := by
  refine Local.wp_perform_bind.mpr ⟨trivial, fun r _ => ?_⟩
  cases r with
  | error exc => exact .of_running h.toAt h.running
  | ok u =>
    refine Local.wp_bind.mpr (Local.wp_ofProg.mpr (wp_securityGate (Prog.wp_perform.mpr
      ⟨trivial, fun r _ => ?_⟩)))
    cases r with
    | error exc => exact .of_running h.toAt h.running
    | ok now =>
      refine ⟨fun error hgate => ?_, fun hgate => ?_⟩
      · have hafter : (startsProtocol d plan).after g ⟨.utcNow, .ok now⟩ =
            { g with ended := g.ended || error.endsDispatch } := by
          simp only [startsProtocol, StartLog.after, hgate]
        change attemptPost d index n _ s ((startsProtocol d plan).after g ⟨.utcNow, .ok now⟩)
        rw [hafter]
        refine ⟨h.toAt.congr rfl rfl rfl rfl, fun hended => ?_⟩
        simpa [h.running, PyExc.endsDispatch] using hended
      · have hafter : (startsProtocol d plan).after g ⟨.utcNow, .ok now⟩ = { g with gatePassed := true } := by
          simp only [startsProtocol, StartLog.after, hgate]
        change Local.wp _ _ _ s ((startsProtocol d plan).after g ⟨.utcNow, .ok now⟩)
        rw [hafter]
        have hpassed : StartLog.Admitted d attempt.tuple index n s { g with gatePassed := true } :=
          ⟨h.position, h.before, h.attempts, h.counted, h.running, h.restart, h.admitted⟩
        refine Local.wp_perform_bind.mpr
          ⟨⟨rfl, hpassed.startAllowed rfl hchain hattempt⟩, fun r _ => ?_⟩
        have hstarted : ((startsProtocol d plan).after { g with gatePassed := true }
            ⟨.start attempt.tuple plan, r⟩).At d index (n + 1) s := hpassed.start rfl rfl
        cases r with
        | error exc => exact ⟨hstarted, fun hended => endsDispatch_of_errorEnds (r := .error exc) rfl
            (by simpa [startsProtocol, StartLog.after, h.running] using hended)⟩
        | ok handle =>
          refine Local.wp_write_bind.mpr (Local.wp_perform_bind.mpr ⟨trivial, fun r _ => ?_⟩)
          have hrunning : ((startsProtocol d plan).after { g with gatePassed := true }
              ⟨.start attempt.tuple plan, .ok handle⟩).ended = false := by
            simp [startsProtocol, StartLog.after, h.running, errorEnds]
          cases r with
          | error exc => exact .of_running (hstarted.congr rfl rfl rfl rfl) hrunning
          | ok u => exact Local.wp_pure.mpr (.of_running (hstarted.congr rfl rfl rfl rfl) hrunning)

theorem wp_startAttempt {attempt : ProviderEgressAttempt} {index n : ℕ}
    {rejected : AdmissionReason → Option ℚ → Code Unit}
    (hrejected : ∀ I reason secs, (rejected reason secs).Stays (startsProtocol d plan) I)
    (hfamily : attempt.providerFamily = d.familyFor attempt.tuple)
    (hchain : plan.tupleChain[index]? = some attempt.tuple)
    (hattempt : n < plan.outputValidationAttempts) (h : g.Ready d attempt.tuple index n s)
    (hstarted : 0 < d.maxFallbackAttempts → s.startedAttempts < d.maxFallbackAttempts)
    (hlimit : 0 < d.maxFamilyAttempts →
      s.familyAttempts (d.familyFor attempt.tuple) < d.maxFamilyAttempts) :
    (d.startAttempt plan attempt rejected).wp (startsProtocol d plan) (attemptPost d index n) s g := by
  refine Local.wp_bind.mpr (Local.wp_mono (wp_acquireWithWait
    (I := fun s g => g.Ready d attempt.tuple index n s ∧
      (0 < d.maxFallbackAttempts → s.startedAttempts < d.maxFallbackAttempts) ∧
      (0 < d.maxFamilyAttempts →
        s.familyAttempts (d.familyFor attempt.tuple) < d.maxFamilyAttempts))
    (fun s g _ _ h => ⟨⟨h.1.toAt.congr rfl rfl rfl rfl, h.1.running, h.1.restart⟩, h.2⟩)
    (fun _ h => ⟨⟨h.1.toAt.congr rfl rfl rfl rfl, h.1.running, h.1.restart⟩, h.2⟩)
    _ _ _ ⟨h, hstarted, hlimit⟩) fun r s g hr => ?_)
  obtain ⟨⟨hready, hstarted, hlimit⟩, hadmitted⟩ := hr
  have hpost {r : Except PyExc (Option RemoteHandle)} {s' : Locals} {g' : StartLog}
      (h : g'.At d index n s' ∧ g'.ended = false) : attemptPost d index n r s' g' :=
    .of_running (h.1.mono (Nat.le_succ _)) h.2
  match r with
  | .error exc => exact hpost ⟨hready.toAt, hready.running⟩
  | .ok (.rejected reason secs) =>
    have hquiet : Quiet (startsProtocol d plan) (fun s g => g.At d index n s ∧ g.ended = false)
        fun _ s g => g.At d index n s ∧ g.ended = false :=
      starts_quiet fun _ h => ⟨h.1.congr rfl rfl rfl rfl, h.2⟩
    have haudit (event : AuditEvent) (hevent : (Call.audit event).unlogged = true) :
        (liftM (call (.audit event)) : Code Unit).Stays (startsProtocol d plan)
          fun s g => g.At d index n s ∧ g.ended = false :=
      Local.stays_ofProg fun _ => stays_unlogged hevent
    exact Local.wp_mono (((haudit _ rfl).bind fun _ => (Dispatcher.keeps_setLastError hquiet _).stays.bind
      fun _ => (hrejected _ reason secs).bind fun _ => Local.stays_pure none) s g
        ⟨hready.toAt, hready.running⟩) fun _ _ _ h => hpost h
  | .ok (.allowed lease) =>
    refine Local.wp_write_bind.mpr (wp_startAdmitted hchain hattempt ?_)
    exact ⟨hready.position, hready.before, hready.attempts,
      hready.counted.increment hstarted hlimit rfl (by rw [hfamily]), hready.running,
      hready.restart, hadmitted lease rfl⟩

theorem PyExc.endsDispatch_of_not_isException {exc : PyExc} (h : exc.isException = false) :
    exc.endsDispatch = true := by
  cases exc <;> first | rfl | cases h

/-- The recorder of a caller, if there is one. -/
def CallerRecorder (recorder : Option Recorder) : Prop :=
  recorder = none ∨ recorder = some callerRecorder

theorem recorderStays_starts {recorder : Option Recorder} (hrec : CallerRecorder recorder)
    (I : StartLog → Prop) : RecorderStays (startsProtocol d plan) I recorder := by
  obtain rfl | rfl := hrec
  · exact recorderStays_none _ _
  · rintro _ ⟨⟩ attempt
    exact stays_unlogged rfl

theorem stays_record {recorder : Option Recorder} (hrec : CallerRecorder recorder)
    {attempt : ProviderEgressAttempt} (outcome : ProviderAttemptOutcome) (reason : Option String)
    (error : Option TupleError) :
    (liftM (recordProviderAttempt recorder attempt outcome reason error) : Code Unit).Stays
      (startsProtocol d plan) I :=
  stays_recordProviderAttempt fun _ => recorderStays_starts hrec _

/-- What the `try` block of an attempt leaves. -/
def syncBodyPost (d : Dispatcher) (index n : ℕ) (r : Except PyExc (Flow TupleResult)) (s : Locals)
    (g : StartLog) : Prop :=
  match r with
  | .ok (.ret _) => True
  | .ok .next => False
  | r => attemptPost d index n r s g

/-- The output is accepted: the steps that are left may only be cancelled. -/
theorem wp_accepted {recorder : Option Recorder} (hrec : CallerRecorder recorder)
    {attempt : ProviderEgressAttempt} {index n : ℕ} (result : TupleResult)
    (h : g.At d index (n + 1) s) :
    Local.wp (startsProtocol d plan)
      (do
        call (.recordObservation attempt.tuple true)
        call (.audit (.planCompleted plan.planId attempt.tuple attempt.attempt))
        recordProviderAttempt recorder attempt .success
        return Flow.ret result)
      (syncBodyPost d index n) s g := by
  have herror {exc : PyExc} {g : StartLog} (h : g.At d index (n + 1) s)
      (hexc : exc.isException = false) : syncBodyPost d index n (.error exc) s g :=
    ⟨h, fun _ => PyExc.endsDispatch_of_not_isException hexc⟩
  refine Local.wp_perform_bind.mpr ⟨trivial, fun r hr => ?_⟩
  cases r with
  | error exc => exact herror h hr.2
  | ok u =>
    refine Local.wp_perform_bind.mpr ⟨trivial, fun r hr => ?_⟩
    cases r with
    | error exc => exact herror h hr.2
    | ok u =>
      obtain rfl | rfl := hrec
      · refine Local.wp_bind.mpr (Local.wp_ofProg.mpr ?_)
        exact (Local.wp_pure (P := startsProtocol d plan)).mpr trivial
      · refine Local.wp_perform_bind.mpr ⟨trivial, fun r hr => ?_⟩
        cases r with
        | error exc => exact herror h (by simpa [BookkeepingFault] using hr.2)
        | ok u => exact Local.wp_pure.mpr trivial

theorem wp_syncBody {recorder : Option Recorder} (hrec : CallerRecorder recorder)
    {attempt : ProviderEgressAttempt} {index n : ℕ}
    (hfamily : attempt.providerFamily = d.familyFor attempt.tuple)
    (hchain : plan.tupleChain[index]? = some attempt.tuple)
    (hattempt : n < plan.outputValidationAttempts) (h : g.Ready d attempt.tuple index n s)
    (hstarted : 0 < d.maxFallbackAttempts → s.startedAttempts < d.maxFallbackAttempts)
    (hlimit : 0 < d.maxFamilyAttempts →
      s.familyAttempts (d.familyFor attempt.tuple) < d.maxFamilyAttempts) :
    (d.syncBody plan recorder attempt).wp (startsProtocol d plan) (syncBodyPost d index n) s g := by
  refine Local.wp_bind.mpr (Local.wp_mono (wp_startAttempt (fun _ _ _ => stays_record hrec _ _ _)
    hfamily hchain hattempt h hstarted hlimit) fun r s g hr => ?_)
  match r, hr with
  | .error exc, hr => exact hr
  | .ok none, hr => exact Local.wp_pure.mpr hr
  | .ok (some handle), ⟨hat, hrunning⟩ =>
    have herror {r : Except PyExc TupleResult} {exc : PyExc} {g' : StartLog} (hr : r = .error exc)
        (hg : g'.At d index (n + 1) s)
        (hended : g'.ended = (g.ended || errorEnds r)) :
        syncBodyPost d index n (.error exc) s g' := by
      refine ⟨hg, fun h => endsDispatch_of_errorEnds hr ?_⟩
      rw [hended, hrunning] at h
      exact h
    refine Local.wp_perform_bind.mpr ⟨trivial, fun r _ => ?_⟩
    cases r with
    | error exc => exact herror rfl (hat.congr rfl rfl rfl rfl) rfl
    | ok result =>
      refine Local.wp_perform_bind.mpr ⟨trivial, fun r _ => ?_⟩
      cases r with
      | error exc =>
        refine herror rfl (hat.congr rfl rfl rfl rfl) ?_
        show (g.ended || false || false || errorEnds (.error exc : Except PyExc TupleResult)) = _
        rw [Bool.or_false, Bool.or_false]
      | ok result => exact wp_accepted hrec result (hat.congr rfl rfl rfl rfl)

/-- What the clauses of an attempt leave: the tuple is tried again after its output was rejected, or
given up, or the call ends. -/
def exceptPost (d : Dispatcher) (plan : CompiledPlan) (tuple : String) (index n : ℕ)
    (r : Except PyExc (Flow TupleResult)) (s : Locals) (g : StartLog) : Prop :=
  match r with
  | .ok .next => g.At d index (n + 1) s ∧ g.ended = false ∧ g.rejected = some tuple ∧
      n + 1 < plan.outputValidationAttempts
  | .ok .stop => g.At d index (n + 1) s ∧ g.ended = false
  | .ok (.ret _) | .error _ => True

/-- An attempt has failed; if `fallback` holds, the call goes on. -/
def Failed (d : Dispatcher) (index n : ℕ) (fallback : Prop) (s : Locals) (g : StartLog) : Prop :=
  g.At d index (n + 1) s ∧ (fallback → g.ended = false)

theorem failed_quiet (index n : ℕ) (fallback : Prop) :
    Quiet (startsProtocol d plan) (Failed d index n fallback) fun _ => Failed d index n fallback :=
  starts_quiet fun _ h => ⟨h.1.congr rfl rfl rfl rfl, h.2⟩

theorem wp_outputRejected {recorder : Option Recorder} (hrec : CallerRecorder recorder)
    {attempt : ProviderEgressAttempt} {index n : ℕ} (hattempt : attempt.attempt = n + 1)
    {exc : TupleError} {code : String} (hcode : exc.code = some code)
    (h : Failed d index n (code ≠ "OUTPUT_TRUNCATED") s g) :
    (d.outputRejected plan recorder attempt plan.outputValidationAttempts exc code).wp
      (startsProtocol d plan) (exceptPost d plan attempt.tuple index n) s g := by
  have hquiet : Quiet (startsProtocol d plan) (Failed d index n (code ≠ "OUTPUT_TRUNCATED"))
      fun _ => Failed d index n (code ≠ "OUTPUT_TRUNCATED") := failed_quiet ..
  have herror (e : PyExc) (s : Locals) (g : StartLog)
      (_ : Failed d index n (code ≠ "OUTPUT_TRUNCATED") s g) :
      exceptPost d plan attempt.tuple index n (.error e) s g := trivial
  unfold Dispatcher.outputRejected
  refine Local.wp_perform_bind.mpr ⟨trivial, fun r _ => ?_⟩
  generalize hfinal : (decide (code = "OUTPUT_TRUNCATED") ||
    decide ((plan.outputValidationAttempts : ℕ) ≤ attempt.attempt)) = finalAttempt
  have haudited : Failed d index n (code ≠ "OUTPUT_TRUNCATED") s ((startsProtocol d plan).after g ⟨.audit (.outputRejected attempt code
      (d.outputRejectionReason exc) !finalAttempt), r⟩) := by
    cases finalAttempt with
    | true => exact h
    | false => exact ⟨h.1.congr rfl rfl rfl rfl, h.2⟩
  cases r with
  | error e => trivial
  | ok u =>
    dsimp only
    split
    · rename_i hswitch
      have hmalformed : code ≠ "OUTPUT_TRUNCATED" := by
        rintro rfl
        simp [structuredFailureShouldSwitchTuple, hcode] at hswitch
      refine (hquiet.call rfl).wp_bind haudited herror fun _ s g h => ?_
      refine (Dispatcher.keeps_setLastError hquiet _).wp_bind h herror fun _ s g h => ?_
      refine (stays_record hrec _ _ _).keeps.wp_bind h herror fun _ s g h => ?_
      exact Local.wp_pure.mpr ⟨h.1, h.2 hmalformed⟩
    cases finalAttempt with
    | false =>
      simp only [Bool.or_eq_false_iff, decide_eq_false_iff_not, hattempt] at hfinal
      refine Local.wp_pure.mpr ⟨haudited.1, haudited.2 hfinal.1, rfl, Nat.lt_of_not_le hfinal.2⟩
    | true =>
      refine (Dispatcher.keeps_setLastError hquiet _).wp_bind haudited herror fun _ s g h => ?_
      refine (stays_record hrec _ _ _).keeps.wp_bind h herror fun _ s g h => ?_
      split
      · exact Local.wp_throw.mpr trivial
      · exact Local.wp_pure.mpr ⟨h.1, h.2 ‹_›⟩

theorem wp_syncExcept {recorder : Option Recorder} (hrec : CallerRecorder recorder)
    {attempt : ProviderEgressAttempt} {index n : ℕ} (hattempt : attempt.attempt = n + 1)
    {exc : PyExc} (h : g.At d index (n + 1) s) (hended : g.ended = true → exc.endsDispatch = true) :
    (d.syncExcept plan recorder attempt plan.outputValidationAttempts exc).wp
      (startsProtocol d plan) (exceptPost d plan attempt.tuple index n) s g := by
  have hfailed {fallback : Prop} (hfallback : exc.endsDispatch = true → ¬fallback) :
      Failed d index n fallback s g := by
    refine ⟨h, fun hf => ?_⟩
    by_contra hg
    exact hfallback (hended (by simpa using hg)) hf
  have herror (fallback : Prop) (e : PyExc) (s : Locals) (g : StartLog)
      (_ : Failed d index n fallback s g) :
      exceptPost d plan attempt.tuple index n (.error e) s g := trivial
  cases exc with
  | tupleError exc =>
    refine Local.wp_write_bind.mpr ?_
    split
    · rename_i code hcode
      obtain ⟨hcode, houtput⟩ := Option.filter_eq_some_iff.mp hcode
      refine wp_outputRejected hrec hattempt hcode ⟨h.congr rfl rfl rfl rfl, (hfailed ?_).2⟩
      intro hends hne
      have hrejection : exc.isOutputRejection = true := by
        simpa [TupleError.isOutputRejection, hcode] using houtput
      simp [PyExc.endsDispatch, TupleError.endsDispatch, hrejection, hcode, hne] at hends
    · rename_i hcode
      have hnone := Option.filter_eq_none_iff.mp (Option.eq_none_iff_forall_ne_some.mpr hcode)
      refine (Dispatcher.keeps_providerFailure (failed_quiet index n
        (providerErrorFallbackEligible exc = true)) _ _).wp_bind
        ⟨h.congr rfl rfl rfl rfl, (hfailed ?_).2⟩ (herror _) fun _ s g h => ?_
      · intro hends heligible
        have htruncated : exc.code = some "OUTPUT_TRUNCATED" := by
          simpa [PyExc.endsDispatch, TupleError.endsDispatch, heligible] using hends
        exact hnone _ htruncated (by simp)
      refine (stays_record hrec _ _ _).keeps.wp_bind h (herror _) fun _ s g h => ?_
      split
      · exact Local.wp_throw.mpr trivial
      · rename_i heligible
        exact Local.wp_pure.mpr ⟨h.1, h.2 (by simpa using heligible)⟩
  | timeoutError =>
    refine (Dispatcher.keeps_timeoutFailure (failed_quiet index n True) _ _).wp_bind
      (hfailed (by simp [PyExc.endsDispatch])) (herror _) fun _ s g h => ?_
    refine (stays_record hrec _ _ _).keeps.wp_bind h (herror _) fun _ s g h => ?_
    exact Local.wp_pure.mpr ⟨h.1, h.2 trivial⟩
  | cancelledError | generatorExit => exact Local.wp_throw.mpr trivial
  | governanceError | valueError | httpException | tenantBudgetError | exception =>
    refine (Dispatcher.keeps_unexpectedFailure (failed_quiet index n True) _ _).wp_bind
      (hfailed (by simp [PyExc.endsDispatch])) (herror _) fun _ s g h => ?_
    refine (stays_record hrec _ _ _).keeps.wp_bind h (herror _) fun _ s g h => ?_
    exact Local.wp_pure.mpr ⟨h.1, h.2 trivial⟩

/-- One round of the loop over the attempts of a tuple. -/
theorem wp_syncAttempt {recorder : Option Recorder} (hrec : CallerRecorder recorder)
    {tuple : String} {index n : ℕ} (hchain : plan.tupleChain[index]? = some tuple)
    (hattempt : n < plan.outputValidationAttempts) (h : g.Ready d tuple index n s) :
    (d.syncAttempt plan recorder tuple plan.outputValidationAttempts (n + 1)).wp
      (startsProtocol d plan)
      (Local.flowPost (fun s g => g.Ready d tuple index (n + 1) s ∧
          n + 1 < plan.outputValidationAttempts)
        fun r s g => r = .ok none → g.At d index (n + 1) s ∧ g.ended = false) s g := by
  have hquiet : Quiet (startsProtocol d plan) (Failed d index n True) fun _ => Failed d index n True :=
    failed_quiet ..
  have hready : Failed d index n True s g := ⟨h.toAt.mono (Nat.le_succ _), fun _ => h.running⟩
  have hstays {op : Call} (hop : op.unlogged = true) :
      (liftM (call op) : Code op.Res).Stays (startsProtocol d plan) (Failed d index n True) :=
    Local.stays_ofProg fun _ => stays_unlogged hop
  refine Local.wp_read_bind.mpr ?_
  split
  · refine (hstays rfl).keeps.wp_bind hready (fun _ _ _ _ => ?_) fun _ s g h => ?_
    · simp [Local.flowPost]
    · exact Local.wp_pure.mpr fun _ => ⟨h.1, h.2 trivial⟩
  dsimp only
  split
  · refine (hstays rfl).keeps.wp_bind hready (fun _ _ _ _ => ?_) fun _ s g h => ?_
    · simp [Local.flowPost]
    refine (Dispatcher.keeps_setLastError hquiet _).wp_bind h (fun _ _ _ _ => ?_) fun _ s g h => ?_
    · simp [Local.flowPost]
    refine (stays_record hrec _ _ _).keeps.wp_bind h (fun _ _ _ _ => ?_) fun _ s g h => ?_
    · simp [Local.flowPost]
    · exact Local.wp_pure.mpr fun _ => ⟨h.1, h.2 trivial⟩
  rename_i hstarted hlimit
  replace hlimit : 0 < d.maxFamilyAttempts →
      s.familyAttempts (d.egressAttempt plan tuple (n + 1)).providerFamily < d.maxFamilyAttempts := by
    simpa using hlimit
  refine Local.wp_write_bind.mpr (Local.wp_tryFinally.mpr (Local.wp_mono
    (Q := exceptPost d plan tuple index n) ?_ fun r s g hr => ?_))
  · refine Local.wp_tryCatch.mpr (Local.wp_mono (wp_syncBody hrec rfl hchain hattempt
      ⟨h.toAt.congr rfl rfl rfl rfl, h.running, h.restart⟩ (by simpa using hstarted) hlimit)
      fun r s g hr => ?_)
    match r, hr with
    | .ok .stop, hr => exact hr
    | .ok (.ret _), _ => trivial
    | .error exc, hr => exact wp_syncExcept hrec rfl hr.1 hr.2
  · have hquiet : Quiet (startsProtocol d plan) (exceptPost d plan tuple index n r)
        fun _ => exceptPost d plan tuple index n r := by
      refine starts_quiet fun _ h => ?_
      match r, h with
      | .ok .next, h => exact ⟨h.1.congr rfl rfl rfl rfl, h.2⟩
      | .ok .stop, h => exact ⟨h.1.congr rfl rfl rfl rfl, h.2⟩
      | .ok (.ret _), h => trivial
      | .error _, h => trivial
    refine Local.wp_mono (Dispatcher.keeps_finishAttempt hquiet
      (fun _ => (Local.stays_ofProg fun _ => stays_unlogged rfl).keeps)
      (fun _ _ _ => stays_unlogged rfl) (fun _ _ _ _ h => h) _ s g hr) fun r' s g hr => ?_
    cases r' with
    | error e => simp [Local.flowPost]
    | ok u =>
      match r, hr with
      | .ok .next, hr => exact ⟨⟨hr.1, hr.2.1, fun _ => hr.2.2.1⟩, hr.2.2.2⟩
      | .ok .stop, hr => exact fun _ => hr
      | .ok (.ret _), _ => simp [Local.flowPost]
      | .error _, _ => simp [Local.flowPost]

/-! ## The call -/

/-- Before the round for a position of the chain. -/
structure StartLog.Between (d : Dispatcher) (index : ℕ) (s : Locals) (g : StartLog) : Prop where
  position : g.position = index
  before : ∀ x ∈ g.starts, x.1 < g.position
  counted : Counted d s (g.families d)
  running : g.ended = false

theorem StartLog.At.between {index attempt : ℕ} (h : g.At d index attempt s)
    (hrunning : g.ended = false) : g.Between d (index + 1) s :=
  ⟨h.position, h.before, h.counted, hrunning⟩

/-- The round begins: the tuple was not started at this position. -/
theorem StartLog.Between.ready {index : ℕ} (h : g.Between d index s) (tuple : String) :
    StartLog.Ready d tuple index 0 s { g with position := g.position + 1 } where
  position := congrArg (· + 1) h.position
  before x hx := Nat.lt_succ_of_lt (h.before x hx)
  attempts := by
    refine Nat.le_of_eq (List.countP_eq_zero.mpr fun x hx => ?_)
    have hlt := h.before x hx
    rw [h.position] at hlt
    simpa using Nat.ne_of_lt hlt
  counted := h.counted
  running := h.running
  restart hlast := by
    obtain ⟨x, hx, hindex⟩ := Option.map_eq_some_iff.mp hlast
    have hlt := h.before x (List.mem_of_getLast? hx)
    rw [h.position, hindex] at hlt
    exact absurd hlt (Nat.lt_irrefl _)

/-- The attempts that are left: the next one is `n + 1`. -/
theorem wp_attempts {recorder : Option Recorder} (hrec : CallerRecorder recorder) {tuple : String}
    {index n k : ℕ} (hchain : plan.tupleChain[index]? = some tuple)
    (hn : n + k = plan.outputValidationAttempts) (h : g.Ready d tuple index n s) :
    (forEach (d.syncAttempt plan recorder tuple plan.outputValidationAttempts)
      (List.range' (n + 1) k)).wp (startsProtocol d plan)
      (fun r s g => r = .ok none → g.Between d (index + 1) s) s g := by
  induction k generalizing n s g with
  | zero => exact Local.wp_pure.mpr fun _ => h.toAt.between h.running
  | succ k ih =>
    refine Local.wp_bind.mpr (Local.wp_mono (wp_syncAttempt hrec hchain (by omega) h)
      fun r s g hr => ?_)
    match r, hr with
    | .ok .next, hr => exact ih (by omega) hr.1
    | .ok .stop, hr => exact Local.wp_pure.mpr fun _ => (hr rfl).1.between (hr rfl).2
    | .ok (.ret value), _ => exact Local.wp_pure.mpr (by simp)
    | .error e, _ => simp

theorem wp_syncTuple {recorder : Option Recorder} (hrec : CallerRecorder recorder) {tuple : String}
    {index : ℕ} (hchain : plan.tupleChain[index]? = some tuple) (h : g.Between d index s) :
    (d.syncTuple plan recorder tuple).wp (startsProtocol d plan)
      (Local.flowPost (StartLog.Between d (index + 1)) fun _ _ _ => True) s g := by
  have hready := h.ready tuple
  refine Local.wp_perform_bind.mpr ⟨trivial, fun r _ => ?_⟩
  cases r with
  | error e => trivial
  | ok available =>
    dsimp only
    split
    · exact Local.wp_pure.mpr (hready.toAt.between hready.running)
    split
    · exact Local.wp_pure.mpr (hready.toAt.between hready.running)
    refine Local.wp_bind.mpr (Local.wp_mono (wp_attempts hrec hchain (Nat.zero_add _) hready)
      fun r s g hr => ?_)
    match r, hr with
    | .ok none, hr => exact Local.wp_pure.mpr (hr rfl)
    | .ok (some result), _ => exact Local.wp_pure.mpr trivial
    | .error e, _ => trivial

theorem wp_executeSync_starts {recorder : Option Recorder} (hrec : CallerRecorder recorder) :
    (d.executeSync plan recorder).wp (startsProtocol d plan) (fun _ _ => True) {} := by
  have hstart : StartLog.Between d 0 {} {} :=
    ⟨rfl, by simp, ⟨Nat.le_refl _, fun _ => Nat.le_refl _, fun _ => Nat.zero_le _,
      fun _ _ => Nat.zero_le _⟩, rfl⟩
  refine Local.wp_run (Local.wp_perform_bind.mpr ⟨trivial, fun r _ => ?_⟩)
  cases r with
  | error e => trivial
  | ok u =>
    refine Local.wp_bind.mpr (Local.wp_mono (Local.wp_forEach
      (I := fun rest s g => rest = plan.tupleChain.drop g.position ∧ g.Between d g.position s)
      (Q := fun _ _ _ => True) (fun _ _ _ => trivial) (fun tuple rest s g h => ?_)
      ⟨rfl, hstart⟩) fun r s g _ => ?_)
    · have hchain : plan.tupleChain[g.position]? = some tuple := by
        rw [← List.head?_drop, ← h.1]
        rfl
      refine Local.wp_mono (wp_syncTuple hrec hchain h.2) fun r s' g' hr => ?_
      match r, hr with
      | .ok .next, hr =>
        refine ⟨?_, hr.position.symm ▸ hr⟩
        rw [hr.position, ← List.tail_drop, ← h.1]
        rfl
      | .ok .stop, _ => trivial
      | .ok (.ret _), _ => trivial
      | .error _, _ => trivial
    · match r with
      | .error e => trivial
      | .ok none => exact Local.wp_read_bind.mpr (Local.wp_throw.mpr trivial)
      | .ok (some result) => exact Local.wp_pure.mpr trivial

end

/-- **Dispatch is bounded and gated.** In every run of `execute_sync` in which no step fails after an
accepted output, every start is allowed by the steps before it, and the starts are in the order of the
chain and within the limits. -/
theorem dispatch_bounded (d : Dispatcher) (plan : CompiledPlan) (recorder : Option Recorder)
    (hrec : CallerRecorder recorder) (steps : List CallEvent) (q : Program TupleResult)
    (hsteps : (d.executeSync plan recorder).Steps steps q) (hpossible : ∀ e ∈ steps, Possible e)
    (hfault : ∀ e ∈ steps, BookkeepingFault e = false) :
    (StartLog.ofSteps plan steps).Bounded d plan ∧
      ∀ before tuple plan' r rest, steps = before ++ ⟨.start tuple plan', r⟩ :: rest →
        plan' = plan ∧ StartAllowed d plan (StartLog.ofSteps plan before) tuple := by
  have hallowed : ∀ e ∈ steps, ∀ g, (startsProtocol d plan).allowed g e :=
    fun e he _ => ⟨hpossible e he, hfault e he⟩
  refine ⟨(hsteps.invariant (wp_executeSync_starts hrec) hallowed (fun hpre _ hg => hg.step hpre) ?_).2,
    fun before tuple plan' r rest hsplit => ?_⟩
  · exact ⟨by simp, by simp, by simp, by simp [StartLog.startsAt], by simp, by simp [StartLog.families]⟩
  · exact (hsteps.wp (wp_executeSync_starts hrec) hallowed).2 before _ rest hsplit

/-- A plan and a dispatcher with two tuples. -/
def twoTuplePlan : CompiledPlan :=
  { echoPlan with tupleChain := ["echo", "spare"], outputValidationAttempts := 2 }

def twoTupleDispatcher : Dispatcher := { echoDispatcher with adapters := ["echo", "spare"] }

/-- The first output is rejected, and the second one of the same tuple is accepted. -/
theorem dispatch_bounded_retry :
    ∃ steps q, (twoTupleDispatcher.executeSync twoTuplePlan (some callerRecorder)).Steps steps q ∧
      (StartLog.ofSteps twoTuplePlan steps).starts = [(0, "echo"), (0, "echo")] ∧
      (StartLog.ofSteps twoTuplePlan steps).Bounded twoTupleDispatcher twoTuplePlan := by
  have hrun : (twoTupleDispatcher.executeSync twoTuplePlan (some callerRecorder)).Exec
      (Script.step fun _ => none) { outputs := [.error (.tupleError
        { message := "empty tuple output", retryable := true, code := some "EMPTY_OUTPUT" })] } _ _ _ :=
    Prog.Exec.of_answer (fun h => h) rfl
  have hbounded := dispatch_bounded twoTupleDispatcher twoTuplePlan (some callerRecorder) (.inr rfl) _
    _ hrun.steps (hrun.forall Script.possible_of_step) (by decide +kernel)
  exact ⟨_, _, hrun.steps, rfl, hbounded.1⟩

/-- The registry fails to record the success of the first tuple. -/
def successUnrecorded : Call → Option PyExc
  | .recordObservation "echo" true => some (.exception "OperationalError")
  | _ => none

/-- When the registry fails to record a success, the next tuple is started after an accepted output. -/
theorem not_dispatchAlwaysBounded :
    ¬ ∀ (d : Dispatcher) (plan : CompiledPlan) (recorder : Option Recorder),
      CallerRecorder recorder → ∀ (steps : List CallEvent) (q : Program TupleResult),
      (d.executeSync plan recorder).Steps steps q → (∀ e ∈ steps, Possible e) →
      (StartLog.ofSteps plan steps).Bounded d plan ∧
        ∀ before tuple plan' r rest, steps = before ++ ⟨.start tuple plan', r⟩ :: rest →
          plan' = plan ∧ StartAllowed d plan (StartLog.ofSteps plan before) tuple := by
  intro h
  -- the start of the second tuple is the call at index 21
  obtain ⟨steps, r, script, hrun, hstart, hended⟩ : ∃ steps r script,
      (twoTupleDispatcher.executeSync twoTuplePlan none).Exec (Script.step successUnrecorded) {} steps r script ∧
      steps[21]? = some ⟨.start "spare" twoTuplePlan, .ok { tuple := "spare", remoteId := "remote-1" }⟩ ∧
      (StartLog.ofSteps twoTuplePlan (steps.take 21)).ended = true :=
    ⟨_, _, _, Prog.Exec.of_answer (fun h => h) rfl, rfl, rfl⟩
  have hsplit {e : CallEvent} (he : steps[21]? = some e) :
      steps = steps.take 21 ++ e :: steps.drop 22 := by
    conv_lhs => rw [← List.take_append_drop 21 steps, List.drop_eq_getElem?_toList_append, he]
    rfl
  have hrunning := ((h twoTupleDispatcher twoTuplePlan none (.inl rfl) steps _ hrun.steps
    (hrun.forall Script.possible_of_step)).2 _ _ _ _ _ (hsplit hstart)).2.running
  rw [hended] at hrunning
  cases hrunning

end Gpucall
