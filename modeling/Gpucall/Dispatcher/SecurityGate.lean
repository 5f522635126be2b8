import Gpucall.Dispatcher.Rules
import Gpucall.Execution.Payloads
import Gpucall.Routing.Reservation

/-! The security gate and the tuples that a plan is started on. The gate, the trust policy and the
key-release requirement of a plan are those of the head of its chain; the fallback loop may start
every tuple of the chain. -/

namespace Gpucall

open Effects

/-! ## Where a call starts a tuple -/

/-- A tuple is started only on the plan of the call, when it is in the chain and the gate has let
the plan pass. -/
def startProtocol (plan : CompiledPlan) : Protocol Call Call.Res PyExc Unit where
  pre _ op :=
    match op with
    | .start tuple plan' => plan' = plan ∧ tuple ∈ plan.tupleChain ∧
        ∃ now, securityGateError plan.attestations now = none
    | _ => True
  allowed _ e := Possible e
  after _ _ := ()

theorem startProtocol_stays {plan : CompiledPlan} {op : Call}
    (h : ∀ tuple plan', op ≠ .start tuple plan') :
    (call op).Stays (startProtocol plan) fun _ => True := by
  refine fun _ _ => Prog.wp_perform.mpr ⟨?_, fun _ _ => trivial⟩
  cases op with
  | start => exact absurd rfl (h _ _)
  | _ => trivial

theorem startProtocol_dispatches (plan : CompiledPlan) :
    Dispatches (startProtocol plan) (fun _ => True) plan where
  routine :=
    { stays := fun {op} h _ => startProtocol_stays (by rintro _ _ rfl; cases h)
      running := fun _ => ⟨trivial, fun _ h => h⟩
      lastError := fun _ h => h
      streamYielded := fun _ h => h }
  acquire _ _ := startProtocol_stays (by simp)
  release _ := startProtocol_stays (by simp)
  cancelRemote _ _ := startProtocol_stays (by simp)
  start _ htuple hgate _ _ := ⟨⟨rfl, htuple, hgate⟩, fun _ _ => trivial⟩

/-- Every call starts tuples only where `startProtocol` allows it. -/
theorem DispatchCall.guarded (d : Dispatcher) (c : DispatchCall) :
    (c.program d).Stays (startProtocol c.plan) fun _ => True := by
  have hP := startProtocol_dispatches c.plan
  cases c with
  | sync plan =>
    exact (d.stays_executeSync hP (recorderStays_none _ _)).bind fun _ => Prog.stays_done _
  | job jobId plan =>
    refine (d.stays_executeSync hP (recorderStays_asyncAttemptRecorder ?_ fun _ => ?_)).bind
      fun _ => Prog.stays_done _
    · exact startProtocol_stays (by simp)
    · exact (startProtocol_stays (by simp)).bind fun _ => startProtocol_stays (by simp)
  | stream plan => exact (d.stays_executeStream hP).bind fun _ => Prog.stays_done _

/-! ## Every tuple of a chain can be started -/

theorem enforcePreExecutionSecurityGate_eq {plan : CompiledPlan}
    (h : ∀ now, securityGateError plan.attestations now = none) :
    enforcePreExecutionSecurityGate plan = call .utcNow >>= fun _ => pure () := by
  unfold enforcePreExecutionSecurityGate
  simp only [h]

/-- The tuple is available and its adapter is there, and the first attempt is admitted. -/
theorem reaches_start_syncTuple {plan : CompiledPlan}
    (hgate : ∀ now, securityGateError plan.attestations now = none) {tuple : String}
    (htuple : tuple ∈ plan.tupleChain) :
    (({ echoDispatcher with adapters := plan.tupleChain } : Dispatcher).syncTuple plan none tuple
      {}).Reaches Possible (.start tuple plan) := by
  obtain ⟨n, hn⟩ : ∃ n, (plan.outputValidationAttempts : ℕ) = n + 1 :=
    ⟨_, (Nat.succ_pred_eq_of_pos plan.outputValidationAttempts.pos).symm⟩
  unfold Dispatcher.syncTuple Dispatcher.syncAttempt Dispatcher.syncBody Dispatcher.startAttempt
  simp only [hn, htuple, not_true, if_false, enforcePreExecutionSecurityGate_eq hgate]
  refine .step (r := .ok true) trivial ?_
  refine .step (o := Call.monotonic) (r := .ok 0) trivial ?_
  refine .step (o := Call.acquire tuple (some (admissionWorkloadScope plan)))
    (r := .ok (.allowed ⟨tuple, tuple, none⟩)) trivial ?_
  refine .step (r := .ok ()) trivial ?_
  refine .step (o := Call.utcNow) (r := .ok { year := 2024, month := 1, day := 1 }) trivial ?_
  exact .here

/-- When the gate lets a plan pass, some run starts any given tuple of its chain: the one in which
only that tuple is available. -/
theorem reaches_start {plan : CompiledPlan}
    (hgate : ∀ now, securityGateError plan.attestations now = none) {tuple : String}
    (htuple : tuple ∈ plan.tupleChain) :
    ∃ d, ((DispatchCall.sync plan).program d).Reaches Possible (.start tuple plan) := by
  refine ⟨{ echoDispatcher with adapters := plan.tupleChain }, ?_⟩
  have hchain : ∀ chain : List String, tuple ∈ chain →
      (forEach (({ echoDispatcher with adapters := plan.tupleChain } : Dispatcher).syncTuple plan
        none) chain ({} : Locals)).Reaches Possible (.start tuple plan) := by
    intro chain
    induction chain with
    | nil => simp
    | cons name chain ih =>
      intro hmem
      by_cases hname : name = tuple
      · subst hname
        exact (reaches_start_syncTuple hgate htuple).andThen
      · have hrest : tuple ∈ chain := (List.mem_cons.mp hmem).resolve_left (Ne.symm hname)
        exact .step (o := Call.isAvailable name) (r := .ok false) trivial (ih hrest)
  refine Prog.Reaches.andThen (Prog.Reaches.andThen ?_)
  refine .step (o := Call.audit (.planAccepted plan)) (r := .ok ()) trivial ?_
  exact (hchain plan.tupleChain htuple).andThen

/-! ## The gate of a compiled plan -/

/-- `profile.requires_attestation or profile.security_tier is CONFIDENTIAL_TEE` -/
def ExecutionTupleSpec.needsAttestation (tuple : ExecutionTupleSpec) : Bool :=
  tuple.trustProfile.requiresAttestation || tuple.trustProfile.securityTier = .confidentialTee

namespace GovernanceCompiler

variable {env : Environment} {c : GovernanceCompiler} {instant : Instant} {planId : String}
  {request : TaskRequest} {plan : CompiledPlan}

/-- The catalog model of a tuple has `trust_remote_code` set. -/
def trustsRemoteCode (c : GovernanceCompiler) (tuple : ExecutionTupleSpec) : Bool :=
  (c.models.getRef? tuple.modelRef).any (·.trustRemoteCode)

/-- What a start of the tuple `name` on a plan owes to the tuple's own profile and model. -/
def GateFollows (c : GovernanceCompiler) (plan : CompiledPlan) (name : String) : Prop :=
  ∀ tuple, c.tuples.get? name = some tuple →
    (tuple.needsAttestation → plan.attestations.attestationEvidence.any (·.verified)) ∧
    ((planPayload plan).trustRemoteCode → c.trustsRemoteCode tuple)

/-- In every run of `execute_sync` or `execute_stream` on the plan, every start owes what it has. -/
def GatesFollow (c : GovernanceCompiler) (plan : CompiledPlan) : Prop :=
  ∀ (d : Dispatcher) (run : DispatchCall) events q, run.plan = plan →
    (run.program d).Steps events q → (∀ e ∈ events, Possible e) →
      ∀ name plan' r, (⟨.start name plan', r⟩ : CallEvent) ∈ events → c.GateFollows plan' name

/-- The gate refuses the plan, or no tuple of the chain needs more than its head. -/
def GateCovers (c : GovernanceCompiler) (plan : CompiledPlan) : Prop :=
  ∃ head, plan.tupleChain.head?.bind c.tuples.get? = some head ∧
    (head.needsAttestation ∨ plan.attestations.keyReleaseRequirement.isSome ∨
      ∀ name ∈ plan.tupleChain, ∀ tuple, c.tuples.get? name = some tuple →
        tuple.needsAttestation = false ∧ (c.trustsRemoteCode head → c.trustsRemoteCode tuple))

theorem keyReleaseRequirement_required {recipe : Recipe} {tuple : ExecutionTupleSpec}
    {requirement : Option KeyReleaseRequirement}
    (h : c.keyReleaseRequirement request recipe tuple = .ok requirement) :
    ∀ r ∈ requirement, r.required = true := by
  unfold keyReleaseRequirement raiseGovernance at h
  split at h
  · cases h
    rintro _ ⟨⟩
  split at h
  · contradiction
  split at h
  · contradiction
  · cases h
    rintro _ ⟨⟩
    rfl

/-- What `compile` attests of a plan, all of it about the head of the chain. -/
theorem compile_attestations (h : c.compile env instant planId request = .ok plan) :
    ∃ head, plan.tupleChain.head?.bind c.tuples.get? = some head ∧
      (plan.attestations.securityGate.any (·.attestationRequired)) = head.needsAttestation ∧
      plan.attestations.attestationEvidence = none ∧ plan.attestations.keyReleaseGrant = none ∧
      (∀ requirement ∈ plan.attestations.keyReleaseRequirement, requirement.required = true) ∧
      (planPayload plan).trustRemoteCode = c.trustsRemoteCode head := by
  obtain ⟨recipe, -, h⟩ := compile_cases h
  obtain ⟨chain, head, requirement, budget, hstages⟩ := compileWith_stages h
  obtain rfl := hstages.plan_eq
  refine ⟨head, hstages.head, rfl, rfl, rfl, ?_, ?_⟩
  · exact keyReleaseRequirement_required hstages.keyRelease
  · change (c.modelTrustPolicy head).trustRemoteCode = _
    unfold modelTrustPolicy trustsRemoteCode
    cases c.models.getRef? head.modelRef with
    | none => rfl
    | some model => rfl

/-- The gate lets a compiled plan pass exactly when neither attestation nor a key release is asked
for: `compile` writes no evidence and no grant. -/
theorem securityGateError_eq_none_iff {attestations : Attestations} (now : DateTime)
    (hevidence : attestations.attestationEvidence = none)
    (hgrant : attestations.keyReleaseGrant = none)
    (hrequired : ∀ r ∈ attestations.keyReleaseRequirement, r.required = true) :
    securityGateError attestations now = none ↔
      attestations.securityGate.any (·.attestationRequired) = false ∧
        attestations.keyReleaseRequirement = none := by
  unfold securityGateError
  rw [hevidence, hgrant]
  cases attestations.securityGate.any (·.attestationRequired) with
  | true => simp
  | false =>
    cases hkey : attestations.keyReleaseRequirement with
    | none => simp
    | some requirement => simp [hrequired requirement hkey]

/-- Where a tuple is started, in any run of any call. -/
theorem start_mem_chain {d : Dispatcher} {run : DispatchCall} {events : List CallEvent}
    {q : Program (Option TupleResult)} (hsteps : (run.program d).Steps events q)
    (hpossible : ∀ e ∈ events, Possible e) {name : String} {plan' : CompiledPlan}
    {r : Except PyExc RemoteHandle} (hstart : (⟨.start name plan', r⟩ : CallEvent) ∈ events) :
    plan' = run.plan ∧ name ∈ run.plan.tupleChain ∧
      ∃ now, securityGateError run.plan.attestations now = none := by
  obtain ⟨es₁, es₂, hsplit⟩ := List.append_of_mem hstart
  exact (hsteps.wp (run.guarded d () trivial) fun e he _ => hpossible e he).2 es₁ _ es₂ hsplit

/-- When nothing is asked for, every tuple of the chain is started in some run. -/
theorem GatesFollow.covers (h : c.compile env instant planId request = .ok plan)
    (hfollow : c.GatesFollow plan) : c.GateCovers plan := by
  obtain ⟨head, hhead, hgate, hevidence, hgrant, hrequired, htrust⟩ := compile_attestations h
  refine ⟨head, hhead, ?_⟩
  by_cases hattest : head.needsAttestation
  · exact .inl hattest
  by_cases hkey : plan.attestations.keyReleaseRequirement.isSome
  · exact .inr (.inl hkey)
  refine .inr (.inr fun name hname tuple htuple => ?_)
  have hopen (now : DateTime) : securityGateError plan.attestations now = none :=
    (securityGateError_eq_none_iff now hevidence hgrant hrequired).mpr
      ⟨hgate.trans (by simpa using hattest), by simpa using hkey⟩
  obtain ⟨d, hreach⟩ := reaches_start hopen hname
  obtain ⟨es, q, hsteps, hes⟩ := hreach.steps (.error .timeoutError)
  have hpossible : ∀ e ∈ es ++ [(⟨.start name plan, .error .timeoutError⟩ : CallEvent)],
      Possible e := by
    intro e he
    rcases List.mem_append.mp he with he | he
    · exact hes e he
    · obtain rfl := List.mem_singleton.mp he
      trivial
  obtain ⟨hattested, htrusted⟩ := hfollow d (.sync plan) _ q rfl hsteps hpossible name plan _
    (List.mem_append_right es (List.mem_singleton.mpr rfl)) tuple htuple
  rw [hevidence] at hattested
  rw [htrust] at htrusted
  exact ⟨by simpa using hattested, htrusted⟩

theorem GateCovers.follow (h : c.compile env instant planId request = .ok plan)
    (hcovers : c.GateCovers plan) : c.GatesFollow plan := by
  obtain ⟨head, hhead, hgate, hevidence, hgrant, hrequired, htrust⟩ := compile_attestations h
  obtain ⟨head', hhead', hcovers⟩ := hcovers
  obtain rfl : head' = head := Option.some.inj (hhead'.symm.trans hhead)
  rintro d run events q rfl hsteps hpossible name plan' r hstart
  obtain ⟨rfl, hname, now, hnow⟩ := start_mem_chain hsteps hpossible hstart
  obtain ⟨hattest, hkey⟩ :=
    (securityGateError_eq_none_iff now hevidence hgrant hrequired).mp hnow
  rcases hcovers with hblocked | hblocked | hcovers
  · exact absurd (hgate.symm.trans hattest) (by simp [hblocked])
  · exact absurd hblocked (by simp [hkey])
  · intro tuple htuple
    obtain ⟨hneeds, htrusts⟩ := hcovers name hname tuple htuple
    refine ⟨fun h => absurd (hneeds.symm.trans h) (by simp), ?_⟩
    rw [htrust]
    exact htrusts

/-- **The gate follows the tuple that runs** exactly when it covers the chain. -/
theorem gatesFollow_iff (env : Environment) (c : GovernanceCompiler) (instant : Instant)
    (planId : String) (request : TaskRequest) (plan : CompiledPlan)
    (h : c.compile env instant planId request = .ok plan) :
    c.GatesFollow plan ↔ c.GateCovers plan :=
  ⟨GatesFollow.covers h, GateCovers.follow h⟩

theorem gatesFollow_iff_twoModalTuples :
    ∃ plan, twoModalTuples.compile modalEnvironment noon "plan-1" promptRequest = .ok plan ∧
      (twoModalTuples.GatesFollow plan ↔ twoModalTuples.GateCovers plan) := by
  obtain ⟨plan, hplan, -⟩ := exists_ok_of_map (show
    ((twoModalTuples.compile modalEnvironment noon "plan-1" promptRequest).toOption.map
      (·.tupleChain)) = some ["modal-a10g", "modal-h100"] by decide +kernel)
  exact ⟨plan, hplan,
    gatesFollow_iff modalEnvironment twoModalTuples noon "plan-1" promptRequest plan hplan⟩

/-- The same two tuples, where the one behind the head requires attestation. -/
def attestedFallback : GovernanceCompiler :=
  { twoModalTuples with
    tuples := { entries :=
      [("modal-h100", { modalTuple "modal-h100" 80 (1 / 100) with
          trustProfile := { requiresAttestation := true } }),
        ("modal-a10g", modalTuple "modal-a10g" 24 (1 / 1000))] } }

theorem not_gatesFollow :
    ∃ plan, attestedFallback.compile modalEnvironment noon "plan-1" promptRequest = .ok plan ∧
      ¬attestedFallback.GatesFollow plan := by
  obtain ⟨plan, hplan, hchain⟩ := exists_ok_of_map (show
    ((attestedFallback.compile modalEnvironment noon "plan-1" promptRequest).toOption.map
      fun plan => (plan.tupleChain, plan.attestations.keyReleaseRequirement.isSome)) =
        some (["modal-a10g", "modal-h100"], false) by decide +kernel)
  obtain ⟨hchain, hkey⟩ := Prod.mk.inj hchain
  refine ⟨plan, hplan, fun hfollow => ?_⟩
  obtain ⟨head, hhead, hcovers⟩ := hfollow.covers hplan
  rw [hchain] at hhead hcovers
  cases hhead
  rcases hcovers with hblocked | hblocked | hcovers
  · exact absurd hblocked (by decide)
  · exact absurd hblocked (by simp [hkey])
  · exact absurd (hcovers "modal-h100" (by simp) _ rfl).1 (by decide)

end GovernanceCompiler

end Gpucall
