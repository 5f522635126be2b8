import Gpucall.Tenant.Ledger
import Gpucall.Gateway.Handlers

/-! The reservations of the request handlers. When a handler and its generator have ended, the row of a
plan is committed if the dispatcher produced the complete result and released otherwise, exactly when
no step before the row was settled has failed in a way that no clause refunds. -/

namespace Gpucall

open Effects

/-- One step of the ledger. The sweep of stale reservations is not part of it; the exit of the
idempotency lock can only be cancelled. -/
def handlerStep (t : UsageTable) (e : HandlerEvent) (t' : UsageTable) : Prop :=
  match e.op, e.outcome with
  | .enforceRequestBudget planId, .ok _ =>
    ∃ row : UsageRow, row.planId = some planId ∧ row.status = .reserved ∧ t' = t ++ [row]
  | .commitRequestBudget planId, .ok _ => t' = commitPlan (some planId) t
  | .refundRequestBudget planId, .ok _ => t' = releasePlan (some planId) t
  | .work _ .exitLock, .error exc => exc = .cancelledError ∧ t' = t
  | .stillRunning, _ => False
  | _, _ => t' = t

/-- The dispatcher has produced the complete result or stream of the plan. -/
def Produces (planId : String) (e : HandlerEvent) : Bool :=
  match e.op, e.outcome with
  | .executeSync id, .ok _ => id = planId
  | .nextEvent id, .ok none => id = planId
  | _, _ => false

/-- The step has settled the reservation of its plan. -/
def SettlesRow (e : HandlerEvent) : Bool :=
  match e.op, e.outcome with
  | .commitRequestBudget _, .ok _ | .refundRequestBudget _, .ok _ => true
  | _, _ => false

/-- The steps for a plan, up to the one that settles its reservation. -/
def untilSettled (planId : String) (steps : List HandlerEvent) : List HandlerEvent :=
  (steps.filter fun e => e.op.planId = some planId).takeWhile fun e => !SettlesRow e

/-- An `Exception` that is neither a `GovernanceError` nor a `TenantBudgetError`. -/
def PyExc.isRefunded : PyExc → Bool
  | .governanceError .. | .tenantBudgetError .. | .cancelledError | .generatorExit => false
  | _ => true

namespace HandlerRequest

/-- Whether the clause that an exception of the step reaches refunds the budget. A generator that was
never started has no clause, nor have the headers of `task_stream`; a generator refunds all but its
close, and the other clauses of `task_stream` are those for `HTTPException` and `ValueError`. -/
def refunds (h : HandlerRequest) (op : HandlerCall) (exc : PyExc) : Bool :=
  match op with
  | .startStream _ => false
  | .nextEvent _ | .nextChunk .. | .yieldChunk _ => exc ≠ .generatorExit
  | op =>
    match h with
    | .stream .. =>
      match op, exc with
      | .work _ .headers, _ => false
      | _, .httpException _ | _, .valueError _ => true
      | _, _ => false
    | _ => exc.isRefunded

/-- A step that leaves the reservation as it is, or settles it the wrong way: the commit or the refund
fails, or an exception reaches no clause that refunds. -/
def ledgerFault (h : HandlerRequest) (e : HandlerEvent) : Bool :=
  match e.op, e.outcome with
  | _, .ok _ => false
  | .commitRequestBudget _, .error _ | .refundRequestBudget _, .error _ => true
  | op, .error exc => !h.refunds op exc

end HandlerRequest

/-! ## The fate of a plan -/

/-- The row of a plan, whether its result is complete, whether a step has settled the row, and whether
one before has failed. -/
@[ext] structure PlanFate where
  status : Option UsageStatus := none
  produced : Bool := false
  settled : Bool := false
  faulty : Bool := false

def PlanFate.after (h : HandlerRequest) (p : String) (g : PlanFate) (e : HandlerEvent) : PlanFate :=
  if e.op.planId = some p then
    { status := match e.op, e.outcome with
        | .enforceRequestBudget _, .ok _ => some .reserved
        | .commitRequestBudget _, .ok _ => g.status.map (settledAs p .committed)
        | .refundRequestBudget _, .ok _ => g.status.map (settledAs p .released)
        | _, _ => g.status
      produced := Produces p e || g.produced
      settled := SettlesRow e || g.settled
      faulty := (!g.settled && h.ledgerFault e) || g.faulty }
  else g

/-- A plan is reserved once. -/
def planProtocol (h : HandlerRequest) (p : String) :
    Protocol HandlerCall HandlerCall.Res PyExc PlanFate where
  pre g op := match op with
    | .enforceRequestBudget id => id = p → g.status = none
    | _ => True
  allowed _ e := match e.op, e.outcome with
    | .work _ .exitLock, .error exc => exc = .cancelledError
    | .stillRunning, _ => False
    | _, _ => True
  after := PlanFate.after h p

/-- The fate is that of the rows of the plan. -/
def FollowsPlan (p : String) (t : UsageTable) (g : PlanFate) : Prop :=
  planStatuses t p = g.status.toList

theorem planStatuses_append (s t : UsageTable) (planId : String) :
    planStatuses (s ++ t) planId = planStatuses s planId ++ planStatuses t planId := by
  simp [planStatuses]

theorem FollowsPlan.step {h : HandlerRequest} {p : String} {t t' : UsageTable} {e : HandlerEvent}
    {g : PlanFate} (hpre : (planProtocol h p).pre g e.op) (hstep : handlerStep t e t')
    (hg : FollowsPlan p t g) :
    (planProtocol h p).allowed g e ∧ FollowsPlan p t' ((planProtocol h p).after g e) := by
  obtain ⟨op, r⟩ := e
  have hsettle (status : UsageStatus) (id : String) :
      planStatuses (settlePlan status (some id) t) p =
        (if some id = some p then g.status.map (settledAs p status) else g.status).toList := by
    by_cases hid : id = p
    · subst hid
      rw [planStatuses_settlePlan, hg, if_pos rfl]
      cases g.status <;> rfl
    · rw [planStatuses_settlePlan_of_ne status hid, hg, if_neg (by simpa using hid)]
  have hsame (hledger : t' = t) (hstatus : (g.after h p ⟨op, r⟩).status = g.status) :
      FollowsPlan p t' (g.after h p ⟨op, r⟩) := by
    rw [FollowsPlan, hledger, hstatus]
    exact hg
  cases op with
  | work id task =>
    have hledger : (planProtocol h p).allowed g ⟨.work id task, r⟩ ∧ t' = t := by
      cases task <;> cases r <;> first | exact ⟨trivial, hstep⟩ | exact hstep
    exact ⟨hledger.1, hsame hledger.2 (by unfold PlanFate.after; split <;> rfl)⟩
  | enforceRequestBudget id =>
    cases r with
    | error e => exact ⟨trivial, hsame hstep (by unfold PlanFate.after; split <;> rfl)⟩
    | ok u =>
      obtain ⟨row, hid, hstatus, rfl⟩ := hstep
      refine ⟨trivial, ?_⟩
      show planStatuses (t ++ [row]) p = (g.after h p _).status.toList
      rw [planStatuses_append, hg, planStatuses_cons, hid, hstatus]
      unfold PlanFate.after
      by_cases hp : id = p
      · subst hp
        have hnone : g.status = none := hpre rfl
        simp [HandlerCall.planId, hnone, planStatuses]
      · simp [HandlerCall.planId, hp, planStatuses]
  | commitRequestBudget id =>
    cases r with
    | error e => exact ⟨trivial, hsame hstep (by unfold PlanFate.after; split <;> rfl)⟩
    | ok u =>
      refine ⟨trivial, ?_⟩
      show planStatuses t' p = (g.after h p _).status.toList
      rw [show t' = settlePlan .committed (some id) t from hstep, hsettle]
      unfold PlanFate.after
      split <;> simp_all [HandlerCall.planId]
  | refundRequestBudget id =>
    cases r with
    | error e => exact ⟨trivial, hsame hstep (by unfold PlanFate.after; split <;> rfl)⟩
    | ok u =>
      refine ⟨trivial, ?_⟩
      show planStatuses t' p = (g.after h p _).status.toList
      rw [show t' = settlePlan .released (some id) t from hstep, hsettle]
      unfold PlanFate.after
      split <;> simp_all [HandlerCall.planId]
  | stillRunning => exact hstep.elim
  | executeSync | startStream | nextEvent | nextChunk | yieldChunk =>
    exact ⟨trivial, hsame hstep (by unfold PlanFate.after; split <;> rfl)⟩

/-! ## States of a fate -/

namespace PlanFate

variable {h : HandlerRequest} {p : String} {g : PlanFate} {e : HandlerEvent}

/-- The row is settled as it should be exactly when no step has failed. -/
def Exact (p : String) (g : PlanFate) : Prop :=
  g.status = some (if g.produced then .committed else .released) ↔ p ≠ "" ∧ g.faulty = false

/-- A step has settled the row. -/
structure Closed (p : String) (g : PlanFate) : Prop where
  settled : g.settled = true
  status : ∃ s, g.status = some s ∧ (p = "" ∨ s ≠ .reserved)
  exact : g.Exact p

/-- A step has failed and no clause will refund the row. -/
structure Lost (g : PlanFate) : Prop where
  status : g.status = some .reserved
  settled : g.settled = false
  faulty : g.faulty = true

/-- The row is reserved; the only step that can have failed is the commit of a complete result. -/
structure Pending (g : PlanFate) : Prop where
  status : g.status = some .reserved
  settled : g.settled = false
  faulty : g.faulty = g.produced

/-- Before the row is reserved. -/
structure Fresh (g : PlanFate) : Prop where
  status : g.status = none
  produced : g.produced = false
  settled : g.settled = false
  faulty : g.faulty = false

/-- The row is reserved and no step has failed. -/
structure Live (produced : Bool) (g : PlanFate) : Prop where
  status : g.status = some .reserved
  produced : g.produced = produced
  settled : g.settled = false
  faulty : g.faulty = false

/-- What a program that has ended leaves. -/
def Final (p : String) (g : PlanFate) : Prop := g.status = none ∨ g.Closed p ∨ g.Lost

/-- What an exception leaves that the clauses of a handler receive. -/
def Raised (p : String) (refunded : Bool) (g : PlanFate) : Prop :=
  g.status = none ∨ g.Closed p ∨ if refunded then g.Pending else g.Lost

theorem Lost.exact (hg : g.Lost) : g.Exact p := by
  refine iff_of_false (fun hstatus => ?_) (by simp [hg.faulty])
  rw [hg.status] at hstatus
  split at hstatus <;> cases hstatus

theorem after_of_ne (hp : e.op.planId ≠ some p) : g.after h p e = g := if_neg hp

theorem status_after_of_closed (hg : g.Closed p) (hop : ∀ id, e.op ≠ .enforceRequestBudget id) :
    (g.after h p e).status = g.status := by
  obtain ⟨s, hs, hstable⟩ := hg.status
  have hsettledAs (status : UsageStatus) : g.status.map (settledAs p status) = g.status := by
    rw [hs, Option.map_some, settledAs, if_neg]
    rintro ⟨hp, hreserved⟩
    exact hstable.elim hp fun h => h hreserved
  unfold PlanFate.after
  split
  · dsimp only
    split
    · rename_i id _ heq _
      exact absurd heq (hop id)
    · exact hsettledAs .committed
    · exact hsettledAs .released
    · rfl
  · rfl

/-- After the row is settled a step changes nothing, unless it reserves or produces. -/
theorem Closed.after_eq (hg : g.Closed p) (hop : ∀ id, e.op ≠ .enforceRequestBudget id)
    (hproduces : Produces p e = false) : g.after h p e = g := by
  by_cases hp : e.op.planId = some p
  · refine PlanFate.ext (status_after_of_closed hg hop) ?_ ?_ ?_
    · simp [PlanFate.after, hp, hproduces]
    · simp [PlanFate.after, hp, hg.settled]
    · simp [PlanFate.after, hp, hg.settled]
  · exact after_of_ne hp

end PlanFate

/-- A step that neither reserves, produces nor settles. -/
def HandlerCall.isIdle : HandlerCall → Bool
  | .work .. | .startStream _ | .nextChunk .. | .yieldChunk _ => true
  | _ => false

section

variable {h : HandlerRequest} {p : String} {g : PlanFate} {op : HandlerCall}

theorem PlanFate.after_idle (hop : op.isIdle = true) (r : Except PyExc op.Res) :
    g.after h p ⟨op, r⟩ = { g with
      faulty := (decide (op.planId = some p) && !g.settled && h.ledgerFault ⟨op, r⟩) || g.faulty } := by
  by_cases hp : op.planId = some p
  · unfold PlanFate.after
    rw [if_pos hp]
    cases op with
    | work | startStream | nextChunk | yieldChunk => simp [hp, Produces, SettlesRow]
    | _ => cases hop
  · rw [PlanFate.after_of_ne hp]
    simp [hp]

theorem PlanFate.Closed.after_idle (hg : g.Closed p) (hop : op.isIdle = true)
    (r : Except PyExc op.Res) : g.after h p ⟨op, r⟩ = g := by
  rw [PlanFate.after_idle hop]
  simp [hg.settled, PlanFate.ext_iff]

theorem stays_of_ne (J : PlanFate → Prop) (hop : op.planId ≠ some p) :
    (op.perform).Stays (planProtocol h p) J := by
  refine fun g hg => ⟨?_, fun r _ => ?_⟩
  · cases op with
    | enforceRequestBudget id => exact fun hid => absurd (congrArg some hid) hop
    | _ => trivial
  · show J (g.after h p ⟨op, r⟩)
    rw [PlanFate.after_of_ne hop]
    exact hg

theorem stays_final (hop : op.isIdle = true) :
    (op.perform).Stays (planProtocol h p) (PlanFate.Final p) := by
  refine fun g hg => ⟨?_, fun r _ => ?_⟩
  · cases op <;> trivial
  show (g.after h p ⟨op, r⟩).Final p
  rcases hg with hnone | hclosed | hlost
  · rw [PlanFate.after_idle hop]
    exact .inl hnone
  · rw [hclosed.after_idle hop]
    exact .inr (.inl hclosed)
  · rw [PlanFate.after_idle hop]
    exact .inr (.inr ⟨hlost.status, hlost.settled, by simp [hlost.faulty]⟩)

end

/-! ## The steps for the plan -/

section

variable {h : HandlerRequest} {p : String} {g : PlanFate}

/-- What a step of a body leaves: `I`, or an exception for the clauses of the handler. -/
def bodyPost (p : String) (refunds : PyExc → Bool) (I : α → PlanFate → Prop) :
    Except PyExc α → PlanFate → Prop
  | .ok a, g => I a g
  | .error exc, g => g.Raised p (refunds exc)

theorem wp_body_bind {c : HandlerProgram α} {f : α → HandlerProgram β} {refunds : PyExc → Bool}
    {I : α → PlanFate → Prop} {J : β → PlanFate → Prop}
    (hc : c.wp (planProtocol h p) (bodyPost p refunds I) g)
    (hf : ∀ a g, I a g → (f a).wp (planProtocol h p) (bodyPost p refunds J) g) :
    (c >>= f).wp (planProtocol h p) (bodyPost p refunds J) g := by
  refine Prog.wp_bind.mpr (Prog.wp_mono hc fun r g' hr => ?_)
  cases r with
  | ok a => exact hf a g' hr
  | error exc => exact hr

theorem wp_enforce (refunds : PyExc → Bool) (hg : g.Fresh) :
    (HandlerCall.perform (.enforceRequestBudget p)).wp (planProtocol h p)
      (bodyPost p refunds fun _ => PlanFate.Live false) g := by
  refine ⟨fun _ => hg.status, fun r _ => ?_⟩
  cases r with
  | ok u =>
    show PlanFate.Live false (g.after h p _)
    constructor <;> simp [PlanFate.after, HandlerCall.planId, Produces, SettlesRow,
      HandlerRequest.ledgerFault, hg.produced, hg.settled, hg.faulty]
  | error exc =>
    refine .inl ?_
    show (g.after h p _).status = none
    simp [PlanFate.after, HandlerCall.planId, hg.status]

/-- A step that has failed before the row is settled: the clause that it reaches refunds the row, or
the row is lost. -/
theorem PlanFate.Live.raised {op : HandlerCall} {exc : PyExc} {refunded : Bool} {b : Bool}
    (hg : g.Live b) (hp : op.planId = some p) (hop : ∀ id, op ≠ .enforceRequestBudget id)
    (hfault : h.ledgerFault ⟨op, .error exc⟩ = if refunded then b else true) :
    (g.after h p ⟨op, .error exc⟩).Raised p refunded := by
  have hafter : g.after h p ⟨op, .error exc⟩ =
      { g with faulty := if refunded then b else true } := by
    unfold PlanFate.after
    rw [if_pos hp, hfault, hg.settled, hg.faulty]
    cases op <;> simp [Produces, SettlesRow]
  refine .inr (.inr ?_)
  rw [hafter]
  cases refunded with
  | true => exact ⟨hg.status, hg.settled, hg.produced.symm⟩
  | false => exact ⟨hg.status, hg.settled, rfl⟩

theorem HandlerCall.pre_idle {op : HandlerCall} (hop : op.isIdle = true) :
    (planProtocol h p).pre g op := by
  cases op <;> trivial

theorem HandlerRequest.ledgerFault_idle {op : HandlerCall} (hop : op.isIdle = true) (exc : PyExc) :
    h.ledgerFault ⟨op, .error exc⟩ = !h.refunds op exc := by
  cases op <;> first | rfl | cases hop

theorem wp_idle_live {op : HandlerCall} {refunds : PyExc → Bool} (hop : op.isIdle = true)
    (hp : op.planId = some p) (hrefunds : ∀ exc, h.refunds op exc = refunds exc)
    (hg : g.Live false) :
    (op.perform).wp (planProtocol h p) (bodyPost p refunds fun _ => PlanFate.Live false) g := by
  refine ⟨HandlerCall.pre_idle hop, fun r _ => ?_⟩
  cases r with
  | ok a =>
    show PlanFate.Live false (g.after h p _)
    rw [PlanFate.after_idle hop]
    exact ⟨hg.status, hg.produced, hg.settled, by simp [HandlerRequest.ledgerFault, hg.faulty]⟩
  | error exc =>
    refine hg.raised hp (fun id hid => by subst hid; cases hop) ?_
    rw [HandlerRequest.ledgerFault_idle hop, hrefunds]
    cases refunds exc <;> rfl

/-- After the row is settled, a step does nothing to it. -/
theorem wp_idle_closed {op : HandlerCall} {refunds : PyExc → Bool} (hop : op.isIdle = true)
    (hg : g.Closed p) :
    (op.perform).wp (planProtocol h p) (bodyPost p refunds fun _ => PlanFate.Closed p) g := by
  refine ⟨HandlerCall.pre_idle hop, fun r _ => ?_⟩
  cases r with
  | ok a =>
    show PlanFate.Closed p (g.after h p _)
    rw [hg.after_idle hop]
    exact hg
  | error exc =>
    show PlanFate.Raised p (refunds exc) (g.after h p _)
    rw [hg.after_idle hop]
    exact .inr (.inl hg)

theorem wp_executeSync {refunds : PyExc → Bool}
    (hrefunds : ∀ exc, h.refunds (.executeSync p) exc = refunds exc) (hg : g.Live false) :
    (HandlerCall.perform (.executeSync p)).wp (planProtocol h p)
      (bodyPost p refunds fun _ => PlanFate.Live true) g := by
  refine ⟨trivial, fun r _ => ?_⟩
  cases r with
  | ok a =>
    show PlanFate.Live true (g.after h p _)
    constructor <;> simp [PlanFate.after, HandlerCall.planId, Produces, SettlesRow,
      HandlerRequest.ledgerFault, hg.status, hg.settled, hg.faulty]
  | error exc =>
    refine hg.raised rfl (by simp) ?_
    rw [show h.ledgerFault ⟨.executeSync p, .error exc⟩ = !h.refunds (.executeSync p) exc from rfl,
      hrefunds]
    cases refunds exc <;> rfl

theorem wp_nextEvent {refunds : PyExc → Bool}
    (hrefunds : ∀ exc, h.refunds (.nextEvent p) exc = refunds exc) (hg : g.Live false) :
    (HandlerCall.perform (.nextEvent p)).wp (planProtocol h p)
      (bodyPost p refunds fun event => PlanFate.Live event.isNone) g := by
  refine ⟨trivial, fun r _ => ?_⟩
  cases r with
  | ok event =>
    show PlanFate.Live event.isNone (g.after h p _)
    cases event <;> constructor <;> simp [PlanFate.after, HandlerCall.planId, Produces, SettlesRow,
      HandlerRequest.ledgerFault, hg.status, hg.produced, hg.settled, hg.faulty]
  | error exc =>
    refine hg.raised rfl (by simp) ?_
    rw [show h.ledgerFault ⟨.nextEvent p, .error exc⟩ = !h.refunds (.nextEvent p) exc from rfl,
      hrefunds]
    cases refunds exc <;> rfl

/-- A commit that fails leaves a complete result with a reservation that is at most refunded. -/
theorem wp_commit {refunds : PyExc → Bool} (hg : g.Live true) :
    (HandlerCall.perform (.commitRequestBudget p)).wp (planProtocol h p)
      (bodyPost p refunds fun _ => PlanFate.Closed p) g := by
  refine ⟨trivial, fun r _ => ?_⟩
  cases r with
  | ok a =>
    have hafter : g.after h p ⟨.commitRequestBudget p, .ok a⟩ = { g with
        status := some (settledAs p .committed .reserved), settled := true } := by
      simp [PlanFate.after, HandlerCall.planId, Produces, SettlesRow, HandlerRequest.ledgerFault,
        hg.status]
    show PlanFate.Closed p (g.after h p _)
    rw [hafter]
    by_cases hp : p = ""
    · refine ⟨rfl, ⟨_, rfl, .inl hp⟩, ?_⟩
      simp [PlanFate.Exact, hp, settledAs, hg.produced]
    · refine ⟨rfl, ⟨_, rfl, .inr ?_⟩, ?_⟩
      · simp [settledAs, hp]
      · simp [PlanFate.Exact, hp, settledAs, hg.produced, hg.faulty]
  | error exc =>
    refine hg.raised rfl (by simp) ?_
    cases refunds exc <;> rfl

theorem wp_refund (hg : g.Raised p true) :
    (HandlerCall.perform (.refundRequestBudget p)).wp (planProtocol h p)
      (fun _ => PlanFate.Final p) g := by
  refine ⟨trivial, fun r _ => ?_⟩
  show PlanFate.Final p (g.after h p _)
  rcases hg with hnone | hclosed | hpending
  · refine .inl ?_
    cases r <;> simp [PlanFate.after, HandlerCall.planId, hnone]
  · rw [hclosed.after_eq (by simp) (by cases r <;> rfl)]
    exact .inr (.inl hclosed)
  · cases r with
    | ok a =>
      have hafter : g.after h p ⟨.refundRequestBudget p, .ok a⟩ = { g with
          status := some (settledAs p .released .reserved), settled := true } := by
        simp [PlanFate.after, HandlerCall.planId, Produces, SettlesRow, HandlerRequest.ledgerFault,
          PlanFate.Pending.status hpending]
      rw [hafter]
      refine .inr (.inl ?_)
      have hfaulty := PlanFate.Pending.faulty hpending
      by_cases hp : p = ""
      · refine ⟨rfl, ⟨_, rfl, .inl hp⟩, ?_⟩
        cases g.produced <;> simp [PlanFate.Exact, hp, settledAs]
      · refine ⟨rfl, ⟨_, rfl, .inr ?_⟩, ?_⟩
        · simp [settledAs, hp]
        · cases hproduced : g.produced <;>
            simp [PlanFate.Exact, hp, settledAs, hproduced, hfaulty]
    | error exc =>
      refine .inr (.inr ⟨?_, ?_, ?_⟩) <;>
        simp [PlanFate.after, HandlerCall.planId, SettlesRow, HandlerRequest.ledgerFault,
          PlanFate.Pending.status hpending, PlanFate.Pending.settled hpending]

end

/-! ## The handlers -/

section

variable {h : HandlerRequest} {p : String} {g : PlanFate} {refunds : PyExc → Bool}

theorem wp_prepareRequest (needsObjectAccess : Bool)
    (hrefunds : ∀ task exc, task ≠ .headers → h.refunds (.work (some p) task) exc = refunds exc)
    (hg : g.Live false) :
    (prepareRequest p needsObjectAccess).wp (planProtocol h p)
      (bodyPost p refunds fun _ => PlanFate.Live false) g := by
  have hwork (task : Work) (htask : task ≠ .headers) (g : PlanFate) (hg : g.Live false) :
      (work p task).wp (planProtocol h p) (bodyPost p refunds fun _ => PlanFate.Live false) g :=
    wp_idle_live rfl rfl (fun exc => hrefunds task exc htask) hg
  have hrest (g : PlanFate) (hg : g.Live false) :
      (do
        work p .workerReadableRequest
        work p .planWithWorkerRefs).wp (planProtocol h p)
        (bodyPost p refunds fun _ => PlanFate.Live false) g :=
    wp_body_bind (hwork .workerReadableRequest (by decide) g hg) fun _ g hg =>
      hwork .planWithWorkerRefs (by decide) g hg
  cases needsObjectAccess with
  | true =>
    exact wp_body_bind (hwork .objectTenantPrefix (by decide) g hg) fun _ g hg => hrest g hg
  | false => exact hrest g hg

theorem wp_executeAndCommit (hrefunds : ∀ exc, h.refunds (.executeSync p) exc = refunds exc)
    (hg : g.Live false) :
    (executeAndCommit p).wp (planProtocol h p)
      (bodyPost p refunds fun _ => PlanFate.Closed p) g :=
  wp_body_bind (wp_executeSync hrefunds hg) fun _ _ hg => wp_commit hg

theorem wp_work_closed (task : Work) (hg : g.Closed p) :
    (work p task).wp (planProtocol h p) (bodyPost p refunds fun _ => PlanFate.Closed p) g :=
  wp_idle_closed rfl hg

theorem stays_work (task : Work) : (work p task).Stays (planProtocol h p) (PlanFate.Final p) :=
  stays_final rfl

theorem stays_errorReply (statusCode : ℕ) (recorded code : String) :
    (errorReply p statusCode recorded code).Stays (planProtocol h p) (PlanFate.Final p) :=
  (stays_work _).bind fun _ => (stays_work _).bind fun _ => Prog.stays_done _

theorem stays_releaseIdempotency (hasKey : Bool) :
    (releaseIdempotency p hasKey).Stays (planProtocol h p) (PlanFate.Final p) := by
  cases hasKey with
  | true => exact stays_work _
  | false => exact Prog.stays_done _

/-- A clause that refunds the budget and then does what leaves the ledger alone. -/
theorem wp_refund_bind {f : Unit → HandlerProgram α} (hg : g.Raised p true)
    (hf : ∀ u, (f u).Stays (planProtocol h p) (PlanFate.Final p)) :
    (HandlerCall.perform (.refundRequestBudget p) >>= f).wp (planProtocol h p)
      (fun _ => PlanFate.Final p) g := by
  refine Prog.wp_bind.mpr (Prog.wp_mono (wp_refund hg) fun r g' hr => ?_)
  cases r with
  | ok u => exact hf u g' hr
  | error exc => exact hr

theorem wp_taskSyncExcept (hasKey : Bool) (exc : PyExc) (hg : g.Raised p exc.isRefunded) :
    (taskSyncExcept p hasKey exc).wp (planProtocol h p) (fun _ => PlanFate.Final p) g := by
  have hrelease : (releaseIdempotency p hasKey).Stays (planProtocol h p) (PlanFate.Final p) :=
    stays_releaseIdempotency hasKey
  cases exc with
  | governanceError code message =>
    exact hrelease.bind (fun _ => stays_errorReply _ _ _) g hg
  | tenantBudgetError statusCode code =>
    exact hrelease.bind (fun _ => stays_errorReply _ _ _) g hg
  | cancelledError | generatorExit => exact hg
  | tupleError exc =>
    exact wp_refund_bind hg fun _ => hrelease.bind fun _ => stays_errorReply _ _ _
  | _ => exact wp_refund_bind hg fun _ => hrelease.bind fun _ => Prog.stays_done _

theorem wp_taskSyncBody (needsObjectAccess hasKey : Bool) (hg : g.Fresh) :
    (taskSyncBody p needsObjectAccess).wp (planProtocol (.sync p needsObjectAccess hasKey) p)
      (bodyPost p PyExc.isRefunded fun _ => PlanFate.Closed p) g := by
  refine wp_body_bind (wp_enforce _ hg) fun _ g hg => ?_
  refine wp_body_bind (wp_prepareRequest _ (by intros; rfl) hg) fun _ g hg => ?_
  refine wp_body_bind (wp_executeAndCommit (by intro; rfl) hg) fun _ g hg => ?_
  refine wp_body_bind (wp_work_closed _ hg) fun _ g hg => ?_
  refine wp_body_bind (wp_work_closed _ hg) fun _ g hg => ?_
  exact wp_work_closed _ hg

/-- The exit of the lock ends the handler as its body did, or is cancelled. -/
theorem wp_exitLock {c : HandlerProgram Unit}
    (hrefunds : ∀ exc, h.refunds (.work (some p) .exitLock) exc = exc.isRefunded)
    (hc : c.wp (planProtocol h p) (bodyPost p PyExc.isRefunded fun _ => PlanFate.Closed p) g) :
    (Prog.tryFinally c (work p .exitLock)).wp (planProtocol h p)
      (bodyPost p PyExc.isRefunded fun _ => PlanFate.Closed p) g := by
  refine Prog.wp_andThen.mpr (Prog.wp_mono hc fun r g hg => ?_)
  refine Prog.wp_andThen.mpr ⟨trivial, fun o ho => ?_⟩
  show Prog.wp _ _ _ (g.after h p _)
  cases r with
  | ok u =>
    rw [PlanFate.Closed.after_idle hg rfl]
    cases o with
    | ok u => exact hg
    | error exc => exact .inr (.inl hg)
  | error exc =>
    cases o with
    | ok u =>
      have hafter : g.after h p ⟨.work (some p) .exitLock, .ok u⟩ = g := by
        rw [PlanFate.after_idle rfl]
        simp [HandlerRequest.ledgerFault]
      rw [hafter]
      exact hg
    | error exc' =>
      obtain rfl : exc' = .cancelledError := ho
      show PlanFate.Raised p false (g.after h p _)
      rcases hg with hnone | hclosed | hrest
      · rw [PlanFate.after_idle rfl]
        exact .inl hnone
      · rw [hclosed.after_idle rfl]
        exact .inr (.inl hclosed)
      · have hstatus : g.status = some .reserved ∧ g.settled = false := by
          split at hrest
          · exact ⟨hrest.status, hrest.settled⟩
          · exact ⟨hrest.status, hrest.settled⟩
        rw [PlanFate.after_idle rfl, HandlerRequest.ledgerFault_idle rfl, hrefunds, hstatus.2]
        exact .inr (.inr ⟨hstatus.1, rfl, by simp [HandlerCall.planId, PyExc.isRefunded]⟩)

theorem wp_taskSync (needsObjectAccess hasKey : Bool) (hg : g.Fresh) :
    (taskSync p needsObjectAccess hasKey).wp (planProtocol (.sync p needsObjectAccess hasKey) p)
      (fun _ => PlanFate.Final p) g := by
  have hrest (g : PlanFate) (hg : g.Closed p) :
      (work p .headers >>= fun _ => (pure { statusCode := 200 } : HandlerProgram Reply)).wp
        (planProtocol (.sync p needsObjectAccess hasKey) p)
        (bodyPost p PyExc.isRefunded fun _ => PlanFate.Closed p) g :=
    wp_body_bind (wp_work_closed _ hg) fun _ _ hg => by exact hg
  refine Prog.wp_tryCatch.mpr (Prog.wp_mono
    (Q := bodyPost p PyExc.isRefunded fun _ => PlanFate.Closed p) ?_ fun r g' hr => ?_)
  · cases hasKey with
    | true =>
      refine wp_body_bind (I := fun _ => PlanFate.Closed p) ?_ fun _ g hg => hrest g hg
      exact wp_exitLock (by intro; rfl) (wp_taskSyncBody _ _ hg)
    | false => exact wp_body_bind (wp_taskSyncBody _ _ hg) fun _ g hg => hrest g hg
  · cases r with
    | ok reply => exact .inr (.inl hr)
    | error exc => exact wp_taskSyncExcept hasKey exc hr

/-! ### Streams -/

/-- The clauses of a generator refund all but its close. -/
def streamRefunds (exc : PyExc) : Bool := exc ≠ .generatorExit

theorem wp_handlerStillRunning {Q : Except PyExc α → PlanFate → Prop} :
    handlerStillRunning.wp (planProtocol h p) Q g :=
  Prog.wp_perform_bind.mpr ⟨trivial, fun _ hfalse => hfalse.elim⟩

theorem stays_yieldChunk :
    (HandlerCall.perform (.yieldChunk p)).Stays (planProtocol h p) (PlanFate.Final p) :=
  stays_final rfl

theorem wp_streamEventsExcept (exc : PyExc) (hg : g.Raised p (streamRefunds exc)) :
    (streamEventsExcept p exc).wp (planProtocol h p) (fun _ => PlanFate.Final p) g := by
  cases exc with
  | generatorExit => exact hg
  | tupleError exc =>
    exact wp_refund_bind hg fun _ => (stays_work _).bind fun _ => stays_yieldChunk.bind fun _ =>
      stays_yieldChunk
  | _ => exact wp_refund_bind hg fun _ => Prog.stays_done _

/-- What a round of the relay leaves. -/
theorem wp_streamEventRound (hg : g.Live false) :
    (streamEventRound p).wp (planProtocol h p)
      (bodyPost p streamRefunds fun ended => PlanFate.Live ended.isSome) g := by
  refine wp_body_bind (wp_nextEvent (by intro; rfl) hg) fun event g hg => ?_
  cases event with
  | none => exact hg
  | some event =>
    exact wp_body_bind (wp_idle_live rfl rfl (by intro; rfl) hg) fun _ g hg => by exact hg

theorem wp_whileTrue_live {body : HandlerProgram (Option Unit)} (rounds : ℕ)
    (hbody : ∀ g : PlanFate, g.Live false → body.wp (planProtocol h p)
      (bodyPost p streamRefunds fun ended => PlanFate.Live ended.isSome) g) (hg : g.Live false) :
    (whileTrue handlerStillRunning body rounds).wp (planProtocol h p)
      (bodyPost p streamRefunds fun _ => PlanFate.Live true) g := by
  induction rounds generalizing g with
  | zero => exact wp_handlerStillRunning
  | succ rounds ih =>
    refine wp_body_bind (hbody g hg) fun ended g hg => ?_
    cases ended with
    | none => exact ih hg
    | some u => exact hg

theorem wp_streamEvents (rounds : ℕ) (hg : g.Live false) :
    (streamEvents p rounds).wp (planProtocol h p) (fun _ => PlanFate.Final p) g := by
  refine Prog.wp_tryCatch.mpr (Prog.wp_mono
    (Q := bodyPost p streamRefunds fun _ => PlanFate.Closed p) ?_ fun r g' hr => ?_)
  · exact wp_body_bind (wp_whileTrue_live rounds (fun g hg => wp_streamEventRound hg) hg)
      fun _ g hg => wp_commit hg
  · cases r with
    | ok u => exact .inr (.inl hr)
    | error exc => exact wp_streamEventsExcept exc hr

/-- A stream whose generator is not started, or whose headers fail, keeps its reservation. -/
theorem wp_idle_lost {op : HandlerCall} {f : op.Res → HandlerProgram α} (hop : op.isIdle = true)
    (hp : op.planId = some p) (hrefunds : ∀ exc, h.refunds op exc = false) (hg : g.Live false)
    (hf : ∀ a g, g.Live false → (f a).wp (planProtocol h p) (fun _ => PlanFate.Final p) g) :
    (op.perform >>= f).wp (planProtocol h p) (fun _ => PlanFate.Final p) g := by
  refine Prog.wp_bind.mpr (Prog.wp_mono (wp_idle_live hop hp hrefunds hg) fun r g' hr => ?_)
  cases r with
  | ok a => exact hf a g' hr
  | error exc => exact hr

theorem wp_serve {events : HandlerProgram Unit} {reply : Reply} (hstreaming : reply.streaming = true)
    (hevents : ∀ g : PlanFate, g.Live false →
      events.wp (planProtocol h p) (fun _ => PlanFate.Final p) g) (hg : g.Live false) :
    (serve p events reply).wp (planProtocol h p) (fun _ => PlanFate.Final p) g := by
  unfold serve
  rw [if_pos hstreaming]
  refine wp_idle_lost rfl rfl (by intro; rfl) hg fun _ g hg => ?_
  refine Prog.wp_bind.mpr (Prog.wp_mono (hevents g hg) fun r g' hr => ?_)
  cases r with
  | ok u => exact hr
  | error exc => exact hr

theorem wp_serve_reply {events : HandlerProgram Unit} {reply : Reply}
    (hstreaming : reply.streaming = false) (hg : g.Final p) :
    (serve p events reply).wp (planProtocol h p) (fun _ => PlanFate.Final p) g := by
  unfold serve
  rw [if_neg (by simp [hstreaming])]
  exact hg

/-- The clauses of `task_stream` before its generator. -/
def openingRefunds : PyExc → Bool
  | .httpException _ | .valueError _ => true
  | _ => false

/-- The row is settled, and a value that the clause returns meets `A`. -/
def replyPost (p : String) (A : α → Prop) (r : Except PyExc α) (g : PlanFate) : Prop :=
  g.Final p ∧ ∀ a, r = .ok a → A a

/-- A call that settles the row, and what follows it. -/
theorem wp_final_bind {c : HandlerProgram α} {f : α → HandlerProgram β} {A : β → Prop}
    (hc : c.wp (planProtocol h p) (fun _ => PlanFate.Final p) g)
    (hf : ∀ a g, g.Final p → (f a).wp (planProtocol h p) (replyPost p A) g) :
    (c >>= f).wp (planProtocol h p) (replyPost p A) g := by
  refine Prog.wp_bind.mpr (Prog.wp_mono hc fun r g hr => ?_)
  cases r with
  | ok a => exact hf a g hr
  | error exc => exact ⟨hr, by simp⟩

theorem replyPost_ok {A : α → Prop} {a : α} (hg : g.Final p) (ha : A a) :
    replyPost p A (.ok a) g := by
  refine ⟨hg, ?_⟩
  rintro _ ⟨⟩
  exact ha

theorem replyPost_error {A : α → Prop} {exc : PyExc} (hg : g.Final p) :
    replyPost p A (.error exc) g :=
  ⟨hg, by simp⟩

theorem wp_taskStreamExcept (exc : PyExc) (hg : g.Raised p (openingRefunds exc)) :
    (taskStreamExcept p exc).wp (planProtocol h p) (replyPost p (· ≠ none)) g := by
  cases exc with
  | governanceError code message =>
    exact wp_final_bind (stays_errorReply _ _ _ g hg) fun _ g hg => replyPost_ok hg (by simp)
  | httpException | valueError =>
    exact wp_final_bind (wp_refund hg) fun _ g hg => replyPost_error hg
  | _ => exact replyPost_error hg

theorem wp_taskStream (needsObjectAccess : Bool) (rounds : ℕ) (hg : g.Fresh) :
    (taskStream p needsObjectAccess rounds).wp
      (planProtocol (.stream p needsObjectAccess rounds) p) (fun _ => PlanFate.Final p) g := by
  refine Prog.wp_bind.mpr (Prog.wp_tryCatch.mpr (Prog.wp_mono
    (Q := bodyPost p openingRefunds fun refused g => refused = none ∧ g.Live false) ?_
    fun r g' hr => ?_))
  · refine wp_body_bind (wp_enforce _ hg) fun _ g hg => ?_
    refine wp_body_bind (wp_prepareRequest _ ?_ hg) fun _ g hg => ?_
    · intro task exc htask
      cases task <;> cases exc <;> first | rfl | exact absurd rfl htask
    · exact ⟨rfl, hg⟩
  · cases r with
    | ok refused =>
      obtain ⟨rfl, hlive⟩ := hr
      refine wp_idle_lost rfl rfl (by intro; rfl) hlive fun _ g hg => ?_
      exact wp_serve rfl (fun g hg => wp_streamEvents rounds hg) hg
    | error exc =>
      refine Prog.wp_mono (wp_taskStreamExcept exc hr) fun r g hr => ?_
      match r with
      | .ok none => exact absurd rfl (hr.2 none rfl)
      | .ok (some reply) => exact hr.1
      | .error exc => exact hr.1

/-! ### The stream of openai_chat_completions -/

theorem wp_openaiExcept (exc : PyExc) (hg : g.Raised p exc.isRefunded) :
    (openaiExcept p exc).wp (planProtocol h p) (replyPost p (·.streaming = false)) g := by
  have hreply (statusCode : ℕ) (recorded code : String) (g : PlanFate) (hg : g.Final p) :
      (errorReply p statusCode recorded code).wp (planProtocol h p)
        (replyPost p (·.streaming = false)) g := by
    refine wp_final_bind (stays_work _ g hg) fun _ g hg => ?_
    exact wp_final_bind (stays_work _ g hg) fun _ g hg => replyPost_ok hg rfl
  cases exc with
  | governanceError code message => exact hreply _ _ _ g hg
  | tenantBudgetError statusCode code => exact hreply _ _ _ g hg
  | cancelledError | generatorExit => exact replyPost_error hg
  | tupleError exc => exact wp_final_bind (wp_refund hg) fun _ g hg => hreply _ _ _ g hg
  | _ => exact wp_final_bind (wp_refund hg) fun _ g hg => replyPost_error hg

/-- `bodyPost` of a program with local variables. -/
def localPost (p : String) (refunds : PyExc → Bool) (I : α → PlanFate → Prop)
    (r : Except PyExc α) (_ : σ) (g : PlanFate) : Prop :=
  bodyPost p refunds I r g

theorem wp_local_bind {c : Local σ HandlerCall HandlerCall.Res PyExc α}
    {f : α → Local σ HandlerCall HandlerCall.Res PyExc β} {s : σ}
    {I : α → PlanFate → Prop} {J : β → PlanFate → Prop}
    (hc : c.wp (planProtocol h p) (localPost p refunds I) s g)
    (hf : ∀ a s g, I a g → (f a).wp (planProtocol h p) (localPost p refunds J) s g) :
    (c >>= f).wp (planProtocol h p) (localPost p refunds J) s g := by
  refine Local.wp_bind.mpr (Local.wp_mono hc fun r s' g' hr => ?_)
  cases r with
  | ok a => exact hf a s' g' hr
  | error exc => exact hr

theorem wp_lift {c : HandlerProgram α} {I : α → PlanFate → Prop} {s : σ}
    (hc : c.wp (planProtocol h p) (bodyPost p refunds I) g) :
    (liftM c : Local σ HandlerCall HandlerCall.Res PyExc α).wp (planProtocol h p)
      (localPost p refunds I) s g :=
  Local.wp_ofProg.mpr hc

/-- A loop of the generator that leaves the row in the state `b` of its last round. -/
theorem wp_local_whileTrue {body : Local σ HandlerCall HandlerCall.Res PyExc (Option Unit)}
    {b : Bool} {s : σ} (rounds : ℕ)
    (hbody : ∀ (s : σ) (g : PlanFate), g.Live false → body.wp (planProtocol h p)
      (localPost p streamRefunds fun ended => PlanFate.Live (ended.isSome && b)) s g)
    (hg : g.Live false) :
    (whileTrue (liftM (handlerStillRunning : HandlerProgram Unit)) body rounds).wp
      (planProtocol h p) (localPost p streamRefunds fun _ => PlanFate.Live b) s g := by
  refine Local.wp_whileTrue (I := fun _ g => g.Live false) rounds
    (fun s g _ => wp_lift wp_handlerStillRunning) (fun s g hg => ?_) hg
  refine Local.wp_mono (hbody s g hg) fun r s' g' hr => ?_
  match r, hr with
  | .ok none, hr => exact hr
  | .ok (some u), hr => exact hr
  | .error exc, hr => exact hr

theorem wp_openaiChunkRound (event : String) (alreadyStarted : Bool) (s : OpenAIStream)
    (hg : g.Live false) :
    (openaiChunkRound p event alreadyStarted).wp (planProtocol h p)
      (localPost p streamRefunds fun _ => PlanFate.Live false) s g := by
  refine wp_local_bind (wp_lift (wp_idle_live rfl rfl (by intro; rfl) hg)) fun chunk s g hg => ?_
  cases chunk with
  | none => exact Local.wp_pure.mpr hg
  | some terminal =>
    refine Local.wp_write_bind.mpr (wp_local_bind
      (wp_lift (wp_idle_live rfl rfl (by intro; rfl) hg)) fun _ s g hg => ?_)
    exact Local.wp_pure.mpr hg

theorem wp_openaiEventRound (rounds : ℕ) (s : OpenAIStream) (hg : g.Live false) :
    (openaiEventRound p rounds).wp (planProtocol h p)
      (localPost p streamRefunds fun ended => PlanFate.Live ended.isSome) s g := by
  refine wp_local_bind (wp_lift (wp_nextEvent (by intro; rfl) hg)) fun event s g hg => ?_
  cases event with
  | none => exact Local.wp_pure.mpr hg
  | some event =>
    refine Local.wp_read_bind.mpr (wp_local_bind (wp_local_whileTrue (b := false) rounds
      (fun s g hg => ?_) hg) fun _ s g hg => Local.wp_pure.mpr hg)
    simpa only [Bool.and_false] using wp_openaiChunkRound event _ s hg

/-- The generator goes on only after the row is committed. -/
theorem wp_openaiRelay (rounds : ℕ) (s : OpenAIStream) (hg : g.Live false) :
    (openaiRelay p rounds).wp (planProtocol h p) (fun _ _ g => g.Final p) s g := by
  refine Local.wp_tryCatch.mpr (Local.wp_mono
    (Q := localPost p streamRefunds fun _ => PlanFate.Closed p) ?_ fun r s' g' hr => ?_)
  · refine wp_local_bind (wp_local_whileTrue (b := true) rounds (fun s g hg => ?_) hg)
      fun _ s g hg => ?_
    · simpa only [Bool.and_true] using wp_openaiEventRound rounds s hg
    · exact wp_local_bind (wp_lift (wp_commit hg)) fun _ s g hg => Local.wp_pure.mpr hg
  · cases r with
    | ok b => exact .inr (.inl hr)
    | error exc =>
      refine Local.wp_bind.mpr (Local.wp_ofProg.mpr
        (Prog.wp_mono (wp_streamEventsExcept exc hr) fun r g hr => ?_))
      cases r with
      | ok u => exact Local.wp_pure.mpr hr
      | error exc => exact hr

theorem wp_openaiEvents (rounds : ℕ) (hg : g.Live false) :
    (openaiEvents p rounds).wp (planProtocol h p) (fun _ => PlanFate.Final p) g := by
  have hyield : Local.Stays (planProtocol h p) (fun _ => PlanFate.Final p)
      (liftM (HandlerCall.perform (.yieldChunk p)) : OpenAICode Unit) :=
    Local.stays_ofProg fun _ => stays_yieldChunk
  refine Local.wp_run (Local.wp_bind.mpr (Local.wp_mono (wp_openaiRelay rounds {} hg)
    fun r s' g' hr => ?_))
  cases r with
  | error exc => exact hr
  | ok more =>
    cases more with
    | false => exact Local.wp_pure.mpr hr
    | true =>
      refine Local.wp_read_bind.mpr ?_
      cases s'.terminalSeen with
      | true => exact hyield s' g' hr
      | false => exact hyield.bind (fun _ => hyield) s' g' hr

theorem wp_openaiChatCompletions (stream : Bool) (rounds : ℕ) (hg : g.Fresh) :
    (openaiChatCompletions p stream rounds).wp (planProtocol (.openai p stream rounds) p)
      (fun _ => PlanFate.Final p) g := by
  refine Prog.wp_bind.mpr (Prog.wp_tryCatch.mpr (Prog.wp_mono
    (Q := bodyPost p PyExc.isRefunded fun reply g =>
      if reply.streaming then g.Live false else g.Closed p) ?_ fun r g' hr => ?_))
  · refine wp_body_bind (wp_enforce _ hg) fun _ g hg => ?_
    cases stream with
    | true =>
      refine wp_body_bind (wp_idle_live rfl rfl (by intro; rfl) hg) fun _ g hg => ?_
      exact wp_body_bind (wp_idle_live rfl rfl (by intro; rfl) hg) fun _ g hg => by exact hg
    | false =>
      refine wp_body_bind (wp_executeAndCommit (by intro; rfl) hg) fun _ g hg => ?_
      refine wp_body_bind (wp_work_closed _ hg) fun _ g hg => ?_
      exact wp_body_bind (wp_work_closed _ hg) fun _ g hg => by exact hg
  · cases r with
    | ok reply =>
      obtain hstreaming | hstreaming := Bool.eq_false_or_eq_true reply.streaming
      · simp only [bodyPost, hstreaming, if_true] at hr
        exact wp_serve hstreaming (fun g hg => wp_openaiEvents rounds hg) hr
      · simp only [bodyPost, hstreaming, Bool.false_eq_true, if_false] at hr
        exact wp_serve_reply hstreaming (.inr (.inl hr))
    | error exc =>
      refine Prog.wp_mono (wp_openaiExcept exc hr) fun r g hr => ?_
      cases r with
      | error exc => exact hr.1
      | ok reply => exact wp_serve_reply (hr.2 reply rfl) hr.1

/-! ### task_batch -/

/-- A step for another plan, or for none. -/
theorem stays_other {σ : Type} {I : σ → PlanFate → Prop} {op : HandlerCall}
    (hop : op.planId ≠ some p) :
    (liftM op.perform : Local σ HandlerCall HandlerCall.Res PyExc op.Res).Stays
      (planProtocol h p) I :=
  Local.stays_ofProg fun s => stays_of_ne (I s) hop

theorem stays_recordErrorCode {σ : Type} {I : σ → PlanFate → Prop} (task : Work) :
    (liftM (HandlerCall.perform (.work none task)) :
      Local σ HandlerCall HandlerCall.Res PyExc Unit).Stays (planProtocol h p) I :=
  stays_other (by simp [HandlerCall.planId])

theorem stays_batchFailure {I : BatchState → PlanFate → Prop}
    (hI : ∀ s s' g, s'.plan = s.plan → I s g → I s' g) (continueOnError : Bool)
    (result : BatchResult) :
    (batchFailure continueOnError result).Stays (planProtocol h p) I := by
  refine Local.Stays.bind (Local.stays_write fun s g hg => hI s _ g rfl hg) fun _ => ?_
  cases continueOnError with
  | true => exact Local.stays_pure _
  | false => exact Local.stays_pure _

/-- The clauses of the loop, if the refund keeps what they need. -/
theorem wp_batchExcept {I : BatchState → PlanFate → Prop}
    (hI : ∀ s s' g, s'.plan = s.plan → I s g → I s' g) (continueOnError : Bool) (index : ℕ)
    (exc : PyExc) {s : BatchState} (hkept : exc.isRefunded = false → I s g)
    (hrefund : exc.isRefunded = true →
      batchRefund.wp (planProtocol h p) (fun _ s g => I s g) s g) :
    (batchExcept continueOnError index exc).wp (planProtocol h p) (fun _ s g => I s g) s g := by
  have hfailure (result : BatchResult) :
      (batchFailure continueOnError result).Stays (planProtocol h p) I :=
    stays_batchFailure hI continueOnError result
  have hthen {f : Unit → BatchCode (Flow Unit)} (hexc : exc.isRefunded = true)
      (hf : ∀ u, (f u).Stays (planProtocol h p) I) :
      (batchRefund >>= f).wp (planProtocol h p) (fun _ s g => I s g) s g := by
    refine Local.wp_bind.mpr (Local.wp_mono (hrefund hexc) fun r s' g' hr => ?_)
    cases r with
    | ok u => exact hf u s' g' hr
    | error exc => exact hr
  cases exc with
  | governanceError => exact (stays_recordErrorCode _).bind (fun _ => hfailure _) s g (hkept rfl)
  | tenantBudgetError => exact (stays_recordErrorCode _).bind (fun _ => hfailure _) s g (hkept rfl)
  | cancelledError | generatorExit => exact Local.wp_throw.mpr (hkept rfl)
  | valueError => exact hthen rfl fun _ => hfailure _
  | tupleError => exact hthen rfl fun _ => (stays_recordErrorCode _).bind fun _ => hfailure _
  | _ => exact hthen rfl fun _ => Local.stays_throw _

/-- The plan of the round is not the one that is followed. -/
def OtherPlan (p : String) (J : PlanFate → Prop) (s : BatchState) (g : PlanFate) : Prop :=
  s.plan ≠ some p ∧ J g

theorem stays_batchRefund_other (J : PlanFate → Prop) :
    batchRefund.Stays (planProtocol h p) (OtherPlan p J) := by
  intro s g hg
  refine Local.wp_read_bind.mpr ?_
  cases hplan : s.plan with
  | none => exact Local.wp_pure.mpr hg
  | some id =>
    refine stays_other (I := OtherPlan p J) (fun hid => hg.1 ?_) s g hg
    exact hplan.trans hid

theorem stays_work_other (J : PlanFate → Prop) {q : String} (hq : q ≠ p) (task : Work) :
    (work q task).Stays (planProtocol h p) J :=
  stays_of_ne J (by simpa [HandlerCall.planId] using hq)

theorem stays_prepareRequest_other (J : PlanFate → Prop) {q : String} (hq : q ≠ p)
    (needsObjectAccess : Bool) :
    (prepareRequest q needsObjectAccess).Stays (planProtocol h p) J := by
  have hwork (task : Work) : (work q task).Stays (planProtocol h p) J := stays_work_other J hq task
  cases needsObjectAccess with
  | true => exact (hwork _).bind fun _ => (hwork _).bind fun _ => hwork _
  | false => exact (hwork _).bind fun _ => hwork _

theorem stays_executeAndCommit_other (J : PlanFate → Prop) {q : String} (hq : q ≠ p) :
    (executeAndCommit q).Stays (planProtocol h p) J := by
  refine Prog.Stays.bind ?_ fun _ => ?_
  · exact stays_of_ne J (by simpa [HandlerCall.planId] using hq)
  · exact stays_of_ne J (by simpa [HandlerCall.planId] using hq)

/-- An item of another plan. -/
theorem wp_batchRound_other {J : PlanFate → Prop} (continueOnError : Bool) {item : BatchItem}
    (index : ℕ) (s : BatchState) (hp : item.planId ≠ p) (hg : J g) :
    (batchRound continueOnError (item, index)).wp (planProtocol h p) (fun _ _ => J) s g := by
  have hI (s s' : BatchState) (g : PlanFate) (hplan : s'.plan = s.plan) (hg : OtherPlan p J s g) :
      OtherPlan p J s' g := ⟨hplan ▸ hg.1, hg.2⟩
  have hlift {α : Type} {c : HandlerProgram α} (hc : ∀ J, c.Stays (planProtocol h p) J) :
      (liftM c : BatchCode α).Stays (planProtocol h p) (OtherPlan p J) :=
    Local.stays_ofProg fun s => hc _
  unfold batchRound
  split
  · exact stays_batchFailure (I := fun _ => J) (fun _ _ _ _ hg => hg) _ _ s g hg
  refine Local.wp_tryCatch.mpr (Local.wp_mono (Q := fun _ s g => OtherPlan p J s g) ?_
    fun r s' g' hr => ?_)
  · refine Local.wp_write_bind.mpr ?_
    refine Local.Stays.bind (stays_recordErrorCode _) (fun _ => ?_) _ g ⟨by simp, hg⟩
    refine (stays_recordErrorCode _).bind fun _ => (stays_recordErrorCode _).bind fun _ => ?_
    refine (Local.stays_write fun s g hg => ⟨by simpa using hp, hg.2⟩).bind fun _ => ?_
    refine (hlift fun J => stays_of_ne J (by simpa [HandlerCall.planId] using hp)).bind fun _ => ?_
    refine (hlift fun J => stays_prepareRequest_other J hp _).bind fun _ => ?_
    refine (hlift fun J => stays_executeAndCommit_other J hp).bind fun _ => ?_
    refine (hlift fun J => stays_work_other J hp _).bind fun _ => ?_
    exact (Local.stays_write fun s g hg => by exact ⟨hg.1, hg.2⟩).bind fun _ => Local.stays_pure _
  · cases r with
    | ok flow => exact hr.2
    | error exc =>
      refine Local.wp_mono (wp_batchExcept hI continueOnError index exc (fun _ => hr)
        fun _ => stays_batchRefund_other J s' g' hr) fun r s g hr => hr.2

/-- What the clauses of the loop receive in the round of the plan. -/
def BatchRaised (p : String) (refunded : Bool) (s : BatchState) (g : PlanFate) : Prop :=
  s.plan = none ∧ g.status = none ∨ s.plan = some p ∧ g.Raised p refunded

theorem BatchRaised.final {s : BatchState} (hg : BatchRaised p false s g) : g.Final p := by
  obtain ⟨-, hnone⟩ | ⟨-, hraised⟩ := hg
  · exact .inl hnone
  · exact hraised

theorem wp_batchRefund {s : BatchState} (hg : BatchRaised p true s g) :
    batchRefund.wp (planProtocol h p) (fun _ _ g => g.Final p) s g := by
  refine Local.wp_read_bind.mpr ?_
  obtain ⟨hplan, hnone⟩ | ⟨hplan, hraised⟩ := hg
  · rw [hplan]
    exact Local.wp_pure.mpr (.inl hnone)
  · rw [hplan]
    exact Local.wp_ofProg.mpr (wp_refund hraised)

/-- A step of the body of the loop, which keeps the variables. -/
theorem wp_lift_bind (refunds : PyExc → Bool) {c : HandlerProgram α}
    {f : α → Local σ HandlerCall HandlerCall.Res PyExc β}
    {I : α → PlanFate → Prop} {Q : Except PyExc β → σ → PlanFate → Prop} {s : σ}
    (hc : c.wp (planProtocol h p) (bodyPost p refunds I) g)
    (herror : ∀ exc g, g.Raised p (refunds exc) → Q (.error exc) s g)
    (hf : ∀ a g, I a g → (f a).wp (planProtocol h p) Q s g) :
    ((liftM c : Local σ HandlerCall HandlerCall.Res PyExc α) >>= f).wp (planProtocol h p) Q s g := by
  refine Local.wp_bind.mpr (Local.wp_ofProg.mpr (Prog.wp_mono hc fun r g' hr => ?_))
  cases r with
  | ok a => exact hf a g' hr
  | error exc => exact herror exc g' hr

/-- What the body of the round of the plan leaves. -/
def batchPost (p : String) (r : Except PyExc (Flow Unit)) (s : BatchState) (g : PlanFate) : Prop :=
  match r with
  | .ok _ => g.Final p
  | .error exc => BatchRaised p exc.isRefunded s g

theorem wp_batchBody {items : List BatchItem} {continueOnError : Bool} (item : BatchItem)
    (index : ℕ) (s : BatchState) (hg : g.Fresh) :
    (batchBody item index).wp (planProtocol (.batch items continueOnError) item.planId)
      (batchPost item.planId) s g := by
  -- until the plan is compiled there is nothing to refund
  have hcompile {task : Work} {s : BatchState} {g : PlanFate}
      {f : Unit → BatchCode (Flow Unit)} (hplan : s.plan = none) (hg : g.Fresh)
      (hf : ∀ u, (f u).wp (planProtocol (.batch items continueOnError) item.planId)
        (batchPost item.planId) s g) :
      (HandlerCall.perform (.work none task) >>= f : BatchCode (Flow Unit)).wp
        (planProtocol (.batch items continueOnError) item.planId) (batchPost item.planId) s g := by
    refine Local.wp_bind.mpr (Local.wp_mono (stays_recordErrorCode (I := fun s' g' => s' = s ∧ g' = g)
      task s g ⟨rfl, rfl⟩) fun r s' g' hr => ?_)
    obtain ⟨rfl, rfl⟩ := hr
    cases r with
    | ok u => exact hf u
    | error exc => exact .inl ⟨hplan, hg.status⟩
  refine Local.wp_write_bind.mpr (hcompile rfl hg fun _ => hcompile rfl hg fun _ =>
    hcompile rfl hg fun _ => Local.wp_write_bind.mpr ?_)
  have herror {s : BatchState} (hplan : s.plan = some item.planId) (exc : PyExc) (g : PlanFate)
      (hr : g.Raised item.planId exc.isRefunded) : batchPost item.planId (.error exc) s g :=
    .inr ⟨hplan, hr⟩
  refine wp_lift_bind PyExc.isRefunded (wp_enforce _ hg) (herror rfl) fun _ g hg => ?_
  refine wp_lift_bind PyExc.isRefunded (wp_prepareRequest _ (by intros; rfl) hg) (herror rfl)
    fun _ g hg => ?_
  refine wp_lift_bind PyExc.isRefunded (wp_executeAndCommit (by intro; rfl) hg) (herror rfl)
    fun _ g hg => ?_
  refine wp_lift_bind PyExc.isRefunded (wp_work_closed _ hg) (herror rfl) fun _ g hg => ?_
  exact Local.wp_write_bind.mpr (Local.wp_pure.mpr (.inr (.inl hg)))

theorem wp_batchRound {items : List BatchItem} {continueOnError : Bool} (item : BatchItem)
    (index : ℕ) (s : BatchState) (hg : g.Fresh) :
    (batchRound continueOnError (item, index)).wp
      (planProtocol (.batch items continueOnError) item.planId)
      (fun _ _ g => g.Final item.planId) s g := by
  unfold batchRound
  split
  · exact stays_batchFailure (I := fun _ g => g.Final item.planId) (fun _ _ _ _ hg => hg) _ _ s g
      (.inl hg.status)
  refine Local.wp_tryCatch.mpr (Local.wp_mono (wp_batchBody item index s hg) fun r s' g' hr => ?_)
  cases r with
  | ok flow => exact hr
  | error exc =>
    replace hr : BatchRaised item.planId exc.isRefunded s' g' := hr
    refine wp_batchExcept (I := fun _ g => g.Final item.planId) (fun _ _ _ _ hg => hg) _ _ exc
      (fun hexc => ?_) fun hexc => ?_
    · exact BatchRaised.final (hexc ▸ hr)
    · exact wp_batchRefund (hexc ▸ hr)

/-- The loop over the items that are left. -/
theorem wp_batchLoop {items : List BatchItem} {continueOnError : Bool}
    (rest : List (BatchItem × ℕ)) (s : BatchState) (hnodup : (rest.map (·.1.planId)).Nodup)
    (hg : g.Fresh ∨ g.Final p ∧ p ∉ rest.map (·.1.planId)) :
    (forEach (batchRound continueOnError) rest).wp (planProtocol (.batch items continueOnError) p)
      (fun _ _ g => g.Final p) s g := by
  induction rest generalizing s g with
  | nil =>
    obtain hfresh | ⟨hfinal, -⟩ := hg
    · exact Local.wp_pure.mpr (.inl hfresh.status)
    · exact Local.wp_pure.mpr hfinal
  | cons entry rest ih =>
    obtain ⟨item, index⟩ := entry
    simp only [List.map_cons, List.nodup_cons] at hnodup
    have hloop {J : PlanFate → Prop} (hJ : ∀ g, J g → g.Fresh ∨ g.Final p ∧ p ∉ rest.map (·.1.planId))
        (hround : (batchRound continueOnError (item, index)).wp
          (planProtocol (.batch items continueOnError) p) (fun _ _ g => J g) s g) :
        (forEach (batchRound continueOnError) ((item, index) :: rest)).wp
          (planProtocol (.batch items continueOnError) p) (fun _ _ g => g.Final p) s g := by
      refine Local.wp_bind.mpr (Local.wp_mono hround fun r s' g' hr => ?_)
      have hfinal : g'.Final p := (hJ g' hr).elim (fun hfresh => .inl hfresh.status) fun h => h.1
      match r with
      | .ok .next => exact ih s' hnodup.2 (hJ g' hr)
      | .ok .stop => exact Local.wp_pure.mpr hfinal
      | .ok (.ret value) => exact Local.wp_pure.mpr hfinal
      | .error exc => exact hfinal
    by_cases hp : item.planId = p
    · subst hp
      obtain hfresh | ⟨-, hnot⟩ := hg
      · exact hloop (fun g hg => .inr ⟨hg, hnodup.1⟩) (wp_batchRound item index s hfresh)
      · exact absurd (by simp) hnot
    · refine hloop (fun g hg => hg) (wp_batchRound_other continueOnError index s hp ?_)
      refine hg.imp_right fun h => ⟨h.1, fun hmem => h.2 ?_⟩
      simp only [List.map_cons, List.mem_cons]
      exact .inr hmem

theorem wp_taskBatch (items : List BatchItem) (continueOnError : Bool)
    (hnodup : (items.map (·.planId)).Nodup) (hg : g.Fresh) :
    (taskBatch items continueOnError).wp (planProtocol (.batch items continueOnError) p)
      (fun _ => PlanFate.Final p) g := by
  have hids : items.zipIdx.map (·.1.planId) = items.map (·.planId) := by
    rw [show (fun entry : BatchItem × ℕ => entry.1.planId) = (·.planId) ∘ Prod.fst from rfl,
      ← List.map_map, List.zipIdx_map_fst]
  refine Local.wp_run (Local.wp_bind.mpr (Local.wp_mono
    (wp_batchLoop items.zipIdx {} (hids ▸ hnodup) (.inl hg)) fun r s' g' hr => ?_))
  cases r with
  | ok u => exact Local.wp_read_bind.mpr (Local.wp_pure.mpr hr)
  | error exc => exact hr

theorem wp_handler {h : HandlerRequest} (hnodup : h.planIds.Nodup) (hp : p ∈ h.planIds)
    (hg : g.Fresh) : h.program.wp (planProtocol h p) (fun _ => PlanFate.Final p) g := by
  cases h with
  | sync planId needsObjectAccess hasKey =>
    obtain rfl : p = planId := by simpa [HandlerRequest.planIds] using hp
    exact wp_taskSync needsObjectAccess hasKey hg
  | stream planId needsObjectAccess rounds =>
    obtain rfl : p = planId := by simpa [HandlerRequest.planIds] using hp
    exact wp_taskStream needsObjectAccess rounds hg
  | openai planId stream rounds =>
    obtain rfl : p = planId := by simpa [HandlerRequest.planIds] using hp
    exact wp_openaiChatCompletions stream rounds hg
  | batch items continueOnError => exact wp_taskBatch items continueOnError hnodup hg

end

/-! ## The ledger after a run -/

section

variable {h : HandlerRequest} {p : String} (steps : List HandlerEvent) (g : PlanFate)

theorem Produces.planId {e : HandlerEvent} (hproduces : Produces p e = true) :
    e.op.planId = some p := by
  obtain ⟨op, r⟩ := e
  unfold Produces at hproduces
  split at hproduces <;> simp_all [HandlerCall.planId]

theorem PlanFate.produced_foldl :
    (steps.foldl (PlanFate.after h p) g).produced = (g.produced || steps.any (Produces p)) := by
  induction steps generalizing g with
  | nil => simp
  | cons e steps ih =>
    rw [List.foldl_cons, ih, List.any_cons]
    unfold PlanFate.after
    split
    · simp [Bool.or_assoc, Bool.or_left_comm]
    · rename_i hp
      have hproduces : Produces p e = false := by
        by_contra hproduces
        exact hp (Produces.planId (by simpa using hproduces))
      simp [hproduces]

theorem ledgerFault_of_settles {e : HandlerEvent} (hsettles : SettlesRow e = true) :
    h.ledgerFault e = false := by
  obtain ⟨op, r⟩ := e
  cases r with
  | ok a => rfl
  | error exc => cases op <;> cases hsettles

theorem PlanFate.faulty_foldl :
    (steps.foldl (PlanFate.after h p) g).faulty =
      (g.faulty || (!g.settled && (untilSettled p steps).any h.ledgerFault)) := by
  induction steps generalizing g with
  | nil => simp [untilSettled]
  | cons e steps ih =>
    rw [List.foldl_cons, ih]
    unfold PlanFate.after untilSettled
    by_cases hp : e.op.planId = some p
    · rw [if_pos hp, List.filter_cons_of_pos (by simpa using hp), List.takeWhile_cons]
      cases hsettles : SettlesRow e with
      | true => simp [ledgerFault_of_settles hsettles]
      | false => cases g.settled <;> simp [Bool.or_assoc, Bool.or_comm]
    · rw [if_neg hp, List.filter_cons_of_neg (by simpa using hp)]

theorem PlanFate.status_isSome_foldl (hstatus : g.status.isSome = true ∨
      ⟨.enforceRequestBudget p, .ok ()⟩ ∈ steps) :
    (steps.foldl (PlanFate.after h p) g).status.isSome = true := by
  induction steps generalizing g with
  | nil => simpa using hstatus
  | cons e steps ih =>
    rw [List.foldl_cons]
    refine ih _ ?_
    obtain hsome | hmem := hstatus
    · refine .inl ?_
      unfold PlanFate.after
      split
      · dsimp only
        split <;> simp [hsome]
      · exact hsome
    · obtain rfl | hmem := List.mem_cons.mp hmem
      · exact .inl (by simp [PlanFate.after, HandlerCall.planId])
      · exact .inr hmem

end

/-- **Settlement of a request.** When a handler and its generator have ended, the row of a plan that
they reserved is committed if the dispatcher produced the complete result and released otherwise, if
and only if the plan has an id and no step before the row was settled has failed without a clause that
refunds. -/
theorem requestBudgetSettled_iff (h : HandlerRequest) (p : String) (t t' : UsageTable)
    (steps : List HandlerEvent) (r : Except PyExc Reply) (hnodup : h.planIds.Nodup)
    (hp : p ∈ h.planIds) (hnew : planStatuses t p = [])
    (hrun : h.program.Exec handlerStep t steps r t')
    (hreserved : ⟨.enforceRequestBudget p, .ok ()⟩ ∈ steps) :
    planStatuses t' p = [if steps.any (Produces p) then .committed else .released] ↔
      p ≠ "" ∧ ∀ e ∈ untilSettled p steps, h.ledgerFault e = false := by
  have hstart : FollowsPlan p t {} := hnew
  obtain ⟨hfinal, hfollows⟩ := hrun.wp FollowsPlan.step hstart
    (wp_handler hnodup hp ⟨rfl, rfl, rfl, rfl⟩)
  replace hfollows : planStatuses t' p = (steps.foldl (PlanFate.after h p) {}).status.toList :=
    hfollows
  have hsome := PlanFate.status_isSome_foldl (h := h) (p := p) steps {} (.inr hreserved)
  have hproduced := PlanFate.produced_foldl (h := h) (p := p) steps {}
  have hfaulty := PlanFate.faulty_foldl (h := h) (p := p) steps {}
  have hexact : PlanFate.Exact p (steps.foldl (PlanFate.after h p) {}) := by
    rcases hfinal with hnone | hclosed | hlost
    · rw [show (steps.foldl (PlanFate.after h p) {}).status = none from hnone] at hsome
      cases hsome
    · exact hclosed.exact
    · exact hlost.exact
  unfold PlanFate.Exact at hexact
  simp only [hproduced, hfaulty, Bool.false_or, Bool.not_false, Bool.true_and, List.any_eq_false,
    Bool.not_eq_true] at hexact
  rw [← hexact, hfollows]
  cases (steps.foldl (PlanFate.after h p) {}).status <;> simp

/-! ### One request -/

/-- The answers of a ledger and of services that succeed; `b` says whether the dispatcher is cancelled
instead. -/
def handlerAnswer (b : Bool) : (op : HandlerCall) → UsageTable →
    Option (Except PyExc op.Res × UsageTable)
  | .enforceRequestBudget planId, t =>
    some (.ok (), t ++ [{ tenantId := "tenant-1", estimatedCostUsd := 1, planId := some planId
                          recordedAt := midnight }])
  | .commitRequestBudget planId, t => some (.ok (), commitPlan (some planId) t)
  | .refundRequestBudget planId, t => some (.ok (), releasePlan (some planId) t)
  | .executeSync _, t => some (if b then .error .cancelledError else .ok (), t)
  | .nextEvent _, t => some (.ok none, t)
  | .nextChunk .., t => some (.ok none, t)
  | .work _ _, t | .startStream _, t | .yieldChunk _, t => some (.ok (), t)
  | .stillRunning, _ => none

theorem handlerStep_handlerAnswer {b : Bool} {op : HandlerCall} {t t' : UsageTable}
    {r : Except PyExc op.Res} (h : handlerAnswer b op t = some (r, t')) :
    handlerStep t ⟨op, r⟩ t' := by
  cases op with
  | enforceRequestBudget planId =>
    cases h
    exact ⟨_, rfl, rfl, rfl⟩
  | executeSync planId =>
    cases h
    cases b <;> rfl
  | stillRunning => cases h
  | work planId task =>
    cases h
    cases task <;> rfl
  | _ =>
    cases h
    rfl

/-- A request that is served has its budget committed. -/
theorem requestBudgetSettled_iff_served :
    ∃ steps r t', (taskSync "plan-1" true true).Exec handlerStep [] steps r t' ∧
      planStatuses t' "plan-1" = [.committed] := by
  let h : HandlerRequest := .sync "plan-1" true true
  have hrun : h.program.Exec handlerStep [] _ _ _ :=
    Prog.Exec.of_answer (fun hw => handlerStep_handlerAnswer (b := false) hw) rfl
  refine ⟨_, _, _, hrun, ?_⟩
  refine (requestBudgetSettled_iff h "plan-1" [] _ _ _ (by simp [h, HandlerRequest.planIds])
    (by simp [h, HandlerRequest.planIds]) rfl hrun (.head _)).mpr ⟨by decide, ?_⟩
  decide

/-- A client that leaves while its request is executed leaves the reservation behind. -/
theorem not_requestBudgetAlwaysSettled :
    ¬ ∀ (h : HandlerRequest) (p : String) (t t' : UsageTable) (steps : List HandlerEvent)
      (r : Except PyExc Reply), h.planIds.Nodup → p ∈ h.planIds → planStatuses t p = [] →
      h.program.Exec handlerStep t steps r t' → ⟨.enforceRequestBudget p, .ok ()⟩ ∈ steps →
      planStatuses t' p = [if steps.any (Produces p) then .committed else .released] := by
  intro hsettled
  let h : HandlerRequest := .sync "plan-1" true true
  have hrun : h.program.Exec handlerStep [] _ _ _ :=
    Prog.Exec.of_answer (fun hw => handlerStep_handlerAnswer (b := true) hw) rfl
  have hstatus := hsettled h "plan-1" [] _ _ _ (by simp [h, HandlerRequest.planIds])
    (by simp [h, HandlerRequest.planIds]) rfl hrun (.head _)
  exact absurd hstatus (by decide)

end Gpucall
