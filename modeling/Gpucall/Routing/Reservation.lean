import Gpucall.Routing.FailClosed

/-! What is reserved for a plan. `enforce_request_budget` reserves the estimate that `compile` wrote
for the head of the chain. The chain is sorted by the fit key, whose last component is that estimate:
the head is the cheapest among the tuples that fit as well, and a tuple further down may cost more. -/

namespace Gpucall

namespace GovernanceCompiler

variable {env : Environment} {c : GovernanceCompiler} {instant : Instant} {request : TaskRequest}
  {recipe : Recipe} {chain : List String} {name head : String} {tuple : ExecutionTupleSpec}

/-- The amount `enforce_request_budget` reserves for a plan. -/
def reservedUsd (plan : CompiledPlan) : ℚ≥0 := budgetReservationUsd plan.attestations.costEstimate

/-- The amount the compiler estimates for a tuple, as a name of the catalog. -/
def reservationOf (env : Environment) (c : GovernanceCompiler) (instant : Instant)
    (request : TaskRequest) (recipe : Recipe) (name : String) : ℚ≥0 :=
  budgetReservationUsd ((c.tuples.get? name).map fun tuple =>
    c.costEstimate env instant tuple request recipe)

/-- The reservation covers every tuple of the chain. -/
def ReservationCoversChain : Prop :=
  ∀ (env : Environment) (c : GovernanceCompiler) (instant : Instant) (planId : String)
    (request : TaskRequest) (plan : CompiledPlan) (recipe : Recipe),
    c.recipeFor env instant request = .ok recipe →
    c.compile env instant planId request = .ok plan →
    ∀ name ∈ plan.tupleChain,
      reservationOf env c instant (requestWithRecipeDefaults request recipe) recipe name ≤
        reservedUsd plan

/-- The components of the fit key that come before the cost: local preference, quality penalty,
reliability tier, VRAM and slack. -/
def FitKey.leading (key : FitKey) : ℕ × ℕ × ℕ × ℕ × ℤ :=
  let k₁ := ofLex key
  let k₂ := ofLex k₁.2
  let k₃ := ofLex k₂.2
  let k₄ := ofLex k₃.2
  let k₅ := ofLex k₄.2
  (k₁.1, k₂.1, k₃.1, k₄.1, k₅.1)

/-- The cost component of the fit key. -/
def FitKey.reservation (key : FitKey) : ℚ≥0 :=
  (ofLex (ofLex (ofLex (ofLex (ofLex key).2).2).2).2).2

theorem lex_snd_le {α β : Type} [LinearOrder α] [LinearOrder β] {x y : α ×ₗ β} (h : x ≤ y)
    (he : (ofLex x).1 = (ofLex y).1) : (ofLex x).2 ≤ (ofLex y).2 := by
  rcases Prod.Lex.le_iff.mp h with hlt | ⟨-, hle⟩
  · exact absurd he hlt.ne
  · exact hle

theorem FitKey.reservation_le {k k' : FitKey} (h : k ≤ k') (hlead : k.leading = k'.leading) :
    k.reservation ≤ k'.reservation := by
  simp only [leading, Prod.mk.injEq] at hlead
  obtain ⟨e₁, e₂, e₃, e₄, e₅⟩ := hlead
  exact lex_snd_le (lex_snd_le (lex_snd_le (lex_snd_le (lex_snd_le h e₁) e₂) e₃) e₄) e₅

/-- The cost component is the estimate. -/
theorem reservation_tupleFitKey (htuple : c.tuples.get? name = some tuple) :
    FitKey.reservation (c.tupleFitKey env instant request recipe name) =
      reservationOf env c instant request recipe name := by
  simp only [tupleFitKey, reservationOf, htuple]
  rfl

theorem rankByFitThenObservations_sorted (tuples : List String) :
    (c.rankByFitThenObservations env instant tuples request recipe).Pairwise fun a b =>
      c.tupleFitKey env instant request recipe a ≤ c.tupleFitKey env instant request recipe b := by
  refine GroupSort.groupwise_sorted (c.registry.rank_perm instant.time) ?_
  refine (GroupSort.insertionSort_key_sorted
    (fun name => toLex (c.tupleFitKey env instant request recipe name, name)) tuples).imp ?_
  intro a b hab
  rcases Prod.Lex.le_iff.mp hab with hlt | ⟨heq, -⟩
  · exact hlt.le
  · exact heq.le

/-- A requested tuple is a chain of its own. -/
theorem tupleChain_requested (hrequested : truthyStr request.requestedTuple = true)
    (h : c.tupleChain env instant request recipe = .ok chain) :
    ∃ name tuple, chain = [name] ∧ c.tuples.get? name = some tuple := by
  unfold tupleChain at h
  split at h
  · next hr => simp [hr, truthyStr] at hrequested
  · next hr => simp [hr, truthyStr] at hrequested
  next name _ _ =>
  split at h
  · contradiction
  next heligible =>
  split at h
  · contradiction
  obtain ⟨-, -, tuple, htuple, -⟩ := eligibleTuplesFrom_mem (not_not.mp heligible)
  exact ⟨name, tuple, (Except.ok.inj h).symm, htuple⟩

/-- The chain is sorted by the fit key. -/
theorem tupleChain_sorted (h : c.tupleChain env instant request recipe = .ok chain) :
    chain.Pairwise fun a b => c.tupleFitKey env instant request recipe a ≤
      c.tupleFitKey env instant request recipe b := by
  cases hrequested : truthyStr request.requestedTuple with
  | false =>
    obtain ⟨-, rfl⟩ := (tupleChain_eq_ok hrequested).mp h
    exact rankByFitThenObservations_sorted _
  | true =>
    obtain ⟨name, -, rfl, -⟩ := tupleChain_requested hrequested h
    exact List.pairwise_singleton ..

theorem mem_tupleChain_catalog (h : c.tupleChain env instant request recipe = .ok chain)
    (hname : name ∈ chain) : ∃ tuple, c.tuples.get? name = some tuple := by
  cases hrequested : truthyStr request.requestedTuple with
  | false =>
    obtain ⟨-, -, hall⟩ := tupleChain_spec hrequested h
    obtain ⟨-, tuple, htuple, -⟩ := hall name hname
    exact ⟨tuple, htuple⟩
  | true =>
    obtain ⟨name', tuple, rfl, htuple⟩ := tupleChain_requested hrequested h
    exact ⟨tuple, List.mem_singleton.mp hname ▸ htuple⟩

/-- **The reservation is the head's.** The amount reserved for a plan is the estimate of the head of
its chain. So it covers exactly the tuples that are estimated no higher; every tuple with the head's
fit key is among them, and no tuple that ties with the head before the cost is estimated lower. -/
theorem reservation_of_head (env : Environment) (c : GovernanceCompiler) (instant : Instant)
    (planId : String) (request : TaskRequest) (plan : CompiledPlan) (recipe : Recipe)
    (hrecipe : c.recipeFor env instant request = .ok recipe)
    (h : c.compile env instant planId request = .ok plan) :
    ∃ head, plan.tupleChain.head? = some head ∧
      reservedUsd plan =
        reservationOf env c instant (requestWithRecipeDefaults request recipe) recipe head ∧
      ∀ name ∈ plan.tupleChain,
        (c.tupleFitKey env instant (requestWithRecipeDefaults request recipe) recipe name =
            c.tupleFitKey env instant (requestWithRecipeDefaults request recipe) recipe head →
          reservationOf env c instant (requestWithRecipeDefaults request recipe) recipe name =
            reservedUsd plan) ∧
        (FitKey.leading
            (c.tupleFitKey env instant (requestWithRecipeDefaults request recipe) recipe head) =
          FitKey.leading
            (c.tupleFitKey env instant (requestWithRecipeDefaults request recipe) recipe name) →
          reservedUsd plan ≤
            reservationOf env c instant (requestWithRecipeDefaults request recipe) recipe name) := by
  obtain ⟨recipe', hrecipe', h⟩ := compile_cases h
  obtain rfl : recipe = recipe' := Except.ok.inj (hrecipe.symm.trans hrecipe')
  obtain ⟨chain, headSpec, requirement, budget, hstages⟩ := compileWith_stages h
  obtain rfl := hstages.plan_eq
  have hchain := hstages.chain_ok
  obtain ⟨head, hhd, hspec⟩ := Option.bind_eq_some_iff.mp hstages.head
  have hreserved : reservedUsd (c.planOf env planId (requestWithRecipeDefaults request recipe) recipe
      chain budget (c.attestationsFor env instant (requestWithRecipeDefaults request recipe) recipe
        headSpec requirement)) =
      reservationOf env c instant (requestWithRecipeDefaults request recipe) recipe head := by
    rw [reservationOf, hspec]
    rfl
  refine ⟨head, hhd, hreserved, fun name hname => ?_⟩
  obtain ⟨tuple, htuple⟩ := mem_tupleChain_catalog hchain hname
  rw [hreserved, ← reservation_tupleFitKey htuple, ← reservation_tupleFitKey hspec]
  refine ⟨fun hkey => by rw [hkey], fun hlead => ?_⟩
  -- the head comes first in a sorted chain
  have hle : c.tupleFitKey env instant (requestWithRecipeDefaults request recipe) recipe head ≤
      c.tupleFitKey env instant (requestWithRecipeDefaults request recipe) recipe name := by
    obtain ⟨rest, hcons⟩ := List.head?_eq_some_iff.mp hhd
    have hsorted := tupleChain_sorted hchain
    rw [hcons] at hsorted
    change name ∈ chain at hname
    rw [hcons] at hname
    rcases List.mem_cons.mp hname with rfl | hmem
    · exact le_rfl
    · exact (List.pairwise_cons.mp hsorted).1 name hmem
  exact FitKey.reservation_le hle hlead

/-- The small GPU is tried first and costs less than the one behind it. -/
theorem not_reservationCoversChain : ¬ ReservationCoversChain := by
  intro h
  obtain ⟨plan, hplan, hobserved⟩ := exists_ok_of_map (show
    ((twoModalTuples.compile modalEnvironment noon "plan-1" promptRequest).toOption.map
      fun plan => (plan.tupleChain, reservedUsd plan)) =
        some (["modal-a10g", "modal-h100"], 3 / 50) by decide +kernel)
  obtain ⟨recipe, hrecipe, hcost⟩ := exists_ok_of_map (show
    ((twoModalTuples.recipeFor modalEnvironment noon promptRequest).toOption.map fun recipe =>
      reservationOf modalEnvironment twoModalTuples noon
        (requestWithRecipeDefaults promptRequest recipe) recipe "modal-h100") =
        some (3 / 5) by decide +kernel)
  obtain ⟨hchain, hreserved⟩ := Prod.mk.inj hobserved
  have hcovers := h _ _ _ _ _ _ _ hrecipe hplan "modal-h100" (by rw [hchain]; simp)
  rw [hcost, hreserved] at hcovers
  exact absurd hcovers (by decide +kernel)

/-- The amount reserved for the plan of the two tuples is the small GPU's. -/
theorem reservation_of_head_twoModalTuples :
    ∃ plan recipe, twoModalTuples.compile modalEnvironment noon "plan-1" promptRequest = .ok plan ∧
      reservedUsd plan = reservationOf modalEnvironment twoModalTuples noon
        (requestWithRecipeDefaults promptRequest recipe) recipe "modal-a10g" := by
  obtain ⟨plan, hplan, hchain⟩ := exists_ok_of_map (show
    ((twoModalTuples.compile modalEnvironment noon "plan-1" promptRequest).toOption.map
      (·.tupleChain)) = some ["modal-a10g", "modal-h100"] by decide +kernel)
  obtain ⟨recipe, hrecipe, -⟩ := compile_cases hplan
  obtain ⟨head, hhead, hreserved, -⟩ := reservation_of_head _ _ _ _ _ _ _ hrecipe hplan
  rw [hchain] at hhead
  obtain rfl := Option.some.inj hhead
  exact ⟨plan, recipe, hplan, hreserved⟩

end GovernanceCompiler

end Gpucall
