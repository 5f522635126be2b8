import Mathlib.Algebra.Order.Ring.Rat
import Mathlib.Data.Finset.Card
import Mathlib.Data.List.Induction
import Mathlib.Data.PNat.Basic
import Mathlib.Tactic.Linarith
import Gpucall.Routing.Environment

/-! The request rate limit of the gateway: `basic_rate_limit` and `prune_rate_limit`. The middleware runs
without a suspension up to the next handler, so a request is one step. The window of an identity may be
dropped when the table has grown beyond its bound; `Inv.kept` says when it has not been. -/

namespace Gpucall

/-- What the middleware reads of a request and of the tenant of its token. -/
structure RateRequest where
  path : String
  tenantId : Option String
  apiKey : Option String
  token : String
  host : String
  tenantRpm : Option ℕ+
  now : ℚ

structure RateSettings where
  requestsPerMinute : ℕ
  identityMax : ℕ

structure RateLimiter where
  rateLimit : Dict (List ℚ) := {}
  pruneNext : ℚ := 0

namespace RateRequest

variable (request : RateRequest)

def exempt : Bool := request.path ∈ ["/healthz", "/readyz"]

/-- `tenant_id or api_key or token or client_host` -/
def identity : String :=
  if truthyStr request.tenantId then request.tenantId.getD ""
  else if truthyStr request.apiKey then request.apiKey.getD ""
  else if request.token ≠ "" then request.token
  else request.host

def effectiveRpm (settings : RateSettings) : ℕ :=
  (request.tenantRpm.map fun n => (n : ℕ)).getD settings.requestsPerMinute

end RateRequest

/-- `max(stamps or [0.0])` -/
def lastStamp (stamps : List ℚ) : ℚ := stamps.max?.getD 0

def live (now stamp : ℚ) : Bool := now - stamp < 60

/-- `rate_limit.pop(identity, None)` for each identity -/
def popAll (rateLimit : Dict (List ℚ)) (identities : List String) : Dict (List ℚ) :=
  identities.foldl Dict.pop rateLimit

/-- The identities that are pruned for their number, the least recent ones -/
def surplus (rateLimit : Dict (List ℚ)) (maxIdentities : ℕ) : List String :=
  ((rateLimit.entries.insertionSort fun a b => lastStamp a.2 ≤ lastStamp b.2).take
    (rateLimit.entries.length - maxIdentities)).map Prod.fst

/-- The identities that are pruned for their age -/
def stale (rateLimit : Dict (List ℚ)) (now : ℚ) : List String :=
  (rateLimit.entries.filter fun entry => !entry.2.any (live now)).map Prod.fst

/-- `prune_rate_limit` -/
def pruneRateLimit (rateLimit : Dict (List ℚ)) (now : ℚ) (maxIdentities : ℕ) : Dict (List ℚ) :=
  let fresh := popAll rateLimit (stale rateLimit now)
  if fresh.entries.length ≤ maxIdentities then fresh
  else popAll fresh (surplus fresh maxIdentities)

namespace RateLimiter

variable (s : RateLimiter)

/-- `rate_limit.get(identity, [])` -/
def stamps (identity : String) : List ℚ := (s.rateLimit.get? identity).getD []

/-- `basic_rate_limit`: whether the request passes. -/
def basicRateLimit (settings : RateSettings) (request : RateRequest) : Bool × RateLimiter :=
  if request.exempt then (true, s)
  else
    let window := (s.stamps request.identity).filter (live request.now)
    if request.effectiveRpm settings ≤ window.length then (false, s)
    else
      let rateLimit := s.rateLimit.set request.identity (window ++ [request.now])
      if settings.identityMax < rateLimit.entries.length || s.pruneNext ≤ request.now then
        (true, { rateLimit := pruneRateLimit rateLimit request.now settings.identityMax
                 pruneNext := request.now + 10 })
      else (true, { s with rateLimit })

end RateLimiter

/-! ## Runs -/

/-- The limiter, and the identity and the time of every request that was counted and has passed. -/
structure RateRun where
  limiter : RateLimiter := {}
  passed : List (String × ℚ) := []

def rateStep (settings : RateSettings) (s : RateRun) (request : RateRequest) : RateRun where
  limiter := (s.limiter.basicRateLimit settings request).2
  passed :=
    if !request.exempt && (s.limiter.basicRateLimit settings request).1 then
      s.passed ++ [(request.identity, request.now)]
    else s.passed

def rateRun (settings : RateSettings) (requests : List RateRequest) : RateRun :=
  requests.foldl (rateStep settings) {}

/-- The passes of an identity in a log, by their times. -/
def passes (identity : String) (log : List (String × ℚ)) : List ℚ :=
  (log.filter (·.1 = identity)).map Prod.snd

/-- The half-open minute from `t` on. -/
def inMinute (t stamp : ℚ) : Bool := t ≤ stamp && stamp < t + 60

/-- The minute up to `now` -/
def inMinuteBefore (now stamp : ℚ) : Bool := now - 60 < stamp && stamp ≤ now

/-- The identities that pass in the minute from `t` on. -/
def activeIdentities (t : ℚ) (log : List (String × ℚ)) : Finset String :=
  ((log.filter fun p => inMinute t p.2).map Prod.fst).toFinset

/-- What the table holds of the passes. -/
structure RateInv (maxIdentities : ℕ) (s : RateRun) (now : ℚ) : Prop where
  recorded : ∀ identity, (s.limiter.stamps identity).Sublist (passes identity s.passed)
  past : ∀ p ∈ s.passed, p.2 ≤ now
  /-- In a minute in which the table was large enough, all passes are there. -/
  kept : ∀ t, now < t + 60 → (activeIdentities t s.passed).card ≤ maxIdentities → ∀ identity,
    (passes identity s.passed).filter (t ≤ ·) = (s.limiter.stamps identity).filter (t ≤ ·)

/-! ## Stamps -/

theorem le_lastStamp {stamps : List ℚ} {stamp : ℚ} (h : stamp ∈ stamps) :
    stamp ≤ lastStamp stamps := by
  cases hmax : stamps.max? with
  | none => rw [List.max?_eq_none_iff.mp hmax] at h; cases h
  | some last =>
    rw [lastStamp, hmax]
    exact (List.max?_eq_some_iff.mp hmax).2 stamp h

theorem lastStamp_mem {stamps : List ℚ} (h : stamps ≠ []) : lastStamp stamps ∈ stamps := by
  cases hmax : stamps.max? with
  | none => exact absurd (List.max?_eq_none_iff.mp hmax) h
  | some last =>
    rw [lastStamp, hmax]
    exact (List.max?_eq_some_iff.mp hmax).1

/-- The window forgets nothing of a minute that is not over. -/
theorem filter_window {now t : ℚ} (h : now < t + 60) (stamps : List ℚ) :
    (stamps.filter (live now)).filter (t ≤ ·) = stamps.filter (t ≤ ·) := by
  rw [List.filter_filter]
  refine List.filter_congr fun stamp _ => ?_
  by_cases ht : t ≤ stamp
  · have hlive : now - stamp < 60 := by linarith
    simp [live, ht, hlive]
  · simp [ht]

/-! ## Pruning -/

section

variable {d : Dict (List ℚ)} {identity : String} {stamps : List ℚ}

theorem popAll_entries (d : Dict (List ℚ)) (identities : List String) :
    (popAll d identities).entries = d.entries.filter fun entry => entry.1 ∉ identities := by
  induction identities generalizing d with
  | nil => simp [popAll]
  | cons name identities ih =>
    rw [popAll, List.foldl_cons, ← popAll, ih, Dict.pop, List.filter_filter]
    refine List.filter_congr fun entry _ => ?_
    simp only [List.mem_cons, not_or, ne_eq]
    by_cases h : entry.1 = name <;> simp [h]

theorem get?_popAll {identities : List String} :
    (popAll d identities).get? identity = some stamps ↔
      d.get? identity = some stamps ∧ identity ∉ identities := by
  rw [Dict.get?_eq_some, Dict.get?_eq_some, popAll_entries, List.mem_filter, decide_eq_true_iff]

theorem not_mem_stale {now : ℚ} (hget : d.get? identity = some stamps) :
    identity ∉ stale d now ↔ ∃ stamp ∈ stamps, live now stamp := by
  rw [stale, List.mem_map, not_exists]
  constructor
  · intro h
    by_contra hnone
    refine h (identity, stamps) ⟨List.mem_filter.mpr ⟨Dict.get?_eq_some.mp hget, ?_⟩, rfl⟩
    simpa using hnone
  · rintro ⟨stamp, hmem, hnow⟩ entry ⟨hentry, rfl⟩
    obtain ⟨hentry, hold⟩ := List.mem_filter.mp hentry
    rw [Dict.get?_eq_some.mpr hentry, Option.some.injEq] at hget
    subst hget
    rw [Bool.not_eq_true', List.any_eq_false] at hold
    exact hold stamp hmem hnow

/-- An identity that is pruned for the number has as many others behind it as are kept. -/
theorem surplus_spec {maxIdentities : ℕ} (hlarge : maxIdentities < d.entries.length)
    (hget : d.get? identity = some stamps) (hmem : identity ∈ surplus d maxIdentities) :
    ∃ others : List (String × List ℚ), others.length = maxIdentities ∧
      (identity :: others.map Prod.fst).Nodup ∧
      ∀ other ∈ others, other ∈ d.entries ∧ lastStamp stamps ≤ lastStamp other.2 := by
  let sorted := d.entries.insertionSort fun a b => lastStamp a.2 ≤ lastStamp b.2
  have hperm : sorted.Perm d.entries := List.perm_insertionSort ..
  have hsorted : sorted.Pairwise fun a b => lastStamp a.2 ≤ lastStamp b.2 :=
    List.pairwise_insertionSort (r := fun a b : String × List ℚ => lastStamp a.2 ≤ lastStamp b.2) _
  have hnodup : (sorted.map Prod.fst).Nodup := (hperm.map Prod.fst).nodup_iff.mpr d.nodup
  have hsplit : sorted.take (d.entries.length - maxIdentities) ++
      sorted.drop (d.entries.length - maxIdentities) = sorted := List.take_append_drop _ _
  obtain ⟨entry, hentry, rfl⟩ := List.mem_map.mp hmem
  refine ⟨sorted.drop (d.entries.length - maxIdentities), ?_, ?_, fun other hother => ⟨?_, ?_⟩⟩
  · rw [List.length_drop, hperm.length_eq]
    omega
  · rw [← hsplit, List.map_append, List.nodup_append] at hnodup
    exact List.nodup_cons.mpr ⟨fun h => hnodup.2.2 _ hmem _ h rfl, hnodup.2.1⟩
  · exact hperm.mem_iff.mp (List.mem_of_mem_drop hother)
  · rw [← hsplit, List.pairwise_append] at hsorted
    have hown : (entry.1, entry.2) ∈ d.entries := hperm.mem_iff.mp (List.mem_of_mem_take hentry)
    have hstamps : entry.2 = stamps := by
      rw [← Dict.get?_eq_some, hget] at hown
      exact (Option.some.inj hown).symm
    exact hstamps ▸ hsorted.2.2 entry hentry other hother

theorem get?_pruneRateLimit {now : ℚ} {maxIdentities : ℕ} :
    (pruneRateLimit d now maxIdentities).get? identity = some stamps →
      d.get? identity = some stamps := by
  rw [pruneRateLimit]
  split
  · exact fun h => (get?_popAll.mp h).1
  · exact fun h => (get?_popAll.mp (get?_popAll.mp h).1).1

end

/-! ## The log -/

section

variable {t now : ℚ} {identity : String} {log : List (String × ℚ)} {pass : String × ℚ}

theorem mem_passes {stamp : ℚ} : stamp ∈ passes identity log ↔ (identity, stamp) ∈ log := by
  simp [passes]

theorem passes_append_self (identity : String) (stamp : ℚ) (log : List (String × ℚ)) :
    passes identity (log ++ [(identity, stamp)]) = passes identity log ++ [stamp] := by
  simp [passes]

theorem passes_append_of_ne (h : pass.1 ≠ identity) :
    passes identity (log ++ [pass]) = passes identity log := by
  simp [passes, h]

theorem mem_activeIdentities :
    identity ∈ activeIdentities t log ↔ ∃ stamp ∈ passes identity log, inMinute t stamp := by
  simp [activeIdentities, mem_passes]

theorem activeIdentities_subset_append (t : ℚ) (log log' : List (String × ℚ)) :
    activeIdentities t log ⊆ activeIdentities t (log ++ log') := by
  intro identity h
  obtain ⟨stamp, hstamp, hminute⟩ := mem_activeIdentities.mp h
  exact mem_activeIdentities.mpr
    ⟨stamp, mem_passes.mpr (List.mem_append_left _ (mem_passes.mp hstamp)), hminute⟩

end

/-! ## One request -/

namespace RateLimiter

variable (s : RateLimiter) (identity : String) (stamps : List ℚ) (pruneNext : ℚ)

theorem stamps_set_self :
    RateLimiter.stamps ⟨s.rateLimit.set identity stamps, pruneNext⟩ identity = stamps := by
  rw [RateLimiter.stamps, Dict.get?_set_self, Option.getD_some]

variable {identity} in
theorem stamps_set_of_ne {other : String} (hne : other ≠ identity) :
    RateLimiter.stamps ⟨s.rateLimit.set identity stamps, pruneNext⟩ other = s.stamps other := by
  have hget : (s.rateLimit.set identity stamps).get? other = s.rateLimit.get? other :=
    Option.ext fun found => Dict.get?_set_of_ne hne
  rw [RateLimiter.stamps, hget, RateLimiter.stamps]

/-- What one request does: it is exempt, it is rejected, or its window is recorded and the table is
perhaps pruned. -/
theorem basicRateLimit_cases (settings : RateSettings) (request : RateRequest) :
    (request.exempt ∧ s.basicRateLimit settings request = (true, s)) ∨
    (¬request.exempt ∧ s.basicRateLimit settings request = (false, s) ∧
      request.effectiveRpm settings ≤
        ((s.stamps request.identity).filter (live request.now)).length) ∨
    (¬request.exempt ∧
      ((s.stamps request.identity).filter (live request.now)).length <
        request.effectiveRpm settings ∧
      let rateLimit := s.rateLimit.set request.identity
        ((s.stamps request.identity).filter (live request.now) ++ [request.now])
      (s.basicRateLimit settings request = (true, ⟨rateLimit, s.pruneNext⟩) ∨
        s.basicRateLimit settings request =
          (true, ⟨pruneRateLimit rateLimit request.now settings.identityMax, request.now + 10⟩))) := by
  rw [basicRateLimit]
  by_cases hexempt : request.exempt
  · exact .inl ⟨hexempt, if_pos hexempt⟩
  · rw [if_neg hexempt]
    by_cases hfull : request.effectiveRpm settings ≤
        ((s.stamps request.identity).filter (live request.now)).length
    · exact .inr (.inl ⟨hexempt, if_pos hfull, hfull⟩)
    · refine .inr (.inr ⟨hexempt, Nat.lt_of_not_le hfull, ?_⟩)
      simp only [if_neg hfull]
      split
      · exact .inr rfl
      · exact .inl rfl

end RateLimiter

namespace RateInv

variable {maxIdentities : ℕ} {s : RateRun} {now : ℚ}

theorem initial : RateInv maxIdentities {} now where
  recorded _ := by simp [RateLimiter.stamps, Dict.get?]
  past p hp := nomatch hp
  kept t _ _ identity := by simp [passes, RateLimiter.stamps, Dict.get?]

theorem mono {later : ℚ} (hinv : RateInv maxIdentities s now) (h : now ≤ later) :
    RateInv maxIdentities s later where
  recorded := hinv.recorded
  past p hp := (hinv.past p hp).trans h
  kept t ht := hinv.kept t (h.trans_lt ht)

variable (maxIdentities) in
/-- A window that is in the table after the prune is the one before it. -/
theorem stamps_prune (limiter : RateLimiter) (now pruneNext : ℚ) (identity : String) :
    RateLimiter.stamps ⟨pruneRateLimit limiter.rateLimit now maxIdentities, pruneNext⟩ identity =
        limiter.stamps identity ∨
      RateLimiter.stamps ⟨pruneRateLimit limiter.rateLimit now maxIdentities, pruneNext⟩ identity =
        [] ∧ (pruneRateLimit limiter.rateLimit now maxIdentities).get? identity = none := by
  rw [RateLimiter.stamps, RateLimiter.stamps]
  cases hget : (pruneRateLimit limiter.rateLimit now maxIdentities).get? identity with
  | none => exact .inr ⟨rfl, rfl⟩
  | some stamps => rw [get?_pruneRateLimit hget]; exact .inl rfl

/-- A window with a stamp in a minute that is not over belongs to an identity that passed in it. -/
theorem mem_active (hinv : RateInv maxIdentities s now) {t stamp : ℚ} {identity : String}
    {stamps : List ℚ} (ht : now < t + 60) (hget : s.limiter.rateLimit.get? identity = some stamps)
    (hmem : stamp ∈ stamps) (hle : t ≤ stamp) : identity ∈ activeIdentities t s.passed := by
  have hpass : stamp ∈ passes identity s.passed :=
    (hinv.recorded identity).subset (by rwa [RateLimiter.stamps, hget])
  have hlt : stamp < t + 60 := (hinv.past _ (mem_passes.mp hpass)).trans_lt ht
  exact mem_activeIdentities.mpr ⟨stamp, hpass, by simp [inMinute, hle, hlt]⟩

/-- Such a window is only dropped when more identities than the table may hold have passed then. -/
theorem card_of_dropped (hinv : RateInv maxIdentities s now) {t stamp : ℚ} {identity : String}
    (ht : now < t + 60) (hstamp : stamp ∈ s.limiter.stamps identity) (hle : t ≤ stamp)
    (hdropped : (pruneRateLimit s.limiter.rateLimit now maxIdentities).get? identity = none) :
    maxIdentities < (activeIdentities t s.passed).card := by
  obtain ⟨stamps, hget⟩ : ∃ stamps, s.limiter.rateLimit.get? identity = some stamps := by
    cases hget : s.limiter.rateLimit.get? identity with
    | none => rw [RateLimiter.stamps, hget] at hstamp; cases hstamp
    | some stamps => exact ⟨stamps, rfl⟩
  rw [RateLimiter.stamps, hget, Option.getD_some] at hstamp
  -- the stamp is live, so the window was not pruned for its age
  have hlive : live now stamp := by
    have hrecent : now - stamp < 60 := by linarith
    simp [live, hrecent]
  set fresh := popAll s.limiter.rateLimit (stale s.limiter.rateLimit now) with hfresh
  have hkept : fresh.get? identity = some stamps :=
    get?_popAll.mpr ⟨hget, (not_mem_stale hget).mpr ⟨stamp, hstamp, hlive⟩⟩
  rw [pruneRateLimit, ← hfresh] at hdropped
  by_cases hlarge : fresh.entries.length ≤ maxIdentities
  · rw [if_pos hlarge, hkept] at hdropped
    cases hdropped
  · rw [if_neg hlarge] at hdropped
    have hevicted : identity ∈ surplus fresh maxIdentities := by
      by_contra hnot
      rw [get?_popAll.mpr ⟨hkept, hnot⟩] at hdropped
      cases hdropped
    obtain ⟨others, hlength, hnodup, hothers⟩ :=
      surplus_spec (Nat.lt_of_not_le hlarge) hkept hevicted
    have hsubset : (identity :: others.map Prod.fst).toFinset ⊆ activeIdentities t s.passed := by
      intro name hname
      rw [List.mem_toFinset, List.mem_cons] at hname
      obtain rfl | hname := hname
      · exact hinv.mem_active ht hget hstamp hle
      · obtain ⟨other, hother, rfl⟩ := List.mem_map.mp hname
        obtain ⟨hentry, hlast⟩ := hothers other hother
        obtain ⟨hother, hfound⟩ := get?_popAll.mp (Dict.get?_eq_some.mpr hentry)
        obtain ⟨recent, hrecent, -⟩ := (not_mem_stale hother).mp hfound
        exact hinv.mem_active ht hother (lastStamp_mem (List.ne_nil_of_mem hrecent))
          (hle.trans ((le_lastStamp hstamp).trans hlast))
    have hcard := Finset.card_le_card hsubset
    rw [List.toFinset_card_of_nodup hnodup, List.length_cons, List.length_map, hlength] at hcard
    exact hcard

theorem prune (hinv : RateInv maxIdentities s now) (pruneNext : ℚ) :
    RateInv maxIdentities
      ⟨⟨pruneRateLimit s.limiter.rateLimit now maxIdentities, pruneNext⟩, s.passed⟩ now where
  recorded identity := by
    obtain hsame | ⟨hnil, -⟩ :=
      stamps_prune maxIdentities s.limiter now pruneNext identity
    · exact hsame ▸ hinv.recorded identity
    · exact hnil ▸ List.nil_sublist _
  past := hinv.past
  kept t ht hcard identity := by
    rw [hinv.kept t ht hcard identity]
    obtain hsame | ⟨hnil, hdropped⟩ :=
      stamps_prune maxIdentities s.limiter now pruneNext identity
    · rw [hsame]
    · rw [hnil, List.filter_nil, List.filter_eq_nil_iff]
      intro stamp hstamp hle
      exact absurd hcard (hinv.card_of_dropped ht hstamp (of_decide_eq_true hle) hdropped).not_ge

/-- A request that passes is recorded and logged. -/
theorem record (hinv : RateInv maxIdentities s now) (identity : String) (pruneNext : ℚ) :
    RateInv maxIdentities
      ⟨⟨s.limiter.rateLimit.set identity ((s.limiter.stamps identity).filter (live now) ++ [now]),
        pruneNext⟩, s.passed ++ [(identity, now)]⟩ now := by
  refine ⟨fun name => ?_, fun p hp => ?_, fun t ht hcard name => ?_⟩
  · by_cases hname : name = identity
    · subst hname
      rw [RateLimiter.stamps_set_self, passes_append_self]
      exact (List.filter_sublist.trans (hinv.recorded name)).append (List.Sublist.refl _)
    · rw [s.limiter.stamps_set_of_ne _ _ hname, passes_append_of_ne (Ne.symm hname)]
      exact hinv.recorded name
  · obtain hp | hp := List.mem_append.mp hp
    · exact hinv.past p hp
    · rw [List.mem_singleton.mp hp]
  · have hbefore : (activeIdentities t s.passed).card ≤ maxIdentities :=
      (Finset.card_le_card (activeIdentities_subset_append t _ _)).trans hcard
    by_cases hname : name = identity
    · subst hname
      rw [RateLimiter.stamps_set_self, passes_append_self, List.filter_append, List.filter_append, filter_window ht,
        hinv.kept t ht hbefore]
    · rw [s.limiter.stamps_set_of_ne _ _ hname, passes_append_of_ne (Ne.symm hname)]
      exact hinv.kept t ht hbefore name

theorem step (settings : RateSettings) (request : RateRequest)
    (hinv : RateInv settings.identityMax s request.now) :
    RateInv settings.identityMax (rateStep settings s request) request.now := by
  obtain ⟨hexempt, hserved⟩ | ⟨hexempt, hserved, -⟩ | ⟨hexempt, -, hserved | hserved⟩ :=
    s.limiter.basicRateLimit_cases settings request
  · simpa [rateStep, hexempt, hserved] using hinv
  · simpa [rateStep, hexempt, hserved] using hinv
  · simpa [rateStep, hexempt, hserved] using hinv.record request.identity s.limiter.pruneNext
  · simpa [rateStep, hexempt, hserved] using
      (hinv.record request.identity s.limiter.pruneNext).prune (request.now + 10)

end RateInv

/-! ## Every run -/

section

variable {settings : RateSettings} {requests : List RateRequest}

theorem rateRun_append (settings : RateSettings) (requests : List RateRequest)
    (request : RateRequest) :
    rateRun settings (requests ++ [request]) =
      rateStep settings (rateRun settings requests) request := by
  rw [rateRun, List.foldl_append, List.foldl_cons, List.foldl_nil, ← rateRun]

/-- A request is only logged when its window was not full. -/
theorem serve_passed (settings : RateSettings) (s : RateRun) (request : RateRequest) :
    (rateStep settings s request).passed = s.passed ∨
    (((s.limiter.stamps request.identity).filter (live request.now)).length <
        request.effectiveRpm settings ∧
      (rateStep settings s request).passed = s.passed ++ [(request.identity, request.now)]) := by
  obtain ⟨hexempt, hserved⟩ | ⟨hexempt, hserved, -⟩ | ⟨hexempt, hfits, hserved | hserved⟩ :=
    s.limiter.basicRateLimit_cases settings request
  · exact .inl (by simp [rateStep, hexempt])
  · exact .inl (by simp [rateStep, hserved])
  · exact .inr ⟨hfits, by simp [rateStep, hexempt, hserved]⟩
  · exact .inr ⟨hfits, by simp [rateStep, hexempt, hserved]⟩

/-- Requests at nondecreasing times -/
def InOrder (requests : List RateRequest) : Prop := requests.Pairwise fun a b => a.now ≤ b.now

instance (requests : List RateRequest) : Decidable (InOrder requests) :=
  inferInstanceAs (Decidable (requests.Pairwise _))

theorem InOrder.append {request : RateRequest} (h : InOrder (requests ++ [request])) :
    InOrder requests ∧ ∀ earlier ∈ requests, earlier.now ≤ request.now := by
  obtain ⟨hinit, -, hlast⟩ := List.pairwise_append.mp h
  exact ⟨hinit, fun earlier hearlier => hlast earlier hearlier request List.mem_cons_self⟩

theorem RateInv.rateRun {now : ℚ} (hordered : InOrder requests)
    (hnow : ∀ request ∈ requests, request.now ≤ now) :
    RateInv settings.identityMax (rateRun settings requests) now := by
  induction requests using List.reverseRecOn generalizing now with
  | nil => exact .initial
  | append_singleton requests request ih =>
    obtain ⟨hordered, hlast⟩ := hordered.append
    rw [rateRun_append]
    exact ((ih hordered hlast).step settings request).mono (hnow request (by simp))

/-- The minutes in which the identities that pass fit in the table bound the passes of each. -/
theorem length_passes_le {identity : String} {rpm : ℕ} {t : ℚ} (hordered : InOrder requests)
    (hrpm : ∀ request ∈ requests, request.identity = identity →
      request.effectiveRpm settings ≤ rpm)
    (hcard : (activeIdentities t (rateRun settings requests).passed).card ≤ settings.identityMax) :
    ((passes identity (rateRun settings requests).passed).filter (inMinute t)).length ≤ rpm := by
  induction requests using List.reverseRecOn with
  | nil => simp [rateRun, passes]
  | append_singleton requests request ih =>
    obtain ⟨hordered, hlast⟩ := hordered.append
    have hinv : RateInv settings.identityMax (rateRun settings requests) request.now :=
      .rateRun hordered hlast
    set s := rateRun settings requests with hs
    have hrpm' := fun r hr => hrpm r (List.mem_append_left _ hr)
    obtain hsame | ⟨hfits, hpassed⟩ := serve_passed settings s request
    · rw [rateRun_append, ← hs, hsame] at hcard ⊢
      exact ih hordered hrpm' hcard
    · rw [rateRun_append, ← hs, hpassed] at hcard ⊢
      have hbefore : (activeIdentities t s.passed).card ≤ settings.identityMax :=
        (Finset.card_le_card (activeIdentities_subset_append t _ _)).trans hcard
      by_cases hname : request.identity = identity
      · subst hname
        rw [passes_append_self, List.filter_append, List.length_append]
        by_cases hminute : inMinute t request.now
        · rw [inMinute, Bool.and_eq_true, decide_eq_true_iff, decide_eq_true_iff] at hminute
          -- all passes of the minute so far are in the window
          have hwindow : (passes request.identity s.passed).filter (inMinute t) =
              ((s.limiter.stamps request.identity).filter (live request.now)).filter (t ≤ ·) := by
            rw [filter_window hminute.2, ← hinv.kept t hminute.2 hbefore]
            refine List.filter_congr fun stamp hstamp => ?_
            have hlt : stamp < t + 60 := (hinv.past _ (mem_passes.mp hstamp)).trans_lt hminute.2
            simp [inMinute, hlt]
          have hle := List.length_filter_le (fun stamp => decide (t ≤ stamp))
            ((s.limiter.stamps request.identity).filter (live request.now))
          have hlimit := hrpm request (by simp) rfl
          have hone : ([request.now].filter (inMinute t)).length ≤ 1 := List.length_filter_le ..
          rw [hwindow]
          omega
        · rw [List.filter_cons_of_neg hminute, List.filter_nil, List.length_nil, Nat.add_zero]
          exact ih hordered hrpm' hbefore
      · rw [passes_append_of_ne hname]
        exact ih hordered hrpm' hbefore

/-- A request that is rejected has the passes of its own limit in the minute before it. -/
theorem le_length_of_rejected {request : RateRequest} (hordered : InOrder (requests ++ [request]))
    (hrejected : ((rateRun settings requests).limiter.basicRateLimit settings request).1 = false) :
    request.effectiveRpm settings ≤
      ((passes request.identity (rateRun settings requests).passed).filter
        (inMinuteBefore request.now)).length := by
  obtain ⟨hordered, hlast⟩ := hordered.append
  have hinv : RateInv settings.identityMax (rateRun settings requests) request.now :=
    .rateRun hordered hlast
  obtain ⟨-, hserved⟩ | ⟨-, -, hfull⟩ | ⟨-, -, hserved | hserved⟩ :=
    (rateRun settings requests).limiter.basicRateLimit_cases settings request
  · rw [hserved] at hrejected; cases hrejected
  · refine hfull.trans (((hinv.recorded request.identity).filter _).length_le.trans ?_)
    refine (congrArg List.length (List.filter_congr fun stamp hstamp => ?_)).le
    have hpast : stamp ≤ request.now := hinv.past _ (mem_passes.mp hstamp)
    simp only [live, inMinuteBefore, hpast, decide_true, Bool.and_true, decide_eq_decide]
    exact sub_lt_comm
  · rw [hserved] at hrejected; cases hrejected
  · rw [hserved] at hrejected; cases hrejected

/-- Both bounds of the limit, in the minutes for which the table is large enough. -/
theorem rate_limit_holds (settings : RateSettings) (requests : List RateRequest)
    (hordered : InOrder requests) (identity : String) :
    (∀ rpm, (∀ request ∈ requests, request.identity = identity →
        request.effectiveRpm settings ≤ rpm) → ∀ t,
      (activeIdentities t (rateRun settings requests).passed).card ≤ settings.identityMax →
      ((passes identity (rateRun settings requests).passed).filter (inMinute t)).length ≤ rpm) ∧
    ∀ earlier request, earlier ++ [request] <+: requests → request.identity = identity →
      ((rateRun settings earlier).limiter.basicRateLimit settings request).1 = false →
      request.effectiveRpm settings ≤
        ((passes identity (rateRun settings earlier).passed).filter
          (inMinuteBefore request.now)).length := by
  refine ⟨fun rpm hrpm t hcard => length_passes_le hordered hrpm hcard, ?_⟩
  rintro earlier request hstem rfl hrejected
  exact le_length_of_rejected (List.Pairwise.sublist hstem.sublist hordered) hrejected

end

/-- A request with a bearer token that is no tenant's key -/
def madeUp (token : String) (now : ℚ) : RateRequest where
  path := "/v2/tasks/sync"
  tenantId := none
  apiKey := none
  token := token
  host := "10.0.0.1"
  tenantRpm := none
  now := now

theorem rate_limit_holds_madeUp :
    ((passes "a" (rateRun ⟨1, 2⟩ [madeUp "a" 0, madeUp "b" 1, madeUp "a" 2]).passed).filter
        (inMinute 0)).length ≤ 1 ∧
      1 ≤ ((passes "a" (rateRun ⟨1, 2⟩ [madeUp "a" 0, madeUp "b" 1]).passed).filter
        (inMinuteBefore 2)).length := by
  have hboth := rate_limit_holds ⟨1, 2⟩ [madeUp "a" 0, madeUp "b" 1, madeUp "a" 2]
    (by decide +kernel) "a"
  refine ⟨hboth.1 1 (by decide +kernel) 0 (by decide +kernel), ?_⟩
  exact hboth.2 [madeUp "a" 0, madeUp "b" 1] (madeUp "a" 2) List.prefix_rfl rfl (by decide +kernel)

/-- A table for one identity forgets the first one when a second one comes. -/
theorem not_rate_limit_of_identityMax :
    ¬∀ (settings : RateSettings) (requests : List RateRequest), InOrder requests →
      1 ≤ settings.requestsPerMinute → 1 ≤ settings.identityMax →
      (∀ request ∈ requests, request.effectiveRpm settings = settings.requestsPerMinute) →
      ∀ identity t, ((passes identity (rateRun settings requests).passed).filter
        (inMinute t)).length ≤ settings.requestsPerMinute := by
  intro hall
  have htwo := hall ⟨1, 1⟩ [madeUp "a" 0, madeUp "b" 1, madeUp "a" 2] (by decide +kernel)
    (by decide) (by decide) (by decide +kernel) "a" 0
  exact absurd htwo (by decide +kernel)

end Gpucall
