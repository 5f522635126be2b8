import Gpucall.Routing.FailClosed
import Gpucall.Routing.ValidationEvidence

/-! `_refresh_watch_route_validation` of `recipe_admin.py`: the watch service smokes a route whose
evidence went stale, at most one in a check interval, and remembers in a state file what it tried. -/

namespace Gpucall

/-! ## The smoke and its artifact -/

/-- What a smoke that came to its end has seen of the route. -/
inductive SmokeOutcome where
  | sync (result : List (String × Json))
  | stream (chunks : ℕ) (sample : List Json)
  | async (jobId state : String) (completed cancelRequested : Bool) (result attempts error : Option Json)

namespace SmokeOutcome

def mode : SmokeOutcome → ExecutionMode
  | sync .. => .sync
  | stream .. => .stream
  | async .. => .async

/-- `_provider_smoke_passed` -/
def passed : SmokeOutcome → Bool
  | sync result =>
    match result.lookup "kind" with
    | some (.str kind) => kind ∈ ["inline", "ref", "artifact_manifest"]
    | _ => false
  | stream chunks _ => 0 < chunks
  | async _ _ completed .. => completed

/-- The fields of the summary that only this mode has. -/
def fields : SmokeOutcome → List (String × Json)
  | sync result => [("result", .obj result)]
  | stream chunks sample => [("chunks", .number (toString chunks)), ("sample", .arr sample)]
  | async jobId state completed cancelRequested result attempts error =>
    [("job_id", .str jobId), ("state", .str state), ("completed", .bool completed),
      ("cancel_requested", .bool cancelRequested)] ++
      result.toList.map (("result", ·)) ++ attempts.toList.map (("attempts", ·)) ++
      error.toList.map (("error", ·))

theorem optional_sublist (key : String) (value : Option Json) :
    ((value.toList.map ((key, ·))).map Prod.fst).Sublist [key] := by
  cases value with
  | none => exact List.nil_sublist _
  | some value => exact List.Sublist.refl _

/-- The fields that one mode or another has -/
theorem fields_sublist (outcome : SmokeOutcome) : (outcome.fields.map Prod.fst).Sublist
    ["chunks", "sample", "job_id", "state", "completed", "cancel_requested", "result", "attempts", "error"] := by
  cases outcome with
  | sync result =>
    show ["result"].Sublist _
    decide
  | stream chunks sample =>
    show ["chunks", "sample"].Sublist _
    decide
  | async jobId state completed cancelRequested result attempts error =>
    have hfixed : ["job_id", "state", "completed", "cancel_requested"].Sublist
        ["chunks", "sample", "job_id", "state", "completed", "cancel_requested"] := by decide
    simp only [fields, List.map_append]
    exact ((hfixed.append (optional_sublist _ _)).append (optional_sublist _ _)).append (optional_sublist _ _)

end SmokeOutcome

/-- What the summary says about the tuple: the official contract as it is read back from the artifact,
and the hash that was computed before it was written. -/
structure SmokedTuple where
  modelRef : Json
  engineRef : Json
  providerModel : Json
  gpu : Json
  evidenceKey : Json
  evidenceLabel : Json
  contract : List (String × Json)
  contractHash : String

/-- `tuple-smoke --write-artifact`, once the summary is finished. -/
structure TupleSmoke where
  tuple : SmokedTuple
  outcome : SmokeOutcome
  pollTimeoutSeconds : Json
  startedAt : String
  endedAt : String
  observedWallSeconds : Json
  /-- `_git_commit` of `cli.py` -/
  commit : Option String
  configHash : String
  governanceHash : Json
  costEstimate : Option Json
  datarefEvidence : Json

/-- The summary that `_write_live_validation_artifact` writes. -/
def TupleSmoke.artifact (smoke : TupleSmoke) (tupleName recipeName : String) : Dict Json where
  entries :=
    [("tuple", .str tupleName), ("recipe", .str recipeName), ("mode", .str smoke.outcome.mode.value),
      ("model_ref", smoke.tuple.modelRef), ("engine_ref", smoke.tuple.engineRef),
      ("provider_model", smoke.tuple.providerModel), ("gpu", smoke.tuple.gpu),
      ("tuple_evidence_key", smoke.tuple.evidenceKey),
      ("tuple_evidence_label", smoke.tuple.evidenceLabel),
      ("official_contract", .obj smoke.tuple.contract),
      ("official_contract_hash", .str smoke.tuple.contractHash),
      ("poll_timeout_seconds", smoke.pollTimeoutSeconds), ("started_at", .str smoke.startedAt),
      ("ended_at", .str smoke.endedAt), ("observed_wall_seconds", smoke.observedWallSeconds),
      ("validation_schema_version", .number "1"), ("passed", .bool smoke.outcome.passed),
      ("cleanup", .obj [("required", .bool false), ("completed", .null)]),
      ("cost", .obj [("observed", .null), ("estimated", .null)]),
      ("audit", .obj [("event_ids", .arr [])]),
      ("commit", (smoke.commit.map Json.str).getD .null), ("config_hash", .str smoke.configHash),
      ("governance_hash", smoke.governanceHash), ("dataref_evidence", smoke.datarefEvidence)] ++
      smoke.costEstimate.toList.map (("cost_estimate", ·)) ++ smoke.outcome.fields
  nodup := by
    rw [List.map_append, List.map_append]
    refine List.Nodup.sublist (((List.Sublist.refl _).append (SmokeOutcome.optional_sublist _ _)).append
      smoke.outcome.fields_sublist) ?_
    show (["tuple", "recipe", "mode", "model_ref", "engine_ref", "provider_model", "gpu", "tuple_evidence_key",
      "tuple_evidence_label", "official_contract", "official_contract_hash", "poll_timeout_seconds", "started_at",
      "ended_at", "observed_wall_seconds", "validation_schema_version", "passed", "cleanup", "cost", "audit",
      "commit", "config_hash", "governance_hash", "dataref_evidence"] ++ ["cost_estimate"] ++
      ["chunks", "sample", "job_id", "state", "completed", "cancel_requested", "result", "attempts", "error"]).Nodup
    decide +kernel

/-! ## The refresh -/

/-- What `load_config` gives, as far as the refresh looks at it. -/
structure RefreshConfig where
  recipes : Dict Recipe
  tuples : Dict ExecutionTupleSpec

/-- The mode that `_run_existing_tuple_validation` smokes in. -/
def existingTupleValidationMode (config : RefreshConfig) (recipeName : String) : ExecutionMode :=
  match config.recipes.get? recipeName with
  | some recipe => if .sync ∉ recipe.allowedModes then recipe.allowedModes.head?.getD .sync else .sync
  | none => .sync

/-- `float(value or 0)` of a stored time -/
inductive StoredTime where
  | finite (value : ℚ)
  | infinite
  | minusInfinite
  | nan

/-- `now - stored < seconds` -/
def StoredTime.within (now seconds : ℚ) : StoredTime → Bool
  | finite value => now - value < seconds
  | infinite => true
  | minusInfinite | nan => false

/-- The state file as the refresh reads it: a value is none where `float` or `dict` raises. No file is
an empty dictionary, and one whose root is no dictionary has no `last_check` to give. -/
structure RefreshState where
  lastCheck : Option StoredTime := some (.finite 0)
  attempts : Option (Dict (Option StoredTime)) := some {}

/-- One call from the watch service, with what it finds. -/
structure RefreshCall where
  now : ℚ
  configDirGiven : Bool := true
  /-- `recipe_inbox_auto_billable_validation`, none if `admin.yml` cannot be loaded -/
  autoBillableValidation : Option Bool := some true
  settings : ValidationSettings
  files : List ValidationFile
  /-- The configuration, or the type of the exception that loading it or the statuses raises -/
  config : Except String RefreshConfig
  /-- The parts of the path that the artifacts are loaded from, if one is given -/
  validationDir : Option (List String) := none
  expanduser : List String → List String := id

inductive RefreshResult where
  | nothing
  | raised
  | failed (reason : String)
  | smoked (key : RouteValidationKey) (staleReason : String)
  deriving DecidableEq

def routeValidationRefreshCheckInterval : ℚ := 600

def routeValidationRefreshRetry : ℚ := 3600

def attemptKey (key : RouteValidationKey) : String := key.1 ++ "|" ++ key.2.1 ++ "|" ++ key.2.2

/-- The reason of a status that the refresh does not pass over. -/
def staleReason (status : RouteValidationStatus) : Option String :=
  let reason := status.reason.getD ""
  if status.accepted then none
  else if !(startswith reason "validation_config_hash_mismatch" ||
      startswith reason "validation_commit_mismatch") then none
  else if !(status.data.get? "passed" matches some (.bool true)) then none
  else some reason

/-- `float(attempts.get(key) or 0)` -/
def lastAttempt (attempts : Dict (Option StoredTime)) (key : RouteValidationKey) : Option StoredTime :=
  (attempts.get? (attemptKey key)).getD (some (.finite 0))

/-- The loop over the sorted statuses, with the exception of a stored time that is no number. -/
def pickTarget (now : ℚ) (config : RefreshConfig) (attempts : Dict (Option StoredTime))
    (statuses : List (RouteValidationKey × RouteValidationStatus)) :
    List RouteValidationKey → Except Unit (Option (RouteValidationKey × String))
  | [] => .ok none
  | key :: keys =>
    match (statuses.lookup key).bind staleReason with
    | none => pickTarget now config attempts statuses keys
    | some reason =>
      if (config.recipes.get? key.2.1).isNone || (config.tuples.get? key.1).isNone then
        pickTarget now config attempts statuses keys
      else
        match lastAttempt attempts key with
        | none => .error ()
        | some last =>
          if last.within now routeValidationRefreshRetry then
            pickTarget now config attempts statuses keys
          else .ok (some (key, reason))

/-- `sorted(statuses)` -/
def sortedRouteKeys (statuses : List (RouteValidationKey × RouteValidationStatus)) :
    List RouteValidationKey :=
  (statuses.map Prod.fst).insertionSort fun a b => toLex (a.1, toLex a.2) ≤ toLex (b.1, toLex b.2)

variable (py : Builtins)

/-- `_refresh_watch_route_validation` with a state file that can be written. The state afterwards is
that of the file. -/
def refreshWatchRouteValidation (call : RefreshCall) (state : RefreshState) :
    RefreshState × RefreshResult :=
  if !call.configDirGiven || !call.autoBillableValidation.getD false then (state, .nothing)
  else
    match state.lastCheck with
    | none => (state, .raised)
    | some last =>
      if last.within call.now routeValidationRefreshCheckInterval then (state, .nothing)
      else
        let checked := { state with lastCheck := some (.finite call.now) }
        match call.config with
        | .error kind => (checked, .failed ("route validation refresh scan failed: " ++ kind))
        | .ok config =>
          match state.attempts with
          | none => (state, .raised)
          | some attempts =>
            let statuses := loadRouteValidationStatuses py call.settings call.files
            match pickTarget call.now config attempts statuses (sortedRouteKeys statuses) with
            | .error _ => (state, .raised)
            | .ok none => (checked, .nothing)
            | .ok (some (key, reason)) =>
              let attempts := attempts.set (attemptKey key) (some (.finite call.now))
              ({ checked with attempts := some attempts }, .smoked key reason)

/-- A sequence of calls, each with what it returned. -/
def refreshRun (state : RefreshState) : List RefreshCall → List (RefreshCall × RefreshResult)
  | [] => []
  | call :: calls =>
    let next := refreshWatchRouteValidation py call state
    (call, next.2) :: refreshRun next.1 calls

theorem refreshRun_cons (state : RefreshState) (call : RefreshCall) (calls : List RefreshCall) :
    refreshRun py state (call :: calls) = (call, (refreshWatchRouteValidation py call state).2) ::
      refreshRun py (refreshWatchRouteValidation py call state).1 calls := rfl

/-! ## What one call does -/

variable {py} {call : RefreshCall} {state : RefreshState}

theorem staleReason_eq_some {status : RouteValidationStatus} {reason : String} :
    staleReason status = some reason ↔ status.accepted = false ∧
      (startswith reason "validation_config_hash_mismatch" = true ∨
        startswith reason "validation_commit_mismatch" = true) ∧
      status.data.get? "passed" = some (.bool true) ∧ status.reason.getD "" = reason := by
  unfold staleReason
  dsimp only
  constructor
  · intro h
    split_ifs at h with haccepted hstart hpassed
    cases h
    rw [Bool.not_eq_true', Bool.not_eq_false, Bool.or_eq_true] at hstart
    refine ⟨eq_false_of_ne_true haccepted, hstart, ?_, rfl⟩
    split at hpassed
    · assumption
    · simp at hpassed
  · rintro ⟨haccepted, hstart, hpassed, rfl⟩
    rw [← Bool.or_eq_true] at hstart
    rw [hstart, hpassed, haccepted]
    rfl

theorem pickTarget_eq_some {now : ℚ} {config : RefreshConfig}
    {attempts : Dict (Option StoredTime)}
    {statuses : List (RouteValidationKey × RouteValidationStatus)} {keys : List RouteValidationKey}
    {key : RouteValidationKey} {reason : String}
    (h : pickTarget now config attempts statuses keys = .ok (some (key, reason))) :
    (∃ status, statuses.lookup key = some status ∧ staleReason status = some reason) ∧
      ∃ last, lastAttempt attempts key = some last ∧
        last.within now routeValidationRefreshRetry = false := by
  induction keys with
  | nil => cases h
  | cons first keys ih =>
    rw [pickTarget] at h
    cases hstale : (statuses.lookup first).bind staleReason with
    | none =>
      rw [hstale] at h
      exact ih h
    | some stale =>
      simp only [hstale] at h
      split_ifs at h with hconfig
      · exact ih h
      cases hlast : lastAttempt attempts first with
      | none =>
        rw [hlast] at h
        cases h
      | some last =>
        simp only [hlast] at h
        split_ifs at h with hwithin
        · exact ih h
        cases h
        exact ⟨Option.bind_eq_some_iff.mp hstale, last, hlast, eq_false_of_ne_true hwithin⟩

/-- What a call can do: leave the file alone, note the time, or note the time and smoke a route. -/
inductive RefreshStep (py : Builtins) (call : RefreshCall) (state : RefreshState) :
    RefreshState × RefreshResult → Prop where
  | idle (result : RefreshResult) : (∀ key reason, result ≠ .smoked key reason) →
      RefreshStep py call state (state, result)
  | checked (result : RefreshResult) : (∀ key reason, result ≠ .smoked key reason) →
      RefreshStep py call state ({ state with lastCheck := some (.finite call.now) }, result)
  | smoked (last lastTry : StoredTime) (attempts : Dict (Option StoredTime)) (key : RouteValidationKey)
      (status : RouteValidationStatus) (reason : String) : state.lastCheck = some last →
      last.within call.now routeValidationRefreshCheckInterval = false →
      state.attempts = some attempts → lastAttempt attempts key = some lastTry →
      lastTry.within call.now routeValidationRefreshRetry = false →
      (loadRouteValidationStatuses py call.settings call.files).lookup key = some status →
      staleReason status = some reason →
      RefreshStep py call state
        ({ lastCheck := some (.finite call.now),
           attempts := some (attempts.set (attemptKey key) (some (.finite call.now))) },
          .smoked key reason)

theorem refreshStep (py : Builtins) (call : RefreshCall) (state : RefreshState) :
    RefreshStep py call state (refreshWatchRouteValidation py call state) := by
  unfold refreshWatchRouteValidation
  split
  · exact .idle _ nofun
  split
  · exact .idle _ nofun
  rename_i last hlast
  split_ifs with hwithin
  · exact .idle _ nofun
  dsimp only
  split
  · exact .checked _ nofun
  rename_i config hconfig
  split
  · exact .idle _ nofun
  rename_i attempts hattempts
  split
  · exact .idle _ nofun
  · exact .checked _ nofun
  · rename_i key reason hpick
    obtain ⟨⟨status, hstatus, hreason⟩, lastTry, hlastTry, htry⟩ := pickTarget_eq_some hpick
    exact .smoked last lastTry attempts key status reason hlast (eq_false_of_ne_true hwithin) hattempts
      hlastTry htry hstatus hreason

/-! ## The throttle -/

/-- The state file keeps that a route was tried at a time. -/
structure RefreshState.Remembers (state : RefreshState) (time : ℚ) (key : RouteValidationKey) :
    Prop where
  checked : ∃ last, state.lastCheck = some (.finite last) ∧ time ≤ last
  tried : ∃ attempts last, state.attempts = some attempts ∧
    attempts.get? (attemptKey key) = some (some (.finite last)) ∧ time ≤ last

theorem RefreshState.Remembers.step {time : ℚ} {key : RouteValidationKey}
    (h : state.Remembers time key) (hnow : time ≤ call.now) :
    (refreshWatchRouteValidation py call state).1.Remembers time key := by
  have hstep := refreshStep py call state
  generalize refreshWatchRouteValidation py call state = next at hstep ⊢
  cases hstep with
  | idle => exact h
  | checked => exact ⟨⟨_, rfl, hnow⟩, h.tried⟩
  | smoked last lastTry attempts tried status reason _ _ hattempts =>
    refine ⟨⟨_, rfl, hnow⟩, ?_⟩
    obtain ⟨attempts', lastTime, hattempts', hget, hle⟩ := h.tried
    obtain rfl : attempts = attempts' := Option.some.inj (hattempts.symm.trans hattempts')
    by_cases hkey : attemptKey key = attemptKey tried
    · exact ⟨_, call.now, rfl, by rw [hkey, Dict.get?_set_self], hnow⟩
    · exact ⟨_, lastTime, rfl, (Dict.get?_set_of_ne hkey).mpr hget, hle⟩

theorem remembers_smoked {key : RouteValidationKey} {reason : String}
    (h : (refreshWatchRouteValidation py call state).2 = .smoked key reason) :
    (refreshWatchRouteValidation py call state).1.Remembers call.now key := by
  have hstep := refreshStep py call state
  generalize refreshWatchRouteValidation py call state = next at hstep h ⊢
  cases hstep with
  | idle result hresult => exact absurd h (hresult key reason)
  | checked result hresult => exact absurd h (hresult key reason)
  | smoked =>
    cases h
    exact ⟨⟨_, rfl, le_rfl⟩, _, call.now, rfl, Dict.get?_set_self .., le_rfl⟩

theorem add_le_of_not_within {time last now seconds : ℚ} (hle : time ≤ last)
    (h : (StoredTime.finite last).within now seconds = false) : time + seconds ≤ now := by
  have hgap : seconds ≤ now - last := by simpa [StoredTime.within] using h
  linarith

/-- A smoke comes the check interval after every one that the file remembers, and the retry interval
after one of the same route. -/
theorem RefreshState.Remembers.apart {time : ℚ} {key other : RouteValidationKey} {reason : String}
    (hstate : state.Remembers time other)
    (h : (refreshWatchRouteValidation py call state).2 = .smoked key reason) :
    time + routeValidationRefreshCheckInterval ≤ call.now ∧
      (other = key → time + routeValidationRefreshRetry ≤ call.now) := by
  have hstep := refreshStep py call state
  generalize refreshWatchRouteValidation py call state = next at hstep h
  cases hstep with
  | idle result hresult => exact absurd h (hresult key reason)
  | checked result hresult => exact absurd h (hresult key reason)
  | smoked last lastTry attempts tried status _ hlast hwithin hattempts hlastTry htry =>
    cases h
    obtain ⟨checkedAt, hchecked, hle⟩ := hstate.checked
    obtain rfl := Option.some.inj (hlast.symm.trans hchecked)
    refine ⟨add_le_of_not_within hle hwithin, ?_⟩
    rintro rfl
    obtain ⟨attempts', triedAt, hattempts', hget, hle'⟩ := hstate.tried
    obtain rfl : attempts = attempts' := Option.some.inj (hattempts.symm.trans hattempts')
    rw [lastAttempt, hget, Option.getD_some, Option.some_inj] at hlastTry
    subst hlastTry
    exact add_le_of_not_within hle' htry

/-! ## Runs -/

/-- The latest artifact of the route says that its smoke passed. -/
def LatestPassed (py : Builtins) (files : List ValidationFile) (key : RouteValidationKey) : Prop :=
  ∃ file data, latestFor py files key = some file ∧ file.data = some data ∧
    data.get? "passed" = some (.bool true)

theorem latestPassed_of_smoked {key : RouteValidationKey} {reason : String}
    (h : (refreshWatchRouteValidation py call state).2 = .smoked key reason) :
    LatestPassed py call.files key := by
  have hstep := refreshStep py call state
  generalize refreshWatchRouteValidation py call state = next at hstep h
  cases hstep with
  | idle result hresult => exact absurd h (hresult key reason)
  | checked result hresult => exact absurd h (hresult key reason)
  | smoked last lastTry attempts tried status _ _ _ _ _ _ hstatus hstale =>
    cases h
    rw [lookup_loadRouteValidationStatuses, Option.bind_eq_some_iff] at hstatus
    obtain ⟨file, hfile, hdata⟩ := hstatus
    obtain ⟨data, hdata', rfl⟩ := Option.map_eq_some_iff.mp hdata
    exact ⟨file, data, hfile, hdata', (staleReason_eq_some.mp hstale).2.2.1⟩

/-- What a run keeps: two smokes are apart, and each one is of a route that passed last. -/
structure Throttled (py : Builtins) (trace : List (RefreshCall × RefreshResult)) : Prop where
  apart : trace.Pairwise fun earlier later => ∀ key reason key' reason',
    earlier.2 = .smoked key reason → later.2 = .smoked key' reason' →
      earlier.1.now + routeValidationRefreshCheckInterval ≤ later.1.now ∧
      (key = key' → earlier.1.now + routeValidationRefreshRetry ≤ later.1.now)
  passed : ∀ step ∈ trace, ∀ key reason, step.2 = .smoked key reason →
    LatestPassed py step.1.files key

theorem RefreshState.Remembers.run {time : ℚ} {other : RouteValidationKey}
    (h : state.Remembers time other) {calls : List RefreshCall}
    (hsorted : (calls.map (·.now)).Pairwise (· ≤ ·)) (hnow : ∀ call ∈ calls, time ≤ call.now) :
    ∀ step ∈ refreshRun py state calls, ∀ key reason, step.2 = .smoked key reason →
      time + routeValidationRefreshCheckInterval ≤ step.1.now ∧
      (other = key → time + routeValidationRefreshRetry ≤ step.1.now) := by
  induction calls generalizing state with
  | nil =>
    intro step hmem
    cases hmem
  | cons call calls ih =>
    rw [List.map_cons, List.pairwise_cons] at hsorted
    intro step hmem key reason hsmoked
    rw [refreshRun_cons, List.mem_cons] at hmem
    obtain rfl | hmem := hmem
    · exact h.apart hsmoked
    · exact ih (h.step (hnow call List.mem_cons_self)) hsorted.2
        (fun later hlater => hnow later (List.mem_cons_of_mem _ hlater)) step hmem key reason hsmoked

theorem throttled_refreshRun (py : Builtins) (state : RefreshState) (calls : List RefreshCall)
    (hsorted : (calls.map (·.now)).Pairwise (· ≤ ·)) : Throttled py (refreshRun py state calls) := by
  induction calls generalizing state with
  | nil =>
    refine ⟨.nil, fun step hmem => ?_⟩
    cases hmem
  | cons call calls ih =>
    rw [List.map_cons, List.pairwise_cons] at hsorted
    rw [refreshRun_cons]
    obtain ⟨hapart, hpassed⟩ := ih (refreshWatchRouteValidation py call state).1 hsorted.2
    refine ⟨List.pairwise_cons.mpr ⟨?_, hapart⟩, ?_⟩
    · intro later hlater key reason key' reason' hsmoked hsmoked'
      have hnow : ∀ next ∈ calls, call.now ≤ next.now := fun next hnext =>
        hsorted.1 _ (List.mem_map_of_mem hnext)
      have hremembers : (refreshWatchRouteValidation py call state).1.Remembers call.now key :=
        remembers_smoked hsmoked
      exact hremembers.run hsorted.2 hnow later hlater key' reason' hsmoked'
    · intro step hmem key reason hsmoked
      obtain rfl | hmem := List.mem_cons.mp hmem
      · exact latestPassed_of_smoked hsmoked
      · exact hpassed step hmem key reason hsmoked

/-! ## What a passed smoke does for the route -/

/-- A file written into a directory, in the order in which the directory is listed. It takes the place
of the file of its path, if there is one, and is not older. -/
structure ArtifactWrite where
  earlier : List ValidationFile
  replaced : Option ValidationFile
  later : List ValidationFile
  file : ValidationFile
  not_older : ∀ old, replaced = some old → old.path = file.path ∧ old.mtime ≤ file.mtime

namespace ArtifactWrite

def before (write : ArtifactWrite) : List ValidationFile :=
  write.earlier ++ (write.replaced.toList ++ write.later)

def after (write : ArtifactWrite) : List ValidationFile := write.earlier ++ write.file :: write.later

/-- The files that the write leaves alone. -/
def others (write : ArtifactWrite) : List ValidationFile := write.earlier ++ write.later

/-- The file written comes before all others with the key. -/
def IsLatest (py : Builtins) (write : ArtifactWrite) (key : RouteValidationKey) : Prop :=
  (∀ other ∈ write.earlier, other.key py = some key → other.mtime < write.file.mtime) ∧
    ∀ other ∈ write.later, other.key py = some key → other.mtime ≤ write.file.mtime

end ArtifactWrite

/-- The smoke writes to `validation_dir.parent / "tuple-validation"`; the artifacts are loaded from
`validation_dir`. -/
def RefreshCall.smokesIntoLoadedDir (call : RefreshCall) : Bool :=
  call.validationDir.all fun dir => (call.expanduser dir).dropLast ++ ["tuple-validation"] = dir

/-- The smoke of a route: it ran in the mode chosen for the recipe, passed, and wrote its artifact.
It refuses to run without a hash of the configuration. -/
structure PassedSmoke (call : RefreshCall) (config : RefreshConfig) (key : RouteValidationKey) where
  smoke : TupleSmoke
  mode_eq : smoke.outcome.mode = existingTupleValidationMode config key.2.1
  passed : smoke.outcome.passed = true
  configHash : call.settings.configDir = some (some smoke.configHash)
  write : ArtifactWrite
  data_eq : write.file.data = some (smoke.artifact key.1 key.2.1)
  before_eq : call.smokesIntoLoadedDir = true → write.before = call.files

namespace PassedSmoke

variable {config : RefreshConfig} {key : RouteValidationKey}

/-- The artifacts that the loader finds afterwards. -/
def filesAfter (passed : PassedSmoke call config key) : List ValidationFile :=
  if call.smokesIntoLoadedDir then passed.write.after else call.files

/-- The artifact is for the route's own mode and reaches the loader as an acceptable one. -/
structure Reaches (py : Builtins) (passed : PassedSmoke call config key) : Prop where
  mode : (existingTupleValidationMode config key.2.1).value = key.2.2
  dir : call.smokesIntoLoadedDir = true
  commit : ∀ commit, call.settings.expectedCommit = some commit → passed.smoke.commit = some commit
  contract : contractRejectionReason py (some (.str passed.smoke.tuple.contractHash))
    passed.smoke.tuple.contract = none
  latest : passed.write.IsLatest py key

/-- The artifact is for another mode, but it overwrites the one that the route was stale by. -/
structure Uncovers (py : Builtins) (passed : PassedSmoke call config key) : Prop where
  mode : (existingTupleValidationMode config key.2.1).value ≠ key.2.2
  dir : call.smokesIntoLoadedDir = true
  accepted : StatusAccepted py call.settings passed.write.others key

end PassedSmoke

section Artifact

variable {smoke : TupleSmoke} {tupleName recipeName : String} {s : ValidationSettings}

theorem namedKey_artifact (htuple : tupleName ≠ "") (hrecipe : recipeName ≠ "") :
    namedKey py (smoke.artifact tupleName recipeName) =
      some (tupleName, recipeName, smoke.outcome.mode.value) := by
  have htext : ∀ text, text ≠ "" → strOrEmpty py (some (.str text)) = text := by
    intro text hne
    have htruthy : (Json.str text).truthy = true := decide_eq_true hne
    simp [strOrEmpty, Option.filter, htruthy, pyStr]
  have hmode : smoke.outcome.mode.value ≠ "" := by cases smoke.outcome.mode <;> decide
  have htupleField : (smoke.artifact tupleName recipeName).get? "tuple" = some (.str tupleName) := rfl
  have hrecipeField : (smoke.artifact tupleName recipeName).get? "recipe" = some (.str recipeName) :=
    rfl
  have hmodeField : (smoke.artifact tupleName recipeName).get? "mode" =
      some (.str smoke.outcome.mode.value) := rfl
  rw [namedKey, htupleField, hrecipeField, hmodeField, htext _ htuple, htext _ hrecipe, htext _ hmode]
  simp [htuple, hrecipe, hmode]

theorem rejectionReason_artifact (hone : py.numberEq "1" "1" = true)
    (hpassed : smoke.outcome.passed = true) (hhash : s.configDir = some (some smoke.configHash)) :
    routeValidationRejectionReason py s (smoke.artifact tupleName recipeName) = none ↔
      (∀ commit, s.expectedCommit = some commit → smoke.commit = some commit) ∧
      contractRejectionReason py (some (.str smoke.tuple.contractHash)) smoke.tuple.contract =
        none := by
  have hfields : ∀ field ∈ requiredValidationFields,
      (smoke.artifact tupleName recipeName).get? field ≠ none := by
    simp only [requiredValidationFields, List.forall_mem_cons]
    exact ⟨nofun, nofun, nofun, nofun, nofun, nofun, nofun, nofun, nofun, nofun, nofun⟩
  have hpassedField : (smoke.artifact tupleName recipeName).get? "passed" = some (.bool true) :=
    congrArg (some <| Json.bool ·) hpassed
  have hcommitField : ∀ commit,
      equalsText py ((smoke.artifact tupleName recipeName).get? "commit") (some commit) = true ↔
        smoke.commit = some commit := by
    intro commit
    rw [equalsText_some]
    change some ((smoke.commit.map Json.str).getD .null) = _ ↔ _
    cases smoke.commit <;> simp
  have hhashField : equalsText py ((smoke.artifact tupleName recipeName).get? "config_hash")
      s.expectedConfigHash = true := by
    rw [ValidationSettings.expectedConfigHash, hhash]
    exact equalsText_some.mpr rfl
  have hschema : optEq py ((smoke.artifact tupleName recipeName).get? "validation_schema_version")
      (some (.number "1")) = true := hone
  rw [routeValidationRejectionReason_eq_none, contentRejectionReason_eq_none]
  simp only [hcommitField]
  constructor
  · rintro ⟨-, hcommit, -, -, -, -, -, -, contract, hcontract, hreason⟩
    cases hcontract
    exact ⟨hcommit, hreason⟩
  · rintro ⟨hcommit, hreason⟩
    refine ⟨hfields, hcommit, fun _ _ => ⟨?_, hhashField⟩, hschema, hpassedField, rfl, rfl, rfl, _,
      rfl, hreason⟩
    simp [ValidationSettings.expectedConfigHash, hhash]

end Artifact

theorem not_statusAccepted_of_smoked {key : RouteValidationKey} {reason : String}
    (h : (refreshWatchRouteValidation py call state).2 = .smoked key reason) :
    ¬ StatusAccepted py call.settings call.files key := by
  rintro ⟨accepted, hlookup, haccepted⟩
  have hstep := refreshStep py call state
  generalize refreshWatchRouteValidation py call state = next at hstep h
  cases hstep with
  | idle result hresult => exact hresult key reason h
  | checked result hresult => exact hresult key reason h
  | smoked _ _ _ _ status _ _ _ _ _ _ hstatus hstale =>
    cases h
    obtain rfl := Option.some.inj (hlookup.symm.trans hstatus)
    rw [(staleReason_eq_some.mp hstale).1] at haccepted
    cases haccepted

theorem names_of_smoked {key : RouteValidationKey} {reason : String}
    (h : (refreshWatchRouteValidation py call state).2 = .smoked key reason) :
    key.1 ≠ "" ∧ key.2.1 ≠ "" := by
  obtain ⟨file, data, hfile, hdata, -⟩ := latestPassed_of_smoked h
  have hkey : file.key py = some key := by simpa using List.find?_some hfile
  rw [ValidationFile.key, hdata, Option.bind_some, namedKey] at hkey
  split_ifs at hkey with hempty
  obtain rfl := Option.some.inj hkey
  rw [Bool.or_eq_true, Bool.or_eq_true, not_or, not_or] at hempty
  exact ⟨of_decide_eq_false (eq_false_of_ne_true hempty.1.1),
    of_decide_eq_false (eq_false_of_ne_true hempty.1.2)⟩

theorem latestFor_eq (files : List ValidationFile) (key : RouteValidationKey) :
    latestFor py files key = (files.insertionSort fun a b => b.mtime ≤ a.mtime).find?
      fun file => file.key py == some key := rfl

/-- Where the artifact is for the route, it decides, or else the files decide that did before. -/
theorem latestFor_after {write : ArtifactWrite} {key : RouteValidationKey}
    (hkey : write.file.key py = some key) :
    (latestFor py write.after key = some write.file ∧ write.IsLatest py key) ∨
      (latestFor py write.after key = latestFor py write.before key ∧ ¬ write.IsLatest py key) := by
  have : Std.Total fun a b : ValidationFile => b.mtime ≤ a.mtime := ⟨fun a b => le_total _ _⟩
  have : IsTrans ValidationFile fun a b => b.mtime ≤ a.mtime := ⟨fun _ _ _ h h' => h'.trans h⟩
  have h := @FirstWins.find?_insertionSort_replaced _ (fun a b : ValidationFile => b.mtime ≤ a.mtime)
    _ _ _ (fun file => file.key py == some key) write.file write.replaced write.earlier write.later
    (by simpa using hkey) fun old hold => (write.not_older old hold).2
  simp only [beq_iff_eq, not_le] at h
  exact h

/-- Where the artifact is for another route, the other files decide. -/
theorem latestFor_after_of_ne {write : ArtifactWrite} {key : RouteValidationKey}
    (hkey : write.file.key py ≠ some key) :
    latestFor py write.after key = latestFor py write.others key := by
  have : Std.Total fun a b : ValidationFile => b.mtime ≤ a.mtime := ⟨fun a b => le_total _ _⟩
  have : IsTrans ValidationFile fun a b => b.mtime ≤ a.mtime := ⟨fun _ _ _ h h' => h'.trans h⟩
  have hfile : ([write.file].find? fun file => file.key py == some key) = none := by
    simp [hkey]
  rw [latestFor_eq, latestFor_eq, ArtifactWrite.after, ArtifactWrite.others,
    FirstWins.find?_insertionSort_append, FirstWins.find?_insertionSort_cons, hfile,
    FirstWins.find?_insertionSort_append]
  rfl

theorem statusAccepted_filesAfter_iff (hone : py.numberEq "1" "1" = true) {config : RefreshConfig}
    {key : RouteValidationKey} {reason : String}
    (h : (refreshWatchRouteValidation py call state).2 = .smoked key reason)
    (passed : PassedSmoke call config key) :
    StatusAccepted py call.settings passed.filesAfter key ↔
      passed.Reaches py ∨ passed.Uncovers py := by
  have hstale := not_statusAccepted_of_smoked h
  obtain ⟨htuple, hrecipe⟩ := names_of_smoked h
  have hfileKey : passed.write.file.key py =
      some (key.1, key.2.1, (existingTupleValidationMode config key.2.1).value) := by
    rw [ValidationFile.key, passed.data_eq, Option.bind_some, namedKey_artifact htuple hrecipe,
      passed.mode_eq]
  unfold PassedSmoke.filesAfter
  split_ifs with hdir
  swap
  · -- the artifact is written where the loader does not look
    refine iff_of_false hstale ?_
    rintro (hreaches | huncovers)
    · exact hdir hreaches.dir
    · exact hdir huncovers.dir
  by_cases hmode : (existingTupleValidationMode config key.2.1).value = key.2.2
  · rw [hmode] at hfileKey
    have huncovers : ¬ passed.Uncovers py := fun huncovers => huncovers.mode hmode
    rw [or_iff_left huncovers]
    obtain ⟨hlatest, hfirst⟩ | ⟨hlatest, hfirst⟩ := latestFor_after hfileKey
    · have haccepted : (∃ file, some passed.write.file = some file ∧
          file.Passes py call.settings) ↔ routeValidationRejectionReason py call.settings
            (passed.smoke.artifact key.1 key.2.1) = none := by
        simp [ValidationFile.Passes, passed.data_eq]
      rw [statusAccepted_iff_latestFor, hlatest, haccepted,
        rejectionReason_artifact hone passed.passed passed.configHash]
      constructor
      · rintro ⟨hcommit, hcontract⟩
        exact ⟨hmode, hdir, hcommit, hcontract, hfirst⟩
      · intro hreaches
        exact ⟨hreaches.commit, hreaches.contract⟩
    · refine iff_of_false ?_ fun hreaches => hfirst hreaches.latest
      rwa [statusAccepted_iff_latestFor, hlatest, passed.before_eq hdir,
        ← statusAccepted_iff_latestFor]
  · have hne : passed.write.file.key py ≠ some key := by
      rw [hfileKey]
      intro heq
      exact hmode (congrArg (·.2.2) (Option.some.inj heq))
    have hreaches : ¬ passed.Reaches py := fun hreaches => hmode hreaches.mode
    rw [or_iff_right hreaches, statusAccepted_iff_latestFor, latestFor_after_of_ne hne,
      ← statusAccepted_iff_latestFor]
    exact ⟨fun haccepted => ⟨hmode, hdir, haccepted⟩, fun huncovers => huncovers.accepted⟩

/-- A passed smoke makes its route acceptable again exactly when it ran in the mode of the route and
its artifact is one that the loader takes; and every run is throttled. -/
theorem statusAccepted_refreshed_iff (py : Builtins) (hone : py.numberEq "1" "1" = true) :
    (∀ (call : RefreshCall) (state : RefreshState) (config : RefreshConfig)
      (key : RouteValidationKey) (reason : String), call.config = .ok config →
      (refreshWatchRouteValidation py call state).2 = .smoked key reason →
      ∀ passed : PassedSmoke call config key,
        (StatusAccepted py call.settings passed.filesAfter key ↔
          passed.Reaches py ∨ passed.Uncovers py)) ∧
    ∀ (state : RefreshState) (calls : List RefreshCall), (calls.map (·.now)).Pairwise (· ≤ ·) →
      Throttled py (refreshRun py state calls) :=
  ⟨fun _ _ _ _ _ _ hsmoked passed => statusAccepted_filesAfter_iff hone hsmoked passed,
    fun state calls hsorted => throttled_refreshRun py state calls hsorted⟩

/-! ## A recipe with two modes -/

def smokedTuple : SmokedTuple where
  modelRef := .null
  engineRef := .null
  providerModel := .str "qwen"
  gpu := .str "gpu"
  evidenceKey := .null
  evidenceLabel := .null
  contract := artifactContract
  contractHash := "23d7e2c78809b16aed558755baa0f7f6bbe314c6af3766d22ef485b5cf5d51e0"

def tupleSmoke (outcome : SmokeOutcome) (configHash : String) : TupleSmoke where
  tuple := smokedTuple
  outcome := outcome
  pollTimeoutSeconds := .number "180.0"
  startedAt := "2026-01-01T00:00:00+00:00"
  endedAt := "2026-01-01T00:00:01+00:00"
  observedWallSeconds := .number "1.0"
  commit := some "c0ffee"
  configHash := configHash
  governanceHash := .str "ab1e"
  costEstimate := none
  datarefEvidence := .obj []

/-- The one artifact of a route, from before the configuration changed. -/
def driftedFile (outcome : SmokeOutcome) : ValidationFile where
  path := "20260101T000001Z-modal-h100.json"
  mtime := 1
  data := some ((tupleSmoke outcome "01d").artifact "modal-h100" "text-infer-standard")

def driftedConfig : RefreshConfig where
  recipes := GovernanceCompiler.twoModalTuples.recipes
  tuples := { entries := [("modal-h100", GovernanceCompiler.modalTuple "modal-h100" 80 1)] }

def driftedCall (outcome : SmokeOutcome) : RefreshCall where
  now := 10000
  settings := ⟨some "c0ffee", some (some "5eed"), true⟩
  files := [driftedFile outcome]
  config := .ok driftedConfig

def syncOutcome : SmokeOutcome := .sync [("kind", .str "inline")]

def asyncOutcome : SmokeOutcome := .async "job-1" "COMPLETED" true false none none none

/-- The recipe allows both modes, and so every refresh smokes in the first. -/
def syncSmoke (outcome : SmokeOutcome) (mode : String) :
    PassedSmoke (driftedCall outcome) driftedConfig ("modal-h100", "text-infer-standard", mode) where
  smoke := tupleSmoke syncOutcome "5eed"
  mode_eq := rfl
  passed := by decide
  configHash := rfl
  write := {
    earlier := []
    replaced := none
    later := [driftedFile outcome]
    file := {
      path := "20260102T000001Z-modal-h100.json"
      mtime := 2
      data := some ((tupleSmoke syncOutcome "5eed").artifact "modal-h100" "text-infer-standard") }
    not_older := nofun }
  data_eq := rfl
  before_eq _ := rfl

theorem statusAccepted_refreshed_iff_sync :
    StatusAccepted artifactBuiltins (driftedCall syncOutcome).settings
        (syncSmoke syncOutcome "sync").filesAfter ("modal-h100", "text-infer-standard", "sync") ∧
      Throttled artifactBuiltins (refreshRun artifactBuiltins {}
        [driftedCall syncOutcome, driftedCall syncOutcome]) := by
  constructor
  · refine ((statusAccepted_refreshed_iff artifactBuiltins rfl).1 (driftedCall syncOutcome) {}
      driftedConfig _ "validation_config_hash_mismatch" rfl (by decide +kernel)
      (syncSmoke syncOutcome "sync")).mpr (Or.inl ⟨by decide, rfl, ?_, by decide +kernel, ?_, ?_⟩)
    · rintro commit ⟨⟩
      rfl
    · nofun
    · intro other hother _
      obtain rfl := List.mem_singleton.mp hother
      decide +kernel
  · exact (statusAccepted_refreshed_iff artifactBuiltins rfl).2 {} _ (by decide +kernel)

/-- The refresh picks the asynchronous route, smokes the synchronous one and leaves the first stale. -/
theorem not_statusAccepted_refreshed :
    ¬ ∀ (call : RefreshCall) (state : RefreshState) (config : RefreshConfig)
      (key : RouteValidationKey) (reason : String), call.config = .ok config →
      (refreshWatchRouteValidation artifactBuiltins call state).2 = .smoked key reason →
      ∀ passed : PassedSmoke call config key,
        StatusAccepted artifactBuiltins call.settings passed.filesAfter key := by
  intro h
  have hsmoked : (refreshWatchRouteValidation artifactBuiltins (driftedCall asyncOutcome) {}).2 =
      .smoked ("modal-h100", "text-infer-standard", "async") "validation_config_hash_mismatch" := by
    decide +kernel
  have haccepted := h (driftedCall asyncOutcome) {} driftedConfig _ _ rfl hsmoked
    (syncSmoke asyncOutcome "async")
  obtain hreaches | huncovers := (statusAccepted_filesAfter_iff rfl hsmoked _).mp haccepted
  · exact absurd hreaches.mode (by decide)
  · exact not_statusAccepted_of_smoked hsmoked huncovers.accepted

end Gpucall
