import Gpucall.Routing.FailClosed
import Gpucall.Routing.ValidationEvidence

/-! Live prices: `live_price_overlay` of `price_freshness.py` and the refresh of the catalog before a
request is compiled (`_refresh_runtime_live_price_evidence` of `app.py`). -/

namespace Gpucall

/-- What `float` returns. -/
inductive PyFloat where
  | finite (value : ℚ)
  | infinite
  | nan

/-- `float` of a text or of a number that was decoded from it, none for `ValueError`, and
`parse_time(text).isoformat()`. -/
structure PriceBuiltins extends Builtins where
  float : String → Option PyFloat
  isoformat : String → String

/-- The fields that live evidence updates. -/
structure PriceOverlay where
  costPerSecond : ℚ≥0
  configuredPriceSource : String
  configuredPriceObservedAt : String
  configuredPriceTtlSeconds : ℚ≥0

/-- `tuple.model_copy(update=overlay)` -/
def ExecutionTupleSpec.withOverlay (tuple : ExecutionTupleSpec) (overlay : PriceOverlay) :
    ExecutionTupleSpec :=
  { tuple with
    costPerSecond := overlay.costPerSecond
    configuredPriceSource := some overlay.configuredPriceSource
    configuredPriceObservedAt := some overlay.configuredPriceObservedAt
    configuredPriceTtlSeconds := some overlay.configuredPriceTtlSeconds }

/-- `value == text` -/
def isText (text : String) : Option Json → Bool
  | some (.str value) => value = text
  | _ => false

section

variable (env : Environment) (py : PriceBuiltins)

/-- `_finite_float` -/
def finiteFloat : Option Json → Option ℚ≥0
  | some (.number text) | some (.str text) =>
    match py.float text with
    | some (.finite value) => if h : 0 ≤ value then some ⟨value, h⟩ else none
    | _ => none
  | _ => none

/-- `(expires - observed).total_seconds()`, at least a second -/
def overlayTtl (observed expires : DateTime) : ℚ≥0 :=
  ⟨max 1 ((expires.toMicroseconds - observed.toMicroseconds : ℤ) / 1000000),
    le_max_of_le_left zero_le_one⟩

/-- The overlay of one finding, with the instant it was observed at. -/
def findingOverlay (now : DateTime) (finding : Json) : Option (DateTime × PriceOverlay) := do
  let .obj fields := finding | none
  let get key := fields.lookup key
  if !isText "price" (get "dimension") || isText "error" (get "severity") then none
  let price ← finiteFloat py (get "live_price_per_second")
  let observedText := strOrEmpty py.toBuiltins (get "observed_at")
  let observed ← env.parseTime observedText
  let expires ← env.parseTime (strOrEmpty py.toBuiltins (get "expires_at"))
  if expires ≤ now then none
  let source := ((get "live_price_source").filter Json.truthy).or ((get "source").filter Json.truthy)
  return (observed, {
    costPerSecond := price
    configuredPriceSource := (source.map (pyStr py.toBuiltins)).getD "provider-panopticon"
    configuredPriceObservedAt := py.isoformat observedText
    configuredPriceTtlSeconds := overlayTtl observed expires })

/-- The one that was observed later, the first one of several. -/
def laterOverlay (best : Option (DateTime × PriceOverlay)) (overlay : DateTime × PriceOverlay) :
    Option (DateTime × PriceOverlay) :=
  match best with
  | none => some overlay
  | some best => if best.1 < overlay.1 then some overlay else some best

def livePriceOverlay (evidence : Option Json) (now : DateTime) : Option PriceOverlay :=
  match evidence with
  | some (.obj fields) =>
    match fields.lookup "findings" with
    | some (.arr findings) =>
      ((findings.filterMap (findingOverlay env py now)).foldl laterOverlay none).map Prod.snd
    | _ => none
  | _ => none

def tupleWithLivePriceEvidence (tuple : ExecutionTupleSpec) (evidence : Option Json)
    (now : DateTime) : ExecutionTupleSpec :=
  match livePriceOverlay env py evidence now with
  | none => tuple
  | some overlay => tuple.withOverlay overlay

def tuplesWithLivePriceEvidence (tuples : Dict ExecutionTupleSpec)
    (evidenceByTuple : Option (Dict Json)) (now : DateTime) : Dict ExecutionTupleSpec where
  entries := tuples.entries.map fun entry =>
    (entry.1, tupleWithLivePriceEvidence env py entry.2 (evidenceByTuple.bind (·.get? entry.1)) now)
  nodup := by
    rw [List.map_map]
    exact tuples.nodup

/-- One refresh: the snapshot that was fetched, if it is a dictionary, and the reading of the clock. -/
structure Refresh where
  snapshot : Option (Dict Json)
  now : DateTime

/-- `_refresh_runtime_live_price_evidence`, what it does to the catalog of the compiler. -/
def refreshTuples (tuples : Dict ExecutionTupleSpec) (refresh : Refresh) : Dict ExecutionTupleSpec :=
  match refresh.snapshot with
  | none => tuples
  | some snapshot =>
    if snapshot.entries.isEmpty then tuples
    else tuplesWithLivePriceEvidence env py tuples (some snapshot) refresh.now

/-- The live price that a refresh has for a tuple. -/
def Refresh.overlay (refresh : Refresh) (name : String) : Option PriceOverlay :=
  livePriceOverlay env py (refresh.snapshot.bind (·.get? name)) refresh.now

/-- The live price of the last refresh that has one. -/
def lastOverlay (refreshes : List Refresh) (name : String) : Option PriceOverlay :=
  refreshes.reverse.findSome? (·.overlay env py name)

end

def ExecutionTupleSpec.applyOverlay (tuple : ExecutionTupleSpec) : Option PriceOverlay →
    ExecutionTupleSpec
  | none => tuple
  | some overlay => tuple.withOverlay overlay

section

variable {env : Environment} {py : PriceBuiltins} {tuples : Dict ExecutionTupleSpec}

theorem entries_tuplesWithLivePriceEvidence (refresh : Refresh) :
    (tuplesWithLivePriceEvidence env py tuples refresh.snapshot refresh.now).entries =
      tuples.entries.map fun entry =>
        (entry.1, entry.2.applyOverlay (refresh.overlay env py entry.1)) := by
  refine List.map_congr_left fun entry _ => ?_
  unfold tupleWithLivePriceEvidence Refresh.overlay
  cases livePriceOverlay env py (refresh.snapshot.bind (·.get? entry.1)) refresh.now <;> rfl

/-- An empty snapshot has no live price, so that the early return makes no difference. -/
theorem refreshTuples_eq (refresh : Refresh) : refreshTuples env py tuples refresh =
    tuplesWithLivePriceEvidence env py tuples refresh.snapshot refresh.now := by
  have hempty (h : ∀ name, refresh.overlay env py name = none) : tuples =
      tuplesWithLivePriceEvidence env py tuples refresh.snapshot refresh.now := by
    refine Dict.ext_entries ?_
    rw [entries_tuplesWithLivePriceEvidence]
    simp [h, ExecutionTupleSpec.applyOverlay]
  unfold refreshTuples
  split
  · next hnone => exact hempty fun name => by simp [Refresh.overlay, hnone, livePriceOverlay]
  · next snapshot hsome =>
    split
    · next hentries =>
      refine hempty fun name => ?_
      have hget : snapshot.get? name = none := by
        simp [Dict.get?, List.isEmpty_iff.mp hentries]
      simp [Refresh.overlay, hsome, hget, livePriceOverlay]
    · rw [hsome]

theorem lastOverlay_concat (earlier : List Refresh) (last : Refresh) (name : String) :
    lastOverlay env py (earlier ++ [last]) name =
      (last.overlay env py name).or (lastOverlay env py earlier name) := by
  unfold lastOverlay
  rw [List.reverse_append, List.reverse_singleton, List.singleton_append, List.findSome?_cons]
  cases last.overlay env py name <;> rfl

/-- After any refreshes a tuple has the price of the last one that had any. -/
theorem entries_refreshes (refreshes : List Refresh) :
    (refreshes.foldl (refreshTuples env py) tuples).entries = tuples.entries.map fun entry =>
      (entry.1, entry.2.applyOverlay (lastOverlay env py refreshes entry.1)) := by
  induction refreshes using List.reverseRecOn with
  | nil => simp [lastOverlay, ExecutionTupleSpec.applyOverlay]
  | append_singleton earlier last ih =>
    rw [List.foldl_append, List.foldl_cons, List.foldl_nil, refreshTuples_eq,
      entries_tuplesWithLivePriceEvidence, ih, List.map_map]
    refine List.map_congr_left fun entry _ => ?_
    simp only [Function.comp_apply, lastOverlay_concat]
    cases last.overlay env py entry.1 with
    | none => rfl
    | some overlay => cases lastOverlay env py earlier entry.1 <;> rfl

end

/-- The catalog after the refreshes is the configuration with the evidence of the last one exactly if
every tuple without a live price in it has its configured price already, or had no live price before. -/
theorem refreshes_eq_last_iff (env : Environment) (py : PriceBuiltins)
    (tuples : Dict ExecutionTupleSpec) (earlier : List Refresh) (last : Refresh) :
    (earlier ++ [last]).foldl (refreshTuples env py) tuples =
        tuplesWithLivePriceEvidence env py tuples last.snapshot last.now ↔
      ∀ entry ∈ tuples.entries, last.overlay env py entry.1 = none →
        ∀ overlay, lastOverlay env py earlier entry.1 = some overlay →
          entry.2.withOverlay overlay = entry.2 := by
  have hentries : (earlier ++ [last]).foldl (refreshTuples env py) tuples =
        tuplesWithLivePriceEvidence env py tuples last.snapshot last.now ↔
      ∀ entry ∈ tuples.entries,
        entry.2.applyOverlay (lastOverlay env py (earlier ++ [last]) entry.1) =
          entry.2.applyOverlay (last.overlay env py entry.1) := by
    constructor
    · intro h entry hentry
      have hmap := congrArg Dict.entries h
      rw [entries_refreshes, entries_tuplesWithLivePriceEvidence, List.map_inj_left] at hmap
      exact (Prod.mk.inj (hmap entry hentry)).2
    · intro h
      refine Dict.ext_entries ?_
      rw [entries_refreshes, entries_tuplesWithLivePriceEvidence]
      exact List.map_congr_left fun entry hentry => by rw [h entry hentry]
  rw [hentries]
  refine forall₂_congr fun entry _ => ?_
  rw [lastOverlay_concat]
  cases last.overlay env py entry.1 with
  | some overlay => simp
  | none => cases lastOverlay env py earlier entry.1 <;> simp [ExecutionTupleSpec.applyOverlay]

/-! ## A price that has vanished -/

def firstOfJanuary : DateTime := { year := 2026, month := 1, day := 1 }

def secondOfJanuary : DateTime := { year := 2026, month := 1, day := 2 }

def livePriceEnvironment : Environment :=
  { GovernanceCompiler.modalEnvironment with
    parseTime := fun text =>
      if text = "2026-01-01T00:00:00+00:00" then some firstOfJanuary
      else if text = "2026-01-02T00:00:00+00:00" then some secondOfJanuary
      else none }

def livePriceBuiltins : PriceBuiltins where
  repr _ := ""
  numberEq left right := left = right
  sha256 _ := ""
  float text := if text = "0.002" then some (.finite (2 / 1000)) else none
  isoformat text := text

def livePriceSnapshot : Dict Json where
  entries := [("modal-a10g", .obj [("findings", .arr [.obj [("dimension", .str "price"),
    ("severity", .str "info"), ("live_price_per_second", .number "0.002"),
    ("observed_at", .str "2026-01-01T00:00:00+00:00"),
    ("expires_at", .str "2026-01-02T00:00:00+00:00")]])])]

def configuredTuples : Dict ExecutionTupleSpec where
  entries := [("modal-a10g", GovernanceCompiler.modalTuple "modal-a10g" 24 (1 / 1000))]

/-- The live price of the day before stays when there is no evidence any more. -/
theorem vanished_price_stays :
    (([⟨some livePriceSnapshot, firstOfJanuary⟩, ⟨none, secondOfJanuary⟩].foldl
      (refreshTuples livePriceEnvironment livePriceBuiltins) configuredTuples).entries.map
        fun entry => entry.2.costPerSecond) = [2 / 1000] ∧
    ((tuplesWithLivePriceEvidence livePriceEnvironment livePriceBuiltins configuredTuples none
      secondOfJanuary).entries.map fun entry => entry.2.costPerSecond) = [1 / 1000] := by
  decide +kernel

end Gpucall
