import ModelPilot.RoutingScores

/-! Ranking of the configured candidates (`ModelRouter._rank`) and the routing
explanation that goes with it (`rank_with_explanation`). -/
namespace ModelPilot

/-- Where benchmark quality comes from: the suite it is about, and the dumped
snapshot of a pair, which may be missing or raise. -/
structure QualitySource where
  suiteIdentity : String × String × String
  getQualitySnapshot : Key → Except PyError (Option (SnapshotFields Datetime))

/-- The registered providers, each `configured` or not, and the candidates. -/
structure ModelRouter where
  providers : Dict String Bool
  candidates : List ModelCandidate

/-- What a ranking reads: the clock and the stores the router has, each of which
may raise. -/
structure RankingReads (float : Rounding) where
  now : Datetime
  healthStore : Option HealthReads := none
  metrics : Option (Except PyError (List (ProviderMetricsSnapshot float))) := none
  qualitySource : Option QualitySource := none

namespace ModelRouter
variable {float : Rounding} (decimal : Rounding)

/-- Configured candidates of the requested model, one for each pair: the place of
its first entry, the values of its last. -/
def available (router : ModelRouter) (requestedModel : String) : List ModelCandidate :=
  let configured := router.candidates.filter fun candidate =>
    router.providers.get? candidate.provider = some true
  let requested :=
    if requestedModel ≠ "auto" then configured.filter (·.model = requestedModel) else configured
  (Dict.ofList (requested.map fun item => (item.key, item))).values

/-- `_read_snapshots`. -/
def readSnapshots (metrics : Option (Except PyError (List (ProviderMetricsSnapshot float))))
    (candidates : List ModelCandidate) : Dict Key (ProviderMetricsSnapshot float) :=
  match metrics with
  | some (.ok snapshots) =>
    Dict.ofList ((snapshots.filter fun snapshot =>
      snapshot.key ∈ candidates.map (·.key)).map fun snapshot => (snapshot.key, snapshot))
  | _ => .empty

/-- One lookup of `_read_quality_snapshots`: a snapshot that re-validates and is
about the pair and the suite asked for. -/
def readQualitySnapshot (float : Rounding) (source : QualitySource) (key : Key) :
    Except PyError (Option (QualitySnapshot float)) := do
  match ← source.getQualitySnapshot key with
  | none => .ok none
  | some dumped => do
    let snapshot ← QualitySnapshot.modelValidate float dumped
    require ((snapshot.provider, snapshot.model) = key ∧
      (snapshot.suiteId, snapshot.suiteVersion, snapshot.suiteFingerprint) = source.suiteIdentity)
      "quality snapshot identity mismatch"
    .ok (some snapshot)

/-- `_read_quality_snapshots`; a lookup that raises counts as missing. -/
def readQualitySnapshots (source : Option QualitySource) (candidates : List ModelCandidate) :
    Dict Key (QualitySnapshot float) :=
  match source with
  | none => .empty
  | some source => candidates.foldl (fun snapshots candidate =>
      match readQualitySnapshot float source candidate.key with
      | .ok (some snapshot) => snapshots.set candidate.key snapshot
      | _ => snapshots) .empty

/-- Best score first, ties by provider and model. -/
def rankingKey (item : RankedCandidate) : ℚ ×ₗ String ×ₗ String :=
  toLex (-item.score, toLex (item.candidate.provider, item.candidate.model))

/-- The scored candidates in order, each signal placed with its health. -/
def place (evidence : Dict Key HealthEligibility) (scored : List RankedCandidate) :
    List RankedCandidate :=
  (sortedBy rankingKey scored).mapIdx fun position item =>
    { item with signal := item.signal.place (evidence.get? item.candidate.key) position }

/-- `_rank`, and the health evidence it collects. -/
def rank (router : ModelRouter) (reads : RankingReads float) (requestedModel : String)
    (preferences : RoutingPreferences float) :
    Except PyError (List RankedCandidate × Dict Key HealthEligibility) := do
  let weights := preferences.normalized
  let available := router.available requestedModel
  let evidence ←
    if requestedModel = "auto" then
      evaluateHealth reads.healthStore (available.map (·.key)) reads.now
    else .ok .empty
  let eligible :=
    if requestedModel = "auto" then
      available.filter fun item => (evidence.get? item.key).any (·.eligible)
    else available
  let snapshots :=
    if requestedModel = "auto" then readSnapshots reads.metrics eligible else .empty
  let qualitySnapshots :=
    if requestedModel = "auto" then readQualitySnapshots reads.qualitySource eligible else .empty
  let scored ← eligible.mapM fun candidate =>
    RoutingScores.scoreCandidate float decimal candidate weights
      (snapshots.get? candidate.key) (qualitySnapshots.get? candidate.key)
  .ok (place evidence scored, evidence)

/-- The excluded candidates, sorted by their pairs. -/
def exclusions (evidence : Dict Key HealthEligibility) :
    Except PyError (List ExcludedRoutingCandidate) :=
  let sorted := sortedBy (fun entry => toLex entry.1) evidence.entries
  (sorted.filter (!·.2.eligible)).mapM fun entry =>
    ExcludedRoutingCandidate.modelValidate ⟨entry.1.1, entry.1.2, entry.2⟩

/-- `rank_with_explanation`; an explicit model has no explanation. -/
def rankWithExplanation (router : ModelRouter) (reads : RankingReads float)
    (requestedModel : String) (preferences : RoutingPreferences float) (requestId : String) :
    Except PyError (List RankedCandidate × Option RoutingExplanation) := do
  let (ranked, evidence) ← router.rank decimal reads requestedModel preferences
  if requestedModel ≠ "auto" then .ok (ranked, none)
  else
    let excludedCandidates ← exclusions evidence
    let first := ranked.head?
    let explanation ← RoutingExplanation.modelValidate
      { requestId
        routingVersion := if reads.qualitySource.isSome then "v0.4" else "v0.3"
        strategy := "weighted_measured_v1"
        selectedProvider := first.map (·.candidate.provider)
        selectedModel := first.map (·.candidate.model)
        selected := first.map (·.signal)
        candidates := ranked.map (·.signal)
        createdAt := reads.now
        excludedCandidates }
    .ok (ranked, some explanation)

end ModelRouter
end ModelPilot
