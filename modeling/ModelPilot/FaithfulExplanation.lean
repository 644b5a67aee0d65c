import ModelPilot.GatewayConclusion
import ModelPilot.RankingProofs

/-! The explanation of a request against what its loop did: the final one is
always built, its lists are a partition of the configured pairs by eligibility
and admission, and the served pair is where the loop stopped. -/
namespace ModelPilot.GatewayService
open CandidateCalls Prefixes ModelRouter ExplanationFields RoutingExplanation

section Updates
variable {service : GatewayService} {requestedModel requestId : String}
  {attempts : Nat → AttemptWorld} {ranked : List RankedCandidate} {position : Position}
  {explanation : RoutingExplanation}

theorem zipIdx_keys (index : Nat) (ranked : List RankedCandidate) :
    (ranked.zipIdx index).map Position.key = ranked.map (·.candidate.key) := by
  have projected : Position.key = (·.candidate.key) ∘ (Prod.fst : Position → RankedCandidate) := rfl
  rw [projected, ← List.map_map, List.zipIdx_map_fst]

/-- Positions of a ranking with distinct pairs are told apart by their pairs. -/
theorem position_inj (distinct : (ranked.map (·.candidate.key)).Nodup)
    (first : position ∈ ranked.zipIdx) (second : other ∈ ranked.zipIdx)
    (same : Position.key position = Position.key other) : position = other := by
  rw [← zipIdx_keys 0] at distinct
  exact List.inj_on_of_nodup_map distinct first second same

/-- The verdicts the loop left. -/
def updatesOf (service : GatewayService) (requestedModel requestId : String)
    (attempts : Nat → AttemptWorld) (ranked : List RankedCandidate) :
    List (Key × HealthEligibility) :=
  (service.reached requestedModel requestId attempts ranked.zipIdx).filterMap
    (service.updateAt requestedModel requestId attempts)

theorem updates_nodup (distinct : (ranked.map (·.candidate.key)).Nodup) :
    ((service.updatesOf requestedModel requestId attempts ranked).map Prod.fst).Nodup := by
  have keys : ((service.reached requestedModel requestId attempts ranked.zipIdx).map
      Position.key).Nodup := by
    rw [← zipIdx_keys 0] at distinct
    exact distinct.sublist (upTo_sublist.map _)
  refine keys.sublist ?_
  unfold updatesOf
  generalize service.reached requestedModel requestId attempts ranked.zipIdx = positions
  induction positions with
  | nil => exact .slnil
  | cons head rest ih =>
    cases left : service.updateAt requestedModel requestId attempts head with
    | none =>
      rw [List.filterMap_cons_none left]
      exact ih.cons _
    | some entry =>
      obtain ⟨evidence, _, rfl⟩ := Option.map_eq_some_iff.mp left
      rw [List.filterMap_cons_some left]
      exact ih.cons_cons _

/-- The verdict under a ranked pair is the one its own turn left. -/
theorem get?_updates (service : GatewayService) (requestedModel requestId : String)
    (attempts : Nat → AttemptWorld) (distinct : (ranked.map (·.candidate.key)).Nodup)
    (member : position ∈ ranked.zipIdx) (evidence : HealthEligibility) :
    (Dict.ofList (service.updatesOf requestedModel requestId attempts ranked)).get?
        (Position.key position) = some evidence ↔
      position ∈ service.reached requestedModel requestId attempts ranked.zipIdx ∧
        service.updateAt requestedModel requestId attempts position =
          some (Position.key position, evidence) := by
  rw [Dict.get?_eq_some_iff, Dict.entries_ofList (updates_nodup distinct), updatesOf,
    List.mem_filterMap]
  constructor
  · rintro ⟨other, inside, left⟩
    have same := (update_turn left).1
    rw [position_inj distinct member (mem_of_mem_upTo inside) same]
    exact ⟨inside, same ▸ left⟩
  · rintro ⟨inside, left⟩
    exact ⟨position, inside, left⟩

/-- A ranked candidate leaves the ranking exactly when the loop reached it and
its admission was refused. -/
theorem keeps_iff (distinct : (ranked.map (·.candidate.key)).Nodup)
    (decided : ∀ position ∈ service.reached requestedModel requestId attempts ranked.zipIdx,
      service.Decides requestedModel (attempts position.2))
    (own : position.1.signal.key = Position.key position)
    (eligible : ∀ health ∈ position.1.signal.health, health.eligible = true)
    (member : position ∈ ranked.zipIdx) :
    keeps (Dict.ofList (service.updatesOf requestedModel requestId attempts ranked))
        position.1.signal = false ↔
      position ∈ service.reached requestedModel requestId attempts ranked.zipIdx ∧
        service.calledAt requestedModel attempts position = false := by
  have looked := get?_updates service requestedModel requestId attempts distinct member
  rw [keeps, verdict, own]
  cases found : (Dict.ofList (service.updatesOf requestedModel requestId attempts ranked)).get?
      (Position.key position) with
  | some evidence =>
    obtain ⟨inside, left⟩ := (looked evidence).mp found
    have decided : evidence.eligible = service.calledAt requestedModel attempts position :=
      (update_turn left).2
    simp only [Option.orElse_some, Option.all_some, decided]
    exact ⟨fun denied => ⟨inside, denied⟩, fun held => held.2⟩
  | none =>
    have stays : (position.1.signal.health.all (·.eligible)) = true := by
      rw [Option.all_eq_true]
      exact eligible
    simp only [Option.orElse_none, stays, Bool.true_eq_false, false_iff, not_and]
    intro inside denied
    obtain ⟨evidence, left⟩ := update_refused requestId (decided position inside) denied
    rw [(looked evidence).mpr ⟨inside, left⟩] at found
    cases found

end Updates

section Final
variable {float decimal : Rounding} {service : GatewayService}
  {request : ChatCompletionRequest float} {world : RequestWorld float}
  {ranked : List RankedCandidate} {explanation updated final : RoutingExplanation}

/-- The candidate was called by the loop, and its call failed. -/
def FailedIn (course : Course) (key : Key) : Prop :=
  (∃ index, (key, index) ∈ course.effects.filterMap callOf) ∧
    ∃ log ∈ course.attempts, log.key = key ∧ log.success = false

/-- An explanation that tells what the loop of a request did. -/
structure Faithful (service : GatewayService) (request : ChatCompletionRequest float)
    (world : RequestWorld float) (ranked : List RankedCandidate) (final : RoutingExplanation)
    (servedBy : Option Key) : Prop where
  distinct : (final.candidates.map (·.key) ++ final.excludedCandidates.map (·.key)).Nodup
  complete : ∀ key, key ∈ final.candidates.map (·.key) ++ final.excludedCandidates.map (·.key) ↔
    ∃ candidate ∈ service.router.candidates,
      service.router.providers.get? candidate.provider = some true ∧ candidate.key = key
  excluded : ∀ key, key ∈ final.excludedCandidates.map (·.key) ↔
    (key ∈ (service.router.available "auto").map (·.key) ∧
      (verdictOf world.ranking key).eligible = false) ∨
    ∃ position ∈ service.reached request.model world.requestId world.attempts ranked.zipIdx,
      position.key = key ∧ service.calledAt request.model world.attempts position = false
  uncalled : ∀ key ∈ final.excludedCandidates.map (·.key), ∀ index,
    (key, index) ∉ (courseOf service request world ranked).effects.filterMap callOf
  order : (final.candidates.map fun signal => (signal.key, signal.finalScore)).Sublist
    (ranked.map fun item => (item.candidate.key, item.score))
  signals : ∀ signal ∈ final.candidates, ∃ item ∈ ranked, signal.toSignalFields =
    { item.signal.toSignalFields with
      health := signal.health, rank := signal.rank, selected := signal.selected }
  ranks : final.candidates.map (·.rank) =
    (List.range final.candidates.length).map fun position => (position : Int) + 1
  selected : final.selected = final.candidates.head?
  servedPair : final.servedProvider = servedBy.map Prod.fst ∧
    final.servedModel = servedBy.map Prod.snd
  served : ∀ key, servedBy = some key → ∃ before signal later,
    final.candidates = before ++ signal :: later ∧ signal.key = key ∧
      ∀ other ∈ before, FailedIn (courseOf service request world ranked) other.key
  unserved : servedBy = none →
    ∀ signal ∈ final.candidates, FailedIn (courseOf service request world ranked) signal.key

/-- The candidates that stay ranked, and those that leave. -/
def staying (service : GatewayService) (request : ChatCompletionRequest float)
    (world : RequestWorld float) (ranked : List RankedCandidate) (stays : Bool) : List Position :=
  ranked.zipIdx.filter fun position => keeps (Dict.ofList (service.updatesOf request.model
    world.requestId world.attempts ranked)) position.1.signal == stays

/-- What the final explanation is made of: the updated one, with the served pair. -/
structure Ends (service : GatewayService) (request : ChatCompletionRequest float)
    (world : RequestWorld float) (ranked : List RankedCandidate)
    (explanation final : RoutingExplanation) : Prop where
  candidates : final.candidates = placed (verdict (Dict.ofList (service.updatesOf request.model
      world.requestId world.attempts ranked))) 0
    ((service.staying request world ranked true).map (·.1.signal))
  excluded : final.excludedCandidates.map (·.key) = explanation.excludedCandidates.map (·.key) ++
    (service.staying request world ranked false).map Position.key
  selected : final.selected = final.candidates.head?

/-- What is known of a request whose candidates were ranked automatically. -/
structure Automatic (service : GatewayService) (request : ChatCompletionRequest float)
    (world : RequestWorld float) (ranked : List RankedCandidate)
    (explanation : RoutingExplanation) : Prop where
  auto : request.model = "auto"
  ranking : ∃ evidence, Ranking service.router world.ranking request.model ranked evidence
  explained : Explained service.router world.ranking ranked world.requestId explanation
  decided : ∀ position ∈ service.reached request.model world.requestId world.attempts
    ranked.zipIdx, service.Decides request.model (world.attempts position.2)
  foreign : ∀ index, (world.attempts index).result ≠ .raised .candidateUnavailable

/-- A loop that was not broken off came to a verdict wherever it asked for one. -/
theorem decides_of_ended
    (ended : (∃ item response, (courseOf service request world ranked).ended =
        .served item response) ∨ (courseOf service request world ranked).ended = .exhausted)
    (position : Position) (reached : position ∈ service.reached request.model world.requestId
      world.attempts ranked.zipIdx) :
    service.Decides request.model (world.attempts position.2) := by
  by_contra naive
  have escaped : service.next request.model world.requestId world.attempts position =
      .escaped (.value "now must be timezone-aware") := by
    cases service.turn request.model world.requestId world.attempts position with
    | undecided _ _ invoked =>
      rw [next, invoked]
      rfl
    | refused decides => exact absurd decides naive
    | called decides => exact absurd decides naive
  have stops : service.stops request.model world.requestId world.attempts position = true := by
    rw [GatewayService.stops, escaped]
    rfl
  have found := find?_of_mem_upTo reached stops
  rw [courseOf, course_eq] at ended
  dsimp only at ended
  rw [found, Option.elim_some, endAt, escaped] at ended
  rcases ended with ⟨_, _, impossible⟩ | impossible <;> cases impossible

theorem automatic_of_ranked (auto : request.model = "auto")
    (ranks : service.router.rankWithExplanation decimal world.ranking request.model
      request.preferences world.requestId = .ok (ranked, some explanation))
    (decided : ∀ position ∈ service.reached request.model world.requestId world.attempts
      ranked.zipIdx, service.Decides request.model (world.attempts position.2))
    (foreign : ∀ index, (world.attempts index).result ≠ .raised .candidateUnavailable) :
    Automatic service request world ranked explanation := by
  obtain ⟨ranking, explained⟩ := rankWithExplanation_ok ranks
  rw [if_pos auto] at explained
  obtain ⟨_, same, explained⟩ := explained
  cases same
  exact ⟨auto, ranking, explained, decided, foreign⟩

namespace Automatic
variable (routed : Automatic service request world ranked explanation)
include routed

theorem nodup : (ranked.map (·.candidate.key)).Nodup := by
  obtain ⟨_, ranking⟩ := routed.ranking
  exact ranking.nodup

theorem scores {item : RankedCandidate} (member : item ∈ ranked) : Scores item := by
  obtain ⟨_, ranking⟩ := routed.ranking
  exact ranking.scores item member

theorem ranked_iff (key : Key) : key ∈ ranked.map (·.candidate.key) ↔
    key ∈ (service.router.available "auto").map (·.key) ∧
      (verdictOf world.ranking key).eligible = true := by
  obtain ⟨_, ranking⟩ := routed.ranking
  rw [ranking.keys, routed.auto]
  simp

theorem own {position : Position} (member : position ∈ ranked.zipIdx) :
    position.1.signal.key = position.key :=
  (routed.scores (List.fst_mem_of_mem_zipIdx member)).key

theorem keeps_iff {position : Position} (member : position ∈ ranked.zipIdx) :
    keeps (Dict.ofList (service.updatesOf request.model world.requestId world.attempts ranked))
        position.1.signal = false ↔
      position ∈ service.reached request.model world.requestId world.attempts ranked.zipIdx ∧
        service.calledAt request.model world.attempts position = false := by
  have eligible : ∀ health ∈ position.1.signal.health, health.eligible = true := by
    have parts := (sound_of_check explanation.valid).2
    have inside : position.1.signal ∈ explanation.candidates := by
      rw [routed.explained.candidates]
      exact List.mem_map_of_mem (List.fst_mem_of_mem_zipIdx member)
    exact parts.eligible _ inside
  exact GatewayService.keeps_iff routed.nodup routed.decided (routed.own member) eligible member

theorem filter_candidates (stays : Bool) :
    explanation.candidates.filter (fun signal => keeps (Dict.ofList (service.updatesOf
        request.model world.requestId world.attempts ranked)) signal == stays) =
      (service.staying request world ranked stays).map (·.1.signal) := by
  have signals : ranked.map (·.signal) = ranked.zipIdx.map (·.1.signal) := by
    have projected : (fun position : Position => position.1.signal) =
      (·.signal) ∘ (Prod.fst : Position → RankedCandidate) := rfl
    rw [projected, ← List.map_map, List.zipIdx_map_fst]
  rw [routed.explained.candidates, signals, List.filter_map, staying]
  rfl

theorem staying_keys (stays : Bool) :
    ((service.staying request world ranked stays).map (·.1.signal)).map (·.key) =
      (service.staying request world ranked stays).map Position.key := by
  rw [List.map_map]
  refine List.map_congr_left fun position member => ?_
  exact routed.own (List.mem_filter.mp member).1

theorem ends_of_updated (updated : Updated explanation (Dict.ofList (service.updatesOf
    request.model world.requestId world.attempts ranked)) final) :
    Ends service request world ranked explanation final := by
  have kept := routed.filter_candidates true
  have left := routed.filter_candidates false
  simp only [beq_true] at kept
  simp only [beq_false] at left
  refine ⟨by rw [updated.candidates, kept], ?_, updated.selected⟩
  rw [updated.excluded, left, routed.staying_keys]

theorem mem_staying {position : Position}
    (member : position ∈ service.staying request world ranked true) :
    position ∈ ranked.zipIdx ∧
      (position ∈ service.reached request.model world.requestId world.attempts ranked.zipIdx →
        service.calledAt request.model world.attempts position = true) := by
  obtain ⟨inside, stays⟩ := List.mem_filter.mp member
  refine ⟨inside, fun reached => ?_⟩
  by_contra denied
  have leaves := (routed.keeps_iff inside).mpr ⟨reached, by simpa using denied⟩
  rw [leaves] at stays
  cases stays

theorem mem_leaving {position : Position} : position ∈ service.staying request world ranked false ↔
      position ∈ service.reached request.model world.requestId world.attempts ranked.zipIdx ∧
        service.calledAt request.model world.attempts position = false := by
  rw [staying, List.mem_filter]
  constructor
  · rintro ⟨inside, leaves⟩
    exact (routed.keeps_iff inside).mp (by simpa using leaves)
  · intro refused
    have inside := mem_of_mem_upTo refused.1
    exact ⟨inside, by simpa using (routed.keeps_iff inside).mpr refused⟩

/-- A reached candidate that was called and did not stop the loop failed. -/
theorem failedIn {position : Position}
    (reached : position ∈ service.reached request.model world.requestId world.attempts
      ranked.zipIdx)
    (called : service.calledAt request.model world.attempts position = true)
    (passes : service.stops request.model world.requestId world.attempts position = false) :
    FailedIn (courseOf service request world ranked) position.key := by
  constructor
  · refine ⟨position.2, ?_⟩
    rw [courseOf, calls_course]
    exact List.mem_map_of_mem (List.mem_filter.mpr ⟨reached, called⟩)
  · have log : ∃ log, service.logAt request.model world.requestId world.attempts position =
        some log ∧ log.key = position.key ∧ log.success = false := by
      cases service.turn_outcome request.model world.requestId world.attempts position
          (routed.foreign position.2) with
      | skipped denied =>
        rw [called] at denied
        cases denied
      | overflowed _ _ next =>
        rw [stops, next] at passes
        cases passes
      | served _ _ _ _ next =>
        rw [stops, next] at passes
        cases passes
      | failed _ _ _ error next =>
        exact ⟨_, by rw [logAt, next], rfl, rfl⟩
      | broken _ next =>
        rcases next with ⟨error, next⟩ | next <;>
          · rw [stops, next] at passes
            cases passes
    obtain ⟨log, kept, own⟩ := log
    refine ⟨log, ?_, own⟩
    rw [courseOf, course_eq]
    exact List.mem_filterMap.mpr ⟨position, reached, kept⟩

/-- A position that the loop passes and that stays ranked was called and failed. -/
theorem failedIn_staying {passed : List Position}
    (reached : ∀ position ∈ passed, position ∈ service.reached request.model world.requestId
      world.attempts ranked.zipIdx)
    (passes : ∀ position ∈ passed,
      service.stops request.model world.requestId world.attempts position = false)
    {signal : RoutingSignal} {stay : Position → Bool}
    (stays : ∀ position ∈ passed, stay position = true →
      position ∈ service.staying request world ranked true)
    (member : signal ∈ placed verdicts start ((passed.filter stay).map (·.1.signal))) :
    FailedIn (courseOf service request world ranked) signal.key := by
  obtain ⟨other, inside, position, _, rfl⟩ := mem_placed member
  obtain ⟨turned, kept, rfl⟩ := List.mem_map.mp inside
  obtain ⟨before, stay⟩ := List.mem_filter.mp kept
  obtain ⟨listed, called⟩ := routed.mem_staying (stays turned before stay)
  rw [RoutingSignal.place_key, routed.own listed]
  exact routed.failedIn (reached turned before) (called (reached turned before))
    (passes turned before)

end Automatic

namespace Ends
variable (ends : Ends service request world ranked explanation final)
include ends

theorem keys (routed : Automatic service request world ranked explanation) :
    final.candidates.map (·.key) =
      (service.staying request world ranked true).map Position.key := by
  rw [ends.candidates, placed_keys, routed.staying_keys]

theorem excluded_iff (routed : Automatic service request world ranked explanation) (key : Key) :
    key ∈ final.excludedCandidates.map (·.key) ↔
    (key ∈ (service.router.available "auto").map (·.key) ∧
      (verdictOf world.ranking key).eligible = false) ∨
    ∃ position ∈ service.reached request.model world.requestId world.attempts ranked.zipIdx,
      position.key = key ∧ service.calledAt request.model world.attempts position = false := by
  rw [ends.excluded, List.mem_append, routed.explained.excluded]
  apply or_congr_right
  rw [List.mem_map]
  constructor
  · rintro ⟨position, leaves, named⟩
    obtain ⟨reached, denied⟩ := routed.mem_leaving.mp leaves
    exact ⟨position, reached, named, denied⟩
  · rintro ⟨position, reached, named, denied⟩
    exact ⟨position, routed.mem_leaving.mpr ⟨reached, denied⟩, named⟩

theorem complete_iff (routed : Automatic service request world ranked explanation) (key : Key) :
    key ∈ final.candidates.map (·.key) ++ final.excludedCandidates.map (·.key) ↔
    ∃ candidate ∈ service.router.candidates,
      service.router.providers.get? candidate.provider = some true ∧ candidate.key = key := by
  have configured := mem_available_keys service.router "auto" key
  simp only [ne_eq, not_true_eq_false, false_implies, true_and] at configured
  rw [← configured, List.mem_append, ends.keys routed, ends.excluded, List.mem_append,
    routed.explained.excluded]
  have ranks := routed.ranked_iff key
  rw [← zipIdx_keys 0] at ranks
  constructor
  · rintro (stays | ⟨inside, _⟩ | leaves)
    · exact (ranks.mp ((List.filter_sublist.map _).subset stays)).1
    · exact inside
    · exact (ranks.mp ((List.filter_sublist.map _).subset leaves)).1
  · intro inside
    cases verdict : (verdictOf world.ranking key).eligible with
    | false => exact .inr (.inl ⟨inside, rfl⟩)
    | true =>
      obtain ⟨position, member, named⟩ := List.mem_map.mp (ranks.mpr ⟨inside, verdict⟩)
      cases stays : keeps (Dict.ofList (service.updatesOf request.model world.requestId
          world.attempts ranked)) position.1.signal with
      | true =>
        exact .inl (List.mem_map.mpr ⟨position, List.mem_filter.mpr ⟨member, by simpa using stays⟩,
          named⟩)
      | false =>
        exact .inr (.inr (List.mem_map.mpr ⟨position,
          List.mem_filter.mpr ⟨member, by simpa using stays⟩, named⟩))

/-- An excluded pair was not called. -/
theorem uncalled (routed : Automatic service request world ranked explanation)
    (excluded : key ∈ final.excludedCandidates.map (·.key)) (index : Nat) :
    (key, index) ∉ (courseOf service request world ranked).effects.filterMap callOf := by
  rw [courseOf, calls_course, List.mem_map]
  rintro ⟨position, member, same⟩
  cases same
  obtain ⟨reached, called⟩ := List.mem_filter.mp member
  have inside := mem_of_mem_upTo reached
  rcases (ends.excluded_iff routed _).mp excluded with ⟨_, ineligible⟩ |
    ⟨other, otherReached, same, denied⟩
  · have listed : position.key ∈ ranked.map (·.candidate.key) := by
      rw [← zipIdx_keys 0]
      exact List.mem_map_of_mem inside
    rw [((routed.ranked_iff _).mp listed).2] at ineligible
    cases ineligible
  · rw [position_inj routed.nodup (mem_of_mem_upTo otherReached) inside same, called] at denied
    cases denied

/-- Scores and everything else a ranked signal says stay as they were ranked. -/
theorem signals {signal : RoutingSignal} (member : signal ∈ final.candidates) :
    ∃ item ∈ ranked, signal.toSignalFields = { item.signal.toSignalFields with
      health := signal.health, rank := signal.rank, selected := signal.selected } := by
  rw [ends.candidates] at member
  obtain ⟨other, inside, position, _, rfl⟩ := mem_placed member
  obtain ⟨turned, kept, rfl⟩ := List.mem_map.mp inside
  exact ⟨turned.1, List.fst_mem_of_mem_zipIdx (List.mem_filter.mp kept).1, rfl⟩

theorem order (routed : Automatic service request world ranked explanation) :
    (final.candidates.map fun signal => (signal.key, signal.finalScore)).Sublist
      (ranked.map fun item => (item.candidate.key, item.score)) := by
  have placedPairs : ∀ start signals, ((placed (verdict (Dict.ofList (service.updatesOf
      request.model world.requestId world.attempts ranked))) start signals).map fun signal =>
        (signal.key, signal.finalScore)) =
      signals.map fun signal => (signal.key, signal.finalScore) := by
    intro start signals
    induction signals generalizing start with
    | nil => rfl
    | cons signal rest ih => simp [placed, ih]; rfl
  have items : (ranked.map fun item => (item.candidate.key, item.score)) =
      ranked.zipIdx.map fun position => (position.1.signal.key, position.1.signal.finalScore) := by
    have projected : (fun position : Position =>
        (position.1.signal.key, position.1.signal.finalScore)) =
      (fun item : RankedCandidate => (item.signal.key, item.signal.finalScore)) ∘ Prod.fst := rfl
    rw [projected, ← List.map_map, List.zipIdx_map_fst]
    refine List.map_congr_left fun item member => ?_
    rw [(routed.scores member).key, (routed.scores member).score]
  rw [ends.candidates, placedPairs, items, List.map_map]
  exact List.filter_sublist.map _

/-- The explanation of a loop that ended with or without a response is faithful,
when it names the pair that served it. -/
theorem faithful (routed : Automatic service request world ranked explanation)
    (pair : final.servedProvider = servedBy.map Prod.fst ∧
      final.servedModel = servedBy.map Prod.snd)
    (served : ∀ key, servedBy = some key → ∃ before signal later,
      final.candidates = before ++ signal :: later ∧ signal.key = key ∧
        ∀ other ∈ before, FailedIn (courseOf service request world ranked) other.key)
    (unserved : servedBy = none → ∀ signal ∈ final.candidates,
      FailedIn (courseOf service request world ranked) signal.key) :
    Faithful service request world ranked final servedBy := by
  have parts := (sound_of_check final.valid).2
  refine ⟨?_, ends.complete_iff routed, ends.excluded_iff routed,
    fun key excluded index => ends.uncalled routed excluded index, ends.order routed,
    fun signal member => ends.signals member, ?_, ends.selected, pair, served, unserved⟩
  · exact List.nodup_append'.mpr ⟨parts.unique, parts.excludedUnique,
      fun key ranked => parts.apart key ranked⟩
  · rw [ends.candidates, placed_ranks, placed_length, List.range_eq_range']

/-- Where the served position stands in the final ranking. -/
theorem served_place (routed : Automatic service request world ranked explanation)
    {position : Position} {response : Payload}
    (found : ranked.zipIdx.find? (service.stops request.model world.requestId world.attempts) =
      some position)
    (next : service.next request.model world.requestId world.attempts position =
      .served response) :
    ∃ before signal later, final.candidates = before ++ signal :: later ∧
      signal.key = position.key ∧
      ∀ other ∈ before, FailedIn (courseOf service request world ranked) other.key := by
  obtain ⟨passed, later, split, read, passes⟩ := upTo_of_find?_some found
  have member : position ∈ ranked.zipIdx := List.mem_of_find?_eq_some found
  have called : service.calledAt request.model world.attempts position = true := by
    cases service.turn_outcome request.model world.requestId world.attempts position
        (routed.foreign position.2) with
    | skipped _ skipped =>
      rw [next] at skipped
      cases skipped
    | overflowed allowed => exact allowed
    | served allowed => exact allowed
    | failed allowed => exact allowed
    | broken _ broke =>
      rcases broke with ⟨error, broke⟩ | broke <;>
        · rw [next] at broke
          cases broke
  have stays : keeps (Dict.ofList (service.updatesOf request.model world.requestId world.attempts
      ranked)) position.1.signal = true := by
    by_contra leaves
    have refused := (routed.keeps_iff member).mp (by simpa using leaves)
    rw [called] at refused
    cases refused.2
  have list : service.staying request world ranked true = (passed.filter fun other =>
      keeps (Dict.ofList (service.updatesOf request.model world.requestId world.attempts
        ranked)) other.1.signal == true) ++ position :: later.filter fun other =>
      keeps (Dict.ofList (service.updatesOf request.model world.requestId world.attempts
        ranked)) other.1.signal == true := by
    rw [staying, split, List.filter_append, List.filter_cons_of_pos (by simpa using stays)]
  rw [ends.candidates, list, List.map_append, List.map_cons, placed_append, placed]
  refine ⟨_, _, _, rfl, routed.own member, fun other inside => ?_⟩
  refine routed.failedIn_staying (fun turned before => ?_) passes (fun turned before kept => ?_)
    inside
  · rw [reached, read]
    exact List.mem_append_left _ before
  · refine List.mem_filter.mpr ⟨?_, kept⟩
    rw [split]
    exact List.mem_append_left _ before

theorem unserved_failed (routed : Automatic service request world ranked explanation)
    (exhausted : ranked.zipIdx.find? (service.stops request.model world.requestId
      world.attempts) = none) (signal : RoutingSignal) (member : signal ∈ final.candidates) :
    FailedIn (courseOf service request world ranked) signal.key := by
  have everything : service.reached request.model world.requestId world.attempts ranked.zipIdx =
      ranked.zipIdx := upTo_of_find?_none exhausted
  rw [ends.candidates, staying] at member
  have reaches : ∀ position ∈ ranked.zipIdx, position ∈ service.reached request.model
      world.requestId world.attempts ranked.zipIdx := by
    rw [everything]
    exact fun _ inside => inside
  refine routed.failedIn_staying reaches (fun turned inside => ?_)
    (fun turned inside kept => List.mem_filter.mpr ⟨inside, kept⟩) member
  simpa using List.find?_eq_none.mp exhausted turned inside

end Ends

section Built

theorem updates_course : (courseOf service request world ranked).updates =
    service.updatesOf request.model world.requestId world.attempts ranked := by
  rw [courseOf, course_eq, updatesOf]

/-- The final explanation of a served pair that is still ranked in it. -/
theorem finalRouting_built {updated : RoutingExplanation} {key : Key} {signal : RoutingSignal}
    (built : explanation.withHealthUpdates (Dict.ofList (service.updatesOf request.model
      world.requestId world.attempts ranked)) = .ok updated)
    (holds : Updated explanation (Dict.ofList (service.updatesOf request.model world.requestId
      world.attempts ranked)) updated)
    (listed : signal ∈ updated.candidates) (own : signal.key = key) :
    ∃ final : RoutingExplanation,
      finalRouting (some explanation) (courseOf service request world ranked).updates (some key) =
        .ok (some final) ∧
      final.toExplanationFields = { updated.toExplanationFields with
        servedProvider := some key.1, servedModel := some key.2 } := by
  subst own
  obtain ⟨final, served, fields⟩ := withServedBy_ok signal.named holds (List.ne_nil_of_mem listed)
  refine ⟨final, ?_, fields⟩
  rw [finalRouting, updates_course, built]
  simp only [bind, Except.bind, SignalFields.key, served]

/-- After a served response the final explanation is built and faithful. -/
theorem finalRouting_served (routed : Automatic service request world ranked explanation)
    {item : RankedCandidate} {response : Payload}
    (ended : (courseOf service request world ranked).ended = .served item response) :
    ∃ final, finalRouting (some explanation) (courseOf service request world ranked).updates
        (some item.candidate.key) = .ok (some final) ∧
      Faithful service request world ranked final (some item.candidate.key) := by
  rcases service.course_ended request.model world.requestId world.attempts 0 ranked with
    ⟨_, exhausted⟩ | ⟨position, found, stopped, _⟩
  · rw [courseOf, exhausted] at ended
    cases ended
  · rw [courseOf, stopped] at ended
    obtain ⟨rfl, next⟩ := service.endAt_served _ _ _ ended
    obtain ⟨updated, built, holds⟩ := explanation.withHealthUpdates_ok
      (Dict.ofList (service.updatesOf request.model world.requestId world.attempts ranked))
      routed.explained.unserved
    have ends := routed.ends_of_updated holds
    obtain ⟨before, signal, later, list, own, failed⟩ := ends.served_place routed found next
    have listed : signal ∈ updated.candidates := by
      rw [list]
      exact List.mem_append_right _ List.mem_cons_self
    obtain ⟨final, served, fields⟩ := finalRouting_built built holds listed own
    have moved : Ends service request world ranked explanation final :=
      ⟨by rw [fields]; exact ends.candidates, by rw [fields]; exact ends.excluded,
        by rw [fields]; exact ends.selected⟩
    refine ⟨final, served, moved.faithful routed (by rw [fields]; exact ⟨rfl, rfl⟩) ?_ (by simp)⟩
    intro key same
    cases same
    exact ⟨before, signal, later, by rw [fields]; exact list, own, failed⟩

/-- After an exhausted ranking the final explanation is built and faithful. -/
theorem finalRouting_exhausted (routed : Automatic service request world ranked explanation)
    (ended : (courseOf service request world ranked).ended = .exhausted) :
    ∃ final, finalRouting (some explanation) (courseOf service request world ranked).updates none =
        .ok (some final) ∧
      Faithful service request world ranked final none := by
  rcases service.course_ended request.model world.requestId world.attempts 0 ranked with
    ⟨exhausted, _⟩ | ⟨position, found, stopped, apart⟩
  · obtain ⟨updated, built, holds⟩ := explanation.withHealthUpdates_ok
      (Dict.ofList (service.updatesOf request.model world.requestId world.attempts ranked))
      routed.explained.unserved
    have ends := routed.ends_of_updated holds
    refine ⟨updated, ?_, ends.faithful routed holds.unserved (by simp) fun _ signal member =>
      ends.unserved_failed routed exhausted signal member⟩
    rw [finalRouting, updates_course, built]
    rfl
  · rw [courseOf, stopped] at ended
    exact absurd ended apart

end Built

end Final
end ModelPilot.GatewayService
