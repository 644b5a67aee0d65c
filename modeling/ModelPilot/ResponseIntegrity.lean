import ModelPilot.RoutingReport

/-! What becomes of a provider's response: the gateway returns it with its own
extension, unless the response brings a `modelpilot` member of its own that stands
in the way. -/
namespace ModelPilot.GatewayService
open CandidateCalls Prefixes ModelRouter RoutingExplanation ExplanationFields

variable {float decimal : Rounding} {service : GatewayService}
  {request : ChatCompletionRequest float} {world : RequestWorld float}
  {ranked : List RankedCandidate} {routing : Option RoutingExplanation}

/-- The pair was called at the attempt index, and its outcome is a success with
the response. -/
structure Succeeded (world : RequestWorld float) (completed : Completed) (key : Key) (index : Nat)
    (response : Payload) : Prop where
  called : (key, index) ∈ completed.effects.filterMap callOf
  outcome : ∃ outcome, (world.attempts index).result = .outcome outcome ∧
    outcome.success = true ∧ outcome.response = some response

/-- The response with the extension of this gateway: its own members are kept,
and `routing` is the final explanation of an automatic request. -/
structure Extends (service : GatewayService) (world : RequestWorld float) (item : RankedCandidate)
    (attempts : Nat) (final : Option RoutingExplanation) (response payload : Payload)
    (members : List (String × Json)) : Prop where
  core : ∀ name, name ≠ "modelpilot" → payload.get? name = response.get? name
  extension : payload.get? "modelpilot" = some (.obj members)
  requestId : DictEntries.lookup "request_id" members = some (.str world.requestId)
  provider : DictEntries.lookup "provider" members = some (.str item.candidate.provider)
  score : DictEntries.lookup "score" members = some (.float item.score)
  attempts : DictEntries.lookup "attempts" members = some (.int attempts)
  servedBy : DictEntries.lookup "served_by" members =
    some (.obj [("provider", .str item.candidate.provider), ("model", .str item.candidate.model)])
  routing : DictEntries.lookup "routing" members = final.map service.modelDump

/-- The request returns the response of the attempt, extended. -/
def ReturnsExtended (service : GatewayService) (decimal : Rounding)
    (request : ChatCompletionRequest float) (world : RequestWorld float) (key : Key) (index : Nat)
    (response : Payload) : Prop :=
  ∃ ranked routing item final payload members,
    service.router.rankWithExplanation decimal world.ranking request.model request.preferences
      world.requestId = .ok (ranked, routing) ∧
    ranked[index]? = some item ∧ item.candidate.key = key ∧
    finalRouting routing (courseOf service request world ranked).updates (some key) = .ok final ∧
    (final.isSome = true ↔ request.model = "auto") ∧
    (service.complete decimal request world).completion = .returned payload ∧
    Extends service world item (service.complete decimal request world).attempts.length final
      response payload members

/-- The response has no `modelpilot` member, or an object, which for an explicit
request has no `routing` of its own. -/
def Mergeable (request : ChatCompletionRequest float) (response : Payload) : Prop :=
  ∀ member, response.get? "modelpilot" = some member → ∃ previous, member = .obj previous ∧
    (request.model ≠ "auto" → DictEntries.lookup "routing" previous = none)

section Members
variable {response payload : Payload} {item : RankedCandidate} {attempts : List AttemptLog}
  {final : Option RoutingExplanation}

theorem mergeable_iff : Mergeable request response ↔ Extensible response ∧
    (request.model ≠ "auto" → DictEntries.lookup "routing" (ownMembers response) = none) := by
  constructor
  · intro mergeable
    refine ⟨fun member found => ?_, fun explicit => ?_⟩
    · obtain ⟨previous, same, _⟩ := mergeable member found
      exact ⟨previous, same⟩
    · unfold ownMembers
      split
      · rename_i previous found
        obtain ⟨_, same, absent⟩ := mergeable _ found
        cases same
        exact absent explicit
      · rfl
  · rintro ⟨extensible, absent⟩ member found
    obtain ⟨previous, rfl⟩ := extensible member found
    refine ⟨previous, rfl, fun explicit => ?_⟩
    have own := absent explicit
    rw [ownMembers, found] at own
    exact own

/-- What the extension puts under a name. -/
theorem lookup_extension (service : GatewayService) (requestId name : String)
    (item : RankedCandidate) (attempts : List AttemptLog) (final : Option RoutingExplanation)
    (previous : List (String × Json)) :
    DictEntries.lookup name ((service.extension requestId item attempts final).foldl
        (fun object member => DictEntries.insert member.1 member.2 object) previous) =
      (DictEntries.lookup name (service.extension requestId item attempts final).reverse).orElse
        fun _ => DictEntries.lookup name previous :=
  DictEntries.lookup_foldl_insert name _ previous

/-- The extended response carries the extension; its `routing` is that of the
gateway when there is one, and else the response's own. -/
theorem extends_iff (service : GatewayService) (world : RequestWorld float)
    (item : RankedCandidate) (attempts : List AttemptLog) (final : Option RoutingExplanation)
    (response : Payload) :
    (∃ members, Extends service world item attempts.length final response
      (response.set "modelpilot" (.obj
        ((service.extension world.requestId item attempts final).foldl
          (fun object member => DictEntries.insert member.1 member.2 object)
          (ownMembers response)))) members) ↔
      (final = none → DictEntries.lookup "routing" (ownMembers response) = none) := by
  have routed := service.lookup_extension world.requestId "routing" item attempts final
    (ownMembers response)
  constructor
  · rintro ⟨members, held⟩ rfl
    have same := held.extension
    rw [Dict.get?_set_self] at same
    cases same
    have absent := held.routing
    rw [routed] at absent
    simpa [extension, DictEntries.lookup] using absent
  · intro own
    have shown {name : String} {value : Json} (present : DictEntries.lookup name
        (service.extension world.requestId item attempts final).reverse = some value) :
        DictEntries.lookup name ((service.extension world.requestId item attempts final).foldl
          (fun object member => DictEntries.insert member.1 member.2 object)
          (ownMembers response)) = some value := by
      rw [lookup_extension, present]
      rfl
    refine ⟨_, fun name other => Dict.get?_set_ne _ _ (Ne.symm other), Dict.get?_set_self _ _ _,
      shown ?_, shown ?_, shown ?_, shown ?_, shown ?_, ?_⟩
    iterate 5 (cases final <;> simp [extension, DictEntries.lookup])
    rw [routed]
    cases final with
    | none => simp [extension, DictEntries.lookup, own rfl]
    | some explanation => simp [extension, DictEntries.lookup]

end Members

section Served
variable {completed : Completed} {key : Key} {index : Nat} {response : Payload}

/-- A success opens no circuit. -/
theorem contained_of_success {world : AttemptWorld} {outcome : ProviderOutcome}
    (ended : world.result = .outcome outcome) (success : outcome.success = true) :
    ¬ CooldownOverflows service world := by
  rintro ⟨_, other, _, _, _, also, _, _, overflows⟩
  rw [ended] at also
  cases also
  exact ProviderOutcome.not_counted_of_success success overflows.counted

/-- The loop ends where a call succeeds, and serves its response. -/
theorem served_of_succeeded
    (called : (key, index) ∈ (courseOf service request world ranked).effects.filterMap callOf)
    {outcome : ProviderOutcome} (ended : (world.attempts index).result = .outcome outcome)
    (success : outcome.success = true) (given : outcome.response = some response) :
    ∃ item, ranked[index]? = some item ∧ item.candidate.key = key ∧
      (courseOf service request world ranked).ended = .served item response := by
  rw [courseOf, calls_course, List.mem_map] at called
  obtain ⟨position, member, same⟩ := called
  cases same
  obtain ⟨inside, allowed⟩ := List.mem_filter.mp member
  have next : service.next request.model world.requestId world.attempts position =
      .served response := by
    rw [next_called world.requestId allowed]
    rcases afterCall_cases service (world.attempts position.2) with ⟨_, kept⟩ | ⟨overflows, _⟩
    · rw [kept, ended]
      simp [nextStep, success, given]
    · exact absurd overflows (contained_of_success ended success)
  have stops : service.stops request.model world.requestId world.attempts position = true := by
    rw [GatewayService.stops, next]
    rfl
  have found := find?_of_mem_upTo inside stops
  have placed := List.mem_zipIdx_iff_getElem?.mp (mem_of_mem_upTo inside)
  refine ⟨position.1, placed, rfl, ?_⟩
  rw [courseOf, course_eq]
  dsimp only
  rw [found, Option.elim_some, endAt, next]

/-- A loop serves a candidate that was called. -/
theorem mem_of_served {item : RankedCandidate}
    (ended : (courseOf service request world ranked).ended = .served item response) :
    ∃ position ∈ ranked.zipIdx, position.1 = item ∧
      service.calledAt request.model world.attempts position = true := by
  rcases service.course_ended request.model world.requestId world.attempts 0 ranked with
    ⟨_, exhausted⟩ | ⟨position, found, stopped, _⟩
  · rw [courseOf, exhausted] at ended
    cases ended
  · rw [courseOf, stopped] at ended
    obtain ⟨same, next⟩ := service.endAt_served _ _ _ ended
    refine ⟨position, List.mem_of_find?_eq_some found, same, ?_⟩
    rw [GatewayService.next] at next
    cases service.turn request.model world.requestId world.attempts position with
    | undecided _ _ invoked =>
      rw [invoked] at next
      cases next
    | refused _ _ _ _ invoked =>
      rw [invoked] at next
      cases next
    | called _ allowed => exact allowed

/-- The served candidate stays in the explanation, which is built. -/
theorem finalRouting_of_served (ranks : service.router.rankWithExplanation decimal world.ranking
      request.model request.preferences world.requestId = .ok (ranked, routing))
    {item : RankedCandidate}
    (ended : (courseOf service request world ranked).ended = .served item response) :
    ∃ final, finalRouting routing (courseOf service request world ranked).updates
        (some item.candidate.key) = .ok final ∧
      (final.isSome = true ↔ request.model = "auto") := by
  obtain ⟨⟨evidence, ranking⟩, explained⟩ := rankWithExplanation_ok ranks
  by_cases auto : request.model = "auto"
  · rw [if_pos auto] at explained
    obtain ⟨explanation, rfl, explained⟩ := explained
    have member := mem_of_served ended
    obtain ⟨position, inside, rfl, allowed⟩ := member
    have own := ranking.scores position.1 (List.fst_mem_of_mem_zipIdx inside)
    have listed : position.1.signal ∈ explanation.candidates := by
      rw [explained.candidates]
      exact List.mem_map_of_mem (List.fst_mem_of_mem_zipIdx inside)
    have eligible := (sound_of_check explanation.valid).2.eligible _ listed
    have stays : keeps (Dict.ofList (service.updatesOf request.model world.requestId
        world.attempts ranked)) position.1.signal = true := by
      by_contra leaves
      have refused := (GatewayService.keeps_iff ranking.nodup
        (decides_of_ended (.inl ⟨_, _, ended⟩)) own.key eligible inside).mp (by simpa using leaves)
      rw [allowed] at refused
      cases refused.2
    obtain ⟨updated, built, holds⟩ := explanation.withHealthUpdates_ok
      (Dict.ofList (service.updatesOf request.model world.requestId world.attempts ranked))
      explained.unserved
    have kept : position.1.candidate.key ∈ updated.candidates.map (·.key) := by
      rw [holds.candidates, placed_keys]
      exact List.mem_map.mpr ⟨_, List.mem_filter.mpr ⟨listed, stays⟩, own.key⟩
    obtain ⟨signal, inside, same⟩ := List.mem_map.mp kept
    obtain ⟨final, served, _⟩ := finalRouting_built built holds inside same
    exact ⟨some final, served, by simp [auto]⟩
  · rw [if_neg auto] at explained
    subst explained
    exact ⟨none, rfl, by simp [auto]⟩

/-- A successful response is returned intact, with this gateway's extension, exactly
when its own `modelpilot` member does not stand in the way. -/
theorem response_intact_iff (service : GatewayService) (decimal : Rounding)
    (request : ChatCompletionRequest float) (world : RequestWorld float) (key : Key)
    (index : Nat) (response : Payload)
    (succeeded : Succeeded world (service.complete decimal request world) key index response) :
    ReturnsExtended service decimal request world key index response ↔
      Mergeable request response := by
  obtain ⟨called, outcome, answered, success, given⟩ := succeeded
  cases ranks : service.router.rankWithExplanation decimal world.ranking request.model
      request.preferences world.requestId with
  | error error =>
    rw [complete, ranks] at called
    cases called
  | ok result =>
    obtain ⟨ranked, routing⟩ := result
    have nonempty : ranked ≠ [] := by
      rintro rfl
      rw [complete_of_unranked world ranks] at called
      cases called
    have concluded := complete_of_ranked world ranks nonempty
    rw [concluded, filterMap_conclude service request world _ _ (fun _ => rfl) fun _ => rfl]
      at called
    obtain ⟨item, placed, own, ended⟩ := served_of_succeeded called answered success given
    obtain ⟨final, built, routed⟩ := finalRouting_of_served ranks ended
    have completion : (service.complete decimal request world).completion =
        delivered (extend response (service.extension world.requestId item
          (courseOf service request world ranked).attempts final)) := by
      rw [concluded, conclude, ended]
      simp only [built]
      cases extend response (service.extension world.requestId item
        (courseOf service request world ranked).attempts final) <;> rfl
    have attempts : (service.complete decimal request world).attempts =
        (courseOf service request world ranked).attempts := by
      rw [concluded, attempts_conclude]
    have unrouted : final = none ↔ request.model ≠ "auto" := by
      rw [← not_iff_not, not_not, ← routed, ← ne_eq, Option.ne_none_iff_isSome]
    have merges := service.extends_iff world item
      (courseOf service request world ranked).attempts final response
    rw [mergeable_iff, ← unrouted, ← merges, ReturnsExtended, attempts, completion]
    constructor
    · rintro ⟨_, _, _, _, payload, members, again, alsoPlaced, rfl, alsoBuilt, _, returned, held⟩
      cases ranks.symm.trans again
      cases placed.symm.trans alsoPlaced
      cases built.symm.trans alsoBuilt
      have extensible : Extensible response := by
        by_contra fixed
        rw [extend_error _ fixed] at returned
        cases returned
      rw [extend_extensible extensible] at returned
      cases returned
      exact ⟨extensible, members, held⟩
    · rintro ⟨extensible, members, held⟩
      rw [extend_extensible extensible]
      exact ⟨ranked, routing, item, final, _, members, ranks, placed, own, own ▸ built, routed, rfl,
        held⟩

end Served

section Relayed

private theorem relayed_latency : (0 : ℚ) ≤ 4 / 10 := by norm_num

private theorem relayed_status : ∀ code ∈ some 200, 100 ≤ code ∧ code ≤ 599 := by simp

private theorem relayed_shape (response : Payload) :
    if true = true then (some response).isSome = true ∧ (none : Option ProviderErrorType) = none
    else some response = none ∧ (none : Option ProviderErrorType).isSome = true := by
  simp

private theorem relayed_named : "p" ≠ "" ∧ "n" ≠ "" := by decide

private theorem relayed_timed : (300 : Int) ≤ 700 := by decide

/-- A success whose response is that of an upstream gateway. -/
def relayed (member : Json) : ProviderOutcome where
  provider := "p"
  model := "n"
  success := true
  response := some (Dict.ofList [("object", .str "chat.completion"), ("modelpilot", member)])
  statusCode := some 200
  startedAt := 300
  finishedAt := 700
  latencyMs := 4 / 10
  named := relayed_named
  timed := relayed_timed
  latency := relayed_latency
  statusRange := relayed_status
  shape := relayed_shape _

def relayingWorld (member : Json) : RequestWorld .exact where
  uuidHex := "1"
  ranking := { now := .utc 0 }
  attempts := fun _ =>
    { reading := .utc 0, result := .outcome (relayed member),
      managerStore := fun _ => ⟨.ok none, none⟩ }

def relayedResponse (member : Json) : Payload :=
  Dict.ofList [("object", .str "chat.completion"), ("modelpilot", member)]

/-- What a completed request returns as `routing`. -/
def routingOf : Completion → Option Json
  | .returned payload =>
    match payload.get? "modelpilot" with
    | some (.obj members) => DictEntries.lookup "routing" members
    | _ => none
  | _ => none

/-- The extension of an upstream gateway: its own request and explanation. -/
def upstreamExtension : Json := .obj [("request_id", .str "req_0"), ("routing", .str "upstream")]

private theorem relayed_succeeded {request : ChatCompletionRequest .exact} {member : Json}
    (called : ((soleGateway.complete .exact request (relayingWorld member)).effects.filterMap
      callOf) = [(("p", "n"), 0)]) :
    Succeeded (relayingWorld member) (soleGateway.complete .exact request (relayingWorld member))
      ("p", "n") 0 (relayedResponse member) :=
  ⟨by rw [called]; exact List.mem_cons_self, relayed member, rfl, rfl, rfl⟩

/-- Behind an automatic request an upstream extension is replaced. -/
theorem upstream_extension_merged : ReturnsExtended soleGateway .exact qualityRequest
    (relayingWorld upstreamExtension) ("p", "n") 0 (relayedResponse upstreamExtension) := by
  refine (response_intact_iff soleGateway .exact qualityRequest (relayingWorld upstreamExtension)
    ("p", "n") 0 (relayedResponse upstreamExtension)
    (relayed_succeeded (by decide +kernel))).mpr ?_
  rintro member found
  cases found
  exact ⟨_, rfl, fun explicit => absurd rfl explicit⟩

/-- A text under `modelpilot` makes `complete` raise after the success; behind an
explicit request an upstream explanation is returned as if it were the gateway's. -/
theorem upstream_extension_intrudes :
    (Succeeded (relayingWorld (.str "gateway"))
        (soleGateway.complete .exact qualityRequest (relayingWorld (.str "gateway"))) ("p", "n") 0
        (relayedResponse (.str "gateway")) ∧
      (soleGateway.complete .exact qualityRequest (relayingWorld (.str "gateway"))).completion =
        .raised .attribute) ∧
    Succeeded (relayingWorld upstreamExtension)
        (soleGateway.complete .exact explicitRequest (relayingWorld upstreamExtension))
        ("p", "n") 0 (relayedResponse upstreamExtension) ∧
      ¬ ReturnsExtended soleGateway .exact explicitRequest (relayingWorld upstreamExtension)
        ("p", "n") 0 (relayedResponse upstreamExtension) := by
  refine ⟨⟨relayed_succeeded (by decide +kernel), raised_of_errorOf (by decide +kernel)⟩,
    relayed_succeeded (by decide +kernel), ?_⟩
  rintro ⟨_, _, _, final, payload, members, _, _, _, _, explained, returned, held⟩
  have intruded : (routingOf (soleGateway.complete .exact explicitRequest
      (relayingWorld upstreamExtension)).completion).isSome = true := by decide +kernel
  have unexplained : final = none := by
    rw [← Option.not_isSome_iff_eq_none, explained]
    decide
  rw [returned, routingOf, held.extension] at intruded
  dsimp only at intruded
  rw [held.routing, unexplained] at intruded
  cases intruded

end Relayed

end ModelPilot.GatewayService
