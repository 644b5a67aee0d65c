import ModelPilot.QualityAggregation

/-! What the aggregation loop accepts, and what it has collected when it ends.
Neither depends on the order of the supplied runs or on how often one is
repeated, although the checks are made one run at a time. -/
namespace ModelPilot.QualityAggregation

variable {platform : Platform} {suite : BenchmarkSuite platform.texts} {target : BenchmarkTarget}
  {history runs left right : List BenchmarkRun} {originals : List (RunFields Datetime)}
  {state final : Gathered} {run : BenchmarkRun}

/-- A supplied value validates to a run. -/
def Validates (original : RunFields Datetime) (run : BenchmarkRun) : Prop :=
  BenchmarkRun.modelValidate original = .ok run

/-- A run is about this target and this very suite. -/
structure Fits (platform : Platform) (suite : BenchmarkSuite platform.texts)
    (target : BenchmarkTarget) (run : BenchmarkRun) : Prop where
  target : run.toTargetFields.key = target.key
  identity : (run.suiteId, run.suiteVersion, run.suiteFingerprint) =
    (suite.suiteId, suite.version, platform.fingerprint suite)
  total : run.totalCases = suite.cases.length
  cases : ∀ entry ∈ suite.cases.zip run.caseResults, matchCase entry = .ok ()

/-- A history without incompatible runs. -/
structure Accepted (platform : Platform) (suite : BenchmarkSuite platform.texts)
    (target : BenchmarkTarget) (history : List BenchmarkRun) : Prop where
  fits : ∀ run ∈ history, Fits platform suite target run
  oneConfig : ∀ a ∈ history, ∀ b ∈ history, a.config = b.config
  oneValue : ∀ a ∈ history, ∀ b ∈ history, a.runId = b.runId → a = b

/-- The state of the loop holds exactly the runs of a history. -/
structure Holds (history : List BenchmarkRun) (state : Gathered) : Prop where
  unique : ∀ id run, state.unique.get? id = some run ↔ run ∈ history ∧ run.runId = id
  config : ∀ config, state.config = some config ↔ ∃ run ∈ history, run.config = config

theorem accepted_congr (same : ∀ run, run ∈ left ↔ run ∈ right)
    (accepted : Accepted platform suite target left) : Accepted platform suite target right where
  fits run member := accepted.fits run ((same run).mpr member)
  oneConfig a inA b inB := accepted.oneConfig a ((same a).mpr inA) b ((same b).mpr inB)
  oneValue a inA b inB := accepted.oneValue a ((same a).mpr inA) b ((same b).mpr inB)

theorem compatible_ok_iff (holds : Holds history state) :
    compatible platform suite target state run = .ok () ↔
      Fits platform suite target run ∧ (∀ other ∈ history, run.config = other.config) ∧
      ∀ other ∈ history, other.runId = run.runId → other = run := by
  simp only [compatible, then_ok_iff, require_ok_iff, checkSome_ok_iff, checkAll_ok_iff,
    holds.config, holds.unique]
  constructor
  · rintro ⟨key, identity, config, total, cases, value⟩
    exact ⟨⟨key, identity, total, cases⟩, fun other member => config _ ⟨other, member, rfl⟩,
      fun other member named => value other ⟨member, named⟩⟩
  · rintro ⟨fits, config, value⟩
    refine ⟨fits.target, fits.identity, ?_, fits.total, fits.cases, fun previous held => ?_⟩
    · rintro held ⟨other, member, rfl⟩
      exact config other member
    · exact value previous held.1 held.2

theorem holds_empty : Holds [] {} := ⟨by simp, by simp⟩

/-- Storing a compatible run extends the history by it. -/
theorem holds_set (holds : Holds history state)
    (config : ∀ other ∈ history, run.config = other.config)
    (value : ∀ other ∈ history, other.runId = run.runId → other = run) :
    Holds (history ++ [run])
      { unique := state.unique.set run.runId run, config := some run.config } := by
  constructor
  · intro id found
    rw [Dict.get?_set, List.mem_append, List.mem_singleton]
    by_cases named : run.runId = id
    · subst named
      rw [if_pos rfl, Option.some.injEq]
      constructor
      · rintro rfl
        exact ⟨.inr rfl, rfl⟩
      · rintro ⟨older | rfl, same⟩
        · exact (value found older same).symm
        · rfl
    · rw [if_neg named, holds.unique]
      constructor
      · rintro ⟨older, same⟩
        exact ⟨.inl older, same⟩
      · rintro ⟨older | rfl, same⟩
        · exact ⟨older, same⟩
        · exact absurd same named
  · intro config'
    simp only [Option.some.injEq, List.mem_append, List.mem_singleton]
    constructor
    · rintro rfl
      exact ⟨run, .inr rfl, rfl⟩
    · rintro ⟨other, older | rfl, rfl⟩
      · exact config other older
      · rfl

theorem accepted_append_singleton :
    Accepted platform suite target (history ++ [run]) ↔
      Accepted platform suite target history ∧ Fits platform suite target run ∧
      (∀ other ∈ history, run.config = other.config) ∧
      ∀ other ∈ history, other.runId = run.runId → other = run := by
  constructor
  · intro accepted
    have last : run ∈ history ++ [run] := by simp
    have older : ∀ other ∈ history, other ∈ history ++ [run] :=
      fun other member => List.mem_append_left _ member
    exact ⟨⟨fun other member => accepted.fits other (older other member),
      fun a inA b inB => accepted.oneConfig a (older a inA) b (older b inB),
      fun a inA b inB => accepted.oneValue a (older a inA) b (older b inB)⟩,
      accepted.fits run last,
      fun other member => accepted.oneConfig run last other (older other member),
      fun other member => accepted.oneValue other (older other member) run last⟩
  · rintro ⟨accepted, fits, config, value⟩
    constructor
    · intro other member
      rcases List.mem_append.mp member with older | newest
      · exact accepted.fits other older
      · exact List.mem_singleton.mp newest ▸ fits
    · intro a inA b inB
      rcases List.mem_append.mp inA with oldA | newA <;>
        rcases List.mem_append.mp inB with oldB | newB
      · exact accepted.oneConfig a oldA b oldB
      · exact List.mem_singleton.mp newB ▸ (config a oldA).symm
      · exact List.mem_singleton.mp newA ▸ config b oldB
      · rw [List.mem_singleton.mp newA, List.mem_singleton.mp newB]
    · intro a inA b inB named
      rcases List.mem_append.mp inA with oldA | newA <;>
        rcases List.mem_append.mp inB with oldB | newB
      · exact accepted.oneValue a oldA b oldB named
      · have last := List.mem_singleton.mp newB
        subst last
        exact value a oldA named
      · have last := List.mem_singleton.mp newA
        subst last
        exact (value b oldB named.symm).symm
      · rw [List.mem_singleton.mp newA, List.mem_singleton.mp newB]

/-- The loop ends exactly on histories it accepts as a whole, and then holds
the whole history. -/
theorem gather_ok_iff (accepted : Accepted platform suite target history)
    (holds : Holds history state) :
    (∃ final, gather platform suite target originals state = .ok final) ↔
      ∃ runs, List.Forall₂ Validates originals runs ∧
        Accepted platform suite target (history ++ runs) := by
  induction originals generalizing history state with
  | nil =>
    refine ⟨fun _ => ⟨[], .nil, by simpa using accepted⟩, fun _ => ⟨state, rfl⟩⟩
  | cons original rest ih =>
    constructor
    · rintro ⟨final, ended⟩
      obtain ⟨run, validated, ended⟩ := bind_ok_iff.mp ended
      obtain ⟨passed, ended⟩ := then_ok_iff.mp ended
      obtain ⟨fits, config, value⟩ := (compatible_ok_iff holds).mp passed
      obtain ⟨runs, others, whole⟩ :=
        (ih (accepted_append_singleton.mpr ⟨accepted, fits, config, value⟩)
          (holds_set holds config value)).mp ⟨final, ended⟩
      exact ⟨run :: runs, .cons validated others, by simpa using whole⟩
    · rintro ⟨runs, validated, whole⟩
      cases validated with
      | cons first others =>
        rename_i run runs
        have split : history ++ run :: runs = history ++ [run] ++ runs := by simp
        rw [split] at whole
        have until_ : Accepted platform suite target (history ++ [run]) := by
          refine ⟨fun other member => whole.fits other (List.mem_append_left _ member),
            fun a inA b inB => whole.oneConfig a (List.mem_append_left _ inA) b
              (List.mem_append_left _ inB),
            fun a inA b inB => whole.oneValue a (List.mem_append_left _ inA) b
              (List.mem_append_left _ inB)⟩
        obtain ⟨_, fits, config, value⟩ := accepted_append_singleton.mp until_
        obtain ⟨final, ended⟩ := (ih until_ (holds_set holds config value)).mpr
          ⟨runs, others, whole⟩
        refine ⟨final, bind_ok_iff.mpr ⟨run, first, then_ok_iff.mpr ⟨?_, ended⟩⟩⟩
        exact (compatible_ok_iff holds).mpr ⟨fits, config, value⟩

theorem gather_holds (accepted : Accepted platform suite target history)
    (holds : Holds history state) (validated : List.Forall₂ Validates originals runs)
    (ended : gather platform suite target originals state = .ok final) :
    Holds (history ++ runs) final := by
  induction validated generalizing history state with
  | nil =>
    cases ended
    simpa using holds
  | cons first _ ih =>
    rename_i original run originals runs _
    obtain ⟨other, validated, ended⟩ := bind_ok_iff.mp ended
    cases first.symm.trans validated
    obtain ⟨passed, ended⟩ := then_ok_iff.mp ended
    obtain ⟨fits, config, value⟩ := (compatible_ok_iff holds).mp passed
    have longer := ih (accepted_append_singleton.mpr ⟨accepted, fits, config, value⟩)
      (holds_set holds config value) ended
    simpa using longer

/-- The unique runs of a held history, in attempt order. -/
theorem mem_ordered (holds : Holds history state) :
    run ∈ sortedBy rank state.unique.values ↔ run ∈ history := by
  rw [mem_sortedBy, Dict.values, List.mem_map]
  constructor
  · rintro ⟨⟨id, held⟩, member, rfl⟩
    exact ((holds.unique id held).mp (Dict.get?_eq_some_iff.mpr member)).1
  · intro member
    exact ⟨(run.runId, run), Dict.get?_eq_some_iff.mp ((holds.unique _ _).mpr ⟨member, rfl⟩), rfl⟩

/-- Different unique runs have different ranks, so attempt order is strict. -/
theorem ordered_strict (holds : Holds history state) :
    (sortedBy rank state.unique.values).Pairwise (rank · < rank ·) := by
  apply sortedBy_strict
  have ids : state.unique.values.map (·.runId) = state.unique.keys := by
    rw [Dict.values, Dict.keys, List.map_map, List.map_inj_left]
    rintro ⟨id, held⟩ member
    exact ((holds.unique id held).mp (Dict.get?_eq_some_iff.mpr member)).2
  have distinct : ((state.unique.values.map rank).map fun key => (ofLex key).2).Nodup := by
    rw [List.map_map]
    exact ids ▸ state.unique.keys_nodup
  exact distinct.of_map

theorem rank_injective (accepted : Accepted platform suite target history) :
    ∀ a ∈ history, ∀ b ∈ history, rank a = rank b → a = b := by
  intro a inA b inB same
  have ids : a.runId = b.runId := congrArg (fun key => (ofLex key).2) same
  exact accepted.oneValue a inA b inB ids

private theorem prefix_of_zip {cases : List BenchmarkCase} {results : List BenchmarkCaseResult}
    (within : results.length ≤ cases.length)
    (matched : ∀ entry ∈ cases.zip results, matchCase entry = .ok ()) :
    results.map (·.caseId) <+: cases.map (·.caseId) := by
  induction cases generalizing results with
  | nil =>
    cases results with
    | nil => exact List.nil_prefix
    | cons _ _ => simp at within
  | cons case_ rest ih =>
    cases results with
    | nil => exact List.nil_prefix
    | cons result others =>
      have first := matched (case_, result) (by simp)
      have same : case_.caseId = result.caseId := by
        simp only [matchCase, then_ok_iff, require_ok_iff, Prod.mk.injEq] at first
        exact first.1.1
      have tail := ih (by simpa using within) fun entry member =>
        matched entry (by simp [member])
      rw [List.map_cons, List.map_cons, ← same]
      exact (List.prefix_cons_inj _).mpr tail

/-- The results of a fitting run are about the first cases of the suite. -/
theorem results_in_order (fits : Fits platform suite target run) :
    run.caseResults.map (·.caseId) <+: suite.cases.map (·.caseId) := by
  have within := run.wellFormed.within
  rw [fits.total] at within
  exact prefix_of_zip (by exact_mod_cast within) fits.cases

end ModelPilot.QualityAggregation
