import ModelPilot.BenchmarkCommand
import ModelPilot.BenchmarkStoreProofs

/-! What an exit code of the benchmark command says about the calls it made and about
the run it saved. -/
namespace ModelPilot.BenchmarkCommand

open BenchmarkRunner (CaseRequest)
open BenchmarkStore (Tables SaveCall saveAll)
open ModelPilot.Action

variable {platform : Platform} {world : CommandWorld platform} {argv : List String}
  {prepared : Prepared platform} {provider : Provider} {run : BenchmarkRun} {stage : Stage}
  {tables after : Tables} {events : List Event} {event : Event}

section Kinds

/-- A provider call. -/
def IsCall (event : Event) : Prop := ∃ request, event = .call request

def Accepted (stage : Stage) (event : Event) : Prop := event = .accepted stage

def IsConfiguration (error : CommandError) : Prop := ∃ message, error = .configuration message

theorem accepted_not_call (stage : Stage) : ¬ IsCall (.accepted stage) := by
  rintro ⟨request, same⟩
  cases same

theorem raises_spares (result : Except PyError α) (error : CommandError)
    (raised : raises result = .error error) : ¬ IsConfiguration error := by
  rintro ⟨message, rfl⟩
  cases result <;> cases raised

theorem raises_ok_iff {result : Except PyError α} :
    raises result = .ok value ↔ result = .ok value := by
  cases result <;> simp [raises, Except.mapError]

end Kinds

section Accept
variable {result : Except CommandError α}

theorem accept_silent : Silent IsCall (accept stage result) :=
  .andThen (.done _) fun _ => .andThen (.emit (accepted_not_call stage)) fun _ => .done _

theorem accept_establishes : Establishes (Accepted stage) (accept stage result) :=
  .of_second fun _ => .of_first (.emit rfl)

/-- A sequence that begins with a check ends with a value when the check is passed and
the rest does. -/
theorem accept_then_eq_ok {next : α → Command β} {value : β}
    (ended : (accept stage result >>= next) tables = ⟨events, after, .ok value⟩) :
    ∃ held late, result = .ok held ∧ next held tables = ⟨late, after, .ok value⟩ ∧
      events = .accepted stage :: late := by
  obtain ⟨early, middle, held, late, step, rest, rfl⟩ := andThen_eq_ok_iff.mp ended
  cases result with
  | ok _ =>
    cases step
    exact ⟨held, late, rfl, rest, rfl⟩
  | error error => cases step

theorem done_then_eq_ok {next : α → Command β} {value : β}
    (ended : (done result >>= next) tables = ⟨events, after, .ok value⟩) :
    ∃ held, result = .ok held ∧ next held tables = ⟨events, after, .ok value⟩ := by
  obtain ⟨early, middle, held, late, step, rest, rfl⟩ := andThen_eq_ok_iff.mp ended
  cases step
  exact ⟨held, rfl, rest⟩

/-- An event after a check comes after one that was passed. -/
theorem mem_accept_then {next : α → Command β} (other : ¬ Accepted stage event)
    (member : event ∈ ((accept stage result >>= next) tables).events) :
    ∃ held, result = .ok held ∧ event ∈ (next held tables).events := by
  rcases mem_andThen.mp member with early | ⟨held, ended, late⟩
  · cases result with
    | ok held => exact absurd (List.mem_singleton.mp early) other
    | error error => cases early
  · cases result with
    | ok _ =>
      cases ended
      exact ⟨held, rfl, late⟩
    | error error => cases ended

theorem mem_done_then {next : α → Command β}
    (member : event ∈ ((done result >>= next) tables).events) :
    ∃ held, result = .ok held ∧ event ∈ (next held tables).events := by
  rcases mem_andThen.mp member with early | ⟨held, ended, late⟩
  · cases early
  · exact ⟨held, ended, late⟩

end Accept

section Setup

/-- The steps of the first `try`, each accepted. -/
structure Prepares (world : CommandWorld platform) (argv : List String)
    (prepared : Prepared platform) : Prop where
  args : parseArgs world argv = .ok prepared.args
  target : BenchmarkTarget.modelValidate ⟨prepared.args.provider, prepared.args.model⟩ =
    .ok prepared.target
  config : runConfig prepared.args = .ok prepared.config
  suite : loadBenchmarkSuite world prepared.args.suite = .ok prepared.suite
  size : (prepared.suite.cases.length : Int) ≤ prepared.config.val.maxCases
  settings : Settings.fromEnv world.int world.getenv = .ok prepared.settings

def setupStages : List Stage := [.arguments, .target, .config, .suite, .size, .settings]

theorem setup_silent : Silent IsCall (setup world argv) :=
  accept_silent.andThen fun _ => accept_silent.andThen fun _ => accept_silent.andThen fun _ =>
    accept_silent.andThen fun _ => accept_silent.andThen fun _ => accept_silent.andThen fun _ =>
      .done _

theorem setup_eq_ok (ended : setup world argv tables = ⟨events, after, .ok prepared⟩) :
    Prepares world argv prepared ∧ events = setupStages.map .accepted ∧ after = tables := by
  obtain ⟨args, _, args_, afterArgs, rfl⟩ := accept_then_eq_ok ended
  obtain ⟨target, _, target_, afterTarget, rfl⟩ := accept_then_eq_ok afterArgs
  obtain ⟨config, _, config_, afterConfig, rfl⟩ := accept_then_eq_ok afterTarget
  obtain ⟨suite, _, suite_, afterSuite, rfl⟩ := accept_then_eq_ok afterConfig
  obtain ⟨_, _, size, afterSize, rfl⟩ := accept_then_eq_ok afterSuite
  obtain ⟨settings, _, settings_, afterSettings, rfl⟩ := accept_then_eq_ok afterSize
  cases afterSettings
  refine ⟨⟨args_, raises_ok_iff.mp target_, raises_ok_iff.mp config_, suite_, ?_,
    raises_ok_iff.mp settings_⟩, rfl, rfl⟩
  split at size
  · cases size
  · rename_i short
    exact not_lt.mp short

theorem setup_establishes (member : stage ∈ setupStages) :
    Establishes (Accepted stage) (setup world argv) := by
  intro state prepared ended
  have course : setup world argv state =
      ⟨(setup world argv state).events, (setup world argv state).state, .ok prepared⟩ := by
    rw [← ended]
  obtain ⟨_, listed, _⟩ := setup_eq_ok course
  refine ⟨.accepted stage, ?_, rfl⟩
  rw [listed]
  exact List.mem_map_of_mem member

end Setup

section Execution

/-- What the second `try` finds before it runs the benchmark. -/
structure Opens (world : CommandWorld platform) (prepared : Prepared platform)
    (provider : Provider) : Prop where
  created : createProvider prepared.target.provider prepared.settings = .ok provider
  credential : configured provider = true
  directory : world.mkdir prepared.settings.metricsDbPath = .ok ()
  database : world.initialization prepared.settings.metricsDbPath = .ok ()

theorem credential_ok {value : Unit} (passed : (if configured provider then .ok ()
      else .error (.configuration "selected provider is not configured") :
      Except CommandError Unit) = .ok value) : configured provider = true := by
  split at passed
  · assumption
  · cases passed

theorem saveRun_spares : Spares IsConfiguration (saveRun world run) := by
  rintro tables error raised ⟨message, rfl⟩
  unfold saveRun at raised
  split at raised
  · cases raised
  · exact raises_spares _ _ raised ⟨message, rfl⟩

theorem saveRun_eq_ok {value : Unit}
    (ended : saveRun world run tables = ⟨events, after, .ok value⟩) :
    BenchmarkStore.saveRun world.fault tables (.typed run.modelDump) = (.ok (), after) ∧
      events = [.committed run] := by
  unfold saveRun at ended
  split at ended
  · cases ended
  · rename_i stored saved
    injection ended with listed left _
    subst listed left
    exact ⟨saved, rfl⟩

theorem runBenchmark_spares : Spares IsConfiguration (runBenchmark world prepared provider) :=
  fun _ error raised => raises_spares _ error raised

/-- What runs once the database is open. -/
def measured (world : CommandWorld platform) (prepared : Prepared platform)
    (provider : Provider) : Command BenchmarkRun := do
  let run ← runBenchmark world prepared provider
  saveRun world run
  pure run

/-- A run is saved after the calls that it records. -/
theorem measured_eq_ok
    (ended : measured world prepared provider tables = ⟨events, after, .ok run⟩) :
    (executionOf world prepared provider).outcome = .ok run ∧
      BenchmarkStore.saveRun world.fault tables (.typed run.modelDump) = (.ok (), after) ∧
      events = (executionOf world prepared provider).requests.map .call ++ [.committed run] := by
  obtain ⟨_, _, held, _, ran, rest, rfl⟩ := andThen_eq_ok_iff.mp ended
  obtain ⟨_, _, _, _, saving, last, rfl⟩ := andThen_eq_ok_iff.mp rest
  obtain ⟨saved, rfl⟩ := saveRun_eq_ok saving
  cases last
  injection ran with requests same outcome
  subst requests same
  exact ⟨raises_ok_iff.mp outcome, saved, by simp⟩

theorem execute_eq_ok (ended : execute_ world prepared tables = ⟨events, after, .ok run⟩) :
    ∃ provider, Opens world prepared provider ∧
      (executionOf world prepared provider).outcome = .ok run ∧
      BenchmarkStore.saveRun world.fault tables (.typed run.modelDump) = (.ok (), after) ∧
      events = [.accepted .credential, .accepted .database] ++
        (executionOf world prepared provider).requests.map .call ++ [.committed run] := by
  obtain ⟨opening, opened, body, middle, closing, entered, inside, left, rfl⟩ := within_eq_ok ended
  obtain ⟨rfl, rfl, _⟩ := done_eq_iff.mp entered
  obtain ⟨rfl, rfl, _⟩ := done_eq_iff.mp left
  obtain ⟨provider, created, afterProvider⟩ := done_then_eq_ok inside
  obtain ⟨_, _, credential, afterCredential, rfl⟩ := accept_then_eq_ok afterProvider
  obtain ⟨_, directory, afterDirectory⟩ := done_then_eq_ok afterCredential
  obtain ⟨_, _, database, afterDatabase, rfl⟩ := accept_then_eq_ok afterDirectory
  obtain ⟨outcome, saved, rfl⟩ := measured_eq_ok afterDatabase
  exact ⟨provider, ⟨raises_ok_iff.mp created, credential_ok credential,
    raises_ok_iff.mp directory, raises_ok_iff.mp database⟩, outcome, saved, by simp⟩

/-- A call is made with an open database, to a provider with a credential. -/
theorem execute_call (request : CaseRequest)
    (member : .call request ∈ (execute_ world prepared tables).events) :
    ∃ provider, Opens world prepared provider := by
  have other (stage : Stage) : ¬ Accepted stage (.call request) := by rintro ⟨⟩
  obtain ⟨_, _, member⟩ := mem_done_then member
  rcases List.mem_append.mp member with member | closing
  · obtain ⟨provider, created, member⟩ := mem_done_then member
    obtain ⟨_, credential, member⟩ := mem_accept_then (other _) member
    obtain ⟨_, directory, member⟩ := mem_done_then member
    obtain ⟨_, database, _⟩ := mem_accept_then (other _) member
    exact ⟨provider, raises_ok_iff.mp created, credential_ok credential,
      raises_ok_iff.mp directory, raises_ok_iff.mp database⟩
  · obtain ⟨_, _, closing⟩ := mem_done_then closing
    cases closing

theorem execute_aborts : Aborts IsConfiguration IsCall (execute_ world prepared) := by
  refine .within (.done _) (.done _) (.done (raises_spares _)) ?_
  refine .andThen (.done _) fun provider => .andThen accept_silent fun _ =>
    .andThen (.done _) fun _ => .andThen accept_silent fun _ => .of_spares ?_
  exact runBenchmark_spares.andThen fun _ => saveRun_spares.andThen fun _ =>
    .done fun _ raised => by cases raised

/-- The last two stages come before the calls. -/
theorem execute_guarded (member : stage ∈ [Stage.credential, .database]) :
    Guarded (Accepted stage) IsCall (execute_ world prepared) := by
  refine .within (.done _) (.done _) ?_
  refine .andThen (.done _) (.inr fun provider => ?_)
  rcases List.mem_cons.mp member with rfl | later
  · exact .andThen accept_silent (.inl accept_establishes)
  · cases List.mem_singleton.mp later
    exact .andThen accept_silent (.inr fun _ => .andThen (.done _) (.inr fun _ =>
      .andThen accept_silent (.inl accept_establishes)))

end Execution

section Endings
variable {code : Int} {error : CommandError}

theorem error_silent (message : String) (exitCode : Int) :
    Silent IsCall (error_ world message exitCode) := by
  refine .andThen (.emit ?_) fun _ => .andThen (.done _) fun _ => .done _
  rintro ⟨request, same⟩
  cases same

theorem error_code {message : String} {exitCode : Int}
    (ended : (error_ world message exitCode tables).outcome = .ok code) : code = exitCode := by
  obtain ⟨_, _, ended⟩ := andThen_ok_iff.mp ended
  obtain ⟨_, _, ended⟩ := andThen_ok_iff.mp ended
  cases ended
  rfl

theorem setupFailed_silent : Silent IsCall (setupFailed world error) := by
  unfold setupFailed
  split
  · exact error_silent _ _
  · exact error_silent _ _
  · exact error_silent _ _
  · exact error_silent _ _
  · exact .done _

theorem setupFailed_code (ended : (setupFailed world error tables).outcome = .ok code) :
    code = 2 ∨ code = 4 := by
  unfold setupFailed at ended
  split at ended
  · exact .inl (error_code ended)
  · exact .inl (error_code ended)
  · exact .inl (error_code ended)
  · exact .inr (error_code ended)
  · cases ended

theorem executionFailed_silent : Silent IsCall (executionFailed world error) := by
  unfold executionFailed
  split
  · exact error_silent _ _
  · exact .done _
  · exact error_silent _ _

theorem executionFailed_code (ended : (executionFailed world error tables).outcome = .ok code) :
    code = 2 ∧ IsConfiguration error ∨ code = 4 := by
  unfold executionFailed at ended
  split at ended
  · exact .inl ⟨error_code ended, _, rfl⟩
  · cases ended
  · exact .inr (error_code ended)

theorem report_silent (args : Arguments) (run : BenchmarkRun) :
    Silent IsCall (report world args run) := by
  refine .andThen (.emit ?_) fun _ => .andThen (.done _) fun _ => .done _
  rintro ⟨request, same⟩
  cases same

theorem report_course (args : Arguments) (run : BenchmarkRun) (tables : Tables) :
    report world args run tables = ⟨[.summary run args.json], tables,
      (raises world.stdout).map fun _ => if authenticationFailed run then 3 else 0⟩ := by
  unfold report
  cases world.stdout <;> rfl

theorem report_ok {args : Arguments} (ended : (report world args run tables).outcome = .ok code) :
    report world args run tables = ⟨[.summary run args.json], tables, .ok code⟩ ∧
      code = if authenticationFailed run then 3 else 0 := by
  rw [report_course] at ended ⊢
  obtain ⟨_, printed, same⟩ := map_ok_iff.mp ended
  dsimp only at ended
  rw [ended]
  exact ⟨rfl, same.symm⟩

/-- No call comes after the execution. -/
theorem ending_silent (args : Arguments) (outcome : Except CommandError BenchmarkRun) :
    Silent IsCall (either (executionFailed world) (report world args) outcome) :=
  .either (fun _ => executionFailed_silent) (report_silent args) outcome

theorem authenticationFailed_iff : authenticationFailed run = true ↔
    ∃ result ∈ run.caseResults, result.errorType = some .authenticationError := by
  simp only [authenticationFailed, List.any_eq_true, decide_eq_true_eq]

/-- The whole course of a command that saved its run. -/
structure Saved (world : CommandWorld platform) (argv : List String) (tables : Tables)
    (course : Course Tables Event CommandError Int) (run : BenchmarkRun) : Prop where
  recorded : ∃ prepared provider, Prepares world argv prepared ∧ Opens world prepared provider ∧
    (executionOf world prepared provider).outcome = .ok run ∧
    course.events = (setupStages ++ [Stage.credential, .database]).map .accepted ++
      (executionOf world prepared provider).requests.map .call ++
      [.committed run, .summary run prepared.args.json]
  committed : BenchmarkStore.saveRun world.fault tables (.typed run.modelDump) =
    (.ok (), course.state)

/-- A command that was refused in its first `try` has made no call. -/
theorem refused_silent {early : List Event}
    (begun : setup world argv tables = ⟨early, after, .error error⟩) :
    ∀ event ∈ (main world argv tables).events, ¬ IsCall event := by
  have course : main world argv tables = _ := tryElse_of_error begun
  have quiet := @setup_silent platform world argv tables
  rw [begun] at quiet
  rw [course]
  intro event member
  rcases List.mem_append.mp member with before | handled
  · exact quiet event before
  · exact setupFailed_silent _ event handled

theorem refused_code {early : List Event}
    (begun : setup world argv tables = ⟨early, after, .error error⟩)
    (ended : (main world argv tables).outcome = .ok code) : code = 2 ∨ code = 4 := by
  have course : main world argv tables = _ := tryElse_of_error begun
  rw [course] at ended
  exact setupFailed_code ended

/-- The course of a command whose first `try` ends with a value. -/
theorem prepared_course {early : List Event}
    (begun : setup world argv tables = ⟨early, after, .ok prepared⟩) :
    Prepares world argv prepared ∧ main world argv tables =
      ⟨setupStages.map .accepted ++ ((execute_ world prepared).tryElse (executionFailed world)
          (report world prepared.args) tables).events,
        ((execute_ world prepared).tryElse (executionFailed world)
          (report world prepared.args) tables).state,
        ((execute_ world prepared).tryElse (executionFailed world)
          (report world prepared.args) tables).outcome⟩ := by
  have course : main world argv tables = _ := tryElse_of_ok begun
  obtain ⟨prepares, rfl, rfl⟩ := setup_eq_ok begun
  exact ⟨prepares, course⟩

theorem setupStages_silent : ∀ event ∈ setupStages.map Event.accepted, ¬ IsCall event := by
  intro event member
  obtain ⟨stage, _, rfl⟩ := List.mem_map.mp member
  exact accepted_not_call stage

/-- An execution that raises: before its calls when the provider has no credential. -/
theorem failed_ends (failed : execute_ world prepared tables = ⟨events, after, .error error⟩)
    (ended : ((execute_ world prepared).tryElse (executionFailed world)
      (report world prepared.args) tables).outcome = .ok code) :
    (code = 2 ∧ ∀ event ∈ ((execute_ world prepared).tryElse (executionFailed world)
      (report world prepared.args) tables).events, ¬ IsCall event) ∨ code = 4 := by
  rw [tryElse_of_error failed] at ended ⊢
  rcases executionFailed_code ended with ⟨refused, configuration⟩ | other
  · refine .inl ⟨refused, fun event member => ?_⟩
    have aborted := @execute_aborts platform world prepared tables error
    rw [failed] at aborted
    rcases List.mem_append.mp member with inside | handled
    · exact aborted rfl configuration event inside
    · exact executionFailed_silent _ event handled
  · exact .inr other

/-- A command that returns has not called the provider, has saved its run, or returns 4. -/
theorem main_cases (ended : (main world argv tables).outcome = .ok code) :
    (code = 2 ∧ ∀ event ∈ (main world argv tables).events, ¬ IsCall event) ∨ code = 4 ∨
    ∃ run, Saved world argv tables (main world argv tables) run ∧
      code = if authenticationFailed run then 3 else 0 := by
  cases begun : setup world argv tables with
  | mk early middle outcome =>
  cases outcome with
  | error error =>
    rcases refused_code begun ended with refused | failed
    · exact .inl ⟨refused, refused_silent begun⟩
    · exact .inr (.inl failed)
  | ok prepared =>
    obtain ⟨prepares, course⟩ := prepared_course begun
    rw [course] at ended ⊢
    cases worked : execute_ world prepared tables with
    | mk inside final outcome =>
    cases outcome with
    | error error =>
      rcases failed_ends worked ended with ⟨refused, silent⟩ | failed
      · refine .inl ⟨refused, fun event member => ?_⟩
        rcases List.mem_append.mp member with before | later
        · exact setupStages_silent event before
        · exact silent event later
      · exact .inr (.inl failed)
    | ok run =>
      rw [tryElse_of_ok worked] at ended ⊢
      obtain ⟨provider, opens, outcome, saved, rfl⟩ := execute_eq_ok worked
      obtain ⟨shown, code_⟩ := report_ok ended
      refine .inr (.inr ⟨run, ⟨⟨prepared, provider, prepares, opens, outcome, ?_⟩, ?_⟩, code_⟩)
      · rw [shown]
        simp
      · rw [shown]
        exact saved

/-- A call is made by a command that has accepted everything. -/
theorem main_call (request : CaseRequest)
    (member : .call request ∈ (main world argv tables).events) :
    ∃ prepared provider, Prepares world argv prepared ∧ Opens world prepared provider := by
  cases begun : setup world argv tables with
  | mk early middle outcome =>
  cases outcome with
  | error error => exact absurd ⟨request, rfl⟩ (refused_silent begun _ member)
  | ok prepared =>
    obtain ⟨prepares, course⟩ := prepared_course begun
    rw [course] at member
    rcases List.mem_append.mp member with before | later
    · exact absurd ⟨request, rfl⟩ (setupStages_silent _ before)
    rcases List.mem_append.mp later with inside | ending
    · obtain ⟨provider, opens⟩ := execute_call request inside
      exact ⟨prepared, provider, prepares, opens⟩
    · exact absurd ⟨request, rfl⟩ (ending_silent _ _ _ _ ending)

theorem main_guarded (stage : Stage) : Guarded (Accepted stage) IsCall (main world argv) := by
  by_cases early : stage ∈ setupStages
  · exact .tryElse setup_silent (fun _ => setupFailed_silent) (.inl (setup_establishes early))
  · have late : stage ∈ [Stage.credential, .database] := by
      cases stage <;> simp [setupStages] at early ⊢
    refine .tryElse setup_silent (fun _ => setupFailed_silent) (.inr fun prepared => ?_)
    exact .before_silent (execute_guarded late) (ending_silent _)

/-- A run that was committed is read back. -/
theorem committed_readable {calls : List SaveCall} {fault : Nat → Option PyError}
    (committed : BenchmarkStore.saveRun fault (saveAll calls).tables (.typed run.modelDump) =
      (.ok (), after)) :
    BenchmarkStore.getRun after run.runId = .ok (some run) := by
  have sound := BenchmarkStore.saveAll_sound calls
  have next := BenchmarkStore.save_sound sound ⟨fault, .typed run.modelDump⟩
  rcases BenchmarkStore.save_cases sound ⟨fault, .typed run.modelDump⟩ with
    ⟨error, refused, _⟩ | ⟨other, validated, _, stored, grown⟩
  · rw [committed] at refused
    cases refused
  · have same : run = other :=
      Except.ok.inj ((BenchmarkRun.modelValidate_dump run).symm.trans validated)
    subst same
    rw [committed] at stored
    rw [grown] at next
    rw [(Prod.mk.inj stored).2, BenchmarkStore.getRun_encode next.distinct]
    congr 1
    have held : run ∈ (saveAll calls).saved ++ [run] := List.mem_append_right _ (by simp)
    cases found : ((saveAll calls).saved ++ [run]).find? (·.runId = run.runId) with
    | none => simpa using List.find?_eq_none.mp found run held
    | some other =>
      have named : other.runId = run.runId := by simpa using List.find?_some found
      rw [List.inj_on_of_nodup_map next.distinct (List.mem_of_find?_eq_some found) held named]

/-- What the exit code says. 0 and 3: the run of all the calls is committed and can be
read, and 3 when it has an authentication failure. 2: no call was made. Every other
return is 4. A call is made only once everything was accepted. -/
theorem exit_code_tells_the_truth (platform : Platform) (world : CommandWorld platform)
    (argv : List String) (calls : List SaveCall) :
    (∀ code, (main world argv (saveAll calls).tables).outcome = .ok code →
      (code = 0 ∨ code = 3 → ∃ run,
        Saved world argv (saveAll calls).tables (main world argv (saveAll calls).tables) run ∧
        BenchmarkStore.getRun (main world argv (saveAll calls).tables).state run.runId =
          .ok (some run) ∧
        (code = 3 ↔ ∃ result ∈ run.caseResults,
          result.errorType = some .authenticationError)) ∧
      (code = 2 → ∀ request, .call request ∉ (main world argv (saveAll calls).tables).events) ∧
      (code = 0 ∨ code = 2 ∨ code = 3 ∨ code = 4)) ∧
    ∀ before request later,
      (main world argv (saveAll calls).tables).events = before ++ .call request :: later →
      (∀ stage, .accepted stage ∈ before) ∧
      ∃ prepared provider, Prepares world argv prepared ∧ Opens world prepared provider := by
  constructor
  · intro code ended
    rcases main_cases ended with ⟨rfl, silent⟩ | rfl | ⟨run, saved, rfl⟩
    · exact ⟨by omega, fun _ request member => silent _ member ⟨request, rfl⟩, by omega⟩
    · exact ⟨by omega, by omega, by omega⟩
    · have readable := committed_readable saved.committed
      have agrees := @authenticationFailed_iff run
      cases failed : authenticationFailed run with
      | true =>
        rw [failed] at agrees
        exact ⟨fun _ => ⟨run, saved, readable, iff_of_true rfl (agrees.mp rfl)⟩, by simp, by simp⟩
      | false =>
        rw [failed] at agrees
        exact ⟨fun _ => ⟨run, saved, readable, iff_of_false (by simp)
          fun found => Bool.false_ne_true (agrees.mpr found)⟩, by simp, by simp⟩
  · intro before request later split
    constructor
    · intro stage
      obtain ⟨cause, member, accepted⟩ :=
        main_guarded stage _ before (.call request) later split ⟨request, rfl⟩
      rwa [accepted] at member
    · apply @main_call platform world argv (saveAll calls).tables request
      rw [split]
      exact List.mem_append_right _ List.mem_cons_self

/-- A command whose second call is refused. -/
def refusedWorld : CommandWorld BenchmarkRunner.literalPlatform where
  argumentParser := fun _ =>
    .arguments ⟨"suite.json", "openai", "gpt", 100, .finite 30, .finite 0, false⟩
  readText := fun _ => .ok "null"
  numbers := { context := .floorContext 28, holds := fun _ => true }
  recursion := fun _ => .ok ()
  suiteFields := fun _ => .ok BenchmarkRunner.twoCases.toSuiteFields
  int := fun text => if text = "500" then some 500 else if text = "3" then some 3 else some 60
  getenv := fun name => if name = "OPENAI_API_KEY" then some "key" else none
  openClient := .ok ()
  closeClient := .ok ()
  mkdir := fun _ => .ok ()
  initialization := fun _ => .ok ()
  replies := fun _ => BenchmarkRunner.lateThenRefusing.complete
  context := ⟨.utc 1, .utc 2, "run-1"⟩
  fault := fun _ => none
  closeConnection := .ok ()
  sanitizeErrorMessage := fun message _ => message
  stdout := .ok ()
  stderr := .ok ()

private theorem refused_returns :
    (main refusedWorld ["run"] {}).outcome.toOption = some 3 := by
  decide +kernel

def Event.isCall : Event → Bool
  | .call _ => true
  | _ => false

private theorem refused_calls : (main refusedWorld ["run"] {}).events.any Event.isCall = true := by
  decide +kernel

/-- The run of both calls is saved, under the exit code 3. -/
theorem refused_run_saved :
    (∃ run, Saved refusedWorld ["run"] {} (main refusedWorld ["run"] {}) run ∧
      ∃ result ∈ run.caseResults, result.errorType = some .authenticationError) ∧
    ∃ prepared provider, Prepares refusedWorld ["run"] prepared ∧
      Opens refusedWorld prepared provider := by
  obtain ⟨ends, accepted⟩ :=
    exit_code_tells_the_truth BenchmarkRunner.literalPlatform refusedWorld ["run"] []
  have ended : (main refusedWorld ["run"] {}).outcome = .ok 3 := by
    have returned := refused_returns
    cases outcome : (main refusedWorld ["run"] {}).outcome with
    | ok code =>
      rw [outcome] at returned
      exact congrArg Except.ok (Option.some.inj returned)
    | error error =>
      rw [outcome] at returned
      cases returned
  obtain ⟨run, saved, _, failed⟩ := (ends 3 ended).1 (.inr rfl)
  obtain ⟨event, member, called⟩ := List.any_eq_true.mp refused_calls
  cases event with
  | call request =>
    obtain ⟨before, later, split⟩ := List.append_of_mem member
    exact ⟨⟨run, saved, failed.mp rfl⟩, (accepted before request later split).2⟩
  | _ => cases called

end Endings

end ModelPilot.BenchmarkCommand
