import ModelPilot.CommandEndings
import ModelPilot.JsonAnswers
import ModelPilot.Startup

/-! When the service comes to serve: which checks stand before it, what its application is
made of, what becomes of the file of the database, and that an opened client is closed. -/
namespace ModelPilot.Startup
open BenchmarkCommand (CommandError raises_ok_iff)
open ModelPilot.Action (Moves Silent Yields done emit yields_bind yields_done yields_emit
  yields_pure)
open SQLiteDatabase (Database Keeps currentVersion initializeDatabase initializeTransaction)

/-! ### The steps -/

section Steps
variable {platform : Platform} {ρ : Type} {world : StartupWorld platform} {settings : Settings}
  {file after : Database ρ}

theorem openDatabase_yields_iff {fault : Nat → Option PyError} {value : Unit} :
    Yields (openDatabase settings fault : Start platform ρ Unit) file value after ↔
      initializeDatabase fault file = (.ok (), after) := by
  unfold openDatabase
  constructor
  · rintro ⟨ended, rfl⟩
    exact Prod.ext (raises_ok_iff.mp ended) rfl
  · intro initialized
    constructor
    · exact raises_ok_iff.mpr (congrArg Prod.fst initialized)
    · exact congrArg Prod.snd initialized

theorem buildMetricsStore_yields_iff {store : StoreName} :
    (buildMetricsStore world settings).Yields file store after ↔
      world.mkdir settings.metricsDbPath = .ok () ∧
      initializeDatabase world.metricsFault file = (.ok (), after) ∧
      store = .database settings.metricsDbPath := by
  unfold buildMetricsStore
  simp only [yields_bind, yields_emit, yields_done, yields_pure, raises_ok_iff,
    openDatabase_yields_iff]
  constructor
  · rintro ⟨_, _, rfl, _, _, ⟨made, rfl⟩, _, _, initialized, rfl, rfl⟩
    exact ⟨made, initialized, rfl⟩
  · rintro ⟨made, initialized, rfl⟩
    exact ⟨(), file, rfl, (), file, ⟨made, rfl⟩, (), after, initialized, rfl, rfl⟩

/-- The suite that the settings name. -/
def suiteOf (world : StartupWorld platform) (settings : Settings) :
    Except CommandError (Option (BenchmarkSuite platform.texts)) :=
  match settings.qualitySuitePath with
  | none => .ok none
  | some path => (BenchmarkCommand.loadBenchmarkSuite world.toCommandWorld path).map some

theorem loadSuite_yields_iff {suite : Option (BenchmarkSuite platform.texts)} :
    (loadSuite world settings).Yields file suite after ↔
      suiteOf world settings = .ok suite ∧ after = file := by
  unfold loadSuite suiteOf
  cases settings.qualitySuitePath with
  | none =>
    dsimp only
    rw [yields_pure, Except.ok.injEq, eq_comm]
  | some path =>
    simp only [yields_bind, yields_emit, yields_done, yields_pure]
    constructor
    · rintro ⟨_, _, rfl, _, _, ⟨loaded, rfl⟩, rfl, rfl⟩
      rw [loaded]
      exact ⟨rfl, rfl⟩
    · rintro ⟨loaded, rfl⟩
      cases read : BenchmarkCommand.loadBenchmarkSuite world.toCommandWorld path with
      | error error =>
        rw [read] at loaded
        cases loaded
      | ok held =>
        rw [read] at loaded
        cases loaded
        exact ⟨(), after, rfl, held, after, ⟨rfl, rfl⟩, rfl, rfl⟩

/-- The file is opened once more, or left alone. -/
def Reopened (world : StartupWorld platform) (opens : Prop) (file after : Database ρ) : Prop :=
  (opens → initializeDatabase world.benchmarkFault file = (.ok (), after)) ∧
    (¬ opens → after = file)

/-- The quality source over the database. -/
def sourceOf (world : StartupWorld platform) (settings : Settings)
    (suite : Option (BenchmarkSuite platform.texts)) :
    Option (BenchmarkApi.SourcedResolver platform StoreName) :=
  suite.map fun suite => ⟨suite, .database settings.metricsDbPath, world.clock⟩

theorem buildQualitySource_yields_iff {suite : Option (BenchmarkSuite platform.texts)}
    {source : Option (BenchmarkApi.SourcedResolver platform StoreName)} :
    (buildQualitySource world settings suite).Yields file source after ↔
      source = sourceOf world settings suite ∧ Reopened world (suite.isSome = true) file after := by
  cases suite with
  | none =>
    unfold buildQualitySource Reopened
    rw [yields_pure]
    simp [sourceOf]
  | some suite =>
    have renewed (store : StoreName) : BenchmarkApi.newResolver suite store world.clock =
        .ok ⟨suite, store, world.clock⟩ :=
      bind_ok_iff.mpr ⟨suite, suite.modelValidate_self, rfl⟩
    unfold buildQualitySource Reopened
    simp only [yields_bind, yields_done, yields_pure, raises_ok_iff, openDatabase_yields_iff,
      renewed, sourceOf, Option.map_some, Option.isSome_some, forall_const, not_true_eq_false,
      false_implies, and_true]
    constructor
    · rintro ⟨_, _, initialized, _, _, ⟨built, rfl⟩, rfl, rfl⟩
      cases built
      exact ⟨rfl, initialized⟩
    · rintro ⟨rfl, initialized⟩
      exact ⟨(), after, initialized, _, after, ⟨rfl, rfl⟩, rfl, rfl⟩

private theorem openai_spoken : "openai" ≠ "" := by simp

private theorem deepseek_spoken : "deepseek" ≠ "" := by simp

/-- The adapters that a gateway is built with. -/
def adaptersOf (settings : Settings) : Dict String Adapter := Dict.ofList
  [("openai", .openAICompatible
      (.create "openai" settings.openaiApiKey settings.openaiBaseUrl openai_spoken)),
   ("gemini", .gemini (.create settings.geminiApiKey settings.geminiBaseUrl)),
   ("deepseek", .openAICompatible
      (.create "deepseek" settings.deepseekApiKey settings.deepseekBaseUrl deepseek_spoken))]

theorem createProviders_ok : createProviders settings = .ok (adaptersOf settings) := rfl

/-- The gateway over the database, for a suite and a manager. -/
def gatewayOf (world : StartupWorld platform) (settings : Settings)
    (suite : Option (BenchmarkSuite platform.texts)) (manager : ProviderHealthManager) :
    Gateway platform where
  service := serviceOf world settings (adaptersOf settings) (some manager)
  adapters := adaptersOf settings
  metricsStore := .database settings.metricsDbPath
  healthStore := some (.database settings.metricsDbPath)
  qualitySource := sourceOf world settings suite
  logs := logsOf settings

theorem buildGateway_yields_iff {gateway : Gateway platform} :
    (buildGateway world settings none none).Yields file gateway after ↔
      ∃ suite manager middle, suiteOf world settings = .ok suite ∧
        world.mkdir settings.metricsDbPath = .ok () ∧
        initializeDatabase world.metricsFault file = (.ok (), middle) ∧
        Reopened world (suite.isSome = true) middle after ∧
        settings.circuit.manager = .ok manager ∧
        gateway = gatewayOf world settings suite manager := by
  unfold buildGateway chosenMetricsStore
  simp only [yields_bind, yields_done, yields_pure, raises_ok_iff, loadSuite_yields_iff,
    createProviders_ok, buildMetricsStore_yields_iff, buildQualitySource_yields_iff]
  constructor
  · rintro ⟨suite, _, ⟨loaded, rfl⟩, _, _, ⟨created, rfl⟩, _, middle, ⟨made, initialized, rfl⟩, _,
      _, ⟨rfl, reopened⟩, _, _, ⟨healthy, rfl⟩, rfl, rfl⟩
    obtain ⟨manager, built, rfl⟩ := map_ok_iff.mp healthy
    cases created
    exact ⟨suite, manager, middle, loaded, made, initialized, reopened, built, rfl⟩
  · rintro ⟨suite, manager, middle, loaded, made, initialized, reopened, built, rfl⟩
    exact ⟨suite, file, ⟨loaded, rfl⟩, adaptersOf settings, file, ⟨rfl, rfl⟩, _, middle,
      ⟨made, initialized, rfl⟩, _, after, ⟨rfl, reopened⟩, some manager, after,
      ⟨map_ok_iff.mpr ⟨manager, built, rfl⟩, rfl⟩, rfl, rfl⟩

/-- The store that the endpoints read, when there is one. -/
def storeOf (args : AppArguments platform) (settings : Settings)
    (source : Option (BenchmarkApi.SourcedResolver platform StoreName)) : Option StoreName :=
  args.benchmarkStore.or ((source.map (·.store)).or
    (if args.gateway.isSome then none else some (.database settings.metricsDbPath)))

/-- The application over a gateway: its endpoints read one store. -/
def appOf (args : AppArguments platform) (settings : Settings) (gateway : Gateway platform) :
    App platform :=
  let store := storeOf args settings gateway.qualitySource
  { gateway
    state :=
      { benchmarkStore := store
        benchmarkQuality := gateway.qualitySource.map fun resolver =>
          { resolver with store := store.getD resolver.store } } }

theorem configureBenchmarks_state (args : AppArguments platform) (gateway : Gateway platform) :
    BenchmarkApi.configureBenchmarks gateway.qualitySource args.gateway.isSome args.benchmarkStore
      (.ok (.database settings.metricsDbPath)) = .ok (appOf args settings gateway).state := by
  have renewed (resolver : BenchmarkApi.SourcedResolver platform StoreName) (store : StoreName) :
      BenchmarkApi.newResolver resolver.suite store resolver.clock = .ok { resolver with store } :=
    bind_ok_iff.mpr ⟨resolver.suite, resolver.suite.modelValidate_self, rfl⟩
  unfold BenchmarkApi.configureBenchmarks BenchmarkApi.chosenStore appOf storeOf
  cases args.benchmarkStore with
  | some store =>
    cases gateway.qualitySource with
    | none => rfl
    | some resolver =>
      dsimp only [Option.some_or, Option.map_some, Option.getD_some]
      by_cases same : store = resolver.store
      · subst same
        exact if_neg (not_not_intro rfl)
      · refine (if_pos same).trans ?_
        rw [renewed]
        rfl
  | none =>
    cases gateway.qualitySource with
    | none => cases args.gateway <;> rfl
    | some resolver => exact if_neg (not_not_intro rfl)

theorem configureBenchmarks_yields_iff {args : AppArguments platform} {gateway : Gateway platform}
    {app : App platform} :
    (configureBenchmarks world args settings gateway).Yields file app after ↔
      Reopened world (args.benchmarkStore = none ∧ gateway.qualitySource = none ∧
        args.gateway = none) file after ∧ app = appOf args settings gateway := by
  have reopens : (createBenchmarkStore world args settings gateway).Yields file () after ↔
      Reopened world (args.benchmarkStore = none ∧ gateway.qualitySource = none ∧
        args.gateway = none) file after := by
    unfold createBenchmarkStore Reopened
    simp only [Option.isNone_iff_eq_none]
    split
    · rename_i opens
      rw [openDatabase_yields_iff]
      simp [opens]
    · rename_i closed
      rw [yields_pure]
      simp only [true_and]
      constructor
      · intro same
        exact ⟨fun opens => absurd opens closed, fun _ => same⟩
      · exact fun both => both.2 closed
  unfold configureBenchmarks
  simp only [yields_bind, yields_done, yields_pure, raises_ok_iff, configureBenchmarks_state]
  constructor
  · rintro ⟨_, _, opened, state, _, ⟨configured, rfl⟩, rfl, rfl⟩
    cases configured
    exact ⟨reopens.mp opened, rfl⟩
  · rintro ⟨opened, rfl⟩
    exact ⟨(), after, reopens.mpr opened, _, after, ⟨rfl, rfl⟩, rfl, rfl⟩

end Steps

/-! ### The file -/

section Files
variable {platform : Platform} {ρ α β : Type} {world : StartupWorld platform}
  {settings : Settings} {args : AppArguments platform} {file after later : Database ρ}

/-- The file is as it was, or initialized. -/
def Kept (file after : Database ρ) : Prop :=
  after = file ∨ initializeTransaction.run file = .ok after

theorem Kept.trans (first : Kept file after) (second : Kept after later) : Kept file later := by
  rcases first with rfl | initialized
  · exact second
  · have again := SQLiteDatabase.initializeTransaction_current
      (SQLiteDatabase.initializeTransaction_version initialized)
    rcases second with rfl | repeated
    · exact .inr initialized
    · rw [again] at repeated
      cases repeated
      exact .inr initialized

theorem openDatabase_moves (settings : Settings) (fault : Nat → Option PyError) :
    Moves Kept (openDatabase settings fault : Start platform ρ Unit) := by
  intro file
  unfold openDatabase
  cases opened : initializeDatabase fault file with
  | mk ended after =>
    cases ended with
    | ok _ => exact .inr (SQLiteDatabase.initializeDatabase_done opened)
    | error error => exact .inl (SQLiteDatabase.initializeDatabase_rollback opened)

/-- What only reads and tells leaves the file. -/
theorem moves_done (outcome : Except CommandError α) :
    Moves Kept (done outcome : Start platform ρ α) := fun _ => .inl rfl

theorem moves_emit (event : Event platform) :
    Moves Kept (emit event : Start platform ρ Unit) := fun _ => .inl rfl

theorem moves_bind {first : Start platform ρ α} {next : α → Start platform ρ β}
    (begun : Moves Kept first) (ended : ∀ value, Moves Kept (next value)) :
    Moves Kept (first >>= next) :=
  Moves.bind (fun _ => .inl rfl) Kept.trans begun ended

theorem buildGateway_moves : Moves Kept (buildGateway world settings none none :
    Start platform ρ (Gateway platform)) := by
  have loads : Moves Kept (loadSuite world settings : Start platform ρ _) := by
    unfold loadSuite
    split
    · exact moves_done _
    · exact moves_bind (moves_emit _) fun _ => moves_bind (moves_done _) fun _ => moves_done _
  have store : Moves Kept (buildMetricsStore world settings : Start platform ρ _) :=
    moves_bind (moves_emit _) fun _ => moves_bind (moves_done _) fun _ =>
      moves_bind (openDatabase_moves _ _) fun _ => moves_done _
  have source (suite : Option (BenchmarkSuite platform.texts)) :
      Moves Kept (buildQualitySource world settings suite : Start platform ρ _) := by
    unfold buildQualitySource
    split
    · exact moves_done _
    · exact moves_bind (openDatabase_moves _ _) fun _ => moves_bind (moves_done _) fun _ =>
        moves_done _
  exact moves_bind loads fun _ => moves_bind (moves_done _) fun _ => moves_bind store fun _ =>
    moves_bind (source _) fun _ => moves_bind (moves_done _) fun _ => moves_done _

theorem configureBenchmarks_moves (gateway : Gateway platform) :
    Moves Kept (configureBenchmarks world args settings gateway :
      Start platform ρ (App platform)) := by
  have store : Moves Kept (createBenchmarkStore world args settings gateway :
      Start platform ρ Unit) := by
    unfold createBenchmarkStore
    split
    · exact openDatabase_moves _ _
    · exact moves_done _
  exact moves_bind store fun _ => moves_bind (moves_done _) fun _ => moves_done _

theorem serve_moves (app : App platform) :
    Moves Kept (serve world app : Start platform ρ Unit) :=
  moves_bind (moves_emit _) fun _ => moves_done _

theorem serveOwn_moves : Moves Kept (serveOwn world args settings : Start platform ρ Unit) :=
  moves_bind buildGateway_moves fun _ => moves_bind (configureBenchmarks_moves _) fun _ =>
    serve_moves _

end Files

/-! ### The client -/

section Clients
variable {platform : Platform} {ρ α β : Type} {world : StartupWorld platform}
  {settings : Settings} {args : AppArguments platform}

def Event.IsClient : Event platform → Prop
  | .clientOpened | .clientClosed => True
  | _ => False

def Event.IsServing : Event platform → Prop
  | .serving _ => True
  | _ => False

variable {kind : Event platform → Prop}

theorem silent_bind {first : Start platform ρ α} {next : α → Start platform ρ β}
    (begun : Silent kind first) (ended : ∀ value, Silent kind (next value)) :
    Silent kind (first >>= next) := Silent.andThen begun ended

theorem openDatabase_silent (opening : ∀ path, ¬ kind (.opened path)) (settings : Settings)
    (fault : Nat → Option PyError) :
    Silent kind (openDatabase settings fault : Start platform ρ Unit) := by
  intro file event member
  rw [List.mem_singleton.mp member]
  exact opening _

/-- The building of a gateway tells only of files. -/
theorem buildGateway_silent (opening : ∀ path, ¬ kind (.opened path))
    (reading : ∀ path, ¬ kind (.suiteRead path)) (making : ∀ path, ¬ kind (.mkdir path)) :
    Silent kind (buildGateway world settings none none : Start platform ρ (Gateway platform)) := by
  have loads : Silent kind (loadSuite world settings : Start platform ρ _) := by
    unfold loadSuite
    split
    · exact .done _
    · exact silent_bind (.emit (reading _)) fun _ => silent_bind (.done _) fun _ => .done _
  have store : Silent kind (buildMetricsStore world settings : Start platform ρ _) :=
    silent_bind (.emit (making _)) fun _ => silent_bind (.done _) fun _ =>
      silent_bind (openDatabase_silent opening _ _) fun _ => .done _
  have source (suite : Option (BenchmarkSuite platform.texts)) :
      Silent kind (buildQualitySource world settings suite : Start platform ρ _) := by
    unfold buildQualitySource
    split
    · exact .done _
    · exact silent_bind (openDatabase_silent opening _ _) fun _ =>
        silent_bind (.done _) fun _ => .done _
  exact silent_bind loads fun _ => silent_bind (.done _) fun _ => silent_bind store fun _ =>
    silent_bind (source _) fun _ => silent_bind (.done _) fun _ => .done _

theorem configureBenchmarks_silent (opening : ∀ path, ¬ kind (.opened path))
    (gateway : Gateway platform) : Silent kind (configureBenchmarks world args settings gateway :
      Start platform ρ (App platform)) := by
  have store : Silent kind (createBenchmarkStore world args settings gateway :
      Start platform ρ Unit) := by
    unfold createBenchmarkStore
    split
    · exact openDatabase_silent opening _ _
    · exact .done _
  exact silent_bind store fun _ => silent_bind (.done _) fun _ => .done _

theorem serve_client_silent (app : App platform) :
    Silent Event.IsClient (serve world app : Start platform ρ Unit) :=
  silent_bind (.emit id) fun _ => .done _

theorem serveOwn_client_silent :
    Silent Event.IsClient (serveOwn world args settings : Start platform ρ Unit) :=
  silent_bind (buildGateway_silent (fun _ => id) (fun _ => id) fun _ => id) fun _ =>
    silent_bind (configureBenchmarks_silent (fun _ => id) _) fun _ => serve_client_silent _

end Clients

/-! ### Serving -/

section Serving
variable {platform : Platform} {ρ : Type} {world : StartupWorld platform}
  {settings : Settings} {args : AppArguments platform} {file after middle : Database ρ}
  {app : App platform}

/-- What a gateway of its own needs to serve, and the file it leaves. -/
structure Ready (world : StartupWorld platform) (args : AppArguments platform)
    (settings : Settings) (suite : Option (BenchmarkSuite platform.texts))
    (manager : ProviderHealthManager) (file after : Database ρ) : Prop where
  client : world.openClient = .ok ()
  loaded : suiteOf world settings = .ok suite
  directory : world.mkdir settings.metricsDbPath = .ok ()
  initialized : initializeDatabase world.metricsFault file = (.ok (), after)
  reopened : suite.isSome ∨ args.benchmarkStore = none →
    initializeDatabase world.benchmarkFault after = (.ok (), after)
  policy : settings.circuit.manager = .ok manager

/-- The application that comes to serve, over a gateway that was brought or one of its own. -/
inductive Serves (world : StartupWorld platform) (args : AppArguments platform)
    (file : Database ρ) : App platform → Prop
  | brought {settings gateway} (valid : appSettings world args = .ok settings)
      (given : args.gateway = some gateway) : Serves world args file (appOf args settings gateway)
  | own {settings suite manager after} (valid : appSettings world args = .ok settings)
      (built : args.gateway = none) (ready : Ready world args settings suite manager file after) :
      Serves world args file (appOf args settings (gatewayOf world settings suite manager))

/-- The client is opened before anything else and closed after it. -/
def Wrapped (events : List (Event platform)) : Prop :=
  ∃ body, events = .clientOpened :: (body ++ [.clientClosed]) ∧ ∀ event ∈ body, ¬ event.IsClient

/-- A file that is opened again is left as it is. -/
theorem Reopened.same {opens : Prop} (initialized : initializeTransaction.run file = .ok middle)
    (reopened : Reopened world opens middle after) : after = middle := by
  by_cases opened : opens
  · have again := SQLiteDatabase.initializeDatabase_done (reopened.1 opened)
    rw [SQLiteDatabase.initializeTransaction_current
      (SQLiteDatabase.initializeTransaction_version initialized)] at again
    cases again
    rfl
  · exact reopened.2 opened

theorem mem_serve_iff {served : App platform} :
    Event.serving app ∈ (serve world served file).events ↔ app = served := by
  change Event.serving app ∈ ([.serving served] ++ [] : List (Event platform)) ↔ _
  rw [List.append_nil, List.mem_singleton, Event.serving.injEq]

/-- The application serves once it is configured. -/
theorem mem_configured_iff {gateway : Gateway platform} :
    Event.serving app ∈ ((configureBenchmarks world args settings gateway >>= serve world)
        file).events ↔
      ∃ after, Reopened world (args.benchmarkStore = none ∧ gateway.qualitySource = none ∧
        args.gateway = none) file after ∧ app = appOf args settings gateway := by
  have shown : Event.IsServing (.serving app) := trivial
  rw [Action.mem_bind_of_silent (configureBenchmarks_silent (fun _ => id) _) shown]
  constructor
  · rintro ⟨served, after, configured, shown⟩
    obtain ⟨opened, rfl⟩ := configureBenchmarks_yields_iff.mp configured
    exact ⟨after, opened, mem_serve_iff.mp shown⟩
  · rintro ⟨after, opened, rfl⟩
    exact ⟨_, after, configureBenchmarks_yields_iff.mpr ⟨opened, rfl⟩, mem_serve_iff.mpr rfl⟩

/-- The two steps that open the file again, as one. -/
theorem reopened_iff (settings : Settings) {suite : Option (BenchmarkSuite platform.texts)}
    (built : args.gateway = none) (initialized : initializeTransaction.run file = .ok middle) :
    (∃ later after, Reopened world (suite.isSome = true) middle later ∧
        Reopened world (args.benchmarkStore = none ∧ sourceOf world settings suite = none ∧
          args.gateway = none) later after) ↔
      (suite.isSome ∨ args.benchmarkStore = none →
        initializeDatabase world.benchmarkFault middle = (.ok (), middle)) := by
  constructor
  · rintro ⟨later, after, first, second⟩ opens
    have unchanged := first.same initialized
    subst unchanged
    by_cases held : suite.isSome = true
    · exact first.1 held
    · have absent : suite = none := Option.not_isSome_iff_eq_none.mp held
      have opened := second.1 ⟨opens.resolve_left held, by rw [absent]; rfl, built⟩
      rwa [second.same initialized] at opened
  · intro opens
    refine ⟨middle, middle, ⟨fun held => opens (.inl held), fun _ => rfl⟩,
      ⟨fun needed => opens (.inr needed.1), fun _ => rfl⟩⟩

theorem mem_serveOwn_iff (built : args.gateway = none) (opened : world.openClient = .ok ()) :
    Event.serving app ∈ (serveOwn world args settings file).events ↔
      ∃ suite manager after, Ready world args settings suite manager file after ∧
        app = appOf args settings (gatewayOf world settings suite manager) := by
  have shown : Event.IsServing (.serving app) := trivial
  unfold serveOwn
  rw [Action.mem_bind_of_silent
    (buildGateway_silent (fun _ => id) (fun _ => id) fun _ => id) shown]
  constructor
  · rintro ⟨gateway, later, gated, shown⟩
    obtain ⟨suite, manager, middle, loaded, made, initialized, first, policy, rfl⟩ :=
      buildGateway_yields_iff.mp gated
    obtain ⟨after, second, rfl⟩ := mem_configured_iff.mp shown
    exact ⟨suite, manager, middle, ⟨opened, loaded, made, initialized,
      (reopened_iff settings built (SQLiteDatabase.initializeDatabase_done initialized)).mp
        ⟨later, after, first, second⟩, policy⟩, rfl⟩
  · rintro ⟨suite, manager, middle, ready, rfl⟩
    obtain ⟨later, after, first, second⟩ := (reopened_iff settings built
      (SQLiteDatabase.initializeDatabase_done ready.initialized)).mpr ready.reopened
    exact ⟨_, later, buildGateway_yields_iff.mpr ⟨suite, manager, middle, ready.loaded,
      ready.directory, ready.initialized, first, ready.policy, rfl⟩,
      mem_configured_iff.mpr ⟨after, second, rfl⟩⟩

theorem start_settled (valid : appSettings world args = .ok settings) :
    start world args file = lifespan world args settings file := by
  unfold start
  rw [valid]
  rfl

theorem start_unsettled {error : CommandError} (invalid : appSettings world args = .error error) :
    start world args file = ⟨[], file, .error error⟩ := by
  unfold start
  rw [invalid]
  rfl

theorem start_brought {gateway : Gateway platform} (valid : appSettings world args = .ok settings)
    (given : args.gateway = some gateway) :
    start world args file =
      (configureBenchmarks world args settings gateway >>= serve world) file := by
  rw [start_settled valid]
  unfold lifespan
  rw [given]

/-- Around an own gateway, the client is opened first and closed last. -/
theorem start_own (valid : appSettings world args = .ok settings) (built : args.gateway = none)
    (opened : world.openClient = .ok ()) :
    (start world args file).events =
        .clientOpened :: ((serveOwn world args settings file).events ++ [.clientClosed]) ∧
      (start world args file).state = (serveOwn world args settings file).state := by
  have entering : openClient world file = ⟨[.clientOpened], file, .ok ()⟩ := by
    unfold openClient
    rw [opened]
    rfl
  have leaving (file : Database ρ) : (closeClient world file).events = [.clientClosed] ∧
      (closeClient world file).state = file := ⟨rfl, rfl⟩
  have inside := Action.within_of_entered (closeClient world) (serveOwn world args settings)
    (congrArg Course.outcome entering)
  rw [start_settled valid]
  unfold lifespan
  rw [built]
  rw [entering, (leaving _).1, (leaving _).2] at inside
  exact inside

theorem start_unopened {error : PyError} (valid : appSettings world args = .ok settings)
    (built : args.gateway = none) (refused : world.openClient = .error error) :
    (start world args file).events = [] ∧ (start world args file).state = file := by
  have entering : openClient world file = ⟨[], file, BenchmarkCommand.raises (.error error)⟩ := by
    unfold openClient
    rw [refused]
    rfl
  have outside := Action.within_of_unentered (closeClient world)
    (serveOwn world args settings) (congrArg Course.outcome entering)
  rw [start_settled valid]
  unfold lifespan
  rw [built]
  rw [entering] at outside
  exact outside

/-- A start serves the application whose needs are met, and no other. -/
theorem mem_start_iff :
    Event.serving app ∈ (start world args file).events ↔ Serves world args file app := by
  constructor
  · intro shown
    cases valid : appSettings world args with
    | error error =>
      rw [start_unsettled valid] at shown
      cases shown
    | ok settings =>
      cases given : args.gateway with
      | some gateway =>
        rw [start_brought valid given, mem_configured_iff] at shown
        obtain ⟨_, _, rfl⟩ := shown
        exact .brought valid given
      | none =>
        cases opened : world.openClient with
        | error error =>
          rw [(start_unopened valid given opened).1] at shown
          cases shown
        | ok _ =>
          rw [(start_own valid given opened).1] at shown
          simp only [List.mem_cons, List.mem_append, List.not_mem_nil, reduceCtorEq, or_false,
            false_or, mem_serveOwn_iff given opened] at shown
          obtain ⟨suite, manager, after, ready, rfl⟩ := shown
          exact .own valid given ready
  · rintro (⟨valid, given⟩ | ⟨valid, built, ready⟩)
    · rw [start_brought valid given, mem_configured_iff]
      refine ⟨file, ⟨fun opens => ?_, fun _ => rfl⟩, rfl⟩
      rw [given] at opens
      cases opens.2.2
    · rw [(start_own valid built ready.client).1]
      refine List.mem_cons_of_mem _ (List.mem_append_left _ ?_)
      exact (mem_serveOwn_iff built ready.client).mpr ⟨_, _, _, ready, rfl⟩

/-- An own gateway that is ready leaves the file as its stores have initialized it. -/
theorem start_ready_state {suite : Option (BenchmarkSuite platform.texts)}
    {manager : ProviderHealthManager} (valid : appSettings world args = .ok settings)
    (built : args.gateway = none) (ready : Ready world args settings suite manager file after) :
    (start world args file).state = after := by
  have ran := SQLiteDatabase.initializeDatabase_done ready.initialized
  obtain ⟨later, last, first, second⟩ := (reopened_iff settings built ran).mpr ready.reopened
  have unchanged := first.same ran
  subst unchanged
  have gated : (buildGateway world settings none none).Yields file
      (gatewayOf world settings suite manager) later :=
    buildGateway_yields_iff.mpr ⟨suite, manager, later, ready.loaded, ready.directory,
      ready.initialized, first, ready.policy, rfl⟩
  have configured : (configureBenchmarks world args settings
      (gatewayOf world settings suite manager)).Yields later _ last :=
    configureBenchmarks_yields_iff.mpr ⟨second, rfl⟩
  rw [(start_own valid built ready.client).2]
  unfold serveOwn
  rw [gated.bind_state, configured.bind_state]
  exact second.same ran

theorem start_brought_state (given : args.gateway ≠ none) :
    (start world args file).state = file := by
  obtain ⟨gateway, given⟩ := Option.ne_none_iff_exists'.mp given
  cases valid : appSettings world args with
  | error error => rw [start_unsettled valid]
  | ok settings =>
    have closed : ¬ (args.benchmarkStore = none ∧ gateway.qualitySource = none ∧
        args.gateway = none) := by
      rintro ⟨_, _, built⟩
      rw [given] at built
      cases built
    have configured : (configureBenchmarks world args settings gateway).Yields file _ file :=
      configureBenchmarks_yields_iff.mpr
        ⟨⟨fun opens => absurd opens closed, fun _ => rfl⟩, rfl⟩
    rw [start_brought valid given, configured.bind_state]
    rfl

theorem start_kept : Kept file (start world args file).state := by
  by_cases given : args.gateway = none
  · cases valid : appSettings world args with
    | error error =>
      rw [start_unsettled valid]
      exact .inl rfl
    | ok settings =>
      cases opened : world.openClient with
      | error error => exact .inl (start_unopened valid given opened).2
      | ok _ =>
        rw [(start_own valid given opened).2]
        exact serveOwn_moves file
  · exact .inl (start_brought_state given)

/-- A start opens a client of its own. -/
def OpensClient (world : StartupWorld platform) (args : AppArguments platform) : Prop :=
  (∃ settings, appSettings world args = .ok settings) ∧ args.gateway = none ∧
    world.openClient = .ok ()

theorem start_wrapped (opens : OpensClient world args) :
    Wrapped (start world args file).events := by
  obtain ⟨⟨settings, valid⟩, built, opened⟩ := opens
  exact ⟨_, (start_own valid built opened).1, serveOwn_client_silent file⟩

theorem start_clientless (closed : ¬ OpensClient world args) :
    ∀ event ∈ (start world args file).events, ¬ event.IsClient := by
  cases valid : appSettings world args with
  | error error =>
    rw [start_unsettled valid]
    exact List.forall_mem_nil _
  | ok settings =>
    cases given : args.gateway with
    | some gateway =>
      rw [start_brought valid given]
      exact silent_bind (configureBenchmarks_silent (fun _ => id) _) serve_client_silent file
    | none =>
      cases opened : world.openClient with
      | error error =>
        rw [(start_unopened valid given opened).1]
        exact List.forall_mem_nil _
      | ok _ => exact absurd ⟨⟨settings, valid⟩, given, opened⟩ closed

theorem wrapped_iff : Wrapped (start world args file).events ↔ OpensClient world args := by
  constructor
  · rintro ⟨body, events, _⟩
    by_contra closed
    have first : .clientOpened ∈ (start world args file).events := by
      rw [events]
      exact List.mem_cons_self
    exact start_clientless closed _ first trivial
  · exact start_wrapped

/-- A start serves an application exactly when what that needs is there: settings that are
valid, and a gateway that is brought, or a client, a suite, a file and a policy for one of its
own. Then the file has the current schema and all that it held; else it is as it was, or so
initialized. The client is closed after everything else once it is open. -/
theorem start_serves_when_ready (world : StartupWorld platform) (args : AppArguments platform)
    (file : Database ρ) :
    (∀ app, .serving app ∈ (start world args file).events ↔ Serves world args file app) ∧
    (∀ settings suite manager after, appSettings world args = .ok settings →
      args.gateway = none → Ready world args settings suite manager file after →
        (start world args file).state = after ∧
        after.schemaVersion = some (some currentVersion) ∧ Keeps file after) ∧
    (args.gateway ≠ none → (start world args file).state = file) ∧
    Kept file (start world args file).state ∧
    (Wrapped (start world args file).events ↔ OpensClient world args) ∧
    (¬ OpensClient world args → ∀ event ∈ (start world args file).events, ¬ event.IsClient) := by
  refine ⟨fun app => mem_start_iff, ?_, start_brought_state, start_kept, wrapped_iff,
    start_clientless⟩
  intro settings suite manager after valid built ready
  have ran := SQLiteDatabase.initializeDatabase_done ready.initialized
  exact ⟨start_ready_state valid built ready, SQLiteDatabase.initializeTransaction_version ran,
    SQLiteDatabase.initializeTransaction_keeps ran⟩

end Serving

section Smoke
open BenchmarkRunner (literalPlatform twoCases)
open SQLiteDatabase (fresh program schemaSteps)

/-- The document of `twoCases`, by its lines. -/
def smokeLines : List String :=
  ["\x7b\"suite_id\": \"smoke\", \"version\": \"1\",",
   " \"name\": \"Smoke\", \"cases\": [",
   "\x7b\"case_id\": \"first\", \"category\": \"math\",",
   " \"messages\": [\x7b\"role\": \"user\",",
   " \"content\": \"One?\"\x7d], \"evaluator\":",
   " \x7b\"kind\": \"exact_match\",",
   " \"expected_text\": \"1\"\x7d\x7d,",
   "\x7b\"case_id\": \"second\", \"category\": \"math\",",
   " \"messages\": [\x7b\"role\": \"user\",",
   " \"content\": \"Two?\"\x7d], \"evaluator\":",
   " \x7b\"kind\": \"exact_match\",",
   " \"expected_text\": \"2\"\x7d\x7d]\x7d"]

def smokeText : String := .ofList (smokeLines.flatMap String.toList)

/-- A process whose environment names only a suite. -/
def smokeWorld : StartupWorld literalPlatform where
  argumentParser := fun _ => .error
  readText := fun path => if path = "smoke.json" then .ok smokeText else .error (.os path)
  numbers := plainNumbers
  recursion := fun _ => .ok ()
  suiteFields := fun _ => .ok twoCases.toSuiteFields
  int := fun text => [("500", 500), ("3", 3), ("60", 60)].lookup text
  getenv := fun name => [("MODELPILOT_QUALITY_SUITE_PATH", " smoke.json ")].lookup name
  openClient := .ok ()
  closeClient := .ok ()
  mkdir := fun _ => .ok ()
  initialization := fun _ => .ok ()
  replies := fun _ _ _ => .deadline 30000
  context := ⟨.utc 1, .utc 2, "run-1"⟩
  fault := fun _ => none
  closeConnection := .ok ()
  sanitizeErrorMessage := fun message _ => message
  stdout := .ok ()
  stderr := .ok ()
  modelDump := fun _ => .null
  clock := .utc 5
  metricsFault := fun _ => none
  benchmarkFault := fun _ => none
  stopped := .ok ()

private theorem smoke_settled : (appSettings smokeWorld {}).toOption.map (fun settings =>
      (settings.qualitySuitePath, settings.circuit.manager.toOption.isSome)) =
    some (some "smoke.json", true) := by
  decide +kernel

private theorem smoke_scanned : (JsonScanner.scanDocument smokeText).map (fun spelling =>
    (plainNumbers.construct spelling).toOption.isSome) = some true := by
  unfold JsonScanner.scanDocument smokeText
  rw [String.toList_ofList]
  decide +kernel

private theorem smoke_parsed : ∃ data, parseJsonDocument plainNumbers smokeText = .ok data := by
  obtain ⟨spelling, scanned, held⟩ := Option.map_eq_some_iff.mp smoke_scanned
  obtain ⟨tree, held⟩ := Option.isSome_iff_exists.mp held
  have constructed := toOption_eq_some_iff.mp held
  exact ⟨⟨tree, (construct_spec constructed).1⟩,
    parse_ok_iff.mpr ⟨spelling, scanned, constructed⟩⟩

private theorem smoke_loaded {settings : Settings}
    (path : settings.qualitySuitePath = some "smoke.json") :
    suiteOf smokeWorld settings = .ok (some twoCases) := by
  obtain ⟨data, parsed⟩ := smoke_parsed
  have read : smokeWorld.readText "smoke.json" = .ok smokeText := rfl
  have document : (do
      smokeWorld.recursion smokeText
      parseJsonDocument smokeWorld.numbers smokeText) = .ok data :=
    then_ok_iff.mpr ⟨rfl, parsed⟩
  have definition : (do
      let fields ← smokeWorld.suiteFields data
      BenchmarkSuite.modelValidate literalPlatform.texts fields) = .ok twoCases :=
    twoCases.modelValidate_self
  have loaded : BenchmarkCommand.loadBenchmarkSuite smokeWorld.toCommandWorld "smoke.json" =
      .ok twoCases := by
    unfold BenchmarkCommand.loadBenchmarkSuite
    rw [read]
    dsimp only
    rw [document]
    apply bind_ok_iff.mpr
    refine ⟨data, rfl, ?_⟩
    rw [definition]
    rfl
  unfold suiteOf
  rw [path]
  dsimp only
  rw [loaded]
  rfl

/-- A file of the first version. -/
def firstFile : Database Unit := ((program (schemaSteps 1)).run {}).toOption.getD {}

private theorem firstFile_initialized :
    initializeDatabase (fun _ => none) firstFile = (.ok (), fresh) := rfl

private theorem fresh_initialized :
    initializeDatabase (fun _ => none) (fresh : Database Unit) = (.ok (), fresh) := rfl

theorem smoke_start_serves : ∃ settings manager,
    appSettings smokeWorld {} = .ok settings ∧
    .serving (appOf {} settings (gatewayOf smokeWorld settings (some twoCases) manager)) ∈
      (start smokeWorld {} firstFile).events ∧
    (start smokeWorld {} firstFile).state = fresh ∧
    Wrapped (start smokeWorld {} firstFile).events := by
  obtain ⟨settings, settled, chosen⟩ := Option.map_eq_some_iff.mp smoke_settled
  have valid := toOption_eq_some_iff.mp settled
  obtain ⟨path, built⟩ := Prod.mk.inj chosen
  obtain ⟨manager, built⟩ := Option.isSome_iff_exists.mp built
  have ready : Ready smokeWorld {} settings (some twoCases) manager firstFile fresh :=
    { client := rfl
      loaded := smoke_loaded path
      directory := rfl
      initialized := firstFile_initialized
      reopened := fun _ => fresh_initialized
      policy := toOption_eq_some_iff.mp built }
  obtain ⟨serves, initialized, _, _, wrapped, _⟩ := start_serves_when_ready smokeWorld {} firstFile
  exact ⟨settings, manager, valid, (serves _).mpr (.own valid rfl ready),
    (initialized _ _ _ _ valid rfl ready).1, wrapped.mpr ⟨⟨settings, valid⟩, rfl, rfl⟩⟩

end Smoke

end ModelPilot.Startup
