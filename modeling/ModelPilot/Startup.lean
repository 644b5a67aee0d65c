import ModelPilot.AdapterOutcomes
import ModelPilot.BenchmarkApi
import ModelPilot.BenchmarkCommand
import ModelPilot.HealthArithmetic
import ModelPilot.MigrationRuns
import ModelPilot.RequestLedger

/-! The start of the service: the settings (`config.py`), the candidates (`router.py`), the
gateway that is built of them, and the life of the application (`main.py`). -/
namespace ModelPilot.Startup
open BenchmarkApi (AppState SourcedResolver)
open BenchmarkCommand (CommandError CommandWorld)
open ModelPilot.Action (done emit within)
open SQLiteDatabase (Database initializeDatabase)

/-! ### Settings -/

/-- `Settings`, which a validation has accepted. -/
structure Settings extends BenchmarkCommand.Settings where
  corsOrigins : List String
  qualitySuitePath : Option String
  openaiModel : String
  geminiModel : String
  deepseekModel : String
  valid : toSettings.check = .ok ()

namespace Settings
variable {int : String → Option Int} {getenv : String → Option String}

theorem fromEnv_valid {settings : BenchmarkCommand.Settings}
    (built : BenchmarkCommand.Settings.fromEnv int getenv = .ok settings) :
    settings.check = .ok () := by
  obtain ⟨_, _, built⟩ := bind_ok_iff.mp built
  obtain ⟨_, _, built⟩ := bind_ok_iff.mp built
  obtain ⟨_, _, built⟩ := bind_ok_iff.mp built
  obtain ⟨valid, built⟩ := then_ok_iff.mp built
  cases built
  exact valid

/-- The origins that are not blank. -/
def origins (text : String) : List String :=
  ((text.toList.splitOn ',').map fun origin => strip (String.ofList origin)).filter (· ≠ "")

/-- `Path(path) if path else None`, of a stripped path. -/
def suitePath (text : String) : Option String := some (strip text) |>.filter (· ≠ "")

/-- `from_env`. -/
def fromEnv (int : String → Option Int) (getenv : String → Option String) :
    Except PyError Settings :=
  match built : BenchmarkCommand.Settings.fromEnv int getenv with
  | .error error => .error error
  | .ok settings => .ok
    { settings with
      corsOrigins := origins ((getenv "MODELPILOT_CORS_ORIGINS").getD "http://localhost:3000")
      qualitySuitePath := suitePath ((getenv "MODELPILOT_QUALITY_SUITE_PATH").getD "")
      openaiModel := (getenv "OPENAI_MODEL").getD "gpt-4o-mini"
      geminiModel := (getenv "GEMINI_MODEL").getD "gemini-2.0-flash"
      deepseekModel := (getenv "DEEPSEEK_MODEL").getD "deepseek-chat"
      valid := fromEnv_valid built }

/-- The circuit policy of the settings. -/
def circuit (settings : Settings) : CircuitSettings where
  circuitFailureThreshold := settings.circuitFailureThreshold
  circuitCooldownSeconds := settings.circuitCooldownSeconds
  threshold := by
    have valid := settings.valid
    simp only [BenchmarkCommand.Settings.check, then_ok_iff, require_ok_iff] at valid
    exact valid.2.1
  cooldown := by
    have valid := settings.valid
    simp only [BenchmarkCommand.Settings.check, then_ok_iff, require_ok_iff] at valid
    exact valid.2.2

end Settings

/-! ### Gateway -/

private theorem openai_scores : Rounding.InUnit (9 / 10) ∧ Rounding.InUnit (13 / 20) ∧
    Rounding.InUnit (19 / 25) ∧ Rounding.InUnit (24 / 25) := by
  norm_num [Rounding.InUnit]

private theorem gemini_scores : Rounding.InUnit (21 / 25) ∧ Rounding.InUnit (22 / 25) ∧
    Rounding.InUnit (9 / 10) ∧ Rounding.InUnit (23 / 25) := by
  norm_num [Rounding.InUnit]

private theorem deepseek_scores : Rounding.InUnit (43 / 50) ∧ Rounding.InUnit (47 / 50) ∧
    Rounding.InUnit (41 / 50) ∧ Rounding.InUnit (9 / 10) := by
  norm_num [Rounding.InUnit]

/-- `default_candidates`. -/
def defaultCandidates (openaiModel geminiModel deepseekModel : String) : List ModelCandidate :=
  [⟨"openai", openaiModel, 9 / 10, 13 / 20, 19 / 25, 24 / 25, openai_scores⟩,
   ⟨"gemini", geminiModel, 21 / 25, 22 / 25, 9 / 10, 23 / 25, gemini_scores⟩,
   ⟨"deepseek", deepseekModel, 43 / 50, 47 / 50, 41 / 50, 9 / 10, deepseek_scores⟩]

/-- The providers that a gateway is built with. -/
def providerNames : List String := ["openai", "gemini", "deepseek"]

/-- The class of `_PROVIDER_TYPES` for a name, around what its constructor holds. -/
def adapterOf (name : String) (provider : Provider) : Adapter :=
  if name = "gemini" then .gemini provider else .openAICompatible provider

/-- `{name: create_provider(name, settings, client) for name in …}`. -/
def createProviders (settings : Settings) : Except PyError (Dict String Adapter) := do
  let providers ← providerNames.mapM fun name => do
    let provider ← BenchmarkCommand.createProvider name settings.toSettings
    .ok (name, adapterOf name provider)
  .ok (Dict.ofList providers)

/-- A store object: one over the database, or one that the caller brings. -/
inductive StoreName where
  | database (path : String)
  | given (name : String) (keepsHealth : Bool)
  deriving DecidableEq, Repr

/-- `isinstance(store, ProviderHealthStore)`. -/
def StoreName.keepsHealth : StoreName → Bool
  | .database _ => true
  | .given _ keepsHealth => keepsHealth

/-- A gateway, with the objects it was built with. -/
structure Gateway (platform : Platform) where
  service : GatewayService
  adapters : Dict String Adapter
  metricsStore : StoreName
  healthStore : Option StoreName
  qualitySource : Option (SourcedResolver platform StoreName)
  logs : RequestLogStore

structure App (platform : Platform) where
  gateway : Gateway platform
  state : AppState platform StoreName

/-- What a start takes from outside beside what the benchmark command takes: which characters
are letters or digits, how an explanation is dumped, the clock of the quality source, the faults
of the two initializations of the database, and how serving ends. -/
structure StartupWorld (platform : Platform) extends CommandWorld platform where
  modelDump : RoutingExplanation → Json
  clock : Datetime
  metricsFault : Nat → Option PyError
  benchmarkFault : Nat → Option PyError
  stopped : Except CommandError Unit

/-- The arguments of `create_app`. -/
structure AppArguments (platform : Platform) where
  settings : Option Settings := none
  gateway : Option (Gateway platform) := none
  benchmarkStore : Option StoreName := none

inductive Event (platform : Platform) where
  | clientOpened
  | clientClosed
  | suiteRead (path : String)
  | mkdir (path : String)
  | opened (path : String)
  | serving (app : App platform)

/-- Actions on the file of the database. -/
abbrev Start (platform : Platform) (ρ α : Type) :=
  Action (Database ρ) (Event platform) CommandError α

section Building
variable {platform : Platform} {ρ : Type} (world : StartupWorld platform) (settings : Settings)

/-- `SQLiteDatabase(path)`, which initializes the file. -/
def openDatabase (fault : Nat → Option PyError) : Start platform ρ Unit := fun file =>
  let (ended, after) := initializeDatabase fault file
  ⟨[.opened settings.metricsDbPath], after, BenchmarkCommand.raises ended⟩

/-- `build_metrics_store`. -/
def buildMetricsStore : Start platform ρ StoreName := do
  emit (.mkdir settings.metricsDbPath)
  done (BenchmarkCommand.raises (world.mkdir settings.metricsDbPath))
  openDatabase settings world.metricsFault
  pure (.database settings.metricsDbPath)

/-- The suite of the settings, when they name one. -/
def loadSuite : Start platform ρ (Option (BenchmarkSuite platform.texts)) :=
  match settings.qualitySuitePath with
  | none => pure none
  | some path => do
    emit (.suiteRead path)
    let suite ← done (BenchmarkCommand.loadBenchmarkSuite world.toCommandWorld path)
    pure (some suite)

/-- The quality source over the database, for a suite. -/
def buildQualitySource : Option (BenchmarkSuite platform.texts) →
    Start platform ρ (Option (SourcedResolver platform StoreName))
  | none => pure none
  | some suite => do
    openDatabase settings world.benchmarkFault
    let source ← done (BenchmarkCommand.raises
      (BenchmarkApi.newResolver suite (.database settings.metricsDbPath) world.clock))
    pure (some source)

/-- The manager over a health store, when there is one. -/
def buildHealth (healthStore : Option StoreName) : Except PyError (Option ProviderHealthManager) :=
  match healthStore with
  | none => .ok none
  | some _ => settings.circuit.manager.map some

/-- The service over its parts. -/
def serviceOf (adapters : Dict String Adapter) (health : Option ProviderHealthManager) :
    GatewayService where
  router :=
    { providers := adapters.mapValues fun adapter => BenchmarkCommand.configured adapter.provider
      candidates := defaultCandidates settings.openaiModel settings.geminiModel
        settings.deepseekModel }
  metrics := true
  health := health
  probes := true
  sanitizeErrorMessage := fun message => world.sanitizeErrorMessage message []
  modelDump := world.modelDump

/-- `RequestLogStore(settings.request_log_limit)`. -/
def logsOf : RequestLogStore where
  limit := settings.requestLogLimit.toNat
  bounded := Nat.zero_le _

/-- The metrics store that is given, or else built. -/
def chosenMetricsStore : Option StoreName → Start platform ρ StoreName
  | some store => pure store
  | none => buildMetricsStore world settings

/-- `build_gateway`. -/
def buildGateway (metrics healthStore : Option StoreName) :
    Start platform ρ (Gateway platform) := do
  let suite ← loadSuite world settings
  let adapters ← done (BenchmarkCommand.raises (createProviders settings))
  let metricsStore ← chosenMetricsStore world settings metrics
  let qualitySource ← buildQualitySource world settings suite
  let healthStore := healthStore.or (some metricsStore |>.filter (·.keepsHealth))
  let health ← done (BenchmarkCommand.raises (buildHealth settings healthStore))
  pure
    { service := serviceOf world settings adapters health
      adapters
      metricsStore
      healthStore
      qualitySource
      logs := logsOf settings }

end Building

section Living
variable {platform : Platform} {ρ : Type} (world : StartupWorld platform)

/-- A store over the database is made only when nothing brings one. -/
def createBenchmarkStore (args : AppArguments platform) (settings : Settings)
    (gateway : Gateway platform) : Start platform ρ Unit :=
  if args.benchmarkStore.isNone ∧ gateway.qualitySource.isNone ∧ args.gateway.isNone then
    openDatabase settings world.benchmarkFault
  else pure ()

/-- `configure_benchmarks`. -/
def configureBenchmarks (args : AppArguments platform) (settings : Settings)
    (gateway : Gateway platform) : Start platform ρ (App platform) := do
  createBenchmarkStore world args settings gateway
  let state ← done (BenchmarkCommand.raises (BenchmarkApi.configureBenchmarks
    gateway.qualitySource args.gateway.isSome args.benchmarkStore
    (.ok (.database settings.metricsDbPath))))
  pure ⟨gateway, state⟩

/-- What the application does from the `yield` of its lifespan on. -/
def serve (app : App platform) : Start platform ρ Unit := do
  emit (.serving app)
  done world.stopped

/-- The client is entered. -/
def openClient : Start platform ρ Unit := do
  done (BenchmarkCommand.raises world.openClient)
  emit .clientOpened

def closeClient : Start platform ρ Unit := do
  emit .clientClosed
  done (BenchmarkCommand.raises world.closeClient)

/-- The body of the `async with`. -/
def serveOwn (args : AppArguments platform) (settings : Settings) : Start platform ρ Unit := do
  let gateway ← buildGateway world settings none none
  let app ← configureBenchmarks world args settings gateway
  serve world app

/-- `lifespan`. -/
def lifespan (args : AppArguments platform) (settings : Settings) : Start platform ρ Unit :=
  match args.gateway with
  | some gateway => do
    let app ← configureBenchmarks world args settings gateway
    serve world app
  | none => within (openClient world) (closeClient world) (serveOwn world args settings)

/-- `settings or Settings.from_env()`. -/
def appSettings (args : AppArguments platform) : Except CommandError Settings :=
  match args.settings with
  | some settings => .ok settings
  | none => BenchmarkCommand.raises (Settings.fromEnv world.int world.getenv)

/-- `create_app`, and the life of the application. -/
def start (args : AppArguments platform) : Start platform ρ Unit := do
  let settings ← done (appSettings world args)
  lifespan world args settings

end Living

end ModelPilot.Startup
