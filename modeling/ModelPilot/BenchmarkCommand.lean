import ModelPilot.Actions
import ModelPilot.AdapterCalls
import ModelPilot.BenchmarkExecution
import ModelPilot.BenchmarkStore
import ModelPilot.JsonDocuments

/-! The benchmark command (`benchmarks/cli.py`), with the suite loader, the settings and
the provider factory it calls (`benchmarks/loader.py`, `config.py`,
`providers/factory.py`). -/
namespace ModelPilot.BenchmarkCommand

open BenchmarkRunner (CaseProvider CaseReply CaseRequest Config RunContext)
open BenchmarkStore (Tables)

/-- What the command's `except` clauses tell apart: its own `_ConfigurationError`, which
nothing else raises, an `OSError`, another `Exception`, and `SystemExit`, which is
none. -/
inductive CommandError where
  | configuration (message : String)
  | os (name : String)
  | raised (error : PyError)
  | systemExit
  deriving DecidableEq, Repr

/-- The value of a `float` argument. -/
inductive FloatArgument where
  | finite (value : ℚ)
  | nonFinite
  deriving DecidableEq

structure Arguments where
  suite : String
  provider : String
  model : String
  maxCases : Int
  timeout : FloatArgument
  temperature : FloatArgument
  json : Bool
  deriving DecidableEq

/-- How `ArgumentParser` reads a list of arguments: it parses, calls `error`, or prints
its help and exits. -/
inductive Parsed where
  | arguments (args : Arguments)
  | error
  | help

/-- How reading a text file fails. -/
inductive ReadError where
  | unicode
  | os (name : String)
  | raised (error : PyError)

/-- What the command takes from outside, and what each of these raises: the argument
parser, the file system, the interpreter that reads a document and pydantic that takes
the fields of a suite from it, the environment, the HTTP client, the database, the
provider's replies, the clock and the two output streams. -/
structure CommandWorld (platform : Platform) where
  argumentParser : List String → Parsed
  readText : String → Except ReadError String
  numbers : JsonNumbers
  recursion : String → Except PyError Unit
  suiteFields : JsonDocument → Except PyError SuiteFields
  int : String → Option Int
  getenv : String → Option String
  openClient : Except PyError Unit
  closeClient : Except PyError Unit
  mkdir : String → Except PyError Unit
  initialization : String → Except PyError Unit
  replies : Provider → Nat → CaseRequest → CaseReply
  context : RunContext
  fault : Nat → Option PyError
  closeConnection : Except PyError Unit
  sanitizeErrorMessage : String → List String → String
  stdout : Except PyError Unit
  stderr : Except PyError Unit

/-- The settings that are checked or used here. -/
structure Settings where
  requestLogLimit : Int
  circuitFailureThreshold : Int
  circuitCooldownSeconds : Int
  metricsDbPath : String
  openaiApiKey : Option String
  openaiBaseUrl : String
  geminiApiKey : Option String
  geminiBaseUrl : String
  deepseekApiKey : Option String
  deepseekBaseUrl : String
  deriving DecidableEq

namespace Settings

def check (settings : Settings) : Except PyError Unit := do
  require (1 ≤ settings.requestLogLimit ∧ settings.requestLogLimit ≤ 10000) "request_log_limit"
  require (1 ≤ settings.circuitFailureThreshold) "circuit_failure_threshold"
  require (0 ≤ settings.circuitCooldownSeconds) "circuit_cooldown_seconds"

/-- `int(os.getenv(name, default))`. -/
def intFromEnv (int : String → Option Int) (getenv : String → Option String)
    (name default_ : String) : Except PyError Int :=
  match int ((getenv name).getD default_) with
  | some value => .ok value
  | none => .error (.value "invalid literal for int()")

/-- `os.getenv(name) or None`. -/
def keyFromEnv (getenv : String → Option String) (name : String) : Option String :=
  (getenv name).filter (· ≠ "")

/-- `from_env`. -/
def fromEnv (int : String → Option Int) (getenv : String → Option String) :
    Except PyError Settings := do
  let requestLogLimit ← intFromEnv int getenv "MODELPILOT_REQUEST_LOG_LIMIT" "500"
  let circuitFailureThreshold ← intFromEnv int getenv "MODELPILOT_CIRCUIT_FAILURE_THRESHOLD" "3"
  let circuitCooldownSeconds ← intFromEnv int getenv "MODELPILOT_CIRCUIT_COOLDOWN_SECONDS" "60"
  let settings : Settings :=
    { requestLogLimit
      circuitFailureThreshold
      circuitCooldownSeconds
      metricsDbPath := (getenv "MODELPILOT_METRICS_DB").getD "./data/modelpilot.db"
      openaiApiKey := keyFromEnv getenv "OPENAI_API_KEY"
      openaiBaseUrl := (getenv "OPENAI_BASE_URL").getD "https://api.openai.com/v1"
      geminiApiKey := keyFromEnv getenv "GEMINI_API_KEY"
      geminiBaseUrl := (getenv "GEMINI_BASE_URL").getD
        "https://generativelanguage.googleapis.com/v1beta"
      deepseekApiKey := keyFromEnv getenv "DEEPSEEK_API_KEY"
      deepseekBaseUrl := (getenv "DEEPSEEK_BASE_URL").getD "https://api.deepseek.com/v1" }
  settings.check
  .ok settings

end Settings

private theorem openai_named : "openai" ≠ "" := by simp

private theorem deepseek_named : "deepseek" ≠ "" := by simp

/-- `create_provider`. -/
def createProvider (name : String) (settings : Settings) : Except PyError Provider :=
  if name = "openai" then .ok (OpenAICompatibleProvider.create "openai" settings.openaiApiKey
    settings.openaiBaseUrl openai_named)
  else if name = "gemini" then .ok (GeminiProvider.create settings.geminiApiKey
    settings.geminiBaseUrl)
  else if name = "deepseek" then .ok (OpenAICompatibleProvider.create "deepseek"
    settings.deepseekApiKey settings.deepseekBaseUrl deepseek_named)
  else .error (.value "unknown provider")

/-- `Provider.configured`. -/
def configured (provider : Provider) : Bool := provider.apiKey.any (· ≠ "")

section Loading
variable {platform : Platform}

/-- `except ValueError`, raised again under another message. -/
def refuse (message : String → String) : Except PyError α → Except CommandError α
  | .ok value => .ok value
  | .error (.value text) => .error (.raised (.value (message text)))
  | .error error => .error (.raised error)

/-- `load_benchmark_suite`. -/
def loadBenchmarkSuite (world : CommandWorld platform) (path : String) :
    Except CommandError (BenchmarkSuite platform.texts) :=
  match world.readText path with
  | .error .unicode => .error (.raised (.value "benchmark file must be UTF-8"))
  | .error (.os name) => .error (.os name)
  | .error (.raised error) => .error (.raised error)
  | .ok text => do
    let data ← refuse (fun _ => "invalid benchmark JSON document") do
      world.recursion text
      parseJsonDocument world.numbers text
    refuse (fun location => "invalid benchmark definition at: " ++ location) do
      let fields ← world.suiteFields data
      BenchmarkSuite.modelValidate platform.texts fields

/-- `parse_args`; the parser checks the choices of `--provider`. -/
def parseArgs (world : CommandWorld platform) (argv : List String) :
    Except CommandError Arguments :=
  match world.argumentParser argv with
  | .help => .error .systemExit
  | .error => .error (.configuration "invalid command arguments; use --help")
  | .arguments args =>
    if args.provider ∈ ["openai", "gemini", "deepseek"] then .ok args
    else .error (.configuration "invalid command arguments; use --help")

end Loading

/-- A `FiniteNumber` field. -/
def finite (location : String) : FloatArgument → Except PyError ℚ
  | .finite value => .ok value
  | .nonFinite => .error (.value location)

/-- The validated configuration of the run. -/
def runConfig (args : Arguments) : Except PyError Config := do
  let caseTimeoutSeconds ← finite "case_timeout_seconds" args.timeout
  let temperature ← finite "temperature" args.temperature
  let config : BenchmarkRunConfig := { maxCases := args.maxCases, caseTimeoutSeconds, temperature }
  match valid : config.check with
  | .ok () => .ok ⟨config, valid⟩
  | .error error => .error error

/-- What has to be accepted before a provider is called. -/
inductive Stage where
  | arguments
  | target
  | config
  | suite
  | size
  | settings
  | credential
  | database
  deriving DecidableEq, Repr

inductive Event where
  | accepted (stage : Stage)
  | call (request : CaseRequest)
  | committed (run : BenchmarkRun)
  | summary (run : BenchmarkRun) (asJson : Bool)
  | error (message : String)

abbrev Command (α : Type) := Action Tables Event CommandError α

open ModelPilot.Action (done emit)

/-- A step that raises in the words of Python. -/
def raises (result : Except PyError α) : Except CommandError α := result.mapError .raised

/-- A check, passed. -/
def accept (stage : Stage) (result : Except CommandError α) : Command α := do
  let value ← done result
  emit (.accepted stage)
  pure value

/-- What the first `try` leaves to the second. -/
structure Prepared (platform : Platform) where
  args : Arguments
  target : BenchmarkTarget
  config : Config
  suite : BenchmarkSuite platform.texts
  settings : Settings

section Commands
variable {platform : Platform}

/-- The body of the first `try` of `main`. -/
def setup (world : CommandWorld platform) (argv : List String) : Command (Prepared platform) := do
  let args ← accept .arguments (parseArgs world argv)
  let target ← accept .target (raises (BenchmarkTarget.modelValidate ⟨args.provider, args.model⟩))
  let config ← accept .config (raises (runConfig args))
  let suite ← accept .suite (loadBenchmarkSuite world args.suite)
  accept .size
    (if config.val.maxCases < suite.cases.length then
      .error (.configuration "suite exceeds max_cases")
    else .ok ())
  let settings ← accept .settings (raises (Settings.fromEnv world.int world.getenv))
  pure ⟨args, target, config, suite, settings⟩

/-- The run of a prepared command. -/
def executionOf (world : CommandWorld platform) (prepared : Prepared platform)
    (provider : Provider) : BenchmarkRunner.Execution BenchmarkRun :=
  BenchmarkRunner.execute platform prepared.suite prepared.target
    ⟨provider.name, world.replies provider⟩ (some prepared.config) world.context

/-- `BenchmarkRunner().run`. -/
def runBenchmark (world : CommandWorld platform) (prepared : Prepared platform)
    (provider : Provider) : Command BenchmarkRun :=
  fun tables =>
    let execution := executionOf world prepared provider
    ⟨execution.requests.map .call, tables, raises execution.outcome⟩

/-- `store.save_run`, which closes its connection at last. -/
def saveRun (world : CommandWorld platform) (run : BenchmarkRun) : Command Unit :=
  fun tables =>
    match BenchmarkStore.saveRun world.fault tables (.typed run.modelDump) with
    | (.error error, after) => ⟨[], after, .error (.raised error)⟩
    | (.ok (), after) => ⟨[.committed run], after, raises world.closeConnection⟩

/-- `_execute`. -/
def execute_ (world : CommandWorld platform) (prepared : Prepared platform) :
    Command BenchmarkRun :=
  Action.within (done (raises world.openClient)) (done (raises world.closeClient)) do
    let provider ← done (raises (createProvider prepared.target.provider prepared.settings))
    accept .credential
      (if configured provider then .ok ()
      else .error (.configuration "selected provider is not configured"))
    done (raises (world.mkdir prepared.settings.metricsDbPath))
    accept .database (raises (world.initialization prepared.settings.metricsDbPath))
    let run ← runBenchmark world prepared provider
    saveRun world run
    pure run

/-- `_authentication_failed`. -/
def authenticationFailed (run : BenchmarkRun) : Bool :=
  run.caseResults.any (·.errorType = some .authenticationError)

/-- `_error`. -/
def error_ (world : CommandWorld platform) (message : String) (exitCode : Int) : Command Int := do
  emit (.error (world.sanitizeErrorMessage ("benchmark: " ++ message) []))
  done (raises world.stderr)
  pure exitCode

/-- The handlers of the first `try`. -/
def setupFailed (world : CommandWorld platform) : CommandError → Command Int
  | .configuration message => error_ world message 2
  | .raised (.value _) => error_ world "invalid suite, target or configuration" 2
  | .os _ => error_ world "invalid suite, target or configuration" 2
  | .raised _ => error_ world "benchmark setup failed" 4
  | .systemExit => done (.error .systemExit)

/-- The handlers of the second `try`. -/
def executionFailed (world : CommandWorld platform) : CommandError → Command Int
  | .configuration message => error_ world message 2
  | .systemExit => done (.error .systemExit)
  | _ => error_ world "execution or persistence failed; run was not confirmed saved" 4

/-- `_print_summary`, then the exit code of a saved run. -/
def report (world : CommandWorld platform) (args : Arguments) (run : BenchmarkRun) :
    Command Int := do
  emit (.summary run args.json)
  done (raises world.stdout)
  pure (if authenticationFailed run then 3 else 0)

/-- `main`. -/
def main (world : CommandWorld platform) (argv : List String) : Command Int :=
  (setup world argv).tryElse (setupFailed world) fun prepared =>
    (execute_ world prepared).tryElse (executionFailed world) (report world prepared.args)

end Commands

end ModelPilot.BenchmarkCommand
