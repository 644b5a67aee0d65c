import ModelPilot.Dict
import ModelPilot.Python
import ModelPilot.Transactions

/-! The schema of the SQLite file and its initialization (`sqlite_database.py`): one
transaction that creates what is missing and brings an older file to the current
version. -/
namespace ModelPilot.SQLiteDatabase
open Transactions (Program)

/-! ### Statements -/

inductive ObjectName where
  | attempts
  | attemptsProviderModelFinished
  | pricing
  | routingDecisions
  | routingDecisionsCreated
  | providerHealth
  | benchmarkRuns
  | benchmarkRunsStarted
  | benchmarkCaseResults
  | other (name : String)
  deriving DecidableEq, Repr

/-- A table with its rows, of any type, or an index. -/
inductive SchemaObject (ρ : Type) where
  | table (columns : List String) (rows : List ρ)
  | index (on : ObjectName) (columns : List String)

/-- A file: `schema_version` with its one row, or empty, or absent; and the other
tables and the indexes, in one name space. -/
structure Database (ρ : Type) where
  schemaVersion : Option (Option Int) := none
  objects : Dict ObjectName (SchemaObject ρ) := .empty

inductive Statement where
  | createSchemaVersion
  | createTable (ifNotExists : Bool) (name : ObjectName) (columns : List String)
  | createIndex (ifNotExists : Bool) (name on : ObjectName) (columns : List String)
  | insertSchemaVersion (version : Int)
  | updateSchemaVersion (version : Int)

variable {ρ : Type}

/-- `CREATE TABLE`. -/
def createTable (ifNotExists : Bool) (name : ObjectName) (columns : List String)
    (database : Database ρ) : Except PyError (Database ρ) :=
  match database.objects.get? name with
  | none => .ok { database with objects := database.objects.set name (.table columns []) }
  | some (.table _ _) =>
    if ifNotExists then .ok database else .error (.other "sqlite3.OperationalError")
  | some (.index _ _) => .error (.other "sqlite3.OperationalError")

/-- `CREATE INDEX`, of a table that exists. -/
def createIndex (ifNotExists : Bool) (name on : ObjectName) (columns : List String)
    (database : Database ρ) : Except PyError (Database ρ) :=
  match database.objects.get? on, database.objects.get? name with
  | some (.table _ _), none =>
    .ok { database with objects := database.objects.set name (.index on columns) }
  | some (.table _ _), some (.index _ _) =>
    if ifNotExists then .ok database else .error (.other "sqlite3.OperationalError")
  | _, _ => .error (.other "sqlite3.OperationalError")

def Statement.execute (statement : Statement) (database : Database ρ) :
    Except PyError (Database ρ) :=
  match statement with
  | .createSchemaVersion =>
    .ok (if database.schemaVersion.isNone then { database with schemaVersion := some none }
      else database)
  | .createTable ifNotExists name columns =>
    SQLiteDatabase.createTable ifNotExists name columns database
  | .createIndex ifNotExists name on columns =>
    SQLiteDatabase.createIndex ifNotExists name on columns database
  | .insertSchemaVersion version =>
    match database.schemaVersion with
    | some none => .ok { database with schemaVersion := some (some version) }
    | some (some _) => .error (.other "sqlite3.IntegrityError")
    | none => .error (.other "sqlite3.OperationalError")
  | .updateSchemaVersion version =>
    match database.schemaVersion with
    | some row => .ok { database with schemaVersion := some (row.map fun _ => version) }
    | none => .error (.other "sqlite3.OperationalError")

/-! ### The schema -/

def attemptsColumns : List String :=
  ["id INTEGER PRIMARY KEY AUTOINCREMENT",
   "request_id TEXT NOT NULL",
   "attempt_index INTEGER NOT NULL CHECK (attempt_index >= 0)",
   "provider TEXT NOT NULL CHECK (length(provider) > 0)",
   "model TEXT NOT NULL CHECK (length(model) > 0)",
   "started_at TEXT NOT NULL",
   "finished_at TEXT NOT NULL",
   "latency_ms REAL NOT NULL CHECK (latency_ms >= 0)",
   "success INTEGER NOT NULL CHECK (success IN (0, 1))",
   "error_type TEXT",
   "input_tokens INTEGER CHECK (input_tokens IS NULL OR input_tokens >= 0)",
   "output_tokens INTEGER CHECK (output_tokens IS NULL OR output_tokens >= 0)",
   "total_tokens INTEGER CHECK (total_tokens IS NULL OR total_tokens >= 0)",
   "estimated_cost TEXT",
   "created_at TEXT NOT NULL",
   "UNIQUE (request_id, attempt_index)"]

def pricingColumns : List String :=
  ["provider TEXT NOT NULL CHECK (length(provider) > 0)",
   "model TEXT NOT NULL CHECK (length(model) > 0)",
   "input_cost_per_million_tokens TEXT NOT NULL",
   "output_cost_per_million_tokens TEXT NOT NULL",
   "currency TEXT NOT NULL CHECK (length(currency) > 0)",
   "source TEXT NOT NULL CHECK (length(source) > 0)",
   "updated_at TEXT NOT NULL",
   "PRIMARY KEY (provider, model)"]

def routingDecisionsColumns : List String :=
  ["request_id TEXT PRIMARY KEY CHECK (length(request_id) > 0)",
   "routing_version TEXT NOT NULL CHECK (length(routing_version) > 0)",
   "selected_provider TEXT NOT NULL CHECK (length(selected_provider) > 0)",
   "selected_model TEXT NOT NULL CHECK (length(selected_model) > 0)",
   "served_provider TEXT",
   "served_model TEXT",
   "created_at TEXT NOT NULL",
   "explanation_json TEXT NOT NULL",
   "CHECK ((served_provider IS NULL) = (served_model IS NULL))"]

def providerHealthColumns : List String :=
  ["provider TEXT NOT NULL CHECK (length(provider) > 0)",
   "model TEXT NOT NULL CHECK (length(model) > 0)",
   "state TEXT NOT NULL CHECK (state IN ('CLOSED', 'OPEN', 'HALF_OPEN'))",
   "consecutive_failures INTEGER NOT NULL CHECK (consecutive_failures >= 0)",
   "opened_at TEXT",
   "cooldown_until TEXT",
   "last_failure_at TEXT",
   "last_success_at TEXT",
   "updated_at TEXT NOT NULL",
   "PRIMARY KEY (provider, model)"]

def benchmarkRunsColumns : List String :=
  ["run_id TEXT PRIMARY KEY NOT NULL CHECK (length(run_id) > 0)",
   "suite_id TEXT NOT NULL CHECK (length(suite_id) > 0)",
   "suite_version TEXT NOT NULL CHECK (length(suite_version) > 0)",
   "suite_fingerprint TEXT NOT NULL CHECK (length(suite_fingerprint) = 64)",
   "provider TEXT NOT NULL",
   "model TEXT NOT NULL",
   "started_at TEXT NOT NULL",
   "finished_at TEXT NOT NULL",
   "status TEXT NOT NULL CHECK (status IN ('completed', 'completed_with_failures'))",
   "total_cases INTEGER NOT NULL CHECK (total_cases > 0)",
   "completed_cases INTEGER NOT NULL CHECK (completed_cases >= 0)",
   "execution_failed_cases INTEGER NOT NULL CHECK (execution_failed_cases >= 0)",
   "terminated_early INTEGER NOT NULL CHECK (terminated_early IN (0, 1))",
   "max_cases INTEGER NOT NULL CHECK (max_cases > 0)",
   "case_timeout_seconds REAL NOT NULL CHECK (case_timeout_seconds > 0)",
   "temperature REAL NOT NULL CHECK (temperature BETWEEN 0 AND 2)",
   "max_tokens INTEGER NOT NULL CHECK (max_tokens > 0)"]

def benchmarkCaseResultsColumns : List String :=
  ["run_id TEXT NOT NULL REFERENCES benchmark_runs(run_id)",
   "case_id TEXT NOT NULL CHECK (length(case_id) > 0)",
   "case_index INTEGER NOT NULL CHECK (case_index >= 0)",
   "category TEXT NOT NULL",
   "execution_status TEXT NOT NULL CHECK (execution_status IN ('completed', 'provider_failed'))",
   "provider TEXT NOT NULL",
   "model TEXT NOT NULL",
   "latency_ms REAL NOT NULL CHECK (latency_ms >= 0)",
   "input_tokens INTEGER CHECK (input_tokens >= 0)",
   "output_tokens INTEGER CHECK (output_tokens >= 0)",
   "total_tokens INTEGER CHECK (total_tokens >= 0)",
   "error_type TEXT",
   "evaluation_score REAL CHECK (evaluation_score BETWEEN 0 AND 1)",
   "evaluation_passed INTEGER CHECK (evaluation_passed IN (0, 1))",
   "evaluator_kind TEXT",
   "evaluator_version TEXT",
   "evaluation_reason TEXT",
   "PRIMARY KEY (run_id, case_index)",
   "UNIQUE (run_id, case_id)",
   "CHECK ((execution_status = 'completed' AND error_type IS NULL " ++
     "AND evaluation_score IS NOT NULL AND evaluation_passed IS NOT NULL " ++
     "AND evaluator_kind IS NOT NULL AND evaluator_version IS NOT NULL " ++
     "AND evaluation_reason IS NOT NULL) " ++
     "OR (execution_status = 'provider_failed' AND error_type IS NOT NULL " ++
     "AND evaluation_score IS NULL AND evaluation_passed IS NULL " ++
     "AND evaluator_kind IS NULL AND evaluator_version IS NULL " ++
     "AND evaluation_reason IS NULL))"]

/-- `_create_version_one_schema`. -/
def createVersionOneSchema : List Statement :=
  [.createTable true .attempts attemptsColumns,
   .createIndex true .attemptsProviderModelFinished .attempts
     ["provider", "model", "finished_at DESC", "id DESC"],
   .createTable true .pricing pricingColumns]

/-- `_migrate_version_one_to_two`. -/
def migrateVersionOneToTwo : List Statement :=
  [.createTable true .routingDecisions routingDecisionsColumns,
   .createIndex true .routingDecisionsCreated .routingDecisions
     ["created_at DESC", "request_id DESC"]]

/-- `_migrate_version_two_to_three`. -/
def migrateVersionTwoToThree : List Statement :=
  [.createTable true .providerHealth providerHealthColumns]

/-- `_migrate_version_three_to_four`, which expects its tables to be missing. -/
def migrateVersionThreeToFour : List Statement :=
  [.createTable false .benchmarkRuns benchmarkRunsColumns,
   .createIndex false .benchmarkRunsStarted .benchmarkRuns ["started_at DESC", "run_id DESC"],
   .createTable false .benchmarkCaseResults benchmarkCaseResultsColumns]

/-! ### Initialization -/

/-- `SCHEMA_VERSION`. -/
def currentVersion : Int := 4

def schemaVersionError (version : Int) : PyError :=
  .other (s!"SchemaVersionError: unsupported metrics schema version {version}; " ++
    s!"expected {currentVersion}")

/-- The statements that follow the version found, if any. -/
def migration : Option Int → Except PyError (List Statement)
  | none => .ok (createVersionOneSchema ++ migrateVersionOneToTwo ++ migrateVersionTwoToThree ++
      migrateVersionThreeToFour ++ [.insertSchemaVersion currentVersion])
  | some version =>
    if currentVersion < version ∨ version < 1 then .error (schemaVersionError version)
    else if version < currentVersion then
      .ok ((if version = 1 then migrateVersionOneToTwo else []) ++
        (if version ≤ 2 then migrateVersionTwoToThree else []) ++ migrateVersionThreeToFour ++
        [.updateSchemaVersion currentVersion])
    else .ok []

/-- Some statements and the commit. -/
def program : List Statement → Program (Database ρ) PyError
  | [] => .commit
  | statement :: rest => .step statement.execute fun _ => program rest

/-- `SELECT version FROM schema_version WHERE singleton = 1`. -/
def selectVersion (database : Database ρ) : Except PyError (Database ρ) :=
  if database.schemaVersion.isNone then .error (.other "sqlite3.OperationalError")
  else .ok database

/-- What follows the version found. -/
def migrationProgram (found : Option Int) : Program (Database ρ) PyError :=
  match migration found with
  | .ok statements => program statements
  | .error error => .raise error

/-- The transaction of `_initialize`. -/
def initializeTransaction : Program (Database ρ) PyError :=
  .step Statement.createSchemaVersion.execute fun _ =>
    .step selectVersion fun database => migrationProgram database.schemaVersion.join

/-- `_initialize`: what it raises, if anything, and the file afterwards. Position 0 is
all that comes before the first statement of the transaction. -/
def initializeDatabase (fault : Nat → Option PyError) (file : Database ρ) :
    Except PyError Unit × Database ρ :=
  match fault 0 with
  | some error => (.error error, file)
  | none =>
    match initializeTransaction.attempt fault 1 file with
    | .ok after => (.ok (), after)
    | .error error => (.error error, file)

end ModelPilot.SQLiteDatabase
