import ModelPilot.SchemaMigration

/-! What initialization does to a file. The statements look at the schema alone, so a
file is followed through them by the schema it has without its rows; and they keep
every object that is there. -/
namespace ModelPilot.SQLiteDatabase
open Transactions (Program)

variable {ρ : Type} {file after : Database ρ} {statements : List Statement} {version : Int}

section Schema

/-- The same table without rows. -/
def SchemaObject.emptied : SchemaObject ρ → SchemaObject ρ
  | .table columns _ => .table columns []
  | .index on columns => .index on columns

/-- The same file without rows: its version, its tables and its indexes. -/
def Database.emptied (database : Database ρ) : Database ρ :=
  { database with objects := database.objects.mapValues SchemaObject.emptied }

theorem set_emptied (database : Database ρ) (name : ObjectName) (object : SchemaObject ρ) :
    Database.emptied { database with objects := database.objects.set name object } =
      { database.emptied with objects := database.emptied.objects.set name object.emptied } := by
  unfold Database.emptied
  rw [Dict.mapValues_set]

theorem createTable_emptied (ifNotExists : Bool) (name : ObjectName) (columns : List String)
    (database : Database ρ) :
    (createTable ifNotExists name columns database).map Database.emptied =
      createTable ifNotExists name columns database.emptied := by
  have found : database.emptied.objects.get? name =
      (database.objects.get? name).map SchemaObject.emptied := Dict.get?_mapValues _ _ _
  unfold createTable
  rw [found]
  cases database.objects.get? name with
  | none => exact congrArg Except.ok (set_emptied _ _ _)
  | some object => cases object <;> cases ifNotExists <;> rfl

theorem createIndex_emptied (ifNotExists : Bool) (name on : ObjectName) (columns : List String)
    (database : Database ρ) :
    (createIndex ifNotExists name on columns database).map Database.emptied =
      createIndex ifNotExists name on columns database.emptied := by
  have found (name : ObjectName) : database.emptied.objects.get? name =
      (database.objects.get? name).map SchemaObject.emptied := Dict.get?_mapValues _ _ _
  unfold createIndex
  rw [found, found]
  cases database.objects.get? on with
  | none => rfl
  | some table =>
    cases table with
    | index => rfl
    | table =>
      cases database.objects.get? name with
      | none => exact congrArg Except.ok (set_emptied _ _ _)
      | some object => cases object <;> cases ifNotExists <;> rfl

/-- A statement does to a file without rows what it does to the file. -/
theorem execute_emptied (statement : Statement) (database : Database ρ) :
    (statement.execute database).map Database.emptied = statement.execute database.emptied := by
  cases statement with
  | createSchemaVersion =>
    obtain ⟨row, objects⟩ := database
    cases row <;> rfl
  | createTable ifNotExists name columns => exact createTable_emptied ifNotExists name columns _
  | createIndex ifNotExists name on columns =>
    exact createIndex_emptied ifNotExists name on columns _
  | insertSchemaVersion version =>
    obtain ⟨row, objects⟩ := database
    rcases row with none | ⟨none | found⟩ <;> rfl
  | updateSchemaVersion version =>
    obtain ⟨row, objects⟩ := database
    cases row <;> rfl

theorem program_emptied (statements : List Statement) (file : Database ρ) :
    ((program statements).run file).map Database.emptied =
      (program statements).run file.emptied := by
  induction statements generalizing file with
  | nil => rfl
  | cons statement rest ih =>
    have same := execute_emptied statement file
    unfold program Program.run
    cases executed : statement.execute file with
    | error error =>
      rw [executed] at same
      rw [← same]
      rfl
    | ok next =>
      rw [executed] at same
      rw [← same]
      exact ih next

theorem migrationProgram_emptied (found : Option Int) (file : Database ρ) :
    ((migrationProgram found).run file).map Database.emptied =
      (migrationProgram found).run file.emptied := by
  unfold migrationProgram
  split
  · exact program_emptied _ file
  · rfl

/-- Initialization goes by the schema. -/
theorem initializeTransaction_emptied (file : Database ρ) :
    (initializeTransaction.run file).map Database.emptied =
      initializeTransaction.run file.emptied := by
  obtain ⟨row, objects⟩ := file
  cases row with
  | none => exact migrationProgram_emptied none ⟨some none, objects⟩
  | some row => exact migrationProgram_emptied row ⟨some row, objects⟩

end Schema

section Rows

/-- Every object of the first file, rows included, is in the second. -/
def Keeps (before after : Database ρ) : Prop :=
  ∀ name object, before.objects.get? name = some object → after.objects.get? name = some object

theorem keeps_set {database : Database ρ} {name : ObjectName} (object : SchemaObject ρ)
    (absent : database.objects.get? name = none) :
    Keeps database { database with objects := database.objects.set name object } := by
  intro other held found
  rw [Dict.get?_set_ne _ _ ?_]
  · exact found
  · rintro rfl
    rw [absent] at found
    cases found

theorem createTable_keeps {ifNotExists : Bool} {name : ObjectName} {columns : List String}
    (created : createTable ifNotExists name columns file = .ok after) : Keeps file after := by
  unfold createTable at created
  split at created
  · rename_i absent
    cases created
    exact keeps_set _ absent
  · split at created
    · cases created
      exact fun _ _ found => found
    · cases created
  · cases created

theorem createIndex_keeps {ifNotExists : Bool} {name on : ObjectName} {columns : List String}
    (created : createIndex ifNotExists name on columns file = .ok after) : Keeps file after := by
  unfold createIndex at created
  split at created
  · rename_i absent
    cases created
    exact keeps_set _ absent
  · split at created
    · cases created
      exact fun _ _ found => found
    · cases created
  · cases created

theorem execute_keeps (statement : Statement) (executed : statement.execute file = .ok after) :
    Keeps file after := by
  cases statement with
  | createSchemaVersion =>
    cases executed
    intro name object found
    split <;> exact found
  | createTable ifNotExists name columns => exact createTable_keeps executed
  | createIndex ifNotExists name on columns => exact createIndex_keeps executed
  | insertSchemaVersion version =>
    simp only [Statement.execute] at executed
    split at executed <;> cases executed
    exact fun _ _ found => found
  | updateSchemaVersion version =>
    simp only [Statement.execute] at executed
    split at executed <;> cases executed
    exact fun _ _ found => found

theorem program_keeps (statements : List Statement) :
    (program statements : Program (Database ρ) PyError).Keeps Keeps := by
  induction statements with
  | nil => exact .commit
  | cons statement rest ih =>
    exact .step (fun before after executed => execute_keeps statement executed) fun _ => ih

/-- Initialization loses no row. -/
theorem initializeTransaction_keeps (ran : initializeTransaction.run file = .ok after) :
    Keeps file after := by
  have keeps : (initializeTransaction : Program (Database ρ) PyError).Keeps Keeps := by
    refine .step (fun before after executed => execute_keeps _ executed) fun _ =>
      .step (fun before after selected => ?_) fun database => ?_
    · unfold selectVersion at selected
      split at selected <;> cases selected
      exact fun _ _ found => found
    · unfold migrationProgram
      split
      · exact program_keeps _
      · exact .raise _
  exact keeps.run (fun _ _ _ found => found)
    (fun _ _ _ first second name object found => second name object (first name object found)) ran

end Rows

section Versions

/-- The statements that make a file of a version. -/
def schemaSteps (version : Int) : List Statement :=
  .createSchemaVersion :: (createVersionOneSchema ++
    (if 2 ≤ version then migrateVersionOneToTwo else []) ++
    (if 3 ≤ version then migrateVersionTwoToThree else []) ++
    (if 4 ≤ version then migrateVersionThreeToFour else []) ++ [.insertSchemaVersion version])

/-- A file that the schema steps made, whatever rows its tables hold now. -/
def CreatedAt (version : Int) (file : Database ρ) : Prop :=
  (program (schemaSteps version)).run {} = .ok file.emptied

/-- What initialization makes of a new file. -/
def fresh : Database ρ := (initializeDatabase (fun _ => none) {}).2

theorem initializeTransaction_new :
    initializeTransaction.run ({} : Database ρ) = .ok fresh := by
  rfl

/-- From every version the same schema. -/
theorem migrates_schema (first : 1 ≤ version) (last : version ≤ 4) {empty : Database ρ}
    (made : (program (schemaSteps version)).run {} = .ok empty) :
    initializeTransaction.run empty = .ok fresh := by
  obtain rfl | rfl | rfl | rfl : version = 1 ∨ version = 2 ∨ version = 3 ∨ version = 4 := by omega
  all_goals
    cases made
    rfl

theorem initializeTransaction_current (current : file.schemaVersion = some (some currentVersion)) :
    initializeTransaction.run file = .ok file := by
  obtain ⟨row, objects⟩ := file
  cases current
  rfl

theorem createTable_version {ifNotExists : Bool} {name : ObjectName} {columns : List String}
    (created : createTable ifNotExists name columns file = .ok after) :
    after.schemaVersion = file.schemaVersion := by
  unfold createTable at created
  split at created
  · cases created
    rfl
  · split at created <;> cases created
    rfl
  · cases created

theorem createIndex_version {ifNotExists : Bool} {name on : ObjectName} {columns : List String}
    (created : createIndex ifNotExists name on columns file = .ok after) :
    after.schemaVersion = file.schemaVersion := by
  unfold createIndex at created
  split at created
  · cases created
    rfl
  · split at created <;> cases created
    rfl
  · cases created

/-- A file that has a version keeps one. -/
theorem execute_versioned (statement : Statement) (executed : statement.execute file = .ok after)
    (versioned : file.schemaVersion.join.isSome) : after.schemaVersion.join.isSome := by
  cases statement with
  | createSchemaVersion =>
    cases executed
    split
    · rename_i absent
      rw [Option.isNone_iff_eq_none.mp absent] at versioned
      cases versioned
    · exact versioned
  | createTable ifNotExists name columns => rwa [createTable_version executed]
  | createIndex ifNotExists name on columns => rwa [createIndex_version executed]
  | insertSchemaVersion version =>
    unfold Statement.execute at executed
    dsimp only at executed
    split at executed <;> cases executed
    rfl
  | updateSchemaVersion version =>
    unfold Statement.execute at executed
    dsimp only at executed
    split at executed
    · rename_i row found
      cases executed
      rw [found] at versioned
      cases row with
      | none => cases versioned
      | some _ => rfl
    · cases executed

/-- A program goes on where its beginning ended. -/
theorem program_append (statements later : List Statement) (file : Database ρ) :
    (program (statements ++ later)).run file =
      (program statements).run file >>= (program later).run := by
  induction statements generalizing file with
  | nil => rfl
  | cons statement rest ih =>
    rw [List.cons_append, program, program, Program.run, Program.run]
    cases statement.execute file with
    | error error => rfl
    | ok middle => exact ih middle

theorem program_versioned {statements : List Statement}
    (ran : (program statements).run file = .ok after)
    (versioned : file.schemaVersion.join.isSome) : after.schemaVersion.join.isSome := by
  induction statements generalizing file with
  | nil =>
    cases ran
    exact versioned
  | cons statement rest ih =>
    rw [program, Program.run] at ran
    cases executed : statement.execute file with
    | error error =>
      rw [executed] at ran
      cases ran
    | ok middle =>
      rw [executed] at ran
      exact ih ran (execute_versioned statement executed versioned)

theorem insertSchemaVersion_ok {version : Int}
    (inserted : (program [.insertSchemaVersion version]).run file = .ok after) :
    after.schemaVersion = some (some version) := by
  obtain ⟨row, objects⟩ := file
  cases row with
  | none => cases inserted
  | some row =>
    cases row with
    | none =>
      cases inserted
      rfl
    | some _ => cases inserted

theorem updateSchemaVersion_ok {version : Int} (versioned : file.schemaVersion.join.isSome)
    (updated : (program [.updateSchemaVersion version]).run file = .ok after) :
    after.schemaVersion = some (some version) := by
  obtain ⟨row, objects⟩ := file
  cases row with
  | none => cases versioned
  | some row =>
    cases row with
    | none => cases versioned
    | some _ =>
      cases updated
      rfl

/-- What initialization accepts it leaves at the current version. -/
theorem initializeTransaction_version (ran : initializeTransaction.run file = .ok after) :
    after.schemaVersion = some (some currentVersion) := by
  obtain ⟨created, executed, rest⟩ : ∃ created, Statement.createSchemaVersion.execute file =
      .ok created ∧ (migrationProgram created.schemaVersion.join).run created = .ok after := by
    rw [initializeTransaction, Program.run] at ran
    cases executed : Statement.createSchemaVersion.execute file with
    | error error =>
      rw [executed] at ran
      cases ran
    | ok created =>
      rw [executed] at ran
      dsimp only at ran
      rw [Program.run] at ran
      cases selected : selectVersion created with
      | error error =>
        rw [selected] at ran
        cases ran
      | ok same =>
        rw [selected] at ran
        unfold selectVersion at selected
        split at selected <;> cases selected
        exact ⟨created, rfl, ran⟩
  unfold migrationProgram at rest
  cases found : created.schemaVersion.join with
  | none =>
    rw [found, migration] at rest
    dsimp only at rest
    rw [program_append] at rest
    obtain ⟨_, _, inserted⟩ := bind_ok_iff.mp rest
    exact insertSchemaVersion_ok inserted
  | some version =>
    rw [found, migration] at rest
    split at rest
    · rename_i statements supported
      split at supported
      · cases supported
      · split at supported
        · cases supported
          rw [program_append] at rest
          obtain ⟨middle, began, updated⟩ := bind_ok_iff.mp rest
          exact updateSchemaVersion_ok (program_versioned began (by rw [found]; rfl)) updated
        · cases supported
          cases rest
          rw [Option.join_eq_some_iff] at found
          rw [found]
          congr
          omega
    · cases rest

/-- A file of any version that the code has made migrates to the current schema. -/
theorem migrates (first : 1 ≤ version) (last : version ≤ 4) (created : CreatedAt version file) :
    ∃ after, initializeTransaction.run file = .ok after ∧ after.emptied = fresh := by
  have schema := initializeTransaction_emptied file
  rw [migrates_schema first last created] at schema
  exact map_ok_iff.mp schema

end Versions

section Initialization

variable {fault : Nat → Option PyError} {error : PyError}

theorem initializeDatabase_ok (ran : initializeTransaction.run file = .ok after) :
    initializeDatabase (fun _ => none) file = (.ok (), after) := by
  unfold initializeDatabase
  rw [Program.attempt_none, ran]

theorem initializeDatabase_done (ended : initializeDatabase fault file = (.ok (), after)) :
    initializeTransaction.run file = .ok after := by
  unfold initializeDatabase at ended
  split at ended
  · cases ended
  · split at ended <;> cases ended
    exact Program.run_of_attempt ‹_›

/-- Whatever raises, the file is as before. -/
theorem initializeDatabase_rollback
    (raised : initializeDatabase fault file = (.error error, after)) : after = file := by
  unfold initializeDatabase at raised
  split at raised
  · cases raised
    rfl
  · split at raised <;> cases raised
    rfl

theorem initializeTransaction_unsupported (found : file.schemaVersion = some (some version))
    (unsupported : version < 1 ∨ currentVersion < version) :
    initializeTransaction.run file = .error (schemaVersionError version) := by
  obtain ⟨row, objects⟩ := file
  cases found
  have refused : migration (some version) = .error (schemaVersionError version) :=
    if_pos unsupported.symm
  change (migrationProgram (some version)).run _ = _
  unfold migrationProgram
  rw [refused]
  rfl

theorem initializeDatabase_unsupported (fault : Nat → Option PyError)
    (refused : initializeTransaction.run file = .error error) :
    ∃ error, initializeDatabase fault file = (.error error, file) := by
  unfold initializeDatabase
  split
  · exact ⟨_, rfl⟩
  · split
    · rename_i done
      rw [Program.run_of_attempt done] at refused
      cases refused
    · exact ⟨_, rfl⟩

/-- A file that initialization accepts: new, or of a version the code has made. -/
def Supported (file : Database ρ) : Prop :=
  file = {} ∨ ∃ version, 1 ≤ version ∧ version ≤ 4 ∧ CreatedAt version file

theorem emptied_fresh : (fresh : Database ρ).emptied = fresh := by rfl

theorem Supported.migrates (supported : Supported file) :
    ∃ after, initializeTransaction.run file = .ok after ∧ after.emptied = fresh := by
  rcases supported with rfl | ⟨version, first, last, created⟩
  · exact ⟨fresh, initializeTransaction_new, emptied_fresh⟩
  · exact SQLiteDatabase.migrates first last created

/-- A migrated file has the current version, and migrates to itself. -/
theorem migrated_current (schema : after.emptied = fresh) :
    after.schemaVersion = some (some 4) ∧ initializeTransaction.run after = .ok after := by
  have current : after.schemaVersion = some (some 4) := congrArg Database.schemaVersion schema
  exact ⟨current, initializeTransaction_current current⟩

open Transactions in
/-- Initialization takes a file of version 1, 2 or 3 that the schema steps made to
version 4: every table keeps its rows, the schema is that of a new file, and a second
initialization changes nothing. When anything raises, the file is as before; so it is
for a version that is not supported, which always raises. However several
initializers interleave, each that gets the lock succeeds, and once one has, the file
is what a single one makes of it. -/
theorem initialization_migrates_atomically (ρ ι : Type) [DecidableEq ι] :
    (∀ version (file : Database ρ), 1 ≤ version → version ≤ 3 → CreatedAt version file →
      ∃ after, initializeDatabase (fun _ => none) file = (.ok (), after) ∧
        after.schemaVersion = some (some 4) ∧ Keeps file after ∧ after.emptied = fresh ∧
        initializeDatabase (fun _ => none) after = (.ok (), after)) ∧
    (∀ fault (file after : Database ρ) error,
      initializeDatabase fault file = (.error error, after) → after = file) ∧
    (∀ version (file : Database ρ), file.schemaVersion = some (some version) →
      (version < 1 ∨ 4 < version) →
      initializeDatabase (fun _ => none) file = (.error (schemaVersionError version), file) ∧
      ∀ fault, ∃ error, initializeDatabase fault file = (.error error, file)) ∧
    ∀ file : Database ρ, Supported file →
      ∃ after, initializeDatabase (fun _ => none) file = (.ok (), after) ∧
        ∀ machine : Machine ι (Database ρ) PyError,
          Runs.Reachable (step initializeTransaction) (fun _ _ => True) (· = { file }) machine →
          Serial file after machine ∧
          ∀ party working rest, machine.phase party = .running working rest →
            ∃ moves later, (List.replicate moves (.advance party)).foldlM
                (step initializeTransaction) machine = some later ∧
              later.phase party = .finished ∧ later.file = after := by
  refine ⟨?_, ?_, ?_, ?_⟩
  · intro version file first last created
    obtain ⟨after, ran, schema⟩ := migrates first (by omega) created
    obtain ⟨current, again⟩ := migrated_current schema
    exact ⟨after, initializeDatabase_ok ran, current, initializeTransaction_keeps ran, schema,
      initializeDatabase_ok again⟩
  · exact fun fault file after error raised => initializeDatabase_rollback raised
  · intro version file found unsupported
    have refused := initializeTransaction_unsupported found unsupported
    refine ⟨?_, fun fault => initializeDatabase_unsupported fault refused⟩
    unfold initializeDatabase
    rw [Program.attempt_none, refused]
  · intro file supported
    obtain ⟨after, ran, schema⟩ := supported.migrates
    refine ⟨after, initializeDatabase_ok ran, fun machine reached => ?_⟩
    have serial := serial_of_reachable ran (migrated_current schema).2 reached
    exact ⟨serial, fun party working rest running => serial.finishes running⟩

/-- A file of version 2 with one attempt. -/
def versionTwoFile : Database Nat where
  schemaVersion := some (some 2)
  objects := .ofList
    [(.attempts, .table attemptsColumns [7]),
     (.attemptsProviderModelFinished,
      .index .attempts ["provider", "model", "finished_at DESC", "id DESC"]),
     (.pricing, .table pricingColumns []),
     (.routingDecisions, .table routingDecisionsColumns []),
     (.routingDecisionsCreated,
      .index .routingDecisions ["created_at DESC", "request_id DESC"])]

theorem version_two_file_migrates : ∃ after,
    initializeDatabase (fun _ => none) versionTwoFile = (.ok (), after) ∧
    after.schemaVersion = some (some 4) ∧
    after.objects.get? .attempts = some (.table attemptsColumns [7]) ∧ after.emptied = fresh := by
  obtain ⟨migrated, _⟩ := initialization_migrates_atomically Nat Nat
  obtain ⟨after, done, current, keeps, schema, _⟩ :=
    migrated 2 versionTwoFile (by decide) (by decide) rfl
  exact ⟨after, done, current, keeps _ _ rfl, schema⟩

end Initialization

end ModelPilot.SQLiteDatabase
