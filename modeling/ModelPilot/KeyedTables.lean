import ModelPilot.LatestWins

/-! Tables with a primary key that are written by `INSERT … ON CONFLICT DO UPDATE`. A write
is refused and leaves the table as it was, or puts its row under its key. After any writes
a table holds under each key the row of the last one that was taken. -/
namespace ModelPilot.KeyedTables
variable {κ ρ ω ε α β : Type*} [DecidableEq κ]

/-- `SELECT … ORDER BY` the primary key. -/
def listed [LinearOrder β] (order : κ → β) (table : Dict κ ρ) : List ρ :=
  (sortedBy (fun entry => order entry.1) table.entries).map Prod.snd

/-- The row under a key, restored. -/
def get (restore : ρ → Except ε α) (table : Dict κ ρ) (key : κ) : Except ε (Option α) :=
  match table.get? key with
  | none => .ok none
  | some row => (restore row).map some

/-- All rows, restored in the order of their keys. -/
def list [LinearOrder β] (restore : ρ → Except ε α) (order : κ → β) (table : Dict κ ρ) :
    Except ε (List α) :=
  (listed order table).mapM restore

/-- The writes that are taken, and the table behind them. -/
def run (write : ω → Dict κ ρ → Option ε × Dict κ ρ) :
    List ω → Dict κ ρ → List ω × Dict κ ρ
  | [], table => ([], table)
  | one :: later, table =>
    let (raised, after) := write one table
    let (taken, final) := run write later after
    (if raised.isNone then one :: taken else taken, final)

/-- A write is refused, or puts a row under its key that reads back as its value. -/
def Upserts (key : ω → κ) (value : ω → α) (restore : ρ → Except ε α)
    (write : ω → Dict κ ρ → Option ε × Dict κ ρ) : Prop :=
  ∀ one table, (∃ error, write one table = (some error, table)) ∨
    ∃ row, write one table = (none, table.set (key one) row) ∧ restore row = .ok (value one)

/-- The value of the last of some writes under a key. -/
def lastUnder (key : ω → κ) (value : ω → α) (taken : List ω) (name : κ) : Option α :=
  ((taken.filter fun one => key one = name).getLast?).map value

/-- The table reads back as some values by key. -/
def Reads (restore : ρ → Except ε α) (table : Dict κ ρ) (values : κ → Option α) : Prop :=
  ∀ name, get restore table name = .ok (values name)

section Writes
variable {key : ω → κ} {value : ω → α} {restore : ρ → Except ε α}
  {write : ω → Dict κ ρ → Option ε × Dict κ ρ} {table : Dict κ ρ}
  {values : κ → Option α}

theorem lastUnder_cons (one : ω) (taken : List ω) (name : κ) :
    lastUnder key value (one :: taken) name =
      (lastUnder key value taken name).or (if key one = name then some (value one) else none) := by
  unfold lastUnder
  by_cases own : key one = name
  · rw [List.filter_cons_of_pos (by simpa using own), if_pos own, List.getLast?_cons]
    cases (taken.filter fun one => key one = name).getLast? <;> rfl
  · rw [List.filter_cons_of_neg (by simpa using own), if_neg own, Option.or_none]

theorem reads_empty : Reads restore (Dict.empty : Dict κ ρ) fun _ => none := fun _ => rfl

theorem Reads.congr {others : κ → Option α} (reads : Reads restore table values)
    (same : ∀ name, values name = others name) : Reads restore table others :=
  fun name => (reads name).trans (congrArg Except.ok (same name))

/-- A row put under a key is read there, and nowhere else. -/
theorem Reads.set (reads : Reads restore table values) {name : κ} {row : ρ} {held : α}
    (restored : restore row = .ok held) :
    Reads restore (table.set name row) fun other =>
      if name = other then some held else values other := by
  intro other
  rw [get, Dict.get?_set]
  by_cases own : name = other
  · subst own
    simp only [if_true, restored, Except.map]
  · simp only [if_neg own]
    exact reads other

/-- After any writes a key reads as the last of them that was taken. -/
theorem Upserts.reads (upserts : Upserts key value restore write)
    (reads : Reads restore table values) (writes : List ω) :
    Reads restore (run write writes table).2 fun name =>
      (lastUnder key value (run write writes table).1 name).or (values name) := by
  induction writes generalizing table values with
  | nil => exact reads
  | cons one later ih =>
    rw [run]
    rcases upserts one table with ⟨error, refused⟩ | ⟨row, stored, restored⟩
    · simpa only [refused, Option.isNone_some, Bool.false_eq_true, if_false] using ih reads
    · simp only [stored, Option.isNone_none, if_true, lastUnder_cons]
      intro name
      rw [ih (reads.set restored) name]
      by_cases own : key one = name
      · simp [own]
      · simp [own]

/-- So does a table that starts empty. -/
theorem Upserts.reads_run (upserts : Upserts key value restore write) (writes : List ω) :
    Reads restore (run write writes Dict.empty).2
      (lastUnder key value (run write writes Dict.empty).1) := by
  intro name
  simpa only [Option.or_none] using upserts.reads reads_empty writes name

end Writes

section Listing
variable [LinearOrder β] {order : κ → β} {keyOf : α → κ} {restore : ρ → Except ε α}
  {table : Dict κ ρ} {values : κ → Option α}

theorem Reads.restored (reads : Reads restore table values) {name : κ} {row : ρ}
    (held : table.get? name = some row) :
    ∃ value, restore row = .ok value ∧ values name = some value := by
  have read := reads name
  rw [get, held] at read
  cases restored : restore row with
  | error error =>
    simp only [restored, Except.map] at read
    cases read
  | ok value =>
    simp only [restored, Except.map] at read
    exact ⟨value, rfl, (Except.ok.inj read).symm⟩

theorem Reads.held (reads : Reads restore table values) {name : κ} {value : α}
    (present : values name = some value) : ∃ row, table.get? name = some row := by
  cases found : table.get? name with
  | some row => exact ⟨row, rfl⟩
  | none =>
    have read := reads name
    rw [get, found, present] at read
    cases read

omit [DecidableEq κ] in
/-- Rows that all restore are listed with their values. -/
theorem mapM_entries {entries : List (κ × ρ)}
    (each : ∀ entry ∈ entries, ∃ value, restore entry.2 = .ok value ∧
      values entry.1 = some value) :
    (entries.map Prod.snd).mapM restore = .ok (entries.filterMap fun entry => values entry.1) := by
  induction entries with
  | nil => rfl
  | cons entry rest ih =>
    obtain ⟨⟨value, restored, present⟩, later⟩ := List.forall_mem_cons.mp each
    have first : (entry :: rest).filterMap (fun entry => values entry.1) =
        value :: rest.filterMap fun entry => values entry.1 := List.filterMap_cons_some present
    rw [List.map_cons, List.mapM_cons, restored, ih later, first]
    rfl

/-- A table that reads back lists each of its values once, in the order of the keys. -/
theorem Reads.list (reads : Reads restore table values) (apart : Function.Injective order)
    (keyed : ∀ name value, values name = some value → keyOf value = name) :
    ∃ listing, KeyedTables.list restore order table = .ok listing ∧
      listing.Pairwise (fun one other => order (keyOf one) < order (keyOf other)) ∧
      ∀ value, value ∈ listing ↔ values (keyOf value) = some value := by
  have distinct := table.distinct.map apart
  rw [List.map_map] at distinct
  have sorted := sortedBy_strict distinct
  have ran : KeyedTables.list restore order table = .ok
      ((sortedBy (fun entry => order entry.1) table.entries).filterMap
        fun entry => values entry.1) :=
    mapM_entries fun entry member =>
      reads.restored (Dict.get?_eq_some_iff.mpr (mem_sortedBy.mp member))
  refine ⟨_, ran, ?_, fun value => ⟨fun member => ?_, fun present => ?_⟩⟩
  · rw [List.pairwise_filterMap]
    refine sorted.imp fun before one first other second => ?_
    rwa [keyed _ _ first, keyed _ _ second]
  · obtain ⟨entry, _, present⟩ := List.mem_filterMap.mp member
    rw [keyed _ _ present]
    exact present
  · obtain ⟨row, held⟩ := reads.held present
    exact List.mem_filterMap.mpr
      ⟨_, mem_sortedBy.mpr (Dict.get?_eq_some_iff.mp held), present⟩

end Listing
end ModelPilot.KeyedTables
