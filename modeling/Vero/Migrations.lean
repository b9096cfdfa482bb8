import Vero.Keymanager

/-!
The database and its migrations, which may be interrupted anywhere.

Each statement is a step. What is executed in a transaction is not on disk before the commit, and
is gone when the process dies.
-/

namespace Vero.DB

open Lib Lib.Runs Keymanager

inductive Statement
  | journalModeWal
  | createDbVersion
  | insertDbVersion (version : ℤ)
  | createKeymanagerData
  | updateDbVersion (version : ℤ)

structure DbMigration where
  version : ℤ
  description : String
  statements : List Statement
  bumpVersion : Bool
  autocommitMode : Bool

def changeIntoWal : DbMigration where
  version := 0
  description := "Change into WAL mode"
  statements := [.journalModeWal]
  bumpVersion := false
  autocommitMode := true

def createVersionTable : DbMigration where
  version := 1
  description := "Create initial db_version table"
  statements := [.createDbVersion, .insertDbVersion 1]
  bumpVersion := false
  autocommitMode := false

def createKeymanagerTables : DbMigration where
  version := 2
  description := "Create tables needed for the Keymanager API"
  statements := [.createKeymanagerData]
  bumpVersion := true
  autocommitMode := false

def migrations : List DbMigration := [changeIntoWal, createVersionTable, createKeymanagerTables]

/-- The rows of `db_version` and of `keymanager_data`, where the tables are there. -/
structure Database where
  wal : Bool
  dbVersion : Option (List ℤ)
  keymanagerData : Option (Dict String Row)

def Database.empty : Database := ⟨false, none, none⟩

/-- What a statement makes of a database, or the text of what it raises. -/
def Database.execute (db : Database) (inTransaction : Bool) : Statement → Except String Database
  | .journalModeWal =>
    if inTransaction then .error "cannot change into wal mode from within a transaction"
    else .ok { db with wal := true }
  | .createDbVersion =>
    match db.dbVersion with
    | none => .ok { db with dbVersion := some [] }
    | some _ => .error "table db_version already exists"
  | .insertDbVersion version =>
    match db.dbVersion with
    | none => .error "no such table: db_version"
    | some rows => .ok { db with dbVersion := some (rows ++ [version]) }
  | .createKeymanagerData =>
    match db.keymanagerData with
    | none => .ok { db with keymanagerData := some ∅ }
    | some _ => .error "table keymanager_data already exists"
  | .updateDbVersion version =>
    match db.dbVersion with
    | none => .error "no such table: db_version"
    | some rows => .ok { db with dbVersion := some (rows.map fun _ => version) }

def Database.currentVersion (db : Database) : Except String ℤ :=
  match db.dbVersion with
  | none => .ok (-1)
  | some [] => .error "'NoneType' object is not subscriptable"
  | some (version :: _) => .ok version

/-! ### The process -/

/-- Where the process is: between two migrations, in the transaction of one with what it has
made of the database so far, in one without a transaction, or done. -/
inductive Stage
  | down
  | migrating (todo : List DbMigration)
  | transaction (work : Database) (left : List Statement) (todo : List DbMigration)
  | autocommit (left : List Statement) (todo : List DbMigration)
  | running
  | raised (text : String)

structure State where
  disk : Database
  stage : Stage

inductive Action
  | start
  | proceed
  /-- The process is killed, or the machine goes down. -/
  | crash
  /-- A statement on the keys is committed. -/
  | write (keymanagerData : Dict String Row)

/-- The keys that were committed. -/
abbrev Output := Dict String Row

/-- The statements of a migration, in the order in which they are executed. -/
def DbMigration.script (m : DbMigration) : List Statement :=
  m.statements ++ if m.bumpVersion then [.updateDbVersion m.version] else []

/-- `run_migration_statements` up to its first statement. -/
def runMigrationStatements (s : State) (m : DbMigration) (todo : List DbMigration) : State :=
  if m.autocommitMode then { s with stage := .autocommit m.script todo }
  else { s with stage := .transaction s.disk m.script todo }

/-- `run_migrations` up to its loop. -/
def runMigrations (s : State) : State :=
  match s.disk.currentVersion with
  | .error text => { s with stage := .raised text }
  | .ok version =>
    if (migrations.map DbMigration.version).max? = some version then { s with stage := .running }
    else { s with stage := .migrating (migrations.mergeSort fun m m' => m.version ≤ m'.version) }

def nextMigration (s : State) : List DbMigration → State
  | [] => { s with stage := .running }
  | m :: todo =>
    match s.disk.currentVersion with
    | .error text => { s with stage := .raised text }
    | .ok version =>
      if m.version ≤ version then { s with stage := .migrating todo }
      else runMigrationStatements s m todo

/-- The next statement of a script. At its end the transaction is committed; where one raises it
is rolled back. -/
def nextStatement (s : State) : Option State :=
  match s.stage with
  | .migrating todo => some (nextMigration s todo)
  | .transaction work (statement :: left) todo =>
    match work.execute true statement with
    | .error text => some { s with stage := .raised text }
    | .ok work => some { s with stage := .transaction work left todo }
  | .transaction work [] todo => some ⟨work, .migrating todo⟩
  | .autocommit (statement :: left) todo =>
    match s.disk.execute false statement with
    | .error text => some { s with stage := .raised text }
    | .ok disk => some ⟨disk, .autocommit left todo⟩
  | .autocommit [] todo => some { s with stage := .migrating todo }
  | .down | .running | .raised _ => none

def step : Machine State Action Output
  | s, .start =>
    match s.stage with
    | .down => some (runMigrations s, [])
    | _ => none
  | s, .proceed => (nextStatement s).map fun s => (s, [])
  | s, .crash => some ({ s with stage := .down }, [])
  | s, .write keymanagerData =>
    match s.stage, s.disk.keymanagerData with
    | .running, some _ =>
      some ({ s with disk := { s.disk with keymanagerData := some keymanagerData } },
        [keymanagerData])
    | _, _ => none

/-! ### What is on disk -/

/-- The versions that a database goes through. The keys are those committed last. -/
inductive Level (kept : Dict String Row) : Database → Prop
  | empty {wal : Bool} : kept = ∅ → Level kept ⟨wal, none, none⟩
  | versioned : kept = ∅ → Level kept ⟨true, some [1], none⟩
  | complete : Level kept ⟨true, some [2], some kept⟩

/-- The way to a process that runs, and how many steps it is still. Where the disk is further
than the empty database, the migrations behind it are passed over. -/
inductive OnTheWay (kept : Dict String Row) : State → ℕ → Prop
  | begun {wal : Bool} : kept = ∅ →
      OnTheWay kept ⟨⟨wal, none, none⟩, .migrating migrations⟩ 12
  | changing {wal : Bool} : kept = ∅ →
      OnTheWay kept ⟨⟨wal, none, none⟩, .autocommit [.journalModeWal]
        [createVersionTable, createKeymanagerTables]⟩ 11
  | changed : kept = ∅ →
      OnTheWay kept ⟨⟨true, none, none⟩, .autocommit []
        [createVersionTable, createKeymanagerTables]⟩ 10
  | wal : kept = ∅ →
      OnTheWay kept ⟨⟨true, none, none⟩, .migrating
        [createVersionTable, createKeymanagerTables]⟩ 9
  | creatingVersion : kept = ∅ →
      OnTheWay kept ⟨⟨true, none, none⟩, .transaction ⟨true, none, none⟩
        [.createDbVersion, .insertDbVersion 1] [createKeymanagerTables]⟩ 8
  | insertingVersion : kept = ∅ →
      OnTheWay kept ⟨⟨true, none, none⟩, .transaction ⟨true, some [], none⟩
        [.insertDbVersion 1] [createKeymanagerTables]⟩ 7
  | committingVersion : kept = ∅ →
      OnTheWay kept ⟨⟨true, none, none⟩, .transaction ⟨true, some [1], none⟩ []
        [createKeymanagerTables]⟩ 6
  | passingWal : kept = ∅ →
      OnTheWay kept ⟨⟨true, some [1], none⟩, .migrating migrations⟩ 7
  | passingVersion : kept = ∅ →
      OnTheWay kept ⟨⟨true, some [1], none⟩, .migrating
        [createVersionTable, createKeymanagerTables]⟩ 6
  | versioned : kept = ∅ →
      OnTheWay kept ⟨⟨true, some [1], none⟩, .migrating [createKeymanagerTables]⟩ 5
  | creatingKeys : kept = ∅ →
      OnTheWay kept ⟨⟨true, some [1], none⟩, .transaction ⟨true, some [1], none⟩
        [.createKeymanagerData, .updateDbVersion 2] []⟩ 4
  | bumping : kept = ∅ →
      OnTheWay kept ⟨⟨true, some [1], none⟩, .transaction ⟨true, some [1], some ∅⟩
        [.updateDbVersion 2] []⟩ 3
  | committingKeys : kept = ∅ →
      OnTheWay kept ⟨⟨true, some [1], none⟩, .transaction ⟨true, some [2], some ∅⟩ [] []⟩ 2
  | complete : OnTheWay kept ⟨⟨true, some [2], some kept⟩, .migrating []⟩ 1
  | running : OnTheWay kept ⟨⟨true, some [2], some kept⟩, .running⟩ 0

variable {kept : Dict String Row} {s s' : State} {n : ℕ} {actions : List Action}
  {os o : List Output} {a : Action}

lemma OnTheWay.level (h : OnTheWay kept s n) : Level kept s.disk := by
  cases h with
  | begun hkept | changing hkept | changed hkept | wal hkept | creatingVersion hkept
  | insertingVersion hkept | committingVersion hkept => exact .empty hkept
  | passingWal hkept | passingVersion hkept | versioned hkept | creatingKeys hkept | bumping hkept
  | committingKeys hkept => exact .versioned hkept
  | complete | running => exact .complete

lemma OnTheWay.le (h : OnTheWay kept s n) : n ≤ 12 := by
  cases h <;> decide

lemma OnTheWay.up (h : OnTheWay kept s n) : s.stage ≠ .down ∧ ∀ text, s.stage ≠ .raised text := by
  cases h <;> simp

/-- **A step forward is a step nearer.** -/
lemma OnTheWay.next (h : OnTheWay kept s (n + 1)) :
    ∃ s', nextStatement s = some s' ∧ OnTheWay kept s' n := by
  cases h with
  | begun hkept => exact ⟨_, rfl, .changing hkept⟩
  | changing hkept => exact ⟨_, rfl, .changed hkept⟩
  | changed hkept => exact ⟨_, rfl, .wal hkept⟩
  | wal hkept => exact ⟨_, rfl, .creatingVersion hkept⟩
  | creatingVersion hkept => exact ⟨_, rfl, .insertingVersion hkept⟩
  | insertingVersion hkept => exact ⟨_, rfl, .committingVersion hkept⟩
  | committingVersion hkept => exact ⟨_, rfl, .versioned hkept⟩
  | passingWal hkept => exact ⟨_, rfl, .passingVersion hkept⟩
  | passingVersion hkept => exact ⟨_, rfl, .versioned hkept⟩
  | versioned hkept => exact ⟨_, rfl, .creatingKeys hkept⟩
  | creatingKeys hkept => exact ⟨_, rfl, .bumping hkept⟩
  | bumping hkept => exact ⟨_, rfl, .committingKeys hkept⟩
  | committingKeys hkept =>
    subst hkept
    exact ⟨_, rfl, .complete⟩
  | complete => exact ⟨_, rfl, .running⟩

/-- The migrations are in their order already. -/
lemma sorted_migrations :
    migrations.mergeSort (fun m m' => m.version ≤ m'.version) = migrations :=
  List.mergeSort_of_pairwise (by
    simp [migrations, changeIntoWal, createVersionTable, createKeymanagerTables])

lemma runMigrations_of_ne (version : ℤ) (h : s.disk.currentVersion = .ok version)
    (hne : version ≠ 2) : runMigrations s = { s with stage := .migrating migrations } := by
  have hmax : (migrations.map DbMigration.version).max? = some 2 := rfl
  unfold runMigrations
  rw [h, sorted_migrations, hmax]
  dsimp only
  rw [if_neg fun heq => hne (Option.some.inj heq).symm]

/-- **Whatever was left on disk, a start is on the way.** -/
lemma onTheWay_runMigrations (h : Level kept s.disk) : ∃ n, OnTheWay kept (runMigrations s) n := by
  obtain ⟨disk, stage⟩ := s
  cases h with
  | empty hkept =>
    rw [runMigrations_of_ne (-1) rfl (by decide)]
    exact ⟨12, .begun hkept⟩
  | versioned hkept =>
    rw [runMigrations_of_ne 1 rfl (by decide)]
    exact ⟨7, .passingWal hkept⟩
  | complete => exact ⟨0, .running⟩

/-! ### Runs -/

/-- The keys that were committed last. -/
def lastWritten (os : List Output) : Dict String Row := os.getLast?.getD ∅

/-- Between two lives of the process, or on the way. -/
structure Sound (s : State) (os : List Output) : Prop where
  level : Level (lastWritten os) s.disk
  stage : s.stage = .down ∨ ∃ n, OnTheWay (lastWritten os) s n

lemma sound_init : Sound ⟨.empty, .down⟩ [] := ⟨.empty rfl, .inl rfl⟩

lemma Sound.step (h : Sound s os) (hstep : step s a = some (s', o)) : Sound s' (os ++ o) := by
  cases a with
  | start =>
    simp only [DB.step] at hstep
    split at hstep
    · simp only [Option.some.injEq, Prod.mk.injEq] at hstep
      obtain ⟨rfl, rfl⟩ := hstep
      rw [List.append_nil]
      obtain ⟨n, hn⟩ := onTheWay_runMigrations h.level
      exact ⟨hn.level, .inr ⟨n, hn⟩⟩
    · cases hstep
  | crash =>
    simp only [DB.step, Option.some.injEq, Prod.mk.injEq] at hstep
    obtain ⟨rfl, rfl⟩ := hstep
    rw [List.append_nil]
    exact ⟨h.level, .inl rfl⟩
  | proceed =>
    obtain ⟨s₁, hnext, hs₁⟩ := Option.map_eq_some_iff.mp hstep
    obtain ⟨rfl, rfl⟩ := Prod.mk.inj hs₁
    rw [List.append_nil]
    rcases h.stage with hdown | ⟨n, hn⟩
    · simp [nextStatement, hdown] at hnext
    · cases n with
      | zero =>
        cases hn
        cases hnext
      | succ n =>
        obtain ⟨s₂, hs₂, hnext'⟩ := hn.next
        obtain rfl := Option.some.inj (hs₂.symm.trans hnext)
        exact ⟨hnext'.level, .inr ⟨n, hnext'⟩⟩
  | write data =>
    simp only [DB.step] at hstep
    split at hstep
    case h_2 => cases hstep
    case h_1 hrunning hold =>
      simp only [Option.some.injEq, Prod.mk.injEq] at hstep
      obtain ⟨rfl, rfl⟩ := hstep
      have hlast : lastWritten (os ++ [data]) = data := by simp [lastWritten]
      rcases h.stage with hdown | ⟨n, hn⟩
      · rw [hrunning] at hdown
        cases hdown
      · obtain ⟨disk, stage⟩ := s
        obtain rfl : stage = .running := hrunning
        cases hn
        refine ⟨?_, .inr ⟨0, ?_⟩⟩
        · rw [hlast]
          exact .complete
        · rw [hlast]
          exact .running

/-- Left to itself, the process gets on. -/
lemma OnTheWay.proceed {k : ℕ} (h : OnTheWay kept s (n + k)) :
    ∃ s', Run step s (List.replicate k .proceed) s' [] ∧ OnTheWay kept s' n := by
  induction k generalizing s with
  | zero => exact ⟨s, .nil, h⟩
  | succ k ih =>
    obtain ⟨s₁, hnext, hs₁⟩ := OnTheWay.next h
    have hstep : DB.step s .proceed = some (s₁, []) :=
      congrArg (Option.map fun s => (s, [])) hnext
    obtain ⟨s', r, hs'⟩ := ih hs₁
    exact ⟨s', (run_step hstep).trans r, hs'⟩

lemma OnTheWay.run (h : OnTheWay kept s n) : Run step s (List.replicate n .proceed)
    ⟨⟨true, some [2], some kept⟩, .running⟩ [] := by
  rw [← Nat.zero_add n] at h
  obtain ⟨s', r, hs'⟩ := h.proceed
  cases hs'
  exact r

/-- **Migrations survive interruption.** However often the process was killed, in whatever
statement or between two of them: a start raises nothing, and left to itself it is done after
twelve steps at the most, with the latest version, and with the keys that were committed last. -/
theorem migrated_of_run (r : Run step ⟨.empty, .down⟩ actions s os) :
    (∀ text, s.stage ≠ .raised text) ∧
      (s.stage = .running → s.disk = ⟨true, some [2], some (lastWritten os)⟩) ∧
      (s.stage ≠ .down → ∃ n ≤ 12, Run step s (List.replicate n .proceed)
        ⟨⟨true, some [2], some (lastWritten os)⟩, .running⟩ []) := by
  have hsound : Sound s os := by
    refine RunIf.invariant (I := Sound) sound_init ?_ r
    intro _ _ _ _ _ hI _ hm
    exact hI.step hm
  rcases hsound.stage with hdown | ⟨n, hn⟩
  · refine ⟨fun text => ?_, fun hrunning => ?_, fun hne => absurd hdown hne⟩
    · rw [hdown]
      exact fun heq => by cases heq
    · rw [hdown] at hrunning
      cases hrunning
  · refine ⟨hn.up.2, fun hrunning => ?_, fun _ => ⟨n, hn.le, hn.run⟩⟩
    obtain ⟨disk, stage⟩ := s
    obtain rfl : stage = .running := hrunning
    cases hn
    rfl

/-- The process is killed in the second migration, and started again. -/
theorem migrated_killed : ∃ s, Run step ⟨.empty, .down⟩
    ([.start] ++ List.replicate 5 .proceed ++ [.crash] ++ [.start]) s [] ∧
    ∃ n ≤ 12, Run step s (List.replicate n .proceed) ⟨⟨true, some [2], some ∅⟩, .running⟩ [] := by
  have hbegun : OnTheWay ∅ (runMigrations ⟨.empty, .down⟩) 12 := by
    rw [runMigrations_of_ne (-1) rfl (by decide)]
    exact .begun rfl
  obtain ⟨s₁, r₁, -⟩ := OnTheWay.proceed (n := 7) (k := 5) hbegun
  have hstart : DB.step ⟨.empty, .down⟩ .start = some (runMigrations ⟨.empty, .down⟩, []) := rfl
  have hcrash : DB.step s₁ .crash = some (⟨s₁.disk, .down⟩, []) := rfl
  have hagain : DB.step ⟨s₁.disk, .down⟩ .start = some (runMigrations ⟨s₁.disk, .down⟩, []) := rfl
  have r := (((run_step hstart).trans r₁).trans (run_step hcrash)).trans (run_step hagain)
  obtain ⟨-, -, hdone⟩ := migrated_of_run r
  refine ⟨_, r, hdone ?_⟩
  unfold runMigrations
  split
  · exact fun h => by cases h
  · split <;> exact fun h => by cases h

end Vero.DB
