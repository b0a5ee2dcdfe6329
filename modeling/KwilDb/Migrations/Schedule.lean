import KwilDb.Migrations.Resolve

/-! # At most one migration

Sequences of resolves of `StartMigration` proposals, in any blocks and in any order, under the
block processor's commit discipline (§4.H, §7 of the spec): the database writes of a resolve that
returns an error are rolled back with the block, while the block context's network parameters,
held in memory across blocks, keep what `startMigration` assigned. Once a migration is recorded,
no later resolve changes anything; the resolve that records it sets `ActivationPeriod` and sweeps
every pending proposal. -/

namespace KwilDb

/-- One resolve of a `StartMigration` resolution: the block's height and migration parameters, the
resolution, and the database calls that fail. -/
structure ResolveCall where
  faults : DBFaults
  resolution : Resolution
  height : BitVec 64
  migrationParams : Option MigrationParams

/-- What a sequence of resolves threads: the committed database and the network parameters. -/
structure MigrationChain where
  db : MigrationDB
  networkParameters : NetworkParameters

/-- The block context a resolve runs in. -/
def ResolveCall.block (call : ResolveCall) (chain : MigrationChain) : BlockContext :=
  ⟨call.height, ⟨call.migrationParams, chain.networkParameters⟩⟩

/-- A resolve whose database writes are kept when it returns `nil` and rolled back when it returns
an error. -/
def resolveStep (chain : MigrationChain) (call : ResolveCall) : MigrationChain :=
  let r := startMigration call.faults call.resolution (call.block chain) chain.db
  match r.result with
  | .ok () => ⟨r.db, r.block.chainContext.networkParameters⟩
  | .error _ => ⟨chain.db, r.block.chainContext.networkParameters⟩

/-- A sequence of resolves. -/
def resolveRun (chain : MigrationChain) (calls : List ResolveCall) : MigrationChain :=
  calls.foldl resolveStep chain

/-- How many resolves of a sequence create the migration record. -/
def creationCount : MigrationChain → List ResolveCall → Nat
  | _, [] => 0
  | chain, call :: calls =>
    (if chain.db.activeMigration.isNone && (resolveStep chain call).db.activeMigration.isSome
      then 1 else 0) + creationCount (resolveStep chain call) calls

theorem resolveRun_append (chain : MigrationChain) (pre post : List ResolveCall) :
    resolveRun chain (pre ++ post) = resolveRun (resolveRun chain pre) post :=
  List.foldl_append _ _ _ _

/-- With a record in the database, a resolve changes neither the database nor the block context. -/
theorem startMigration_of_record (faults : DBFaults) (resolution : Resolution)
    (block : BlockContext) {db : MigrationDB} (hrecord : db.activeMigration.isSome) :
    (startMigration faults resolution block db).block = block ∧
      (startMigration faults resolution block db).db = db := by
  rcases startMigration_cases faults resolution block db with
    ⟨hblock, hdb, -⟩ | ⟨_, -, hfresh, _⟩
  · exact ⟨hblock, hdb⟩
  · simp [hfresh] at hrecord

theorem resolveStep_of_record {chain : MigrationChain} (call : ResolveCall)
    (hrecord : chain.db.activeMigration.isSome) : resolveStep chain call = chain := by
  obtain ⟨hblock, hdb⟩ :=
    startMigration_of_record call.faults call.resolution (call.block chain) hrecord
  simp only [resolveStep, hblock, hdb]
  split <;> rfl

theorem resolveRun_of_record {chain : MigrationChain} (calls : List ResolveCall)
    (hrecord : chain.db.activeMigration.isSome) : resolveRun chain calls = chain := by
  induction calls with
  | nil => rfl
  | cons call calls ih =>
    simpa [resolveRun, resolveStep_of_record call hrecord] using ih

theorem creationCount_of_record {chain : MigrationChain} (calls : List ResolveCall)
    (hrecord : chain.db.activeMigration.isSome) : creationCount chain calls = 0 := by
  induction calls with
  | nil => rfl
  | cons call calls ih =>
    simp [creationCount, resolveStep_of_record call hrecord, ih,
      Option.isSome_iff_ne_none.mp hrecord]

theorem creationCount_le_one (chain : MigrationChain) (calls : List ResolveCall) :
    creationCount chain calls ≤ 1 := by
  induction calls generalizing chain with
  | nil => simp [creationCount]
  | cons call calls ih =>
    by_cases hnext : (resolveStep chain call).db.activeMigration.isSome
    · simp [creationCount, creationCount_of_record calls hnext]
      split <;> simp
    · simpa [creationCount, hnext] using ih (resolveStep chain call)

/-- The resolve that creates the record sets `ActivationPeriod` and leaves no `StartMigration`
proposal pending. -/
theorem resolveStep_of_created {chain : MigrationChain} (call : ResolveCall)
    (hfresh : chain.db.activeMigration = none)
    (hcreated : (resolveStep chain call).db.activeMigration.isSome) :
    (resolveStep chain call).networkParameters.migrationStatus = .activationPeriod ∧
      ∀ res ∈ (resolveStep chain call).db.resolutions,
        res.type ≠ startMigrationEventType := by
  cases hresult : (startMigration call.faults call.resolution (call.block chain) chain.db).result
  case error e => simp [resolveStep, hresult, hfresh] at hcreated
  case ok =>
    simp only [resolveStep, hresult] at hcreated ⊢
    rcases startMigration_cases call.faults call.resolution (call.block chain) chain.db with
      ⟨-, hdb, -⟩ | ⟨_, -, -, -, -, hblock, -, -, hswept⟩
    · simp [hdb, hfresh] at hcreated
    · exact ⟨by rw [hblock]; rfl, by simp [hswept hresult]⟩

/-- From a chain with no record, a run that ends with a record ends in `ActivationPeriod`: the
resolve that created the record set it, and no later resolve changed it. -/
theorem resolveRun_status_of_record {chain : MigrationChain} (calls : List ResolveCall)
    (hfresh : chain.db.activeMigration = none)
    (hrecord : (resolveRun chain calls).db.activeMigration.isSome) :
    (resolveRun chain calls).networkParameters.migrationStatus = .activationPeriod := by
  induction calls generalizing chain with
  | nil => simp [resolveRun, hfresh] at hrecord
  | cons call calls ih =>
    cases hnext : (resolveStep chain call).db.activeMigration with
    | none => exact ih hnext hrecord
    | some _ =>
      have hcreated : (resolveStep chain call).db.activeMigration.isSome := by simp [hnext]
      change (resolveRun (resolveStep chain call) calls).networkParameters.migrationStatus = _
      rw [resolveRun_of_record calls hcreated]
      exact (resolveStep_of_created call hfresh hcreated).1

/-- Over any sequence of resolves, in any blocks and with any proposals and database failures, at
most one resolve creates the migration record. Once a record exists, every later resolve returns
with neither the database nor the block context changed, so the record, `MigrationStatus` and the
pending proposals stay as they are; and right after the resolve that created it, no
`StartMigration` proposal is pending. -/
theorem at_most_one_migration (chain : MigrationChain) (calls : List ResolveCall) :
    creationCount chain calls ≤ 1 ∧
      ∀ pre call post, calls = pre ++ call :: post →
        ((resolveRun chain pre).db.activeMigration.isSome →
          (startMigration call.faults call.resolution (call.block (resolveRun chain pre))
              (resolveRun chain pre).db).block = call.block (resolveRun chain pre) ∧
            (startMigration call.faults call.resolution (call.block (resolveRun chain pre))
              (resolveRun chain pre).db).db = (resolveRun chain pre).db ∧
            resolveRun chain calls = resolveRun chain pre) ∧
        ((resolveRun chain pre).db.activeMigration = none →
          (resolveStep (resolveRun chain pre) call).db.activeMigration.isSome →
          ∀ res ∈ (resolveStep (resolveRun chain pre) call).db.resolutions,
            res.type ≠ startMigrationEventType) := by
  refine ⟨creationCount_le_one chain calls, fun pre call post hcalls => ⟨fun hrecord => ?_,
    fun hfresh hcreated => (resolveStep_of_created call hfresh hcreated).2⟩⟩
  obtain ⟨hblock, hdb⟩ := startMigration_of_record call.faults call.resolution
    (call.block (resolveRun chain pre)) hrecord
  refine ⟨hblock, hdb, ?_⟩
  rw [hcalls, resolveRun_append, resolveRun, List.foldl_cons, resolveStep_of_record call hrecord]
  exact resolveRun_of_record post hrecord

end KwilDb
