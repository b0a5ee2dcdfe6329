import KwilDb.Migrations.Declaration

/-! # Resolving a migration proposal

`startMigration` (`kgw-test-reuse.yaml:393-441`), the resolve function of the `StartMigration`
resolution kind: when a proposal reaches its threshold, it schedules the migration it declares.
The database calls it makes (`migrationActive`, `createMigration`,
`voting.DeleteResolutionsByType`) are not in the sources; they follow §4.C and §4.D of the spec,
and each may fail, as a SQL call may, with an error `DBFaults` chooses. The database is the
open transaction of the block: a resolve that fails leaves its writes in it for the caller to
roll back. -/

namespace KwilDb

/-- `activeMigration`: the record of a scheduled migration, with `int64` heights. -/
structure ActiveMigration where
  startHeight : BitVec 64
  endHeight : BitVec 64
  deriving DecidableEq, Repr

/-- `resolutions.Resolution`, with the fields `startMigration` and the vote store read. -/
structure Resolution where
  type : String
  body : Bytes
  deriving DecidableEq, Repr

/-- The part of the application database a resolve reads and writes: the migration store's single
record (§4.C) and the vote store's pending resolutions. -/
structure MigrationDB where
  activeMigration : Option ActiveMigration
  resolutions : List Resolution
  deriving DecidableEq, Repr

/-- The database calls of one resolve that fail, each with the error it returns. -/
structure DBFaults where
  migrationActive : Option Error
  createMigration : Option Error
  deleteResolutions : Option Error
  deriving DecidableEq, Repr

/-- The resolve in which no database call fails. -/
def DBFaults.none : DBFaults := ⟨.none, .none, .none⟩

/-- Modelled from the spec: `migrationActive` is not in the sources; §4.C `is_active()`. -/
def migrationActive (fault : Option Error) (db : MigrationDB) : Except Error Bool :=
  match fault with
  | some e => .error e
  | none => .ok db.activeMigration.isSome

/-- Modelled from the spec: `createMigration` is not in the sources; §4.C `create(active)`, which
fails if a record exists. -/
def createMigration (fault : Option Error) (db : MigrationDB) (active : ActiveMigration) :
    Except Error MigrationDB :=
  match fault with
  | some e => .error e
  | none =>
    if db.activeMigration.isSome then .error (.msg "AlreadyExists")
    else .ok { db with activeMigration := some active }

/-- Modelled from the spec: `voting.DeleteResolutionsByType` is not in the sources; §4.D deletes
the pending resolutions of the given kinds. -/
def deleteResolutionsByType (fault : Option Error) (db : MigrationDB) (types : List String) :
    Except Error MigrationDB :=
  match fault with
  | some e => .error e
  | none => .ok { db with resolutions := db.resolutions.filter (fun r => r.type ∉ types) }

/-- The record `startMigration` builds: `int64(ActivationPeriod)` and `int64(Duration)` keep the
bits of the `uint64` fields, and the sums wrap as `int64` additions do. -/
def scheduledMigration (height : BitVec 64) (mig : MigrationDeclaration) : ActiveMigration :=
  ⟨height + mig.activationPeriod, height + mig.activationPeriod + mig.duration⟩

/-- What one call of `startMigration` leaves: its error, the block context it was given (whose
status it may have set) and the contents of the database transaction. -/
structure Resolve where
  result : Except Error Unit
  block : BlockContext
  db : MigrationDB

/-- `startMigration`. -/
def startMigration (faults : DBFaults) (resolution : Resolution) (block : BlockContext)
    (db : MigrationDB) : Resolve :=
  if block.chainContext.migrationParams.isSome then ⟨.ok (), block, db⟩ else
  match migrationActive faults.migrationActive db with
  | .error e => ⟨.error e, block, db⟩
  | .ok true =>
    ⟨.error (.msg "failed to start migration: only one migration can be active at a time"),
      block, db⟩
  | .ok false =>
    match MigrationDeclaration.unmarshalBinary resolution.body with
    | .error e => ⟨.error e, block, db⟩
    | .ok mig =>
      match createMigration faults.createMigration db (scheduledMigration block.height mig) with
      | .error e => ⟨.error e, block, db⟩
      | .ok db =>
        let block := block.setMigrationStatus .activationPeriod
        match deleteResolutionsByType faults.deleteResolutions db [startMigrationEventType] with
        | .error e => ⟨.error e, block, db⟩
        | .ok db => ⟨.ok (), block, db⟩

@[simp] theorem DBFaults.none_migrationActive : DBFaults.none.migrationActive = .none := rfl
@[simp] theorem DBFaults.none_createMigration : DBFaults.none.createMigration = .none := rfl
@[simp] theorem DBFaults.none_deleteResolutions : DBFaults.none.deleteResolutions = .none := rfl

/-- A `StartMigration` resolution carrying the declaration `md`. -/
def proposal (md : MigrationDeclaration) : Resolution :=
  ⟨startMigrationEventType, md.marshalBinary⟩

/-- A node that is itself migrating returns `nil` and changes nothing. -/
theorem startMigration_migrating (faults : DBFaults) (resolution : Resolution)
    {block : BlockContext} (db : MigrationDB) (hparams : block.chainContext.migrationParams.isSome) :
    startMigration faults resolution block db = ⟨.ok (), block, db⟩ := by
  simp [startMigration, hparams]

/-- Nothing rejects a declaration for its terms: a node that is not migrating, with no migration
recorded and no failing call, schedules every encoded declaration, also one with `Duration` zero
or one whose heights overflow `int64`. -/
theorem startMigration_proposal (md : MigrationDeclaration) (hfits : md.timestamp.length < 2 ^ 32)
    {block : BlockContext} (hparams : block.chainContext.migrationParams = none)
    (resolutions : List Resolution) :
    (startMigration .none (proposal md) block ⟨none, resolutions⟩).result = .ok () ∧
      (startMigration .none (proposal md) block ⟨none, resolutions⟩).db.activeMigration =
        some (scheduledMigration block.height md) := by
  have hdecode : MigrationDeclaration.unmarshalBinary md.marshalBinary = .ok md := by
    simpa using MigrationDeclaration.unmarshalBinary_marshalBinary_append md [] hfits
  simp [startMigration, hparams, migrationActive, proposal, hdecode, createMigration,
    deleteResolutionsByType]

/-- Everything one resolve can do: either it leaves the block context and the database as they
were, returning `nil` only when the node is itself migrating, or it has scheduled the declared
migration and set the status, and then succeeds exactly when the sweep of pending proposals does. -/
theorem startMigration_cases (faults : DBFaults) (resolution : Resolution) (block : BlockContext)
    (db : MigrationDB) :
    let r := startMigration faults resolution block db
    (r.block = block ∧ r.db = db ∧
        (r.result = .ok () → block.chainContext.migrationParams.isSome)) ∨
      ∃ mig, block.chainContext.migrationParams = none ∧ db.activeMigration = none ∧
        MigrationDeclaration.unmarshalBinary resolution.body = .ok mig ∧
        faults.createMigration = none ∧
        r.block = block.setMigrationStatus .activationPeriod ∧
        r.db.activeMigration = some (scheduledMigration block.height mig) ∧
        r.result = (match faults.deleteResolutions with
          | some e => .error e
          | none => .ok ()) ∧
        (r.result = .ok () →
          r.db.resolutions =
            db.resolutions.filter (fun r => r.type ∉ [startMigrationEventType])) := by
  dsimp only
  by_cases hparams : block.chainContext.migrationParams.isSome
  · rw [startMigration_migrating faults resolution db hparams]
    exact .inl ⟨rfl, rfl, fun _ => hparams⟩
  have hnone : block.chainContext.migrationParams = none := by simpa using hparams
  rw [startMigration, if_neg hparams]
  cases hfault : faults.migrationActive with
  | some e => exact .inl ⟨rfl, rfl, fun h => by cases h⟩
  | none =>
    simp only [migrationActive]
    cases hact : db.activeMigration with
    | some a => exact .inl ⟨rfl, rfl, fun h => by cases h⟩
    | none =>
      cases hdecode : MigrationDeclaration.unmarshalBinary resolution.body with
      | error e => exact .inl ⟨rfl, rfl, fun h => by cases h⟩
      | ok mig =>
        cases hcreate : faults.createMigration with
        | some e => exact .inl ⟨rfl, rfl, fun h => by cases h⟩
        | none =>
          refine .inr ⟨mig, hnone, rfl, rfl, rfl, ?_⟩
          cases hdelete : faults.deleteResolutions <;>
            simp [createMigration, deleteResolutionsByType, hact, hdelete]

private theorem toInt_of_toNat_lt {x : BitVec 64} (hlt : x.toNat < 2 ^ 63) :
    x.toInt = x.toNat := by
  rw [BitVec.toInt_eq_toNat_cond, if_pos (by omega)]

private theorem toNat_lt_of_toInt_nonneg {x : BitVec 64} (hnonneg : 0 ≤ x.toInt) :
    x.toNat < 2 ^ 63 := by
  rw [BitVec.toInt_eq_toNat_cond] at hnonneg
  split at hnonneg
  · omega
  · have := x.isLt
    omega

/-- The heights of a scheduled migration are the exact sums as long as they stay below `2^63`:
then the window starts no earlier than the resolving block and is empty exactly when `Duration`
is zero. -/
theorem scheduledMigration_exact (height : BitVec 64) (mig : MigrationDeclaration)
    (hheight : 0 ≤ height.toInt)
    (hfits : height.toInt + mig.activationPeriod.toNat + mig.duration.toNat < 2 ^ 63) :
    (scheduledMigration height mig).startHeight.toInt =
        height.toInt + mig.activationPeriod.toNat ∧
      (scheduledMigration height mig).endHeight.toInt =
        (scheduledMigration height mig).startHeight.toInt + mig.duration.toNat ∧
      height.toInt ≤ (scheduledMigration height mig).startHeight.toInt ∧
      ((scheduledMigration height mig).startHeight.toInt <
        (scheduledMigration height mig).endHeight.toInt ↔ mig.duration ≠ 0) := by
  have hh := toNat_lt_of_toInt_nonneg hheight
  rw [toInt_of_toNat_lt hh] at hfits ⊢
  have hstart :
      (height + mig.activationPeriod).toNat = height.toNat + mig.activationPeriod.toNat := by
    rw [BitVec.toNat_add, Nat.mod_eq_of_lt (by omega)]
  have hend : (height + mig.activationPeriod + mig.duration).toNat =
      height.toNat + mig.activationPeriod.toNat + mig.duration.toNat := by
    rw [BitVec.toNat_add, hstart, Nat.mod_eq_of_lt (by omega)]
  have hzero : mig.duration ≠ 0 ↔ mig.duration.toNat ≠ 0 := by
    simp [BitVec.toNat_eq]
  simp only [scheduledMigration,
    toInt_of_toNat_lt (show (height + mig.activationPeriod).toNat < 2 ^ 63 by omega),
    toInt_of_toNat_lt (show (height + mig.activationPeriod + mig.duration).toNat < 2 ^ 63 by omega),
    hstart, hend, hzero]
  omega

/-- A resolve that returns `nil` on a node that is not itself migrating has created the record of
the declared migration. Its heights are `int64` sums that wrap; below `2^63` they are the exact
sums, the window starts no earlier than the resolving block, and it is empty exactly when
`Duration` is zero, which nothing rejects. -/
theorem startMigration_schedules (faults : DBFaults) (resolution : Resolution)
    (block : BlockContext) (db : MigrationDB)
    (hparams : block.chainContext.migrationParams = none)
    (hok : (startMigration faults resolution block db).result = .ok ()) :
    ∃ mig, MigrationDeclaration.unmarshalBinary resolution.body = .ok mig ∧
      (startMigration faults resolution block db).db.activeMigration =
        some (scheduledMigration block.height mig) ∧
      (0 ≤ block.height.toInt →
        block.height.toInt + mig.activationPeriod.toNat + mig.duration.toNat < 2 ^ 63 →
        (scheduledMigration block.height mig).startHeight.toInt =
            block.height.toInt + mig.activationPeriod.toNat ∧
          (scheduledMigration block.height mig).endHeight.toInt =
            (scheduledMigration block.height mig).startHeight.toInt + mig.duration.toNat ∧
          block.height.toInt ≤ (scheduledMigration block.height mig).startHeight.toInt ∧
          ((scheduledMigration block.height mig).startHeight.toInt <
            (scheduledMigration block.height mig).endHeight.toInt ↔ mig.duration ≠ 0)) := by
  rcases startMigration_cases faults resolution block db with
    ⟨-, -, hmigrating⟩ | ⟨mig, -, -, hdecode, -, -, hrecord, -⟩
  · simp [hparams] at hmigrating
    exact absurd (hmigrating hok) (by simp)
  · exact ⟨mig, hdecode, hrecord, scheduledMigration_exact block.height mig⟩

/-- A block at height `height` of a network with no migration under way. -/
def idleBlock (height : BitVec 64) : BlockContext :=
  ⟨height, ⟨none, ⟨.noActiveMigration, 0, false⟩⟩⟩

/-- The proposal of the integration test, resolved at height 100. -/
theorem startMigration_schedules_testProposal :
    (idleBlock 100).chainContext.migrationParams = none ∧
      (startMigration .none (proposal .testProposal) (idleBlock 100) ⟨none, []⟩).result =
        .ok () ∧
      ∃ mig, MigrationDeclaration.unmarshalBinary (proposal .testProposal).body = .ok mig ∧
        (startMigration .none (proposal .testProposal) (idleBlock 100)
            ⟨none, []⟩).db.activeMigration =
          some (scheduledMigration (idleBlock 100).height mig) ∧
        (0 ≤ (idleBlock 100).height.toInt →
          (idleBlock 100).height.toInt + mig.activationPeriod.toNat + mig.duration.toNat <
            2 ^ 63 →
          (scheduledMigration (idleBlock 100).height mig).startHeight.toInt =
              (idleBlock 100).height.toInt + mig.activationPeriod.toNat ∧
            (scheduledMigration (idleBlock 100).height mig).endHeight.toInt =
              (scheduledMigration (idleBlock 100).height mig).startHeight.toInt +
                mig.duration.toNat ∧
            (idleBlock 100).height.toInt ≤
              (scheduledMigration (idleBlock 100).height mig).startHeight.toInt ∧
            ((scheduledMigration (idleBlock 100).height mig).startHeight.toInt <
              (scheduledMigration (idleBlock 100).height mig).endHeight.toInt ↔
                mig.duration ≠ 0)) :=
  have hok := (@startMigration_proposal .testProposal (by decide) (idleBlock 100) rfl []).1
  ⟨rfl, hok, startMigration_schedules .none (proposal .testProposal) (idleBlock 100) ⟨none, []⟩ rfl
    hok⟩

/-- A declaration with `Duration` zero, resolved at height 1, is scheduled with `StartHeight` equal
to `EndHeight`. -/
theorem startMigration_accepts_empty_window :
    (startMigration .none (proposal ⟨0, 0, []⟩) (idleBlock 1) ⟨none, []⟩).result =
        .ok () ∧
      (startMigration .none (proposal ⟨0, 0, []⟩) (idleBlock 1)
          ⟨none, []⟩).db.activeMigration = some ⟨1, 1⟩ :=
  ⟨rfl, rfl⟩

/-- A resolve that fails leaves the block context, and with it `MigrationStatus`, as it found it,
unless what failed is the sweep of pending proposals: by then the record is written and the status
set to `ActivationPeriod`, an assignment a rollback of the database does not undo. -/
theorem startMigration_error_block (faults : DBFaults) (resolution : Resolution)
    (block : BlockContext) (db : MigrationDB) {e : Error}
    (herr : (startMigration faults resolution block db).result = .error e) :
    (startMigration faults resolution block db).block = block ∨
      (faults.deleteResolutions = some e ∧ db.activeMigration = none ∧
        (startMigration faults resolution block db).block =
          block.setMigrationStatus .activationPeriod ∧
        (startMigration faults resolution block db).db.activeMigration.isSome) := by
  rcases startMigration_cases faults resolution block db with
    ⟨hblock, -⟩ | ⟨mig, -, hfresh, -, -, hblock, hrecord, hresult, -⟩
  · exact .inl hblock
  · refine .inr ⟨?_, hfresh, hblock, by simp [hrecord]⟩
    cases hdelete : faults.deleteResolutions <;> simp_all

/-- A failed lookup of the migration record leaves the block context alone. -/
theorem startMigration_error_block_lookupFault :
    (startMigration ⟨some (.msg "db"), none, none⟩ (proposal .testProposal)
        (idleBlock 100) ⟨none, []⟩).result = .error (.msg "db") ∧
      ((startMigration ⟨some (.msg "db"), none, none⟩ (proposal .testProposal)
          (idleBlock 100) ⟨none, []⟩).block = idleBlock 100 ∨
        ((⟨some (.msg "db"), none, none⟩ : DBFaults).deleteResolutions = some (.msg "db") ∧
          (⟨none, []⟩ : MigrationDB).activeMigration = none ∧
          (startMigration ⟨some (.msg "db"), none, none⟩ (proposal .testProposal)
            (idleBlock 100) ⟨none, []⟩).block =
              (idleBlock 100).setMigrationStatus .activationPeriod ∧
          (startMigration ⟨some (.msg "db"), none, none⟩ (proposal .testProposal)
            (idleBlock 100) ⟨none, []⟩).db.activeMigration.isSome)) :=
  ⟨rfl,
    startMigration_error_block _ (proposal .testProposal) (idleBlock 100) ⟨none, []⟩ rfl⟩

/-- When the sweep of pending proposals fails, the resolve returns its error with the status
already set to `ActivationPeriod`. -/
theorem startMigration_error_sets_status :
    (startMigration ⟨none, none, some (.msg "db")⟩ (proposal .testProposal) (idleBlock 100)
        ⟨none, []⟩).result = .error (.msg "db") ∧
      (startMigration ⟨none, none, some (.msg "db")⟩ (proposal .testProposal) (idleBlock 100)
        ⟨none, []⟩).block.chainContext.networkParameters.migrationStatus = .activationPeriod ∧
      (idleBlock 100).chainContext.networkParameters.migrationStatus = .noActiveMigration :=
  ⟨rfl, rfl, rfl⟩

end KwilDb