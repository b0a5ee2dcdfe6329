import Mathlib

/-! # Shared types of the modelled node code

Bytes, Go errors and the chain's `MigrationStatus`, as `node/txapp/mempool.go`, the migrations
package (`MigrationDeclaration`, `startMigration`) and the interpreter's `FromAST` read them.
`MigrationStatus` and its `Active` method live in `core/types`, which is not in the sources; they
follow §3 and §4.F of the spec. -/

namespace KwilDb

/-- Go `[]byte`; also a Go `string`, which is a sequence of bytes. -/
abbrev Bytes := List UInt8

/-- The sentinel errors of `core/types` that the modelled code returns or wraps. Their texts are
not in the sources. -/
inductive Sentinel where
  | disallowedInMigration
  | insufficientBalance
  | invalidNonce
  | invalidAmount
  deriving DecidableEq, Repr

/-- A Go `error`, by the way the modelled code builds it. A collaborator outside the sources
(the database, a decoder of `core/types`) may return any of them. -/
inductive Error where
  /-- `io.EOF`: a read found no byte left. -/
  | eof
  /-- `io.ErrUnexpectedEOF`: a read found some bytes, but fewer than it needs. -/
  | unexpectedEOF
  | sentinel (s : Sentinel)
  /-- `fmt.Errorf("%w" ++ detail, s)`. -/
  | wrapped (s : Sentinel) (detail : String)
  /-- `fmt.Errorf(context ++ "%w", inner)`. -/
  | context (text : String) (inner : Error)
  /-- `errors.Join(first, second)`. -/
  | joined (first second : Error)
  /-- `errors.New(text)`, or `fmt.Errorf` wrapping no error. -/
  | msg (text : String)
  deriving DecidableEq, Repr

@[simp] theorem bind_ok {α β : Type} (a : α) (f : α → Except Error β) :
    (Except.ok a >>= f) = f a := rfl

@[simp] theorem bind_error {α β : Type} (e : Error) (f : α → Except Error β) :
    (Except.error e >>= f) = Except.error e := rfl

@[simp] theorem throw_eq_error {α : Type} (e : Error) : (throw e : Except Error α) = .error e :=
  rfl

theorem bind_eq_ok {α β : Type} {x : Except Error α} {f : α → Except Error β} {b : β} :
    (x >>= f) = .ok b ↔ ∃ a, x = .ok a ∧ f a = .ok b := by
  cases x <;> simp

/-- `types.MigrationStatus`, the phase of a network migration (§3 of the spec), in the order of
its legal transitions. -/
inductive MigrationStatus where
  | noActiveMigration
  | activationPeriod
  | migrationInProgress
  | migrationCompleted
  | genesisMigration
  deriving DecidableEq, Repr

/-- Modelled from the spec: `MigrationStatus.Active` is not in the sources. §4.F calls a status
*active* when it is `ActivationPeriod` or `MigrationInProgress`. -/
def MigrationStatus.active : MigrationStatus → Bool
  | .activationPeriod | .migrationInProgress => true
  | _ => false

/-- Modelled from the spec: `voting.StartMigrationEventType` is not in the sources; §6 names the
resolution kind `start_migration`. -/
def startMigrationEventType : String := "start_migration"

/-- `common.NetworkParameters`, with the fields the modelled code reads. -/
structure NetworkParameters where
  migrationStatus : MigrationStatus
  /-- `MaxVotesPerTx`, an `int64`. -/
  maxVotesPerTx : BitVec 64
  disabledGasCosts : Bool
  deriving DecidableEq, Repr

/-- `common.MigrationContext`, the parameters of a migration this node is taking part in. Only
whether it is set is read; its start and end heights are left out. -/
structure MigrationParams where
  deriving DecidableEq, Repr

/-- `common.ChainContext`: `MigrationParams` is `nil` when `none`. -/
structure ChainContext where
  migrationParams : Option MigrationParams
  networkParameters : NetworkParameters
  deriving DecidableEq, Repr

/-- `common.BlockContext`: the block being executed, at an `int64` height. -/
structure BlockContext where
  height : BitVec 64
  chainContext : ChainContext
  deriving DecidableEq, Repr

/-- The assignment `block.ChainContext.NetworkParameters.MigrationStatus = status`. -/
def BlockContext.setMigrationStatus (block : BlockContext) (status : MigrationStatus) :
    BlockContext :=
  { block with chainContext.networkParameters.migrationStatus := status }

@[simp] theorem BlockContext.setMigrationStatus_status (block : BlockContext)
    (status : MigrationStatus) :
    (block.setMigrationStatus status).chainContext.networkParameters.migrationStatus = status :=
  rfl

end KwilDb
