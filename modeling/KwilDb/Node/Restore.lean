import KwilDb.Core.Types

/-! # Restoring a new node's database from the genesis snapshot

`restoreDB`, `isDbInitialized`, `schemaExists` and `failBuild` (`src/unnamed/part_002:269-379,
574-586`): the boot step of §4.G's consumer. A node restores its database from the genesis snapshot
file when the database has no `kwild_voting` schema yet, state sync (when enabled) did not restore
it, the genesis config sets a `StateHash`, the config names a snapshot file, and `node.RestoreDB`
accepts the file; each failure on the way panics through `failBuild`. The collaborators (the
database, state sync, the file system, gzip, and `node.RestoreDB`, which checks the file against
`StateHash`) are not in the sources: `BootDeps` gives what each call returns on one boot.
`buildDB` (`KwilDb.Node.Boot`) runs `restoreDB` as one step of the boot. -/

namespace KwilDb

/-- `panicErr`, the value `failBuild` panics with: the error, `errors.New(msg)` when `failBuild`
was given nil, and the message. -/
structure PanicErr where
  err : Error
  msg : String
  deriving DecidableEq, Repr

/-- The collaborators of `restoreDB`: what each call returns on this boot. -/
structure BootDeps where
  /-- `d.poolOpener(ctx, d.cfg.DB.DBName, 3)`. -/
  poolOpener : Except Error Unit
  /-- `db.Execute(ctx, query)`: the number of rows the query returns. -/
  execute : String → Except Error Nat
  /-- `d.cfg.StateSync.Enable`. -/
  stateSyncEnable : Bool
  /-- `ss.DoStatesync(ctx)`: whether state sync restored the database. -/
  doStatesync : Except Error Bool
  /-- `d.genesisCfg.StateHash`. -/
  stateHash : Bytes
  /-- `d.cfg.GenesisState`, the path of the snapshot file. -/
  genesisState : String
  /-- `os.Open(appCfg.GenesisState)`. -/
  openFile : Except Error Unit
  /-- `gzip.NewReader(snapFile)`. -/
  gzipReader : Except Error Unit
  /-- `node.RestoreDB(ctx, reader, appCfg.DB, genCfg.StateHash, d.logger)`, reading the file
  through gzip or not. -/
  nodeRestoreDB : Bool → Except Error Unit

/-- The query of `schemaExists`. -/
def schemaQuery (schema : String) : String :=
  "SELECT 1 FROM information_schema.schemata WHERE schema_name = \x27" ++ schema ++ "\x27"

/-- `schemaExists`: the query finds no row, one, or, an error, more than one. -/
def schemaExists (execute : String → Except Error Nat) (schema : String) : Except Error Bool :=
  match execute (schemaQuery schema) with
  | .error e => .error e
  | .ok rows =>
    if rows = 0 then .ok false
    else if rows > 1 then .error (.msg ("more than one schema found with name " ++ schema))
    else .ok true

section Boot

/- `errorText e` is `e.Error()`: the texts of the collaborators' errors are not in the sources. -/
variable (errorText : Error → String)

/-- `failBuild`, as the value it panics with. -/
def failBuild (err : Option Error) (msg : String) : PanicErr :=
  match err with
  | none => ⟨.msg msg, msg⟩
  | some e => ⟨e, msg ++ ": " ++ errorText e⟩

/-- `isDbInitialized`: whether the `kwild_voting` schema exists. -/
def isDbInitialized (d : BootDeps) : Except PanicErr Bool :=
  match d.poolOpener with
  | .error e => .error (failBuild errorText (some e) "kwild database open failed")
  | .ok () =>
    match schemaExists d.execute "kwild_voting" with
    | .error e => .error (failBuild errorText (some e) "failed to check if schema exists")
    | .ok found => .ok found

/-- Lines 282-295 of `restoreDB`: with state sync enabled, whether it restored the database. -/
def statesyncRestored (d : BootDeps) : Except PanicErr Bool :=
  if d.stateSyncEnable then
    match d.doStatesync with
    | .error e => .error (failBuild errorText (some e) "failed to do statesync")
    | .ok success => .ok success
  else .ok false

/-- Lines 311-331 of `restoreDB`: open the snapshot file, through gzip when its name ends in
`.gz`. -/
def openGenesisState (d : BootDeps) : Except PanicErr Unit :=
  match d.openFile with
  | .error e => .error (failBuild errorText (some e) "failed to open genesis state file")
  | .ok () =>
    if d.genesisState.endsWith ".gz" then
      match d.gzipReader with
      | .error e => .error (failBuild errorText (some e) "failed to create gzip reader")
      | .ok () => .ok ()
    else .ok ()

/-- Lines 297-340 of `restoreDB`: the restore from the genesis snapshot of an offline migration.
A slice of nonzero length is not nil, so the first test of line 307 holds whenever it is made. -/
def restoreGenesisSnapshot (d : BootDeps) : Except PanicErr Bool :=
  if d.stateHash.length = 0 then .ok false
  else if d.stateHash ≠ [] ∧ d.genesisState = "" then
    .error (failBuild errorText none "snapshot file not provided")
  else
    match openGenesisState errorText d with
    | .error p => .error p
    | .ok () =>
      match d.nodeRestoreDB (d.genesisState.endsWith ".gz") with
      | .error e => .error (failBuild errorText (some e) "failed to restore DB from snapshot")
      | .ok () => .ok true

/-- `restoreDB`: whether the database was restored from the genesis snapshot. -/
def restoreDB (d : BootDeps) : Except PanicErr Bool :=
  match isDbInitialized errorText d with
  | .error p => .error p
  | .ok true => .ok false
  | .ok false =>
    match statesyncRestored errorText d with
    | .error p => .error p
    | .ok true => .ok false
    | .ok false => restoreGenesisSnapshot errorText d

end Boot

end KwilDb
