import KwilDb.Node.Admin

/-! # The node's boot: what it opens, and what it leaves for the closers

`buildServer` and the `build*` and `initialize*` functions it calls, with `verifyDependencies`
(`src/unnamed/part_002:48-264, 381-638, 712-730`). The boot builds the node's services one after
another; any failure panics through `failBuild`, and the recovering caller closes what `buildServer`
registered with `closers` (`d.closers = closers`, line 53). A handle is either registered there as
soon as it is opened (the block store, the P2P service, the three database pools), or released by
the function that opens it, on every exit (the engine's transaction by `defer tx.Rollback`, the
signer state file at once). `buildServer_closers` proves that, over every outcome of every call the
boot makes, no handle is left unregistered when the boot returns or panics, and that the closers
are registered in one order.

The boot runs in `Boot`, a state monad whose panics keep the state reached. The calls that are not
in the sources are collaborators (`ServerDeps`); a call that fails is taken to open nothing.
`restoreDB` runs as one step: the pool of `isDbInitialized` and the snapshot file and gzip reader
of `restoreDB` are closed by its own `defer`s. -/

namespace KwilDb

/-- A handle the boot opens and someone must release. -/
inductive Handle where
  /-- `store.NewBlockStore`. -/
  | blockStore
  /-- `node.NewP2PService`. -/
  | p2pService
  /-- `d.poolOpener` in `initializeStatesyncService`. -/
  | statesyncPool
  /-- `d.dbOpener` in `buildDB`. -/
  | applicationDB
  /-- `d.poolOpener` in `buildVoteStore`. -/
  | eventstorePool
  /-- `db.BeginTx` in `buildEngine`. -/
  | engineTx
  /-- `os.Create` of the signer state file in `buildErc20BridgeSignerMgr`. -/
  | signerStateFile
  deriving DecidableEq, Repr

/-- What the boot holds: the open handles no closer releases yet, the latest first;
`closers.closers` with the label each is logged under, in the order added; and the file system. -/
structure BootState where
  unregistered : List Handle
  closers : List (Handle × String)
  fs : FileSys

/-- The state `buildServer` starts from: `closers` is empty (line 50). -/
def BootState.init (fs : FileSys) : BootState := ⟨[], [], fs⟩

/-- A step of the boot: it returns, or panics with the state it reached. -/
abbrev Boot := EStateM PanicErr BootState

/-- The settings `verifyDependencies` reads, and what `checkVersion` returns for a binary. -/
structure DependencyChecks where
  /-- `d.cfg.SkipDependencyVerification`. -/
  skipDependencyVerification : Bool
  /-- `d.cfg.PGDumpPath`. -/
  pgDumpPath : String
  /-- `d.cfg.StateSync.PsqlPath`. -/
  psqlPath : String
  /-- `checkVersion(path, major)`: its error, if any. -/
  checkVersion : String → Nat → Option Error

/-- The RPC services the boot registers. -/
inductive RPCService where
  | user
  | function
  | chain
  | admin
  deriving DecidableEq, Repr

/-- The configuration `buildServer` reads, and what each call it makes that is not in the sources
returns on this boot (`Except Error Unit` for a constructor whose result is not read). -/
structure ServerDeps where
  /-- The calls of `restoreDB`, and `d.cfg.StateSync.Enable`. -/
  boot : BootDeps
  dependencyChecks : DependencyChecks
  newBlockStore : Except Error Unit
  newP2PService : Except Error Unit
  /-- `p2pSvc.Start(ctx, d.cfg.P2P.BootNodes...)`. -/
  p2pStart : Except Error Unit
  /-- `os.MkdirAll(snapshotDir, 0755)` in `buildSnapshotStore`. -/
  mkdirSnapshotDir : Except Error Unit
  newSnapshotStore : Except Error Unit
  /-- `d.poolOpener(ctx, d.cfg.DB.DBName, 3)` in `initializeStatesyncService`. -/
  statesyncPoolOpener : Except Error Unit
  newStateSyncService : Except Error Unit
  /-- `d.dbOpener(ctx, d.cfg.DB.DBName, d.cfg.DB.MaxConns)`. -/
  dbOpener : Except Error Unit
  /-- `migrations.CleanupResolutionsAfterMigration(ctx, db)`. -/
  cleanupResolutionsAfterMigration : Except Error Unit
  /-- `db.EnsureFullReplicaIdentityDatasets(ctx)`. -/
  ensureFullReplicaIdentityDatasets : Except Error Unit
  /-- `meta.InitializeMetaStore(ctx, db)`. -/
  initializeMetaStore : Except Error Unit
  /-- `accounts.InitializeAccountStore(ctx, db, logger)`. -/
  initializeAccountStore : Except Error Unit
  /-- `d.poolOpener(ctx, d.cfg.DB.DBName, d.cfg.DB.MaxConns)` in `buildVoteStore`. -/
  votePoolOpener : Except Error Unit
  /-- `voting.NewResolutionStore(ctx, poolDB)`. -/
  newResolutionStore : Except Error Unit
  /-- `db.BeginTx(ctx)` in `buildEngine`. -/
  beginTx : Except Error Unit
  newInterpreter : Except Error Unit
  /-- `tx.Commit(ctx)` in `buildEngine`. -/
  commit : Except Error Unit
  /-- `d.cfg.Mempool.MaxSize`. -/
  mempoolMaxSize : Int
  /-- `d.cfg.Mempool.MaxTxBytes`. -/
  mempoolMaxTxBytes : Int
  /-- `d.genesisCfg.MaxBlockSize`. -/
  maxBlockSize : Int
  newTxApp : Except Error Unit
  /-- `os.MkdirAll(migrations.ChangesetsDir(migrationsDir), 0755)`. -/
  mkdirChangesets : Except Error Unit
  /-- `os.MkdirAll(snapshotDir, 0755)` in `buildMigrator`. -/
  mkdirMigrationSnapshots : Except Error Unit
  /-- `snapshotter.NewSnapshotStore` in `buildMigrator`. -/
  newMigrationSnapshotStore : Except Error Unit
  setupMigrator : Except Error Unit
  newBlockProcessor : Except Error Unit
  /-- `consensus.New(ceCfg)`. -/
  newConsensus : Except Error Unit
  newNode : Except Error Unit
  /-- `rpcserver.NewServer(d.cfg.RPC.ListenAddress, ...)`. -/
  newRPCServer : Except Error Unit
  /-- `d.cfg.RPC.ServiceDisabled` of the service's namespace. -/
  serviceDisabled : RPCService → Bool
  /-- `d.cfg.Admin.Enable`. -/
  adminEnable : Bool
  admin : AdminConfig
  /-- The calls of the admin setup; its `fileFaults` are the file system's. -/
  adminDeps : AdminDeps
  /-- `signersvc.StateFilePath(d.rootDir)`. -/
  signerStateFile : String
  /-- `signersvc.LoadStateFromFile(stateFile)`. -/
  loadStateFromFile : FileSys → String → Except Error Unit

/-- What `buildServer` returns, as far as the modelled code builds it. -/
structure Server where
  /-- The services `jsonRPCServer` registers, in order. -/
  jsonRPCServer : List RPCService
  /-- `jsonRPCAdminServer`, nil unless `Admin.Enable`, with the services it registers. -/
  jsonRPCAdminServer : Option (AdminServer × List RPCService)
  /-- `mempool.New(d.cfg.Mempool.MaxSize, txSz)`. -/
  mempool : Int × Int

/-- The state a boot step leaves, whether it returned or panicked. -/
def resultState {α : Type} : EStateM.Result PanicErr BootState α → BootState
  | .ok _ s => s
  | .error _ s => s

section Steps

/- `errorText e` is `e.Error()`, as in `failBuild`. -/
variable (errorText : Error → String)

namespace Boot

/-- `r` as a boot step: its panic, or its value. -/
def liftPanic {α : Type} (r : Except PanicErr α) : Boot α := fun s =>
  match r with
  | .error p => .error p s
  | .ok a => .ok a s

/-- `if err != nil { failBuild(err, msg) }` after a call that returned `r`. -/
def check {α : Type} (r : Except Error α) (msg : String) : Boot α :=
  liftPanic (match r with
    | .error e => .error (failBuild errorText (some e) msg)
    | .ok a => .ok a)

/-- A call has opened `h`. -/
def openHandle (h : Handle) : Boot Unit := fun s =>
  .ok () { s with unregistered := h :: s.unregistered }

/-- `x.Close()` on the handle `h`. -/
def closeHandle (h : Handle) : Boot Unit := fun s =>
  .ok () { s with unregistered := s.unregistered.erase h }

/-- `closers.addCloser(x.Close, label)`: `h` passes to the closers. -/
def addCloser (h : Handle) (label : String) : Boot Unit := fun s =>
  .ok () { s with unregistered := s.unregistered.erase h, closers := s.closers ++ [(h, label)] }

/-- `body`, then `x.Close()` on `h` whether `body` returned or panicked: `defer x.Close()`. -/
def deferClose {α : Type} (h : Handle) (body : Boot α) : Boot α := fun s =>
  match body s with
  | .ok a s => .ok a { s with unregistered := s.unregistered.erase h }
  | .error p s => .error p { s with unregistered := s.unregistered.erase h }

def getFs : Boot FileSys := fun s => .ok s.fs s

def setFs (fs : FileSys) : Boot Unit := fun s => .ok () { s with fs := fs }

/-- `x, err := open(...); if err != nil { failBuild(err, msg) }; closers.addCloser(x.Close, label)`:
a handle that lives as long as the node. -/
def openRegistered (r : Except Error Unit) (msg : String) (h : Handle) (label : String) :
    Boot Unit := do
  check errorText r msg
  openHandle h
  addCloser h label

/-- `x, err := open(...); if err != nil { failBuild(err, msg) }`, then `body` and the release of
`x` at its end, by `defer x.Close()` or a `x.Close()` that follows `body`. -/
def openReleased {α β : Type} (r : Except Error α) (msg : String) (h : Handle)
    (body : α → Boot β) : Boot β := do
  let x ← check errorText r msg
  openHandle h
  deferClose h (body x)

theorem bind_apply_ok {α β : Type} {m : Boot α} {f : α → Boot β} {s s' : BootState} {a : α}
    (h : m s = .ok a s') : (m >>= f) s = f a s' := by
  show EStateM.bind m f s = _
  simp only [EStateM.bind, h]

theorem bind_apply_error {α β : Type} {m : Boot α} {f : α → Boot β} {s s' : BootState}
    {p : PanicErr} (h : m s = .error p s') : (m >>= f) s = .error p s' := by
  show EStateM.bind m f s = _
  simp only [EStateM.bind, h]

end Boot

open Boot

/-- `verifyDependencies`: `pg_dump` at major version 16 always, and `psql` at 16 when state sync is
enabled, unless verification is skipped. -/
def verifyDependencies (c : DependencyChecks) (stateSyncEnable : Bool) : Except PanicErr Unit :=
  if c.skipDependencyVerification then .ok ()
  else
    match c.checkVersion c.pgDumpPath 16 with
    | some e =>
      .error (failBuild errorText (some e)
        "pg_dump version check failure. Please ensure that 16.x version is installed")
    | none =>
      if stateSyncEnable then
        match c.checkVersion c.psqlPath 16 with
        | some e =>
          .error (failBuild errorText (some e)
            "psql version check failure. Please ensure that 16.x version is installed")
        | none => .ok ()
      else .ok ()

def buildBlockStore (d : ServerDeps) : Boot Unit :=
  openRegistered errorText d.newBlockStore "failed to open blockstore" .blockStore
    "Closing blockstore"

/-- `initializeP2PService`: a service that fails to start is closed before the panic. -/
def initializeP2PService (d : ServerDeps) : Boot Unit := do
  check errorText d.newP2PService "failed to create p2p service"
  openHandle .p2pService
  match d.p2pStart with
  | .error e =>
    closeHandle .p2pService
    check errorText (.error e) "failed to start p2p service"
  | .ok () => addCloser .p2pService "Closing P2P service"

def buildSnapshotStore (d : ServerDeps) : Boot Unit := do
  check errorText d.mkdirSnapshotDir "failed to create snapshot directory"
  check errorText d.newSnapshotStore "failed to create snapshot store"

/-- `initializeStatesyncService`: nothing without state sync. -/
def initializeStatesyncService (d : ServerDeps) : Boot Unit :=
  if d.boot.stateSyncEnable then do
    openRegistered errorText d.statesyncPoolOpener
      "failed to open kwild postgres database for eventstore" .statesyncPool
      "Closing Eventstore DB"
    check errorText d.newStateSyncService "failed to create statesync service"
  else pure ()

/-- `buildDB`: the application database, opened after `restoreDB`; after a restore from the genesis
snapshot, the pending resolutions are cleaned up and full replica identity is enabled. -/
def buildDB (d : ServerDeps) : Boot Unit := do
  let fromGenesisSnapshot ← liftPanic (restoreDB errorText d.boot)
  openRegistered errorText d.dbOpener "failed to open kwild postgres database" .applicationDB
    "Closing application DB"
  if fromGenesisSnapshot then
    check errorText d.cleanupResolutionsAfterMigration
      "failed to cleanup resolutions after snapshot restore"
    check errorText d.ensureFullReplicaIdentityDatasets
      "failed enable full replica identity on user datasets"

def buildMetaStore (d : ServerDeps) : Boot Unit :=
  check errorText d.initializeMetaStore "failed to initialize meta store"

def buildAccountStore (d : ServerDeps) : Boot Unit :=
  check errorText d.initializeAccountStore "failed to initialize account store"

def buildVoteStore (d : ServerDeps) : Boot Unit := do
  openRegistered errorText d.votePoolOpener "failed to open kwild postgres database for eventstore"
    .eventstorePool "Closing Eventstore DB"
  check errorText d.newResolutionStore "failed to create vote store"

/-- `buildEngine`: the interpreter is set up in a transaction that `defer tx.Rollback` ends. -/
def buildEngine (d : ServerDeps) : Boot Unit :=
  openReleased errorText d.beginTx "failed to start transaction" .engineTx fun () => do
    check errorText d.newInterpreter "failed to initialize engine"
    check errorText d.commit "failed to commit engine init db txn"

def buildTxApp (d : ServerDeps) : Boot Unit :=
  check errorText d.newTxApp "failed to create txapp"

def buildMigrator (d : ServerDeps) : Boot Unit := do
  check errorText d.mkdirChangesets "failed to create changesets directory"
  check errorText d.mkdirMigrationSnapshots "failed to create migrations snapshots directory"
  check errorText d.newMigrationSnapshotStore "failed to create migration's snapshot store"
  check errorText d.setupMigrator "failed to create migrator"

def buildBlockProcessor (d : ServerDeps) : Boot Unit :=
  check errorText d.newBlockProcessor "failed to create block processor"

def buildConsensusEngine (d : ServerDeps) : Boot Unit :=
  check errorText d.newConsensus "failed to create consensus engine"

def buildNode (d : ServerDeps) : Boot Unit :=
  check errorText d.newNode "failed to create node"

/-- `buildErc20BridgeSignerMgr`: the state file is created empty, and closed at once, when it does
not exist; then the signer's state is loaded from it. -/
def buildErc20BridgeSignerMgr (d : ServerDeps) : Boot Unit := do
  let stateFile := d.signerStateFile
  let fs ← getFs
  if !fileExists fs stateFile then
    openReleased errorText (writeFile d.adminDeps.fileFaults fs stateFile [])
      "Failed to create erc20 bridge signer state file" .signerStateFile setFs
  let fs ← getFs
  check errorText (d.loadStateFromFile fs stateFile) "Failed to load erc20 bridge signer state file"

/-- Lines 143-153 of `buildServer`: with `Admin.Enable`, the admin server and its services. -/
def buildAdmin (d : ServerDeps) : Boot (Option (AdminServer × List RPCService)) :=
  if d.adminEnable then do
    let fs ← getFs
    let (server, fs) ← liftPanic (buildJRPCAdminServer d.adminDeps errorText d.admin fs)
    setFs fs
    pure (some (server, [.admin, .user, .function, .chain]))
  else pure none

/-- `buildServer`. -/
def buildServer (d : ServerDeps) : Boot Server := do
  liftPanic (verifyDependencies errorText d.dependencyChecks d.boot.stateSyncEnable)
  buildBlockStore errorText d
  initializeP2PService errorText d
  buildSnapshotStore errorText d
  initializeStatesyncService errorText d
  buildDB errorText d
  buildMetaStore errorText d
  buildAccountStore errorText d
  buildVoteStore errorText d
  buildEngine errorText d
  let txSz := min d.mempoolMaxTxBytes d.maxBlockSize
  buildTxApp errorText d
  buildMigrator errorText d
  buildBlockProcessor errorText d
  buildConsensusEngine errorText d
  buildNode errorText d
  check errorText d.newRPCServer "unable to create json-rpc server"
  let admin ← buildAdmin errorText d
  buildErc20BridgeSignerMgr errorText d
  pure ⟨[RPCService.user, .function, .chain].filter (!d.serviceDisabled ·), admin,
    (d.mempoolMaxSize, txSz)⟩

/-- The closers a boot registers, in order: the block store, the P2P service, the pool of state
sync when it is enabled, the application database and the pool of the event store. The pool of
state sync is logged under the event store's label. -/
def serverClosers (stateSyncEnable : Bool) : List (Handle × String) :=
  (.blockStore, "Closing blockstore") :: (.p2pService, "Closing P2P service") ::
    ((if stateSyncEnable then [(.statesyncPool, "Closing Eventstore DB")] else []) ++
      [(.applicationDB, "Closing application DB"), (.eventstorePool, "Closing Eventstore DB")])

/-- `m` leaves every handle it opens released or registered, on every exit, and registers the
closers `L` in order: all of them when it returns, the first few when it panics. -/
structure Registers {α : Type} (L : List (Handle × String)) (m : Boot α) : Prop where
  ok : ∀ s a s', m s = .ok a s' → s'.unregistered = s.unregistered ∧ s'.closers = s.closers ++ L
  error : ∀ s p s', m s = .error p s' →
    s'.unregistered = s.unregistered ∧ ∃ L', L' <+: L ∧ s'.closers = s.closers ++ L'

namespace Registers

variable {α β : Type} {L L₁ L₂ : List (Handle × String)}

theorem bind {m : Boot α} {f : α → Boot β} (hm : Registers L₁ m) (hf : ∀ a, Registers L₂ (f a)) :
    Registers (L₁ ++ L₂) (m >>= f) := by
  constructor
  · intro s b s' h
    cases h₁ : m s with
    | ok a s₁ =>
      obtain ⟨u₁, c₁⟩ := hm.ok s a s₁ h₁
      obtain ⟨u₂, c₂⟩ := (hf a).ok s₁ b s' (by rwa [Boot.bind_apply_ok h₁] at h)
      exact ⟨u₂.trans u₁, by rw [c₂, c₁, List.append_assoc]⟩
    | error p s₁ => rw [Boot.bind_apply_error h₁] at h; cases h
  · intro s p s' h
    cases h₁ : m s with
    | ok a s₁ =>
      obtain ⟨u₁, c₁⟩ := hm.ok s a s₁ h₁
      obtain ⟨u₂, L', hL', c₂⟩ := (hf a).error s₁ p s' (by rwa [Boot.bind_apply_ok h₁] at h)
      exact ⟨u₂.trans u₁, L₁ ++ L', (List.prefix_append_right_inj L₁).mpr hL',
        by rw [c₂, c₁, List.append_assoc]⟩
    | error q s₁ =>
      rw [Boot.bind_apply_error h₁] at h
      cases h
      obtain ⟨u₁, L', hL', c₁⟩ := hm.error s p s' h₁
      exact ⟨u₁, L', hL'.trans (List.prefix_append L₁ L₂), c₁⟩

theorem bind_nil {m : Boot α} {f : α → Boot β} (hm : Registers [] m)
    (hf : ∀ a, Registers L (f a)) : Registers L (m >>= f) :=
  bind hm hf

theorem bind_cons {c : Handle × String} {m : Boot α} {f : α → Boot β} (hm : Registers [c] m)
    (hf : ∀ a, Registers L (f a)) : Registers (c :: L) (m >>= f) :=
  bind hm hf

/-- A step that touches neither the handles nor the closers. -/
theorem of_frame {m : Boot α}
    (hframe : ∀ s, (resultState (m s)).unregistered = s.unregistered ∧
      (resultState (m s)).closers = s.closers) : Registers [] m := by
  constructor
  · intro s a s' h
    simpa [h, resultState] using hframe s
  · intro s p s' h
    simpa [h, resultState] using hframe s

theorem pure (a : α) : Registers [] (Pure.pure a : Boot α) :=
  of_frame fun _ => ⟨rfl, rfl⟩

theorem liftPanic (r : Except PanicErr α) : Registers [] (Boot.liftPanic r) :=
  of_frame fun _ => by cases r <;> exact ⟨rfl, rfl⟩

theorem check (r : Except Error α) (msg : String) : Registers [] (Boot.check errorText r msg) :=
  liftPanic _

theorem getFs : Registers [] Boot.getFs := of_frame fun _ => ⟨rfl, rfl⟩

theorem setFs (fs : FileSys) : Registers [] (Boot.setFs fs) := of_frame fun _ => ⟨rfl, rfl⟩

theorem ite {c : Prop} [Decidable c] {m m' : Boot α} (hm : Registers L m) (hm' : Registers L m') :
    Registers L (if c then m else m') := by
  split <;> assumption

/-- A handle registered as soon as it is opened. -/
theorem open_addCloser (h : Handle) (label : String) :
    Registers [(h, label)] (Boot.openHandle h >>= fun _ => Boot.addCloser h label) := by
  constructor <;> intro s _ s' hs <;>
    change Boot.addCloser h label { s with unregistered := h :: s.unregistered } = _ at hs <;>
    cases hs
  exact ⟨List.erase_cons_head _ _, rfl⟩

/-- A handle released when `body` ends, whether it returns or panics. -/
theorem open_deferClose {h : Handle} {body : Boot α} (hbody : Registers [] body) :
    Registers [] (Boot.openHandle h >>= fun _ => Boot.deferClose h body) := by
  constructor <;> intro s _ s' hs <;>
    change Boot.deferClose h body { s with unregistered := h :: s.unregistered } = _ at hs <;>
    unfold Boot.deferClose at hs <;>
    cases h₁ : body { s with unregistered := h :: s.unregistered } <;> rw [h₁] at hs <;> cases hs
  · obtain ⟨u, c⟩ := hbody.ok _ _ _ h₁
    exact ⟨by simp [u], by simpa using c⟩
  · obtain ⟨u, L', hL', c⟩ := hbody.error _ _ _ h₁
    exact ⟨by simp [u], L', hL', by simpa using c⟩

theorem openRegistered (r : Except Error Unit) (msg : String) (h : Handle) (label : String) :
    Registers [(h, label)] (Boot.openRegistered errorText r msg h label) :=
  bind_nil (check errorText r msg) fun _ => open_addCloser h label

theorem openReleased {γ : Type} (r : Except Error γ) (msg : String) (h : Handle)
    {body : γ → Boot α} (hbody : ∀ x, Registers [] (body x)) :
    Registers [] (Boot.openReleased errorText r msg h body) :=
  bind_nil (check errorText r msg) fun x => open_deferClose (hbody x)

end Registers

theorem registers_buildBlockStore (d : ServerDeps) :
    Registers [(.blockStore, "Closing blockstore")] (buildBlockStore errorText d) :=
  Registers.openRegistered errorText _ _ _ _

/-- A P2P service that fails to start is closed before the panic, and is otherwise registered. -/
theorem registers_initializeP2PService (d : ServerDeps) :
    Registers [(.p2pService, "Closing P2P service")] (initializeP2PService errorText d) := by
  unfold initializeP2PService
  refine Registers.bind_nil (Registers.check errorText _ _) fun _ => ?_
  cases d.p2pStart with
  | ok u => exact Registers.open_addCloser _ _
  | error e =>
    constructor <;> intro s _ s' hs <;> cases hs
    exact ⟨by simp, [], List.nil_prefix, (List.append_nil _).symm⟩

theorem registers_buildSnapshotStore (d : ServerDeps) :
    Registers [] (buildSnapshotStore errorText d) :=
  Registers.bind_nil (Registers.check errorText _ _) fun _ => Registers.check errorText _ _

theorem registers_initializeStatesyncService (d : ServerDeps) :
    Registers (if d.boot.stateSyncEnable then [(.statesyncPool, "Closing Eventstore DB")] else [])
      (initializeStatesyncService errorText d) := by
  unfold initializeStatesyncService
  cases d.boot.stateSyncEnable
  · exact Registers.pure ()
  · exact Registers.bind (Registers.openRegistered errorText _ _ _ _)
      fun _ => Registers.check errorText _ _

theorem registers_buildDB (d : ServerDeps) :
    Registers [(.applicationDB, "Closing application DB")] (buildDB errorText d) :=
  Registers.bind_nil (Registers.liftPanic _) fun _ =>
    Registers.bind (Registers.openRegistered errorText _ _ _ _) fun _ =>
      Registers.ite (Registers.bind_nil (Registers.check errorText _ _)
        fun _ => Registers.check errorText _ _) (Registers.pure ())

theorem registers_buildVoteStore (d : ServerDeps) :
    Registers [(.eventstorePool, "Closing Eventstore DB")] (buildVoteStore errorText d) :=
  Registers.bind (Registers.openRegistered errorText _ _ _ _) fun _ => Registers.check errorText _ _

theorem registers_buildEngine (d : ServerDeps) : Registers [] (buildEngine errorText d) :=
  Registers.openReleased errorText _ _ _ fun _ =>
    Registers.bind_nil (Registers.check errorText _ _) fun _ => Registers.check errorText _ _

theorem registers_buildMigrator (d : ServerDeps) : Registers [] (buildMigrator errorText d) :=
  Registers.bind_nil (Registers.check errorText _ _) fun _ =>
    Registers.bind_nil (Registers.check errorText _ _) fun _ =>
      Registers.bind_nil (Registers.check errorText _ _) fun _ => Registers.check errorText _ _

theorem registers_buildErc20BridgeSignerMgr (d : ServerDeps) :
    Registers [] (buildErc20BridgeSignerMgr errorText d) := by
  have hload : ∀ _ : Unit, Registers [] (do
      let fs ← getFs
      check errorText (d.loadStateFromFile fs d.signerStateFile)
        "Failed to load erc20 bridge signer state file") :=
    fun _ => Registers.bind_nil Registers.getFs fun _ => Registers.check errorText _ _
  refine Registers.bind_nil Registers.getFs fun _ => ?_
  exact Registers.ite
    (Registers.bind_nil (Registers.openReleased errorText _ _ _ Registers.setFs) hload)
    (Registers.bind_nil (Registers.pure _) hload)

theorem registers_buildAdmin (d : ServerDeps) : Registers [] (buildAdmin errorText d) :=
  Registers.ite
    (Registers.bind_nil Registers.getFs fun _ =>
      Registers.bind_nil (Registers.liftPanic _) fun _ =>
        Registers.bind_nil (Registers.setFs _) fun _ => Registers.pure _)
    (Registers.pure _)

/-- Over every outcome of every call, `buildServer` leaves no handle open that is not registered,
and registers the closers of `serverClosers`, in order: all of them when it returns. -/
theorem registers_buildServer (d : ServerDeps) :
    Registers (serverClosers d.boot.stateSyncEnable) (buildServer errorText d) := by
  unfold buildServer serverClosers
  refine Registers.bind_nil (Registers.liftPanic _) fun _ => ?_
  refine Registers.bind_cons (registers_buildBlockStore errorText d) fun _ => ?_
  refine Registers.bind_cons (registers_initializeP2PService errorText d) fun _ => ?_
  refine Registers.bind_nil (registers_buildSnapshotStore errorText d) fun _ => ?_
  refine Registers.bind (registers_initializeStatesyncService errorText d) fun _ => ?_
  refine Registers.bind_cons (registers_buildDB errorText d) fun _ => ?_
  refine Registers.bind_nil (Registers.check errorText _ _) fun _ => ?_
  refine Registers.bind_nil (Registers.check errorText _ _) fun _ => ?_
  refine Registers.bind_cons (registers_buildVoteStore errorText d) fun _ => ?_
  refine Registers.bind_nil (registers_buildEngine errorText d) fun _ => ?_
  refine Registers.bind_nil (Registers.check errorText _ _) fun _ => ?_
  refine Registers.bind_nil (registers_buildMigrator errorText d) fun _ => ?_
  refine Registers.bind_nil (Registers.check errorText _ _) fun _ => ?_
  refine Registers.bind_nil (Registers.check errorText _ _) fun _ => ?_
  refine Registers.bind_nil (Registers.check errorText _ _) fun _ => ?_
  refine Registers.bind_nil (Registers.check errorText _ _) fun _ => ?_
  refine Registers.bind_nil (registers_buildAdmin errorText d) fun _ => ?_
  exact Registers.bind_nil (registers_buildErc20BridgeSignerMgr errorText d)
    fun _ => Registers.pure _

/-- Over every outcome of every call the boot makes, when `buildServer` returns or panics, every
handle it opened and still holds is registered with `closers`, which the recovering caller closes:
all the closers of `serverClosers`, in order, when it returns, and the first few when it panics. -/
theorem buildServer_closers (d : ServerDeps) (fs : FileSys) :
    (∀ server s, buildServer errorText d (.init fs) = .ok server s →
      s.unregistered = [] ∧ s.closers = serverClosers d.boot.stateSyncEnable) ∧
    ∀ p s, buildServer errorText d (.init fs) = .error p s →
      s.unregistered = [] ∧ s.closers <+: serverClosers d.boot.stateSyncEnable := by
  have h := registers_buildServer errorText d
  refine ⟨fun server s hs => h.ok _ _ _ hs, fun p s hs => ?_⟩
  obtain ⟨hu, L, hL, hc⟩ := h.error _ _ _ hs
  exact ⟨hu, hc ▸ hL⟩

/- With state sync enabled, two of the closers are logged as closing the event store's pool. -/
example : ((serverClosers true).filter (·.2 == "Closing Eventstore DB")).map Prod.fst =
    [.statesyncPool, .eventstorePool] := by decide

end Steps

end KwilDb
