import KwilDb.Txapp.Mempool
import KwilDb.Migrations.Schedule

/-! # The mempool's migration firewall

§4.F of the spec lists the transaction kinds the mempool blocks in each migration phase, and
§8 asks that no blocked transaction ever enter the mempool. `applyTransaction` enforces the list
(`mempool.go:65-153`) except in one cell: it tests a `StartMigration` proposal or approval against
`status.Active()` and `GenesisMigration`, so in `MigrationCompleted` such a transaction goes on to
the account checks and can be accepted. `FirewallBlocks` is §4.F's table and `CodeFirewallBlocks`
the table the code enforces. The resolver and the mempool meet at the status: the resolve that
records a migration sets `ActivationPeriod` (`Schedule`), under which no further proposal or
approval of a migration enters the mempool. -/

namespace KwilDb

section Firewall

variable (env : Env)

/-- A `StartMigration` proposal or approval: a `CreateResolution` whose payload decodes to a
`StartMigration` resolution, or an `ApproveResolution` whose target resolution is one. -/
def MigrationResolution (tx : Transaction) : Prop :=
  (tx.body.payloadType = .createResolution ∧
      env.createResolutionType tx.body.payload = .ok startMigrationEventType) ∨
    (tx.body.payloadType = .approveResolution ∧ ∃ id,
      env.approveResolutionID tx.body.payload = .ok id ∧
        env.resolutionType id = .ok startMigrationEventType)

/-- The kinds §4.F blocks while the chain is in migration. -/
def migrationBlockedKinds : List PayloadType :=
  [.validatorJoin, .validatorLeave, .validatorApprove, .validatorRemove, .validatorVoteIDs,
    .validatorVoteBodies, .rawStatement, .transfer]

/-- The firewall of §4.F: validator, vote, raw-statement and transfer transactions while in
migration, vote bodies always, and migration proposals and approvals once a migration is active,
in migration, or in genesis migration. -/
def FirewallBlocks (status : MigrationStatus) (tx : Transaction) : Prop :=
  (tx.body.payloadType ∈ migrationBlockedKinds ∧
      status ∈ [.migrationInProgress, .migrationCompleted]) ∨
    tx.body.payloadType = .validatorVoteBodies ∨
    (MigrationResolution env tx ∧
      status ∈ [.activationPeriod, .migrationInProgress, .migrationCompleted, .genesisMigration])

/-- The firewall `applyTransaction` enforces: §4.F's, with migration proposals and approvals
blocked only while the migration is active or in genesis migration. -/
def CodeFirewallBlocks (status : MigrationStatus) (tx : Transaction) : Prop :=
  (tx.body.payloadType ∈ migrationBlockedKinds ∧
      status ∈ [.migrationInProgress, .migrationCompleted]) ∨
    tx.body.payloadType = .validatorVoteBodies ∨
    (MigrationResolution env tx ∧
      status ∈ [.activationPeriod, .migrationInProgress, .genesisMigration])

theorem migrationChecks_blocks_kinds {status : MigrationStatus} {tx : Transaction}
    (hkind : tx.body.payloadType ∈ migrationBlockedKinds)
    (hstatus : status ∈ [.migrationInProgress, .migrationCompleted]) :
    ∃ e, migrationChecks env status tx = .error e := by
  simp only [migrationBlockedKinds, List.mem_cons, List.mem_singleton, List.not_mem_nil,
    or_false] at hkind hstatus
  rcases hstatus with rfl | rfl <;>
    rcases hkind with h | h | h | h | h | h | h | h <;>
    simp only [migrationChecks, beq_self_eq_true, Bool.true_or, Bool.or_true, ↓reduceIte, h,
      throw_eq_error, reduceCtorEq, bind_pure_comp, map_pure, Except.map_error, Except.error.injEq,
      exists_eq']

theorem migrationChecks_blocks_resolutions {status : MigrationStatus} {tx : Transaction}
    (hresolution : MigrationResolution env tx)
    (hstatus : status ∈ [.activationPeriod, .migrationInProgress, .genesisMigration]) :
    ∃ e, migrationChecks env status tx = .error e := by
  simp only [List.mem_cons, List.mem_singleton, List.not_mem_nil, or_false] at hstatus
  rcases hresolution with ⟨hkind, hdecode⟩ | ⟨hkind, id, hdecode, hlookup⟩ <;>
    rcases hstatus with rfl | rfl | rfl <;>
    simp only [migrationChecks, MigrationStatus.active, Bool.or_eq_true, beq_iff_eq,
      beq_self_eq_true, Bool.true_or, Bool.or_true, Bool.true_and, decide_eq_true_eq, reduceCtorEq,
      or_self, ↓reduceIte, throw_eq_error, bind_pure_comp, Except.map_error, map_pure, bind_ok,
      pure_bind, Except.error.injEq, exists_eq', *]

theorem voteChecks_blocks_voteBodies (params : NetworkParameters) {tx : Transaction}
    (hkind : tx.body.payloadType = .validatorVoteBodies) :
    ∃ e, voteChecks env params tx = .error e := by
  simp [voteChecks, hkind]

variable (idn : Identity) (store : AccountStore)

/-- A transaction `applyTransaction` accepts has passed the migration and vote checks. -/
theorem applyTransaction_checks {ctx : TxContext} {tx : Transaction} {m : Mempool}
    (hok : (applyTransaction env idn store ctx tx m).result = .ok ()) :
    migrationChecks env ctx.blockContext.chainContext.networkParameters.migrationStatus tx =
        .ok () ∧
      voteChecks env ctx.blockContext.chainContext.networkParameters tx = .ok () := by
  simp only [applyTransaction] at hok
  split at hok
  · cases hok
  · rename_i hchecks
    obtain ⟨⟨⟩, hmig, hvote⟩ := bind_eq_ok.mp hchecks
    exact ⟨hmig, hvote⟩

/-- No transaction of a kind the code's firewall blocks for the current status is accepted, for
every payload, every collaborator and every mempool state. -/
theorem applyTransaction_code_firewall (ctx : TxContext) (tx : Transaction) (m : Mempool)
    (hok : (applyTransaction env idn store ctx tx m).result = .ok ()) :
    ¬CodeFirewallBlocks env ctx.blockContext.chainContext.networkParameters.migrationStatus
      tx := by
  obtain ⟨hmig, hvote⟩ := applyTransaction_checks env idn store hok
  rintro (⟨hkind, hstatus⟩ | hkind | ⟨hresolution, hstatus⟩)
  · obtain ⟨e, he⟩ := migrationChecks_blocks_kinds env hkind hstatus
    simp [hmig] at he
  · obtain ⟨e, he⟩ :=
      voteChecks_blocks_voteBodies env ctx.blockContext.chainContext.networkParameters hkind
    simp [hvote] at he
  · obtain ⟨e, he⟩ := migrationChecks_blocks_resolutions env hresolution hstatus
    simp [hmig] at he

/-- Over any sequence of resolves from a chain with no migration record, once a migration is
recorded the chain's network parameters are in `ActivationPeriod`, and in every block built on
them the mempool accepts no `StartMigration` proposal or approval, whatever its sender's account
state: the resolve that schedules a migration closes the mempool to competing ones. -/
theorem resolveRun_closes_mempool {chain : MigrationChain} (calls : List ResolveCall)
    (hfresh : chain.db.activeMigration = none)
    (hrecord : (resolveRun chain calls).db.activeMigration.isSome) (height : BitVec 64)
    (migrationParams : Option MigrationParams) (tx : Transaction) (m : Mempool)
    (hresolution : MigrationResolution env tx) :
    (resolveRun chain calls).networkParameters.migrationStatus = .activationPeriod ∧
      (applyTransaction env idn store
          ⟨⟨height, ⟨migrationParams, (resolveRun chain calls).networkParameters⟩⟩⟩ tx
          m).result ≠ .ok () := by
  have hstatus := resolveRun_status_of_record calls hfresh hrecord
  refine ⟨hstatus, fun hok => ?_⟩
  obtain ⟨hmig, -⟩ := applyTransaction_checks env idn store hok
  have hactive : (resolveRun chain calls).networkParameters.migrationStatus ∈
      [.activationPeriod, .migrationInProgress, .genesisMigration] := by
    simp [hstatus]
  obtain ⟨e, he⟩ := migrationChecks_blocks_resolutions env hresolution hactive
  exact nomatch hmig.symm.trans he

/-- §4.F's firewall is the code's, and migration proposals and approvals in
`MigrationCompleted`. -/
theorem firewallBlocks_iff (status : MigrationStatus) (tx : Transaction) :
    FirewallBlocks env status tx ↔
      CodeFirewallBlocks env status tx ∨
        (status = .migrationCompleted ∧ MigrationResolution env tx) := by
  cases status <;> simp [FirewallBlocks, CodeFirewallBlocks, or_assoc]

end Firewall

/-- A proposal of a new migration: a `CreateResolution` whose payload the decoder reads as a
`StartMigration` resolution, with the first nonce of its sender. -/
def migrationProposalTx : Transaction :=
  ⟨⟨.createResolution, [], 0, 1⟩, "secp256k1", [1]⟩

/-- Collaborators that decode every `CreateResolution` payload as a `StartMigration` proposal. -/
def proposalEnv : Env :=
  { Env.refusing with createResolutionType := fun _ => .ok startMigrationEventType }

/-- A block of a chain whose migration has completed. -/
def completedMigrationContext : TxContext :=
  ⟨⟨1000, ⟨none, ⟨.migrationCompleted, 0, false⟩⟩⟩⟩

/-- In `MigrationCompleted`, a migration proposal from a funded account with the right nonce is
accepted, although §4.F blocks it. -/
theorem applyTransaction_accepts_proposal_after_migration :
    (applyTransaction proposalEnv .framed (fun _ => .ok ⟨0, 100⟩) completedMigrationContext
        migrationProposalTx .empty).result = .ok () ∧
      FirewallBlocks proposalEnv .migrationCompleted migrationProposalTx :=
  ⟨rfl, (firewallBlocks_iff _ _ _).2 (.inr ⟨rfl, .inl ⟨rfl, rfl⟩⟩)⟩

/-- The code's firewall, at the proposal accepted in `MigrationCompleted`. -/
theorem applyTransaction_code_firewall_completed :
    (applyTransaction proposalEnv .framed (fun _ => .ok ⟨0, 100⟩) completedMigrationContext
        migrationProposalTx .empty).result = .ok () ∧
      ¬CodeFirewallBlocks proposalEnv
        completedMigrationContext.blockContext.chainContext.networkParameters.migrationStatus
        migrationProposalTx :=
  ⟨rfl, applyTransaction_code_firewall proposalEnv .framed (fun _ => .ok ⟨0, 100⟩)
    completedMigrationContext migrationProposalTx .empty rfl⟩

/-- A chain with no migration recorded and no proposal pending. -/
def idleChain : MigrationChain := ⟨⟨none, []⟩, ⟨.noActiveMigration, 0, false⟩⟩

/-- The resolve of the integration test's proposal at height 100. -/
def testProposalCall : ResolveCall := ⟨.none, proposal .testProposal, 100, none⟩

/-- Once the test proposal is resolved, the proposal `migrationProposalTx`, which the same account
store lets in after a completed migration, does not enter the mempool. -/
theorem resolveRun_closes_mempool_testProposal :
    (resolveRun idleChain [testProposalCall]).networkParameters.migrationStatus =
        .activationPeriod ∧
      (applyTransaction proposalEnv .framed (fun _ => .ok ⟨0, 100⟩)
          ⟨⟨101, ⟨none, (resolveRun idleChain [testProposalCall]).networkParameters⟩⟩⟩
          migrationProposalTx .empty).result ≠ .ok () :=
  @resolveRun_closes_mempool proposalEnv .framed (fun _ => .ok ⟨0, 100⟩) idleChain
    [testProposalCall] rfl rfl 101 none migrationProposalTx .empty (.inl ⟨rfl, rfl⟩)

end KwilDb
