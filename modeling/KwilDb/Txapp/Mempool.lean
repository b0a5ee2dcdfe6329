import KwilDb.Core.Serial

/-! # The mempool's account view

`mempool.accountInfo`, `mempool.applyTransaction` and `mempool.reset` (`node/txapp/mempool.go`).
The mempool keeps, per account with unconfirmed transactions, the nonce and balance those
transactions leave, keyed by the account's marshalled `AccountID`; `applyTransaction` checks a
transaction against the migration status and that state and, when it accepts it, advances the
nonce and lowers the balance. The collaborators the function calls are outside the sources and
are parameters: the payload decoders and authenticators (`Env`), the derivation and encoding of
account identifiers (`Identity`) and the account store (`AccountStore`). -/

namespace KwilDb

/-- `types.PayloadType`: the kinds `applyTransaction` tells apart, and `other` for each kind it
treats alike (`execute` and the rest). -/
inductive PayloadType where
  | validatorJoin
  | validatorLeave
  | validatorApprove
  | validatorRemove
  | validatorVoteIDs
  | validatorVoteBodies
  | rawStatement
  | transfer
  | createResolution
  | approveResolution
  | other (name : String)
  deriving DecidableEq, Repr

/-- `types.TxBody`, with the fields `applyTransaction` reads: a `*big.Int` fee and a `uint64`
nonce. -/
structure TxBody where
  payloadType : PayloadType
  payload : Bytes
  fee : Int
  nonce : BitVec 64
  deriving DecidableEq, Repr

/-- `types.Transaction`: its body, its signature's authenticator type and its sender. -/
structure Transaction where
  body : TxBody
  signatureType : String
  sender : Bytes
  deriving DecidableEq, Repr

/-- `types.Account`: an `int64` nonce and a `*big.Int` balance. -/
structure Account where
  nonce : BitVec 64
  balance : Int
  deriving DecidableEq, Repr

/-- `types.AccountID`. -/
structure AccountID where
  identifier : Bytes
  keyType : String
  deriving DecidableEq, Repr

/-- The collaborators `applyTransaction` calls: the payload decoders of `core/types`, the vote
store (`resolutionByID`), the authenticators, the validator store, the node's own identity and the
rebroadcaster of vote IDs. -/
structure Env where
  /-- `CreateResolution.UnmarshalBinary`, giving the proposed resolution's `Type`. -/
  createResolutionType : Bytes → Except Error String
  /-- `ApproveResolution.UnmarshalBinary`, giving `ResolutionID`. -/
  approveResolutionID : Bytes → Except Error Bytes
  /-- `resolutionByID`, giving the stored resolution's `Type`. -/
  resolutionType : Bytes → Except Error String
  /-- `authExt.GetAuthenticatorKeyType`. -/
  authenticatorKeyType : String → Except Error String
  /-- `Validators.GetValidatorPower`, an `int64`. -/
  validatorPower : Bytes → String → Except Error (BitVec 64)
  /-- `ValidatorVoteIDs.UnmarshalBinary`, giving `ResolutionIDs`. -/
  voteIDs : Bytes → Except Error (List Bytes)
  /-- `Transfer.UnmarshalBinary`, giving `Amount`. -/
  transferAmount : Bytes → Except Error Int
  /-- `nodeIdent.AuthType()`. -/
  nodeAuthType : String
  /-- `nodeIdent.CompactID()`. -/
  nodeCompactID : Bytes
  /-- `Rebroadcaster.MarkRebroadcast`. -/
  markRebroadcast : List Bytes → Except Error Unit

/-- How a transaction's sender becomes a key of the mempool's map. -/
structure Identity where
  /-- `TxSenderAcctID`. -/
  senderAcctID : Transaction → Except Error AccountID
  /-- `AccountID.MarshalBinary`. -/
  marshal : AccountID → Except Error Bytes

/-- `Accounts.GetAccount`: the committed state of an account. -/
def AccountStore := AccountID → Except Error Account

/-- Collaborators that fail every call; fixed inputs below override the calls they need. -/
def Env.refusing : Env where
  createResolutionType _ := .error (.msg "refused")
  approveResolutionID _ := .error (.msg "refused")
  resolutionType _ := .error (.msg "refused")
  authenticatorKeyType _ := .error (.msg "refused")
  validatorPower _ _ := .error (.msg "refused")
  voteIDs _ := .error (.msg "refused")
  transferAmount _ := .error (.msg "refused")
  nodeAuthType := ""
  nodeCompactID := []
  markRebroadcast _ := .error (.msg "refused")

/-- An `Identity` with `AccountID` built from the sender and the signature type, and marshalled as
a version word followed by the length-prefixed identifier and key type. -/
def Identity.framed : Identity where
  senderAcctID tx := .ok ⟨tx.sender, tx.signatureType⟩
  marshal a := .ok (writeUint16 0 ++ writeString a.identifier ++ writeString (asciiBytes a.keyType))

/-- `common.TxContext`, with the block context `applyTransaction` reads. -/
structure TxContext where
  blockContext : BlockContext

/-- The mempool's `accounts` map, from marshalled `AccountID` to pending account state. -/
structure Mempool where
  accounts : Bytes → Option Account

/-- The map of a fresh mempool, which `reset` installs. -/
def Mempool.empty : Mempool := ⟨fun _ => none⟩

/-- `m.accounts[key] = acct`. -/
def Mempool.insert (m : Mempool) (key : Bytes) (acct : Account) : Mempool :=
  ⟨fun k => if k = key then some acct else m.accounts k⟩

/-- `delete(m.accounts, key)`. -/
def Mempool.erase (m : Mempool) (key : Bytes) : Mempool :=
  ⟨fun k => if k = key then none else m.accounts k⟩

@[simp] theorem Mempool.empty_accounts (k : Bytes) : Mempool.empty.accounts k = none := rfl

@[simp] theorem Mempool.insert_accounts (m : Mempool) (key k : Bytes) (acct : Account) :
    (m.insert key acct).accounts k = if k = key then some acct else m.accounts k := rfl

@[simp] theorem Mempool.erase_accounts (m : Mempool) (key k : Bytes) :
    (m.erase key).accounts k = if k = key then none else m.accounts k := rfl

/-- `mempool.reset`. -/
def Mempool.reset (_ : Mempool) : Mempool := Mempool.empty

section Apply

variable (env : Env) (idn : Identity) (store : AccountStore)

/-- `mempool.accountInfo`: the cached entry under the marshalled `AccountID`, else the account
store's, which is then cached. The key is returned with the account: it is the entry that the
returned pointer designates. -/
def accountInfo (m : Mempool) (acctID : AccountID) : Except Error (Bytes × Account) × Mempool :=
  match idn.marshal acctID with
  | .error e => (.error e, m)
  | .ok id =>
    match m.accounts id with
    | some acct => (.ok (id, acct), m)
    | none =>
      match store acctID with
      | .error e => (.error e, m)
      | .ok acct => (.ok (id, acct), m.insert id acct)

/-- Lines 65-120 of `applyTransaction`: the kinds a migration rules out, and the resolution
proposals and approvals that may not enter once one is approved. -/
def migrationChecks (status : MigrationStatus) (tx : Transaction) : Except Error Unit := do
  let inMigration := status == .migrationInProgress || status == .migrationCompleted
  let activeMigration := status.active
  let genesisMigration := status == .genesisMigration
  if inMigration then
    match tx.body.payloadType with
    | .validatorJoin => throw (.wrapped .disallowedInMigration ": validator join")
    | .validatorLeave => throw (.wrapped .disallowedInMigration ": validator leave")
    | .validatorApprove => throw (.wrapped .disallowedInMigration ": validator approve")
    | .validatorRemove => throw (.wrapped .disallowedInMigration ": validator remove")
    | .validatorVoteIDs => throw (.wrapped .disallowedInMigration ": validator vote ids")
    | .validatorVoteBodies => throw (.wrapped .disallowedInMigration ": validator vote bodies")
    | .rawStatement => throw (.wrapped .disallowedInMigration ": raw statement")
    | .transfer => throw (.wrapped .disallowedInMigration ": transfer")
    | _ => pure ()
  if tx.body.payloadType = .createResolution then
    let resolutionType ← env.createResolutionType tx.body.payload
    if (activeMigration || genesisMigration) && resolutionType = startMigrationEventType then
      throw (.wrapped .disallowedInMigration ": migration resolutions")
  if tx.body.payloadType = .approveResolution then
    let resolutionID ← env.approveResolutionID tx.body.payload
    match env.resolutionType resolutionID with
    | .error _ => throw (.msg "migration proposal not found")
    | .ok resolutionType =>
      if (activeMigration || genesisMigration) && resolutionType = startMigrationEventType then
        throw (.msg "approving migration resolutions are not allowed during migration")

/-- Lines 122-153 of `applyTransaction`: vote IDs only from validators and within
`MaxVotesPerTx`, and no vote bodies at all. -/
def voteChecks (params : NetworkParameters) (tx : Transaction) : Except Error Unit := do
  if tx.body.payloadType = .validatorVoteIDs then
    let keyType ← match env.authenticatorKeyType tx.signatureType with
      | .error e => throw (.context "invalid key type: " e)
      | .ok keyType => pure keyType
    let power ← env.validatorPower tx.sender keyType
    if power = 0 then
      throw (.msg "only validators can submit validator vote transactions")
    let resolutionIDs ← env.voteIDs tx.body.payload
    if (resolutionIDs.length : Int) > params.maxVotesPerTx.toInt then
      throw (.msg
        ("number of voteIDs exceeds the limit of " ++ toString params.maxVotesPerTx.toInt))
  if tx.body.payloadType = .validatorVoteBodies then
    throw (.msg
      "validator vote bodies can not enter the mempool, and can only be submitted during block proposal")

/-- Lines 206-226 of `applyTransaction`: the fee, plus the amount of a transfer, which may be
neither negative nor above the pending balance. -/
def spendOf (tx : Transaction) (acct : Account) : Except Error Int :=
  match tx.body.payloadType with
  | .transfer => do
    let amt ← env.transferAmount tx.body.payload
    if amt < 0 then
      throw (.joined (.sentinel .invalidAmount) (.msg "negative transfer not permitted"))
    if amt > acct.balance then
      throw (.sentinel .insufficientBalance)
    return tx.body.fee + amt
  | _ => .ok tx.body.fee

/-- `hex.EncodeToString`. -/
def hexEncode (bs : Bytes) : String :=
  String.mk (bs.flatMap fun b => [Nat.digitChar (b.toNat / 16), Nat.digitChar (b.toNat % 16)])

/-- The text `applyTransaction` appends to `ErrInvalidNonce`. -/
def invalidNonceDetail (tx : Transaction) (acct : Account) : String :=
  " for account " ++ hexEncode tx.sender ++ ": got " ++ toString tx.body.nonce.toNat ++
    ", expected " ++ toString (acct.nonce + 1).toInt

/-- Lines 185-200 of `applyTransaction`: a vote-ID transaction of this node with a wrong nonce has
its vote IDs decoded and passed to `MarkRebroadcast`. Gives the IDs passed, also when that call
fails, and the error that ends `applyTransaction` there, if any. -/
def rebroadcastVotes (tx : Transaction) : List Bytes × Option Error :=
  if tx.body.payloadType = .validatorVoteIDs ∧ tx.signatureType = env.nodeAuthType ∧
      tx.sender = env.nodeCompactID then
    match env.voteIDs tx.body.payload with
    | .error e => ([], some e)
    | .ok resolutionIDs =>
      match env.markRebroadcast resolutionIDs with
      | .error e => (resolutionIDs, some e)
      | .ok () => (resolutionIDs, none)
  else ([], none)

/-- What one call of `applyTransaction` leaves: its error, the mempool's map, and the vote IDs it
passed to `MarkRebroadcast`, whether or not that call failed. -/
structure Applied where
  result : Except Error Unit
  mempool : Mempool
  rebroadcast : List Bytes

/-- Lines 170-255 of `applyTransaction`, once the sender's pending state `acct` is read from the
entry under `id`: the funding and nonce checks, then the update of that entry. -/
def applyToPending (params : NetworkParameters) (tx : Transaction) (m : Mempool) (id : Bytes)
    (acct : Account) : Applied :=
  if !params.disabledGasCosts && acct.nonce = 0 && acct.balance = 0 then
    ⟨.error (.sentinel .insufficientBalance), m.erase tx.sender, []⟩
  else if tx.body.nonce ≠ acct.nonce + 1 then
    match rebroadcastVotes env tx with
    | (marked, some e) => ⟨.error e, m, marked⟩
    | (marked, none) => ⟨.error (.wrapped .invalidNonce (invalidNonceDetail tx acct)), m, marked⟩
  else
    match spendOf env tx acct with
    | .error e => ⟨.error e, m, []⟩
    | .ok spend =>
      let balance := if spend > acct.balance then 0 else acct.balance - spend
      ⟨.ok (), m.insert id ⟨tx.body.nonce, balance⟩, []⟩

/-- Lines 155-255 of `applyTransaction`: the sender's pending state, then `applyToPending`. -/
def applyToAccount (params : NetworkParameters) (tx : Transaction) (m : Mempool) : Applied :=
  match idn.senderAcctID tx with
  | .error e => ⟨.error e, m, []⟩
  | .ok acctID =>
    match accountInfo idn store m acctID with
    | (.error e, m) => ⟨.error e, m, []⟩
    | (.ok (id, acct), m) => applyToPending env params tx m id acct

/-- `mempool.applyTransaction`. -/
def applyTransaction (ctx : TxContext) (tx : Transaction) (m : Mempool) : Applied :=
  let params := ctx.blockContext.chainContext.networkParameters
  match migrationChecks env params.migrationStatus tx >>= fun _ => voteChecks env params tx with
  | .error e => ⟨.error e, m, []⟩
  | .ok () => applyToAccount env idn store params tx m

end Apply

end KwilDb
