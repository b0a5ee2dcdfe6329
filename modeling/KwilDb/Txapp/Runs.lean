import KwilDb.Txapp.Pending
import KwilDb.Txapp.Ledger

/-! # Runs of the mempool

Sequences of `applyTransaction` calls and resets (`mempool.go:63-265`), with the account store
fixed between two resets: a reset stands for a block commit, which installs the new account store,
followed by `mempool.reset`. The system carries, as a ghost, the transactions accepted since the
last reset, each with its sender's account and the amount it transfers.

`Tracked` is the invariant, and a refinement: the transactions accepted for an account are
admissible from its committed state, and the pending state the mempool reports for it is the
`ledgerState` of the ledger (`Ledger`). Every call and every reset keeps it, provided distinct
accounts have distinct keys and no transaction's raw `Sender` bytes are an account's key; the
second proviso is what the unfunded-sender branch breaks (`Pending`). The ledger's laws then carry
over: the accepted nonces of an account follow the store's without a gap or a repeat, and, while
the accepted fees are not negative, the pending balance stays between zero and the store's
balance; and the mempool accepts a transaction exactly when it passes the migration and vote
checks and the ledger's pending state of its sender passes the account checks. -/

namespace KwilDb

/-- One call of `applyTransaction`: the collaborators, the block context and the transaction. -/
structure Submission where
  env : Env
  ctx : TxContext
  tx : Transaction

/-- The mempool, the account store of the last commit and the transactions accepted since the last
reset. -/
structure MempoolSystem where
  mempool : Mempool
  store : AccountStore
  accepted : List Accepted

/-- A call of `applyTransaction`, or a block commit installing a new account store followed by
`mempool.reset`. -/
inductive MempoolEvent where
  | submit (s : Submission)
  | reset (store : AccountStore)

/-- The amount a transaction transfers: the decoded `Amount` of a transfer, zero otherwise. -/
def transferAmountOf (env : Env) (tx : Transaction) : Int :=
  match tx.body.payloadType, env.transferAmount tx.body.payload with
  | .transfer, .ok amt => amt
  | _, _ => 0

/-- A fresh mempool over the account store `store`. -/
def MempoolSystem.init (store : AccountStore) : MempoolSystem := ⟨.empty, store, []⟩

/-- The transactions accepted for account `a` since the last reset. -/
def MempoolSystem.acceptedFor (sys : MempoolSystem) (a : AccountID) : List Accepted :=
  sys.accepted.filter fun x => x.acctID = a

@[simp] theorem MempoolSystem.acceptedFor_init (store : AccountStore) (a : AccountID) :
    (MempoolSystem.init store).acceptedFor a = [] := rfl

theorem transferAmountOf_of_ne {env : Env} {tx : Transaction}
    (hkind : tx.body.payloadType ≠ .transfer) : transferAmountOf env tx = 0 := by
  unfold transferAmountOf
  split
  · simp_all
  · rfl

/-- What a transaction spends is its fee and the amount it transfers, which is neither negative
nor, for a transfer, above the pending balance. -/
theorem spendOf_ok {env : Env} {tx : Transaction} {acct : Account} {spend : Int}
    (hspend : spendOf env tx acct = .ok spend) :
    spend = tx.body.fee + transferAmountOf env tx ∧ 0 ≤ transferAmountOf env tx ∧
      (transferAmountOf env tx = 0 ∨ transferAmountOf env tx ≤ acct.balance) := by
  unfold spendOf at hspend
  split at hspend
  · rename_i hkind
    obtain ⟨amt, hamt, hrest⟩ := bind_eq_ok.mp hspend
    have hamount : transferAmountOf env tx = amt := by simp [transferAmountOf, hkind, hamt]
    rw [hamount]
    by_cases hneg : amt < 0
    · simp [hneg] at hrest
    · by_cases hover : amt > acct.balance
      · simp [hneg, hover] at hrest
      · simp only [hneg, hover, if_false, bind_ok, pure, Except.pure, Except.ok.injEq] at hrest
        omega
  · rename_i hkind
    cases hspend
    simp [transferAmountOf_of_ne hkind]

/-- The transactions accepted for an account after one more is accepted. -/
theorem MempoolSystem.acceptedFor_snoc (sys : MempoolSystem) (m : Mempool) (x : Accepted)
    (a : AccountID) :
    (MempoolSystem.mk m sys.store (sys.accepted ++ [x])).acceptedFor a =
      if x.acctID = a then sys.acceptedFor a ++ [x] else sys.acceptedFor a := by
  by_cases h : x.acctID = a <;> simp [MempoolSystem.acceptedFor, h]

section Runs

variable (idn : Identity)

/-- One event. -/
def MempoolSystem.step (sys : MempoolSystem) : MempoolEvent → MempoolSystem
  | .submit s =>
    let r := applyTransaction s.env idn sys.store s.ctx s.tx sys.mempool
    match r.result, idn.senderAcctID s.tx with
    | .ok (), .ok acctID =>
      ⟨r.mempool, sys.store, sys.accepted ++ [⟨acctID, s.tx, transferAmountOf s.env s.tx⟩]⟩
    | _, _ => { sys with mempool := r.mempool }
  | .reset store => .init store

/-- A sequence of events. -/
def MempoolSystem.run (sys : MempoolSystem) (events : List MempoolEvent) : MempoolSystem :=
  events.foldl (MempoolSystem.step idn) sys

/-- No key of an account is the raw `Sender` bytes of a submitted transaction. -/
def MempoolEvent.SenderApart : MempoolEvent → Prop
  | .submit s => ∀ a id, idn.marshal a = .ok id → id ≠ s.tx.sender
  | .reset _ => True

theorem MempoolSystem.step_accepted {sys : MempoolSystem} {sub : Submission} {acctID : AccountID}
    (hok : (applyTransaction sub.env idn sys.store sub.ctx sub.tx sys.mempool).result = .ok ())
    (hsender : idn.senderAcctID sub.tx = .ok acctID) :
    sys.step idn (.submit sub) =
      ⟨(applyTransaction sub.env idn sys.store sub.ctx sub.tx sys.mempool).mempool, sys.store,
        sys.accepted ++ [⟨acctID, sub.tx, transferAmountOf sub.env sub.tx⟩]⟩ := by
  simp only [MempoolSystem.step, hok, hsender]

theorem MempoolSystem.step_rejected {sys : MempoolSystem} {sub : Submission} {e : Error}
    (herr : (applyTransaction sub.env idn sys.store sub.ctx sub.tx sys.mempool).result = .error e) :
    sys.step idn (.submit sub) =
      { sys with
        mempool :=
          (applyTransaction sub.env idn sys.store sub.ctx sub.tx sys.mempool).mempool } := by
  simp only [MempoolSystem.step, herr]

/-- What the mempool reports for account `a` is the ledger's pending state after the
transactions accepted for it since the last reset, which are admissible from its committed
state. -/
def Tracked (sys : MempoolSystem) (a : AccountID) : Prop :=
  ∀ s, sys.store a = .ok s → Admissible s (sys.acceptedFor a) ∧
    ∀ id, idn.marshal a = .ok id →
      pendingAccount idn sys.store sys.mempool a = .ok (ledgerState s (sys.acceptedFor a))

theorem tracked_init (store : AccountStore) (a : AccountID) :
    Tracked idn (.init store) a := by
  intro s hs
  refine ⟨admissible_nil s, fun id hid => ?_⟩
  simpa [pendingAccount_of_marshal idn store hid, MempoolSystem.init] using hs

/-- Accepting a transaction of `acctID` extends by it a ledger run whose state the mempool reports
for `acctID`, and leaves the pending state of every other account as it was. -/
theorem accept_extends_run (hinj : idn.KeysInjective) {sys : MempoolSystem} {sub : Submission}
    {acctID : AccountID}
    (hok : (applyTransaction sub.env idn sys.store sub.ctx sub.tx sys.mempool).result = .ok ())
    (hsender : idn.senderAcctID sub.tx = .ok acctID) :
    (∀ a, a ≠ acctID →
      pendingAccount idn sys.store
          (applyTransaction sub.env idn sys.store sub.ctx sub.tx sys.mempool).mempool a =
        pendingAccount idn sys.store sys.mempool a) ∧
    ∀ s L, Admissible s L →
      (∀ id, idn.marshal acctID = .ok id →
        pendingAccount idn sys.store sys.mempool acctID = .ok (ledgerState s L)) →
      Admissible s (L ++ [⟨acctID, sub.tx, transferAmountOf sub.env sub.tx⟩]) ∧
        ∀ id, idn.marshal acctID = .ok id →
          pendingAccount idn sys.store
              (applyTransaction sub.env idn sys.store sub.ctx sub.tx sys.mempool).mempool acctID =
            .ok (ledgerState s (L ++ [⟨acctID, sub.tx, transferAmountOf sub.env sub.tx⟩])) := by
  obtain ⟨acctID', acct, spend, hsender', hpending, hnonce, hspend, hafter⟩ :=
    applyTransaction_ok_pending sub.env idn sys.store hinj hok
  obtain rfl : acctID' = acctID := Except.ok.inj (hsender'.symm.trans hsender)
  refine ⟨fun a ha => by rw [hafter, if_neg ha], fun s L hadm hledger => ?_⟩
  obtain ⟨id, hid⟩ := marshal_ok_of_pendingAccount idn sys.store hpending
  obtain rfl : acct = ledgerState s L := Except.ok.inj (hpending.symm.trans (hledger id hid))
  obtain ⟨rfl, hpos, hbounded⟩ := spendOf_ok hspend
  rw [admissible_append_singleton, ledgerState_append_singleton]
  exact ⟨⟨hadm, hnonce, hpos, hbounded⟩, fun _ _ => by rw [hafter, if_pos rfl]; rfl⟩

theorem tracked_accept (hinj : idn.KeysInjective) {sys : MempoolSystem} {sub : Submission}
    {acctID : AccountID}
    (hok : (applyTransaction sub.env idn sys.store sub.ctx sub.tx sys.mempool).result = .ok ())
    (hsender : idn.senderAcctID sub.tx = .ok acctID) (htracked : ∀ a, Tracked idn sys a)
    (a : AccountID) : Tracked idn (sys.step idn (.submit sub)) a := by
  obtain ⟨hframe, hextend⟩ := accept_extends_run idn hinj hok hsender
  rw [MempoolSystem.step_accepted idn hok hsender]
  intro s hs
  obtain ⟨hadm, hledger⟩ := htracked a s hs
  dsimp only
  rw [MempoolSystem.acceptedFor_snoc]
  by_cases ha : a = acctID
  · subst ha
    rw [if_pos rfl]
    exact hextend s _ hadm hledger
  · rw [if_neg (Ne.symm ha)]
    exact ⟨hadm, fun id hid => by rw [hframe a ha, hledger id hid]⟩

theorem tracked_reject (hinj : idn.KeysInjective) {sys : MempoolSystem} {sub : Submission}
    {e : Error}
    (herr : (applyTransaction sub.env idn sys.store sub.ctx sub.tx sys.mempool).result = .error e)
    (hapart : (MempoolEvent.submit sub).SenderApart idn) (htracked : ∀ a, Tracked idn sys a)
    (a : AccountID) : Tracked idn (sys.step idn (.submit sub)) a := by
  rw [MempoolSystem.step_rejected idn herr]
  intro s hs
  obtain ⟨hadm, hledger⟩ := htracked a s hs
  refine ⟨hadm, fun id hid => ?_⟩
  rcases applyTransaction_error_pending_cases sub.env idn sys.store hinj herr hid with
    hsame | ⟨hkey, -⟩
  · exact hsame.trans (hledger id hid)
  · exact absurd hkey (hapart a id hid)

/-- Every event keeps the invariant, for every account. -/
theorem tracked_step (hinj : idn.KeysInjective) {sys : MempoolSystem} {ev : MempoolEvent}
    (hapart : ev.SenderApart idn) (htracked : ∀ a, Tracked idn sys a) (a : AccountID) :
    Tracked idn (sys.step idn ev) a := by
  cases ev with
  | reset store => exact tracked_init idn store a
  | submit sub =>
    cases hres : (applyTransaction sub.env idn sys.store sub.ctx sub.tx sys.mempool).result with
    | error e => exact tracked_reject idn hinj hres hapart htracked a
    | ok u =>
      obtain ⟨acctID, -, -, -, hsender, -⟩ := applyTransaction_ok sub.env idn sys.store hres
      exact tracked_accept idn hinj hres hsender htracked a

/-- Every run whose transactions keep their raw `Sender` bytes apart from the accounts' keys
keeps the invariant. -/
theorem tracked_run (hinj : idn.KeysInjective) :
    ∀ (events : List MempoolEvent) (sys : MempoolSystem),
      (∀ ev ∈ events, ev.SenderApart idn) →
      (∀ a, Tracked idn sys a) → ∀ a, Tracked idn (sys.run idn events) a
  | [], _, _, htracked => htracked
  | ev :: events, sys, hapart, htracked =>
    tracked_run hinj events (sys.step idn ev) (fun e he => hapart e (.tail _ he))
      (tracked_step idn hinj (hapart ev (.head _)) htracked)

/-- Over every run from a fresh mempool in which distinct accounts have distinct keys and no
transaction's raw `Sender` bytes are an account's key, the mempool keeps the ledger: the
transactions accepted for an account since the last reset are admissible from its store state, and
the pending state the mempool reports for an account with a key is the ledger's. -/
theorem run_refines_ledger (hinj : idn.KeysInjective) {store : AccountStore}
    {events : List MempoolEvent} (hapart : ∀ ev ∈ events, ev.SenderApart idn)
    {sys : MempoolSystem} (hrun : (MempoolSystem.init store).run idn events = sys) {a : AccountID}
    {s : Account} (hs : sys.store a = .ok s) :
    Admissible s (sys.acceptedFor a) ∧
      ∀ id, idn.marshal a = .ok id →
        pendingAccount idn sys.store sys.mempool a = .ok (ledgerState s (sys.acceptedFor a)) := by
  subst hrun
  exact tracked_run idn hinj events _ hapart (tracked_init idn store) a s hs

/-- Over every run from a fresh mempool in which distinct accounts have distinct keys and no
transaction's raw `Sender` bytes are an account's key, the transactions accepted for an account
since the last reset carry, in order, the nonces after its store nonce, one by one; the nonce the
mempool reports for it is the last of them; and, short of wrapping around, no two of them share a
nonce. -/
theorem run_accepted_nonces (hinj : idn.KeysInjective) {store : AccountStore}
    {events : List MempoolEvent} (hapart : ∀ ev ∈ events, ev.SenderApart idn)
    {sys : MempoolSystem} (hrun : (MempoolSystem.init store).run idn events = sys) {a : AccountID}
    {s : Account} (hs : sys.store a = .ok s) :
    (sys.acceptedFor a).map (·.tx.body.nonce) =
        (List.range (sys.acceptedFor a).length).map (fun i => s.nonce + BitVec.ofNat 64 (i + 1)) ∧
      (∀ acct, pendingAccount idn sys.store sys.mempool a = .ok acct →
        acct.nonce = s.nonce + BitVec.ofNat 64 (sys.acceptedFor a).length) ∧
      ((sys.acceptedFor a).length ≤ 2 ^ 64 →
        ((sys.acceptedFor a).map (·.tx.body.nonce)).Nodup) := by
  subst hrun
  obtain ⟨hadm, hledger⟩ := tracked_run idn hinj events _ hapart (tracked_init idn store) a s hs
  obtain ⟨hnonces, hlast⟩ := hadm.nonces
  refine ⟨hnonces, fun acct h => ?_, fun hlen => hnonces ▸ nonces_nodup s.nonce hlen⟩
  obtain ⟨id, hid⟩ := marshal_ok_of_pendingAccount idn _ h
  obtain rfl : acct = ledgerState s _ := by simpa [hledger id hid] using h.symm
  exact hlast

/-- Over every such run, for an account whose store balance is not negative and whose accepted
transactions have fees that are not negative, the amounts transferred since the last reset add up
to at most the store's balance, and the balance the mempool reports stays between zero and it. -/
theorem run_pending_balance_bounded (hinj : idn.KeysInjective) {store : AccountStore}
    {events : List MempoolEvent} (hapart : ∀ ev ∈ events, ev.SenderApart idn)
    {sys : MempoolSystem} (hrun : (MempoolSystem.init store).run idn events = sys) {a : AccountID}
    {s : Account} (hs : sys.store a = .ok s) (hbalance : 0 ≤ s.balance)
    (hfees : ∀ x ∈ sys.acceptedFor a, 0 ≤ x.tx.body.fee) :
    ((sys.acceptedFor a).map (·.amount)).sum ≤ s.balance ∧
      ∀ acct, pendingAccount idn sys.store sys.mempool a = .ok acct →
        0 ≤ acct.balance ∧ acct.balance ≤ s.balance := by
  subst hrun
  obtain ⟨hadm, hledger⟩ := tracked_run idn hinj events _ hapart (tracked_init idn store) a s hs
  obtain ⟨h0, hsum⟩ := hadm.balance hfees hbalance
  have hamounts := hadm.sum_amounts_nonneg
  refine ⟨by omega, fun acct h => ?_⟩
  obtain ⟨id, hid⟩ := marshal_ok_of_pendingAccount idn _ h
  obtain rfl : acct = ledgerState s _ := by simpa [hledger id hid] using h.symm
  exact ⟨h0, by omega⟩

/-- Over every such run, the mempool decides the next transaction of an account with a key by the
ledger: it accepts it exactly when the transaction passes the migration and vote checks and the
ledger's pending state of the account passes `PendingChecks`. With `run_refines_ledger`, the
mempool's accept-and-update step is the ledger's. -/
theorem run_accepts_iff_ledger (hinj : idn.KeysInjective) {store : AccountStore}
    {events : List MempoolEvent} (hapart : ∀ ev ∈ events, ev.SenderApart idn)
    {sys : MempoolSystem} (hrun : (MempoolSystem.init store).run idn events = sys)
    {sub : Submission} {a : AccountID} {s : Account} (hsender : idn.senderAcctID sub.tx = .ok a)
    (hkey : ∃ id, idn.marshal a = .ok id) (hs : sys.store a = .ok s) :
    (applyTransaction sub.env idn sys.store sub.ctx sub.tx sys.mempool).result = .ok () ↔
      migrationChecks sub.env
          sub.ctx.blockContext.chainContext.networkParameters.migrationStatus sub.tx = .ok () ∧
        voteChecks sub.env sub.ctx.blockContext.chainContext.networkParameters sub.tx = .ok () ∧
        PendingChecks sub.env sub.ctx.blockContext.chainContext.networkParameters sub.tx
          (ledgerState s (sys.acceptedFor a)) := by
  subst hrun
  obtain ⟨id, hid⟩ := hkey
  have hpending :=
    (tracked_run idn hinj events _ hapart (tracked_init idn store) a s hs).2 id hid
  rw [applyTransaction_result_ok_iff]
  constructor
  · rintro ⟨hmig, hvote, acctID, acct, hsender', hpending', hchecks⟩
    obtain rfl : acctID = a := Except.ok.inj (hsender'.symm.trans hsender)
    obtain rfl : acct = ledgerState s _ := Except.ok.inj (hpending'.symm.trans hpending)
    exact ⟨hmig, hvote, hchecks⟩
  · rintro ⟨hmig, hvote, hchecks⟩
    exact ⟨hmig, hvote, a, _, hsender, hpending, hchecks⟩

end Runs

/-- Collaborators that decode every transfer payload as an amount of 3. -/
def transferEnv : Env := { Env.refusing with transferAmount := fun _ => .ok 3 }

/-- A transfer of 3 from `fundedAccount`, with fee 1 and its first nonce. -/
def transferTx : Transaction := ⟨⟨.transfer, [], 1, 1⟩, "secp256k1", [2]⟩

/-- The same transfer with the second nonce. -/
def secondTransferTx : Transaction := ⟨⟨.transfer, [], 1, 2⟩, "secp256k1", [2]⟩

/-- `transferTx` and `secondTransferTx`, which are accepted, then `aheadTx`, which is rejected. -/
def transferRun : List MempoolEvent :=
  [.submit ⟨transferEnv, gasContext, transferTx⟩,
    .submit ⟨transferEnv, gasContext, secondTransferTx⟩,
    .submit ⟨.refusing, gasContext, aheadTx⟩]

/-- The mempool after `transferRun`, under `Identity.single`. -/
def transferSystem : MempoolSystem := (MempoolSystem.init twoAccountStore).run .single transferRun

theorem Identity.single_marshal_ok {a : AccountID} {id : Bytes}
    (h : Identity.single.marshal a = .ok id) : id = [7] := by
  simp only [Identity.single] at h
  split at h <;> simp_all

theorem transferRun_senderApart : ∀ ev ∈ transferRun, ev.SenderApart .single := by
  simp only [transferRun, List.mem_cons, List.mem_singleton, List.not_mem_nil, or_false]
  rintro ev (rfl | rfl | rfl) a id h <;> rw [Identity.single_marshal_ok h] <;> decide

/-- After `transferRun` the mempool reports the ledger's state of `fundedAccount`. -/
theorem run_refines_ledger_transferRun :
    Admissible ⟨0, 10⟩ (transferSystem.acceptedFor fundedAccount) ∧
      ∀ id, Identity.single.marshal fundedAccount = .ok id →
        pendingAccount .single transferSystem.store transferSystem.mempool fundedAccount =
          .ok (ledgerState ⟨0, 10⟩ (transferSystem.acceptedFor fundedAccount)) :=
  @run_refines_ledger .single Identity.single_keysInjective twoAccountStore transferRun
    transferRun_senderApart transferSystem rfl fundedAccount ⟨0, 10⟩ rfl

/- The ledger's state after the two transfers: nonce 2, and 10 less twice the fee 1 and the
amount 3. -/
example : ledgerState ⟨0, 10⟩ (transferSystem.acceptedFor fundedAccount) = ⟨2, 2⟩ := rfl

/-- The two accepted transfers of `transferRun` carry the nonces 1 and 2, after the store's 0. -/
theorem run_accepted_nonces_transferRun :
    (transferSystem.acceptedFor fundedAccount).map (·.tx.body.nonce) =
        (List.range (transferSystem.acceptedFor fundedAccount).length).map
          (fun i => (0 : BitVec 64) + BitVec.ofNat 64 (i + 1)) ∧
      (∀ acct, pendingAccount .single transferSystem.store transferSystem.mempool fundedAccount =
          .ok acct →
        acct.nonce =
          (0 : BitVec 64) + BitVec.ofNat 64 (transferSystem.acceptedFor fundedAccount).length) ∧
      ((transferSystem.acceptedFor fundedAccount).length ≤ 2 ^ 64 →
        ((transferSystem.acceptedFor fundedAccount).map (·.tx.body.nonce)).Nodup) :=
  @run_accepted_nonces .single Identity.single_keysInjective twoAccountStore transferRun
    transferRun_senderApart transferSystem rfl fundedAccount ⟨0, 10⟩ rfl

/-- After `fundedTx`, `clashingTx` and `fundedTx` again, whose second run is accepted because
`clashingTx` deleted the pending entry of `fundedAccount`, two accepted transactions of
`fundedAccount` carry the nonce 1. -/
theorem run_accepts_nonce_twice :
    twoAccountStore fundedAccount = .ok ⟨0, 10⟩ ∧
      (((MempoolSystem.init twoAccountStore).run .framed
          [.submit ⟨.refusing, gasContext, fundedTx⟩,
            .submit ⟨.refusing, gasContext, clashingTx⟩,
            .submit ⟨.refusing, gasContext, fundedTx⟩]).acceptedFor fundedAccount).map
        (·.tx.body.nonce) = [1, 1] :=
  ⟨rfl, rfl⟩

/-- The transfers of `transferRun` move 6 of the store's 10, and leave 2 after their fees. -/
theorem run_pending_balance_bounded_transferRun :
    ((transferSystem.acceptedFor fundedAccount).map (·.amount)).sum ≤ 10 ∧
      ∀ acct, pendingAccount .single transferSystem.store transferSystem.mempool fundedAccount =
          .ok acct →
        0 ≤ acct.balance ∧ acct.balance ≤ 10 :=
  @run_pending_balance_bounded .single Identity.single_keysInjective twoAccountStore transferRun
    transferRun_senderApart transferSystem rfl fundedAccount ⟨0, 10⟩ rfl (by decide) (by decide)

/-- A third transfer of 3 from `fundedAccount`, with its third nonce, submitted after
`transferRun`. -/
def thirdTransferTx : Transaction := ⟨⟨.transfer, [], 1, 3⟩, "secp256k1", [2]⟩

/-- After `transferRun` the third transfer is judged on the ledger's state `⟨2, 2⟩`, which cannot
pay it. -/
theorem run_accepts_iff_ledger_transferRun :
    (applyTransaction transferEnv .single transferSystem.store gasContext thirdTransferTx
        transferSystem.mempool).result = .ok () ↔
      migrationChecks transferEnv
          gasContext.blockContext.chainContext.networkParameters.migrationStatus
          thirdTransferTx = .ok () ∧
        voteChecks transferEnv gasContext.blockContext.chainContext.networkParameters
          thirdTransferTx = .ok () ∧
        PendingChecks transferEnv gasContext.blockContext.chainContext.networkParameters
          thirdTransferTx (ledgerState ⟨0, 10⟩ (transferSystem.acceptedFor fundedAccount)) :=
  @run_accepts_iff_ledger .single Identity.single_keysInjective twoAccountStore transferRun
    transferRun_senderApart transferSystem rfl ⟨transferEnv, gasContext, thirdTransferTx⟩
    fundedAccount ⟨0, 10⟩ rfl ⟨[7], rfl⟩ rfl

/-- A transaction of `fundedAccount` with fee -5. -/
def negativeFeeTx : Transaction := ⟨⟨.other "execute", [], -5, 1⟩, "secp256k1", [2]⟩

/-- One transaction with a negative fee raises the pending balance of `fundedAccount` from the
store's 10 to 15. -/
theorem run_negative_fee_raises_balance :
    twoAccountStore fundedAccount = .ok ⟨0, 10⟩ ∧
      pendingAccount .framed twoAccountStore
          ((MempoolSystem.init twoAccountStore).run .framed
            [.submit ⟨.refusing, gasContext, negativeFeeTx⟩]).mempool fundedAccount =
        .ok ⟨1, 15⟩ :=
  ⟨rfl, rfl⟩

end KwilDb
