import KwilDb.Txapp.Runs

/-! # Runs of the mempool whose raw `Sender` bytes may hit a key

`Runs` proves that the mempool keeps the ledger of every account when no transaction's raw `Sender`
bytes are an account's key. Without that proviso the unfunded-sender branch of `applyTransaction`
(`mempool.go:172`) may delete the entry of another account, whose pending state then falls back
to its store state: the ledger of that account restarts (`run_accepts_nonce_twice`). This module
states what still holds over every run, with distinct accounts keyed apart and nothing else
assumed: the transactions accepted for an account since the last reset are ledger runs from its
store state, one after another; there are no more restarts than rejected submissions whose raw
`Sender` bytes are the account's key; and the pending state is the ledger's after the last run. -/

namespace KwilDb

section Restarts

variable (idn : Identity)

/-- Whether `sub` is rejected while its raw `Sender` bytes are the key of `a`: the only way a call
can delete the entry of `a`. -/
def senderHit (a : AccountID) (sys : MempoolSystem) (sub : Submission) : Bool :=
  match (applyTransaction sub.env idn sys.store sub.ctx sub.tx sys.mempool).result,
      idn.marshal a with
  | .error _, .ok id => decide (id = sub.tx.sender)
  | _, _ => false

/-- The submissions since the last reset that hit the key of `a`, over `events` from `sys`,
counted on from `n`. -/
def senderHits (a : AccountID) : MempoolSystem → List MempoolEvent → Nat → Nat
  | _, [], n => n
  | _, .reset store :: events, _ => senderHits a (.init store) events 0
  | sys, .submit sub :: events, n =>
    senderHits a (sys.step idn (.submit sub)) events (if senderHit idn a sys sub then n + 1 else n)

/-- What the mempool keeps for `a` when raw `Sender` bytes may be its key: the transactions
accepted for it since the last reset are at most `n` completed ledger runs from its store state
and a current one, each admissible, and the pending state is the ledger's after the current run. -/
def TrackedRestarts (sys : MempoolSystem) (a : AccountID) (n : Nat) : Prop :=
  ∀ s, sys.store a = .ok s → ∃ (done : List (List Accepted)) (current : List Accepted),
    sys.acceptedFor a = done.flatten ++ current ∧ done.length ≤ n ∧
      (∀ seg ∈ done, Admissible s seg) ∧ Admissible s current ∧
      ∀ id, idn.marshal a = .ok id →
        pendingAccount idn sys.store sys.mempool a = .ok (ledgerState s current)

theorem restarts_init (store : AccountStore) (a : AccountID) :
    TrackedRestarts idn (.init store) a 0 := by
  intro s hs
  obtain ⟨-, hledger⟩ := tracked_init idn store a s hs
  exact ⟨[], [], rfl, le_rfl, fun _ h => absurd h (List.not_mem_nil _), admissible_nil s,
    hledger⟩

theorem restarts_accept (hinj : idn.KeysInjective) {sys : MempoolSystem} {sub : Submission}
    {acctID : AccountID}
    (hok : (applyTransaction sub.env idn sys.store sub.ctx sub.tx sys.mempool).result = .ok ())
    (hsender : idn.senderAcctID sub.tx = .ok acctID) {a : AccountID} {n : Nat}
    (htracked : TrackedRestarts idn sys a n) :
    TrackedRestarts idn (sys.step idn (.submit sub)) a n := by
  obtain ⟨hframe, hextend⟩ := accept_extends_run idn hinj hok hsender
  rw [MempoolSystem.step_accepted idn hok hsender]
  intro s hs
  obtain ⟨done, current, hacc, hlen, hdone, hcur, hledger⟩ := htracked s hs
  dsimp only
  rw [MempoolSystem.acceptedFor_snoc]
  by_cases ha : a = acctID
  · subst ha
    rw [if_pos rfl, hacc, List.append_assoc]
    exact ⟨done, _, rfl, hlen, hdone, hextend s current hcur hledger⟩
  · rw [if_neg (Ne.symm ha)]
    exact ⟨done, current, hacc, hlen, hdone, hcur,
      fun id hid => by rw [hframe a ha, hledger id hid]⟩

/-- A rejection keeps the runs of `a`, or, when its raw `Sender` bytes are the key of `a`, may
close the current run and start an empty one at the store state. -/
theorem restarts_reject (hinj : idn.KeysInjective) {sys : MempoolSystem} {sub : Submission}
    {e : Error}
    (herr : (applyTransaction sub.env idn sys.store sub.ctx sub.tx sys.mempool).result = .error e)
    {a : AccountID} {n : Nat} (htracked : TrackedRestarts idn sys a n) :
    TrackedRestarts idn (sys.step idn (.submit sub)) a
      (if senderHit idn a sys sub then n + 1 else n) := by
  rw [MempoolSystem.step_rejected idn herr]
  intro s hs
  obtain ⟨done, current, hacc, hlen, hdone, hcur, hledger⟩ := htracked s hs
  have hgrow : n ≤ if senderHit idn a sys sub then n + 1 else n := by split <;> omega
  cases hid : idn.marshal a with
  | error e' =>
    exact ⟨done, current, hacc, hlen.trans hgrow, hdone, hcur, fun _ h => nomatch h⟩
  | ok id =>
    rcases applyTransaction_error_pending_cases sub.env idn sys.store hinj herr hid with
      hsame | ⟨hkey, hstore⟩
    · exact ⟨done, current, hacc, hlen.trans hgrow, hdone, hcur,
        fun id' hid' => hsame.trans (hledger id' (hid.trans hid'))⟩
    · have hhit : senderHit idn a sys sub = true := by
        simp [senderHit, herr, hid, hkey]
      refine ⟨done ++ [current], [], ?_, ?_, fun seg hseg => ?_, admissible_nil s,
        fun _ _ => hstore.trans hs⟩
      · simpa only [List.flatten_append, List.flatten_cons, List.flatten_nil, List.append_nil]
          using hacc
      · simpa [hhit] using hlen
      · rcases List.mem_append.mp hseg with h | h
        · exact hdone seg h
        · rw [List.mem_singleton.mp h]
          exact hcur

theorem restarts_step (hinj : idn.KeysInjective) {sys : MempoolSystem} {sub : Submission}
    {a : AccountID} {n : Nat} (htracked : TrackedRestarts idn sys a n) :
    TrackedRestarts idn (sys.step idn (.submit sub)) a
      (if senderHit idn a sys sub then n + 1 else n) := by
  cases hres : (applyTransaction sub.env idn sys.store sub.ctx sub.tx sys.mempool).result with
  | error e => exact restarts_reject idn hinj hres htracked
  | ok u =>
    obtain ⟨acctID, -, -, -, hsender, -⟩ := applyTransaction_ok sub.env idn sys.store hres
    have hstep := restarts_accept idn hinj hres hsender htracked
    intro s hs
    obtain ⟨done, current, hacc, hlen, hrest⟩ := hstep s hs
    exact ⟨done, current, hacc, hlen.trans (by split <;> omega), hrest⟩

theorem restarts_run (hinj : idn.KeysInjective) (a : AccountID) :
    ∀ (events : List MempoolEvent) (sys : MempoolSystem) (n : Nat),
      TrackedRestarts idn sys a n →
        TrackedRestarts idn (sys.run idn events) a (senderHits idn a sys events n)
  | [], _, _, htracked => htracked
  | .reset store :: events, _, _, _ =>
    restarts_run hinj a events (.init store) 0 (restarts_init idn store a)
  | .submit _ :: events, _, _, htracked =>
    restarts_run hinj a events _ _ (restarts_step idn hinj htracked)

/-- Over every run from a fresh mempool in which distinct accounts have distinct keys, and with no
condition on the transactions' raw `Sender` bytes: the transactions accepted for an account since
the last reset are ledger runs from its store state, one after another, each admissible; there are
no more completed runs than rejected submissions since the last reset whose raw `Sender` bytes are
the account's key; and the pending state the mempool reports for an account with a key is the
ledger's after the current run. With no such submission, the accepted transactions are one
admissible run and the pending state is their ledger's. -/
theorem run_restarts_ledger (hinj : idn.KeysInjective) {store : AccountStore}
    {events : List MempoolEvent} {sys : MempoolSystem}
    (hrun : (MempoolSystem.init store).run idn events = sys) {a : AccountID} {s : Account}
    (hs : sys.store a = .ok s) :
    ∃ (done : List (List Accepted)) (current : List Accepted),
      sys.acceptedFor a = done.flatten ++ current ∧
      done.length ≤ senderHits idn a (.init store) events 0 ∧
      (∀ seg ∈ done, Admissible s seg) ∧ Admissible s current ∧
      ∀ id, idn.marshal a = .ok id →
        pendingAccount idn sys.store sys.mempool a = .ok (ledgerState s current) := by
  subst hrun
  exact restarts_run idn hinj a events _ 0 (restarts_init idn store a) s hs

end Restarts

/-- An `Identity` with distinct keys under which the raw `Sender` bytes `[7]` of the empty account
`⟨[7], "secp256k1"⟩` are the key of `fundedAccount`. -/
def Identity.clashing : Identity where
  senderAcctID tx :=
    if tx.sender = [2] then .ok fundedAccount
    else if tx.sender = [7] then .ok ⟨[7], "secp256k1"⟩
    else .error (.msg "unknown sender")
  marshal a :=
    if a = fundedAccount then .ok [7]
    else if a = ⟨[7], "secp256k1"⟩ then .ok [8]
    else .error (.msg "unknown account")

theorem Identity.clashing_keysInjective : Identity.clashing.KeysInjective := by
  intro a b id ha hb
  simp only [Identity.clashing] at ha hb
  split_ifs at ha hb with ha₁ ha₂ hb₁ hb₂ hb₁ hb₂ <;>
    simp only [Except.ok.injEq, reduceCtorEq] at ha hb <;> subst ha <;> simp_all

/-- A transaction of the empty account `⟨[7], "secp256k1"⟩`. -/
def emptySenderTx : Transaction := ⟨⟨.other "execute", [], 0, 1⟩, "secp256k1", [7]⟩

/-- `fundedTx`, then `emptySenderTx`, rejected as unfunded, which deletes the entry under `[7]`,
then `fundedTx` again. -/
def restartRun : List MempoolEvent :=
  [.submit ⟨.refusing, gasContext, fundedTx⟩,
    .submit ⟨.refusing, gasContext, emptySenderTx⟩,
    .submit ⟨.refusing, gasContext, fundedTx⟩]

/-- On `restartRun` the ledger of `fundedAccount` restarts once. -/
theorem run_restarts_ledger_restartRun :
    ∃ (done : List (List Accepted)) (current : List Accepted),
      ((MempoolSystem.init twoAccountStore).run .clashing restartRun).acceptedFor fundedAccount =
          done.flatten ++ current ∧
        done.length ≤ senderHits .clashing fundedAccount (.init twoAccountStore) restartRun 0 ∧
        (∀ seg ∈ done, Admissible ⟨0, 10⟩ seg) ∧ Admissible ⟨0, 10⟩ current ∧
        ∀ id, Identity.clashing.marshal fundedAccount = .ok id →
          pendingAccount .clashing
              ((MempoolSystem.init twoAccountStore).run .clashing restartRun).store
              ((MempoolSystem.init twoAccountStore).run .clashing restartRun).mempool
              fundedAccount =
            .ok (ledgerState ⟨0, 10⟩ current) :=
  run_restarts_ledger .clashing Identity.clashing_keysInjective rfl rfl

/- Under `Identity.clashing`, whose keys are distinct, `fundedAccount` still has the nonce 1
accepted twice, and `restartRun` holds one submission that hits its key. -/
example :
    (((MempoolSystem.init twoAccountStore).run .clashing restartRun).acceptedFor
        fundedAccount).map (·.tx.body.nonce) = [1, 1] ∧
      senderHits .clashing fundedAccount (.init twoAccountStore) restartRun 0 = 1 :=
  ⟨rfl, rfl⟩

end KwilDb
