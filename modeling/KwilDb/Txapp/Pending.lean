import KwilDb.Txapp.Firewall

/-! # What one call does to the pending account states

The pending state the mempool reports for an account is its entry in `accounts` under the
marshalled `AccountID`, else the account store's (`pendingAccount`, what `accountInfo` returns).
This module says once what a call of `applyTransaction` can do to the map: an accepted
transaction overwrites its sender's entry with the advanced nonce and the lowered balance; a
rejected one may cache a store state, and in the unfunded-sender branch it deletes the entry whose
key is the transaction's raw `Sender` bytes (`mempool.go:172`), although entries are keyed by the
marshalled `AccountID` (`mempool.go:39`). -/

namespace KwilDb

section Pending

variable (env : Env) (idn : Identity) (store : AccountStore)

/-- The pending state of an account: what `accountInfo` returns for it. -/
def pendingAccount (m : Mempool) (acctID : AccountID) : Except Error Account :=
  (accountInfo idn store m acctID).1.map Prod.snd

/-- `m'` is `m`, or `m` with the store state of an account without an entry cached. -/
def CachedFrom (m m' : Mempool) : Prop :=
  m' = m ∨ ∃ acctID id acct, idn.marshal acctID = .ok id ∧ m.accounts id = none ∧
    store acctID = .ok acct ∧ m' = m.insert id acct

theorem cachedFrom_refl (m : Mempool) : CachedFrom idn store m m := .inl rfl

theorem accountInfo_cached (m : Mempool) (acctID : AccountID) :
    CachedFrom idn store m (accountInfo idn store m acctID).2 := by
  cases hid : idn.marshal acctID with
  | error e => simp [accountInfo, hid, cachedFrom_refl]
  | ok id =>
    cases hentry : m.accounts id with
    | some acct => simp [accountInfo, hid, hentry, cachedFrom_refl]
    | none =>
      cases hstore : store acctID with
      | error e => simp [accountInfo, hid, hentry, hstore, cachedFrom_refl]
      | ok acct =>
        simp only [accountInfo, hid, hentry, hstore]
        exact .inr ⟨acctID, id, acct, hid, hentry, hstore, rfl⟩

/-- A successful `accountInfo` reads the entry under the marshalled `AccountID`, or the store's
state when there is none. -/
theorem accountInfo_ok {m : Mempool} {acctID : AccountID} {id : Bytes} {acct : Account}
    (hinfo : (accountInfo idn store m acctID).1 = .ok (id, acct)) :
    idn.marshal acctID = .ok id ∧
      (m.accounts id = some acct ∨ (m.accounts id = none ∧ store acctID = .ok acct)) := by
  unfold accountInfo at hinfo
  cases hid : idn.marshal acctID with
  | error e => simp [hid] at hinfo
  | ok id' =>
    cases hentry : m.accounts id' with
    | some acct' =>
      simp only [hid, hentry, Except.ok.injEq, Prod.mk.injEq] at hinfo
      obtain ⟨rfl, rfl⟩ := hinfo
      exact ⟨rfl, .inl hentry⟩
    | none =>
      cases hstore : store acctID with
      | error e => simp [hid, hentry, hstore] at hinfo
      | ok acct' =>
        simp only [hid, hentry, hstore, Except.ok.injEq, Prod.mk.injEq] at hinfo
        obtain ⟨rfl, rfl⟩ := hinfo
        exact ⟨rfl, .inr ⟨hentry, rfl⟩⟩

/-- A successful `accountInfo` leaves the account it read in the map, under its key. -/
theorem accountInfo_ok_entry {m : Mempool} {acctID : AccountID} {id : Bytes} {acct : Account}
    (hinfo : (accountInfo idn store m acctID).1 = .ok (id, acct)) :
    (accountInfo idn store m acctID).2 = m ∨
      (accountInfo idn store m acctID).2 = m.insert id acct := by
  obtain ⟨hid, hentry | ⟨hentry, hstore⟩⟩ := accountInfo_ok idn store hinfo
  · simp [accountInfo, hid, hentry]
  · simp [accountInfo, hid, hentry, hstore]

theorem Mempool.insert_insert (m : Mempool) (key : Bytes) (acct acct' : Account) :
    (m.insert key acct).insert key acct' = m.insert key acct' := by
  simp only [Mempool.insert, Mempool.mk.injEq]
  funext k
  split <;> rfl

theorem applyToPending_error {params : NetworkParameters} {tx : Transaction} {m : Mempool}
    {id : Bytes} {acct : Account} {e : Error}
    (herr : (applyToPending env params tx m id acct).result = .error e) :
    (applyToPending env params tx m id acct).mempool = m ∨
      (applyToPending env params tx m id acct).mempool = m.erase tx.sender := by
  unfold applyToPending at herr ⊢
  split at herr
  · rename_i hfunded
    rw [if_pos hfunded]
    exact .inr rfl
  · rename_i hfunded
    rw [if_neg hfunded]
    split at herr
    · rename_i hnonce
      rw [if_pos hnonce]
      split <;> exact .inl rfl
    · rename_i hnonce
      rw [if_neg hnonce]
      split at herr
      · rename_i hspend
        simp [hspend]
      · cases herr

theorem applyToPending_ok {params : NetworkParameters} {tx : Transaction} {m : Mempool}
    {id : Bytes} {acct : Account}
    (hok : (applyToPending env params tx m id acct).result = .ok ()) :
    ¬(params.disabledGasCosts = false ∧ acct.nonce = 0 ∧ acct.balance = 0) ∧
      tx.body.nonce = acct.nonce + 1 ∧ ∃ spend, spendOf env tx acct = .ok spend ∧
      (applyToPending env params tx m id acct).mempool =
        m.insert id
          ⟨tx.body.nonce, if spend > acct.balance then 0 else acct.balance - spend⟩ := by
  unfold applyToPending at hok ⊢
  split at hok
  · cases hok
  · rename_i hfunded
    split at hok
    · split at hok <;> cases hok
    · rename_i hnonce
      split at hok
      · cases hok
      · rename_i spend hspend
        refine ⟨by simpa using hfunded, by simpa using hnonce, spend, hspend, ?_⟩
        rw [if_neg hfunded, if_neg hnonce]

/-- What `applyToAccount` can do: stop with the error of `TxSenderAcctID` or of `accountInfo`,
with the map as `accountInfo` left it and no vote ID handed on, or run `applyToPending` on the
pending state `accountInfo` read. -/
theorem applyToAccount_cases (params : NetworkParameters) (tx : Transaction) (m : Mempool) :
    (∃ e m₁, CachedFrom idn store m m₁ ∧
        (idn.senderAcctID tx = .error e ∨ ∃ acctID, idn.senderAcctID tx = .ok acctID ∧
          (accountInfo idn store m acctID).1 = .error e) ∧
        applyToAccount env idn store params tx m = ⟨.error e, m₁, []⟩) ∨
      ∃ acctID id acct, idn.senderAcctID tx = .ok acctID ∧
        (accountInfo idn store m acctID).1 = .ok (id, acct) ∧
        applyToAccount env idn store params tx m =
          applyToPending env params tx (accountInfo idn store m acctID).2 id acct := by
  cases hsender : idn.senderAcctID tx with
  | error e =>
    exact .inl ⟨e, m, cachedFrom_refl idn store m, .inl rfl,
      by simp only [applyToAccount, hsender]⟩
  | ok acctID =>
    have hcached := accountInfo_cached idn store m acctID
    cases hinfo : accountInfo idn store m acctID with
    | mk r m₁ =>
      rw [hinfo] at hcached
      cases r with
      | error e =>
        exact .inl ⟨e, m₁, hcached, .inr ⟨acctID, rfl, by rw [hinfo]⟩,
          by simp only [applyToAccount, hsender, hinfo]⟩
      | ok read =>
        obtain ⟨id, acct⟩ := read
        exact .inr ⟨acctID, id, acct, rfl, by rw [hinfo],
          by simp only [applyToAccount, hsender, hinfo]⟩

/-- A rejected transaction leaves the map as it was, with perhaps one store state cached and
perhaps the entry under the raw `Sender` bytes deleted. -/
theorem applyToAccount_error {params : NetworkParameters} {tx : Transaction} {m : Mempool}
    {e : Error} (herr : (applyToAccount env idn store params tx m).result = .error e) :
    ∃ m₁, CachedFrom idn store m m₁ ∧
      ((applyToAccount env idn store params tx m).mempool = m₁ ∨
        (applyToAccount env idn store params tx m).mempool = m₁.erase tx.sender) := by
  rcases applyToAccount_cases env idn store params tx m with
    ⟨e', m₁, hcached, -, happ⟩ | ⟨acctID, id, acct, -, -, happ⟩ <;> rw [happ] at herr ⊢
  · exact ⟨m₁, hcached, .inl rfl⟩
  · exact ⟨_, accountInfo_cached idn store m acctID, applyToPending_error env herr⟩

/-- An accepted transaction has its sender's pending state, with the next nonce and no unfunded
account, and overwrites that state with its nonce and the balance lowered by what it spends, but
not below zero. -/
theorem applyToAccount_ok {params : NetworkParameters} {tx : Transaction} {m : Mempool}
    (hok : (applyToAccount env idn store params tx m).result = .ok ()) :
    ∃ acctID id acct spend, idn.senderAcctID tx = .ok acctID ∧ idn.marshal acctID = .ok id ∧
      (m.accounts id = some acct ∨ (m.accounts id = none ∧ store acctID = .ok acct)) ∧
      ¬(params.disabledGasCosts = false ∧ acct.nonce = 0 ∧ acct.balance = 0) ∧
      tx.body.nonce = acct.nonce + 1 ∧ spendOf env tx acct = .ok spend ∧
      (applyToAccount env idn store params tx m).mempool =
        m.insert id
          ⟨tx.body.nonce, if spend > acct.balance then 0 else acct.balance - spend⟩ := by
  rcases applyToAccount_cases env idn store params tx m with
    ⟨e, m₁, -, -, happ⟩ | ⟨acctID, id, acct, hsender, hread, happ⟩ <;>
    rw [happ] at hok ⊢
  · cases hok
  · obtain ⟨hid, hpending⟩ := accountInfo_ok idn store hread
    obtain ⟨hfunded, hnonce, spend, hspend, hmempool⟩ := applyToPending_ok env hok
    refine ⟨acctID, id, acct, spend, hsender, hid, hpending, hfunded, hnonce, hspend, ?_⟩
    rcases accountInfo_ok_entry idn store hread with hentry | hentry <;> rw [hmempool, hentry]
    exact Mempool.insert_insert _ _ _ _

theorem applyTransaction_error {ctx : TxContext} {tx : Transaction} {m : Mempool} {e : Error}
    (herr : (applyTransaction env idn store ctx tx m).result = .error e) :
    ∃ m₁, CachedFrom idn store m m₁ ∧
      ((applyTransaction env idn store ctx tx m).mempool = m₁ ∨
        (applyTransaction env idn store ctx tx m).mempool = m₁.erase tx.sender) := by
  simp only [applyTransaction] at herr ⊢
  split
  · exact ⟨m, cachedFrom_refl idn store m, .inl rfl⟩
  · rename_i hchecks
    rw [hchecks] at herr
    exact applyToAccount_error env idn store herr

theorem applyTransaction_ok {ctx : TxContext} {tx : Transaction} {m : Mempool}
    (hok : (applyTransaction env idn store ctx tx m).result = .ok ()) :
    ∃ acctID id acct spend, idn.senderAcctID tx = .ok acctID ∧ idn.marshal acctID = .ok id ∧
      (m.accounts id = some acct ∨ (m.accounts id = none ∧ store acctID = .ok acct)) ∧
      ¬(ctx.blockContext.chainContext.networkParameters.disabledGasCosts = false ∧
        acct.nonce = 0 ∧ acct.balance = 0) ∧
      tx.body.nonce = acct.nonce + 1 ∧ spendOf env tx acct = .ok spend ∧
      (applyTransaction env idn store ctx tx m).mempool =
        m.insert id
          ⟨tx.body.nonce, if spend > acct.balance then 0 else acct.balance - spend⟩ := by
  simp only [applyTransaction] at hok ⊢
  split at hok
  · cases hok
  · exact applyToAccount_ok env idn store hok

/-- Distinct account identifiers marshal to distinct keys. -/
def Identity.KeysInjective (idn : Identity) : Prop :=
  ∀ a b id, idn.marshal a = .ok id → idn.marshal b = .ok id → a = b

theorem pendingAccount_of_marshal {m : Mempool} {acctID : AccountID} {id : Bytes}
    (hid : idn.marshal acctID = .ok id) :
    pendingAccount idn store m acctID =
      match m.accounts id with
      | some acct => .ok acct
      | none => store acctID := by
  cases hentry : m.accounts id with
  | some acct => simp [pendingAccount, accountInfo, hid, hentry, Except.map]
  | none =>
    cases hstore : store acctID <;>
      simp [pendingAccount, accountInfo, hid, hentry, hstore, Except.map]

theorem pendingAccount_of_marshal_error {m : Mempool} {acctID : AccountID} {e : Error}
    (hid : idn.marshal acctID = .error e) : pendingAccount idn store m acctID = .error e := by
  simp [pendingAccount, accountInfo, hid, Except.map]

/-- An account whose pending state the mempool reports has a key. -/
theorem marshal_ok_of_pendingAccount {m : Mempool} {acctID : AccountID} {acct : Account}
    (h : pendingAccount idn store m acctID = .ok acct) : ∃ id, idn.marshal acctID = .ok id := by
  cases hid : idn.marshal acctID with
  | error e => simp [pendingAccount_of_marshal_error idn store hid] at h
  | ok id => exact ⟨id, rfl⟩

/-- Caching a store state changes no pending state. -/
theorem pendingAccount_cachedFrom (hinj : idn.KeysInjective) {m m₁ : Mempool}
    (hcached : CachedFrom idn store m m₁) (acctID : AccountID) :
    pendingAccount idn store m₁ acctID = pendingAccount idn store m acctID := by
  rcases hcached with rfl | ⟨acctID₀, id₀, acct₀, hid₀, hentry₀, hstore₀, rfl⟩
  · rfl
  cases hid : idn.marshal acctID with
  | error e => simp [pendingAccount_of_marshal_error idn store hid]
  | ok id =>
    rw [pendingAccount_of_marshal idn store hid, pendingAccount_of_marshal idn store hid]
    by_cases hsame : id = id₀
    · subst hsame
      obtain rfl := hinj _ _ _ hid hid₀
      simp [hentry₀, hstore₀]
    · simp [hsame]

/-- Deleting the entry under a key changes the pending state of no account with another key. -/
theorem pendingAccount_erase {m : Mempool} {key : Bytes} {acctID : AccountID}
    (hother : ∀ id, idn.marshal acctID = .ok id → id ≠ key) :
    pendingAccount idn store (m.erase key) acctID = pendingAccount idn store m acctID := by
  cases hid : idn.marshal acctID with
  | error e => simp [pendingAccount_of_marshal_error idn store hid]
  | ok id => simp [pendingAccount_of_marshal idn store hid, hother id hid]

/-- The pending state `accountInfo` reads: the entry under the key, else the store's. -/
theorem pendingAccount_of_read {m : Mempool} {acctID : AccountID} {id : Bytes} {acct : Account}
    (hid : idn.marshal acctID = .ok id)
    (hread : m.accounts id = some acct ∨ (m.accounts id = none ∧ store acctID = .ok acct)) :
    pendingAccount idn store m acctID = .ok acct := by
  rw [pendingAccount_of_marshal idn store hid]
  rcases hread with hentry | ⟨hentry, hstore⟩ <;> simp [*]

/-- Writing the entry of one account changes the pending state of that account alone. -/
theorem pendingAccount_insert (hinj : idn.KeysInjective) {m : Mempool} {acctID₀ : AccountID}
    {id₀ : Bytes} (hid₀ : idn.marshal acctID₀ = .ok id₀) (acct : Account)
    (acctID : AccountID) :
    pendingAccount idn store (m.insert id₀ acct) acctID =
      if acctID = acctID₀ then .ok acct else pendingAccount idn store m acctID := by
  split
  · subst acctID
    simp [pendingAccount_of_marshal idn store hid₀]
  · rename_i hne
    cases hid : idn.marshal acctID with
    | error e => simp [pendingAccount_of_marshal_error idn store hid]
    | ok id =>
      have hkey : id ≠ id₀ := fun h => hne (hinj _ _ _ hid (h ▸ hid₀))
      simp [pendingAccount_of_marshal idn store hid, hkey]

/-- An accepted transaction reads its sender's pending state, which has the nonce before the
transaction's, and replaces it with the transaction's nonce and the balance lowered by what it
spends, but not below zero; no other account's pending state changes. -/
theorem applyTransaction_ok_pending (hinj : idn.KeysInjective) {ctx : TxContext}
    {tx : Transaction} {m : Mempool}
    (hok : (applyTransaction env idn store ctx tx m).result = .ok ()) :
    ∃ acctID acct spend, idn.senderAcctID tx = .ok acctID ∧
      pendingAccount idn store m acctID = .ok acct ∧ tx.body.nonce = acct.nonce + 1 ∧
      spendOf env tx acct = .ok spend ∧
      ∀ a, pendingAccount idn store (applyTransaction env idn store ctx tx m).mempool a =
        if a = acctID then
          .ok ⟨tx.body.nonce, if spend > acct.balance then 0 else acct.balance - spend⟩
        else pendingAccount idn store m a := by
  obtain ⟨acctID, id, acct, spend, hsender, hid, hread, -, hnonce, hspend, hmempool⟩ :=
    applyTransaction_ok env idn store hok
  refine ⟨acctID, acct, spend, hsender, pendingAccount_of_read idn store hid hread, hnonce,
    hspend, fun a => ?_⟩
  rw [hmempool, pendingAccount_insert idn store hinj hid]

/-- A rejected transaction leaves the pending state of an account with a key as it was, unless that
key is the transaction's raw `Sender` bytes: then the entry is gone and the account falls back to
its store state. -/
theorem applyTransaction_error_pending_cases (hinj : idn.KeysInjective) {ctx : TxContext}
    {tx : Transaction} {m : Mempool} {e : Error}
    (herr : (applyTransaction env idn store ctx tx m).result = .error e) {acctID : AccountID}
    {id : Bytes} (hid : idn.marshal acctID = .ok id) :
    pendingAccount idn store (applyTransaction env idn store ctx tx m).mempool acctID =
        pendingAccount idn store m acctID ∨
      id = tx.sender ∧
        pendingAccount idn store (applyTransaction env idn store ctx tx m).mempool acctID =
          store acctID := by
  obtain ⟨m₁, hcached, hm | hm⟩ := applyTransaction_error env idn store herr <;> rw [hm]
  · exact .inl (pendingAccount_cachedFrom idn store hinj hcached acctID)
  by_cases hkey : id = tx.sender
  · refine .inr ⟨hkey, ?_⟩
    rw [pendingAccount_of_marshal idn store hid]
    simp [hkey]
  · have hother : ∀ id', idn.marshal acctID = .ok id' → id' ≠ tx.sender := fun id' hid' => by
      rwa [Except.ok.inj (hid'.symm.trans hid)]
    rw [pendingAccount_erase idn store hother]
    exact .inl (pendingAccount_cachedFrom idn store hinj hcached acctID)

/-- A rejected transaction changes the pending state of no account whose key differs from the
transaction's raw `Sender` bytes, when distinct accounts have distinct keys. -/
theorem applyTransaction_error_pending (hinj : idn.KeysInjective) {ctx : TxContext}
    {tx : Transaction} {m : Mempool} {e : Error}
    (herr : (applyTransaction env idn store ctx tx m).result = .error e) (acctID : AccountID)
    (hother : ∀ id, idn.marshal acctID = .ok id → id ≠ tx.sender) :
    pendingAccount idn store (applyTransaction env idn store ctx tx m).mempool acctID =
      pendingAccount idn store m acctID := by
  obtain ⟨m₁, hcached, hmempool | hmempool⟩ := applyTransaction_error env idn store herr <;>
    rw [hmempool]
  · exact pendingAccount_cachedFrom idn store hinj hcached acctID
  · rw [pendingAccount_erase idn store hother]
    exact pendingAccount_cachedFrom idn store hinj hcached acctID

/-- What `applyToPending` asks of the sender's pending state `acct`: not an unfunded account under
gas costs, the transaction's nonce next, and a spend that `spendOf` computes. -/
def PendingChecks (params : NetworkParameters) (tx : Transaction) (acct : Account) : Prop :=
  ¬(params.disabledGasCosts = false ∧ acct.nonce = 0 ∧ acct.balance = 0) ∧
    tx.body.nonce = acct.nonce + 1 ∧ ∃ spend, spendOf env tx acct = .ok spend

theorem applyToPending_result_ok_iff {params : NetworkParameters} {tx : Transaction}
    {m : Mempool} {id : Bytes} {acct : Account} :
    (applyToPending env params tx m id acct).result = .ok () ↔
      PendingChecks env params tx acct := by
  refine ⟨fun hok => ?_, ?_⟩
  · obtain ⟨hfunded, hnonce, spend, hspend, -⟩ := applyToPending_ok env hok
    exact ⟨hfunded, hnonce, spend, hspend⟩
  · rintro ⟨hfunded, hnonce, spend, hspend⟩
    have hgas : ¬(!params.disabledGasCosts && acct.nonce = 0 && acct.balance = 0) = true := by
      simpa using hfunded
    simp only [applyToPending, if_neg hgas, hnonce, ne_eq, not_true_eq_false, ↓reduceIte,
      hspend]

theorem applyToAccount_result_ok_iff {params : NetworkParameters} {tx : Transaction}
    {m : Mempool} :
    (applyToAccount env idn store params tx m).result = .ok () ↔
      ∃ acctID acct, idn.senderAcctID tx = .ok acctID ∧
        pendingAccount idn store m acctID = .ok acct ∧ PendingChecks env params tx acct := by
  refine ⟨fun hok => ?_, ?_⟩
  · obtain ⟨acctID, id, acct, spend, hsender, hid, hread, hfunded, hnonce, hspend, -⟩ :=
      applyToAccount_ok env idn store hok
    exact ⟨acctID, acct, hsender, pendingAccount_of_read idn store hid hread, hfunded, hnonce,
      spend, hspend⟩
  · rintro ⟨acctID, acct, hsender, hpending, hchecks⟩
    rcases applyToAccount_cases env idn store params tx m with
      ⟨e, m₁, -, hfail | ⟨acctID', hsender', hinfo⟩, happ⟩ |
        ⟨acctID', id, acct', hsender', hread, happ⟩ <;> rw [happ]
    · rw [hsender] at hfail
      cases hfail
    all_goals obtain rfl := Except.ok.inj (hsender'.symm.trans hsender)
    · simp [pendingAccount, hinfo, Except.map] at hpending
    · obtain rfl : acct' = acct := by simpa [pendingAccount, hread, Except.map] using hpending
      exact (applyToPending_result_ok_iff env).2 hchecks

/-- `applyTransaction` accepts a transaction exactly when it passes the migration and vote checks,
its sender's `AccountID` derives, and the sender's pending state passes `PendingChecks`. -/
theorem applyTransaction_result_ok_iff {ctx : TxContext} {tx : Transaction} {m : Mempool} :
    (applyTransaction env idn store ctx tx m).result = .ok () ↔
      migrationChecks env ctx.blockContext.chainContext.networkParameters.migrationStatus tx =
          .ok () ∧
        voteChecks env ctx.blockContext.chainContext.networkParameters tx = .ok () ∧
        ∃ acctID acct, idn.senderAcctID tx = .ok acctID ∧
          pendingAccount idn store m acctID = .ok acct ∧
          PendingChecks env ctx.blockContext.chainContext.networkParameters tx acct := by
  refine ⟨fun hok => ?_, ?_⟩
  · obtain ⟨hmig, hvote⟩ := applyTransaction_checks env idn store hok
    simp only [applyTransaction, hmig, bind_ok, hvote] at hok
    exact ⟨hmig, hvote, (applyToAccount_result_ok_iff env idn store).1 hok⟩
  · rintro ⟨hmig, hvote, hacct⟩
    simp only [applyTransaction, hmig, bind_ok, hvote]
    exact (applyToAccount_result_ok_iff env idn store).2 hacct

end Pending

/-- An account funded in `twoAccountStore`. -/
def fundedAccount : AccountID := ⟨[2], "secp256k1"⟩

/-- The account store with `fundedAccount` at nonce 0 and balance 10, and every other account
empty. -/
def twoAccountStore : AccountStore :=
  fun a => if a = fundedAccount then .ok ⟨0, 10⟩ else .ok ⟨0, 0⟩

/-- A block of a chain with no migration, with gas costs enabled. -/
def gasContext : TxContext :=
  ⟨⟨10, ⟨none, ⟨.noActiveMigration, 0, false⟩⟩⟩⟩

/-- The first transaction of `fundedAccount`. -/
def fundedTx : Transaction :=
  ⟨⟨.other "execute", [], 0, 1⟩, "secp256k1", [2]⟩

/-- A transaction from an empty account whose raw `Sender` bytes are the key of `fundedAccount`. -/
def clashingTx : Transaction :=
  ⟨⟨.other "execute", [], 0, 1⟩, "secp256k1",
    writeUint16 0 ++ writeString [2] ++ writeString (asciiBytes "secp256k1")⟩

/-- Rejecting `clashingTx` as unfunded deletes the pending entry of `fundedAccount`, whose
pending nonce falls back from 1 to the store's 0. -/
theorem applyTransaction_unfunded_drops_other_entry :
    (applyTransaction .refusing .framed twoAccountStore gasContext clashingTx
        (applyTransaction .refusing .framed twoAccountStore gasContext fundedTx
          .empty).mempool).result =
        .error (.sentinel .insufficientBalance) ∧
      pendingAccount .framed twoAccountStore
          (applyTransaction .refusing .framed twoAccountStore gasContext fundedTx .empty).mempool
          fundedAccount = .ok ⟨1, 10⟩ ∧
      pendingAccount .framed twoAccountStore
          (applyTransaction .refusing .framed twoAccountStore gasContext clashingTx
            (applyTransaction .refusing .framed twoAccountStore gasContext fundedTx
              .empty).mempool).mempool
          fundedAccount = .ok ⟨0, 10⟩ :=
  ⟨rfl, rfl, rfl⟩

/-- An `Identity` that knows one account, `fundedAccount`, the sender `[2]`, under the key `[7]`. -/
def Identity.single : Identity where
  senderAcctID tx := if tx.sender = [2] then .ok fundedAccount else .error (.msg "unknown sender")
  marshal a := if a = fundedAccount then .ok [7] else .error (.msg "unknown account")

theorem Identity.single_keysInjective : Identity.single.KeysInjective := by
  intro a b id ha hb
  simp only [Identity.single] at ha hb
  split at ha <;> split at hb <;> simp_all

/-- A transaction of `fundedAccount` with a nonce ahead of its pending one. -/
def aheadTx : Transaction := ⟨⟨.other "execute", [], 0, 5⟩, "secp256k1", [2]⟩

/-- `aheadTx` is rejected and leaves the pending state of `fundedAccount` alone. -/
theorem applyTransaction_error_pending_funded :
    (applyTransaction .refusing .single twoAccountStore gasContext aheadTx .empty).result =
        .error (.wrapped .invalidNonce (invalidNonceDetail aheadTx ⟨0, 10⟩)) ∧
      (∀ id, Identity.single.marshal fundedAccount = .ok id → id ≠ aheadTx.sender) ∧
      pendingAccount .single twoAccountStore
          (applyTransaction .refusing .single twoAccountStore gasContext aheadTx .empty).mempool
          fundedAccount =
        pendingAccount .single twoAccountStore .empty fundedAccount := by
  have hother :
      ∀ id, Identity.single.marshal fundedAccount = .ok id → id ≠ aheadTx.sender := by
    intro id hid
    simp only [Identity.single, if_pos] at hid
    cases hid
    decide
  exact ⟨rfl, hother, @applyTransaction_error_pending .refusing .single twoAccountStore
    Identity.single_keysInjective gasContext aheadTx .empty _ rfl fundedAccount hother⟩

end KwilDb
