import KwilDb.Txapp.Mempool

/-! # The ledger the mempool keeps

What the mempool's account map is for, stated without its keys or its cache: for each account, the
state the account store committed and the transactions accepted for it since, in order. A
transaction may follow a pending state when it carries the next nonce and transfers an amount that
is not negative and, unless it is zero, not above the pending balance (`Account.Admits`); it then
moves the pending state to its own nonce and lowers the balance by its fee and amount, but not below
zero (`Account.afterAccepted`, the update at `mempool.go:236-249`). `ledgerState` folds the
accepted transactions over the committed state.

Over admissible sequences the ledger keeps the nonces consecutive, and, while fees are not negative,
the pending balance between zero and the committed balance less what was transferred. `Runs` shows
that the mempool's map computes `ledgerState`. -/

namespace KwilDb

/-- A transaction the mempool accepted, with its sender's account and the amount it transfers. -/
structure Accepted where
  acctID : AccountID
  tx : Transaction
  amount : Int

/-- What an accepted transaction spends: its fee and the amount it transfers. -/
def Accepted.spend (x : Accepted) : Int := x.tx.body.fee + x.amount

/-- The pending state after `x`: its nonce, and the balance lowered by its spend, but not below
zero. -/
def Account.afterAccepted (acct : Account) (x : Accepted) : Account :=
  ⟨x.tx.body.nonce, if x.spend > acct.balance then 0 else acct.balance - x.spend⟩

/-- `x` may follow the pending state `acct`: it carries the next nonce and transfers an amount that
is not negative and, unless it is zero, not above the balance. -/
def Account.Admits (acct : Account) (x : Accepted) : Prop :=
  x.tx.body.nonce = acct.nonce + 1 ∧ 0 ≤ x.amount ∧
    (x.amount = 0 ∨ x.amount ≤ acct.balance)

/-- The pending state of an account committed at `s` after the transactions `L`. -/
def ledgerState (s : Account) (L : List Accepted) : Account := L.foldl Account.afterAccepted s

/-- Each transaction of `L` may follow the pending state the ones before it leave. -/
def Admissible : Account → List Accepted → Prop
  | _, [] => True
  | acct, x :: L => acct.Admits x ∧ Admissible (acct.afterAccepted x) L

@[simp] theorem ledgerState_nil (s : Account) : ledgerState s [] = s := rfl

@[simp] theorem ledgerState_cons (s : Account) (x : Accepted) (L : List Accepted) :
    ledgerState s (x :: L) = ledgerState (s.afterAccepted x) L := rfl

theorem ledgerState_append_singleton (s : Account) (L : List Accepted) (x : Accepted) :
    ledgerState s (L ++ [x]) = (ledgerState s L).afterAccepted x := by
  simp [ledgerState, List.foldl_append]

@[simp] theorem admissible_nil (s : Account) : Admissible s [] := trivial

@[simp] theorem admissible_cons (s : Account) (x : Accepted) (L : List Accepted) :
    Admissible s (x :: L) ↔ s.Admits x ∧ Admissible (s.afterAccepted x) L := Iff.rfl

theorem admissible_append_singleton (s : Account) (L : List Accepted) (x : Accepted) :
    Admissible s (L ++ [x]) ↔ Admissible s L ∧ (ledgerState s L).Admits x := by
  induction L generalizing s with
  | nil => simp
  | cons y L ih => simp [ih, and_assoc]

theorem nonce_add_succ (n : BitVec 64) (k : Nat) :
    n + 1 + BitVec.ofNat 64 k = n + BitVec.ofNat 64 (k + 1) := by
  bv_omega

/-- Over an admissible sequence the nonces are the ones after the committed nonce, in order, and
the pending nonce is the last of them. -/
theorem Admissible.nonces {s : Account} {L : List Accepted} (hadm : Admissible s L) :
    L.map (·.tx.body.nonce) =
        (List.range L.length).map (fun i => s.nonce + BitVec.ofNat 64 (i + 1)) ∧
      (ledgerState s L).nonce = s.nonce + BitVec.ofNat 64 L.length := by
  induction L generalizing s with
  | nil => simp
  | cons x L ih =>
    obtain ⟨⟨hnonce, -⟩, hrest⟩ := hadm
    have hnext : (s.afterAccepted x).nonce = s.nonce + 1 := hnonce
    obtain ⟨hnonces, hlast⟩ := ih hrest
    rw [hnext] at hnonces hlast
    refine ⟨?_, by rw [ledgerState_cons, hlast, List.length_cons, nonce_add_succ]⟩
    rw [List.length_cons, List.range_succ_eq_map, List.map_cons, List.map_cons, hnonces,
      List.map_map, hnonce]
    congr 1
    exact List.map_congr_left fun i _ => nonce_add_succ s.nonce (i + 1)

theorem Admissible.sum_amounts_nonneg {s : Account} {L : List Accepted} (hadm : Admissible s L) :
    0 ≤ (L.map (·.amount)).sum := by
  induction L generalizing s with
  | nil => simp
  | cons x L ih =>
    obtain ⟨⟨-, hamount, -⟩, hrest⟩ := hadm
    have := ih hrest
    simp only [List.map_cons, List.sum_cons]
    omega

/-- One admitted transaction with a fee that is not negative keeps the balance between zero and
the balance before it less the amount it transfers. -/
theorem Account.afterAccepted_balance {acct : Account} {x : Accepted} (hadmits : acct.Admits x)
    (hfee : 0 ≤ x.tx.body.fee) (hbalance : 0 ≤ acct.balance) :
    0 ≤ (acct.afterAccepted x).balance ∧
      (acct.afterAccepted x).balance + x.amount ≤ acct.balance := by
  obtain ⟨-, hpos, hbounded⟩ := hadmits
  simp only [Account.afterAccepted, Accepted.spend]
  split_ifs <;> omega

/-- Over an admissible sequence whose fees are not negative, from a committed balance that is not
negative, the pending balance stays between zero and the committed balance less the amounts
transferred. -/
theorem Admissible.balance {s : Account} {L : List Accepted} (hadm : Admissible s L)
    (hfees : ∀ x ∈ L, 0 ≤ x.tx.body.fee) (hbalance : 0 ≤ s.balance) :
    0 ≤ (ledgerState s L).balance ∧
      (ledgerState s L).balance + (L.map (·.amount)).sum ≤ s.balance := by
  induction L generalizing s with
  | nil => simpa using hbalance
  | cons x L ih =>
    obtain ⟨hadmits, hrest⟩ := hadm
    simp only [List.mem_cons, forall_eq_or_imp] at hfees
    obtain ⟨hstep0, hstep⟩ := Account.afterAccepted_balance hadmits hfees.1 hbalance
    obtain ⟨h0, hsum⟩ := ih hrest hfees.2 hstep0
    simp only [ledgerState_cons, List.map_cons, List.sum_cons]
    exact ⟨h0, by omega⟩

theorem nonces_nodup (n : BitVec 64) {k : Nat} (hk : k ≤ 2 ^ 64) :
    ((List.range k).map fun i => n + BitVec.ofNat 64 (i + 1)).Nodup := by
  refine (List.nodup_range k).map_on fun i hi j hj h => ?_
  rw [List.mem_range] at hi hj
  bv_omega

end KwilDb
