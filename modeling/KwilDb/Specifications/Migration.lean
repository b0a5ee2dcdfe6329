import KwilDb.Core.Types

/-! # The boot nodes of a migrated test network

`updatePersistentPeers` (`src/test/specifications/migration.go:137-149`): `ConfigureNewNetwork`
points each node of the new network at its peers by rewriting every boot node
`nodeID@host:port` to `nodeID@new-host:port`. It splits with `strings.Split` and indexes the pieces,
so a peer without `@`, or whose address has no `:`, panics with an index out of range; a host with
`:` in it, such as an IPv6 literal, is cut at its first `:`. `updatePersistentPeers_text` proves
that every list of peer addresses with no `@` and no `:` inside a part is rewritten as intended. -/

namespace KwilDb

/-- `strings.Split(s, sep)` for a separator of one byte, which is one character. -/
def stringsSplit (s : String) (sep : Char) : List String :=
  (s.toList.splitOn sep).map String.mk

/-- One iteration of the loop of `updatePersistentPeers`: `none` where `peerParts[1]` or
`address[1]` is out of range, which panics. -/
def updatePeer (peer : String) : Option String := do
  let peerParts := stringsSplit peer '@'
  let nodeId ← peerParts[0]?
  let address := stringsSplit (← peerParts[1]?) ':'
  pure (nodeId ++ "@new-" ++ (← address[0]?) ++ ":" ++ (← address[1]?))

/-- `updatePersistentPeers`: `none` where an iteration panics. -/
def updatePersistentPeers (peers : List String) : Option (List String) :=
  peers.mapM updatePeer

/-- A peer address `nodeID@host:port` with no `@` in its parts and no `:` in its host or port. -/
structure PeerAddress where
  nodeId : String
  host : String
  port : String
  nodeId_no_at : '@' ∉ nodeId.toList
  host_no_at : '@' ∉ host.toList
  host_no_colon : ':' ∉ host.toList
  port_no_at : '@' ∉ port.toList
  port_no_colon : ':' ∉ port.toList

/-- The text of the address. -/
def PeerAddress.text (p : PeerAddress) : String := p.nodeId ++ "@" ++ p.host ++ ":" ++ p.port

/-- The address of the node of the new network: `new-` before the host. -/
def PeerAddress.migrated (p : PeerAddress) : PeerAddress where
  nodeId := p.nodeId
  host := "new-" ++ p.host
  port := p.port
  nodeId_no_at := p.nodeId_no_at
  host_no_at := by simpa using p.host_no_at
  host_no_colon := by simpa using p.host_no_colon
  port_no_at := p.port_no_at
  port_no_colon := p.port_no_colon

/-- Splitting at the only separator gives the two sides. -/
theorem splitOn_two {a b : List Char} {sep : Char} (ha : sep ∉ a) (hb : sep ∉ b) :
    (a ++ sep :: b).splitOn sep = [a, b] := by
  have hnone : ∀ {l : List Char}, sep ∉ l → ∀ x ∈ l, ¬(x == sep) = true :=
    fun hl x hx h => hl (beq_iff_eq.mp h ▸ hx)
  rw [List.splitOn, List.splitOnP_first _ a (hnone ha) sep (by simp),
    List.splitOnP_eq_single _ b (hnone hb)]

theorem updatePeer_text (p : PeerAddress) : updatePeer p.text = some p.migrated.text := by
  have hparts :
      stringsSplit p.text '@' = [p.nodeId, ⟨p.host.toList ++ ':' :: p.port.toList⟩] := by
    have hrest : '@' ∉ p.host.toList ++ ':' :: p.port.toList := by
      simp only [List.mem_append, List.mem_cons, not_or]
      exact ⟨p.host_no_at, by decide, p.port_no_at⟩
    have htext :
        p.text.toList = p.nodeId.toList ++ '@' :: (p.host.toList ++ ':' :: p.port.toList) := by
      simp [PeerAddress.text]
    rw [stringsSplit, htext, splitOn_two p.nodeId_no_at hrest]
    rfl
  have haddress : stringsSplit ⟨p.host.toList ++ ':' :: p.port.toList⟩ ':' = [p.host, p.port] := by
    rw [stringsSplit, String.toList, splitOn_two p.host_no_colon p.port_no_colon]
    rfl
  simp only [updatePeer, hparts, haddress, List.getElem?_cons_zero, List.getElem?_cons_succ,
    Option.bind_eq_bind, Option.some_bind]
  congr 1
  simp only [PeerAddress.migrated, PeerAddress.text, String.append_assoc]
  rfl

/-- Every list of peer addresses with no `@` in their parts and no `:` in their hosts and ports is
rewritten, in order, to the addresses of the new network's nodes; these are again such addresses,
so the rewrite applies to its own result. -/
theorem updatePersistentPeers_text (peers : List PeerAddress) :
    updatePersistentPeers (peers.map PeerAddress.text) =
      some (peers.map fun p => p.migrated.text) := by
  induction peers with
  | nil => rfl
  | cons p ps ih =>
    simp only [updatePersistentPeers] at ih
    rw [updatePersistentPeers, List.map_cons, List.mapM_cons, updatePeer_text, ih]
    rfl

/-- A split has one more piece than the list has separators. -/
theorem length_splitOn (l : List Char) (c : Char) : (l.splitOn c).length = l.count c + 1 := by
  induction l with
  | nil => rfl
  | cons x xs ih =>
    simp only [List.splitOn] at ih ⊢
    rw [List.splitOnP_cons, List.count_cons]
    split <;> simp_all

theorem mem_iff_two_le_length_splitOn (l : List Char) (c : Char) :
    c ∈ l ↔ 2 ≤ (l.splitOn c).length := by
  rw [length_splitOn, ← List.count_pos_iff]
  omega

/-- An iteration returns exactly when the peer has an `@` and the piece after its first `@` has
a `:`. -/
theorem updatePeer_isSome_iff (peer : String) :
    (updatePeer peer).isSome ↔
      '@' ∈ peer.toList ∧ ':' ∈ (peer.toList.splitOn '@').getD 1 [] := by
  rw [mem_iff_two_le_length_splitOn]
  unfold updatePeer stringsSplit
  obtain ⟨nodeId, rest, hparts⟩ := List.exists_cons_of_ne_nil (List.splitOnP_ne_nil
    (· == '@') peer.toList)
  rw [List.splitOn, hparts]
  cases rest with
  | nil => simp
  | cons address rest =>
    rw [mem_iff_two_le_length_splitOn]
    obtain ⟨host, more, haddress⟩ := List.exists_cons_of_ne_nil (List.splitOnP_ne_nil
      (· == ':') address)
    cases more <;> simp [List.splitOn, haddress, String.toList]

/- An IPv6 host is cut at its first colon. -/
example : updatePeer "id@[::1]:26656" = some "id@new-[:" := rfl

/-- `updatePersistentPeers` returns exactly when every peer has an `@` and the piece after its
first `@` has a `:`; otherwise it panics with an index out of range. -/
theorem updatePersistentPeers_isSome_iff (peers : List String) :
    (updatePersistentPeers peers).isSome ↔
      ∀ peer ∈ peers, '@' ∈ peer.toList ∧ ':' ∈ (peer.toList.splitOn '@').getD 1 [] := by
  induction peers with
  | nil => simp only [List.not_mem_nil, false_implies, implies_true, iff_true]; rfl
  | cons peer peers ih =>
    rw [List.forall_mem_cons, ← updatePeer_isSome_iff, ← ih]
    simp only [updatePersistentPeers, List.mapM_cons]
    cases updatePeer peer <;> cases List.mapM updatePeer peers <;> simp

end KwilDb
