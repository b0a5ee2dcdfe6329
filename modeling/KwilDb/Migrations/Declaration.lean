import KwilDb.Core.Serial

/-! # The migration declaration codec

`MigrationDeclaration` and its `MarshalBinary` / `UnmarshalBinary` (`kgw-test-reuse.yaml:318-381`,
the migrations package). The declaration is the payload of a `StartMigration` resolution; its
encoding is the version word, the two `uint64` fields and the length-prefixed timestamp. Decoding
stops after the timestamp and never looks at what is left in the reader. -/

namespace KwilDb

/-- `MigrationDeclaration`: the terms of a migration the validators vote on. `Timestamp` only
makes two proposals' encodings differ. -/
structure MigrationDeclaration where
  activationPeriod : BitVec 64
  duration : BitVec 64
  timestamp : Bytes
  deriving DecidableEq, Repr

/-- `migrationDeclarationVersion`. -/
def migrationDeclarationVersion : Nat := 0

namespace MigrationDeclaration

/-- `MigrationDeclaration.MarshalBinary`. Its writes go to a `bytes.Buffer` and cannot fail, so
the error it returns is always `nil`. -/
def marshalBinary (md : MigrationDeclaration) : Bytes :=
  writeUint16 (BitVec.ofNat 16 migrationDeclarationVersion) ++ writeUint64 md.activationPeriod ++
    writeUint64 md.duration ++ writeString md.timestamp

/-- `MigrationDeclaration.UnmarshalBinary`, returning the declaration it fills in. -/
def unmarshalBinary (data : Bytes) : Except Error MigrationDeclaration := do
  let (version, rd) ← readUint16 data
  if version.toNat ≠ migrationDeclarationVersion then
    throw (.msg ("invalid migration declaration version: " ++ toString version.toNat))
  let (activationPeriod, rd) ← readUint64 rd
  let (duration, rd) ← readUint64 rd
  let (timestamp, _) ← readString rd
  return ⟨activationPeriod, duration, timestamp⟩

/-- Decoding an encoding followed by any bytes gives the declaration back. -/
theorem unmarshalBinary_marshalBinary_append (md : MigrationDeclaration) (rest : Bytes)
    (hfits : md.timestamp.length < 2 ^ 32) :
    unmarshalBinary (md.marshalBinary ++ rest) = .ok md := by
  simp [unmarshalBinary, marshalBinary, List.append_assoc, readString_writeString _ hfits,
    migrationDeclarationVersion]

theorem unmarshalBinary_marshalBinary (md : MigrationDeclaration)
    (hfits : md.timestamp.length < 2 ^ 32) :
    unmarshalBinary md.marshalBinary = .ok md := by
  simpa using unmarshalBinary_marshalBinary_append md [] hfits

/-- The proposal of the integration test `SubmitMigrationProposal`: activation period 1 and
duration 100, with its creation time as the timestamp, which the client (not in the sources)
sets. -/
def testProposal : MigrationDeclaration := ⟨1, 100, asciiBytes "2024-06-01T12:00:00Z"⟩

theorem unmarshalBinary_marshalBinary_testProposal :
    testProposal.timestamp.length < 2 ^ 32 ∧
      unmarshalBinary testProposal.marshalBinary = .ok testProposal :=
  ⟨by decide, unmarshalBinary_marshalBinary _ (by decide)⟩

/-- What `UnmarshalBinary` accepts is an encoding followed by bytes it leaves unread. -/
theorem marshalBinary_prefix_of_unmarshalBinary {data : Bytes} {md : MigrationDeclaration}
    (hdecode : unmarshalBinary data = .ok md) :
    md.timestamp.length < 2 ^ 32 ∧ ∃ rest, data = md.marshalBinary ++ rest := by
  simp only [unmarshalBinary, bind_eq_ok] at hdecode
  obtain ⟨⟨version, rd₁⟩, hversion, hdecode⟩ := hdecode
  have hv : version.toNat = migrationDeclarationVersion := by
    by_contra hv
    simp [hv, throw, throwThe, MonadExceptOf.throw] at hdecode
  simp only [hv, ne_eq, not_true_eq_false, if_false, bind_eq_ok] at hdecode
  obtain ⟨_, -, ⟨ap, rd₂⟩, hap, ⟨dur, rd₃⟩, hdur, ⟨ts, rest⟩, hts, hret⟩ :=
    hdecode
  cases hret
  dsimp only at hdur hts ⊢
  obtain ⟨hfits, rfl⟩ := readString_ok hts
  have hversion' : version = BitVec.ofNat 16 migrationDeclarationVersion :=
    BitVec.eq_of_toNat_eq (by simpa [migrationDeclarationVersion] using hv)
  refine ⟨hfits, rest, ?_⟩
  rw [readUint16_ok hversion, readUint64_ok hap, readUint64_ok hdur, hversion']
  simp [marshalBinary]

/-- The test proposal followed by one byte decodes to the proposal. -/
theorem marshalBinary_prefix_of_padded_proposal :
    unmarshalBinary (testProposal.marshalBinary ++ [7]) = .ok testProposal ∧
      testProposal.timestamp.length < 2 ^ 32 ∧
        ∃ rest, testProposal.marshalBinary ++ [7] = testProposal.marshalBinary ++ rest :=
  ⟨rfl, marshalBinary_prefix_of_unmarshalBinary rfl⟩

/-- `UnmarshalBinary` does not reject bytes left after the timestamp, so it accepts more than the
encoder's image. -/
theorem unmarshalBinary_accepts_trailing_bytes :
    ¬ ∀ (data : Bytes) (md : MigrationDeclaration),
      unmarshalBinary data = .ok md → md.marshalBinary = data := by
  intro hexact
  simpa using hexact _ _ (unmarshalBinary_marshalBinary_append ⟨0, 0, []⟩ [0] (by decide))

end MigrationDeclaration

end KwilDb
