import KwilDb.Core.Types

/-! # Fixed-width integers and strings on a `bytes.Reader`

`binary.Write` and `binary.Read` of unsigned integers under `types.SerializationByteOrder`, and
`types.WriteString` / `types.ReadString`, as `MigrationDeclaration.MarshalBinary` and
`UnmarshalBinary` (`kgw-test-reuse.yaml:331-381`) call them. A `bytes.Reader` is the list of its
unread bytes, and a read returns what it read with the rest. The byte order and the string layout
live in `core/types`, outside the sources, and follow §3 of the spec: little-endian integers, and
a string as its length followed by its bytes. -/

namespace KwilDb

/-- `n` as `width` bytes, least significant first: `binary.Write` of an unsigned integer
`width` bytes wide. -/
def putLE : Nat → Nat → Bytes
  | 0, _ => []
  | width + 1, n => UInt8.ofNat (n % 256) :: putLE width (n / 256)

/-- The value of little-endian bytes. -/
def getLE : Bytes → Nat
  | [] => 0
  | b :: bs => b.toNat + 256 * getLE bs

@[simp] theorem length_putLE (width n : Nat) : (putLE width n).length = width := by
  induction width generalizing n <;> simp [putLE, *]

theorem getLE_putLE (width n : Nat) : getLE (putLE width n) = n % 256 ^ width := by
  induction width generalizing n with
  | zero => simp [putLE, getLE, Nat.mod_one]
  | succ width ih =>
    rw [putLE, getLE, ih, UInt8.toNat_ofNat_of_lt (Nat.mod_lt n (by decide)), Nat.pow_succ,
      Nat.mul_comm _ 256, Nat.mod_mul]

theorem getLE_lt (bs : Bytes) : getLE bs < 256 ^ bs.length := by
  induction bs with
  | nil => simp [getLE]
  | cons b bs ih =>
    have hb := UInt8.toNat_lt_size b
    simp only [getLE, List.length_cons, Nat.pow_succ]
    change b.toNat < 256 at hb
    omega

theorem putLE_getLE (bs : Bytes) : putLE bs.length (getLE bs) = bs := by
  induction bs with
  | nil => rfl
  | cons b bs ih =>
    have hb : b.toNat < 256 := UInt8.toNat_lt_size b
    have hdiv : (b.toNat + 256 * getLE bs) / 256 = getLE bs := by omega
    have hmod : (b.toNat + 256 * getLE bs) % 256 = b.toNat := by omega
    simp only [List.length_cons, putLE, getLE, hdiv, hmod, ih, List.cons.injEq, and_true]
    exact UInt8.toNat.inj (UInt8.toNat_ofNat_of_lt hb)

/-- `io.ReadFull` of `n` bytes from a `bytes.Reader` holding `rd`: `io.EOF` when no byte is
left, `io.ErrUnexpectedEOF` when some but fewer than `n` are. -/
def readFull (n : Nat) (rd : Bytes) : Except Error (Bytes × Bytes) :=
  if n ≤ rd.length then .ok (rd.take n, rd.drop n)
  else if rd = [] then .error .eof else .error .unexpectedEOF

/-- `binary.Read` of an unsigned integer `width` bytes wide. -/
def readLE (width : Nat) (rd : Bytes) : Except Error (Nat × Bytes) := do
  let (bs, rest) ← readFull width rd
  return (getLE bs, rest)

/-- `binary.Write` of a `uint16`. -/
def writeUint16 (x : BitVec 16) : Bytes := putLE 2 x.toNat

/-- `binary.Write` of a `uint64`. -/
def writeUint64 (x : BitVec 64) : Bytes := putLE 8 x.toNat

/-- `binary.Read` into a `uint16`. -/
def readUint16 (rd : Bytes) : Except Error (BitVec 16 × Bytes) := do
  let (n, rest) ← readLE 2 rd
  return (BitVec.ofNat 16 n, rest)

/-- `binary.Read` into a `uint64`. -/
def readUint64 (rd : Bytes) : Except Error (BitVec 64 × Bytes) := do
  let (n, rest) ← readLE 8 rd
  return (BitVec.ofNat 64 n, rest)

/-- Modelled from the spec: `types.WriteString` is not in the sources. §3 writes a string as its
length, a fixed-width little-endian integer, then its bytes; the length is a `uint32`. -/
def writeString (s : Bytes) : Bytes := putLE 4 s.length ++ s

/-- The bytes of a Go string of ASCII characters, such as a key type's name or a timestamp. -/
def asciiBytes (s : String) : Bytes := s.toList.map fun c => UInt8.ofNat c.toNat

/-- Modelled from the spec: `types.ReadString`, reading what `writeString` writes. -/
def readString (rd : Bytes) : Except Error (Bytes × Bytes) := do
  let (len, rest) ← readLE 4 rd
  readFull len rest

theorem readFull_append {n : Nat} {bs : Bytes} (rest : Bytes) (hlen : bs.length = n) :
    readFull n (bs ++ rest) = .ok (bs, rest) := by
  subst hlen
  simp [readFull]

theorem readFull_ok {n : Nat} {rd bs rest : Bytes} (hread : readFull n rd = .ok (bs, rest)) :
    bs.length = n ∧ rd = bs ++ rest := by
  unfold readFull at hread
  split at hread
  · cases hread
    exact ⟨by simp; omega, (List.take_append_drop n rd).symm⟩
  · split at hread <;> cases hread

theorem readLE_putLE (width n : Nat) (rest : Bytes) :
    readLE width (putLE width n ++ rest) = .ok (n % 256 ^ width, rest) := by
  simp [readLE, readFull_append rest (length_putLE width n), getLE_putLE]

theorem readLE_putLE_of_lt {width n : Nat} (rest : Bytes) (hlt : n < 256 ^ width) :
    readLE width (putLE width n ++ rest) = .ok (n, rest) := by
  rw [readLE_putLE, Nat.mod_eq_of_lt hlt]

theorem readLE_ok {width n : Nat} {rd rest : Bytes}
    (hread : readLE width rd = .ok (n, rest)) :
    n < 256 ^ width ∧ rd = putLE width n ++ rest := by
  unfold readLE at hread
  cases hfull : readFull width rd with
  | error e => simp [hfull] at hread
  | ok read =>
    obtain ⟨bs, rest'⟩ := read
    obtain ⟨hlen, rfl⟩ := readFull_ok hfull
    simp only [hfull, bind_ok, pure, Except.pure, Except.ok.injEq, Prod.mk.injEq] at hread
    obtain ⟨rfl, rfl⟩ := hread
    exact ⟨hlen ▸ getLE_lt bs, by rw [← hlen, putLE_getLE]⟩

@[simp] theorem readUint16_writeUint16 (x : BitVec 16) (rest : Bytes) :
    readUint16 (writeUint16 x ++ rest) = .ok (x, rest) := by
  simp [readUint16, writeUint16, readLE_putLE_of_lt rest (show x.toNat < 256 ^ 2 from x.isLt)]

@[simp] theorem readUint64_writeUint64 (x : BitVec 64) (rest : Bytes) :
    readUint64 (writeUint64 x ++ rest) = .ok (x, rest) := by
  simp [readUint64, writeUint64, readLE_putLE_of_lt rest (show x.toNat < 256 ^ 8 from x.isLt)]

theorem readUint16_ok {x : BitVec 16} {rd rest : Bytes}
    (hread : readUint16 rd = .ok (x, rest)) : rd = writeUint16 x ++ rest := by
  unfold readUint16 at hread
  cases hle : readLE 2 rd with
  | error e => simp [hle] at hread
  | ok read =>
    obtain ⟨hlt, rfl⟩ := readLE_ok hle
    simp only [hle, bind_ok, pure, Except.pure, Except.ok.injEq, Prod.mk.injEq] at hread
    obtain ⟨rfl, rfl⟩ := hread
    rw [writeUint16, BitVec.toNat_ofNat, Nat.mod_eq_of_lt (show read.1 < 2 ^ 16 from hlt)]

theorem readUint64_ok {x : BitVec 64} {rd rest : Bytes}
    (hread : readUint64 rd = .ok (x, rest)) : rd = writeUint64 x ++ rest := by
  unfold readUint64 at hread
  cases hle : readLE 8 rd with
  | error e => simp [hle] at hread
  | ok read =>
    obtain ⟨hlt, rfl⟩ := readLE_ok hle
    simp only [hle, bind_ok, pure, Except.pure, Except.ok.injEq, Prod.mk.injEq] at hread
    obtain ⟨rfl, rfl⟩ := hread
    rw [writeUint64, BitVec.toNat_ofNat, Nat.mod_eq_of_lt (show read.1 < 2 ^ 64 from hlt)]

theorem readString_writeString {s : Bytes} (rest : Bytes) (hfits : s.length < 2 ^ 32) :
    readString (writeString s ++ rest) = .ok (s, rest) := by
  rw [writeString, List.append_assoc]
  simp only [readString, readLE_putLE_of_lt _ (show s.length < 256 ^ 4 from hfits), bind_ok,
    readFull_append rest rfl]

theorem readString_ok {s rd rest : Bytes} (hread : readString rd = .ok (s, rest)) :
    s.length < 2 ^ 32 ∧ rd = writeString s ++ rest := by
  unfold readString at hread
  cases hlen : readLE 4 rd with
  | error e => simp [hlen] at hread
  | ok read =>
    obtain ⟨len, rest'⟩ := read
    obtain ⟨hlt, rfl⟩ := readLE_ok hlen
    simp only [hlen, bind_ok] at hread
    obtain ⟨rfl, rfl⟩ := readFull_ok hread
    exact ⟨by simpa using hlt, by simp [writeString]⟩

end KwilDb
