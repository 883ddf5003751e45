import SiaSatellite.Spec.Convert

/-!
# The library's codecs of a contract revision and a transaction signature

An `updateRequest` carries an `rhpv2.ContractRevision`: a `types.FileContractRevision` and two
`types.TransactionSignature`s, whose `EncodeTo` and `DecodeFrom` belong to
`go.sia.tech/core/types`. This module writes them down as the library documents and writes
them, over the primitives of `Spec/Encoding`.

`FileContractRevision` reuses the `FileContract` type, but a revision cannot change the total
payout, so, as the library's note on the type says, its binary encoding has no `Payout`:
`EncodeTo` leaves the contract's `Payout` out and `DecodeFrom` leaves the receiver's as it was.
Its proof outputs are written as `V1SiacoinOutput`s, whose value is a `V1Currency`: the
amount's 16 big-endian bytes from the first that is not zero, written with `WriteBytes`; a
length above 16 is refused with an error.

A `Hash256` (a parent id, a Merkle root, an address) is its 32 bytes, which the model's
`BitVec 256` reads as a little-endian number. A slice is its `WritePrefix` length and its
elements, and `DecodeFrom` fills the fresh elements that `make` allocated. The model's
`CoveredFields` keeps only `FileContractRevisions`, the one list the converters set: its
`EncodeTo` writes `WholeTransaction` false and the nine other lists empty, as the library
writes such a value, and its `DecodeFrom` reads the flag and the ten lists and keeps that one.
-/

namespace SiaSatellite

open Encoder Decoder

variable {α : Type}

/-! ## Primitives -/

/-- `WriteBool`. -/
def Encoder.writeBool (b : Bool) : List UInt8 := [if b then 1 else 0]

/-- `ReadBool`: a byte other than 0 and 1 sets the error. -/
def Decoder.readBool : StateM Decoder Bool := fun d =>
  match read [0] d with
  | ([0], d) => (false, d)
  | ([1], d) => (true, d)
  | (_, d) => (false, { d with failed := true })

/-- `Hash256.EncodeTo`: its 32 bytes. -/
def Hash256.encodeTo (h : Hash256) : List UInt8 := leBytes 32 h.toNat

/-- `Hash256.DecodeFrom`, into the receiver `h`: `Read` into its bytes. -/
def Hash256.decodeFrom (h : Hash256) : StateM Decoder Hash256 := do
  let b ← read (leBytes 32 h.toNat)
  return BitVec.ofNat 256 (leValue b)

/-- A slice: `WritePrefix` of its length, then each element. -/
def Encoder.writeSlice (enc : α → List UInt8) (l : List α) : List UInt8 :=
  writePrefix l.length ++ l.flatMap enc

/-- The `n` fresh elements of a slice, each decoded with `m`. -/
def Decoder.decodeElems (m : StateM Decoder α) : ℕ → StateM Decoder (List α)
  | 0 => return []
  | k + 1 => do
    let a ← m
    let as ← decodeElems m k
    return a :: as

/-- `make([]T, d.ReadPrefix())`, then each element decoded. -/
def Decoder.readSlice (m : StateM Decoder α) : StateM Decoder (List α) := do
  let n ← readPrefix
  decodeElems m n

/-- The value of big-endian bytes. -/
def beValue (b : List UInt8) : ℕ := leValue b.reverse

namespace CoreTypes

/-! ## Amounts and outputs -/

/-- `V1Currency.EncodeTo`: the amount's 16 big-endian bytes, `Hi` then `Lo`, from the first
that is not zero, written with `WriteBytes`. -/
def V1Currency.encodeTo (c : Currency) : List UInt8 :=
  let buf := (leBytes 8 c.hi.toNat).reverse ++ (leBytes 8 c.lo.toNat).reverse
  writeBytes (buf.dropWhile (· == 0))

/-- `V1Currency.DecodeFrom`, into a fresh amount: a length above 16 sets the error; otherwise
that many bytes are read into the end of a zero 16-byte buffer, whose first 8 bytes are `Hi`
and last 8 are `Lo`, big-endian. -/
def V1Currency.decodeFrom : StateM Decoder Currency := fun d =>
  let (n, d) := readPrefix d
  if 16 < n then (Currency.zero, { d with failed := true })
  else
    let (b, d) := read (List.replicate n 0) d
    let buf := List.replicate (16 - n) 0 ++ b
    (⟨UInt64.ofNat (beValue (buf.drop 8)), UInt64.ofNat (beValue (buf.take 8))⟩, d)

/-- `V1SiacoinOutput.EncodeTo`: the value as a `V1Currency`, then the address. -/
def V1SiacoinOutput.encodeTo (o : SiacoinOutput) : List UInt8 :=
  V1Currency.encodeTo o.value ++ Hash256.encodeTo o.address

/-- `V1SiacoinOutput.DecodeFrom`, into a fresh output. -/
def V1SiacoinOutput.decodeFrom : StateM Decoder SiacoinOutput := do
  let value ← V1Currency.decodeFrom
  let address ← Hash256.decodeFrom 0
  return ⟨value, address⟩

/-! ## Unlock conditions -/

/-- `UnlockKey.EncodeTo`: the algorithm's 16 bytes, then the key with `WriteBytes`. -/
def UnlockKey.encodeTo (uk : UnlockKey) : List UInt8 := uk.algorithm.encodeTo ++ writeBytes uk.key

/-- `UnlockKey.DecodeFrom`, into the receiver `uk`. -/
def UnlockKey.decodeFrom (uk : UnlockKey) : StateM Decoder UnlockKey := do
  let algorithm ← uk.algorithm.decodeFrom
  let key ← readBytes
  return ⟨algorithm, key⟩

/-- `UnlockConditions.EncodeTo`. -/
def UnlockConditions.encodeTo (uc : UnlockConditions) : List UInt8 :=
  writeUint64 uc.timelock ++ writeSlice UnlockKey.encodeTo uc.publicKeys ++
    writeUint64 uc.signaturesRequired

/-- `UnlockConditions.DecodeFrom`; it sets every field of the receiver. -/
def UnlockConditions.decodeFrom : StateM Decoder UnlockConditions := do
  let timelock ← readUint64
  let publicKeys ← readSlice (UnlockKey.decodeFrom ⟨Bytes.zero 16, []⟩)
  let signaturesRequired ← readUint64
  return ⟨timelock, publicKeys, signaturesRequired⟩

/-! ## Revisions -/

/-- `FileContractRevision.EncodeTo`: every field of the revised contract but `Payout`. -/
def FileContractRevision.encodeTo (rev : FileContractRevision) : List UInt8 :=
  Hash256.encodeTo rev.parentID ++ rev.unlockConditions.encodeTo ++
    writeUint64 rev.fileContract.revisionNumber ++ writeUint64 rev.fileContract.filesize ++
    Hash256.encodeTo rev.fileContract.fileMerkleRoot ++
    writeUint64 rev.fileContract.windowStart ++ writeUint64 rev.fileContract.windowEnd ++
    writeSlice V1SiacoinOutput.encodeTo rev.fileContract.validProofOutputs ++
    writeSlice V1SiacoinOutput.encodeTo rev.fileContract.missedProofOutputs ++
    Hash256.encodeTo rev.fileContract.unlockHash

/-- `FileContractRevision.DecodeFrom`, into the receiver `rev`, whose `Payout` it keeps. -/
def FileContractRevision.decodeFrom (rev : FileContractRevision) :
    StateM Decoder FileContractRevision := do
  let parentID ← Hash256.decodeFrom rev.parentID
  let unlockConditions ← UnlockConditions.decodeFrom
  let revisionNumber ← readUint64
  let filesize ← readUint64
  let fileMerkleRoot ← Hash256.decodeFrom rev.fileContract.fileMerkleRoot
  let windowStart ← readUint64
  let windowEnd ← readUint64
  let validProofOutputs ← readSlice V1SiacoinOutput.decodeFrom
  let missedProofOutputs ← readSlice V1SiacoinOutput.decodeFrom
  let unlockHash ← Hash256.decodeFrom rev.fileContract.unlockHash
  return ⟨parentID, unlockConditions, { rev.fileContract with
    filesize := filesize, fileMerkleRoot := fileMerkleRoot, windowStart := windowStart,
    windowEnd := windowEnd, validProofOutputs := validProofOutputs,
    missedProofOutputs := missedProofOutputs, unlockHash := unlockHash,
    revisionNumber := revisionNumber }⟩

/-- The library's codec of `FileContractRevision`. -/
def FileContractRevision.codec : Codec FileContractRevision :=
  ⟨FileContractRevision.encodeTo, FileContractRevision.decodeFrom⟩

/-! ## Signatures -/

/-- The ten index lists of `CoveredFields`, in the library's order: `SiacoinInputs`,
`SiacoinOutputs`, `FileContracts`, `FileContractRevisions`, `StorageProofs`, `SiafundInputs`,
`SiafundOutputs`, `MinerFees`, `ArbitraryData` and `Signatures`. -/
def CoveredFields.lists (cf : CoveredFields) : List (List UInt64) :=
  [[], [], [], cf.fileContractRevisions, [], [], [], [], [], []]

/-- `CoveredFields.EncodeTo`: `WholeTransaction`, then each list. -/
def CoveredFields.encodeTo (cf : CoveredFields) : List UInt8 :=
  writeBool false ++ cf.lists.flatMap (writeSlice writeUint64)

/-- `CoveredFields.DecodeFrom`: `WholeTransaction`, then the ten lists, of which the model keeps
`FileContractRevisions`. -/
def CoveredFields.decodeFrom : StateM Decoder CoveredFields := do
  let _ ← readBool
  let lists ← decodeElems (readSlice readUint64) 10
  return ⟨lists.getD 3 []⟩

/-- `TransactionSignature.EncodeTo`. -/
def TransactionSignature.encodeTo (ts : TransactionSignature) : List UInt8 :=
  Hash256.encodeTo ts.parentID ++ writeUint64 ts.publicKeyIndex ++ writeUint64 ts.timelock ++
    ts.coveredFields.encodeTo ++ writeBytes ts.signature

/-- `TransactionSignature.DecodeFrom`, into the receiver `ts`. -/
def TransactionSignature.decodeFrom (ts : TransactionSignature) :
    StateM Decoder TransactionSignature := do
  let parentID ← Hash256.decodeFrom ts.parentID
  let publicKeyIndex ← readUint64
  let timelock ← readUint64
  let coveredFields ← CoveredFields.decodeFrom
  let signature ← readBytes
  return ⟨parentID, publicKeyIndex, timelock, coveredFields, signature⟩

/-- The library's codec of `TransactionSignature`. -/
def TransactionSignature.codec : Codec TransactionSignature :=
  ⟨TransactionSignature.encodeTo, TransactionSignature.decodeFrom⟩

end CoreTypes

end SiaSatellite
