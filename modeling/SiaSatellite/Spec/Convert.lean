import SiaSatellite.Spec.Encoding

/-!
# The contract converters

The satellite stores contracts in the `siad` types and answers renters in the `core` types.
`convertContract` turns a stored `modules.RenterContract` into an `rhpv2.ContractRevision`
for the renter; `convertRevision` turns the revision a renter sends back in an
`updateRequest` into the `siad` revision and signatures that `UpdateContract` stores.

Only the fields the two functions read or write are kept. A `siad` `Currency` is a
non-negative big integer; `modules.ConvertCurrency`, which the repository does not contain,
is the parameter `conv`, and `types.NewCurrency(c.Big())` is the exact value `c.toNat`. The
library's key helpers are what they are in `go.sia.tech`: `SiaPublicKey.ToPublicKey` copies
the key into a 32-byte array, `PublicKey.UnlockKey` and `types.Ed25519PublicKey` tag 32
bytes with the `ed25519` specifier. An index out of range, on which Go panics, is `none`.
-/

namespace SiaSatellite

/-- `types.SpecifierEd25519` (`types.SignatureEd25519` in `siad`): the bytes of `ed25519`,
padded to 16. -/
def specifierEd25519 : Bytes 16 := ⟨[101, 100, 50, 53, 53, 49, 57, 0, 0, 0, 0, 0, 0, 0, 0, 0], rfl⟩

namespace SiadTypes

/-- `types.SiacoinOutput` of `siad`. -/
structure SiacoinOutput where
  value : ℕ
  unlockHash : Hash256
  deriving DecidableEq

/-- `types.SiaPublicKey`. -/
structure SiaPublicKey where
  algorithm : Bytes 16
  key : List UInt8
  deriving DecidableEq

/-- `types.UnlockConditions` of `siad`. -/
structure UnlockConditions where
  timelock : UInt64
  publicKeys : List SiaPublicKey
  signaturesRequired : UInt64
  deriving DecidableEq

/-- `types.FileContractRevision` of `siad`. -/
structure FileContractRevision where
  parentID : Hash256
  unlockConditions : UnlockConditions
  newRevisionNumber : UInt64
  newFileSize : UInt64
  newFileMerkleRoot : Hash256
  newWindowStart : UInt64
  newWindowEnd : UInt64
  newValidProofOutputs : List SiacoinOutput
  newMissedProofOutputs : List SiacoinOutput
  newUnlockHash : Hash256
  deriving DecidableEq

/-- `types.CoveredFields`, of which the converters set only the revisions covered. -/
structure CoveredFields where
  fileContractRevisions : List UInt64
  deriving DecidableEq

/-- `types.TransactionSignature` of `siad`. -/
structure TransactionSignature where
  parentID : Hash256
  publicKeyIndex : UInt64
  timelock : UInt64
  coveredFields : CoveredFields
  signature : List UInt8
  deriving DecidableEq

/-- The parts of `types.Transaction` a stored contract's revision lives in. -/
structure Transaction where
  fileContractRevisions : List FileContractRevision
  transactionSignatures : List TransactionSignature

/-- `SiaPublicKey.ToPublicKey`: the key copied into a 32-byte array. -/
def SiaPublicKey.toPublicKey (spk : SiaPublicKey) : Bytes 32 := (Bytes.zero 32).copyInto spk.key

/-- `types.Ed25519PublicKey`. -/
def ed25519PublicKey (pk : Bytes 32) : SiaPublicKey := ⟨specifierEd25519, pk.1⟩

end SiadTypes

/-- `modules.RenterContract`: the contract's id, its latest transaction and the two keys. -/
structure RenterContract where
  id : Hash256
  transaction : SiadTypes.Transaction
  renterPublicKey : SiadTypes.SiaPublicKey
  hostPublicKey : SiadTypes.SiaPublicKey

namespace CoreTypes

/-- `types.SiacoinOutput` of `core`. -/
structure SiacoinOutput where
  value : Currency
  address : Hash256
  deriving DecidableEq

/-- `types.UnlockKey`. -/
structure UnlockKey where
  algorithm : Bytes 16
  key : List UInt8
  deriving DecidableEq

/-- `types.UnlockConditions` of `core`. -/
structure UnlockConditions where
  timelock : UInt64
  publicKeys : List UnlockKey
  signaturesRequired : UInt64
  deriving DecidableEq

/-- `types.FileContract`. -/
structure FileContract where
  filesize : UInt64
  fileMerkleRoot : Hash256
  windowStart : UInt64
  windowEnd : UInt64
  payout : Currency
  validProofOutputs : List SiacoinOutput
  missedProofOutputs : List SiacoinOutput
  unlockHash : Hash256
  revisionNumber : UInt64

/-- `types.FileContractRevision` of `core`, which embeds the revised `FileContract`. -/
structure FileContractRevision where
  parentID : Hash256
  unlockConditions : UnlockConditions
  fileContract : FileContract

/-- `types.CoveredFields`, of which the converters set only the revisions covered. -/
structure CoveredFields where
  fileContractRevisions : List UInt64

/-- `types.TransactionSignature` of `core`. -/
structure TransactionSignature where
  parentID : Hash256
  publicKeyIndex : UInt64
  timelock : UInt64
  coveredFields : CoveredFields
  signature : List UInt8

/-- `PublicKey.UnlockKey`. -/
def unlockKey (pk : Bytes 32) : UnlockKey := ⟨specifierEd25519, pk.1⟩

end CoreTypes

open SiadTypes CoreTypes

/-- `convertContract`: the stored contract as the revision sent to the renter, from the
first file contract revision and the first two signatures of its transaction. -/
def convertContract (conv : ℕ → Currency) (c : RenterContract) :
    Option (ContractRevision CoreTypes.FileContractRevision CoreTypes.TransactionSignature) := do
  let fcr ← c.transaction.fileContractRevisions[0]?
  let ts0 ← c.transaction.transactionSignatures[0]?
  let ts1 ← c.transaction.transactionSignatures[1]?
  let v0 ← fcr.newValidProofOutputs[0]?
  let v1 ← fcr.newValidProofOutputs[1]?
  let m0 ← fcr.newMissedProofOutputs[0]?
  let m1 ← fcr.newMissedProofOutputs[1]?
  let m2 ← fcr.newMissedProofOutputs[2]?
  return {
    revision := {
      parentID := c.id
      unlockConditions := {
        timelock := fcr.unlockConditions.timelock
        publicKeys := [unlockKey c.renterPublicKey.toPublicKey,
          unlockKey c.hostPublicKey.toPublicKey]
        signaturesRequired := 2 }
      fileContract := {
        filesize := fcr.newFileSize
        fileMerkleRoot := fcr.newFileMerkleRoot
        windowStart := fcr.newWindowStart
        windowEnd := fcr.newWindowEnd
        payout := Currency.zero
        validProofOutputs := [⟨conv v0.value, v0.unlockHash⟩, ⟨conv v1.value, v1.unlockHash⟩]
        missedProofOutputs := [⟨conv m0.value, m0.unlockHash⟩, ⟨conv m1.value, m1.unlockHash⟩,
          ⟨conv m2.value, m2.unlockHash⟩]
        unlockHash := fcr.newUnlockHash
        revisionNumber := fcr.newRevisionNumber } }
    signatures := (⟨ts0.parentID, ts0.publicKeyIndex, ts0.timelock, ⟨[0]⟩, ts0.signature⟩,
      ⟨ts1.parentID, ts1.publicKeyIndex, ts1.timelock, ⟨[0]⟩, ts1.signature⟩) }

/-- `convertRevision`: a renter's revision as the `siad` revision and signatures. Its third
missed proof output is built from `MissedProofOutputs[1]`, as the source writes it. -/
def convertRevision
    (rev : ContractRevision CoreTypes.FileContractRevision CoreTypes.TransactionSignature) :
    Option (SiadTypes.FileContractRevision × List SiadTypes.TransactionSignature) := do
  let k0 ← rev.revision.unlockConditions.publicKeys[0]?
  let k1 ← rev.revision.unlockConditions.publicKeys[1]?
  let v0 ← rev.revision.fileContract.validProofOutputs[0]?
  let v1 ← rev.revision.fileContract.validProofOutputs[1]?
  let m0 ← rev.revision.fileContract.missedProofOutputs[0]?
  let m1 ← rev.revision.fileContract.missedProofOutputs[1]?
  let rpk := (Bytes.zero 32).copyInto k0.key
  let hpk := (Bytes.zero 32).copyInto k1.key
  let fcr : SiadTypes.FileContractRevision := {
    parentID := rev.revision.parentID
    unlockConditions := {
      timelock := rev.revision.unlockConditions.timelock
      publicKeys := [ed25519PublicKey rpk, ed25519PublicKey hpk]
      signaturesRequired := rev.revision.unlockConditions.signaturesRequired }
    newRevisionNumber := rev.revision.fileContract.revisionNumber
    newFileSize := rev.revision.fileContract.filesize
    newFileMerkleRoot := rev.revision.fileContract.fileMerkleRoot
    newWindowStart := rev.revision.fileContract.windowStart
    newWindowEnd := rev.revision.fileContract.windowEnd
    newValidProofOutputs := [⟨v0.value.toNat, v0.address⟩, ⟨v1.value.toNat, v1.address⟩]
    newMissedProofOutputs := [⟨m0.value.toNat, m0.address⟩, ⟨m1.value.toNat, m1.address⟩,
      ⟨m1.value.toNat, m1.address⟩]
    newUnlockHash := rev.revision.fileContract.unlockHash }
  let (s0, s1) := rev.signatures
  return (fcr, [⟨s0.parentID, s0.publicKeyIndex, s0.timelock, ⟨[0]⟩, s0.signature⟩,
    ⟨s1.parentID, s1.publicKeyIndex, s1.timelock, ⟨[0]⟩, s1.signature⟩])

end SiaSatellite
