import SiaSatellite.Spec.Wallet

/-!
# Signing a transaction from the wallet

`Wallet.Sign` (part_000) has two modes. With no ids, it adds a standard signature for each
siacoin input, then each siafund input, whose unlock conditions hash to an address the
wallet has a key for, and signs it. With a list of ids, it signs, for each id, the first
signature of the transaction with that parent, with the key of the address of the input or
revision that has that parent, and fails on the first id it cannot sign. `MarkWalletInputs`
(part_001) lists the parents of the inputs the wallet can spend. `addSignatures` (part_001)
signs one input with a spendable key: a signature for each public key of the unlock
conditions that one of the secret keys matches, until `SignaturesRequired` are made.

`SignTransaction`, the hashes and the keys are in packages this repository does not contain.
`SignTransaction(cs, txn, i, key)` sets the `Signature` of signature `i` to the key's
signature of a hash of the transaction, which is a parameter (`signHash`), as is
`addSignatures`' own `SignHash` of `SigHash`. A signature's covered fields only feed those
hashes and are left out. A Go slice the loop ranges over is the one the loop started with.
-/

namespace SiaSatellite

namespace Wallet

open CoreTypes

/-- `types.SiafundInput`: its parent and unlock conditions, which is what `Sign` reads. -/
structure SiafundInput where
  parentID : Hash256
  unlockConditions : UnlockConditions
  deriving DecidableEq

/-- `types.TransactionSignature` without its covered fields. -/
structure TxnSignature where
  parentID : Hash256
  publicKeyIndex : ℕ
  signature : List UInt8
  deriving DecidableEq

/-- The parts of `types.Transaction` that the signing functions read and write. -/
structure SignTxn where
  siacoinInputs : List SiacoinInput
  siafundInputs : List SiafundInput
  fileContractRevisions : List FileContractRevision
  signatures : List TxnSignature

/-- `txn.Signatures[i].Signature = sig`. -/
def SignTxn.setSignature (txn : SignTxn) (i : ℕ) (sig : List UInt8) : SignTxn :=
  { txn with signatures := txn.signatures.modify (fun s => { s with signature := sig }) i }

/-- `txn.Signatures = append(txn.Signatures, sig)`. -/
def SignTxn.addSignature (txn : SignTxn) (sig : TxnSignature) : SignTxn :=
  { txn with signatures := txn.signatures ++ [sig] }

/-! ## `Wallet.Sign` -/

/-- What `Sign` reads, with `key.SignHash` of the signature hash. -/
structure SignEnv (K : Type) where
  /-- `w.keys`. -/
  keys : AList (fun _ : Hash256 => K)
  /-- `UnlockConditions.UnlockHash`. -/
  unlockHash : UnlockConditions → Hash256
  /-- The signature `SignTransaction(cs, txn, i, key)` computes for signature `i`. -/
  signHash : SignTxn → ℕ → K → List UInt8

/-- The errors of `Sign`, each with the id it names. -/
inductive SignError
  /-- "ID %v not present in transaction". -/
  | idNotPresent (id : Hash256)
  /-- "missing key for ID %v". -/
  | missingKey (id : Hash256)
  /-- "signature %v not present in transaction". -/
  | signatureNotPresent (id : Hash256)
  deriving DecidableEq

namespace SignEnv

variable {K : Type} (E : SignEnv K)

/-- `SignTransaction(cs, txn, i, key)`. -/
def signTransaction (txn : SignTxn) (i : ℕ) (key : K) : SignTxn :=
  txn.setSignature i (E.signHash txn i key)

/-- A loop of `Sign`'s first mode over inputs, given by parent and unlock conditions: for
each whose address has a key, `StandardTransactionSignature` of its parent is appended and
signed. -/
def signOwned (ins : List (Hash256 × UnlockConditions)) (txn : SignTxn) : SignTxn :=
  ins.foldl (fun txn i =>
    match E.keys.lookup (E.unlockHash i.2) with
    | none => txn
    | some key =>
      let txn := txn.addSignature ⟨i.1, 0, []⟩
      E.signTransaction txn (txn.signatures.length - 1) key) txn

/-- `sigAddr`: the address of the first siacoin input, siafund input or revision with the
parent `id`, in that order. -/
def sigAddr (txn : SignTxn) (id : Hash256) : Option Hash256 :=
  match txn.siacoinInputs.find? (·.parentID = id) with
  | some sci => some (E.unlockHash sci.unlockConditions)
  | none =>
    match txn.siafundInputs.find? (·.parentID = id) with
    | some sfi => some (E.unlockHash sfi.unlockConditions)
    | none => (txn.fileContractRevisions.find? (·.parentID = id)).map
        fun fcr => E.unlockHash fcr.unlockConditions

/-- `Sign`'s second mode: for each id, the first signature with that parent is signed with
the key of its address; the first id that fails ends the call, with the signatures made
before it kept. -/
def signListed : List Hash256 → SignTxn → Except SignError Unit × SignTxn
  | [], txn => (.ok (), txn)
  | parent :: toSign, txn =>
    match txn.signatures.findIdx? (·.parentID = parent) with
    | none => (.error (.signatureNotPresent parent), txn)
    | some sigIndex =>
      match E.sigAddr txn parent with
      | none => (.error (.idNotPresent parent), txn)
      | some addr =>
        match E.keys.lookup addr with
        | none => (.error (.missingKey parent), txn)
        | some key => signListed toSign (E.signTransaction txn sigIndex key)

end SignEnv

/-- `Wallet.Sign`: the error, and the transaction after the call. -/
def sign {K : Type} (E : SignEnv K) (txn : SignTxn) (toSign : List Hash256) :
    Except SignError Unit × SignTxn :=
  if toSign.length = 0 then
    (.ok (), E.signOwned (txn.siafundInputs.map fun sfi => (sfi.parentID, sfi.unlockConditions))
      (E.signOwned (txn.siacoinInputs.map fun sci => (sci.parentID, sci.unlockConditions)) txn))
  else E.signListed toSign txn

/-! ## `MarkWalletInputs` -/

/-- `Wallet.MarkWalletInputs`: the parents of the siacoin inputs, then of the siafund inputs,
whose unlock hash `managedCanSpendUnlockHash` accepts. -/
def markWalletInputs (canSpendUnlockHash : Hash256 → Bool)
    (unlockHash : UnlockConditions → Hash256) (txn : SignTxn) : List Hash256 :=
  (txn.siacoinInputs.filter fun sci => canSpendUnlockHash (unlockHash sci.unlockConditions)).map
      (·.parentID) ++
    (txn.siafundInputs.filter fun sfi => canSpendUnlockHash (unlockHash sfi.unlockConditions)).map
      (·.parentID)

/-! ## `addSignatures` -/

/-- What `addSignatures` reads of a spendable key's secret keys `SK`: `PublicKey()`, and
`SignHash` of `modules.SigHash(*txn, sigIndex, height)`. -/
structure SecretKeyOps (SK : Type) where
  publicKey : SK → List UInt8
  signHash : SignTxn → ℕ → SK → List UInt8

/-- The loop of `addSignatures` from public key `i` on, with `total` signatures made: a
signature for the public key if a secret key matches it, then a stop once `total` reaches
`SignaturesRequired`. It returns the transaction and the new signatures' indices. -/
def addSignaturesFrom {SK : Type} (S : SecretKeyOps SK) (parentID : Hash256) (required : UInt64)
    (secretKeys : List SK) : ℕ → ℕ → List UnlockKey → SignTxn → List ℕ → SignTxn × List ℕ
  | _, _, [], txn, newSigIndices => (txn, newSigIndices)
  | i, total, pk :: pks, txn, newSigIndices =>
    let (txn, newSigIndices, total) :=
      match secretKeys.find? fun sk => pk.key == S.publicKey sk with
      | none => (txn, newSigIndices, total)
      | some sk =>
        let txn := txn.addSignature ⟨parentID, i, []⟩
        let sigIndex := txn.signatures.length - 1
        (txn.setSignature sigIndex (S.signHash txn sigIndex sk), newSigIndices ++ [sigIndex],
          total + 1)
    if total = required.toNat then (txn, newSigIndices)
    else addSignaturesFrom S parentID required secretKeys (i + 1) total pks txn newSigIndices

/-- `addSignatures(txn, cf, uc, parentID, spendKey, height)`. -/
def addSignatures {SK : Type} (S : SecretKeyOps SK) (txn : SignTxn) (uc : UnlockConditions)
    (parentID : Hash256) (secretKeys : List SK) : SignTxn × List ℕ :=
  addSignaturesFrom S parentID uc.signaturesRequired secretKeys 0 0 uc.publicKeys txn []

end Wallet

end SiaSatellite
