import SiaSatellite.Spec.Events

/-!
# Annotating a pool transaction

`Annotate` (part_001) labels a transaction of the pool by what the wallet owns of it: the
inputs whose unlock conditions hash to an owned address, and the outputs paid to one. It
counts both, names each count `none`, `some` or `all` of its list, and from the two names
picks a type and at most one amount: what the wallet sent (the whole value of the
transaction), what it received (its owned outputs), or what it locked in file contracts.

`txn.ID()` and `UnlockConditions.UnlockHash()` are hashes the repository does not contain,
and are parameters. `Currency.Add`'s panic is `none`. Of `modules.PoolTransaction`, the model
keeps the fields `Annotate` sets.
-/

namespace SiaSatellite

namespace Events

open CoreTypes Wallet

/-- The parts of `types.Transaction` that `Annotate` reads. -/
structure TxpoolTransaction where
  siacoinInputs : List SiacoinInput
  siacoinOutputs : List SiacoinOutput
  fileContracts : List FileContract
  fileContractRevisions : List FileContractRevision
  storageProofs : List ParentRef
  minerFees : List Currency
  arbitraryData : List (List UInt8)

/-- `modules.PoolTransaction`: the transaction with its id, type and amounts. -/
structure PoolTransaction where
  id : TransactionID
  raw : TxpoolTransaction
  type : String
  sent : Currency
  received : Currency
  locked : Currency

/-- The three loops that add up `totalValue`: the outputs, the contracts' payouts, and the
miner fees. -/
def totalValue (txn : TxpoolTransaction) : Option Currency := do
  let v ← (txn.siacoinOutputs.map (·.value)).foldlM Currency.add Currency.zero
  let v ← (txn.fileContracts.map (·.payout)).foldlM Currency.add v
  txn.minerFees.foldlM Currency.add v

/-- The `switch` that names how many of `total` items the wallet owns. -/
def share (owned total : ℕ) : String :=
  if owned = 0 then "none"
  else if owned < total then "some"
  else if owned = total then "all"
  else ""

/-- The turn of the contract loop: `fc.Payout` added once per owned valid proof output and
once per owned missed proof output, and the larger of the two sums. -/
def lockedOf (ownsAddress : Address → Bool) (fc : FileContract) : Option Currency := do
  let validLocked ← ((fc.validProofOutputs.filter fun sco => ownsAddress sco.address).map
    fun _ => fc.payout).foldlM Currency.add Currency.zero
  let missedLocked ← ((fc.missedProofOutputs.filter fun sco => ownsAddress sco.address).map
    fun _ => fc.payout).foldlM Currency.add Currency.zero
  pure (if missedLocked.toNat < validLocked.toNat then validLocked else missedLocked)

/-- `Annotate`: `none` is a panic of `Currency.Add`. -/
def annotate (transactionID : TxpoolTransaction → TransactionID)
    (unlockHash : UnlockConditions → Address) (txn : TxpoolTransaction)
    (ownsAddress : Address → Bool) : Option PoolTransaction := do
  let ptxn : PoolTransaction :=
    ⟨transactionID txn, txn, "unknown", Currency.zero, Currency.zero, Currency.zero⟩
  let totalValue ← totalValue txn
  let ownedIn := txn.siacoinInputs.countP fun sci => ownsAddress (unlockHash sci.unlockConditions)
  let ownedOut := txn.siacoinOutputs.countP fun sco => ownsAddress sco.address
  let ins := share ownedIn txn.siacoinInputs.length
  let outs := share ownedOut txn.siacoinOutputs.length
  if ins = "none" ∧ outs = "none" then pure { ptxn with type := "unrelated" }
  else if ins = "all" then
    pure { ptxn with
      sent := totalValue
      type :=
        if outs = "all" then "redistribution"
        else if 0 < txn.fileContractRevisions.length then "contract revision"
        else if 0 < txn.storageProofs.length then "storage proof"
        else if 0 < txn.arbitraryData.length then "announcement"
        else "send" }
  else if ins = "none" ∧ outs ≠ "none" then do
    let received ← ((txn.siacoinOutputs.filter fun sco => ownsAddress sco.address).map
      (·.value)).foldlM Currency.add ptxn.received
    pure { ptxn with type := "receive", received := received }
  else if ins = "some" ∧ 0 < txn.fileContracts.length then do
    let locked ← txn.fileContracts.foldlM
      (fun locked fc => (lockedOf ownsAddress fc).bind locked.add) ptxn.locked
    pure { ptxn with type := "contract", locked := locked }
  else pure ptxn

end Events

end SiaSatellite
