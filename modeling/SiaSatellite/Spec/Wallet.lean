import SiaSatellite.Spec.Convert

/-!
# Funding a transaction from the wallet

Two versions of the wallet fund a transaction. `Wallet.Fund` (part_000) spends tracked
siacoin elements, skipping those reserved in `w.used` and those a pool transaction spends,
and adds the inputs, and a change output, to the caller's transaction.
`Wallet.FundTransaction` (part_001) spends the outputs of the wallet's database and of its
unconfirmed transactions that pass `checkOutput`, builds a parent transaction with an
output of exactly the amount and a refund output, and adds the parent's exact output as an
input of the caller's transaction. Both sort their candidates by value, descending, and
take them until the sum reaches the amount. `Wallet.Reserve` (part_000) reserves outputs in
`w.used` when none of them is reserved yet. `Wallet.Release` (part_000) removes from `w.used`
the ids of the outputs of a transaction set, and `Wallet.ReleaseInputs` (part_001) deletes
from the spent-output table the outputs that a transaction and the parents the pool returns
for it spend. `Wallet.ConfirmedBalance` (part_000) sums the tracked outputs above the dust
threshold, mature and immature apart, and the siafunds.

The calls the repository does not contain are parameters: the wallet's reads, the address
generator and its release, and the writes that reserve or mark outputs, each of which may
fail. They act on a wallet state of parameter type `σ`. An address generator returns an
address with its error, as Go's two results. `Currency.Add`'s panic is the error
`overflow`. `sort.Slice` and `sort.Sort` are not stable, so a sort is any permutation
(`SortOrder`), and every result holds for all of them. `addSignatures` only appends
signatures to the parent transaction, a field no result reads, and is left out.
-/

namespace SiaSatellite

open CoreTypes

/-- The order a sort leaves a slice in: some permutation of it. -/
structure SortOrder (α : Type) where
  order : List α → List α
  perm : ∀ l, (order l).Perm l

namespace Wallet

/-- `types.SiacoinInput`. -/
structure SiacoinInput where
  parentID : Hash256
  unlockConditions : UnlockConditions
  deriving DecidableEq

/-- The parts of `types.Transaction` the funding routines read and write. -/
structure Transaction where
  siacoinInputs : List SiacoinInput
  siacoinOutputs : List SiacoinOutput
  deriving DecidableEq

/-- `types.SiacoinElement`: an output and its id. -/
structure SiacoinElement where
  id : Hash256
  siacoinOutput : SiacoinOutput
  deriving DecidableEq

/-- The errors the funding routines return. -/
inductive WalletError
  /-- `modules.ErrInsufficientBalance`. -/
  | insufficientBalance
  /-- `modules.ErrLowBalance`. -/
  | lowBalance
  /-- `modules.ErrIncompleteTransactions`. -/
  | incompleteTransactions
  /-- The error of a wallet or database call. -/
  | store (msg : String)
  /-- The panic of `Currency.Add` or `Currency.Sub`. -/
  | overflow
  deriving DecidableEq

/-! ## `Wallet.Fund` -/

/-- What `Wallet.Fund` reads, and the calls it makes, over the wallet state `σ`. -/
structure FundEnv (K σ : Type) where
  /-- `w.sces`: the tracked siacoin elements by id, which `UnspentSiacoinOutputs` returns. -/
  sces : AList (fun _ : Hash256 => SiacoinOutput)
  /-- `sort.Slice` by value, descending. -/
  sort : SortOrder SiacoinElement
  /-- `w.cm.PoolTransactions()`. -/
  poolTransactions : List Transaction
  /-- `w.keys`. -/
  keys : AList (fun _ : Hash256 => K)
  /-- `w.used[id]`. -/
  used : σ → Hash256 → Bool
  /-- `w.NextAddress()`. -/
  nextAddress : σ → UnlockConditions × Except String σ
  /-- `w.markAddressUnused`. -/
  markAddressUnused : UnlockConditions → σ → σ
  /-- `w.insertSpentOutput`. -/
  insertSpentOutput : Hash256 → σ → Except String σ
  /-- `types.StandardUnlockConditions(key.PublicKey())`. -/
  standardUnlockConditions : K → UnlockConditions
  /-- `UnlockConditions.UnlockHash`. -/
  unlockHash : UnlockConditions → Hash256
  /-- `w.cm.UnconfirmedParents`. -/
  unconfirmedParents : Transaction → List Transaction

namespace FundEnv

variable {K σ : Type} (E : FundEnv K σ)

/-- `w.UnspentSiacoinOutputs()`. -/
def unspentSiacoinOutputs : List SiacoinElement := E.sces.entries.map fun e => ⟨e.1, e.2⟩

/-- `inPool[id]`: whether a pool transaction spends the output `id`. -/
def inPool (id : Hash256) : Bool :=
  E.poolTransactions.any fun ptxn => ptxn.siacoinInputs.any fun sci => sci.parentID == id

/-- `toSign`: the id of each funding element whose address has a key, zero for the others. -/
def toSign (es : List SiacoinElement) : List Hash256 :=
  es.map fun sce => if sce.siacoinOutput.address ∈ E.keys then sce.id else 0

end FundEnv

variable {K σ : Type}

/-- The selection loop of `Fund`: skip an element reserved or spent in the pool, add the
others, and stop once their sum `outputSum` reaches `amount`. It returns the funding
elements and their sum; `none` is `Currency.Add`'s panic. -/
def fundingElements (skip : SiacoinElement → Bool) (amount : Currency) :
    Currency → List SiacoinElement → Option (List SiacoinElement × Currency)
  | outputSum, [] => some ([], outputSum)
  | outputSum, sce :: utxos =>
    if skip sce then fundingElements skip amount outputSum utxos
    else match outputSum.add sce.siacoinOutput.value with
      | none => none
      | some s =>
        if amount.toNat ≤ s.toNat then some ([sce], s)
        else (fundingElements skip amount s utxos).map fun r => (sce :: r.1, r.2)

/-- The input loop of `Fund`: an input for each funding element whose address has a key,
recorded with `insertSpentOutput`. The first failure returns at once, keeping the inputs
added and the outputs recorded so far. -/
def addFundingInputs (E : FundEnv K σ) :
    List SiacoinElement → Transaction → σ → Except String Unit × Transaction × σ
  | [], txn, w => (.ok (), txn, w)
  | sce :: es, txn, w =>
    match E.keys.lookup sce.siacoinOutput.address with
    | none => addFundingInputs E es txn w
    | some key =>
      let txn := { txn with
        siacoinInputs := txn.siacoinInputs ++ [⟨sce.id, E.standardUnlockConditions key⟩] }
      match E.insertSpentOutput sce.id w with
      | .error e => (.error e, txn, w)
      | .ok w => addFundingInputs E es txn w

/-- The end of `Fund`: the input loop, then the unconfirmed parents. The deferred release
of the refund address tests the `err` of `NextAddress`, which is `nil` here, so a failure
of the loop keeps the refund address handed out. -/
def fundInputs (E : FundEnv K σ) (es : List SiacoinElement) (txn : Transaction) (w : σ) :
    Except WalletError (List Transaction × List Hash256) × Transaction × σ :=
  match addFundingInputs E es txn w with
  | (.error e, txn, w) => (.error (.store e), txn, w)
  | (.ok (), txn, w) => (.ok (E.unconfirmedParents txn, E.toSign es), txn, w)

/-- `Wallet.Fund`: the error, or the unconfirmed parents and the ids to sign; the caller's
transaction after the call; and the wallet state after it. -/
def fund (E : FundEnv K σ) (w : σ) (txn : Transaction) (amount : Currency) :
    Except WalletError (List Transaction × List Hash256) × Transaction × σ :=
  if amount.toNat = 0 then (.ok ([], []), txn, w)
  else
    match fundingElements (fun sce => E.used w sce.id || E.inPool sce.id) amount Currency.zero
        (E.sort.order E.unspentSiacoinOutputs) with
    | none => (.error .overflow, txn, w)
    | some (es, outputSum) =>
      if outputSum.toNat < amount.toNat then (.error .insufficientBalance, txn, w)
      else if amount.toNat < outputSum.toNat then
        match E.nextAddress w with
        | (refundUC, .error e) => (.error (.store e), txn, E.markAddressUnused refundUC w)
        | (refundUC, .ok w) =>
          match outputSum.sub amount with
          | none => (.error .overflow, txn, w)
          | some v => fundInputs E es
              { txn with siacoinOutputs := txn.siacoinOutputs ++ [⟨v, E.unlockHash refundUC⟩] } w
      else fundInputs E es txn w

/-! ## `Wallet.Reserve` -/

/-- The errors of `Wallet.Reserve`. -/
inductive ReserveError
  /-- "output %q already reserved", for the first id of the call already reserved. -/
  | alreadyReserved (id : Hash256)
  /-- The error of `insertSpentOutput`. -/
  | store (msg : String)
  deriving DecidableEq

/-- The second loop of `Reserve`: `insertSpentOutput` for each id, stopping at the first
failure with the ids before it reserved. -/
def insertSpentOutputs (E : FundEnv K σ) : List Hash256 → σ → Except String Unit × σ
  | [], w => (.ok (), w)
  | id :: ids, w =>
    match E.insertSpentOutput id w with
    | .error e => (.error e, w)
    | .ok w => insertSpentOutputs E ids w

/-- `Wallet.Reserve`: refuse the call if one of its ids is reserved, and reserve them all
otherwise. The timer that removes the reservations once `duration` has passed runs later,
and is left out. -/
def reserve (E : FundEnv K σ) (ids : List Hash256) (w : σ) : Except ReserveError Unit × σ :=
  match ids.find? (E.used w) with
  | some id => (.error (.alreadyReserved id), w)
  | none =>
    match insertSpentOutputs E ids w with
    | (.error e, w) => (.error (.store e), w)
    | (.ok (), w) => (.ok (), w)

/-! ## `Wallet.Release` -/

/-- What `Wallet.Release` calls beyond what `Fund` reads. -/
structure ReleaseEnv (K σ : Type) extends FundEnv K σ where
  /-- `Transaction.SiacoinOutputID(i)`. -/
  siacoinOutputID : Transaction → ℕ → Hash256
  /-- `w.removeSpentOutput`, whose error `Release` only logs. -/
  removeSpentOutput : Hash256 → σ → σ

/-- `Wallet.Release`: `removeSpentOutput` for the id of each output of each transaction of the
set. -/
def release (E : ReleaseEnv K σ) (txnSet : List Transaction) (w : σ) : σ :=
  txnSet.foldl (fun w txn => (List.range txn.siacoinOutputs.length).foldl
    (fun w i => E.removeSpentOutput (E.siacoinOutputID txn i) w) w) w

/-- The ids `Release` removes, in the order it removes them. -/
def ReleaseEnv.releasedIDs (E : ReleaseEnv K σ) (txnSet : List Transaction) : List Hash256 :=
  txnSet.flatMap fun txn => (List.range txn.siacoinOutputs.length).map (E.siacoinOutputID txn)

/-! ## `Wallet.FundTransaction` -/

/-- What `Wallet.FundTransaction` reads, and the calls it makes, over the wallet state `σ`. -/
structure FundTransactionEnv (σ : Type) where
  /-- `w.DustThreshold()`. -/
  dustThreshold : Except String Currency
  /-- `dbGetConsensusHeight`. -/
  consensusHeight : Except String UInt64
  /-- `dbForEachSiacoinOutput`: the wallet's output table, by id. -/
  siacoinOutputs : Except String (AList (fun _ : Hash256 => SiacoinOutput))
  /-- The transactions of `w.unconfirmedProcessedTransactions`, in list order. -/
  unconfirmed : List Transaction
  /-- `Transaction.SiacoinOutputID(i)`. -/
  siacoinOutputID : Transaction → ℕ → Hash256
  /-- `w.keys`, of which `FundTransaction` reads the unlock conditions. -/
  keys : AList (fun _ : Hash256 => UnlockConditions)
  /-- `sort.Sort(sort.Reverse(so))`. -/
  sort : SortOrder (Hash256 × SiacoinOutput)
  /-- `RespendTimeout`. -/
  respendTimeout : UInt64
  /-- `UnlockConditions.UnlockHash`. -/
  unlockHash : UnlockConditions → Hash256
  /-- `dbGetSpentOutput`: the height an output was marked spent at, if it was. -/
  spentOutput : σ → Hash256 → Option UInt64
  /-- `w.nextPrimarySeedAddress`. -/
  nextPrimarySeedAddress : σ → UnlockConditions × Except String σ
  /-- `w.managedMarkAddressUnused`. -/
  markAddressUnused : UnlockConditions → σ → σ
  /-- `dbPutSpentOutput`. -/
  putSpentOutput : Hash256 → UInt64 → σ → Except String σ

/-- The errors of `checkOutput`. -/
inductive CheckError
  /-- `errDustOutput`. -/
  | dustOutput
  /-- `errSpendHeightTooHigh`. -/
  | spendHeightTooHigh
  /-- `errOutputTimelock`. -/
  | outputTimelock
  deriving DecidableEq

namespace FundTransactionEnv

variable {σ : Type} (E : FundTransactionEnv σ)

/-- `w.keys[addr].UnlockConditions`, the zero value for an address with no key. -/
def unlockConditionsOf (addr : Hash256) : UnlockConditions :=
  (E.keys.lookup addr).getD ⟨0, [], 0⟩

/-- `checkOutput`: whether the wallet may spend an output at height `currentHeight`. -/
def checkOutput (w : σ) (currentHeight : UInt64) (id : Hash256) (output : SiacoinOutput)
    (dustThreshold : Currency) : Except CheckError Unit :=
  if output.value.toNat < dustThreshold.toNat then .error .dustOutput
  else if (E.spentOutput w id).any fun spendHeight => currentHeight < spendHeight + E.respendTimeout
  then .error .spendHeightTooHigh
  else if currentHeight < (E.unlockConditionsOf output.address).timelock then .error .outputTimelock
  else .ok ()

/-- The outputs of the unconfirmed transactions whose address has a key, with their ids. -/
def unconfirmedOutputs : List (Hash256 × SiacoinOutput) :=
  E.unconfirmed.flatMap fun upt => upt.siacoinOutputs.enum.filterMap fun (i, sco) =>
    if sco.address ∈ E.keys then some (E.siacoinOutputID upt i, sco) else none

/-- The outputs `FundTransaction` collects before sorting them: the output table's, then
those of the unconfirmed transactions. -/
def collected (outputs : AList (fun _ : Hash256 => SiacoinOutput)) :
    List (Hash256 × SiacoinOutput) :=
  outputs.entries.map (fun e => (e.1, e.2)) ++ E.unconfirmedOutputs

end FundTransactionEnv

/-- The selection loop of `FundTransaction`: an output that fails `check` is skipped, its
value counted in `potentialFund` if it was spent too recently; an output that passes is
spent and counted in both sums, and the loop stops once `fund` reaches `amount`. It returns
the spent outputs, `fund` and `potentialFund`; `none` is `Currency.Add`'s panic. -/
def spendOutputs (check : Hash256 → SiacoinOutput → Except CheckError Unit) (amount : Currency) :
    Currency → Currency → List (Hash256 × SiacoinOutput) →
      Option (List (Hash256 × SiacoinOutput) × Currency × Currency)
  | fund, potentialFund, [] => some ([], fund, potentialFund)
  | fund, potentialFund, o :: so =>
    match check o.1 o.2 with
    | .error e =>
      if e = .spendHeightTooHigh then
        (potentialFund.add o.2.value).bind fun p => spendOutputs check amount fund p so
      else spendOutputs check amount fund potentialFund so
    | .ok () =>
      (fund.add o.2.value).bind fun f => (potentialFund.add o.2.value).bind fun p =>
        if amount.toNat ≤ f.toNat then some ([o], f, p)
        else (spendOutputs check amount f p so).map fun r => (o :: r.1, r.2)

/-- The last loop of `FundTransaction`: `dbPutSpentOutput` for each spent output, stopping
at the first failure with the outputs marked so far. -/
def putSpentOutputs (E : FundTransactionEnv σ) (height : UInt64) :
    List Hash256 → σ → Except String Unit × σ
  | [], w => (.ok (), w)
  | id :: ids, w =>
    match E.putSpentOutput id height w with
    | .error e => (.error e, w)
    | .ok w => putSpentOutputs E height ids w

/-- The end of `FundTransaction`, once the parent transaction is built: mark the parent's
output spent, add it as an input of the caller's transaction, and mark the spent outputs.
A failure runs the deferred release of the parent address; the release of the refund
address tests the `err` declared in the refund branch, which is `nil`, so it never runs. -/
def finishParent (E : FundTransactionEnv σ) (consensusHeight : UInt64)
    (parentUC : UnlockConditions) (spent : List Hash256) (txn parentTxn : Transaction) (w : σ) :
    Except WalletError Transaction × Transaction × σ :=
  let parentID := E.siacoinOutputID parentTxn 0
  match E.putSpentOutput parentID consensusHeight w with
  | .error e => (.error (.store e), txn, E.markAddressUnused parentUC w)
  | .ok w =>
    let txn := { txn with siacoinInputs := txn.siacoinInputs ++ [⟨parentID, parentUC⟩] }
    match putSpentOutputs E consensusHeight spent w with
    | (.error e, w) => (.error (.store e), txn, E.markAddressUnused parentUC w)
    | (.ok (), w) => (.ok parentTxn, txn, w)

/-- `Wallet.FundTransaction`: the error or the parent transaction; the caller's transaction
after the call; and the wallet state after it. -/
def fundTransaction (E : FundTransactionEnv σ) (w : σ) (txn : Transaction) (amount : Currency) :
    Except WalletError Transaction × Transaction × σ :=
  if amount.toNat = 0 then (.ok ⟨[], []⟩, txn, w)
  else match E.dustThreshold, E.consensusHeight, E.siacoinOutputs with
  | .error e, _, _ => (.error (.store e), txn, w)
  | .ok _, .error e, _ => (.error (.store e), txn, w)
  | .ok _, .ok _, .error e => (.error (.store e), txn, w)
  | .ok dustThreshold, .ok consensusHeight, .ok outputs =>
    match spendOutputs (fun id o => E.checkOutput w consensusHeight id o dustThreshold) amount
        Currency.zero Currency.zero
        (E.sort.order (E.collected outputs)) with
    | none => (.error .overflow, txn, w)
    | some (spent, fund, potentialFund) =>
      if amount.toNat ≤ potentialFund.toNat ∧ fund.toNat < amount.toNat then
        (.error .incompleteTransactions, txn, w)
      else if fund.toNat < amount.toNat then (.error .lowBalance, txn, w)
      else
        match E.nextPrimarySeedAddress w with
        | (_, .error e) => (.error (.store e), txn, w)
        | (parentUC, .ok w) =>
          let inputs : List SiacoinInput := spent.map fun o => ⟨o.1, E.unlockConditionsOf o.2.address⟩
          let exactOutput : SiacoinOutput := ⟨amount, E.unlockHash parentUC⟩
          if amount = fund then
            finishParent E consensusHeight parentUC (spent.map Prod.fst) txn ⟨inputs, [exactOutput]⟩ w
          else
            match E.nextPrimarySeedAddress w with
            | (_, .error e) => (.error (.store e), txn, E.markAddressUnused parentUC w)
            | (refundUC, .ok w) =>
              match fund.sub amount with
              | none => (.error .overflow, txn, w)
              | some v => finishParent E consensusHeight parentUC (spent.map Prod.fst) txn
                  ⟨inputs, [exactOutput, ⟨v, E.unlockHash refundUC⟩]⟩ w

/-! ## `Wallet.ReleaseInputs` -/

/-- What `Wallet.ReleaseInputs` calls beyond what `FundTransaction` reads. -/
structure ReleaseInputsEnv (σ : Type) extends FundTransactionEnv σ where
  /-- The parents `w.tpool.Transaction(txn.ID())` returns; its `exists` is only logged. -/
  transactionParents : Transaction → List Transaction
  /-- `dbDeleteSpentOutput`, whose error `ReleaseInputs` drops. -/
  deleteSpentOutput : Hash256 → σ → σ

/-- `Wallet.ReleaseInputs`: `dbDeleteSpentOutput` for the parent of each input of the pool's
parents of the transaction, then of the transaction itself. -/
def releaseInputs (E : ReleaseInputsEnv σ) (txn : Transaction) (w : σ) : σ :=
  (E.transactionParents txn ++ [txn]).foldl (fun w txn =>
    txn.siacoinInputs.foldl (fun w sci => E.deleteSpentOutput sci.parentID w) w) w

/-- The ids `ReleaseInputs` deletes, in the order it deletes them. -/
def ReleaseInputsEnv.releasedIDs (E : ReleaseInputsEnv σ) (txn : Transaction) : List Hash256 :=
  (E.transactionParents txn ++ [txn]).flatMap fun txn => txn.siacoinInputs.map (·.parentID)

/-! ## `Wallet.ConfirmedBalance` -/

/-- `Wallet.DustThreshold`: three times the recommended fee; `none` is `Mul64`'s panic. -/
def dustThreshold (recommendedFee : Currency) : Option Currency := recommendedFee.mul64 3

/-- `types.SiacoinElement` as `ConfirmedBalance` reads it: its output and the height at which
it matures. -/
structure TrackedElement where
  siacoinOutput : SiacoinOutput
  maturityHeight : ℕ
  deriving DecidableEq

/-- The loop of `ConfirmedBalance` over `w.sces`, in the order the range visits the map: an
element above the dust threshold is added to the confirmed sum once the tip's height reaches
its maturity height, and to the immature sum before. `none` is `Currency.Add`'s panic. -/
def balanceLoop (dust : Currency) (height : ℕ) :
    Currency × Currency → List TrackedElement → Option (Currency × Currency)
  | acc, [] => some acc
  | (siacoins, immature), sce :: sces =>
    if dust.toNat < sce.siacoinOutput.value.toNat then
      if sce.maturityHeight ≤ height then
        (siacoins.add sce.siacoinOutput.value).bind fun s => balanceLoop dust height (s, immature) sces
      else
        (immature.add sce.siacoinOutput.value).bind fun i => balanceLoop dust height (siacoins, i) sces
    else balanceLoop dust height (siacoins, immature) sces

/-- `Wallet.ConfirmedBalance` at the tip's height, over the values of `w.sces` and the siafund
values of `w.sfes` in the order the ranges visit the maps. The siafund sum is a `uint64`. -/
def confirmedBalance (recommendedFee : Currency) (height : ℕ) (sces : List TrackedElement)
    (sfes : List UInt64) : Option (Currency × Currency × UInt64) := do
  let dust ← dustThreshold recommendedFee
  let (siacoins, immature) ← balanceLoop dust height (Currency.zero, Currency.zero) sces
  pure (siacoins, immature, sfes.foldl (· + ·) 0)

end Wallet

end SiaSatellite
