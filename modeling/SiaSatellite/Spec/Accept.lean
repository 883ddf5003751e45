import SiaSatellite.Spec.Types

/-!
# The transaction pool's admission of a transaction set

`acceptTransactionSet` and `handleConflicts` (`modules/transactionpool/accept.go`) with
the helpers they call. The pool is explicit state, and a call returns its result
together with the pool after it, also after an error, as the Go methods change `tp` in
place.

What the pool calls but does not define is a parameter:
* `Core T`: what the pool reads of a `types.Transaction` (`T`): its id, the ids of the
  objects it spends or creates, its miner fees, and the hash and encoded length of a set.
* `Policy T`: the standardness rules, `TransactionPoolSizeForFee`, and the fee curve
  `requiredFeesToExtendTpoolAtSize`, which Go computes in floating point.
* `MapOrder`: the order in which Go's `range` visits the keys of a map.
* per call, the consensus set's validation callback `txnFn` and the confirmed-transaction
  lookup `transactionConfirmed`.
-/

namespace SiaSatellite

/-- What the pool reads of the transaction type `T` of `go.sia.tech/core/types`. -/
structure Core (T : Type) where
  /-- `Transaction.ID`. -/
  id : T → TransactionID
  /-- The `ParentID` of each siacoin input. -/
  siacoinInputs : T → List SiacoinOutputID
  /-- `len(SiacoinOutputs)`, and `SiacoinOutputID(i)`. -/
  siacoinOutputs : T → ℕ
  siacoinOutputID : T → ℕ → SiacoinOutputID
  /-- `len(FileContracts)`, and `FileContractID(i)`. -/
  fileContracts : T → ℕ
  fileContractID : T → ℕ → FileContractID
  /-- The `ParentID` of each file contract revision and of each storage proof. -/
  fileContractRevisions : T → List FileContractID
  storageProofs : T → List FileContractID
  /-- The `ParentID` of each siafund input. -/
  siafundInputs : T → List SiafundOutputID
  /-- `len(SiafundOutputs)`, and `SiafundOutputID(i)`. -/
  siafundOutputs : T → ℕ
  siafundOutputID : T → ℕ → SiafundOutputID
  minerFees : T → List Currency
  /-- The hash of a set's encoding, its `TransactionSetID`. -/
  setID : List T → TransactionSetID
  /-- `types.EncodedLen(transactionSet(ts))`. -/
  encodedLen : List T → ℕ

/-- The admission policy's parts that are not in `accept.go`. -/
structure Policy (T : Type) where
  /-- Whether a set meets the standardness rules of `isStandardTransactionSet`. -/
  isStandard : List T → Bool
  /-- `TransactionPoolSizeForFee`. -/
  transactionPoolSizeForFee : ℤ
  /-- `requiredFeesToExtendTpoolAtSize`: the fee per byte at a pool size. -/
  requiredFeesToExtendTpoolAtSize : ℤ → Currency

/-- The order in which `range` visits the keys of a Go map: each key once. -/
structure MapOrder where
  order : List Hash256 → List Hash256
  perm : ∀ l, (order l).Perm l

/-- The ids of a `modules.ConsensusChange`'s diffs, the part of it the pool reads. -/
structure ConsensusChange where
  siacoinOutputDiffs : List SiacoinOutputID
  fileContractDiffs : List FileContractID
  siafundOutputDiffs : List SiafundOutputID
deriving DecidableEq, Repr

/-- Every object id in a consensus change's diffs. -/
def ConsensusChange.diffIDs (cc : ConsensusChange) : List ObjectID :=
  cc.siacoinOutputDiffs ++ cc.fileContractDiffs ++ cc.siafundOutputDiffs

/-- The errors `acceptTransactionSet` ends with. `emptySet` is `errEmptySet` ("transaction
set is empty"), `lowMinerFees` is `errLowMinerFees` ("transaction set needs more miner
fees to be accepted"), `consensusConflict` is `modules.NewConsensusConflict` of its text,
and `overflow` is the panic of `Currency.Add` or `Currency.Mul64`. -/
inductive TpoolError
  | emptySet
  | duplicateTransactionSet
  | nonStandard
  | lowMinerFees
  | consensusConflict (msg : String)
  | overflow
deriving DecidableEq, Repr

/-- The pool's state (`TransactionPool`'s fields that admission reads or writes). -/
structure TransactionPool (T : Type) where
  knownObjects : AList (fun _ : ObjectID => TransactionSetID)
  transactionSets : AList (fun _ : TransactionSetID => List T)
  transactionSetDiffs : AList (fun _ : TransactionSetID => ConsensusChange)
  transactionListSize : ℤ
  transactionHeights : AList (fun _ : TransactionID => ℕ)
  blockHeight : ℕ

/-- The consensus set's validation callback. -/
abbrev TxnFn (T : Type) := List T → Except String ConsensusChange

/-- What a call returns, with the pool after it. -/
abbrev Outcome (T : Type) := Except TpoolError (List T) × TransactionPool T

variable {T : Type} (C : Core T) (P : Policy T)

/-- The objects one transaction spends or creates, in the order `relatedObjectIDs` visits
them. -/
def Core.objects (t : T) : List ObjectID :=
  C.siacoinInputs t ++ (List.range (C.siacoinOutputs t)).map (C.siacoinOutputID t) ++
    (List.range (C.fileContracts t)).map (C.fileContractID t) ++ C.fileContractRevisions t ++
    C.storageProofs t ++ C.siafundInputs t ++
    (List.range (C.siafundOutputs t)).map (C.siafundOutputID t)

/-- `relatedObjectIDs`: the keys of `oidMap`, each once, in the map's iteration order. -/
def relatedObjectIDs (mo : MapOrder) (ts : List T) : List ObjectID :=
  mo.order (ts.flatMap C.objects).dedup

namespace TransactionPool

/-- `tp.transactionSets[id]`, `nil` for an id with no set. -/
def setOf (tp : TransactionPool T) (id : TransactionSetID) : List T :=
  (tp.transactionSets.lookup id).getD []

/-- The owners of `oids` in `knownObjects`, in the order of `oids` (`conflicts`). -/
def conflictsOf (tp : TransactionPool T) (oids : List ObjectID) : List TransactionSetID :=
  oids.filterMap tp.knownObjects.lookup

/-- The empty pool. -/
def empty (blockHeight : ℕ) : TransactionPool T := ⟨∅, ∅, ∅, 0, ∅, blockHeight⟩

/-- The install step at the end of both functions: the set under `setID`, the objects
`oids` owned by it, its diff, its size, and the first-seen height of each new
transaction. -/
def install (tp : TransactionPool T) (setID : TransactionSetID) (ts : List T)
    (oids : List ObjectID) (cc : ConsensusChange) : TransactionPool T :=
  { tp with
    transactionSets := tp.transactionSets.insert setID ts
    knownObjects := oids.foldl (fun m oid => m.insert oid setID) tp.knownObjects
    transactionSetDiffs := tp.transactionSetDiffs.insert setID cc
    transactionListSize := tp.transactionListSize + C.encodedLen ts
    transactionHeights := ts.foldl (fun m txn =>
      if C.id txn ∈ m then m else m.insert (C.id txn) tp.blockHeight) tp.transactionHeights }

/-- Removing one merged set in `handleConflicts`: its size, its entry and its diff. Its
`knownObjects` entries stay. -/
def evict (tp : TransactionPool T) (conflict : TransactionSetID) : TransactionPool T :=
  { tp with
    transactionListSize := tp.transactionListSize - C.encodedLen (tp.setOf conflict)
    transactionSets := tp.transactionSets.erase conflict
    transactionSetDiffs := tp.transactionSetDiffs.erase conflict }

end TransactionPool

open TransactionPool

/-- `conflictMap`: each transaction id of the conflicting sets, mapped to the last of them
that holds it. -/
def conflictMapOf (tp : TransactionPool T) (conflicts : List TransactionSetID) :
    AList (fun _ : TransactionID => TransactionSetID) :=
  conflicts.foldl (fun m conflict =>
    (tp.setOf conflict).foldl (fun m txn => m.insert (C.id txn) conflict) m) ∅

/-- The keys of `supersetMap`: the distinct sets `conflictMap` maps to. -/
def supersetKeys (conflictMap : AList (fun _ : TransactionID => TransactionSetID)) :
    List TransactionSetID :=
  (conflictMap.entries.map Sigma.snd).dedup

/-- Modelled from the spec: `isStandardTransactionSet` (not in this repository's sources)
fails with `NonStandard` if the set breaks the standardness rules and otherwise returns the
set's encoded length. -/
def isStandardTransactionSet (ts : List T) : Except TpoolError ℕ :=
  if P.isStandard ts then .ok (C.encodedLen ts) else .error .nonStandard

/-- `checkTransactionSetComposition`. -/
def checkTransactionSetComposition (tp : TransactionPool T) (ts : List T) :
    Except TpoolError ℕ :=
  if C.setID ts ∈ tp.transactionSets then .error .duplicateTransactionSet
  else isStandardTransactionSet C P ts

/-- `requiredFeesToExtendTpool`. -/
def requiredFeesToExtendTpool (tp : TransactionPool T) : Currency :=
  if tp.transactionListSize < P.transactionPoolSizeForFee then Currency.zero
  else P.requiredFeesToExtendTpoolAtSize tp.transactionListSize

/-- The miner fees of a set summed with `Currency.Add`; `none` is its panic. -/
def setFees (ts : List T) : Option Currency :=
  (ts.flatMap C.minerFees).foldlM Currency.add Currency.zero

/-- The fee check both functions run on the set they would add: the required fee
`requiredFeesToExtendTpool().Mul64(setSize)`, then the sum of the set's fees, then
`requiredFees.Cmp(setFees) > 0`. -/
def checkMinerFees (tp : TransactionPool T) (ts : List T) (setSize : ℕ) :
    Except TpoolError Unit :=
  match (requiredFeesToExtendTpool P tp).mul64 setSize with
  | none => .error .overflow
  | some requiredFees =>
    match setFees C ts with
    | none => .error .overflow
    | some fees => if fees.toNat < requiredFees.toNat then .error .lowMinerFees else .ok ()

/-- The merge at the end of `handleConflicts`: the conflicting sets in `supersetMap`'s
order, then the candidate, checked, validated, and installed in place of the sets. -/
def mergeConflicts (mo : MapOrder) (tp : TransactionPool T)
    (conflictMap : AList (fun _ : TransactionID => TransactionSetID)) (dedupSet : List T)
    (txnFn : TxnFn T) : Outcome T :=
  let keys := mo.order (supersetKeys conflictMap)
  let superset := keys.flatMap tp.setOf ++ dedupSet
  match checkTransactionSetComposition C P tp superset with
  | .error e => (.error e, tp)
  | .ok setSize =>
    match checkMinerFees C P tp superset setSize with
    | .error e => (.error e, tp)
    | .ok () =>
      match txnFn superset with
      | .error err => (.error (.consensusConflict
          ("provided transaction set has prereqs, but is still invalid: " ++ err)), tp)
      | .ok cc =>
        (.ok superset, (keys.foldl (evict C) tp).install C (C.setID superset) superset
          cc.diffIDs cc)

/-- `handleConflicts`. -/
def handleConflicts (mo : MapOrder) (tp : TransactionPool T) (ts : List T)
    (conflicts : List TransactionSetID) (txnFn : TxnFn T) : Outcome T :=
  let conflictMap := conflictMapOf C tp conflicts
  let dedupSet := ts.filter fun t => C.id t ∉ conflictMap
  if dedupSet.length = 0 then (.error .duplicateTransactionSet, tp)
  else if _ : dedupSet.length < ts.length then
    handleConflicts mo tp dedupSet (tp.conflictsOf (relatedObjectIDs C mo dedupSet)) txnFn
  else mergeConflicts C P mo tp conflictMap dedupSet txnFn
termination_by ts.length
decreasing_by assumption

/-- `acceptTransactionSet`. -/
def acceptTransactionSet (mo : MapOrder) (transactionConfirmed : TransactionID → Bool)
    (tp : TransactionPool T) (ts : List T) (txnFn : TxnFn T) : Outcome T :=
  if ts.length = 0 then (.error .emptySet, tp)
  else
    let ts := ts.filter fun txn => !transactionConfirmed (C.id txn)
    if ts.length = 0 then (.error .duplicateTransactionSet, tp)
    else
      match checkTransactionSetComposition C P tp ts with
      | .error e => (.error e, tp)
      | .ok setSize =>
        match checkMinerFees C P tp ts setSize with
        | .error e => (.error e, tp)
        | .ok () =>
          let oids := relatedObjectIDs C mo ts
          let conflicts := tp.conflictsOf oids
          if conflicts.length > 0 then handleConflicts C P mo tp ts conflicts txnFn
          else
            match txnFn ts with
            | .error err => (.error (.consensusConflict
                ("provided transaction set is invalid: " ++ err)), tp)
            | .ok cc => (.ok ts, tp.install C (C.setID ts) ts oids cc)

end SiaSatellite
