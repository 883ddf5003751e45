import SiaSatellite.Spec.Wallet

/-!
# The events of an applied block

`AppliedEvents` (part_001) turns a block and the chain update that applied it into the
wallet's events. It first makes a quick pass over the elements the update reports
(`anythingRelevant`) and returns no events when none of them touches a relevant address.
Otherwise it indexes the reported elements by id and scans the block: an event per v1 or
v2 transaction that touches a relevant address (`relevantTxn`, `relevantV2Txn`), per
contract the update resolves as missed whose outputs do, and per miner payout to a
relevant address.

Only what the relevance checks read is kept of the `core` types: addresses, the parent ids
of v1 inputs and proofs, the parents embedded in v2 inputs, revisions and resolutions, and
the outputs of contracts. An event keeps its timestamp, chain index and deduplicated
relevant addresses; its payload is the transaction, contract element or payout element it
is about, and the `EventTransaction` and the others built from it are left out. Building them
is not lookups alone: `EventTransaction` sums the miner fees with `Currency.Add`, which panics
on an overflow, and decodes the host announcements in the arbitrary data, so the model says
nothing of those panics or of what the announcements hold. A Go map lookup of an id that is
not there returns the zero element, as it does in Go.
-/

namespace SiaSatellite

namespace Events

open CoreTypes Wallet

/-- A wallet address (`types.Address`). -/
abbrev Address := Hash256

/-- `types.SiafundOutput`: its address, which is all `AppliedEvents` reads. -/
structure SiafundOutput where
  address : Address
  deriving DecidableEq

/-- `types.SiafundElement`. -/
structure SiafundElement where
  id : Hash256
  siafundOutput : SiafundOutput
  deriving DecidableEq

/-- `types.FileContractElement`. -/
structure FileContractElement where
  id : Hash256
  fileContract : FileContract

/-- The outputs of `types.V2FileContract`. -/
structure V2FileContract where
  renterOutput : SiacoinOutput
  hostOutput : SiacoinOutput
  deriving DecidableEq

/-- `types.V2FileContractElement`. -/
structure V2FileContractElement where
  id : Hash256
  v2FileContract : V2FileContract
  deriving DecidableEq

/-- `types.V2FileContractResolutionType`. -/
inductive V2FileContractResolutionType
  /-- `*types.V2FileContractFinalization`: the final contract. -/
  | finalization (fc : V2FileContract)
  /-- `*types.V2FileContractRenewal`, of which `AppliedEvents` reads the final revision. -/
  | renewal (finalRevision : V2FileContract)
  /-- `*types.V2StorageProof`. -/
  | storageProof
  /-- `*types.V2FileContractExpiration`. -/
  | expiration
  deriving DecidableEq

/-- The parent id of a v1 input or storage proof. -/
structure ParentRef where
  parentID : Hash256
  deriving DecidableEq

/-- The parts of a v1 `types.Transaction` that `relevantTxn` reads. -/
structure Transaction where
  siacoinInputs : List ParentRef
  siacoinOutputs : List SiacoinOutput
  siafundInputs : List ParentRef
  siafundOutputs : List SiafundOutput
  fileContracts : List FileContract
  fileContractRevisions : List FileContractRevision
  storageProofs : List ParentRef

/-- `types.V2FileContractRevision`. -/
structure V2FileContractRevision where
  parent : V2FileContractElement
  revision : V2FileContract

/-- `types.V2FileContractResolution`. -/
structure V2FileContractResolution where
  parent : V2FileContractElement
  resolution : V2FileContractResolutionType

/-- The parts of `types.V2Transaction` that `relevantV2Txn` reads; an input is its parent. -/
structure V2Transaction where
  siacoinInputs : List SiacoinElement
  siacoinOutputs : List SiacoinOutput
  siafundInputs : List SiafundElement
  siafundOutputs : List SiafundOutput
  fileContracts : List V2FileContract
  fileContractRevisions : List V2FileContractRevision
  fileContractResolutions : List V2FileContractResolution

/-- `types.Block`; `v2Transactions` is `b.V2Transactions()`, empty before v2. -/
structure Block where
  timestamp : ℕ
  minerPayouts : List SiacoinOutput
  transactions : List Transaction
  v2Transactions : List V2Transaction

/-- `types.ChainIndex`. -/
structure ChainIndex where
  height : UInt64
  id : BlockID
  deriving DecidableEq

/-- What `ForEachFileContractElement` passes its callback. -/
structure FileContractUpdate where
  fce : FileContractElement
  rev : Option FileContractElement
  resolved : Bool
  valid : Bool

/-- What `ForEachV2FileContractElement` passes its callback. -/
structure V2FileContractUpdate where
  fce : V2FileContractElement
  rev : Option V2FileContractElement
  res : Option V2FileContractResolutionType

/-- `ChainUpdate`: the elements each `ForEach` method visits, in order. -/
structure ChainUpdate where
  siacoinElements : List (SiacoinElement × Bool)
  siafundElements : List (SiafundElement × Bool)
  fileContractElements : List FileContractUpdate
  v2FileContractElements : List V2FileContractUpdate

/-- What an event is about: the element `AppliedEvents` builds the event's payload from. -/
inductive EventVal
  | transaction (txn : Transaction)
  | v2Transaction (txn : V2Transaction)
  | missedFileContract (fce : FileContractElement)
  | minerPayout (sce : SiacoinElement)

/-- `Event`. -/
structure Event where
  timestamp : ℕ
  index : ChainIndex
  relevant : List Address
  val : EventVal

namespace ChainUpdate

variable (cu : ChainUpdate)

/-- `sces[id]`: the last siacoin element reported with this id, or the zero element. -/
def sces (id : Hash256) : SiacoinElement :=
  ((cu.siacoinElements.map (·.1)).reverse.find? (·.id = id)).getD ⟨0, ⟨Currency.zero, 0⟩⟩

/-- `sfes[id]`: the last siafund element reported with this id, or the zero element. -/
def sfes (id : Hash256) : SiafundElement :=
  ((cu.siafundElements.map (·.1)).reverse.find? (·.id = id)).getD ⟨0, ⟨0⟩⟩

/-- `fces[id]`: the last file contract element reported with this id, or the zero element. -/
def fces (id : Hash256) : FileContractElement :=
  ((cu.fileContractElements.map (·.fce)).reverse.find? (·.id = id)).getD
    ⟨0, ⟨0, 0, 0, 0, Currency.zero, [], [], 0, 0⟩⟩

end ChainUpdate

section Relevance

variable (relevant : Address → Bool)

/-- `relevantContract`: the relevant addresses among a contract's valid, then missed, proof
outputs. -/
def relevantContract (fc : FileContract) : List Address :=
  (fc.validProofOutputs.map (·.address)).filter relevant ++
    (fc.missedProofOutputs.map (·.address)).filter relevant

/-- `relevantV2Contract`: the renter's, then the host's output address, if relevant. -/
def relevantV2Contract (fc : V2FileContract) : List Address :=
  [fc.renterOutput.address].filter relevant ++ [fc.hostOutput.address].filter relevant

/-- `relevantV2ContractResolution`: a finalization's contract, a renewal's final revision,
nothing for the other resolutions. -/
def relevantV2ContractResolution : V2FileContractResolutionType → List Address
  | .finalization fc => relevantV2Contract relevant fc
  | .renewal finalRevision => relevantV2Contract relevant finalRevision
  | .storageProof | .expiration => []

/-- `anythingRelevant`: the first pass over the chain update. Each callback sets `ok` once
its element touches a relevant address, so each loop is an `any`. -/
def anythingRelevant (cu : ChainUpdate) : Bool :=
  cu.siacoinElements.any (fun e => relevant e.1.siacoinOutput.address) ||
  cu.siafundElements.any (fun e => relevant e.1.siafundOutput.address) ||
  cu.fileContractElements.any (fun u => !(relevantContract relevant u.fce.fileContract).isEmpty ||
    u.rev.any fun rev => !(relevantContract relevant rev.fileContract).isEmpty) ||
  cu.v2FileContractElements.any (fun u =>
    !(relevantV2Contract relevant u.fce.v2FileContract).isEmpty ||
    (u.rev.any fun rev => !(relevantV2Contract relevant rev.v2FileContract).isEmpty) ||
    u.res.any fun res => !(relevantV2ContractResolution relevant res).isEmpty)

/-- `relevantTxn`: the relevant addresses a v1 transaction touches, with its inputs'
parents and its proofs' contracts looked up among the reported elements. -/
def relevantTxn (cu : ChainUpdate) (txn : Transaction) : List Address :=
  (txn.siacoinInputs.map fun sci => (cu.sces sci.parentID).siacoinOutput.address).filter relevant ++
  (txn.siacoinOutputs.map (·.address)).filter relevant ++
  (txn.siafundInputs.map fun sfi => (cu.sfes sfi.parentID).siafundOutput.address).filter relevant ++
  (txn.siafundOutputs.map (·.address)).filter relevant ++
  txn.fileContracts.flatMap (relevantContract relevant) ++
  txn.fileContractRevisions.flatMap (fun fcr => relevantContract relevant fcr.fileContract) ++
  txn.storageProofs.flatMap (fun sp => relevantContract relevant (cu.fces sp.parentID).fileContract)

/-- `relevantV2Txn`: the relevant addresses a v2 transaction touches, from the parents it
carries. -/
def relevantV2Txn (txn : V2Transaction) : List Address :=
  (txn.siacoinInputs.map (·.siacoinOutput.address)).filter relevant ++
  (txn.siacoinOutputs.map (·.address)).filter relevant ++
  (txn.siafundInputs.map (·.siafundOutput.address)).filter relevant ++
  (txn.siafundOutputs.map (·.address)).filter relevant ++
  txn.fileContracts.flatMap (relevantV2Contract relevant) ++
  txn.fileContractRevisions.flatMap (fun fcr =>
    relevantV2Contract relevant fcr.parent.v2FileContract ++ relevantV2Contract relevant fcr.revision) ++
  txn.fileContractResolutions.flatMap (fun fcr =>
    relevantV2Contract relevant fcr.parent.v2FileContract ++
      relevantV2ContractResolution relevant fcr.resolution)

end Relevance

/-- The deduplication in `addEvent`: the first occurrence of each address, in order. -/
def dedupRelevant : List Address → List Address → List Address
  | _, [] => []
  | seen, addr :: addrs =>
    if addr ∈ seen then dedupRelevant seen addrs else addr :: dedupRelevant (addr :: seen) addrs

/-- `addEvent`: an event of the block with the deduplicated relevant addresses. -/
def addEvent (index : ChainIndex) (b : Block) (v : EventVal) (relevant : List Address) : Event :=
  ⟨b.timestamp, index, dedupRelevant [] relevant, v⟩

/-- An event for an item whose relevant addresses are `r`, none when there are none. -/
def eventIf (index : ChainIndex) (b : Block) (v : EventVal) (r : List Address) : Option Event :=
  if r.isEmpty then none else some (addEvent index b v r)

variable (relevant : Address → Bool)

/-- The scan of `AppliedEvents` after the first pass: the v1 transactions, the v2
transactions, the contracts resolved as missed and the miner payouts, in that order.
`minerOutputID` is `BlockID.MinerOutputID`. -/
def blockEvents (minerOutputID : BlockID → ℕ → Hash256) (index : ChainIndex) (b : Block)
    (cu : ChainUpdate) : List Event :=
  b.transactions.filterMap (fun txn => eventIf index b (.transaction txn) (relevantTxn relevant cu txn)) ++
  b.v2Transactions.filterMap (fun txn => eventIf index b (.v2Transaction txn) (relevantV2Txn relevant txn)) ++
  cu.fileContractElements.filterMap (fun u =>
    if u.resolved && !u.valid then
      eventIf index b (.missedFileContract u.fce) (relevantContract relevant u.fce.fileContract)
    else none) ++
  b.minerPayouts.enum.filterMap (fun (i, mp) =>
    if relevant mp.address then
      some (addEvent index b (.minerPayout (cu.sces (minerOutputID index.id i))) [mp.address])
    else none)

/-- `AppliedEvents`: no events when the first pass finds nothing relevant, the scan
otherwise. -/
def appliedEvents (minerOutputID : BlockID → ℕ → Hash256) (index : ChainIndex) (b : Block)
    (cu : ChainUpdate) : List Event :=
  if !anythingRelevant relevant cu then [] else blockEvents relevant minerOutputID index b cu

end Events

end SiaSatellite
