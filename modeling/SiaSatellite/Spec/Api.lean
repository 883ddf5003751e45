import SiaSatellite.Spec.Convert

/-!
# The node's HTTP API: the gateway's blocklist and the consensus block view

`node/api` serves the gateway and the consensus set over HTTP. The gateway's handlers connect
to and disconnect from a peer, and `gatewayBlocklistHandlerPOST` decodes an action and a list
of addresses and appends them to the gateway's blocklist, removes them from it or sets it to
them; `gatewayBlocklistHandlerGET` returns the list. `consensusBlocksHandler` finds a block
by id or by height and answers with `consensusBlocksGetFromBlock`: the block with the ids
`siad` derives for it, its transactions, their outputs and contracts, and the contracts'
proof outputs.

The gateway and the consensus set are not in the repository: their calls are parameters over
a gateway state `σ`, and `siad`'s id derivations are the parameter `SiadIds`. The JSON
decoder's result is the request body, `Except` its error. A handler writes one `Response`;
a panic is `none`. `RequirePassword`'s check is left out, and so are `gatewayHandler`'s
nil-slice case, which only changes how an empty list is printed, `consensusHandler` and
`consensusValidateTransactionsetHandler`, which pass one call's result through.
-/

namespace SiaSatellite

namespace Api

/-- What a handler writes: `WriteSuccess`, `WriteJSON` of a value, or `WriteError` of an
`api.Error` with an HTTP status. -/
inductive Response (α : Type)
  | success
  | json (value : α)
  | error (message : String) (status : ℕ)
  deriving DecidableEq

/-- `http.StatusBadRequest`. -/
def statusBadRequest : ℕ := 400

/-! ## The gateway -/

/-- `GatewayBlocklistPOST`. -/
structure GatewayBlocklistPOST where
  action : String
  addresses : List String
  deriving DecidableEq

/-- The calls the gateway's handlers make on `modules.Gateway`, over the gateway state `σ`. -/
structure GatewayEnv (σ : Type) where
  /-- `gateway.ConnectManual`. -/
  connectManual : String → σ → Except String Unit × σ
  /-- `gateway.DisconnectManual`. -/
  disconnectManual : String → σ → Except String Unit × σ
  /-- `gateway.Blocklist()`. -/
  blocklist : σ → Except String (List String)
  /-- `gateway.AddToBlocklist`. -/
  addToBlocklist : List String → σ → Except String Unit × σ
  /-- `gateway.RemoveFromBlocklist`. -/
  removeFromBlocklist : List String → σ → Except String Unit × σ
  /-- `gateway.SetBlocklist`. -/
  setBlocklist : List String → σ → Except String Unit × σ

variable {σ : Type}

/-- A gateway call answered with `WriteError` of `failure` and the error's text under
`http.StatusBadRequest`, or with `WriteSuccess`. -/
def gatewayCall (call : σ → Except String Unit × σ) (failure : String) (g : σ) :
    Response Unit × σ :=
  match call g with
  | (.error err, g) => (.error (failure ++ err) statusBadRequest, g)
  | (.ok (), g) => (.success, g)

/-- `gatewayConnectHandler`. -/
def gatewayConnectHandler (G : GatewayEnv σ) (netaddress : String) (g : σ) : Response Unit × σ :=
  gatewayCall (G.connectManual netaddress) "" g

/-- `gatewayDisconnectHandler`. -/
def gatewayDisconnectHandler (G : GatewayEnv σ) (netaddress : String) (g : σ) :
    Response Unit × σ :=
  gatewayCall (G.disconnectManual netaddress) "" g

/-- `gatewayBlocklistHandlerGET`. -/
def gatewayBlocklistHandlerGET (G : GatewayEnv σ) (g : σ) : Response (List String) :=
  match G.blocklist g with
  | .error err => .error ("unable to get blocklist mode: " ++ err) statusBadRequest
  | .ok blocklist => .json blocklist

/-- The `append` and `remove` cases of `gatewayBlocklistHandlerPOST`: an empty list is
refused before the gateway is called. -/
def nonemptyBlocklistCall (write : List String → σ → Except String Unit × σ) (failure : String)
    (addresses : List String) (g : σ) : Response Unit × σ :=
  if addresses.length = 0 then
    (.error "no addresses submitted to append or remove" statusBadRequest, g)
  else gatewayCall (write addresses) failure g

/-- `gatewayBlocklistHandlerPOST` on the decoding of the request body. In the `default` case
the decoding succeeded, so `err` is nil and `err.Error()` panics. -/
def gatewayBlocklistHandlerPOST (G : GatewayEnv σ) (body : Except String GatewayBlocklistPOST)
    (g : σ) : Option (Response Unit × σ) :=
  match body with
  | .error err => some (.error ("invalid parameters: " ++ err) statusBadRequest, g)
  | .ok params =>
    if params.action = "append" then
      some (nonemptyBlocklistCall G.addToBlocklist "failed to add addresses to the blocklist: "
        params.addresses g)
    else if params.action = "remove" then
      some (nonemptyBlocklistCall G.removeFromBlocklist
        "failed to remove addresses from the blocklist: " params.addresses g)
    else if params.action = "set" then
      some (gatewayCall (G.setBlocklist params.addresses) "failed to set the blocklist: " g)
    else none

/-- A decoded request whose action is none of the three panics, whatever the gateway. -/
example (G : GatewayEnv Unit) :
    gatewayBlocklistHandlerPOST G (.ok ⟨"clear", ["1.2.3.4"]⟩) () = none := rfl

/-! ## The consensus block view -/

/-- `types.SiacoinInput` of `siad`. -/
structure SiacoinInput where
  parentID : Hash256
  unlockConditions : SiadTypes.UnlockConditions
  deriving DecidableEq

/-- `types.SiafundInput` of `siad`. -/
structure SiafundInput where
  parentID : Hash256
  unlockConditions : SiadTypes.UnlockConditions
  claimUnlockHash : Hash256
  deriving DecidableEq

/-- `types.SiafundOutput` of `siad`. -/
structure SiafundOutput where
  value : ℕ
  unlockHash : Hash256
  claimStart : ℕ
  deriving DecidableEq

/-- `types.StorageProof` of `siad`. -/
structure StorageProof where
  parentID : Hash256
  segment : Bytes 64
  hashSet : List Hash256
  deriving DecidableEq

/-- `types.FileContract` of `siad`. -/
structure FileContract where
  fileSize : UInt64
  fileMerkleRoot : Hash256
  windowStart : UInt64
  windowEnd : UInt64
  payout : ℕ
  validProofOutputs : List SiadTypes.SiacoinOutput
  missedProofOutputs : List SiadTypes.SiacoinOutput
  unlockHash : Hash256
  revisionNumber : UInt64
  deriving DecidableEq

/-- `types.Transaction` of `siad`. -/
structure Transaction where
  siacoinInputs : List SiacoinInput
  siacoinOutputs : List SiadTypes.SiacoinOutput
  fileContracts : List FileContract
  fileContractRevisions : List SiadTypes.FileContractRevision
  storageProofs : List StorageProof
  siafundInputs : List SiafundInput
  siafundOutputs : List SiafundOutput
  minerFees : List ℕ
  arbitraryData : List (List UInt8)
  transactionSignatures : List SiadTypes.TransactionSignature
  deriving DecidableEq

/-- `types.Block` of `siad`. -/
structure Block where
  parentID : Hash256
  nonce : Bytes 8
  timestamp : UInt64
  minerPayouts : List SiadTypes.SiacoinOutput
  transactions : List Transaction
  deriving DecidableEq

/-- The ids `siad` derives by hashing: `Block.ID`, `Transaction.ID`,
`Transaction.SiacoinOutputID`, `Transaction.SiafundOutputID`, `Transaction.FileContractID`
and `FileContractID.StorageProofOutputID`. -/
structure SiadIds where
  blockID : Block → Hash256
  transactionID : Transaction → Hash256
  siacoinOutputID : Transaction → ℕ → Hash256
  siafundOutputID : Transaction → ℕ → Hash256
  fileContractID : Transaction → ℕ → Hash256
  storageProofOutputID : Hash256 → Bool → ℕ → Hash256

/-- `types.ProofValid`. -/
def proofValid : Bool := true

/-- `types.ProofMissed`. -/
def proofMissed : Bool := false

/-- `ConsensusBlocksGetSiacoinOutput`. -/
structure ConsensusBlocksGetSiacoinOutput where
  id : Hash256
  value : ℕ
  unlockHash : Hash256
  deriving DecidableEq

/-- `ConsensusBlocksGetSiafundOutput`. -/
structure ConsensusBlocksGetSiafundOutput where
  id : Hash256
  value : ℕ
  unlockHash : Hash256
  deriving DecidableEq

/-- `ConsensusBlocksGetFileContract`. -/
structure ConsensusBlocksGetFileContract where
  id : Hash256
  fileSize : UInt64
  fileMerkleRoot : Hash256
  windowStart : UInt64
  windowEnd : UInt64
  payout : ℕ
  validProofOutputs : List ConsensusBlocksGetSiacoinOutput
  missedProofOutputs : List ConsensusBlocksGetSiacoinOutput
  unlockHash : Hash256
  revisionNumber : UInt64
  deriving DecidableEq

/-- `ConsensusBlocksGetTxn`. -/
structure ConsensusBlocksGetTxn where
  id : Hash256
  siacoinInputs : List SiacoinInput
  siacoinOutputs : List ConsensusBlocksGetSiacoinOutput
  fileContracts : List ConsensusBlocksGetFileContract
  fileContractRevisions : List SiadTypes.FileContractRevision
  storageProofs : List StorageProof
  siafundInputs : List SiafundInput
  siafundOutputs : List ConsensusBlocksGetSiafundOutput
  minerFees : List ℕ
  arbitraryData : List (List UInt8)
  transactionSignatures : List SiadTypes.TransactionSignature
  deriving DecidableEq

/-- `ConsensusBlocksGet`. -/
structure ConsensusBlocksGet where
  id : Hash256
  height : UInt64
  parentID : Hash256
  nonce : Bytes 8
  difficulty : ℕ
  timestamp : UInt64
  minerPayouts : List SiadTypes.SiacoinOutput
  transactions : List ConsensusBlocksGetTxn
  deriving DecidableEq

/-- The loop of `consensusBlocksGetFromBlock` over a proof output list of the contract
`fcid`, under the proof status `status`. -/
def proofOutputs (I : SiadIds) (fcid : Hash256) (status : Bool)
    (outputs : List SiadTypes.SiacoinOutput) : List ConsensusBlocksGetSiacoinOutput :=
  outputs.mapIdx fun j o => ⟨I.storageProofOutputID fcid status j, o.value, o.unlockHash⟩

/-- The body of `consensusBlocksGetFromBlock`'s loop: one transaction with its ids. -/
def consensusBlocksGetTxn (I : SiadIds) (t : Transaction) : ConsensusBlocksGetTxn :=
  let scos := t.siacoinOutputs.mapIdx fun i sco => ⟨I.siacoinOutputID t i, sco.value, sco.unlockHash⟩
  let sfos := t.siafundOutputs.mapIdx fun i sfo => ⟨I.siafundOutputID t i, sfo.value, sfo.unlockHash⟩
  let fcos := t.fileContracts.mapIdx fun i fc =>
    let fcid := I.fileContractID t i
    ⟨fcid, fc.fileSize, fc.fileMerkleRoot, fc.windowStart, fc.windowEnd, fc.payout,
      proofOutputs I fcid proofValid fc.validProofOutputs,
      proofOutputs I fcid proofMissed fc.missedProofOutputs, fc.unlockHash, fc.revisionNumber⟩
  ⟨I.transactionID t, t.siacoinInputs, scos, fcos, t.fileContractRevisions, t.storageProofs,
    t.siafundInputs, sfos, t.minerFees, t.arbitraryData, t.transactionSignatures⟩

/-- `consensusBlocksGetFromBlock`. -/
def consensusBlocksGetFromBlock (I : SiadIds) (b : Block) (h : UInt64) (d : ℕ) :
    ConsensusBlocksGet :=
  ⟨I.blockID b, h, b.parentID, b.nonce, d, b.timestamp, b.minerPayouts,
    b.transactions.map (consensusBlocksGetTxn I)⟩

/-- The view of a siafund output has no `ClaimStart`: the output of value 5, unlock hash 1 and
claim start 7 is shown as its id, 5 and 1. -/
example (I : SiadIds) :
    let t : Transaction := ⟨[], [], [], [], [], [], [⟨5, 1, 7⟩], [], [], []⟩
    (consensusBlocksGetTxn I t).siafundOutputs = [⟨I.siafundOutputID t 0, 5, 1⟩] := rfl

/-- The calls `consensusBlocksHandler` makes on `modules.ConsensusSet`, and the parsers it
uses. -/
structure ConsensusEnv where
  /-- `cs.BlockByID`: the block and its height, when it exists. -/
  blockByID : Hash256 → Option (Block × UInt64)
  /-- `cs.BlockAtHeight`. -/
  blockAtHeight : UInt64 → Option Block
  /-- `cs.ChildTarget(id).Difficulty()`; the error of `ChildTarget` is dropped. -/
  difficulty : Hash256 → ℕ
  /-- `BlockID.LoadString`. -/
  loadString : String → Except String Hash256
  /-- `fmt.Sscan` into a `types.BlockHeight`. -/
  sscan : String → Except String UInt64

/-- The end of `consensusBlocksHandler`, once the block is looked up. -/
def blockResponse (C : ConsensusEnv) (I : SiadIds) :
    Option (Block × UInt64) → Response ConsensusBlocksGet
  | none => .error "block doesn't exist" statusBadRequest
  | some (b, h) => .json (consensusBlocksGetFromBlock I b h (C.difficulty (I.blockID b)))

/-- `consensusBlocksHandler` on the form values `id` and `height`. -/
def consensusBlocksHandler (C : ConsensusEnv) (I : SiadIds) (id height : String) :
    Response ConsensusBlocksGet :=
  if id ≠ "" ∧ height ≠ "" then .error "can't specify both id and height" statusBadRequest
  else if id = "" ∧ height = "" then
    .error "either id or height has to be provided" statusBadRequest
  else if id ≠ "" then
    match C.loadString id with
    | .error _ => .error "failed to unmarshal blockid" statusBadRequest
    | .ok bid => blockResponse C I (C.blockByID bid)
  else
    match C.sscan height with
    | .error _ => .error "failed to parse block height" statusBadRequest
    | .ok h => blockResponse C I ((C.blockAtHeight h).map (·, h))

end Api

end SiaSatellite
