import SiaSatellite.Spec.Convert

/-!
# The provider's RPC session

`rpcSession` (part_002) is the satellite's end of a renter's encrypted session. A request
arrives as one `WriteBytes` message, read through a reader limited to `maxLen` bytes: a
nonce, then the ciphertext of the request's `EncodeTo` followed by its signature.
`readRequest` decrypts it, decodes it into the receiver and hashes the receiver's `EncodeTo`;
the error of the decoder over the plaintext is never looked at. `writeResponse` answers with
a frame of at least 4096 bytes: an 8-byte length, a nonce, and the sealed `false` error flag,
response and zero padding.

The three handlers start alike: read the request, check its signature against the hash
under the request's own public key, and ask the satellite whether it knows the key.
`managedFormContracts` and `managedRenewContracts` then check the request's parameters and
ask the satellite to form or renew contracts, whose revisions they send back;
`managedUpdateRevision` has the satellite store the renter's revision and reports a failure
in its response.

The AEAD, the hasher, `crypto.VerifyHash`, the satellite's calls and the codecs of the
library's revision and signature types are parameters; the satellite's calls act on a state
of type `σ`. The decoder's and the AEAD's errors are kept without their texts. The
deadlines, the error of the final write on the connection, and the conversion of the
expected redundancy to `float64` are left out. A panic is `none`.
-/

namespace SiaSatellite

namespace Provider

open Encoder Decoder SiadTypes CoreTypes

/-- The session's AEAD and the hasher. -/
structure SessionEnv where
  /-- `aead.NonceSize()`. -/
  nonceSize : ℕ
  /-- `aead.Overhead()`. -/
  overhead : ℕ
  /-- `crypto.DecryptWithNonce(ciphertext, aead)`: the plaintext, or `none` for its error. -/
  decryptWithNonce : List UInt8 → Option (List UInt8)
  /-- `aead.Seal(nil, nonce, plaintext, nil)`. -/
  aeadSeal : List UInt8 → List UInt8 → List UInt8
  /-- `h.Sum()` of a fresh `core.NewHasher()` fed these bytes. -/
  hash : List UInt8 → Hash256

/-- Why `readRequest` failed. -/
inductive ReadError
  /-- `d.Err()` of the decoder over the connection. -/
  | decoder
  /-- The error of `crypto.DecryptWithNonce`. -/
  | decrypt
  deriving DecidableEq, Repr

/-- `readRequest(req, maxLen)` on a connection that carries `conn`: the hash or the error,
and the receiver after `req.DecodeFrom`. -/
def readRequest {α : Type} (S : SessionEnv) (encodeTo : α → List UInt8)
    (decodeFrom : α → StateM Decoder α) (req : α) (conn : List UInt8) (maxLen : ℕ) :
    Except ReadError Hash256 × α :=
  let (ciphertext, d) := readBytes ⟨conn.take maxLen, false⟩
  if d.failed then (.error .decoder, req)
  else
    match S.decryptWithNonce ciphertext with
    | none => (.error .decrypt, req)
    | some plaintext =>
      let req := (decodeFrom req ⟨plaintext, false⟩).1
      (.ok (S.hash (encodeTo req)), req)

/-- `writeResponse(resp)`, with `nonce` the `NonceSize()` bytes `fastrand` drew and `resp` the
bytes of `resp.EncodeTo`: the bytes written on the connection. The encoder writes into a
buffer grown to 4096 bytes, whose unused part is zeros; the message is that buffer cut at
`msgSize`, with its length written over the placeholder and its payload sealed in place.
`make([]byte, 32)[:NonceSize()]` panics on a nonce of more than 32 bytes. -/
def writeResponse (S : SessionEnv) (nonce resp : List UInt8) : Option (List UInt8) :=
  if 32 < S.nonceSize then none
  else
    let buf := writePrefix 0 ++ nonce ++ [0] ++ resp
    let msgSize := max (buf.length + S.overhead) 4096
    let msg := buf ++ List.replicate (msgSize - buf.length) 0
    let msgNonce := (msg.drop 8).take nonce.length
    let payload := (msg.take (msgSize - S.overhead)).drop (8 + nonce.length)
    some (writeUint64 (UInt64.ofNat (msgSize - 8)) ++ msgNonce ++ S.aeadSeal msgNonce payload)

/-! ## The handlers -/

/-- `smodules.Allowance`, with the fields the handlers set. Prices are `siad` currencies,
exact naturals. -/
structure Allowance where
  hosts : UInt64
  period : UInt64
  renewWindow : UInt64
  expectedStorage : UInt64
  expectedUpload : UInt64
  expectedDownload : UInt64
  /-- `float64(TotalShards / MinShards)`: the integer quotient, before the conversion. -/
  expectedRedundancy : UInt64
  maxRPCPrice : ℕ
  maxContractPrice : ℕ
  maxDownloadBandwidthPrice : ℕ
  maxSectorAccessPrice : ℕ
  maxStoragePrice : ℕ
  maxUploadBandwidthPrice : ℕ
  deriving DecidableEq

/-- A contract as sent back to the renter (`rhpv2.ContractRevision`). -/
abbrev ContractRev := ContractRevision CoreTypes.FileContractRevision CoreTypes.TransactionSignature

/-- What the handlers call, over the satellite's state `σ`. -/
structure ProviderEnv (σ : Type) where
  /-- `crypto.VerifyHash(hash, pk, sig)`: its error. -/
  verifyHash : Hash256 → Bytes 32 → Bytes 64 → Except String Unit
  /-- `p.satellite.UserExists(rpk)`: whether the renter is known, and the error. -/
  userExists : SiaPublicKey → σ → Bool × Option String
  /-- `p.satellite.FormContracts(rpk, a)`. -/
  formContracts : SiaPublicKey → Allowance → σ → Except String (List RenterContract) × σ
  /-- `p.satellite.RenewContracts(rpk, a, fcids)`. -/
  renewContracts : SiaPublicKey → Allowance → List (Bytes 32) → σ →
    Except String (List RenterContract) × σ
  /-- `p.satellite.UpdateContract(rev, sigs, uploads, downloads, fundAccount)`. -/
  updateContract : SiadTypes.FileContractRevision → List SiadTypes.TransactionSignature →
    ℕ → ℕ → ℕ → σ → Except String Unit × σ
  /-- `modules.ConvertCurrency`, which `convertContract` uses. -/
  conv : ℕ → Currency
  /-- The codec of `types.FileContractRevision`. -/
  revCodec : Codec CoreTypes.FileContractRevision
  /-- The codec of `types.TransactionSignature`. -/
  sigCodec : Codec CoreTypes.TransactionSignature

/-- The error a handler returns. -/
inductive ProviderError
  /-- `fmt.Errorf("could not read renter request: %v", err)`. -/
  | readRequest (e : ReadError)
  /-- `fmt.Errorf(msg + "%v", err)`, with the text of the error it wraps. -/
  | wrapped (msg : String) (err : String)
  /-- `errors.New(msg)`. -/
  | plain (msg : String)
  deriving DecidableEq, Repr

/-- What a handler leaves: its error, the response it passed to `writeResponse`, and the
satellite's state. -/
structure Outcome (R σ : Type) where
  err : Option ProviderError
  response : Option R
  state : σ

section Handlers

variable {σ : Type} (P : ProviderEnv σ) (S : SessionEnv)

/-- The start the three handlers share: `readRequest(&req, 65536)`, `crypto.VerifyHash` of
the hash under the request's own key, and `UserExists` of that key, whose `%v` prints a nil
error as `<nil>`. -/
def authenticate {α : Type} (encodeTo : α → List UInt8) (decodeFrom : α → StateM Decoder α)
    (pubKey : α → Bytes 32) (signature : α → Bytes 64) (req : α) (conn : List UInt8)
    (s : σ) : Except ProviderError α :=
  match readRequest S encodeTo decodeFrom req conn 65536 with
  | (.error e, _) => .error (.readRequest e)
  | (.ok hash, req) =>
    match P.verifyHash hash (pubKey req) (signature req) with
    | .error e => .error (.wrapped "could not verify renter signature: " e)
    | .ok () =>
      match P.userExists (ed25519PublicKey (pubKey req)) s with
      | (true, none) => .ok req
      | (_, err) => .error (.wrapped "could not find renter in the database: " (err.getD "<nil>"))

/-- The checks the form and renew handlers share, in their order, with the messages of the
handler's `verb`. -/
def checkParams (verb : String) (period renewWindow storage minShards totalShards : UInt64) :
    Option ProviderError :=
  if period = 0 then some (.plain ("can't " ++ verb ++ " contracts with zero period"))
  else if renewWindow = 0 then some (.plain ("can't " ++ verb ++ " contracts with zero renew window"))
  else if storage = 0 then
    some (.plain ("can't " ++ verb ++ " contracts with zero expected storage"))
  else if minShards = 0 ∨ totalShards = 0 then
    some (.plain ("can't " ++ verb ++ " contracts with such redundancy params"))
  else none

/-- `var fr formRequest`. -/
def FormRequest.zero : FormRequest :=
  ⟨Bytes.zero 32, 0, 0, 0, 0, 0, 0, 0, 0, Currency.zero, Currency.zero, Currency.zero,
    Currency.zero, Currency.zero, Currency.zero, Currency.zero, 0, Bytes.zero 64⟩

/-- The allowance `managedFormContracts` builds. -/
def formAllowance (fr : FormRequest) : Allowance :=
  ⟨fr.hosts, fr.period, fr.renewWindow, fr.storage, fr.upload, fr.download,
    fr.totalShards / fr.minShards, fr.maxRPCPrice.toNat, fr.maxContractPrice.toNat,
    fr.maxDownloadPrice.toNat, fr.maxSectorAccessPrice.toNat, fr.maxStoragePrice.toNat,
    fr.maxUploadPrice.toNat⟩

/-- What `managedFormContracts` does with an authenticated request. -/
def formContractsFor (fr : FormRequest) (s : σ) : Option (Outcome (List ContractRev) σ) :=
  if fr.hosts = 0 then some ⟨some (.plain "can't form contracts with zero hosts"), none, s⟩
  else
    match checkParams "form" fr.period fr.renewWindow fr.storage fr.minShards fr.totalShards with
    | some e => some ⟨some e, none, s⟩
    | none =>
      match P.formContracts (ed25519PublicKey fr.pubKey) (formAllowance fr) s with
      | (.error e, s) => some ⟨some (.wrapped "could not form contracts: " e), none, s⟩
      | (.ok contracts, s) => do
        let cs ← contracts.mapM (convertContract P.conv)
        some ⟨none, some cs, s⟩

/-- `managedFormContracts`. -/
def managedFormContracts (conn : List UInt8) (s : σ) : Option (Outcome (List ContractRev) σ) :=
  match authenticate P S FormRequest.encodeTo FormRequest.decodeFrom (·.pubKey) (·.signature)
      FormRequest.zero conn s with
  | .error e => some ⟨some e, none, s⟩
  | .ok fr => formContractsFor P fr s

/-- The allowance `managedRenewContracts` builds, with a host per contract. -/
def renewAllowance (rr : RenewRequest) : Allowance :=
  ⟨UInt64.ofNat rr.contracts.length, rr.period, rr.renewWindow, rr.storage, rr.upload,
    rr.download, rr.totalShards / rr.minShards, rr.maxRPCPrice.toNat,
    rr.maxContractPrice.toNat, rr.maxDownloadPrice.toNat, rr.maxSectorAccessPrice.toNat,
    rr.maxStoragePrice.toNat, rr.maxUploadPrice.toNat⟩

/-- What `managedRenewContracts` does with an authenticated request; the contract ids are
copied into `types.FileContractID`s as they are. -/
def renewContractsFor (rr : RenewRequest) (s : σ) : Option (Outcome (List ContractRev) σ) :=
  if rr.contracts.length = 0 then
    some ⟨some (.plain "can't renew an empty set of contracts"), none, s⟩
  else
    match checkParams "renew" rr.period rr.renewWindow rr.storage rr.minShards rr.totalShards with
    | some e => some ⟨some e, none, s⟩
    | none =>
      match P.renewContracts (ed25519PublicKey rr.pubKey) (renewAllowance rr) rr.contracts s with
      | (.error e, s) => some ⟨some (.wrapped "could not renew contracts: " e), none, s⟩
      | (.ok contracts, s) => do
        let cs ← contracts.mapM (convertContract P.conv)
        some ⟨none, some cs, s⟩

/-- `managedRenewContracts`. -/
def managedRenewContracts (conn : List UInt8) (s : σ) : Option (Outcome (List ContractRev) σ) :=
  match authenticate P S RenewRequest.encodeTo RenewRequest.decodeFrom (·.pubKey) (·.signature)
      RenewRequest.zero conn s with
  | .error e => some ⟨some e, none, s⟩
  | .ok rr => renewContractsFor P rr s

/-- The zero `types.FileContractRevision`. -/
def zeroRevision : CoreTypes.FileContractRevision :=
  ⟨0, ⟨0, [], 0⟩, ⟨0, 0, 0, 0, Currency.zero, [], [], 0, 0⟩⟩

/-- The zero `types.TransactionSignature`. -/
def zeroSignature : CoreTypes.TransactionSignature := ⟨0, 0, 0, ⟨[]⟩, []⟩

/-- `var ur updateRequest`. -/
def UpdateRequest.zero : UpdateRequest CoreTypes.FileContractRevision CoreTypes.TransactionSignature :=
  ⟨Bytes.zero 32, ⟨zeroRevision, (zeroSignature, zeroSignature)⟩, Currency.zero, Currency.zero,
    Currency.zero, Bytes.zero 64⟩

/-- What `managedUpdateRevision` does with an authenticated request: the revision is
converted, stored, and answered with an `rpcMessage` whose `Error` reports a failure. -/
def updateRevisionFor
    (ur : UpdateRequest CoreTypes.FileContractRevision CoreTypes.TransactionSignature) (s : σ) :
    Option (Outcome String σ) := do
  let (rev, sigs) ← convertRevision ur.contract
  match P.updateContract rev sigs ur.uploads.toNat ur.downloads.toNat ur.fundAccount.toNat s with
  | (.error _, s) => some ⟨none, some "couldn't update contract", s⟩
  | (.ok (), s) => some ⟨none, some "", s⟩

/-- `managedUpdateRevision`. -/
def managedUpdateRevision (conn : List UInt8) (s : σ) : Option (Outcome String σ) :=
  match authenticate P S (UpdateRequest.encodeTo P.revCodec P.sigCodec)
      (UpdateRequest.decodeFrom P.revCodec P.sigCodec) (·.pubKey) (·.signature)
      UpdateRequest.zero conn s with
  | .error e => some ⟨some e, none, s⟩
  | .ok ur => updateRevisionFor P ur s

end Handlers

end Provider

end SiaSatellite
