import SiaSatellite.Spec.Types

/-!
# The renter request codecs

The satellite's provider reads a request from a renter by decoding the decrypted message
with the request's `DecodeFrom`, re-encoding the result with its `EncodeTo`, and checking
the renter's signature against the hash of those bytes (`rpcSession.readRequest`).
`EncodeTo` leaves the signature out; `DecodeFrom` reads it last.

The encoder and decoder primitives belong to `go.sia.tech/core/types`, which this
repository does not contain. The model keeps what the codecs rely on: a length prefix and
every integer are 8 bytes little-endian, a byte slice is its length prefix and its bytes,
a `Currency` is its low word then its high word, and a `Signature` is its 64 bytes as
they are. A read takes bytes off the front of the stream; one that finds the stream too
short fills what it can and sets the decoder's error, after which reads take nothing. Go's
`ReadUint64` reads through a scratch buffer, so after an error it repeats stale bytes
where the model has zeros. `readRequest` never checks the decoder's error: a request that
ran short is still re-encoded and its signature checked, and what it holds after the error
is modelled only up to those stale bytes. `ReadPrefix` refuses a count above what the
decoder's limited reader may still give (its `N`); the model compares the count with the
bytes left in the stream, which is the same bound for a decoder over a buffer, as
`readRequest`'s is, and can be a smaller one over a connection. The request codecs take the
codecs of the library types `FileContractRevision` and `TransactionSignature` as parameters;
`Spec/CoreEncoding` writes down the library's own.
-/

namespace SiaSatellite

/-- A Go byte array of length `n` (`[n]byte`). -/
def Bytes (n : ℕ) := {b : List UInt8 // b.length = n}

instance (n : ℕ) : DecidableEq (Bytes n) :=
  inferInstanceAs (DecidableEq {b : List UInt8 // b.length = n})

/-- Go's zero value of `[n]byte`. -/
def Bytes.zero (n : ℕ) : Bytes n := ⟨List.replicate n 0, List.length_replicate n 0⟩

/-- `copy(dst[:], src)`: the first bytes of `src`, as many as fit, over those of `dst`. -/
def Bytes.copyInto {n : ℕ} (dst : Bytes n) (src : List UInt8) : Bytes n :=
  ⟨src.take n ++ dst.1.drop (min n src.length), by
    simp only [List.length_append, List.length_take, List.length_drop, dst.2]; omega⟩

/-! ## Encoding -/

/-- The `k` low bytes of `n`, least significant first. -/
def leBytes : ℕ → ℕ → List UInt8
  | 0, _ => []
  | k + 1, n => UInt8.ofNat (n % 256) :: leBytes k (n / 256)

namespace Encoder

/-- `WriteUint64`. -/
def writeUint64 (u : UInt64) : List UInt8 := leBytes 8 u.toNat

/-- `WritePrefix`: a length, as `WriteUint64` of it. -/
def writePrefix (n : ℕ) : List UInt8 := writeUint64 (UInt64.ofNat n)

/-- `WriteBytes`: the length prefix, then the bytes. -/
def writeBytes (b : List UInt8) : List UInt8 := writePrefix b.length ++ b

end Encoder

open Encoder

/-- `Currency.EncodeTo`: the low word, then the high word. -/
def Currency.encodeTo (c : Currency) : List UInt8 := writeUint64 c.lo ++ writeUint64 c.hi

/-- `EncodeTo` of a byte array such as `Signature`: its bytes as they are. -/
def Bytes.encodeTo {n : ℕ} (s : Bytes n) : List UInt8 := s.1

/-! ## Decoding -/

/-- The value of little-endian bytes. -/
def leValue : List UInt8 → ℕ
  | [] => 0
  | b :: bs => b.toNat + 256 * leValue bs

/-- A decoder: the bytes not read yet, and whether its error is set. -/
structure Decoder where
  buf : List UInt8
  failed : Bool

namespace Decoder

/-- `Read(p)`: fills `p` from the front of the stream. -/
def read (p : List UInt8) : StateM Decoder (List UInt8) := fun d =>
  if d.failed then (p, d)
  else if p.length ≤ d.buf.length then (d.buf.take p.length, ⟨d.buf.drop p.length, false⟩)
  else (d.buf ++ p.drop d.buf.length, ⟨[], true⟩)

/-- `ReadUint64`. -/
def readUint64 : StateM Decoder UInt64 := fun d =>
  let (b, d) := read (List.replicate 8 0) d
  (UInt64.ofNat (leValue b), d)

/-- `ReadPrefix`: a length, refused with an error if more than the bytes left. -/
def readPrefix : StateM Decoder ℕ := fun d =>
  let (n, d) := readUint64 d
  if d.buf.length < n.toNat then (0, { d with failed := true }) else (n.toNat, d)

/-- `ReadBytes`: a length prefix, then that many bytes. -/
def readBytes : StateM Decoder (List UInt8) := fun d =>
  let (n, d) := readPrefix d
  read (List.replicate n 0) d

end Decoder

open Decoder

/-- `Currency.DecodeFrom`. -/
def Currency.decodeFrom : StateM Decoder Currency := do
  let lo ← readUint64
  let hi ← readUint64
  return ⟨lo, hi⟩

/-- `DecodeFrom` of a byte array such as `Signature`: `Read` into its bytes. -/
def Bytes.decodeFrom {n : ℕ} (s : Bytes n) : StateM Decoder (Bytes n) := do
  let b ← read s.1
  return s.copyInto b

/-- The codec of a library type: `EncodeTo`, and `DecodeFrom` into a receiver. -/
structure Codec (α : Type) where
  encodeTo : α → List UInt8
  decodeFrom : α → StateM Decoder α

/-! ## The requests -/

/-- `formRequest`. -/
structure FormRequest where
  pubKey : Bytes 32
  hosts : UInt64
  period : UInt64
  renewWindow : UInt64
  storage : UInt64
  upload : UInt64
  download : UInt64
  minShards : UInt64
  totalShards : UInt64
  maxRPCPrice : Currency
  maxContractPrice : Currency
  maxDownloadPrice : Currency
  maxUploadPrice : Currency
  maxStoragePrice : Currency
  maxSectorAccessPrice : Currency
  minMaxCollateral : Currency
  blockHeightLeeway : UInt64
  signature : Bytes 64

/-- `formRequest.EncodeTo`. -/
def FormRequest.encodeTo (fr : FormRequest) : List UInt8 :=
  writeBytes fr.pubKey.1 ++ writeUint64 fr.hosts ++ writeUint64 fr.period ++
    writeUint64 fr.renewWindow ++ writeUint64 fr.storage ++ writeUint64 fr.upload ++
    writeUint64 fr.download ++ writeUint64 fr.minShards ++ writeUint64 fr.totalShards ++
    fr.maxRPCPrice.encodeTo ++ fr.maxContractPrice.encodeTo ++ fr.maxDownloadPrice.encodeTo ++
    fr.maxUploadPrice.encodeTo ++ fr.maxStoragePrice.encodeTo ++
    fr.maxSectorAccessPrice.encodeTo ++ fr.minMaxCollateral.encodeTo ++
    writeUint64 fr.blockHeightLeeway

/-- `formRequest.DecodeFrom`, into the receiver `fr`. -/
def FormRequest.decodeFrom (fr : FormRequest) : StateM Decoder FormRequest := do
  let pubKey ← readBytes
  let hosts ← readUint64
  let period ← readUint64
  let renewWindow ← readUint64
  let storage ← readUint64
  let upload ← readUint64
  let download ← readUint64
  let minShards ← readUint64
  let totalShards ← readUint64
  let maxRPCPrice ← Currency.decodeFrom
  let maxContractPrice ← Currency.decodeFrom
  let maxDownloadPrice ← Currency.decodeFrom
  let maxUploadPrice ← Currency.decodeFrom
  let maxStoragePrice ← Currency.decodeFrom
  let maxSectorAccessPrice ← Currency.decodeFrom
  let minMaxCollateral ← Currency.decodeFrom
  let blockHeightLeeway ← readUint64
  let signature ← fr.signature.decodeFrom
  return ⟨fr.pubKey.copyInto pubKey, hosts, period, renewWindow, storage, upload, download,
    minShards, totalShards, maxRPCPrice, maxContractPrice, maxDownloadPrice, maxUploadPrice,
    maxStoragePrice, maxSectorAccessPrice, minMaxCollateral, blockHeightLeeway, signature⟩

/-- `renewRequest`. -/
structure RenewRequest where
  pubKey : Bytes 32
  contracts : List (Bytes 32)
  period : UInt64
  renewWindow : UInt64
  storage : UInt64
  upload : UInt64
  download : UInt64
  minShards : UInt64
  totalShards : UInt64
  maxRPCPrice : Currency
  maxContractPrice : Currency
  maxDownloadPrice : Currency
  maxUploadPrice : Currency
  maxStoragePrice : Currency
  maxSectorAccessPrice : Currency
  minMaxCollateral : Currency
  blockHeightLeeway : UInt64
  signature : Bytes 64

/-- `var rr renewRequest`: the zero value `managedRenewContracts` decodes into. -/
def RenewRequest.zero : RenewRequest :=
  ⟨Bytes.zero 32, [], 0, 0, 0, 0, 0, 0, 0, Currency.zero, Currency.zero, Currency.zero,
    Currency.zero, Currency.zero, Currency.zero, Currency.zero, 0, Bytes.zero 64⟩

/-- `renewRequest.EncodeTo`: the number of contracts, then each contract id as a byte
slice. -/
def RenewRequest.encodeTo (rr : RenewRequest) : List UInt8 :=
  writeBytes rr.pubKey.1 ++ writeUint64 (UInt64.ofNat rr.contracts.length) ++
    rr.contracts.flatMap (fun id => writeBytes id.1) ++ writeUint64 rr.period ++
    writeUint64 rr.renewWindow ++ writeUint64 rr.storage ++ writeUint64 rr.upload ++
    writeUint64 rr.download ++ writeUint64 rr.minShards ++ writeUint64 rr.totalShards ++
    rr.maxRPCPrice.encodeTo ++ rr.maxContractPrice.encodeTo ++ rr.maxDownloadPrice.encodeTo ++
    rr.maxUploadPrice.encodeTo ++ rr.maxStoragePrice.encodeTo ++
    rr.maxSectorAccessPrice.encodeTo ++ rr.minMaxCollateral.encodeTo ++
    writeUint64 rr.blockHeightLeeway

/-- The loop of `renewRequest.DecodeFrom` over `numContracts` fresh contract ids. A count
of `2^63` or more, on which Go's `make` panics, is read as it is. -/
def readContracts : ℕ → StateM Decoder (List (Bytes 32))
  | 0 => return []
  | k + 1 => do
    let id ← readBytes
    let ids ← readContracts k
    return (Bytes.zero 32).copyInto id :: ids

/-- Go's `int(u)` of a `uint64` on a 64-bit platform: the same bits read as two's
complement, so a count of `2^63` or more becomes negative. -/
def goInt (u : UInt64) : ℤ := if u.toNat < 2 ^ 63 then u.toNat else (u.toNat : ℤ) - 2 ^ 64

/-- The length that `renewRequest.DecodeFrom` passes to `make` for its contract ids:
after the public key, `numContracts := int(d.ReadUint64())`, with no check against the
bytes left. `make` panics on a negative length. -/
def RenewRequest.numContracts : StateM Decoder ℤ := do
  let _ ← readBytes
  let n ← readUint64
  return goInt n

/-- `renewRequest.DecodeFrom`, into the receiver `rr`. -/
def RenewRequest.decodeFrom (rr : RenewRequest) : StateM Decoder RenewRequest := do
  let pubKey ← readBytes
  let numContracts ← readUint64
  let contracts ← readContracts numContracts.toNat
  let period ← readUint64
  let renewWindow ← readUint64
  let storage ← readUint64
  let upload ← readUint64
  let download ← readUint64
  let minShards ← readUint64
  let totalShards ← readUint64
  let maxRPCPrice ← Currency.decodeFrom
  let maxContractPrice ← Currency.decodeFrom
  let maxDownloadPrice ← Currency.decodeFrom
  let maxUploadPrice ← Currency.decodeFrom
  let maxStoragePrice ← Currency.decodeFrom
  let maxSectorAccessPrice ← Currency.decodeFrom
  let minMaxCollateral ← Currency.decodeFrom
  let blockHeightLeeway ← readUint64
  let signature ← rr.signature.decodeFrom
  return ⟨rr.pubKey.copyInto pubKey, contracts, period, renewWindow, storage, upload, download,
    minShards, totalShards, maxRPCPrice, maxContractPrice, maxDownloadPrice, maxUploadPrice,
    maxStoragePrice, maxSectorAccessPrice, minMaxCollateral, blockHeightLeeway, signature⟩

/-- `loopKeyExchangeRequest`, the first message of the handshake. -/
structure LoopKeyExchangeRequest where
  specifier : Bytes 16
  publicKey : Bytes 32
  ciphers : List (Bytes 16)

/-- The loop of `loopKeyExchangeRequest.DecodeFrom` over the `n` zero specifiers that
`make` allocated, each read with `Specifier.DecodeFrom`. -/
def readCiphers : ℕ → StateM Decoder (List (Bytes 16))
  | 0 => return []
  | k + 1 => do
    let c ← (Bytes.zero 16).decodeFrom
    let cs ← readCiphers k
    return c :: cs

/-- `loopKeyExchangeRequest.DecodeFrom`, into the receiver `r`: the cipher count is read
with `ReadPrefix`, which refuses a count above the bytes left. -/
def LoopKeyExchangeRequest.decodeFrom (r : LoopKeyExchangeRequest) :
    StateM Decoder LoopKeyExchangeRequest := do
  let specifier ← r.specifier.decodeFrom
  let publicKey ← r.publicKey.decodeFrom
  let n ← readPrefix
  let ciphers ← readCiphers n
  return ⟨specifier, publicKey, ciphers⟩

/-- `rhpv2.ContractRevision`: a revision and its two transaction signatures. -/
structure ContractRevision (R S : Type) where
  revision : R
  signatures : S × S

/-- `updateRequest`, over the library's revision type `R` and signature type `S`. -/
structure UpdateRequest (R S : Type) where
  pubKey : Bytes 32
  contract : ContractRevision R S
  uploads : Currency
  downloads : Currency
  fundAccount : Currency
  signature : Bytes 64

section Update

variable {R S : Type} (rev : Codec R) (sig : Codec S)

/-- `updateRequest.EncodeTo`. -/
def UpdateRequest.encodeTo (ur : UpdateRequest R S) : List UInt8 :=
  writeBytes ur.pubKey.1 ++ rev.encodeTo ur.contract.revision ++
    sig.encodeTo ur.contract.signatures.1 ++ sig.encodeTo ur.contract.signatures.2 ++
    ur.uploads.encodeTo ++ ur.downloads.encodeTo ++ ur.fundAccount.encodeTo

/-- `updateRequest.DecodeFrom`, into the receiver `ur`. -/
def UpdateRequest.decodeFrom (ur : UpdateRequest R S) : StateM Decoder (UpdateRequest R S) := do
  let pubKey ← readBytes
  let revision ← rev.decodeFrom ur.contract.revision
  let sig0 ← sig.decodeFrom ur.contract.signatures.1
  let sig1 ← sig.decodeFrom ur.contract.signatures.2
  let uploads ← Currency.decodeFrom
  let downloads ← Currency.decodeFrom
  let fundAccount ← Currency.decodeFrom
  let signature ← ur.signature.decodeFrom
  return ⟨ur.pubKey.copyInto pubKey, ⟨revision, (sig0, sig1)⟩, uploads, downloads,
    fundAccount, signature⟩

end Update

end SiaSatellite
