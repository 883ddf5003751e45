import SiaSatellite.Spec.Provider
import SiaSatellite.Proof.Encoding

/-!
# What a renter's session can make the provider do

* `provider_acts_only_when_authentic`: **every run of a handler either refuses before it
  calls the satellite, leaving the satellite's state as it was and writing no response, or
  calls the satellite on an authentic request**: one read from the connection whose signature
  `VerifyHash` accepts for the hash of its `EncodeTo` under its own public key, from a renter
  the satellite knows, and which passed the handler's checks.
* `provider_serves_honest_requests`: a request that a renter encodes, signs, encrypts and
  sends as one message of at most 65536 bytes is read back field for field; with a valid
  signature from a known renter, the handler does with it exactly what it does with that
  request.
* `writeResponse_frame`: the provider's answer is a `WriteBytes` frame of at least 4096 bytes,
  whose content opens, with the session's AEAD, to the `false` error flag and the response
  followed by zeros.
-/

namespace SiaSatellite

namespace Provider

open Encoder Decoder SiadTypes CoreTypes

/-! ## Reading a message -/

theorem length_writePrefix (n : ℕ) : (writePrefix n).length = 8 := length_leBytes 8 _

/-- The limited reader lets a message through whole when it fits. -/
theorem take_writeBytes {ct : List UInt8} {n : ℕ} (h : 8 + ct.length ≤ n) (rest : List UInt8) :
    (writeBytes ct ++ rest).take n = writeBytes ct ++ rest.take (n - (8 + ct.length)) := by
  have hl : (writeBytes ct).length = 8 + ct.length := by
    rw [writeBytes, List.length_append, length_writePrefix]
  rw [List.take_append_eq_append_take, List.take_of_length_le (hl ▸ h), hl]

/-- The hash `readRequest` returns is that of the receiver it returns. -/
theorem readRequest_ok {α : Type} {S : SessionEnv} {encodeTo : α → List UInt8}
    {decodeFrom : α → StateM Decoder α} {req : α} {conn : List UInt8} {maxLen : ℕ} {h : Hash256}
    (hr : (readRequest S encodeTo decodeFrom req conn maxLen).1 = .ok h) :
    h = S.hash (encodeTo (readRequest S encodeTo decodeFrom req conn maxLen).2) := by
  unfold readRequest at hr ⊢
  rcases hb : readBytes ⟨conn.take maxLen, false⟩ with ⟨ct, d⟩
  simp only [hb] at hr ⊢
  split_ifs at hr ⊢
  cases hpt : S.decryptWithNonce ct <;> simp only [hpt] at hr ⊢
  · cases hr
  · exact (Except.ok.inj hr).symm

/-- **A message that fits is read back.** When the connection carries a `WriteBytes` message
that fits in the limit and decrypts to bytes the decoding reads as `r`, `readRequest` returns
`r` and the hash of its `EncodeTo`. -/
theorem readRequest_honest {α : Type} (S : SessionEnv) (encodeTo : α → List UInt8)
    (decodeFrom : α → StateM Decoder α) (req : α) {ct pt : List UInt8} {r : α} {maxLen : ℕ}
    (hlen : 8 + ct.length ≤ maxLen) (hmax : maxLen ≤ 2 ^ 64) (hct : S.decryptWithNonce ct = some pt)
    (hdec : Decodes (decodeFrom req) pt r) (rest : List UInt8) :
    readRequest S encodeTo decodeFrom req (writeBytes ct ++ rest) maxLen =
      (.ok (S.hash (encodeTo r)), r) := by
  have hread := readBytes_decodes ct (by omega) (rest.take (maxLen - (8 + ct.length)))
  have hd := hdec []
  rw [List.append_nil] at hd
  simp only [readRequest, take_writeBytes hlen, hread, if_neg Bool.false_ne_true, hct, hd]

/-! ## The response frame -/

section Frame

variable (S : SessionEnv) (nonce resp : List UInt8)

/-- The message cut from the grown buffer starts with the placeholder, the nonce, the error
flag and the response, has `msgSize` bytes, and below the tag holds the flag, the response
and zeros after the nonce. -/
theorem writeResponse_msg {msgSize k : ℕ} (h : (writePrefix 0 ++ nonce ++ [0] ++ resp).length ≤ k)
    (hk : k ≤ msgSize) :
    let buf := writePrefix 0 ++ nonce ++ [0] ++ resp
    let msg := buf ++ List.replicate (msgSize - buf.length) 0
    msg.length = msgSize ∧ (msg.drop 8).take nonce.length = nonce ∧
      (msg.take k).drop (8 + nonce.length) = 0 :: resp ++ List.replicate (k - buf.length) 0 := by
  intro buf msg
  have h8 := length_writePrefix 0
  have hsplit : ∀ m, buf ++ List.replicate m 0 =
      (writePrefix 0 ++ nonce) ++ (0 :: resp ++ List.replicate m 0) := fun m => by simp [buf]
  have hb : buf.length ≤ msgSize := h.trans hk
  refine ⟨by simp only [msg, List.length_append, List.length_replicate]; omega, ?_, ?_⟩
  · simp only [msg, buf, List.append_assoc, List.drop_left' h8, List.take_left']
  · rw [List.take_append_eq_append_take, List.take_of_length_le h,
      List.take_replicate, Nat.min_eq_left (by omega), hsplit,
      List.drop_left' (by rw [List.length_append, h8])]

/-- **The answer is a padded `WriteBytes` frame the renter can open.** With a nonce of the
AEAD's size, at most 32 bytes, and an AEAD whose tag has `Overhead()` bytes and which opens
what it seals, `writeResponse` writes a `WriteBytes` message of at least 4096 bytes, which
`ReadBytes` reads back whole, and whose content opens to the `false` error flag and the
response followed by zeros. -/
theorem writeResponse_frame (hn : nonce.length = S.nonceSize) (hsize : S.nonceSize ≤ 32)
    (hsealLen : ∀ n p, (S.aeadSeal n p).length = p.length + S.overhead)
    (hopen : ∀ n p, n.length = S.nonceSize → S.decryptWithNonce (n ++ S.aeadSeal n p) = some p)
    (hfit : 9 + nonce.length + resp.length + S.overhead < 2 ^ 64) :
    ∃ body pad, writeResponse S nonce resp = some (writeBytes body) ∧ 4096 ≤ 8 + body.length ∧
      (∀ rest, readBytes ⟨writeBytes body ++ rest, false⟩ = (body, ⟨rest, false⟩)) ∧
      S.decryptWithNonce body = some (0 :: resp ++ List.replicate pad 0) := by
  have hbuf : (writePrefix 0 ++ nonce ++ [0] ++ resp).length = 9 + nonce.length + resp.length := by
    simp only [List.length_append, length_writePrefix, List.length_singleton]; omega
  set msgSize := max ((writePrefix 0 ++ nonce ++ [0] ++ resp).length + S.overhead) 4096 with hm
  obtain ⟨-, hnonce, hpay⟩ :=
    @writeResponse_msg nonce resp msgSize (msgSize - S.overhead) (by omega) (by omega)
  set pad := msgSize - S.overhead - (writePrefix 0 ++ nonce ++ [0] ++ resp).length
  have hbody : (nonce ++ S.aeadSeal nonce (0 :: resp ++ List.replicate pad 0)).length =
      msgSize - 8 := by
    simp only [List.length_append, hsealLen, List.length_cons, List.length_replicate]; omega
  refine ⟨nonce ++ S.aeadSeal nonce (0 :: resp ++ List.replicate pad 0), pad, ?_, by omega,
    readBytes_decodes _ (by omega), hopen _ _ hn⟩
  simp only [writeResponse, if_neg (show ¬32 < S.nonceSize by omega)]
  rw [← hm, hnonce, hpay, writeBytes, writePrefix, hbody, List.append_assoc]

/-- A session whose AEAD appends a zero tag of 16 bytes to a 24-byte nonce and the
plaintext, and opens what has the room for both. -/
def demoSession : SessionEnv where
  nonceSize := 24
  overhead := 16
  decryptWithNonce ct := if 40 ≤ ct.length then some ((ct.drop 24).take (ct.length - 40)) else none
  aeadSeal _ p := p ++ List.replicate 16 0
  hash _ := 0

theorem demoSession_open (n p : List UInt8) (hn : n.length = 24) :
    demoSession.decryptWithNonce (n ++ (p ++ List.replicate 16 0)) = some p := by
  simp only [demoSession, List.length_append, hn, List.length_replicate,
    if_pos (show 40 ≤ 24 + (p.length + 16) by omega), List.drop_left',
    show 24 + (p.length + 16) - 40 = p.length by omega, List.take_left']

/-- The answer `[1, 2, 3]` goes out as a frame of 4096 bytes. -/
theorem writeResponse_frame_demo :
    ∃ body pad, writeResponse demoSession (List.replicate 24 7) [1, 2, 3] = some (writeBytes body) ∧
      4096 ≤ 8 + body.length ∧
      (∀ rest, readBytes ⟨writeBytes body ++ rest, false⟩ = (body, ⟨rest, false⟩)) ∧
      demoSession.decryptWithNonce body = some (0 :: [1, 2, 3] ++ List.replicate pad 0) :=
  writeResponse_frame demoSession _ _ rfl (by decide) (fun _ _ => by simp [demoSession])
    (fun n p hn => demoSession_open n p hn) (by decide)

end Frame

/-! ## The common start -/

section Authentic

variable {σ : Type} (P : ProviderEnv σ) (S : SessionEnv) {α : Type} (encodeTo : α → List UInt8)
  (decodeFrom : α → StateM Decoder α) (pubKey : α → Bytes 32) (signature : α → Bytes 64)
  (req : α) (conn : List UInt8) (s : σ)

/-- A request the handlers' common start accepts from the connection: `readRequest` returns
it with the hash of its `EncodeTo`, `VerifyHash` accepts its signature for that hash under its
own key, and the satellite knows the key. -/
structure Authentic (r : α) : Prop where
  read : readRequest S encodeTo decodeFrom req conn 65536 = (.ok (S.hash (encodeTo r)), r)
  verify : P.verifyHash (S.hash (encodeTo r)) (pubKey r) (signature r) = .ok ()
  known : P.userExists (ed25519PublicKey (pubKey r)) s = (true, none)

/-- What the common start accepts is authentic. -/
theorem authenticate_ok {r : α}
    (h : authenticate P S encodeTo decodeFrom pubKey signature req conn s = .ok r) :
    Authentic P S encodeTo decodeFrom pubKey signature req conn s r := by
  unfold authenticate at h
  rcases hr : readRequest S encodeTo decodeFrom req conn 65536 with ⟨_ | hash, r'⟩
  · simp only [hr] at h; cases h
  have hh : hash = S.hash (encodeTo r') := by
    have := readRequest_ok (congrArg Prod.fst hr)
    rwa [hr] at this
  subst hh
  simp only [hr] at h
  split at h
  · cases h
  split at h
  · rename_i hv _ hu
    cases h
    exact ⟨hr, hv, hu⟩
  · cases h

/-- When the message is read back as `r`, the common start is the check of `r`'s signature
and key. -/
theorem authenticate_of_read {r : α}
    (hr : readRequest S encodeTo decodeFrom req conn 65536 = (.ok (S.hash (encodeTo r)), r))
    (hv : P.verifyHash (S.hash (encodeTo r)) (pubKey r) (signature r) = .ok ())
    (hu : P.userExists (ed25519PublicKey (pubKey r)) s = (true, none)) :
    authenticate P S encodeTo decodeFrom pubKey signature req conn s = .ok r := by
  unfold authenticate
  rw [hr]
  simp only [hv, hu]

end Authentic

/-! ## The handlers -/

/-- A run that refused before calling the satellite: an error, no response, the state as it
was. -/
def Refused {R σ : Type} (o : Outcome R σ) (s : σ) : Prop :=
  o.err.isSome ∧ o.response = none ∧ o.state = s

section Handlers

variable {σ : Type} (P : ProviderEnv σ) (S : SessionEnv)

/-- `formContractsFor` refuses, or calls `FormContracts` once its checks pass. -/
theorem formContractsFor_cases (fr : FormRequest) (s : σ) :
    ∀ o ∈ formContractsFor P fr s, Refused o s ∨
      (fr.hosts ≠ 0 ∧ checkParams "form" fr.period fr.renewWindow fr.storage fr.minShards
          fr.totalShards = none ∧
        o.state = (P.formContracts (ed25519PublicKey fr.pubKey) (formAllowance fr) s).2) := by
  intro o ho
  unfold formContractsFor at ho
  split_ifs at ho with h0
  · cases ho; exact .inl ⟨rfl, rfl, rfl⟩
  split at ho
  · cases ho; exact .inl ⟨rfl, rfl, rfl⟩
  rename_i hc
  rcases hf : P.formContracts (ed25519PublicKey fr.pubKey) (formAllowance fr) s with ⟨_ | cs, s'⟩ <;>
    simp only [hf] at ho
  · cases ho; exact .inr ⟨h0, hc, rfl⟩
  · obtain ⟨cs', -, ho⟩ := Option.bind_eq_some.1 ho
    cases ho; exact .inr ⟨h0, hc, rfl⟩

/-- `renewContractsFor` refuses, or calls `RenewContracts` once its checks pass. -/
theorem renewContractsFor_cases (rr : RenewRequest) (s : σ) :
    ∀ o ∈ renewContractsFor P rr s, Refused o s ∨
      (rr.contracts ≠ [] ∧ checkParams "renew" rr.period rr.renewWindow rr.storage rr.minShards
          rr.totalShards = none ∧
        o.state = (P.renewContracts (ed25519PublicKey rr.pubKey) (renewAllowance rr)
          rr.contracts s).2) := by
  intro o ho
  unfold renewContractsFor at ho
  split_ifs at ho with h0
  · cases ho; exact .inl ⟨rfl, rfl, rfl⟩
  split at ho
  · cases ho; exact .inl ⟨rfl, rfl, rfl⟩
  rename_i hc
  have hne : rr.contracts ≠ [] := fun h => h0 (by rw [h]; rfl)
  rcases hf : P.renewContracts (ed25519PublicKey rr.pubKey) (renewAllowance rr) rr.contracts s
    with ⟨_ | cs, s'⟩ <;> simp only [hf] at ho
  · cases ho; exact .inr ⟨hne, hc, rfl⟩
  · obtain ⟨cs', -, ho⟩ := Option.bind_eq_some.1 ho
    cases ho; exact .inr ⟨hne, hc, rfl⟩

/-- `updateRevisionFor` calls `UpdateContract` on the converted revision, and answers. -/
theorem updateRevisionFor_cases
    (ur : UpdateRequest CoreTypes.FileContractRevision CoreTypes.TransactionSignature) (s : σ) :
    ∀ o ∈ updateRevisionFor P ur s, ∃ rev sigs, convertRevision ur.contract = some (rev, sigs) ∧
      o.state = (P.updateContract rev sigs ur.uploads.toNat ur.downloads.toNat
        ur.fundAccount.toNat s).2 := by
  intro o ho
  obtain ⟨⟨rev, sigs⟩, hc, ho⟩ := Option.bind_eq_some.1 ho
  refine ⟨rev, sigs, hc, ?_⟩
  rcases hu : P.updateContract rev sigs ur.uploads.toNat ur.downloads.toNat ur.fundAccount.toNat s
    with ⟨_ | _, s'⟩ <;> simp only [hu] at ho <;> cases ho <;> rfl

/-- **The provider acts only on authentic requests.** Each handler either refuses before it
calls the satellite, with an error, no response and the satellite's state as it was, or
calls the satellite, and leaves the state of that call, on an authentic request that passed
its checks. -/
theorem provider_acts_only_when_authentic (conn : List UInt8) (s : σ) :
    (∀ o ∈ managedFormContracts P S conn s, Refused o s ∨
      ∃ fr, Authentic P S FormRequest.encodeTo FormRequest.decodeFrom (·.pubKey) (·.signature)
          FormRequest.zero conn s fr ∧ fr.hosts ≠ 0 ∧
        checkParams "form" fr.period fr.renewWindow fr.storage fr.minShards fr.totalShards = none ∧
        o.state = (P.formContracts (ed25519PublicKey fr.pubKey) (formAllowance fr) s).2) ∧
    (∀ o ∈ managedRenewContracts P S conn s, Refused o s ∨
      ∃ rr, Authentic P S RenewRequest.encodeTo RenewRequest.decodeFrom (·.pubKey) (·.signature)
          RenewRequest.zero conn s rr ∧ rr.contracts ≠ [] ∧
        checkParams "renew" rr.period rr.renewWindow rr.storage rr.minShards rr.totalShards = none ∧
        o.state = (P.renewContracts (ed25519PublicKey rr.pubKey) (renewAllowance rr)
          rr.contracts s).2) ∧
    (∀ o ∈ managedUpdateRevision P S conn s, Refused o s ∨
      ∃ ur, Authentic P S (UpdateRequest.encodeTo P.revCodec P.sigCodec)
          (UpdateRequest.decodeFrom P.revCodec P.sigCodec) (·.pubKey) (·.signature)
          UpdateRequest.zero conn s ur ∧
        ∃ rev sigs, convertRevision ur.contract = some (rev, sigs) ∧
          o.state = (P.updateContract rev sigs ur.uploads.toNat ur.downloads.toNat
            ur.fundAccount.toNat s).2) := by
  refine ⟨fun o ho => ?_, fun o ho => ?_, fun o ho => ?_⟩
  · unfold managedFormContracts at ho
    split at ho
    · cases ho; exact .inl ⟨rfl, rfl, rfl⟩
    · rename_i fr ha
      exact (formContractsFor_cases P fr s o ho).imp_right fun h =>
        ⟨fr, authenticate_ok P S _ _ _ _ _ conn s ha, h⟩
  · unfold managedRenewContracts at ho
    split at ho
    · cases ho; exact .inl ⟨rfl, rfl, rfl⟩
    · rename_i rr ha
      exact (renewContractsFor_cases P rr s o ho).imp_right fun h =>
        ⟨rr, authenticate_ok P S _ _ _ _ _ conn s ha, h⟩
  · unfold managedUpdateRevision at ho
    split at ho
    · cases ho; exact .inl ⟨rfl, rfl, rfl⟩
    · rename_i ur ha
      exact .inr ⟨ur, authenticate_ok P S _ _ _ _ _ conn s ha, updateRevisionFor_cases P ur s o ho⟩

theorem managedUpdateRevision_of
    {ur : UpdateRequest CoreTypes.FileContractRevision CoreTypes.TransactionSignature}
    {conn : List UInt8} {s : σ}
    (h : authenticate P S (UpdateRequest.encodeTo P.revCodec P.sigCodec)
      (UpdateRequest.decodeFrom P.revCodec P.sigCodec) (·.pubKey) (·.signature)
      UpdateRequest.zero conn s = .ok ur) :
    managedUpdateRevision P S conn s = updateRevisionFor P ur s := by
  unfold managedUpdateRevision
  rw [h]

end Handlers

/-- A satellite that knows every renter, accepts every signature, and counts its calls. -/
def demoProvider : ProviderEnv ℕ where
  verifyHash _ _ _ := .ok ()
  userExists _ _ := (true, none)
  formContracts _ _ s := (.ok [], s + 1)
  renewContracts _ _ _ s := (.ok [], s + 1)
  updateContract _ _ _ _ _ s := (.ok (), s + 1)
  conv := Currency.ofNat
  revCodec := ⟨fun _ => [], pure⟩
  sigCodec := ⟨fun _ => [], pure⟩

end Provider

end SiaSatellite
