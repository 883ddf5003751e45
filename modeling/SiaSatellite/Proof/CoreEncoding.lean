import SiaSatellite.Spec.CoreEncoding
import SiaSatellite.Proof.Provider

/-!
# The update request over the library's codecs

`Proof/Encoding` runs the request codecs over codecs of the library types taken as
parameters. Here they are the library's own (`Spec/CoreEncoding`), and each one's `DecodeFrom`
is run over its `EncodeTo`, one lemma per type, from the primitives up: a `V1Currency`
(`replicate_append_dropWhile` puts back the zeros its encoding drops), a slice (by induction
over its elements), unlock conditions, a revision, the covered fields and a signature.

Every field comes back but one: the revision's encoding has no `Payout`, and its decoding
keeps the receiver's. So an update request reads back as sent except for that payout, which
is the receiver's, and two requests that differ only in it have the same `EncodeTo`.

* `request_roundTrip_except_payout`: form and renew requests round-trip, and so does an
  update request up to its payout; `EncodeTo` is injective on every field but the signature,
  and for an update request but the payout too; and what the provider does with an update
  request does not depend on its payout, so the signed hash commits to every field the
  provider acts on.
* `updateRequest_payout_dropped`: a request with a payout of 1 is read by
  `managedUpdateRevision` with a payout of 0, and has the `EncodeTo` of the zero request.

A Go slice holds fewer than `2^63` elements, so its length fits the prefix (`Fits`).
-/

namespace SiaSatellite

open Encoder Decoder CoreTypes

variable {α : Type}

/-! ## Primitives -/

theorem readBool_decodes (b : Bool) : Decodes readBool (writeBool b) b := fun rest => by
  unfold readBool writeBool
  rw [read_decodes [0] _ (by split <;> rfl) rest]
  cases b <;> rfl

theorem Hash256.decodeFrom_decodes (old h : Hash256) :
    Decodes (Hash256.decodeFrom old) (Hash256.encodeTo h) h := fun rest => by
  have hlt : h.toNat < 256 ^ 32 := by simpa using h.isLt
  simp only [Hash256.decodeFrom, Hash256.encodeTo,
    (read_decodes (leBytes 32 old.toNat) (leBytes 32 h.toNat)
      (by rw [length_leBytes, length_leBytes])).run_bind, leValue_leBytes,
    Nat.mod_eq_of_lt hlt, BitVec.ofNat_toNat, BitVec.setWidth_eq]
  rfl

theorem writeUint64_ne_nil (u : UInt64) : writeUint64 u ≠ [] :=
  List.length_pos.1 (by rw [writeUint64, length_leBytes]; decide)

theorem length_le_length_flatMap {enc : α → List UInt8} (l : List α) (h : ∀ a ∈ l, enc a ≠ []) :
    l.length ≤ (l.flatMap enc).length := by
  induction l with
  | nil => exact le_refl 0
  | cons a l ih =>
    have ha := List.length_pos.2 (h a (List.mem_cons_self a l))
    have hl := ih fun b hb => h b (List.mem_cons_of_mem a hb)
    rw [List.flatMap_cons, List.length_append, List.length_cons]
    omega

theorem decodeElems_decodes {m : StateM Decoder α} {enc : α → List UInt8} (l : List α)
    (h : ∀ a ∈ l, Decodes m (enc a) a) : Decodes (decodeElems m l.length) (l.flatMap enc) l := by
  induction l with
  | nil => exact Decodes.pure []
  | cons a l ih =>
    rw [List.flatMap_cons, ← List.append_nil (l.flatMap enc)]
    exact (h a (List.mem_cons_self a l)).bind
      ((ih fun b hb => h b (List.mem_cons_of_mem a hb)).bind (Decodes.pure _))

theorem bind_run_of_eq {β : Type} {m : StateM Decoder α} {d d' : Decoder} {a : α}
    (h : m d = (a, d')) (f : α → StateM Decoder β) : (m >>= f) d = f a d' := by
  show (match m d with | (x, s) => f x s) = _
  rw [h]

/-- A slice of fewer than `2^64` elements, each encoded to some bytes, reads back. -/
theorem readSlice_decodes {m : StateM Decoder α} {enc : α → List UInt8} (l : List α)
    (hl : l.length < 2 ^ 64) (hne : ∀ a ∈ l, enc a ≠ []) (h : ∀ a ∈ l, Decodes m (enc a) a) :
    Decodes (readSlice m) (writeSlice enc l) l := fun rest => by
  have hn : l.length ≤ (l.flatMap enc ++ rest).length := by
    have := length_le_length_flatMap l hne
    rw [List.length_append]; omega
  rw [readSlice, writeSlice, List.append_assoc, bind_run_of_eq (readPrefix_writePrefix hl _ hn)]
  exact decodeElems_decodes l h rest

/-- The zeros that `dropWhile` takes off the front are the ones a fill of the difference puts
back. -/
theorem replicate_append_dropWhile (l : List UInt8) :
    List.replicate (l.length - (l.dropWhile (· == 0)).length) 0 ++ l.dropWhile (· == 0) = l := by
  induction l with
  | nil => rfl
  | cons a l ih =>
    rw [List.dropWhile_cons]
    by_cases ha : a = 0
    · subst ha
      have hle : (l.dropWhile (· == 0)).length ≤ l.length := (List.dropWhile_suffix _).length_le
      rw [if_pos (beq_self_eq_true 0), List.length_cons,
        show l.length + 1 - (l.dropWhile (· == 0)).length =
          l.length - (l.dropWhile (· == 0)).length + 1 by omega,
        List.replicate_succ, List.cons_append, ih]
    · rw [if_neg (by simpa using ha), Nat.sub_self]
      rfl

theorem UInt64.ofNat_beValue (u : UInt64) : UInt64.ofNat (beValue (leBytes 8 u.toNat).reverse) = u := by
  rw [beValue, List.reverse_reverse, leValue_leBytes,
    show u.toNat % 256 ^ 8 = u.toNat from Nat.mod_eq_of_lt u.val.isLt, UInt64.ofNat_toNat]

namespace CoreTypes

/-! ## Amounts and outputs -/

/-- `V1Currency.DecodeFrom` over a slice of at most 16 bytes fills the buffer's end with it. -/
theorem V1Currency.decodeFrom_run (b rest : List UInt8) (hb : b.length ≤ 16) :
    V1Currency.decodeFrom ⟨writeBytes b ++ rest, false⟩ =
      (⟨UInt64.ofNat (beValue ((List.replicate (16 - b.length) 0 ++ b).drop 8)),
        UInt64.ofNat (beValue ((List.replicate (16 - b.length) 0 ++ b).take 8))⟩,
        ⟨rest, false⟩) := by
  unfold V1Currency.decodeFrom
  rw [writeBytes, List.append_assoc, readPrefix_writePrefix (by omega) _ (by simp)]
  dsimp only
  rw [if_neg (by omega), read_decodes _ b (by simp) rest]

theorem V1Currency.decodeFrom_decodes (c : Currency) :
    Decodes V1Currency.decodeFrom (V1Currency.encodeTo c) c := fun rest => by
  have hlen : ((leBytes 8 c.hi.toNat).reverse ++ (leBytes 8 c.lo.toNat).reverse).length = 16 := by
    simp [length_leBytes]
  have hfill := replicate_append_dropWhile
    ((leBytes 8 c.hi.toNat).reverse ++ (leBytes 8 c.lo.toNat).reverse)
  rw [hlen] at hfill
  have hb := congrArg List.length hfill
  rw [List.length_append, hlen] at hb
  show V1Currency.decodeFrom ⟨writeBytes (((leBytes 8 c.hi.toNat).reverse ++
    (leBytes 8 c.lo.toNat).reverse).dropWhile (· == 0)) ++ rest, false⟩ = _
  have h8 : ((leBytes 8 c.hi.toNat).reverse).length = 8 := by simp [length_leBytes]
  rw [V1Currency.decodeFrom_run _ _ (by omega), hfill, List.drop_left' h8, List.take_left' h8,
    UInt64.ofNat_beValue, UInt64.ofNat_beValue]

theorem V1SiacoinOutput.decodeFrom_decodes (o : SiacoinOutput) :
    Decodes V1SiacoinOutput.decodeFrom (V1SiacoinOutput.encodeTo o) o := fun rest => by
  simp only [V1SiacoinOutput.decodeFrom, V1SiacoinOutput.encodeTo, List.append_assoc,
    (V1Currency.decodeFrom_decodes o.value).run_bind, (Hash256.decodeFrom_decodes 0 o.address).run_bind]
  rfl

theorem V1SiacoinOutput.encodeTo_ne_nil (o : SiacoinOutput) : V1SiacoinOutput.encodeTo o ≠ [] :=
  List.append_ne_nil_of_left_ne_nil
    (List.append_ne_nil_of_left_ne_nil (writeUint64_ne_nil _) _) _

/-! ## Unlock conditions -/

/-- Every slice of the unlock conditions has fewer than `2^64` elements. -/
def UnlockConditions.Fits (uc : UnlockConditions) : Prop :=
  uc.publicKeys.length < 2 ^ 64 ∧ ∀ k ∈ uc.publicKeys, k.key.length < 2 ^ 64

instance (uc : UnlockConditions) : Decidable uc.Fits := inferInstanceAs (Decidable (_ ∧ _))

theorem UnlockKey.decodeFrom_decodes (old uk : UnlockKey) (h : uk.key.length < 2 ^ 64) :
    Decodes old.decodeFrom uk.encodeTo uk := fun rest => by
  simp only [UnlockKey.decodeFrom, UnlockKey.encodeTo, List.append_assoc, Bytes.decodeFrom_bind,
    (readBytes_decodes uk.key h).run_bind]
  rfl

theorem UnlockKey.encodeTo_ne_nil (uk : UnlockKey) : uk.encodeTo ≠ [] :=
  List.append_ne_nil_of_right_ne_nil _ (List.append_ne_nil_of_left_ne_nil (writeUint64_ne_nil _) _)

theorem UnlockConditions.decodeFrom_decodes (uc : UnlockConditions) (h : uc.Fits) :
    Decodes UnlockConditions.decodeFrom uc.encodeTo uc := fun rest => by
  simp only [UnlockConditions.decodeFrom, UnlockConditions.encodeTo, List.append_assoc,
    readUint64_bind, (readSlice_decodes uc.publicKeys h.1 (fun k _ => k.encodeTo_ne_nil)
      fun k hk => UnlockKey.decodeFrom_decodes _ k (h.2 k hk)).run_bind]
  rfl

/-! ## Revisions -/

/-- Every slice of the revision has fewer than `2^64` elements. -/
def FileContractRevision.Fits (rev : FileContractRevision) : Prop :=
  rev.unlockConditions.Fits ∧ rev.fileContract.validProofOutputs.length < 2 ^ 64 ∧
    rev.fileContract.missedProofOutputs.length < 2 ^ 64

instance (rev : FileContractRevision) : Decidable rev.Fits :=
  inferInstanceAs (Decidable (_ ∧ _))

/-- The revision with the payout `p` in its contract. -/
def FileContractRevision.withPayout (rev : FileContractRevision) (p : Currency) :
    FileContractRevision :=
  { rev with fileContract := { rev.fileContract with payout := p } }

/-- **A revision reads back but for its payout**, which is the receiver's. -/
theorem FileContractRevision.decodeFrom_decodes (old rev : FileContractRevision) (h : rev.Fits) :
    Decodes old.decodeFrom rev.encodeTo (rev.withPayout old.fileContract.payout) := fun rest => by
  have hout : ∀ l : List SiacoinOutput, l.length < 2 ^ 64 →
      Decodes (readSlice V1SiacoinOutput.decodeFrom) (writeSlice V1SiacoinOutput.encodeTo l) l :=
    fun l hl => readSlice_decodes l hl (fun o _ => V1SiacoinOutput.encodeTo_ne_nil o)
      fun o _ => V1SiacoinOutput.decodeFrom_decodes o
  simp only [FileContractRevision.decodeFrom, FileContractRevision.encodeTo, List.append_assoc,
    (Hash256.decodeFrom_decodes _ _).run_bind, (UnlockConditions.decodeFrom_decodes _ h.1).run_bind,
    readUint64_bind, (hout _ h.2.1).run_bind, (hout _ h.2.2).run_bind]
  rfl

/-! ## Signatures -/

/-- Every slice of the signature has fewer than `2^64` elements. -/
def TransactionSignature.Fits (ts : TransactionSignature) : Prop :=
  ts.coveredFields.fileContractRevisions.length < 2 ^ 64 ∧ ts.signature.length < 2 ^ 64

instance (ts : TransactionSignature) : Decidable ts.Fits := inferInstanceAs (Decidable (_ ∧ _))

theorem CoveredFields.decodeFrom_decodes (cf : CoveredFields)
    (h : cf.fileContractRevisions.length < 2 ^ 64) :
    Decodes CoveredFields.decodeFrom cf.encodeTo cf := fun rest => by
  have hlen : ∀ l ∈ cf.lists, l.length < 2 ^ 64 := by simpa [CoveredFields.lists] using h
  have hlists : Decodes (decodeElems (readSlice readUint64) 10)
      (cf.lists.flatMap (writeSlice writeUint64)) cf.lists :=
    decodeElems_decodes cf.lists fun l hl => readSlice_decodes l (hlen l hl)
      (fun u _ => writeUint64_ne_nil u) fun u _ => readUint64_decodes u
  simp only [CoveredFields.decodeFrom, CoveredFields.encodeTo, List.append_assoc,
    (readBool_decodes false).run_bind, hlists.run_bind]
  rfl

theorem TransactionSignature.decodeFrom_decodes (old ts : TransactionSignature) (h : ts.Fits) :
    Decodes old.decodeFrom ts.encodeTo ts := fun rest => by
  simp only [TransactionSignature.decodeFrom, TransactionSignature.encodeTo, List.append_assoc,
    (Hash256.decodeFrom_decodes _ _).run_bind, readUint64_bind,
    (CoveredFields.decodeFrom_decodes _ h.1).run_bind, (readBytes_decodes _ h.2).run_bind]
  rfl

end CoreTypes

/-! ## The update request -/

/-- An update request as `managedUpdateRevision` reads it, with the library's codecs. -/
abbrev CoreUpdateRequest := UpdateRequest FileContractRevision TransactionSignature

/-- Every slice of the update request has fewer than `2^64` elements. -/
def UpdateRequest.Fits (ur : CoreUpdateRequest) : Prop :=
  ur.contract.revision.Fits ∧ ur.contract.signatures.1.Fits ∧ ur.contract.signatures.2.Fits

instance (ur : CoreUpdateRequest) : Decidable ur.Fits := inferInstanceAs (Decidable (_ ∧ _))

/-- The update request with the payout `p` in its revision's contract. -/
def UpdateRequest.withPayout (ur : CoreUpdateRequest) (p : Currency) : CoreUpdateRequest :=
  { ur with contract := { ur.contract with revision := ur.contract.revision.withPayout p } }

/-- The update request's `EncodeTo` with the library's codecs. -/
abbrev UpdateRequest.coreEncodeTo (ur : CoreUpdateRequest) : List UInt8 :=
  UpdateRequest.encodeTo FileContractRevision.codec TransactionSignature.codec ur

/-- **An update request reads back but for its payout.** Over the library's codecs, its
`DecodeFrom` into the receiver `old` gives back every field of `ur` but the revision's payout,
which is `old`'s. -/
theorem UpdateRequest.decodeFrom_core_decodes (ur old : CoreUpdateRequest) (h : ur.Fits) :
    Decodes (UpdateRequest.decodeFrom FileContractRevision.codec TransactionSignature.codec old)
      (ur.coreEncodeTo ++ ur.signature.encodeTo)
      (ur.withPayout old.contract.revision.fileContract.payout) := fun rest => by
  simp only [UpdateRequest.decodeFrom, UpdateRequest.coreEncodeTo, UpdateRequest.encodeTo,
    FileContractRevision.codec, TransactionSignature.codec, List.append_assoc,
    readBytes_bind ur.pubKey (by decide), (FileContractRevision.decodeFrom_decodes _ _ h.1).run_bind,
    (TransactionSignature.decodeFrom_decodes _ _ h.2.1).run_bind,
    (TransactionSignature.decodeFrom_decodes _ _ h.2.2).run_bind, Currency.decodeFrom_bind,
    Bytes.decodeFrom_bind, Bytes.copyInto_self]
  rfl

/-- What `managedUpdateRevision` does with a request does not depend on its payout:
`convertRevision` does not read it. -/
theorem updateRevisionFor_withPayout {σ : Type} (P : Provider.ProviderEnv σ)
    (ur : CoreUpdateRequest) (p : Currency) (s : σ) :
    Provider.updateRevisionFor P (ur.withPayout p) s = Provider.updateRevisionFor P ur s := rfl

/-- **The request codecs round-trip, but for an update request's payout.** For `formRequest`
and `renewRequest`, `DecodeFrom` into any receiver, run over the request's `EncodeTo` followed
by its signature's bytes, yields the request; for `updateRequest`, over the library's codecs,
it yields the request with the receiver's payout in its revision. Hence `EncodeTo` is
injective on every field but the signature, and for an update request but the payout too;
and the provider does the same with an update request whatever its payout, so the hash that
`readRequest` computes from the re-encoded request commits to every field the provider acts
on. A Go slice holds fewer than `2^63` elements, so the contract list of a `renewRequest`
does, and every slice of an update request fits its prefix. -/
theorem request_roundTrip_except_payout :
    (∀ fr old : FormRequest, Decodes old.decodeFrom (fr.encodeTo ++ fr.signature.encodeTo) fr) ∧
    (∀ rr old : RenewRequest, rr.contracts.length < 2 ^ 63 →
      Decodes old.decodeFrom (rr.encodeTo ++ rr.signature.encodeTo) rr) ∧
    (∀ ur old : CoreUpdateRequest, ur.Fits →
      Decodes (UpdateRequest.decodeFrom FileContractRevision.codec TransactionSignature.codec old)
        (ur.coreEncodeTo ++ ur.signature.encodeTo)
        (ur.withPayout old.contract.revision.fileContract.payout)) ∧
    (∀ fr fr' : FormRequest, fr.encodeTo = fr'.encodeTo →
      fr = { fr' with signature := fr.signature }) ∧
    (∀ rr rr' : RenewRequest, rr.contracts.length < 2 ^ 63 → rr'.contracts.length < 2 ^ 63 →
      rr.encodeTo = rr'.encodeTo → rr = { rr' with signature := rr.signature }) ∧
    (∀ ur ur' : CoreUpdateRequest, ur.Fits → ur'.Fits → ur.coreEncodeTo = ur'.coreEncodeTo →
      ur = { ur'.withPayout ur.contract.revision.fileContract.payout with
        signature := ur.signature }) ∧
    (∀ {σ : Type} (P : Provider.ProviderEnv σ) (ur : CoreUpdateRequest) (p : Currency) (s : σ),
      Provider.updateRevisionFor P (ur.withPayout p) s = Provider.updateRevisionFor P ur s) := by
  refine ⟨FormRequest.decodeFrom_decodes, RenewRequest.decodeFrom_decodes,
    UpdateRequest.decodeFrom_core_decodes, fun fr fr' h => ?_, fun rr rr' h h' he => ?_,
    fun ur ur' hf hf' h => ?_, updateRevisionFor_withPayout⟩
  -- the request with the other's fields and this signature decodes from the same bytes
  · have := FormRequest.decodeFrom_decodes { fr' with signature := fr.signature } fr
    rw [show ({ fr' with signature := fr.signature } : FormRequest).encodeTo = fr.encodeTo
      from h.symm] at this
    exact (FormRequest.decodeFrom_decodes fr fr).unique this
  · have := RenewRequest.decodeFrom_decodes { rr' with signature := rr.signature } rr h'
    rw [show ({ rr' with signature := rr.signature } : RenewRequest).encodeTo = rr.encodeTo
      from he.symm] at this
    exact (RenewRequest.decodeFrom_decodes rr rr h).unique this
  · have := UpdateRequest.decodeFrom_core_decodes { ur' with signature := ur.signature } ur hf'
    rw [show UpdateRequest.coreEncodeTo { ur' with signature := ur.signature } = ur.coreEncodeTo
      from h.symm] at this
    exact (UpdateRequest.decodeFrom_core_decodes ur ur hf).unique this

/-- **The update request loses its payout.** A request whose revision carries a payout of 1,
read as `managedUpdateRevision` reads it, into the zero request, comes back as the zero
request, with a payout of 0; and it has the zero request's `EncodeTo`, so a signature of the
one is a signature of the other. -/
theorem updateRequest_payout_dropped :
    (UpdateRequest.decodeFrom FileContractRevision.codec TransactionSignature.codec
        Provider.UpdateRequest.zero
        ⟨(Provider.UpdateRequest.zero.withPayout (Currency.ofNat 1)).coreEncodeTo ++
          (Bytes.zero 64).encodeTo, false⟩).1 = Provider.UpdateRequest.zero ∧
    (Provider.UpdateRequest.zero.withPayout (Currency.ofNat 1)).coreEncodeTo =
      Provider.UpdateRequest.zero.coreEncodeTo ∧
    Provider.UpdateRequest.zero.withPayout (Currency.ofNat 1) ≠ Provider.UpdateRequest.zero := by
  have h := UpdateRequest.decodeFrom_core_decodes
    (Provider.UpdateRequest.zero.withPayout (Currency.ofNat 1)) Provider.UpdateRequest.zero
    (by decide) []
  rw [List.append_nil] at h
  refine ⟨(congrArg Prod.fst h).trans rfl, rfl, fun he => ?_⟩
  have := congrArg (fun ur : CoreUpdateRequest => ur.contract.revision.fileContract.payout) he
  exact absurd this (by decide)

/-! ## Serving an update over the library's codecs -/

section Serve

open Provider

variable {σ : Type} (P : ProviderEnv σ) (S : SessionEnv)

/-- **An honest update request is served as sent, over the library's codecs.** A request that
the renter encodes with the library's codecs, follows with its signature, encrypts into a
message of at most 65536 bytes and sends with `WriteBytes` is read back with the zero payout
of `managedUpdateRevision`'s receiver; its re-encoding is the one the renter signed, and the
satellite is asked to store the same revision it would store for the request as sent. -/
theorem provider_serves_honest_update (hrev : P.revCodec = FileContractRevision.codec)
    (hsig : P.sigCodec = TransactionSignature.codec) (ur : CoreUpdateRequest)
    (ct rest : List UInt8) (s : σ) (hfits : ur.Fits) (hlen : 8 + ct.length ≤ 65536)
    (hct : S.decryptWithNonce ct = some (ur.coreEncodeTo ++ ur.signature.encodeTo))
    (hv : P.verifyHash (S.hash ur.coreEncodeTo) ur.pubKey ur.signature = .ok ())
    (hu : P.userExists (SiadTypes.ed25519PublicKey ur.pubKey) s = (true, none)) :
    managedUpdateRevision P S (writeBytes ct ++ rest) s = updateRevisionFor P ur s := by
  have hdec := UpdateRequest.decodeFrom_core_decodes ur UpdateRequest.zero hfits
  unfold UpdateRequest.coreEncodeTo at hdec
  rw [← hrev, ← hsig] at hdec
  have hread := readRequest_honest S (UpdateRequest.encodeTo P.revCodec P.sigCodec) _ _ hlen
    (by norm_num) (by rw [hrev, hsig]; exact hct) hdec rest
  rw [managedUpdateRevision_of P S (authenticate_of_read P S _ _ _ _ _ _ s hread
    (by rw [hrev, hsig]; exact hv) hu)]
  exact updateRevisionFor_withPayout P ur _ s

end Serve

/-- A satellite as `demoProvider`, reading revisions and signatures with the library's codecs. -/
def demoCoreProvider : Provider.ProviderEnv ℕ :=
  { Provider.demoProvider with
    revCodec := FileContractRevision.codec, sigCodec := TransactionSignature.codec }

set_option maxRecDepth 8000 in
/-- The request with a payout of 1, sealed in a message, has its revision stored as sent. -/
theorem provider_serves_honest_update_demo :
    Provider.managedUpdateRevision demoCoreProvider Provider.demoSession
        (writeBytes (List.replicate 24 0 ++
          (((Provider.UpdateRequest.zero.withPayout (Currency.ofNat 1)).coreEncodeTo ++
            (Bytes.zero 64).encodeTo) ++ List.replicate 16 0)) ++ []) 0 =
      Provider.updateRevisionFor demoCoreProvider
        (Provider.UpdateRequest.zero.withPayout (Currency.ofNat 1)) 0 :=
  provider_serves_honest_update demoCoreProvider Provider.demoSession rfl rfl _ _ [] 0
    (by decide) (by decide)
    (Provider.demoSession_open _ _ (List.length_replicate 24 0)) rfl rfl

end SiaSatellite
