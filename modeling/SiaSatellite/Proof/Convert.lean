import SiaSatellite.Spec.Convert
import SiaSatellite.Proof.Encoding

/-!
# Converting a contract there and back

* `convertRevision_convertContract`: for a stored contract whose transaction carries a
  revision with two valid and three missed proof outputs and two signatures, with the
  contract's id as parent and its two `ed25519` keys as unlock keys, and amounts that
  `ConvertCurrency` carries exactly, `convertRevision (convertContract c)` is the stored
  revision and signatures with two exceptions: `SignaturesRequired` becomes 2 and each
  signature covers revision 0 only, as `convertContract` sets them, and the third missed
  proof output is a copy of the second, because `convertRevision` reads
  `MissedProofOutputs[1]` where it means `[2]`.
-/

namespace SiaSatellite

open SiadTypes CoreTypes

/-- An `ed25519` key of 32 bytes survives `ToPublicKey`, `UnlockKey`, the copy back into 32
bytes and `Ed25519PublicKey`. -/
theorem SiadTypes.SiaPublicKey.toPublicKey_ed25519 {k : SiaPublicKey}
    (h : k.algorithm = specifierEd25519 ∧ k.key.length = 32) :
    ed25519PublicKey ((Bytes.zero 32).copyInto (unlockKey k.toPublicKey).key) = k := by
  obtain ⟨alg, key⟩ := k
  obtain ⟨rfl, hk⟩ := h
  simp only [unlockKey, Bytes.copyInto_self, ed25519PublicKey, SiaPublicKey.toPublicKey,
    Bytes.copyInto, List.take_of_length_le (le_of_eq hk)]
  simp [Bytes.zero, hk]

/-- An output whose amount `conv` carries exactly comes back from `core` unchanged. -/
theorem SiadTypes.SiacoinOutput.convert {conv : ℕ → Currency}
    (hconv : ∀ v, v < 2 ^ 128 → (conv v).toNat = v) {o : SiadTypes.SiacoinOutput}
    (h : o.value < 2 ^ 128) :
    (⟨(conv o.value).toNat, o.unlockHash⟩ : SiadTypes.SiacoinOutput) = o := by
  rw [hconv _ h]

/-- **The round trip through `core` loses the third missed proof output.** Every field the
satellite stores comes back, except that the third missed proof output is replaced by the
second, `SignaturesRequired` is 2 and the signatures cover revision 0. -/
theorem convertRevision_convertContract (conv : ℕ → Currency)
    (hconv : ∀ v, v < 2 ^ 128 → (conv v).toNat = v) (c : RenterContract)
    {fcr : SiadTypes.FileContractRevision} {fcrs : List SiadTypes.FileContractRevision}
    {ts0 ts1 : SiadTypes.TransactionSignature} {sigs : List SiadTypes.TransactionSignature}
    {v0 v1 m0 m1 m2 : SiadTypes.SiacoinOutput}
    (hfcr : c.transaction.fileContractRevisions = fcr :: fcrs)
    (hts : c.transaction.transactionSignatures = ts0 :: ts1 :: sigs)
    (hv : fcr.newValidProofOutputs = [v0, v1]) (hm : fcr.newMissedProofOutputs = [m0, m1, m2])
    (hparent : fcr.parentID = c.id)
    (hkeys : fcr.unlockConditions.publicKeys = [c.renterPublicKey, c.hostPublicKey])
    (hed : ∀ k ∈ [c.renterPublicKey, c.hostPublicKey],
      k.algorithm = specifierEd25519 ∧ k.key.length = 32)
    (hval : ∀ o ∈ [v0, v1, m0, m1, m2], o.value < 2 ^ 128) :
    (convertContract conv c).bind convertRevision = some
      ({ fcr with
          unlockConditions := { fcr.unlockConditions with signaturesRequired := 2 }
          newMissedProofOutputs := [m0, m1, m1] },
        [{ ts0 with coveredFields := ⟨[0]⟩ }, { ts1 with coveredFields := ⟨[0]⟩ }]) := by
  simp only [convertContract, convertRevision, hfcr, hts, hv, hm, List.getElem?_cons_zero,
    List.getElem?_cons_succ, Option.pure_def, Option.bind_eq_bind, Option.some_bind, ← hparent,
    ← hkeys, SiaPublicKey.toPublicKey_ed25519 (hed c.renterPublicKey (by simp)),
    SiaPublicKey.toPublicKey_ed25519 (hed c.hostPublicKey (by simp)),
    SiacoinOutput.convert hconv (hval v0 (by simp)), SiacoinOutput.convert hconv (hval v1 (by simp)),
    SiacoinOutput.convert hconv (hval m0 (by simp)), SiacoinOutput.convert hconv (hval m1 (by simp))]

/-- A stored revision whose three missed proof outputs differ. -/
def demoRevision : SiadTypes.FileContractRevision where
  parentID := 5
  unlockConditions := ⟨0, [⟨specifierEd25519, List.replicate 32 7⟩,
    ⟨specifierEd25519, List.replicate 32 9⟩], 2⟩
  newRevisionNumber := 1
  newFileSize := 0
  newFileMerkleRoot := 0
  newWindowStart := 100
  newWindowEnd := 200
  newValidProofOutputs := [⟨10, 1⟩, ⟨20, 2⟩]
  newMissedProofOutputs := [⟨1, 1⟩, ⟨2, 2⟩, ⟨3, 3⟩]
  newUnlockHash := 0

/-- The contract holding `demoRevision`, signed by renter and host. -/
def demoContract : RenterContract where
  id := 5
  transaction := ⟨[demoRevision], [⟨5, 0, 0, ⟨[0]⟩, [1]⟩, ⟨5, 1, 0, ⟨[0]⟩, [2]⟩]⟩
  renterPublicKey := ⟨specifierEd25519, List.replicate 32 7⟩
  hostPublicKey := ⟨specifierEd25519, List.replicate 32 9⟩

/-- The missed outputs `[1, 2, 3]` come back as `[1, 2, 2]`. -/
theorem convertRevision_convertContract_demo :
    ((convertContract Currency.ofNat demoContract).bind convertRevision).map
        (fun r => r.1.newMissedProofOutputs) = some [⟨1, 1⟩, ⟨2, 2⟩, ⟨2, 2⟩] ∧
      demoRevision.newMissedProofOutputs = [⟨1, 1⟩, ⟨2, 2⟩, ⟨3, 3⟩] := by
  refine ⟨?_, rfl⟩
  rw [convertRevision_convertContract Currency.ofNat (fun _ h => Currency.toNat_ofNat h)
    demoContract rfl rfl rfl rfl rfl rfl (by decide) (by decide)]
  rfl

end SiaSatellite
