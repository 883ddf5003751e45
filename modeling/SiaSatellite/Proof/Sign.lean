import SiaSatellite.Spec.Sign

/-!
# What signing adds to a transaction

Signing only appends signatures and fills their `Signature` field, so the parents of a
transaction's signatures, its inputs and its revisions are what the calls' tests read, and
each call's effect on them is a list.

* `sign_lazy_marks`: **`Sign` with no ids appends one signature per input `MarkWalletInputs`
  marks**, in its order, when the wallet can spend exactly the addresses it has a key for.
* `sign_error_first`: `Sign` fails with the error of the first id that has no signature, no
  input or revision, or no key for its address, checked against the transaction as it came in.
* `signListed_frame`: `Sign` with ids adds, drops and moves no signature, and fills in only
  the first signature with the parent of each listed id.
* `addSignatures_keys`: with at least one signature required, `addSignatures` signs for the
  first `SignaturesRequired` public keys that one of the secret keys matches, in key order.
-/

namespace SiaSatellite

namespace Wallet

open CoreTypes

/-! ## What signing keeps -/

/-- The input a signature is for, and the key of it: a signature without its value. -/
def TxnSignature.slot (s : TxnSignature) : Hash256 × ℕ := (s.parentID, s.publicKeyIndex)

/-- The slots of the signatures of a transaction. -/
def SignTxn.slots (txn : SignTxn) : List (Hash256 × ℕ) := txn.signatures.map TxnSignature.slot

/-- Filling a field of one item keeps what the other fields read. -/
theorem map_modify {α β : Type} {f : α → α} {g : α → β} (h : ∀ a, g (f a) = g a) (l : List α)
    (n : ℕ) : (l.modify f n).map g = l.map g := by
  induction l generalizing n with
  | nil => simp
  | cons a l ih => cases n <;> simp [h, ih]

/-- Filling the item just appended. -/
theorem modify_append_length {α : Type} (f : α → α) (l : List α) (a : α) :
    (l ++ [a]).modify f l.length = l ++ [f a] := by
  induction l with
  | nil => rfl
  | cons b l ih => exact congrArg (b :: ·) ih

/-- A search by a test on what a map keeps finds the same index in lists with that map. -/
theorem findIdx?_map_congr {α β : Type} {g : α → β} {p : β → Bool} {l l' : List α}
    (h : l'.map g = l.map g) (i : ℕ) :
    l'.findIdx? (fun a => p (g a)) i = l.findIdx? (fun a => p (g a)) i := by
  induction l generalizing l' i with
  | nil => rw [List.map_eq_nil_iff.1 h]
  | cons a l ih =>
    obtain ⟨a', l', rfl, ha, hl⟩ := List.map_eq_cons_iff.1 h
    simp only [List.findIdx?_cons, ha, ih hl]

@[simp] theorem SignTxn.setSignature_slots (txn : SignTxn) (i : ℕ) (sig : List UInt8) :
    (txn.setSignature i sig).slots = txn.slots :=
  map_modify (by intro; rfl) _ _

@[simp] theorem SignTxn.addSignature_slots (txn : SignTxn) (sig : TxnSignature) :
    (txn.addSignature sig).slots = txn.slots ++ [sig.slot] := by
  simp [SignTxn.addSignature, SignTxn.slots]

/-- The first signature with a parent is found by the slots alone. -/
theorem findIdx?_parentID_congr {txn txn' : SignTxn} (h : txn'.slots = txn.slots) (id : Hash256) :
    txn'.signatures.findIdx? (·.parentID = id) = txn.signatures.findIdx? (·.parentID = id) :=
  findIdx?_map_congr (p := fun q => decide (q.1 = id)) h 0

/-- Signing changes the signatures only: the inputs and revisions stay. -/
structure SameInputs (txn txn' : SignTxn) : Prop where
  siacoin : txn'.siacoinInputs = txn.siacoinInputs
  siafund : txn'.siafundInputs = txn.siafundInputs
  revisions : txn'.fileContractRevisions = txn.fileContractRevisions

theorem SameInputs.refl (txn : SignTxn) : SameInputs txn txn := ⟨rfl, rfl, rfl⟩

theorem SameInputs.trans {t₁ t₂ t₃ : SignTxn} (h₁ : SameInputs t₁ t₂) (h₂ : SameInputs t₂ t₃) :
    SameInputs t₁ t₃ :=
  ⟨h₂.siacoin.trans h₁.siacoin, h₂.siafund.trans h₁.siafund, h₂.revisions.trans h₁.revisions⟩

theorem SameInputs.setSignature (txn : SignTxn) (i : ℕ) (sig : List UInt8) :
    SameInputs txn (txn.setSignature i sig) := ⟨rfl, rfl, rfl⟩

theorem SameInputs.addSignature (txn : SignTxn) (sig : TxnSignature) :
    SameInputs txn (txn.addSignature sig) := ⟨rfl, rfl, rfl⟩

namespace SignEnv

variable {K : Type} (E : SignEnv K)

/-- `sigAddr` reads the inputs and revisions only. -/
theorem sigAddr_congr {txn txn' : SignTxn} (h : SameInputs txn txn') (id : Hash256) :
    E.sigAddr txn' id = E.sigAddr txn id := by
  simp only [sigAddr, h.siacoin, h.siafund, h.revisions]

/-! ## The first mode -/

/-- A turn of the first mode's loop. -/
theorem signOwned_cons (i : Hash256 × UnlockConditions) (ins : List (Hash256 × UnlockConditions))
    (txn : SignTxn) :
    E.signOwned (i :: ins) txn = E.signOwned ins
      (match E.keys.lookup (E.unlockHash i.2) with
      | none => txn
      | some key => E.signTransaction (txn.addSignature ⟨i.1, 0, []⟩)
          ((txn.addSignature ⟨i.1, 0, []⟩).signatures.length - 1) key) := rfl

/-- The loop of the first mode appends a signature of key 0 for each input whose address has
a key. -/
theorem signOwned_slots (ins : List (Hash256 × UnlockConditions)) (txn : SignTxn) :
    (E.signOwned ins txn).slots =
      txn.slots ++ (ins.filter fun i => E.unlockHash i.2 ∈ E.keys).map (·.1, 0) ∧
    SameInputs txn (E.signOwned ins txn) := by
  induction ins generalizing txn with
  | nil => exact ⟨by simp [signOwned], SameInputs.refl txn⟩
  | cons i ins ih =>
    rw [signOwned_cons]
    cases hk : E.keys.lookup (E.unlockHash i.2) with
    | none =>
      obtain ⟨hp, hs⟩ := ih txn
      exact ⟨by simpa [AList.lookup_eq_none.1 hk] using hp, hs⟩
    | some key =>
      obtain ⟨hp, hs⟩ := ih _
      refine ⟨?_, ((SameInputs.addSignature _ _).trans (SameInputs.setSignature _ _ _)).trans hs⟩
      have hmk : E.unlockHash i.2 ∈ E.keys := AList.lookup_isSome.1 (by rw [hk]; rfl)
      simp [hp, hmk, signTransaction, TxnSignature.slot]

end SignEnv

/-- **`Sign` with no ids signs what `MarkWalletInputs` marks.** When the wallet can spend
exactly the addresses it has a key for, `Sign` with no ids succeeds and appends a signature of
key 0 for each id `MarkWalletInputs` returns, in its order, after the signatures already
there. -/
theorem sign_lazy_marks {K : Type} (E : SignEnv K) (canSpendUnlockHash : Hash256 → Bool)
    (hcan : ∀ uh, canSpendUnlockHash uh = true ↔ uh ∈ E.keys) (txn : SignTxn) :
    (sign E txn []).1 = .ok () ∧
      (sign E txn []).2.slots =
        txn.slots ++ (markWalletInputs canSpendUnlockHash E.unlockHash txn).map (·, 0) := by
  obtain ⟨h1, -⟩ := E.signOwned_slots
    (txn.siacoinInputs.map fun sci => (sci.parentID, sci.unlockConditions)) txn
  obtain ⟨h2, -⟩ := E.signOwned_slots
    (txn.siafundInputs.map fun sfi => (sfi.parentID, sfi.unlockConditions))
    (E.signOwned (txn.siacoinInputs.map fun sci => (sci.parentID, sci.unlockConditions)) txn)
  refine ⟨rfl, ?_⟩
  have hf : ∀ uh, canSpendUnlockHash uh = decide (uh ∈ E.keys) := fun uh =>
    Bool.eq_iff_iff.2 ((hcan uh).trans decide_eq_true_iff.symm)
  simp only [sign, List.length_nil, if_true, h2, h1, markWalletInputs, hf, List.filter_map,
    List.map_map, List.map_append, Function.comp_def, List.append_assoc]

/-- A wallet with a key for address `7` only, where an address is the timelock of its unlock
conditions and a signature is the index it is made at. -/
def demoSignEnv : SignEnv Unit where
  keys := (∅ : AList fun _ : Hash256 => Unit).insert 7 ()
  unlockHash uc := BitVec.ofNat 256 uc.timelock.toNat
  signHash _ i _ := [UInt8.ofNat i]

/-- Inputs `1`, of address `7`, and `2`, of address `8`. -/
def demoSignTxn : SignTxn := ⟨[⟨1, ⟨7, [], 1⟩⟩, ⟨2, ⟨8, [], 1⟩⟩], [], [], []⟩

/-- The wallet signs input `1` alone, as `MarkWalletInputs` marks it. -/
theorem sign_lazy_marks_demo :
    (sign demoSignEnv demoSignTxn []).2.signatures = [⟨1, 0, [0]⟩] ∧
    (sign demoSignEnv demoSignTxn []).1 = .ok () ∧
      (sign demoSignEnv demoSignTxn []).2.slots = demoSignTxn.slots ++
        (markWalletInputs (· == 7) demoSignEnv.unlockHash demoSignTxn).map (·, 0) :=
  ⟨rfl, sign_lazy_marks demoSignEnv (· == 7) (fun _ => beq_iff_eq.trans List.mem_singleton.symm) demoSignTxn⟩

/-! ## The second mode -/

theorem except_error_bind {ε α β : Type} (e : ε) (f : α → Except ε β) :
    (Except.error e >>= f) = Except.error e := rfl

theorem except_ok_bind {ε α β : Type} (a : α) (f : α → Except ε β) :
    (Except.ok a >>= f) = f a := rfl

namespace SignEnv

variable {K : Type} (E : SignEnv K)

/-- What the second mode asks of one id, read off the transaction: a signature with that
parent, an input or revision with that parent, and a key for its address. -/
def idCheck (txn : SignTxn) (id : Hash256) : Except SignError Unit :=
  if txn.signatures.any (·.parentID = id) then
    match E.sigAddr txn id with
    | none => .error (.idNotPresent id)
    | some addr => if addr ∈ E.keys then .ok () else .error (.missingKey id)
  else .error (.signatureNotPresent id)

/-- Signing one signature leaves every id's check as it was. -/
theorem idCheck_congr {txn txn' : SignTxn} (hs : SameInputs txn txn') (h : txn'.slots = txn.slots) :
    E.idCheck txn' = E.idCheck txn := by
  funext id
  simp only [idCheck, ← List.findIdx?_isSome, findIdx?_parentID_congr h, E.sigAddr_congr hs]

/-- The loop of the second mode: its error is the first failing id's, each checked against
the transaction it was given; it adds, drops and moves no signature and keeps the inputs. -/
theorem signListed_run (toSign : List Hash256) (txn : SignTxn) :
    (E.signListed toSign txn).1 = toSign.forM (E.idCheck txn) ∧
      (E.signListed toSign txn).2.slots = txn.slots ∧ SameInputs txn (E.signListed toSign txn).2 := by
  induction toSign generalizing txn with
  | nil => exact ⟨rfl, rfl, SameInputs.refl txn⟩
  | cons id toSign ih =>
    simp only [signListed]
    cases hf : txn.signatures.findIdx? (·.parentID = id) with
    | none =>
      have hany : txn.signatures.any (·.parentID = id) = false := by
        rw [← List.findIdx?_isSome, hf]; rfl
      exact ⟨by simp [idCheck, hany, except_error_bind], rfl, SameInputs.refl txn⟩
    | some sigIndex =>
      have hany : txn.signatures.any (·.parentID = id) = true := by
        rw [← List.findIdx?_isSome, hf]; rfl
      cases ha : E.sigAddr txn id with
      | none => exact ⟨by simp [idCheck, hany, ha, except_error_bind], rfl, SameInputs.refl txn⟩
      | some addr =>
        dsimp only
        cases hk : E.keys.lookup addr with
        | none =>
          exact ⟨by simp [idCheck, hany, ha, AList.lookup_eq_none.1 hk, except_error_bind], rfl,
            SameInputs.refl txn⟩
        | some key =>
          have hmk : addr ∈ E.keys := AList.lookup_isSome.1 (by rw [hk]; rfl)
          obtain ⟨h1, h2, h3⟩ := ih (E.signTransaction txn sigIndex key)
          have hc : E.idCheck (E.signTransaction txn sigIndex key) = E.idCheck txn :=
            E.idCheck_congr (SameInputs.setSignature _ _ _) (SignTxn.setSignature_slots _ _ _)
          refine ⟨?_, h2.trans (SignTxn.setSignature_slots _ _ _),
            (SameInputs.setSignature _ _ _).trans h3⟩
          rw [h1, hc]
          simp [idCheck, hany, ha, hmk, except_ok_bind]

end SignEnv

/-- **`Sign` fails on the first id that cannot be signed, as the transaction came in.** The
error of `Sign` is that of the first id of `toSign` that has no signature, no input or
revision, or no key for its address, checked in that order against the transaction as it was
passed; with no such id, and with no ids at all, it is `nil`. -/
theorem sign_error_first {K : Type} (E : SignEnv K) (txn : SignTxn) (toSign : List Hash256) :
    (sign E txn toSign).1 = toSign.forM (E.idCheck txn) := by
  cases toSign with
  | nil => rfl
  | cons id toSign => exact (E.signListed_run (id :: toSign) txn).1

/-- **`Sign` with ids fills in the signatures it names and no other.** It adds, drops and
moves no signature, and every signature that is not the first with the parent of a listed id
is left as it was. -/
theorem signListed_frame {K : Type} (E : SignEnv K) (toSign : List Hash256) (txn : SignTxn) :
    (E.signListed toSign txn).2.slots = txn.slots ∧
      ∀ j, (∀ id ∈ toSign, txn.signatures.findIdx? (·.parentID = id) ≠ some j) →
        (E.signListed toSign txn).2.signatures[j]? = txn.signatures[j]? := by
  refine ⟨(E.signListed_run toSign txn).2.1, ?_⟩
  induction toSign generalizing txn with
  | nil => intro j _; rfl
  | cons id toSign ih =>
    intro j hj
    simp only [SignEnv.signListed]
    cases hf : txn.signatures.findIdx? (·.parentID = id) with
    | none => rfl
    | some sigIndex =>
      have hne : sigIndex ≠ j := fun h => hj id (List.mem_cons_self _ _) (h ▸ hf)
      cases E.sigAddr txn id with
      | none => rfl
      | some addr =>
        dsimp only
        cases E.keys.lookup addr with
        | none => rfl
        | some key =>
          refine (ih _ j fun id' hid' => ?_).trans (List.getElem?_modify_ne _ _ hne)
          rw [SignEnv.signTransaction, findIdx?_parentID_congr (SignTxn.setSignature_slots _ _ _)]
          exact hj id' (List.mem_cons_of_mem _ hid')

/-! ## `addSignatures` -/

/-- The indices, from `i` on, of the public keys that one of the secret keys matches. -/
def matchedKeys {SK : Type} (S : SecretKeyOps SK) (secretKeys : List SK) (i : ℕ)
    (pks : List UnlockKey) : List ℕ :=
  ((pks.enumFrom i).filter fun p => secretKeys.any fun sk => p.2.key == S.publicKey sk).map (·.1)

section AddSignatures

variable {SK : Type} (S : SecretKeyOps SK) (parentID : Hash256) (required : UInt64)
  (secretKeys : List SK)

theorem matchedKeys_cons (i : ℕ) (pk : UnlockKey) (pks : List UnlockKey) :
    matchedKeys S secretKeys i (pk :: pks) =
      if (secretKeys.find? fun sk => pk.key == S.publicKey sk).isSome
      then i :: matchedKeys S secretKeys (i + 1) pks else matchedKeys S secretKeys (i + 1) pks := by
  have h : (secretKeys.find? fun sk => pk.key == S.publicKey sk).isSome =
      secretKeys.any fun sk => pk.key == S.publicKey sk :=
    Bool.eq_iff_iff.2 (List.find?_isSome.trans List.any_eq_true.symm)
  simp only [matchedKeys, List.enumFrom_cons, List.filter_cons, h]
  split <;> rfl

/-- Appending a signature and signing it. -/
theorem addSignature_fill (txn : SignTxn) (x : TxnSignature) (sig : List UInt8) :
    ((txn.addSignature x).setSignature ((txn.addSignature x).signatures.length - 1) sig).signatures =
      txn.signatures ++ [{ x with signature := sig }] := by
  simp only [SignTxn.setSignature, SignTxn.addSignature, List.length_append, List.length_singleton,
    Nat.add_sub_cancel, modify_append_length]

/-- The loop of `addSignatures` below the required count: it appends a signature for each
public key a secret key matches until the count is reached, and returns their indices. -/
theorem addSignaturesFrom_run (pks : List UnlockKey) (i total : ℕ) (txn : SignTxn)
    (newSigIndices : List ℕ) (hlt : total < required.toNat) :
    ∃ new, (addSignaturesFrom S parentID required secretKeys i total pks txn newSigIndices).1.signatures =
        txn.signatures ++ new ∧
      new.map TxnSignature.slot =
        ((matchedKeys S secretKeys i pks).take (required.toNat - total)).map (parentID, ·) ∧
      (addSignaturesFrom S parentID required secretKeys i total pks txn newSigIndices).2 =
        newSigIndices ++ List.range' txn.signatures.length new.length ∧
      SameInputs txn (addSignaturesFrom S parentID required secretKeys i total pks txn newSigIndices).1 := by
  induction pks generalizing i total txn newSigIndices with
  | nil => exact ⟨[], by simp [addSignaturesFrom], by simp [matchedKeys], by simp [addSignaturesFrom],
      SameInputs.refl txn⟩
  | cons pk pks ih =>
    rw [matchedKeys_cons]
    simp only [addSignaturesFrom]
    cases hf : secretKeys.find? fun sk => pk.key == S.publicKey sk with
    | none =>
      dsimp only
      rw [if_neg (by omega)]
      simpa only [Option.isSome_none, Bool.false_eq_true, if_false] using
        ih (i + 1) total txn newSigIndices hlt
    | some sk =>
      dsimp only
      set x : TxnSignature := ⟨parentID, i, []⟩
      set txn' := txn.addSignature x
      set sig := S.signHash txn' (txn'.signatures.length - 1) sk
      have hfill := addSignature_fill txn x sig
      have hlen : txn'.signatures.length - 1 = txn.signatures.length := by simp [txn', SignTxn.addSignature]
      have hsame : SameInputs txn (txn'.setSignature (txn'.signatures.length - 1) sig) :=
        (SameInputs.addSignature _ _).trans (SameInputs.setSignature _ _ _)
      simp only [Option.isSome_some, if_true]
      by_cases heq : total + 1 = required.toNat
      · rw [if_pos heq]
        refine ⟨[{ x with signature := sig }], hfill, ?_, by rw [hlen]; rfl, hsame⟩
        rw [show required.toNat - total = 0 + 1 by omega]
        rfl
      · rw [if_neg heq]
        obtain ⟨new, h1, h2, h3, h4⟩ := ih (i + 1) (total + 1)
          (txn'.setSignature (txn'.signatures.length - 1) sig)
          (newSigIndices ++ [txn'.signatures.length - 1]) (by omega)
        refine ⟨{ x with signature := sig } :: new, by rw [h1, hfill, List.append_assoc]; rfl, ?_, ?_,
          hsame.trans h4⟩
        · rw [List.map_cons, h2, show required.toNat - total = required.toNat - (total + 1) + 1 by omega]
          rfl
        · rw [h3, hfill, hlen, List.length_cons, List.range'_succ, List.append_assoc]
          simp

end AddSignatures

/-- **`addSignatures` signs for the first keys it can, as many as are required.** With at
least one signature required, it appends one signature for each of the first
`SignaturesRequired` public keys of the unlock conditions that one of the secret keys
matches, in the order of the keys and with their index, after the signatures already there,
which it leaves as they were; it returns the indices of the new signatures. -/
theorem addSignatures_keys {SK : Type} (S : SecretKeyOps SK) (txn : SignTxn) (uc : UnlockConditions)
    (parentID : Hash256) (secretKeys : List SK) (hreq : 0 < uc.signaturesRequired.toNat) :
    ∃ new, (addSignatures S txn uc parentID secretKeys).1.signatures = txn.signatures ++ new ∧
      new.map TxnSignature.slot =
        ((matchedKeys S secretKeys 0 uc.publicKeys).take uc.signaturesRequired.toNat).map
          (parentID, ·) ∧
      (addSignatures S txn uc parentID secretKeys).2 = List.range' txn.signatures.length new.length := by
  obtain ⟨new, h1, h2, h3, -⟩ :=
    addSignaturesFrom_run S parentID uc.signaturesRequired secretKeys uc.publicKeys 0 0 txn [] hreq
  exact ⟨new, h1, h2, h3⟩

/-- Public keys `[1]`, `[2]` and `[3]`, two signatures required. -/
def demoMultisig : UnlockConditions :=
  ⟨0, [⟨Bytes.zero 16, [1]⟩, ⟨Bytes.zero 16, [2]⟩, ⟨Bytes.zero 16, [3]⟩], 2⟩

/-- Secret keys whose public key is their one byte, and whose signature is the index. -/
def demoSecretKeyOps : SecretKeyOps ℕ := ⟨fun sk => [UInt8.ofNat sk], fun _ i _ => [UInt8.ofNat i]⟩

/-- With the secret keys of `[3]` and `[1]`, keys `0` and `2` are signed, at indices `0` and `1`. -/
theorem addSignatures_keys_demo :
    (addSignatures demoSecretKeyOps ⟨[], [], [], []⟩ demoMultisig 5 [3, 1]).1.slots = [(5, 0), (5, 2)] ∧
    0 < demoMultisig.signaturesRequired.toNat ∧
    ∃ new, (addSignatures demoSecretKeyOps ⟨[], [], [], []⟩ demoMultisig 5 [3, 1]).1.signatures =
        [] ++ new ∧
      new.map TxnSignature.slot =
        ((matchedKeys demoSecretKeyOps [3, 1] 0 demoMultisig.publicKeys).take
          demoMultisig.signaturesRequired.toNat).map (5, ·) ∧
      (addSignatures demoSecretKeyOps ⟨[], [], [], []⟩ demoMultisig 5 [3, 1]).2 =
        List.range' 0 new.length :=
  ⟨by decide, by decide, addSignatures_keys demoSecretKeyOps ⟨[], [], [], []⟩ demoMultisig 5 [3, 1]
    (by decide)⟩

end Wallet

end SiaSatellite
