import SiaSatellite.Spec.Annotate

/-!
# What `Annotate` reports

The amounts `Annotate` adds up with `Currency.Add` are, below `2^128`, sums and products of
the values it reads, and the labels it compares are a partition by the numbers of owned
inputs and outputs. `report` states what `Annotate` reports in those terms: the type from the two
counts, and as amounts in `ℕ` the value of the transaction sent, the value of the owned
outputs received, and for each contract its payout times the larger of its numbers of owned
valid and missed proof outputs locked.

* `annotate_refines`: **`Annotate` reports `report`, and panics exactly when the value of
  the transaction or the locked amount reaches `2^128`.** A contract's payout is counted once
  per owned proof output, so the locked amount can exceed the payout, and reach `2^128` on a
  transaction whose value does not.
-/

namespace SiaSatellite

namespace Events

open CoreTypes Wallet

/-! ## The report as numbers -/

/-- What `Annotate` reports, with the amounts as numbers. -/
structure Report where
  type : String
  sent : ℕ
  received : ℕ
  locked : ℕ
  deriving DecidableEq, Repr

/-- The report of a `PoolTransaction`. -/
def PoolTransaction.toReport (p : PoolTransaction) : Report :=
  ⟨p.type, p.sent.toNat, p.received.toNat, p.locked.toNat⟩

/-- The value of a transaction: its outputs, the payouts of its contracts and its fees. -/
def TxpoolTransaction.value (txn : TxpoolTransaction) : ℕ :=
  (txn.siacoinOutputs.map (·.value.toNat)).sum + (txn.fileContracts.map (·.payout.toNat)).sum +
    (txn.minerFees.map Currency.toNat).sum

/-- What a contract locks: its payout, once per owned valid proof output or once per owned
missed proof output, whichever are more. -/
def contractLocked (ownsAddress : Address → Bool) (fc : FileContract) : ℕ :=
  fc.payout.toNat * max (fc.validProofOutputs.countP fun sco => ownsAddress sco.address)
    (fc.missedProofOutputs.countP fun sco => ownsAddress sco.address)

/-- What `Annotate` should report for a transaction, from the numbers of inputs and outputs the wallet owns. -/
def report (unlockHash : UnlockConditions → Address) (txn : TxpoolTransaction)
    (ownsAddress : Address → Bool) : Report :=
  let ownedIn := txn.siacoinInputs.countP fun sci => ownsAddress (unlockHash sci.unlockConditions)
  let ownedOut := txn.siacoinOutputs.countP fun sco => ownsAddress sco.address
  if ownedIn = 0 then
    if ownedOut = 0 then ⟨"unrelated", 0, 0, 0⟩
    else ⟨"receive", 0,
      ((txn.siacoinOutputs.filter fun sco => ownsAddress sco.address).map (·.value.toNat)).sum, 0⟩
  else if ownedIn = txn.siacoinInputs.length then
    ⟨if 0 < ownedOut ∧ ownedOut = txn.siacoinOutputs.length then "redistribution"
      else if 0 < txn.fileContractRevisions.length then "contract revision"
      else if 0 < txn.storageProofs.length then "storage proof"
      else if 0 < txn.arbitraryData.length then "announcement"
      else "send", txn.value, 0, 0⟩
  else if txn.fileContracts.length = 0 then ⟨"unknown", 0, 0, 0⟩
  else ⟨"contract", 0, 0, (txn.fileContracts.map (contractLocked ownsAddress)).sum⟩

/-! ## The loops -/

section Loops

variable {ownsAddress : Address → Bool}

/-- The three loops of `totalValue` add up the value of the transaction. -/
theorem totalValue_eq (txn : TxpoolTransaction) :
    totalValue txn = if txn.value < 2 ^ 128 then some (Currency.ofNat txn.value) else none := by
  unfold totalValue TxpoolTransaction.value
  simp only [foldlM_add_eq, Currency.toNat_zero, zero_add, List.map_map, Function.comp_def,
    Option.bind_eq_bind, -Nat.reducePow]
  by_cases h1 : (txn.siacoinOutputs.map (·.value.toNat)).sum < 2 ^ 128
  · by_cases h2 : (txn.siacoinOutputs.map (·.value.toNat)).sum +
        (txn.fileContracts.map (·.payout.toNat)).sum < 2 ^ 128
    · simp only [h1, h2, if_true, Option.some_bind, Currency.toNat_ofNat, -Nat.reducePow]
    · simp only [h1, h2, if_true, if_false, Option.some_bind, Option.none_bind,
        Currency.toNat_ofNat, -Nat.reducePow]
      rw [if_neg (by omega)]
  · simp only [h1, if_false, Option.none_bind, -Nat.reducePow]
    rw [if_neg (by omega)]

/-- A payout added once per item of a list sums to the payout times its length. -/
theorem sum_payouts {α : Type} (l : List α) (p : Currency) :
    ((l.map fun _ => p).map Currency.toNat).sum = l.length * p.toNat := by
  simp [List.map_const']

/-- The turn of the contract loop computes `contractLocked`, or panics once a sum reaches
`2^128`. -/
theorem lockedOf_eq (fc : FileContract) :
    (lockedOf ownsAddress fc).map Currency.toNat =
      if contractLocked ownsAddress fc < 2 ^ 128 then some (contractLocked ownsAddress fc)
      else none := by
  unfold lockedOf contractLocked
  simp only [foldlM_add_eq, sum_payouts, Currency.toNat_zero, zero_add,
    ← List.countP_eq_length_filter, Option.bind_eq_bind, -Nat.reducePow]
  set nv := fc.validProofOutputs.countP fun sco => ownsAddress sco.address
  set nm := fc.missedProofOutputs.countP fun sco => ownsAddress sco.address
  have hmax : fc.payout.toNat * max nv nm = max (nv * fc.payout.toNat) (nm * fc.payout.toNat) := by
    rw [Nat.mul_comm nv, Nat.mul_comm nm, Nat.mul_max_mul_left]
  rw [hmax]
  by_cases hv : nv * fc.payout.toNat < 2 ^ 128
  · by_cases hm : nm * fc.payout.toNat < 2 ^ 128
    · simp only [hv, hm, if_true, Option.some_bind, max_lt_iff, and_self, Option.pure_def,
        Option.map_some', Currency.toNat_ofNat hv, Currency.toNat_ofNat hm, -Nat.reducePow]
      split_ifs <;>
        simp only [Currency.toNat_ofNat hv, Currency.toNat_ofNat hm, Option.some.injEq] <;> omega
    · rw [if_pos hv, if_neg hm, if_neg fun h => hm (lt_of_le_of_lt (le_max_right _ _) h)]
      rfl
  · rw [if_neg hv, if_neg fun h => hv (lt_of_le_of_lt (le_max_left _ _) h)]
    rfl

/-- The contract loop adds up what each contract locks, or panics once a sum reaches `2^128`. -/
theorem locked_eq (fcs : List FileContract) (c : Currency) :
    (fcs.foldlM (fun locked fc => (lockedOf ownsAddress fc).bind locked.add) c).map
        Currency.toNat =
      if c.toNat + (fcs.map (contractLocked ownsAddress)).sum < 2 ^ 128
      then some (c.toNat + (fcs.map (contractLocked ownsAddress)).sum) else none := by
  induction fcs generalizing c with
  | nil => rw [List.map_nil, List.sum_nil, Nat.add_zero, if_pos c.toNat_lt]; rfl
  | cons fc fcs ih =>
    have hfc := @lockedOf_eq ownsAddress fc
    simp only [List.foldlM_cons, List.map_cons, List.sum_cons, Option.bind_eq_bind]
    rcases hl : lockedOf ownsAddress fc with _ | x
    · rw [hl] at hfc
      split_ifs at hfc with h
      · cases hfc
      · rw [if_neg (by omega)]; rfl
    · rw [hl] at hfc
      split_ifs at hfc with h
      · have hx : x.toNat = contractLocked ownsAddress fc := by simpa using hfc
        by_cases hc : c.toNat + x.toNat < 2 ^ 128
        · rw [Option.some_bind, show c.add x = some (Currency.ofNat (c.toNat + x.toNat)) from
            if_pos hc, Option.some_bind, ih, Currency.toNat_ofNat hc, hx, Nat.add_assoc]
        · rw [Option.some_bind, show c.add x = none from if_neg hc, if_neg (by omega)]; rfl
      · cases hfc

end Loops

/-! ## The labels -/

/-- `share` names `none` exactly the count zero. -/
theorem share_none {o t : ℕ} : share o t = "none" ↔ o = 0 := by
  unfold share
  split_ifs <;> simp_all

/-- `share` names `all` exactly a positive count of every item. -/
theorem share_all {o t : ℕ} : share o t = "all" ↔ 0 < o ∧ o = t := by
  unfold share
  split_ifs <;> simp_all <;> omega

/-- `share` names `some` exactly a positive count of fewer than every item. -/
theorem share_some {o t : ℕ} : share o t = "some" ↔ 0 < o ∧ o < t := by
  unfold share
  split_ifs <;> simp_all
  omega

/-! ## The report -/

/-- What the wallet receives is part of the value of the transaction. -/
theorem received_le_value (ownsAddress : Address → Bool) (txn : TxpoolTransaction) :
    ((txn.siacoinOutputs.filter fun sco => ownsAddress sco.address).map (·.value.toNat)).sum ≤
      txn.value := by
  have := ((List.filter_sublist (p := fun sco => ownsAddress sco.address)
    txn.siacoinOutputs).map (·.value.toNat)).sum_le_sum fun _ _ => Nat.zero_le _
  unfold TxpoolTransaction.value
  omega

/-- **`Annotate` reports `report`, and panics exactly when the value of the transaction or
the locked amount reaches `2^128`.** -/
theorem annotate_refines (transactionID : TxpoolTransaction → TransactionID)
    (unlockHash : UnlockConditions → Address) (txn : TxpoolTransaction)
    (ownsAddress : Address → Bool) :
    (annotate transactionID unlockHash txn ownsAddress).map PoolTransaction.toReport =
      if txn.value < 2 ^ 128 ∧ (report unlockHash txn ownsAddress).locked < 2 ^ 128
      then some (report unlockHash txn ownsAddress) else none := by
  unfold annotate
  rw [totalValue_eq]
  by_cases hv : txn.value < 2 ^ 128
  swap
  · rw [if_neg hv, if_neg (show ¬(txn.value < 2 ^ 128 ∧ _) from fun h => hv h.1)]; rfl
  rw [if_pos hv]
  simp only [hv, true_and, Option.bind_eq_bind, Option.some_bind, share_none, share_all,
    share_some, ne_eq, pure, PoolTransaction.toReport]
  unfold report
  set ownedIn := txn.siacoinInputs.countP fun sci => ownsAddress (unlockHash sci.unlockConditions)
  set ownedOut := txn.siacoinOutputs.countP fun sco => ownsAddress sco.address
  have hinle : ownedIn ≤ txn.siacoinInputs.length := List.countP_le_length _
  rcases Nat.eq_zero_or_pos ownedIn with h0 | hpos
  · rcases Nat.eq_zero_or_pos ownedOut with h0' | hpos'
    · -- unrelated
      simp only [h0, h0', and_self, if_true, Option.map_some', PoolTransaction.toReport,
        if_pos (Nat.two_pow_pos 128)]
      rw [Currency.toNat_zero]
    · -- receive
      have hrec := (received_le_value ownsAddress txn).trans_lt hv
      simp only [h0, hpos'.ne', and_false, false_and, if_false, lt_irrefl, not_false_eq_true,
        and_self, if_true, foldlM_add_eq, List.map_map, Function.comp_def]
      rw [Currency.toNat_zero, zero_add, if_pos hrec, Option.some_bind]
      simp only [Option.map_some', PoolTransaction.toReport, Currency.toNat_ofNat hrec,
        if_pos (Nat.two_pow_pos 128)]
      rw [Currency.toNat_zero]
  rcases hinle.lt_or_eq with hlt | hall
  swap
  · -- all inputs owned
    simp only [hpos.ne', hpos, false_and, if_false, true_and, if_pos hall, Option.map_some',
      PoolTransaction.toReport, Currency.toNat_ofNat hv, if_pos (Nat.two_pow_pos 128)]
    rw [Currency.toNat_zero]
  rcases Nat.eq_zero_or_pos txn.fileContracts.length with hfc | hfc
  · -- some inputs owned, no contract
    simp only [hpos.ne', hpos, hlt.ne, hlt, hfc, false_and, and_false, if_false, and_self, if_true,
      lt_irrefl, Option.map_some', PoolTransaction.toReport, if_pos (Nat.two_pow_pos 128)]
    rw [Currency.toNat_zero]
  -- some inputs owned, with contracts
  have hl := @locked_eq ownsAddress txn.fileContracts Currency.zero
  rw [Currency.toNat_zero, zero_add] at hl
  simp only [hpos.ne', hpos, hlt.ne, hlt, hfc.ne', hfc, false_and, and_false, if_false, and_self,
    if_true]
  rcases hx : txn.fileContracts.foldlM (fun locked fc => (lockedOf ownsAddress fc).bind locked.add)
    Currency.zero with _ | l <;> rw [hx] at hl <;> split_ifs at hl with h
  · cases hl
  · simp only [hx, if_neg h, Option.none_bind, Option.map_none']
  · simp only [hx, Option.some_bind, Option.map_some', PoolTransaction.toReport,
      ← Option.some.inj hl, if_pos l.toNat_lt]
    rw [Currency.toNat_zero]
  · cases hl

/-- A contract of payout 7 with two owned valid proof outputs and one owned missed one, in a
transaction that spends one owned input of two, locks 14. -/
example :
    (annotate (fun _ => 0) (fun uc => BitVec.ofNat 256 uc.timelock.toNat)
      ⟨[⟨0, ⟨1, [], 1⟩⟩, ⟨0, ⟨2, [], 1⟩⟩], [],
        [⟨0, 0, 0, 0, Currency.ofNat 7, [⟨Currency.ofNat 3, 1⟩, ⟨Currency.ofNat 4, 1⟩],
          [⟨Currency.ofNat 7, 1⟩], 0, 0⟩], [], [], [], []⟩
      (fun a => a = 1)).map PoolTransaction.toReport = some ⟨"contract", 0, 0, 14⟩ := by
  rfl

end Events

end SiaSatellite
