import SiaSatellite.Proof.AcceptStep

/-!
# Miner fees and the 128-bit sum

Both fee checks add the declared miner fees of a set with `Currency.Add`, which panics once
the sum reaches `2^128`, and they do it before the callback has validated anything. No
check bounds the fees first.

* `setFees_toNat`: the loop's sum is the exact sum of the fees below `2^128`, and the
  panic from `2^128` on.
* `acceptTransactionSet_fee_overflow`: a candidate that passes the confirmed filter and
  `checkTransactionSetComposition`, and whose unconfirmed fees add up to `2^128` or more,
  ends the call in the panic.
* `mergeConflicts_fee_overflow`: the same for the superset a merge forms, whose fees include
  those of the pooled sets it merges: a candidate whose own fees pass can still end in the
  panic there.
-/

namespace SiaSatellite

variable {T : Type} {C : Core T} {P : Policy T} {mo : MapOrder} {tp : TransactionPool T}

open TransactionPool

/-- **The fee loop's sum.** -/
theorem setFees_toNat (ts : List T) :
    (setFees C ts).map Currency.toNat =
      if ((ts.flatMap C.minerFees).map Currency.toNat).sum < 2 ^ 128
      then some ((ts.flatMap C.minerFees).map Currency.toNat).sum else none := by
  simpa using foldlM_add_toNat (ts.flatMap C.minerFees) Currency.zero

theorem setFees_eq_none {ts : List T}
    (h : 2 ^ 128 ≤ ((ts.flatMap C.minerFees).map Currency.toNat).sum) : setFees C ts = none := by
  have : (setFees C ts).map Currency.toNat = _ := setFees_toNat ts
  rw [if_neg (not_lt.2 h)] at this
  exact Option.map_eq_none'.1 this

/-- With the required fee computed, fees of `2^128` or more make the check panic. -/
theorem checkMinerFees_overflow {ts : List T} {n : ℕ}
    (hreq : ((requiredFeesToExtendTpool P tp).mul64 n).isSome)
    (hsum : 2 ^ 128 ≤ ((ts.flatMap C.minerFees).map Currency.toNat).sum) :
    checkMinerFees C P tp ts n = .error .overflow := by
  obtain ⟨r, hr⟩ := Option.isSome_iff_exists.1 hreq
  simp [checkMinerFees, hr, setFees_eq_none hsum]

theorem ne_nil_of_fees {ts : List T}
    (hsum : 2 ^ 128 ≤ ((ts.flatMap C.minerFees).map Currency.toNat).sum) : ts ≠ [] := by
  rintro rfl; simp at hsum

/-- **Fees of `2^128` or more panic.** A candidate that gets past the confirmed filter and
`checkTransactionSetComposition`, with a required fee that `Mul64` computes, ends the call
in `Currency.Add`'s panic when its unconfirmed transactions declare fees of `2^128` or more
in total, whatever the callback would say. -/
theorem acceptTransactionSet_fee_overflow (confirmed : TransactionID → Bool) (ts : List T)
    (txnFn : TxnFn T) {n : ℕ}
    (hcomp : checkTransactionSetComposition C P tp (ts.filter fun t => !confirmed (C.id t)) = .ok n)
    (hreq : ((requiredFeesToExtendTpool P tp).mul64 n).isSome)
    (hsum : 2 ^ 128 ≤
      (((ts.filter fun t => !confirmed (C.id t)).flatMap C.minerFees).map Currency.toNat).sum) :
    acceptTransactionSet C P mo confirmed tp ts txnFn = (.error .overflow, tp) := by
  have hu := ne_nil_of_fees hsum
  have hts : ts ≠ [] := by rintro rfl; exact hu rfl
  unfold acceptTransactionSet
  simp only [List.length_eq_zero, hts, hu, if_false, hcomp, checkMinerFees_overflow hreq hsum]

/-- One transaction declaring two fees of `2^127`, sent to an empty pool, panics. -/
theorem acceptTransactionSet_two_large_fees :
    checkTransactionSetComposition demoCore demoPolicy (TransactionPool.empty 0)
        (([3] : List Hash256).filter fun t => !(fun _ => false) (demoCore.id t)) = .ok 158 ∧
      ((requiredFeesToExtendTpool demoPolicy (TransactionPool.empty 0 : TransactionPool Hash256)).mul64
        158).isSome ∧
      2 ^ 128 ≤ (((([3] : List Hash256).filter fun t => !(fun _ => false) (demoCore.id t)).flatMap
        demoCore.minerFees).map Currency.toNat).sum ∧
      acceptTransactionSet demoCore demoPolicy MapOrder.keep (fun _ => false)
        (TransactionPool.empty 0) [3] demoTxnFn = (.error .overflow, TransactionPool.empty 0) :=
  have h1 : checkTransactionSetComposition demoCore demoPolicy (TransactionPool.empty 0)
      (([3] : List Hash256).filter fun t => !(fun _ => false) (demoCore.id t)) = .ok 158 := rfl
  have h2 : ((requiredFeesToExtendTpool demoPolicy
      (TransactionPool.empty 0 : TransactionPool Hash256)).mul64 158).isSome := rfl
  have h3 : 2 ^ 128 ≤ (((([3] : List Hash256).filter fun t => !(fun _ => false)
      (demoCore.id t)).flatMap demoCore.minerFees).map Currency.toNat).sum := by decide
  ⟨h1, h2, h3, acceptTransactionSet_fee_overflow _ _ _ h1 h2 h3⟩

/-- **The merge panics on the superset's fees.** Once the superset of the merged sets and the
remainder passes `checkTransactionSetComposition`, fees of `2^128` or more in it end the call
in the panic, before the callback runs. -/
theorem mergeConflicts_fee_overflow (cm : AList (fun _ : TransactionID => TransactionSetID))
    (F : List T) (txnFn : TxnFn T) {n : ℕ}
    (hcomp : checkTransactionSetComposition C P tp
      ((mo.order (supersetKeys cm)).flatMap tp.setOf ++ F) = .ok n)
    (hreq : ((requiredFeesToExtendTpool P tp).mul64 n).isSome)
    (hsum : 2 ^ 128 ≤ ((((mo.order (supersetKeys cm)).flatMap tp.setOf ++ F).flatMap
      C.minerFees).map Currency.toNat).sum) :
    mergeConflicts C P mo tp cm F txnFn = (.error .overflow, tp) := by
  unfold mergeConflicts
  simp only [hcomp, checkMinerFees_overflow hreq hsum]

/-- The concrete pool holding transaction `4`, with its fee of `2^127`. -/
def demoPool4 : TransactionPool Hash256 :=
  (acceptTransactionSet demoCore demoPolicy MapOrder.keep (fun _ => false)
    (TransactionPool.empty 0) [4] demoTxnFn).2

/-- Transaction `5` declares one fee of `2^127`, which passes the candidate's own check, and
spends the output of `4`; merging it with the pooled set `[4]` panics. -/
theorem demoPool4_merge_overflow :
    (setFees demoCore [5]).isSome ∧
      acceptTransactionSet demoCore demoPolicy MapOrder.keep (fun _ => false) demoPool4 [5]
        demoTxnFn = (.error .overflow, demoPool4) := by
  refine ⟨rfl, ?_⟩
  rw [show acceptTransactionSet demoCore demoPolicy MapOrder.keep (fun _ => false) demoPool4 [5]
      demoTxnFn = handleConflicts demoCore demoPolicy MapOrder.keep demoPool4 [5]
        [demoCore.setID [4]] demoTxnFn from rfl, handleConflicts]
  have h1 : checkTransactionSetComposition demoCore demoPolicy demoPool4
      ((MapOrder.keep.order (supersetKeys (conflictMapOf demoCore demoPool4 [demoCore.setID [4]]))).flatMap
        demoPool4.setOf ++ [5]) = .ok 308 := rfl
  show mergeConflicts demoCore demoPolicy MapOrder.keep demoPool4
    (conflictMapOf demoCore demoPool4 [demoCore.setID [4]]) [5] demoTxnFn = _
  exact mergeConflicts_fee_overflow _ [5] demoTxnFn h1 rfl (by decide)

end SiaSatellite
