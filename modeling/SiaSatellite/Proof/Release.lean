import SiaSatellite.Proof.WalletRuns

/-!
# Releasing what a funding call spent

Each funding routine has a call that is meant to undo its records. `Release` removes ids from
`w.used`, where `Fund` reserved the outputs its inputs spend; `ReleaseInputs` deletes ids from
the spent-output table, where `FundTransaction` marked the outputs its parent spends and the
parent's own output. Both are loops of point deletions, so one lemma (`foldl_delete`) says what
each leaves: the ids it visits are cleared and every other id reads as before. The ids they
visit are not those the funding call recorded.

* `release_after_fund`: **after a successful `Fund`, `Release` of any transaction set leaves
  each input `Fund` added reserved** unless its id is the id of an output of the set. `Release`
  visits the ids of the outputs a set creates, not of those its inputs spend.
* `releaseInputs_after_fundTransaction`: after a successful `FundTransaction`, `ReleaseInputs`
  of the caller's transaction frees the parent's output, and an output the parent spends only
  when an input of the caller's transaction or of a parent the pool returns for it spends it.
-/

namespace SiaSatellite

namespace Wallet

open CoreTypes

variable {K σ : Type}

/-- A run of point deletions from a table read by `get`: each id it deletes reads `d`
afterwards, and every other id reads as before. -/
theorem foldl_delete {β : Type} {get : σ → Hash256 → β} {d : β} {del : Hash256 → σ → σ}
    (hself : ∀ id w, get (del id w) id = d)
    (hother : ∀ {id id'} w, id' ≠ id → get (del id w) id' = get w id')
    (ids : List Hash256) (w : σ) (id : Hash256) :
    get (ids.foldl (fun w id => del id w) w) id = if id ∈ ids then d else get w id := by
  induction ids generalizing w with
  | nil => simp
  | cons x ids ih =>
    rw [List.foldl_cons, ih]
    by_cases hx : id = x
    · subst hx
      simp [hself]
    · simp [hx, hother w hx]

/-! ## `Release` after `Fund` -/

/-- The contract of `removeSpentOutput`: it unreserves its id and no other. -/
structure ReleaseEnv.RemoveTable (E : ReleaseEnv K σ) : Prop where
  remove_self : ∀ id w, E.used (E.removeSpentOutput id w) id = false
  remove_other : ∀ {id id'} w, id' ≠ id → E.used (E.removeSpentOutput id w) id' = E.used w id'

section Release

variable {E : ReleaseEnv K σ}

/-- `Release` unreserves the ids of the outputs of its set and leaves every other id. -/
theorem release_used (hr : E.RemoveTable) (txnSet : List Transaction) (w : σ) (id : Hash256) :
    E.used (release E txnSet w) id = if id ∈ E.releasedIDs txnSet then false else E.used w id := by
  have : release E txnSet w =
      (E.releasedIDs txnSet).foldl (fun w id => E.removeSpentOutput id w) w := by
    simp only [release, ReleaseEnv.releasedIDs, List.flatMap, List.foldl_flatten, List.foldl_map]
  rw [this]
  exact foldl_delete hr.remove_self hr.remove_other _ _ _

/-- **`Release` does not release what `Fund` reserved.** After a successful `Fund`, `Release` of
any transaction set leaves each input `Fund` added reserved exactly when its id is not the id of
an output of the set. -/
theorem release_after_fund (hu : E.toFundEnv.UsedTable) (hr : E.RemoveTable) {w : σ}
    {txn : Transaction} {amount : Currency} {r} (h : (fund E.toFundEnv w txn amount).1 = .ok r)
    (txnSet : List Transaction) :
    ∃ ins, (fund E.toFundEnv w txn amount).2.1.siacoinInputs = txn.siacoinInputs ++ ins ∧
      ∀ i ∈ ins, E.used (release E txnSet (fund E.toFundEnv w txn amount).2.2) i.parentID =
        decide (i.parentID ∉ E.releasedIDs txnSet) := by
  obtain ⟨es, txn1, w1, -, htx, ha⟩ := fund_ok_inputs h
  obtain ⟨ins, hins, hfrom⟩ := addFundingInputs_inputs (E := E.toFundEnv) es txn1 w1
  have hmarks := (addFundingInputs_marks hu (by rw [ha])).2
  rw [ha] at hins hmarks
  refine ⟨ins, htx ▸ hins, fun i hi => ?_⟩
  obtain ⟨s, hs, hk, hid⟩ := hfrom i hi
  rw [release_used hr, hid]
  by_cases hm : s.id ∈ E.releasedIDs txnSet
  · simp [hm]
  · simp [hm, hmarks s hs hk]

end Release

/-- The wallet of `demoReserveEnv`, in which an output's id is one more than its index, plus
100 per input of its transaction, and `removeSpentOutput` drops the id from the reserved list. -/
def demoReleaseEnv : ReleaseEnv Unit DemoWallet :=
  { demoReserveEnv with
    siacoinOutputID := fun t i => BitVec.ofNat 256 (100 * t.siacoinInputs.length + i + 1)
    removeSpentOutput := fun id w => { w with used := w.used.filter (· ≠ id) } }

/-- Funding 6 SC spends output `1` and adds a change output, `101`. Releasing the funded
transaction removes `101` and leaves `1` reserved, so funding 6 SC again fails. -/
theorem release_after_fund_demo :
    (fund demoReleaseEnv.toFundEnv ⟨[], 0⟩ ⟨[], []⟩ (Currency.ofNat 6)).2.1 =
      ⟨[⟨1, demoUnlockConditions 0⟩], [⟨Currency.ofNat 1, 0⟩]⟩ ∧
    (fund demoReleaseEnv.toFundEnv (release demoReleaseEnv [⟨[⟨1, demoUnlockConditions 0⟩],
      [⟨Currency.ofNat 1, 0⟩]⟩] (fund demoReleaseEnv.toFundEnv ⟨[], 0⟩ ⟨[], []⟩
        (Currency.ofNat 6)).2.2) ⟨[], []⟩ (Currency.ofNat 6)).1 = .error .insufficientBalance ∧
    ∃ ins, (fund demoReleaseEnv.toFundEnv ⟨[], 0⟩ ⟨[], []⟩ (Currency.ofNat 6)).2.1.siacoinInputs =
        [] ++ ins ∧
      ∀ i ∈ ins, demoReleaseEnv.used (release demoReleaseEnv [⟨[⟨1, demoUnlockConditions 0⟩],
        [⟨Currency.ofNat 1, 0⟩]⟩] (fund demoReleaseEnv.toFundEnv ⟨[], 0⟩ ⟨[], []⟩
          (Currency.ofNat 6)).2.2) i.parentID =
        decide (i.parentID ∉ demoReleaseEnv.releasedIDs [⟨[⟨1, demoUnlockConditions 0⟩],
          [⟨Currency.ofNat 1, 0⟩]⟩]) := by
  have h : (fund demoReleaseEnv.toFundEnv ⟨[], 0⟩ ⟨[], []⟩ (Currency.ofNat 6)).1 = .ok ([], [1]) :=
    rfl
  exact ⟨rfl, rfl, release_after_fund
    ⟨fun h => by cases h; simp [demoReleaseEnv, demoReserveEnv, demoFundEnv],
      fun h hid => by
        cases h; simp [demoReleaseEnv, demoReserveEnv, demoFundEnv] at hid ⊢; exact .inr hid⟩
    ⟨fun id w => by simp [demoReleaseEnv, demoReserveEnv, demoFundEnv],
      fun w hne => by simp [demoReleaseEnv, demoReserveEnv, demoFundEnv, hne]⟩
    h _⟩

/-! ## `ReleaseInputs` after `FundTransaction` -/

/-- The contract of `dbDeleteSpentOutput`: it unmarks its id and no other. -/
structure ReleaseInputsEnv.DeleteTable (E : ReleaseInputsEnv σ) : Prop where
  delete_self : ∀ id w, E.spentOutput (E.deleteSpentOutput id w) id = none
  delete_other : ∀ {id id'} w, id' ≠ id →
    E.spentOutput (E.deleteSpentOutput id w) id' = E.spentOutput w id'

section ReleaseInputs

variable {E : ReleaseInputsEnv σ} {w : σ} {txn : Transaction} {amount : Currency}
  {height : UInt64}

/-- `ReleaseInputs` unmarks the outputs that the transaction and the parents the pool returns
for it spend, and leaves every other id. -/
theorem releaseInputs_spentOutput (hd : E.DeleteTable) (txn : Transaction) (w : σ)
    (id : Hash256) :
    E.spentOutput (releaseInputs E txn w) id =
      if id ∈ E.releasedIDs txn then none else E.spentOutput w id := by
  have : releaseInputs E txn w =
      (E.releasedIDs txn).foldl (fun w id => E.deleteSpentOutput id w) w := by
    simp only [releaseInputs, ReleaseInputsEnv.releasedIDs, List.flatMap, List.foldl_flatten,
      List.foldl_map]
  rw [this]
  exact foldl_delete hd.delete_self hd.delete_other _ _ _

/-- A successful `FundTransaction` of a positive amount adds one input to the caller's
transaction, the parent's output. -/
theorem fundTransaction_ok_caller (hch : E.consensusHeight = .ok height)
    (hpos : 0 < amount.toNat) {parent : Transaction}
    (h : (fundTransaction E.toFundTransactionEnv w txn amount).1 = .ok parent) :
    ∃ puc, (fundTransaction E.toFundTransactionEnv w txn amount).2.1.siacoinInputs =
      txn.siacoinInputs ++ [⟨E.siacoinOutputID parent 0, puc⟩] := by
  have hne : amount.toNat ≠ 0 := by omega
  rcases hdt : E.dustThreshold with m | dt
  · simp [fundTransaction, hne, hdt] at h
  rcases hout : E.siacoinOutputs with m | outputs
  · simp [fundTransaction, hne, hdt, hch, hout] at h
  obtain ⟨_, _, _, puc, _, _, -, -, -, -, -, hfin⟩ :=
    fundTransaction_ok_cases hdt hch hout hpos (Prod.ext h rfl)
  obtain ⟨rfl, htx⟩ := finishParent_ok (congrArg (·.1) hfin)
  exact ⟨puc, by rw [← congrArg (·.2.1) hfin, htx]⟩

/-- **`ReleaseInputs` frees what `FundTransaction` marked only through the pool.** After a
successful `FundTransaction` of a positive amount, the caller's transaction has gained one
input, the parent's output, and `ReleaseInputs` of it unmarks that output; each output the
parent spends stays marked at the call's height unless it is among the ids `ReleaseInputs`
visits: the inputs of the caller's transaction and of the parents the pool returns for it. -/
theorem releaseInputs_after_fundTransaction (hs : E.toFundTransactionEnv.SpentTable)
    (hd : E.DeleteTable) (hch : E.consensusHeight = .ok height) (hpos : 0 < amount.toNat)
    {parent : Transaction}
    (h : (fundTransaction E.toFundTransactionEnv w txn amount).1 = .ok parent) :
    ∃ puc, (fundTransaction E.toFundTransactionEnv w txn amount).2.1.siacoinInputs =
        txn.siacoinInputs ++ [⟨E.siacoinOutputID parent 0, puc⟩] ∧
      E.spentOutput (releaseInputs E (fundTransaction E.toFundTransactionEnv w txn amount).2.1
        (fundTransaction E.toFundTransactionEnv w txn amount).2.2)
          (E.siacoinOutputID parent 0) = none ∧
      ∀ i ∈ parent.siacoinInputs,
        E.spentOutput (releaseInputs E (fundTransaction E.toFundTransactionEnv w txn amount).2.1
          (fundTransaction E.toFundTransactionEnv w txn amount).2.2) i.parentID =
        if i.parentID ∈ E.releasedIDs (fundTransaction E.toFundTransactionEnv w txn amount).2.1
        then none else some height := by
  obtain ⟨puc, hcaller⟩ := fundTransaction_ok_caller hch hpos h
  refine ⟨puc, hcaller, ?_, fun i hi => ?_⟩
  · rw [releaseInputs_spentOutput hd, if_pos]
    simp [ReleaseInputsEnv.releasedIDs, hcaller]
  · obtain ⟨_, _, _, spent, _, _, -, hmem, hfin⟩ := fundTransaction_ok_finish hch h hi
    have hmark : E.spentOutput (fundTransaction E.toFundTransactionEnv w txn amount).2.2
        i.parentID = some height := by
      rw [← hfin]
      exact finishParent_spentOutput hs (hfin ▸ h) hmem
    rw [releaseInputs_spentOutput hd, hmark]

end ReleaseInputs

/-- The wallet of `demoSpentTableEnv` over a pool that holds no transaction, whose deletions
drop the id from the spent-output table. -/
def demoReleaseInputsEnv : ReleaseInputsEnv (List (Hash256 × UInt64)) :=
  { demoSpentTableEnv with
    transactionParents := fun _ => []
    deleteSpentOutput := fun id w => w.filter (·.1 ≠ id) }

/-- Funding 7 SC spends output `1` through a parent whose output is `101`. Releasing the
caller's transaction, which the pool does not hold, unmarks `101` only; funding 5 SC next
skips output `1` and spends output `2`. -/
theorem releaseInputs_after_fundTransaction_demo :
    (fundTransaction demoReleaseInputsEnv.toFundTransactionEnv [] ⟨[], []⟩
      (Currency.ofNat 7)).2.1 = ⟨[⟨101, demoUnlockConditions 0⟩], []⟩ ∧
    (fundTransaction demoReleaseInputsEnv.toFundTransactionEnv
      (releaseInputs demoReleaseInputsEnv ⟨[⟨101, demoUnlockConditions 0⟩], []⟩
        (fundTransaction demoReleaseInputsEnv.toFundTransactionEnv [] ⟨[], []⟩
          (Currency.ofNat 7)).2.2) ⟨[], []⟩ (Currency.ofNat 5)).1 =
      .ok ⟨[⟨2, demoUnlockConditions 0⟩], [⟨Currency.ofNat 5, 0⟩]⟩ ∧
    ∃ puc, (fundTransaction demoReleaseInputsEnv.toFundTransactionEnv [] ⟨[], []⟩
        (Currency.ofNat 7)).2.1.siacoinInputs = [] ++ [⟨101, puc⟩] ∧
      demoReleaseInputsEnv.spentOutput (releaseInputs demoReleaseInputsEnv
        ⟨[⟨101, demoUnlockConditions 0⟩], []⟩ (fundTransaction
          demoReleaseInputsEnv.toFundTransactionEnv [] ⟨[], []⟩ (Currency.ofNat 7)).2.2) 101 =
        none ∧
      ∀ i ∈ [(⟨1, demoUnlockConditions 0⟩ : SiacoinInput)],
        demoReleaseInputsEnv.spentOutput (releaseInputs demoReleaseInputsEnv
          ⟨[⟨101, demoUnlockConditions 0⟩], []⟩ (fundTransaction
            demoReleaseInputsEnv.toFundTransactionEnv [] ⟨[], []⟩ (Currency.ofNat 7)).2.2)
          i.parentID =
        if i.parentID ∈ demoReleaseInputsEnv.releasedIDs ⟨[⟨101, demoUnlockConditions 0⟩], []⟩
        then none else some 10 := by
  have h : (fundTransaction demoReleaseInputsEnv.toFundTransactionEnv [] ⟨[], []⟩
      (Currency.ofNat 7)).1 = .ok ⟨[⟨1, demoUnlockConditions 0⟩], [⟨Currency.ofNat 7, 0⟩]⟩ := rfl
  exact ⟨rfl, rfl, releaseInputs_after_fundTransaction
    ⟨fun h => by cases h; simp [demoReleaseInputsEnv, demoSpentTableEnv],
      fun h hne => by cases h; simp [demoReleaseInputsEnv, demoSpentTableEnv, Ne.symm hne]⟩
    ⟨fun id w => by simp [demoReleaseInputsEnv, demoSpentTableEnv, List.find?_filter],
      fun {id id'} w hne => by
        simp only [demoReleaseInputsEnv, demoSpentTableEnv, List.find?_filter]
        congr 2
        funext a
        by_cases ha : a.1 = id' <;> simp [ha, hne]⟩
    rfl (by decide) h⟩

end Wallet

end SiaSatellite
