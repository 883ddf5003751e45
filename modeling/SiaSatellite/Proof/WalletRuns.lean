import SiaSatellite.Proof.Wallet

/-!
# Funding calls in a row: no output spent twice

The wallet keeps what its funding calls spent, so that the next call does not spend it
again: `Fund` and `Reserve` in `w.used` through `insertSpentOutput`, `FundTransaction` in the
spent-output table through `dbPutSpentOutput`. Neither store is in the repository; each
result assumes only that a store reads back what was written (`FundEnv.UsedTable`,
`FundTransactionEnv.SpentTable`).

* `fund_no_reuse`, `fundTransaction_no_respend`: **two successful calls in a row spend
  disjoint outputs**, `FundTransaction`'s within `RespendTimeout` blocks.
* `reserve_exclusive`: the outputs a successful `Reserve` reserves are reserved by no later
  `Reserve` and spent by no later `Fund`.
-/

namespace SiaSatellite

namespace Wallet

open CoreTypes

variable {K σ : Type}

/-- The contract of `w.used` that `insertSpentOutput` keeps: the id it records is reserved,
and every id reserved before stays reserved. -/
structure FundEnv.UsedTable (E : FundEnv K σ) : Prop where
  insert_self : ∀ {id w w'}, E.insertSpentOutput id w = .ok w' → E.used w' id = true
  insert_mono : ∀ {id id' w w'}, E.insertSpentOutput id w = .ok w' → E.used w id' = true →
    E.used w' id' = true

section Reserve

variable {E : FundEnv K σ}

/-- Every input the input loop adds, whether it ends or fails, spends a funding element whose
address has a key. -/
theorem addFundingInputs_inputs (es : List SiacoinElement) (txn : Transaction) (w : σ) :
    ∃ ins, (addFundingInputs E es txn w).2.1.siacoinInputs = txn.siacoinInputs ++ ins ∧
      ∀ i ∈ ins, ∃ sce ∈ es, sce.siacoinOutput.address ∈ E.keys ∧ i.parentID = sce.id := by
  induction es generalizing txn w with
  | nil => exact ⟨[], by simp [addFundingInputs], by simp⟩
  | cons sce es ih =>
    cases hk : E.keys.lookup sce.siacoinOutput.address with
    | none =>
      obtain ⟨ins, hins, hfrom⟩ := ih txn w
      refine ⟨ins, by simpa [addFundingInputs, hk] using hins, fun i hi => ?_⟩
      obtain ⟨e, he, hek, hid⟩ := hfrom i hi
      exact ⟨e, List.mem_cons_of_mem _ he, hek, hid⟩
    | some key =>
      have hsk : sce.siacoinOutput.address ∈ E.keys := mem_of_lookup_eq_some hk
      cases hi : E.insertSpentOutput sce.id w with
      | error m =>
        refine ⟨[⟨sce.id, E.standardUnlockConditions key⟩], by simp [addFundingInputs, hk, hi], ?_⟩
        rintro i (_ | ⟨_, ⟨⟩⟩)
        exact ⟨sce, List.mem_cons_self _ _, hsk, rfl⟩
      | ok w1 =>
        obtain ⟨ins, hins, hfrom⟩ :=
          ih { txn with siacoinInputs := txn.siacoinInputs ++ [⟨sce.id, E.standardUnlockConditions key⟩] } w1
        refine ⟨⟨sce.id, E.standardUnlockConditions key⟩ :: ins, by simp [addFundingInputs, hk, hi, hins],
          ?_⟩
        rintro i (_ | ⟨_, hi⟩)
        · exact ⟨sce, List.mem_cons_self _ _, hsk, rfl⟩
        · obtain ⟨e, he, hek, hid⟩ := hfrom i hi
          exact ⟨e, List.mem_cons_of_mem _ he, hek, hid⟩

/-- A successful input loop keeps every reservation and reserves each funding element whose
address has a key. -/
theorem addFundingInputs_marks (hu : E.UsedTable) {es : List SiacoinElement} {txn : Transaction}
    {w : σ} (h : (addFundingInputs E es txn w).1 = .ok ()) :
    (∀ id, E.used w id = true → E.used (addFundingInputs E es txn w).2.2 id = true) ∧
      ∀ sce ∈ es, sce.siacoinOutput.address ∈ E.keys →
        E.used (addFundingInputs E es txn w).2.2 sce.id = true := by
  induction es generalizing txn w with
  | nil => exact ⟨fun _ h => h, by simp⟩
  | cons sce es ih =>
    cases hk : E.keys.lookup sce.siacoinOutput.address with
    | none =>
      simp only [addFundingInputs, hk] at h ⊢
      obtain ⟨hmono, hmarks⟩ := ih h
      refine ⟨hmono, fun e he hek => ?_⟩
      rcases List.mem_cons.1 he with rfl | he
      · obtain ⟨_, hv⟩ := exists_lookup_of_mem hek
        simp [hk] at hv
      · exact hmarks e he hek
    | some key =>
      cases hi : E.insertSpentOutput sce.id w with
      | error m => simp [addFundingInputs, hk, hi] at h
      | ok w1 =>
        simp only [addFundingInputs, hk, hi] at h ⊢
        obtain ⟨hmono, hmarks⟩ := ih h
        refine ⟨fun id hid => hmono id (hu.insert_mono hi hid), fun e he hek => ?_⟩
        rcases List.mem_cons.1 he with rfl | he
        · exact hmono _ (hu.insert_self hi)
        · exact hmarks e he hek

/-- A successful `Fund` is a successful input loop, run on the caller's transaction with at
most a change output added, over funding elements that were not reserved when it started. -/
theorem fund_ok_inputs {w : σ} {txn : Transaction} {amount : Currency} {r}
    (h : (fund E w txn amount).1 = .ok r) :
    ∃ es txn1 w1, (∀ sce ∈ es, E.used w sce.id = false) ∧
      txn1.siacoinInputs = txn.siacoinInputs ∧
      addFundingInputs E es txn1 w1 = (.ok (), (fund E w txn amount).2.1, (fund E w txn amount).2.2) := by
  by_cases h0 : amount.toNat = 0
  · exact ⟨[], txn, w, by simp, rfl, by simp [addFundingInputs, fund, h0]⟩
  obtain ⟨es, t, change, w1, hsel, -, -, -, hfund⟩ := fund_ok_cases h (Nat.pos_of_ne_zero h0)
  have hfree : ∀ sce ∈ es, E.used w sce.id = false := fun sce hs => by
    have := (List.mem_filter.1 ((fundingElements_spec hsel).1.subset hs)).2
    simp only [Bool.not_or, Bool.and_eq_true, Bool.not_eq_true'] at this
    exact this.1
  refine ⟨es, { txn with siacoinOutputs := txn.siacoinOutputs ++ change }, w1, hfree, rfl, ?_⟩
  rw [hfund] at h ⊢
  unfold fundInputs at h ⊢
  rcases ha : addFundingInputs E es { txn with siacoinOutputs := txn.siacoinOutputs ++ change } w1
    with ⟨_ | u, txn', w'⟩
  · simp [ha] at h
  · rfl

/-- **`Fund` does not spend an output twice.** Two successful calls, the second on the state
the first left, add inputs that spend distinct outputs, for any second environment that reads
the same reservations: every output the first call spends is reserved by `insertSpentOutput`,
and the second call skips reserved outputs. -/
theorem fund_no_reuse {E₂ : FundEnv K σ} (hu : E.UsedTable) (hused : E₂.used = E.used)
    {w : σ} {txn txn₂ : Transaction} {amount amount₂ : Currency} {r r₂}
    (h₁ : (fund E w txn amount).1 = .ok r)
    (h₂ : (fund E₂ (fund E w txn amount).2.2 txn₂ amount₂).1 = .ok r₂) :
    ∃ ins₁ ins₂, (fund E w txn amount).2.1.siacoinInputs = txn.siacoinInputs ++ ins₁ ∧
      (fund E₂ (fund E w txn amount).2.2 txn₂ amount₂).2.1.siacoinInputs =
        txn₂.siacoinInputs ++ ins₂ ∧
      ∀ i ∈ ins₁, ∀ j ∈ ins₂, i.parentID ≠ j.parentID := by
  obtain ⟨es₁, txn1, w1, -, htx₁, ha₁⟩ := fund_ok_inputs h₁
  obtain ⟨es₂, txn2, w2, hfree, htx₂, ha₂⟩ := fund_ok_inputs h₂
  obtain ⟨ins₁, hins₁, hfrom₁⟩ := addFundingInputs_inputs (E := E) es₁ txn1 w1
  obtain ⟨ins₂, hins₂, hfrom₂⟩ := addFundingInputs_inputs (E := E₂) es₂ txn2 w2
  have hmarks := (addFundingInputs_marks hu (by rw [ha₁])).2
  rw [ha₁] at hins₁ hmarks
  rw [ha₂] at hins₂
  refine ⟨ins₁, ins₂, htx₁ ▸ hins₁, htx₂ ▸ hins₂, fun i hi j hj hij => ?_⟩
  obtain ⟨s₁, hs₁, hk₁, hid₁⟩ := hfrom₁ i hi
  obtain ⟨s₂, hs₂, -, hid₂⟩ := hfrom₂ j hj
  have := hfree s₂ hs₂
  rw [hused, ← hid₂, ← hij, hid₁, hmarks s₁ hs₁ hk₁] at this
  cases this

/-- A successful reserving loop keeps every reservation and reserves each of its ids. -/
theorem insertSpentOutputs_used (hu : E.UsedTable) {ids : List Hash256} {w : σ}
    (h : (insertSpentOutputs E ids w).1 = .ok ()) :
    (∀ id, E.used w id = true → E.used (insertSpentOutputs E ids w).2 id = true) ∧
      ∀ id ∈ ids, E.used (insertSpentOutputs E ids w).2 id = true := by
  induction ids generalizing w with
  | nil => exact ⟨fun _ h => h, by simp⟩
  | cons x ids ih =>
    cases hi : E.insertSpentOutput x w with
    | error m => simp [insertSpentOutputs, hi] at h
    | ok w1 =>
      simp only [insertSpentOutputs, hi] at h ⊢
      obtain ⟨hmono, hmarks⟩ := ih h
      refine ⟨fun id hid => hmono id (hu.insert_mono hi hid), fun id hid => ?_⟩
      rcases List.mem_cons.1 hid with rfl | hid
      · exact hmono _ (hu.insert_self hi)
      · exact hmarks id hid

/-- A successful `Reserve` found none of its ids reserved, and reserved them all. -/
theorem reserve_ok (hu : E.UsedTable) {ids : List Hash256} {w : σ}
    (h : (reserve E ids w).1 = .ok ()) :
    (∀ id ∈ ids, E.used w id = false) ∧ ∀ id ∈ ids, E.used (reserve E ids w).2 id = true := by
  unfold reserve at h ⊢
  rcases hf : ids.find? (E.used w) with _ | id
  · simp only [hf] at h ⊢
    rcases hi : insertSpentOutputs E ids w with ⟨_ | ⟨⟩, w1⟩
    · simp [hi] at h
    refine ⟨fun id hid => by simpa using List.find?_eq_none.1 hf id hid, ?_⟩
    have := (insertSpentOutputs_used hu (by rw [hi])).2
    rwa [hi] at this
  · simp [hf] at h

/-- **Reserved outputs are reserved once and not spent.** After a successful `Reserve`, a
second `Reserve` that succeeds names none of its ids, and a successful `Fund` adds no input
that spends one of them. -/
theorem reserve_exclusive (hu : E.UsedTable) {ids₁ : List Hash256} {w : σ}
    (h₁ : (reserve E ids₁ w).1 = .ok ()) :
    (∀ ids₂, (reserve E ids₂ (reserve E ids₁ w).2).1 = .ok () → ∀ id ∈ ids₁, id ∉ ids₂) ∧
    ∀ (txn : Transaction) (amount : Currency) r, (fund E (reserve E ids₁ w).2 txn amount).1 = .ok r →
      ∃ ins, (fund E (reserve E ids₁ w).2 txn amount).2.1.siacoinInputs =
          txn.siacoinInputs ++ ins ∧ ∀ i ∈ ins, i.parentID ∉ ids₁ := by
  have hmarked := (reserve_ok hu h₁).2
  refine ⟨fun ids₂ h₂ id h1 h2 => ?_, fun txn amount r hf => ?_⟩
  · have := (reserve_ok hu h₂).1 id h2
    rw [hmarked id h1] at this
    cases this
  · obtain ⟨es, txn1, w1, hfree, htx, ha⟩ := fund_ok_inputs hf
    obtain ⟨ins, hins, hfrom⟩ := addFundingInputs_inputs (E := E) es txn1 w1
    rw [ha] at hins
    refine ⟨ins, htx ▸ hins, fun i hi hid => ?_⟩
    obtain ⟨s, hs, -, hsid⟩ := hfrom i hi
    have := hfree s hs
    rw [← hsid, hmarked _ hid] at this
    cases this

end Reserve

/-- The demo wallet of `Fund` with a record that never fails. -/
def demoReserveEnv : FundEnv Unit DemoWallet :=
  { demoFundEnv with insertSpentOutput := fun id w => .ok { w with used := id :: w.used } }

/-- Funding 7 SC spends output `1` and reserves it; funding 5 SC next skips it and spends
output `2`. -/
theorem fund_no_reuse_demo :
    (fund demoReserveEnv ⟨[], 0⟩ ⟨[], []⟩ (Currency.ofNat 7)).2.1.siacoinInputs =
      [⟨1, demoUnlockConditions 0⟩] ∧
    (fund demoReserveEnv (fund demoReserveEnv ⟨[], 0⟩ ⟨[], []⟩ (Currency.ofNat 7)).2.2 ⟨[], []⟩
      (Currency.ofNat 5)).2.1.siacoinInputs = [⟨2, demoUnlockConditions 0⟩] ∧
    ∃ ins₁ ins₂, (fund demoReserveEnv ⟨[], 0⟩ ⟨[], []⟩ (Currency.ofNat 7)).2.1.siacoinInputs =
        [] ++ ins₁ ∧
      (fund demoReserveEnv (fund demoReserveEnv ⟨[], 0⟩ ⟨[], []⟩ (Currency.ofNat 7)).2.2
        ⟨[], []⟩ (Currency.ofNat 5)).2.1.siacoinInputs = [] ++ ins₂ ∧
      ∀ i ∈ ins₁, ∀ j ∈ ins₂, i.parentID ≠ j.parentID := by
  have h₁ : (fund demoReserveEnv ⟨[], 0⟩ ⟨[], []⟩ (Currency.ofNat 7)).1 = .ok ([], [1]) := rfl
  have h₂ : (fund demoReserveEnv (fund demoReserveEnv ⟨[], 0⟩ ⟨[], []⟩ (Currency.ofNat 7)).2.2
      ⟨[], []⟩ (Currency.ofNat 5)).1 = .ok ([], [2]) := rfl
  exact ⟨rfl, rfl, fund_no_reuse
    ⟨fun h => by cases h; simp [demoReserveEnv, demoFundEnv],
      fun h hid => by cases h; simp [demoReserveEnv, demoFundEnv] at hid ⊢; exact .inr hid⟩
    rfl h₁ h₂⟩

/-- Reserving output `1` refuses a second reservation of it, lets one of output `2` through,
and leaves a `Fund` of 5 SC to spend output `2`. -/
theorem reserve_exclusive_demo :
    (reserve demoReserveEnv [1] ⟨[], 0⟩).1 = .ok () ∧
    (reserve demoReserveEnv [1] (reserve demoReserveEnv [1] ⟨[], 0⟩).2).1 =
      .error (.alreadyReserved 1) ∧
    (fund demoReserveEnv (reserve demoReserveEnv [1] ⟨[], 0⟩).2 ⟨[], []⟩
      (Currency.ofNat 5)).2.1.siacoinInputs = [⟨2, demoUnlockConditions 0⟩] ∧
    (∀ id ∈ [(1 : Hash256)], id ∉ [(2 : Hash256)]) ∧
    ∃ ins, (fund demoReserveEnv (reserve demoReserveEnv [1] ⟨[], 0⟩).2 ⟨[], []⟩
        (Currency.ofNat 5)).2.1.siacoinInputs = [] ++ ins ∧ ∀ i ∈ ins, i.parentID ∉ [(1 : Hash256)] := by
  have hu : demoReserveEnv.UsedTable :=
    ⟨fun h => by cases h; simp [demoReserveEnv, demoFundEnv],
      fun h hid => by cases h; simp [demoReserveEnv, demoFundEnv] at hid ⊢; exact .inr hid⟩
  have h₁ : (reserve demoReserveEnv [1] ⟨[], 0⟩).1 = .ok () := rfl
  exact ⟨h₁, rfl, rfl, (reserve_exclusive hu h₁).1 [2] rfl,
    (reserve_exclusive hu h₁).2 ⟨[], []⟩ (Currency.ofNat 5) ([], [2]) rfl⟩

/-- The contract of the spent-output table that `dbPutSpentOutput` writes and
`dbGetSpentOutput` reads: the height put under an id is read back, and every other id keeps
its own. -/
structure FundTransactionEnv.SpentTable (E : FundTransactionEnv σ) : Prop where
  put_self : ∀ {id height w w'}, E.putSpentOutput id height w = .ok w' →
    E.spentOutput w' id = some height
  put_other : ∀ {id id' height w w'}, E.putSpentOutput id height w = .ok w' → id' ≠ id →
    E.spentOutput w' id' = E.spentOutput w id'

section Respend

variable {E : FundTransactionEnv σ} {w : σ} {txn : Transaction} {amount : Currency}
  {height : UInt64}

/-- The spent-output loop, run to the end, marks its ids at the height and leaves the others. -/
theorem putSpentOutputs_spentOutput (hs : E.SpentTable) {ids : List Hash256} {w' : σ}
    (h : putSpentOutputs E height ids w = (.ok (), w')) (id : Hash256) :
    E.spentOutput w' id = if id ∈ ids then some height else E.spentOutput w id := by
  induction ids generalizing w with
  | nil => cases h; simp
  | cons x ids ih =>
    cases hx : E.putSpentOutput x height w with
    | error m => simp [putSpentOutputs, hx] at h
    | ok w1 =>
      simp only [putSpentOutputs, hx] at h
      rw [ih h]
      by_cases hid : id = x
      · subst hid; simp [hs.put_self hx]
      · simp [hid, hs.put_other hx hid]

/-- A successful end of `FundTransaction` leaves each spent output marked at the height. -/
theorem finishParent_spentOutput (hs : E.SpentTable) {puc : UnlockConditions}
    {spent : List Hash256} {parent r : Transaction} {id : Hash256}
    (h : (finishParent E height puc spent txn parent w).1 = .ok r) (hid : id ∈ spent) :
    E.spentOutput (finishParent E height puc spent txn parent w).2.2 id = some height := by
  cases hp : E.putSpentOutput (E.siacoinOutputID parent 0) height w with
  | error m => simp [finishParent, hp] at h
  | ok w1 =>
    rcases hp' : putSpentOutputs E height spent w1 with ⟨_ | _, w2⟩ <;>
      simp only [finishParent, hp, hp'] at h ⊢
    · cases h
    · rw [putSpentOutputs_spentOutput hs hp', if_pos hid]

/-- `checkOutput` refuses an output marked spent less than `RespendTimeout` blocks ago. -/
theorem checkOutput_recently_spent {id : Hash256} {o : SiacoinOutput} {dt : Currency}
    {spendHeight : UInt64} (hsp : E.spentOutput w id = some spendHeight)
    (hlt : height.toNat < spendHeight.toNat + E.respendTimeout.toNat)
    (hwrap : spendHeight.toNat + E.respendTimeout.toNat < 2 ^ 64) :
    E.checkOutput w height id o dt ≠ .ok () := by
  have hrec : height < spendHeight + E.respendTimeout := by
    show height.toNat < (spendHeight + E.respendTimeout).toNat
    rw [UInt64.toNat_add, Nat.mod_eq_of_lt (by simpa [UInt64.size] using hwrap)]
    exact hlt
  unfold FundTransactionEnv.checkOutput
  simp only [hsp, Option.any_some, decide_eq_true hrec]
  split_ifs <;> simp

/-- Each input of a successful `FundTransaction`'s parent spends an output that passed
`checkOutput` on the state the call started from, and is among the outputs its
`finishParent` marks, which ends the call. -/
theorem fundTransaction_ok_finish (hch : E.consensusHeight = .ok height)
    {parent : Transaction} {i : SiacoinInput}
    (h : (fundTransaction E w txn amount).1 = .ok parent) (hi : i ∈ parent.siacoinInputs) :
    ∃ dt o puc spent txn1 w1, E.checkOutput w height i.parentID o dt = .ok () ∧
      i.parentID ∈ spent ∧
      finishParent E height puc spent txn1 parent w1 = fundTransaction E w txn amount := by
  have hne : amount.toNat ≠ 0 := fun h0 => by
    simp only [fundTransaction, h0, if_true, Except.ok.injEq] at h
    subst h
    simp at hi
  rcases hdt : E.dustThreshold with m | dt
  · simp [fundTransaction, hne, hdt] at h
  rcases hout : E.siacoinOutputs with m | outputs
  · simp [fundTransaction, hne, hdt, hch, hout] at h
  have heq : fundTransaction E w txn amount = (.ok parent, _, _) := Prod.ext h rfl
  obtain ⟨spent, f, p, puc, change, w1, hsel, -, -, -, -, hfin⟩ :=
    fundTransaction_ok_cases hdt hch hout (Nat.pos_of_ne_zero hne) heq
  obtain ⟨rfl, -⟩ := finishParent_ok (congrArg (·.1) hfin)
  obtain ⟨o, ho, rfl⟩ := List.mem_map.1 hi
  have hc := (List.mem_filter.1 ((spendOutputs_spec hsel).1.subset ho)).2
  refine ⟨dt, o.2, puc, spent.map Prod.fst, txn, w1, ?_, List.mem_map_of_mem _ ho, hfin.trans heq.symm⟩
  revert hc
  cases E.checkOutput w height o.1 o.2 dt <;> simp [Except.toBool]

/-- **`FundTransaction` does not spend an output twice.** Two successful calls, the second on
the state the first left and within `RespendTimeout` blocks of it, fund their parents from
disjoint outputs, for any second environment that reads the same spent-output table: each
output the first call spends is marked, and the mark fails the second call's `checkOutput`. -/
theorem fundTransaction_no_respend {E₂ : FundTransactionEnv σ} (hs : E.SpentTable)
    {height₂ : UInt64} (hch : E.consensusHeight = .ok height)
    (hch₂ : E₂.consensusHeight = .ok height₂) (hsp : E₂.spentOutput = E.spentOutput)
    (hto : E₂.respendTimeout = E.respendTimeout)
    (hwin : height₂.toNat < height.toNat + E.respendTimeout.toNat)
    (hwrap : height.toNat + E.respendTimeout.toNat < 2 ^ 64)
    {txn₂ parent parent₂ : Transaction} {amount₂ : Currency}
    (h₁ : (fundTransaction E w txn amount).1 = .ok parent)
    (h₂ : (fundTransaction E₂ (fundTransaction E w txn amount).2.2 txn₂ amount₂).1 = .ok parent₂) :
    ∀ i ∈ parent.siacoinInputs, ∀ j ∈ parent₂.siacoinInputs, i.parentID ≠ j.parentID := by
  intro i hi j hj hij
  obtain ⟨_, _, _, spent, _, _, -, hmem, hfin⟩ := fundTransaction_ok_finish hch h₁ hi
  obtain ⟨dt, o, -, -, -, -, hpass, -⟩ := fundTransaction_ok_finish hch₂ h₂ hj
  have hmark : E.spentOutput (fundTransaction E w txn amount).2.2 i.parentID = some height := by
    rw [← hfin]
    exact finishParent_spentOutput hs (hfin ▸ h₁) hmem
  rw [hij, ← hsp] at hmark
  exact checkOutput_recently_spent hmark (hto ▸ hwin) (hto ▸ hwrap) hpass

end Respend

/-- A `FundTransaction` wallet whose state is its spent-output table, newest mark first, over
the output table `demoOutputs` at height 10. -/
def demoSpentTableEnv : FundTransactionEnv (List (Hash256 × UInt64)) where
  dustThreshold := .ok Currency.zero
  consensusHeight := .ok 10
  siacoinOutputs := .ok demoOutputs
  unconfirmed := []
  siacoinOutputID t i := BitVec.ofNat 256 (100 * t.siacoinInputs.length + i + 1)
  keys := ⟨[⟨0, demoUnlockConditions 0⟩], by unfold List.NodupKeys; decide⟩
  sort := ⟨id, List.Perm.refl⟩
  respendTimeout := 6
  unlockHash _ := 0
  spentOutput w id := (w.find? (·.1 = id)).map (·.2)
  nextPrimarySeedAddress w := (demoUnlockConditions 0, .ok w)
  markAddressUnused _ w := w
  putSpentOutput id height w := .ok ((id, height) :: w)

/-- Funding 7 SC spends output `1`; funding 5 SC next skips it, as spent at height 10, and
spends output `2`. -/
theorem fundTransaction_no_respend_demo :
    (fundTransaction demoSpentTableEnv [] ⟨[], []⟩ (Currency.ofNat 7)).1 =
      .ok ⟨[⟨1, demoUnlockConditions 0⟩], [⟨Currency.ofNat 7, 0⟩]⟩ ∧
    (fundTransaction demoSpentTableEnv (fundTransaction demoSpentTableEnv [] ⟨[], []⟩
      (Currency.ofNat 7)).2.2 ⟨[], []⟩ (Currency.ofNat 5)).1 =
      .ok ⟨[⟨2, demoUnlockConditions 0⟩], [⟨Currency.ofNat 5, 0⟩]⟩ ∧
    ∀ i ∈ [(⟨1, demoUnlockConditions 0⟩ : SiacoinInput)],
      ∀ j ∈ [(⟨2, demoUnlockConditions 0⟩ : SiacoinInput)], i.parentID ≠ j.parentID := by
  have h₁ : (fundTransaction demoSpentTableEnv [] ⟨[], []⟩ (Currency.ofNat 7)).1 =
      .ok ⟨[⟨1, demoUnlockConditions 0⟩], [⟨Currency.ofNat 7, 0⟩]⟩ := rfl
  have h₂ : (fundTransaction demoSpentTableEnv (fundTransaction demoSpentTableEnv [] ⟨[], []⟩
      (Currency.ofNat 7)).2.2 ⟨[], []⟩ (Currency.ofNat 5)).1 =
      .ok ⟨[⟨2, demoUnlockConditions 0⟩], [⟨Currency.ofNat 5, 0⟩]⟩ := rfl
  exact ⟨h₁, h₂, fundTransaction_no_respend
    ⟨fun h => by cases h; simp [demoSpentTableEnv], fun h hne => by cases h; simp [demoSpentTableEnv, Ne.symm hne]⟩
    rfl rfl rfl rfl (by decide) (by decide) h₁ h₂⟩

end Wallet

end SiaSatellite
