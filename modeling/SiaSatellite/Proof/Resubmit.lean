import SiaSatellite.Proof.Ownership

/-!
# Submitting a set twice

A set that a call accepted and that is submitted again at once is not accepted again. The
second call fails and leaves the pool as it was, but the error it fails with is not always
`ErrDuplicateTransactionSet`: `acceptTransactionSet` checks the fees against the pool's
size before it looks for conflicts, and the first call may have grown the pool past
`TransactionPoolSizeForFee`.

* `acceptTransactionSet_resubmit`: under the ledger contract, the second call returns
  `ErrDuplicateTransactionSet`, or fails the fee check that runs before conflict detection
  with `errLowMinerFees` or `Mul64`'s panic; either way the pool is unchanged.
* `demoPool2_resubmit_lowMinerFees`: a set merged into a superset that takes the pool
  past the threshold is refused the second time with `errLowMinerFees`, not
  `ErrDuplicateTransactionSet`.

The second call's resolver finds every candidate transaction held by a set that owns one
of the candidate's objects, and prunes them all, unless the first call installed exactly
the candidate's object-less remainder; then its one recursive call forms that remainder
again, whose hash is a key.
-/

namespace SiaSatellite

variable {T : Type} {C : Core T} {P : Policy T} {mo : MapOrder} {tp : TransactionPool T}

open TransactionPool

theorem mem_relatedObjectIDs_iff (mo' : MapOrder) {o : ObjectID} {ts : List T} :
    o ∈ relatedObjectIDs C mo ts ↔ o ∈ relatedObjectIDs C mo' ts := by
  rw [mem_relatedObjectIDs, mem_relatedObjectIDs]

/-! ## Evaluating the resolver -/

/-- If `conflictMap` holds every candidate id, the resolver reports a duplicate. -/
theorem handleConflicts_dedup_nil {ts : List T} {cs : List TransactionSetID} (txnFn : TxnFn T)
    (h : ∀ t ∈ ts, C.id t ∈ conflictMapOf C tp cs) :
    handleConflicts C P mo tp ts cs txnFn = (.error .duplicateTransactionSet, tp) := by
  have : (ts.filter fun t => decide (C.id t ∉ conflictMapOf C tp cs)) = [] :=
    List.filter_eq_nil_iff.2 fun t ht => by simpa using h t ht
  rw [handleConflicts]
  simp only [this, List.length_nil, if_true]

/-- A resolver call that prunes part of the candidate goes on with what is left. -/
theorem handleConflicts_prune {ts : List T} {cs : List TransactionSetID} (txnFn : TxnFn T)
    (hne : (ts.filter fun t => decide (C.id t ∉ conflictMapOf C tp cs)) ≠ [])
    (hlt : (ts.filter fun t => decide (C.id t ∉ conflictMapOf C tp cs)).length < ts.length) :
    handleConflicts C P mo tp ts cs txnFn =
      handleConflicts C P mo tp (ts.filter fun t => decide (C.id t ∉ conflictMapOf C tp cs))
        (tp.conflictsOf (relatedObjectIDs C mo
          (ts.filter fun t => decide (C.id t ∉ conflictMapOf C tp cs)))) txnFn := by
  rw [handleConflicts]
  simp only [List.length_eq_zero, hne, if_false, dif_pos hlt]

theorem relatedObjectIDs_eq_nil {F : List T} (hF : ∀ t ∈ F, C.objects t = []) :
    relatedObjectIDs C mo F = [] := by
  simp [relatedObjectIDs, List.flatMap_eq_nil_iff.2 hF, MapOrder.order_nil]

/-- A candidate that relates no object is merged with no set. -/
theorem mergedSets_eq_nil {F : List T} (hrel : relatedObjectIDs C mo F = []) :
    mergedSets C mo tp F = [] := by
  simp [mergedSets, hrel, conflictsOf, conflictMapOf, supersetKeys, MapOrder.order_nil]

/-- A pooled candidate that relates no object is a duplicate. -/
theorem handleConflicts_objectless {F : List T} (txnFn : TxnFn T) (hne : F ≠ [])
    (hF : ∀ t ∈ F, C.objects t = []) (hdup : C.setID F ∈ tp.transactionSets) :
    handleConflicts C P mo tp F (tp.conflictsOf (relatedObjectIDs C mo F)) txnFn =
      (.error .duplicateTransactionSet, tp) := by
  rw [relatedObjectIDs_eq_nil hF, handleConflicts]
  simp [conflictsOf, conflictMapOf, AList.not_mem_empty, hne, mergeConflicts, supersetKeys,
    MapOrder.order_nil, checkTransactionSetComposition, hdup]

theorem checkTransactionSetComposition_error {ts : List T} {e : TpoolError}
    (hs : P.isStandard ts = true) (h : checkTransactionSetComposition C P tp ts = .error e) :
    e = .duplicateTransactionSet := by
  unfold checkTransactionSetComposition isStandardTransactionSet at h
  split_ifs at h
  cases h; rfl

theorem checkMinerFees_error {ts : List T} {n : ℕ} {e : TpoolError}
    (h : checkMinerFees C P tp ts n = .error e) : e = .lowMinerFees ∨ e = .overflow := by
  unfold checkMinerFees at h
  split at h
  · cases h; exact .inr rfl
  split at h
  · cases h; exact .inr rfl
  split_ifs at h
  cases h; exact .inl rfl

/-! ## The pool after a successful call -/

section Step

variable {ts : List T} {txnFn : TxnFn T} {S : List T} {tp' : TransactionPool T} {F : List T}
  {cc : ConsensusChange} {objs : List ObjectID}

/-- An object a set of the pool owned is owned, after a successful call, by the new set if
that set was merged and by the same set otherwise. -/
theorem Admitted.knownObjects_successor (ha : Admitted C P mo tp ts txnFn S tp' F cc objs)
    (hc : LedgerContract C txnFn) (hown : Owns C tp) (hbind : IdsBindObjects C) {o : ObjectID}
    {k : TransactionSetID} (ho : tp.knownObjects.lookup o = some k) :
    tp'.knownObjects.lookup o = some (if k ∈ mergedSets C mo tp F then C.setID S else k) := by
  split_ifs with hm
  · obtain ⟨t, ht, hot⟩ := hown.live o k ho
    rw [ha.knownObjects, if_pos ((ha.mem_objs hc).2 ⟨t, ha.mem_superset_of_merged hm ht, hot⟩)]
  · rwa [ha.knownObjects, if_neg fun h => hm (ha.owner_merged hc hown hbind h ho)]

/-- A candidate transaction the call pruned has its id in the `conflictMap` of the same
candidate submitted again. -/
theorem Admitted.pruned_mem_conflictMap (ha : Admitted C P mo tp ts txnFn S tp' F cc objs)
    (hc : LedgerContract C txnFn) (hown : Owns C tp) (hbind : IdsBindObjects C)
    (mo' : MapOrder) {t : T} (ht : t ∈ ts) (hF : t ∉ F) :
    C.id t ∈ conflictMapOf C tp' (tp'.conflictsOf (relatedObjectIDs C mo' ts)) := by
  obtain ⟨c, hcs, t', ht', hid⟩ := ha.held_of_not_mem_remainder ht hF
  obtain ⟨o, ho, hco⟩ := mem_conflictsOf.1 hcs
  exact mem_conflictMapOf.2 ⟨_, mem_conflictsOf.2 ⟨o, (mem_relatedObjectIDs_iff mo').1 ho,
    ha.knownObjects_successor hc hown hbind hco⟩, t', ha.mem_setOf_successor ht', hid⟩

/-- Every object of the candidate has an owner after a successful call. -/
theorem Admitted.mem_knownObjects (ha : Admitted C P mo tp ts txnFn S tp' F cc objs)
    (hc : LedgerContract C txnFn) (hown : Owns C tp) (hbind : IdsBindObjects C) {o : ObjectID}
    (ho : o ∈ relatedObjectIDs C mo ts) : o ∈ tp'.knownObjects := by
  obtain ⟨t, ht, hot⟩ := mem_relatedObjectIDs.1 ho
  by_cases hF : t ∈ F
  · exact mem_of_lookup_eq_some (by
      rw [ha.knownObjects, if_pos ((ha.mem_objs hc).2 ⟨t, ha.mem_superset_of_remainder hF, hot⟩)])
  · obtain ⟨c, -, t', ht', hid⟩ := ha.held_of_not_mem_remainder ht hF
    exact mem_of_lookup_eq_some (ha.knownObjects_successor hc hown hbind
      (hown.owned c t' ht' o ((hbind t' t hid o).2 hot)))

/-- A call on a candidate that relates no object installs the candidate as it is. -/
theorem Admitted.eq_of_objectless (ha : Admitted C P mo tp ts txnFn S tp' F cc objs)
    (hrel : relatedObjectIDs C mo ts = []) : S = ts := by
  have hF : F = ts := by simp [ha.remainder_eq, remainder, hrel, conflictsOf, conflictMapOf,
    AList.not_mem_empty]
  rw [ha.superset, hF, mergedSets_eq_nil hrel]
  rfl

/-- If the new set owns none of the candidate's objects, none of them was installed. -/
theorem Admitted.not_mem_objs (ha : Admitted C P mo tp ts txnFn S tp' F cc objs)
    {mo' : MapOrder} (hSin : C.setID S ∉ tp'.conflictsOf (relatedObjectIDs C mo' ts)) :
    ∀ o ∈ relatedObjectIDs C mo ts, o ∉ objs := fun o ho hobj =>
  hSin (mem_conflictsOf.2 ⟨o, (mem_relatedObjectIDs_iff mo').1 ho,
    by rw [ha.knownObjects, if_pos hobj]⟩)

/-- If none of the candidate's objects was installed, the remainder relates no object. -/
theorem Admitted.remainder_objectless (ha : Admitted C P mo tp ts txnFn S tp' F cc objs)
    (hc : LedgerContract C txnFn) (hobjs : ∀ o ∈ relatedObjectIDs C mo ts, o ∉ objs) :
    ∀ t ∈ F, C.objects t = [] := fun t ht => List.eq_nil_iff_forall_not_mem.2
  fun o hot => hobjs o (mem_relatedObjectIDs.2 ⟨t, ha.mem_of_mem_remainder ht, hot⟩)
    ((ha.mem_objs hc).2 ⟨t, ha.mem_superset_of_remainder ht, hot⟩)

/-- If the new set owns none of the candidate's objects, the resolver on the same candidate
again prunes exactly what the call pruned. -/
theorem Admitted.prune_again (ha : Admitted C P mo tp ts txnFn S tp' F cc objs)
    (hc : LedgerContract C txnFn) (hown : Owns C tp) (hbind : IdsBindObjects C)
    {mo' : MapOrder} (hSin : C.setID S ∉ tp'.conflictsOf (relatedObjectIDs C mo' ts)) :
    (ts.filter fun t =>
      decide (C.id t ∉ conflictMapOf C tp' (tp'.conflictsOf (relatedObjectIDs C mo' ts)))) = F := by
  have hobjs := ha.not_mem_objs hSin
  have hm : mergedSets C mo tp F = [] :=
    mergedSets_eq_nil (relatedObjectIDs_eq_nil (ha.remainder_objectless hc hobjs))
  -- a kept transaction meets only the sets it met before, none of which held its id
  have hkeep : ∀ t ∈ F,
      C.id t ∉ conflictMapOf C tp' (tp'.conflictsOf (relatedObjectIDs C mo' ts)) :=
    fun t ht hmem => by
    obtain ⟨k, hk, t'', ht'', hid⟩ := mem_conflictMapOf.1 hmem
    obtain ⟨o, ho, hko⟩ := mem_conflictsOf.1 hk
    have ho' := (mem_relatedObjectIDs_iff mo).1 ho
    rw [ha.knownObjects, if_neg (hobjs o ho')] at hko
    rw [ha.setOf, if_neg fun (h : k = C.setID S) => hSin (h ▸ hk), hm,
      if_neg (List.not_mem_nil k)] at ht''
    rw [ha.remainder_eq, remainder, List.mem_filter, decide_eq_true_eq] at ht
    exact ht.2 (mem_conflictMapOf.2 ⟨k, mem_conflictsOf.2 ⟨o, ho', hko⟩, t'', ht'', hid⟩)
  rw [ha.remainder_eq]
  refine List.filter_congr fun t ht => ?_
  by_cases hF : t ∈ F
  · have h1 := (List.mem_filter.1 (ha.remainder_eq ▸ hF)).2
    simp only [decide_eq_true_eq] at h1
    simp [hkeep t hF, h1]
  · have h1 : C.id t ∈ conflictMapOf C tp (tp.conflictsOf (relatedObjectIDs C mo ts)) := by
      by_contra h1; exact hF (ha.remainder_eq ▸ List.mem_filter.2 ⟨ht, by simpa using h1⟩)
    simp [ha.pruned_mem_conflictMap hc hown hbind mo' ht hF, h1]

/-- **The resolver on the same candidate again** reports a duplicate, whatever the map
order and the callback. -/
theorem Admitted.handleConflicts_again (ha : Admitted C P mo tp ts txnFn S tp' F cc objs)
    (hc : LedgerContract C txnFn) (hown : Owns C tp) (hbind : IdsBindObjects C)
    (mo' : MapOrder) (txnFn' : TxnFn T) {o : ObjectID} (ho : o ∈ relatedObjectIDs C mo ts) :
    handleConflicts C P mo' tp' ts (tp'.conflictsOf (relatedObjectIDs C mo' ts)) txnFn' =
      (.error .duplicateTransactionSet, tp') := by
  by_cases hSin : C.setID S ∈ tp'.conflictsOf (relatedObjectIDs C mo' ts)
  · -- the new set owns an object of the candidate: every id is pruned
    refine handleConflicts_dedup_nil _ fun t ht => ?_
    by_cases hF : t ∈ F
    · exact mem_conflictMapOf.2 ⟨C.setID S, hSin, t,
        by rw [ha.setOf_new]; exact ha.mem_superset_of_remainder hF, rfl⟩
    · exact ha.pruned_mem_conflictMap hc hown hbind mo' ht hF
  -- otherwise the remainder relates no object and was installed as it is
  have hFobj := ha.remainder_objectless hc (ha.not_mem_objs hSin)
  have hSF : S = F := by
    rw [ha.superset, mergedSets_eq_nil (relatedObjectIDs_eq_nil hFobj)]; rfl
  have hD := ha.prune_again hc hown hbind hSin
  -- the candidate transaction relating `o` is pruned, so the remainder is shorter
  obtain ⟨t₀, ht₀, hot₀⟩ := mem_relatedObjectIDs.1 ho
  have hlt : F.length < ts.length := by
    rw [ha.remainder_eq]
    refine List.length_filter_lt_length_iff_exists.2 ⟨t₀, ht₀, fun hp => ?_⟩
    have := hFobj t₀ (ha.remainder_eq ▸ List.mem_filter.2 ⟨ht₀, hp⟩)
    rw [this] at hot₀; exact List.not_mem_nil o hot₀
  rw [handleConflicts_prune _ (hD ▸ ha.ne_nil) (hD ▸ hlt), hD, ← hSF]
  rw [← hSF] at hFobj
  exact handleConflicts_objectless _ (hSF ▸ ha.ne_nil) hFobj (mem_of_lookup_eq_some ha.lookup_new)

/-- After a successful call, the same set submitted again (under any map order and any
callback) fails either the fee check or with `ErrDuplicateTransactionSet`, leaving the pool
as it is. -/
theorem Admitted.resubmit {confirmed : TransactionID → Bool}
    (ha : Admitted C P mo tp (ts.filter fun t => !confirmed (C.id t)) txnFn S tp' F cc objs)
    (hc : LedgerContract C txnFn) (hown : Owns C tp) (hbind : IdsBindObjects C)
    (mo' : MapOrder) (txnFn' : TxnFn T) :
    acceptTransactionSet C P mo' confirmed tp' ts txnFn' = (.error .duplicateTransactionSet, tp') ∨
      checkMinerFees C P tp' (ts.filter fun t => !confirmed (C.id t))
          (C.encodedLen (ts.filter fun t => !confirmed (C.id t))) ≠ .ok () ∧
        (acceptTransactionSet C P mo' confirmed tp' ts txnFn' = (.error .lowMinerFees, tp') ∨
          acceptTransactionSet C P mo' confirmed tp' ts txnFn' = (.error .overflow, tp')) := by
  obtain ⟨t₀, ht₀⟩ := List.exists_mem_of_ne_nil _ ha.ne_nil
  have hu := List.ne_nil_of_mem (ha.mem_of_mem_remainder ht₀)
  have hts : ts ≠ [] := by rintro rfl; exact hu rfl
  cases hcomp : checkTransactionSetComposition C P tp' (ts.filter fun t => !confirmed (C.id t))
    with
  | error e =>
    left
    unfold acceptTransactionSet
    simp only [List.length_eq_zero, hts, hu, if_false, hcomp,
      checkTransactionSetComposition_error ha.candidate_standard hcomp]
  | ok n =>
    obtain ⟨hfresh, -, rfl⟩ := checkTransactionSetComposition_ok.1 hcomp
    cases hfee : checkMinerFees C P tp' (ts.filter fun t => !confirmed (C.id t))
      (C.encodedLen (ts.filter fun t => !confirmed (C.id t))) with
    | error e =>
      have he : acceptTransactionSet C P mo' confirmed tp' ts txnFn' = (.error e, tp') := by
        unfold acceptTransactionSet
        simp only [List.length_eq_zero, hts, hu, if_false, hcomp, hfee]
      refine .inr ⟨(fun h => nomatch h), ?_⟩
      rcases checkMinerFees_error hfee with rfl | rfl
      · exact .inl he
      · exact .inr he
    | ok _ =>
      left
      by_cases hrel : relatedObjectIDs C mo (ts.filter fun t => !confirmed (C.id t)) = []
      · exact absurd (ha.eq_of_objectless hrel ▸ mem_of_lookup_eq_some ha.lookup_new) hfresh
      obtain ⟨o, ho⟩ := List.exists_mem_of_ne_nil _ hrel
      obtain ⟨k, hk⟩ := exists_lookup_of_mem (ha.mem_knownObjects hc hown hbind ho)
      unfold acceptTransactionSet
      simp only [List.length_eq_zero, hts, hu, if_false, hcomp, hfee]
      rw [if_pos (List.length_pos.2 (List.ne_nil_of_mem
        (mem_conflictsOf.2 ⟨o, (mem_relatedObjectIDs_iff mo').1 ho, hk⟩)))]
      exact ha.handleConflicts_again hc hown hbind mo' txnFn' ho

end Step

/-! ## The second call -/

/-- **A set accepted and submitted again at once is refused, and the pool is unchanged.**
The refusal is `ErrDuplicateTransactionSet`, unless the fee check, which runs before
conflict detection, fails on the pool the first call left: then it is `errLowMinerFees`
or `Mul64`'s panic. This holds for any map order and any callback in the second call. -/
theorem acceptTransactionSet_resubmit (hbind : IdsBindObjects C)
    (hreach : Reachable C P (LedgerContract C) tp) (confirmed : TransactionID → Bool)
    (ts : List T) (txnFn : TxnFn T) (hc : LedgerContract C txnFn) (mo' : MapOrder)
    (txnFn' : TxnFn T) {S : List T} {tp' : TransactionPool T}
    (h : acceptTransactionSet C P mo confirmed tp ts txnFn = (.ok S, tp')) :
    (acceptTransactionSet C P mo' confirmed tp' ts txnFn').2 = tp' ∧
      ((acceptTransactionSet C P mo' confirmed tp' ts txnFn').1 = .error .duplicateTransactionSet ∨
        checkMinerFees C P tp' (ts.filter fun t => !confirmed (C.id t))
            (C.encodedLen (ts.filter fun t => !confirmed (C.id t))) ≠ .ok () ∧
          ((acceptTransactionSet C P mo' confirmed tp' ts txnFn').1 = .error .lowMinerFees ∨
            (acceptTransactionSet C P mo' confirmed tp' ts txnFn').1 = .error .overflow)) := by
  rcases acceptTransactionSet_cases C P mo confirmed tp ts txnFn with
    ⟨e, he⟩ | ⟨S₁, tp₁, F, cc, objs, he, ha⟩
  · rw [he] at h; cases h
  rw [he] at h
  cases h
  rcases ha.resubmit hc (Owns.of_reachable hbind hreach) hbind mo' txnFn' with h | ⟨hf, h | h⟩
  · simp [h]
  · simp [h, hf]
  · simp [h, hf]

/-- Submitting `2` again after it was merged with `[1]` is refused, with the fee check
failing and the pool unchanged. -/
theorem demoPool2_resubmit :
    (acceptTransactionSet demoCore demoPolicy MapOrder.keep (fun _ => false) demoPool2 [2]
        demoTxnFn).2 = demoPool2 ∧
      ((acceptTransactionSet demoCore demoPolicy MapOrder.keep (fun _ => false) demoPool2 [2]
          demoTxnFn).1 = .error .duplicateTransactionSet ∨
        checkMinerFees demoCore demoPolicy demoPool2
            (([2] : List Hash256).filter fun t => !(fun _ => false) (demoCore.id t))
            (demoCore.encodedLen (([2] : List Hash256).filter fun t =>
              !(fun _ => false) (demoCore.id t))) ≠ .ok () ∧
          ((acceptTransactionSet demoCore demoPolicy MapOrder.keep (fun _ => false) demoPool2 [2]
              demoTxnFn).1 = .error .lowMinerFees ∨
            (acceptTransactionSet demoCore demoPolicy MapOrder.keep (fun _ => false) demoPool2 [2]
              demoTxnFn).1 = .error .overflow)) :=
  acceptTransactionSet_resubmit demoCore_idsBindObjects demoPool1_reachable (fun _ => false) [2]
    demoTxnFn demoTxnFn_ledgerContract MapOrder.keep demoTxnFn demoPool1_accept_two

/-- Accepting `2` merges it with `[1]` into a superset of 308 bytes, past the 250 bytes from
which the pool charges fees, so `2` submitted again is refused with `errLowMinerFees`. -/
theorem demoPool2_resubmit_lowMinerFees :
    IdsBindObjects demoCore ∧ Reachable demoCore demoPolicy (LedgerContract demoCore) demoPool1 ∧
      LedgerContract demoCore demoTxnFn ∧
      acceptTransactionSet demoCore demoPolicy MapOrder.keep (fun _ => false) demoPool1 [2]
        demoTxnFn = (.ok [1, 2], demoPool2) ∧
      acceptTransactionSet demoCore demoPolicy MapOrder.keep (fun _ => false) demoPool2 [2]
        demoTxnFn = (.error .lowMinerFees, demoPool2) :=
  ⟨demoCore_idsBindObjects, demoPool1_reachable, demoTxnFn_ledgerContract, demoPool1_accept_two,
    rfl⟩

end SiaSatellite
