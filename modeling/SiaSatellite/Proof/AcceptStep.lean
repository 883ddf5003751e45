import SiaSatellite.Proof.Pool

/-!
# What one call of `acceptTransactionSet` can do

`acceptTransactionSet_cases`: a call either fails and leaves the pool as it was, or it
admits a set (`Admitted`). Then it kept the remainder `F` of the unconfirmed candidate,
the transactions that no set owning one of the candidate's objects holds; it put in front
of `F` the sets `mergedSets` that hold its objects; and it installed the result in their
place. On the way the resolver recurses at most once (`handleConflicts_cases`, from
`filter_conflictMap_idem`).

* `acceptTransactionSet_error_unchanged`: an error, at any depth of the resolver, leaves
  the pool as it was.
* `handleConflicts_depth_le_two`: the conflicts and `conflictMap` ids the recursive call
  recomputes are among the first call's, and it prunes nothing, so the resolver opens at
  most two frames (`handleConflictsDepth`, which counts them: `handleConflictsDepth_frames`
  says that the frames before the last recurse, the last does not, and the call's outcome
  is the last frame's).

`AcceptStep` is one call with any map order, confirmed lookup and candidate, and a callback
that a given contract allows; `Reachable` pools are those the calls reach from an empty
pool.
-/

namespace SiaSatellite

variable {T : Type} {C : Core T} {P : Policy T} {mo : MapOrder} {tp : TransactionPool T}

open TransactionPool

variable (C) in
/-- The candidate's remainder: its transactions whose ids no set owning one of its objects
holds (`dedupSet` of the first call of `handleConflicts`). -/
def remainder (mo : MapOrder) (tp : TransactionPool T) (ts : List T) : List T :=
  ts.filter fun t => C.id t ∉ conflictMapOf C tp (tp.conflictsOf (relatedObjectIDs C mo ts))

variable (C) in
/-- The sets merged with the remainder `F`, in `supersetMap`'s order. -/
def mergedSets (mo : MapOrder) (tp : TransactionPool T) (F : List T) : List TransactionSetID :=
  mo.order (supersetKeys (conflictMapOf C tp (tp.conflictsOf (relatedObjectIDs C mo F))))

variable (C P) in
/-- What a successful call did with the unconfirmed candidate `ts`: it kept the remainder
`F`, formed `S` from the merged sets and `F`, validated `S` to `cc`, and installed it, with
the objects `objs`, in place of the merged sets. -/
structure Admitted (mo : MapOrder) (tp : TransactionPool T) (ts : List T) (txnFn : TxnFn T)
    (S : List T) (tp' : TransactionPool T) (F : List T) (cc : ConsensusChange)
    (objs : List ObjectID) : Prop where
  remainder_eq : F = remainder C mo tp ts
  ne_nil : F ≠ []
  superset : S = (mergedSets C mo tp F).flatMap tp.setOf ++ F
  fresh : C.setID S ∉ tp.transactionSets
  standard : P.isStandard S = true
  fees : checkMinerFees C P tp S (C.encodedLen S) = .ok ()
  valid : txnFn S = .ok cc
  objs_eq : objs = cc.diffIDs ∨ objs = relatedObjectIDs C mo S
  pool : tp' = ((mergedSets C mo tp F).foldl (evict C) tp).install C (C.setID S) S objs cc
  candidate_standard : P.isStandard ts = true

theorem checkTransactionSetComposition_ok {ts : List T} {n : ℕ} :
    checkTransactionSetComposition C P tp ts = .ok n ↔
      C.setID ts ∉ tp.transactionSets ∧ P.isStandard ts = true ∧ n = C.encodedLen ts := by
  unfold checkTransactionSetComposition isStandardTransactionSet
  by_cases h1 : C.setID ts ∈ tp.transactionSets
  · simp [h1]
  by_cases h2 : P.isStandard ts = true
  · simp only [h1, h2, if_false, if_true, not_false_eq_true, true_and, Except.ok.injEq]
    exact eq_comm
  · simp [h1, h2]

/-- The merge either fails with the pool unchanged or installs the merged set. -/
theorem mergeConflicts_cases (cm : AList (fun _ : TransactionID => TransactionSetID))
    (F : List T) (txnFn : TxnFn T) :
    (∃ e, mergeConflicts C P mo tp cm F txnFn = (.error e, tp)) ∨
      ∃ S cc, S = (mo.order (supersetKeys cm)).flatMap tp.setOf ++ F ∧
        C.setID S ∉ tp.transactionSets ∧ P.isStandard S = true ∧
        checkMinerFees C P tp S (C.encodedLen S) = .ok () ∧ txnFn S = .ok cc ∧
        mergeConflicts C P mo tp cm F txnFn = (.ok S, ((mo.order (supersetKeys cm)).foldl
          (evict C) tp).install C (C.setID S) S cc.diffIDs cc) := by
  unfold mergeConflicts
  dsimp only
  split
  · exact .inl ⟨_, rfl⟩
  rename_i n hn
  obtain ⟨hf, hs, rfl⟩ := checkTransactionSetComposition_ok.1 hn
  split
  · exact .inl ⟨_, rfl⟩
  rename_i hfee
  split
  · exact .inl ⟨_, rfl⟩
  rename_i cc hcc
  exact .inr ⟨_, cc, rfl, hf, hs, hfee, hcc, rfl⟩

/-- Called as `acceptTransactionSet` calls it, the resolver either fails with the pool
unchanged or merges the remainder, after at most one recursive call. -/
theorem handleConflicts_cases (C : Core T) (P : Policy T) (mo : MapOrder)
    (tp : TransactionPool T) (ts : List T) (txnFn : TxnFn T) :
    (∃ e, handleConflicts C P mo tp ts (tp.conflictsOf (relatedObjectIDs C mo ts)) txnFn =
        (.error e, tp)) ∨
      remainder C mo tp ts ≠ [] ∧
        handleConflicts C P mo tp ts (tp.conflictsOf (relatedObjectIDs C mo ts)) txnFn =
          mergeConflicts C P mo tp (conflictMapOf C tp (tp.conflictsOf
            (relatedObjectIDs C mo (remainder C mo tp ts)))) (remainder C mo tp ts) txnFn := by
  rw [handleConflicts]
  split_ifs with h0 h1
  · exact .inl ⟨_, rfl⟩
  · refine .inr ⟨fun h => h0 (by simpa [remainder] using h), ?_⟩
    rw [handleConflicts]
    simp only [filter_conflictMap_idem]
    rw [if_neg h0, dif_neg (lt_irrefl _)]
    rfl
  · have hF : remainder C mo tp ts = ts := List.filter_eq_self.2
      (List.filter_length_eq_length.1 (le_antisymm (List.length_filter_le _ _) (not_lt.1 h1)))
    refine .inr ⟨fun h => h0 (by simpa [remainder] using h), ?_⟩
    simp only [remainder] at hF
    simp only [remainder, hF]

variable (C) in
/-- The number of `handleConflicts` frames a call opens, its own included: the recursion of
`handleConflicts`, counted. -/
def handleConflictsDepth (mo : MapOrder) (tp : TransactionPool T) (ts : List T)
    (conflicts : List TransactionSetID) : ℕ :=
  let dedupSet := ts.filter fun t => C.id t ∉ conflictMapOf C tp conflicts
  if dedupSet.length = 0 then 1
  else if _ : dedupSet.length < ts.length then
    handleConflictsDepth mo tp dedupSet (tp.conflictsOf (relatedObjectIDs C mo dedupSet)) + 1
  else 1
termination_by ts.length
decreasing_by assumption

variable (C) in
/-- The arguments of the call a frame of `handleConflicts` on the candidate `x.1` and the
conflicts `x.2` would recurse with: its `dedupSet` and the conflicts recomputed for it. -/
def conflictsStep (mo : MapOrder) (tp : TransactionPool T)
    (x : List T × List TransactionSetID) : List T × List TransactionSetID :=
  let dedupSet := x.1.filter fun t => C.id t ∉ conflictMapOf C tp x.2
  (dedupSet, tp.conflictsOf (relatedObjectIDs C mo dedupSet))

variable (C) in
/-- A frame of `handleConflicts` recurses: its `dedupSet` is neither empty nor the whole
candidate. -/
def Recurses (mo : MapOrder) (tp : TransactionPool T) (x : List T × List TransactionSetID) :
    Prop :=
  (conflictsStep C mo tp x).1.length ≠ 0 ∧ (conflictsStep C mo tp x).1.length < x.1.length

instance (x : List T × List TransactionSetID) : Decidable (Recurses C mo tp x) :=
  inferInstanceAs (Decidable (_ ∧ _))

theorem handleConflicts_of_recurses (txnFn : TxnFn T) {x : List T × List TransactionSetID}
    (h : Recurses C mo tp x) :
    handleConflicts C P mo tp x.1 x.2 txnFn =
      handleConflicts C P mo tp (conflictsStep C mo tp x).1 (conflictsStep C mo tp x).2 txnFn := by
  rw [handleConflicts]
  exact (if_neg h.1).trans (dif_pos h.2)

theorem handleConflictsDepth_eq (x : List T × List TransactionSetID) :
    handleConflictsDepth C mo tp x.1 x.2 = if Recurses C mo tp x then
      handleConflictsDepth C mo tp (conflictsStep C mo tp x).1 (conflictsStep C mo tp x).2 + 1
    else 1 := by
  rw [handleConflictsDepth]
  by_cases h0 : (conflictsStep C mo tp x).1.length = 0
  · exact (if_pos h0).trans (if_neg fun h => h.1 h0).symm
  by_cases h1 : (conflictsStep C mo tp x).1.length < x.1.length
  · exact ((if_neg h0).trans (dif_pos h1)).trans (if_pos ⟨h0, h1⟩).symm
  · exact ((if_neg h0).trans (dif_neg h1)).trans (if_neg fun h => h1 h.2).symm

theorem one_le_handleConflictsDepth (x : List T × List TransactionSetID) :
    1 ≤ handleConflictsDepth C mo tp x.1 x.2 := by
  rw [handleConflictsDepth_eq]
  split_ifs <;> omega

/-- **`handleConflictsDepth` counts the frames of `handleConflicts`.** With `d` the depth of a
call, its first `d - 1` frames recurse and the `d`-th does not, and the call's outcome is the
outcome of that last frame. -/
theorem handleConflictsDepth_frames (txnFn : TxnFn T) (x : List T × List TransactionSetID) :
    (∀ k < handleConflictsDepth C mo tp x.1 x.2 - 1, Recurses C mo tp ((conflictsStep C mo tp)^[k] x)) ∧
    ¬Recurses C mo tp ((conflictsStep C mo tp)^[handleConflictsDepth C mo tp x.1 x.2 - 1] x) ∧
    handleConflicts C P mo tp x.1 x.2 txnFn =
      handleConflicts C P mo tp ((conflictsStep C mo tp)^[handleConflictsDepth C mo tp x.1 x.2 - 1] x).1
        ((conflictsStep C mo tp)^[handleConflictsDepth C mo tp x.1 x.2 - 1] x).2 txnFn := by
  induction' hn : x.1.length using Nat.strong_induction_on with n ih generalizing x
  rw [handleConflictsDepth_eq]
  by_cases hr : Recurses C mo tp x
  · -- the frame recurses: one more frame than the recursive call, which is shorter
    obtain ⟨h1, h2, h3⟩ := ih _ (hn ▸ hr.2) (conflictsStep C mo tp x) rfl
    obtain ⟨d, hd⟩ := Nat.exists_eq_add_of_le' (one_le_handleConflictsDepth (conflictsStep C mo tp x))
    rw [hd, Nat.add_sub_cancel] at h1 h2 h3
    simp only [if_pos hr, hd, Nat.add_sub_cancel, Function.iterate_succ_apply]
    refine ⟨fun k hk => ?_, h2, (handleConflicts_of_recurses txnFn hr).trans h3⟩
    cases k with
    | zero => exact hr
    | succ k => exact h1 k (by omega)
  · -- the frame does not recurse: it is the last
    rw [if_neg hr]
    exact ⟨fun k hk => absurd hk (Nat.not_lt_zero k), hr, rfl⟩

/-- **The resolver recurses at most once.** Called as `acceptTransactionSet` calls it, the
conflicts the recursive call recomputes for the remainder are among the first call's, and
so are the ids of its `conflictMap`; the recursive call prunes nothing, so the call opens
at most two frames. -/
theorem handleConflicts_depth_le_two (ts : List T) :
    (∀ c ∈ tp.conflictsOf (relatedObjectIDs C mo (remainder C mo tp ts)),
      c ∈ tp.conflictsOf (relatedObjectIDs C mo ts)) ∧
    (∀ x ∈ conflictMapOf C tp (tp.conflictsOf (relatedObjectIDs C mo (remainder C mo tp ts))),
      x ∈ conflictMapOf C tp (tp.conflictsOf (relatedObjectIDs C mo ts))) ∧
    remainder C mo tp (remainder C mo tp ts) = remainder C mo tp ts ∧
    handleConflictsDepth C mo tp ts (tp.conflictsOf (relatedObjectIDs C mo ts)) ≤ 2 := by
  have hsub : ∀ c ∈ tp.conflictsOf (relatedObjectIDs C mo (remainder C mo tp ts)),
      c ∈ tp.conflictsOf (relatedObjectIDs C mo ts) :=
    fun _ hc => conflictsOf_mono (fun _ ht => (List.mem_filter.1 ht).1) hc
  have hidem : remainder C mo tp (remainder C mo tp ts) = remainder C mo tp ts :=
    filter_conflictMap_idem ts
  refine ⟨hsub, fun x hx => ?_, hidem, ?_⟩
  · obtain ⟨c, hc, t, ht, hid⟩ := mem_conflictMapOf.1 hx
    exact mem_conflictMapOf.2 ⟨c, hsub c hc, t, ht, hid⟩
  rw [handleConflictsDepth]
  split_ifs with h0 h1
  · omega
  · rw [handleConflictsDepth]
    simp only [remainder] at hidem
    simp only [hidem, if_neg h0, dif_neg (lt_irrefl _), le_refl]
  · omega

/-- **What one call can do.** `acceptTransactionSet` either fails and leaves the pool as
it was, or admits a set as `Admitted` describes. -/
theorem acceptTransactionSet_cases (C : Core T) (P : Policy T) (mo : MapOrder)
    (confirmed : TransactionID → Bool) (tp : TransactionPool T) (ts : List T) (txnFn : TxnFn T) :
    (∃ e, acceptTransactionSet C P mo confirmed tp ts txnFn = (.error e, tp)) ∨
      ∃ S tp' F cc objs, acceptTransactionSet C P mo confirmed tp ts txnFn = (.ok S, tp') ∧
        Admitted C P mo tp (ts.filter fun t => !confirmed (C.id t)) txnFn S tp' F cc objs := by
  unfold acceptTransactionSet
  by_cases h0 : ts.length = 0
  · rw [if_pos h0]; exact .inl ⟨_, rfl⟩
  rw [if_neg h0]
  dsimp only
  by_cases h1 : (ts.filter fun t => !confirmed (C.id t)).length = 0
  · rw [if_pos h1]; exact .inl ⟨_, rfl⟩
  rw [if_neg h1]
  split
  · exact .inl ⟨_, rfl⟩
  rename_i n hn
  obtain ⟨hf, hs, rfl⟩ := checkTransactionSetComposition_ok.1 hn
  split
  · exact .inl ⟨_, rfl⟩
  rename_i hfee
  split_ifs with hc
  · rcases handleConflicts_cases C P mo tp (ts.filter fun t => !confirmed (C.id t)) txnFn
      with he | ⟨hne, heq⟩
    · exact .inl he
    rw [heq]
    rcases mergeConflicts_cases _ _ txnFn with he | ⟨S, cc, hS, hf', hs', hfee', hcc, heq'⟩
    · exact .inl he
    exact .inr ⟨S, _, _, cc, cc.diffIDs, heq', rfl, hne, hS, hf', hs', hfee', hcc, .inl rfl, rfl, hs⟩
  split
  · exact .inl ⟨_, rfl⟩
  rename_i cc hcc
  set ts' := ts.filter fun t => !confirmed (C.id t)
  have hnil : tp.conflictsOf (relatedObjectIDs C mo ts') = [] := by simpa using hc
  have hmerged : mergedSets C mo tp ts' = [] := by
    simp [mergedSets, hnil, conflictMapOf, supersetKeys, MapOrder.order_nil]
  refine .inr ⟨ts', _, ts', cc, relatedObjectIDs C mo ts', rfl, ?_, fun h => h1 (by rw [h]; rfl),
    by simp [hmerged], hf, hs, hfee, hcc, .inr rfl, by simp [hmerged], hs⟩
  simp [remainder, hnil, conflictMapOf, AList.not_mem_empty]

/-- **A failed call changes nothing.** Whatever error `acceptTransactionSet` ends with,
at whatever depth of the resolver, the pool after it is the pool before it. -/
theorem acceptTransactionSet_error_unchanged (confirmed : TransactionID → Bool) (ts : List T)
    (txnFn : TxnFn T) {e : TpoolError}
    (h : (acceptTransactionSet C P mo confirmed tp ts txnFn).1 = .error e) :
    (acceptTransactionSet C P mo confirmed tp ts txnFn).2 = tp := by
  rcases acceptTransactionSet_cases C P mo confirmed tp ts txnFn with
    ⟨e', he⟩ | ⟨S, tp', F, cc, objs, he, -⟩
  · rw [he]
  · rw [he] at h; cases h

/-! ## What an admission changed -/

theorem mergedSets_nodup (F : List T) : (mergedSets C mo tp F).Nodup :=
  MapOrder.nodup_order (supersetKeys_nodup _)

/-- A merged set is a live set holding a transaction. -/
theorem live_of_mem_mergedSets {F : List T} {c : TransactionSetID}
    (h : c ∈ mergedSets C mo tp F) : c ∈ tp.transactionSets :=
  have ⟨_, _, ht⟩ := mem_supersetKeys_conflictMapOf (MapOrder.mem_order.1 h)
  mem_of_mem_setOf ht

namespace Admitted

variable {ts : List T} {txnFn : TxnFn T} {S : List T} {tp' : TransactionPool T} {F : List T}
  {cc : ConsensusChange} {objs : List ObjectID}

theorem setID_ne (ha : Admitted C P mo tp ts txnFn S tp' F cc objs) {c : TransactionSetID}
    (hc : c ∈ tp.transactionSets) : c ≠ C.setID S := by
  rintro rfl; exact ha.fresh hc

theorem transactionSets (ha : Admitted C P mo tp ts txnFn S tp' F cc objs)
    (k : TransactionSetID) :
    tp'.transactionSets.lookup k =
      if k = C.setID S then some S
      else if k ∈ mergedSets C mo tp F then none else tp.transactionSets.lookup k := by
  rw [ha.pool, install_transactionSets, evicts_transactionSets]

theorem transactionSetDiffs (ha : Admitted C P mo tp ts txnFn S tp' F cc objs)
    (k : TransactionSetID) :
    tp'.transactionSetDiffs.lookup k =
      if k = C.setID S then some cc
      else if k ∈ mergedSets C mo tp F then none else tp.transactionSetDiffs.lookup k := by
  rw [ha.pool, install_transactionSetDiffs, evicts_transactionSetDiffs]

theorem knownObjects (ha : Admitted C P mo tp ts txnFn S tp' F cc objs) (o : ObjectID) :
    tp'.knownObjects.lookup o = if o ∈ objs then some (C.setID S) else tp.knownObjects.lookup o := by
  rw [ha.pool, install_knownObjects, (evicts_frame C _).1]

theorem transactionListSize (ha : Admitted C P mo tp ts txnFn S tp' F cc objs) :
    tp'.transactionListSize = tp.transactionListSize -
      ((mergedSets C mo tp F).map fun c => (C.encodedLen (tp.setOf c) : ℤ)).sum + C.encodedLen S := by
  rw [ha.pool, install_transactionListSize, evicts_transactionListSize C _ (mergedSets_nodup F)]

theorem transactionHeights_of_lookup (ha : Admitted C P mo tp ts txnFn S tp' F cc objs)
    {x : TransactionID} {v : ℕ} (hx : tp.transactionHeights.lookup x = some v) :
    tp'.transactionHeights.lookup x = some v := by
  rw [ha.pool]
  exact install_transactionHeights_of_lookup C _ _ _ _ (by rwa [(evicts_frame C _).2.1])

theorem mem_transactionHeights (ha : Admitted C P mo tp ts txnFn S tp' F cc objs) {t : T}
    (ht : t ∈ S) : C.id t ∈ tp'.transactionHeights := by
  rw [ha.pool]; exact mem_install_transactionHeights C _ _ _ _ ht

theorem mem_superset_of_merged (ha : Admitted C P mo tp ts txnFn S tp' F cc objs)
    {k : TransactionSetID} {t : T} (hk : k ∈ mergedSets C mo tp F) (ht : t ∈ tp.setOf k) :
    t ∈ S := by
  rw [ha.superset]; exact List.mem_append_left _ (List.mem_flatMap.2 ⟨k, hk, ht⟩)

theorem mem_superset_of_remainder (ha : Admitted C P mo tp ts txnFn S tp' F cc objs) {t : T}
    (ht : t ∈ F) : t ∈ S := by
  rw [ha.superset]; exact List.mem_append_right _ ht

theorem mem_of_mem_remainder (ha : Admitted C P mo tp ts txnFn S tp' F cc objs) {t : T}
    (ht : t ∈ F) : t ∈ ts := by
  rw [ha.remainder_eq] at ht; exact (List.mem_filter.1 ht).1

/-- A candidate transaction outside the remainder has its id in a conflicting set. -/
theorem held_of_not_mem_remainder (ha : Admitted C P mo tp ts txnFn S tp' F cc objs) {t : T}
    (ht : t ∈ ts) (hF : t ∉ F) :
    ∃ c ∈ tp.conflictsOf (relatedObjectIDs C mo ts), ∃ t' ∈ tp.setOf c, C.id t' = C.id t := by
  rw [ha.remainder_eq, remainder] at hF
  simpa [List.mem_filter, ht, mem_conflictMapOf] using hF

end Admitted

/-! ## Runs of calls -/

variable (C P) in
/-- One call of `acceptTransactionSet`, with any map order, confirmed lookup and candidate,
and a callback that `ok` allows. -/
def AcceptStep (ok : TxnFn T → Prop) (tp tp' : TransactionPool T) : Prop :=
  ∃ (mo : MapOrder) (confirmed : TransactionID → Bool) (ts : List T) (txnFn : TxnFn T),
    ok txnFn ∧ tp' = (acceptTransactionSet C P mo confirmed tp ts txnFn).2

variable (C P) in
/-- The pools that calls allowed by `ok` reach from an empty pool. -/
def Reachable (ok : TxnFn T → Prop) (tp : TransactionPool T) : Prop :=
  ∃ h, Relation.ReflTransGen (AcceptStep C P ok) (TransactionPool.empty h) tp

/-- An invariant of the empty pool that every admission keeps holds along every run. -/
theorem AcceptStep.run_inv {ok : TxnFn T → Prop} {Inv : TransactionPool T → Prop}
    (hstep : ∀ {tp : TransactionPool T} {mo : MapOrder} {confirmed : TransactionID → Bool}
      {ts : List T} {txnFn : TxnFn T} {S : List T} {tp' : TransactionPool T} {F : List T}
      {cc : ConsensusChange} {objs : List ObjectID}, Inv tp → ok txnFn →
      Admitted C P mo tp (ts.filter fun t => !confirmed (C.id t)) txnFn S tp' F cc objs →
        Inv tp')
    {tp tp' : TransactionPool T} (h : Relation.ReflTransGen (AcceptStep C P ok) tp tp')
    (hi : Inv tp) : Inv tp' := by
  induction h with
  | refl => exact hi
  | tail _ hs ih =>
    obtain ⟨mo, confirmed, ts, txnFn, hok, rfl⟩ := hs
    rcases acceptTransactionSet_cases C P mo confirmed _ ts txnFn with
      ⟨e, he⟩ | ⟨S, tp', F, cc, objs, he, hadm⟩
    · rw [he]; exact ih
    · rw [he]; exact hstep ih hok hadm

/-! ## A concrete pool

Transactions that are their own ids. Transaction `2` spends the output of transaction
`1` and `5` that of `4`; every transaction creates one output whose id is its own, and
each encodes to 150 bytes. Transaction `3` declares two fees of `2^127`, and `4` and `5`
one each. Every set is standard, and from 250 bytes on the pool charges 10 per byte. -/

/-- The transactions of the concrete pool. -/
def demoCore : Core Hash256 where
  id t := t
  siacoinInputs t := if t = 2 then [1] else if t = 5 then [4] else []
  siacoinOutputs _ := 1
  siacoinOutputID t _ := t
  fileContracts _ := 0
  fileContractID _ _ := 0
  fileContractRevisions _ := []
  storageProofs _ := []
  siafundInputs _ := []
  siafundOutputs _ := 0
  siafundOutputID _ _ := 0
  minerFees t := if t = 3 then [Currency.ofNat (2 ^ 127), Currency.ofNat (2 ^ 127)]
    else if t = 4 ∨ t = 5 then [Currency.ofNat (2 ^ 127)] else []
  setID S := S.foldl (fun h t => 31 * h + t + 1) 0
  encodedLen S := 8 + 150 * S.length

/-- The concrete pool's policy. -/
def demoPolicy : Policy Hash256 where
  isStandard _ := true
  transactionPoolSizeForFee := 250
  requiredFeesToExtendTpoolAtSize _ := Currency.ofNat 10

/-- A callback that accepts every set and reports exactly the objects it relates. -/
def demoTxnFn : TxnFn Hash256 := fun x => .ok ⟨x.flatMap demoCore.objects, [], []⟩

/-- `range` in the order the keys are listed. -/
def MapOrder.keep : MapOrder := ⟨id, List.Perm.refl⟩

/-- The concrete pool after transaction `1` alone was accepted into an empty pool. -/
def demoPool1 : TransactionPool Hash256 :=
  (acceptTransactionSet demoCore demoPolicy MapOrder.keep (fun _ => false)
    (TransactionPool.empty 0) [1] demoTxnFn).2

/-- The concrete pool after transaction `2`, which spends the output of `1`, was merged
with the set holding `1`. -/
def demoPool2 : TransactionPool Hash256 :=
  (mergeConflicts demoCore demoPolicy MapOrder.keep demoPool1
    (conflictMapOf demoCore demoPool1 [2]) [2] demoTxnFn).2

/-- Accepting `2` after `1` merges the two into the superset `[1, 2]`. -/
theorem demoPool1_accept_two :
    acceptTransactionSet demoCore demoPolicy MapOrder.keep (fun _ => false) demoPool1 [2]
      demoTxnFn = (.ok [1, 2], demoPool2) := by
  rw [show acceptTransactionSet demoCore demoPolicy MapOrder.keep (fun _ => false) demoPool1 [2]
      demoTxnFn = handleConflicts demoCore demoPolicy MapOrder.keep demoPool1 [2] [2] demoTxnFn
    from rfl, handleConflicts]
  rfl

/-- A set whose fees overflow is rejected, and the pool is left as it was. -/
theorem acceptTransactionSet_overflow_unchanged :
    (acceptTransactionSet demoCore demoPolicy MapOrder.keep (fun _ => false)
        (TransactionPool.empty 0) [3] demoTxnFn).1 = .error .overflow ∧
      (acceptTransactionSet demoCore demoPolicy MapOrder.keep (fun _ => false)
        (TransactionPool.empty 0) [3] demoTxnFn).2 = TransactionPool.empty 0 :=
  ⟨rfl, acceptTransactionSet_error_unchanged _ _ _ rfl⟩

/-- Against the pool holding `[1]`, the candidate `[1, 2]` is pruned to `[2]` and the resolver
opens two frames. -/
theorem handleConflicts_depth_le_two_demo :
    remainder demoCore MapOrder.keep demoPool1 [1, 2] = [2] ∧
    handleConflictsDepth demoCore MapOrder.keep demoPool1 [1, 2]
      (demoPool1.conflictsOf (relatedObjectIDs demoCore MapOrder.keep [1, 2])) = 2 := by
  refine ⟨by decide, le_antisymm (handleConflicts_depth_le_two [1, 2]).2.2.2 ?_⟩
  rw [handleConflictsDepth, handleConflictsDepth]
  decide

end SiaSatellite
