import SiaSatellite.Proof.AcceptStep

/-!
# The pool's books

What the pool records beside its live sets stays in step with them, over every run of
calls and whatever the callback reports:

* `reachable_books`: in every pool that calls reach from an empty pool,
  `transactionListSize` is the sum of the encoded sizes of the live sets,
  `transactionSetDiffs` has exactly the keys of `transactionSets`, every live set is
  stored under its own `setID` and is not empty, and each of its transactions has a
  first-seen height in `transactionHeights`; a height once recorded is never changed by a
  later call.
* `acceptTransactionSet_heldIDs`: a successful call adds to the transaction ids the live
  sets hold exactly the ids of the candidate's unconfirmed transactions. A merge drops no
  transaction of a set it evicts, and a candidate transaction pruned as a duplicate is
  still held by a live set.

Both are derived from `Admitted`, which says once what a successful call does.
-/

namespace SiaSatellite

variable {T : Type} {C : Core T} {P : Policy T} {mo : MapOrder} {tp : TransactionPool T}

open TransactionPool

/-! ## The live sets -/

/-- A live set is what `setOf` returns for its key. -/
theorem lookup_setOf {c : TransactionSetID} (hc : c ∈ tp.transactionSets) :
    tp.transactionSets.lookup c = some (tp.setOf c) := by
  obtain ⟨s, hs⟩ := exists_lookup_of_mem hc
  simp [TransactionPool.setOf, hs]

variable (C) in
/-- The sum of the encoded sizes of the live sets. -/
def poolBytes (tp : TransactionPool T) : ℤ :=
  (tp.transactionSets.entries.map fun e => (C.encodedLen e.2 : ℤ)).sum

/-- Evicting a live set takes its size off the live bytes. -/
theorem poolBytes_evict {c : TransactionSetID} (hc : c ∈ tp.transactionSets) :
    poolBytes C (tp.evict C c) = poolBytes C tp - C.encodedLen (tp.setOf c) := by
  obtain ⟨b, l₁, l₂, -, he, hke⟩ := List.exists_of_kerase (AList.mem_keys.1 hc)
  have hb : tp.setOf c = b := by
    have : tp.transactionSets.lookup c = some b := AList.mem_lookup_iff.2 (by simp [he])
    simp [TransactionPool.setOf, this]
  unfold poolBytes
  show ((tp.transactionSets.entries.kerase c).map _).sum = _
  rw [hke, he, hb]
  simp only [List.map_append, List.map_cons, List.sum_append, List.sum_cons]
  omega

/-- Evicting distinct live sets takes their sizes off the live bytes. -/
theorem poolBytes_evicts (keys : List TransactionSetID) (hnd : keys.Nodup)
    (hlive : ∀ c ∈ keys, c ∈ tp.transactionSets) :
    poolBytes C (keys.foldl (evict C) tp) =
      poolBytes C tp - (keys.map fun c => (C.encodedLen (tp.setOf c) : ℤ)).sum := by
  induction keys generalizing tp with
  | nil => simp
  | cons c keys ih =>
    obtain ⟨hc, hnd⟩ := List.nodup_cons.1 hnd
    have hne : ∀ k ∈ keys, k ≠ c := fun k hk h => hc (h ▸ hk)
    have hs : ∀ k ∈ keys, (tp.evict C c).setOf k = tp.setOf k := fun k hk => by
      simp [TransactionPool.setOf, hne k hk]
    rw [List.foldl_cons, ih hnd fun k hk => ?_, List.map_congr_left fun k hk => by rw [hs k hk],
      poolBytes_evict (hlive c (List.mem_cons_self c keys))]
    · simp only [List.map_cons, List.sum_cons]; omega
    · exact AList.mem_erase.2 ⟨hne k hk, hlive k (List.mem_cons_of_mem c hk)⟩

/-- Installing under a fresh key adds the set's size to the live bytes. -/
theorem poolBytes_install {id : TransactionSetID} {S : List T} (objs : List ObjectID)
    (cc : ConsensusChange) (h : id ∉ tp.transactionSets) :
    poolBytes C (tp.install C id S objs cc) = poolBytes C tp + C.encodedLen S := by
  simp only [poolBytes, install, AList.insert_entries_of_neg h, List.map_cons, List.sum_cons]
  omega

/-! ## The books invariant -/

variable (C) in
/-- What the pool's maps and counters say about its live sets. -/
structure Books (tp : TransactionPool T) : Prop where
  size : tp.transactionListSize = poolBytes C tp
  diffs : ∀ k, k ∈ tp.transactionSetDiffs ↔ k ∈ tp.transactionSets
  keys : ∀ k S, tp.transactionSets.lookup k = some S → C.setID S = k
  ne_nil : ∀ k S, tp.transactionSets.lookup k = some S → S ≠ []
  heights : ∀ k S, tp.transactionSets.lookup k = some S → ∀ t ∈ S, C.id t ∈ tp.transactionHeights

theorem Books.empty (h : ℕ) : Books C (TransactionPool.empty h : TransactionPool T) where
  size := rfl
  diffs _ := by simp [TransactionPool.empty]
  keys _ _ hk := by simp [TransactionPool.empty] at hk
  ne_nil _ _ hk := by simp [TransactionPool.empty] at hk
  heights _ _ hk := by simp [TransactionPool.empty] at hk

section Step

variable {ts : List T} {txnFn : TxnFn T} {S : List T} {tp' : TransactionPool T} {F : List T}
  {cc : ConsensusChange} {objs : List ObjectID}

/-- A height recorded before a successful call is still there after it. -/
theorem Admitted.mem_transactionHeights_of_mem
    (ha : Admitted C P mo tp ts txnFn S tp' F cc objs) {x : TransactionID}
    (hx : x ∈ tp.transactionHeights) : x ∈ tp'.transactionHeights := by
  obtain ⟨v, hv⟩ := exists_lookup_of_mem hx
  exact mem_of_lookup_eq_some (ha.transactionHeights_of_lookup hv)

theorem Admitted.poolBytes (ha : Admitted C P mo tp ts txnFn S tp' F cc objs) :
    poolBytes C tp' = poolBytes C tp -
      ((mergedSets C mo tp F).map fun c => (C.encodedLen (tp.setOf c) : ℤ)).sum +
        C.encodedLen S := by
  have hfresh : C.setID S ∉ ((mergedSets C mo tp F).foldl (evict C) tp).transactionSets := by
    rw [← AList.lookup_eq_none, evicts_transactionSets, AList.lookup_eq_none.2 ha.fresh,
      ite_self]
  rw [ha.pool, poolBytes_install _ _ hfresh,
    poolBytes_evicts _ (mergedSets_nodup F) fun _ hc => live_of_mem_mergedSets hc]

theorem Admitted.lookup_new (ha : Admitted C P mo tp ts txnFn S tp' F cc objs) :
    tp'.transactionSets.lookup (C.setID S) = some S := by
  rw [ha.transactionSets, if_pos rfl]

/-- A set of the pool after a successful call is the new set or one the pool held before
under the same key. -/
theorem Admitted.lookup_cases (ha : Admitted C P mo tp ts txnFn S tp' F cc objs)
    {k : TransactionSetID} {S' : List T} (hk : tp'.transactionSets.lookup k = some S') :
    k = C.setID S ∧ S' = S ∨ tp.transactionSets.lookup k = some S' := by
  rw [ha.transactionSets] at hk
  split_ifs at hk with h1
  · exact .inl ⟨h1, (Option.some.inj hk).symm⟩
  · exact .inr hk

theorem Admitted.setOf (ha : Admitted C P mo tp ts txnFn S tp' F cc objs)
    (k : TransactionSetID) :
    tp'.setOf k =
      if k = C.setID S then S else if k ∈ mergedSets C mo tp F then [] else tp.setOf k := by
  simp only [TransactionPool.setOf, ha.transactionSets k]
  split_ifs <;> rfl

theorem Admitted.setOf_new (ha : Admitted C P mo tp ts txnFn S tp' F cc objs) :
    tp'.setOf (C.setID S) = S := by
  rw [ha.setOf, if_pos rfl]

/-- A transaction of a set of the pool is, after a successful call, in the new set if its
set was merged and in its own set otherwise. -/
theorem Admitted.mem_setOf_successor (ha : Admitted C P mo tp ts txnFn S tp' F cc objs)
    {k : TransactionSetID} {t : T} (ht : t ∈ tp.setOf k) :
    t ∈ tp'.setOf (if k ∈ mergedSets C mo tp F then C.setID S else k) := by
  split_ifs with hm
  · rw [ha.setOf_new]; exact ha.mem_superset_of_merged hm ht
  · rwa [ha.setOf, if_neg (ha.setID_ne (mem_of_mem_setOf ht)), if_neg hm]

/-- **A successful call keeps the books.** -/
theorem Books.step (hb : Books C tp) (ha : Admitted C P mo tp ts txnFn S tp' F cc objs) :
    Books C tp' where
  size := by rw [ha.transactionListSize, ha.poolBytes, hb.size]
  diffs k := by
    rw [← AList.lookup_isSome, ← AList.lookup_isSome, ha.transactionSets,
      ha.transactionSetDiffs]
    split_ifs
    · exact Iff.rfl
    · exact Iff.rfl
    · rw [AList.lookup_isSome, AList.lookup_isSome, hb.diffs]
  keys k S' hk := by
    rcases ha.lookup_cases hk with ⟨rfl, rfl⟩ | hk
    · rfl
    · exact hb.keys k S' hk
  ne_nil k S' hk := by
    rcases ha.lookup_cases hk with ⟨-, rfl⟩ | hk
    · rw [ha.superset]; exact List.append_ne_nil_of_right_ne_nil _ ha.ne_nil
    · exact hb.ne_nil k S' hk
  heights k S' hk t ht := by
    rcases ha.lookup_cases hk with ⟨-, rfl⟩ | hk
    · exact ha.mem_transactionHeights ht
    · exact ha.mem_transactionHeights_of_mem (hb.heights k S' hk t ht)

end Step

/-- **The books hold in every reachable pool, and recorded heights are never changed.** -/
theorem reachable_books {ok : TxnFn T → Prop} (h : Reachable C P ok tp) :
    Books C tp ∧ ∀ x v, tp.transactionHeights.lookup x = some v →
      ∀ tp', Relation.ReflTransGen (AcceptStep C P ok) tp tp' →
        tp'.transactionHeights.lookup x = some v :=
  ⟨let ⟨h0, hr⟩ := h; AcceptStep.run_inv (fun hb _ ha => hb.step ha) hr (Books.empty h0),
    fun _ _ hx _ hr => AcceptStep.run_inv (fun hi _ ha => ha.transactionHeights_of_lookup hi) hr hx⟩

/-- The pool reached by accepting transaction `1` keeps the books. -/
theorem demoPool1_books :
    Reachable demoCore demoPolicy (fun _ => True) demoPool1 ∧
      (Books demoCore demoPool1 ∧ ∀ x v, demoPool1.transactionHeights.lookup x = some v →
        ∀ tp', Relation.ReflTransGen (AcceptStep demoCore demoPolicy fun _ => True) demoPool1 tp' →
          tp'.transactionHeights.lookup x = some v) :=
  have hr : Reachable demoCore demoPolicy (fun _ => True) demoPool1 :=
    ⟨0, .single ⟨MapOrder.keep, fun _ => false, [1], demoTxnFn, trivial, rfl⟩⟩
  ⟨hr, reachable_books hr⟩

/-! ## The transactions the pool holds -/

variable (C) in
/-- The ids of the transactions of the live sets. -/
def heldIDs (tp : TransactionPool T) : List TransactionID :=
  tp.transactionSets.entries.flatMap fun e => e.2.map C.id

theorem mem_heldIDs {x : TransactionID} :
    x ∈ heldIDs C tp ↔ ∃ c, ∃ t ∈ tp.setOf c, C.id t = x := by
  simp only [heldIDs, List.mem_flatMap, List.mem_map]
  constructor
  · rintro ⟨⟨c, s⟩, he, t, ht, rfl⟩
    have : tp.transactionSets.lookup c = some s := AList.mem_lookup_iff.2 he
    exact ⟨c, t, by simpa [TransactionPool.setOf, this] using ht, rfl⟩
  · rintro ⟨c, t, ht, rfl⟩
    exact ⟨⟨c, tp.setOf c⟩, AList.mem_lookup_iff.1 (lookup_setOf (mem_of_mem_setOf ht)), t, ht, rfl⟩

/-- What a successful call does to the held ids. -/
theorem Admitted.mem_heldIDs {ts : List T} {txnFn : TxnFn T} {S : List T}
    {tp' : TransactionPool T} {F : List T} {cc : ConsensusChange} {objs : List ObjectID}
    (ha : Admitted C P mo tp ts txnFn S tp' F cc objs) (x : TransactionID) :
    x ∈ heldIDs C tp' ↔ x ∈ heldIDs C tp ∨ ∃ t ∈ ts, C.id t = x := by
  simp only [SiaSatellite.mem_heldIDs]
  constructor
  · rintro ⟨k, t, ht, rfl⟩
    rw [ha.setOf] at ht
    split_ifs at ht with h1 h2
    · rw [ha.superset, List.mem_append, List.mem_flatMap] at ht
      rcases ht with ⟨c, -, hc⟩ | hF
      · exact .inl ⟨c, t, hc, rfl⟩
      · exact .inr ⟨t, ha.mem_of_mem_remainder hF, rfl⟩
    · cases ht
    · exact .inl ⟨k, t, ht, rfl⟩
  · rintro (⟨c, t, ht, rfl⟩ | ⟨t, ht, rfl⟩)
    · exact ⟨_, t, ha.mem_setOf_successor ht, rfl⟩
    · by_cases hF : t ∈ F
      · exact ⟨C.setID S, t,
          by rw [ha.setOf_new]; exact ha.mem_superset_of_remainder hF, rfl⟩
      · obtain ⟨c, -, t', ht', he⟩ := ha.held_of_not_mem_remainder ht hF
        exact ⟨_, t', ha.mem_setOf_successor ht', he⟩

/-- **A successful call adds exactly the ids of the unconfirmed candidate transactions.** -/
theorem acceptTransactionSet_heldIDs (confirmed : TransactionID → Bool) (ts : List T)
    (txnFn : TxnFn T) {S : List T} {tp' : TransactionPool T}
    (h : acceptTransactionSet C P mo confirmed tp ts txnFn = (.ok S, tp')) (x : TransactionID) :
    x ∈ heldIDs C tp' ↔ x ∈ heldIDs C tp ∨ ∃ t ∈ ts, confirmed (C.id t) = false ∧ C.id t = x := by
  rcases acceptTransactionSet_cases C P mo confirmed tp ts txnFn with
    ⟨e, he⟩ | ⟨S', tp'', F, cc, objs, he, ha⟩
  · rw [he] at h; cases h
  · rw [he] at h
    cases h
    simp [ha.mem_heldIDs x, and_assoc]

/-- Accepting transaction `1` into an empty pool makes the pool hold its id. -/
theorem demoPool1_heldIDs :
    acceptTransactionSet demoCore demoPolicy MapOrder.keep (fun _ => false)
        (TransactionPool.empty 0) [1] demoTxnFn = (.ok [1], demoPool1) ∧
      (1 ∈ heldIDs demoCore demoPool1 ↔ 1 ∈ heldIDs demoCore (TransactionPool.empty 0) ∨
        ∃ t ∈ [(1 : Hash256)], (fun _ => false) (demoCore.id t) = false ∧ demoCore.id t = 1) :=
  have h : acceptTransactionSet demoCore demoPolicy MapOrder.keep (fun _ => false)
      (TransactionPool.empty 0) [1] demoTxnFn = (.ok [1], demoPool1) := rfl
  ⟨h, acceptTransactionSet_heldIDs _ _ _ h 1⟩

end SiaSatellite
