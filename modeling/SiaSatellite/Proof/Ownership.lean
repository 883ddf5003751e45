import SiaSatellite.Proof.Accounting

/-!
# Who owns an object

`knownObjects` maps every object a live set spends or creates to that set. Eviction in
`handleConflicts` leaves the merged sets' entries behind; they are right again only
because the superset the merge installs relates every object of every merged set, and
the install path writes all of them to the superset's id. Two facts carry this, and the
main theorem assumes both:

* `LedgerContract`: a callback that accepts a set reports as its diffs exactly the
  objects the set relates, so the two install paths (`relatedObjectIDs` in
  `acceptTransactionSet`, the diffs in `handleConflicts`) write the same objects.
* `IdsBindObjects`: transactions with one id spend and create the same objects. A Sia
  transaction id hashes the transaction's inputs and outputs, so this is collision
  resistance of that hash.

Results:

* `owner_mem_mergedSets`: every live set owning an object of the remainder is among the
  sets a merge removes.
* `reachable_knownObjects`: in every pool reached from an empty pool by calls whose
  callbacks keep the contract, `knownObjects` is exactly the ownership map of the live
  sets, and no object belongs to two live sets.
-/

namespace SiaSatellite

variable {T : Type} {C : Core T} {P : Policy T} {mo : MapOrder} {tp : TransactionPool T}

open TransactionPool

variable (C) in
/-- The ledger contract: an accepted set's diffs are exactly the objects it relates. -/
def LedgerContract (txnFn : TxnFn T) : Prop :=
  ∀ x cc, txnFn x = .ok cc → ∀ o, o ∈ cc.diffIDs ↔ ∃ t ∈ x, o ∈ C.objects t

variable (C) in
/-- Transaction ids determine the objects a transaction relates. -/
def IdsBindObjects : Prop :=
  ∀ t t', C.id t = C.id t' → ∀ o, o ∈ C.objects t ↔ o ∈ C.objects t'

variable (C) in
/-- `knownObjects` is the ownership map of the live sets. -/
structure Owns (tp : TransactionPool T) : Prop where
  owned : ∀ k, ∀ t ∈ tp.setOf k, ∀ o ∈ C.objects t, tp.knownObjects.lookup o = some k
  live : ∀ o k, tp.knownObjects.lookup o = some k → ∃ t ∈ tp.setOf k, o ∈ C.objects t

theorem Owns.empty (h : ℕ) : Owns C (TransactionPool.empty h : TransactionPool T) where
  owned _ _ ht := by simp [TransactionPool.setOf, TransactionPool.empty] at ht
  live _ _ hk := by simp [TransactionPool.empty] at hk

/-- **A live set owning an object of the remainder is merged.** The set `conflictMap` maps
that transaction's id to holds a transaction with the same id, so with the same objects,
and so it is the owner. -/
theorem owner_mem_mergedSets (hown : Owns C tp) (hbind : IdsBindObjects C) {F : List T}
    {o : ObjectID} {k : TransactionSetID} (ho : o ∈ relatedObjectIDs C mo F)
    (hk : tp.knownObjects.lookup o = some k) : k ∈ mergedSets C mo tp F := by
  obtain ⟨t, ht, hot⟩ := hown.live o k hk
  have hx : C.id t ∈ conflictMapOf C tp (tp.conflictsOf (relatedObjectIDs C mo F)) :=
    mem_conflictMapOf.2 ⟨k, mem_conflictsOf.2 ⟨o, ho, hk⟩, t, ht, rfl⟩
  obtain ⟨c, hc⟩ := exists_lookup_of_mem hx
  obtain ⟨-, t', ht', hid⟩ := conflictMapOf_lookup hc
  have hck : c = k := Option.some_injective _ <|
    (hown.owned c t' ht' o ((hbind t' t hid o).2 hot)).symm.trans hk
  exact MapOrder.mem_order.2 (mem_supersetKeys.2 ⟨C.id t, hck ▸ hc⟩)

section Step

variable {ts : List T} {txnFn : TxnFn T} {S : List T} {tp' : TransactionPool T} {F : List T}
  {cc : ConsensusChange} {objs : List ObjectID}

/-- Both install paths write exactly the objects of the new set. -/
theorem Admitted.mem_objs (ha : Admitted C P mo tp ts txnFn S tp' F cc objs)
    (hc : LedgerContract C txnFn) {o : ObjectID} : o ∈ objs ↔ ∃ t ∈ S, o ∈ C.objects t := by
  rcases ha.objs_eq with rfl | rfl
  · exact hc S cc ha.valid o
  · exact mem_relatedObjectIDs

/-- An object of the new set was owned, if at all, by a merged set. -/
theorem Admitted.owner_merged (ha : Admitted C P mo tp ts txnFn S tp' F cc objs)
    (hc : LedgerContract C txnFn) (hown : Owns C tp) (hbind : IdsBindObjects C) {o : ObjectID}
    {k : TransactionSetID} (ho : o ∈ objs) (hk : tp.knownObjects.lookup o = some k) :
    k ∈ mergedSets C mo tp F := by
  obtain ⟨t, ht, hot⟩ := (ha.mem_objs hc).1 ho
  rw [ha.superset, List.mem_append, List.mem_flatMap] at ht
  rcases ht with ⟨c, hm, htc⟩ | hF
  · rwa [← Option.some_injective _ ((hown.owned c t htc o hot).symm.trans hk)]
  · exact owner_mem_mergedSets hown hbind (mem_relatedObjectIDs.2 ⟨t, hF, hot⟩) hk

/-- **A successful call keeps `knownObjects` the ownership map.** -/
theorem Owns.step (hown : Owns C tp) (hbind : IdsBindObjects C) (hc : LedgerContract C txnFn)
    (ha : Admitted C P mo tp ts txnFn S tp' F cc objs) : Owns C tp' where
  owned k t ht o hot := by
    rw [ha.knownObjects]
    rw [ha.setOf] at ht
    split_ifs at ht with h1 h2
    · subst h1; rw [if_pos ((ha.mem_objs hc).2 ⟨t, ht, hot⟩)]
    · cases ht
    · have hk := hown.owned k t ht o hot
      rwa [if_neg fun ho => h2 (ha.owner_merged hc hown hbind ho hk)]
  live o k hk := by
    rw [ha.knownObjects] at hk
    split_ifs at hk with ho
    · cases hk
      obtain ⟨t, ht, hot⟩ := (ha.mem_objs hc).1 ho
      exact ⟨t, by rwa [ha.setOf_new], hot⟩
    · obtain ⟨t, ht, hot⟩ := hown.live o k hk
      have hm : k ∉ mergedSets C mo tp F := fun hm => ho <| (ha.mem_objs hc).2
        ⟨t, by rw [ha.superset]; exact List.mem_append_left _ (List.mem_flatMap.2 ⟨k, hm, ht⟩),
          hot⟩
      exact ⟨t, by rwa [ha.setOf, if_neg (ha.setID_ne (mem_of_mem_setOf ht)), if_neg hm], hot⟩

end Step

/-- The ownership map is kept along every run whose callbacks keep the contract. -/
theorem Owns.of_reachable (hbind : IdsBindObjects C) (h : Reachable C P (LedgerContract C) tp) :
    Owns C tp :=
  let ⟨h0, hr⟩ := h
  AcceptStep.run_inv (fun hi hc ha => hi.step hbind hc ha) hr (Owns.empty h0)

/-- **`knownObjects` is the ownership map of the live sets in every reachable pool.** Every
object a live set relates is mapped to that set, every key is an object of the live set it
is mapped to, and no object belongs to two live sets. -/
theorem reachable_knownObjects (hbind : IdsBindObjects C)
    (h : Reachable C P (LedgerContract C) tp) :
    (∀ k S, tp.transactionSets.lookup k = some S →
        ∀ o ∈ relatedObjectIDs C mo S, tp.knownObjects.lookup o = some k) ∧
      (∀ o ∈ tp.knownObjects, ∃ k S, tp.transactionSets.lookup k = some S ∧
        tp.knownObjects.lookup o = some k ∧ o ∈ relatedObjectIDs C mo S) ∧
      (∀ k k' S S', tp.transactionSets.lookup k = some S → tp.transactionSets.lookup k' = some S' →
        ∀ o, o ∈ relatedObjectIDs C mo S → o ∈ relatedObjectIDs C mo S' → k = k') := by
  have hown := Owns.of_reachable hbind h
  have howned : ∀ k S, tp.transactionSets.lookup k = some S →
      ∀ o ∈ relatedObjectIDs C mo S, tp.knownObjects.lookup o = some k := fun k S hk o ho => by
    obtain ⟨t, ht, hot⟩ := mem_relatedObjectIDs.1 ho
    exact hown.owned k t (by simp [TransactionPool.setOf, hk, ht]) o hot
  refine ⟨howned, fun o ho => ?_, fun k k' S S' hk hk' o ho ho' => ?_⟩
  · obtain ⟨k, hk⟩ := exists_lookup_of_mem ho
    obtain ⟨t, ht, hot⟩ := hown.live o k hk
    exact ⟨k, tp.setOf k, lookup_setOf (mem_of_mem_setOf ht), hk,
      mem_relatedObjectIDs.2 ⟨t, ht, hot⟩⟩
  · exact Option.some_injective _ ((howned k S hk o ho).symm.trans (howned k' S' hk' o ho'))

theorem demoCore_idsBindObjects : IdsBindObjects demoCore := fun _ _ h _ => by
  cases (h : _ = _); exact Iff.rfl

theorem demoTxnFn_ledgerContract : LedgerContract demoCore demoTxnFn := fun _ _ h _ => by
  cases h; simp [ConsensusChange.diffIDs]

theorem demoPool1_reachable : Reachable demoCore demoPolicy (LedgerContract demoCore) demoPool1 :=
  ⟨0, .single ⟨MapOrder.keep, fun _ => false, [1], demoTxnFn, demoTxnFn_ledgerContract, rfl⟩⟩

/-- In the pool reached by accepting transaction `1` with a callback that keeps the
contract, `knownObjects` is the ownership map. -/
theorem demoPool1_knownObjects :
    IdsBindObjects demoCore ∧ Reachable demoCore demoPolicy (LedgerContract demoCore) demoPool1 ∧
      ((∀ k S, demoPool1.transactionSets.lookup k = some S →
          ∀ o ∈ relatedObjectIDs demoCore MapOrder.keep S, demoPool1.knownObjects.lookup o = some k) ∧
        (∀ o ∈ demoPool1.knownObjects, ∃ k S, demoPool1.transactionSets.lookup k = some S ∧
          demoPool1.knownObjects.lookup o = some k ∧ o ∈ relatedObjectIDs demoCore MapOrder.keep S) ∧
        (∀ k k' S S', demoPool1.transactionSets.lookup k = some S →
          demoPool1.transactionSets.lookup k' = some S' → ∀ o, o ∈ relatedObjectIDs demoCore
            MapOrder.keep S → o ∈ relatedObjectIDs demoCore MapOrder.keep S' → k = k')) :=
  ⟨demoCore_idsBindObjects, demoPool1_reachable,
    reachable_knownObjects demoCore_idsBindObjects demoPool1_reachable⟩

/-! ## What a merge installs -/

/-- The remainder is the candidate without the transactions whose ids a conflicting set
holds. -/
theorem remainder_eq_filter (ts : List T) :
    remainder C mo tp ts = ts.filter fun t => !((tp.conflictsOf (relatedObjectIDs C mo ts)).any
      fun c => (tp.setOf c).any fun t' => C.id t' == C.id t) :=
  List.filter_congr fun t _ => by
    rw [Bool.eq_iff_iff]; simp [mem_conflictMapOf]

/-- **The set a successful call installs and returns.** For every order of `supersetMap`,
it is the complete lists of the distinct sets owning an object of the remainder, each
once and in a row, followed by the remainder: the unconfirmed candidate transactions whose
ids no conflicting set holds, in their order. Those sets are live before the call and
gone after it, and the result is stored under its hash. Without conflicts there are no such
sets and the result is the unconfirmed candidate. -/
theorem acceptTransactionSet_superset (hown : Owns C tp) (hbind : IdsBindObjects C)
    (confirmed : TransactionID → Bool) (ts : List T) (txnFn : TxnFn T) {S : List T}
    {tp' : TransactionPool T}
    (h : acceptTransactionSet C P mo confirmed tp ts txnFn = (.ok S, tp')) :
    let u := ts.filter fun t => !confirmed (C.id t)
    let F := u.filter fun t => !((tp.conflictsOf (relatedObjectIDs C mo u)).any
      fun c => (tp.setOf c).any fun t' => C.id t' == C.id t)
    ∃ keys : List TransactionSetID, keys.Nodup ∧
      (∀ c, c ∈ keys ↔ ∃ o ∈ relatedObjectIDs C mo F, tp.knownObjects.lookup o = some c) ∧
      S = keys.flatMap tp.setOf ++ F ∧ tp'.transactionSets.lookup (C.setID S) = some S ∧
      ∀ c ∈ keys, c ∈ tp.transactionSets ∧ tp'.transactionSets.lookup c = none := by
  intro u F
  rcases acceptTransactionSet_cases C P mo confirmed tp ts txnFn with
    ⟨e, he⟩ | ⟨S', tp'', F', cc, objs, he, ha⟩
  · rw [he] at h; cases h
  rw [he] at h
  cases h
  have hF : F' = F := ha.remainder_eq.trans (remainder_eq_filter _)
  subst hF
  refine ⟨mergedSets C mo tp F, mergedSets_nodup F, fun c => ⟨fun hc => ?_, fun ⟨o, ho, hk⟩ =>
    owner_mem_mergedSets hown hbind ho hk⟩, ha.superset, ha.lookup_new,
    fun c hc => ⟨live_of_mem_mergedSets hc, ?_⟩⟩
  · exact mem_conflictsOf.1 (mem_supersetKeys_conflictMapOf (MapOrder.mem_order.1 hc)).1
  · rw [ha.transactionSets, if_neg (ha.setID_ne (live_of_mem_mergedSets hc)), if_pos hc]

/-- Accepting `2`, which spends the output of `1`, after `1` installs `[1, 2]` and removes
the set holding `1`. -/
theorem demoPool1_superset :
    Owns demoCore demoPool1 ∧ IdsBindObjects demoCore ∧
      acceptTransactionSet demoCore demoPolicy MapOrder.keep (fun _ => false) demoPool1 [2]
        demoTxnFn = (.ok [1, 2], demoPool2) ∧
      let u := ([2] : List Hash256).filter fun t => !(fun _ => false) (demoCore.id t)
      let F := u.filter fun t => !((demoPool1.conflictsOf
        (relatedObjectIDs demoCore MapOrder.keep u)).any
          fun c => (demoPool1.setOf c).any fun t' => demoCore.id t' == demoCore.id t)
      ∃ keys : List TransactionSetID, keys.Nodup ∧
        (∀ c, c ∈ keys ↔ ∃ o ∈ relatedObjectIDs demoCore MapOrder.keep F,
          demoPool1.knownObjects.lookup o = some c) ∧
        [1, 2] = keys.flatMap demoPool1.setOf ++ F ∧
        demoPool2.transactionSets.lookup (demoCore.setID [1, 2]) = some [1, 2] ∧
        ∀ c ∈ keys, c ∈ demoPool1.transactionSets ∧ demoPool2.transactionSets.lookup c = none :=
  have hown := Owns.of_reachable demoCore_idsBindObjects demoPool1_reachable
  have hs := acceptTransactionSet_superset hown demoCore_idsBindObjects (fun _ => false) [2]
    demoTxnFn demoPool1_accept_two
  ⟨hown, demoCore_idsBindObjects, demoPool1_accept_two, hs⟩

end SiaSatellite
