import SiaSatellite.Spec.Accept

/-!
# The pool's operations, one lemma each

Lookups through `install` and `evict`, membership in `relatedObjectIDs`, `conflictsOf`,
`conflictMapOf` and `supersetKeys`, and the fact behind the resolver's pruning comment:
pruning the candidate a second time removes nothing (`filter_conflictMap_idem`).
-/

namespace SiaSatellite

variable {T : Type} {C : Core T} {mo : MapOrder} {tp : TransactionPool T}

theorem MapOrder.mem_order {x : Hash256} {l : List Hash256} : x ∈ mo.order l ↔ x ∈ l :=
  (mo.perm l).mem_iff

theorem MapOrder.order_nil : mo.order [] = [] := List.perm_nil.1 (mo.perm [])

theorem MapOrder.nodup_order {l : List Hash256} (h : l.Nodup) : (mo.order l).Nodup :=
  (mo.perm l).nodup_iff.2 h

theorem mem_relatedObjectIDs {o : ObjectID} {ts : List T} :
    o ∈ relatedObjectIDs C mo ts ↔ ∃ t ∈ ts, o ∈ C.objects t := by
  simp [relatedObjectIDs, MapOrder.mem_order]

theorem relatedObjectIDs_nil : relatedObjectIDs C mo [] = [] := by
  simp [relatedObjectIDs, MapOrder.order_nil]

namespace TransactionPool

theorem mem_conflictsOf {c : TransactionSetID} {oids : List ObjectID} :
    c ∈ tp.conflictsOf oids ↔ ∃ o ∈ oids, tp.knownObjects.lookup o = some c :=
  List.mem_filterMap

/-- A set id with a non-empty set is live. -/
theorem mem_of_mem_setOf {c : TransactionSetID} {t : T} (h : t ∈ tp.setOf c) :
    c ∈ tp.transactionSets := by
  unfold setOf at h
  cases hc : tp.transactionSets.lookup c with
  | none => simp [hc] at h
  | some s => exact mem_of_lookup_eq_some hc

variable (C)

@[simp] theorem install_transactionSets (id : TransactionSetID) (S : List T) (objs cc) (k) :
    (tp.install C id S objs cc).transactionSets.lookup k =
      if k = id then some S else tp.transactionSets.lookup k := by
  by_cases h : k = id
  · subst h; simp [install, AList.lookup_insert]
  · simp [install, AList.lookup_insert_ne h, h]

@[simp] theorem install_transactionSetDiffs (id : TransactionSetID) (S : List T) (objs cc) (k) :
    (tp.install C id S objs cc).transactionSetDiffs.lookup k =
      if k = id then some cc else tp.transactionSetDiffs.lookup k := by
  by_cases h : k = id
  · subst h; simp [install, AList.lookup_insert]
  · simp [install, AList.lookup_insert_ne h, h]

@[simp] theorem install_transactionListSize (id : TransactionSetID) (S : List T) (objs cc) :
    (tp.install C id S objs cc).transactionListSize = tp.transactionListSize + C.encodedLen S :=
  rfl

@[simp] theorem install_blockHeight (id : TransactionSetID) (S : List T) (objs cc) :
    (tp.install C id S objs cc).blockHeight = tp.blockHeight := rfl

theorem foldl_insert_lookup {K V : Type} [DecidableEq K] (id : V) :
    ∀ (objs : List K) (m : AList (fun _ : K => V)) (o : K),
      (objs.foldl (fun m oid => m.insert oid id) m).lookup o =
        if o ∈ objs then some id else m.lookup o
  | [], m, o => by simp
  | x :: xs, m, o => by
    rw [List.foldl_cons, foldl_insert_lookup id xs]
    by_cases h : o = x
    · subst h; simp [AList.lookup_insert]
    · simp [AList.lookup_insert_ne h, h]

@[simp] theorem install_knownObjects (id : TransactionSetID) (S : List T) (objs : List ObjectID)
    (cc) (o : ObjectID) :
    (tp.install C id S objs cc).knownObjects.lookup o =
      if o ∈ objs then some id else tp.knownObjects.lookup o :=
  foldl_insert_lookup id objs _ o

theorem foldl_heights_lookup (h : ℕ) :
    ∀ (S : List T) (m : AList (fun _ : TransactionID => ℕ)) (x : TransactionID) (v : ℕ),
      m.lookup x = some v →
        (S.foldl (fun m txn => if C.id txn ∈ m then m else m.insert (C.id txn) h) m).lookup x =
          some v
  | [], m, x, v, hx => hx
  | t :: S, m, x, v, hx => by
    rw [List.foldl_cons]
    refine foldl_heights_lookup h S _ x v ?_
    split_ifs with ht
    · exact hx
    · have hne : x ≠ C.id t := by
        rintro rfl; exact ht (mem_of_lookup_eq_some hx)
      rwa [AList.lookup_insert_ne hne]

theorem foldl_heights_mem (h : ℕ) :
    ∀ (S : List T) (m : AList (fun _ : TransactionID => ℕ)) (t : T), t ∈ S →
      C.id t ∈ S.foldl (fun m txn => if C.id txn ∈ m then m else m.insert (C.id txn) h) m
  | t' :: S, m, t, ht => by
    rw [List.foldl_cons]
    rcases List.mem_cons.1 ht with rfl | ht
    · have hin : C.id t ∈ (if C.id t ∈ m then m else m.insert (C.id t) h) := by
        split_ifs with hm
        · exact hm
        · exact (AList.mem_insert _).2 (Or.inl rfl)
      obtain ⟨v, hv⟩ := exists_lookup_of_mem hin
      exact mem_of_lookup_eq_some (foldl_heights_lookup C h S _ _ v hv)
    · exact foldl_heights_mem h S _ t ht

/-- An install keeps every first-seen height. -/
theorem install_transactionHeights_of_lookup (id : TransactionSetID) (S : List T) (objs cc)
    {x : TransactionID} {v : ℕ} (hx : tp.transactionHeights.lookup x = some v) :
    (tp.install C id S objs cc).transactionHeights.lookup x = some v :=
  foldl_heights_lookup C tp.blockHeight S _ x v hx

/-- An install gives every transaction of the new set a first-seen height. -/
theorem mem_install_transactionHeights (id : TransactionSetID) (S : List T) (objs cc)
    {t : T} (ht : t ∈ S) : C.id t ∈ (tp.install C id S objs cc).transactionHeights :=
  foldl_heights_mem C tp.blockHeight S _ t ht

@[simp] theorem evict_transactionSets (c k : TransactionSetID) :
    (tp.evict C c).transactionSets.lookup k =
      if k = c then none else tp.transactionSets.lookup k := by
  by_cases h : k = c
  · subst h; simp [evict, AList.lookup_erase]
  · simp [evict, AList.lookup_erase_ne h, h]

@[simp] theorem evict_transactionSetDiffs (c k : TransactionSetID) :
    (tp.evict C c).transactionSetDiffs.lookup k =
      if k = c then none else tp.transactionSetDiffs.lookup k := by
  by_cases h : k = c
  · subst h; simp [evict, AList.lookup_erase]
  · simp [evict, AList.lookup_erase_ne h, h]

@[simp] theorem evict_knownObjects (c : TransactionSetID) :
    (tp.evict C c).knownObjects = tp.knownObjects := rfl

@[simp] theorem evict_transactionHeights (c : TransactionSetID) :
    (tp.evict C c).transactionHeights = tp.transactionHeights := rfl

@[simp] theorem evict_blockHeight (c : TransactionSetID) :
    (tp.evict C c).blockHeight = tp.blockHeight := rfl

@[simp] theorem evict_transactionListSize (c : TransactionSetID) :
    (tp.evict C c).transactionListSize = tp.transactionListSize - C.encodedLen (tp.setOf c) :=
  rfl

theorem evicts_transactionSets (keys : List TransactionSetID) (k : TransactionSetID) :
    ((keys.foldl (evict C) tp).transactionSets.lookup k) =
      if k ∈ keys then none else tp.transactionSets.lookup k := by
  induction keys generalizing tp with
  | nil => simp
  | cons c keys ih =>
    rw [List.foldl_cons, ih]
    by_cases h : k = c <;> simp [h]

theorem evicts_transactionSetDiffs (keys : List TransactionSetID) (k : TransactionSetID) :
    ((keys.foldl (evict C) tp).transactionSetDiffs.lookup k) =
      if k ∈ keys then none else tp.transactionSetDiffs.lookup k := by
  induction keys generalizing tp with
  | nil => simp
  | cons c keys ih =>
    rw [List.foldl_cons, ih]
    by_cases h : k = c <;> simp [h]

/-- Evicting distinct sets takes exactly their sizes off the pool's size. -/
theorem evicts_transactionListSize (keys : List TransactionSetID) (hnd : keys.Nodup) :
    (keys.foldl (evict C) tp).transactionListSize =
      tp.transactionListSize - (keys.map fun c => (C.encodedLen (tp.setOf c) : ℤ)).sum := by
  induction keys generalizing tp with
  | nil => simp
  | cons c keys ih =>
    rw [List.foldl_cons, ih (List.nodup_cons.1 hnd).2]
    have hs : ∀ k ∈ keys, (tp.evict C c).setOf k = tp.setOf k := fun k hk => by
      have : k ≠ c := fun h => (List.nodup_cons.1 hnd).1 (h ▸ hk)
      simp [setOf, this]
    rw [List.map_congr_left fun k hk => by rw [hs k hk]]
    simp only [evict_transactionListSize, List.map_cons, List.sum_cons]
    omega

theorem evicts_frame (keys : List TransactionSetID) :
    (keys.foldl (evict C) tp).knownObjects = tp.knownObjects ∧
      (keys.foldl (evict C) tp).transactionHeights = tp.transactionHeights ∧
      (keys.foldl (evict C) tp).blockHeight = tp.blockHeight := by
  induction keys generalizing tp with
  | nil => simp
  | cons c keys ih => rw [List.foldl_cons]; simpa using ih

end TransactionPool

open TransactionPool

/-! ## The conflict map -/

theorem foldl_insert_txns_lookup (c : TransactionSetID) :
    ∀ (l : List T) (m : AList (fun _ : TransactionID => TransactionSetID)) (x : TransactionID),
      (l.foldl (fun m txn => m.insert (C.id txn) c) m).lookup x =
        if ∃ t ∈ l, C.id t = x then some c else m.lookup x
  | [], m, x => by simp
  | t :: l, m, x => by
    rw [List.foldl_cons, foldl_insert_txns_lookup c l]
    by_cases h : x = C.id t
    · subst h; simp [AList.lookup_insert]
    · simp [AList.lookup_insert_ne h, Ne.symm h]

theorem conflictMap_foldl_lookup :
    ∀ (cs : List TransactionSetID) (m : AList (fun _ : TransactionID => TransactionSetID))
      (x : TransactionID) (c : TransactionSetID),
      (cs.foldl (fun m conflict =>
          (tp.setOf conflict).foldl (fun m txn => m.insert (C.id txn) conflict) m) m).lookup x =
        some c → (c ∈ cs ∧ ∃ t ∈ tp.setOf c, C.id t = x) ∨ m.lookup x = some c
  | [], m, x, c, h => Or.inr (by simpa using h)
  | d :: cs, m, x, c, h => by
    rw [List.foldl_cons] at h
    rcases conflictMap_foldl_lookup cs _ x c h with ⟨hc, ht⟩ | hm
    · exact Or.inl ⟨List.mem_cons_of_mem d hc, ht⟩
    · rw [foldl_insert_txns_lookup] at hm
      split_ifs at hm with hx
      · cases hm; exact Or.inl ⟨List.mem_cons_self _ _, hx⟩
      · exact Or.inr hm

/-- What `conflictMap` maps an id to is a conflicting set holding a transaction with that
id. -/
theorem conflictMapOf_lookup {cs : List TransactionSetID} {x : TransactionID}
    {c : TransactionSetID} (h : (conflictMapOf C tp cs).lookup x = some c) :
    c ∈ cs ∧ ∃ t ∈ tp.setOf c, C.id t = x := by
  rcases conflictMap_foldl_lookup cs ∅ x c h with h | h
  · exact h
  · simp [AList.lookup_empty] at h

theorem foldl_insert_txns_mem (c : TransactionSetID) (l : List T)
    (m : AList (fun _ : TransactionID => TransactionSetID)) (x : TransactionID) :
    x ∈ l.foldl (fun m txn => m.insert (C.id txn) c) m ↔ x ∈ m ∨ ∃ t ∈ l, C.id t = x := by
  rw [← AList.lookup_isSome, foldl_insert_txns_lookup, ← AList.lookup_isSome]
  split_ifs with h <;> simp [h]

theorem conflictMap_foldl_mem :
    ∀ (cs : List TransactionSetID) (m : AList (fun _ : TransactionID => TransactionSetID))
      (x : TransactionID),
      x ∈ cs.foldl (fun m conflict =>
          (tp.setOf conflict).foldl (fun m txn => m.insert (C.id txn) conflict) m) m ↔
        x ∈ m ∨ ∃ c ∈ cs, ∃ t ∈ tp.setOf c, C.id t = x
  | [], m, x => by simp
  | d :: cs, m, x => by
    rw [List.foldl_cons, conflictMap_foldl_mem cs, foldl_insert_txns_mem]
    simp only [List.mem_cons, or_and_right, exists_or, exists_eq_left, or_assoc]

/-- `conflictMap`'s keys are the ids of the transactions of the conflicting sets. -/
theorem mem_conflictMapOf {cs : List TransactionSetID} {x : TransactionID} :
    x ∈ conflictMapOf C tp cs ↔ ∃ c ∈ cs, ∃ t ∈ tp.setOf c, C.id t = x := by
  rw [conflictMapOf, conflictMap_foldl_mem]
  simp [AList.not_mem_empty]

theorem mem_supersetKeys {cm : AList (fun _ : TransactionID => TransactionSetID)}
    {c : TransactionSetID} : c ∈ supersetKeys cm ↔ ∃ x, cm.lookup x = some c := by
  simp only [supersetKeys, List.mem_dedup, List.mem_map]
  constructor
  · rintro ⟨⟨x, d⟩, hx, rfl⟩; exact ⟨x, AList.mem_lookup_iff.2 hx⟩
  · rintro ⟨x, hx⟩; exact ⟨⟨x, c⟩, AList.mem_lookup_iff.1 hx, rfl⟩

theorem supersetKeys_nodup (cm : AList (fun _ : TransactionID => TransactionSetID)) :
    (supersetKeys cm).Nodup := List.nodup_dedup _

/-- A conflicting set that `conflictMap` maps to holds a transaction. -/
theorem mem_supersetKeys_conflictMapOf {cs : List TransactionSetID} {c : TransactionSetID}
    (h : c ∈ supersetKeys (conflictMapOf C tp cs)) :
    c ∈ cs ∧ ∃ t, t ∈ tp.setOf c := by
  obtain ⟨x, hx⟩ := mem_supersetKeys.1 h
  obtain ⟨hc, t, ht, -⟩ := conflictMapOf_lookup hx
  exact ⟨hc, t, ht⟩

/-! ## Pruning is complete after one pass -/

/-- The conflicts of a sub-list of the candidate are among the candidate's conflicts. -/
theorem conflictsOf_mono {ts ts' : List T} (h : ∀ t ∈ ts', t ∈ ts) {c : TransactionSetID}
    (hc : c ∈ tp.conflictsOf (relatedObjectIDs C mo ts')) :
    c ∈ tp.conflictsOf (relatedObjectIDs C mo ts) := by
  obtain ⟨o, ho, hl⟩ := mem_conflictsOf.1 hc
  obtain ⟨t, ht, hot⟩ := mem_relatedObjectIDs.1 ho
  exact mem_conflictsOf.2 ⟨o, mem_relatedObjectIDs.2 ⟨t, h t ht, hot⟩, hl⟩

/-- **Pruning twice removes nothing more.** The candidate left after discarding the
transactions its conflicting sets hold has, among its own conflicting sets, none that
holds one of its transactions. -/
theorem filter_conflictMap_idem (ts : List T) :
    (ts.filter fun t => C.id t ∉ conflictMapOf C tp (tp.conflictsOf (relatedObjectIDs C mo ts))).filter
        (fun t => C.id t ∉ conflictMapOf C tp (tp.conflictsOf (relatedObjectIDs C mo
          (ts.filter fun t => C.id t ∉ conflictMapOf C tp (tp.conflictsOf (relatedObjectIDs C mo ts)))))) =
      ts.filter fun t => C.id t ∉ conflictMapOf C tp (tp.conflictsOf (relatedObjectIDs C mo ts)) := by
  refine List.filter_eq_self.2 fun t ht => ?_
  simp only [List.mem_filter, decide_eq_true_eq] at ht
  simp only [decide_eq_true_eq, mem_conflictMapOf, not_exists, not_and]
  intro c hc t' ht' hid
  exact ht.2 (mem_conflictMapOf.2
    ⟨c, conflictsOf_mono (fun x hx => (List.mem_filter.1 hx).1) hc, t', ht', hid⟩)

end SiaSatellite
