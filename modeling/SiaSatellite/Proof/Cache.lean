import SiaSatellite.Spec.Cache

/-!
# Ring caches: a sound index, and FIFO eviction except for the zero id

* `ringCache_sound` (each of the three caches, every run from a fresh cache): the index
  maps every id to a slot below the size that holds that id, it has at most `size`
  keys, and `Lookup` finds an id only with the value of the push that last inserted it.
* `blockCache_zero_id_evicted`: the all-zero id is dropped by the very next insertion,
  because a fresh slot holds that id too and `Push` deletes whatever id the slot it
  overwrites holds.
* `lookup_push_fifo` (each cache, every reachable state): any other id stays until the
  `size`-th insertion after its own, and that one evicts it.
-/

namespace SiaSatellite.RingCache

variable {V : Type} [Inhabited V] {size : ℕ} {c : RingCache V} {id : Hash256} {v : V}

/-- The representation invariant: every indexed id names a slot below the size that
holds that id. -/
structure WF (size : ℕ) (c : RingCache V) : Prop where
  length : c.slots.length = size
  tip_lt : c.tip < size
  index : ∀ k i, c.index.lookup k = some i → i < size ∧ (c.slot i).id = k

theorem WF.nextTip_lt (hc : WF size c) : nextTip size c.tip < size := by
  have := hc.tip_lt
  unfold nextTip; split <;> omega

theorem push_of_mem (h : id ∈ c.index) : c.push size id v = c := if_pos h

theorem tip_push (h : id ∉ c.index) : (c.push size id v).tip = nextTip size c.tip := by
  simp [push, h]

theorem length_push : (c.push size id v).slots.length = c.slots.length := by
  unfold push; split <;> simp

theorem lookup_index_push (h : id ∉ c.index) (k : Hash256) :
    (c.push size id v).index.lookup k =
      if k = id then some (nextTip size c.tip)
      else if k = (c.slot (nextTip size c.tip)).id then none else c.index.lookup k := by
  simp only [push, if_neg h]
  split_ifs with h1 h2
  · subst h1; exact AList.lookup_insert _
  · rw [AList.lookup_insert_ne h1, h2, AList.lookup_erase]
  · rw [AList.lookup_insert_ne h1, AList.lookup_erase_ne h2]

theorem slot_push (h : id ∉ c.index) (hl : nextTip size c.tip < c.slots.length) (i : ℕ) :
    (c.push size id v).slot i = if i = nextTip size c.tip then ⟨id, v⟩ else c.slot i := by
  simp only [push, if_neg h, slot, List.getD_eq_getElem?_getD, List.getElem?_set]
  by_cases hi : i = nextTip size c.tip
  · subst hi; simp [hl]
  · simp [hi, Ne.symm hi]

/-- An id the index holds is found with the value of its slot. -/
theorem lookup_of_index {i : ℕ} (h : c.index.lookup id = some i) :
    c.lookup id = ((c.slot i).val, true) := by
  simp [lookup, h]

theorem lookup_of_not_index (h : c.index.lookup id = none) : c.lookup id = (default, false) := by
  simp [lookup, h]

@[simp] theorem run_nil : run size c [] = c := rfl

@[simp] theorem run_cons (op : CacheOp V) (ops : List (CacheOp V)) :
    run size c (op :: ops) = run size (step size c op) ops := rfl

theorem WF.new (h : 0 < size) : WF size (new size : RingCache V) :=
  ⟨by simp [RingCache.new], h, by simp [RingCache.new, AList.lookup_empty]⟩

theorem WF.push (hc : WF size c) (id : Hash256) (v : V) : WF size (c.push size id v) := by
  by_cases h : id ∈ c.index
  · rwa [push_of_mem h]
  have ht := hc.nextTip_lt
  refine ⟨by rw [length_push, hc.length], by rw [tip_push h]; exact ht, fun k i hk => ?_⟩
  rw [lookup_index_push h] at hk
  rw [slot_push h (by rw [hc.length]; exact ht)]
  by_cases h1 : k = id
  · simp only [h1, if_true, Option.some.injEq] at hk
    subst hk; simp [h1, ht]
  by_cases h2 : k = (c.slot (nextTip size c.tip)).id
  · rw [if_neg h1, if_pos h2] at hk; cases hk
  rw [if_neg h1, if_neg h2] at hk
  obtain ⟨hi, hs⟩ := hc.index k i hk
  have hne : i ≠ nextTip size c.tip := by rintro rfl; exact h2 hs.symm
  simp [hne, hi, hs]

theorem WF.step (hc : WF size c) : ∀ op : CacheOp V, WF size (step size c op)
  | .push id v => hc.push id v
  | .lookup _ => hc

theorem WF.run (hc : WF size c) (ops : List (CacheOp V)) : WF size (run size c ops) := by
  induction ops generalizing c with
  | nil => exact hc
  | cons op ops ih => exact ih (hc.step op)

/-- The index has at most `size` keys: distinct keys name distinct slots. -/
theorem WF.keys_length_le (hc : WF size c) : c.index.keys.length ≤ size := by
  have hslot : ∀ k ∈ c.index.keys, ∃ i, c.index.lookup k = some i := fun k hk =>
    exists_lookup_of_mem (AList.mem_keys.2 hk)
  let f := fun k => (c.index.lookup k).getD 0
  have hnd : (c.index.keys.map f).Nodup := by
    refine c.index.keys_nodup.map_on fun k hk k' hk' hf => ?_
    obtain ⟨i, hi⟩ := hslot k hk
    obtain ⟨i', hi'⟩ := hslot k' hk'
    simp only [f, hi, hi', Option.getD_some] at hf
    subst hf
    rw [← (hc.index k i hi).2, (hc.index k' i hi').2]
  have hsub : c.index.keys.map f ⊆ List.range size := by
    intro i hi
    obtain ⟨k, hk, rfl⟩ := List.mem_map.1 hi
    obtain ⟨j, hj⟩ := hslot k hk
    simpa [f, hj] using (hc.index k j hj).1
  simpa using (hnd.subperm hsub).length_le

/-! ## `Lookup` returns the value of the last insertion -/

omit [Inhabited V] in
theorem lastInsert_append (log : List (Hash256 × V)) (k : Hash256) :
    lastInsert (log ++ [(id, v)]) k = if k = id then some v else lastInsert log k := by
  by_cases h : k = id
  · subst h; simp [lastInsert]
  · simp [lastInsert, h, Ne.symm h]

/-- Every indexed id's slot holds the value of the last insertion of that id in `log`. -/
def ValuesFrom (c : RingCache V) (log : List (Hash256 × V)) : Prop :=
  ∀ k i, c.index.lookup k = some i → lastInsert log k = some (c.slot i).val

theorem ValuesFrom.push {log : List (Hash256 × V)} (hc : WF size c) (hv : ValuesFrom c log)
    (id : Hash256) (v : V) :
    ValuesFrom (c.push size id v) (log ++ if id ∈ c.index then [] else [(id, v)]) := by
  by_cases h : id ∈ c.index
  · simpa [push_of_mem h, h] using hv
  simp only [if_neg h]
  intro k i hk
  rw [lookup_index_push h] at hk
  rw [lastInsert_append, slot_push h (by rw [hc.length]; exact hc.nextTip_lt)]
  by_cases h1 : k = id
  · simp only [h1, if_true, Option.some.injEq] at hk
    subst hk; simp [h1]
  by_cases h2 : k = (c.slot (nextTip size c.tip)).id
  · rw [if_neg h1, if_pos h2] at hk; cases hk
  rw [if_neg h1, if_neg h2] at hk
  obtain ⟨-, hs⟩ := hc.index k i hk
  have hne : i ≠ nextTip size c.tip := by rintro rfl; exact h2 hs.symm
  simp [h1, hne, hv k i hk]

theorem ValuesFrom.run {log : List (Hash256 × V)} (hc : WF size c) (hv : ValuesFrom c log)
    (ops : List (CacheOp V)) : ValuesFrom (run size c ops) (log ++ inserts size c ops) := by
  induction ops generalizing c log with
  | nil => simpa [inserts] using hv
  | cons op ops ih =>
    cases op with
    | push id v =>
      simpa [inserts] using ih (hc.push id v) (hv.push hc id v)
    | lookup _ => exact ih hc hv

/-- The cache after any calls from fresh, at a positive size: well formed, at most `size`
keys, and every id found with the value of its last insertion. -/
theorem run_new_sound (h : 0 < size) (ops : List (CacheOp V)) :
    WF size (run size (new size) ops) ∧ (run size (new size) ops).index.keys.length ≤ size ∧
      ∀ id v, (run size (new size) ops).lookup id = (v, true) →
        lastInsert (inserts size (new size) ops) id = some v := by
  have h0 : WF size (new size : RingCache V) := WF.new h
  have hw := h0.run ops
  refine ⟨hw, hw.keys_length_le, fun id v hl => ?_⟩
  have hv0 : ValuesFrom (new size : RingCache V) [] := fun k i hk => by
    simp [RingCache.new, AList.lookup_empty] at hk
  have hv := hv0.run h0 ops
  cases hi : (run size (new size) ops).index.lookup id with
  | none => rw [lookup_of_not_index hi] at hl; cases hl
  | some i =>
    rw [lookup_of_index hi] at hl
    cases hl
    simpa using hv id i hi

/-- **The index of each ring cache is sound.** After any calls from a fresh cache, every
indexed id names a slot below the size that holds that id, the index has at most `size`
keys, and `Lookup` returns `(v, true)` only for the value `v` of the push that last
inserted the id. -/
theorem ringCache_sound (ops : List (CacheOp V)) :
    ∀ size ∈ [scoCacheSize, fcCacheSize, blockCacheSize],
      WF size (run size (new size) ops) ∧ (run size (new size) ops).index.keys.length ≤ size ∧
        ∀ id v, (run size (new size) ops).lookup id = (v, true) →
          lastInsert (inserts size (new size) ops) id = some v := by
  intro size hs
  exact run_new_sound (by simp [scoCacheSize, fcCacheSize, blockCacheSize] at hs; omega) ops

/-- Two insertions and a lookup on a fresh block cache leave it sound. -/
theorem ringCache_sound_block :
    blockCacheSize ∈ [scoCacheSize, fcCacheSize, blockCacheSize] ∧
      (WF blockCacheSize (run blockCacheSize (new blockCacheSize)
          ([.push 1 7, .push 2 8, .lookup 1] : List (CacheOp ℕ))) ∧
        (run blockCacheSize (new blockCacheSize)
          ([.push 1 7, .push 2 8, .lookup 1] : List (CacheOp ℕ))).index.keys.length ≤
            blockCacheSize ∧
        ∀ id v, (run blockCacheSize (new blockCacheSize)
            ([.push 1 7, .push 2 8, .lookup 1] : List (CacheOp ℕ))).lookup id = (v, true) →
          lastInsert (inserts blockCacheSize (new blockCacheSize)
            ([.push 1 7, .push 2 8, .lookup 1] : List (CacheOp ℕ))) id = some v) :=
  have hs : blockCacheSize ∈ [scoCacheSize, fcCacheSize, blockCacheSize] := by simp
  ⟨hs, ringCache_sound _ _ hs⟩

/-! ## Eviction order -/

/-- The zero id goes into a fresh block cache, and the next insertion, into a slot that
still holds the zero value, deletes it from the index. -/
theorem blockCache_zero_id_evicted :
    (0 : Hash256) ∉ (newBlockCache : RingCache ℕ).index ∧
      (1 : Hash256) ∉ (blockCachePush (newBlockCache : RingCache ℕ) 0 7).index ∧
      (blockCachePush (blockCachePush (newBlockCache : RingCache ℕ) 0 7) 1 8).lookup 0 =
        (0, false) := by
  decide

/-- Outside the zero id, an id a slot holds is indexed at that slot. -/
def Unique (size : ℕ) (c : RingCache V) : Prop :=
  ∀ i < size, (c.slot i).id ≠ 0 → c.index.lookup (c.slot i).id = some i

theorem Unique.new : Unique size (new size : RingCache V) := by
  intro i _ h
  simp [RingCache.new, slot, zeroInfo, List.getElem?_replicate] at h
  split at h <;> simp_all [zeroInfo]

theorem Unique.push (hc : WF size c) (hu : Unique size c) (id : Hash256) (v : V) :
    Unique size (c.push size id v) := by
  by_cases h : id ∈ c.index
  · rwa [push_of_mem h]
  have hl : nextTip size c.tip < c.slots.length := hc.length ▸ hc.nextTip_lt
  intro i hi hne
  by_cases hit : i = nextTip size c.tip
  · rw [slot_push h hl, if_pos hit]; simp [lookup_index_push h, hit]
  have hs : (c.push size id v).slot i = c.slot i := by rw [slot_push h hl, if_neg hit]
  rw [hs] at hne ⊢
  rw [lookup_index_push h]
  have hk := hu i hi hne
  have h1 : (c.slot i).id ≠ id := by
    rintro rfl; exact h (mem_of_lookup_eq_some hk)
  have h2 : (c.slot i).id ≠ (c.slot (nextTip size c.tip)).id := by
    intro he
    have ht := hu _ hc.nextTip_lt (he ▸ hne)
    rw [← he, hk] at ht
    exact hit (Option.some.inj ht)
  simp [h1, h2, hk]

theorem Unique.run (hc : WF size c) (hu : Unique size c) (ops : List (CacheOp V)) :
    Unique size (run size c ops) := by
  induction ops generalizing c with
  | nil => exact hu
  | cons op ops ih =>
    cases op with
    | push id v => exact ih (hc.push id v) (hu.push hc id v)
    | lookup _ => exact ih hc hu

/-- Where `tip` is `j` insertions after slot `k`, for `j < size`. -/
def tipAfter (size k j : ℕ) : ℕ := if k + j < size then k + j else k + j - size

/-- A cache `j` insertions after the push that wrote `id` into slot `k`. -/
structure Tracks (size : ℕ) (id : Hash256) (v : V) (k j : ℕ) (c : RingCache V) : Prop where
  wf : WF size c
  unique : Unique size c
  tip : c.tip = tipAfter size k j
  index : c.index.lookup id = some k
  slot : c.slot k = ⟨id, v⟩

theorem Tracks.k_lt {k j : ℕ} (ht : Tracks size id v k j c) : k < size :=
  (ht.wf.index id k ht.index).1

theorem Tracks.mem {k j : ℕ} (ht : Tracks size id v k j c) : id ∈ c.index :=
  mem_of_lookup_eq_some ht.index

/-- The next insertion writes slot `tipAfter size k (j + 1)`. -/
theorem Tracks.nextTip {k j : ℕ} (ht : Tracks size id v k j c) (hj : j < size) :
    RingCache.nextTip size c.tip = tipAfter size k (j + 1) := by
  have := ht.k_lt
  rw [ht.tip]; unfold RingCache.nextTip tipAfter; split_ifs <;> omega

/-- An insertion other than the `size`-th keeps `id` where it is. -/
theorem Tracks.push {k j : ℕ} (ht : Tracks size id v k j c) (hid : id ≠ 0) (id' : Hash256)
    (v' : V) (hj : id' ∉ c.index → j + 1 < size) :
    Tracks size id v k (j + if id' ∈ c.index then 0 else 1) (c.push size id' v') := by
  by_cases h : id' ∈ c.index
  · simpa [push_of_mem h, h] using ht
  have hj := hj h
  have hk := ht.k_lt
  have htip := ht.nextTip (by omega)
  have hne : RingCache.nextTip size c.tip ≠ k := by rw [htip]; unfold tipAfter; split_ifs <;> omega
  have hl : RingCache.nextTip size c.tip < c.slots.length := ht.wf.length ▸ ht.wf.nextTip_lt
  have hold : id ≠ (c.slot (RingCache.nextTip size c.tip)).id := by
    intro he
    have := ht.unique _ ht.wf.nextTip_lt (he ▸ hid)
    rw [← he, ht.index] at this
    exact hne (Option.some.inj this).symm
  have hid' : id ≠ id' := by rintro rfl; exact h ht.mem
  refine ⟨ht.wf.push id' v', ht.unique.push ht.wf id' v', ?_, ?_, ?_⟩
  · simp [tip_push h, htip, h]
  · simp [lookup_index_push h, hid', hold, ht.index]
  · simp [slot_push h hl, Ne.symm hne, ht.slot]

theorem insertCount_push (id : Hash256) (v : V) (ops : List (CacheOp V)) :
    insertCount size c (.push id v :: ops) =
      (if id ∈ c.index then 0 else 1) + insertCount size (c.push size id v) ops := by
  simp only [insertCount, inserts]; split <;> simp [Nat.add_comm]

theorem Tracks.run {k : ℕ} (hid : id ≠ 0) :
    ∀ (ops : List (CacheOp V)) (c : RingCache V) (j : ℕ), Tracks size id v k j c →
      j + insertCount size c ops < size →
        Tracks size id v k (j + insertCount size c ops) (run size c ops)
  | [], c, j, ht, _ => by simpa [insertCount, inserts] using ht
  | .lookup _ :: ops, c, j, ht, hj => Tracks.run hid ops c j ht (by simpa [insertCount, inserts] using hj)
  | .push id' v' :: ops, c, j, ht, hj => by
    rw [insertCount_push] at hj ⊢
    have := Tracks.run hid ops _ _ (ht.push hid id' v' (fun h => by simp [h] at hj; omega))
      (by omega)
    simpa [Nat.add_assoc] using this

/-- The `size`-th insertion after `id`'s own writes `id`'s slot and drops it. -/
theorem Tracks.evict {k j : ℕ} {id' : Hash256} (ht : Tracks size id v k j c) (hj : j + 1 = size)
    (h : id' ∉ c.index) (v' : V) : (c.push size id' v').index.lookup id = none := by
  have hk := ht.k_lt
  have htip := ht.nextTip (by omega)
  have hk' : RingCache.nextTip size c.tip = k := by rw [htip]; unfold tipAfter; split_ifs <;> omega
  have hid' : id ≠ id' := by rintro rfl; exact h ht.mem
  simp [lookup_index_push h, hid', hk', ht.slot]

theorem Tracks.start (hc : WF size c) (hu : Unique size c) (h : id ∉ c.index) :
    Tracks size id v (RingCache.nextTip size c.tip) 0 (c.push size id v) := by
  have ht := hc.nextTip_lt
  refine ⟨hc.push id v, hu.push hc id v, ?_, ?_, ?_⟩
  · simp [tip_push h, tipAfter, ht]
  · simp [lookup_index_push h]
  · simp [slot_push h (by rw [hc.length]; exact ht)]

/-- **Eviction is FIFO for every id but the zero id.** In each cache, from any reachable
state, an id other than zero that a push inserts is found with its value while fewer than
`size` further insertions have happened, and the `size`-th one evicts it. -/
theorem lookup_push_fifo (ops₀ ops : List (CacheOp V)) (id : Hash256) (v : V) :
    ∀ size ∈ [scoCacheSize, fcCacheSize, blockCacheSize], id ≠ 0 →
      id ∉ (run size (new size) ops₀).index →
      (insertCount size ((run size (new size) ops₀).push size id v) ops < size →
        (run size ((run size (new size) ops₀).push size id v) ops).lookup id = (v, true)) ∧
      (insertCount size ((run size (new size) ops₀).push size id v) ops + 1 = size →
        ∀ id' v', id' ∉ (run size ((run size (new size) ops₀).push size id v) ops).index →
          ((run size ((run size (new size) ops₀).push size id v) ops).push size id' v').lookup id =
            (default, false)) := by
  intro size hs hid h
  have hpos : 0 < size := by simp [scoCacheSize, fcCacheSize, blockCacheSize] at hs; omega
  have hw := (WF.new hpos : WF size (new size : RingCache V)).run ops₀
  have hu := (Unique.new : Unique size (new size : RingCache V)).run (WF.new hpos) ops₀
  have h0 := Tracks.start hw hu h (v := v)
  constructor
  · intro hj
    have ht := Tracks.run hid ops _ 0 h0 (by omega)
    rw [lookup_of_index ht.index, ht.slot]
  · intro hj id' v' h'
    have ht := Tracks.run hid ops _ 0 h0 (by omega)
    rw [lookup_of_not_index (ht.evict (by omega) h' v')]

theorem lookup_push_fifo_block :
    (1 : Hash256) ≠ 0 ∧ (1 : Hash256) ∉ (run blockCacheSize (new blockCacheSize : RingCache ℕ) []).index ∧
      ((run blockCacheSize ((run blockCacheSize (new blockCacheSize : RingCache ℕ) []).push
        blockCacheSize 1 7) []).lookup 1 = (7, true)) :=
  ⟨by decide, by decide,
    (lookup_push_fifo [] [] 1 7 blockCacheSize (by simp) (by decide) (by decide)).1 (by decide)⟩

end SiaSatellite.RingCache
