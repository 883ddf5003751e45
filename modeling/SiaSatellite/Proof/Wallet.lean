import SiaSatellite.Spec.Wallet

/-!
# Funding a transaction: what is spent, and what a failure leaves

* `Funds`: what funding an amount means, stated once for both routines: pairwise distinct
  spendable outputs whose values pay the amount and a change output, which is there exactly
  when they exceed it.
* `fund_insufficient_iff`, `fund_ok`: `Wallet.Fund` reports an insufficient balance exactly
  when its spendable outputs fall short, and otherwise funds the amount.
* `fundTransaction_short_iff`, `fundTransaction_ok`: the same for `Wallet.FundTransaction`,
  when its reads succeed, its outputs are worth less than `2^128` and no id is collected
  twice; `fundTransaction_duplicate_or_overflow` shows the last two are needed.
* `fund_insert_failure`, `fundTransaction_putSpent_failure`: **a failed store call partway
  through does not undo what the routine did before it**: the caller's transaction keeps
  the inputs and outputs added, the outputs recorded stay recorded, and the change or
  refund address stays handed out.
-/

namespace SiaSatellite

/-! ## What a sorted selection takes -/

namespace SortOrder

variable {α : Type} (s : SortOrder α) {l es : List α} {p : α → Bool}

/-- A prefix of the sorted candidates that pass `p` is drawn from the candidates that pass. -/
theorem subset_of_prefix (hp : es <+: (s.order l).filter p) : es ⊆ l.filter p :=
  fun _ he => ((s.perm l).filter p).subset (hp.sublist.subset he)

/-- A prefix of the sorted candidates that pass `p` repeats no key the candidates do not. -/
theorem nodup_of_prefix {β : Type} (f : α → β) (hp : es <+: (s.order l).filter p)
    (hnd : (l.map f).Nodup) : (es.map f).Nodup :=
  (hp.sublist.map f).nodup (((List.filter_sublist _).map f).nodup (((s.perm l).map f).nodup_iff.2 hnd))

end SortOrder

namespace Wallet

open CoreTypes

variable {K σ : Type}

/-- The total value of a list of elements. -/
def value (es : List SiacoinElement) : ℕ := (es.map fun sce => sce.siacoinOutput.value.toNat).sum

@[simp] theorem value_nil : value [] = 0 := rfl

@[simp] theorem value_cons (sce : SiacoinElement) (es : List SiacoinElement) :
    value (sce :: es) = sce.siacoinOutput.value.toNat + value es := by simp [value]

theorem value_perm {l l' : List SiacoinElement} (h : l.Perm l') : value l = value l' :=
  (h.map _).sum_eq

theorem value_le_of_sublist {l l' : List SiacoinElement} (h : l.Sublist l') : value l ≤ value l' := by
  induction h with
  | slnil => rfl
  | cons _ _ ih => simp only [value_cons]; omega
  | cons₂ _ _ ih => simp only [value_cons]; omega

/-- The outputs `FundTransaction` collects, as elements. -/
def elements (l : List (Hash256 × SiacoinOutput)) : List SiacoinElement := l.map fun o => ⟨o.1, o.2⟩

@[simp] theorem elements_nil : elements [] = [] := rfl

@[simp] theorem elements_cons (o : Hash256 × SiacoinOutput) (l : List (Hash256 × SiacoinOutput)) :
    elements (o :: l) = ⟨o.1, o.2⟩ :: elements l := rfl

/-- What funding `amount` means: pairwise distinct outputs drawn from `spendable`, whose values
pay `amount` and the `change`, which holds one output exactly when they exceed `amount`. -/
structure Funds (spendable : List SiacoinElement) (amount : Currency) (es : List SiacoinElement)
    (change : List SiacoinOutput) : Prop where
  nodup : (es.map (·.id)).Nodup
  subset : es ⊆ spendable
  pays : value es = amount.toNat + (change.map fun o => o.value.toNat).sum
  change_length : change.length = if amount.toNat < value es then 1 else 0

/-- The outputs `Fund` may spend: the tracked elements neither reserved nor spent in the pool. -/
def FundEnv.spendable (E : FundEnv K σ) (w : σ) : List SiacoinElement :=
  E.unspentSiacoinOutputs.filter fun sce => !(E.used w sce.id || E.inPool sce.id)

/-- The outputs `FundTransaction` may spend at height `h` with dust threshold `dt`: those of
the table and of the unconfirmed transactions that pass `checkOutput`. -/
def FundTransactionEnv.spendable (E : FundTransactionEnv σ) (w : σ) (h : UInt64) (dt : Currency)
    (outputs : AList (fun _ : Hash256 => SiacoinOutput)) : List (Hash256 × SiacoinOutput) :=
  (E.collected outputs).filter fun o => (E.checkOutput w h o.1 o.2 dt).toBool

/-- The tracked elements are keyed by id, so no id is tracked twice. -/
theorem FundEnv.unspent_nodup (E : FundEnv K σ) : (E.unspentSiacoinOutputs.map (·.id)).Nodup := by
  have : E.unspentSiacoinOutputs.map (·.id) = E.sces.keys := by
    simp [FundEnv.unspentSiacoinOutputs, AList.keys, List.keys]
  rw [this]; exact E.sces.keys_nodup

section Select

variable {skip : SiacoinElement → Bool} {amount : Currency}

/-- The selection loop of `Fund` takes a prefix of the candidates it does not skip, sums them,
and takes them all when the sum stays below the amount. -/
theorem fundingElements_spec {s t : Currency} {l es : List SiacoinElement}
    (h : fundingElements skip amount s l = some (es, t)) :
    es <+: l.filter (fun sce => !skip sce) ∧ t.toNat = s.toNat + value es ∧
      (t.toNat < amount.toNat → es = l.filter (fun sce => !skip sce)) := by
  induction l generalizing s es with
  | nil => cases h; simp
  | cons sce l ih =>
    unfold fundingElements at h
    by_cases hs : skip sce
    · rw [if_pos hs] at h
      rw [List.filter_cons_of_neg (by simpa using hs)]
      exact ih h
    rw [if_neg hs] at h
    rw [List.filter_cons_of_pos (by simpa using hs)]
    cases ha : s.add sce.siacoinOutput.value with
    | none => simp [ha] at h
    | some s' =>
      have hs' := Currency.add_toNat ha
      simp only [ha] at h
      split_ifs at h with hle
      · cases h
        exact ⟨(List.prefix_cons_inj _).2 List.nil_prefix, by simp [hs'],
          fun hlt => absurd hle (by omega)⟩
      · obtain ⟨⟨es', t'⟩, hr, he⟩ := Option.map_eq_some'.1 h
        dsimp only at he
        obtain ⟨rfl, rfl⟩ := Prod.mk.inj he
        obtain ⟨hp, ht, hall⟩ := ih hr
        exact ⟨(List.prefix_cons_inj _).2 hp, by rw [value_cons]; omega,
          fun hlt => by rw [hall hlt]⟩

/-- When the candidates are worth less than the amount, the loop takes them all, without
overflow. -/
theorem fundingElements_short {s : Currency} {l : List SiacoinElement}
    (h : s.toNat + value (l.filter (fun sce => !skip sce)) < amount.toNat) :
    ∃ t, fundingElements skip amount s l = some (l.filter (fun sce => !skip sce), t) := by
  induction l generalizing s with
  | nil => exact ⟨s, rfl⟩
  | cons sce l ih =>
    unfold fundingElements
    by_cases hs : skip sce
    · rw [if_pos hs]
      rw [List.filter_cons_of_neg (by simpa using hs)] at h ⊢
      exact ih h
    rw [if_neg hs]
    rw [List.filter_cons_of_pos (by simpa using hs)] at h ⊢
    rw [value_cons] at h
    obtain ⟨s', ha, hs'⟩ := Currency.add_of_lt (by have := amount.toNat_lt; omega :
      s.toNat + sce.siacoinOutput.value.toNat < 2 ^ 128)
    obtain ⟨t, ht⟩ := ih (by omega : s'.toNat + _ < _)
    exact ⟨t, by simp only [ha, if_neg (show ¬ amount.toNat ≤ s'.toNat by omega), ht]; rfl⟩

end Select

section Spend

variable {check : Hash256 → SiacoinOutput → Except CheckError Unit} {amount : Currency}

/-- The selection loop of `FundTransaction` spends a prefix of the outputs that pass the check,
sums them in `fund`, and spends them all when `fund` stays below the amount. -/
theorem spendOutputs_spec {f p f' p' : Currency} {l spent : List (Hash256 × SiacoinOutput)}
    (h : spendOutputs check amount f p l = some (spent, f', p')) :
    spent <+: l.filter (fun o => (check o.1 o.2).toBool) ∧
      f'.toNat = f.toNat + value (elements spent) ∧
      (f'.toNat < amount.toNat → spent = l.filter (fun o => (check o.1 o.2).toBool)) := by
  induction l generalizing f p spent with
  | nil => cases h; simp
  | cons o l ih =>
    unfold spendOutputs at h
    cases hc : check o.1 o.2 with
    | error e =>
      rw [List.filter_cons_of_neg (by simp [hc, Except.toBool])]
      simp only [hc] at h
      split_ifs at h
      · cases hp : p.add o.2.value with
        | none => simp [hp] at h
        | some p1 => simp only [hp, Option.some_bind] at h; exact ih h
      · exact ih h
    | ok u =>
      rw [List.filter_cons_of_pos (by simp [hc, Except.toBool])]
      simp only [hc] at h
      cases hf : f.add o.2.value with
      | none => simp [hf] at h
      | some f1 =>
        cases hp : p.add o.2.value with
        | none => simp [hf, hp] at h
        | some p1 =>
          have hf1 := Currency.add_toNat hf
          simp only [hf, hp, Option.some_bind] at h
          split_ifs at h with hle
          · cases h
            exact ⟨(List.prefix_cons_inj _).2 List.nil_prefix, by simp [hf1],
              fun hlt => absurd hle (by omega)⟩
          · obtain ⟨⟨s', f2, p2⟩, hr, he⟩ := Option.map_eq_some'.1 h
            simp only [Prod.mk.injEq] at he
            obtain ⟨rfl, rfl, rfl⟩ := he
            obtain ⟨hpre, ht, hall⟩ := ih hr
            exact ⟨(List.prefix_cons_inj _).2 hpre, by simp only [elements_cons, value_cons]; omega,
              fun hlt => by rw [hall hlt]⟩

/-- When the outputs that pass are worth less than the amount and all outputs with
`potentialFund` stay below `2^128`, the loop spends every output that passes. -/
theorem spendOutputs_short {f p : Currency} {l : List (Hash256 × SiacoinOutput)}
    (hf : f.toNat + value (elements (l.filter (fun o => (check o.1 o.2).toBool))) < amount.toNat)
    (hp : p.toNat + value (elements l) < 2 ^ 128) :
    ∃ f' p', spendOutputs check amount f p l =
      some (l.filter (fun o => (check o.1 o.2).toBool), f', p') := by
  induction l generalizing f p with
  | nil => exact ⟨f, p, rfl⟩
  | cons o l ih =>
    unfold spendOutputs
    simp only [elements_cons, value_cons] at hp
    cases hc : check o.1 o.2 with
    | error e =>
      rw [List.filter_cons_of_neg (by simp [hc, Except.toBool])] at hf ⊢
      dsimp only
      split_ifs
      · obtain ⟨p1, hp1, hp1v⟩ := Currency.add_of_lt (c := p) (v := o.2.value) (by omega)
        rw [hp1, Option.some_bind]
        exact ih hf (by omega)
      · exact ih hf (by omega)
    | ok u =>
      rw [List.filter_cons_of_pos (by simp [hc, Except.toBool])] at hf ⊢
      simp only [elements_cons, value_cons] at hf
      have := amount.toNat_lt
      obtain ⟨f1, hf1, hf1v⟩ := Currency.add_of_lt (c := f) (v := o.2.value) (by omega)
      obtain ⟨p1, hp1, hp1v⟩ := Currency.add_of_lt (c := p) (v := o.2.value) (by omega)
      obtain ⟨f', p', hr⟩ := ih (f := f1) (p := p1) (by omega) (by omega)
      exact ⟨f', p', by
        simp only [hf1, hp1, Option.some_bind, if_neg (show ¬ amount.toNat ≤ f1.toNat by omega), hr]
        rfl⟩

end Spend

section Inputs

variable {E : FundEnv K σ}

/-- A successful input loop adds one input per funding element, in order. -/
theorem addFundingInputs_ok {es : List SiacoinElement} {txn : Transaction} {w : σ}
    (hkeys : ∀ sce ∈ es, sce.siacoinOutput.address ∈ E.keys)
    (h : (addFundingInputs E es txn w).1 = .ok ()) :
    ∃ ins, (addFundingInputs E es txn w).2.1 =
        { txn with siacoinInputs := txn.siacoinInputs ++ ins } ∧
      ins.map (·.parentID) = es.map (·.id) := by
  induction es generalizing txn w with
  | nil => exact ⟨[], by simp [addFundingInputs], rfl⟩
  | cons sce es ih =>
    obtain ⟨key, hk⟩ := exists_lookup_of_mem (hkeys sce (List.mem_cons_self _ _))
    have hkeys' := fun e he => hkeys e (List.mem_cons_of_mem _ he)
    simp only [addFundingInputs, hk] at h ⊢
    cases hi : E.insertSpentOutput sce.id w with
    | error e => simp [hi] at h
    | ok w' =>
      simp only [hi] at h ⊢
      obtain ⟨ins, hins, hmap⟩ := ih hkeys' h
      exact ⟨⟨sce.id, E.standardUnlockConditions key⟩ :: ins, by simp [hins], by simp [hmap]⟩

/-- An input loop whose record of `sce` fails has added the inputs of the elements before it
and of `sce`, and recorded those before it. -/
theorem addFundingInputs_error {pre post : List SiacoinElement} {sce : SiacoinElement}
    {txn : Transaction} {w w1 : σ} {msg : String}
    (hkeys : ∀ e ∈ pre ++ [sce], e.siacoinOutput.address ∈ E.keys)
    (hpre : pre.foldlM (fun w e => E.insertSpentOutput e.id w) w = .ok w1)
    (hfail : E.insertSpentOutput sce.id w1 = .error msg) :
    ∃ ins, addFundingInputs E (pre ++ sce :: post) txn w =
        (.error msg, { txn with siacoinInputs := txn.siacoinInputs ++ ins }, w1) ∧
      ins.map (·.parentID) = (pre ++ [sce]).map (·.id) := by
  induction pre generalizing txn w with
  | nil =>
    cases hpre
    obtain ⟨key, hk⟩ := exists_lookup_of_mem (hkeys sce (by simp))
    exact ⟨[⟨sce.id, E.standardUnlockConditions key⟩], by simp [addFundingInputs, hk, hfail], rfl⟩
  | cons e pre ih =>
    obtain ⟨key, hk⟩ := exists_lookup_of_mem (hkeys e (by simp))
    rw [List.foldlM_cons] at hpre
    cases hi : E.insertSpentOutput e.id w with
    | error m => rw [hi] at hpre; cases hpre
    | ok w' =>
      rw [hi] at hpre
      obtain ⟨ins, hins, hmap⟩ :=
        @ih { txn with siacoinInputs := txn.siacoinInputs ++ [⟨e.id, E.standardUnlockConditions key⟩] }
          w' (fun x hx => hkeys x (List.mem_cons_of_mem _ hx)) hpre
      refine ⟨⟨e.id, E.standardUnlockConditions key⟩ :: ins, ?_, by simp [hmap]⟩
      simp [addFundingInputs, hk, hi, hins]

/-- A successful end of `Fund` adds one input per funding element. -/
theorem fundInputs_ok {es : List SiacoinElement} {txn : Transaction} {w : σ} {r}
    (hkeys : ∀ sce ∈ es, sce.siacoinOutput.address ∈ E.keys)
    (h : (fundInputs E es txn w).1 = .ok r) :
    ∃ ins, (fundInputs E es txn w).2.1 = { txn with siacoinInputs := txn.siacoinInputs ++ ins } ∧
      ins.map (·.parentID) = es.map (·.id) := by
  unfold fundInputs at h ⊢
  rcases ha : addFundingInputs E es txn w with ⟨_ | u, txn', w'⟩
  · simp [ha] at h
  · have := addFundingInputs_ok hkeys (by rw [ha])
    simpa [ha] using this

/-- The input loop fails only with the error of a store call. -/
theorem fundInputs_ne_insufficient (es : List SiacoinElement) (txn : Transaction) (w : σ) :
    (fundInputs E es txn w).1 ≠ .error .insufficientBalance := by
  unfold fundInputs
  split <;> simp

end Inputs

/-! ## `Fund` -/

section Fund

variable {E : FundEnv K σ} {w : σ} {txn : Transaction} {amount : Currency}

/-- `Fund` reports an insufficient balance only when the selection ends below the amount. -/
theorem fund_insufficient_cases (h : (fund E w txn amount).1 = .error .insufficientBalance) :
    ∃ es t, fundingElements (fun sce => E.used w sce.id || E.inPool sce.id) amount Currency.zero
        (E.sort.order E.unspentSiacoinOutputs) = some (es, t) ∧ t.toNat < amount.toNat := by
  unfold fund at h
  split_ifs at h
  rcases hsel : fundingElements (fun sce => E.used w sce.id || E.inPool sce.id) amount
    Currency.zero (E.sort.order E.unspentSiacoinOutputs) with _ | ⟨es, t⟩
  · simp [hsel] at h
  simp only [hsel] at h
  split_ifs at h with h1 h2
  · exact ⟨es, t, rfl, h1⟩
  · rcases hn : E.nextAddress w with ⟨uc, _ | w1⟩
    · simp [hn] at h
    · cases hv : t.sub amount
      · simp [hn, hv] at h
      · simp only [hn, hv] at h
        exact absurd h (fundInputs_ne_insufficient _ _ _)
  · exact absurd h (fundInputs_ne_insufficient _ _ _)

/-- **`Fund` is complete**: it reports an insufficient balance exactly when its spendable
outputs are worth less than the amount. -/
theorem fund_insufficient_iff (hpos : 0 < amount.toNat) :
    (fund E w txn amount).1 = .error .insufficientBalance ↔ value (E.spendable w) < amount.toNat := by
  have hval : value ((E.sort.order E.unspentSiacoinOutputs).filter
      fun sce => !(E.used w sce.id || E.inPool sce.id)) = value (E.spendable w) :=
    value_perm ((E.sort.perm _).filter _)
  constructor
  · intro h
    obtain ⟨es, t, hsel, ht⟩ := fund_insufficient_cases h
    obtain ⟨-, hvt, hall⟩ := fundingElements_spec hsel
    rw [hall ht, hval] at hvt
    simp only [Currency.toNat_zero, zero_add] at hvt
    omega
  · intro h
    obtain ⟨t, hsel⟩ := @fundingElements_short (fun sce => E.used w sce.id || E.inPool sce.id)
      amount Currency.zero (E.sort.order E.unspentSiacoinOutputs)
      (by rw [Currency.toNat_zero, zero_add, hval]; exact h)
    have ht := (fundingElements_spec hsel).2.1
    rw [hval] at ht
    simp only [Currency.toNat_zero, zero_add] at ht
    simp [fund, hsel, show amount.toNat ≠ 0 by omega, show t.toNat < amount.toNat by omega]

/-- What a successful `Fund` did: select `es` worth `t ≥ amount`, add the change output (one
exactly when `t` exceeds `amount`), and run the input loop. -/
theorem fund_ok_cases {r} (h : (fund E w txn amount).1 = .ok r) (hpos : 0 < amount.toNat) :
    ∃ es t change w1, fundingElements (fun sce => E.used w sce.id || E.inPool sce.id) amount
        Currency.zero (E.sort.order E.unspentSiacoinOutputs) = some (es, t) ∧
      amount.toNat ≤ t.toNat ∧ (change.map fun o => o.value.toNat).sum = t.toNat - amount.toNat ∧
      change.length = (if amount.toNat < t.toNat then 1 else 0) ∧
      fund E w txn amount = fundInputs E es { txn with siacoinOutputs := txn.siacoinOutputs ++ change } w1 := by
  unfold fund at h ⊢
  rw [if_neg (by omega)] at h ⊢
  rcases hsel : fundingElements (fun sce => E.used w sce.id || E.inPool sce.id) amount
    Currency.zero (E.sort.order E.unspentSiacoinOutputs) with _ | ⟨es, t⟩
  · simp [hsel] at h
  simp only [hsel] at h ⊢
  have h1 : ¬ t.toNat < amount.toNat := fun h1 => by simp [h1] at h
  rw [if_neg h1] at h ⊢
  by_cases h2 : amount.toNat < t.toNat
  · rw [if_pos h2] at h ⊢
    rcases hn : E.nextAddress w with ⟨uc, _ | w1⟩
    · simp [hn] at h
    obtain ⟨v, hv, hvv⟩ := Currency.sub_of_le (c := t) (v := amount) (by omega)
    refine ⟨es, t, [⟨v, E.unlockHash uc⟩], w1, rfl, by omega, by simp [hvv], by simp [h2], ?_⟩
    simp [hv]
  · rw [if_neg h2]
    exact ⟨es, t, [], w, rfl, by omega, by simp; omega, by simp [h2], by simp⟩

/-- **`Fund` is sound**: on success its inputs spend pairwise distinct spendable outputs that pay
the amount and the change output it adds. -/
theorem fund_ok {r} {txn' : Transaction} {w' : σ}
    (hkeys : ∀ sce ∈ E.unspentSiacoinOutputs, sce.siacoinOutput.address ∈ E.keys)
    (hpos : 0 < amount.toNat) (h : fund E w txn amount = (.ok r, txn', w')) :
    ∃ es change ins, Funds (E.spendable w) amount es change ∧ ins.map (·.parentID) = es.map (·.id) ∧
      txn' = ⟨txn.siacoinInputs ++ ins, txn.siacoinOutputs ++ change⟩ := by
  obtain ⟨es, t, change, w1, hsel, hle, hsum, hlen, hfund⟩ := fund_ok_cases (by rw [h]) hpos
  obtain ⟨hpre, ht, -⟩ := fundingElements_spec hsel
  simp only [Currency.toNat_zero, zero_add] at ht
  have hsub : es ⊆ E.spendable w := E.sort.subset_of_prefix hpre
  have hsub' : es ⊆ E.unspentSiacoinOutputs := fun e he => (List.mem_filter.1 (hsub he)).1
  rw [hfund] at h
  obtain ⟨ins, hins, hmap⟩ := fundInputs_ok (fun e he => hkeys e (hsub' he)) (by rw [h])
  rw [h] at hins
  exact ⟨es, change, ins, ⟨E.sort.nodup_of_prefix _ hpre E.unspent_nodup, hsub, by omega,
    by rw [hlen, ht]⟩, hmap, hins⟩

end Fund

/-! ## `FundTransaction` -/

@[simp] theorem elements_map_id (l : List (Hash256 × SiacoinOutput)) :
    (elements l).map (·.id) = l.map Prod.fst := by
  simp [elements, Function.comp_def]

theorem mem_elements {l : List (Hash256 × SiacoinOutput)} {e : SiacoinElement} :
    e ∈ elements l ↔ (e.id, e.siacoinOutput) ∈ l := by
  simp only [elements, List.mem_map]
  exact ⟨fun ⟨o, ho, he⟩ => he ▸ ho, fun he => ⟨_, he, rfl⟩⟩

section FundTransaction

variable {E : FundTransactionEnv σ} {w : σ} {txn : Transaction} {amount : Currency}

/-- The end of `FundTransaction` fails only with the error of a store call. -/
theorem finishParent_error {height : UInt64} {puc : UnlockConditions} {spent : List Hash256}
    {parent : Transaction} {e : WalletError}
    (h : (finishParent E height puc spent txn parent w).1 = .error e) : ∃ msg, e = .store msg := by
  cases hp : E.putSpentOutput (E.siacoinOutputID parent 0) height w with
  | error m => simp only [finishParent, hp] at h; exact ⟨m, (Except.error.inj h).symm⟩
  | ok w1 =>
    rcases hs : putSpentOutputs E height spent w1 with ⟨_ | _, w2⟩ <;>
      simp only [finishParent, hp, hs] at h
    · exact ⟨_, (Except.error.inj h).symm⟩
    · cases h

/-- A successful end of `FundTransaction` returns the parent and adds its first output as an
input of the caller's transaction. -/
theorem finishParent_ok {height : UInt64} {puc : UnlockConditions} {spent : List Hash256}
    {parent r : Transaction}
    (h : (finishParent E height puc spent txn parent w).1 = .ok r) :
    r = parent ∧ (finishParent E height puc spent txn parent w).2.1 =
      { txn with siacoinInputs := txn.siacoinInputs ++ [⟨E.siacoinOutputID parent 0, puc⟩] } := by
  cases hp : E.putSpentOutput (E.siacoinOutputID parent 0) height w with
  | error m => simp [finishParent, hp] at h
  | ok w1 =>
    rcases hs : putSpentOutputs E height spent w1 with ⟨_ | _, w2⟩ <;>
      simp only [finishParent, hp, hs] at h ⊢
    · cases h
    · exact ⟨(Except.ok.inj h).symm, trivial⟩

variable {dt : Currency} {height : UInt64} {outputs : AList (fun _ : Hash256 => SiacoinOutput)}
  {spent : List (Hash256 × SiacoinOutput)} {f p : Currency}

/-- Once the reads succeed and the selection reaches the amount, `FundTransaction` either fails
with the error of a store call or ends in `finishParent` with the parent transaction: an input
per spent output, the exact output and the refund output, present exactly when the outputs
spent exceed the amount. -/
theorem fundTransaction_selected (txn : Transaction) (hdt : E.dustThreshold = .ok dt)
    (hch : E.consensusHeight = .ok height) (hout : E.siacoinOutputs = .ok outputs)
    (hsel : spendOutputs (fun id o => E.checkOutput w height id o dt) amount Currency.zero
      Currency.zero (E.sort.order (E.collected outputs)) = some (spent, f, p))
    (hf : amount.toNat ≤ f.toNat) (hpos : 0 < amount.toNat) :
    (∃ msg txn' w', fundTransaction E w txn amount = (.error (.store msg), txn', w')) ∨
    ∃ puc change w1, (change.map fun o => o.value.toNat).sum = f.toNat - amount.toNat ∧
      change.length = (if amount.toNat < f.toNat then 1 else 0) ∧
      fundTransaction E w txn amount = finishParent E height puc (spent.map Prod.fst) txn
        ⟨spent.map fun o => ⟨o.1, E.unlockConditionsOf o.2.address⟩,
          ⟨amount, E.unlockHash puc⟩ :: change⟩ w1 := by
  have hnot : ¬ (amount.toNat ≤ p.toNat ∧ f.toNat < amount.toNat) := fun h => by omega
  simp only [fundTransaction, if_neg (show amount.toNat ≠ 0 by omega), hdt, hch, hout, hsel,
    if_neg hnot, if_neg (show ¬ f.toNat < amount.toNat by omega)]
  rcases hn : E.nextPrimarySeedAddress w with ⟨puc, _ | w1⟩
  · exact .inl ⟨_, _, _, rfl⟩
  by_cases heq : amount = f
  · subst heq
    exact .inr ⟨puc, [], w1, by simp, by simp, by simp⟩
  have hlt : amount.toNat < f.toNat := lt_of_le_of_ne hf (mt Currency.toNat_inj.1 heq)
  simp only [if_neg heq]
  rcases hr : E.nextPrimarySeedAddress w1 with ⟨ruc, _ | w2⟩
  · exact .inl ⟨_, _, _, rfl⟩
  obtain ⟨v, hv, hvv⟩ := Currency.sub_of_le (c := f) (v := amount) hf
  exact .inr ⟨puc, [⟨v, E.unlockHash ruc⟩], w2, by simp [hvv], by simp [hlt], by simp [hv]⟩

/-- **`FundTransaction` is complete** when its reads succeed and the outputs it collects are
worth less than `2^128`: it reports a low balance or incomplete transactions exactly when its
spendable outputs are worth less than the amount. -/
theorem fundTransaction_short_iff (hdt : E.dustThreshold = .ok dt)
    (hch : E.consensusHeight = .ok height) (hout : E.siacoinOutputs = .ok outputs)
    (hbound : value (elements (E.collected outputs)) < 2 ^ 128) (hpos : 0 < amount.toNat) :
    ((fundTransaction E w txn amount).1 = .error .lowBalance ∨
      (fundTransaction E w txn amount).1 = .error .incompleteTransactions) ↔
      value (elements (E.spendable w height dt outputs)) < amount.toNat := by
  have hne : amount.toNat ≠ 0 := by omega
  have hval : value (elements ((E.sort.order (E.collected outputs)).filter
      fun o => (E.checkOutput w height o.1 o.2 dt).toBool)) =
      value (elements (E.spendable w height dt outputs)) :=
    value_perm (((E.sort.perm _).filter _).map _)
  rcases hsel : spendOutputs (fun id o => E.checkOutput w height id o dt) amount Currency.zero
    Currency.zero (E.sort.order (E.collected outputs)) with _ | ⟨spent, f, p⟩
  · -- `Add` panicked, so the outputs that pass are worth the amount
    have hge : ¬ value (elements (E.spendable w height dt outputs)) < amount.toNat := fun hlt => by
      obtain ⟨f', p', h⟩ := @spendOutputs_short (fun id o => E.checkOutput w height id o dt) amount
        Currency.zero Currency.zero (E.sort.order (E.collected outputs))
        (by rw [Currency.toNat_zero, zero_add, hval]; exact hlt)
        (by rw [Currency.toNat_zero, zero_add, elements, value_perm ((E.sort.perm _).map _)]; exact hbound)
      rw [hsel] at h
      cases h
    simp [fundTransaction, hne, hdt, hch, hout, hsel, hge]
  obtain ⟨hp, hf, hall⟩ := spendOutputs_spec hsel
  simp only [Currency.toNat_zero, zero_add] at hf
  by_cases hlt : f.toNat < amount.toNat
  · rw [hall hlt, hval] at hf
    have hres : (fundTransaction E w txn amount).1 =
        .error (if amount.toNat ≤ p.toNat then .incompleteTransactions else .lowBalance) := by
      simp only [fundTransaction, if_neg hne, hdt, hch, hout, hsel, if_pos hlt, and_true]
      split_ifs <;> first | rfl | (exfalso; omega)
    rw [hres]
    exact iff_of_true (by split_ifs <;> simp) (by omega)
  refine iff_of_false ?_ ?_
  · rcases fundTransaction_selected txn hdt hch hout hsel (by omega) hpos with
      ⟨msg, txn', w', h⟩ | ⟨puc, change, w1, -, -, h⟩ <;> rw [h]
    · simp
    · rintro (h | h) <;> obtain ⟨_, ⟨⟩⟩ := finishParent_error h
  · have hle : value (elements spent) ≤ value (elements ((E.sort.order (E.collected outputs)).filter
        fun o => (E.checkOutput w height o.1 o.2 dt).toBool)) :=
      value_le_of_sublist (hp.sublist.map _)
    omega

/-- What a successful `FundTransaction` did, once its reads succeeded: select `spent`, worth
`f ≥ amount`, build the parent with the refund output in `change` (one exactly when `f`
exceeds `amount`), and end in `finishParent`. -/
theorem fundTransaction_ok_cases (hdt : E.dustThreshold = .ok dt)
    (hch : E.consensusHeight = .ok height) (hout : E.siacoinOutputs = .ok outputs)
    (hpos : 0 < amount.toNat) {parent txn' : Transaction} {w' : σ}
    (h : fundTransaction E w txn amount = (.ok parent, txn', w')) :
    ∃ spent f p puc change w1, spendOutputs (fun id o => E.checkOutput w height id o dt) amount
        Currency.zero Currency.zero (E.sort.order (E.collected outputs)) = some (spent, f, p) ∧
      f.toNat = value (elements spent) ∧ amount.toNat ≤ f.toNat ∧
      (change.map fun o => o.value.toNat).sum = f.toNat - amount.toNat ∧
      change.length = (if amount.toNat < f.toNat then 1 else 0) ∧
      finishParent E height puc (spent.map Prod.fst) txn
        ⟨spent.map fun o => ⟨o.1, E.unlockConditionsOf o.2.address⟩,
          ⟨amount, E.unlockHash puc⟩ :: change⟩ w1 = (.ok parent, txn', w') := by
  have hne : amount.toNat ≠ 0 := by omega
  rcases hsel : spendOutputs (fun id o => E.checkOutput w height id o dt) amount Currency.zero
    Currency.zero (E.sort.order (E.collected outputs)) with _ | ⟨spent, f, p⟩
  · simp [fundTransaction, hne, hdt, hch, hout, hsel] at h
  have hf := (spendOutputs_spec hsel).2.1
  simp only [Currency.toNat_zero, zero_add] at hf
  have hle : amount.toNat ≤ f.toNat := by
    by_contra hlt
    simp only [fundTransaction, if_neg hne, hdt, hch, hout, hsel, if_pos (lt_of_not_le hlt),
      and_true] at h
    split at h <;> cases h
  rcases fundTransaction_selected txn hdt hch hout hsel hle hpos with
    ⟨msg, txn'', w'', h'⟩ | ⟨puc, change, w1, hsum, hlen, h'⟩ <;> rw [h'] at h
  · cases h
  exact ⟨spent, f, p, puc, change, w1, rfl, hf, hle, hsum, hlen, h⟩

/-- **`FundTransaction` is sound** when its reads succeed and no id is collected twice: the
parent's inputs spend pairwise distinct spendable outputs that pay the exact output, worth the
amount, and the refund output; the caller's transaction gains one input, the exact output. -/
theorem fundTransaction_ok (hdt : E.dustThreshold = .ok dt)
    (hch : E.consensusHeight = .ok height) (hout : E.siacoinOutputs = .ok outputs)
    (hnodup : ((E.collected outputs).map Prod.fst).Nodup) (hpos : 0 < amount.toNat)
    {parent txn' : Transaction} {w' : σ}
    (h : fundTransaction E w txn amount = (.ok parent, txn', w')) :
    ∃ es change puc, Funds (elements (E.spendable w height dt outputs)) amount es change ∧
      parent.siacoinInputs.map (·.parentID) = es.map (·.id) ∧
      parent.siacoinOutputs = ⟨amount, E.unlockHash puc⟩ :: change ∧
      txn' = { txn with siacoinInputs := txn.siacoinInputs ++ [⟨E.siacoinOutputID parent 0, puc⟩] } := by
  obtain ⟨spent, f, p, puc, change, w1, hsel, hf, hle, hsum, hlen, h⟩ :=
    fundTransaction_ok_cases hdt hch hout hpos h
  have hp := (spendOutputs_spec hsel).1
  have h1 := congrArg (·.1) h
  have h2 := congrArg (·.2.1) h
  simp only at h1 h2
  obtain ⟨rfl, htx⟩ := finishParent_ok h1
  refine ⟨elements spent, change, puc, ⟨?_, fun e he => ?_, by omega, by rw [hlen, hf]⟩,
    by simp [Function.comp_def], rfl, by rw [← h2, htx]⟩
  · rw [elements_map_id]
    exact E.sort.nodup_of_prefix _ hp hnodup
  · rw [mem_elements] at he ⊢
    exact E.sort.subset_of_prefix hp he

end FundTransaction

/-! ## What a failure leaves behind -/

/-- The spent-output loop stops at the first failure, with the outputs before it marked. -/
theorem putSpentOutputs_error {E : FundTransactionEnv σ} {height : UInt64}
    {pre post : List Hash256} {id : Hash256} {w w1 : σ} {msg : String}
    (hpre : putSpentOutputs E height pre w = (.ok (), w1))
    (hfail : E.putSpentOutput id height w1 = .error msg) :
    putSpentOutputs E height (pre ++ id :: post) w = (.error msg, w1) := by
  induction pre generalizing w with
  | nil => cases hpre; simp [putSpentOutputs, hfail]
  | cons x pre ih =>
    simp only [putSpentOutputs] at hpre
    cases hx : E.putSpentOutput x height w with
    | error m => simp [hx] at hpre
    | ok w' =>
      simp only [hx] at hpre
      simp [putSpentOutputs, hx, ih hpre]

/-- **`Fund` keeps what it did before a failed `insertSpentOutput`.** When a change output is
needed and the record of the `k+1`-th funding element fails, `Fund` returns the error with the
change output and `k+1` inputs added to the caller's transaction, the first `k` elements
recorded as used, and the change address still handed out. -/
theorem fund_insert_failure {E : FundEnv K σ} {w : σ} {txn : Transaction} {amount t : Currency}
    {pre post : List SiacoinElement} {sce : SiacoinElement} {uc : UnlockConditions}
    {w1 w2 : σ} {msg : String} (hpos : 0 < amount.toNat)
    (hkeys : ∀ e ∈ pre ++ [sce], e.siacoinOutput.address ∈ E.keys)
    (hsel : fundingElements (fun sce => E.used w sce.id || E.inPool sce.id) amount Currency.zero
      (E.sort.order E.unspentSiacoinOutputs) = some (pre ++ sce :: post, t))
    (hchange : amount.toNat < t.toNat) (hnext : E.nextAddress w = (uc, .ok w1))
    (hpre : pre.foldlM (fun w e => E.insertSpentOutput e.id w) w1 = .ok w2)
    (hfail : E.insertSpentOutput sce.id w2 = .error msg) :
    ∃ v ins, fund E w txn amount = (.error (.store msg),
        ⟨txn.siacoinInputs ++ ins, txn.siacoinOutputs ++ [⟨v, E.unlockHash uc⟩]⟩, w2) ∧
      ins.map (·.parentID) = (pre ++ [sce]).map (·.id) ∧ v.toNat = t.toNat - amount.toNat := by
  obtain ⟨v, hv, hvv⟩ := Currency.sub_of_le (c := t) (v := amount) (by omega)
  obtain ⟨ins, hins, hmap⟩ := @addFundingInputs_error K σ E pre post sce
    { txn with siacoinOutputs := txn.siacoinOutputs ++ [⟨v, E.unlockHash uc⟩] } _ _ _ hkeys hpre hfail
  refine ⟨v, ins, ?_, hmap, hvv⟩
  simp [fund, show amount.toNat ≠ 0 by omega, hsel, show ¬ t.toNat < amount.toNat by omega, hchange,
    hnext, hv, fundInputs, hins]

/-- **`FundTransaction` keeps what it did before a failed `dbPutSpentOutput`.** When a refund
is needed and marking a spent output fails after the parent's output and the outputs before
it were marked, `FundTransaction` returns the error with the parent's output added as an input
of the caller's transaction and those outputs marked spent; the parent address is released,
the refund address never is. -/
theorem fundTransaction_putSpent_failure {E : FundTransactionEnv σ} {w : σ} {txn : Transaction}
    {amount dt f p v : Currency} {height : UInt64}
    {outputs : AList (fun _ : Hash256 => SiacoinOutput)} {spent : List (Hash256 × SiacoinOutput)}
    {puc ruc : UnlockConditions} {w1 w2 w3 w4 : σ} {pre post : List Hash256} {id : Hash256}
    {msg : String} (hpos : 0 < amount.toNat) (hdt : E.dustThreshold = .ok dt)
    (hch : E.consensusHeight = .ok height) (hout : E.siacoinOutputs = .ok outputs)
    (hsel : spendOutputs (fun id o => E.checkOutput w height id o dt) amount Currency.zero
      Currency.zero (E.sort.order (E.collected outputs)) = some (spent, f, p))
    (hrefund : amount.toNat < f.toNat)
    (hparent : E.nextPrimarySeedAddress w = (puc, .ok w1))
    (hnext : E.nextPrimarySeedAddress w1 = (ruc, .ok w2)) (hv : f.sub amount = some v)
    (hput : E.putSpentOutput (E.siacoinOutputID ⟨spent.map fun o => ⟨o.1, E.unlockConditionsOf o.2.address⟩,
      [⟨amount, E.unlockHash puc⟩, ⟨v, E.unlockHash ruc⟩]⟩ 0) height w2 = .ok w3)
    (hspent : spent.map Prod.fst = pre ++ id :: post)
    (hpre : putSpentOutputs E height pre w3 = (.ok (), w4))
    (hfail : E.putSpentOutput id height w4 = .error msg) :
    fundTransaction E w txn amount = (.error (.store msg),
      { txn with siacoinInputs := txn.siacoinInputs ++ [⟨E.siacoinOutputID
        ⟨spent.map fun o => ⟨o.1, E.unlockConditionsOf o.2.address⟩,
          [⟨amount, E.unlockHash puc⟩, ⟨v, E.unlockHash ruc⟩]⟩ 0, puc⟩] },
      E.markAddressUnused puc w4) := by
  have hne : amount ≠ f := fun h => by subst h; omega
  simp [fundTransaction, show amount.toNat ≠ 0 by omega, hdt, hch, hout, hsel,
    show ¬ f.toNat < amount.toNat by omega, hparent, hne, hnext, hv, finishParent, hput, hspent,
    putSpentOutputs_error hpre hfail]

/-! ## The funding claims -/

/-- **Both funding routines are complete and sound.** `Fund`, when every tracked output has
a key, reports an insufficient balance exactly when its spendable outputs are worth less than
the amount, and on success funds the amount from them; `FundTransaction`, when its reads
succeed, the outputs it collects have distinct ids and are worth less than `2^128`, reports a
low balance or incomplete transactions exactly when the outputs that pass `checkOutput` are
worth less than the amount, and on success funds the amount from them in the parent, whose
exact output the caller's transaction spends. -/
theorem funding_complete_and_sound :
    (∀ (E : FundEnv K σ) (w : σ) (txn : Transaction) (amount : Currency),
      (∀ sce ∈ E.unspentSiacoinOutputs, sce.siacoinOutput.address ∈ E.keys) → 0 < amount.toNat →
      ((fund E w txn amount).1 = .error .insufficientBalance ↔
        value (E.spendable w) < amount.toNat) ∧
      ∀ r txn' w', fund E w txn amount = (.ok r, txn', w') →
        ∃ es change ins, Funds (E.spendable w) amount es change ∧
          ins.map (·.parentID) = es.map (·.id) ∧
          txn' = ⟨txn.siacoinInputs ++ ins, txn.siacoinOutputs ++ change⟩) ∧
    (∀ (E : FundTransactionEnv σ) (w : σ) (txn : Transaction) (amount dt : Currency)
      (height : UInt64) (outputs : AList (fun _ : Hash256 => SiacoinOutput)),
      E.dustThreshold = .ok dt → E.consensusHeight = .ok height → E.siacoinOutputs = .ok outputs →
      ((E.collected outputs).map Prod.fst).Nodup →
      value (elements (E.collected outputs)) < 2 ^ 128 → 0 < amount.toNat →
      (((fundTransaction E w txn amount).1 = .error .lowBalance ∨
          (fundTransaction E w txn amount).1 = .error .incompleteTransactions) ↔
        value (elements (E.spendable w height dt outputs)) < amount.toNat) ∧
      ∀ parent txn' w', fundTransaction E w txn amount = (.ok parent, txn', w') →
        ∃ es change puc, Funds (elements (E.spendable w height dt outputs)) amount es change ∧
          parent.siacoinInputs.map (·.parentID) = es.map (·.id) ∧
          parent.siacoinOutputs = ⟨amount, E.unlockHash puc⟩ :: change ∧
          txn' = { txn with
            siacoinInputs := txn.siacoinInputs ++ [⟨E.siacoinOutputID parent 0, puc⟩] }) :=
  ⟨fun _ _ _ _ hkeys hpos => ⟨fund_insufficient_iff hpos, fun _ _ _ h => fund_ok hkeys hpos h⟩,
    fun _ _ _ _ _ _ _ hdt hch hout hnodup hbound hpos =>
      ⟨fundTransaction_short_iff hdt hch hout hbound hpos,
        fun _ _ _ h => fundTransaction_ok hdt hch hout hnodup hpos h⟩⟩

/-! A wallet to run the two routines on. -/

/-- The parts of a wallet a failure can leave changed: the outputs recorded as used or spent,
and the number of addresses handed out. -/
structure DemoWallet where
  used : List Hash256
  addresses : ℕ
  deriving DecidableEq

/-- A key-less unlock condition per address index. -/
def demoUnlockConditions (n : ℕ) : UnlockConditions := ⟨UInt64.ofNat n, [], 1⟩

/-- A `Fund` wallet holding outputs `1` (7 SC) and `2` (5 SC), whose record of output `2`
fails. -/
def demoFundEnv : FundEnv Unit DemoWallet where
  sces := ⟨[⟨1, ⟨Currency.ofNat 7, 0⟩⟩, ⟨2, ⟨Currency.ofNat 5, 0⟩⟩], by unfold List.NodupKeys; decide⟩
  sort := ⟨id, List.Perm.refl⟩
  poolTransactions := []
  keys := ⟨[⟨0, ()⟩], by unfold List.NodupKeys; decide⟩
  used w id := id ∈ w.used
  nextAddress w := (demoUnlockConditions w.addresses, .ok { w with addresses := w.addresses + 1 })
  markAddressUnused _ w := { w with addresses := w.addresses - 1 }
  insertSpentOutput id w := if id = 2 then .error "insertSpentOutput" else .ok { w with used := id :: w.used }
  standardUnlockConditions _ := demoUnlockConditions 0
  unlockHash _ := 0
  unconfirmedParents _ := []

/-- A `FundTransaction` wallet with the output table `outputs` and the unconfirmed
transactions `unconfirmed`, at height 10 with no dust threshold; `spentAt` gives the heights
outputs were spent at, and marking `failing` spent fails. An output's id is one more than its
index, plus 100 per input of its transaction. -/
def demoFundTransactionEnv (outputs : AList (fun _ : Hash256 => SiacoinOutput))
    (unconfirmed : List Transaction) (spentAt : Hash256 → Option UInt64) (failing : Hash256) :
    FundTransactionEnv DemoWallet where
  dustThreshold := .ok Currency.zero
  consensusHeight := .ok 10
  siacoinOutputs := .ok outputs
  unconfirmed := unconfirmed
  siacoinOutputID t i := BitVec.ofNat 256 (100 * t.siacoinInputs.length + i + 1)
  keys := ⟨[⟨0, demoUnlockConditions 0⟩], by unfold List.NodupKeys; decide⟩
  sort := ⟨id, List.Perm.refl⟩
  respendTimeout := 6
  unlockHash _ := 0
  spentOutput _ id := spentAt id
  nextPrimarySeedAddress w :=
    (demoUnlockConditions w.addresses, .ok { w with addresses := w.addresses + 1 })
  markAddressUnused _ w := { w with addresses := w.addresses - 1 }
  putSpentOutput id _ w :=
    if id = failing then .error "dbPutSpentOutput" else .ok { w with used := id :: w.used }

/-- The output table holding `1` (7 SC) and `2` (5 SC). -/
def demoOutputs : AList (fun _ : Hash256 => SiacoinOutput) :=
  ⟨[⟨1, ⟨Currency.ofNat 7, 0⟩⟩, ⟨2, ⟨Currency.ofNat 5, 0⟩⟩], by unfold List.NodupKeys; decide⟩

/-- Both routines on the demo wallets: `Fund` reports 12 SC short of 20, and `FundTransaction`
is not short of 10. -/
theorem funding_complete_and_sound_demo :
    (fund demoFundEnv ⟨[], 0⟩ ⟨[], []⟩ (Currency.ofNat 20)).1 = .error .insufficientBalance ∧
    ¬ ((fundTransaction (demoFundTransactionEnv demoOutputs [] (fun _ => none) 0) ⟨[], 0⟩ ⟨[], []⟩
          (Currency.ofNat 10)).1 = .error .lowBalance ∨
        (fundTransaction (demoFundTransactionEnv demoOutputs [] (fun _ => none) 0) ⟨[], 0⟩ ⟨[], []⟩
          (Currency.ofNat 10)).1 = .error .incompleteTransactions) :=
  ⟨((funding_complete_and_sound.1 demoFundEnv _ _ _ (by decide) (by decide)).1).2 (by decide),
    fun h => absurd ((((@funding_complete_and_sound Unit _).2 _ _ _ _ Currency.zero 10 demoOutputs rfl rfl rfl
      (by decide) (by decide) (by decide)).1).1 h) (by decide)⟩

/-- Two outputs recently spent by the wallet, of `2^127` each, at height 8. -/
def demoRecentOutputs : AList (fun _ : Hash256 => SiacoinOutput) :=
  ⟨[⟨1, ⟨Currency.ofNat (2 ^ 127), 0⟩⟩, ⟨2, ⟨Currency.ofNat (2 ^ 127), 0⟩⟩],
    by unfold List.NodupKeys; decide⟩

/-- **Where `FundTransaction` breaks the funding claim.** An output of the table that an
unconfirmed transaction also creates, with the same id, is spent twice by the parent; and with
nothing spendable, two recently spent outputs of `2^127` overflow `potentialFund`, so the call
panics instead of reporting a low balance. -/
theorem fundTransaction_duplicate_or_overflow :
    (∃ parent, (fundTransaction (demoFundTransactionEnv ⟨[⟨1, ⟨Currency.ofNat 5, 0⟩⟩], by
        unfold List.NodupKeys; decide⟩ [⟨[], [⟨Currency.ofNat 5, 0⟩]⟩] (fun _ => none) 0)
        ⟨[], 0⟩ ⟨[], []⟩ (Currency.ofNat 10)).1 = .ok parent ∧
      parent.siacoinInputs.map (·.parentID) = [1, 1]) ∧
    (fundTransaction (demoFundTransactionEnv demoRecentOutputs [] (fun _ => some 8) 0)
        ⟨[], 0⟩ ⟨[], []⟩ (Currency.ofNat 1)).1 = .error .overflow ∧
      value (elements ((demoFundTransactionEnv demoRecentOutputs [] (fun _ => some 8) 0).spendable
        ⟨[], 0⟩ 10 Currency.zero demoRecentOutputs)) = 0 :=
  ⟨⟨_, rfl, rfl⟩, rfl, by decide⟩

/-- **A failed funding call is not undone.** `Fund`, failing to record the `k+1`-th funding
element, and `FundTransaction`, failing to mark a spent output, return their error with the
caller's transaction, the records and the addresses handed out as the calls before the
failure left them. -/
theorem funding_failure_keeps_changes :
    (∀ (E : FundEnv K σ) (w : σ) (txn : Transaction) (amount t : Currency)
      (pre post : List SiacoinElement) (sce : SiacoinElement) (uc : UnlockConditions)
      (w1 w2 : σ) (msg : String), 0 < amount.toNat →
      (∀ e ∈ pre ++ [sce], e.siacoinOutput.address ∈ E.keys) →
      fundingElements (fun sce => E.used w sce.id || E.inPool sce.id) amount Currency.zero
        (E.sort.order E.unspentSiacoinOutputs) = some (pre ++ sce :: post, t) →
      amount.toNat < t.toNat → E.nextAddress w = (uc, .ok w1) →
      pre.foldlM (fun w e => E.insertSpentOutput e.id w) w1 = .ok w2 →
      E.insertSpentOutput sce.id w2 = .error msg →
      ∃ v ins, fund E w txn amount = (.error (.store msg),
          ⟨txn.siacoinInputs ++ ins, txn.siacoinOutputs ++ [⟨v, E.unlockHash uc⟩]⟩, w2) ∧
        ins.map (·.parentID) = (pre ++ [sce]).map (·.id) ∧ v.toNat = t.toNat - amount.toNat) ∧
    (∀ (E : FundTransactionEnv σ) (w : σ) (txn : Transaction) (amount dt f p v : Currency)
      (height : UInt64) (outputs : AList (fun _ : Hash256 => SiacoinOutput))
      (spent : List (Hash256 × SiacoinOutput)) (puc ruc : UnlockConditions) (w1 w2 w3 w4 : σ)
      (pre post : List Hash256) (id : Hash256) (msg : String), 0 < amount.toNat →
      E.dustThreshold = .ok dt → E.consensusHeight = .ok height → E.siacoinOutputs = .ok outputs →
      spendOutputs (fun id o => E.checkOutput w height id o dt) amount Currency.zero
        Currency.zero (E.sort.order (E.collected outputs)) = some (spent, f, p) →
      amount.toNat < f.toNat → E.nextPrimarySeedAddress w = (puc, .ok w1) →
      E.nextPrimarySeedAddress w1 = (ruc, .ok w2) → f.sub amount = some v →
      E.putSpentOutput (E.siacoinOutputID ⟨spent.map fun o => ⟨o.1, E.unlockConditionsOf o.2.address⟩,
        [⟨amount, E.unlockHash puc⟩, ⟨v, E.unlockHash ruc⟩]⟩ 0) height w2 = .ok w3 →
      spent.map Prod.fst = pre ++ id :: post →
      putSpentOutputs E height pre w3 = (.ok (), w4) → E.putSpentOutput id height w4 = .error msg →
      fundTransaction E w txn amount = (.error (.store msg),
        { txn with siacoinInputs := txn.siacoinInputs ++ [⟨E.siacoinOutputID
          ⟨spent.map fun o => ⟨o.1, E.unlockConditionsOf o.2.address⟩,
            [⟨amount, E.unlockHash puc⟩, ⟨v, E.unlockHash ruc⟩]⟩ 0, puc⟩] },
        E.markAddressUnused puc w4)) :=
  ⟨fun _ _ _ _ _ _ _ _ _ _ _ _ hpos hkeys hsel hchange hnext hpre hfail =>
      fund_insert_failure hpos hkeys hsel hchange hnext hpre hfail,
    fun _ _ _ _ _ _ _ _ _ _ _ _ _ _ _ _ _ _ _ _ _ hpos hdt hch hout hsel hrefund hparent hnext hv hput
      hspent hpre hfail =>
      fundTransaction_putSpent_failure hpos hdt hch hout hsel hrefund hparent hnext hv hput hspent
        hpre hfail⟩

/-- On the demo wallets: `Fund` of 10 SC fails recording output `2` and leaves the caller's
transaction with two inputs and a change output, output `1` recorded as used and the change
address handed out; `FundTransaction` of 10 SC fails marking output `2` and leaves the caller's
transaction with one input, outputs `1` and the parent's recorded as spent, and the refund
address handed out. -/
theorem funding_failure_keeps_changes_demo :
    (fund demoFundEnv ⟨[], 0⟩ ⟨[], []⟩ (Currency.ofNat 10)).1 = .error (.store "insertSpentOutput") ∧
    (fund demoFundEnv ⟨[], 0⟩ ⟨[], []⟩ (Currency.ofNat 10)).2.1.siacoinInputs.length = 2 ∧
    (fund demoFundEnv ⟨[], 0⟩ ⟨[], []⟩ (Currency.ofNat 10)).2.1.siacoinOutputs.length = 1 ∧
    (fund demoFundEnv ⟨[], 0⟩ ⟨[], []⟩ (Currency.ofNat 10)).2.2 = ⟨[1], 1⟩ ∧
    fundTransaction (demoFundTransactionEnv demoOutputs [] (fun _ => none) 2) ⟨[], 0⟩ ⟨[], []⟩
      (Currency.ofNat 10) = (.error (.store "dbPutSpentOutput"),
        ⟨[⟨201, demoUnlockConditions 0⟩], []⟩, ⟨[1, 201], 1⟩) := by
  obtain ⟨v, ins, hfund, hins, -⟩ := (@funding_failure_keeps_changes Unit DemoWallet).1 demoFundEnv
    ⟨[], 0⟩ ⟨[], []⟩ (Currency.ofNat 10) (Currency.ofNat 12) [⟨1, ⟨Currency.ofNat 7, 0⟩⟩] []
    ⟨2, ⟨Currency.ofNat 5, 0⟩⟩ (demoUnlockConditions 0) ⟨[], 1⟩ ⟨[1], 1⟩ "insertSpentOutput"
    (by decide) (by decide) rfl (by decide) rfl rfl rfl
  refine ⟨by rw [hfund], by rw [hfund, ← List.length_map _ (·.parentID)]; simp [hins], by rw [hfund]; rfl,
    by rw [hfund], ?_⟩
  exact (@funding_failure_keeps_changes Unit DemoWallet).2 _ _ _ (Currency.ofNat 10) Currency.zero
    (Currency.ofNat 12) (Currency.ofNat 12) (Currency.ofNat 2) 10 demoOutputs
    [(1, ⟨Currency.ofNat 7, 0⟩), (2, ⟨Currency.ofNat 5, 0⟩)] (demoUnlockConditions 0)
    (demoUnlockConditions 1) ⟨[], 1⟩ ⟨[], 2⟩ ⟨[201], 2⟩ ⟨[1, 201], 2⟩ [1] [] 2 "dbPutSpentOutput"
    (by decide) rfl rfl rfl rfl (by decide) rfl rfl rfl rfl rfl rfl rfl

end Wallet

end SiaSatellite
