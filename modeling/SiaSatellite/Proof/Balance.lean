import SiaSatellite.Spec.Wallet

/-!
# The wallet's balance

`ConfirmedBalance` ranges over the wallet's maps `w.sces` and `w.sfes`, in an order Go leaves
unspecified, and adds with `Currency.Add`, which panics at `2^128`, and with `uint64` `+=`,
which wraps.

* `confirmedBalance_exact`: **`ConfirmedBalance` returns the exact sums**: the value of the
  outputs above the dust threshold that have matured, the value of those above it that have
  not, and the siafund total modulo `2^64`. It panics exactly when the dust threshold or one
  of the two siacoin sums reaches `2^128`, so neither the result nor the panic depends on the
  order the maps are ranged over.

A partial sum of the loop never exceeds the total it is part of, which is why the panic is a
condition on the totals alone (`balanceLoop_eq`).
-/

namespace SiaSatellite

theorem Currency.ofNat_toNat (c : Currency) : Currency.ofNat c.toNat = c :=
  Currency.toNat_inj.1 (Currency.toNat_ofNat c.toNat_lt)

namespace Wallet

open CoreTypes

variable (dust : Currency) (height : ℕ)

/-- The value of the outputs above the dust threshold that have matured at `height`
(`mature = true`) or have not (`mature = false`). -/
def balanceSum (mature : Bool) (sces : List TrackedElement) : ℕ :=
  ((sces.filter fun e => decide (dust.toNat < e.siacoinOutput.value.toNat) &&
      decide (e.maturityHeight ≤ height) == mature).map fun e => e.siacoinOutput.value.toNat).sum

variable {dust height}

theorem balanceSum_cons (m : Bool) (e : TrackedElement) (sces : List TrackedElement) :
    balanceSum dust height m (e :: sces) =
      (if dust.toNat < e.siacoinOutput.value.toNat ∧ decide (e.maturityHeight ≤ height) = m
        then e.siacoinOutput.value.toNat else 0) + balanceSum dust height m sces := by
  unfold balanceSum
  rw [List.filter_cons]
  split_ifs with h1 h2 h2 <;> simp_all

theorem balanceSum_perm (m : Bool) {sces sces' : List TrackedElement} (h : sces'.Perm sces) :
    balanceSum dust height m sces' = balanceSum dust height m sces :=
  ((h.filter _).map _).sum_eq

/-- `Currency.Add` followed by the rest of the loop, whose result `g` is a function of the
sum in `ℕ` that panics from `2^128` on. -/
theorem add_bind_eq {β : Type} (c v : Currency) (A : ℕ) (k : Currency → Option β)
    (g : ℕ → Option β) (hg : ∀ n, 2 ^ 128 ≤ n → g n = none)
    (hk : ∀ x < 2 ^ 128, k (Currency.ofNat x) = g (x + A)) :
    (c.add v).bind k = g (c.toNat + (v.toNat + A)) := by
  unfold Currency.add
  by_cases hv : c.toNat + v.toNat < 2 ^ 128
  · rw [if_pos hv, Option.some_bind, hk _ hv, Nat.add_assoc]
  · rw [if_neg hv, hg _ (by omega)]
    rfl

/-- The loop of `ConfirmedBalance` from any two running sums: the sums plus the values it
adds, or the panic when either reaches `2^128`. -/
theorem balanceLoop_eq (sces : List TrackedElement) (s i : Currency) :
    balanceLoop dust height (s, i) sces =
      if s.toNat + balanceSum dust height true sces < 2 ^ 128 ∧
          i.toNat + balanceSum dust height false sces < 2 ^ 128
      then some (Currency.ofNat (s.toNat + balanceSum dust height true sces),
        Currency.ofNat (i.toNat + balanceSum dust height false sces))
      else none := by
  induction sces generalizing s i with
  | nil =>
    have h0 : ∀ m, balanceSum dust height m [] = 0 := fun _ => rfl
    rw [h0, h0, Nat.add_zero, Nat.add_zero, if_pos ⟨s.toNat_lt, i.toNat_lt⟩,
      Currency.ofNat_toNat, Currency.ofNat_toNat]
    rfl
  | cons e sces ih =>
    simp only [balanceLoop, balanceSum_cons]
    by_cases hd : dust.toNat < e.siacoinOutput.value.toNat
    · by_cases hm : e.maturityHeight ≤ height
      · -- matured: the value goes to the confirmed sum
        simp only [hd, hm, if_true, true_and, decide_True, Bool.true_eq_false, if_false, Nat.zero_add]
        exact add_bind_eq s _ _ _ (fun n : ℕ =>
            if n < 2 ^ 128 ∧ i.toNat + balanceSum dust height false sces < 2 ^ 128
            then some (Currency.ofNat n, Currency.ofNat (i.toNat + balanceSum dust height false sces))
            else none)
          (fun n hn => if_neg fun h => absurd h.1 (by omega))
          (fun x hx => by rw [ih, Currency.toNat_ofNat hx])
      · -- immature: the value goes to the immature sum
        simp only [hd, hm, if_true, true_and, decide_False, Bool.false_eq_true, if_false, Nat.zero_add]
        exact add_bind_eq i _ _ _ (fun n : ℕ =>
            if s.toNat + balanceSum dust height true sces < 2 ^ 128 ∧ n < 2 ^ 128
            then some (Currency.ofNat (s.toNat + balanceSum dust height true sces), Currency.ofNat n)
            else none)
          (fun n hn => if_neg fun h => absurd h.2 (by omega))
          (fun x hx => by rw [ih, Currency.toNat_ofNat hx])
    · -- at or below the dust threshold: skipped
      simp only [hd, if_false, false_and, Nat.zero_add]
      exact ih s i

/-- The `uint64` sum of the siafunds wraps modulo `2^64`. -/
theorem foldl_add_toNat (a : UInt64) (l : List UInt64) :
    (l.foldl (· + ·) a).toNat = (a.toNat + (l.map UInt64.toNat).sum) % 2 ^ 64 := by
  induction l generalizing a with
  | nil => exact (Nat.mod_eq_of_lt a.toNat_lt).symm
  | cons x l ih =>
    rw [List.foldl_cons, ih, UInt64.toNat_add, List.map_cons, List.sum_cons,
      show UInt64.size = 2 ^ 64 from rfl, Nat.mod_add_mod, Nat.add_assoc]

/-- **`ConfirmedBalance` returns the exact sums.** The confirmed and immature siacoin sums
are the values of the outputs above the dust threshold that have and have not matured, and
the siafund sum is the total modulo `2^64`; it panics exactly when the dust threshold or one
of the two siacoin sums reaches `2^128`. Neither the result nor the panic depends on the
order the maps are ranged over. -/
theorem confirmedBalance_exact (recommendedFee : Currency) (height : ℕ)
    (sces : List TrackedElement) (sfes : List UInt64) :
    confirmedBalance recommendedFee height sces sfes =
      ((dustThreshold recommendedFee).bind fun dust =>
        if balanceSum dust height true sces < 2 ^ 128 ∧ balanceSum dust height false sces < 2 ^ 128
        then some (Currency.ofNat (balanceSum dust height true sces),
          Currency.ofNat (balanceSum dust height false sces), UInt64.ofNat (sfes.map UInt64.toNat).sum)
        else none) ∧
    ∀ sces' sfes', sces'.Perm sces → sfes'.Perm sfes →
      confirmedBalance recommendedFee height sces' sfes' =
        confirmedBalance recommendedFee height sces sfes := by
  have hsf : ∀ l : List UInt64, l.foldl (· + ·) 0 = UInt64.ofNat (l.map UInt64.toNat).sum :=
    fun l => UInt64.toNat.inj (by rw [foldl_add_toNat, show UInt64.toNat 0 = 0 from rfl, Nat.zero_add]; rfl)
  have hexact : ∀ sces sfes, confirmedBalance recommendedFee height sces sfes =
      ((dustThreshold recommendedFee).bind fun dust =>
        if balanceSum dust height true sces < 2 ^ 128 ∧ balanceSum dust height false sces < 2 ^ 128
        then some (Currency.ofNat (balanceSum dust height true sces),
          Currency.ofNat (balanceSum dust height false sces), UInt64.ofNat (sfes.map UInt64.toNat).sum)
        else none) := by
    intro sces sfes
    unfold confirmedBalance
    cases dustThreshold recommendedFee with
    | none => rfl
    | some dust =>
      show (balanceLoop dust height (Currency.zero, Currency.zero) sces).bind _ = _
      rw [balanceLoop_eq, hsf]
      simp only [Currency.toNat_zero, Nat.zero_add, Option.some_bind]
      split_ifs <;> rfl
  refine ⟨hexact sces sfes, fun sces' sfes' h h' => ?_⟩
  simp only [hexact, balanceSum_perm _ h, (h'.map UInt64.toNat).sum_eq]

end Wallet

end SiaSatellite
