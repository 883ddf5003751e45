import Mathlib

/-!
# Identifiers and currency

The values of `go.sia.tech/core/types` that the node's own code reads. Every id is a
32-byte hash whose zero value is the all-zero id. `Currency` is a 128-bit amount held
as two 64-bit words; its `Add` and `Mul64` panic on overflow, which the model writes as
`none`.
-/

namespace SiaSatellite

/-- A 32-byte hash (`types.Hash256`). -/
abbrev Hash256 := BitVec 256

abbrev ObjectID := Hash256
abbrev TransactionID := Hash256
abbrev TransactionSetID := Hash256
abbrev SiacoinOutputID := Hash256
abbrev FileContractID := Hash256
abbrev SiafundOutputID := Hash256
abbrev BlockID := Hash256

/-! Go maps are modelled as `AList`s; two bridges between membership and `lookup` serve
every module. -/

section AListBridge

variable {α β : Type} [DecidableEq α] {m : AList (fun _ : α => β)} {k : α}

theorem exists_lookup_of_mem (h : k ∈ m) : ∃ v, m.lookup k = some v :=
  Option.isSome_iff_exists.1 (AList.lookup_isSome.2 h)

theorem mem_of_lookup_eq_some {v : β} (h : m.lookup k = some v) : k ∈ m :=
  AList.lookup_isSome.1 (by rw [h]; rfl)

end AListBridge

/-- `types.Currency`: a 128-bit amount, low word first. -/
structure Currency where
  lo : UInt64
  hi : UInt64
deriving DecidableEq, Repr

namespace Currency

def toNat (c : Currency) : ℕ := c.hi.toNat * 2 ^ 64 + c.lo.toNat

def ofNat (n : ℕ) : Currency := ⟨UInt64.ofNat (n % 2 ^ 64), UInt64.ofNat (n / 2 ^ 64 % 2 ^ 64)⟩

/-- `types.ZeroCurrency`. -/
def zero : Currency := ⟨0, 0⟩

/-- `Currency.Add`; `none` is its panic on a sum of `2^128` or more. -/
def add (c v : Currency) : Option Currency :=
  if c.toNat + v.toNat < 2 ^ 128 then some (ofNat (c.toNat + v.toNat)) else none

/-- `Currency.Mul64`; `none` is its panic on a product of `2^128` or more. -/
def mul64 (c : Currency) (v : ℕ) : Option Currency :=
  if c.toNat * v < 2 ^ 128 then some (ofNat (c.toNat * v)) else none

/-- `Currency.Sub`; `none` is its panic on a negative difference. -/
def sub (c v : Currency) : Option Currency :=
  if v.toNat ≤ c.toNat then some (ofNat (c.toNat - v.toNat)) else none

theorem toNat_lt (c : Currency) : c.toNat < 2 ^ 128 := by
  have h1 := c.lo.toNat_lt_size
  have h2 := c.hi.toNat_lt_size
  simp only [UInt64.size] at h1 h2
  unfold toNat; omega

@[simp] theorem toNat_ofNat {n : ℕ} (h : n < 2 ^ 128) : (ofNat n).toNat = n := by
  unfold toNat ofNat
  rw [UInt64.toNat_ofNat_of_lt (by simp only [UInt64.size]; omega),
    UInt64.toNat_ofNat_of_lt (by simp only [UInt64.size]; omega)]
  omega

@[simp] theorem toNat_zero : zero.toNat = 0 := rfl

/-- A sum `Add` returns is the sum of the values. -/
theorem add_toNat {c v s : Currency} (h : c.add v = some s) : s.toNat = c.toNat + v.toNat := by
  unfold add at h
  split_ifs at h with hlt
  cases h
  exact toNat_ofNat hlt

/-- `Add` does not panic below `2^128`. -/
theorem add_of_lt {c v : Currency} (h : c.toNat + v.toNat < 2 ^ 128) :
    ∃ s, c.add v = some s ∧ s.toNat = c.toNat + v.toNat :=
  ⟨_, if_pos h, toNat_ofNat h⟩

/-- A difference `Sub` returns is the difference of the values. -/
theorem sub_toNat {c v d : Currency} (h : c.sub v = some d) : d.toNat = c.toNat - v.toNat := by
  unfold sub at h
  split_ifs at h
  cases h
  exact toNat_ofNat (by have := c.toNat_lt; omega)

/-- `Sub` does not panic when the value subtracted is at most the other. -/
theorem sub_of_le {c v : Currency} (h : v.toNat ≤ c.toNat) :
    ∃ d, c.sub v = some d ∧ d.toNat = c.toNat - v.toNat :=
  ⟨_, if_pos h, toNat_ofNat (by have := c.toNat_lt; omega)⟩

/-- Two amounts are equal, as `Currency.Equals` says, exactly when their values are. -/
theorem toNat_inj {c d : Currency} : c.toNat = d.toNat ↔ c = d := by
  refine ⟨fun h => ?_, congrArg _⟩
  obtain ⟨l1, h1⟩ := c
  obtain ⟨l2, h2⟩ := d
  have := l1.toNat_lt_size
  have := l2.toNat_lt_size
  simp only [toNat, UInt64.size] at *
  congr 1 <;> apply UInt64.toNat.inj <;> omega

end Currency

/-- Adding a list of amounts one by one from `c` gives their sum, or panics if it reaches
`2^128`. -/
theorem foldlM_add_toNat (l : List Currency) (c : Currency) :
    (l.foldlM Currency.add c).map Currency.toNat =
      if c.toNat + (l.map Currency.toNat).sum < 2 ^ 128
      then some (c.toNat + (l.map Currency.toNat).sum) else none := by
  induction l generalizing c with
  | nil => rw [List.map_nil, List.sum_nil, Nat.add_zero, if_pos c.toNat_lt]; rfl
  | cons x l ih =>
    simp only [List.foldlM_cons, List.map_cons, List.sum_cons]
    by_cases hx : c.toNat + x.toNat < 2 ^ 128
    · rw [show Currency.add c x = some (Currency.ofNat (c.toNat + x.toNat)) from if_pos hx]
      show Option.map _ (l.foldlM Currency.add _) = _
      rw [ih, Currency.toNat_ofNat hx, Nat.add_assoc]
    · rw [show Currency.add c x = none from if_neg hx, if_neg (by omega)]; rfl

/-- The same sum as an amount: `Currency.ofNat` of it, or the panic. -/
theorem foldlM_add_eq (l : List Currency) (c : Currency) :
    l.foldlM Currency.add c =
      if c.toNat + (l.map Currency.toNat).sum < 2 ^ 128
      then some (Currency.ofNat (c.toNat + (l.map Currency.toNat).sum)) else none := by
  have h := foldlM_add_toNat l c
  split_ifs at h ⊢ with hlt
  · obtain ⟨x, hx, hxv⟩ := Option.map_eq_some'.1 h
    rw [hx, ← Currency.toNat_inj.1 (hxv.trans (Currency.toNat_ofNat hlt).symm)]
  · exact Option.map_eq_none'.1 h

end SiaSatellite
