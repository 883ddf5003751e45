import SiaSatellite.Spec.Encoding

/-!
# The request codecs round-trip

`Decodes m bytes a` says that the decoding `m`, run on a healthy stream that starts with
`bytes`, yields `a` and leaves the rest of the stream, still healthy. One lemma per
primitive gives it for the primitive's own encoding; `Decodes.bind` chains them, and the
`_bind` lemmas let `simp` run a whole `DecodeFrom` over a whole `EncodeTo`.

* `FormRequest.decodeFrom_decodes`, `RenewRequest.decodeFrom_decodes`: for every receiver,
  `DecodeFrom` over `EncodeTo` followed by the signature's bytes gives back the request;
  `UpdateRequest.decodeFrom_decodes` does so for update requests over codecs that round-trip.
  The library's own revision codec does not, as `Proof/CoreEncoding` shows.
* `renewRequest_decode_allocates`: `renewRequest.DecodeFrom` reads its contract count with
  `ReadUint64` and hands `int` of it to `make`, so a 48-byte message can ask for any number
  of contract ids, and a count of `2^63` or more makes `make` panic; all of this happens
  before `managedRenewContracts` checks the signature.
-/

namespace SiaSatellite

open Encoder Decoder

variable {α β : Type}

/-! ## Little-endian integers -/

theorem length_leBytes (k n : ℕ) : (leBytes k n).length = k := by
  induction k generalizing n with
  | zero => rfl
  | succ k ih => simp [leBytes, ih]

theorem leValue_leBytes (k n : ℕ) : leValue (leBytes k n) = n % 256 ^ k := by
  induction k generalizing n with
  | zero => simp [leBytes, leValue, Nat.mod_one]
  | succ k ih =>
    have h : (UInt8.ofNat (n % 256)).toNat = n % 256 := Nat.mod_mod n 256
    rw [leBytes, leValue, ih, h, Nat.pow_succ', Nat.mod_mul]

theorem UInt64.ofNat_toNat (u : UInt64) : UInt64.ofNat u.toNat = u :=
  UInt64.eq_of_val_eq (Fin.ext (Nat.mod_eq_of_lt u.val.isLt))

theorem UInt64.toNat_ofNat_lt {n : ℕ} (h : n < 2 ^ 64) : (UInt64.ofNat n).toNat = n :=
  Nat.mod_eq_of_lt h

/-! ## Decoding what was encoded -/

/-- `m` decodes `a` from a healthy stream that starts with `bytes`, and leaves the rest. -/
def Decodes (m : StateM Decoder α) (bytes : List UInt8) (a : α) : Prop :=
  ∀ rest, m ⟨bytes ++ rest, false⟩ = (a, ⟨rest, false⟩)

/-- A library codec round-trips: its `DecodeFrom`, into any receiver, decodes what its
`EncodeTo` wrote. -/
def Codec.RoundTrip (c : Codec α) : Prop := ∀ a old, Decodes (c.decodeFrom old) (c.encodeTo a) a

theorem Decodes.run_bind {m : StateM Decoder α} {b : List UInt8} {a : α} (h : Decodes m b a)
    (f : α → StateM Decoder β) (rest : List UInt8) :
    (m >>= f) ⟨b ++ rest, false⟩ = f a ⟨rest, false⟩ := by
  show (match m ⟨b ++ rest, false⟩ with | (x, s) => f x s) = _
  rw [h rest]

theorem Decodes.bind {m : StateM Decoder α} {f : α → StateM Decoder β} {b b' : List UInt8}
    {a : α} {c : β} (h : Decodes m b a) (hf : Decodes (f a) b' c) :
    Decodes (m >>= f) (b ++ b') c := fun rest => by
  rw [List.append_assoc, h.run_bind]; exact hf rest

theorem Decodes.pure (a : α) : Decodes (pure a : StateM Decoder α) [] a := fun _ => rfl

/-- What a decoding decodes is determined by the bytes. -/
theorem Decodes.unique {m : StateM Decoder α} {b : List UInt8} {a a' : α} (h : Decodes m b a)
    (h' : Decodes m b a') : a = a' :=
  congrArg Prod.fst ((h []).symm.trans (h' []))

theorem read_decodes (p b : List UInt8) (h : b.length = p.length) :
    Decodes (Decoder.read p) b b :=
  fun rest => by simp [Decoder.read, ← h, List.take_left', List.drop_left']

theorem readUint64_decodes (u : UInt64) : Decodes readUint64 (writeUint64 u) u := fun rest => by
  unfold readUint64
  rw [read_decodes _ _ (by simp [writeUint64, length_leBytes]) rest]
  simp only [writeUint64, leValue_leBytes,
    show u.toNat % 256 ^ 8 = u.toNat from Nat.mod_eq_of_lt u.val.isLt, UInt64.ofNat_toNat]

/-- A length prefix reads back as the length, when that many bytes follow. -/
theorem readPrefix_writePrefix {n : ℕ} (h : n < 2 ^ 64) (rest : List UInt8)
    (hn : n ≤ rest.length) : readPrefix ⟨writePrefix n ++ rest, false⟩ = (n, ⟨rest, false⟩) := by
  simp only [readPrefix, writePrefix, readUint64_decodes _ rest, UInt64.toNat_ofNat_lt h,
    if_neg (Nat.not_lt.2 hn)]

theorem readBytes_decodes (b : List UInt8) (h : b.length < 2 ^ 64) :
    Decodes readBytes (writeBytes b) b := fun rest => by
  unfold readBytes
  rw [writeBytes, List.append_assoc, readPrefix_writePrefix h (b ++ rest) (by simp)]
  exact read_decodes _ b (by simp) rest

theorem Currency.decodeFrom_decodes (c : Currency) : Decodes Currency.decodeFrom c.encodeTo c :=
  (readUint64_decodes c.lo).bind ((readUint64_decodes c.hi).bind (Decodes.pure _))

theorem Bytes.copyInto_self {n : ℕ} (dst s : Bytes n) : dst.copyInto s.1 = s := by
  obtain ⟨s, hs⟩ := s
  apply Subtype.ext
  simp [Bytes.copyInto, hs, dst.2, List.take_of_length_le]

theorem Bytes.decodeFrom_decodes {n : ℕ} (old s : Bytes n) :
    Decodes old.decodeFrom s.encodeTo s := fun rest => by
  simp only [Bytes.decodeFrom, Bytes.encodeTo,
    (read_decodes old.1 s.1 (s.2.trans old.2.symm)).run_bind, Bytes.copyInto_self]
  rfl

theorem readContracts_decodes (cs : List (Bytes 32)) :
    Decodes (readContracts cs.length) (cs.flatMap fun id => writeBytes id.1) cs := by
  induction cs with
  | nil => exact Decodes.pure []
  | cons id cs ih =>
    rw [List.flatMap_cons, ← List.append_nil (cs.flatMap _)]
    refine (readBytes_decodes id.1 (by rw [id.2]; decide)).bind (ih.bind ?_)
    rw [Bytes.copyInto_self]; exact Decodes.pure _

/-! ## Running a `DecodeFrom` over an `EncodeTo` -/

theorem readUint64_bind (u : UInt64) (f : UInt64 → StateM Decoder β) (rest : List UInt8) :
    (readUint64 >>= f) ⟨writeUint64 u ++ rest, false⟩ = f u ⟨rest, false⟩ :=
  (readUint64_decodes u).run_bind f rest

theorem readBytes_bind {n : ℕ} (b : Bytes n) (hn : n < 2 ^ 64) (f : List UInt8 → StateM Decoder β)
    (rest : List UInt8) : (readBytes >>= f) ⟨writeBytes b.1 ++ rest, false⟩ = f b.1 ⟨rest, false⟩ :=
  (readBytes_decodes b.1 (by rw [b.2]; exact hn)).run_bind f rest

theorem Currency.decodeFrom_bind (c : Currency) (f : Currency → StateM Decoder β)
    (rest : List UInt8) :
    (Currency.decodeFrom >>= f) ⟨c.encodeTo ++ rest, false⟩ = f c ⟨rest, false⟩ :=
  (Currency.decodeFrom_decodes c).run_bind f rest

theorem Bytes.decodeFrom_bind {n : ℕ} (old s : Bytes n) (f : Bytes n → StateM Decoder β)
    (rest : List UInt8) : (old.decodeFrom >>= f) ⟨s.encodeTo ++ rest, false⟩ = f s ⟨rest, false⟩ :=
  (Bytes.decodeFrom_decodes old s).run_bind f rest

theorem Codec.decodeFrom_bind {c : Codec α} (hc : c.RoundTrip) (a old : α)
    (f : α → StateM Decoder β) (rest : List UInt8) :
    (c.decodeFrom old >>= f) ⟨c.encodeTo a ++ rest, false⟩ = f a ⟨rest, false⟩ :=
  (hc a old).run_bind f rest

/-! ## The three requests -/

theorem FormRequest.decodeFrom_decodes (fr old : FormRequest) :
    Decodes old.decodeFrom (fr.encodeTo ++ fr.signature.encodeTo) fr := fun rest => by
  simp only [FormRequest.decodeFrom, FormRequest.encodeTo, List.append_assoc,
    readBytes_bind fr.pubKey (by decide), readUint64_bind, Currency.decodeFrom_bind,
    Bytes.decodeFrom_bind, Bytes.copyInto_self]
  rfl

theorem RenewRequest.decodeFrom_decodes (rr old : RenewRequest) (h : rr.contracts.length < 2 ^ 63) :
    Decodes old.decodeFrom (rr.encodeTo ++ rr.signature.encodeTo) rr := fun rest => by
  simp only [RenewRequest.decodeFrom, RenewRequest.encodeTo, List.append_assoc,
    readBytes_bind rr.pubKey (by decide), readUint64_bind,
    UInt64.toNat_ofNat_lt (show rr.contracts.length < 2 ^ 64 by omega),
    (readContracts_decodes rr.contracts).run_bind, Currency.decodeFrom_bind,
    Bytes.decodeFrom_bind, Bytes.copyInto_self]
  rfl

theorem UpdateRequest.decodeFrom_decodes {R S : Type} {rev : Codec R} {sig : Codec S}
    (hrev : rev.RoundTrip) (hsig : sig.RoundTrip) (ur old : UpdateRequest R S) :
    Decodes (UpdateRequest.decodeFrom rev sig old)
      (UpdateRequest.encodeTo rev sig ur ++ ur.signature.encodeTo) ur := fun rest => by
  simp only [UpdateRequest.decodeFrom, UpdateRequest.encodeTo, List.append_assoc,
    readBytes_bind ur.pubKey (by decide), Codec.decodeFrom_bind hrev,
    Codec.decodeFrom_bind hsig, Currency.decodeFrom_bind, Bytes.decodeFrom_bind,
    Bytes.copyInto_self]
  rfl

/-! ## What a decoder allocates

A slice is allocated with `make` before its elements are read, so its length is the count
the message states. `ReadPrefix` refuses a count above the bytes left; `ReadUint64` does
not. -/

theorem readContracts_length (k : ℕ) (d : Decoder) : (readContracts k d).1.length = k := by
  induction k generalizing d with
  | zero => rfl
  | succ k ih => exact congrArg (· + 1) (ih _)

theorem goInt_neg_iff (u : UInt64) : goInt u < 0 ↔ 2 ^ 63 ≤ u.toNat := by
  have := u.val.isLt
  unfold goInt
  split_ifs with h <;> simp only [UInt64.toNat] at * <;> omega

theorem RenewRequest.numContracts_run (pk : Bytes 32) (n : UInt64) (rest : List UInt8) :
    RenewRequest.numContracts ⟨writeBytes pk.1 ++ writeUint64 n ++ rest, false⟩ =
      (goInt n, ⟨rest, false⟩) := by
  simp only [RenewRequest.numContracts, List.append_assoc, readBytes_bind pk (by decide),
    readUint64_bind]
  rfl

theorem RenewRequest.decodeFrom_contracts (rr : RenewRequest) (pk : Bytes 32) (n : UInt64)
    (rest : List UInt8) :
    (rr.decodeFrom ⟨writeBytes pk.1 ++ writeUint64 n ++ rest, false⟩).1.contracts =
      (readContracts n.toNat ⟨rest, false⟩).1 := by
  simp only [RenewRequest.decodeFrom, List.append_assoc, readBytes_bind pk (by decide),
    readUint64_bind]
  rfl

/-- **The renew decoder allocates the count the message states.** For every receiver,
public key, 64-bit count `n` and tail, the message made of the key's 40 bytes and the 8
bytes of `n` makes `renewRequest.DecodeFrom` pass `int(n)` to `make`, which is
negative, and panics, exactly when `n ≥ 2^63`; otherwise it decodes `n` contract ids,
whatever the tail holds. The count is never compared with the bytes left. -/
theorem renewRequest_decode_allocates (rr : RenewRequest) (pk : Bytes 32) (n : UInt64)
    (rest : List UInt8) :
    (RenewRequest.numContracts ⟨writeBytes pk.1 ++ writeUint64 n ++ rest, false⟩).1 = goInt n ∧
      (goInt n < 0 ↔ 2 ^ 63 ≤ n.toNat) ∧
      (rr.decodeFrom ⟨writeBytes pk.1 ++ writeUint64 n ++ rest, false⟩).1.contracts.length =
        n.toNat := by
  rw [RenewRequest.numContracts_run, RenewRequest.decodeFrom_contracts, readContracts_length]
  exact ⟨rfl, goInt_neg_iff n, rfl⟩

/-- A 48-byte renew message asks for `2^32` contract ids, and one with the count `2^63`
makes `make` panic. -/
theorem renewRequest_decode_allocates_48_bytes :
    (writeBytes (Bytes.zero 32).1 ++ writeUint64 4294967296 ++ []).length = 48 ∧
      (RenewRequest.zero.decodeFrom
        ⟨writeBytes (Bytes.zero 32).1 ++ writeUint64 4294967296 ++ [], false⟩).1.contracts.length =
        4294967296 ∧
      (RenewRequest.numContracts
        ⟨writeBytes (Bytes.zero 32).1 ++ writeUint64 9223372036854775808 ++ [], false⟩).1 < 0 :=
  have h1 := renewRequest_decode_allocates RenewRequest.zero (Bytes.zero 32) 4294967296 []
  have h2 := renewRequest_decode_allocates RenewRequest.zero (Bytes.zero 32) 9223372036854775808 []
  ⟨rfl, h1.2.2, h2.1 ▸ h2.2.1.2 (by decide)⟩

end SiaSatellite
