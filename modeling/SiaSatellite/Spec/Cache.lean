import SiaSatellite.Spec.Types

/-!
# The consensus set's ring caches

`siacoinOutputCache`, `fileContractCache` and `blockCache` (`modules/consensus/cache.go`)
are one data structure at three sizes: a slice of `size` slots used as a ring, a `tip`
that `Push` advances before it writes, and an index from id to slot. `Push` of an id the
index already holds does nothing; otherwise it moves `tip` on, drops from the index the
id the slot at `tip` holds, and writes the new entry there. A fresh slot holds the
all-zero id.

The cached values (`types.SiacoinOutput`, `types.FileContract`, `processedBlock`) are
never read by the caches; they are the type parameter `V`, and `default` is Go's zero
value of it.
-/

namespace SiaSatellite

/-- One slot of a ring cache (`siacoinOutputInfo`, `fileContractInfo`, `blockInfo`). -/
structure CacheInfo (V : Type) where
  id : Hash256
  val : V

/-- A ring cache: `index`, the slice of slots (`outputs`, `contracts`, `blocks`), `tip`. -/
structure RingCache (V : Type) where
  index : AList (fun _ : Hash256 => ℕ)
  slots : List (CacheInfo V)
  tip : ℕ

/-- A call on a cache. -/
inductive CacheOp (V : Type)
  | push (id : Hash256) (v : V)
  | lookup (id : Hash256)

namespace RingCache

variable {V : Type} [Inhabited V]

/-- Go's zero value of a slot. -/
def zeroInfo : CacheInfo V := ⟨0, default⟩

/-- The slice entry `i` (`cache.outputs[i]`). -/
def slot (c : RingCache V) (i : ℕ) : CacheInfo V := c.slots.getD i zeroInfo

/-- `newSiacoinOutputCache` and its siblings: an empty index and `size` zero slots. -/
def new (size : ℕ) : RingCache V := ⟨∅, List.replicate size zeroInfo, 0⟩

/-- `Lookup`. -/
def lookup (c : RingCache V) (id : Hash256) : V × Bool :=
  match c.index.lookup id with
  | none => (default, false)
  | some i => ((c.slot i).val, true)

/-- Where `Push` moves `tip`: one on, or back to `0` once that reaches the size. -/
def nextTip (size tip : ℕ) : ℕ := if tip + 1 ≥ size then 0 else tip + 1

/-- `Push`. -/
def push (size : ℕ) (c : RingCache V) (id : Hash256) (v : V) : RingCache V :=
  if id ∈ c.index then c
  else
    let tip := nextTip size c.tip
    { index := (c.index.erase (c.slot tip).id).insert id tip
      slots := c.slots.set tip ⟨id, v⟩
      tip := tip }

/-- One call: a `Lookup` leaves the cache as it is. -/
def step (size : ℕ) (c : RingCache V) : CacheOp V → RingCache V
  | .push id v => c.push size id v
  | .lookup _ => c

/-- The cache after a sequence of calls. -/
def run (size : ℕ) (c : RingCache V) (ops : List (CacheOp V)) : RingCache V :=
  ops.foldl (step size) c

/-- The pushes along `ops` that inserted their id, that is found it absent, oldest first. -/
def inserts (size : ℕ) : RingCache V → List (CacheOp V) → List (Hash256 × V)
  | _, [] => []
  | c, .lookup _ :: ops => inserts size c ops
  | c, .push id v :: ops =>
    (if id ∈ c.index then [] else [(id, v)]) ++ inserts size (c.push size id v) ops

/-- The number of pushes along `ops` that inserted their id. -/
def insertCount (size : ℕ) (c : RingCache V) (ops : List (CacheOp V)) : ℕ :=
  (inserts size c ops).length

end RingCache

/-- The value of the most recent insertion of `id` in a log, oldest entry first. -/
def lastInsert {V : Type} (log : List (Hash256 × V)) (id : Hash256) : Option V :=
  (log.reverse.find? fun p => decide (p.1 = id)).map Prod.snd

/-! ## The three caches -/

def scoCacheSize : ℕ := 200000
def fcCacheSize : ℕ := 100000
def blockCacheSize : ℕ := 32

section
variable {V : Type} [Inhabited V]

def newSiacoinOutputCache : RingCache V := RingCache.new scoCacheSize
def newFileContractCache : RingCache V := RingCache.new fcCacheSize
def newBlockCache : RingCache V := RingCache.new blockCacheSize

/-- `siacoinOutputCache.Push`. -/
def siacoinOutputCachePush : RingCache V → Hash256 → V → RingCache V :=
  RingCache.push scoCacheSize
/-- `fileContractCache.Push`. -/
def fileContractCachePush : RingCache V → Hash256 → V → RingCache V :=
  RingCache.push fcCacheSize
/-- `blockCache.Push`. -/
def blockCachePush : RingCache V → Hash256 → V → RingCache V :=
  RingCache.push blockCacheSize

end

end SiaSatellite
