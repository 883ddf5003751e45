import SiaSatellite.Spec.Encoding

/-!
# Relaying a transaction set

The pool broadcasts an accepted set as a `transactionSet`, whose `EncodeTo` writes the
number of transactions and then each transaction. A peer's `relayTransactionSet` reads one
through a reader limited to `BlockSizeLimit + 8` bytes: it skips a first 64-bit word, reads
the count with `ReadPrefix`, decodes that many transactions into zero values, checking the
decoder's error after each, and hands the set to `AcceptTransactionSet`.

The transaction type and its codec are parameters, as is `modules.BlockSizeLimit`. The
deadline, the thread group and the closing of the connection are left out.
-/

namespace SiaSatellite

open Encoder Decoder

variable {T : Type}

end SiaSatellite
