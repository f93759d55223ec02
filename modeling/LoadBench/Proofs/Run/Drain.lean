import LoadBench.Proofs.Binary64.Sign
import LoadBench.Proofs.Run.Steady

namespace LoadBench

namespace Window

variable {c : RunConfig} {opened : Channel} {calls : List Landed} {w : Window}

end Window

end LoadBench
