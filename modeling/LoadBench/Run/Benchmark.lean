import LoadBench.Run.Summary
import LoadBench.Run.Window

namespace LoadBench

def setUp (c : RunConfig) (ch : Channel) : Except RunFault Unit × Channel :=
  match c.fault? with
  | some fault => (.error (.invalid fault), ch)
  | none =>
    match recreate c ch with
    | (.error fault, ch) => (.error fault, ch)
    | (.ok (), ch) =>
      match prefill c ch with
      | (.error fault, _, ch) => (.error fault, ch)
      | (.ok _, _, ch) => (.ok (), ch)

/-- A run over a channel, if it ends. Faults before the window end it; what happens within is only
counted. -/
def benchmark (c : RunConfig) (ch : Channel) : Option (Except RunFault RunSummary × Channel) :=
  match setUp c ch with
  | (.error fault, ch) => some (.error fault, ch)
  | (.ok (), ch) =>
    (Window.run c ch).map fun w =>
      (.ok (RunSummary.ofRun c w.collector (w.lasted ch.now)), w.channel)

end LoadBench
