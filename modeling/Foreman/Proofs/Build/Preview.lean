import Foreman.Build.Rehearsal
import Foreman.Program
import Foreman.Proofs.Build.Journal
import Mathlib.Data.List.Forall2

/-! A step that is told beforehand. What is printed names the commands of a run in which all goes well, in their
order, and nothing is done but to print it. -/

namespace Foreman

namespace Build
variable {σ : Type} {b : Build}

def opening (b : Build) (processName : String) (step : Step) (retry : Nat) : List String :=
  ["buildwarden dry-run",
    "  step = " ++ step.name,
    "  retry = " ++ toString retry,
    "  log_file = " ++ b.engine.logFile.text,
    "  process_name = " ++ processName,
    "  hang_timeout = " ++ b.watch.hangTimeout.shown ++ " (initial " ++
      b.watch.startingWindow.shown ++ ")"] ++ b.clearedLine ++ [""]

variable {processName : String} {step : Step} {retry : Nat}

end Build

namespace Program
variable {config : Path} {step : Step} {retry : Option Nat} {w : Workshop} {s : Config.Settings} {b : Build}

end Program
end Foreman
