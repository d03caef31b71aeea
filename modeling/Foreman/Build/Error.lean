import Foreman.Command.Execution
import Foreman.Step
import Foreman.Watch.Watchdog

/-! Why a build step ends for good. -/

namespace Foreman

inductive BuildError where
  | stepFailed (step : Step) (code : Int) (attempts : Nat)
  | supervision (outcome : Watch.Outcome) (reason : String)
  | cleanOutput (dir : Path) (cause : DiskError)
  | execution (cause : RunError)
  | watchdog (cause : Watch.StartError)
  deriving DecidableEq, Repr

def BuildError.message : BuildError → String
  | .stepFailed step code attempts =>
    "step " ++ step.name ++ " failed with exit code " ++ toString code ++ " after " ++
      toString attempts ++ " attempt(s)"
  | .supervision outcome reason => "engine " ++ outcome.name ++ ": " ++ reason
  | .cleanOutput dir cause =>
    "failed to clean output directory " ++ Text.Quoted.encode dir.text ++ ": " ++ cause.message
  | .execution cause => cause.message
  | .watchdog cause => cause.message

end Foreman
