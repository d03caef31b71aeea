import Foreman.Build.Run

/-! What a run of a step would give out, told without doing it. -/

namespace Foreman

inductive Planned where
  | call (method line : String)
  | hook (text : String)
  deriving DecidableEq, Repr

def Planned.lines : Planned → List String
  | .call method line => ["  - " ++ method, "      cmd: " ++ line]
  | .hook text => ["  - hook: " ++ text]

namespace Build

def planAction (b : Build) : Action → List Planned
  | .engine method => [.call method (b.engine.invocation method).commandLine]
  | .hooks => b.rules.resourceHooks.map .hook

/-- The commands of one attempt in which all goes well. -/
def plan (b : Build) (step : Step) : List Planned := step.actions.flatMap b.planAction

def clearedLine (b : Build) : List String :=
  (b.rules.cleanOutput.map fun dir => "  clean_output = " ++ dir.text).toList

def preview (b : Build) (processName : String) (step : Step) (retry : Nat) : List String :=
  ["buildwarden dry-run",
    "  step = " ++ step.name,
    "  retry = " ++ toString retry,
    "  log_file = " ++ b.engine.logFile.text,
    "  process_name = " ++ processName,
    "  hang_timeout = " ++ b.watch.hangTimeout.shown ++ " (initial " ++
      b.watch.startingWindow.shown ++ ")"] ++
    b.clearedLine ++ [""] ++ (b.plan step).flatMap Planned.lines

end Build
end Foreman
