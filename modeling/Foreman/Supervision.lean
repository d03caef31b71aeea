import Foreman.Build.Run

/-! Any command, run under watch. -/

namespace Foreman

open Watch

/-- A budget that is given along with the command stands for both budgets of the rules, and no poll takes
longer than it. -/
def Watch.Rules.within (r : Rules) : Option Duration → Rules
  | none => r
  | some budget =>
    { r with hangTimeout := budget, initialTimeout := none, pollInterval := min r.pollInterval budget }

structure Supervision where
  program : String
  args : List String
  log : Path
  /-- The processes to halt; where none are named, the command and all that it has started. -/
  processName : Option String
  watch : Rules
  deriving DecidableEq, Repr

namespace Supervision

def ofSettings (s : Config.Settings) (program : String) (args : List String) (log : Option Path)
    (processName : Option String) (budget : Option Duration) : Supervision :=
  { program, args, log := log.getD s.engine.logFile, processName, watch := s.watch.within budget }

def invocation (s : Supervision) : Invocation :=
  { program := s.program, args := s.args, ignoreError := true, slot := some ⟨0⟩ }

def haltLine (s : Supervision) : String :=
  match s.processName with
  | some name => "kill processes named " ++ name
  | none => "kill the process tree of " ++ Command.displayName s.program

def preview (s : Supervision) : List String :=
  ["buildwarden dry-run",
    "  command: " ++ s.invocation.commandLine,
    "  log_file: " ++ s.log.text,
    "  halt: " ++ s.haltLine,
    "  hang_timeout: " ++ s.watch.startingWindow.shown,
    "  poll_interval: " ++ s.watch.pollInterval.shown]

def run {σ : Type} (s : Supervision) (c : Crew σ) : σ → Except BuildError Execution × σ :=
  Build.watched c s.watch s.log s.invocation

end Supervision
end Foreman
