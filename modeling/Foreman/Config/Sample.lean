import Foreman.Config.Settings
import Foreman.Text.Quoted

/-! A configuration that can be run as it is, for trying things out. -/

namespace Foreman.Config

def Draft.sample (log : Path) : Draft where
  engine := {
    binary := some "/opt/engine/Engine"
    projectPath := ⟨"project"⟩
    methodPrefix := "CI.Build."
    platform := some .android
    logFile := some log }
  watchdog := { hangTimeout := "3s", pollInterval := "50ms" }

def Problem.sampleMessage (p : Problem) : String :=
  match p with
  | .rejected r =>
    "Failed to build valid config from builder: ConfigError(" ++ Text.Quoted.encode r.message ++ ")"
  | p => p.message

end Foreman.Config
