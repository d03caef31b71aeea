import Foreman.Command.Invocation
import Foreman.Config.Settings

/-! The build engine and how its methods are called in batch mode. -/

namespace Foreman

structure Engine where
  binary : String
  projectPath : Path
  methodPrefix : String
  platform : Platform
  logFile : Path
  extraArgs : List (String × String)
  deriving DecidableEq, Repr

namespace Engine

/-- An engine can be called only if its binary and the platform are known; the binary is asked for first. -/
def ofSettings (s : Config.EngineSettings) : Except Config.Problem Engine :=
  match s.binary, s.platform with
  | none, _ => .error (.rejected .missingBinary)
  | some _, none => .error (.rejected .missingPlatform)
  | some binary, some platform =>
    .ok { binary, projectPath := s.projectPath, methodPrefix := s.methodPrefix, platform,
          logFile := s.logFile, extraArgs := s.extraArgs }

def arguments (e : Engine) (method : String) : List String :=
  ["-batchmode", "-quit", "-projectPath", e.projectPath.text,
    "-executeMethod", e.methodPrefix ++ method, "-buildTarget", e.platform.buildTarget,
    "-nographics", "-logFile", e.logFile.text] ++
    e.extraArgs.flatMap fun x => [x.1, x.2]

/-- A call of one method. Its exit code goes back to the caller, who decides about another attempt. -/
def invocation (e : Engine) (method : String) : Invocation :=
  { program := e.binary, args := e.arguments method, ignoreError := true }

/-- A hook is handed over as a program without arguments, and runs in the project's directory. -/
def hookInvocation (e : Engine) (hook : String) : Invocation :=
  { program := hook, workingDir := some e.projectPath }

end Engine
end Foreman
