import Foreman.Command.Invocation
import Foreman.Disk
import Foreman.Text.Blank

/-! What comes out of a finished command, and when it counts as an error. -/

namespace Foreman

inductive Ending where
  | exited (code : Nat)
  | killed (signal : Nat)
  deriving DecidableEq, Repr

namespace Ending

def code : Ending → Int
  | .exited code => code
  | .killed _ => -1

def signalNames : List String :=
  ["HUP", "INT", "QUIT", "ILL", "TRAP", "ABRT", "BUS", "FPE", "KILL", "USR1", "SEGV", "USR2", "PIPE",
    "ALRM", "TERM", "STKFLT", "CHLD", "CONT", "STOP", "TSTP", "TTIN", "TTOU", "URG", "XCPU", "XFSZ",
    "VTALRM", "PROF", "WINCH", "IO", "PWR", "SYS"]

/-- The name of a signal, without the letters before it that all names share. -/
def signalName? (signal : Nat) : Option String :=
  if signal = 0 then none else signalNames[signal - 1]?

def note : Ending → Option String
  | .exited _ => none
  | .killed signal =>
    let name := match signalName? signal with
      | some name => " (SIG" ++ name ++ ")"
      | none => ""
    some ("process terminated without an exit code (signal: " ++ toString signal ++ name ++ ")")

end Ending

structure Remains where
  ending : Ending
  stdout : Bytes := []
  stderr : Bytes := []
  deriving DecidableEq, Repr

structure Execution where
  code : Int
  stdout : String := ""
  stderr : String := ""
  note : Option String := none
  deriving DecidableEq, Repr

namespace Execution

def success (e : Execution) : Bool := e.code = 0

def ofRemains (r : Remains) : Execution :=
  { code := r.ending.code
    stdout := Text.trim (Utf8.decode r.stdout)
    stderr := Text.trim (Utf8.decode r.stderr)
    note := r.ending.note }

end Execution

inductive RunError where
  | spawn (line : String) (cause : DiskError)
  | failed (line : String) (code : Int) (stdout stderr : String)
  deriving DecidableEq, Repr

namespace RunError

def message : RunError → String
  | .spawn line cause => "failed to run '" ++ line ++ "': " ++ cause.message
  | .failed line code _ stderr =>
    "command failed: " ++ line ++ " code: " ++ toString code ++ " message: " ++ stderr

def code : RunError → Int
  | .spawn .. => -1
  | .failed _ code .. => code

end RunError

/-- An exit code other than zero is an error, unless the caller wants it as a result. -/
def Invocation.accept (i : Invocation) (e : Execution) : Except RunError Execution :=
  if e.code ≠ 0 && !i.ignoreError then .error (.failed i.commandLine e.code e.stdout e.stderr)
  else .ok e

structure Executor where
  lastError : Option String := none
  deriving DecidableEq, Repr

namespace Executor

def failure? (i : Invocation) (e : Execution) : Option String :=
  if e.code = 0 then none
  else some (i.commandLine ++ " exited with code " ++ toString e.code)

/-- Takes in how a call went. The mark of the last error follows this call alone. -/
def conclude (i : Invocation) (outcome : Except DiskError Remains) :
    Except RunError Execution × Executor :=
  match outcome with
  | .error cause =>
    (.error (.spawn i.commandLine cause), ⟨some (i.commandLine ++ ": " ++ cause.message)⟩)
  | .ok remains =>
    let e := Execution.ofRemains remains
    (i.accept e, ⟨failure? i e⟩)

end Executor
end Foreman
