import Foreman.Command.Line

/-! External commands, fully described and ready to be run. -/

namespace Foreman

/-- Variables by name, in the order of the UTF-8 bytes of the names. -/
abbrev Variables := List (String × String)

inductive EnvPolicy where
  | inherit
  | extend (vars : Variables)
  | replace (vars : Variables)
  deriving DecidableEq, Repr

structure SlotId where
  number : Nat
  deriving DecidableEq, Repr

structure Invocation where
  program : String
  args : List String := []
  ignoreError : Bool := false
  workingDir : Option Path := none
  env : EnvPolicy := .inherit
  verbose : Bool := true
  slot : Option SlotId := none
  deriving DecidableEq, Repr

namespace Invocation

def commandLine (i : Invocation) : String := Command.line i.program i.args

def sameDir : Option Path → Option Path → Bool
  | none, none => true
  | some p, some q => p.same q
  | _, _ => false

/-- Invocations that do the same: directories are compared by their components. -/
def same (i j : Invocation) : Bool :=
  i.program == j.program && i.args == j.args && i.ignoreError == j.ignoreError &&
    sameDir i.workingDir j.workingDir && decide (i.env = j.env) && i.verbose == j.verbose &&
    i.slot == j.slot

end Invocation
end Foreman
