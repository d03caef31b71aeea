import Foreman.Command.Invocation
import Foreman.Text.Search

/-! What a halt reaches, and the helper that is launched to do it. -/

namespace Foreman

inductive Halting where
  | named (name : String)
  | command
  deriving DecidableEq, Repr

namespace Halting

/-- The helper and its arguments; nothing is launched for a group whose leader is not running. -/
def helper (h : Halting) (leader : Option Nat) : List String :=
  match h, leader with
  | .named name, _ => ["pkill", "-x", name]
  | .command, some pid => ["kill", "-KILL", "--", "-" ++ toString pid]
  | .command, none => []

/-- An argument this long, or longer, is taken by no program. -/
def argumentLimit : Nat := 131072

def launchable (words : List String) : Bool :=
  words ≠ [] && words.all fun word =>
    !word.toList.contains '\x00' && word.utf8ByteSize < argumentLimit

end Halting
end Foreman
