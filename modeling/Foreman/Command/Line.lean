import Foreman.Path

/-! The one line a program and its arguments are handed to the shell as. -/

namespace Foreman.Command

/-- What runs a script file that cannot be executed by itself. -/
def interpreter (program : String) : Option String :=
  if ['.', 's', 'h'].isSuffixOf program.toList then some "bash"
  else if ['.', 'p', 'y'].isSuffixOf program.toList then some "python"
  else none

def escapeChar (c : Char) : List Char := if c = '(' || c = ')' then ['\\', c] else [c]

def escapeChars (s : List Char) : List Char := s.flatMap escapeChar

def escape (arg : String) : String := String.ofList (escapeChars arg.toList)

/-- The words of the line. Empty arguments are dropped. -/
def words (program : String) (args : List String) : List String :=
  (interpreter program).toList ++ program :: (args.filter (· ≠ "")).map escape

def line (program : String) (args : List String) : String := " ".intercalate (words program args)

def displayName (program : String) : String := (Path.mk program).fileName.getD program

end Foreman.Command
