import Foreman.Shell.Arithmetic
import Foreman.Shell.Course
import Foreman.Shell.Reading

/-! The state of a shell, and how commands in it end early. -/

namespace Foreman.Shell

structure Variable where
  value : Option Octets
  exported : Bool := false
  readonly : Bool := false

structure Options where
  errexit : Bool := false
  nounset : Bool := false
  noglob : Bool := false
  noexec : Bool := false
  pipefail : Bool := false
  xtrace : Bool := false
  allexport : Bool := false

structure State where
  bash : Bool
  name : Octets
  pid : Pid
  /-- The process that `$$` names, also in parts of the script that run beside it. -/
  main : Pid
  parent : Pid
  dir : Location
  vars : List (Octets × Variable) := []
  functions : List (Octets × Tree) := []
  positional : List Octets := []
  options : Options := {}
  status : Nat := 0
  lastBackground : Option Pid := none
  children : List Pid := []
  traps : List (Signal × Octets) := []
  conditions : Nat := 0
  loops : Nat := 0
  functionDepth : Nat := 0
  line : Nat := 1
  lastOutput : Option Nat := none
  source : Option Octets := none
  sourcing : Bool := false
  /-- Old values of variables of the functions that are running, the innermost first. -/
  shadows : List (List (Octets × Option Variable)) := []

inductive Flow where
  | exit (status : Nat)
  | leaveLoop (levels : Nat)
  | nextTurn (levels : Nat)
  | leaveFunction (status : Nat)

abbrev ShellM := ExceptT Flow (StateT State Job)

namespace ShellM

variable {α : Type}

def ofJob (j : Job α) : ShellM α := fun s => do return (.ok (← j), s)

def look (f : World → α) : ShellM α := ofJob (Job.look f)

def change (f : World → World) : ShellM Unit := ofJob (Job.change f)

def exchange (f : World → α × World) : ShellM α := ofJob (Job.exchange f)

def exit (status : Nat) : ShellM α := throw (.exit status)

end ShellM

def emit (fd : Nat) (o : Octets) : ShellM (Option String) := do
  ShellM.ofJob (Job.write (← get).pid fd o)

def complain (message : Octets) : ShellM Unit := do
  let s ← get
  let place := if s.bash then ": line ".toList else ": ".toList
  let source := match s.source with
    | some o => o ++ ": ".toList
    | none => []
  discard (emit 2 (s.name ++ place ++ Octets.ofNat s.line ++ ": ".toList ++ source ++ message ++ ['\n']))

/-- The end of a shell that cannot go on: one shell ends with two, the other with one. -/
def abort {α : Type} (message : Octets) : ShellM α := do
  complain message
  ShellM.exit (if (← get).bash then 1 else 2)

namespace State

def entryOf (s : State) (name : Octets) : Option Variable := s.vars.lookup name

def value? (s : State) (name : Octets) : Option Octets := (s.entryOf name).bind (·.value)

def putVariable (s : State) (name : Octets) (v : Variable) : State :=
  { s with vars := (name, v) :: s.vars.filter (·.1 ≠ name) }

def dropVariable (s : State) (name : Octets) : State :=
  { s with vars := s.vars.filter (·.1 ≠ name) }

def environment (s : State) : List (Octets × Octets) :=
  s.vars.filterMap fun x => if x.2.exported then x.2.value.map (x.1, ·) else none

def separators (s : State) : Octets :=
  (s.value? "IFS".toList).getD [' ', '\t', '\n']

def optionLetters (s : State) : Octets :=
  (if s.options.errexit then ['e'] else []) ++ (if s.options.noglob then ['f'] else []) ++
    (if s.bash then ['h'] else []) ++ (if s.options.nounset then ['u'] else []) ++
    (if s.options.xtrace then ['x'] else []) ++ (if s.bash then ['B'] else [])

end State

def setVariable (name value : Octets) : ShellM Unit := do
  let s ← get
  let old := s.entryOf name
  if old.any (·.readonly) then
    if s.bash then abort (name ++ ": readonly variable".toList)
    else abort (name ++ ": is read only".toList)
  else
    set (s.putVariable name
      { value := some value, exported := old.any (·.exported) || s.options.allexport })

def parameter? (s : State) (name : Octets) : Option Octets :=
  match name with
  | ['?'] => some (Octets.ofNat s.status)
  | ['$'] => some (Octets.ofNat s.main)
  | ['#'] => some (Octets.ofNat s.positional.length)
  | ['!'] => s.lastBackground.map Octets.ofNat
  | ['-'] => some s.optionLetters
  | ['@'] | ['*'] => if s.positional.isEmpty then none else some (Octets.join [' '] s.positional)
  | name =>
    if name.all Octets.isDigit then
      match Octets.nat? name with
      | some 0 => some s.name
      | some n => s.positional[n - 1]?
      | none => none
    else if name = "PPID".toList then some (Octets.ofNat s.parent)
    else if s.bash && name = "BASHPID".toList then some (Octets.ofNat s.pid)
    else if name = "LINENO".toList then some (Octets.ofNat s.line)
    else s.value? name

def arithmeticValue (s : State) : Nat → Octets → Option Int
  | 0, _ => none
  | n + 1, name => match parameter? s name with
    | none => some 0
    | some o => match Arithmetic.evaluate s.bash (arithmeticValue s n) o with
      | .ok (v, _) => some v
      | .error _ => none

def reckon (expression : Octets) : ShellM Int := do
  let s ← get
  match Arithmetic.evaluate s.bash (arithmeticValue s 16) expression with
  | .ok (v, assigned) =>
    for (name, value) in assigned.reverse do
      setVariable name (Octets.ofInt value)
    return v
  | .error fault =>
    let shown := expression.dropWhile fun c => c = ' '
    if s.bash then
      let what := match fault with
        | .divisionByZero => ": division by 0 (error token is \"0\")"
        | .negativeExponent => ": exponent less than 0"
        | .malformed | .leftOver => ": syntax error in expression"
      abort (shown ++ what.toList)
    else
      let what := match fault with
        | .divisionByZero => "division by zero"
        | .leftOver => "expecting EOF"
        | _ => "expecting primary"
      abort ("arithmetic expression: ".toList ++ what.toList ++ ": \"".toList ++ expression ++ ['"'])

end Foreman.Shell
