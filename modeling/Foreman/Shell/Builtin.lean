import Foreman.Shell.Expansion
import Foreman.Shell.Tool.Values

/-! Commands that a shell carries out itself. -/

namespace Foreman.Shell

abbrev Builtin := List Octets → ShellM Nat

namespace Builtin

def say (name : String) (o : Octets) : ShellM Nat := do
  match ← emit 1 o with
  | none => return 0
  | some cause =>
    let s ← get
    let message := if s.bash then "write error: " ++ cause else name ++ ": I/O error"
    complain ((name ++ ": " ++ message).toList)
    return 1

def complainAs (name : String) (message : Octets) : ShellM Unit := do
  let source := (← get).source
  modify fun s => { s with source := none }
  complain (name.toList ++ ": ".toList ++ message)
  modify fun s => { s with source }

def echo : Builtin := fun args => do
  say "echo" (Printing.echo (← get).bash args)

def printf : Builtin := fun args => do
  let s ← get
  let (target, args) : Option Octets × List Octets := match args with
    | flag :: name :: rest => if s.bash && flag = ['-', 'v'] then (some name, rest) else (none, args)
    | _ => (none, args)
  let args := if args.head? = some "--".toList then args.drop 1 else args
  match args with
  | [] =>
    if s.bash then
      discard (emit 2 "printf: usage: printf [-v var] format [arguments]\n".toList)
    else complainAs "printf" "usage: printf format [arg ...]".toList
    return 2
  | f :: args =>
    let out := Printing.format s.bash f args
    let written ← match target with
      | some name =>
        setVariable name out.text
        pure 0
      | none => say "printf" out.text
    for (o, inPart) in out.complaints do
      complainAs "printf" (o ++ (if s.bash then ": invalid number"
        else if inPart then ": not completely converted" else ": expected numeric value").toList)
    if let some c := out.unknown then
      complainAs "printf" (if s.bash then '\x60' :: c :: "': invalid format character".toList
        else '%' :: c :: ": invalid directive".toList)
      return if s.bash then 1 else 2
    return if out.complaints.isEmpty && out.unknown.isNone then written else 1

def test (name : String) : Builtin := fun args => do
  let s ← get
  let isOpen := name = "[" && args.getLast? ≠ some [']']
  if isOpen then
    complainAs name (if s.bash then "missing " ++ String.ofList ['\x60'] ++ "]'" else "missing ]").toList
    return 2
  let args := if name = "[" then args.dropLast else args
  match ← ShellM.look fun w => Condition.test (w.ask s.dir) s.bash args with
  | .ok v => return if v then 0 else 1
  | .error fault =>
    complainAs name (fault.message s.bash)
    return 2

def mark (name : Octets) (f : Variable → Variable) : ShellM Unit :=
  modify fun s => s.putVariable name (f ((s.entryOf name).getD { value := none }))

/-! ### Directories -/

def changeDirectory : Builtin := fun args => do
  let s ← get
  let args := args.filter fun a => a ≠ ['-', 'P'] && a ≠ ['-', 'L'] && a ≠ ['-', '-']
  let isBack := args.head? = some ['-']
  let target := match args with
    | [] => s.value? "HOME".toList
    | a :: _ =>
      if !isBack then some a
      else (s.value? "OLDPWD".toList).or (if s.bash then none else some (Tool.locationText s.dir))
  match target with
  | none =>
    complainAs "cd" (if isBack then "OLDPWD not set" else "HOME not set").toList
    return if s.bash then 1 else 2
  | some path =>
    let found : Except DiskError Location ← ShellM.look fun w =>
      let d := w.diskFrom s.dir
      match d.locate ⟨Octets.text path⟩ with
      | .error e => .error e
      | .ok l => match d.entry? l with
        | some .directory => .ok l
        | some (.file _) => .error .notDirectory
        | none => .error DiskError.notFound
    match found with
    | .ok l =>
      let old := Tool.locationText s.dir
      set { s with dir := l }
      setVariable "OLDPWD".toList old
      setVariable "PWD".toList (Tool.locationText l)
      for name in ["OLDPWD", "PWD"] do mark name.toList fun v => { v with exported := true }
      if isBack then say "cd" (Tool.locationText l ++ ['\n']) else return 0
    | .error e =>
      if path.isEmpty then return 0
      else if s.bash then
        complainAs "cd" (path ++ ": ".toList ++ e.cause.toList)
        return 1
      else
        complainAs "cd" ("can't cd to ".toList ++ path)
        return 2

def workingDirectory : Builtin := fun _ => do
  say "pwd" (Tool.locationText (← get).dir ++ ['\n'])

/-! ### Leaving -/

def givenStatus (name : String) (args : List Octets) : ShellM Nat := do
  let s ← get
  match args with
  | [] => return s.status
  | a :: _ =>
    let n := if s.bash then Octets.int? a else (Octets.nat? a).map Int.ofNat
    match n with
    | some n => return (n % 256).toNat
    | none =>
      if s.bash then
        complainAs name (a ++ ": numeric argument required".toList)
        ShellM.exit 2
      else
        complainAs name ("Illegal number: ".toList ++ a)
        ShellM.exit 2

def exit : Builtin := fun args => do
  ShellM.exit (← givenStatus "exit" args)

def leaveFunction : Builtin := fun args => do
  let s ← get
  if s.bash && s.functionDepth = 0 && !s.sourcing then
    complainAs "return" ("can only ".toList ++ '\x60' :: "return' from a function or sourced script".toList)
    return 2
  throw (.leaveFunction (← givenStatus "return" args))

def leave (name : String) (flow : Nat → Flow) : Builtin := fun args => do
  let s ← get
  if s.loops = 0 then
    if s.bash then
      let tick := String.ofList ['\x60']
      complainAs name ("only meaningful in a " ++ tick ++ "for', " ++ tick ++ "while', or " ++ tick ++
        "until' loop").toList
    return 0
  let n := match args with
    | a :: _ => (Octets.nat? a).getD 1
    | [] => 1
  throw (flow (min (max n 1) s.loops))

/-! ### Variables -/

def binding (o : Octets) : Octets × Option Octets :=
  let name := o.takeWhile (· ≠ '=')
  (name, if name.length < o.length then some (o.drop (name.length + 1)) else none)

def requoted (o : Octets) : Octets :=
  '\'' :: (o.flatMap fun c => if c = '\'' then "'\\''".toList else [c]) ++ ['\'']

def exporting (word : String) (f : Variable → Variable) (chosen : Variable → Bool) : Builtin := fun args => do
  let args := if args.head? = some ['-', '-'] then args.drop 1 else args
  match args with
  | [] | [['-', 'p']] =>
    let s ← get
    let vars := (s.vars.filter fun x => chosen x.2).mergeSort fun a b => Octets.upTo a.1 b.1
    let line (x : Octets × Variable) : Octets :=
      let quoted := match x.2.value with
        | some v => if s.bash then '=' :: '"' :: v ++ ['"'] else '=' :: requoted v
        | none => []
      (if s.bash then "declare -x " else word ++ " ").toList ++ x.1 ++ quoted ++ ['\n']
    say word (vars.flatMap line)
  | args =>
    let unsetting := args.head? = some ['-', 'n']
    for a in if unsetting then args.drop 1 else args do
      let (name, value) := binding a
      if !Octets.isName name then
        let s ← get
        if s.bash then
          complainAs word ('\x60' :: a ++ "': not a valid identifier".toList)
          return 1
        else
          complainAs word (a ++ ": bad variable name".toList)
          ShellM.exit 2
      if let some v := value then setVariable name v
      mark name (if unsetting then fun v => { v with exported := false } else f)
    return 0

def unset : Builtin := fun args => do
  let functions := args.head? = some ['-', 'f']
  let names := args.filter fun a => a.head? ≠ some '-'
  for name in names do
    let s ← get
    if functions then set { s with functions := s.functions.filter (·.1 ≠ name) }
    else if (s.entryOf name).any (·.readonly) then
      if s.bash then complainAs "unset" (name ++ ": cannot unset: readonly variable".toList)
      else
        complainAs "unset" (name ++ ": is read only".toList)
        ShellM.exit 2
    else set (s.dropVariable name)
  return 0

/-- Variables of a function. Their old values come back when it ends. -/
def localise (name : String) : Builtin := fun args => do
  let s ← get
  if s.functionDepth = 0 then
    if s.bash then
      complainAs name "can only be used in a function".toList
      return 1
    else
      complainAs name "not in a function".toList
      ShellM.exit 2
  for a in args.filter fun a => a.head? ≠ some '-' do
    let (name, value) := binding a
    modify fun s =>
      let old := s.entryOf name
      let s := match s.shadows with
        | top :: rest => { s with shadows := ((name, old) :: top) :: rest }
        | [] => s
      if value.isNone && s.bash then s.putVariable name { value := none } else s
    if let some v := value then setVariable name v
  return 0

def declare : Builtin := fun args => do
  let s ← get
  if s.functionDepth > 0 && !args.contains ['-', 'g'] then discard (localise "declare" args)
  let flags := (args.filter fun a => a.head? = some '-').flatten
  for a in args.filter fun a => a.head? ≠ some '-' && a.head? ≠ some '+' do
    let (name, value) := binding a
    if let some v := value then
      let v ← if flags.contains 'i' then Octets.ofInt <$> reckon v else pure v
      setVariable name v
    mark name fun v =>
      { v with exported := v.exported || flags.contains 'x', readonly := v.readonly || flags.contains 'r' }
  return 0

def shift : Builtin := fun args => do
  let s ← get
  let n := match args with
    | a :: _ => (Octets.nat? a).getD 1
    | [] => 1
  if n ≤ s.positional.length then
    set { s with positional := s.positional.drop n }
    return 0
  else if s.bash then return 1
  else
    complainAs "shift" "can't shift that many".toList
    ShellM.exit 2

/-! ### Options -/

def letterOption (o : Options) (on : Bool) : Char → Options
  | 'e' => { o with errexit := on }
  | 'u' => { o with nounset := on }
  | 'f' => { o with noglob := on }
  | 'n' => { o with noexec := on }
  | 'x' => { o with xtrace := on }
  | 'a' => { o with allexport := on }
  | _ => o

def namedOption (o : Options) (on : Bool) (name : Octets) : Options :=
  match String.ofList name with
  | "errexit" => { o with errexit := on }
  | "nounset" => { o with nounset := on }
  | "noglob" => { o with noglob := on }
  | "noexec" => { o with noexec := on }
  | "xtrace" => { o with xtrace := on }
  | "allexport" => { o with allexport := on }
  | "pipefail" => { o with pipefail := on }
  | _ => o

/-- Takes option words from the front; what is left becomes the parameters, if anything says so. -/
def setOptions : Nat → List Octets → Options → Options × Option (List Octets)
  | 0, _, o => (o, none)
  | _, [], o => (o, none)
  | n + 1, a :: args, o =>
    if a = "--".toList then (o, some args)
    else match a with
      | sign :: letters =>
        if (sign = '-' || sign = '+') && !letters.isEmpty then
          let on := sign = '-'
          if letters.getLast? = some 'o' then
            let o := letters.dropLast.foldl (fun o c => letterOption o on c) o
            setOptions n (args.drop 1) (namedOption o on (args.head?.getD []))
          else setOptions n args (letters.foldl (fun o c => letterOption o on c) o)
        else (o, some (a :: args))
      | [] => (o, some (a :: args))

def setting : Builtin := fun args => do
  let s ← get
  if args.isEmpty then
    let vars := (s.vars.filter fun x => x.2.value.isSome).mergeSort fun a b => Octets.upTo a.1 b.1
    say "set" (vars.flatMap fun x => x.1 ++ '=' :: requoted (x.2.value.getD []) ++ ['\n'])
  else
    let (o, positional) := setOptions (args.length + 1) args s.options
    set { s with options := o, positional := positional.getD s.positional }
    return 0

/-! ### Signals and processes -/

def announceTraps : ShellM Unit := do
  let s ← get
  let real := s.traps.filter (·.1 ≠ 0)
  let caught := (real.filter fun t => !t.2.isEmpty).map (·.1)
  let ignored := (real.filter fun t => t.2.isEmpty).map (·.1)
  ShellM.change fun w => w.updateProcess s.pid fun p => { p with caught, ignored }

def trap : Builtin := fun args => do
  let args := if args.head? = some "--".toList then args.drop 1 else args
  match args with
  | [] =>
    let s ← get
    let line (t : Signal × Octets) : Octets :=
      let name := if t.1 = 0 then "EXIT" else
        (if s.bash then "SIG" else "") ++ (Ending.signalName? t.1).getD (toString t.1)
      "trap -- ".toList ++ requoted t.2 ++ ' ' :: name.toList ++ ['\n']
    say "trap" ((s.traps.mergeSort fun a b => a.1 ≤ b.1).flatMap line)
  | action :: names =>
    let resets := action = ['-'] || names.isEmpty
    let names := if names.isEmpty then [action] else names
    let mut status := 0
    for name in names do
      let s ← get
      match Tool.signalOf? s.bash name with
      | none =>
        if s.bash then complainAs "trap" (name ++ ": invalid signal specification".toList)
        else discard (emit 2 ("trap: ".toList ++ name ++ ": bad trap\n".toList))
        status := 1
      | some signal =>
        modify fun s =>
          let others := s.traps.filter (·.1 ≠ signal)
          { s with traps := if resets then others else (signal, action) :: others }
    announceTraps
    return status

def statusOf : Ending → Nat
  | .exited code => code
  | .killed signal => 128 + signal

def obituary : Ending → Option String
  | .exited _ => none
  | .killed signal => match signal with
    | 2 | 13 => none
    | 1 => some "Hangup"
    | 3 => some "Quit"
    | 6 => some "Aborted"
    | 9 => some "Killed"
    | 10 => some "User defined signal 1"
    | 11 => some "Segmentation fault"
    | 12 => some "User defined signal 2"
    | 14 => some "Alarm clock"
    | 15 => some "Terminated"
    | n => some ("Signal " ++ toString n)

/-- Waits until a process has ended, or until a signal has to be handled. -/
def awaitEnd (pid : Pid) : ShellM Nat := do
  let s ← get
  ShellM.ofJob (Job.await fun w => match (w.process? s.pid).bind (·.pending.head?) with
    | some signal => some (128 + signal, w)
    | none => match w.process? pid with
      | none => some (127, w)
      | some p => p.ending.map fun e => (statusOf e, w))

def wait : Builtin := fun args => do
  let s ← get
  let pids := args.filterMap Octets.nat?
  if args.isEmpty then
    ShellM.ofJob (Job.await fun w =>
      match (w.process? s.pid).bind (·.pending.head?) with
      | some signal => some (128 + signal, w)
      | none =>
        let isOver (pid : Pid) : Bool := !(w.process? pid).any World.isRunning
        if s.children.all isOver then some (0, w) else none)
  else
    let mut status := 127
    for pid in pids do
      if s.children.contains pid then
        status ← awaitEnd pid
        if !s.bash then
          let ending ← ShellM.look fun w => (w.process? pid).bind (·.ending)
          if let some text := ending.bind obituary then discard (emit 2 (text.toList ++ ['\n']))
      else
        if s.bash then
          complainAs "wait" ("pid ".toList ++ Octets.ofNat pid ++ " is not a child of this shell".toList)
        status := 127
    return status

def signalList : Octets :=
  Octets.join ['\n'] (['0'] :: Ending.signalNames.map String.toList) ++ ['\n']

def signalAndTargets (args : List Octets) : Option Octets × List Octets :=
  match args with
  | ['-', 's'] :: name :: rest => (some name, rest)
  | ['-', 'n'] :: name :: rest => (some name, rest)
  | ('-' :: name) :: rest =>
    if name = ['-'] then (none, rest) else (some name, rest)
  | rest => (none, rest)

def kill : Builtin := fun args => do
  let s ← get
  if args.head? = some ['-', 'l'] then
    match (args.drop 1).head?.bind Octets.nat? with
    | some n => say "kill" (((Ending.signalName? (n % 128)).getD "").toList ++ ['\n'])
    | none => say "kill" signalList
  else
    let (name, targets) := signalAndTargets args
    let targets := if targets.head? = some "--".toList then targets.drop 1 else targets
    match Tool.signalOf? s.bash (name.getD ['1', '5']) with
    | none =>
      let o := name.getD []
      if s.bash then
        complainAs "kill" (o ++ ": invalid signal specification".toList)
        return 1
      else
        complainAs "kill" ("Illegal option -".toList ++ o.take 1)
        ShellM.exit 2
    | some signal =>
      if targets.isEmpty then
        if s.bash then
          discard (emit 2 ("kill: usage: kill [-s sigspec | -n signum | -sigspec] pid | jobspec ... ".toList ++
            "or kill -l [sigspec]\n".toList))
        else
          complainAs "kill"
            "Usage: kill [-s sigspec | -signum | -sigspec] [pid | job]... or\nkill -l [exitstatus]".toList
        return 2
      let mut status := 0
      for target in targets do
        match Octets.int? target with
        | none =>
          complainAs "kill" (if s.bash then target ++ ": arguments must be process or job IDs".toList
            else "Illegal number: ".toList ++ target)
          status := if s.bash then 1 else 2
        | some n =>
          let reached ← ShellM.exchange fun w =>
            let pids := (w.meant s.pid n).filter fun pid =>
              (w.process? pid).any fun p => World.isRunning p || s.children.contains pid
            -- the sender comes last, so that the others get theirs too
            let pids := pids.filter (· ≠ s.pid) ++ pids.filter (· = s.pid)
            (!pids.isEmpty, pids.foldl (fun w pid => w.deliver signal pid) w)
          if !reached then
            complainAs "kill" (if s.bash then
                '(' :: Octets.ofInt n ++ ") - No such process".toList
              else "No such process".toList)
            status := 1
      return status

/-! ### Reading -/

def splitFor (separators : Octets) : Nat → Octets → List Octets
  | 0, _ => []
  | n + 1, o =>
    let isBlank (c : Char) : Bool := separators.contains c && Piece.isBlankSeparator c
    let o := o.dropWhile isBlank
    if n = 0 then
      let trimmed := (o.reverse.dropWhile isBlank).reverse
      -- one separator at the end of a single field does not belong to it
      match trimmed.getLast? with
      | some c =>
        if separators.contains c && !(trimmed.dropLast.any separators.contains) then [trimmed.dropLast]
        else [trimmed]
      | none => [trimmed]
    else
      let field := o.takeWhile fun c => !separators.contains c
      let rest := (o.drop field.length).dropWhile isBlank
      let rest := match rest with
        | c :: cs => if separators.contains c && !isBlank c then cs else rest
        | [] => []
      field :: splitFor separators n rest

def unbackslash : Octets → Octets
  | '\\' :: c :: cs => if c = '\n' then unbackslash cs else c :: unbackslash cs
  | ['\\'] => []
  | c :: cs => c :: unbackslash cs
  | [] => []

def readJoined (pid : Pid) (raw : Bool) : Nat → Octets → Job (Octets × Bool)
  | 0, before => return (before, false)
  | n + 1, before => do
    let (line, whole) ← Job.readLine pid 0 patience []
    if !raw && whole && (line.reverse.takeWhile (· = '\\')).length % 2 = 1 then
      readJoined pid raw n (before ++ line ++ ['\n'])
    else return (before ++ line, whole)

def read : Builtin := fun args => do
  let s ← get
  let o := options "res" "pdtnua" args
  let raw := o.has 'r'
  let (line, whole) ← ShellM.ofJob (readJoined s.pid raw 1000 [])
  let line := if raw then line else unbackslash line
  let names := o.operands
  if names.isEmpty then
    if s.bash then setVariable "REPLY".toList line
    else complainAs "read" "arg count".toList
  let fields := splitFor s.separators names.length line
  for (name, i) in names.zipIdx do
    setVariable name (fields.getD i [])
  return if whole then 0 else 1

/-! ### The table -/

def nothing (status : Nat) : Builtin := fun _ => return status

def umask : Builtin := fun args => if args.isEmpty then say "umask" "0022\n".toList else return 0

def letting : Builtin := fun args => do
  let mut last : Int := 0
  for a in args do
    last ← reckon a
  return if last = 0 then 1 else 0

def find? (bash : Bool) (name : Octets) : Option Builtin :=
  match String.ofList name with
  | ":" | "true" => some (nothing 0)
  | "false" => some (nothing 1)
  | "echo" => some echo
  | "printf" => some printf
  | "test" => some (test "test")
  | "[" => some (test "[")
  | "cd" => some changeDirectory
  | "pwd" => some workingDirectory
  | "exit" => some exit
  | "return" => some leaveFunction
  | "break" => some (leave "break" .leaveLoop)
  | "continue" => some (leave "continue" .nextTurn)
  | "export" => some (exporting "export" (fun v => { v with exported := true }) (·.exported))
  | "readonly" => some (exporting "readonly" (fun v => { v with readonly := true }) (·.readonly))
  | "unset" => some unset
  | "local" => some (localise "local")
  | "shift" => some shift
  | "set" => some setting
  | "trap" => some trap
  | "wait" => some wait
  | "kill" => some kill
  | "read" => some read
  | "umask" => some umask
  | "alias" | "unalias" | "hash" | "times" | "ulimit" | "jobs" | "bg" | "fg" => some (nothing 0)
  | "let" => if bash then some letting else none
  | "declare" | "typeset" => if bash then some declare else none
  | "shopt" | "disown" | "enable" | "history" => if bash then some (nothing 0) else none
  | _ => none

def isSpecial (name : Octets) : Bool :=
  [":", ".", "break", "continue", "eval", "exec", "exit", "export", "readonly", "return", "set", "shift",
    "times", "trap", "unset"].contains (String.ofList name)

end Builtin
end Foreman.Shell
