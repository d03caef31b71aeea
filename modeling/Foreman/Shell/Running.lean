import Foreman.Shell.Call
import Foreman.Shell.Redirection

/-! Running commands: alone, in pipelines, in the background, and as programs of their own. -/

namespace Foreman.Shell

/-! ### Conditions between double brackets -/

section

variable (run : Tree → ShellM Octets)

def operatorOf : Word → Option String
  | [.plain o] => some (String.ofList o)
  | _ => none

mutual

def orCondition : Nat → List Word → ShellM (Bool × List Word)
  | 0, ws => return (false, ws)
  | n + 1, ws => do
    let (a, rest) ← andCondition n ws
    match rest with
    | w :: more =>
      if operatorOf w = some "||" then
        let (b, rest) ← orCondition n more
        return (a || b, rest)
      else return (a, rest)
    | [] => return (a, rest)

def andCondition : Nat → List Word → ShellM (Bool × List Word)
  | 0, ws => return (false, ws)
  | n + 1, ws => do
    let (a, rest) ← oneCondition n ws
    match rest with
    | w :: more =>
      if operatorOf w = some "&&" then
        let (b, rest) ← andCondition n more
        return (a && b, rest)
      else return (a, rest)
    | [] => return (a, rest)

def oneCondition : Nat → List Word → ShellM (Bool × List Word)
  | 0, ws => return (false, ws)
  | _, [] => return (false, [])
  | n + 1, w :: rest => do
    let s ← get
    if operatorOf w = some "!" then
      let (a, rest) ← oneCondition n rest
      return (!a, rest)
    else if operatorOf w = some "(" then
      let (a, rest) ← orCondition n rest
      return (a, rest.drop 1)
    else match rest, (operatorOf w).bind fun o => Condition.unary? o.toList with
      | b :: more, some op =>
        let o ← expandText run b
        if op = 'v' then return ((parameter? s o).isSome, more)
        else
          let v ← ShellM.look fun w => Condition.unary (w.ask s.dir) op o
          return (v, more)
      | op :: b :: more, _ =>
        match operatorOf op with
        | none => return (!(← expandText run w).isEmpty, rest)
        | some op =>
          let a ← expandText run w
          if op = "=" || op = "==" || op = "!=" then
            let pattern ← expandPattern run b
            return (isMatch pattern a != (op = "!="), more)
          else if op = "=~" then
            let r := Regex.read true (← expandText run b)
            return ((r.search false a).isSome, more)
          else if op = "<" then return (decide (a < (← expandText run b)), more)
          else if op = ">" then return (decide ((← expandText run b) < a), more)
          else if Condition.numeric.contains op then
            let m ← reckon a
            let k ← reckon (← expandText run b)
            return (Condition.compare op m k, more)
          else return (!a.isEmpty, rest)
      | rest, _ => return (!(← expandText run w).isEmpty, rest)

end

end

/-! ### Names of commands -/

def keywords : List String :=
  ["if", "then", "else", "elif", "fi", "for", "while", "until", "do", "done", "case", "esac", "\x7b",
    "\x7d", "!", "in"]

def carriers : List String := ["eval", ".", "source", "exec", "command", "builtin", "type"]

def isBuiltin (s : State) (name : Octets) : Bool :=
  (Builtin.find? s.bash name).isSome ||
    (carriers.contains (String.ofList name) && (s.bash || (name ≠ "source".toList && name ≠ "builtin".toList)))

def describe (s : State) (w : World) (name : Octets) : Octets × Bool :=
  if keywords.contains (String.ofList name) then (name ++ " is a shell keyword".toList, true)
  else if (s.functions.lookup name).isSome then
    (name ++ (if s.bash then " is a function" else " is a shell function").toList, true)
  else if isBuiltin s name then
    let special := !s.bash && Builtin.isSpecial name
    (name ++ (if special then " is a special shell builtin" else " is a shell builtin").toList, true)
  else match findProgram w s.dir (s.value? "PATH".toList) name with
    | .program n => (name ++ " is /usr/bin/".toList ++ n, true)
    | .script p => (name ++ " is ".toList ++ p, true)
    | _ => (name ++ ": not found".toList, false)

def locateCommand (s : State) (w : World) (name : Octets) : Option Octets :=
  if keywords.contains (String.ofList name) || (s.functions.lookup name).isSome || isBuiltin s name then
    some name
  else match findProgram w s.dir (s.value? "PATH".toList) name with
    | .program n => some ("/usr/bin/".toList ++ n)
    | .script p => some p
    | _ => none

def refuse (name : Octets) (f : Found) : ShellM Nat := do
  let s ← get
  match f with
  | .directory =>
    complain (name ++ (if s.bash then ": Is a directory" else ": Permission denied").toList)
    return 126
  | .notRunnable =>
    complain (name ++ ": Permission denied".toList)
    return 126
  | _ =>
    complain (name ++ (if !s.bash then if name.isEmpty then ": Permission denied" else ": not found"
      else if name.contains '/' then ": No such file or directory" else ": command not found").toList)
    return 127

/-! ### Running -/

/-- Ends the shell if a command has failed where that counts. -/
def checked (status : Nat) : ShellM Nat := do
  modify fun s => { s with status }
  let s ← get
  if status ≠ 0 && s.options.errexit && s.conditions = 0 then ShellM.exit status
  return status

def asCondition (m : ShellM Nat) : ShellM Nat := do
  modify fun s => { s with conditions := s.conditions + 1 }
  let status ← m
  modify fun s => { s with conditions := s.conditions - 1 }
  return status

def turn (body : ShellM Nat) : ShellM (Bool × Nat) := do
  let depth := (← get).conditions
  try
    let status ← body
    return (true, status)
  catch
    | .leaveLoop levels =>
      modify fun s => { s with conditions := depth }
      if levels ≤ 1 then return (false, 0) else throw (.leaveLoop (levels - 1))
    | .nextTurn levels =>
      modify fun s => { s with conditions := depth }
      if levels ≤ 1 then return (true, 0) else throw (.nextTurn (levels - 1))
    | flow => throw flow

def inLoop {α : Type} (m : ShellM α) : ShellM α := do
  modify fun s => { s with loops := s.loops + 1 }
  try
    let a ← m
    modify fun s => { s with loops := s.loops - 1 }
    return a
  catch flow =>
    modify fun s => { s with loops := s.loops - 1 }
    throw flow

def inFunction (args : List Octets) (body : ShellM Nat) : ShellM Nat := do
  let outer ← get
  set { outer with
    positional := args, functionDepth := outer.functionDepth + 1, loops := 0
    shadows := [] :: outer.shadows }
  let leave : ShellM Unit := modify fun s =>
    let s := (s.shadows.head?.getD []).foldl (fun s (name, old) => match old with
      | some v => s.putVariable name v
      | none => s.dropVariable name) s
    { s with
      positional := outer.positional, functionDepth := outer.functionDepth, loops := outer.loops
      shadows := outer.shadows }
  try
    let status ← body
    leave
    return status
  catch
    | .leaveFunction status =>
      leave
      return status
    | flow =>
      leave
      throw flow

def portions : Nat → Nat → List Octets → List (List Octets)
  | 0, _, words => [words]
  | n + 1, size, words =>
    if words.length ≤ size then [words] else words.take size :: portions n size (words.drop size)

def takePending : ShellM (List Octets) := do
  let s ← get
  if s.traps.isEmpty then return []
  let pending ← ShellM.exchange fun w => match w.process? s.pid with
    | some p => (p.pending, w.updateProcess s.pid fun p => { p with pending := [] })
    | none => ([], w)
  return pending.filterMap fun signal => s.traps.lookup signal

def bringBack (before : State) (assignments : List (Octets × Word)) : ShellM Unit := do
  for (name, _) in assignments do
    modify fun s => match before.entryOf name with
      | some v => s.putVariable name v
      | none => s.dropVariable name

def trace (args : List Octets) : ShellM Unit := do
  let s ← get
  if s.options.xtrace then
    let shown := if s.bash then args.map fun a =>
        if a.isEmpty || a.any (fun c => !(Octets.isNameChar c || "%+,-./:=@".toList.contains c)) then
          Builtin.requoted a else a
      else args
    discard (emit 2 ("+ ".toList ++ Octets.join [' '] shown ++ ['\n']))

def sourceAt (s : State) (path : Octets) : ShellM (Except DiskError Octets) :=
  ShellM.look fun w =>
    if path = "/dev/null".toList then .ok []
    else ((w.diskFrom s.dir).readFile (Tool.pathOf path)).map Octets.ofBytes

mutual

/--
Runs a command. With `last` nothing comes after it in this process, so a program may take its place;
`bash` has a child for a program inside a compound command all the same.
-/
def run (last : Bool) : Nat → Tree → ShellM Nat
  | 0, _ => ShellM.exit 2
  | n + 1, t => match t with
    | .simple line assignments words redirects => simple last n line assignments words redirects
    | .sequence trees => sequence last n trees
    | .and a b => do
      let status ← asCondition (run false n a)
      if status = 0 then run last n b
      else
        modify fun s => { s with status }
        return status
    | .or a b => do
      let status ← asCondition (run false n a)
      if status = 0 then return status else run last n b
    | .pipeline true stages => do
      let status ← asCondition (match stages with
        | [c] => run false n c
        | cs => pipeline n cs)
      let status := if status = 0 then 1 else 0
      modify fun s => { s with status }
      return status
    | .pipeline false stages => do checked (← pipeline n stages)
    | .background tree => do
      let pid ← fork (fun pid w =>
        let (null, w) := w.addOpened (World.access .read .nowhere)
        let w := w.updateProcess pid fun p => { p with ignored := p.ignored ++ [2, 3] }
        w.setDescriptor pid 0 null) (inside n tree)
      modify fun s => { s with lastBackground := some pid, children := pid :: s.children, status := 0 }
      return 0
    | .group body redirects => do
      let last := last && redirects.isEmpty && !(← get).bash
      redirected n redirects (run last n body)
    | .subshell body redirects => do
      let pid ← fork arrangeNothing (do
        if ← redirect (output n) redirects then inside n body
        else return redirectFailure (← get))
      checked (← awaitForeground pid)
    | .choice branches otherwise redirects => do
      let last := last && !(← get).bash
      redirected n redirects (choose last n branches otherwise)
    | .loop untilTrue condition body redirects =>
      redirected n redirects (inLoop (turns n untilTrue condition body 0))
    | .each name words body redirects => do
      let values ← match words with
        | some ws => expandWords (output n) ws
        | none => pure (← get).positional
      redirected n redirects (inLoop (eachValue n name values body 0))
    | .select word arms redirects => do
      let o ← expandText (output n) word
      let last := last && !(← get).bash
      redirected n redirects (pick last n o arms)
    | .define name body => do
      modify fun s => { s with functions := (name, body) :: s.functions.filter (·.1 ≠ name), status := 0 }
      return 0
    | .condition words redirects => do
      let status ← redirected n redirects (do
        let (v, _) ← orCondition (output n) (4 * words.length + 8) words
        return if v then 0 else 1)
      checked status
    | .reckon expression redirects => do
      let status ← redirected n redirects (do
        let v ← reckon (← expandText (output n) expression)
        return if v = 0 then 1 else 0)
      checked status
    | .count first condition step body redirects =>
      redirected n redirects do
        discard (reckon (← expandText (output n) first))
        modify fun s => { s with status := 0 }
        inLoop (counted n condition step body)

def counted : Nat → Word → Word → Tree → ShellM Nat
  | 0, _, _, _ => ShellM.exit 2
  | n + 1, condition, step, body => do
    let v ← if condition.isEmpty then pure 1 else reckon (← expandText (output n) condition)
    if v = 0 then return (← get).status
    let (goesOn, status) ← turn (run false n body)
    modify fun s => { s with status }
    if goesOn then
      discard (reckon (← expandText (output n) step))
      counted n condition step body
    else return status

def sequence (last : Bool) : Nat → List Tree → ShellM Nat
  | 0, _ => ShellM.exit 2
  | _, [] => return (← get).status
  | n + 1, [t] => run last n t
  | n + 1, t :: ts => do
    discard (run false n t)
    sequence last n ts

def redirected : Nat → List Redirect → ShellM Nat → ShellM Nat
  | 0, _, _ => ShellM.exit 2
  | n + 1, redirects, m =>
    if redirects.isEmpty then m
    else keepingDescriptors do
      if ← redirect (output n) redirects then m
      else
        let status := redirectFailure (← get)
        modify fun s => { s with status }
        return status

def choose (last : Bool) : Nat → List (Tree × Tree) → Option Tree → ShellM Nat
  | 0, _, _ => ShellM.exit 2
  | n + 1, [], otherwise => match otherwise with
    | some t => run last n t
    | none => do
      modify fun s => { s with status := 0 }
      return 0
  | n + 1, (condition, body) :: more, otherwise => do
    if (← asCondition (run false n condition)) = 0 then run last n body
    else choose last n more otherwise

def turns : Nat → Bool → Tree → Tree → Nat → ShellM Nat
  | 0, _, _, _, _ => ShellM.exit 2
  | n + 1, untilTrue, condition, body, status => do
    let (goesOn, next) ← turn do
      if ((← asCondition (run false n condition)) = 0) = untilTrue then throw (.leaveLoop 1)
      run false n body
    if goesOn then turns n untilTrue condition body next
    else
      modify fun s => { s with status }
      return status

def eachValue : Nat → Octets → List Octets → Tree → Nat → ShellM Nat
  | 0, _, _, _, _ => ShellM.exit 2
  | _, _, [], _, status => do
    modify fun s => { s with status }
    return status
  | n + 1, name, v :: vs, body, _ => do
    setVariable name v
    let (goesOn, status) ← turn (run false n body)
    if goesOn then eachValue n name vs body status
    else
      modify fun s => { s with status }
      return status

def pick (last : Bool) : Nat → Octets → List (List Word × Tree) → ShellM Nat
  | 0, _, _ => ShellM.exit 2
  | _, _, [] => do
    modify fun s => { s with status := 0 }
    return 0
  | n + 1, o, (patterns, body) :: more => do
    let fits ← patterns.anyM fun p => do return isMatch (← expandPattern (output n) p) o
    if fits then
      modify fun s => { s with status := 0 }
      run last n body
    else pick last n o more

def pipeline : Nat → List Tree → ShellM Nat
  | 0, _ => ShellM.exit 2
  | n + 1, stages => do
    let pids ← connect n none stages
    let mut statuses : List Nat := []
    for pid in pids do
      let status ← awaitForeground pid (pids.getLast? = some pid)
      statuses := statuses ++ [status]
    let s ← get
    let final := statuses.getLast?.getD 0
    let failed := (statuses.filter (· ≠ 0)).getLast?.getD 0
    return if s.options.pipefail then failed else final

/-- Starts the stages of a pipeline; `source` is what the first of them reads. -/
def connect : Nat → Option Nat → List Tree → ShellM (List Pid)
  | 0, _, _ => ShellM.exit 2
  | _, _, [] => return []
  | n + 1, source, stage :: more => do
    let s ← get
    let feed (pid : Pid) (w : World) : World := match source with
      | some number => (w.setDescriptor pid 0 number).closeDescriptor pid pipeDescriptor
      | none => w
    if more.isEmpty then
      let pid ← fork feed (inside n stage)
      ShellM.change fun w => w.closeDescriptor s.pid pipeDescriptor
      return [pid]
    else
      let (next, sink) ← ShellM.exchange fun w => w.addPipe (some 65536)
      let pid ← fork (fun pid w => (feed pid w).setDescriptor pid 1 sink) (inside n stage)
      ShellM.change fun w => w.setDescriptor s.pid pipeDescriptor next
      return pid :: (← connect n (some next) more)

def inside : Nat → Tree → ShellM Nat
  | 0, _ => ShellM.exit 2
  | n + 1, t => finished n (run true n t)

def finished : Nat → ShellM Nat → ShellM Nat
  | 0, _ => ShellM.exit 2
  | n + 1, m => do
    let status ← try m catch
      | .exit status | .leaveFunction status => pure status
      | _ => pure (← get).status
    let s ← get
    match s.traps.lookup 0 with
    | some action =>
      set { s with traps := s.traps.filter (·.1 ≠ 0), status }
      if action.isEmpty then return status
      try
        discard (text n action)
        return status
      catch
        | .exit status => return status
        | _ => return status
    | none => return status

def output : Nat → Tree → ShellM Octets
  | 0, _ => return []
  | n + 1, t => do
    let s ← get
    match t with
    | .sequence [.simple _ [] [] [.input 0 path]] =>
      -- a file alone stands for its content
      if s.bash then
        let name ← expandText (output n) path
        match ← sourceAt s name with
        | .ok o =>
          modify fun s => { s with lastOutput := some 0 }
          return o
        | .error e =>
          complain (openFault true name .read e)
          modify fun s => { s with lastOutput := some 1 }
          return []
      else return []
    | t =>
      let (source, sink) ← ShellM.exchange fun w => w.addPipe none
      let pid ← fork (fun pid w => w.setDescriptor pid 1 sink) (inside n t)
      ShellM.change fun w => w.setDescriptor s.pid captureDescriptor source
      let o ← ShellM.ofJob (Job.readAll s.pid captureDescriptor patience [])
      ShellM.change fun w => w.closeDescriptor s.pid captureDescriptor
      let status ← awaitForeground pid false
      modify fun s => { s with lastOutput := some status }
      return o.toOption.getD []

def text : Nat → Octets → ShellM Nat
  | 0, _ => ShellM.exit 2
  | n + 1, source => do
    let (trees, fault) := read (← get).bash source
    let status ← sequence false n trees
    match fault with
    | none => return if trees.isEmpty then 0 else status
    | some e => unreadable n e

def unreadable : Nat → SyntaxError → ShellM Nat
  | 0, _ => ShellM.exit 2
  | _, e => do
    modify fun s => { s with line := e.line }
    complain (e.message (← get).bash).toList
    ShellM.exit 2

def handleSignals : Nat → ShellM Unit
  | 0 => return
  | n + 1 => do
    for action in ← takePending do
      let status := (← get).status
      discard (text n action)
      modify fun s => { s with status }

def assign : Nat → List (Octets × Word) → ShellM Unit
  | 0, _ => return
  | n + 1, assignments => do
    for (name, w) in assignments do
      setVariable name (← expandText (output n) w)

def simple (last : Bool) : Nat → Nat → List (Octets × Word) → List Word → List Redirect → ShellM Nat
  | 0, _, _, _, _ => ShellM.exit 2
  | n + 1, line, assignments, words, redirects => do
    modify fun s => { s with line, lastOutput := none }
    -- every command is an action of its own, so that other processes get their turns
    ShellM.look fun _ => ()
    handleSignals n
    let args ← expandWords (output n) words
    trace args
    let s ← get
    match args with
    | [] =>
      let status ← redirected n redirects (do
        assign n assignments
        return (← get).lastOutput.getD 0)
      checked status
    | name :: rest =>
      match s.functions.lookup name with
      | some body =>
        let status ← redirected n redirects (do
          assign n assignments
          inFunction rest (run false n body))
        bringBack s assignments
        handleSignals n
        checked status
      | none =>
        if carriers.contains (String.ofList name) && isBuiltin s name then
          let status ← carry last n name rest assignments redirects
          handleSignals n
          checked status
        else match Builtin.find? s.bash name with
          | some builtin =>
            let isSpecial := Builtin.isSpecial name
            let status ← keepingDescriptors do
              if ← redirect (output n) redirects then
                assign n assignments
                builtin rest
              else if isSpecial && !s.bash then ShellM.exit 2
              else return redirectFailure s
            unless isSpecial && !s.bash do bringBack s assignments
            handleSignals n
            checked status
          | none =>
            if last && s.traps.isEmpty then
              become [] n args assignments redirects
            else
              let started (own : List Redirect) : ShellM Nat := do
                awaitForeground (← fork arrangeNothing (become [] n args assignments own))
              -- one shell redirects before it starts a child, so that its own words about it follow
              let status ← if s.bash then started redirects else keepingDescriptors do
                if ← redirect (output n) redirects then started [] else return redirectFailure s
              handleSignals n
              checked status

def become (caller : Octets) : Nat → List Octets → List (Octets × Word) → List Redirect → ShellM Nat
  | 0, _, _, _ => ShellM.exit 2
  | n + 1, args, assignments, redirects => do
    if ← redirect (output n) redirects then
      for (name, w) in assignments do
        setVariable name (← expandText (output n) w)
        Builtin.mark name fun v => { v with exported := true }
      let s ← get
      let name := args.head?.getD []
      let found ← ShellM.look fun w => findProgram w s.dir (s.value? "PATH".toList) name
      let last := match found with
        | .program tool => "/usr/bin/".toList ++ tool
        | _ => name
      let environment := s.environment ++ if s.bash then [(['_'], last)] else []
      let self : Self := { pid := s.pid, name, dir := s.dir, environment }
      match found with
      | .program tool =>
        ShellM.change fun w => w.updateProcess s.pid fun p => { p with caught := [], pending := [] }
        ShellM.exit (← ShellM.ofJob (launch n tool self (args.drop 1)))
      | .script path =>
        ShellM.exit (← ShellM.ofJob (launchScript n path self (args.drop 1)))
      | f =>
        if s.bash && !caller.isEmpty && (f matches .nothing) then
          complain (caller ++ ": ".toList ++ name ++ ": not found".toList)
          ShellM.exit 127
        let shown := if caller.isEmpty then name else caller ++ ": ".toList ++ name
        ShellM.exit (← refuse shown f)
    else ShellM.exit (redirectFailure (← get))

def carry (last : Bool) : Nat → Octets → List Octets → List (Octets × Word) → List Redirect → ShellM Nat
  | 0, _, _, _, _ => ShellM.exit 2
  | n + 1, name, args, assignments, redirects => do
    let s ← get
    match String.ofList name with
    | "exec" =>
      match args with
      | [] =>
        if ← redirect (output n) redirects then return 0
        else ShellM.exit (redirectFailure s)
      | args => become "exec".toList n args assignments redirects
    | "eval" => redirected n redirects (do
        assign n assignments
        text n (Octets.join [' '] args))
    | "type" => redirected n redirects (do
        let mut status := 0
        for a in args do
          let (o, isKnown) ← ShellM.look fun w => describe s w a
          if isKnown || !s.bash then discard (emit 1 (o ++ ['\n']))
          else Builtin.complainAs "type" o
          if !isKnown then status := if s.bash then 1 else 127
        return status)
    | "command" | "builtin" => match args with
      | [] => return 0
      | a :: rest =>
        if a = ['-', 'v'] || a = ['-', 'V'] then redirected n redirects (do
          let mut status := 0
          for o in rest do
            match ← ShellM.look fun w => locateCommand s w o with
            | some found => discard (emit 1 (found ++ ['\n']))
            | none => status := if s.bash then 1 else 127
          return status)
        else
          let (a, rest) := if a = ['-', 'p'] || a = ['-', '-'] then
              (rest.head?.getD [], rest.drop 1) else (a, rest)
          match Builtin.find? s.bash a with
          | some builtin => redirected n redirects (builtin rest)
          | none =>
            if carriers.contains (String.ofList a) then carry last n a rest assignments redirects
            else
              let pid ← fork arrangeNothing (become [] n (a :: rest) assignments redirects)
              awaitForeground pid
    | _ => match args with
      | [] =>
        if s.bash then Builtin.complainAs "." "filename argument required".toList
        return 2
      | path :: rest => redirected n redirects (do
          let found ← sourceAt s path
          match found with
          | .error e =>
            if s.bash && e = .isDirectory then
              Builtin.complainAs "." (path ++ ": is a directory".toList)
              return 1
            else if s.bash then
              complain (path ++ ": ".toList ++ e.cause.toList)
              return 1
            else if e = .isDirectory then return 0
            else
              Builtin.complainAs "." (if path.contains '/' then
                "cannot open ".toList ++ path ++ ": ".toList ++
                  (if e = .notFound || e = .notDirectory then "No such file" else e.cause).toList
                else path ++ ": not found".toList)
              ShellM.exit 2
          | .ok source =>
            let outer := s.positional
            modify fun t => { t with source := if s.bash then none else some path, sourcing := true }
            if s.bash && !rest.isEmpty then modify fun s => { s with positional := rest }
            let status ← try text n source catch
              | .leaveFunction status => pure status
              | flow => throw flow
            if s.bash && !rest.isEmpty then modify fun s => { s with positional := outer }
            modify fun t => { t with source := s.source, sourcing := s.sourcing, line := s.line }
            return status)

def launch : Nat → Octets → Self → List Octets → Job Nat
  | 0, _, _, _ => return 2
  | n + 1, name, self, args => match tool? name with
    | some tool => tool self args
    | none => match String.ofList name with
      | "bash" => shell n true self args
      | "sh" | "dash" => shell n false self args
      | "env" => do
        let (o, rest) := leadingOptions "i0" "uC" args
        let kept := if o.has 'i' then [] else self.environment
        let kept := kept.filter fun x => !(o.letters.any fun l => l.1 = 'u' && l.2 = x.1)
        let sets := rest.takeWhile fun a => a.contains '='
        let environment := sets.foldl (fun env a =>
          let (name, value) := Builtin.binding a
          env.filter (·.1 ≠ name) ++ [(name, value.getD [])]) kept
        match rest.drop sets.length with
        | [] =>
          self.say (Tool.environmentText environment)
          return 0
        | command => start n { self with environment } command
      | "xargs" => do
        let (o, command) := leadingOptions "0rtx" "nIPLsEd" args
        let command := if command.isEmpty then ["echo".toList] else command
        let input := (← Job.readAll self.pid 0 patience []).toOption.getD []
        let words := (input.splitBy fun a b => Pattern.isBlankChar a = Pattern.isBlankChar b).filter
          fun w => !(w.any Pattern.isBlankChar)
        if words.isEmpty && o.has 'r' then return 0
        let size := ((o.value? 'n').bind Octets.nat?).getD (words.length + 1)
        let mut result := 0
        let calls := match o.value? 'I' with
          | some mark => (Octets.lines input).map fun l =>
            command.map fun (a : Octets) => replacePieces true (mark.map (⟨·, true⟩)) (Octets.chomp l) a.length a
          | none => (portions (words.length + 1) (max size 1) words).map (command ++ ·)
        for call in calls do
          let pid ← Job.spawn arrangeNothing fun pid =>
            start n { self with pid } call fun status => .stop (.exited status)
          let e ← Job.await fun w => ((w.process? pid).bind (·.ending)).map fun e => (e, w)
          let status := Builtin.statusOf e
          if status > 125 then return status
          if status ≠ 0 then result := 123
        return result
      | "timeout" => do
        let rest := args.dropWhile fun a => a.head? = some '-'
        match rest with
        | duration :: command =>
          let limit := (Tool.span? duration).getD 0
          let pid ← Job.spawn arrangeNothing fun pid =>
            start n { self with pid } command fun status => .stop (.exited status)
          let deadline := (← Job.now) + limit
          -- a second process keeps the time
          let keeper ← Job.spawn (fun pid w => w.updateProcess pid fun p => { p with descriptors := [] })
            fun _ => .rest deadline fun _ => .act fun w =>
              (if limit = 0 then w else w.deliver 15 pid, .stop (.exited 0))
          let e ← Job.await fun w => ((w.process? pid).bind (·.ending)).map fun e => (e, w)
          let late := decide (deadline ≤ (← Job.now)) && limit ≠ 0
          Job.change fun w => w.deliver 9 keeper
          return if late && e = .killed 15 then 124 else Builtin.statusOf e
        | [] => self.missingOperand 125
      | "which" => do
        let mut status := 0
        for name in args do
          match ← Job.look fun w => findProgram w self.dir (self.environment.lookup "PATH".toList) name with
          | .program tool => self.say ("/usr/bin/".toList ++ tool ++ ['\n'])
          | .script path => self.say (path ++ ['\n'])
          | _ => status := 1
        return status
      | "setsid" => do
        Job.change fun w => w.updateProcess self.pid fun p => { p with group := self.pid }
        start n self args
      | "nohup" => do
        Job.change fun w => w.updateProcess self.pid fun p => { p with ignored := 1 :: p.ignored }
        start n self args
      | _ => start n self (args.dropWhile fun a => a.head? = some '-')

def start : Nat → Self → List Octets → Job Nat
  | 0, _, _ => return 2
  | n + 1, self, command => match command with
    | [] => return 0
    | name :: args => do
      let found ← Job.look fun w => findProgram w self.dir (self.environment.lookup "PATH".toList) name
      let child := { self with name }
      match found with
      | .program tool => launch n tool child args
      | .script path => launchScript n path child args
      | .nothing =>
        self.warn (Self.quote name ++ ": No such file or directory".toList)
        return 127
      | _ =>
        self.warn (Self.quote name ++ ": Permission denied".toList)
        return 126

def launchScript : Nat → Octets → Self → List Octets → Job Nat
  | 0, _, _, _ => return 2
  | n + 1, path, self, args => do
    let source ← Job.look fun w =>
      (((w.diskFrom self.dir).readFile (Tool.pathOf path)).map Octets.ofBytes).toOption.getD []
    let first := source.takeWhile (· ≠ '\n')
    let bash := ['#', '!'].isPrefixOf first && Octets.endsWith
      ((first.reverse.dropWhile (· = ' ')).reverse) "bash".toList
    shell n bash self (path :: args)

def shell : Nat → Bool → Self → List Octets → Job Nat
  | 0, _, _, _ => return 2
  | n + 1, bash, self, args => do
    let call := Call.read (args.length + 1) args {}
    let parent := (← Job.look fun w => w.process? self.pid).map (·.parent) |>.getD 0
    let finish (name : Octets) (positional : List Octets) (isText : Bool) (source : Octets) : Job Nat := do
      let state := State.start bash self parent name positional call.options
      let (trees, fault) := read bash source
      let (status, _) ← finished n (do
        let status ← sequence (isText && bash && fault.isNone) n trees
        match fault with
        | none => return status
        | some e => unreadable n e) state
      match status with
      | .ok status => return status
      | .error _ => return 2
    match call.words, call.isText with
    | source :: rest, true => finish (rest.head?.getD self.name) (rest.drop 1) true source
    | [], true =>
      discard (Job.write self.pid 2
        (self.name ++ (if bash then ": -c: option requires an argument\n"
          else ": 0: -c requires an argument\n").toList))
      return 2
    | path :: rest, false =>
      if call.readsInput then
        finish self.name (path :: rest) false
          ((← Job.readAll self.pid 0 patience []).toOption.getD [])
      else
        let found ← Job.look fun w =>
          if path = "/dev/null".toList then .ok []
          else ((w.diskFrom self.dir).readFile (Tool.pathOf path)).map Octets.ofBytes
        let onPath ← if path.contains '/' || !bash then pure Found.nothing
          else Job.look fun w => findProgram w self.dir (self.environment.lookup "PATH".toList) path
        match found, onPath with
        | .ok source, _ => finish path rest false source
        | .error .notFound, .program tool =>
          let place := "/usr/bin/".toList ++ tool ++ ": ".toList
          discard (Job.write self.pid 2 (place ++ place ++ "cannot execute binary file\n".toList))
          return 126
        | .error .isDirectory, _ =>
          -- one shell finds nothing in a directory, and the other minds
          if !bash then return 0
          discard (Job.write self.pid 2 (path ++ ": ".toList ++ path ++ ": Is a directory\n".toList))
          return 126
        | .error e, _ =>
          discard (Job.write self.pid 2 (self.name ++ ": ".toList ++
            if bash then path ++ ": ".toList ++ e.cause.toList ++ ['\n']
            else "0: cannot open ".toList ++ path ++ ": ".toList ++
              (if e = .notFound || e = .notDirectory then "No such file" else e.cause).toList ++ ['\n']))
          return if bash then 127 else 2
    | [], false =>
      finish self.name [] false ((← Job.readAll self.pid 0 patience []).toOption.getD [])

end

end Foreman.Shell
