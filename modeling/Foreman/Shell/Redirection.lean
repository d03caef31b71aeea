import Foreman.Shell.Builtin

/-! Processes of a shell and their descriptors: starting one, waiting for it, and redirecting it. -/

namespace Foreman.Shell

def pipeDescriptor : Nat := 250

def captureDescriptor : Nat := 251

def State.forked (s : State) (pid : Pid) : State :=
  { s with
    pid
    children := []
    traps := s.traps.filter (·.2.isEmpty)
    loops := 0 }

/-- A process that runs a part of a script. -/
def courseOf (m : ShellM Nat) (s : State) (pid : Pid) : Course :=
  m (s.forked pid) fun (r, s) => match r with
    | .ok status => .stop (.exited status)
    | .error (.exit status) | .error (.leaveFunction status) => .stop (.exited status)
    | .error _ => .stop (.exited s.status)

def arrangeNothing (_ : Pid) (w : World) : World := w

def fork (arrange : Pid → World → World) (m : ShellM Nat) : ShellM Pid := do
  let s ← get
  ShellM.ofJob (Job.spawn arrange (courseOf m s))

/-- Waits for a process in the foreground. Of a process that was killed `sh` says so; `bash` does the same for
the kindest signal, if the process is the `last` of its pipeline. -/
def awaitForeground (pid : Pid) (last : Bool := true) : ShellM Nat := do
  let e ← ShellM.ofJob (Job.await fun w => match w.process? pid with
    | none => some (.exited 127, w)
    | some p => p.ending.map fun e => (e, w))
  let s ← get
  if !s.bash || (last && e = .killed 15) then
    if let some text := Builtin.obituary e then discard (emit 2 (text.toList ++ ['\n']))
  return Builtin.statusOf e

def keepingDescriptors {α : Type} (m : ShellM α) : ShellM α := do
  let s ← get
  let old ← ShellM.look fun w => w.descriptors s.pid
  let restore : ShellM Unit :=
    ShellM.change fun w => w.updateProcess s.pid fun p => { p with descriptors := old }
  try
    let a ← m
    restore
    return a
  catch flow =>
    restore
    throw flow

def openFault (bash : Bool) (path : Octets) (m : World.Mode) (e : DiskError) : Octets :=
  if bash then path ++ ": ".toList ++ e.cause.toList
  else
    let missing := e = .notFound || e = .notDirectory
    if m = .read then
      "cannot open ".toList ++ path ++ ": ".toList ++ (if missing then "No such file" else e.cause).toList
    else
      "cannot create ".toList ++ path ++ ": ".toList ++
        (if missing then "Directory nonexistent" else e.cause).toList

def openOn (fd : Nat) (path : Octets) (m : World.Mode) : ShellM Bool := do
  let s ← get
  let fault ← ShellM.exchange fun w => match w.openPath s.pid s.dir path m with
    | .ok (n, w) => (none, w.setDescriptor s.pid fd n)
    | .error e => (some e, w)
  match fault with
  | none => return true
  | some e =>
    complain (openFault s.bash path m e)
    return false

def duplicateOn (fd source : Nat) : ShellM Bool := do
  let s ← get
  let isOpen ← ShellM.exchange fun w => match (w.descriptors s.pid).lookup source with
    | some n => (true, w.setDescriptor s.pid fd n)
    | none => (false, w)
  unless isOpen do complain (Octets.ofNat source ++ ": Bad file descriptor".toList)
  return isOpen

def redirect (run : Tree → ShellM Octets) : List Redirect → ShellM Bool
  | [] => return true
  | r :: rs => do
    let s ← get
    let done ← match r with
      | .input fd path => openOn fd (← expandText run path) .read
      | .output fd path => openOn fd (← expandText run path) .write
      | .append fd path => openOn fd (← expandText run path) .append
      | .both fd path => openOn fd (← expandText run path) .readWrite
      | .outputAndErrors appending path => do
        if ← openOn 1 (← expandText run path) (if appending then .append else .write) then duplicateOn 2 1
        else pure false
      | .here fd content => do
        let o ← expandText run content
        ShellM.change fun w =>
          let ((source, _), w) := w.addPipe none
          let pipe := match w.opened.lookup source with
            | some { target := .pipe n, .. } => n
            | _ => source
          let w := { w with pipes := World.update w.pipes pipe fun p => { p with content := o } }
          w.setDescriptor s.pid fd source
        pure true
      | .duplicate fd source => do
        let o ← expandText run source
        if o = ['-'] then
          ShellM.change fun w => w.closeDescriptor s.pid fd
          pure true
        else match Octets.nat? o with
          | some n => duplicateOn fd n
          | none =>
            if s.bash && fd = 1 then
              if ← openOn 1 o .write then duplicateOn 2 1 else pure false
            else
              complain (if s.bash then o ++ ": ambiguous redirect".toList
                else "Syntax error: Bad fd number".toList)
              pure false
    if done then redirect run rs else return false

def redirectFailure (s : State) : Nat := if s.bash then 1 else 2

end Foreman.Shell
