import Foreman.Command.Invocation
import Foreman.Shell.Machine
import Foreman.Shell.Running

/-! Command lines as processes: how they are started, and when they are over. -/

namespace Foreman.Shell

structure Running where
  machine : Machine
  main : Pid
  output : Nat
  errors : Nat

namespace Running

def lineLimit : Nat := 131072

def budget : Nat := 100000000

def environmentOf (ours : Variables) : EnvPolicy → Variables
  | .inherit => ours
  | .extend vars => (ours.filter fun x => (vars.lookup x.1).isNone) ++ vars
  | .replace vars => vars

def hasNul (s : String) : Bool := s.toList.contains '\x00'

def pipeOf (w : World) (number : Nat) : Nat :=
  match w.opened.lookup number with
  | some { target := .pipe n, .. } => n
  | _ => number

def directoryOf (d : Disk) : Option Path → Except DiskError Location
  | none => .ok d.home
  | some p => match d.locate p with
    | .error e => .error e
    | .ok l => match d.entry? l with
      | none => .error .notFound
      | some (.file _) => .error .notDirectory
      | some .directory => .ok l

def start (disk : Disk) (now : Nat) (ours : Variables) (i : Invocation) : Except DiskError Running :=
  let line := i.commandLine
  let vars := (environmentOf ours i.env).map fun x => x.1 ++ "=" ++ x.2
  let dirText := (i.workingDir.map (·.text)).getD ""
  if hasNul line || vars.any hasNul || hasNul dirText then .error .nulInCommand
  else match directoryOf disk i.workingDir with
    | .error e => .error e
    | .ok dir =>
      let environment := vars.map fun v =>
        let (name, value) := Builtin.binding (Octets.ofText v)
        (name, value.getD [])
      let w : World := { disk, now }
      match findProgram w dir (environment.lookup "PATH".toList) "sh".toList with
      | .program _ =>
        if lineLimit ≤ line.utf8ByteSize || vars.any (lineLimit ≤ ·.utf8ByteSize) then
          .error .argumentsTooLong
        else
          let w := { w with processes := [(w.program, { parent := 1, group := w.program })] }
          let ((outSource, outSink), w) := w.addPipe none
          let ((errSource, errSink), w) := w.addPipe none
          let (null, w) := w.addOpened (World.access .read .nowhere)
          let (main, w) := w.addProcess w.program
          let w := w.updateProcess w.program fun p =>
            { p with descriptors := [(0, outSource), (1, errSource)] }
          let w := w.updateProcess main fun p =>
            { p with group := main, descriptors := [(0, null), (1, outSink), (2, errSink)] }
          let self : Self := { pid := main, name := ['s', 'h'], dir, environment }
          let course := shell budget false self [['-', 'c'], Octets.ofText line] fun status =>
            .stop (.exited status)
          .ok {
            machine := { world := w, tasks := [(main, course)] }
            main
            output := pipeOf w outSource
            errors := pipeOf w errSource }
      | .notRunnable => .error .permissionDenied
      | _ => .error .notFound

def world (r : Running) : World := r.machine.world

def isOver (r : Running) : Bool :=
  !(r.world.process? r.main).any World.isRunning &&
    !r.world.hasWriter r.output && !r.world.hasWriter r.errors

def remains (r : Running) : Remains :=
  { ending := ((r.world.process? r.main).bind (·.ending)).getD (.killed 9)
    stdout := Octets.toBytes (r.world.pipe r.output).content
    stderr := Octets.toBytes (r.world.pipe r.errors).content }

def settle (r : Running) : Running := { r with machine := r.machine.settle }

def nextWake (r : Running) : Option Nat := r.machine.nextWake

def wake (r : Running) (now : Nat) : Running := { r with machine := r.machine.wake now }

def kill (r : Running) : Running :=
  let w := r.world
  let members := w.meant w.program (-(r.main : Int))
  { r with machine := { r.machine with world := members.foldl (fun w pid => w.deliver 9 pid) w } }

/-- Goes on from moment to moment until a condition holds, or until nothing more can happen. -/
def runUntil (done : Running → Bool) : Nat → Running → Running
  | 0, r => r
  | n + 1, r =>
    let r := r.settle
    if done r then r
    else match r.nextWake with
      | some t => runUntil done n (r.wake t)
      | none => r

def moments : Nat := 100000

def finish (r : Running) : Running := r.runUntil isOver moments

end Running
end Foreman.Shell
