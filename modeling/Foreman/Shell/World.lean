import Foreman.Command.Execution
import Foreman.Shell.Octets

/-! What processes share: the files, open files, pipes, signals and each other. -/

namespace Foreman.Shell

abbrev Pid := Nat

abbrev Signal := Nat

inductive Target where
  | file (id : FileId)
  | directory
  | pipe (n : Nat)
  | nowhere
  | zeros
  | full
  deriving DecidableEq

/-- An open file. Those who share it share the offset. -/
structure Opened where
  target : Target
  readable : Bool
  writable : Bool
  appending : Bool := false
  offset : Nat := 0

structure Pipe where
  content : Octets := []
  capacity : Option Nat := some 65536

structure Process where
  parent : Pid
  group : Pid
  descriptors : List (Nat × Nat) := []
  ending : Option Ending := none
  ignored : List Signal := []
  caught : List Signal := []
  pending : List Signal := []

structure World where
  disk : Disk := {}
  now : Nat := 0
  processes : List (Pid × Process) := []
  opened : List (Nat × Opened) := []
  pipes : List (Nat × Pipe) := []
  runnable : List FileId := []
  nextPid : Pid := 4100
  nextNumber : Nat := 0
  program : Pid := 4000
  interrupted : Bool := false

namespace World

def process? (w : World) (pid : Pid) : Option Process := w.processes.lookup pid

def update {α : Type} (xs : List (Nat × α)) (n : Nat) (f : α → α) : List (Nat × α) :=
  xs.map fun x => if x.1 = n then (n, f x.2) else x

def updateProcess (w : World) (pid : Pid) (f : Process → Process) : World :=
  { w with processes := update w.processes pid f }

def isRunning (p : Process) : Bool := p.ending.isNone

def descriptors (w : World) (pid : Pid) : List (Nat × Nat) :=
  ((w.process? pid).map (·.descriptors)).getD []

def behind? (w : World) (pid : Pid) (fd : Nat) : Option (Nat × Opened) := do
  let n ← (w.descriptors pid).lookup fd
  return (n, ← w.opened.lookup n)

def setDescriptor (w : World) (pid : Pid) (fd number : Nat) : World :=
  w.updateProcess pid fun p =>
    { p with descriptors := (fd, number) :: p.descriptors.filter (·.1 ≠ fd) }

def closeDescriptor (w : World) (pid : Pid) (fd : Nat) : World :=
  w.updateProcess pid fun p => { p with descriptors := p.descriptors.filter (·.1 ≠ fd) }

def addOpened (w : World) (o : Opened) : Nat × World :=
  (w.nextNumber,
    { w with opened := (w.nextNumber, o) :: w.opened, nextNumber := w.nextNumber + 1 })

def addPipe (w : World) (capacity : Option Nat) : (Nat × Nat) × World :=
  let n := w.nextNumber
  let w := { w with pipes := (n, { capacity }) :: w.pipes, nextNumber := n + 1 }
  let (source, w) := w.addOpened { target := .pipe n, readable := true, writable := false }
  let (sink, w) := w.addOpened { target := .pipe n, readable := false, writable := true }
  ((source, sink), w)

def isHeld (w : World) (wanted : Opened → Bool) : Bool :=
  w.processes.any fun x => isRunning x.2 && x.2.descriptors.any fun d =>
    (w.opened.lookup d.2).any wanted

def hasReader (w : World) (pipe : Nat) : Bool :=
  w.isHeld fun o => o.readable && decide (o.target = .pipe pipe)

def hasWriter (w : World) (pipe : Nat) : Bool :=
  w.isHeld fun o => o.writable && decide (o.target = .pipe pipe)

def pipe (w : World) (n : Nat) : Pipe := (w.pipes.lookup n).getD {}

/-- Bytes put over others from an offset on. What lies between is filled with zeros. -/
def overwrite (content : Bytes) (offset : Nat) (data : Bytes) : Bytes :=
  Disk.resize offset content ++ data ++ content.drop (offset + data.length)

inductive Written where
  | done (w : World)
  | blocked
  | refused (cause : DiskError)
  | broken
  | badDescriptor
  | noSpace

def write (w : World) (pid : Pid) (fd : Nat) (data : Octets) : Written :=
  match w.behind? pid fd with
  | none => .badDescriptor
  | some (n, o) =>
    if !o.writable then .badDescriptor
    else match o.target with
      | .nowhere | .zeros => .done w
      | .full => if data.isEmpty then .done w else .noSpace
      | .directory => .refused .isDirectory
      | .file id =>
        let content := w.disk.content id
        let start := if o.appending then content.length else o.offset
        let bytes := Octets.toBytes data
        let o := { o with offset := start + bytes.length }
        .done { w with
          disk := if bytes.isEmpty then w.disk
            else w.disk.setContent id (overwrite content start bytes)
          opened := update w.opened n fun _ => o }
      | .pipe p =>
        if !w.hasReader p then .broken
        else
          let content := (w.pipe p).content
          if (w.pipe p).capacity.any (· ≤ content.length) then .blocked
          else .done { w with
            pipes := update w.pipes p fun q => { q with content := content ++ data } }

inductive Taken where
  /-- No characters stand for the end. -/
  | data (o : Octets) (w : World)
  | blocked
  | refused (cause : DiskError)
  | badDescriptor

def read (w : World) (pid : Pid) (fd length : Nat) : Taken :=
  match w.behind? pid fd with
  | none => .badDescriptor
  | some (n, o) =>
    if !o.readable then .badDescriptor
    else match o.target with
      | .nowhere | .full => .data [] w
      | .zeros => .data (List.replicate length '\x00') w
      | .directory => .refused .isDirectory
      | .file id =>
        let data := ((w.disk.content id).drop o.offset).take length
        .data (Octets.ofBytes data)
          { w with opened := update w.opened n fun o => { o with offset := o.offset + data.length } }
      | .pipe p =>
        let content := (w.pipe p).content
        if content.isEmpty then if w.hasWriter p then .blocked else .data [] w
        else .data (content.take length)
          { w with pipes := update w.pipes p fun q => { q with content := content.drop length } }

/-! ### Paths -/

def diskFrom (w : World) (dir : Location) : Disk := { w.disk with home := dir }

def withDisk (w : World) (d : Disk) : World := { w with disk := { d with home := w.disk.home } }

inductive Mode where
  | read
  | write
  | append
  | readWrite
  deriving DecidableEq

def descriptorOf? (path : Octets) : Option Nat :=
  if path = "/dev/stdin".toList then some 0
  else if path = "/dev/stdout".toList then some 1
  else if path = "/dev/stderr".toList then some 2
  else if "/dev/fd/".toList.isPrefixOf path then Octets.nat? (path.drop 8)
  else none

def deviceOf? (path : Octets) : Option Target :=
  if path = "/dev/null".toList || path = "/dev/tty".toList then some .nowhere
  else if path = "/dev/zero".toList then some .zeros
  else if path = "/dev/full".toList then some .full
  else none

def access (m : Mode) (target : Target) : Opened :=
  { target, readable := m == .read || m == .readWrite, writable := m != .read
    appending := m == .append }

def openPath (w : World) (pid : Pid) (dir : Location) (path : Octets) (m : Mode) :
    Except DiskError (Nat × World) :=
  match descriptorOf? path, deviceOf? path with
  | some fd, _ => match w.behind? pid fd with
    | some (n, _) => .ok (n, w)
    | none => .error .notFound
  | none, some target => .ok (w.addOpened (access m target))
  | none, none =>
    let d := w.diskFrom dir
    let p : Path := ⟨Octets.text path⟩
    if m = .read then
      match d.find p with
      | .error e => .error e
      | .ok .directory => .ok (w.addOpened (access m .directory))
      | .ok (.file id) => .ok (w.addOpened (access m (.file id)))
    else match d.openOrCreate p with
      | .error e => .error e
      | .ok (id, d) =>
        let d := if m = .write then d.setContent id [] else d
        .ok ((w.withDisk d).addOpened (access m (.file id)))

/-! ### Processes and signals -/

def addProcess (w : World) (parent : Pid) : Pid × World :=
  let p : Process := match w.process? parent with
    | some q => { parent, group := q.group, descriptors := q.descriptors, ignored := q.ignored }
    | none => { parent, group := parent }
  (w.nextPid, { w with processes := (w.nextPid, p) :: w.processes, nextPid := w.nextPid + 1 })

def finish (w : World) (pid : Pid) (e : Ending) : World :=
  w.updateProcess pid fun p =>
    if isRunning p then { p with ending := some e, descriptors := [], pending := [] } else p

def isHarmless (s : Signal) : Bool := s = 17 || s = 18 || s = 23 || s = 28

def deliver (w : World) (s : Signal) (pid : Pid) : World :=
  match w.process? pid with
  | none => w
  | some p =>
    if !isRunning p || s = 0 then w
    else if pid = w.program then if s = 2 then { w with interrupted := true } else w
    else if s = 9 then w.finish pid (.killed s)
    else if p.ignored.contains s then w
    else if p.caught.contains s then
      w.updateProcess pid fun p =>
        { p with pending := if p.pending.contains s then p.pending else p.pending ++ [s] }
    else if isHarmless s then w
    else w.finish pid (.killed s)

/-- Whom a number means: one process, or the group that a negative number names. -/
def meant (w : World) (sender : Pid) (target : Int) : List Pid :=
  let group := if target = 0 then ((w.process? sender).map (·.group)).getD 0 else target.natAbs
  if target > 0 then
    if (w.process? target.toNat).isSome then [target.toNat] else []
  else (w.processes.filter fun x => isRunning x.2 && x.2.group = group).map (·.1)

end World
end Foreman.Shell
