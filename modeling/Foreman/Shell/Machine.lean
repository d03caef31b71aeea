import Foreman.Shell.Course

/-! Processes side by side. All that can be done at one moment is done before time goes on. -/

namespace Foreman.Shell

structure Machine where
  world : World
  tasks : List (Pid × Course) := []
  busy : Bool := false

namespace Machine

structure Turn where
  world : World
  task : Option (Pid × Course)
  started : List (Pid × Course) := []
  progress : Bool := false

/-- Lets one process act until it has to wait, at most a number of times. -/
def advance (pid : Pid) : Nat → Course → Turn → Turn
  | 0, c, t => { t with task := some (pid, c) }
  | n + 1, c, t =>
    if !(t.world.process? pid).any World.isRunning then { t with task := none, progress := true }
    else match c with
      | .stop e => { t with world := t.world.finish pid e, task := none, progress := true }
      | .act f =>
        let (w, c) := f t.world
        advance pid n c { t with world := w, progress := true }
      | .await f => match f t.world with
        | some (w, c) => advance pid n c { t with world := w, progress := true }
        | none => { t with task := some (pid, c) }
      | .rest wake next =>
        if wake ≤ t.world.now then advance pid n (next ()) { t with progress := true }
        else { t with task := some (pid, c) }
      | .spawn arrange child next =>
        let (new, w) := t.world.addProcess pid
        let w := arrange new w
        advance pid n (next new)
          { t with world := w, started := t.started ++ [(new, child new)], progress := true }

def slice : Nat := 256

def round (m : Machine) : Bool × Machine :=
  let (w, tasks, progress) := m.tasks.foldl
    (fun (w, tasks, progress) (pid, c) =>
      let t := advance pid slice c { world := w, task := none }
      (t.world, tasks ++ t.task.toList ++ t.started, progress || t.progress))
    (m.world, [], false)
  (progress, { m with world := w, tasks })

def settleWithin : Nat → Machine → Machine
  | 0, m => { m with busy := true }
  | n + 1, m => match m.round with
    | (true, m) => settleWithin n m
    | (false, m) => { m with busy := false }

def settle (m : Machine) : Machine := m.settleWithin 4096

def breath : Nat := 10000000

def nextWake (m : Machine) : Option Nat :=
  if m.busy then some (m.world.now + breath)
  else
    let wakes := m.tasks.filterMap fun x => match x.2 with
      | .rest wake _ => some wake
      | _ => none
    wakes.min?

def wake (m : Machine) (now : Nat) : Machine :=
  { m with world := { m.world with now := max m.world.now now } }

end Machine
end Foreman.Shell
