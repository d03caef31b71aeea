import Foreman.Command.Bench
import Foreman.Shell.Launch

/-! Commands that are carried out to their end, with nobody watching. -/

namespace Foreman

open Shell

namespace Executor

def launch (ours : Variables) (i : Invocation) (d : Disk) : Launch × Disk :=
  match Running.start d 0 ours i with
  | .error e => (.refused e, d)
  | .ok r =>
    let r := r.finish
    (.ended r.main r.remains, r.world.disk)

/-- Carries out a command that is halted, with all that it has started, as soon as a mark stands on the
disk. The last part is the leader of the group that was halted, as its slot tells. -/
def runUntilMarked (ours : Variables) (i : Invocation) (mark : Path) (d : Disk) :
    (Except RunError Execution × Executor) × Option Nat :=
  match Running.start d 0 ours i with
  | .error e => (conclude i (.error e), none)
  | .ok r =>
    let r := r.runUntil (fun r => r.isOver || (r.world.disk.find mark).isOk) Running.moments
    if r.isOver then (conclude i (.ok r.remains), none)
    else (conclude i (.ok r.kill.finish.remains), i.slot.bind (Bench.enter {} ⟨⟨0⟩⟩ i (some r.main)).slots)

def calls (ours : Variables) (x : Handle) : List Invocation → Disk → List Bench.Call × Disk
  | [], d => ([], d)
  | i :: is, d =>
    let (l, d) := launch ours i d
    let (more, d) := calls ours x is d
    (⟨x, i, l⟩ :: more, d)

def runAll (ours : Variables) (is : List Invocation) (d : Disk) :
    List (Except RunError Execution × Executor) × Disk :=
  let x : Handle := ⟨⟨0⟩⟩
  let (calls, d) := calls ours x is d
  ((Bench.serveAll {} calls).map fun t => (t.answer, t.after.executors x.executor), d)

end Executor
end Foreman
