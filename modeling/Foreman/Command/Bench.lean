import Foreman.Command.Execution

/-! Executors at work. An executor and its clones share the mark of the last error, and a running process can be
published in a slot, where others find it. -/

namespace Foreman

structure ExecutorId where
  number : Nat
  deriving DecidableEq, Repr

/-- What callers hold of an executor. -/
structure Handle where
  executor : ExecutorId
  deriving DecidableEq, Repr

def Handle.clone (x : Handle) : Handle := ⟨x.executor⟩

inductive Launch where
  | refused (cause : DiskError)
  /-- A process came up, but nobody could wait for its end. -/
  | lost (pid : Nat) (cause : DiskError)
  | ended (pid : Nat) (remains : Remains)
  deriving DecidableEq, Repr

namespace Launch

def pid? : Launch → Option Nat
  | .refused _ => none
  | .lost pid _ | .ended pid _ => some pid

def outcome : Launch → Except DiskError Remains
  | .refused cause | .lost _ cause => .error cause
  | .ended _ remains => .ok remains

end Launch

structure Bench where
  executors : ExecutorId → Executor := fun _ => {}
  slots : SlotId → Option Nat := fun _ => none

namespace Bench

def lastError (b : Bench) (x : Handle) : Option String := (b.executors x.executor).lastError

def mark (b : Bench) (x : Handle) (failure : Option String) : Bench :=
  { b with executors := fun e => if e = x.executor then ⟨failure⟩ else b.executors e }

def publish (b : Bench) (slot : Option SlotId) (pid : Option Nat) : Bench :=
  match slot with
  | none => b
  | some slot => { b with slots := fun s => if s = slot then pid else b.slots s }

/-- A call begins: the mark is taken away, and a process that comes up is published. -/
def enter (b : Bench) (x : Handle) (i : Invocation) (pid : Option Nat) : Bench :=
  match pid with
  | none => b.mark x none
  | some pid => (b.mark x none).publish i.slot (some pid)

def withdraw (b : Bench) (i : Invocation) (pid : Option Nat) : Bench :=
  match pid with
  | none => b
  | some _ => b.publish i.slot none

def report (b : Bench) (x : Handle) (failure : Option String) : Bench :=
  match failure with
  | none => b
  | some failure => b.mark x (some failure)

/-- A call ends. A failure is marked whether or not it counts as an error. -/
def leave (b : Bench) (x : Handle) (i : Invocation) (l : Launch) : Except RunError Execution × Bench :=
  let (answer, executor) := Executor.conclude i l.outcome
  (answer, (b.withdraw i l.pid?).report x executor.lastError)

def call (b : Bench) (x : Handle) (i : Invocation) (l : Launch) : Except RunError Execution × Bench :=
  (b.enter x i l.pid?).leave x i l

structure Call where
  handle : Handle
  what : Invocation
  launch : Launch
  deriving DecidableEq, Repr

structure Served where
  call : Call
  before : Bench
  answer : Except RunError Execution
  after : Bench

def serve (b : Bench) (c : Call) : Served :=
  let (answer, after) := b.call c.handle c.what c.launch
  { call := c, before := b, answer, after }

def serveAll (b : Bench) : List Call → List Served
  | [] => []
  | c :: calls =>
    let t := b.serve c
    t :: t.after.serveAll calls

end Bench
end Foreman
