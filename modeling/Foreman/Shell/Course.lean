import Foreman.Shell.World

/-! What processes do, action by action, and what a process can ask of the world. -/

namespace Foreman.Shell

inductive Course where
  | stop (e : Ending)
  | act (f : World → World × Course)
  /-- Tried again until it is possible. -/
  | await (f : World → Option (World × Course))
  | rest (wake : Nat) (next : Unit → Course)
  /-- A new process starts with the descriptors of this one, set in order before it does anything. -/
  | spawn (arrange : Pid → World → World) (child : Pid → Course) (next : Pid → Course)

/-- A part of what a process does, which comes to a value. -/
def Job (α : Type) : Type := (α → Course) → Course

namespace Job

instance : Monad Job where
  pure a := fun k => k a
  bind x f := fun k => x fun a => f a k

variable {α : Type}

def look (f : World → α) : Job α := fun k => .act fun w => (w, k (f w))

def change (f : World → World) : Job Unit := fun k => .act fun w => (f w, k ())

def exchange (f : World → α × World) : Job α := fun k => .act fun w =>
  let (a, w) := f w
  (w, k a)

def await (f : World → Option (α × World)) : Job α := fun k => .await fun w =>
  (f w).map fun (a, w) => (w, k a)

def stop (e : Ending) : Job α := fun _ => .stop e

def restUntil (wake : Nat) : Job Unit := fun k => .rest wake k

def now : Job Nat := look (·.now)

def spawn (arrange : Pid → World → World) (child : Pid → Course) : Job Pid := fun k =>
  .spawn arrange child k

/-- Writes all of a text; an error tells why not. Who writes where nobody will ever read is ended. -/
def write (pid : Pid) (fd : Nat) (data : Octets) : Job (Option String) := fun k =>
  if data.isEmpty then k none
  else .await fun w => match w.write pid fd data with
    | .done w => some (w, k none)
    | .blocked => none
    | .refused e => some (w, k (some e.cause))
    | .badDescriptor => some (w, k (some "Bad file descriptor"))
    | .noSpace => some (w, k (some "No space left on device"))
    | .broken =>
      if (w.process? pid).any (·.ignored.contains 13) then some (w, k (some "Broken pipe"))
      else some (w, .stop (.killed 13))

/-- Reads what there is, up to a length, waiting for something; nothing stands for the end. -/
def read (pid : Pid) (fd length : Nat) : Job (Except String Octets) := await fun w =>
  match w.read pid fd length with
  | .data o w => some (.ok o, w)
  | .blocked => none
  | .refused e => some (.error e.cause, w)
  | .badDescriptor => some (.error "Bad file descriptor", w)

def readUntil (enough : Octets → Bool) (pid : Pid) (fd : Nat) :
    Nat → Octets → Job (Except String Octets)
  | 0, found => return .ok found
  | n + 1, found => do
    if enough found then return .ok found
    match ← read pid fd 65536 with
    | .error e => return .error e
    | .ok [] => return .ok found
    | .ok data => readUntil enough pid fd n (found ++ data)

def readAll (pid : Pid) (fd : Nat) : Nat → Octets → Job (Except String Octets) :=
  readUntil (fun _ => false) pid fd

def readLine (pid : Pid) (fd : Nat) : Nat → Octets → Job (Octets × Bool)
  | 0, found => return (found.reverse, false)
  | n + 1, found => do
    match ← read pid fd 1 with
    | .ok ['\n'] => return (found.reverse, true)
    | .ok [c] => readLine pid fd n (c :: found)
    | _ => return (found.reverse, false)

end Job

def patience : Nat := 1000000

end Foreman.Shell
