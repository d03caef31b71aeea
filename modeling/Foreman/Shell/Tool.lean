import Foreman.Shell.Course

/-! What the tools that scripts call have in common. -/

namespace Foreman.Shell

structure Self where
  pid : Pid
  name : Octets
  dir : Location
  environment : List (Octets × Octets) := []

abbrev Tool := Self → List Octets → Job Nat

namespace Self

def say (self : Self) (o : Octets) : Job Unit := discard (Job.write self.pid 1 o)

def warn (self : Self) (message : Octets) : Job Unit :=
  discard (Job.write self.pid 2 (self.name ++ ": ".toList ++ message ++ ['\n']))

def quote (o : Octets) : Octets := '\'' :: o ++ ['\'']

def hint (self : Self) : Job Unit :=
  discard (Job.write self.pid 2
    ("Try '".toList ++ self.name ++ " --help' for more information.\n".toList))

def missingOperand (self : Self) (status : Nat) : Job Nat := do
  self.warn "missing operand".toList
  self.hint
  return status

def invalidOption (self : Self) (status : Nat) (c : Char) : Job Nat := do
  self.warn ("invalid option -- '".toList ++ c :: ['\''])
  self.hint
  return status

def scratchDescriptor : Nat := 200

def openFile (self : Self) (path : Octets) (m : World.Mode) : Job (Option DiskError) :=
  Job.exchange fun w => match w.openPath self.pid self.dir path m with
    | .ok (n, w) => (none, w.setDescriptor self.pid scratchDescriptor n)
    | .error e => (some e, w)

def closeFile (self : Self) : Job Unit :=
  Job.change fun w => w.closeDescriptor self.pid scratchDescriptor

def sip (self : Self) (enough : Octets → Bool) (path : Octets) : Job (Except String Octets) := do
  if path = ['-'] then Job.readUntil enough self.pid 0 patience []
  else match ← self.openFile path .read with
    | some e => return .error e.cause
    | none =>
      let content ← Job.readUntil enough self.pid scratchDescriptor patience []
      self.closeFile
      return content

def slurp (self : Self) (path : Octets) : Job (Except String Octets) := self.sip (fun _ => false) path

def spill (self : Self) (path : Octets) (m : World.Mode) (o : Octets) : Job (Option String) := do
  match ← self.openFile path m with
  | some e => return some e.cause
  | none =>
    let fault ← Job.write self.pid scratchDescriptor o
    self.closeFile
    return fault

/-- Does something with the contents of files, or of the input where none is named. A file that cannot be
read counts as a failure and the others are still read. -/
def eachFile (self : Self) (paths : List Octets) (failure : Nat)
    (f : Octets → Octets → Job Nat) : Job Nat := do
  let mut status := 0
  for path in if paths.isEmpty then [['-']] else paths do
    match ← self.slurp path with
    | .error cause =>
      self.warn (path ++ ": ".toList ++ cause.toList)
      status := failure
    | .ok content =>
      let s ← f path content
      status := max status s
  return status

def onDisk {α : Type} (self : Self) (f : Disk → α × Disk) : Job α := Job.exchange fun w =>
  let (a, d) := f (w.diskFrom self.dir)
  (a, w.withDisk d)

def lookDisk {α : Type} (self : Self) (f : Disk → α) : Job α := Job.look fun w =>
  f (w.diskFrom self.dir)

end Self

structure OptionSet where
  letters : List (Char × Octets) := []
  operands : List Octets := []
  unknown : Option Char := none

namespace OptionSet

def has (o : OptionSet) (c : Char) : Bool := o.letters.any (·.1 = c)

def value? (o : OptionSet) (c : Char) : Option Octets :=
  ((o.letters.filter (·.1 = c)).getLast?).map (·.2)

/-- The letters of one cluster. `known` lists all options, `valued` those that take a value. -/
def cluster (known valued : String) : Octets → List Octets → OptionSet → List Octets × OptionSet
  | [], args, found => (args, found)
  | c :: cs, args, found =>
    if valued.toList.contains c then
      let (value, args) := if cs.isEmpty then (args.head?.getD [], args.drop 1) else (cs, args)
      (args, { found with letters := found.letters ++ [(c, value)] })
    else if known.toList.contains c then
      cluster known valued cs args { found with letters := found.letters ++ [(c, [])] }
    else (args, { found with unknown := found.unknown.or (some c) })

/-- Sorts arguments into options and operands. Operands may stand before options. -/
def read (known valued : String) : Nat → List Octets → OptionSet → OptionSet
  | 0, _, found => found
  | _, [], found => found
  | n + 1, a :: args, found =>
    if a = "--".toList then { found with operands := found.operands ++ args }
    else match a with
      | '-' :: '-' :: long =>
        read known valued n args { found with letters := found.letters ++ [('-', long)] }
      | '-' :: c :: cs =>
        let (args, found) := cluster known valued (c :: cs) args found
        read known valued n args found
      | a => read known valued n args { found with operands := found.operands ++ [a] }

end OptionSet

def leadingOptions (known valued : String) (args : List Octets) : OptionSet × List Octets :=
  go (args.length + 1) args {}
where
  go : Nat → List Octets → OptionSet → OptionSet × List Octets
    | n + 1, ('-' :: c :: cs) :: args, found =>
      if c :: cs = ['-'] then (found, args)
      else if c = '-' then go n args found
      else
        let (args, found) := OptionSet.cluster known valued (c :: cs) args found
        go n args found
    | _, args, found => (found, args)

def options (known valued : String) (args : List Octets) : OptionSet :=
  OptionSet.read known valued (args.length + 1) args {}

end Foreman.Shell
