import Foreman.Disk.Change
import Foreman.Shell.Tool

/-! Tools that make, remove and list files. -/

namespace Foreman.Shell.Tool

def pathOf (o : Octets) : Path := ⟨Octets.text o⟩

def sorted (names : List Octets) : List Octets := names.mergeSort Octets.upTo

def baseName (o : Octets) : Octets :=
  let trimmed := (o.reverse.dropWhile (· = '/')).reverse
  if trimmed.isEmpty then if o.isEmpty then [] else ['/']
  else (trimmed.reverse.takeWhile (· ≠ '/')).reverse

def dirName (o : Octets) : Octets :=
  let trimmed := (o.reverse.dropWhile (· = '/')).reverse
  if trimmed.isEmpty then if o.isEmpty then ['.'] else ['/']
  else
    let above := (trimmed.reverse.dropWhile (· ≠ '/')).dropWhile (· = '/')
    if above.isEmpty then if trimmed.head? = some '/' then ['/'] else ['.'] else above.reverse

def inside (dir name : Octets) : Octets :=
  if dir.getLast? = some '/' then dir ++ name else dir ++ '/' :: name

def touch : Tool := fun self args => do
  let o := options "acm" "drt" args
  if let some c := o.unknown then return ← self.invalidOption 1 c
  if o.operands.isEmpty then
    self.warn "missing file operand".toList
    self.hint
    return 1
  let mut status := 0
  for path in o.operands do
    let fault ← self.onDisk fun d =>
      if d.isDirectory (pathOf path) then (none, d)
      else if o.has 'c' then (none, d)
      else match d.openOrCreate (pathOf path) with
        | .ok (_, d) => (none, d)
        | .error e => (some e, d)
    if let some e := fault then
      if (World.deviceOf? path).isNone then
        match e, ← self.lookDisk (·.find (pathOf path)) with
        | .isDirectory, .error e =>
          self.warn ("setting times of ".toList ++ Self.quote path ++ ": ".toList ++ e.cause.toList)
        | e, _ =>
          self.warn ("cannot touch ".toList ++ Self.quote path ++ ": ".toList ++ e.cause.toList)
        status := 1
  return status

def withoutSlashes (path : Octets) : Octets :=
  match (path.reverse.dropWhile (· = '/')).reverse with
  | [] => path
  | path => path

def beginnings (path : Octets) : List Octets :=
  (List.range path.length).filterMap fun i =>
    if 0 < i && path[i]? = some '/' && path[i - 1]? ≠ some '/' then some (path.take i) else none

/-- The file that stands in the way of directories. -/
def blockedBy (d : Disk) (path : Octets) : Option Octets :=
  (beginnings (withoutSlashes path)).find? fun p => match d.find (pathOf p) with
    | .ok (.file _) => true
    | _ => false

def makeDirectories : Tool := fun self args => do
  let o := options "pv" "m" args
  if let some c := o.unknown then return ← self.invalidOption 1 c
  if o.operands.isEmpty then return ← self.missingOperand 1
  let mut status := 0
  for path in o.operands do
    let fault ← self.onDisk fun d =>
      if o.has 'p' then d.makeDirectories (pathOf path).components.reverse
      else match d.makeDirectory (pathOf path).steps with
        | .ok d => (none, d)
        | .error e => (some e, d)
    if let some e := fault then
      let blamed ← if o.has 'p' then self.lookDisk fun d => blockedBy d path else pure none
      self.warn ("cannot create directory ".toList ++ Self.quote (blamed.getD path) ++ ": ".toList ++
        (if blamed.isSome then DiskError.notDirectory else e).cause.toList)
      status := 1
  return status

def removeDirectory : Tool := fun self args => do
  let o := options "pv" "" args
  if let some c := o.unknown then return ← self.invalidOption 1 c
  if o.operands.isEmpty then return ← self.missingOperand 1
  let mut status := 0
  for path in o.operands do
    let fault ← self.onDisk fun d => match d.removeDirectory (pathOf path) with
      | .error e => (some e, d)
      | .ok d => (none, d)
    if let some e := fault then
      self.warn ("failed to remove ".toList ++ Self.quote path ++ ": ".toList ++ e.cause.toList)
      status := 1
  return status

def endsInDots (path : Octets) : Bool :=
  match (pathOf path).steps.getLast? with
  | some .here | some .up => true
  | _ => false

def remove : Tool := fun self args => do
  let o := options "rRfdiv" "" args
  if let some c := o.unknown then return ← self.invalidOption 1 c
  if o.operands.isEmpty then
    if o.has 'f' then return 0
    return ← self.missingOperand 1
  let mut status := 0
  for path in o.operands do
    if (o.has 'r' || o.has 'R') && endsInDots path && (← self.lookDisk (·.isDirectory (pathOf path))) then
      self.warn ("refusing to remove ".toList ++ Self.quote ['.'] ++ " or ".toList ++
        Self.quote ['.', '.'] ++ " directory: skipping ".toList ++ Self.quote path)
      status := 1
      continue
    let fault ← self.onDisk fun d => match d.find (pathOf path) with
      | .error e => (some e, d)
      | .ok (.file _) => match d.removeFile (pathOf path) with
        | .ok d => (none, d)
        | .error e => (some e, d)
      | .ok .directory =>
        if o.has 'r' || o.has 'R' then d.removeTree (pathOf path) else (some .isDirectory, d)
    match fault with
    | none => pure ()
    | some e =>
      if !(o.has 'f' && (e = .notFound || e = .notDirectory)) then
        self.warn ("cannot remove ".toList ++ Self.quote path ++ ": ".toList ++ e.cause.toList)
        status := 1
  return status

def changeMode : Tool := fun self args => do
  let o := options "Rvcf" "" args
  let (mode, paths) := match args with
    | mode :: paths => if mode.head? = some '-' && mode.length = 2 && mode.getLast? ≠ some 'R' then
        (mode, paths) else (o.operands.head?.getD [], o.operands.drop 1)
    | [] => ([], [])
  if paths.isEmpty then return ← self.missingOperand 1
  let isOctal := !mode.isEmpty && mode.all Octets.isDigit
  let runs := mode.contains 'x' || (isOctal && mode.any fun c => c.toNat % 2 = 1)
  let takes := mode.contains '-' || (isOctal && !runs)
  let mut status := 0
  for path in paths do
    let fault ← Job.exchange fun w => match (w.diskFrom self.dir).find (pathOf path) with
      | .error e => (some e, w)
      | .ok .directory => (none, w)
      | .ok (.file id) =>
        let others := w.runnable.filter (· ≠ id)
        (none, { w with runnable := if takes then others else if runs then id :: others
          else w.runnable })
    if let some e := fault then
      self.warn ("cannot access ".toList ++ Self.quote path ++ ": ".toList ++ e.cause.toList)
      status := 1
  return status

/-! ### Listing -/

def listed (o : OptionSet) (d : Disk) (path : Octets) : List Octets :=
  match d.locate (pathOf path) with
  | .error _ => []
  | .ok l =>
    let names := (d.names l).map Octets.ofText
    let shown := if o.has 'a' || o.has 'A' then names else names.filter (·.head? ≠ some '.')
    let all := if o.has 'a' then ['.'] :: ['.', '.'] :: shown else shown
    let all := sorted all
    let all := if o.has 'r' then all.reverse else all
    if o.has 'p' || o.has 'F' then
      all.map fun n => if d.isDirectory (pathOf (inside path n)) then n ++ ['/'] else n
    else all

def lines (names : List Octets) : Octets := names.flatMap fun n => n ++ ['\n']

def directories (o : OptionSet) (d : Disk) : Nat → Octets → List Octets
  | 0, path => [path]
  | n + 1, path =>
    let below := (listed o d path).filter fun x =>
      x ≠ ['.'] && x ≠ ['.', '.'] && d.isDirectory (pathOf (inside path x))
    path :: below.flatMap fun x => directories o d n (inside path x)

def list : Tool := fun self args => do
  let o := options "1aAdrpFRtSlhCmx" "" args
  if let some c := o.unknown then return ← self.invalidOption 2 c
  let paths := sorted (if o.operands.isEmpty then [['.']] else o.operands)
  let found ← self.lookDisk fun d => paths.map fun p => (p, d.find (pathOf p), World.deviceOf? p)
  let mut status := 0
  for (path, entry, device) in found do
    match entry, device with
    | .error e, none =>
      self.warn ("cannot access ".toList ++ Self.quote path ++ ": ".toList ++ e.cause.toList)
      status := 2
    | _, _ => pure ()
  let isFile (x : Octets × Except DiskError Entry × Option Target) : Bool := match x.2.1 with
    | .ok (.file _) => true
    | .ok .directory => o.has 'd'
    | .error _ => x.2.2.isSome
  let files := (found.filter isFile).map (·.1)
  let dirs := (found.filter fun x => !isFile x && x.2.1.toOption.isSome).map (·.1)
  self.say (lines (if o.has 'r' then files.reverse else files))
  let dirs ← if o.has 'R' then self.lookDisk fun d => dirs.flatMap (directories o d 64) else pure dirs
  let isHeaded := o.has 'R' || paths.length > 1
  let mut first := files.isEmpty
  for dir in dirs do
    let names ← self.lookDisk fun d => listed o d dir
    self.say ((if first then [] else ['\n']) ++
      (if isHeaded then dir ++ [':', '\n'] else []) ++ lines names)
    first := false
  return status

end Foreman.Shell.Tool
