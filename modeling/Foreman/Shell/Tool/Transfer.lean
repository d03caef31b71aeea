import Foreman.Shell.Tool.Files

/-! Tools that put files and directories elsewhere. -/

namespace Foreman.Shell.Tool

def destination (o : OptionSet) (d : Disk) (source target : Octets) : Octets :=
  if !o.has 'T' && d.isDirectory (pathOf target) then inside target (baseName source) else target

def endpoints (self : Self) (o : OptionSet) : Job (Option (List Octets × Octets)) := do
  match o.operands.getLast? with
  | none =>
    self.warn "missing file operand".toList
    self.hint
    return none
  | some target =>
    let sources := o.operands.dropLast
    if sources.isEmpty then
      self.warn ("missing destination file operand after ".toList ++ Self.quote target)
      self.hint
      return none
    else if sources.length > 1 && !(← self.lookDisk (·.isDirectory (pathOf target))) then
      let known ← self.lookDisk fun d => (d.find (pathOf target)).toOption.isSome
      self.warn ("target ".toList ++ Self.quote target ++
        (if known then ": Not a directory" else ": No such file or directory").toList)
      return none
    else return some (sources, target)

/-- The location that is replaced or made. A slash at the end of a missing name does not matter yet. -/
def landing (d : Disk) (target : Octets) : Except DiskError Location :=
  match d.locate (pathOf target) with
  | .error .notFound => d.locate (pathOf (withoutSlashes target))
  | other => other

def because (message : Octets) (e : DiskError) : Octets := message ++ ": ".toList ++ e.cause.toList

def cannotStat (path : Octets) (e : DiskError) : Octets :=
  because ("cannot stat ".toList ++ Self.quote path) e

def cannotMove (source target : Octets) (e : DiskError) : Octets :=
  because ("cannot move ".toList ++ Self.quote source ++ " to ".toList ++ Self.quote target) e

def cannotCreate (kind : String) (target : Octets) (e : DiskError) : Octets :=
  because ("cannot create ".toList ++ kind.toList ++ " ".toList ++ Self.quote target) e

def areSame (source target : Octets) : Octets :=
  Self.quote source ++ " and ".toList ++ Self.quote target ++ " are the same file".toList

def clash (source target : Octets) : Entry → Entry → Option Octets
  | .file _, .directory =>
    some ("cannot overwrite directory ".toList ++ Self.quote target ++ " with non-directory".toList)
  | .directory, .file _ =>
    some ("cannot overwrite non-directory ".toList ++ Self.quote target ++ " with directory ".toList ++
      Self.quote source)
  | _, _ => none

def moveOne (d : Disk) (source target : Octets) : Option Octets × Disk :=
  match d.find (pathOf source), d.locate (pathOf source), landing d target with
  | .error e, _, _ | _, .error e, _ => (some (cannotStat source e), d)
  | _, _, .error .notDirectory => (some (cannotStat target .notDirectory), d)
  | _, _, .error e => (some (cannotMove source target e), d)
  | .ok found, .ok l, .ok m =>
    if l = m then (some (areSame source target), d)
    else match (d.entry? m).bind (clash source target found) with
      | some message => (some message, d)
      | none => match d.rename (pathOf source) (pathOf target) with
        | .ok d => (none, d)
        | .error .invalidArgument =>
          (some ("cannot move ".toList ++ Self.quote source ++ " to a subdirectory of itself, ".toList ++
            Self.quote target), d)
        | .error .notEmpty =>
          (some (because ("cannot overwrite ".toList ++ Self.quote target) .notEmpty), d)
        | .error e => (some (cannotMove source target e), d)

def copyEntry (d : Disk) (e : Entry) (l : Location) : Disk :=
  match e, d.entry? l with
  | .directory, some _ => d
  | .directory, none => d.put l .directory
  | .file id, some (.file old) => d.setContent old (d.content id)
  | .file id, _ =>
    let (new, d') := d.create l
    d'.setContent new (d.content id)

/-- Copies what stands at one location, with all below it, to another: entry by entry from the top.
Nothing is put below an entry that could not be put. -/
def copyTree (d : Disk) (source target : Octets) (l m : Location) : List Octets × Disk :=
  let copied := (d.entries.filter fun x => l.isPrefixOf x.1).mergeSort fun x y => x.1.length ≤ y.1.length
  copied.foldl (fun (said, d) x =>
    let below := x.1.drop l.length
    let named (top : Octets) : Octets := below.foldl (fun o name => inside o (Octets.ofText name)) top
    match (d.entry? (m ++ below)).bind (clash (named source) (named target) x.2) with
    | some message => (said ++ [message], d)
    | none =>
      if d.entry? (m ++ below).dropLast = some .directory then (said, copyEntry d x.2 (m ++ below))
      else (said, d)) ([], d)

def copyOne (isRecursive : Bool) (d : Disk) (source target : Octets) : List Octets × Disk :=
  match d.locate (pathOf source), d.find (pathOf source), landing d target with
  | _, .error e, _ | .error e, _, _ => ([cannotStat source e], d)
  | .ok l, .ok .directory, m =>
    if !isRecursive then (["-r not specified; omitting directory ".toList ++ Self.quote source], d)
    else match m with
      | .error .notDirectory => ([cannotStat target .notDirectory], d)
      | .error e => ([cannotCreate "directory" target e], d)
      | .ok m =>
        if l = m then ([areSame source target], d)
        else if l.isPrefixOf m then
          let (said, d) := copyTree d source target l m
          (said ++ ["cannot copy a directory, ".toList ++ Self.quote source ++ ", into itself, ".toList ++
            Self.quote target], d)
        else copyTree d source target l m
  | _, _, .error .notDirectory => ([cannotStat target .notDirectory], d)
  | _, _, .error e => ([cannotCreate "regular file" target e], d)
  | .ok l, .ok (.file _), .ok m =>
    if l = m then ([areSame source target], d)
    else if (d.entry? m).isNone && (pathOf target).endsInSlash then
      ([cannotCreate "regular file" target .notDirectory], d)
    else copyTree d source target l m

def putEach (self : Self) (o : OptionSet) (put : Disk → Octets → Octets → List Octets × Disk) :
    Job Nat := do
  match ← endpoints self o with
  | none => return 1
  | some (sources, target) =>
    let mut status := 0
    for source in sources do
      let said ← self.onDisk fun d => put d source (destination o d source target)
      for message in said do
        self.warn message
        status := 1
    return status

def move : Tool := fun self args => do
  let o := options "finuvT" "" args
  if let some c := o.unknown then return ← self.invalidOption 1 c
  putEach self o fun d source target =>
    let (said, d) := moveOne d source target
    (said.toList, d)

def copy : Tool := fun self args => do
  let o := options "afinprRuvT" "" args
  if let some c := o.unknown then return ← self.invalidOption 1 c
  putEach self o (copyOne (o.has 'r' || o.has 'R' || o.has 'a'))

end Foreman.Shell.Tool
