import Foreman.Path
import Foreman.Text.Utf8

/-! Files and directories by location. A file keeps its identity and its content when its name is given to
another file or taken away, as long as something still reads it. -/

namespace Foreman

abbrev Location := List String

abbrev FileId := Nat

inductive Entry where
  | directory
  | file (id : FileId)
  deriving DecidableEq, Repr

structure Disk where
  entries : List (Location × Entry) := []
  contents : List (FileId × Bytes) := []
  nextFile : FileId := 0
  home : Location := []
  deriving DecidableEq, Repr

inductive DiskError where
  | notFound
  | alreadyExists
  | notDirectory
  | isDirectory
  | invalidArgument
  | nameTooLong
  | notEmpty
  | permissionDenied
  | busy
  | argumentsTooLong
  | nulInPath
  | nulInCommand
  | notText
  deriving DecidableEq, Repr

namespace DiskError

def cause : DiskError → String
  | .notFound => "No such file or directory"
  | .alreadyExists => "File exists"
  | .notDirectory => "Not a directory"
  | .isDirectory => "Is a directory"
  | .invalidArgument => "Invalid argument"
  | .nameTooLong => "File name too long"
  | .notEmpty => "Directory not empty"
  | .permissionDenied => "Permission denied"
  | .busy => "Device or resource busy"
  | .argumentsTooLong => "Argument list too long"
  | .nulInPath => "file name contained an unexpected NUL byte"
  | .nulInCommand => "nul byte found in provided data"
  | .notText => "stream did not contain valid UTF-8"

def number? : DiskError → Option Nat
  | .notFound => some 2
  | .argumentsTooLong => some 7
  | .permissionDenied => some 13
  | .busy => some 16
  | .alreadyExists => some 17
  | .notDirectory => some 20
  | .isDirectory => some 21
  | .invalidArgument => some 22
  | .nameTooLong => some 36
  | .notEmpty => some 39
  | .nulInPath | .nulInCommand | .notText => none

def message (e : DiskError) : String :=
  match e.number? with
  | some n => e.cause ++ " (os error " ++ toString n ++ ")"
  | none => e.cause

end DiskError

namespace Disk

/-- What stands at a location. The root is always a directory. -/
def entry? (d : Disk) (l : Location) : Option Entry :=
  if l = [] then some .directory else d.entries.lookup l

def put (d : Disk) (l : Location) (e : Entry) : Disk :=
  { d with entries := (l, e) :: d.entries.filter (·.1 ≠ l) }

def erase (d : Disk) (l : Location) : Disk :=
  { d with entries := d.entries.filter fun x => !l.isPrefixOf x.1 }

def content (d : Disk) (id : FileId) : Bytes := (d.contents.lookup id).getD []

def setContent (d : Disk) (id : FileId) (bytes : Bytes) : Disk :=
  { d with contents := (id, bytes) :: d.contents.filter (·.1 ≠ id) }

def create (d : Disk) (l : Location) : FileId × Disk :=
  (d.nextFile, { (d.put l (.file d.nextFile)).setContent d.nextFile [] with
    nextFile := d.nextFile + 1 })

def follow (d : Disk) (l : Location) (c : Path.Component) : Except DiskError Location :=
  match d.entry? l with
  | none => .error .notFound
  | some (.file _) => .error .notDirectory
  | some .directory =>
    match c with
    | .root => .ok []
    | .here => .ok l
    | .up => .ok l.dropLast
    | .name s => if 255 < s.utf8ByteSize then .error .nameTooLong else .ok (l ++ [s])

def walk (d : Disk) : Location → List Path.Component → Except DiskError Location
  | l, [] => .ok l
  | l, c :: cs =>
    match d.follow l c with
    | .ok l => walk d l cs
    | .error e => .error e

def start (d : Disk) (cs : List Path.Component) : Location :=
  if cs.head? = some .root then [] else d.home

def accepts (p : Path) : Except DiskError Unit :=
  if p.text.toList.contains '\x00' then .error .nulInPath
  else if p.text = "" then .error .notFound
  else if 4096 ≤ p.text.utf8ByteSize then .error .nameTooLong
  else .ok ()

def route (p : Path) : List Path.Component := if p.endsInSlash then p.steps ++ [.here] else p.steps

/-- The location a path names. All above it are directories; it may itself be missing. -/
def locate (d : Disk) (p : Path) : Except DiskError Location := do
  accepts p
  d.walk (d.start (route p)) (route p)

/-- The directory in which the last component is looked up, and that component. -/
def parent (d : Disk) (cs : List Path.Component) : Except DiskError (Location × Path.Component) :=
  match cs.getLast? with
  | none => .error .notFound
  | some c => match d.walk (d.start cs) cs.dropLast with
    | .error e => .error e
    | .ok l => match d.entry? l with
      | some .directory => .ok (l, c)
      | some (.file _) => .error .notDirectory
      | none => .error .notFound

def find (d : Disk) (p : Path) : Except DiskError Entry :=
  match d.locate p with
  | .error e => .error e
  | .ok l => match d.entry? l with
    | none => .error .notFound
    | some e => .ok e

def isDirectory (d : Disk) (p : Path) : Bool :=
  match d.find p with
  | .ok .directory => true
  | _ => false

def tryExists (d : Disk) (p : Path) : Except DiskError Bool :=
  match d.find p with
  | .ok _ => .ok true
  | .error .notFound => .ok false
  | .error e => .error e

/-- The length of a file. A directory has a length of its own. -/
def lengthOf (d : Disk) : Entry → Nat
  | .directory => 4096
  | .file id => (d.content id).length

def length (d : Disk) (p : Path) : Except DiskError Nat := (d.find p).map d.lengthOf

def readFile (d : Disk) (p : Path) : Except DiskError Bytes :=
  match d.find p with
  | .ok (.file id) => .ok (d.content id)
  | .ok .directory => .error .isDirectory
  | .error e => .error e

def readText (d : Disk) (p : Path) : Except DiskError String :=
  match d.readFile p with
  | .error e => .error e
  | .ok bytes => match Utf8.decode? bytes with
    | some s => .ok s
    | none => .error .notText

/-- The file at a path, made if it is missing. The last component of the path must be a name. -/
def openOrCreate (d : Disk) (p : Path) : Except DiskError (FileId × Disk) := do
  accepts p
  let (dir, last) ← d.parent p.steps
  match last with
  | .name s =>
    if p.endsInSlash then .error .isDirectory
    else if 255 < s.utf8ByteSize then .error .nameTooLong
    else match d.entry? (dir ++ [s]) with
      | none => .ok (d.create (dir ++ [s]))
      | some .directory => .error .isDirectory
      | some (.file id) => .ok (id, d)
  | _ => .error .isDirectory

def update (d : Disk) (p : Path) (f : Bytes → Bytes) : Except DiskError Disk :=
  match d.openOrCreate p with
  | .error e => .error e
  | .ok (id, d) => .ok (d.setContent id (f (d.content id)))

def writeFile (d : Disk) (p : Path) (bytes : Bytes) : Except DiskError Disk :=
  d.update p fun _ => bytes

def append (d : Disk) (p : Path) (bytes : Bytes) : Except DiskError Disk :=
  d.update p (· ++ bytes)

def resize (n : Nat) (bytes : Bytes) : Bytes :=
  bytes.take n ++ List.replicate (n - bytes.length) 0

def truncate (d : Disk) (p : Path) (n : Nat) : Except DiskError Disk :=
  match d.find p with
  | .error e => .error e
  | .ok .directory => .error .isDirectory
  | .ok (.file id) => .ok (d.setContent id (resize n (d.content id)))

def removeFile (d : Disk) (p : Path) : Except DiskError Disk :=
  match d.locate p with
  | .error e => .error e
  | .ok l => match d.entry? l with
    | none => .error .notFound
    | some .directory => .error .isDirectory
    | some (.file _) => .ok (d.erase l)

/-- Makes a directory. One that is not named, but reached by a dot, exists already. -/
def makeDirectory (d : Disk) (cs : List Path.Component) : Except DiskError Disk := do
  let (dir, last) ← d.parent cs
  match last with
  | .name s =>
    if 255 < s.utf8ByteSize then .error .nameTooLong
    else match d.entry? (dir ++ [s]) with
      | some _ => .error .alreadyExists
      | none => .ok (d.put (dir ++ [s]) .directory)
  | _ => .error .alreadyExists

def leadsToDirectory (d : Disk) (cs : List Path.Component) : Bool :=
  match d.walk (d.start cs) cs with
  | .error _ => false
  | .ok l => d.entry? l = some .directory

/-- Makes a directory and those above it; `reversed` are the components from the last to the first. What
has been made before an error stays. -/
def makeDirectories (d : Disk) (reversed : List Path.Component) : Option DiskError × Disk :=
  match reversed with
  | [] => (none, d)
  | c :: above =>
    let cs := (c :: above).reverse
    match d.makeDirectory cs with
    | .ok d => (none, d)
    | .error .notFound =>
      match makeDirectories d above with
      | (some e, d) => (some e, d)
      | (none, d) => match d.makeDirectory cs with
        | .ok d => (none, d)
        | .error e => (if d.leadsToDirectory cs then none else some e, d)
    | .error e => (if d.leadsToDirectory cs then none else some e, d)

def makeParents (d : Disk) (p : Path) : Option DiskError × Disk :=
  d.makeDirectories p.components.dropLast.reverse

def ensureDirectory (d : Disk) (p : Path) : Option DiskError × Disk :=
  match d.makeDirectory p.steps with
  | .ok d => (none, d)
  | .error e => (if d.leadsToDirectory p.steps then none else some e, d)

/-- Makes a directory and those above it. Those above are named by components and the directory itself by
the path as written, so one that is written as a dot below a missing name cannot be made. -/
def makeDirectoryAll (d : Disk) (p : Path) : Option DiskError × Disk :=
  match accepts p with
  | .error .notFound => (none, d)
  | .error e => (some e, d)
  | .ok () => match d.makeDirectory p.steps with
    | .ok d => (none, d)
    | .error .notFound => match d.makeParents p with
      | (some e, d) => (some e, d)
      | (none, d) => d.ensureDirectory p
    | .error _ => d.ensureDirectory p

def clearBelow (d : Disk) (l : Location) : Disk :=
  { d with entries := d.entries.filter fun x => !(l.isPrefixOf x.1 && x.1 ≠ l) }

def namesBelow (d : Disk) (l : Location) : Bool :=
  d.entries.any fun x => l.isPrefixOf x.1 && x.1 ≠ l

def removeDirectory (d : Disk) (p : Path) : Except DiskError Disk := do
  accepts p
  let (dir, last) ← d.parent p.steps
  match last with
  | .name s => match d.entry? (dir ++ [s]) with
    | none => .error .notFound
    | some (.file _) => .error .notDirectory
    | some .directory =>
      if d.namesBelow (dir ++ [s]) then .error .notEmpty else .ok (d.erase (dir ++ [s]))
  | .here => .error .invalidArgument
  | .up | .root => .error .notEmpty

/-- Takes away a directory with all below it. It is emptied first, and then looked up once more: where the
path leads through what has been taken away, nothing is left to do. -/
def removeTree (d : Disk) (p : Path) : Option DiskError × Disk :=
  match d.locate p with
  | .error e => (some e, d)
  | .ok l => match d.entry? l with
    | none => (some .notFound, d)
    | some (.file _) => (some .notDirectory, d)
    | some .directory =>
      let d := d.clearBelow l
      match d.removeDirectory p with
      | .ok d => (none, d)
      | .error .notFound => (none, d)
      | .error e => (some e, d)

/-- Gives what stands at one path to another. Both paths end in a name; a directory takes all below it
along, and takes the place of an empty directory only. -/
def rename (d : Disk) (source target : Path) : Except DiskError Disk := do
  accepts source
  accepts target
  let (above, last) ← d.parent source.steps
  let (above', last') ← d.parent target.steps
  match last, last' with
  | .name s, .name s' =>
    let l := above ++ [s]
    let m := above' ++ [s']
    if 255 < s.utf8ByteSize || 255 < s'.utf8ByteSize then .error .nameTooLong
    else match d.entry? l, d.entry? m with
      | none, _ => .error .notFound
      | some (.file id), e =>
        if source.endsInSlash || target.endsInSlash then .error .notDirectory
        else if e = some .directory then .error (if m.isPrefixOf l then .notEmpty else .isDirectory)
        else .ok ((d.erase l).put m (.file id))
      | some .directory, e =>
        if l = m then .ok d
        else if l.isPrefixOf m then .error .invalidArgument
        else match e with
          | some (.file _) => .error .notDirectory
          | _ =>
            if d.namesBelow m then .error .notEmpty
            else
              let moved := d.entries.filterMap fun x =>
                if l.isPrefixOf x.1 then some (m ++ x.1.drop l.length, x.2) else none
              let d := (d.erase l).erase m
              .ok { d with entries := moved ++ d.entries }
  | _, _ => .error .busy

def names (d : Disk) (l : Location) : List String :=
  d.entries.filterMap fun x =>
    if l.isPrefixOf x.1 && x.1.length = l.length + 1 then x.1.getLast? else none

def listing (d : Disk) : List (String × Option Bytes) :=
  d.entries.filterMap fun x =>
    if d.home.isPrefixOf x.1 && x.1 ≠ d.home then
      some ("/".intercalate (x.1.drop d.home.length),
        match x.2 with
        | .directory => none
        | .file id => some (d.content id))
    else none

end Disk
end Foreman
