import Foreman.Disk

/-! Changes of files as values. -/

namespace Foreman

namespace Disk

def makeEmpty (d : Disk) (p : Path) : Option DiskError × Disk :=
  if d.isDirectory p then
    match d.removeTree p with
    | (some e, d) => (some e, d)
    | (none, d) => d.makeDirectoryAll p
  else d.makeDirectoryAll p

inductive Change where
  | write (p : Path) (bytes : Bytes)
  | append (p : Path) (bytes : Bytes)
  | truncate (p : Path) (length : Nat)
  | remove (p : Path)
  | makeDirectory (p : Path)
  | removeDirectory (p : Path)
  | rename (source target : Path)
  deriving DecidableEq, Repr

/-- The disk after a change. One that is impossible changes nothing. -/
def apply (d : Disk) : Change → Disk
  | .write p bytes => (d.writeFile p bytes).toOption.getD d
  | .append p bytes => (d.append p bytes).toOption.getD d
  | .truncate p length => (d.truncate p length).toOption.getD d
  | .remove p => (d.removeFile p).toOption.getD d
  | .makeDirectory p => (d.makeDirectoryAll p).2
  | .removeDirectory p => (d.removeTree p).2
  | .rename source target => (d.rename source target).toOption.getD d

end Disk

namespace DiskError

def kind : DiskError → String
  | .notFound => "NotFound"
  | .alreadyExists => "AlreadyExists"
  | .notDirectory => "NotADirectory"
  | .isDirectory => "IsADirectory"
  | .invalidArgument | .nulInPath | .nulInCommand => "InvalidInput"
  | .nameTooLong => "InvalidFilename"
  | .notEmpty => "DirectoryNotEmpty"
  | .permissionDenied => "PermissionDenied"
  | .busy => "ResourceBusy"
  | .argumentsTooLong => "ArgumentListTooLong"
  | .notText => "InvalidData"

def detail (e : DiskError) : String :=
  match e.number? with
  | some n => "Os \x7b code: " ++ toString n ++ ", kind: " ++ e.kind ++ ", message: \"" ++ e.cause ++
      "\" \x7d"
  | none => "Error \x7b kind: " ++ e.kind ++ ", message: \"" ++ e.cause ++ "\" \x7d"

end DiskError
end Foreman
