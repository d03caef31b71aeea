import Foreman.Disk

/-! Reading a log line by line while another program writes it. -/

namespace Foreman.Watch

/-- A place in a log. The file is held by its identity, so it can still be read when its name has been
taken away. A reader may take in blocks of the file ahead; they are not told from the file, which has to keep
them until they are used up. -/
structure Cursor where
  path : Path
  source : Entry
  offset : Nat
  /-- What has been read since the last line end. -/
  fragment : Bytes := []
  deriving DecidableEq, Repr

/-- Whether a log had to be made, or why it could not be. What has been made before an error stays. -/
inductive Ensured where
  | existed
  | made
  | failed (cause : DiskError)
  deriving DecidableEq, Repr

/-- Makes an empty log and the directories above it, unless something already stands at the path. -/
def ensureLog (d : Disk) (p : Path) : Ensured × Disk :=
  match d.tryExists p with
  | .error e => (.failed e, d)
  | .ok true => (.existed, d)
  | .ok false =>
    match d.makeParents p with
    | (some e, d) => (.failed e, d)
    | (none, d) => match d.openOrCreate p with
      | .error e => (.failed e, d)
      | .ok (_, d) => (.made, d)

def lineEnd : UInt8 := 10

def splitLine : Bytes → Option (Bytes × Bytes)
  | [] => none
  | b :: bs =>
    if b = lineEnd then some ([b], bs) else (splitLine bs).map fun x => (b :: x.1, x.2)

def isLineEnd (c : Char) : Bool := c = '\n' || c = '\r'

def lineText (line : Bytes) : String :=
  String.ofList ((Utf8.decodeChars line).reverse.dropWhile isLineEnd).reverse

namespace Cursor

def openAtEnd (d : Disk) (p : Path) : Except DiskError Cursor :=
  (d.find p).map fun source => { path := p, source, offset := d.lengthOf source }

def unread (c : Cursor) (d : Disk) : Bytes :=
  match c.source with
  | .directory => []
  | .file id => (d.content id).drop c.offset

inductive Sighting where
  | unchanged
  | shorter (source : Entry)
  | failed (cause : DiskError)
  deriving DecidableEq, Repr

def sighting (c : Cursor) (d : Disk) : Sighting :=
  match d.find c.path with
  | .error .notFound => .unchanged
  | .error e => .failed e
  | .ok source => if d.lengthOf source < c.offset then .shorter source else .unchanged

inductive Reading where
  | line (text : String)
  | pending
  /-- The log was cut or replaced by a shorter one, which is read from its start on. -/
  | restarted
  | failed (cause : DiskError)
  deriving DecidableEq, Repr

def atEnd (c : Cursor) (d : Disk) : Reading × Cursor :=
  let rest := c.unread d
  let c := { c with offset := c.offset + rest.length, fragment := c.fragment ++ rest }
  match c.sighting d with
  | .unchanged => (.pending, c)
  | .failed e => (.failed e, c)
  | .shorter source => (.restarted, { c with source, offset := 0, fragment := [] })

def next (c : Cursor) (d : Disk) : Reading × Cursor :=
  if c.source = .directory then (.failed .isDirectory, c)
  else match splitLine (c.unread d) with
    | some (line, _) =>
      (.line (lineText (c.fragment ++ line)),
        { c with offset := c.offset + line.length, fragment := [] })
    | none => c.atEnd d

end Cursor
end Foreman.Watch
