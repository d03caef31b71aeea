import Foreman.Shell.Pattern
import Foreman.Shell.State

/-! What words come to: parameters, outputs of commands and sums are put in, what comes from outside quotes
is split into fields, and patterns become the paths that fit. -/

namespace Foreman.Shell

inductive Origin where
  | written
  | quoted
  | inserted
  deriving DecidableEq

inductive Piece where
  | char (c : Char) (origin : Origin)
  | cut
  /-- There were quotes, so even nothing is a field. -/
  | quotes
  | nobody

namespace Piece

def ofOctets (origin : Origin) (o : Octets) : List Piece := o.map (.char · origin)

def text (ps : List Piece) : Octets := ps.filterMap fun
  | .char c _ => some c
  | .cut => some ' '
  | _ => none

def glyphs (ps : List Piece) : List Glyph := ps.filterMap fun
  | .char c origin => some ⟨c, origin = .quoted⟩
  | .cut => some ⟨' ', true⟩
  | _ => none

structure Building where
  glyphs : List Glyph := []
  isQuoted : Bool := false
  isNobody : Bool := false
  afterBlank : Bool := false
  fields : List (List Glyph) := []

def Building.close (b : Building) (always : Bool) : Building :=
  if always || !b.glyphs.isEmpty || (b.isQuoted && !b.isNobody) then
    { fields := b.glyphs.reverse :: b.fields }
  else { fields := b.fields }

def isBlankSeparator (c : Char) : Bool := c = ' ' || c = '\t' || c = '\n'

def Building.add (separators : Octets) (b : Building) : Piece → Building
  | .cut => b.close false
  | .quotes => { b with isQuoted := true, afterBlank := false }
  | .nobody => { b with isNobody := true }
  | .char c origin =>
    if origin = .inserted && separators.contains c then
      if isBlankSeparator c then
        let started := !b.glyphs.isEmpty || (b.isQuoted && !b.isNobody)
        { b.close false with afterBlank := b.afterBlank || started }
      else if b.afterBlank && b.glyphs.isEmpty && !b.isQuoted then { b with afterBlank := false }
      else b.close true
    else { b with glyphs := ⟨c, origin = .quoted⟩ :: b.glyphs, afterBlank := false }

def fields (separators : Octets) (ps : List Piece) : List (List Glyph) :=
  ((ps.foldl (Building.add separators) {}).close false).fields.reverse

end Piece

/-! ### Paths that fit a pattern -/

namespace Glob

def components (pattern : List Glyph) : List (List Glyph) :=
  pattern.foldr (fun g cs => match cs with
    | [] => [[g]]
    | c :: cs => if g.char = '/' then [] :: c :: cs else (g :: c) :: cs) [[]]

def isHidden (name : Octets) : Bool := name.head? = some '.'

/-- The names in a directory that fit a pattern; the directory itself and the one above it count only where
`dots` is set. Hidden ones fit only where the dot is written. -/
def names (dots : Bool) (d : Disk) (dir : Location) (pattern : List Glyph) : List Octets :=
  let all := (if dots then [['.'], ['.', '.']] else []) ++ (d.names dir).map Octets.ofText
  let fitting := all.filter fun n =>
    isMatch pattern n && (!isHidden n || (pattern.head?.any fun g => g.char = '.'))
  fitting.mergeSort Octets.upTo

def walk (dots : Bool) (d : Disk) (before : Octets) : List (List Glyph) → List Octets
  | [] => [before]
  | c :: cs =>
    let name := c.map (·.char)
    let slash := if cs.isEmpty then [] else ['/']
    let dir : Path := ⟨Octets.text (if before.isEmpty then ['.'] else before)⟩
    if !hasWildcard c then
      let path := before ++ name
      if cs.isEmpty then
        match d.find ⟨Octets.text path⟩ with
        | .ok _ => [path]
        | .error _ => if name.isEmpty && d.isDirectory dir then [path] else []
      else walk dots d (path ++ slash) cs
    else match d.locate dir with
      | .error _ => []
      | .ok l =>
        if d.entry? l ≠ some .directory then []
        else (names dots d l c).flatMap fun n =>
          if cs.isEmpty then [before ++ n] else walk dots d (before ++ n ++ slash) cs

/-- The paths that fit a pattern; none stands for the pattern itself. -/
def paths (dots : Bool) (d : Disk) (pattern : List Glyph) : List Octets :=
  if hasWildcard pattern then walk dots d [] (components pattern) else []

end Glob

/-! ### Expansion -/

section

variable (run : Tree → ShellM Octets)

/-- The output of commands as a value: line ends at its end do not count. -/
def captured (o : Octets) : Octets :=
  (o.reverse.dropWhile (· = '\n')).reverse.filter (· ≠ '\x00')

def allParameters (s : State) (name : Octets) (inQuotes : Bool) : List Piece :=
  let origin : Origin := if inQuotes then .quoted else .inserted
  if s.positional.isEmpty then if inQuotes && name = ['@'] then [.nobody] else []
  else if inQuotes && name = ['*'] then
    let separator := s.separators.take 1
    Piece.ofOctets origin (Octets.join separator s.positional)
  else
    List.flatten ((s.positional.map fun p =>
      (if inQuotes then [Piece.quotes] else []) ++ Piece.ofOctets origin p).intersperse [.cut])

def slice (o : Octets) (offset : Int) (length : Option Int) : Octets :=
  let start := if offset < 0 then o.length - offset.natAbs else offset.toNat
  let rest := if offset < 0 && o.length < offset.natAbs then [] else o.drop start
  match length with
  | none => rest
  | some n => if n < 0 then rest.take (rest.length - n.natAbs) else rest.take n.toNat

mutual

def pieces : Nat → List Part → ShellM (List Piece)
  | 0, _ => return []
  | _, [] => return []
  | n + 1, p :: ps => do
    let now ← part n p
    return now ++ (← pieces n ps)

def part : Nat → Part → ShellM (List Piece)
  | 0, _ => return []
  | _, .plain o => return Piece.ofOctets .written o
  | _, .quoted o => return .quotes :: Piece.ofOctets .quoted o
  | _, .home => do
    let s ← get
    return .quotes :: Piece.ofOctets .quoted ((s.value? "HOME".toList).getD ['~'])
  | _, .output body inQuotes => do
    let o := captured (← run body)
    return Piece.ofOctets (if inQuotes then .quoted else .inserted) o
  | n + 1, .sum expression inQuotes => do
    let e := Piece.text (← pieces n expression)
    let v ← reckon e
    return Piece.ofOctets (if inQuotes then .quoted else .inserted) (Octets.ofInt v)
  | n + 1, .variable name form inQuotes => do
    let s ← get
    let origin : Origin := if inQuotes then .quoted else .inserted
    let value := parameter? s name
    let present : List Piece :=
      if name = ['@'] || name = ['*'] then allParameters s name inQuotes
      else Piece.ofOctets origin (value.getD [])
    -- text that stands in for a value splits as the value would
    let instead (word : List Part) : ShellM (List Piece) := do
      return (← pieces n word).map fun
        | .char c .written => .char c origin
        | p => p
    let isMissing (colon : Bool) : Bool := value.isNone || (colon && value = some [])
    match form with
    | .value =>
      if value.isNone && s.options.nounset && name ≠ ['@'] && name ≠ ['*'] then
        abort (name ++ (if s.bash then ": unbound variable" else ": parameter not set").toList)
      else return present
    | .length =>
      if value.isNone && s.options.nounset && name ≠ ['@'] && name ≠ ['*'] then
        abort (name ++ (if s.bash then ": unbound variable" else ": parameter not set").toList)
      else
        let length := if name = ['@'] || name = ['*'] then s.positional.length
          else (value.getD []).length
        return Piece.ofOctets origin (Octets.ofNat length)
    | .default colon word => if isMissing colon then instead word else return present
    | .assign colon word =>
      if isMissing colon then
        let o := Piece.text (← pieces n word)
        setVariable name o
        return Piece.ofOctets origin o
      else return present
    | .instead colon word => if isMissing colon then return [] else instead word
    | .required colon word =>
      if isMissing colon then
        let message := Piece.text (← pieces n word)
        let standard := if s.bash then if colon then "parameter null or not set" else "parameter not set"
          else if colon then "parameter not set or null" else "parameter not set"
        abort (name ++ ": ".toList ++ if message.isEmpty then standard.toList else message)
      else return present
    | .cutStart longest pattern =>
      let p := Piece.glyphs (← pieces n pattern)
      return Piece.ofOctets origin (cutStart longest p (value.getD []))
    | .cutEnd longest pattern =>
      let p := Piece.glyphs (← pieces n pattern)
      return Piece.ofOctets origin (cutEnd longest p (value.getD []))
    | .replace all pattern word =>
      let p := Piece.glyphs (← pieces n pattern)
      let new := Piece.text (← pieces n word)
      let o := value.getD []
      return Piece.ofOctets origin (replacePieces all p new o.length o)
    | .recased upper all =>
      let change : Char → Char := if upper then Char.toUpper else Char.toLower
      let o := value.getD []
      return Piece.ofOctets origin (if all then o.map change else (o.take 1).map change ++ o.drop 1)
    | .slice offset length =>
      let from_ ← reckon (Piece.text (← pieces n offset))
      let count ← match length with
        | none => pure none
        | some l => some <$> reckon (Piece.text (← pieces n l))
      return Piece.ofOctets origin (slice (value.getD []) from_ count)
    | .unknown => abort "Bad substitution".toList

end

def wordBudget : Nat := 100000

def expandText (w : Word) : ShellM Octets := do
  return Piece.text (← pieces run wordBudget w)

def expandPattern (w : Word) : ShellM (List Glyph) := do
  return Piece.glyphs (← pieces run wordBudget w)

def expandField (field : List Glyph) : ShellM (List Octets) := do
  let s ← get
  if s.options.noglob || !hasWildcard field then return [field.map (·.char)]
  let found ← ShellM.look fun w => Glob.paths (!s.bash) (w.diskFrom s.dir) field
  return if found.isEmpty then [field.map (·.char)] else found

def expandWord (w : Word) : ShellM (List Octets) := do
  let ps ← pieces run wordBudget w
  let fields := Piece.fields (← get).separators ps
  return (← fields.mapM expandField).flatten

def expandWords (ws : List Word) : ShellM (List Octets) := do
  return (← ws.mapM (expandWord run)).flatten

end

end Foreman.Shell
