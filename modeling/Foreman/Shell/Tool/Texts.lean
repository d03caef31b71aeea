import Foreman.Shell.Reading
import Foreman.Shell.Regex
import Foreman.Shell.Tool

/-! Tools that read texts and write texts. -/

namespace Foreman.Shell.Tool

def ended (l : Octets) : Octets := Octets.chomp l ++ ['\n']

def relay (self : Self) : Nat → Job Nat
  | 0 => return 0
  | n + 1 => do
    match ← Job.read self.pid 0 65536 with
    | .error cause =>
      self.warn ("-: ".toList ++ cause.toList)
      return 1
    | .ok [] => return 0
    | .ok data =>
      self.say data
      relay self n

def cat : Tool := fun self args => do
  let o := options "unbsAETv" "" args
  if let some c := o.unknown then return ← self.invalidOption 1 c
  let numbered := o.has 'n'
  if !numbered && (o.operands.isEmpty || o.operands = [['-']]) then relay self patience
  else self.eachFile o.operands 1 fun _ content => do
    let text := if numbered then
        ((Octets.lines content).zipIdx 1).flatMap fun (l, i) =>
          let n := Octets.ofNat i
          List.replicate (6 - n.length) ' ' ++ n ++ '\t' :: l
      else content
    self.say text
    return 0

/-- A count of lines or of characters: from the start, from the end, or all from a place on. -/
inductive Extent where
  | count (n : Nat)
  | allBut (n : Nat)
  | startingAt (n : Nat)

def headExtent (o : Octets) : Option Extent :=
  match o with
  | '-' :: ds => (Octets.nat? ds).map .allBut
  | ds => (Octets.nat? ds).map .count

def tailExtent (o : Octets) : Option Extent :=
  match o with
  | '+' :: ds => (Octets.nat? ds).map .startingAt
  | '-' :: ds => (Octets.nat? ds).map .count
  | ds => (Octets.nat? ds).map .count

def takeHead (e : Extent) (xs : List Octets) : List Octets :=
  match e with
  | .count n => xs.take n
  | .allBut n => xs.take (xs.length - n)
  | .startingAt n => xs.take n

def takeTail (e : Extent) (xs : List Octets) : List Octets :=
  match e with
  | .count n => xs.drop (xs.length - n)
  | .allBut n => xs.drop n
  | .startingAt n => xs.drop (n - 1)

def enoughFor (e : Extent) (bytes : Bool) (o : Octets) : Bool :=
  match e with
  | .count n => n ≤ (if bytes then o.length else o.count '\n')
  | _ => false

def modernized (args : List Octets) : List Octets :=
  match args with
  | ('-' :: d :: ds) :: rest =>
    if Octets.isDigit d then ['-', 'n'] :: (d :: ds) :: rest else args
  | _ => args

def excerpt (extent : Octets → Option Extent) (select : Extent → List Octets → List Octets)
    (enough : Extent → Bool → Octets → Bool) : Tool := fun self args => do
  let o := options "qvf" "nc" (modernized args)
  if let some c := o.unknown then return ← self.invalidOption 1 c
  let size := (o.value? 'n').or (o.value? 'c')
  match extent (size.getD ['1', '0']) with
  | none =>
    self.warn ("invalid number of ".toList ++ (if o.has 'c' then "bytes: " else "lines: ").toList ++
      Self.quote (size.getD []))
    return 1
  | some e =>
    let headed := (o.operands.length > 1 && !o.has 'q') || o.has 'v'
    let first := o.operands.head?
    let mut seen := 0
    let mut status := 0
    for path in if o.operands.isEmpty then [['-']] else o.operands do
      match ← self.sip (enough e (o.has 'c')) path with
      | .error cause =>
        let opened := if cause = "Is a directory" then "error reading " else "cannot open "
        let place := if cause = "Is a directory" then ": " else " for reading: "
        self.warn (opened.toList ++ Self.quote path ++ place.toList ++ cause.toList)
        status := 1
      | .ok content =>
        let pieces := if o.has 'c' then content.map ([·]) else Octets.lines content
        let title := if headed then (if seen = 0 then [] else ['\n']) ++ "==> ".toList ++
            (if path = ['-'] && first.isNone then "standard input".toList else path) ++
            " <==\n".toList
          else []
        self.say (title ++ (select e pieces).flatten)
        seen := seen + 1
    return status

def head : Tool := excerpt headExtent takeHead enoughFor

def tail : Tool := excerpt tailExtent takeTail fun _ _ _ => false

/-! ### Counting -/

structure Counts where
  lines : Nat := 0
  words : Nat := 0
  bytes : Nat := 0
  longest : Nat := 0

def Counts.of (o : Octets) : Counts :=
  let words := o.foldl (fun (n, inWord) c =>
    if Pattern.isBlankChar c then (n, false) else (if inWord then n else n + 1, true)) (0, false)
  { lines := o.count '\n', words := words.1, bytes := o.length
    longest := ((Octets.lines o).map fun l => (Octets.chomp l).length).foldl max 0 }

def Counts.add (a b : Counts) : Counts :=
  { lines := a.lines + b.lines, words := a.words + b.words, bytes := a.bytes + b.bytes
    longest := max a.longest b.longest }

def rightAligned (width : Nat) (n : Nat) : Octets :=
  let ds := Octets.ofNat n
  List.replicate (width - ds.length) ' ' ++ ds

def inputIsFile (self : Self) : Job Bool := Job.look fun w =>
  match w.behind? self.pid 0 with
  | some (_, o) => match o.target with
    | .file _ => true
    | _ => false
  | none => false

def wordCount : Tool := fun self args => do
  let o := options "lwcmL" "" args
  if let some c := o.unknown then return ← self.invalidOption 1 c
  let standard := o.letters.isEmpty
  let select (c : Counts) : List Nat :=
    (if standard || o.has 'l' then [c.lines] else []) ++
    (if standard || o.has 'w' then [c.words] else []) ++
    (if o.has 'm' then [c.bytes] else []) ++
    (if standard || o.has 'c' then [c.bytes] else []) ++
    (if o.has 'L' then [c.longest] else [])
  let paths := if o.operands.isEmpty then [['-']] else o.operands
  let fromFile ← inputIsFile self
  let mut rows : List (Counts × Octets) := []
  let mut status := 0
  for path in paths do
    match ← self.slurp path with
    | .error cause =>
      self.warn (path ++ ": ".toList ++ cause.toList)
      if cause = "Is a directory" then rows := rows ++ [(({} : Counts), path)]
      status := 1
    | .ok content => rows := rows ++ [(Counts.of content, path)]
  let total := (rows.map (·.1)).foldl Counts.add ({} : Counts)
  let single := (select total).length = 1 && paths.length = 1
  let width := if single then 1
    else if paths.contains ['-'] && !fromFile then 7
    else (Octets.ofNat total.bytes).length
  let row (c : Counts) (name : Octets) : Octets :=
    Octets.join [' '] ((select c).map (rightAligned width)) ++
      (if name.isEmpty then [] else ' ' :: name) ++ ['\n']
  for (c, path) in rows do
    self.say (row c (if o.operands.isEmpty then [] else path))
  if paths.length > 1 then self.say (row total "total".toList)
  return status

/-! ### Searching -/

structure Search where
  regexes : List Regex
  ignoreCase : Bool
  inverted : Bool
  wholeLine : Bool
  wholeWord : Bool

def Search.first (s : Search) (line : Octets) : Option (Nat × Nat) :=
  let spans := s.regexes.filterMap fun r => r.search s.ignoreCase line
  spans.find? fun (start, length) =>
    if s.wholeLine then start = 0 && length = line.length
    else if s.wholeWord then
      !(((line.take start).getLast?).any Octets.isNameChar) &&
        !(((line.drop (start + length)).head?).any Octets.isNameChar)
    else true

def Search.hits (s : Search) (line : Octets) : Bool := (s.first line).isSome != s.inverted

def Search.pieces (s : Search) : Nat → Octets → List Octets
  | 0, _ => []
  | n + 1, line => match s.first line with
    | none => []
    | some (start, length) =>
      let rest := line.drop (start + max length 1)
      if length = 0 then if rest.isEmpty then [] else s.pieces n rest
      else (line.drop start).take length :: s.pieces n rest

def literally (o : Octets) : Regex :=
  o.foldl (fun r c => .sequence r (.item (.one c))) .nothing

def grep (extended fixed : Bool) : Tool := fun self args => do
  let o := options "qcvinEFGxwolLhHsra" "emABC" args
  if let some c := o.unknown then
    self.warn ("invalid option -- '".toList ++ c :: ['\''])
    return 2
  let isLong (name : String) : Bool := o.letters.any fun x => x.1 = '-' && x.2 = name.toList
  let quiet := o.has 'q' || isLong "quiet" || isLong "silent"
  let (pattern, paths) := match o.value? 'e' with
    | some p => (some p, o.operands)
    | none => (o.operands.head?, o.operands.drop 1)
  match pattern with
  | none =>
    discard (Job.write self.pid 2 ("Usage: grep [OPTION]... PATTERNS [FILE]...\nTry 'grep --help' for ".toList ++
      "more information.\n".toList))
    return 2
  | some pattern =>
    let patterns := (Octets.lines pattern).map Octets.chomp
    let patterns := if patterns.isEmpty then [[]] else patterns
    let read (p : Octets) : Regex :=
      if fixed || o.has 'F' then literally p else Regex.read (extended || o.has 'E') p
    let s : Search := { regexes := patterns.map read, ignoreCase := o.has 'i', inverted := o.has 'v'
                        wholeLine := o.has 'x', wholeWord := o.has 'w' }
    let named := (paths.length > 1 || o.has 'H') && !o.has 'h'
    let limit := (o.value? 'm').bind Octets.nat?
    let mut matched := false
    let mut failed := false
    for path in if paths.isEmpty then [['-']] else paths do
      match ← self.slurp path with
      | .error cause =>
        if !o.has 's' then self.warn (path ++ ": ".toList ++ cause.toList)
        failed := true
      | .ok content =>
        let all := (Octets.lines content).zipIdx 1
        let hits := all.filter fun (l, _) => s.hits (Octets.chomp l)
        let hits := match limit with
          | some n => hits.take n
          | none => hits
        if !hits.isEmpty then matched := true
        let title := if path = ['-'] then "(standard input)".toList else path
        let before := if named then title ++ [':'] else []
        if quiet then pure ()
        else if o.has 'l' then if !hits.isEmpty then self.say (title ++ ['\n'])
        else if o.has 'L' then if hits.isEmpty then self.say (title ++ ['\n'])
        else if o.has 'c' then self.say (before ++ Octets.ofNat hits.length ++ ['\n'])
        else
          self.say (hits.flatMap fun (l, i) =>
            let place := before ++ if o.has 'n' then Octets.ofNat i ++ [':'] else []
            let l := Octets.chomp l
            if o.has 'o' then
              if s.inverted then [] else (s.pieces (l.length + 1) l).flatMap fun p => place ++ p ++ ['\n']
            else place ++ l ++ ['\n'])
    return if matched && (quiet || !failed) then 0 else if failed then 2 else 1

/-! ### Sorting and cutting -/

def leadingNumber (l : Octets) : Int × Nat :=
  let l := l.dropWhile fun c => c = ' ' || c = '\t'
  let negative := l.head? = some '-'
  let l := if negative then l.drop 1 else l
  let whole := l.takeWhile Octets.isDigit
  let rest := l.drop whole.length
  let places := if rest.head? = some '.' then (rest.drop 1).takeWhile Octets.isDigit else []
  let n : Int := ((Octets.nat? (whole ++ places)).getD 0 : Nat)
  (if negative then -n else n, places.length)

def compareNumbers (a b : Int × Nat) : Ordering :=
  let m := a.1 * Int.ofNat (Nat.pow 10 b.2)
  let n := b.1 * Int.ofNat (Nat.pow 10 a.2)
  if m < n then .lt else if n < m then .gt else .eq

/-- The fields of a line. Without a separator each field starts with the blanks before it. -/
def fieldsOf (separator : Option Char) (l : Octets) : List Octets :=
  match separator with
  | some c => l.foldr (fun d fs => match fs with
      | [] => [[d]]
      | f :: fs => if d = c then [] :: f :: fs else (d :: f) :: fs) [[]]
  | none =>
    let isBlank (c : Char) : Bool := c = ' ' || c = '\t'
    let step := fun (fs : List Octets) (c : Char) => match fs with
      | [] => [[c]]
      | f :: rest =>
        if isBlank c && f.any (!isBlank ·) then [c] :: f :: rest else (f ++ [c]) :: rest
    (l.foldl step [[]]).reverse

structure SortKey where
  first : Nat := 1
  last : Option Nat := none
  numeric : Bool := false
  reversed : Bool := false
  folded : Bool := false

namespace SortKey

/-- A key as it is written. Without letters of its own it is like the `usual` one. -/
def read (usual : SortKey) (k : Octets) : SortKey :=
  let letters := k.filter Octets.isLetter
  let own := if letters.isEmpty then usual else
    { numeric := letters.contains 'n', reversed := letters.contains 'r', folded := letters.contains 'f' }
  { own with
    first := (Octets.nat? (k.takeWhile Octets.isDigit)).getD 1
    last := Octets.nat? (((k.dropWhile (· ≠ ',')).drop 1).takeWhile Octets.isDigit) }

def part (k : SortKey) (separator : Option Char) (l : Octets) : Octets :=
  let fs := (fieldsOf separator l).drop (k.first - 1)
  Octets.join separator.toList (match k.last with
    | some n => fs.take (n + 1 - k.first)
    | none => fs)

def order (k : SortKey) (separator : Option Char) (a b : Octets) : Ordering :=
  let a := k.part separator a
  let b := k.part separator b
  let fold (l : Octets) : Octets := if k.folded then l.map Char.toUpper else l
  let o := if k.numeric then compareNumbers (leadingNumber a) (leadingNumber b)
    else Octets.order (fold a) (fold b)
  if k.reversed then o.swap else o

end SortKey

def disorder (inOrder : Octets → Octets → Bool) : Nat → List Octets → Option (Nat × Octets)
  | n, a :: b :: ls => if inOrder a b then disorder inOrder (n + 1) (b :: ls) else some (n + 1, b)
  | _, _ => none

def sort : Tool := fun self args => do
  let o := options "nrubfsVhgcC" "okt" args
  if let some c := o.unknown then return ← self.invalidOption 2 c
  let mut content : Octets := []
  for path in if o.operands.isEmpty then [['-']] else o.operands do
    match ← self.slurp path with
    | .error cause =>
      let what := if cause = "Is a directory" then "read failed: " else "cannot read: "
      self.warn (what.toList ++ path ++ ": ".toList ++ cause.toList)
      return 2
    | .ok more => content := content ++ (Octets.lines more).flatMap ended
  let separator := (o.value? 't').bind List.head?
  let usual : SortKey := { numeric := o.has 'n', reversed := o.has 'r', folded := o.has 'f' }
  let keys := match (o.letters.filter (·.1 = 'k')).map (·.2) with
    | [] => [usual]
    | ks => ks.map usual.read
  let ls := (Octets.lines content).map Octets.chomp
  let order (a b : Octets) : Ordering :=
    ((keys.map fun k => k.order separator a b).find? (· ≠ .eq)).getD .eq
  let le (a b : Octets) : Bool := match order a b with
    | .lt => true
    | .gt => false
    | .eq => o.has 's' || o.has 'u' || (if o.has 'r' then Octets.upTo b a else Octets.upTo a b)
  if o.has 'c' || o.has 'C' then
    match disorder (fun a b => le a b && !(o.has 'u' && order a b = .eq)) 1 ls with
    | none => return 0
    | some (n, l) =>
      let place := o.operands.head?.getD ['-']
      if o.has 'c' then self.warn (place ++ [':'] ++ Octets.ofNat n ++ ": disorder: ".toList ++ l)
      return 1
  let ordered := ls.mergeSort le
  let ordered := if o.has 'u' then
      ordered.foldr (fun l ls => match ls with
        | m :: _ => if order l m = .eq then l :: ls.drop 1 else l :: ls
        | [] => [l]) []
    else ordered
  let text := ordered.flatMap fun l => l ++ ['\n']
  match o.value? 'o' with
  | some path =>
    discard (self.spill path .write text)
    return 0
  | none =>
    self.say text
    return 0

def runs (same : Octets → Octets → Bool) (ls : List Octets) : List (Nat × Octets) :=
  ls.foldr (fun l rs => match rs with
    | (n, m) :: rs => if same l m then (n + 1, l) :: rs else (1, l) :: (n, m) :: rs
    | [] => [(1, l)]) []

def unique : Tool := fun self args => do
  let o := options "cdui" "fsw" args
  if let some c := o.unknown then return ← self.invalidOption 1 c
  match ← self.slurp (o.operands.head?.getD ['-']) with
  | .error cause =>
    self.warn (o.operands.head?.getD [] ++ ": ".toList ++ cause.toList)
    return 1
  | .ok content =>
    let ls := (Octets.lines content).map Octets.chomp
    let same (a b : Octets) : Bool :=
      if o.has 'i' then a.map Char.toLower = b.map Char.toLower else a = b
    let rs := (runs same ls).filter fun r =>
      (!o.has 'd' || r.1 > 1) && (!o.has 'u' || r.1 = 1)
    let text := rs.flatMap fun (n, l) =>
      (if o.has 'c' then rightAligned 7 n ++ [' '] else []) ++ l ++ ['\n']
    match o.operands[1]? with
    | some path => discard (self.spill path .write text)
    | none => self.say text
    return 0

def isListed (ranges : Octets) (i : Nat) : Bool :=
  (fieldsOf (some ',') ranges).any fun r =>
    let first := r.takeWhile Octets.isDigit
    match r.drop first.length with
    | [] => Octets.nat? first = some i
    | _ :: last => (Octets.nat? first).getD 1 ≤ i && (Octets.nat? last).all (i ≤ ·)

def cut : Tool := fun self args => do
  let o := options "sn" "dfcb" args
  if let some c := o.unknown then return ← self.invalidOption 1 c
  let separator := (o.value? 'd').bind List.head? |>.getD '\t'
  let positions := (o.value? 'c').or (o.value? 'b')
  match o.value? 'f', positions with
  | none, none =>
    self.warn "you must specify a list of bytes, characters, or fields".toList
    self.hint
    return 1
  | fields, positions =>
    self.eachFile o.operands 1 fun _ content => do
      self.say ((Octets.lines content).flatMap fun l =>
        let l := Octets.chomp l
        match fields, positions with
        | some ranges, _ =>
          if l.contains separator then
            let chosen := ((fieldsOf (some separator) l).zipIdx 1).filter fun x => isListed ranges x.2
            Octets.join [separator] (chosen.map (·.1)) ++ ['\n']
          else if o.has 's' then [] else l ++ ['\n']
        | none, some ranges =>
          ((l.zipIdx 1).filter fun x => isListed ranges x.2).map (·.1) ++ ['\n']
        | none, none => [])
      return 0

def reversedLines : Tool := fun self args =>
  self.eachFile (options "" "" args).operands 1 fun _ content => do
    self.say ((Octets.lines content).flatMap fun l =>
      (Octets.chomp l).reverse ++ if l.getLast? = some '\n' then ['\n'] else [])
    return 0

def tac : Tool := fun self args =>
  self.eachFile (options "" "" args).operands 1 fun _ content => do
    self.say (Octets.lines content).reverse.flatten
    return 0

/-! ### Replacing characters -/

def characters : Nat → Octets → Octets
  | 0, _ => []
  | _, [] => []
  | n + 1, '[' :: ':' :: cs =>
    let name := cs.takeWhile Octets.isLetter
    if [':', ']'].isPrefixOf (cs.drop name.length) then
      (List.range 256).filterMap (fun k =>
        if Pattern.isOfClass name (Char.ofNat k) then some (Char.ofNat k) else none) ++
        characters n (cs.drop (name.length + 2))
    else '[' :: characters n (':' :: cs)
  | n + 1, c :: cs =>
    let (first, rest) : Char × Octets := if c = '\\' then
        match cs with
        | d :: ds =>
          if Parse.isOctal d then
            let digits := ((d :: ds).take 3).takeWhile Parse.isOctal
            (Parse.octalValue digits, (d :: ds).drop digits.length)
          else ((Parse.namedControl? d).getD d, ds)
        | [] => ('\\', [])
      else (c, cs)
    match rest with
    | '-' :: last :: more =>
      if last = ']' && c = '[' then first :: characters n rest
      else
        (List.range 256).filterMap (fun k =>
          if first.toNat ≤ k && k ≤ last.toNat then some (Char.ofNat k) else none) ++
          characters n more
    | rest => first :: characters n rest

def squeezed (set : Octets) (o : Octets) : Octets :=
  o.foldr (fun c cs => if set.contains c && cs.head? = some c then cs else c :: cs) []

def transliterate : Tool := fun self args => do
  let o := options "dscCt" "" args
  if let some c := o.unknown then return ← self.invalidOption 1 c
  let complement := o.has 'c' || o.has 'C'
  match o.operands with
  | [] => self.missingOperand 1
  | first :: rest =>
    let set := characters (first.length + 1) first
    let set := if complement then
        (List.range 256).filterMap fun k =>
          if set.contains (Char.ofNat k) then none else some (Char.ofNat k)
      else set
    let second := (rest.head?).map fun s => characters (s.length + 1) s
    match second with
    | none =>
      if !(o.has 'd' || o.has 's') then
        self.warn ("missing operand after ".toList ++ Self.quote first)
        discard (Job.write self.pid 2 "Two strings must be given when translating.\n".toList)
        self.hint
        return 1
    | some _ => pure ()
    let content := (← Job.readAll self.pid 0 patience []).toOption.getD []
    let text := match second with
      | none =>
        let kept := if o.has 'd' then content.filter (!set.contains ·) else content
        if o.has 's' then squeezed set kept else kept
      | some target =>
        if o.has 'd' then
          let kept := content.filter (!set.contains ·)
          if o.has 's' then squeezed target kept else kept
        else
          let last := target.getLast?.getD '\x00'
          let table := set.zipIdx.map fun (c, i) => (c, target.getD i last)
          let new := content.map fun c => (table.lookup c).getD c
          if o.has 's' then squeezed target new else new
    self.say text
    return 0

def tee : Tool := fun self args => do
  let o := options "aip" "" args
  if let some c := o.unknown then return ← self.invalidOption 1 c
  let content := (← Job.readAll self.pid 0 patience []).toOption.getD []
  self.say content
  let mut status := 0
  for path in o.operands do
    if let some cause ← self.spill path (if o.has 'a' then .append else .write) content then
      self.warn (path ++ ": ".toList ++ cause.toList)
      status := 1
  return status

end Foreman.Shell.Tool
