import Foreman.Toml.Entries
import Foreman.Toml.Quote

/-! Whole documents: keys with values, under headings that name tables. -/

namespace Foreman.Toml

/-! ### Keys -/

def isBareKey (c : Char) : Bool :=
  Text.isDigit c || (65 ≤ c.toNat && c.toNat ≤ 90) || (97 ≤ c.toNat && c.toNat ≤ 122) ||
    c == '_' || c == '-'

def skipSpaces (s : List Char) : List Char := s.dropWhile isSpace

def endsKey (c : Char) : Bool := c == '.' || endsScalar c

def bareKey (s : List Char) : Except Fault (List Char × List Char) :=
  let k := s.takeWhile (!endsKey ·)
  if k.isEmpty then .error (.at .emptyKey s)
  else if k.all isBareKey then .ok (k, s.dropWhile isBareKey)
  else .error (.at .badKey (s.dropWhile isBareKey))

def simpleKey (s : List Char) : Except Fault (Key × List Char) := do
  let (k, rest) ← match s with
    | '"' :: '"' :: '"' :: _ => .error (.at .longKey s)
    | '\'' :: '\'' :: '\'' :: _ => .error (.at .longKey s)
    | '"' :: rest => basic rest
    | '\'' :: rest => literal rest
    | s => bareKey s
  .ok (⟨String.ofList k, .between s rest⟩, rest)

def simpleKeys (fuel : Nat) (s : List Char) : Except Fault (List Key × List Char) :=
  match fuel with
  | 0 => .error (.at .tooDeep s)
  | fuel + 1 => do
    let (k, rest) ← simpleKey (skipSpaces s)
    match skipSpaces rest with
    | '.' :: rest => do
      let (ks, rest) ← simpleKeys fuel rest
      .ok (k :: ks, rest)
    | rest => .ok ([k], rest)

/-- How many parts a key may have, and how deeply brackets may nest. -/
def depthLimit : Nat := 80

def keys (s : List Char) : Except Fault (List Key × List Char) := simpleKeys depthLimit s

/-! ### Between the values -/

def skipLines (inComment : Bool) : List Char → Except Fault (List Char)
  | [] => .ok []
  | '\n' :: rest => skipLines false rest
  | '\r' :: '\n' :: rest => skipLines false rest
  | c :: rest =>
    if inComment then if isPlain c then skipLines true rest else .error (.at .badComment (c :: rest))
    else if isSpace c then skipLines false rest
    else if c == '#' then skipLines true rest
    else if c == '\r' then .error (.at .bareReturn (c :: rest))
    else .ok (c :: rest)

def endLine (s : List Char) : Except Fault (List Char) :=
  match skipSpaces s with
  | [] => .ok []
  | '\n' :: rest => .ok rest
  | '\r' :: '\n' :: rest => .ok rest
  | '\r' :: rest => .error (.at .bareReturn ('\r' :: rest))
  | '#' :: rest => match rest.dropWhile isPlain with
    | [] => .ok []
    | '\n' :: rest => .ok rest
    | '\r' :: '\n' :: rest => .ok rest
    | rest => .error (.at .badComment rest)
  | rest => .error (.at .extraText rest)

/-! ### Values -/

def openBrace : Char := Char.ofNat 0x7B

def closeBrace : Char := Char.ofNat 0x7D

def plainValue (s : List Char) : Except Fault (Node × List Char) :=
  let (run, rest) := scalarRun s
  match scalar run with
  | .ok v => .ok ((.between s rest, v), rest)
  | .error flaw => .error (.over flaw.cause (s.drop flaw.start) (s.drop flaw.stop))

def quotedValue (s : List Char) : Except Fault (Node × List Char) := do
  let (t, rest) ← quoted s
  .ok ((.between s rest, .string (String.ofList t)), rest)

mutual

def value (fuel depth : Nat) (s : List Char) : Except Fault (Node × List Char) :=
  match fuel with
  | 0 => .error (.at .tooDeep s)
  | fuel + 1 =>
    match s with
    | [] => .error (.at .unquoted [])
    | c :: rest =>
      if c == '[' then
        if depthLimit ≤ depth then .error (.over .tooDeep s rest)
        else do
          let (vs, rest) ← items fuel (depth + 1) rest
          .ok ((.between s rest, .array vs), rest)
      else if c == openBrace then
        if depthLimit ≤ depth then .error (.over .tooDeep s rest)
        else do
          let (es, rest) ← pairs fuel (depth + 1) [] rest
          .ok ((.between s rest, .table .inline es), rest)
      else if c == '"' || c == '\'' then quotedValue s
      else if c == '=' then .error (.over .extraEquals s rest)
      else if c == ']' then .error (.at (.unopened "array" "[") s)
      else if c == closeBrace then .error (.at (.unopened "inline table" openingBrace) s)
      else plainValue s

def items (fuel depth : Nat) (s : List Char) : Except Fault (List Node × List Char) :=
  match fuel with
  | 0 => .error (.at .tooDeep s)
  | fuel + 1 => do
    match ← skipLines false s with
    | [] => .error (.at .unclosedArray [])
    | ']' :: rest => .ok ([], rest)
    | ',' :: rest => .error (.over (.extraComma "array" "value") (',' :: rest) rest)
    | s =>
      let (v, rest) ← value fuel depth s
      match ← skipLines false rest with
      | [] => .error (.at .unclosedArray [])
      | ',' :: rest => do
        let (vs, rest) ← items fuel depth rest
        .ok (v :: vs, rest)
      | ']' :: rest => .ok ([v], rest)
      | rest => .error (.at (.missingComma "array elements") rest)

def pairs (fuel depth : Nat) (es : Entries) (s : List Char) : Except Fault (Entries × List Char) :=
  match fuel with
  | 0 => .error (.at .tooDeep s)
  | fuel + 1 => do
    match ← skipLines false s with
    | [] => .error (.at .unclosedInline [])
    | c :: rest =>
      if c == closeBrace then .ok (es, rest)
      else if c == ',' then .error (.over (.extraComma "inline table" "key") (c :: rest) rest)
      else do
        let (ks, rest) ← keys (c :: rest)
        let rest ← skipLines false rest
        let '=' :: rest := rest | .error (.at .missingEquals rest)
        let (v, rest) ← value fuel depth (← skipLines false rest)
        let es ← es.assign ks v
        match ← skipLines false rest with
        | [] => .error (.at .unclosedInline [])
        | c :: rest =>
          if c == ',' then pairs fuel depth es rest
          else if c == closeBrace then .ok (es, rest)
          else .error (.at (.missingComma "key-value pairs") (c :: rest))

end

/-! ### Lines -/

structure Page where
  root : Entries := []
  heading : List Key := []

def Page.open (p : Page) (path : List Key) (f : Key → Entries → Except Fault Entries) :
    Except Fault Page :=
  match path.getLast? with
  | none => .ok p
  | some k => (p.root.under path.dropLast (f k)).map fun root => { root, heading := path }

def Page.assign (p : Page) (ks : List Key) (v : Node) : Except Fault Page :=
  (p.root.under p.heading (·.assign ks v)).map fun root => { p with root }

def Fault.behind (cause : Cause) (path : List Key) : Fault :=
  let place := (path.getLast?.map (·.span.stop)).getD 0
  ⟨cause, ⟨place, place⟩⟩

def line (p : Page) (s : List Char) : Except Fault (Page × List Char) :=
  match s with
  | '[' :: '[' :: rest => do
    let (path, rest) ← keys rest
    match rest with
    | ']' :: ']' :: rest =>
      let p ← p.open path fun k => Entries.openNext k (.between s rest)
      .ok (p, rest)
    | ']' :: rest => .error (.at (.unclosedTables "]") rest)
    | _ => .error (Fault.behind (.unclosedTables "]]") path)
  | '[' :: rest => do
    let (path, rest) ← keys rest
    match rest with
    | ']' :: rest =>
      let p ← p.open path fun k => Entries.openTable k (.between s rest)
      .ok (p, rest)
    | _ => .error (Fault.behind .unclosedTable path)
  | s => do
    let (ks, rest) ← keys s
    let '=' :: rest := rest | .error (.at .keyWithoutValue rest)
    let (v, rest) ← value (2 * rest.length + 2) 0 (skipSpaces rest)
    let p ← p.assign ks v
    .ok (p, rest)

def lines (fuel : Nat) (p : Page) (s : List Char) : Except Fault Entries :=
  match fuel with
  | 0 => .error (.at .tooDeep s)
  | fuel + 1 => do
    match ← skipLines false s with
    | [] => .ok p.root
    | s =>
      let (p, rest) ← line p s
      lines fuel p (← endLine rest)

def withoutMark (s : List Char) : List Char :=
  match s with
  | c :: rest => if c.toNat == 0xFEFF then rest else s
  | [] => []

/-- The root table of a document. A byte order mark in front is no part of the text. -/
def read (s : String) : Except Fault Entries := lines (s.length + 2) {} (withoutMark s.toList)

end Foreman.Toml
