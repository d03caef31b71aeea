import Foreman.Toml.Scalar

/-! Texts between quotes. -/

namespace Foreman.Toml

def isPlain (c : Char) : Bool := c == '\t' || (32 ≤ c.toNat && c.toNat != 127)

def isSpace (c : Char) : Bool := c == ' ' || c == '\t'

def charOfHex? (s : List Char) : Option Char :=
  match s.mapM hexValue? with
  | none => none
  | some ds =>
    let n := ds.foldl (fun n d => n * 16 + d) 0
    if n < 0xD800 || (0xE000 ≤ n && n < 0x110000) then some (Char.ofNat n) else none

def simpleEscape? (c : Char) : Option Char :=
  if c == 'b' then some '\x08'
  else if c == 't' then some '\t'
  else if c == 'n' then some '\n'
  else if c == 'f' then some '\x0c'
  else if c == 'r' then some '\r'
  else if c == 'e' then some '\x1b'
  else if c == '"' || c == '\\' then some c
  else none

def codeWidth? (c : Char) : Option Nat :=
  if c == 'x' then some 2 else if c == 'u' then some 4 else if c == 'U' then some 8 else none

def escapeFault (c : Char) (rest : List Char) : Fault :=
  match codeWidth? c with
  | none => .at .badEscape (c :: rest)
  | some width =>
    let count := ((rest.take width).takeWhile fun c => (hexValue? c).isSome).length
    .over (if count < width then .shortCode else .badCode) rest (rest.drop count)

def put (c : Char) (r : Read (List Char)) : Read (List Char) := r.map fun (s, rest) => (c :: s, rest)

def putEscape (c? : Option Char) (fault : Fault) (r : Read (List Char)) : Read (List Char) :=
  match c? with
  | some c => put c r
  | none => .error fault

def textFault (form close plain : String) (s : List Char) : Fault :=
  match s with
  | c :: _ => .at (.badString form (if c == '\n' || c == '\r' then close else plain)) s
  | [] => .at (.badString form close) s

def basicFault (s : List Char) : Fault :=
  textFault "basic" "`\"`" "non-double-quote visible characters, `\\`" s

def literalFault (s : List Char) : Fault :=
  textFault "literal" "`'`" "non-single-quote visible characters" s

def longBasicFault (s : List Char) : Fault :=
  textFault "multi-line basic" "`\"\"\"`" "printable characters" s

def longLiteralFault (s : List Char) : Fault :=
  textFault "multi-line literal" "`'''`" "printable characters" s

def basic : List Char → Read (List Char)
  | [] => .error (basicFault [])
  | '"' :: rest => .ok ([], rest)
  | '\\' :: 'x' :: a :: b :: rest => putEscape (charOfHex? [a, b]) (escapeFault 'x' (a :: b :: rest)) (basic rest)
  | '\\' :: 'u' :: a :: b :: c :: d :: rest =>
    putEscape (charOfHex? [a, b, c, d]) (escapeFault 'u' (a :: b :: c :: d :: rest)) (basic rest)
  | '\\' :: 'U' :: a :: b :: c :: d :: e :: f :: g :: h :: rest =>
    putEscape (charOfHex? [a, b, c, d, e, f, g, h])
      (escapeFault 'U' (a :: b :: c :: d :: e :: f :: g :: h :: rest)) (basic rest)
  | '\\' :: c :: rest => putEscape (simpleEscape? c) (escapeFault c rest) (basic rest)
  | c :: rest =>
    if isPlain c && c != '\\' then put c (basic rest) else .error (basicFault (c :: rest))

def literal : List Char → Read (List Char)
  | [] => .error (literalFault [])
  | '\'' :: rest => .ok ([], rest)
  | c :: rest => if isPlain c then put c (literal rest) else .error (literalFault (c :: rest))

def continuesLine (s : List Char) : Bool :=
  match s.dropWhile isSpace with
  | '\n' :: _ => true
  | '\r' :: '\n' :: _ => true
  | _ => false

/-- The text up to three double quotes; `skipping` passes over the blank start of continued lines. -/
def longBasic (skipping : Bool) : List Char → Read (List Char)
  | [] => .error (longBasicFault [])
  | '"' :: '"' :: '"' :: '"' :: '"' :: rest => .ok (['"', '"'], rest)
  | '"' :: '"' :: '"' :: '"' :: rest => .ok (['"'], rest)
  | '"' :: '"' :: '"' :: rest => .ok ([], rest)
  | '\r' :: '\n' :: rest => if skipping then longBasic true rest else put '\n' (longBasic false rest)
  | '\n' :: rest => if skipping then longBasic true rest else put '\n' (longBasic false rest)
  | '\\' :: 'x' :: a :: b :: rest =>
    putEscape (charOfHex? [a, b]) (escapeFault 'x' (a :: b :: rest)) (longBasic false rest)
  | '\\' :: 'u' :: a :: b :: c :: d :: rest =>
    putEscape (charOfHex? [a, b, c, d]) (escapeFault 'u' (a :: b :: c :: d :: rest)) (longBasic false rest)
  | '\\' :: 'U' :: a :: b :: c :: d :: e :: f :: g :: h :: rest =>
    putEscape (charOfHex? [a, b, c, d, e, f, g, h])
      (escapeFault 'U' (a :: b :: c :: d :: e :: f :: g :: h :: rest)) (longBasic false rest)
  | '\\' :: c :: rest =>
    if continuesLine (c :: rest) then longBasic true (c :: rest)
    else putEscape (simpleEscape? c) (escapeFault c rest) (longBasic false rest)
  | c :: rest =>
    if skipping && isSpace c then longBasic true rest
    else if isPlain c && c != '\\' then put c (longBasic false rest)
    else .error (longBasicFault (c :: rest))

def longLiteral : List Char → Read (List Char)
  | [] => .error (longLiteralFault [])
  | '\'' :: '\'' :: '\'' :: '\'' :: '\'' :: rest => .ok (['\'', '\''], rest)
  | '\'' :: '\'' :: '\'' :: '\'' :: rest => .ok (['\''], rest)
  | '\'' :: '\'' :: '\'' :: rest => .ok ([], rest)
  | '\r' :: '\n' :: rest => put '\n' (longLiteral rest)
  | '\n' :: rest => put '\n' (longLiteral rest)
  | c :: rest => if isPlain c then put c (longLiteral rest) else .error (longLiteralFault (c :: rest))

def withoutFirstBreak : List Char → List Char
  | '\n' :: rest => rest
  | '\r' :: '\n' :: rest => rest
  | s => s

def quoted : List Char → Read (List Char)
  | '"' :: '"' :: '"' :: rest => longBasic false (withoutFirstBreak rest)
  | '\'' :: '\'' :: '\'' :: rest => longLiteral (withoutFirstBreak rest)
  | '"' :: rest => basic rest
  | '\'' :: rest => literal rest
  | s => .error (.at .unquoted s)

end Foreman.Toml
