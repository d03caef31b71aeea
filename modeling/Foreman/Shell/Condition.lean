import Foreman.Shell.Expansion

/-! Conditions on texts, numbers and files. -/

namespace Foreman.Shell

namespace Condition

inductive Fault where
  | illegalNumber (o : Octets)
  | unexpectedOperator (o : Octets) (expected : String)
  | argumentExpected (operator : Octets)
  | closingExpected
  | tooMany

def Fault.message (bash : Bool) : Fault → Octets
  | .illegalNumber o =>
    if bash then o ++ ": integer expression expected".toList else "Illegal number: ".toList ++ o
  | .unexpectedOperator o expected =>
    o ++ (if bash then ": " ++ expected ++ " operator expected" else ": unexpected operator").toList
  | .argumentExpected operator =>
    (if bash || operator.isEmpty then [] else operator ++ ": ".toList) ++ "argument expected".toList
  | .closingExpected => (if bash then "')' expected" else "closing paren expected").toList
  | .tooMany => "too many arguments".toList

def unaryNames : List Char :=
  ['b', 'c', 'd', 'e', 'f', 'g', 'G', 'h', 'k', 'L', 'n', 'N', 'O', 'p', 'r', 's', 'S', 't', 'u', 'w',
    'x', 'z', 'v', 'o']

def unary? : Octets → Option Char
  | ['-', c] => if unaryNames.contains c then some c else none
  | _ => none

def numeric : List String := ["-eq", "-ne", "-lt", "-le", "-gt", "-ge"]

def binaryNames : List String := ["=", "==", "!=", "<", ">", "-nt", "-ot", "-ef"] ++ numeric

def isBinary (o : Octets) : Bool := binaryNames.contains (String.ofList o)

def compare (op : String) (a b : Int) : Bool :=
  match op with
  | "-eq" => a = b
  | "-ne" => a ≠ b
  | "-lt" => a < b
  | "-le" => a ≤ b
  | "-gt" => a > b
  | _ => a ≥ b

def trimmed (o : Octets) : Octets :=
  ((o.dropWhile fun c => c = ' ' || c = '\t' || c = '\n').reverse.dropWhile fun c =>
    c = ' ' || c = '\t').reverse

def number (o : Octets) : Except Fault Int :=
  match Octets.int? (trimmed o) with
  | some n => .ok n
  | none => .error (.illegalNumber o)

variable (ask : Char → Octets → Bool)

def binary (a : Octets) (op : String) (b : Octets) : Except Fault Bool :=
  if numeric.contains op then do
    let m ← number a
    let n ← number b
    return compare op m n
  else .ok <| match op with
    | "=" | "==" => a = b
    | "!=" => a ≠ b
    | "<" => a < b
    | ">" => b < a
    | "-ef" => ask 'e' a && ask 'e' b && a = b
    | _ => false

def unary (op : Char) (o : Octets) : Bool :=
  if op = 'n' then !o.isEmpty else if op = 'z' then o.isEmpty else ask op o

mutual

def alternatives : Nat → List Octets → Except Fault (Bool × List Octets)
  | 0, _ => .error .tooMany
  | n + 1, args => do
    let (a, rest) ← conjunction n args
    match rest with
    | ['-', 'o'] :: rest =>
      let (b, rest) ← alternatives n rest
      return (a || b, rest)
    | rest => return (a, rest)

def conjunction : Nat → List Octets → Except Fault (Bool × List Octets)
  | 0, _ => .error .tooMany
  | n + 1, args => do
    let (a, rest) ← single n args
    match rest with
    | ['-', 'a'] :: rest =>
      let (b, rest) ← conjunction n rest
      return (a && b, rest)
    | rest => return (a, rest)

def single : Nat → List Octets → Except Fault (Bool × List Octets)
  | 0, _ => .error .tooMany
  | _, [] => .error (.argumentExpected [])
  | n + 1, ['!'] :: rest => do
    let (a, rest) ← single n rest
    return (!a, rest)
  | n + 1, a :: rest =>
    match rest with
    | op :: b :: more =>
      if isBinary op then return (← binary ask a (String.ofList op) b, more)
      else opening n a rest
    | _ => opening n a rest

def opening : Nat → Octets → List Octets → Except Fault (Bool × List Octets)
  | 0, _, _ => .error .tooMany
  | n + 1, a, rest =>
    if a = ['('] then do
      let (v, rest) ← alternatives n rest
      match rest with
      | [')'] :: rest => return (v, rest)
      | _ => throw .closingExpected
    else match unary? a, rest with
      | some op, b :: rest => .ok (unary ask op b, rest)
      | _, rest => .ok (!a.isEmpty, rest)

end

def compound (args : List Octets) : Except Fault Bool := do
  let (v, rest) ← alternatives ask (4 * args.length + 8) args
  match rest with
  | [] => return v
  | o :: _ => throw (.unexpectedOperator o "binary")

/-- What `test` finds in one shell: the number of words decides how they are read. -/
def testByCount (args : List Octets) : Except Fault Bool :=
  match args with
  | [] => .ok false
  | [a] => .ok (!a.isEmpty)
  | [a, b] =>
    if a = ['!'] then .ok b.isEmpty
    else match unary? a with
      | some op => .ok (unary ask op b)
      | none => .error (.unexpectedOperator (if isBinary a then a else b) "unary")
  | [a, op, b] =>
    if isBinary op then binary ask a (String.ofList op) b
    else if op = ['-', 'a'] then .ok (!a.isEmpty && !b.isEmpty)
    else if op = ['-', 'o'] then .ok (!a.isEmpty || !b.isEmpty)
    else if a = ['!'] then match unary? op with
      | some u => .ok (!unary ask u b)
      | none => .error (.unexpectedOperator op "unary")
    else if a = ['('] && b = [')'] then .ok (!op.isEmpty)
    else .error (.unexpectedOperator op "binary")
  | args => compound ask args

/-! In the other shell a word is an operator or an operand by what stands behind it. -/

inductive Sign where
  | finish
  | operand
  | unary (c : Char)
  | binary (op : String)
  | and
  | or
  | not
  | opening
  | closing
  deriving DecidableEq

def plainBinary? (o : Octets) : Option String :=
  if isBinary o && o ≠ "==".toList then some (String.ofList o) else none

def signOf : List Octets → Sign
  | [] => .finish
  | o :: rest =>
    if o = ['('] then if rest.isEmpty then .operand else .opening
    else if o = [')'] then .closing
    else if o = ['!'] then .not
    else if o = ['-', 'a'] then .and
    else if o = ['-', 'o'] then .or
    else match plainBinary? o, unary? o, rest with
      | some op, _, _ => .binary op
      | none, some c, [_] => .unary c
      | none, some c, b :: _ :: _ => if (plainBinary? b).isSome then .operand else .unary c
      | _, _, _ => .operand

mutual

def anyOf : Nat → Sign → List Octets → Except Fault (Bool × List Octets)
  | 0, _, _ => .error .tooMany
  | n + 1, sign, args => do
    let (a, args) ← allOf n sign args
    if signOf (args.drop 1) = .or then
      let args := args.drop 2
      let (b, args) ← anyOf n (signOf args) args
      return (a || b, args)
    else return (a, args)

def allOf : Nat → Sign → List Octets → Except Fault (Bool × List Octets)
  | 0, _, _ => .error .tooMany
  | n + 1, sign, args => do
    let (a, args) ← negation n sign args
    if signOf (args.drop 1) = .and then
      let args := args.drop 2
      let (b, args) ← allOf n (signOf args) args
      return (a && b, args)
    else return (a, args)

def negation : Nat → Sign → List Octets → Except Fault (Bool × List Octets)
  | 0, _, _ => .error .tooMany
  | n + 1, sign, args =>
    if sign = .not then do
      let next := signOf (args.drop 1)
      let (a, args) ← negation n next (if next = .finish then args else args.drop 1)
      return (!a, args)
    else primary n sign args

def primary : Nat → Sign → List Octets → Except Fault (Bool × List Octets)
  | 0, _, _ => .error .tooMany
  | n + 1, sign, args => match sign with
    | .finish => .ok (false, args)
    | .opening =>
      let args := args.drop 1
      if signOf args = .closing then .ok (false, args)
      else do
        let (v, args) ← anyOf n (signOf args) args
        let args := args.drop 1
        if signOf args = .closing then return (v, args) else throw .closingExpected
    | .unary c => match args.drop 1 with
      | [] => .error (.argumentExpected ['-', c])
      | b :: rest => .ok (unary ask c b, b :: rest)
    | _ => match args, signOf (args.drop 1) with
      | a :: _ :: b :: rest, .binary op => do return (← binary ask a op b, b :: rest)
      | _, .binary op => .error (.argumentExpected op.toList)
      | a :: rest, _ => .ok (!a.isEmpty, a :: rest)
      | [], _ => .ok (false, [])

end

/-- What `test` finds where words are read by their place. -/
def testByPlace (args : List Octets) : Except Fault Bool :=
  let size := args.length
  let compares := size = 3 && ((args[1]?).bind plainBinary?).isSome
  let short := (size = 3 || size = 4) && !compares
  let framed := short && args.head? = some ['('] && args.getLast? = some [')']
  let negated := short && !framed && args.head? = some ['!']
  let inner := if framed then (args.drop 1).dropLast else if negated then args.drop 1 else args
  if args.isEmpty then .ok false
  else do
    let (v, rest) ← anyOf ask (8 * size + 16) (if compares then .operand else signOf inner) inner
    match rest with
    | o :: _ :: _ => throw (.unexpectedOperator o "binary")
    | _ => return v != negated

def test (bash : Bool) (args : List Octets) : Except Fault Bool :=
  if bash then testByCount ask args else testByPlace ask args

end Condition

def World.ask (w : World) (dir : Location) (op : Char) (path : Octets) : Bool :=
  let d := w.diskFrom dir
  let p : Path := ⟨Octets.text path⟩
  let isDevice := (deviceOf? path).isSome || (descriptorOf? path).isSome
  let found := d.find p
  match op with
  | 'd' => d.isDirectory p || path = "/dev".toList
  | 'f' => match found with
    | .ok (.file _) => true
    | _ => false
  | 's' => match found with
    | .ok e => d.lengthOf e ≠ 0
    | .error _ => false
  | 'x' => match found with
    | .ok .directory => true
    | .ok (.file id) => w.runnable.contains id
    | .error _ => false
  | 'c' => isDevice
  | 'e' | 'r' | 'w' | 'O' | 'G' | 'N' => isDevice || found.toOption.isSome
  | _ => false

end Foreman.Shell
