import Foreman.Shell.Condition
import Foreman.Shell.Printing
import Foreman.Shell.Regex
import Foreman.Shell.Tool.Files

/-! Tools that print values, wait, or answer questions. -/

namespace Foreman.Shell.Tool

/-! ### Time -/

def span? (o : Octets) : Option Nat :=
  let (digits, factor) := match o.getLast? with
    | some 's' => (o.dropLast, 1)
    | some 'm' => (o.dropLast, 60)
    | some 'h' => (o.dropLast, 3600)
    | some 'd' => (o.dropLast, 86400)
    | _ => (o, 1)
  match Printing.decimal? digits with
  | some (false, n, scale) => some (n * factor * 1000000000 / Nat.pow 10 scale)
  | _ => if digits = "inf".toList || digits = "infinity".toList then some (Nat.pow 10 30) else none

def sleep : Tool := fun self args => do
  if let some ('-' :: c :: _) := args.find? fun a => a.head? = some '-' && a ≠ "--".toList then
    return ← self.invalidOption 1 c
  let args := if args.head? = some "--".toList then args.drop 1 else args
  if args.isEmpty then return ← self.missingOperand 1
  let bad := args.filter fun a => (span? a).isNone
  for a in bad do
    self.warn ("invalid time interval ".toList ++ Self.quote a)
  if !bad.isEmpty then
    self.hint
    return 1
  let total := (args.filterMap span?).foldl (· + ·) 0
  Job.restUntil ((← Job.now) + total)
  return 0

/-! ### Numbers -/

structure Figure where
  parts : Int
  places : Nat

def figure? (o : Octets) : Option Figure :=
  (Printing.decimal? o).map fun (negative, n, scale) => ⟨if negative then -n else n, scale⟩

def Figure.scaled (f : Figure) (places : Nat) : Int := f.parts * Int.ofNat (Nat.pow 10 (places - f.places))

def shownFigure (places : Nat) (parts : Int) : Octets :=
  let ds := Printing.fixed places parts.natAbs places
  if parts < 0 then '-' :: ds else ds

def progression (step last : Int) : Nat → Int → List Int
  | 0, _ => []
  | n + 1, i =>
    if (step > 0 && i > last) || (step < 0 && i < last) then []
    else i :: progression step last n (i + step)

def seq : Tool := fun self args => do
  let isNumber (a : Octets) : Bool := (figure? a).isSome
  let flags := args.takeWhile fun a => a.head? = some '-' && !isNumber a
  let equal := flags.contains "-w".toList
  let separated := args.findIdx? (· = "-s".toList)
  let separator := match separated with
    | some i => args.getD (i + 1) []
    | none => match args.find? fun a => "-s".toList.isPrefixOf a && a.length > 2 with
      | some a => a.drop 2
      | none => ['\n']
  let operands := (args.zipIdx.filter fun (a, i) =>
    isNumber a || !(a.head? = some '-' || separated.any (· + 1 = i))).map (·.1)
  if operands.isEmpty then return ← self.missingOperand 1
  if operands.length > 3 then
    self.warn ("extra operand ".toList ++ Self.quote (operands.getD 3 []))
    self.hint
    return 1
  match operands.find? fun a => !isNumber a with
  | some a =>
    self.warn ("invalid floating point argument: ".toList ++ Self.quote a)
    self.hint
    return 1
  | none =>
    let figures := operands.filterMap figure?
    let one : Figure := ⟨1, 0⟩
    let (first, step, last) := match figures with
      | [last] => (one, one, last)
      | [first, last] => (first, one, last)
      | first :: step :: last :: _ => (first, step, last)
      | [] => (one, one, one)
    let inner := max first.places (max step.places last.places)
    let shown := max first.places step.places
    if step.parts = 0 then
      self.warn ("invalid Zero increment value: ".toList ++ Self.quote (operands.getD 1 []))
      self.hint
      return 1
    let a := first.scaled inner
    let b := last.scaled inner
    let d := step.scaled inner
    let count := ((b - a).natAbs / d.natAbs) + 1
    let texts := (progression d b count a).map fun v =>
      shownFigure shown (v / Int.ofNat (Nat.pow 10 (inner - shown)))
    let width := (texts.map List.length).foldl max 0
    let texts := if equal then texts.map fun t => List.replicate (width - t.length) '0' ++ t else texts
    if !texts.isEmpty then self.say (Octets.join separator texts ++ ['\n'])
    return 0

/-! ### Expressions -/

inductive ExpressionFault where
  | malformed
  | notNumber
  | divisionByZero

def isZero (o : Octets) : Bool := o.isEmpty || Octets.int? o = some 0

def rank? (o : Octets) : Option Nat :=
  match String.ofList o with
  | "|" => some 1
  | "&" => some 2
  | "<" | "<=" | "=" | "==" | "!=" | ">=" | ">" => some 3
  | "+" | "-" => some 4
  | "*" | "/" | "%" => some 5
  | ":" => some 6
  | _ => none

def operated (op a b : Octets) : Except ExpressionFault Octets :=
  let truth (v : Bool) : Octets := if v then ['1'] else ['0']
  let numbers : Except ExpressionFault (Int × Int) := match Octets.int? a, Octets.int? b with
    | some m, some n => .ok (m, n)
    | _, _ => .error .notNumber
  let compared (f : Int → Int → Bool) (g : Octets → Octets → Bool) : Octets :=
    match Octets.int? a, Octets.int? b with
    | some m, some n => truth (f m n)
    | _, _ => truth (g a b)
  match String.ofList op with
  | "|" => .ok (if isZero a then if isZero b then ['0'] else b else a)
  | "&" => .ok (if isZero a || isZero b then ['0'] else a)
  | "<" => .ok (compared (fun m n => decide (m < n)) fun x y => decide (x < y))
  | "<=" => .ok (compared (fun m n => decide (m ≤ n)) fun x y => Octets.upTo x y)
  | "=" | "==" => .ok (compared (fun m n => decide (m = n)) fun x y => decide (x = y))
  | "!=" => .ok (compared (fun m n => decide (m ≠ n)) fun x y => decide (x ≠ y))
  | ">=" => .ok (compared (fun m n => decide (m ≥ n)) fun x y => Octets.upTo y x)
  | ">" => .ok (compared (fun m n => decide (m > n)) fun x y => decide (y < x))
  | "+" => numbers.map fun (m, n) => Octets.ofInt (m + n)
  | "-" => numbers.map fun (m, n) => Octets.ofInt (m - n)
  | "*" => numbers.map fun (m, n) => Octets.ofInt (m * n)
  | "/" => numbers.bind fun (m, n) => if n = 0 then .error .divisionByZero else .ok (Octets.ofInt (m.tdiv n))
  | "%" => numbers.bind fun (m, n) => if n = 0 then .error .divisionByZero else .ok (Octets.ofInt (m.tmod n))
  | ":" =>
    let r := Regex.read false b
    .ok (if r.hasGroup then (r.firstGroup a).getD [] else Octets.ofNat ((r.matchHere false a.length a).getD 0))
  | _ => .error .malformed

mutual

def operand : Nat → List Octets → Except ExpressionFault (Octets × List Octets)
  | 0, _ => .error .malformed
  | _, [] => .error .malformed
  | n + 1, a :: rest =>
    if a = ['('] then
      match operand n rest with
      | .error e => .error e
      | .ok (v, rest) => match operators n 1 v rest with
        | .ok (v, [')'] :: rest) => .ok (v, rest)
        | .ok _ => .error .malformed
        | .error e => .error e
    else if a = "length".toList then match rest with
      | b :: rest => .ok (Octets.ofNat b.length, rest)
      | [] => .error .malformed
    else if a = "index".toList then match rest with
      | b :: cs :: rest => .ok (Octets.ofNat (((b.findIdx? cs.contains).map (· + 1)).getD 0), rest)
      | _ => .error .malformed
    else if a = "substr".toList then match rest with
      | b :: place :: length :: rest => match Octets.nat? place, Octets.nat? length with
        | some (i + 1), some k => .ok ((b.drop i).take k, rest)
        | _, _ => .ok ([], rest)
      | _ => .error .malformed
    else .ok (a, rest)

def operators : Nat → Nat → Octets → List Octets → Except ExpressionFault (Octets × List Octets)
  | 0, _, _, _ => .error .malformed
  | _, _, a, [] => .ok (a, [])
  | n + 1, least, a, op :: rest => match rank? op with
    | none => .ok (a, op :: rest)
    | some r =>
      if r < least then .ok (a, op :: rest)
      else match operand n rest with
        | .error e => .error e
        | .ok (b, rest) => match operators n (r + 1) b rest with
          | .error e => .error e
          | .ok (b, rest) => match operated op a b with
            | .error e => .error e
            | .ok v => operators n least v rest

end

def expr : Tool := fun self args => do
  if args.isEmpty then return ← self.missingOperand 2
  let result := (operand (4 * args.length + 8) args).bind fun (v, rest) =>
    operators (4 * args.length + 8) 1 v rest
  match result with
  | .ok (v, []) =>
    self.say (v ++ ['\n'])
    return if isZero v then 1 else 0
  | .ok (_, o :: _) =>
    self.warn ("syntax error: unexpected argument ".toList ++ Self.quote o)
    return 2
  | .error .notNumber =>
    self.warn "non-integer argument".toList
    return 2
  | .error .divisionByZero =>
    self.warn "division by zero".toList
    return 2
  | .error .malformed =>
    self.warn "syntax error".toList
    return 2

/-! ### Names, texts and answers -/

def baseNameTool : Tool := fun self args => do
  let o := options "az" "s" args
  match o.operands with
  | [] => self.missingOperand 1
  | path :: rest =>
    let cut (name : Octets) (suffix : Octets) : Octets :=
      if suffix ≠ name && Octets.endsWith name suffix then name.take (name.length - suffix.length) else name
    if let (_ :: extra :: _, none, false) := (rest, o.value? 's', o.has 'a') then
      self.warn ("extra operand ".toList ++ Self.quote extra)
      self.hint
      return 1
    match o.value? 's' with
    | some suffix => self.say (o.operands.flatMap fun p => cut (baseName p) suffix ++ ['\n'])
    | none =>
      if o.has 'a' then self.say (o.operands.flatMap fun p => baseName p ++ ['\n'])
      else self.say (cut (baseName path) (rest.head?.getD []) ++ ['\n'])
    return 0

def dirNameTool : Tool := fun self args => do
  let o := options "z" "" args
  if o.operands.isEmpty then return ← self.missingOperand 1
  self.say (o.operands.flatMap fun p => dirName p ++ ['\n'])
  return 0

def echo : Tool := fun self args => do
  self.say (Printing.echo true args)
  return 0

def printf : Tool := fun self args => do
  match args with
  | [] => self.missingOperand 1
  | f :: args =>
    let out := Printing.format true f args
    self.say out.text
    for (o, inPart) in out.complaints do
      self.warn (Self.quote o ++
        (if inPart then ": value not completely converted" else ": expected a numeric value").toList)
    return if out.complaints.isEmpty && out.unknown.isNone then 0 else 1

def test (bracketed : Bool) : Tool := fun self args => do
  let closed := !bracketed || args.getLast? = some [']']
  if !closed then
    self.warn "missing ']'".toList
    return 2
  let args := if bracketed then args.dropLast else args
  let result ← Job.look fun w => Condition.test (w.ask self.dir) true args
  match result with
  | .ok v => return if v then 0 else 1
  | .error fault =>
    self.warn (fault.message true)
    return 2

def environmentText (vars : List (Octets × Octets)) : Octets :=
  vars.flatMap fun (n, v) => n ++ '=' :: v ++ ['\n']

def printEnvironment : Tool := fun self args => do
  match args with
  | [] =>
    self.say (environmentText self.environment)
    return 0
  | names =>
    let mut status := 0
    for name in names do
      match self.environment.lookup name with
      | some v => self.say (v ++ ['\n'])
      | none => status := 1
    return status

def locationText (l : Location) : Octets :=
  if l.isEmpty then ['/'] else l.flatMap fun s => '/' :: Octets.ofText s

def workingDirectory : Tool := fun self _ => do
  self.say (locationText self.dir ++ ['\n'])
  return 0

def repeatLine (self : Self) (line : Octets) : Nat → Job Nat
  | 0 => return 0
  | n + 1 => do
    match ← Job.write self.pid 1 line with
    | some _ => return 1
    | none => repeatLine self line n

def yes : Tool := fun self args =>
  let line := (if args.isEmpty then ['y'] else Octets.join [' '] args) ++ ['\n']
  repeatLine self (List.replicate (8192 / line.length + 1) line).flatten patience

def constant (status : Nat) (text : String) : Tool := fun self _ => do
  self.say text.toList
  return status

def identity : Tool := fun self args => do
  let o := options "ugGnrz" "" args
  let text := if o.has 'n' then "root\n"
    else if o.letters.isEmpty then "uid=0(root) gid=0(root) groups=0(root)\n" else "0\n"
  self.say text.toList
  return 0

def date : Tool := fun self args => do
  let seconds := (← Job.now) / 1000000000
  let text := match args with
    | a :: _ => if a = "+%s".toList then Octets.ofNat seconds else a.drop 1
    | [] => "Thu Jan  1 00:00:00 UTC 1970".toList
  self.say (text ++ ['\n'])
  return 0

/-- The signal that a name or a number means. In the long names of signals the letters that all share are
allowed too. -/
def signalOf? (long : Bool) (o : Octets) : Option Signal :=
  match Octets.nat? o with
  | some n => if n < 65 then some n else none
  | none =>
    let name := o.map Char.toUpper
    let name := String.ofList (if long && ['S', 'I', 'G'].isPrefixOf name then name.drop 3 else name)
    if name = "EXIT" then some 0 else (Ending.signalNames.findIdx? (· = name)).map (· + 1)

end Foreman.Shell.Tool
