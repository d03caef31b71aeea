import Foreman.Toml.Moment

/-! Values written without quotes or brackets: numbers, truth values and points in time. -/

namespace Foreman.Toml

open Text (isDigit)

def hexValue? (c : Char) : Option Nat :=
  let n := c.toNat
  if isDigit c then some (n - 48)
  else if 65 ≤ n && n ≤ 70 then some (n - 55)
  else if 97 ≤ n && n ≤ 102 then some (n - 87)
  else none

def digitIn (base : Nat) (c : Char) : Option Nat := (hexValue? c).filter (· < base)

/-- Digits, at most one underscore between two of them. -/
def digits? (base value : Nat) : List Char → Option Nat
  | [] => none
  | [c] => (digitIn base c).map (value * base + ·)
  | c :: '_' :: rest => (digitIn base c).bind fun n => digits? base (value * base + n) rest
  | c :: rest => (digitIn base c).bind fun n => digits? base (value * base + n) rest

def decimal? : List Char → Option Nat
  | ['0'] => some 0
  | '0' :: _ => none
  | s => digits? 10 0 s

def isSign (c : Char) : Bool := c == '+' || c == '-'

def unsigned : List Char → List Char
  | '+' :: s => s
  | '-' :: s => s
  | s => s

/-- The widest integers that can be told apart: from -2^127 to 2^128 - 1. -/
def inWidestRange (n : Int) : Bool := -0x80000000000000000000000000000000 ≤ n && n < 0x100000000000000000000000000000000

def integer? : List Char → Option Int
  | '0' :: 'x' :: s => (digits? 16 0 s).map Int.ofNat
  | '0' :: 'o' :: s => (digits? 8 0 s).map Int.ofNat
  | '0' :: 'b' :: s => (digits? 2 0 s).map Int.ofNat
  | '+' :: s => (decimal? s).map Int.ofNat
  | '-' :: s => (decimal? s).map fun n => -Int.ofNat n
  | s => (decimal? s).map Int.ofNat

/-! ### Numbers with a fraction -/

structure Scientific where
  digits : Nat
  exponent : Int
  deriving DecidableEq, Repr

/-- The least number that is nearer to infinity than to the largest finite one of 64 bits, or equally
near: 2^1024 - 2^970. -/
def infiniteFrom : Nat := 0x3FFFFFFFFFFFFF <<< 970

def Scientific.isInfinite (x : Scientific) : Bool :=
  let size := (Nat.toDigits 10 x.digits).length + x.exponent
  if x.digits == 0 || size < 300 then false
  else if 320 < size then true
  else infiniteFrom * Nat.pow 10 (-x.exponent).toNat ≤ x.digits * Nat.pow 10 x.exponent.toNat

def isExponentMark (c : Char) : Bool := c == 'e' || c == 'E'

def exponent? : List Char → Option Int
  | '-' :: s => (digits? 10 0 s).map fun n => -Int.ofNat n
  | s => (digits? 10 0 (unsigned s)).map Int.ofNat

def scientific? (s : List Char) : Option Scientific := do
  let mantissa := s.takeWhile (!isExponentMark ·)
  let exponent := s.dropWhile (!isExponentMark ·)
  let whole := mantissa.takeWhile (· != '.')
  let fraction := mantissa.dropWhile (· != '.')
  let value ← decimal? whole
  if fraction.isEmpty && exponent.isEmpty then none
  else do
    let digits ← if fraction.isEmpty then some value else digits? 10 value fraction.tail
    let shift ← if exponent.isEmpty then some 0 else exponent? exponent.tail
    some ⟨digits, shift - (fraction.tail.filter isDigit).length⟩

def isNamedFloat (s : List Char) : Bool := s == ['i', 'n', 'f'] || s == ['n', 'a', 'n']

def float? (s : List Char) : Except Cause (Option Value) :=
  let text := String.ofList (s.filter (· != '_'))
  if isNamedFloat (unsigned s) then .ok (some (.float text))
  else match scientific? (unsigned s) with
    | none => .ok none
    | some x => if x.isInfinite then .error .floatTooLarge else .ok (some (.float text))

/-! ### Runs of characters -/

structure Flaw where
  cause : Cause
  start : Nat
  stop : Nat
  deriving DecidableEq, Repr

def Flaw.whole (cause : Cause) (s : List Char) : Flaw := ⟨cause, 0, s.length⟩

def Flaw.one (cause : Cause) (i : Nat) : Flaw := ⟨cause, i, i + 1⟩

def isUnderscore (c : Char) : Bool := c == '_'

def isDigitOrUnderscore (c : Char) : Bool := isDigit c || isUnderscore c

def strayUnderscore? (isDigit : Char → Bool) (i : Nat) (before : Option Char) : List Char → Option Nat
  | [] => none
  | c :: rest =>
    if isUnderscore c && !(before.any isDigit && rest.head?.any isDigit) then some i
    else strayUnderscore? isDigit (i + 1) (some c) rest

def underscoreFlaw (isDigit : Char → Bool) (other : Cause) (s : List Char) : Flaw :=
  match strayUnderscore? isDigit 0 none s with
  | some i => .one .badUnderscore i
  | none => .whole other s

def radixFlaw (kind : String) (base : Nat) (s : List Char) : Flaw :=
  if s.head?.any isSign then .one .signedRadix 0
  else
    let digits := s.drop 2
    let fits (c : Char) : Bool := (digitIn base c).isSome
    if digits.head?.any isSign then .one .signedRadix 2
    else if digits.all fun c => fits c || isUnderscore c then underscoreFlaw fits .integerTooLarge s
    else
      let good := digits.takeWhile fun c => fits c || isUnderscore c
      ⟨.badDigit kind, 2 + good.length, 2 + good.length⟩

def partFlaw (name : String) (zeros : Bool) (i : Nat) (s : List Char) : Except Flaw (Nat × List Char) :=
  let front := s.takeWhile isDigitOrUnderscore
  let count := (front.filter isDigit).length
  if count == 0 then .error ⟨.noDigits name, i, i⟩
  else if 1 < count && s.head? == some '0' && !zeros then .error (.one .leadingZero i)
  else .ok (i + front.length, s.dropWhile isDigitOrUnderscore)

def floatFlaw (i : Nat) (s : List Char) : Except Flaw Unit := do
  let (i, s) ← partFlaw "mantissa" false i s
  let (i, s) ← match s with
    | '.' :: s => partFlaw "fraction" true (i + 1) s
    | s => .ok (i, s)
  let (i, s) ← match s with
    | [] => .ok (i, s)
    | c :: s =>
      if !isExponentMark c then .ok (i, c :: s)
      else match s with
        | d :: s => if isSign d then partFlaw "exponent" true (i + 2) s else partFlaw "exponent" true (i + 1) (d :: s)
        | [] => partFlaw "exponent" true (i + 1) []
  if s = [] then .ok () else .error ⟨.badFloat, i, i + s.length⟩

def wordFlaw (s : List Char) : Flaw :=
  let text := String.ofList s
  match ["true", "false", "inf", "nan"].find? fun w => text.toList.map Char.toLower == w.toList with
  | some word => .whole (.notLowercase word) s
  | none => .whole .unquoted s

def flawOf (s : List Char) : Flaw :=
  let body := unsigned s
  let shift := s.length - body.length
  match body with
  | '0' :: 'x' :: _ => radixFlaw "hexadecimal" 16 s
  | '0' :: 'o' :: _ => radixFlaw "octal" 8 s
  | '0' :: 'b' :: _ => radixFlaw "binary" 2 s
  | [] => .whole .unquoted s
  | c :: _ =>
    if shift == 1 && isSign c then .one .signTwice 1
    else if !(isDigitOrUnderscore c || c == '.') then wordFlaw s
    else
      let after := body.dropWhile isDigit
      if after.head? == some '-' || after.head? == some ':' then
        match moment s with
        | .error m => .whole (.badMoment m.what m.expected) s
        | .ok _ => .whole .unquoted s
      else if after.any fun c => c == '.' || isExponentMark c then
        match floatFlaw shift body with
        | .error flaw => flaw
        | .ok () => underscoreFlaw isDigit .floatTooLarge s
      else if after.head?.all isUnderscore then
        if c == '0' && 1 < body.length then .one .leadingZero shift
        else if after.all isDigitOrUnderscore then underscoreFlaw isDigit .integerTooLarge s
        else .whole .unquoted s
      else .whole .unquoted s

def scalar (s : List Char) : Except Flaw Value :=
  if s = ['t', 'r', 'u', 'e'] then .ok (.boolean true)
  else if s = ['f', 'a', 'l', 's', 'e'] then .ok (.boolean false)
  else match integer? s with
    | some n => if inWidestRange n then .ok (.integer n) else .error (.whole .integerTooLarge s)
    | none => match float? s with
      | .error cause => .error (.whole cause s)
      | .ok (some v) => .ok v
      | .ok none => match moment s with
        | .ok text => .ok (.moment (String.ofList text))
        | .error _ => .error (flawOf s)

def endsScalar (c : Char) : Bool :=
  c == ' ' || c == '\t' || c == '\n' || c == '\r' || c == '#' || c == ',' || c == '=' ||
    c == '[' || c == ']' || c == '"' || c == '\'' || c.toNat == 0x7B || c.toNat == 0x7D

def isDate (s : List Char) : Bool :=
  match date s with
  | .ok (_, []) => true
  | _ => false

/-- The characters of a value without quotes, and what follows. Between a date and a time of day one
space belongs to the value. -/
def scalarRun (s : List Char) : List Char × List Char :=
  let run := s.takeWhile (!endsScalar ·)
  match s.dropWhile (!endsScalar ·) with
  | ' ' :: c :: rest =>
    if isDate run && isDigit c then
      (run ++ ' ' :: (c :: rest).takeWhile (!endsScalar ·), (c :: rest).dropWhile (!endsScalar ·))
    else (run, ' ' :: c :: rest)
  | rest => (run, rest)

end Foreman.Toml
