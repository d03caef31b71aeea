import Foreman.Shell.Octets

/-! Sums in shell scripts: whole numbers of 64 bits with the operators of C. -/

namespace Foreman.Shell

namespace Arithmetic

inductive Token where
  | number (n : Int)
  | name (o : Octets)
  | sign (s : String)
  deriving DecidableEq

inductive Fault where
  | divisionByZero
  | malformed
  | leftOver
  | negativeExponent
  deriving DecidableEq

def signs : List String :=
  ["<<=", ">>=", "**", "++", "--", "<<", ">>", "<=", ">=", "==", "!=", "&&", "||", "+=", "-=", "*=",
    "/=", "%=", "&=", "|=", "^=", "+", "-", "*", "/", "%", "<", ">", "=", "!", "~", "&", "|", "^", "?",
    ":", ",", "(", ")"]

def digitValue (c : Char) : Nat :=
  if Octets.isDigit c then c.toNat - 48
  else if 'a' ≤ c && c ≤ 'z' then c.toNat - 87
  else if 'A' ≤ c && c ≤ 'Z' then c.toNat - 55
  else 99

def inBase (base : Nat) (digits : Octets) : Option Int :=
  if digits.any fun c => base ≤ digitValue c then none
  else some (digits.foldl (fun n c => n * base + digitValue c) 0 : Nat)

def wrap (n : Int) : Int := Int.bmod n UInt64.size

def power (a : Int) : (bits exponent : Nat) → Int
  | 0, _ => 1
  | n + 1, e =>
    if e = 0 then 1
    else
      let root := power a n (e / 2)
      if e % 2 = 0 then wrap (root * root) else wrap (wrap (root * root) * a)

/-- A number as it is written: in ten digits, in octal after a zero, in hexadecimal after `0x`, or in a
base that is named. -/
def constant (o : Octets) : Option Int :=
  let base := o.takeWhile (· ≠ '#')
  if base.length < o.length then
    match Octets.nat? base with
    | some b => (inBase b (o.drop (base.length + 1))).map wrap
    | none => none
  else match o with
    | '0' :: c :: cs =>
      if c = 'x' || c = 'X' then (inBase 16 cs).map wrap else (inBase 8 (c :: cs)).map wrap
    | o => (inBase 10 o).map wrap

def signsOf (bash : Bool) : List String :=
  if bash then signs else signs.filter fun s => !(["**", "++", "--"].contains s)

def tokens (bash : Bool) : Nat → Octets → Option (List Token)
  | 0, _ => none
  | _, [] => some []
  | n + 1, c :: cs =>
    if c = ' ' || c = '\t' || c = '\n' then tokens bash n cs
    else if Octets.isDigit c then
      let run := (c :: cs).takeWhile fun d => Octets.isNameChar d || d = '#'
      match constant run, tokens bash n ((c :: cs).drop run.length) with
      | some v, some ts => some (.number v :: ts)
      | _, _ => none
    else if Octets.isNameStart c then
      let run := (c :: cs).takeWhile Octets.isNameChar
      (tokens bash n ((c :: cs).drop run.length)).map (.name run :: ·)
    else match (signsOf bash).find? fun s => s.toList.isPrefixOf (c :: cs) with
      | some s => (tokens bash n ((c :: cs).drop s.length)).map (.sign s :: ·)
      | none => none

abbrev Ledger := List (Octets × Int)

structure State where
  rest : List Token
  assigned : Ledger := []

abbrev Sum := StateT State (Except Fault)

def peek : Sum (Option Token) := return (← get).rest.head?

def skip : Sum Unit := modify fun s => { s with rest := s.rest.drop 1 }

def accept (s : String) : Sum Bool := do
  if (← peek) = some (.sign s) then
    skip
    return true
  else return false

def strength? : String → Option Nat
  | "||" => some 1
  | "&&" => some 2
  | "|" => some 3
  | "^" => some 4
  | "&" => some 5
  | "==" | "!=" => some 6
  | "<" | "<=" | ">" | ">=" => some 7
  | "<<" | ">>" => some 8
  | "+" | "-" => some 9
  | "*" | "/" | "%" => some 10
  | "**" => some 11
  | _ => none

def truth (b : Bool) : Int := if b then 1 else 0

def bits (n : Int) : UInt64 := (Int64.ofInt n).toUInt64

def ofBits (u : UInt64) : Int := u.toInt64.toInt

def operate (op : String) (a b : Int) : Except Fault Int :=
  match op with
  | "||" => .ok (truth (a ≠ 0 || b ≠ 0))
  | "&&" => .ok (truth (a ≠ 0 && b ≠ 0))
  | "|" => .ok (ofBits (bits a ||| bits b))
  | "^" => .ok (ofBits (bits a ^^^ bits b))
  | "&" => .ok (ofBits (bits a &&& bits b))
  | "==" => .ok (truth (a = b))
  | "!=" => .ok (truth (a ≠ b))
  | "<" => .ok (truth (a < b))
  | "<=" => .ok (truth (a ≤ b))
  | ">" => .ok (truth (a > b))
  | ">=" => .ok (truth (a ≥ b))
  | "<<" => .ok (wrap (a * Int.ofNat (1 <<< (b % 64).toNat)))
  | ">>" => .ok (a >>> (b % 64).toNat)
  | "+" => .ok (wrap (a + b))
  | "-" => .ok (wrap (a - b))
  | "*" => .ok (wrap (a * b))
  | "/" => if b = 0 then .error .divisionByZero else .ok (wrap (a.tdiv b))
  | "%" => if b = 0 then .error .divisionByZero else .ok (a.tmod b)
  | "**" => if b < 0 then .error .negativeExponent else .ok (power a 64 b.toNat)
  | _ => .error .malformed

def assignments : List String := ["=", "+=", "-=", "*=", "/=", "%=", "<<=", ">>=", "&=", "|=", "^="]

variable (bash : Bool) (value : Octets → Option Int)

def valueOf (name : Octets) : Sum Int := do
  match (← get).assigned.lookup name with
  | some v => return v
  | none => match value name with
    | some v => return v
    | none => throw .malformed

def assign (name : Octets) (v : Int) : Sum Int := do
  modify fun s => { s with assigned := (name, v) :: s.assigned }
  return v

mutual

/-- What binds most tightly. With `live` off nothing is assigned and nothing can go wrong. -/
def primary (live : Bool) : Nat → Sum Int
  | 0 => throw .malformed
  | n + 1 => do
    match ← peek with
    | some (.number v) =>
      skip
      return v
    | some (.name o) =>
      skip
      let old ← valueOf value o
      match ← peek with
      | some (.sign "++") =>
        skip
        if live then discard (assign o (wrap (old + 1)))
        return old
      | some (.sign "--") =>
        skip
        if live then discard (assign o (wrap (old - 1)))
        return old
      | _ => return old
    | some (.sign "(") =>
      skip
      let v ← comma live n
      if ← accept ")" then return v else throw .malformed
    | some (.sign "+") =>
      skip
      primary live n
    | some (.sign "-") =>
      skip
      return wrap (-(← primary live n))
    | some (.sign "!") =>
      skip
      return truth ((← primary live n) = 0)
    | some (.sign "~") =>
      skip
      return wrap (-(← primary live n) - 1)
    | some (.sign s) =>
      if s = "++" || s = "--" then
        skip
        match ← peek with
        | some (.name o) =>
          skip
          let v := wrap ((← valueOf value o) + if s = "++" then 1 else -1)
          if live then assign o v else return v
        | _ => throw .malformed
      else throw .malformed
    | none => throw .malformed

def binary (live : Bool) (least : Nat) (left : Int) : Nat → Sum Int
  | 0 => throw .malformed
  | n + 1 => do
    match ← peek with
    | some (.sign op) =>
      match strength? op with
      | some s =>
        if s < least then return left
        skip
        let live' := live && !((op = "&&" && left = 0) || (op = "||" && left ≠ 0))
        let first ← primary live' n
        let right ← binary live' (if op = "**" then s else s + 1) first n
        let v ← if live' then (operate op left right : Except Fault Int)
          else pure (truth (op = "||" && left ≠ 0))
        binary live least v n
      | none => return left
    | _ => return left

def ternary (live : Bool) : Nat → Sum Int
  | 0 => throw .malformed
  | n + 1 => do
    let rest := (← get).rest
    match rest with
    | .name o :: .sign s :: _ =>
      if assignments.contains s then
        skip
        skip
        let right ← ternary live n
        let v ← if s = "=" then pure right
          else
            let old ← valueOf value o
            if live then (operate ((s.dropEnd 1).toString) old right : Except Fault Int) else pure 0
        if live then return ← assign o v else return v
    | _ => pure ()
    let first ← primary live n
    let c ← binary live 1 first n
    if ← accept "?" then
      let a ← comma (live && c ≠ 0) n
      if ← accept ":" then
        let b ← ternary (live && c = 0) n
        return if c ≠ 0 then a else b
      else throw .malformed
    else return c

def comma (live : Bool) : Nat → Sum Int
  | 0 => throw .malformed
  | n + 1 => do
    let v ← ternary live n
    if bash then if ← accept "," then return ← comma live n
    return v

end

/-- The value of an expression, and what it assigns, the last assignment first. -/
def evaluate (expression : Octets) : Except Fault (Int × Ledger) :=
  match tokens bash (expression.length + 1) expression with
  | none => .error .malformed
  | some [] => .ok (0, [])
  | some ts => match (comma bash value true (8 * ts.length + 16)).run { rest := ts } with
    | .error e => .error e
    | .ok (v, s) => if s.rest.isEmpty then .ok (v, s.assigned) else .error .leftOver

end Arithmetic
end Foreman.Shell
