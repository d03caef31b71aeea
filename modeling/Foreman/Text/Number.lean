/-! Whole numbers written in decimal digits, read into a word of a given size. -/

namespace Foreman.Text

def isDigit (c : Char) : Bool := 48 ≤ c.toNat && c.toNat ≤ 57

def digitValue (c : Char) : Nat := c.toNat - 48

inductive NumberError where
  | empty
  | invalidDigit
  | tooLarge
  deriving DecidableEq, Repr

def NumberError.message : NumberError → String
  | .empty => "cannot parse integer from empty string"
  | .invalidDigit => "invalid digit found in string"
  | .tooLarge => "number too large to fit in target type"

/-- Continues a number whose digits so far give `value`. The first digit that is none, or that leads out
of range, decides the error. -/
def readDigits (limit value : Nat) : List Char → Except NumberError Nat
  | [] => .ok value
  | c :: rest =>
    if !isDigit c then .error .invalidDigit
    else if limit < value * 10 + digitValue c then .error .tooLarge
    else readDigits limit (value * 10 + digitValue c) rest

def readNumber (limit : Nat) : List Char → Except NumberError Nat
  | [] => .error .empty
  | '+' :: c :: rest => readDigits limit 0 (c :: rest)
  | s => readDigits limit 0 s

end Foreman.Text
