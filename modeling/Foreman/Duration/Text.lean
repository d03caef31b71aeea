import Foreman.Duration
import Foreman.Text.Blank
import Foreman.Text.Letters
import Foreman.Text.Number

/-! Durations in configuration texts, such as `250ms` or `2 h`, and in messages. -/

namespace Foreman.Duration

inductive ReadError where
  | empty
  | missingUnit (text : String)
  | badNumber (digits : String) (cause : Text.NumberError)
  | unknownUnit (unit : String)
  | overflow
  deriving DecidableEq, Repr

def ReadError.message : ReadError → String
  | .empty => "empty duration string"
  | .missingUnit text => "duration '" ++ text ++ "' is missing a unit suffix"
  | .badNumber digits cause => "invalid duration number '" ++ digits ++ "': " ++ cause.message
  | .unknownUnit unit => "unsupported duration unit '" ++ unit ++ "'; expected ms, s, m, or h"
  | .overflow => "attempt to multiply with overflow"

def secondsChecked (n : Nat) : Except ReadError Duration :=
  if n ≤ maxCount then .ok (ofSeconds n) else .error .overflow

def ofUnit (value : Nat) (unit : List Char) : Except ReadError Duration :=
  if unit = ['m', 's'] then .ok (ofMillis value)
  else if unit = ['s'] then .ok (ofSeconds value)
  else if unit = ['m'] then secondsChecked (value * 60)
  else if unit = ['h'] then secondsChecked (value * 60 * 60)
  else .error (.unknownUnit (String.ofList unit))

def readChars (text : List Char) : Except ReadError Duration :=
  let s := Text.trimChars text
  let digits := s.takeWhile Text.isDigit
  let rest := s.dropWhile Text.isDigit
  if s.isEmpty then .error .empty
  else if rest.isEmpty then .error (.missingUnit (String.ofList s))
  else match Text.readNumber maxCount digits with
    | .error e => .error (.badNumber (String.ofList digits) e)
    | .ok value => ofUnit value (Text.lowerChars (Text.trimChars rest))

def read (text : String) : Except ReadError Duration := readChars text.toList

def fraction (width part : Nat) : String :=
  let digits := Nat.toDigits 10 part
  let padded := List.replicate (width - digits.length) '0' ++ digits
  match (padded.reverse.dropWhile (· == '0')).reverse with
  | [] => ""
  | shown => String.ofList ('.' :: shown)

/-- The largest unit with a whole part, and what is left as a decimal fraction. -/
def shown (d : Duration) : String :=
  let n := d.nanos
  if 1000000000 ≤ n then toString (n / 1000000000) ++ fraction 9 (n % 1000000000) ++ "s"
  else if 1000000 ≤ n then toString (n / 1000000) ++ fraction 6 (n % 1000000) ++ "ms"
  else if 1000 ≤ n then toString (n / 1000) ++ fraction 3 (n % 1000) ++ "µs"
  else toString n ++ "ns"

end Foreman.Duration
