import Foreman.Text.Quoted
import Foreman.Text.Search
import Foreman.Text.Utf8

/-! Why a document cannot be read, and where. -/

namespace Foreman.Toml

/-- A stretch of a document, by the numbers of characters that are left to read at its two ends. -/
structure Span where
  start : Nat
  stop : Nat
  deriving DecidableEq, Repr

def Span.between (s rest : List Char) : Span := ⟨s.length, rest.length⟩

inductive Cause where
  | emptyKey
  | badKey
  | longKey
  | keyWithoutValue
  | duplicateKey
  | notExtensible (kind : String)
  | unclosedTable
  | unclosedTables (missing : String)
  | unclosedArray
  | unclosedInline
  | missingComma (between : String)
  | missingEquals
  | extraComma (place wanted : String)
  | extraEquals
  | unopened (what opening : String)
  | extraText
  | tooDeep
  | badComment
  | bareReturn
  | badString (form expected : String)
  | badEscape
  | shortCode
  | badCode
  | unquoted
  | notLowercase (word : String)
  | leadingZero
  | signTwice
  | signedRadix
  | badUnderscore
  | badDigit (kind : String)
  | noDigits (part : String)
  | badFloat
  | badMoment (what expected : String)
  | integerTooLarge
  | floatTooLarge
  | wrongType (found expected : String)
  | wrongNumber (found : Int) (expected : String)
  | unknownChoice (name : String) (choices : List String)
  | noChoice
  | choiceCount (found : String)
  | choiceContent (problem : String)
  deriving DecidableEq, Repr

def ticked (s : String) : String := "`" ++ s ++ "`"

def openingBrace : String := "\x7b"

def closingBrace : String := "\x7d"

def Cause.message : Cause → String
  | .emptyKey => "unquoted keys cannot be empty, expected letters, numbers, `-`, `_`"
  | .badKey => "invalid unquoted key, expected letters, numbers, `-`, `_`"
  | .longKey => "keys cannot be multi-line strings"
  | .keyWithoutValue => "key with no value, expected `=`"
  | .duplicateKey => "duplicate key"
  | .notExtensible kind => "cannot extend value of type " ++ kind ++ " with a dotted key"
  | .unclosedTable => "unclosed table, expected `]`"
  | .unclosedTables missing => "unclosed array table, expected " ++ ticked missing
  | .unclosedArray => "unclosed array, expected `]`"
  | .unclosedInline => "unclosed inline table, expected " ++ ticked closingBrace
  | .missingComma between => "missing comma between " ++ between ++ ", expected `,`"
  | .missingEquals => "missing assignment between key-value pairs, expected `=`"
  | .extraComma place wanted => "extra comma in " ++ place ++ ", expected " ++ wanted
  | .extraEquals => "extra `=`, expected nothing"
  | .unopened what opening => "missing " ++ what ++ " opening, expected " ++ ticked opening
  | .extraText => "unexpected key or value, expected newline, `#`"
  | .tooDeep => "cannot recurse further; max recursion depth met"
  | .badComment => "invalid comment character, expected printable characters"
  | .bareReturn => "carriage return must be followed by newline, expected newline"
  | .badString form expected => "invalid " ++ form ++ " string, expected " ++ expected
  | .badEscape =>
    "missing escaped value, expected `b`, `e`, `f`, `n`, `r`, `\\`, `\"`, `x`, `u`, `U`"
  | .shortCode => "too few unicode value digits, expected unicode hexadecimal value"
  | .badCode => "invalid value, expected unicode hexadecimal value"
  | .unquoted => "string values must be quoted, expected literal string"
  | .notLowercase word => "values must be lowercase, expected " ++ ticked word
  | .leadingZero => "unexpected leading zero, expected nothing"
  | .signTwice => "redundant numeric sign, expected nothing"
  | .signedRadix => "integers with a radix cannot be signed, expected nothing"
  | .badUnderscore => "`_` may only go between digits, expected nothing"
  | .badDigit kind => "invalid " ++ kind ++ " number"
  | .noDigits part => "invalid " ++ part ++ ", expected digits"
  | .badFloat => "invalid float, expected nothing"
  | .badMoment what expected => "invalid " ++ what ++ ", expected " ++ expected
  | .integerTooLarge => "integer number overflowed"
  | .floatTooLarge => "floating-point number overflowed"
  | .wrongType found expected => "invalid type: " ++ found ++ ", expected " ++ expected
  | .wrongNumber found expected =>
    "invalid value: integer " ++ ticked (toString found) ++ ", expected " ++ expected
  | .unknownChoice name choices =>
    "unknown variant " ++ ticked name ++ ", expected one of " ++ ", ".intercalate (choices.map ticked)
  | .noChoice => "wanted string or table"
  | .choiceCount found => "wanted exactly 1 element, " ++ found
  | .choiceContent problem => problem

structure Fault where
  cause : Cause
  span : Span
  deriving DecidableEq, Repr

def Fault.at (cause : Cause) (s : List Char) : Fault := ⟨cause, .between s s⟩

def Fault.over (cause : Cause) (s rest : List Char) : Fault := ⟨cause, .between s rest⟩

/-! ### Showing where -/

/-- A line with its number and the column of a byte in it. Both count from zero. -/
structure Place where
  line : Nat
  column : Nat
  deriving DecidableEq, Repr

/-- The column is counted in characters, unless a longer character begins there: then in bytes. A place
behind the last byte counts as one column after it. -/
def Place.ofByte (bytes : Bytes) (index : Nat) : Place :=
  let inside := min index (bytes.length - 1)
  let before := bytes.take inside
  let offset := (before.reverse.takeWhile (· != 10)).length
  let column := match Utf8.decode? ((bytes.drop (inside - offset)).take (offset + 1)) with
    | some s => s.length - 1
    | none => offset
  ⟨before.count 10, column + (index - inside)⟩

def Fault.report (document : String) (f : Fault) : String :=
  let chars := document.toList
  let byteAt (left : Nat) : Nat := (Utf8.encodeChars (chars.take (chars.length - left))).length
  let start := byteAt f.span.start
  let place := Place.ofByte (Utf8.encode document) start
  let line := (Text.splitText '\n' document)[place.line]?.getD ""
  let number := toString (place.line + 1)
  let width := min (byteAt f.span.stop - start) (line.utf8ByteSize - place.column)
  let gutter := String.ofList (List.replicate (number.length + 1) ' ') ++ "|"
  "TOML parse error at line " ++ number ++ ", column " ++ toString (place.column + 1) ++ "\n" ++
    gutter ++ "\n" ++ number ++ " | " ++ line ++ "\n" ++
    gutter ++ String.ofList (List.replicate (place.column + 1) ' ') ++
    String.ofList (List.replicate (max width 1) '^') ++ "\n" ++ f.cause.message ++ "\n"

abbrev Read (α : Type) := Except Fault (α × List Char)

end Foreman.Toml
