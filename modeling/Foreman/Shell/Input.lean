import Foreman.Shell.Braces

/-! The text of a script while it is being read: where the reader stands, why it cannot go on, and the pieces
that are no commands yet. -/

namespace Foreman.Shell

inductive Unexpected where
  | token (o : Octets)
  | word
  | newline
  | endOfFile
  | unterminatedQuote
  | badSubstitution
  | badLoopVariable
  deriving DecidableEq, Repr

structure SyntaxError where
  line : Nat
  unexpected : Unexpected
  expecting : Option Octets := none
  deriving DecidableEq, Repr

structure Input where
  rest : Octets
  line : Nat := 1

abbrev Parse := StateT Input (Except SyntaxError)

namespace Parse

def rest : Parse Octets := return (← get).rest

def advance (n : Nat) : Parse Unit := modify fun i =>
  { rest := i.rest.drop n, line := i.line + (i.rest.take n).count '\n' }

def fail {α : Type} (u : Unexpected) (expecting : Option Octets := none) : Parse α := do
  throw { line := (← get).line, unexpected := u, expecting }

def endsWord (c : Char) : Bool :=
  c = ' ' || c = '\t' || c = '\n' || c = ';' || c = '&' || c = '|' || c = '<' || c = '>' || c = '(' ||
    c = ')'

def isSpecial (c : Char) : Bool :=
  endsWord c || c = '\\' || c = '\'' || c = '"' || c = '$' || c = '\x60'

def blankLength : Nat → Octets → Nat
  | 0, _ => 0
  | n + 1, ' ' :: cs => 1 + blankLength n cs
  | n + 1, '\t' :: cs => 1 + blankLength n cs
  | n + 1, '\\' :: '\n' :: cs => 2 + blankLength n cs
  | _, '#' :: cs => 1 + (cs.takeWhile (· ≠ '\n')).length
  | _, _ => 0

def skipBlanks : Parse Unit := do
  let cs ← rest
  advance (blankLength cs.length cs)

def skipLines : Nat → Parse Unit
  | 0 => return
  | n + 1 => do
    skipBlanks
    match ← rest with
    | '\n' :: _ =>
      advance 1
      skipLines n
    | _ => return

def upcoming : Parse Unexpected := do
  skipBlanks
  match ← rest with
  | [] => return .endOfFile
  | '\n' :: _ => return .newline
  | ';' :: ';' :: _ => return .token [';', ';']
  | '&' :: '&' :: _ => return .token ['&', '&']
  | '|' :: '|' :: _ => return .token ['|', '|']
  | c :: cs =>
    if c = ';' || c = '&' || c = '|' || c = '(' || c = ')' then return .token [c]
    else if c = '<' || c = '>' then return .token [c]
    else
      let raw := (c :: cs).takeWhile fun c => !endsWord c
      let reserved := ["then", "else", "elif", "fi", "do", "done", "esac", "\x7d", "in"]
      if reserved.any (·.toList = raw) then return .token raw else return .word

def unexpected {α : Type} (expecting : Option String := none) : Parse α := do
  fail (← upcoming) (expecting.map String.toList)

def bareWord : Parse (Option Octets) := do
  let raw := (← rest).takeWhile fun c => !endsWord c
  return if raw.isEmpty || raw.any isSpecial then none else some raw

def takeReserved (word : String) : Parse Bool := do
  skipBlanks
  if (← bareWord) = some word.toList then
    advance word.length
    return true
  else return false

def expect (word : String) : Parse Unit := do
  unless ← takeReserved word do unexpected (some word)

def glue : List Part → List Part
  | .plain a :: ps => match glue ps with
    | .plain b :: qs => .plain (a ++ b) :: qs
    | qs => .plain a :: qs
  | .quoted a :: ps => match glue ps with
    | .quoted b :: qs => .quoted (a ++ b) :: qs
    | qs => .quoted a :: qs
  | p :: ps => p :: glue ps
  | [] => []

def spread (bash : Bool) (w : Word) : List Word :=
  if bash && (w.any fun p => match p with
      | .plain o => o.contains '\x7b'
      | _ => false) then
    (Braces.expandAtoms ((Braces.atoms w).length + 1) (Braces.atoms w)).map glue
  else [w]

/-- The home directory for a tilde at the start; in values also after each colon. -/
def withHome (inValue : Bool) : Word → Word
  | .plain ('~' :: o) :: ps =>
    let name := o.takeWhile fun c => c ≠ '/' && !(inValue && c = ':')
    let isWhole := name.length = o.length && !ps.isEmpty
    let place : Option Part := if isWhole then none
      else if name.isEmpty then some .home
      else if name = "root".toList then some (.quoted "/root".toList)
      else none
    match place with
    | some p =>
      let after := o.drop name.length
      p :: (if after.isEmpty then ps else .plain after :: ps)
    | none => .plain ('~' :: o) :: ps
  | w => w

def hexValue (c : Char) : Nat :=
  if Octets.isDigit c then c.toNat - 48
  else if 'a' ≤ c && c ≤ 'f' then c.toNat - 87
  else c.toNat - 55

def isHex (c : Char) : Bool :=
  Octets.isDigit c || ('a' ≤ c && c ≤ 'f') || ('A' ≤ c && c ≤ 'F')

def isOctal (c : Char) : Bool := '0' ≤ c && c ≤ '7'

def octalValue (cs : Octets) : Char :=
  Char.ofNat (cs.foldl (fun n c => n * 8 + (c.toNat - 48)) 0 % 256)

def namedControl? : Char → Option Char
  | 'a' => some '\x07'
  | 'b' => some '\x08'
  | 'f' => some '\x0c'
  | 'n' => some '\n'
  | 'r' => some '\r'
  | 't' => some '\t'
  | 'v' => some '\x0b'
  | '\\' => some '\\'
  | _ => none

def dollarQuoted : Nat → Octets → Octets × Octets
  | 0, cs => ([], cs)
  | _, [] => ([], [])
  | _, '\'' :: cs => ([], cs)
  | n + 1, '\\' :: c :: cs =>
    let (now, later) := match namedControl? c with
      | some d => ([d], cs)
      | none =>
        if c = 'e' then (['\x1b'], cs)
        else if c = '\'' || c = '"' || c = '?' then ([c], cs)
        else if isOctal c then
          let digits := (c :: cs).take 3 |>.takeWhile isOctal
          ([octalValue digits], (c :: cs).drop digits.length)
        else if c = 'x' && cs.head?.any isHex then
          let digits := cs.take 2 |>.takeWhile isHex
          ([Char.ofNat (digits.foldl (fun n c => n * 16 + hexValue c) 0)], cs.drop digits.length)
        else (['\\', c], cs)
    let (content, after) := dollarQuoted n later
    (now ++ content, after)
  | n + 1, c :: cs =>
    let (content, after) := dollarQuoted n cs
    (c :: content, after)

/-- The text between backquotes, and what stands behind them. Backslashes there quote backquotes,
dollars and backslashes. -/
def backquoted (inQuotes : Bool) : Nat → Octets → Option (Octets × Octets)
  | 0, _ => none
  | _, [] => none
  | _, '\x60' :: cs => some ([], cs)
  | n + 1, '\\' :: c :: cs =>
    let now := if c = '\x60' || c = '$' || c = '\\' || (inQuotes && c = '"') then [c] else ['\\', c]
    (backquoted inQuotes n cs).map fun x => (now ++ x.1, x.2)
  | n + 1, c :: cs => (backquoted inQuotes n cs).map fun x => (c :: x.1, x.2)

def untilDoubleClose : Nat → Nat → Octets → Option (Octets × Octets)
  | 0, _, _ => none
  | _, _, [] => none
  | _, 0, ')' :: ')' :: cs => some ([], cs)
  | n + 1, depth, c :: cs =>
    let depth := if c = '(' then depth + 1 else if c = ')' then depth - 1 else depth
    (untilDoubleClose n depth cs).map fun x => (c :: x.1, x.2)

def hereLines (strip : Bool) (delimiter : Octets) : List Octets → List Octets × List Octets
  | [] => ([], [])
  | l :: ls =>
    let l := if strip then l.dropWhile (· = '\t') else l
    if Octets.chomp l = delimiter then ([], ls)
    else
      let (body, after) := hereLines strip delimiter ls
      (l :: body, after)

def specialNames : Octets := ['@', '*', '#', '?', '-', '$', '!']

end Parse
end Foreman.Shell
