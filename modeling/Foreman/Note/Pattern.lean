import Foreman.Text.Number

/-! Whether a text can stand as the wanted value of a fact in a log filter: a number, or a pattern that could be
matched. Patterns know no classes beyond ASCII, no braces and no word boundaries. -/

namespace Foreman.Note.Pattern

open Text (isDigit)

/-! ### Numbers -/

def isNamedNumber (s : List Char) : Bool :=
  ["inf", "infinity", "nan"].contains (String.ofList (s.map Char.toLower))

def isMantissa (s : List Char) : Bool :=
  s.any isDigit && (s.filter (!isDigit ·)).all (· == '.') && (s.filter (· == '.')).length ≤ 1

def withoutSign : List Char → List Char
  | '+' :: s => s
  | '-' :: s => s
  | s => s

def isExponent (s : List Char) : Bool :=
  let digits := withoutSign s
  !digits.isEmpty && digits.all isDigit

def isNumber (s : List Char) : Bool :=
  let s := withoutSign s
  let isMark (c : Char) : Bool := c == 'e' || c == 'E'
  isNamedNumber s ||
    (isMantissa (s.takeWhile (!isMark ·)) &&
      match s.dropWhile (!isMark ·) with
      | [] => true
      | _ :: exponent => isExponent exponent)

/-! ### Patterns -/

def openBrace : Char := Char.ofNat 0x7B

def isAsciiLetter (c : Char) : Bool :=
  (65 ≤ c.toNat && c.toNat ≤ 90) || (97 ≤ c.toNat && c.toNat ≤ 122)

def isHexDigit (c : Char) : Bool :=
  isDigit c || (97 ≤ c.toNat && c.toNat ≤ 102) || (65 ≤ c.toNat && c.toNat ≤ 70)

def afterCode? (width : Nat) (s : List Char) : Option (List Char) :=
  if (s.take width).length == width && (s.take width).all isHexDigit then some (s.drop width) else none

def escape? : List Char → Option (List Char)
  | [] => none
  | c :: rest =>
    if c == 'x' then afterCode? 2 rest
    else if c == 'u' then afterCode? 4 rest
    else if c == 'U' then afterCode? 8 rest
    else if 128 ≤ c.toNat then none
    else if c == '<' || c == '>' then none
    else if isDigit c || isAsciiLetter c then
      if ['a', 'f', 't', 'n', 'r', 'v'].contains c then some rest else none
    else some rest

def classNames : List String :=
  ["alnum", "alpha", "ascii", "blank", "cntrl", "digit", "graph", "lower", "print", "punct", "space",
    "upper", "word", "xdigit"]

def namedClass? (s : List Char) : Option (List Char) :=
  match s with
  | ':' :: rest =>
    let rest := if rest.head? == some '^' then rest.drop 1 else rest
    let name := rest.takeWhile isAsciiLetter
    match rest.dropWhile isAsciiLetter with
    | ':' :: ']' :: after => if classNames.contains (String.ofList name) then some after else none
    | _ => none
  | _ => none

def member? : List Char → Option (Option Nat × List Char)
  | [] => none
  | '\\' :: rest => (escape? rest).map fun after =>
    (if after.length + 1 == rest.length then rest.head?.map (·.toNat) else none, after)
  | c :: rest => some (some c.toNat, rest)

def classEnd? : Nat → Nat → List Char → Option (List Char)
  | 0, _, _ => none
  | fuel + 1, depth, s =>
    match s with
    | [] => none
    | ']' :: rest => if depth ≤ 1 then some rest else classEnd? fuel (depth - 1) rest
    | '[' :: rest =>
      match namedClass? rest with
      | some after => classEnd? fuel depth after
      | none => classEnd? fuel (depth + 1) (afterOpening rest)
    | s => match member? s with
      | none => none
      | some (low, '-' :: rest) =>
        match rest with
        | ']' :: _ | '-' :: _ => classEnd? fuel depth rest
        | [] => none
        | _ => match member? rest with
          | none => none
          | some (high, after) => match low, high with
            | some a, some b => if a ≤ b then classEnd? fuel depth after else none
            | _, _ => classEnd? fuel depth after
      | some (_, rest) => classEnd? fuel depth rest
where
  afterOpening (s : List Char) : List Char :=
    let s := if s.head? == some '^' then s.drop 1 else s
    match s.dropWhile (· == '-') with
    | ']' :: rest => if s.head? == some '-' then ']' :: rest else rest
    | rest => rest

def isNameStart (c : Char) : Bool := isAsciiLetter c || c == '_'

def isNamePart (c : Char) : Bool := isNameStart c || isDigit c || c == '.' || c == '[' || c == ']'

def groupName? (s : List Char) : Option (List Char) :=
  match s.head?, s.dropWhile isNamePart with
  | some c, '>' :: rest => if isNameStart c then some rest else none
  | _, _ => none

/-- Flags, each once, with some of them after a minus sign. Case is told apart only between bytes. -/
def areFlags (flags : List Char) : Bool :=
  let off := flags.dropWhile (· != '-')
  flags.eraseDups.length == flags.length && flags.getLast? != some '-' &&
    (off.contains 'u' || !(flags.takeWhile (· != '-')).contains 'i')

/-- What a group can begin with. The flag tells that the group is open. -/
def group? (s : List Char) : Option (Bool × List Char) :=
  match s with
  | '?' :: 'P' :: '<' :: rest => (groupName? rest).map (true, ·)
  | '?' :: '<' :: rest => (groupName? rest).map (true, ·)
  | '?' :: rest =>
    let flags := rest.takeWhile fun c => ['i', 'm', 's', 'U', 'u', 'R', 'x', '-'].contains c
    match rest.drop flags.length with
    | ':' :: after => if areFlags flags then some (true, after) else none
    | ')' :: after => if !flags.isEmpty && areFlags flags then some (false, after) else none
    | _ => none
  | s => some (true, s)

/-- The rest of a pattern is sound. The number of open groups is known, and whether what stands before can be repeated. -/
def isSound : Nat → (groups : Nat) → (repeatable : Bool) → List Char → Bool
  | 0, _, _, _ => false
  | _ + 1, groups, _, [] => groups == 0
  | fuel + 1, groups, repeatable, c :: rest =>
    if c == '(' then
      match group? rest with
      | some (true, after) => isSound fuel (groups + 1) false after
      | some (false, after) => isSound fuel groups false after
      | none => false
    else if c == ')' then 0 < groups && isSound fuel (groups - 1) true rest
    else if c == '|' then isSound fuel groups false rest
    else if c == '*' || c == '+' || c == '?' then
      repeatable && isSound fuel groups true (if rest.head? == some '?' then rest.drop 1 else rest)
    else if c == openBrace then false
    else if c == '[' then
      match classEnd? fuel 1 (classEnd?.afterOpening rest) with
      | some after => isSound fuel groups true after
      | none => false
    else if c == '\\' then
      match rest with
      | 'A' :: after | 'z' :: after => isSound fuel groups true after
      | _ => match escape? rest with
        | some after => isSound fuel groups true after
        | none => false
    else isSound fuel groups true rest

def isPattern (s : List Char) : Bool := isSound (s.length + 1) 0 false s

def isWanted (s : List Char) : Bool := isNumber s || isPattern s

end Foreman.Note.Pattern
