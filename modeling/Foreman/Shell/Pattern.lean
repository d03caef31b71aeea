import Foreman.Shell.Octets

/-! Patterns for names and texts. -/

namespace Foreman.Shell

/-- A character of a pattern; one that is quoted stands for itself. -/
structure Glyph where
  char : Char
  quoted : Bool
  deriving DecidableEq

namespace Pattern

inductive Range where
  | between (first last : Char)
  | named (name : Octets)

inductive Item where
  | one (c : Char)
  | anyOne
  | anyMany
  | among (negated : Bool) (ranges : List Range)

def isPunctuation (c : Char) : Bool :=
  '!' ≤ c && c ≤ '~' && !Octets.isLetter c && !Octets.isDigit c

def isBlankChar (c : Char) : Bool := c = ' ' || ('\t' ≤ c && c ≤ '\r')

def isOfClass (name : Octets) (c : Char) : Bool :=
  match String.ofList name with
  | "alpha" => Octets.isLetter c
  | "digit" => Octets.isDigit c
  | "alnum" => Octets.isLetter c || Octets.isDigit c
  | "upper" => 'A' ≤ c && c ≤ 'Z'
  | "lower" => 'a' ≤ c && c ≤ 'z'
  | "space" => isBlankChar c
  | "blank" => c = ' ' || c = '\t'
  | "punct" => isPunctuation c
  | "print" => ' ' ≤ c && c ≤ '~'
  | "graph" => '!' ≤ c && c ≤ '~'
  | "cntrl" => c < ' ' || c = '\x7f'
  | "xdigit" => Octets.isDigit c || ('a' ≤ c && c ≤ 'f') || ('A' ≤ c && c ≤ 'F')
  | _ => false

def Range.contains (c : Char) : Range → Bool
  | .between a b => a ≤ c && c ≤ b
  | .named name => isOfClass name c

def ranges : Nat → (isFirst : Bool) → List Glyph → Option (List Range × List Glyph)
  | 0, _, _ => none
  | _, _, [] => none
  | n + 1, isFirst, g :: gs =>
    if g.char = ']' && !g.quoted && !isFirst then some ([], gs)
    else
      let (r, rest) : Range × List Glyph := match g.char, g.quoted, gs with
        | '[', false, ⟨':', _⟩ :: more =>
          let name := (more.map (·.char)).takeWhile fun c => Octets.isLetter c
          if (":]".toList).isPrefixOf ((more.drop name.length).map (·.char)) then
            (.named name, more.drop (name.length + 2))
          else (.between '[' '[', gs)
        | c, _, ⟨'-', false⟩ :: last :: more =>
          if last.char = ']' && !last.quoted then (.between c c, gs) else (.between c last.char, more)
        | c, _, _ => (.between c c, gs)
      (ranges n false rest).map fun x => (r :: x.1, x.2)

def items : Nat → List Glyph → List Item
  | 0, _ => []
  | _, [] => []
  | n + 1, g :: gs =>
    if g.quoted then .one g.char :: items n gs
    else match g.char with
      | '?' => .anyOne :: items n gs
      | '*' => .anyMany :: items n gs
      | '[' =>
        let negated := match gs with
          | ⟨'!', false⟩ :: _ | ⟨'^', false⟩ :: _ => true
          | _ => false
        match ranges gs.length true (if negated then gs.drop 1 else gs) with
        | some (rs, rest) => .among negated rs :: items n rest
        | none => .one '[' :: items n gs
      | c => .one c :: items n gs

def Item.admits (c : Char) : Item → Bool
  | .one d => c = d
  | .anyOne => true
  | .anyMany => false
  | .among negated rs => (rs.any (·.contains c)) != negated

def fits : List Item → Octets → Bool
  | [], t => t.isEmpty
  | .anyMany :: ps, [] => fits ps []
  | .anyMany :: ps, c :: cs => fits ps (c :: cs) || fits (.anyMany :: ps) cs
  | p :: ps, c :: cs => p.admits c && fits ps cs
  | _ :: _, [] => false
termination_by ps t => (ps.length, t.length)

end Pattern

def isMatch (pattern : List Glyph) (text : Octets) : Bool :=
  Pattern.fits (Pattern.items (pattern.length + 1) pattern) text

def hasWildcard (pattern : List Glyph) : Bool :=
  pattern.any fun g => !g.quoted && (g.char = '*' || g.char = '?' || g.char = '[')

def cutStart (longest : Bool) (pattern : List Glyph) (text : Octets) : Octets :=
  let lengths := List.range (text.length + 1)
  let lengths := if longest then lengths.reverse else lengths
  match lengths.find? fun n => isMatch pattern (text.take n) with
  | some n => text.drop n
  | none => text

def cutEnd (longest : Bool) (pattern : List Glyph) (text : Octets) : Octets :=
  let lengths := List.range (text.length + 1)
  let lengths := if longest then lengths else lengths.reverse
  match lengths.find? fun n => isMatch pattern (text.drop n) with
  | some n => text.take n
  | none => text

def replacePieces (all : Bool) (pattern : List Glyph) (new : Octets) : Nat → Octets → Octets
  | 0, text => text
  | _, [] => []
  | n + 1, c :: cs =>
    let lengths := ((List.range ((c :: cs).length + 1)).drop 1).reverse
    match lengths.find? fun k => isMatch pattern ((c :: cs).take k) with
    | some k =>
      let rest := (c :: cs).drop k
      new ++ if all then replacePieces all pattern new n rest else rest
    | none => c :: replacePieces all pattern new n cs

end Foreman.Shell
