import Foreman.Text.CaseTable

/-! Lowercase texts, over ASCII and over all letters. -/

namespace Foreman.Text

def isUpperAscii (c : Char) : Bool := 65 ≤ c.toNat && c.toNat ≤ 90

def lowerAscii (c : Char) : Char := if isUpperAscii c then Char.ofNat (c.toNat + 32) else c

def eqIgnoringCase (s t : String) : Bool := s.toList.map lowerAscii == t.toList.map lowerAscii

def lowerChar (c : Char) : List Char :=
  if c.toNat < 128 then [lowerAscii c]
  else if c.toNat == 0x130 then ['i', Char.ofNat 0x307]
  else match caseRuns.find? (·.covers c.toNat) with
    | some r => [Char.ofNat (c.toNat + r.offset).toNat]
    | none => [c]

def isCased (c : Char) : Bool := casedRanges.has c.toNat

def isCaseIgnorable (c : Char) : Bool := caseIgnorableRanges.has c.toNat

def meetsCased (s : List Char) : Bool := ((s.dropWhile isCaseIgnorable).head?.map isCased).getD false

/-- Lowercases a text of which `before` (nearest first) has been passed. A capital sigma that ends a word
takes its final form. -/
def lowerAfter (before : List Char) : List Char → List Char
  | [] => []
  | c :: rest =>
    (if c.toNat == 0x3A3 then
      [Char.ofNat (if meetsCased before && !meetsCased rest then 0x3C2 else 0x3C3)]
    else lowerChar c) ++ lowerAfter (c :: before) rest

def lowerChars (s : List Char) : List Char := lowerAfter [] s

def lower (s : String) : String := String.ofList (lowerChars s.toList)

end Foreman.Text
