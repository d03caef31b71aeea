import Foreman.Text.Utf8

/-! Texts as a shell sees them: one character of code below 256 for each byte. -/

namespace Foreman.Shell

abbrev Octets := List Char

namespace Octets

def ofBytes (bs : Bytes) : Octets := bs.map fun b => Char.ofNat b.toNat

def toBytes (o : Octets) : Bytes := o.map fun c => UInt8.ofNat c.toNat

def ofText (s : String) : Octets := ofBytes (Utf8.encode s)

def text (o : Octets) : String := Utf8.decode o.toBytes

def ofNat (n : Nat) : Octets := Nat.toDigits 10 n

def ofInt (n : Int) : Octets := if n < 0 then '-' :: ofNat n.natAbs else ofNat n.natAbs

def isDigit (c : Char) : Bool := '0' ≤ c && c ≤ '9'

def isLetter (c : Char) : Bool := ('a' ≤ c && c ≤ 'z') || ('A' ≤ c && c ≤ 'Z')

def isNameStart (c : Char) : Bool := isLetter c || c = '_'

def isNameChar (c : Char) : Bool := isNameStart c || isDigit c

def isName : Octets → Bool
  | [] => false
  | c :: cs => isNameStart c && cs.all isNameChar

def upTo (a b : Octets) : Bool := !decide (b < a)

def order (a b : Octets) : Ordering := if a < b then .lt else if b < a then .gt else .eq

def nat? (o : Octets) : Option Nat :=
  if o.isEmpty || !o.all isDigit then none
  else some (o.foldl (fun n c => n * 10 + (c.toNat - 48)) 0)

def int? : Octets → Option Int
  | '-' :: cs => (nat? cs).map fun n => -(n : Int)
  | '+' :: cs => (nat? cs).map fun n => (n : Int)
  | cs => (nat? cs).map fun n => (n : Int)

/-- The lines of a text with their ends; the last one may have none. -/
def lines (o : Octets) : List Octets :=
  o.foldr (fun c ls => match c, ls with
    | '\n', ls => ['\n'] :: ls
    | c, [] => [[c]]
    | c, l :: ls => (c :: l) :: ls) []

def chomp (l : Octets) : Octets := if l.getLast? = some '\n' then l.dropLast else l

def join (separator : Octets) (words : List Octets) : Octets := separator.intercalate words

def endsWith (o suffix : Octets) : Bool := suffix.isSuffixOf o

end Octets
end Foreman.Shell
