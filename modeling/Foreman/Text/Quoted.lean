import Foreman.Text.VisibleTable

/-! A text between double quotes, in which every character can be told from its neighbours. -/

namespace Foreman.Text.Quoted

def hexDigits (n : Nat) : List Char := Nat.toDigits 16 n

def escape (c : Char) : List Char :=
  if c == '\x00' then ['\\', '0']
  else if c == '\t' then ['\\', 't']
  else if c == '\r' then ['\\', 'r']
  else if c == '\n' then ['\\', 'n']
  else if c == '\\' || c == '"' then ['\\', c]
  else if joiningRanges.has c.toNat || invisibleRanges.has c.toNat then
    ['\\', 'u', Char.ofNat 0x7B] ++ hexDigits c.toNat ++ [Char.ofNat 0x7D]
  else [c]

def encode (s : String) : String := String.ofList ('"' :: s.toList.flatMap escape ++ ['"'])

end Foreman.Text.Quoted
