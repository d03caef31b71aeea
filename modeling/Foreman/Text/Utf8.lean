/-! Texts as bytes. Reading never fails: each longest part that no text can begin with is read as one
replacement character. -/

namespace Foreman

abbrev Bytes := List UInt8

namespace Utf8

def replacement : Char := Char.ofNat 0xFFFD

def encodeChar (c : Char) : Bytes :=
  let n := c.toNat
  if n < 0x80 then [UInt8.ofNat n]
  else if n < 0x800 then [UInt8.ofNat (0xC0 + n / 64), UInt8.ofNat (0x80 + n % 64)]
  else if n < 0x10000 then
    [UInt8.ofNat (0xE0 + n / 4096), UInt8.ofNat (0x80 + n / 64 % 64), UInt8.ofNat (0x80 + n % 64)]
  else
    [UInt8.ofNat (0xF0 + n / 262144), UInt8.ofNat (0x80 + n / 4096 % 64),
      UInt8.ofNat (0x80 + n / 64 % 64), UInt8.ofNat (0x80 + n % 64)]

def encodeChars (s : List Char) : Bytes := s.flatMap encodeChar

def encode (s : String) : Bytes := encodeChars s.toList

/-- What has been read of a character: how many bytes are missing, the range of the next one, and the
bits gathered so far. -/
inductive State where
  | start
  | inside (missing : Nat) (low high : UInt8) (bits : Nat)
  deriving DecidableEq, Repr

def first (b : UInt8) : List Char × State :=
  if b < 0x80 then ([Char.ofNat b.toNat], .start)
  else if b < 0xC2 then ([replacement], .start)
  else if b < 0xE0 then ([], .inside 1 0x80 0xBF (b.toNat - 0xC0))
  else if b == 0xE0 then ([], .inside 2 0xA0 0xBF 0)
  else if b == 0xED then ([], .inside 2 0x80 0x9F 13)
  else if b < 0xF0 then ([], .inside 2 0x80 0xBF (b.toNat - 0xE0))
  else if b == 0xF0 then ([], .inside 3 0x90 0xBF 0)
  else if b < 0xF4 then ([], .inside 3 0x80 0xBF (b.toNat - 0xF0))
  else if b == 0xF4 then ([], .inside 3 0x80 0x8F 4)
  else ([replacement], .start)

/-- One byte. A byte out of range closes the character before it and is read as a first byte. -/
def step : State → UInt8 → List Char × State
  | .start, b => first b
  | .inside missing low high bits, b =>
    if low ≤ b && b ≤ high then
      let bits := bits * 64 + (b.toNat - 0x80)
      if missing ≤ 1 then ([Char.ofNat bits], .start) else ([], .inside (missing - 1) 0x80 0xBF bits)
    else (replacement :: (first b).1, (first b).2)

def State.close : State → List Char
  | .start => []
  | .inside .. => [replacement]

def decodeFrom (s : State) : Bytes → List Char
  | [] => s.close
  | b :: bs => (step s b).1 ++ decodeFrom (step s b).2 bs

def decodeChars (bs : Bytes) : List Char := decodeFrom .start bs

def decode (bs : Bytes) : String := String.ofList (decodeChars bs)

def decode? (bs : Bytes) : Option String :=
  let s := decodeChars bs
  if encodeChars s = bs then some (String.ofList s) else none

end Utf8
end Foreman
