import Foreman.Duration

/-! Seconds as a binary fraction of 53 significant bits, and the whole number nearest to it. Every
rounding goes to the nearest value, a tie to the even one. -/

namespace Foreman.Duration

def roundRatio (num den : Nat) : Nat :=
  let q := num / den
  let r := num % den
  if 2 * r < den then q else if den < 2 * r then q + 1 else q + q % 2

structure Ratio where
  num : Nat
  den : Nat := 1
  deriving DecidableEq, Repr

namespace Ratio

def add (a b : Ratio) : Ratio := ⟨a.num * b.den + b.num * a.den, a.den * b.den⟩

def scale (a : Ratio) (e : Int) : Ratio := ⟨a.num <<< e.toNat, a.den <<< (-e).toNat⟩

def exponent (a : Ratio) : Int :=
  let e : Int := 52 - ((a.num.log2 : Int) - a.den.log2)
  let b := a.scale e
  if b.num / b.den < 0x10000000000000 then e + 1 else e

def toBinary (a : Ratio) : Ratio :=
  if a.num = 0 then ⟨0, 1⟩
  else
    let e := a.exponent
    let b := a.scale e
    (Ratio.mk (roundRatio b.num b.den) 1).scale (-e)

end Ratio

/-- The seconds as they are measured: whole seconds and the part below a second are rounded first, then
their sum. -/
def measuredSeconds (d : Duration) : Ratio :=
  ((Ratio.mk d.seconds 1).toBinary.add (Ratio.mk d.subsecond 1000000000).toBinary).toBinary

def roundedSeconds (d : Duration) : Nat := roundRatio d.measuredSeconds.num d.measuredSeconds.den

end Foreman.Duration
