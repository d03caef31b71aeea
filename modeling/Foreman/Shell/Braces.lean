import Foreman.Shell.Tree

/-! Words with choices between braces: the words that they stand for. -/

namespace Foreman.Shell.Braces

/-- The parts of a word, each character that is not quoted by itself. -/
def atoms (w : Word) : List Part := w.flatMap fun
  | .plain o => o.map fun c => .plain [c]
  | p => [p]

def charOf? : Part → Option Char
  | .plain [c] => some c
  | _ => none

def alternatives : Nat → List Part → Option (List (List Part) × List Part)
  | _, [] => none
  | depth, p :: ps =>
    let grow (depth : Nat) := (alternatives depth ps).map fun x => match x.1 with
      | first :: more => ((p :: first) :: more, x.2)
      | [] => ([[p]], x.2)
    match charOf? p with
    | some '\x7b' => grow (depth + 1)
    | some '\x7d' => if depth = 0 then some ([[]], ps) else grow (depth - 1)
    | some ',' => if depth = 0 then (alternatives 0 ps).map fun x => ([] :: x.1, x.2) else grow depth
    | _ => grow depth

def steps (a b : Int) (step : Nat) : List Int :=
  let count := (b - a).natAbs / max step 1 + 1
  (List.range count).map fun i => if a ≤ b then a + (i * max step 1 : Nat) else a - (i * max step 1 : Nat)

def dotted (o : Octets) : List Octets :=
  match o with
  | '.' :: '.' :: rest => [] :: dotted rest
  | c :: rest => match dotted rest with
    | first :: more => (c :: first) :: more
    | [] => [[c]]
  | [] => [[]]

def progression (o : Octets) : Option (List Octets) :=
  let go (a b : Octets) (step : Nat) : Option (List Octets) :=
    match Octets.int? a, Octets.int? b, a, b with
    | some m, some n, _, _ => some ((steps m n step).map Octets.ofInt)
    | none, none, [c], [d] =>
      if Octets.isLetter c && Octets.isLetter d then
        some ((steps c.toNat d.toNat step).map fun i => [Char.ofNat i.toNat])
      else none
    | _, _, _, _ => none
  match dotted o with
  | [a, b] => go a b 1
  | [a, b, step] => (Octets.int? step).bind fun i => go a b i.natAbs
  | _ => none

/-- All words that a word with braces stands for. -/
def expandAtoms : Nat → List Part → List (List Part)
  | 0, ps => [ps]
  | _, [] => [[]]
  | n + 1, p :: ps =>
    let literal := (expandAtoms n ps).map (p :: ·)
    if (charOf? p) ≠ some '\x7b' then literal
    else match alternatives 0 ps with
      | none => literal
      | some ([inner], rest) =>
        if inner.any fun q => (charOf? q).isNone then literal
        else match progression (inner.filterMap charOf?) with
          | some texts => texts.flatMap fun o => (expandAtoms n rest).map (.plain o :: ·)
          | none => literal
      | some (choices, rest) =>
        let ends := expandAtoms n rest
        (choices.flatMap (expandAtoms n)).flatMap fun start => ends.map (start ++ ·)

end Foreman.Shell.Braces
