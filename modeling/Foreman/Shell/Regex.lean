import Foreman.Shell.Pattern

/-! Regular expressions, in the plain and in the extended notation. -/

namespace Foreman.Shell

inductive Regex where
  | nothing
  | item (i : Pattern.Item)
  | start
  | finish
  | sequence (a b : Regex)
  | either (a b : Regex)
  | group (r : Regex)
  | times (least : Nat) (most : Option Nat) (r : Regex)

namespace Regex

inductive Token where
  | opening
  | closing
  | bar
  | start
  | finish
  | repetition (least : Nat) (most : Option Nat)
  | item (i : Pattern.Item)

def bounds (o : Octets) : Option (Nat × Option Nat) :=
  let least := o.takeWhile Octets.isDigit
  match o.drop least.length with
  | [] => (Octets.nat? least).map fun n => (n, some n)
  | [','] => some ((Octets.nat? least).getD 0, none)
  | ',' :: most => (Octets.nat? most).map fun n => ((Octets.nat? least).getD 0, some n)
  | _ => none

def wordRanges : List Pattern.Range := [.named "alnum".toList, .between '_' '_']

/-- Tokens of a notation; `fresh` tells that nothing stands before in this branch. -/
def tokens (extended : Bool) : Nat → (fresh : Bool) → Octets → List Token
  | 0, _, _ => []
  | _, _, [] => []
  | n + 1, fresh, c :: cs =>
    let go := tokens extended n
    let plain := Token.item (.one c) :: go false cs
    -- an operator stands bare in one notation and behind a backslash in the other
    let operator (c : Char) (cs : Octets) : Option (List Token) :=
      if c = '(' then some (.opening :: go true cs)
      else if c = ')' then some (.closing :: go false cs)
      else if c = '|' then some (.bar :: go true cs)
      else if fresh then none
      else if c = '+' then some (.repetition 1 none :: go false cs)
      else if c = '?' then some (.repetition 0 (some 1) :: go false cs)
      else if c = '\x7b' then
        let inner := cs.takeWhile fun d => Octets.isDigit d || d = ','
        let after := (cs.drop inner.length).drop (if extended then 1 else 2)
        (bounds inner).map fun b => .repetition b.1 b.2 :: go false after
      else none
    if c = '\\' then
      match cs with
      | [] => [.item (.one '\\')]
      | d :: ds =>
        match if extended then none else operator d ds with
        | some ts => ts
        | none =>
          let i : Pattern.Item := match d with
            | 'w' => .among false wordRanges
            | 'W' => .among true wordRanges
            | 's' => .among false [.named "space".toList]
            | 'S' => .among true [.named "space".toList]
            | d => .one d
          .item i :: go false ds
    else if c = '.' then .item .anyOne :: go false cs
    else if c = '*' && !fresh then .repetition 0 none :: go false cs
    else if c = '^' && (extended || fresh) then .start :: go true cs
    else if c = '$' && (extended || cs.isEmpty || ['\\', ')'].isPrefixOf cs || ['\\', '|'].isPrefixOf cs) then
      .finish :: go false cs
    else if c = '[' then
      let negated := cs.head? = some '^'
      let inner := (if negated then cs.drop 1 else cs).map fun d => Glyph.mk d false
      match Pattern.ranges (inner.length + 1) true inner with
      | some (rs, rest) => .item (.among negated rs) :: go false (rest.map (·.char))
      | none => plain
    else if extended then (operator c cs).getD plain
    else plain

mutual

def alternatives : Nat → List Token → Regex × List Token
  | 0, ts => (.nothing, ts)
  | n + 1, ts =>
    let (a, rest) := branch n .nothing ts
    match rest with
    | .bar :: rest =>
      let (b, rest) := alternatives n rest
      (.either a b, rest)
    | rest => (a, rest)

def branch : Nat → Regex → List Token → Regex × List Token
  | 0, before, ts => (before, ts)
  | n + 1, before, ts => match ts with
    | [] | .bar :: _ | .closing :: _ => (before, ts)
    | t :: ts =>
      let (atom, rest) : Regex × List Token := match t with
        | .item i => (.item i, ts)
        | .start => (.start, ts)
        | .finish => (.finish, ts)
        | .opening =>
          let (r, rest) := alternatives n ts
          (.group r, match rest with
            | .closing :: rest => rest
            | rest => rest)
        | _ => (.nothing, ts)
      let (atom, rest) := repeated n atom rest
      branch n (.sequence before atom) rest

def repeated : Nat → Regex → List Token → Regex × List Token
  | 0, r, ts => (r, ts)
  | n + 1, r, ts => match ts with
    | .repetition least most :: ts => repeated n (.times least most r) ts
    | ts => (r, ts)

end

def read (extended : Bool) (o : Octets) : Regex :=
  let ts := tokens extended (o.length + 1) true o
  (alternatives (3 * ts.length + 3) ts).1

def repeatedEnds (step : Octets → List Octets) : Nat → Nat → Option Nat → Octets → List Octets
  | 0, least, _, t => if least = 0 then [t] else []
  | n + 1, least, most, t =>
    let more := if most = some 0 then []
      else ((step t).filter fun u => u.length < t.length || least > 0).flatMap fun u =>
        repeatedEnds step n (least - 1) (most.map (· - 1)) u
    more ++ if least = 0 then [t] else []

/-- The rests of a text that a match may leave. The whole line has `total` characters. -/
def ends (ignoreCase : Bool) (total : Nat) : Regex → Octets → List Octets
  | .nothing, t => [t]
  | .item i, t => match t with
    | c :: cs =>
      let fits := i.admits c || (ignoreCase && (i.admits c.toLower || i.admits c.toUpper))
      if fits then [cs] else []
    | [] => []
  | .start, t => if t.length = total then [t] else []
  | .finish, t => if t.isEmpty then [t] else []
  | .sequence a b, t => ((ends ignoreCase total a t).flatMap (ends ignoreCase total b)).eraseDups
  | .either a b, t => ends ignoreCase total a t ++ ends ignoreCase total b t
  | .group r, t => ends ignoreCase total r t
  | .times least most r, t =>
    (repeatedEnds (ends ignoreCase total r) (t.length + least + 1) least most t).eraseDups

def groupEnds (total : Nat) : Regex → Octets → List (Octets × Option Octets)
  | .group r, t => (r.ends false total t).map fun u => (u, some (t.take (t.length - u.length)))
  | .sequence a b, t => (groupEnds total a t).flatMap fun (u, first) =>
      (groupEnds total b u).map fun (v, second) => (v, first.or second)
  | .either a b, t => groupEnds total a t ++ groupEnds total b t
  | r, t => (r.ends false total t).map fun u => (u, none)

def firstGroup (r : Regex) (t : Octets) : Option Octets :=
  ((r.groupEnds t.length t).foldl (fun (best : Option (Octets × Option Octets)) x =>
    if best.all fun y => x.1.length < y.1.length then some x else best) none).bind (·.2)

def hasGroup : Regex → Bool
  | .group _ => true
  | .sequence a b | .either a b => a.hasGroup || b.hasGroup
  | _ => false

def matchHere (r : Regex) (ignoreCase : Bool) (total : Nat) (t : Octets) : Option Nat :=
  ((r.ends ignoreCase total t).map fun u => t.length - u.length).max?

def find (r : Regex) (ignoreCase : Bool) (total : Nat) : Nat → Octets → Option (Nat × Nat)
  | before, t => match r.matchHere ignoreCase total t, t with
    | some n, _ => some (before, n)
    | none, [] => none
    | none, _ :: cs => find r ignoreCase total (before + 1) cs

def search (r : Regex) (ignoreCase : Bool) (line : Octets) : Option (Nat × Nat) :=
  r.find ignoreCase line.length 0 line

end Regex
end Foreman.Shell
