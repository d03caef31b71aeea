import Foreman.Shell.Reading

/-! What `echo` and `printf` write. The two shells differ in the escapes they know. -/

namespace Foreman.Shell.Printing

open Parse (namedControl? octalValue isOctal isHex hexValue)

inductive Place where
  | format
  | argument
  deriving DecidableEq

def octal (cs : Octets) : Octets × Octets :=
  let digits := (cs.take 3).takeWhile isOctal
  ([octalValue digits], cs.drop digits.length)

/-- What a backslash and the characters after it stand for; nothing where all output ends. -/
def escape (bash : Bool) (place : Place) : Octets → Option (Octets × Octets)
  | [] => some (['\\'], [])
  | c :: cs =>
    if place = .argument && c = 'c' then none
    else if place = .argument && c = '0' && (bash || cs.head?.any isOctal) then
      some (if cs.head?.any isOctal then octal cs else (['\x00'], cs))
    else if isOctal c && (place = .format || !bash) then some (octal (c :: cs))
    else match namedControl? c with
      | some d => some ([d], cs)
      | none =>
        if bash && (c = 'e' || c = 'E') then some (['\x1b'], cs)
        else if bash && c = 'x' && cs.head?.any isHex then
          let digits := (cs.take 2).takeWhile isHex
          some ([Char.ofNat (digits.foldl (fun n d => n * 16 + hexValue d) 0)], cs.drop digits.length)
        else if bash && place = .format && (c = '"' || c = '\'' || c = '?') then some ([c], cs)
        else some (['\\'], c :: cs)

def unescape (bash : Bool) : Nat → Octets → Octets × Bool
  | 0, o => (o, true)
  | _, [] => ([], true)
  | n + 1, '\\' :: cs => match escape bash .argument cs with
    | none => ([], false)
    | some (now, later) =>
      let (o, goesOn) := unescape bash n later
      (now ++ o, goesOn)
  | n + 1, c :: cs =>
    let run := (c :: cs).takeWhile (· ≠ '\\')
    let (o, goesOn) := unescape bash n ((c :: cs).drop run.length)
    (run ++ o, goesOn)

def unescapeAll (bash : Bool) (o : Octets) : Octets × Bool := unescape bash (o.length + 1) o

def echoOptions (newline escapes : Bool) : List Octets → Bool × Bool × List Octets
  | [] => (newline, escapes, [])
  | w :: ws =>
    let letters := w.drop 1
    if w.head? = some '-' && !letters.isEmpty && letters.all (fun c => c = 'n' || c = 'e' || c = 'E') then
      let escapes := letters.foldl (fun e c => if c = 'e' then true else if c = 'E' then false else e)
        escapes
      echoOptions (newline && !letters.contains 'n') escapes ws
    else (newline, escapes, w :: ws)

/-- What `echo` writes. One shell knows options, the other carries out escapes always. -/
def echo (bash : Bool) (words : List Octets) : Octets :=
  let (newline, escapes, words) :=
    if bash then echoOptions true false words
    else if words.head? = some ['-', 'n'] then (false, true, words.drop 1)
    else (true, true, words)
  let line := Octets.join [' '] words
  let (text, goesOn) := if escapes then unescapeAll bash line else (line, true)
  text ++ if newline && goesOn then ['\n'] else []

/-! ### Formats -/

structure Field where
  left : Bool := false
  zero : Bool := false
  plus : Bool := false
  blank : Bool := false
  alternative : Bool := false
  width : Nat := 0
  precision : Option Nat := none

def Field.pad (f : Field) (o : Octets) : Octets :=
  let fill := List.replicate (f.width - o.length) ' '
  if f.left then o ++ fill else fill ++ o

def Field.number (f : Field) (sign digits : Octets) : Octets :=
  let digits := match f.precision with
    | some p => List.replicate (p - digits.length) '0' ++ digits
    | none => digits
  let zeros := if f.zero && !f.left && f.precision.isNone then f.width - sign.length - digits.length
    else 0
  f.pad (sign ++ List.replicate zeros '0' ++ digits)

structure Amount where
  value : Int
  whole : Bool := true
  isNone : Bool := false

def amountDigits (base : Nat) (cs : Octets) : Nat × Octets :=
  let run := cs.takeWhile fun c => isHex c && hexValue c < base
  (run.foldl (fun n c => n * base + hexValue c) 0, cs.drop run.length)

def amount (o : Octets) : Amount :=
  match o with
  | [] => { value := 0 }
  | c :: d :: rest =>
    if c = '"' || c = '\'' then { value := d.toNat, whole := rest.isEmpty } else read o
  | o => read o
where
  read (o : Octets) : Amount :=
    let o := o.dropWhile fun c => c = ' ' || c = '\t' || c = '\n'
    let negative := o.head? = some '-'
    let unsigned := if negative || o.head? = some '+' then o.drop 1 else o
    let (n, rest, some?) : Nat × Octets × Bool := match unsigned with
      | '0' :: x :: cs =>
        if (x = 'x' || x = 'X') && cs.head?.any isHex then
          let (n, rest) := amountDigits 16 cs
          (n, rest, true)
        else
          let (n, rest) := amountDigits 8 (x :: cs)
          (n, rest, true)
      | cs =>
        let (n, rest) := amountDigits 10 cs
        (n, rest, cs.head?.any Octets.isDigit)
    { value := if negative then -n else n, whole := rest.isEmpty && some?, isNone := !some? }

def digitsIn (base : Nat) (upper : Bool) (n : Nat) : Octets :=
  let ds := Nat.toDigits base n
  if upper then ds.map Char.toUpper else ds

def decimal? (o : Octets) : Option (Bool × Nat × Nat) :=
  let negative := o.head? = some '-'
  let o := if negative || o.head? = some '+' then o.drop 1 else o
  let whole := o.takeWhile Octets.isDigit
  let fraction := match o.drop whole.length with
    | '.' :: cs => cs
    | _ => []
  if (o.drop whole.length).isEmpty || (o.drop whole.length).head? = some '.' then
    if fraction.all Octets.isDigit && !(whole.isEmpty && fraction.isEmpty) then
      some (negative, (whole ++ fraction).foldl (fun n c => n * 10 + hexValue c) 0, fraction.length)
    else none
  else none

/-- A number with a fixed number of places; a half goes to the even neighbour. -/
def fixed (places : Nat) (n scale : Nat) : Octets :=
  let num := n * Nat.pow 10 places
  let den := Nat.pow 10 scale
  let q := num / den
  let r := num % den
  let q := if 2 * r > den || (2 * r = den && q % 2 = 1) then q + 1 else q
  let ds := Octets.ofNat q
  let ds := List.replicate (places + 1 - ds.length) '0' ++ ds
  if places = 0 then ds else ds.take (ds.length - places) ++ '.' :: ds.drop (ds.length - places)

structure Output where
  text : Octets := []
  complaints : List (Octets × Bool) := []
  unknown : Option Char := none
  goesOn : Bool := true

def Output.add (out : Output) (o : Octets) : Output := { out with text := out.text ++ o }

def signOf (f : Field) (negative : Bool) : Octets :=
  if negative then ['-'] else if f.plus then ['+'] else if f.blank then [' '] else []

def convert (bash : Bool) (f : Field) (kind : Char) (arg : Octets) (out : Output) : Output :=
  let number (render : Int → Octets) : Output :=
    let a := amount arg
    let out := out.add (render a.value)
    if a.whole then out else { out with complaints := out.complaints ++ [(arg, !a.isNone)] }
  let unsigned (v : Int) : Nat := (v % UInt64.size).toNat
  if kind = 'd' || kind = 'i' then
    number fun v => f.number (signOf f (v < 0)) (Octets.ofNat v.natAbs)
  else if kind = 'u' then number fun v => f.number [] (Octets.ofNat (unsigned v))
  else if kind = 'o' then
    number fun v => f.number (if f.alternative then ['0'] else []) (digitsIn 8 false (unsigned v))
  else if kind = 'x' || kind = 'X' then
    number fun v => f.number (if f.alternative && v ≠ 0 then ['0', kind] else [])
      (digitsIn 16 (kind = 'X') (unsigned v))
  else if kind = 'c' then out.add (f.pad (arg.take 1))
  else if kind = 's' then
    out.add (f.pad (match f.precision with
      | some p => arg.take p
      | none => arg))
  else if kind = 'b' then
    let (text, goesOn) := unescapeAll bash arg
    { out.add (f.pad text) with goesOn }
  else if kind = 'f' || kind = 'F' then
    match decimal? arg with
    | some (negative, n, scale) =>
      out.add ({ f with precision := none }.number (signOf f negative)
        (fixed (f.precision.getD 6) n scale))
    | none =>
      let out := out.add ({ f with precision := none }.number [] (fixed (f.precision.getD 6) 0 0))
      if arg.isEmpty then out else { out with complaints := out.complaints ++ [(arg, false)] }
  else { out with unknown := some kind, goesOn := false }

def size (cs : Octets) (args : List Octets) : Option Int × Octets × List Octets :=
  match cs with
  | '*' :: cs => (some (amount (args.head?.getD [])).value, cs, args.drop 1)
  | cs =>
    let run := cs.takeWhile Octets.isDigit
    ((Octets.nat? run).map Int.ofNat, cs.drop run.length, args)

def once (bash : Bool) : Nat → Octets → List Octets → Output → Output × List Octets
  | 0, _, args, out => (out, args)
  | _, [], args, out => (out, args)
  | n + 1, '\\' :: cs, args, out => match escape bash .format cs with
    | none => (out, args)
    | some (now, later) => once bash n later args (out.add now)
  | n + 1, '%' :: '%' :: cs, args, out => once bash n cs args (out.add ['%'])
  | n + 1, '%' :: cs, args, out =>
    let flags := cs.takeWhile fun c => c = '-' || c = '0' || c = '+' || c = ' ' || c = '#'
    let (width, cs, args) := size (cs.drop flags.length) args
    let (precision, cs, args) : Option Int × Octets × List Octets := match cs with
      | '.' :: cs =>
        let (p, cs, args) := size cs args
        (some (p.getD 0), cs, args)
      | cs => (none, cs, args)
    let f : Field := {
      left := flags.contains '-' || width.any (· < 0)
      zero := flags.contains '0'
      plus := flags.contains '+'
      blank := flags.contains ' '
      alternative := flags.contains '#'
      width := (width.getD 0).natAbs
      precision := if precision.any (· < 0) then none else precision.map Int.toNat }
    match cs with
    | [] => ({ out with unknown := some '%', goesOn := false }, args)
    | kind :: cs =>
      let out := convert bash f kind (args.head?.getD []) out
      if out.goesOn then once bash n cs (args.drop 1) out else (out, args.drop 1)
  | n + 1, c :: cs, args, out =>
    let run := (c :: cs).takeWhile fun d => d ≠ '\\' && d ≠ '%'
    once bash n ((c :: cs).drop run.length) args (out.add run)

def again (bash : Bool) (format : Octets) : Nat → List Octets → Output → Output
  | 0, _, out => out
  | n + 1, args, out =>
    let (out, rest) := once bash (format.length + 1) format args out
    if !out.goesOn || rest.isEmpty || rest.length = args.length then out
    else again bash format n rest out

def format (bash : Bool) (format : Octets) (args : List Octets) : Output :=
  again bash format (args.length + 1) args {}

end Foreman.Shell.Printing
