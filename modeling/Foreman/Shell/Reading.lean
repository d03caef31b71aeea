import Foreman.Shell.Input

/-! Reading shell scripts. A script is read and carried out line by line, so what stands before a line that
cannot be read still counts. -/

namespace Foreman.Shell

namespace Parse

mutual

def dollar (bash inQuotes : Bool) : Nat → Parse Part
  | 0 => unexpected
  | n + 1 => do
    match ← rest with
    | '(' :: '(' :: cs =>
      match untilDoubleClose (cs.length + 1) 0 cs with
      | none => fail .endOfFile (some [')', ')'])
      | some (expression, _) =>
        advance (expression.length + 4)
        return .sum (← inside expression (quotedParts bash false n)) inQuotes
    | '(' :: _ =>
      advance 1
      let body ← list bash n
      match ← rest with
      | ')' :: _ =>
        advance 1
        return .output body inQuotes
      | _ => unexpected (some ")")
    | '\x7b' :: _ =>
      advance 1
      braced bash inQuotes n
    | '\'' :: cs =>
      if bash && !inQuotes then
        let (content, after) := dollarQuoted (cs.length + 1) cs
        advance (1 + cs.length - after.length)
        return .quoted content
      else return .quoted ['$']
    | c :: cs =>
      if Octets.isNameStart c then
        let name := (c :: cs).takeWhile Octets.isNameChar
        advance name.length
        return .variable name .value inQuotes
      else if Octets.isDigit c || specialNames.contains c then
        advance 1
        return .variable [c] .value inQuotes
      else return .quoted ['$']
    | [] => return .quoted ['$']

def inside (piece : Octets) (reader : Parse (List Part)) : Parse (List Part) := do
  let outer ← get
  match reader.run { rest := piece, line := outer.line } with
  | .ok (parts, _) => return parts
  | .error e => throw e

def braced (bash inQuotes : Bool) : Nat → Parse Part
  | 0 => unexpected
  | n + 1 => do
    let close (p : Part) : Parse Part := do
      match ← rest with
      | '\x7d' :: _ =>
        advance 1
        return p
      | _ => fail .badSubstitution
    let cs ← rest
    match cs with
    | '#' :: '\x7d' :: _ =>
      advance 2
      return .variable ['#'] .value inQuotes
    | '#' :: c :: cs =>
      if Octets.isNameChar c || specialNames.contains c then
        let name := if Octets.isNameStart c then (c :: cs).takeWhile Octets.isNameChar
          else if Octets.isDigit c then (c :: cs).takeWhile Octets.isDigit
          else [c]
        advance (1 + name.length)
        close (.variable name .length inQuotes)
      else fail .badSubstitution
    | c :: cs =>
      let name := if Octets.isNameStart c then (c :: cs).takeWhile Octets.isNameChar
        else if Octets.isDigit c then (c :: cs).takeWhile Octets.isDigit
        else if specialNames.contains c then [c]
        else []
      if name.isEmpty then fail .badSubstitution
      advance name.length
      let word := bracedParts bash inQuotes n
      let form : Form ← do
        match ← rest with
        | ':' :: '-' :: _ =>
          advance 2
          pure (.default true (← word))
        | '-' :: _ =>
          advance 1
          pure (.default false (← word))
        | ':' :: '=' :: _ =>
          advance 2
          pure (.assign true (← word))
        | '=' :: _ =>
          advance 1
          pure (.assign false (← word))
        | ':' :: '+' :: _ =>
          advance 2
          pure (.instead true (← word))
        | '+' :: _ =>
          advance 1
          pure (.instead false (← word))
        | ':' :: '?' :: _ =>
          advance 2
          pure (.required true (← word))
        | '?' :: _ =>
          advance 1
          pure (.required false (← word))
        | '#' :: '#' :: _ =>
          advance 2
          pure (.cutStart true (← bracedParts bash false n))
        | '#' :: _ =>
          advance 1
          pure (.cutStart false (← bracedParts bash false n))
        | '%' :: '%' :: _ =>
          advance 2
          pure (.cutEnd true (← bracedParts bash false n))
        | '%' :: _ =>
          advance 1
          pure (.cutEnd false (← bracedParts bash false n))
        | '/' :: cs =>
          if bash then
            let all := cs.head? = some '/'
            advance (if all then 2 else 1)
            let pattern ← bracedUntil ['/', '\x7d'] bash false n
            if (← rest).head? = some '/' then
              advance 1
              pure (.replace all pattern (← word))
            else pure (.replace all pattern [])
          else
            discard word
            pure .unknown
        | '^' :: cs =>
          if bash then
            let all := cs.head? = some '^'
            advance (if all then 2 else 1)
            pure (.recased true all)
          else
            discard word
            pure .unknown
        | ',' :: cs =>
          if bash then
            let all := cs.head? = some ','
            advance (if all then 2 else 1)
            pure (.recased false all)
          else
            discard word
            pure .unknown
        | ':' :: _ =>
          if bash then
            advance 1
            let offset ← bracedUntil [':', '\x7d'] bash true n
            if (← rest).head? = some ':' then
              advance 1
              pure (.slice offset (some (← bracedUntil ['\x7d'] bash true n)))
            else pure (.slice offset none)
          else
            discard word
            pure .unknown
        | '\x7d' :: _ => pure .value
        | _ =>
          if bash then pure .value
          else
            discard word
            pure .unknown
      close (.variable name form inQuotes)
    | [] => fail .badSubstitution

def bracedParts (bash inQuotes : Bool) : Nat → Parse (List Part)
  | 0 => unexpected
  | n + 1 => bracedUntil ['\x7d'] bash inQuotes n

def bracedUntil (ends : Octets) (bash inQuotes : Bool) : Nat → Parse (List Part)
  | 0 => unexpected
  | n + 1 => do
    let cs ← rest
    match cs with
    | [] => fail .endOfFile (some ['\x7d'])
    | c :: after =>
      if ends.contains c then return []
      let p : Part ← do
        if c = '\\' then
          match after with
          | d :: _ =>
            advance 2
            if d = '\n' then pure (.plain [])
            else if inQuotes && !(d = '$' || d = '\x60' || d = '"' || d = '\\' || d = '\x7d') then
              pure (.quoted ['\\', d])
            else pure (.quoted [d])
          | [] =>
            advance 1
            pure (.quoted ['\\'])
        else if c = '\'' && !inQuotes then
          let content := after.takeWhile (· ≠ '\'')
          if content.length = after.length then fail .unterminatedQuote
          advance (content.length + 2)
          pure (.quoted content)
        else if c = '"' then
          advance 1
          let ps ← quotedParts bash true n
          -- the quoted parts stand for one piece of text
          pure (.variable [] (.default false (.quoted [] :: ps)) true)
        else if c = '$' then
          advance 1
          dollar bash inQuotes n
        else if c = '\x60' then
          advance 1
          backquote bash inQuotes n
        else
          let run := cs.takeWhile fun d => !(isSpecial d || ends.contains d)
          let run := if run.isEmpty then [c] else run
          advance run.length
          pure (if inQuotes then .quoted run else .plain run)
      return p :: (← bracedUntil ends bash inQuotes n)

def backquote (bash inQuotes : Bool) : Nat → Parse Part
  | 0 => unexpected
  | n + 1 => do
    let cs ← rest
    match backquoted inQuotes (cs.length + 1) cs with
    | none => fail .endOfFile (some ['\x60'])
    | some (content, after) =>
      let line := (← get).line
      advance (cs.length - after.length)
      match (list bash n).run { rest := content, line } with
      | .ok (body, _) => return .output body inQuotes
      | .error e => throw e

/-- Parts between double quotes, or to the end of the text where nothing closes them. -/
def quotedParts (bash closed : Bool) : Nat → Parse (List Part)
  | 0 => unexpected
  | n + 1 => do
    let cs ← rest
    match cs with
    | [] => if closed then fail .unterminatedQuote else return []
    | c :: after =>
      if c = '"' && closed then
        advance 1
        return []
      let p : Part ← do
        if c = '\\' then
          match after with
          | '\n' :: _ =>
            advance 2
            pure (.quoted [])
          | d :: _ =>
            advance 2
            if d = '$' || d = '\x60' || d = '\\' || (d = '"' && closed) then pure (.quoted [d])
            else pure (.quoted ['\\', d])
          | [] =>
            advance 1
            pure (.quoted ['\\'])
        else if c = '$' then
          advance 1
          dollar bash true n
        else if c = '\x60' then
          advance 1
          backquote bash true n
        else
          let run := cs.takeWhile fun d => !(d = '\\' || d = '$' || d = '\x60' || (d = '"' && closed))
          advance run.length
          pure (.quoted run)
      return p :: (← quotedParts bash closed n)

def wordParts (bash : Bool) : Nat → Parse (List Part)
  | 0 => unexpected
  | n + 1 => do
    let cs ← rest
    match cs with
    | [] => return []
    | c :: after =>
      if endsWord c then return []
      let ps : List Part ← do
        if c = '\\' then
          match after with
          | '\n' :: _ =>
            advance 2
            pure []
          | d :: _ =>
            advance 2
            pure [.quoted [d]]
          | [] =>
            advance 1
            pure [.quoted ['\\']]
        else if c = '\'' then
          let content := after.takeWhile (· ≠ '\'')
          if content.length = after.length then fail .unterminatedQuote
          advance (content.length + 2)
          pure [.quoted content]
        else if c = '"' then
          advance 1
          let ps ← quotedParts bash true n
          pure (.quoted [] :: ps)
        else if c = '$' then
          advance 1
          pure [← dollar bash false n]
        else if c = '\x60' then
          advance 1
          pure [← backquote bash false n]
        else
          let run := cs.takeWhile fun d => !isSpecial d
          advance run.length
          pure [.plain run]
      return ps ++ (← wordParts bash n)

def word (bash : Bool) : Nat → Parse Word
  | 0 => unexpected
  | n + 1 => do
    skipBlanks
    match ← rest with
    | [] => unexpected
    | c :: _ =>
      if endsWord c then unexpected
      return withHome false (glue (← wordParts bash n))

def redirect? (bash : Bool) : Nat → Parse (Option Redirect)
  | 0 => unexpected
  | n + 1 => do
    skipBlanks
    let cs ← rest
    let digits := cs.takeWhile Octets.isDigit
    let after := cs.drop digits.length
    let start : Nat → Nat := fun fd => (Octets.nat? digits).getD fd
    match after with
    | '<' :: '<' :: '<' :: _ =>
      if bash then
        advance (digits.length + 3)
        return some (.here (start 0) ((← word bash n) ++ [.quoted ['\n']]))
      else unexpected
    | '<' :: '<' :: cs =>
      let strip := cs.head? = some '-'
      advance (digits.length + if strip then 3 else 2)
      let delimiter ← word bash n
      let isQuoted := delimiter.any fun
        | .quoted _ => true
        | _ => false
      let name := delimiter.flatMap fun
        | .plain o | .quoted o => o
        | _ => []
      let all ← rest
      let line := all.takeWhile (· ≠ '\n')
      let (body, later) := hereLines strip name (Octets.lines (all.drop (line.length + 1)))
      modify fun i => { i with rest := line ++ '\n' :: later.flatten }
      let content ← if isQuoted then pure [Part.quoted body.flatten]
        else inside body.flatten (quotedParts bash false n)
      return some (.here (start 0) content)
    | '<' :: '&' :: _ =>
      advance (digits.length + 2)
      return some (.duplicate (start 0) (← word bash n))
    | '<' :: '>' :: _ =>
      advance (digits.length + 2)
      return some (.both (start 0) (← word bash n))
    | '<' :: _ =>
      advance (digits.length + 1)
      return some (.input (start 0) (← word bash n))
    | '>' :: '>' :: _ =>
      advance (digits.length + 2)
      return some (.append (start 1) (← word bash n))
    | '>' :: '&' :: _ =>
      advance (digits.length + 2)
      return some (.duplicate (start 1) (← word bash n))
    | '>' :: '|' :: _ =>
      advance (digits.length + 2)
      return some (.output (start 1) (← word bash n))
    | '>' :: _ =>
      advance (digits.length + 1)
      return some (.output (start 1) (← word bash n))
    | '&' :: '>' :: '>' :: _ =>
      if bash && digits.isEmpty then
        advance 3
        return some (.outputAndErrors true (← word bash n))
      else return none
    | '&' :: '>' :: _ =>
      if bash && digits.isEmpty then
        advance 2
        return some (.outputAndErrors false (← word bash n))
      else return none
    | _ => return none

def redirects (bash : Bool) : Nat → Parse (List Redirect)
  | 0 => unexpected
  | n + 1 => do
    match ← redirect? bash n with
    | some r => return r :: (← redirects bash n)
    | none => return []

def sums (bash : Bool) (expression : Octets) : Nat → Parse (List (List Part))
  | 0 => unexpected
  | n + 1 => do
    let first := expression.takeWhile (· ≠ ';')
    let parts ← inside first (quotedParts bash false n)
    match expression.drop first.length with
    | _ :: rest => return parts :: (← sums bash rest n)
    | [] => return [parts]

def assignment? (w : Word) : Option (Octets × Word) :=
  match w with
  | .plain o :: ps =>
    let name := o.takeWhile (· ≠ '=')
    match o.drop name.length with
    | _ :: value =>
      if Octets.isName name then
        some (name, withHome true ((if value.isEmpty then [] else [.plain value]) ++ ps))
      else none
    | [] => none
  | _ => none

/-- A simple command, word by word; or the definition of a function. -/
def simple (bash : Bool) (line : Nat) (assignments : List (Octets × Word)) (words : List Word)
    (found : List Redirect) : Nat → Parse Tree
  | 0 => unexpected
  | n + 1 => do
    match ← redirect? bash n with
    | some r => simple bash line assignments words (found ++ [r]) n
    | none =>
      let finish : Parse Tree := do
        if assignments.isEmpty && words.isEmpty && found.isEmpty then unexpected
        return .simple line assignments words found
      match ← rest with
      | [] => finish
      | '(' :: cs =>
        match words, assignments, found with
        | [[.plain name]], [], [] =>
          let blanks := blankLength cs.length cs
          if (cs.drop blanks).head? = some ')' then
            advance (blanks + 2)
            skipLines (← rest).length
            return .define name (← command bash n)
          else
            advance 1
            unexpected (some ")")
        | _, _, _ => unexpected
      | c :: _ =>
        if endsWord c then finish
        else
          let w ← word bash n
          match words, assignment? w with
          | [], some a => simple bash line (assignments ++ [a]) words found n
          | _, _ => simple bash line assignments (words ++ spread bash w) found n

def branches (bash : Bool) : Nat → Parse (List (Tree × Tree) × Option Tree)
  | 0 => unexpected
  | n + 1 => do
    let condition ← list bash n
    expect "then"
    let body ← list bash n
    if ← takeReserved "elif" then
      let (more, otherwise) ← branches bash n
      return ((condition, body) :: more, otherwise)
    else if ← takeReserved "else" then
      let otherwise ← list bash n
      expect "fi"
      return ([(condition, body)], some otherwise)
    else
      expect "fi"
      return ([(condition, body)], none)

def patterns (bash : Bool) : Nat → Parse (List Word)
  | 0 => unexpected
  | n + 1 => do
    let w ← word bash n
    skipBlanks
    match ← rest with
    | '|' :: _ =>
      advance 1
      return w :: (← patterns bash n)
    | ')' :: _ =>
      advance 1
      return [w]
    | _ => unexpected (some ")")

def arms (bash : Bool) : Nat → Parse (List (List Word × Tree))
  | 0 => unexpected
  | n + 1 => do
    skipLines (← rest).length
    if ← takeReserved "esac" then return []
    if (← rest).head? = some '(' then advance 1
    let ps ← patterns bash n
    skipLines (← rest).length
    let isEmpty := match ← rest with
      | ';' :: ';' :: _ => true
      | _ => false
    let body ← if isEmpty || (← bareWord) = some "esac".toList then pure (Tree.sequence []) else list bash n
    skipLines (← rest).length
    match ← rest with
    | ';' :: ';' :: _ =>
      advance 2
      return (ps, body) :: (← arms bash n)
    | _ =>
      expect "esac"
      return [(ps, body)]

def words (bash : Bool) : Nat → Parse (List Word)
  | 0 => unexpected
  | n + 1 => do
    skipBlanks
    match ← rest with
    | [] => return []
    | c :: _ =>
      if endsWord c then return []
      else return spread bash (← word bash n) ++ (← words bash n)

def conditionWords (bash : Bool) : Nat → Parse (List Word)
  | 0 => unexpected
  | n + 1 => do
    skipLines (← rest).length
    if ← takeReserved "]]" then return []
    match ← rest with
    | [] => unexpected (some "]]")
    | '&' :: '&' :: _ =>
      advance 2
      return [.plain ['&', '&']] :: (← conditionWords bash n)
    | '|' :: '|' :: _ =>
      advance 2
      return [.plain ['|', '|']] :: (← conditionWords bash n)
    | c :: _ =>
      if c = '<' || c = '>' || c = '(' || c = ')' then
        advance 1
        return [.plain [c]] :: (← conditionWords bash n)
      else if endsWord c then unexpected
      else return (← word bash n) :: (← conditionWords bash n)

def command (bash : Bool) : Nat → Parse Tree
  | 0 => unexpected
  | n + 1 => do
    skipBlanks
    let line := (← get).line
    let cs ← rest
    let sum := if bash && ['(', '('].isPrefixOf cs then untilDoubleClose cs.length 0 (cs.drop 2) else none
    match sum, cs with
    | some (expression, _), _ =>
      advance (expression.length + 4)
      let e ← inside expression (quotedParts bash false n)
      return .reckon e (← redirects bash n)
    | none, '(' :: _ =>
      advance 1
      let body ← list bash n
      match ← rest with
      | ')' :: _ =>
        advance 1
        return .subshell body (← redirects bash n)
      | _ => unexpected (some ")")
    | none, _ =>
      match (← bareWord).map String.ofList with
      | some "\x7b" =>
        advance 1
        let body ← list bash n
        expect "\x7d"
        return .group body (← redirects bash n)
      | some "if" =>
        advance 2
        let (bs, otherwise) ← branches bash n
        return .choice bs otherwise (← redirects bash n)
      | some "while" =>
        advance 5
        let condition ← list bash n
        expect "do"
        let body ← list bash n
        expect "done"
        return .loop false condition body (← redirects bash n)
      | some "until" =>
        advance 5
        let condition ← list bash n
        expect "do"
        let body ← list bash n
        expect "done"
        return .loop true condition body (← redirects bash n)
      | some "for" =>
        advance 3
        skipBlanks
        if let (true, '(' :: '(' :: cs) := (bash, ← rest) then
          let some (expression, _) := untilDoubleClose (cs.length + 1) 0 cs | unexpected
          advance (expression.length + 4)
          let parts ← sums bash expression n
          skipBlanks
          if (← rest).head? = some ';' then advance 1
          skipLines (← rest).length
          expect "do"
          let body ← list bash n
          expect "done"
          return .count (parts.getD 0 []) (parts.getD 1 []) (parts.getD 2 []) body (← redirects bash n)
        let name := (← rest).takeWhile Octets.isNameChar
        if !Octets.isName name then
          if bash then unexpected else fail .badLoopVariable
        advance name.length
        skipLines (← rest).length
        let ws ← if ← takeReserved "in" then some <$> words bash n else pure none
        skipBlanks
        if (← rest).head? = some ';' then advance 1
        skipLines (← rest).length
        expect "do"
        let body ← list bash n
        expect "done"
        return .each name ws body (← redirects bash n)
      | some "case" =>
        advance 4
        let w ← word bash n
        skipLines (← rest).length
        expect "in"
        let as ← arms bash n
        return .select w as (← redirects bash n)
      | some "[[" =>
        if bash then
          advance 2
          let ws ← conditionWords bash n
          return .condition ws (← redirects bash n)
        else simple bash line [] [] [] n
      | some "function" =>
        if bash then
          advance 8
          skipBlanks
          let name := (← rest).takeWhile fun c => !isSpecial c
          advance name.length
          skipBlanks
          match ← rest with
          | '(' :: ')' :: _ => advance 2
          | _ => pure ()
          skipLines (← rest).length
          return .define name (← command bash n)
        else simple bash line [] [] [] n
      | some o =>
        if ["then", "else", "elif", "fi", "do", "done", "esac", "\x7d"].contains o then unexpected
        else simple bash line [] [] [] n
      | none => simple bash line [] [] [] n

def stages (bash : Bool) : Nat → Parse (List Tree)
  | 0 => unexpected
  | n + 1 => do
    let c ← command bash n
    skipBlanks
    match ← rest with
    | '|' :: '|' :: _ => return [c]
    | '|' :: '&' :: _ =>
      if bash then
        advance 2
        skipLines (← rest).length
        return .group c [.duplicate 2 [.plain ['1']]] :: (← stages bash n)
      else unexpected
    | '|' :: _ =>
      advance 1
      skipLines (← rest).length
      return c :: (← stages bash n)
    | _ => return [c]

def pipeline (bash : Bool) : Nat → Parse Tree
  | 0 => unexpected
  | n + 1 => do
    let negated ← takeReserved "!"
    match ← stages bash n with
    | [c] => return if negated then .pipeline true [c] else c
    | cs => return .pipeline negated cs

def chain (bash : Bool) (left : Tree) : Nat → Parse Tree
  | 0 => unexpected
  | n + 1 => do
    skipBlanks
    match ← rest with
    | '&' :: '&' :: _ =>
      advance 2
      skipLines (← rest).length
      chain bash (.and left (← pipeline bash n)) n
    | '|' :: '|' :: _ =>
      advance 2
      skipLines (← rest).length
      chain bash (.or left (← pipeline bash n)) n
    | _ => return left

def line (bash : Bool) : Nat → Parse (List Tree)
  | 0 => unexpected
  | n + 1 => do
    let t ← chain bash (← pipeline bash n) n
    skipBlanks
    let more : Parse (List Tree) := do
      skipBlanks
      match ← rest with
      | [] => return []
      | c :: _ =>
        if c = '\n' || c = ')' || c = ';' then return []
        match (← bareWord).map String.ofList with
        | some o =>
          if ["then", "else", "elif", "fi", "do", "done", "esac", "\x7d"].contains o then return []
          else line bash n
        | none => line bash n
    match ← rest with
    | ';' :: ';' :: _ => return [t]
    | ';' :: _ =>
      advance 1
      return t :: (← more)
    | '&' :: _ =>
      advance 1
      return .background t :: (← more)
    | _ => return [t]

/-- Commands over any number of lines, up to a word or sign that ends them. At least one must come. -/
def list (bash : Bool) : Nat → Parse Tree
  | 0 => unexpected
  | n + 1 => do
    skipLines (← rest).length
    match ← rest with
    | ')' :: _ => return .sequence []
    | [] => return .sequence []
    | _ => return .sequence (← lines bash n)

def lines (bash : Bool) : Nat → Parse (List Tree)
  | 0 => unexpected
  | n + 1 => do
    let ts ← line bash n
    skipLines (← rest).length
    match ← rest with
    | [] => return ts
    | ')' :: _ => return ts
    | ';' :: ';' :: _ => return ts
    | _ =>
      match (← bareWord).map String.ofList with
      | some o =>
        if ["then", "else", "elif", "fi", "do", "done", "esac", "\x7d"].contains o then return ts
        else return ts ++ (← lines bash n)
      | none => return ts ++ (← lines bash n)

end

/-- One line of commands after another, up to the first that cannot be read. -/
def script (bash : Bool) (fuel : Nat) : Nat → Input → List Tree × Option SyntaxError
  | 0, _ => ([], none)
  | n + 1, i =>
    let oneLine : Parse (Option (List Tree)) := do
      skipLines (← rest).length
      if (← rest).isEmpty then return none
      let ts ← line bash fuel
      skipBlanks
      match ← rest with
      | [] => return some ts
      | '\n' :: _ => return some ts
      | _ => unexpected
    match oneLine.run i with
    | .error e => ([], some e)
    | .ok (none, _) => ([], none)
    | .ok (some ts, i) =>
      let (more, e) := script bash fuel n i
      (.sequence ts :: more, e)

end Parse

def read (bash : Bool) (source : Octets) : List Tree × Option SyntaxError :=
  Parse.script bash (8 * source.length + 64) (source.length + 1) { rest := source }

def SyntaxError.message (bash : Bool) (e : SyntaxError) : String :=
  let name (o : Octets) : String := String.ofList o
  if bash then
    match e.unexpected with
    | .token o => "syntax error near unexpected token " ++ String.ofList ['\x60'] ++ name o ++ "'"
    | .newline => "syntax error near unexpected token " ++ String.ofList ['\x60'] ++ "newline'"
    | .word => "syntax error near unexpected word"
    | .endOfFile => "syntax error: unexpected end of file"
    | .unterminatedQuote => "unexpected EOF while looking for matching quote"
    | .badSubstitution => "bad substitution"
    | .badLoopVariable => "not a valid identifier"
  else
    let expecting := match e.expecting with
      | some o => " (expecting \"" ++ name o ++ "\")"
      | none => ""
    "Syntax error: " ++ match e.unexpected with
    | .token o => "\"" ++ name o ++ "\" unexpected" ++ expecting
    | .newline => "newline unexpected" ++ expecting
    | .word => "word unexpected" ++ expecting
    | .endOfFile => "end of file unexpected" ++ expecting
    | .unterminatedQuote => "Unterminated quoted string"
    | .badSubstitution => "Bad substitution"
    | .badLoopVariable => "Bad for loop variable"

end Foreman.Shell
