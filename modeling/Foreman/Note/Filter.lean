import Foreman.Note
import Foreman.Note.Pattern
import Foreman.Text.Blank
import Foreman.Text.LetterTable
import Foreman.Text.Letters
import Foreman.Text.Search

/-! Which notes reach the operator: a list of directives, each for the parts whose names begin in one way, and
for the notes that give certain facts. -/

namespace Foreman

structure WantedFact where
  name : String
  value : Option String := none
  deriving DecidableEq, Repr

structure Directive where
  target : Option String := none
  /-- It is about notes inside of a named span of work. -/
  span : Option String := none
  facts : List WantedFact := []
  upTo : Nat := Level.trace.rank
  deriving DecidableEq, Repr

inductive DirectiveError where
  | malformed
  /-- A piece would have to be cut out of the middle of a character. Nothing is reported and the work ends
  at once. -/
  | brokenCharacter
  deriving DecidableEq, Repr

namespace Directive

/-! ### Pieces of an entry -/

def dropBytes? : Nat → List Char → Option (List Char)
  | 0, s => some s
  | _ + 1, [] => none
  | n + 1, c :: s => if c.utf8Size ≤ n + 1 then dropBytes? (n + 1 - c.utf8Size) s else none

def takeBytes? : Nat → List Char → Option (List Char)
  | 0, _ => some []
  | _ + 1, [] => none
  | n + 1, c :: s => if c.utf8Size ≤ n + 1 then (takeBytes? (n + 1 - c.utf8Size) s).map (c :: ·) else none

def whole {α : Type} (piece : Option α) : Except DirectiveError α :=
  match piece with
  | some a => .ok a
  | none => .error .brokenCharacter

def cut (entry : List Char) (start stop : Nat) : Except DirectiveError (List Char) :=
  whole ((dropBytes? start entry).bind (takeBytes? (stop - start)))

def cutEnd (entry : List Char) (start : Nat) : Except DirectiveError (List Char) :=
  whole (dropBytes? start entry)

/-! ### Levels and facts -/

def levelWords : List (String × Nat) :=
  [("off", 0), ("error", 1), ("warn", 2), ("info", 3), ("debug", 4), ("trace", 5)]

def readLevel? (s : List Char) : Option Nat :=
  match Text.readNumber 5 s with
  | .ok n => some n
  | .error _ => (levelWords.find? fun x => Text.eqIgnoringCase x.1 (String.ofList s)).map (·.2)

/-- The level after an equals sign. Where there is none, all is let through. -/
def levelAfter (s : List Char) : Except DirectiveError Nat :=
  if s = [] then .ok Level.trace.rank
  else match readLevel? s with
    | some n => .ok n
    | none => .error .malformed

def readFact (s : List Char) : Except DirectiveError WantedFact :=
  if s = [] then .error .malformed
  else match Text.splitAt '=' s with
    | name :: value :: _ =>
      if Note.Pattern.isWanted value then .ok ⟨String.ofList name, some (String.ofList value)⟩
      else .error .malformed
    | _ => .ok ⟨String.ofList s, none⟩

/-! ### Reading -/

/-- Where the reading of an entry stands; pieces that have begun are known by the byte at which they
did. -/
inductive Stage where
  | start
  | name (start : Nat)
  | span (start : Nat)
  | fact (start : Nat)
  | factsRead
  | targetRead
  | level (start : Nat)
  deriving DecidableEq, Repr

def openBrace : Char := Char.ofNat 0x7B

def closeBrace : Char := Char.ofNat 0x7D

def canBegin (c : Char) : Bool := c = '-' || c = ':' || c = '_' || Text.isLetterOrNumber c

def readChar (entry : List Char) (i : Nat) (c : Char) (d : Directive) :
    Stage → Except DirectiveError (Directive × Stage)
  | .start =>
    if c = '[' then .ok (d, .span (i + 1))
    else if canBegin c then .ok (d, .name i)
    else .error .malformed
  | .name start =>
    if c = '=' || c = '[' then do
      let name ← cut entry start i
      .ok ({ d with target := some (String.ofList name) }, if c = '=' then .level (i + 1) else .span (i + 1))
    else .ok (d, .name start)
  | .span start =>
    if c = ']' then do
      let name ← cut entry start i
      .ok ({ d with span := some (String.ofList name) }, .targetRead)
    else if c = openBrace then do
      let name ← cut entry start i
      .ok ({ d with span := if name = [] then none else some (String.ofList name) }, .fact (i + 1))
    else .ok (d, .span start)
  | .fact start =>
    if c = closeBrace then do
      let fact ← readFact (← cut entry start i)
      .ok ({ d with facts := d.facts ++ [fact] }, .factsRead)
    else .ok (d, .fact start)
  | .factsRead => if c = ']' then .ok (d, .targetRead) else .error .malformed
  | .targetRead => if c = '=' then .ok (d, .level (i + 1)) else .error .malformed
  | .level start => .ok (d, .level start)

def readFrom (entry : List Char) (i : Nat) (d : Directive) (stage : Stage) :
    List Char → Except DirectiveError (Directive × Stage)
  | [] => .ok (d, stage)
  | c :: rest => do
    let (d, stage) ← readChar entry i c d stage
    readFrom entry (i + c.utf8Size) d stage rest

def conclude (entry : List Char) (d : Directive) : Stage → Except DirectiveError Directive
  | .name start => do
    let word ← cutEnd entry start
    match readLevel? word with
    | some n => .ok { d with upTo := n }
    | none => .ok { d with target := some (String.ofList word) }
  | .level start => do
    let n ← levelAfter (← cutEnd entry start)
    .ok { d with upTo := n }
  | .targetRead => .ok d
  | _ => .error .malformed

/-- Reads an entry. Signs are looked for in the entry without the blanks around it and pieces are cut from
the entry as written, so blanks before a name spoil the pieces. -/
def read (entry : List Char) : Except DirectiveError Directive := do
  let (d, stage) ← readFrom entry 0 {} .start (Text.trimChars entry)
  conclude entry d stage

/-! ### Deciding -/

def isGeneral (d : Directive) : Bool := d.span = none && d.facts.all (·.value = none)

def concerns (d : Directive) (n : Note) : Bool :=
  d.isGeneral && (d.target.all fun t => t.toList.isPrefixOf n.speaker.target.toList) &&
    d.facts.all fun f => n.gives f.name

def weight (d : Directive) : Nat :=
  match d.target with
  | none => 0
  | some t => t.length + 1

def namesUpTo : List String → List String → Bool
  | [], _ => true
  | _ :: _, [] => false
  | a :: as, b :: bs => a < b || (a = b && namesUpTo as bs)

/-- The second of two directives that concern one note says as much as the first or more: it has the longer
name, or it names more facts, or the later ones. -/
def upToOther (d e : Directive) : Bool :=
  d.weight < e.weight || (d.weight = e.weight &&
    (d.facts.length < e.facts.length || (d.facts.length = e.facts.length &&
      namesUpTo (d.facts.map (·.name)) (e.facts.map (·.name)))))

end Directive

abbrev Filter := List Directive

namespace Filter

def ofLevel (level : Level) : Filter := [{ upTo := level.rank }]

def read (s : String) : Except DirectiveError Filter :=
  match (Text.splitAt ',' s.toList).filter (· ≠ []) with
  | [] => .ok (ofLevel .error)
  | entries => entries.mapM Directive.read

/-- Of all directives that concern a note the one that says most, and of equal ones the last. -/
def decisive (f : Filter) (n : Note) : Option Directive :=
  f.foldl (fun best d =>
    if d.concerns n && best.all (·.upToOther d) then some d else best) none

def passes (f : Filter) (n : Note) : Bool := (f.decisive n).any (n.level.rank ≤ ·.upTo)

/-- The filter that is asked for: by a level on the command line, else by a setting, else that of the
level of information. The note tells that the setting could not be read. There is no filter at all if a
setting cannot be cut into pieces. -/
def choose? (level : Option Level) (setting : Option String) : Option (Filter × List Note) :=
  match level, setting.map Text.trim with
  | some level, _ => some (ofLevel level, [])
  | none, none | none, some "" => some (ofLevel .info, [])
  | none, some text => match read text with
    | .ok f => some (f, [])
    | .error .malformed => some (ofLevel .info, [.filterRefused])
    | .error .brokenCharacter => none

end Filter
end Foreman
