import Foreman.Text.Search

/-! Paths as written, and what they are made of. A path is a text in UTF-8, so it is shown as it is. -/

namespace Foreman

structure Path where
  text : String
  deriving DecidableEq, Repr, Inhabited

namespace Path

inductive Component where
  | root
  | here
  | up
  | name (s : String)
  deriving DecidableEq, Repr

def isAbsolute (p : Path) : Bool := p.text.toList.head? == some '/'

def component? : List Char → Option Component
  | [] => none
  | ['.'] => none
  | ['.', '.'] => some .up
  | s => some (.name (String.ofList s))

/-- The components of a path. A dot counts only at the very beginning; empty pieces do not count. -/
def components (p : Path) : List Component :=
  let pieces := Text.splitAt '/' p.text.toList
  let start := if p.isAbsolute then [.root] else if pieces.head? = some ['.'] then [.here] else []
  start ++ pieces.filterMap component?

def step? : List Char → Option Component
  | [] => none
  | ['.'] => some .here
  | s => component? s

/-- What the system goes through, piece by piece. Here every dot counts. -/
def steps (p : Path) : List Component :=
  (if p.isAbsolute then [.root] else []) ++ (Text.splitAt '/' p.text.toList).filterMap step?

def endsInSlash (p : Path) : Bool := p.text.toList.getLast? == some '/'

def fileName (p : Path) : Option String :=
  match p.components.getLast? with
  | some (.name s) => some s
  | _ => none

/-- One path below another; an absolute one stands for itself. -/
def join (p q : Path) : Path :=
  if q.isAbsolute then q
  else match p.text.toList.getLast? with
    | none => q
    | some '/' => ⟨p.text ++ q.text⟩
    | some _ => ⟨p.text ++ "/" ++ q.text⟩

def same (p q : Path) : Bool := p.components == q.components

end Path
end Foreman
