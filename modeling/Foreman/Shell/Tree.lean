import Foreman.Shell.Octets

/-! Shell scripts that have been read: words made of parts, and commands made of words. -/

namespace Foreman.Shell

mutual

inductive Part where
  /-- Characters that stand for themselves; those of them that are pattern characters count as such. -/
  | plain (o : Octets)
  | quoted (o : Octets)
  | variable (name : Octets) (form : Form) (inQuotes : Bool)
  | output (body : Tree) (inQuotes : Bool)
  | sum (expression : List Part) (inQuotes : Bool)
  | home

/-- What is made of the value of a variable. With `colon` an empty value counts as none. -/
inductive Form where
  | value
  | length
  | default (colon : Bool) (word : List Part)
  | assign (colon : Bool) (word : List Part)
  | instead (colon : Bool) (word : List Part)
  | required (colon : Bool) (word : List Part)
  | cutStart (longest : Bool) (pattern : List Part)
  | cutEnd (longest : Bool) (pattern : List Part)
  | replace (all : Bool) (pattern word : List Part)
  | recased (upper all : Bool)
  | slice (offset : List Part) (length : Option (List Part))
  | unknown

inductive Redirect where
  | input (fd : Nat) (path : List Part)
  | output (fd : Nat) (path : List Part)
  | append (fd : Nat) (path : List Part)
  | both (fd : Nat) (path : List Part)
  | duplicate (fd : Nat) (source : List Part)
  | here (fd : Nat) (content : List Part)
  | outputAndErrors (append : Bool) (path : List Part)

inductive Tree where
  | simple (line : Nat) (assignments : List (Octets × List Part)) (words : List (List Part))
      (redirects : List Redirect)
  | sequence (trees : List Tree)
  | pipeline (negated : Bool) (stages : List Tree)
  | and (left right : Tree)
  | or (left right : Tree)
  | background (tree : Tree)
  | group (body : Tree) (redirects : List Redirect)
  | subshell (body : Tree) (redirects : List Redirect)
  | choice (branches : List (Tree × Tree)) (otherwise : Option Tree) (redirects : List Redirect)
  | loop (untilTrue : Bool) (condition body : Tree) (redirects : List Redirect)
  | each (name : Octets) (words : Option (List (List Part))) (body : Tree)
      (redirects : List Redirect)
  /-- A loop over sums: one before it, one that tells whether it goes on, one after each turn. -/
  | count (first condition step : List Part) (body : Tree) (redirects : List Redirect)
  | select (word : List Part) (arms : List (List (List Part) × Tree)) (redirects : List Redirect)
  | define (name : Octets) (body : Tree)
  | condition (words : List (List Part)) (redirects : List Redirect)
  | reckon (expression : List Part) (redirects : List Redirect)

end

abbrev Word := List Part

instance : Inhabited Tree := ⟨.sequence []⟩

instance : Inhabited Part := ⟨.plain []⟩

end Foreman.Shell
