import Foreman.Toml.Value

/-! Adding to tables. What a key may be added to depends on how the table came about. -/

namespace Foreman.Toml

structure Key where
  text : String
  span : Span
  deriving DecidableEq, Repr

def Key.duplicate (k : Key) : Fault := ⟨.duplicateKey, k.span⟩

def Key.blocked (k : Key) : Value → Fault
  | .table .. => k.duplicate
  | v => ⟨.notExtensible v.kind, k.span⟩

namespace Entries

def find? (es : Entries) (k : Key) : Option Node := List.lookup k.text es

def replace (es : Entries) (k : Key) (v : Node) : Entries :=
  es.map fun e => if e.1 = k.text then (k.text, v) else e

def changeLast (ts : List (Span × Entries)) (k : Key) (f : Entries → Except Fault Entries) :
    Except Fault (List (Span × Entries)) :=
  match ts.getLast? with
  | none => .error k.duplicate
  | some (span, last) => (f last).map fun last => ts.dropLast ++ [(span, last)]

/-- Gives a dotted key its value. Only tables that dotted keys have named may be added to, and on the way
there those that were merely implied. -/
def assign (es : Entries) (keys : List Key) (v : Node) : Except Fault Entries :=
  match keys with
  | [] => .ok es
  | [k] => match es.find? k with
    | some _ => .error k.duplicate
    | none => .ok (es ++ [(k.text, v)])
  | k :: k' :: ks => match es.find? k with
    | none => do
      let inner ← assign [] (k' :: ks) v
      .ok (es ++ [(k.text, k.span, .table .dotted inner)])
    | some (span, .table .dotted inner) => do
      let inner ← assign inner (k' :: ks) v
      .ok (es.replace k (span, .table .dotted inner))
    | some (span, .table .implied inner) =>
      if ks.isEmpty then .error k.duplicate
      else do
        let inner ← assign inner (k' :: ks) v
        .ok (es.replace k (span, .table .implied inner))
    | some (span, .tables ts) =>
      if ks.isEmpty then .error k.duplicate
      else do
        let ts ← changeLast ts k fun last => assign last (k' :: ks) v
        .ok (es.replace k (span, .tables ts))
    | some (_, v) => .error (k.blocked v)

/-- Changes the table under a heading, the last one where headings repeat. Missing tables are implied. -/
def under (es : Entries) (path : List Key) (f : Entries → Except Fault Entries) : Except Fault Entries :=
  match path with
  | [] => f es
  | k :: ks => match es.find? k with
    | none => do
      let inner ← under [] ks f
      .ok (es ++ [(k.text, k.span, .table .implied inner)])
    | some (_, .table .inline _) => .error k.duplicate
    | some (span, .table origin inner) => do
      let inner ← under inner ks f
      .ok (es.replace k (span, .table origin inner))
    | some (span, .tables ts) => do
      let ts ← changeLast ts k fun last => under last ks f
      .ok (es.replace k (span, .tables ts))
    | some (_, v) => .error (k.blocked v)

def openTable (k : Key) (span : Span) (es : Entries) : Except Fault Entries :=
  match es.find? k with
  | none => .ok (es ++ [(k.text, span, .table .heading [])])
  | some (_, .table .implied inner) => .ok (es.replace k (span, .table .heading inner))
  | some _ => .error k.duplicate

def openNext (k : Key) (span : Span) (es : Entries) : Except Fault Entries :=
  match es.find? k with
  | none => .ok (es ++ [(k.text, span, .tables [(span, [])])])
  | some (first, .tables ts) =>
    .ok (es.replace k (⟨first.start, span.stop⟩, .tables (ts ++ [(span, [])])))
  | some _ => .error k.duplicate

end Entries
end Foreman.Toml
