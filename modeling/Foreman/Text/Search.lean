/-! Texts inside texts. -/

namespace Foreman.Text

def occursIn (needle : List Char) : List Char → Bool
  | [] => needle.isEmpty
  | c :: rest => needle.isPrefixOf (c :: rest) || occursIn needle rest

def contains (text needle : String) : Bool := occursIn needle.toList text.toList

theorem occursIn_iff {needle text : List Char} : occursIn needle text ↔ needle <:+: text := by
  induction text with
  | nil => cases needle <;> simp [occursIn]
  | cons c rest ih => simp [occursIn, ih, List.infix_cons_iff]

def splitAt (separator : Char) : List Char → List (List Char)
  | [] => [[]]
  | c :: rest =>
    if c = separator then [] :: splitAt separator rest
    else match splitAt separator rest with
      | [] => [[c]]
      | piece :: pieces => (c :: piece) :: pieces

def splitText (separator : Char) (s : String) : List String :=
  (splitAt separator s.toList).map String.ofList

end Foreman.Text
