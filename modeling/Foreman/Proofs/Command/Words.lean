import Foreman.Command.Line
import Foreman.Proofs.Text.Splitting

/-! What arrives of a line that the shell cuts at its spaces. Arguments are not quoted: a space inside one ends a
word, and an empty one leaves no trace. Only parentheses come through as they were. -/

namespace Foreman.Command

def pieces (s : String) : List String := ((s.toList.splitOn ' ').filter (· ≠ [])).map String.ofList

def unescapeChars : List Char → List Char
  | '\\' :: '(' :: s => '(' :: unescapeChars s
  | '\\' :: ')' :: s => ')' :: unescapeChars s
  | c :: s => c :: unescapeChars s
  | [] => []

def unescape (word : String) : String := String.ofList (unescapeChars word.toList)

/-- The words of a line as the program gets them. -/
def received (line : String) : List String := (pieces line).map unescape

section Pieces
variable {s w : String}

theorem of_mem_pieces (h : w ∈ pieces s) : w ≠ "" ∧ ' ' ∉ w.toList := by
  obtain ⟨chars, hchars, rfl⟩ := List.mem_map.1 h
  obtain ⟨hsplit, hne⟩ := List.mem_filter.1 hchars
  rw [String.toList_ofList]
  exact ⟨by simpa using hne, Text.notMem_of_mem_splitOn hsplit⟩

theorem pieces_of_word (hs : s ≠ "") (hspace : ' ' ∉ s.toList) : pieces s = [s] := by
  have hne : s.toList ≠ [] := by simpa using hs
  rw [pieces, List.splitOn_eq_singleton hspace]
  simp [hne]

theorem pieces_append (s t : String) : pieces (s ++ " " ++ t) = pieces s ++ pieces t := by
  have hline : (s ++ " " ++ t).toList = s.toList ++ ' ' :: t.toList := by simp
  rw [pieces, hline, List.splitOn_append_cons_self, List.filter_append, List.map_append]
  rfl

theorem pieces_intercalate (ws : List String) : pieces (" ".intercalate ws) = ws.flatMap pieces := by
  induction ws with
  | nil => simp [pieces]
  | cons w ws ih =>
    cases ws with
    | nil => simp
    | cons w' ws =>
      rw [String.intercalate_cons_cons, pieces_append, ih, ← List.flatMap_cons]

theorem head?_pieces_iff {more : List String} (hmore : ∀ w ∈ more, w ≠ "" ∧ ' ' ∉ w.toList) :
    (pieces s ++ more).head? = some s ↔ s ≠ "" ∧ ' ' ∉ s.toList := by
  constructor
  · intro h
    obtain hs | hs := List.mem_append.1 (List.mem_of_mem_head? h)
    · exact of_mem_pieces hs
    · exact hmore s hs
  · rintro ⟨hne, hspace⟩
    rw [pieces_of_word hne hspace]
    rfl

end Pieces

section Parentheses

theorem escapeChar_cases (c : Char) :
    ((c = '(' ∨ c = ')') ∧ escapeChar c = ['\\', c]) ∨ (c ≠ '(' ∧ c ≠ ')') ∧ escapeChar c = [c] := by
  by_cases hc : c = '(' ∨ c = ')'
  · exact .inl ⟨hc, by simp [escapeChar, hc]⟩
  · exact .inr ⟨not_or.1 hc, by simp [escapeChar, not_or.1 hc]⟩

@[simp] theorem escapeChars_cons (c : Char) (s : List Char) :
    escapeChars (c :: s) = escapeChar c ++ escapeChars s := List.flatMap_cons

@[simp] theorem escapeChars_eq_nil {s : List Char} : escapeChars s = [] ↔ s = [] := by
  cases s with
  | nil => simp [escapeChars]
  | cons c s => obtain ⟨-, hc⟩ | ⟨-, hc⟩ := escapeChar_cases c <;> simp [hc]

theorem unescapeChars_cons {c : Char} {s : List Char} (hs : ∀ d ∈ s.head?, d ≠ '(' ∧ d ≠ ')') :
    unescapeChars (c :: s) = c :: unescapeChars s := by
  cases s with
  | nil => simp [unescapeChars]
  | cons d s =>
    obtain ⟨hopen, hclose⟩ := hs d rfl
    rw [unescapeChars.eq_def]
    split <;> simp_all

theorem unescapeChars_escapeChars (s : List Char) : unescapeChars (escapeChars s) = s := by
  induction s with
  | nil => rfl
  | cons c s ih =>
    obtain ⟨rfl | rfl, hc⟩ | ⟨-, hc⟩ := escapeChar_cases c
    · simp [hc, unescapeChars, ih]
    · simp [hc, unescapeChars, ih]
    · -- What follows a character on its own begins with a backslash, or with no parenthesis.
      have hhead : ∀ d ∈ (escapeChars s).head?, d ≠ '(' ∧ d ≠ ')' := by
        cases s with
        | nil => simp [escapeChars]
        | cons d s => obtain ⟨-, hd⟩ | ⟨hd', hd⟩ := escapeChar_cases d <;> simp_all
      rw [escapeChars_cons, hc, List.singleton_append, unescapeChars_cons hhead, ih]

theorem unescape_escape (s : String) : unescape (escape s) = s := by
  rw [unescape, escape, String.toList_ofList, unescapeChars_escapeChars, String.ofList_toList]

theorem mem_unescapeChars {c : Char} (hc : c ≠ '\\') {s : List Char} : c ∈ unescapeChars s ↔ c ∈ s := by
  induction s using unescapeChars.induct with
  | case1 s ih => simp [unescapeChars, ih, hc]
  | case2 s ih => simp [unescapeChars, ih, hc]
  | case3 d s h₁ h₂ ih => simp [unescapeChars, ih]
  | case4 => rfl

theorem unescapeChars_eq_self {s : List Char} (hopen : '(' ∉ s) (hclose : ')' ∉ s) : unescapeChars s = s := by
  induction s with
  | nil => rfl
  | cons c s ih =>
    rw [List.mem_cons, not_or] at hopen hclose
    rw [unescapeChars_cons, ih hopen.2 hclose.2]
    intro d hd
    have hmem := List.mem_of_mem_head? hd
    exact ⟨fun h => hopen.2 (h ▸ hmem), fun h => hclose.2 (h ▸ hmem)⟩

theorem unescape_eq_iff {s t : String} (hopen : '(' ∉ t.toList) (hclose : ')' ∉ t.toList) :
    unescape s = t ↔ s = t := by
  constructor
  · rintro rfl
    rw [unescape, String.toList_ofList, mem_unescapeChars (by decide)] at hopen hclose
    rw [unescape, unescapeChars_eq_self hopen hclose, String.ofList_toList]
  · rintro rfl
    rw [unescape, unescapeChars_eq_self hopen hclose, String.ofList_toList]

theorem splitOn_escapeChars (s : List Char) :
    (escapeChars s).splitOn ' ' = (s.splitOn ' ').map escapeChars := by
  induction s with
  | nil => rfl
  | cons c s ih =>
    rw [escapeChars_cons, List.splitOn_cons_eq_if_modifyHead]
    split_ifs with hc
    · obtain rfl : c = ' ' := by simpa using hc
      have hspace : escapeChar ' ' ++ escapeChars s = [] ++ ' ' :: escapeChars s := rfl
      rw [hspace, List.splitOn_append_cons_self, ih]
      rfl
    · have hne : c ≠ ' ' := by simpa using hc
      have hchar : ' ' ∉ escapeChar c := by
        obtain ⟨-, hc⟩ | ⟨-, hc⟩ := escapeChar_cases c <;> simp [hc, hne.symm]
      obtain ⟨head, tail, hs⟩ := List.exists_cons_of_ne_nil (List.splitOn_ne_nil ' ' s)
      rw [Text.splitOn_append_of_notMem hchar, ih, hs]
      simp

theorem pieces_escape (s : String) : pieces (escape s) = (pieces s).map escape := by
  rw [pieces, escape, String.toList_ofList, splitOn_escapeChars, List.filter_map]
  simp [pieces, escape, Function.comp_def]

end Parentheses

theorem received_escape (s : String) : received (escape s) = pieces s := by
  simp [received, pieces_escape, Function.comp_def, unescape_escape]

theorem received_arguments (args : List String) :
    ((args.filter (· ≠ "")).map escape).flatMap received = args.flatMap pieces := by
  induction args with
  | nil => rfl
  | cons a args ih =>
    by_cases ha : a = ""
    · subst ha
      simpa [pieces] using ih
    · rw [List.filter_cons_of_pos (by simpa using ha), List.map_cons, List.flatMap_cons, received_escape, ih,
        ← List.flatMap_cons]

theorem received_interpreter (program : String) :
    (interpreter program).toList.flatMap received = (interpreter program).toList := by
  unfold interpreter
  split_ifs <;> rfl

theorem received_line (program : String) (args : List String) :
    received (line program args) = (interpreter program).toList ++ received program ++ args.flatMap pieces := by
  have hwords : received (line program args) = (words program args).flatMap received := by
    rw [received, line, pieces_intercalate, List.map_flatMap]
    rfl
  rw [hwords, words, List.flatMap_append, List.flatMap_cons, received_arguments, received_interpreter,
    List.append_assoc]

end Foreman.Command
