import Foreman.Proofs.Text.Decoding
import Foreman.Proofs.Text.Splitting
import Foreman.Watch.Cursor
import Mathlib.Data.List.DropRight

/-! The lines of a log as a whole, and what they become when the log grows. -/

namespace Foreman.Watch

def unfinished (bs : Bytes) : Bytes := (bs.splitOn lineEnd).getLast (List.splitOn_ne_nil lineEnd bs)

def wholeLine (piece : Bytes) : String :=
  String.ofList ((Utf8.decodeChars piece).rdropWhile (· = '\r'))

def completeLines (bs : Bytes) : List String := (bs.splitOn lineEnd).dropLast.map wholeLine

theorem splitOn_append (xs ys : Bytes) : (xs ++ ys).splitOn lineEnd =
    (xs.splitOn lineEnd).dropLast ++ (unfinished xs ++ ys).splitOn lineEnd := by
  unfold unfinished
  induction xs with
  | nil => simp
  | cons x xs ih =>
    obtain ⟨p, ps, hp⟩ := List.exists_cons_of_ne_nil (List.splitOn_ne_nil lineEnd xs)
    by_cases hx : x = lineEnd
    · simp_all [List.splitOn_cons_eq_if_modifyHead]
    · cases ps <;> simp_all [List.splitOn_cons_eq_if_modifyHead]

theorem unfinished_eq_self {bs : Bytes} (h : lineEnd ∉ bs) : unfinished bs = bs := by
  simp only [unfinished, List.splitOn_eq_singleton h, List.getLast_singleton]

theorem completeLines_eq_nil {bs : Bytes} (h : lineEnd ∉ bs) : completeLines bs = [] := by
  simp only [completeLines, List.splitOn_eq_singleton h, List.dropLast_singleton, List.map_nil]

theorem lineEnd_notMem_unfinished (bs : Bytes) : lineEnd ∉ unfinished bs :=
  Text.notMem_of_mem_splitOn (List.getLast_mem _)

theorem completeLines_append_eq (xs ys : Bytes) :
    completeLines (xs ++ ys) = completeLines xs ++ completeLines (unfinished xs ++ ys) := by
  unfold completeLines
  rw [splitOn_append, List.dropLast_append_of_ne_nil (List.splitOn_ne_nil _ _), List.map_append]

theorem unfinished_append_eq (xs ys : Bytes) : unfinished (xs ++ ys) = unfinished (unfinished xs ++ ys) := by
  have hne := List.splitOn_ne_nil lineEnd (unfinished xs ++ ys)
  have hlast := List.getLast_congr (List.splitOn_ne_nil _ _) (by simp [hne]) (splitOn_append xs ys)
  exact hlast.trans (List.getLast_append_of_ne_nil _ hne)

theorem completeLines_mono (xs ys : Bytes) : completeLines xs <+: completeLines (xs ++ ys) := by
  rw [completeLines_append_eq]
  exact List.prefix_append ..

section grow
variable (xs : Bytes) {ys : Bytes} (hy : lineEnd ∉ ys)
include hy

theorem splitOn_append_of_notMem :
    (xs ++ ys).splitOn lineEnd = (xs.splitOn lineEnd).dropLast ++ [unfinished xs ++ ys] := by
  have hu : lineEnd ∉ unfinished xs ++ ys := by
    simpa using ⟨lineEnd_notMem_unfinished xs, hy⟩
  rw [splitOn_append, List.splitOn_eq_singleton hu]

theorem unfinished_append : unfinished (xs ++ ys) = unfinished xs ++ ys := by
  simp only [unfinished, splitOn_append_of_notMem xs hy, List.getLast_append_singleton]

theorem completeLines_append : completeLines (xs ++ ys) = completeLines xs := by
  simp only [completeLines, splitOn_append_of_notMem xs hy, List.dropLast_concat]

theorem splitOn_append_lineEnd : (xs ++ (ys ++ [lineEnd])).splitOn lineEnd =
    (xs.splitOn lineEnd).dropLast ++ [unfinished xs ++ ys] ++ [[]] := by
  rw [← List.append_assoc, List.splitOn_append_cons_self, splitOn_append_of_notMem xs hy,
    List.splitOn_nil]

theorem unfinished_append_lineEnd : unfinished (xs ++ (ys ++ [lineEnd])) = [] := by
  simp only [unfinished, splitOn_append_lineEnd xs hy, List.getLast_append_singleton]

theorem completeLines_append_lineEnd : completeLines (xs ++ (ys ++ [lineEnd])) =
    completeLines xs ++ [wholeLine (unfinished xs ++ ys)] := by
  simp only [completeLines, splitOn_append_lineEnd xs hy, List.dropLast_concat, List.map_append,
    List.map_cons, List.map_nil]

end grow

theorem splitLine_eq_none {bs : Bytes} (h : splitLine bs = none) : lineEnd ∉ bs := by
  induction bs with
  | nil => simp
  | cons b bs ih =>
    rw [splitLine] at h
    by_cases hb : b = lineEnd
    · simp [hb] at h
    · rw [if_neg hb, Option.map_eq_none_iff] at h
      simpa using ⟨Ne.symm hb, ih h⟩

theorem splitLine_eq_some {bs line rest : Bytes} (h : splitLine bs = some (line, rest)) :
    ∃ ys, lineEnd ∉ ys ∧ line = ys ++ [lineEnd] ∧ bs = line ++ rest := by
  induction bs generalizing line with
  | nil => cases h
  | cons b bs ih =>
    rw [splitLine] at h
    by_cases hb : b = lineEnd
    · simp only [hb, if_true, Option.some.injEq, Prod.mk.injEq] at h
      obtain ⟨rfl, rfl⟩ := h
      exact ⟨[], by simp, rfl, by simp [hb]⟩
    · rw [if_neg hb, Option.map_eq_some_iff] at h
      obtain ⟨⟨l, r⟩, hs, he⟩ := h
      obtain ⟨rfl, rfl⟩ := Prod.mk.injEq _ _ _ _ ▸ he
      obtain ⟨ys, hys, rfl, hbs⟩ := ih hs
      exact ⟨b :: ys, by simpa using ⟨Ne.symm hb, hys⟩, rfl, by simp [hbs]⟩

theorem rdropWhile_congr {α : Type} {p q : α → Bool} {l : List α} (h : ∀ a ∈ l, p a = q a) :
    l.rdropWhile p = l.rdropWhile q := by
  induction l using List.reverseRecOn with
  | nil => simp
  | append_singleton l a ih =>
    have hl := ih fun a ha => h a (by simp [ha])
    rw [List.rdropWhile_concat, List.rdropWhile_concat, h a (by simp), hl]

/-- The fragment that was kept, with the rest of its line, is read as the whole line. -/
theorem lineText_append {ys : Bytes} (hy : lineEnd ∉ ys) :
    lineText (ys ++ [lineEnd]) = wholeLine ys := by
  have hd : Utf8.decodeChars (ys ++ [lineEnd]) = Utf8.decodeChars ys ++ ['\n'] :=
    Utf8.decodeChars_append_lineEnd ys []
  have hn := Utf8.newline_notMem_decodeChars hy
  have he : (Utf8.decodeChars ys).rdropWhile isLineEnd =
      (Utf8.decodeChars ys).rdropWhile (· = '\r') :=
    rdropWhile_congr fun c hc => by
      have hne : c ≠ '\n' := fun h => hn (h ▸ hc)
      simp [isLineEnd, hne]
  calc lineText (ys ++ [lineEnd])
      = String.ofList ((Utf8.decodeChars ys ++ ['\n']).rdropWhile isLineEnd) := by rw [← hd]; rfl
    _ = String.ofList ((Utf8.decodeChars ys).rdropWhile isLineEnd) := by
        rw [List.rdropWhile_concat_pos _ _ _ rfl]
    _ = wholeLine ys := by rw [he, wholeLine]

end Foreman.Watch
