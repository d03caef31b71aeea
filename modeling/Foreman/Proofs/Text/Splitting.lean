import Foreman.Text.Search
import Mathlib.Data.List.Basic
import Mathlib.Tactic.SplitIfs

/-! What lists are made of between their separators. -/

namespace Foreman.Text
variable {α : Type} [BEq α] [LawfulBEq α] {a : α}

theorem notMem_of_mem_splitOn {s piece : List α} (h : piece ∈ s.splitOn a) : a ∉ piece := by
  induction s generalizing piece with
  | nil =>
    rw [List.splitOn_nil, List.mem_singleton] at h
    simp [h]
  | cons b s ih =>
    obtain ⟨head, tail, hs⟩ := List.exists_cons_of_ne_nil (List.splitOn_ne_nil a s)
    rw [List.splitOn_cons_eq_if_modifyHead] at h
    split_ifs at h with hb
    · obtain rfl | h := List.mem_cons.1 h
      · exact List.not_mem_nil
      · exact ih h
    · rw [hs, List.modifyHead_cons] at h
      rw [hs] at ih
      obtain rfl | h := List.mem_cons.1 h
      · have hhead : a ∉ head := ih (List.mem_cons_self ..)
        have hne : a ≠ b := by
          rintro rfl
          simp at hb
        simp [hne, hhead]
      · exact ih (List.mem_cons_of_mem _ h)

theorem splitOn_append_of_notMem {p : List α} (hp : a ∉ p) (s : List α) :
    (p ++ s).splitOn a = (s.splitOn a).modifyHead (p ++ ·) := by
  induction p with
  | nil => exact (congrFun List.modifyHead_id _).symm
  | cons b p ih =>
    obtain ⟨hb, hp⟩ := not_or.1 (List.mem_cons.not.1 hp)
    have hne : ¬ (b == a) := by simpa using Ne.symm hb
    rw [List.cons_append, List.splitOn_cons_eq_if_modifyHead, if_neg hne, ih hp, List.modifyHead_modifyHead]
    rfl

theorem splitAt_eq_splitOn (separator : Char) (s : List Char) : splitAt separator s = s.splitOn separator := by
  induction s with
  | nil => rfl
  | cons c s ih =>
    obtain ⟨piece, pieces, hs⟩ := List.exists_cons_of_ne_nil (List.splitOn_ne_nil separator s)
    rw [splitAt, ih, List.splitOn_cons_eq_if_modifyHead, hs]
    by_cases hc : c = separator <;> simp [hc]

end Foreman.Text
