import Foreman.Proofs.Text.Splitting
import Foreman.Text.Utf8
import Mathlib.Tactic.SplitIfs

/-! A line end stands alone among bytes: it closes whatever was begun before it, and no other bytes are read
as one. So a text can be cut at its line ends before it is decoded or after. -/

namespace Foreman.Utf8

def State.Reached : State → Prop
  | .start => True
  | .inside missing low _ bits =>
    0x80 ≤ low.toNat ∧ 2 ≤ bits * 64 + (low.toNat - 0x80) ∧
      (missing ≤ 1 → 0x80 ≤ bits * 64 + (low.toNat - 0x80))

theorem first_reached (b : UInt8) : (first b).2.Reached := by
  have hb := b.toNat_lt
  simp only [first, beq_iff_eq]
  split_ifs with h1 h2 h3 h4 h5 h6 h7 h8 h9 <;>
    simp_all [State.Reached, UInt8.lt_iff_toNat_lt, ← UInt8.toNat_inj] <;> omega

theorem step_reached {s : State} (hs : s.Reached) (b : UInt8) : (step s b).2.Reached := by
  cases s with
  | start => exact first_reached b
  | inside missing low high bits =>
    obtain ⟨hlow, htwo, hone⟩ := hs
    simp only [step]
    split_ifs with hb hm
    · trivial
    · simp only [Bool.and_eq_true, decide_eq_true_eq, UInt8.le_iff_toNat_le] at hb
      refine ⟨by decide, ?_, fun _ => ?_⟩ <;> simp <;> omega
    · exact first_reached b

theorem ofNat_ne_newline {n : Nat} (h : n ≠ 10) : Char.ofNat n ≠ '\n' := by
  intro hn
  have ht : (Char.ofNat n).toNat = 10 := by
    rw [hn]
    rfl
  by_cases hv : n.isValidChar
  · have hchar : Char.ofNat n = Char.ofNatAux n hv := dif_pos hv
    rw [hchar] at ht
    exact h ht
  · have hchar : Char.ofNat n = Char.ofNat 0 := dif_neg hv
    rw [hchar] at ht
    cases ht

theorem newline_notMem_first {b : UInt8} (hb : b ≠ 10) : '\n' ∉ (first b).1 := by
  have hr : '\n' ≠ replacement := by decide
  have hc : '\n' ≠ Char.ofNat b.toNat :=
    (ofNat_ne_newline fun h => hb (UInt8.toNat_inj.1 h)).symm
  unfold first
  split_ifs <;> simp [hr, hc]

theorem newline_notMem_step {s : State} (hs : s.Reached) {b : UInt8} (hb : b ≠ 10) :
    '\n' ∉ (step s b).1 := by
  cases s with
  | start => exact newline_notMem_first hb
  | inside missing low high bits =>
    obtain ⟨hlow, -, hone⟩ := hs
    simp only [step]
    split_ifs with hr hm
    · simp only [Bool.and_eq_true, decide_eq_true_eq, UInt8.le_iff_toNat_le] at hr
      have hlarge := hone hm
      have hne : Char.ofNat (bits * 64 + (b.toNat - 0x80)) ≠ '\n' := ofNat_ne_newline (by omega)
      simpa using hne.symm
    · simp
    · have hne : '\n' ≠ replacement := by decide
      simpa [hne] using newline_notMem_first hb

theorem newline_notMem_decodeFrom {s : State} (hs : s.Reached) {bs : Bytes} (hb : 10 ∉ bs) :
    '\n' ∉ decodeFrom s bs := by
  induction bs generalizing s with
  | nil => cases s <;> simp [decodeFrom, State.close, replacement]
  | cons b bs ih =>
    simp only [List.mem_cons, not_or] at hb
    rw [decodeFrom, List.mem_append, not_or]
    exact ⟨newline_notMem_step hs (Ne.symm hb.1), ih (step_reached hs b) hb.2⟩

theorem newline_notMem_decodeChars {bs : Bytes} (hb : 10 ∉ bs) : '\n' ∉ decodeChars bs :=
  newline_notMem_decodeFrom (s := .start) trivial hb

/-- A line end is out of range inside every character, so it closes one and is read by itself. -/
theorem step_lineEnd {s : State} (hs : s.Reached) : step s 10 = (s.close ++ ['\n'], .start) := by
  cases s with
  | start => rfl
  | inside missing low high bits =>
    have hlow : ¬ low ≤ 10 := by
      rw [UInt8.le_iff_toNat_le, Nat.not_le]
      exact Nat.lt_of_lt_of_le (by decide) hs.1
    simp only [step, hlow, decide_false, Bool.false_and, Bool.false_eq_true, if_false]
    rfl

theorem decodeFrom_append_lineEnd {s : State} (hs : s.Reached) (bs rest : Bytes) :
    decodeFrom s (bs ++ 10 :: rest) = decodeFrom s bs ++ '\n' :: decodeChars rest := by
  induction bs generalizing s with
  | nil => simp [decodeFrom, step_lineEnd hs, decodeChars]
  | cons b bs ih => simp only [List.cons_append, decodeFrom, ih (step_reached hs b), List.append_assoc]

theorem decodeChars_append_lineEnd (bs rest : Bytes) :
    decodeChars (bs ++ 10 :: rest) = decodeChars bs ++ '\n' :: decodeChars rest :=
  decodeFrom_append_lineEnd (s := .start) trivial bs rest

theorem decodeChars_intercalate (pieces : List Bytes) :
    decodeChars ([10].intercalate pieces) = ['\n'].intercalate (pieces.map decodeChars) := by
  induction pieces with
  | nil => rfl
  | cons piece pieces ih =>
    cases pieces with
    | nil => simp
    | cons next pieces =>
      rw [List.map_cons, List.map_cons, List.intercalate_cons_cons, List.intercalate_cons_cons, List.append_assoc,
        List.append_assoc, List.singleton_append, List.singleton_append, decodeChars_append_lineEnd, ih, List.map_cons]

theorem decodeChars_splitOn (bs : Bytes) : (decodeChars bs).splitOn '\n' = (bs.splitOn 10).map decodeChars := by
  have hpieces : ∀ piece ∈ (bs.splitOn 10).map decodeChars, '\n' ∉ piece := fun piece h => by
    obtain ⟨raw, hraw, rfl⟩ := List.mem_map.1 h
    exact newline_notMem_decodeChars (Text.notMem_of_mem_splitOn hraw)
  have hsome : (bs.splitOn 10).map decodeChars ≠ [] := by simp
  calc (decodeChars bs).splitOn '\n'
      = (['\n'].intercalate ((bs.splitOn 10).map decodeChars)).splitOn '\n' := by
        rw [← decodeChars_intercalate, List.intercalate_splitOn]
    _ = (bs.splitOn 10).map decodeChars := List.splitOn_intercalate _ hpieces hsome

theorem splitText_decode (bs : Bytes) : Text.splitText '\n' (decode bs) = (bs.splitOn 10).map decode := by
  rw [Text.splitText, decode, String.toList_ofList, Text.splitAt_eq_splitOn, decodeChars_splitOn, List.map_map]
  rfl

end Foreman.Utf8
