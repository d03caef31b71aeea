import Foreman.Text.Letters

/-! Words that are the lowercase form of nothing but ASCII letters. Beyond ASCII there are only two capitals with
an ASCII letter in their lowercase form: the `İ` with its `i`, and the Kelvin sign with its `k`. -/

namespace Foreman.Text

def Plain (c : Char) : Prop := 0 < c.toNat ∧ c.toNat < 128 ∧ c ≠ 'i' ∧ c ≠ 'k'

instance (c : Char) : Decidable (Plain c) :=
  inferInstanceAs (Decidable (0 < c.toNat ∧ c.toNat < 128 ∧ c ≠ 'i' ∧ c ≠ 'k'))

theorem caseRuns_beyond_ascii : ∀ r ∈ caseRuns,
    128 ≤ (r.first : Int) + r.offset ∨ r.first = r.last ∧ (r.first : Int) + r.offset = 'k'.toNat := by
  decide +kernel

theorem ofNat_not_plain {n : Nat} (h : 128 ≤ n ∨ n = 'k'.toNat) : ¬ Plain (Char.ofNat n) := by
  rcases h with h | rfl
  · rintro ⟨hpos, hlt, -⟩
    by_cases hv : n.isValidChar
    · have hchar : Char.ofNat n = Char.ofNatAux n hv := dif_pos hv
      rw [hchar] at hlt
      exact absurd hlt (Nat.not_lt.2 h)
    · have hchar : Char.ofNat n = Char.ofNat 0 := dif_neg hv
      rw [hchar] at hpos
      exact absurd hpos (by decide)
  · decide

theorem lowerChar_beyond_ascii {c : Char} (h : 128 ≤ c.toNat) :
    ∃ x rest, lowerChar c = x :: rest ∧ ¬ Plain x := by
  unfold lowerChar
  rw [if_neg (by omega)]
  split
  · exact ⟨_, _, rfl, by decide⟩
  · split
    · rename_i r hr
      refine ⟨_, _, rfl, ofNat_not_plain ?_⟩
      have hcovers := List.find?_some hr
      simp only [CaseRun.covers, Bool.and_eq_true, decide_eq_true_eq] at hcovers
      have hoffset := caseRuns_beyond_ascii r (List.mem_of_find?_eq_some hr)
      omega
    · exact ⟨c, [], rfl, fun hc => absurd hc.2.1 (by omega)⟩

theorem lowerAscii_eq_self {c : Char} (h : isUpperAscii c = false) : lowerAscii c = c := by
  rw [lowerAscii, h, if_neg Bool.false_ne_true]

theorem lowerAscii_beyond_ascii {c : Char} (h : 128 ≤ c.toNat) : lowerAscii c = c := by
  have hupper : isUpperAscii c = false := by
    simp only [isUpperAscii, Bool.and_eq_false_iff, decide_eq_false_iff_not]
    omega
  exact lowerAscii_eq_self hupper

theorem lowerAfter_eq_iff {before s word : List Char} (hword : ∀ c ∈ word, Plain c) :
    lowerAfter before s = word ↔ s.map lowerAscii = word := by
  induction s generalizing before word with
  | nil => rfl
  | cons c s ih =>
    rcases Nat.lt_or_ge c.toNat 128 with hc | hc
    · have hsigma : ¬ (c.toNat == 0x3A3) = true := by simp; omega
      rw [lowerAfter, if_neg hsigma, lowerChar, if_pos hc, List.singleton_append, List.map_cons]
      cases word with
      | nil => simp
      | cons w word =>
        have hrest : lowerAfter (c :: before) s = word ↔ s.map lowerAscii = word :=
          ih (List.forall_mem_cons.1 hword).2
        simp only [List.cons.injEq, hrest]
    · -- neither side has a plain character at its front
      have hleft : ∃ x rest, lowerAfter before (c :: s) = x :: rest ∧ ¬ Plain x := by
        rw [lowerAfter]
        split
        · split
          · exact ⟨_, _, rfl, by decide⟩
          · exact ⟨_, _, rfl, by decide⟩
        · obtain ⟨x, rest, hx, hplain⟩ := lowerChar_beyond_ascii hc
          exact ⟨x, rest ++ lowerAfter (c :: before) s, by rw [hx, List.cons_append], hplain⟩
      obtain ⟨x, rest, hx, hplain⟩ := hleft
      have hright : ¬ Plain c := fun h => absurd h.2.1 (by omega)
      rw [hx, List.map_cons, lowerAscii_beyond_ascii hc]
      constructor
      · rintro rfl
        exact absurd (hword x List.mem_cons_self) hplain
      · rintro rfl
        exact absurd (hword c List.mem_cons_self) hright

/-- Over all scripts a text has a plain word for its lowercase form only if it is that word but for the case of
ASCII letters. -/
theorem lowerChars_eq_iff {s word : List Char} (hword : ∀ c ∈ word, Plain c) :
    lowerChars s = word ↔ s.map lowerAscii = word := lowerAfter_eq_iff hword

end Foreman.Text
