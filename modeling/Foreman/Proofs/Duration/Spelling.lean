import Foreman.Proofs.Duration.Reading

/-! Which texts are read as a duration, and which of them as the same. Blanks, zeros before the number and the case of
the letters make no difference. -/

namespace Foreman

namespace Text
variable {c : Char}

theorem toNat_lowerAscii (c : Char) : (lowerAscii c).toNat = if isUpperAscii c then c.toNat + 32 else c.toNat := by
  unfold lowerAscii
  split_ifs with hupper
  · simp only [isUpperAscii, Bool.and_eq_true, decide_eq_true_eq] at hupper
    have hvalid : (c.toNat + 32).isValidChar := .inl (by omega)
    rw [Char.ofNat, dif_pos hvalid]
    rfl
  · rfl

theorem isBlank_lowerAscii (c : Char) : isBlank (lowerAscii c) = isBlank c := by
  cases hupper : isUpperAscii c with
  | false => rw [lowerAscii_eq_self hupper]
  | true =>
    rw [isBlank, isBlank, toNat_lowerAscii, if_pos hupper]
    simp only [isUpperAscii, Bool.and_eq_true, decide_eq_true_eq] at hupper
    rw [Bool.eq_iff_iff]
    simp only [Bool.or_eq_true, Bool.and_eq_true, decide_eq_true_eq, beq_iff_eq]
    omega

theorem trimChars_digits {lead digits rest : List Char} (hlead : ∀ c ∈ lead, isBlank c) (hne : digits ≠ [])
    (hdigits : ∀ c ∈ digits, isDigit c) :
    trimChars (lead ++ (digits ++ rest)) = digits ++ rest.rdropWhile isBlank := by
  have hcut : digits ++ rest = digits ++ rest.rdropWhile isBlank ++ rest.rtakeWhile isBlank := by
    rw [List.append_assoc, List.rdropWhile_append_rtakeWhile]
  rw [trimChars_blank_append hlead, hcut, trimChars_append_blank fun _ => List.mem_rtakeWhile_imp]
  refine trimChars_eq_self (fun c hc => ?_) fun c hc => ?_
  · rw [List.head?_append_of_ne_nil _ hne] at hc
    exact isBlank_of_isDigit (hdigits c (List.mem_of_mem_head? hc))
  · rw [List.getLast?_append, Option.mem_def, Option.or_eq_some_iff] at hc
    rcases hc with hc | ⟨-, hc⟩
    · obtain ⟨hsome, hlast⟩ := List.mem_getLast?_eq_getLast hc
      have hstop := List.rdropWhile_last_not isBlank rest hsome
      rw [← hlast] at hstop
      exact eq_false_of_ne_true hstop
    · exact isBlank_of_isDigit (hdigits c (List.mem_of_getLast? hc))

theorem trimChars_map_lowerAscii (s : List Char) : trimChars (s.map lowerAscii) = (trimChars s).map lowerAscii := by
  have hsame : isBlank ∘ lowerAscii = isBlank := funext isBlank_lowerAscii
  simp only [trimChars, List.dropWhile_map, ← List.map_reverse, hsame]

theorem eq_or_of_lowerAscii {lower : Char} (upper : Char) (hcase : lower.toNat = upper.toNat + 32)
    (h : lowerAscii c = lower) : c = lower ∨ c = upper := by
  have hn := toNat_lowerAscii c
  rw [h, hcase] at hn
  cases hupper : isUpperAscii c with
  | false =>
    exact .inl ((lowerAscii_eq_self hupper).symm.trans h)
  | true =>
    rw [if_pos hupper] at hn
    exact .inr (Char.toNat_inj.1 (Nat.add_right_cancel hn).symm)

theorem isDigit_of_char (h : c.isDigit = true) : isDigit c := by
  simp only [Char.isDigit, Bool.and_eq_true, decide_eq_true_eq] at h
  simp only [isDigit, Bool.and_eq_true, decide_eq_true_eq]
  exact h

end Text

namespace Duration

theorem TimeUnit.letter_of_either_case {u : TimeUnit} {c : Char} (h : Text.lowerAscii c ∈ u.letters) :
    c ∈ ['m', 's', 'h', 'M', 'S', 'H'] := by
  have hsub : u.letters ⊆ ['m', 's', 'h'] := by cases u <;> decide
  have hlower := hsub h
  simp only [List.mem_cons, List.not_mem_nil, or_false] at hlower
  rcases hlower with hm | hs | hh
  · rcases Text.eq_or_of_lowerAscii 'M' rfl hm with rfl | rfl <;> decide
  · rcases Text.eq_or_of_lowerAscii 'S' rfl hs with rfl | rfl <;> decide
  · rcases Text.eq_or_of_lowerAscii 'H' rfl hh with rfl | rfl <;> decide

variable {text text' : String} {digits letters letters' : List Char} {n : Nat} {u : TimeUnit} {d : Duration}

/-- The text has these digits and then these letters, with zeros before the digits and blanks around both if need
be. -/
def Shows (text : String) (digits letters : List Char) : Prop :=
  ∃ lead zeros gap trail, text.toList = lead ++ (zeros ++ digits ++ (gap ++ letters)) ++ trail ∧
    (∀ c ∈ lead ++ gap ++ trail, Text.isBlank c) ∧ (∀ c ∈ zeros, c = '0') ∧
    digits ≠ [] ∧ (∀ c ∈ digits, Text.isDigit c) ∧ ∀ c ∈ letters.head?, Text.isDigit c = false

theorem spells_iff_of_digits {lead rest : List Char} (htext : text.toList = lead ++ (digits ++ rest))
    (hlead : ∀ c ∈ lead, Text.isBlank c) (hne : digits ≠ []) (hdigits : ∀ c ∈ digits, Text.isDigit c)
    (hrest : ∀ c ∈ rest.head?, Text.isDigit c = false) : Spells text n u ↔
      Nat.ofDigitChars 10 digits 0 = n ∧ (Text.trimChars rest).map Text.lowerAscii = u.letters := by
  have hcut : rest.rdropWhile Text.isBlank ++ rest.rtakeWhile Text.isBlank = rest := List.rdropWhile_append_rtakeWhile
  have hhead : ∀ c ∈ (rest.rdropWhile Text.isBlank).head?, Text.isDigit c = false := by
    intro c hc
    refine hrest c ?_
    rw [← hcut, List.head?_append, Option.mem_def, Option.or_eq_some_iff]
    exact .inl hc
  have hunit : Text.trimChars (rest.rdropWhile Text.isBlank) = Text.trimChars rest := by
    nth_rewrite 2 [← hcut]
    exact (Text.trimChars_append_blank fun _ => List.mem_rtakeWhile_imp).symm
  -- trimming leaves the digits alone, and what it cuts off behind them is cut off from the unit anyway
  obtain ⟨htake, hdrop⟩ := Text.span_digits hdigits hhead
  rw [spells_iff, htext, Text.trimChars_digits hlead hne hdigits, htake, hdrop, ← hunit]
  constructor
  · rintro ⟨_, _, -, rfl, rfl, hn, hletters⟩
    exact ⟨hn, hletters⟩
  · rintro ⟨hn, hletters⟩
    exact ⟨_, _, hne, rfl, rfl, hn, hletters⟩

theorem Shows.spells_iff (h : Shows text digits letters) : Spells text n u ↔
    Nat.ofDigitChars 10 digits 0 = n ∧ (Text.trimChars letters).map Text.lowerAscii = u.letters := by
  obtain ⟨lead, zeros, gap, trail, htext, hblank, hzeros, hne, hdigits, hletters⟩ := h
  simp only [List.forall_mem_append] at hblank
  obtain ⟨⟨hlead, hgap⟩, htrail⟩ := hblank
  have hrest : ∀ c ∈ (gap ++ (letters ++ trail)).head?, Text.isDigit c = false := by
    intro c hc
    rw [List.head?_append, List.head?_append, Option.mem_def, Option.or_eq_some_iff, Option.or_eq_some_iff] at hc
    rcases hc with hc | ⟨-, hc | ⟨-, hc⟩⟩
    · exact Text.isDigit_of_isBlank (hgap c (List.mem_of_mem_head? hc))
    · exact hletters c hc
    · exact Text.isDigit_of_isBlank (htrail c (List.mem_of_mem_head? hc))
  have hall : ∀ c ∈ zeros ++ digits, Text.isDigit c := by
    intro c hc
    rcases List.mem_append.1 hc with hc | hc
    · rw [hzeros c hc]
      decide
    · exact hdigits c hc
  have hzero : zeros = List.replicate zeros.length '0' := List.eq_replicate_of_mem hzeros
  have hcut : text.toList = lead ++ ((zeros ++ digits) ++ (gap ++ (letters ++ trail))) := by
    rw [htext]
    simp only [List.append_assoc]
  rw [spells_iff_of_digits hcut hlead (by simp [hne]) hall hrest, Nat.ofDigitChars_append, hzero,
    Nat.ofDigitChars_replicate_zero, Nat.mul_zero, Text.trimChars_blank_append hgap,
    Text.trimChars_append_blank htrail]

/-- Texts with the same number and the same letters but for their case mean the same. -/
theorem Shows.means_iff (h : Shows text digits letters) (h' : Shows text' digits letters')
    (hcase : letters'.map Text.lowerAscii = letters.map Text.lowerAscii) : Means text' d ↔ Means text d := by
  have hspells {n : Nat} {u : TimeUnit} : Spells text' n u ↔ Spells text n u := by
    rw [h.spells_iff, h'.spells_iff, ← Text.trimChars_map_lowerAscii, ← Text.trimChars_map_lowerAscii, hcase]
  simp only [Means, hspells]

theorem fits_iff (hn : n ≤ maxCount) : n * u.nanos ≤ wholeSeconds ↔
    (u = .minute → n * 60 ≤ maxCount) ∧ (u = .hour → n * 3600 ≤ maxCount) := by
  have hseconds (k : Nat) : n * (k * 1000000000) ≤ wholeSeconds ↔ n * k ≤ maxCount := by
    rw [← Nat.mul_assoc]
    exact Nat.mul_le_mul_right_iff (by decide)
  cases u with
  | millisecond => exact iff_of_true (Nat.mul_le_mul hn (by decide)) ⟨nofun, nofun⟩
  | second => exact iff_of_true (Nat.mul_le_mul_right _ hn) ⟨nofun, nofun⟩
  | minute =>
    have hunit : TimeUnit.minute.nanos = 60 * 1000000000 := rfl
    rw [hunit, hseconds]
    exact ⟨fun h => ⟨fun _ => h, nofun⟩, fun h => h.1 rfl⟩
  | hour =>
    have hunit : TimeUnit.hour.nanos = 3600 * 1000000000 := rfl
    rw [hunit, hseconds]
    exact ⟨fun h => ⟨nofun, fun _ => h⟩, fun h => h.2 rfl⟩

theorem means_iff : Means text d ↔ ∃ n u, Spells text n u ∧ n ≤ maxCount ∧ (u = .minute → n * 60 ≤ maxCount) ∧
    (u = .hour → n * 3600 ≤ maxCount) ∧ d = ⟨n * u.nanos⟩ := by
  constructor
  · rintro ⟨n, u, hspells, hn, hfits, rfl⟩
    obtain ⟨hminute, hhour⟩ := (fits_iff hn).1 hfits
    exact ⟨n, u, hspells, hn, hminute, hhour, rfl⟩
  · rintro ⟨n, u, hspells, hn, hminute, hhour, rfl⟩
    exact ⟨n, u, hspells, hn, (fits_iff hn).2 ⟨hminute, hhour⟩, rfl⟩

theorem Spells.chars (h : Spells text n u) {c : Char} (hc : c ∈ text.toList) :
    Text.isBlank c ∨ Text.isDigit c ∨ c ∈ ['m', 's', 'h', 'M', 'S', 'H'] := by
  obtain ⟨lead, digits, gap, letters, trail, htext, hblank, -, hdigits, -, hletters⟩ := h
  simp only [List.forall_mem_append] at hblank
  obtain ⟨⟨hlead, hgap⟩, htrail⟩ := hblank
  simp only [htext, List.mem_append] at hc
  rcases hc with (hc | hc | hc | hc) | hc
  · exact .inl (hlead c hc)
  · exact .inr (.inl (hdigits c hc))
  · exact .inl (hgap c hc)
  · exact .inr (.inr (TimeUnit.letter_of_either_case (hletters ▸ List.mem_map_of_mem hc)))
  · exact .inl (htrail c hc)

theorem spells_toString (n : Nat) : Spells (toString n ++ "ms") n .millisecond := by
  refine ⟨[], Nat.toDigits 10 n, [], ['m', 's'], [], ?_, by simp, Nat.toDigits_ne_nil, fun c hc => ?_,
    Nat.ofDigitChars_ten_toDigits, rfl⟩
  · rw [String.toList_append, Nat.toString_eq_ofList_toDigits, String.toList_ofList]
    simp
  · exact Text.isDigit_of_char (Nat.isDigit_of_mem_toDigits (by decide) (by decide) hc)

/-- Exactly the texts that name a number of a unit are read, and as what they name. Blanks, zeros before the number and
the case of the letters make no difference. Every number of milliseconds that can be counted is read as it is
written. -/
theorem read_exact :
    (∀ text d, read text = .ok d ↔ ∃ n u, Spells text n u ∧ n ≤ maxCount ∧ (u = .minute → n * 60 ≤ maxCount) ∧
      (u = .hour → n * 3600 ≤ maxCount) ∧ d = ⟨n * u.nanos⟩) ∧
    (∀ text d, read text = .ok d → ∀ c ∈ text.toList,
      Text.isBlank c ∨ Text.isDigit c ∨ c ∈ ['m', 's', 'h', 'M', 'S', 'H']) ∧
    (∀ text text' digits letters letters' d, Shows text digits letters → Shows text' digits letters' →
      letters'.map Text.lowerAscii = letters.map Text.lowerAscii → (read text' = .ok d ↔ read text = .ok d)) ∧
    ∀ n ≤ maxCount, read (toString n ++ "ms") = .ok (ofMillis n) := by
  refine ⟨fun text d => read_eq_ok_iff.trans means_iff, fun text d hread c hc => ?_,
    fun text text' digits letters letters' d h h' hcase => ?_, fun n hn => ?_⟩
  · obtain ⟨n, u, hspells, -⟩ := read_eq_ok_iff.1 hread
    exact hspells.chars hc
  · rw [read_eq_ok_iff, read_eq_ok_iff]
    exact h.means_iff h' hcase
  · exact read_eq_ok_iff.2 (means_iff.2 ⟨n, .millisecond, spells_toString n, hn, nofun, nofun, rfl⟩)

theorem read_exact_respelled :
    let plain := "7ms"
    let odd := "\t007\u2003mS\n"
    Shows plain ['7'] ['m', 's'] ∧ Shows odd ['7'] ['m', 'S'] ∧ 7 ≤ maxCount ∧ read odd = .ok (ofMillis 7) ∧
      ∀ c ∈ odd.toList, Text.isBlank c ∨ Text.isDigit c ∨ c ∈ ['m', 's', 'h', 'M', 'S', 'H'] := by
  intro plain odd
  obtain ⟨-, hchars, hrespelled, hcounted⟩ := read_exact
  have hplain : Shows plain ['7'] ['m', 's'] := ⟨[], [], [], [], by decide, by simp, by simp, by simp; decide⟩
  have hodd : Shows odd ['7'] ['m', 'S'] :=
    ⟨['\t'], ['0', '0'], ['\u2003'], ['\n'], by decide, by simp; decide, by simp, by simp; decide⟩
  have hle : 7 ≤ maxCount := by decide
  have hread : read odd = .ok (ofMillis 7) := (hrespelled plain odd _ _ _ _ hplain hodd rfl).2 (hcounted 7 hle)
  exact ⟨hplain, hodd, hle, hread, hchars odd _ hread⟩

end Duration
end Foreman
