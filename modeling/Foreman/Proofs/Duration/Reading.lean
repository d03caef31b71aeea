import Foreman.Duration.Text
import Foreman.Proofs.Text.Lowercase
import Mathlib.Data.List.DropRight

/-! What a text says as a duration. It names a number of some unit of time, with blanks around both if need be;
from it follow the duration that is read and the numbers that are out of range. -/

namespace Foreman

namespace Text
variable {s lead trail digits : List Char}

theorem trimChars_blank_append (hl : ∀ c ∈ lead, isBlank c) : trimChars (lead ++ s) = trimChars s := by
  rw [trimChars, List.dropWhile_append_of_pos hl, trimChars]

theorem trimChars_append_blank (ht : ∀ c ∈ trail, isBlank c) : trimChars (s ++ trail) = trimChars s := by
  have htail : ∀ c ∈ trail.reverse, isBlank c := fun c hc => ht c (List.mem_reverse.1 hc)
  rw [trimChars, trimChars, List.dropWhile_append]
  split
  · rename_i hs
    rw [List.isEmpty_iff.1 hs, List.dropWhile_eq_nil_iff.2 ht]
  · rw [List.reverse_append, List.dropWhile_append_of_pos htail]

theorem trimChars_eq_self (hfirst : ∀ c ∈ s.head?, isBlank c = false)
    (hlast : ∀ c ∈ s.getLast?, isBlank c = false) : trimChars s = s := by
  have hkeep : ∀ {l : List Char}, (∀ c ∈ l.head?, isBlank c = false) → l.dropWhile isBlank = l := by
    rintro (_ | ⟨c, l⟩) h
    · rfl
    · exact List.dropWhile_cons_of_neg (by simp [h c rfl])
  rw [trimChars, hkeep hfirst, hkeep (by rwa [List.head?_reverse]), List.reverse_reverse]

theorem exists_blanks_around (s : List Char) : ∃ lead trail, s = lead ++ trimChars s ++ trail ∧
    (∀ c ∈ lead, isBlank c) ∧ ∀ c ∈ trail, isBlank c := by
  refine ⟨s.takeWhile isBlank, (s.dropWhile isBlank).rtakeWhile isBlank, ?_,
    fun _ => List.mem_takeWhile_imp, fun _ => List.mem_rtakeWhile_imp⟩
  have hright : trimChars s ++ (s.dropWhile isBlank).rtakeWhile isBlank = s.dropWhile isBlank :=
    List.rdropWhile_append_rtakeWhile
  rw [List.append_assoc, hright, List.takeWhile_append_dropWhile]

theorem readDigits_eq (limit value : Nat) (hv : value ≤ limit) (h : ∀ c ∈ digits, isDigit c) :
    readDigits limit value digits = if Nat.ofDigitChars 10 digits value ≤ limit then
      .ok (Nat.ofDigitChars 10 digits value) else .error .tooLarge := by
  have hmono : ∀ (ds : List Char) (n : Nat), n ≤ Nat.ofDigitChars 10 ds n := by
    intro ds
    induction ds with
    | nil => exact fun n => le_rfl
    | cons c ds ih =>
      intro n
      rw [Nat.ofDigitChars_cons]
      exact le_trans (by omega) (ih _)
  induction digits generalizing value with
  | nil => exact (if_pos hv).symm
  | cons c ds ih =>
    obtain ⟨hc, hds⟩ := List.forall_mem_cons.1 h
    have hvalue : value * 10 + digitValue c = 10 * value + (c.toNat - '0'.toNat) := by
      rw [Nat.mul_comm]
      rfl
    rw [readDigits, if_neg (by simp [hc]), Nat.ofDigitChars_cons, ← hvalue]
    split
    · rename_i hlarge
      rw [if_neg (by have := hmono ds (value * 10 + digitValue c); omega)]
    · rename_i hfits
      exact ih _ (by omega) hds

theorem readNumber_of_digits (limit : Nat) (hne : digits ≠ []) (h : ∀ c ∈ digits, isDigit c) :
    readNumber limit digits = if Nat.ofDigitChars 10 digits 0 ≤ limit then
      .ok (Nat.ofDigitChars 10 digits 0) else .error .tooLarge := by
  rw [← readDigits_eq limit 0 (Nat.zero_le _) h]
  cases digits with
  | nil => exact absurd rfl hne
  | cons c ds =>
    have hplus : c ≠ '+' := by
      rintro rfl
      exact absurd (h '+' List.mem_cons_self) (by decide)
    unfold readNumber
    split
    · contradiction
    · rename_i heq
      exact absurd (List.cons.inj heq).1 hplus
    · rfl

def Exceeds (limit : Nat) (text : String) : Prop :=
  ∃ sign digits, trimChars text.toList = sign ++ digits ∧ (sign = [] ∨ sign = ['+']) ∧
    digits ≠ [] ∧ (∀ c ∈ digits, isDigit c) ∧ limit < Nat.ofDigitChars 10 digits 0

theorem Exceeds.readNumber {limit : Nat} {text : String} (h : Exceeds limit text) :
    readNumber limit (trimChars text.toList) = .error .tooLarge := by
  obtain ⟨sign, digits, htrim, hsign, hne, hdigits, hlarge⟩ := h
  rw [htrim]
  rcases hsign with rfl | rfl
  · rw [List.nil_append, readNumber_of_digits limit hne hdigits, if_neg (Nat.not_le_of_lt hlarge)]
  · have hplus : Text.readNumber limit ('+' :: digits) = readDigits limit 0 digits := by
      cases digits with
      | nil => exact absurd rfl hne
      | cons c ds => rfl
    rw [List.singleton_append, hplus, readDigits_eq limit 0 (Nat.zero_le _) hdigits,
      if_neg (Nat.not_le_of_lt hlarge)]

theorem lowerAscii_of_isDigit {c : Char} (h : isDigit c) : lowerAscii c = c := by
  have hupper : isUpperAscii c = false := by
    simp only [isDigit, isUpperAscii, Bool.and_eq_true, Bool.and_eq_false_iff, decide_eq_true_eq,
      decide_eq_false_iff_not] at h ⊢
    omega
  exact lowerAscii_eq_self hupper

theorem lowerAscii_of_isBlank {c : Char} (h : isBlank c) : lowerAscii c = c := by
  have hupper : isUpperAscii c = false := by
    simp only [isBlank, isUpperAscii, Bool.or_eq_true, Bool.and_eq_true, Bool.and_eq_false_iff,
      decide_eq_true_eq, decide_eq_false_iff_not, beq_iff_eq] at h ⊢
    omega
  exact lowerAscii_eq_self hupper

theorem isBlank_of_isDigit {c : Char} (h : isDigit c) : isBlank c = false := by
  simp only [isDigit, Bool.and_eq_true, decide_eq_true_eq] at h
  simp only [isBlank, Bool.or_eq_false_iff, Bool.and_eq_false_iff, decide_eq_false_iff_not, beq_eq_false_iff_ne]
  omega

theorem isDigit_of_isBlank {c : Char} (h : isBlank c) : isDigit c = false := by
  by_contra hd
  rw [isBlank_of_isDigit (eq_true_of_ne_false hd)] at h
  exact Bool.false_ne_true h

theorem span_digits {rest : List Char} (h : ∀ c ∈ digits, isDigit c)
    (hrest : ∀ c ∈ rest.head?, isDigit c = false) :
    (digits ++ rest).takeWhile isDigit = digits ∧ (digits ++ rest).dropWhile isDigit = rest := by
  rw [List.takeWhile_append_of_pos h, List.dropWhile_append_of_pos h]
  cases rest with
  | nil => exact ⟨List.append_nil _, rfl⟩
  | cons c rest =>
    have hc : ¬ isDigit c = true := by simp [hrest c rfl]
    rw [List.takeWhile_cons_of_neg hc, List.dropWhile_cons_of_neg hc]
    exact ⟨List.append_nil _, rfl⟩

end Text

namespace Duration

inductive TimeUnit where
  | millisecond
  | second
  | minute
  | hour
  deriving DecidableEq, Repr

namespace TimeUnit

def letters : TimeUnit → List Char
  | millisecond => ['m', 's']
  | second => ['s']
  | minute => ['m']
  | hour => ['h']

def nanos : TimeUnit → Nat
  | millisecond => 1000000
  | second => 1000000000
  | minute => 60 * 1000000000
  | hour => 60 * 60 * 1000000000

theorem plain_of_mem_letters {u : TimeUnit} {c : Char} (h : c ∈ u.letters) :
    Text.Plain c ∧ Text.isDigit c = false ∧ Text.isBlank c = false := by
  cases u <;> simp only [letters, List.mem_cons, List.not_mem_nil, or_false] at h
  · rcases h with rfl | rfl <;> decide
  · subst h
    decide
  · subst h
    decide
  · subst h
    decide

theorem letter_of_lowerAscii {u : TimeUnit} {s : List Char} (h : s.map Text.lowerAscii = u.letters)
    {c : Char} (hc : c ∈ s) : Text.isDigit c = false ∧ Text.isBlank c = false := by
  have hmem : Text.lowerAscii c ∈ u.letters := h ▸ List.mem_map_of_mem hc
  obtain ⟨-, hdigit, hblank⟩ := plain_of_mem_letters hmem
  constructor
  · by_contra hd
    rw [Text.lowerAscii_of_isDigit (eq_true_of_ne_false hd)] at hdigit
    exact hd hdigit
  · by_contra hb
    rw [Text.lowerAscii_of_isBlank (eq_true_of_ne_false hb)] at hblank
    exact hb hblank

theorem lowerChars_eq_letters {u : TimeUnit} {s : List Char} :
    Text.lowerChars s = u.letters ↔ s.map Text.lowerAscii = u.letters :=
  Text.lowerChars_eq_iff fun _ hc => (plain_of_mem_letters hc).1

end TimeUnit

/-- The text names so many of a unit. -/
def Spells (text : String) (n : Nat) (u : TimeUnit) : Prop :=
  ∃ lead digits gap letters trail, text.toList = lead ++ (digits ++ (gap ++ letters)) ++ trail ∧
    (∀ c ∈ lead ++ gap ++ trail, Text.isBlank c) ∧
    digits ≠ [] ∧ (∀ c ∈ digits, Text.isDigit c) ∧ Nat.ofDigitChars 10 digits 0 = n ∧
    letters.map Text.lowerAscii = u.letters

def wholeSeconds : Nat := maxCount * 1000000000

/-- The text names a duration; both its number and its whole seconds can be counted. -/
def Means (text : String) (d : Duration) : Prop :=
  ∃ n u, Spells text n u ∧ n ≤ maxCount ∧ n * u.nanos ≤ wholeSeconds ∧ d = ⟨n * u.nanos⟩

def Uncountable (text : String) : Prop := ∃ n u, Spells text n u ∧ maxCount < n

/-- The number can be counted, but not the seconds in so many of the unit. -/
def Overflows (text : String) : Prop :=
  ∃ n u, Spells text n u ∧ n ≤ maxCount ∧ wholeSeconds < n * u.nanos

variable {text : String} {n : Nat} {u : TimeUnit} {d : Duration}

theorem secondsChecked_eq (k : Nat) : secondsChecked k =
    if k * 1000000000 ≤ wholeSeconds then .ok ⟨k * 1000000000⟩ else .error .overflow := by
  have hiff : k ≤ maxCount ↔ k * 1000000000 ≤ wholeSeconds :=
    (Nat.mul_le_mul_right_iff (by decide)).symm
  unfold secondsChecked
  by_cases hk : k ≤ maxCount
  · rw [if_pos hk, if_pos (hiff.1 hk)]
    rfl
  · rw [if_neg hk, if_neg (mt hiff.2 hk)]

theorem ofUnit_letters (h : n ≤ maxCount) : ofUnit n u.letters =
    if n * u.nanos ≤ wholeSeconds then .ok ⟨n * u.nanos⟩ else .error .overflow := by
  cases u with
  | millisecond =>
    have hfits : n * TimeUnit.millisecond.nanos ≤ wholeSeconds := Nat.mul_le_mul h (by decide)
    rw [if_pos hfits]
    rfl
  | second =>
    have hfits : n * TimeUnit.second.nanos ≤ wholeSeconds := Nat.mul_le_mul h (by decide)
    rw [if_pos hfits]
    rfl
  | minute =>
    have hread : ofUnit n TimeUnit.minute.letters = secondsChecked (n * 60) := rfl
    rw [hread, secondsChecked_eq, Nat.mul_assoc]
    rfl
  | hour =>
    have hread : ofUnit n TimeUnit.hour.letters = secondsChecked (n * 60 * 60) := rfl
    rw [hread, secondsChecked_eq, Nat.mul_assoc, Nat.mul_assoc]
    rfl

theorem spells_iff : Spells text n u ↔ ∃ digits rest, digits ≠ [] ∧
    (Text.trimChars text.toList).takeWhile Text.isDigit = digits ∧
    (Text.trimChars text.toList).dropWhile Text.isDigit = rest ∧
    Nat.ofDigitChars 10 digits 0 = n ∧ (Text.trimChars rest).map Text.lowerAscii = u.letters := by
  constructor
  · rintro ⟨lead, digits, gap, letters, trail, htext, hblank, hne, hdigits, hn, hletters⟩
    simp only [List.forall_mem_append] at hblank
    obtain ⟨⟨hlead, hgap⟩, htrail⟩ := hblank
    have hletter : ∀ c ∈ letters, Text.isDigit c = false ∧ Text.isBlank c = false :=
      fun c => TimeUnit.letter_of_lowerAscii hletters
    have hsome : letters ≠ [] := by
      rintro rfl
      cases u <;> cases hletters
    have hlast : ∀ l : List Char, ∀ c ∈ (l ++ letters).getLast?, Text.isBlank c = false := by
      intro l c hc
      rw [List.getLast?_append_of_ne_nil _ hsome] at hc
      exact (hletter c (List.mem_of_getLast? hc)).2
    -- trimming stops at the first digit and at the last letter, none of which is blank
    have htrim : Text.trimChars text.toList = digits ++ (gap ++ letters) := by
      rw [htext, Text.trimChars_append_blank htrail, Text.trimChars_blank_append hlead]
      refine Text.trimChars_eq_self (fun c hc => ?_) (List.append_assoc digits gap letters ▸ hlast _)
      rw [List.head?_append_of_ne_nil _ hne] at hc
      exact Text.isBlank_of_isDigit (hdigits c (List.mem_of_mem_head? hc))
    have hunit : Text.trimChars (gap ++ letters) = letters := by
      rw [Text.trimChars_blank_append hgap]
      exact Text.trimChars_eq_self (fun c hc => (hletter c (List.mem_of_mem_head? hc)).2) (hlast [])
    have hrest : ∀ c ∈ (gap ++ letters).head?, Text.isDigit c = false := by
      intro c hc
      rcases List.mem_append.1 (List.mem_of_mem_head? hc) with hg | hl
      · exact Text.isDigit_of_isBlank (hgap c hg)
      · exact (hletter c hl).1
    -- the digits end before the gap, or before the letters if there is none
    obtain ⟨htake, hdrop⟩ := Text.span_digits hdigits hrest
    exact ⟨digits, gap ++ letters, hne, htrim ▸ htake, htrim ▸ hdrop, hn, hunit.symm ▸ hletters⟩
  · rintro ⟨digits, rest, hne, htake, hdrop, hn, hletters⟩
    obtain ⟨lead, trail, htext, hlead, htrail⟩ := Text.exists_blanks_around text.toList
    obtain ⟨gap, tail, hrest, hgap, htail⟩ := Text.exists_blanks_around rest
    have hsplit : digits ++ rest = Text.trimChars text.toList := by
      rw [← htake, ← hdrop, List.takeWhile_append_dropWhile]
    refine ⟨lead, digits, gap, Text.trimChars rest, tail ++ trail, ?_, ?_, hne,
      fun c hc => List.mem_takeWhile_imp (htake.symm ▸ hc), hn, hletters⟩
    · rw [htext, ← hsplit]
      nth_rewrite 1 [hrest]
      simp only [List.append_assoc]
    · simp only [List.forall_mem_append]
      exact ⟨⟨hlead, hgap⟩, htail, htrail⟩

theorem Spells.read (h : Spells text n u) : if n ≤ maxCount then read text = ofUnit n u.letters
    else ∃ digits, read text = .error (.badNumber digits .tooLarge) := by
  obtain ⟨digits, rest, hne, htake, hdrop, rfl, hletters⟩ := spells_iff.1 h
  have hdigits : ∀ c ∈ digits, Text.isDigit c := fun c hc => List.mem_takeWhile_imp (htake.symm ▸ hc)
  have hs : Text.trimChars text.toList ≠ [] := by
    intro hnil
    rw [hnil] at htake
    exact hne htake.symm
  have hrest : rest ≠ [] := by
    rintro rfl
    cases u <;> cases hletters
  have hlower : Text.lowerChars (Text.trimChars rest) = u.letters :=
    TimeUnit.lowerChars_eq_letters.2 hletters
  have hnumber := Text.readNumber_of_digits maxCount hne hdigits
  simp only [Duration.read, readChars, htake, hdrop, hlower, List.isEmpty_iff, hs, hrest, if_false, hnumber]
  by_cases hn : Nat.ofDigitChars 10 digits 0 ≤ maxCount
  · simp only [if_pos hn]
  · simp only [if_neg hn]
    exact ⟨_, rfl⟩

theorem Spells.read_of_le (h : Spells text n u) (hn : n ≤ maxCount) : Duration.read text =
    if n * u.nanos ≤ wholeSeconds then .ok ⟨n * u.nanos⟩ else .error .overflow := by
  have hread := h.read
  rwa [if_pos hn, ofUnit_letters hn] at hread

theorem Uncountable.read (h : Uncountable text) :
    ∃ digits, read text = .error (.badNumber digits .tooLarge) := by
  obtain ⟨n, u, hspells, hn⟩ := h
  have hread := hspells.read
  rwa [if_neg (Nat.not_le_of_lt hn)] at hread

theorem ofUnit_cases (value : Nat) (unit : List Char) : (∃ u : TimeUnit, unit = u.letters) ∨
    ∃ e, e ≠ .overflow ∧ ofUnit value unit = .error e := by
  by_cases hms : unit = ['m', 's']
  · exact .inl ⟨.millisecond, hms⟩
  by_cases hs : unit = ['s']
  · exact .inl ⟨.second, hs⟩
  by_cases hm : unit = ['m']
  · exact .inl ⟨.minute, hm⟩
  by_cases hh : unit = ['h']
  · exact .inl ⟨.hour, hh⟩
  refine .inr ⟨.unknownUnit (String.ofList unit), nofun, ?_⟩
  rw [ofUnit, if_neg hms, if_neg hs, if_neg hm, if_neg hh]

theorem read_cases (text : String) :
    (∃ n u, Spells text n u ∧ n ≤ maxCount) ∨ ∃ e, e ≠ .overflow ∧ read text = .error e := by
  generalize htake : (Text.trimChars text.toList).takeWhile Text.isDigit = digits
  generalize hdrop : (Text.trimChars text.toList).dropWhile Text.isDigit = rest
  have hdigits : ∀ c ∈ digits, Text.isDigit c := fun c hc => List.mem_takeWhile_imp (htake.symm ▸ hc)
  simp only [read, readChars, htake, hdrop]
  split
  · exact .inr ⟨.empty, nofun, rfl⟩
  split
  · exact .inr ⟨.missingUnit _, nofun, rfl⟩
  cases hnumber : Text.readNumber maxCount digits with
  | error e => exact .inr ⟨.badNumber _ e, nofun, rfl⟩
  | ok n =>
    have hne : digits ≠ [] := by
      rintro rfl
      cases hnumber
    rw [Text.readNumber_of_digits maxCount hne hdigits] at hnumber
    split at hnumber
    · rename_i hn
      cases hnumber
      refine (ofUnit_cases _ _).imp (fun ⟨u, hu⟩ => ⟨_, u, spells_iff.2 ?_, hn⟩) id
      exact ⟨digits, rest, hne, htake, hdrop, rfl, TimeUnit.lowerChars_eq_letters.1 hu⟩
    · cases hnumber

theorem read_eq_ok_iff : read text = .ok d ↔ Means text d := by
  constructor
  · intro h
    rcases read_cases text with ⟨n, u, hspells, hn⟩ | ⟨e, -, he⟩
    · rw [hspells.read_of_le hn] at h
      split at h
      · rename_i hsum
        cases h
        exact ⟨n, u, hspells, hn, hsum, rfl⟩
      · cases h
    · rw [he] at h
      cases h
  · rintro ⟨n, u, hspells, hn, hsum, rfl⟩
    rw [hspells.read_of_le hn, if_pos hsum]

theorem read_eq_overflow_iff : read text = .error .overflow ↔ Overflows text := by
  constructor
  · intro h
    rcases read_cases text with ⟨n, u, hspells, hn⟩ | ⟨e, hne, he⟩
    · rw [hspells.read_of_le hn] at h
      split at h
      · cases h
      · rename_i hsum
        exact ⟨n, u, hspells, hn, Nat.lt_of_not_le hsum⟩
    · rw [he] at h
      exact absurd (Except.error.inj h) hne
  · rintro ⟨n, u, hspells, hn, hsum⟩
    rw [hspells.read_of_le hn, if_neg (Nat.not_le_of_lt hsum)]

end Duration
end Foreman
