import Foreman.Watch.Scan

/-! What a line says about a crash, and what a report says about the lines that were judged. -/

namespace Foreman.Watch

def Rules.Signals (r : Rules) (line : String) : Prop :=
  ∃ s ∈ r.crashSignatures, s ≠ "" ∧ s.toList <:+: line.toList

/-- Of all configured signatures that are not empty, it is the first that stands in the line. -/
def Rules.FirstSignal (r : Rules) (line signature : String) : Prop :=
  ∃ before after, r.crashSignatures = before ++ signature :: after ∧
    signature ≠ "" ∧ signature.toList <:+: line.toList ∧
      ∀ s ∈ before, s ≠ "" → ¬ s.toList <:+: line.toList

/-- A report that is true of the lines that were judged. -/
inductive Report.Sound (r : Rules) (lines : List String) : Report → Prop
  | ok (h : ∀ line ∈ lines, ¬ r.Signals line) : Sound r lines ⟨.ok, none, lines.length⟩
  | crashed {before line signature} (hl : lines = before ++ [line])
    (hb : ∀ line ∈ before, ¬ r.Signals line) (hf : r.FirstSignal line signature) :
    Sound r lines ⟨.crashed, some (Scan.crashMessage signature), lines.length⟩
  | hung {idle} (h : ∀ line ∈ lines, ¬ r.Signals line) :
    Sound r lines ⟨.hung, some (Scan.hangMessage idle), lines.length⟩

namespace Scan
variable {s : Scan} {r : Rules} {line signature : String} {elapsed : Duration}

theorem signatureIn_eq (hs : s.signatures = (start r).signatures) : s.signatureIn line =
    r.crashSignatures.find? fun x => decide (x ≠ "") && Text.contains line x := by
  rw [signatureIn, hs, start, List.find?_filter]
  simp only [Bool.decide_and, Bool.decide_eq_true]

theorem firstSignal_of_signatureIn (hs : s.signatures = (start r).signatures)
    (h : s.signatureIn line = some signature) : r.FirstSignal line signature := by
  rw [signatureIn_eq hs, List.find?_eq_some_iff_append] at h
  obtain ⟨hsig, before, after, happ, hbefore⟩ := h
  simp only [Bool.and_eq_true, decide_eq_true_eq] at hsig
  refine ⟨before, after, happ, hsig.1, Text.occursIn_iff.1 hsig.2, fun x hx hne hin => ?_⟩
  have hno := hbefore x hx
  have hyes : Text.contains line x = true := Text.occursIn_iff.2 hin
  simp [hne, hyes] at hno

theorem not_signals_of_signatureIn (hs : s.signatures = (start r).signatures)
    (h : s.signatureIn line = none) : ¬ r.Signals line := by
  rintro ⟨x, hx, hne, hin⟩
  rw [signatureIn_eq hs, List.find?_eq_none] at h
  have hyes : Text.contains line x = true := Text.occursIn_iff.2 hin
  exact h x hx (by simp [hne, hyes])

theorem signatureIn_eq_some_iff (hs : s.signatures = (start r).signatures) :
    s.signatureIn line = some signature ↔ r.FirstSignal line signature := by
  refine ⟨firstSignal_of_signatureIn hs, fun ⟨before, after, happ, hne, hin, hbefore⟩ => ?_⟩
  rw [signatureIn_eq hs, List.find?_eq_some_iff_append]
  have hyes : Text.contains line signature = true := Text.occursIn_iff.2 hin
  refine ⟨by simp [hne, hyes], before, after, happ, fun x hx => ?_⟩
  by_cases hempty : x = ""
  · simp [hempty]
  · have hno : ¬ Text.contains line x = true := fun h => hbefore x hx hempty (Text.occursIn_iff.1 h)
    simp [hno]

theorem signatureIn_eq_none_iff (hs : s.signatures = (start r).signatures) :
    s.signatureIn line = none ↔ ¬ r.Signals line := by
  refine ⟨not_signals_of_signatureIn hs, fun h => ?_⟩
  cases hfound : s.signatureIn line with
  | none => rfl
  | some signature =>
    obtain ⟨before, after, happ, hne, hin, -⟩ := firstSignal_of_signatureIn hs hfound
    exact absurd ⟨signature, by simp [happ], hne, hin⟩ h

theorem onLine_fst (s : Scan) (line : String) : ∃ window, (s.onLine line).1 =
    { s with linesSeen := s.linesSeen + 1, idle := .zero, window } := by
  simp only [onLine]
  split
  · exact ⟨_, rfl⟩
  · split
    · exact ⟨_, rfl⟩
    · exact ⟨_, rfl⟩

theorem onLine_snd (s : Scan) (line : String) : (s.onLine line).2 =
    match s.signatureIn line with
    | some signature => .crashed (crashMessage signature)
    | none => .goOn := by
  have hsame : signatureIn { s with linesSeen := s.linesSeen + 1, idle := .zero } line =
      s.signatureIn line := rfl
  simp only [onLine, hsame]
  cases s.signatureIn line with
  | some signature => rfl
  | none =>
    simp only
    split <;> rfl

theorem onIdle_eq_some {s' : Scan} {verdict : Verdict}
    (h : s.onIdle elapsed = some (s', verdict)) :
    s'.linesSeen = s.linesSeen ∧ s'.signatures = s.signatures ∧
      (verdict = .goOn ∨ ∃ idle, verdict = .hung (hangMessage idle)) := by
  unfold onIdle at h
  cases ha : s.idle.add? elapsed with
  | none => simp [ha] at h
  | some idle =>
    simp only [ha, Option.map_some, Option.some.injEq, Prod.mk.injEq] at h
    obtain ⟨rfl, rfl⟩ := h
    refine ⟨rfl, rfl, ?_⟩
    split
    · exact .inr ⟨idle, rfl⟩
    · exact .inl rfl

theorem onIdle_idle {s' : Scan} {verdict : Verdict} (h : s.onIdle elapsed = some (s', verdict)) :
    s'.idle.nanos = s.idle.nanos + elapsed.nanos := by
  unfold onIdle Duration.add? at h
  split at h
  · cases h
    rfl
  · cases h

theorem onIdle_eq_none : s.onIdle elapsed = none ↔ s.idle.add? elapsed = none := by
  rw [onIdle, Option.map_eq_none_iff]

end Scan
end Foreman.Watch
