import Foreman.Proofs.Watch.Judgement
import Mathlib.Data.List.Forall2

/-! Two scans over the same inputs. The one that goes by more generous rules never speaks up before the other. -/

namespace Foreman.Watch

/-- The rules `r'` leave a log at least as much time as `r`, and call nothing a crash that `r` does not. -/
structure Rules.RelaxedBy (r r' : Rules) : Prop where
  startingWindow : r.startingWindow ≤ r'.startingWindow
  hangTimeout : r.hangTimeout ≤ r'.hangTimeout
  markers : ∀ marker ∈ r.resetMarkers, marker ≠ "" → marker ∈ r'.resetMarkers
  signatures : ∀ signature ∈ r'.crashSignatures, signature ≠ "" → signature ∈ r.crashSignatures

namespace Scan

structure RelaxedBy (s s' : Scan) : Prop where
  idle : s'.idle = s.idle
  window : s.window ≤ s'.window
  fullBudget : s.fullBudget ≤ s'.fullBudget
  markers : ∀ marker ∈ s.markers, marker ∈ s'.markers
  signatures : ∀ signature ∈ s'.signatures, signature ∈ s.signatures

def NoLater (v v' : Verdict) : Prop := v'.isTerminal = true → v.isTerminal = true

variable {r r' : Rules} {s s' t : Scan} {v : Verdict} {inputs : List Input} {verdicts verdicts' : List Verdict}

theorem run_length (h : s.run inputs = some (t, verdicts)) : verdicts.length = inputs.length := by
  induction inputs generalizing s verdicts with
  | nil =>
    cases h
    rfl
  | cons i inputs ih =>
    rw [run, Option.bind_eq_some_iff] at h
    obtain ⟨⟨s₁, v⟩, -, hrest⟩ := h
    obtain ⟨⟨t', vs⟩, hrun, heq⟩ := Option.map_eq_some_iff.1 hrest
    cases heq
    rw [List.length_cons, List.length_cons, ih hrun]

theorem relaxedBy_start (h : r.RelaxedBy r') : (start r).RelaxedBy (start r') where
  idle := rfl
  window := h.startingWindow
  fullBudget := h.hangTimeout
  markers := by
    simp only [start, List.mem_filter, decide_eq_true_eq]
    exact fun marker hm => ⟨h.markers marker hm.1 hm.2, hm.2⟩
  signatures := by
    simp only [start, List.mem_filter, decide_eq_true_eq]
    exact fun signature hs => ⟨h.signatures signature hs.1 hs.2, hs.2⟩

namespace RelaxedBy

theorem signatureIn (h : s.RelaxedBy s') {line : String} (hnone : s.signatureIn line = none) :
    s'.signatureIn line = none := by
  rw [Scan.signatureIn, List.find?_eq_none] at hnone ⊢
  exact fun signature hs => hnone signature (h.signatures signature hs)

theorem markerIn (h : s.RelaxedBy s') {line : String} (hmarker : s.markerIn line = true) :
    s'.markerIn line = true := by
  rw [Scan.markerIn, List.any_eq_true] at hmarker ⊢
  obtain ⟨marker, hm, hin⟩ := hmarker
  exact ⟨marker, h.markers marker hm, hin⟩

theorem window_onLine (h : s.RelaxedBy s') (line : String) :
    (s.onLine line).1.window ≤ (s'.onLine line).1.window := by
  have hwindow := h.window
  have hbudget := h.fullBudget
  rw [onLine_window, onLine_window]
  -- the patterns of the first scan decide: what widens its window is no signature and a marker to the second one too
  by_cases hwide : s.signatureIn line = none ∧ s.markerIn line = true
  · rw [if_pos hwide, if_pos ⟨h.signatureIn hwide.1, h.markerIn hwide.2⟩]
    simp only [Duration.le_iff, Duration.max_nanos] at *
    omega
  · rw [if_neg hwide]
    split_ifs
    · simp only [Duration.le_iff, Duration.max_nanos] at *
      omega
    · exact hwindow

theorem onLine (h : s.RelaxedBy s') (line : String) : (s.onLine line).1.RelaxedBy (s'.onLine line).1 ∧
    NoLater (s.onLine line).2 (s'.onLine line).2 := by
  constructor
  · have hwindow := h.window_onLine line
    obtain ⟨w, hs⟩ := s.onLine_fst line
    obtain ⟨w', hs'⟩ := s'.onLine_fst line
    rw [hs, hs'] at hwindow ⊢
    exact ⟨rfl, hwindow, h.fullBudget, h.markers, h.signatures⟩
  · intro hends
    rw [onLine_snd] at hends ⊢
    cases hsig : s.signatureIn line with
    | some signature => rfl
    | none =>
      rw [h.signatureIn hsig] at hends
      cases hends

theorem onIdle (h : s.RelaxedBy s') {elapsed : Duration} (hi : s.onIdle elapsed = some (t, v)) :
    ∃ t' v', s'.onIdle elapsed = some (t', v') ∧ t.RelaxedBy t' ∧ NoLater v v' := by
  unfold Scan.onIdle at hi ⊢
  rw [h.idle]
  obtain ⟨idle, hidle, heq⟩ := Option.map_eq_some_iff.1 hi
  cases heq
  rw [hidle]
  refine ⟨_, _, rfl, ⟨rfl, h.window, h.fullBudget, h.markers, h.signatures⟩, fun hends => ?_⟩
  dsimp only at hends ⊢
  split at hends
  · rename_i hfull
    have hfull : s.window ≤ idle := Nat.le_trans h.window hfull
    rw [if_pos hfull]
    rfl
  · cases hends

theorem feed (h : s.RelaxedBy s') {i : Input} (hi : s.feed i = some (t, v)) :
    ∃ t' v', s'.feed i = some (t', v') ∧ t.RelaxedBy t' ∧ NoLater v v' := by
  cases i with
  | line text =>
    have hline : s.onLine text = (t, v) := Option.some.inj hi
    have hboth := h.onLine text
    rw [hline] at hboth
    exact ⟨_, _, rfl, hboth⟩
  | silence elapsed => exact h.onIdle hi

theorem run (h : s.RelaxedBy s') (hr : s.run inputs = some (t, verdicts)) :
    ∃ t' verdicts', s'.run inputs = some (t', verdicts') ∧ t.RelaxedBy t' ∧
      List.Forall₂ NoLater verdicts verdicts' := by
  induction inputs generalizing s s' verdicts with
  | nil =>
    cases hr
    exact ⟨s', [], rfl, h, .nil⟩
  | cons i inputs ih =>
    rw [Scan.run, Option.bind_eq_some_iff] at hr
    obtain ⟨⟨s₁, v⟩, hfeed, hrest⟩ := hr
    obtain ⟨⟨t, vs⟩, hrun, heq⟩ := Option.map_eq_some_iff.1 hrest
    cases heq
    obtain ⟨s₁', v', hfeed', h₁, hv⟩ := h.feed hfeed
    obtain ⟨t', vs', hrun', ht, hvs⟩ := ih h₁ hrun
    exact ⟨t', v' :: vs', by rw [Scan.run, hfeed', Option.bind_some, hrun', Option.map_some], ht, .cons hv hvs⟩

end RelaxedBy

theorem findIdx?_of_noLater (h : List.Forall₂ NoLater verdicts verdicts') {i : Nat}
    (hi : verdicts'.findIdx? Verdict.isTerminal = some i) :
    ∃ j ≤ i, verdicts.findIdx? Verdict.isTerminal = some j := by
  induction h generalizing i with
  | nil => cases hi
  | @cons v v' verdicts verdicts' hv _ ih =>
    rw [List.findIdx?_cons] at hi ⊢
    cases hends : v.isTerminal with
    | true => exact ⟨0, Nat.zero_le _, rfl⟩
    | false =>
      have hgoes : v'.isTerminal = false := by
        by_contra hends'
        rw [hv (eq_true_of_ne_false hends')] at hends
        cases hends
      rw [hgoes] at hi
      obtain ⟨i', hi', rfl⟩ := Option.map_eq_some_iff.1 hi
      obtain ⟨j, hle, hj⟩ := ih hi'
      exact ⟨j + 1, Nat.succ_le_succ hle, by rw [hj]; rfl⟩

end Scan

/-- Relaxed rules measure the same silence in a window that is as wide or wider, and end a scan at no earlier input:
where they first end it, the stricter rules have ended it already or do so at the same input. -/
theorem Rules.RelaxedBy.ends_no_sooner {r r' : Rules} (h : r.RelaxedBy r') (inputs : List Input)
    (hfit : ∀ heard, heard <+: inputs → silenceAfter heard ≤ .largest) :
    ∃ s verdicts s' verdicts', (Scan.start r).run inputs = some (s, verdicts) ∧
      (Scan.start r').run inputs = some (s', verdicts') ∧
      verdicts.length = inputs.length ∧ verdicts'.length = inputs.length ∧
      s'.idle = s.idle ∧ s.window ≤ s'.window ∧
      ∀ i, verdicts'.findIdx? Verdict.isTerminal = some i →
        ∃ j ≤ i, verdicts.findIdx? Verdict.isTerminal = some j := by
  obtain ⟨s, verdicts, hrun, -, -⟩ := Scan.run_knows r inputs hfit
  obtain ⟨s', verdicts', hrun', hrelaxed, hlater⟩ := (Scan.relaxedBy_start h).run hrun
  exact ⟨s, verdicts, s', verdicts', hrun, hrun', Scan.run_length hrun, Scan.run_length hrun', hrelaxed.idle,
    hrelaxed.window, fun _ => Scan.findIdx?_of_noLater hlater⟩

theorem Rules.RelaxedBy.ends_no_sooner_marker :
    let r : Rules := {
      hangTimeout := ⟨30⟩, initialTimeout := some ⟨10⟩, crashSignatures := ["boom", "fail"]
      resetMarkers := ["phase"] }
    let r' : Rules := {
      hangTimeout := ⟨40⟩, initialTimeout := some ⟨20⟩, crashSignatures := ["boom", ""]
      resetMarkers := ["step", "phase"] }
    let inputs : List Input :=
      [.silence ⟨9⟩, .line "step", .silence ⟨15⟩, .line "fail", .silence ⟨25⟩, .silence ⟨20⟩]
    r.RelaxedBy r' ∧ (∀ heard, heard <+: inputs → silenceAfter heard ≤ .largest) ∧
      ∃ s verdicts s' verdicts', (Scan.start r).run inputs = some (s, verdicts) ∧
        (Scan.start r').run inputs = some (s', verdicts') ∧ s'.idle = s.idle ∧ s.window ≤ s'.window ∧
        verdicts'.findIdx? Verdict.isTerminal = some 5 ∧
        ∃ j ≤ 5, verdicts.findIdx? Verdict.isTerminal = some j := by
  intro r r' inputs
  have hrelaxed : r.RelaxedBy r' := ⟨by decide, by decide, by decide, by decide⟩
  have hfit : ∀ heard, heard <+: inputs → silenceAfter heard ≤ .largest := by
    simp only [← List.mem_inits]
    decide +kernel
  obtain ⟨s, verdicts, s', verdicts', hrun, hrun', -, -, hidle, hwindow, hno⟩ := hrelaxed.ends_no_sooner inputs hfit
  have hends : ((Scan.start r').run inputs).map (·.2.findIdx? Verdict.isTerminal) = some (some 5) := by
    decide +kernel
  rw [hrun', Option.map_some, Option.some.injEq] at hends
  exact ⟨hrelaxed, hfit, s, verdicts, s', verdicts', hrun, hrun', hidle, hwindow, hends, hno 5 hends⟩

end Foreman.Watch
