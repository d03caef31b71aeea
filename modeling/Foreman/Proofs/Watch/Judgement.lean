import Foreman.Proofs.Watch.Signals
import Mathlib.Algebra.GroupWithZero.Nat
import Mathlib.Data.List.DropRight
import Mathlib.Data.List.Infix

/-! A scan over lines and stretches of silence, in any order and past its verdicts. What it knows in the end
and what it said of each can be read off what it was fed. -/

namespace Foreman.Watch

inductive Input where
  | line (text : String)
  | silence (elapsed : Duration)
  deriving DecidableEq, Repr

namespace Input

def line? : Input → Option String
  | .line text => some text
  | .silence _ => none

def isSilence : Input → Bool
  | .line _ => false
  | .silence _ => true

def nanos : Input → Nat
  | .line _ => 0
  | .silence elapsed => elapsed.nanos

end Input

def linesIn (heard : List Input) : List String := heard.filterMap Input.line?

def silenceAfter (heard : List Input) : Duration :=
  ⟨((heard.rtakeWhile Input.isSilence).map Input.nanos).sum⟩

namespace Rules

def Marks (r : Rules) (line : String) : Prop :=
  ∃ m ∈ r.resetMarkers, m ≠ "" ∧ m.toList <:+: line.toList

instance (r : Rules) (line : String) : Decidable (r.Signals line) :=
  inferInstanceAs (Decidable (∃ s ∈ r.crashSignatures, s ≠ "" ∧ s.toList <:+: line.toList))

instance (r : Rules) (line : String) : Decidable (r.Marks line) :=
  inferInstanceAs (Decidable (∃ m ∈ r.resetMarkers, m ≠ "" ∧ m.toList <:+: line.toList))

/-- The budget of silence. A line with a signature does not widen it, whatever else stands in it. -/
def windowAfter (r : Rules) (heard : List Input) : Duration :=
  if ∃ line ∈ linesIn heard, r.Marks line ∧ ¬ r.Signals line then max r.startingWindow r.hangTimeout
  else r.startingWindow

/-- What is to be said of an input after all that was heard before. -/
structure Deserves (r : Rules) (heard : List Input) (i : Input) (v : Verdict) : Prop where
  crashed : ∀ message, v = .crashed message ↔ ∃ line signature,
    i = .line line ∧ r.FirstSignal line signature ∧ message = Scan.crashMessage signature
  hung : ∀ message, v = .hung message ↔ ∃ elapsed, i = .silence elapsed ∧
    r.windowAfter heard ≤ silenceAfter (heard ++ [i]) ∧
      message = Scan.hangMessage (silenceAfter (heard ++ [i]))
  goOn : v = .goOn ↔ (∀ line, i = .line line → ¬ r.Signals line) ∧
    ∀ elapsed, i = .silence elapsed → silenceAfter (heard ++ [i]) < r.windowAfter heard

inductive Judged (r : Rules) : List Input → List Verdict → Prop
  | nil : Judged r [] []
  | concat {heard verdicts i v} (h : Judged r heard verdicts) (hv : r.Deserves heard i v) :
    Judged r (heard ++ [i]) (verdicts ++ [v])

def withoutEmpty (r : Rules) : Rules :=
  { r with
    crashSignatures := r.crashSignatures.filter (· ≠ "")
    resetMarkers := r.resetMarkers.filter (· ≠ "") }

end Rules

section heard
variable (heard : List Input) (line : String) (elapsed : Duration)

theorem linesIn_line : linesIn (heard ++ [.line line]) = linesIn heard ++ [line] := by
  rw [linesIn, List.filterMap_append]
  rfl

theorem linesIn_silence : linesIn (heard ++ [.silence elapsed]) = linesIn heard := by
  rw [linesIn, List.filterMap_append]
  exact List.append_nil _

theorem silenceAfter_line : silenceAfter (heard ++ [.line line]) = .zero := by
  rw [silenceAfter, List.rtakeWhile_concat_neg _ _ _ (by simp [Input.isSilence])]
  rfl

theorem silenceAfter_silence : silenceAfter (heard ++ [.silence elapsed]) =
    ⟨(silenceAfter heard).nanos + elapsed.nanos⟩ := by
  rw [silenceAfter, List.rtakeWhile_concat_pos _ _ _ rfl, List.map_append, List.sum_append]
  rfl

end heard

theorem Rules.windowAfter_line (r : Rules) (heard : List Input) (line : String) :
    r.windowAfter (heard ++ [.line line]) =
      if r.Marks line ∧ ¬ r.Signals line then max (r.windowAfter heard) r.hangTimeout
      else r.windowAfter heard := by
  have hmax : max (max r.startingWindow r.hangTimeout) r.hangTimeout =
      max r.startingWindow r.hangTimeout := by
    have hn : (max (max r.startingWindow r.hangTimeout) r.hangTimeout).nanos =
        (max r.startingWindow r.hangTimeout).nanos := by
      simp only [Duration.max_nanos]
      omega
    exact congrArg Duration.mk hn
  unfold Rules.windowAfter
  -- a second line of this kind takes the larger of the two once more
  simp only [linesIn_line, List.mem_append, List.mem_singleton, or_and_right, exists_or,
    exists_eq_left]
  by_cases hl : r.Marks line ∧ ¬ r.Signals line
  · by_cases hb : ∃ line ∈ linesIn heard, r.Marks line ∧ ¬ r.Signals line
    · simp only [hb, hl, or_true, if_true, hmax, not_false_eq_true, and_self]
    · simp only [hb, hl, or_true, if_true, if_false, not_false_eq_true, and_self]
  · simp only [hl, or_false, if_false]

theorem Rules.windowAfter_silence (r : Rules) (heard : List Input) (elapsed : Duration) :
    r.windowAfter (heard ++ [.silence elapsed]) = r.windowAfter heard := by
  simp only [Rules.windowAfter, linesIn_silence]

namespace Scan
variable {s s' : Scan} {r : Rules} {heard inputs : List Input} {i : Input} {v : Verdict}

def feed (s : Scan) : Input → Option (Scan × Verdict)
  | .line text => some (s.onLine text)
  | .silence elapsed => s.onIdle elapsed

def run (s : Scan) : List Input → Option (Scan × List Verdict)
  | [] => some (s, [])
  | i :: inputs =>
    (s.feed i).bind fun x => (x.1.run inputs).map fun y => (y.1, x.2 :: y.2)

theorem run_concat {s₁ s₂ : Scan} {vs : List Verdict} (h : s.run inputs = some (s₁, vs))
    (hi : s₁.feed i = some (s₂, v)) : s.run (inputs ++ [i]) = some (s₂, vs ++ [v]) := by
  induction inputs generalizing s vs with
  | nil =>
    cases h
    simp [run, hi]
  | cons j inputs ih =>
    rw [run, Option.bind_eq_some_iff] at h
    obtain ⟨x, hj, hx⟩ := h
    obtain ⟨y, hy, he⟩ := Option.map_eq_some_iff.1 hx
    cases he
    simp [run, hj, ih hy]

structure Knows (s : Scan) (r : Rules) (heard : List Input) : Prop where
  signatures : s.signatures = (start r).signatures
  markers : s.markers = (start r).markers
  fullBudget : s.fullBudget = r.hangTimeout
  window : s.window = r.windowAfter heard
  idle : s.idle = silenceAfter heard
  linesSeen : s.linesSeen = (linesIn heard).length

theorem knows_start (r : Rules) : (start r).Knows r [] :=
  ⟨rfl, rfl, rfl, by simp [start, Rules.windowAfter, linesIn], rfl, rfl⟩

theorem markerIn_iff (h : s.markers = (start r).markers) {line : String} :
    s.markerIn line = true ↔ r.Marks line := by
  simp only [markerIn, h, start, List.any_eq_true, List.mem_filter, decide_eq_true_eq, Rules.Marks,
    Text.contains, Text.occursIn_iff, and_assoc]

theorem onLine_window (s : Scan) (line : String) : (s.onLine line).1.window =
    if s.signatureIn line = none ∧ s.markerIn line = true then max s.window s.fullBudget
    else s.window := by
  have hsig : signatureIn { s with linesSeen := s.linesSeen + 1, idle := .zero } line =
      s.signatureIn line := rfl
  have hmark : markerIn { s with linesSeen := s.linesSeen + 1, idle := .zero } line =
      s.markerIn line := rfl
  simp only [onLine, hsig, hmark]
  cases s.signatureIn line with
  | some signature => simp
  | none => by_cases hm : s.markerIn line = true <;> simp [hm]

namespace Knows

theorem line (h : s.Knows r heard) (line : String) :
    (s.onLine line).1.Knows r (heard ++ [.line line]) := by
  have hwindow : (s.onLine line).1.window = r.windowAfter (heard ++ [.line line]) := by
    simp only [onLine_window, Rules.windowAfter_line, signatureIn_eq_none_iff h.signatures,
      markerIn_iff h.markers, h.window, h.fullBudget, and_comm]
  obtain ⟨window, hs⟩ := s.onLine_fst line
  rw [hs] at hwindow ⊢
  refine ⟨h.signatures, h.markers, h.fullBudget, hwindow, ?_, ?_⟩
  · rw [silenceAfter_line]
  · rw [linesIn_line, List.length_append, ← h.linesSeen]
    rfl

theorem line_deserves (h : s.Knows r heard) (line : String) :
    r.Deserves heard (.line line) (s.onLine line).2 := by
  rw [onLine_snd]
  refine ⟨fun message => ?_, fun message => ?_, ?_⟩
  · simp only [Input.line.injEq, exists_and_left, exists_eq_left',
      ← signatureIn_eq_some_iff h.signatures]
    cases s.signatureIn line <;> simp [eq_comm]
  · cases s.signatureIn line <;> simp
  · simp only [Input.line.injEq, forall_eq', ← signatureIn_eq_none_iff h.signatures]
    cases s.signatureIn line <;> simp

theorem silence {elapsed : Duration} (h : s.Knows r heard)
    (hle : silenceAfter (heard ++ [.silence elapsed]) ≤ .largest) :
    ∃ s' v, s.onIdle elapsed = some (s', v) ∧ s'.Knows r (heard ++ [.silence elapsed]) ∧
      r.Deserves heard (.silence elapsed) v := by
  have hadd : s.idle.add? elapsed = some (silenceAfter (heard ++ [.silence elapsed])) := by
    rw [silenceAfter_silence, Duration.le_iff] at hle
    rw [Duration.add?, h.idle, if_pos hle, silenceAfter_silence]
  rw [onIdle, hadd]
  refine ⟨_, _, rfl, ⟨h.signatures, h.markers, h.fullBudget, ?_, rfl, ?_⟩, ?_⟩
  · rw [Rules.windowAfter_silence]
    exact h.window
  · rw [linesIn_silence]
    exact h.linesSeen
  · simp only [h.window]
    by_cases hw : r.windowAfter heard ≤ silenceAfter (heard ++ [.silence elapsed])
    · have hlt : ¬ silenceAfter (heard ++ [.silence elapsed]) < r.windowAfter heard :=
        Nat.not_lt.2 hw
      exact ⟨by simp [hw], by simp [hw, eq_comm], by simp [hw, hlt]⟩
    · have hlt : silenceAfter (heard ++ [.silence elapsed]) < r.windowAfter heard :=
        Nat.lt_of_not_le hw
      exact ⟨by simp [hw], by simp [hw], by simp [hw, hlt]⟩

theorem feed (h : s.Knows r heard) (hle : silenceAfter (heard ++ [i]) ≤ .largest) :
    ∃ s' v, s.feed i = some (s', v) ∧ s'.Knows r (heard ++ [i]) ∧ r.Deserves heard i v := by
  cases i with
  | line text => exact ⟨_, _, rfl, h.line text, h.line_deserves text⟩
  | silence elapsed => exact h.silence hle

end Knows

theorem run_knows (r : Rules) (inputs : List Input)
    (h : ∀ heard, heard <+: inputs → silenceAfter heard ≤ .largest) :
    ∃ s verdicts, (start r).run inputs = some (s, verdicts) ∧ s.Knows r inputs ∧
      r.Judged inputs verdicts := by
  -- on the inputs from the front: each adds one verdict behind the others
  induction inputs using List.reverseRecOn with
  | nil => exact ⟨_, _, rfl, knows_start r, .nil⟩
  | append_singleton inputs i ih =>
    obtain ⟨s, verdicts, hrun, hknows, hjudged⟩ := ih fun heard hp => h heard (hp.trans ⟨[i], rfl⟩)
    obtain ⟨s', v, hfeed, hknows', hv⟩ := hknows.feed (h _ List.prefix_rfl)
    exact ⟨s', _, run_concat hrun hfeed, hknows', hjudged.concat hv⟩

end Scan
end Foreman.Watch
