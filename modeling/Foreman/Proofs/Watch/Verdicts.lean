import Foreman.Proofs.Watch.Tasks

/-! A monitor whose halt action returns is calm until a verdict is reached, and condemned from then on. -/

namespace Foreman.Watch
namespace Monitor
variable {m m' : Monitor} {d : Disk} {now : Instant}

structure Calm (m : Monitor) : Prop where
  halted : m.halted = false
  halts : m.halts = []
  scanner : ∀ report, m.scanner ≠ .reported report

structure Condemned (m : Monitor) (reason : String) : Prop where
  halted : m.halted = true
  halts : m.halts = [reason]
  scanner : ∃ report, m.scanner = .reported report ∧ report.outcome ≠ .ok ∧
    report.message = some reason

theorem calm_start (action : HaltAction) (r : Rules) (c : Cursor) (now : Instant) :
    (Monitor.start action r c now).Calm := ⟨rfl, rfl, by simp [Monitor.start]⟩

theorem Calm.finalReport (h : m.Calm) (lastWords : String) : (m.finalReport lastWords).outcome = .ok := by
  unfold Monitor.finalReport
  cases hs : m.scanner with
  | waiting deadline => rfl
  | reported report => exact absurd hs (h.scanner report)
  | failed => rfl

theorem Condemned.finalReport {reason : String} (h : m.Condemned reason) (lastWords : String) :
    (m.finalReport lastWords).outcome ≠ .ok ∧ (m.finalReport lastWords).message = some reason := by
  obtain ⟨report, hs, hreport⟩ := h.scanner
  rw [Monitor.finalReport, hs]
  exact hreport

/-- What the owner can see of a step of the tasks. -/
structure Develops (m m' : Monitor) : Prop where
  action : m'.haltAction = m.haltAction
  path : m'.cursor.path = m.cursor.path
  calm : m.Calm → m'.Calm ∨ ∃ reason, m'.Condemned reason
  condemned : ∀ reason, m.Condemned reason → m'.Condemned reason

theorem Develops.calm_or_condemned (h : m.Develops m')
    (hm : m.Calm ∨ ∃ reason, m.Condemned reason) : m'.Calm ∨ ∃ reason, m'.Condemned reason := by
  rcases hm with hc | ⟨reason, hc⟩
  · exact h.calm hc
  · exact .inr ⟨reason, h.condemned reason hc⟩

theorem ReaderMove.develops (h : m.ReaderMove d now m') : m.Develops m' := by
  have hpath : m'.cursor.path = m.cursor.path := by
    rcases h.lines with ⟨hc, -⟩ | ⟨hc, -⟩ | ⟨hc, -⟩
    · rw [hc]
    · rw [hc]
    · rw [hc, Cursor.next_path]
  obtain ⟨_, _, _, _, rfl⟩ := h.frame
  exact ⟨rfl, hpath, fun hc => .inl ⟨hc.halted, hc.halts, hc.scanner⟩,
    fun _ hc => ⟨hc.halted, hc.halts, hc.scanner⟩⟩

theorem judge_calm_or_condemned (ha : m.haltAction = .returns) (hd : m.halted = false)
    (hh : m.halts = []) (now : Instant) (verdict : Verdict) :
    (m.judge now verdict).Calm ∨ ∃ reason, (m.judge now verdict).Condemned reason := by
  cases hv : verdict.message? with
  | none =>
    cases verdict with
    | goOn => exact .inl ⟨hd, hh, by simp [Monitor.judge]⟩
    | crashed message => cases hv
    | hung message => cases hv
  | some message =>
    obtain ⟨notes, hj⟩ := judge_returns now ha hv
    refine .inr ⟨message, ?_⟩
    rw [hj]
    refine ⟨rfl, by rw [hh]; rfl, _, rfl, ?_⟩
    cases verdict with
    | goOn => cases hv
    | crashed reason =>
      cases hv
      simp [Scan.report]
    | hung reason =>
      cases hv
      simp [Scan.report]

theorem ScannerMove.calm_or_condemned (h : m.ScannerMove now m') (ha : m.haltAction = .returns)
    (hc : m.Calm) : m'.Calm ∨ ∃ reason, m'.Condemned reason := by
  cases h with
  | takes =>
    refine judge_calm_or_condemned ?_ ?_ ?_ now _
    exacts [ha, hc.halted, hc.halts]
  | idles =>
    refine judge_calm_or_condemned ?_ ?_ ?_ now _
    exacts [ha, hc.halted, hc.halts]
  | overflows => exact .inl ⟨hc.halted, hc.halts, by simp⟩
  | notices => exact .inl ⟨hc.halted, hc.halts, by simp [note]⟩

theorem ScannerMove.not_condemned {reason : String} (h : m.ScannerMove now m') :
    ¬ m.Condemned reason := by
  intro hc
  have hwaiting := h.waiting
  obtain ⟨report, hs, -⟩ := hc.scanner
  simp [scanning, hs] at hwaiting

theorem ScannerMove.develops (h : m.ScannerMove now m') (ha : m.haltAction = .returns) :
    m.Develops m' := by
  have hcalm := h.calm_or_condemned ha
  have hnot (reason : String) : ¬ m.Condemned reason := h.not_condemned
  obtain ⟨_, _, _, _, _, _, _, rfl⟩ := h.frame
  exact ⟨rfl, rfl, hcalm, fun reason hc => absurd hc (hnot reason)⟩

theorem Runs.condemned {reason : String} (h : Runs d m m') (hc : m.Condemned reason) :
    m'.Condemned reason := by
  induction h with
  | rest => exact hc
  | read hs _ ih => exact ih ((readerStep?_move hs).develops.condemned reason hc)
  | scan hs _ _ => exact absurd hc (scannerStep?_move hs).not_condemned

theorem Runs.path_eq (h : Runs d m m') : m'.cursor.path = m.cursor.path := by
  induction h with
  | rest => rfl
  | read hs _ ih => exact ih.trans (readerStep?_move hs).develops.path
  | scan hs _ ih =>
    obtain ⟨_, _, _, _, _, _, _, rfl⟩ := (scannerStep?_move hs).frame
    exact ih

end Monitor

end Foreman.Watch
