import Foreman.Proofs.Watch.Timing

/-! How long a silence the scanner lets pass. It is shorter than the window whenever the scanner waits, and is
called a hang before it is longer than the window by an interval. So as long as two windows can be counted, every
silence can. -/

namespace Foreman.Watch

namespace Scan
variable {s : Scan} {poll budget : Duration}

/-- The silence leaves some of the window, into which an interval goes, and no window is larger than the budget. -/
structure Bounded (s : Scan) (poll budget : Duration) : Prop where
  idle : s.idle < s.window
  poll : poll ≤ s.window
  window : s.window ≤ budget
  full : s.fullBudget ≤ budget

structure Overdue (s : Scan) (poll : Duration) (message : String) : Prop where
  filled : s.window ≤ s.idle
  lt : s.idle.nanos < s.window.nanos + poll.nanos
  message : message = hangMessage s.idle

theorem onLine_ne_hung (s : Scan) (line message : String) : (s.onLine line).2 ≠ .hung message := by
  rw [onLine_snd]
  cases s.signatureIn line with
  | none => exact Verdict.noConfusion
  | some signature => exact Verdict.noConfusion

theorem Bounded.onLine (h : s.Bounded poll budget) (hp : 0 < poll.nanos) (line : String) :
    (s.onLine line).1.Bounded poll budget := by
  obtain ⟨window, hs⟩ := s.onLine_fst line
  have hw := s.onLine_window line
  rw [hs] at hw ⊢
  have hroom : poll ≤ window ∧ window ≤ budget := by
    dsimp only at hw
    rw [hw]
    split_ifs
    · rw [Duration.le_iff, Duration.le_iff, Duration.max_nanos]
      exact ⟨Nat.le_trans h.poll (Nat.le_max_left ..), Nat.max_le.2 ⟨h.window, h.full⟩⟩
    · exact ⟨h.poll, h.window⟩
  exact ⟨hp.trans_le hroom.1, hroom.1, hroom.2, h.full⟩

theorem Bounded.onIdle (h : s.Bounded poll budget) (hlong : 2 * budget.nanos ≤ Duration.largest.nanos) :
    ∃ scan verdict, s.onIdle poll = some (scan, verdict) ∧ (verdict = .goOn → scan.Bounded poll budget) ∧
      ∀ message, verdict = .hung message → scan.Overdue poll message := by
  have hidle := Duration.lt_iff.1 h.idle
  have hpoll := Duration.le_iff.1 h.poll
  have hwindow := Duration.le_iff.1 h.window
  have hfit : s.idle.nanos + poll.nanos ≤ Duration.largest.nanos := by omega
  rw [Scan.onIdle, Duration.add?, if_pos hfit]
  refine ⟨_, _, rfl, fun hgo => ?_, fun message hhung => ?_⟩
  · dsimp only at hgo
    split_ifs at hgo with hfull
    exact ⟨Nat.lt_of_not_le hfull, h.poll, h.window, h.full⟩
  · dsimp only at hhung
    split_ifs at hhung with hfull
    cases hhung
    exact ⟨hfull, Nat.add_lt_add_right hidle _, rfl⟩

end Scan

namespace Monitor
variable {r : Rules} {m m' : Monitor} {d : Disk} {now : Instant}

/-- What can happen to a monitor, whatever the clock shows. The reader brings lines whenever it likes, or ends, and
the scanner takes a step. -/
inductive Moves (m : Monitor) : Monitor → Prop
  | reads (cursor : Cursor) (reader : ReaderState) (lines : List String) (notes : List Note) :
    Moves m { m with cursor, reader, queue := m.queue ++ lines, notes }
  | scans {now : Instant} {m' : Monitor} (h : m.scannerStep? now = some m') : Moves m m'

structure Measured (r : Rules) (m : Monitor) : Prop where
  interval : m.poll = r.pollInterval
  waiting : m.scanning = true → m.scan.Bounded r.pollInterval r.hangTimeout
  reported : ∀ report, m.scanner = .reported report → report.outcome = .hung →
    ∃ message ∈ report.message, m.scan.Overdue r.pollInterval message
  failed : m.scanner = .failed → m.haltAction = .breaks ∧ m.halted = true

theorem measured_start (action : HaltAction) (c : Cursor) (t₀ : Instant) (hp : 0 < r.pollInterval.nanos)
    (hpoll : r.pollInterval ≤ r.startingWindow) (hbudget : r.startingWindow ≤ r.hangTimeout) :
    (start action r c t₀).Measured r where
  interval := rfl
  waiting _ := ⟨hp.trans_le hpoll, hpoll, hbudget, Nat.le_refl _⟩
  reported _ hs := nomatch hs
  failed hs := nomatch hs

theorem Measured.of_judge (hi : m.poll = r.pollInterval) {verdict : Verdict}
    (hgo : verdict = .goOn → m.scan.Bounded r.pollInterval r.hangTimeout)
    (hhung : ∀ message, verdict = .hung message → m.scan.Overdue r.pollInterval message) :
    (m.judge now verdict).Measured r := by
  rcases m.judge_cases now verdict with ⟨hv, hj⟩ | ⟨_, _, -, hj⟩ | ⟨_, hb, hj⟩
  · rw [hj]
    exact ⟨hi, fun _ => hgo hv, nofun, nofun⟩
  · rw [hj]
    refine ⟨hi, nofun, fun report hs ho => ?_, nofun⟩
    cases hs
    cases verdict with
    | goOn => cases ho
    | crashed reason => cases ho
    | hung reason => exact ⟨reason, rfl, hhung reason rfl⟩
  · rw [hj]
    exact ⟨hi, nofun, nofun, fun _ => ⟨hb, rfl⟩⟩

theorem Measured.step (h : m.Measured r) (hp : 0 < r.pollInterval.nanos)
    (hlong : 2 * r.hangTimeout.nanos ≤ Duration.largest.nanos) (hm : m.Moves m') : m'.Measured r := by
  cases hm with
  | reads cursor reader lines notes => exact ⟨h.interval, h.waiting, h.reported, h.failed⟩
  | scans hs =>
    have hmove := scannerStep?_move hs
    -- the scanner waited before its step, so the silence was bounded and the interval can be counted
    have hbounded := h.waiting hmove.waiting
    have hcounts := hbounded.onIdle hlong
    rw [← h.interval] at hcounts
    obtain ⟨scan, verdict, hidle, hgo, hhung⟩ := hcounts
    rw [h.interval] at hgo hhung
    cases hmove with
    | @takes _ line =>
      refine of_judge ?_ (fun _ => hbounded.onLine hp line) fun message hv => ?_
      · exact h.interval
      · exact absurd hv (m.scan.onLine_ne_hung line message)
    | idles _ _ hi =>
      cases hidle.symm.trans hi
      refine of_judge ?_ hgo hhung
      exact h.interval
    | overflows _ _ hi => cases hidle.symm.trans hi
    | notices => exact ⟨h.interval, fun _ => hbounded, nofun, nofun⟩

theorem Measured.moves (h : m.Measured r) (hp : 0 < r.pollInterval.nanos)
    (hlong : 2 * r.hangTimeout.nanos ≤ Duration.largest.nanos) (hm : Relation.ReflTransGen Moves m m') :
    m'.Measured r := by
  induction hm with
  | refl => exact h
  | tail _ hstep ih => exact ih.step hp hlong hstep

/-- A silence is shorter than the window whenever the scanner waits, and another interval can be counted. It is
called a hang when it fills the window and is longer by less than an interval. -/
theorem silence_bounded {action : HaltAction} {c : Cursor} {t₀ : Instant} (hp : 0 < r.pollInterval.nanos)
    (hpoll : r.pollInterval ≤ r.startingWindow) (hbudget : r.startingWindow ≤ r.hangTimeout)
    (hlong : 2 * r.hangTimeout.nanos ≤ Duration.largest.nanos)
    (h : Relation.ReflTransGen Moves (start action r c t₀) m) :
    (m.scanning = true → m.scan.idle < m.scan.window ∧ ∃ scan verdict, m.scan.onIdle m.poll = some (scan, verdict) ∧
      ∀ message, verdict = .hung message → scan.Overdue r.pollInterval message) ∧
    (∀ report, m.scanner = .reported report → report.outcome = .hung →
      ∃ message ∈ report.message, m.scan.Overdue r.pollInterval message) ∧
    (m.scanner = .failed → m.haltAction = .breaks ∧ m.halted = true) := by
  have hm := (measured_start action c t₀ hp hpoll hbudget).moves hp hlong h
  refine ⟨fun hs => ?_, hm.reported, hm.failed⟩
  obtain ⟨scan, verdict, hi, -, hhung⟩ := (hm.waiting hs).onIdle hlong
  exact ⟨(hm.waiting hs).idle, scan, verdict, hm.interval ▸ hi, hhung⟩

theorem Runs.moves (h : Runs d m m') : Relation.ReflTransGen Moves m m' := by
  induction h with
  | rest => exact .refl
  | read hr _ ih =>
    obtain ⟨cursor, reader, lines, notes, rfl⟩ := (readerStep?_move hr).brings
    exact .head (.reads cursor reader lines notes) ih
  | scan hs _ ih => exact .head (.scans hs) ih

theorem silence_bounded_marker :
    let r : Rules := { hangTimeout := ⟨50⟩, initialTimeout := some ⟨30⟩, pollInterval := ⟨20⟩,
                       crashSignatures := ["boom"], resetMarkers := ["phase"] }
    let d : Disk := ⟨[(["log"], .file 0)], [(0, [112, 104, 97, 115, 101, 10])], 1, []⟩
    let m := start .returns r ⟨⟨"log"⟩, .file 0, 0, []⟩ 0
    0 < r.pollInterval.nanos ∧ r.pollInterval ≤ r.startingWindow ∧ r.startingWindow ≤ r.hangTimeout ∧
      2 * r.hangTimeout.nanos ≤ Duration.largest.nanos ∧
      (m.pass d 0 100).scanner = .reported ⟨.hung, some (Scan.hangMessage ⟨60⟩), 1⟩ ∧
      (m.pass d 0 100).scan.window = ⟨50⟩ ∧ (m.pass d 0 100).scan.idle = ⟨60⟩ ∧
      ∃ message, (m.pass d 0 100).scan.Overdue r.pollInterval message := by
  intro r d m
  have hp : 0 < r.pollInterval.nanos := by decide
  have hpoll : r.pollInterval ≤ r.startingWindow := by decide
  have hbudget : r.startingWindow ≤ r.hangTimeout := by decide
  have hlong : 2 * r.hangTimeout.nanos ≤ Duration.largest.nanos := by decide
  have hscanner : (m.pass d 0 100).scanner = .reported ⟨.hung, some (Scan.hangMessage ⟨60⟩), 1⟩ := by
    decide +kernel
  obtain ⟨-, hreported, -⟩ := silence_bounded hp hpoll hbudget hlong (m.pass_runs d 0 100).moves
  obtain ⟨message, -, hoverdue⟩ := hreported _ hscanner rfl
  exact ⟨hp, hpoll, hbudget, hlong, hscanner, by decide +kernel, by decide +kernel, message, hoverdue⟩

end Monitor
end Foreman.Watch
