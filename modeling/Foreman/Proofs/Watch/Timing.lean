import Foreman.Proofs.Watch.Judgement
import Foreman.Proofs.Watch.Quiet
import Mathlib.Logic.Relation
import Mathlib.Order.Bounds.Basic

/-! When a silent log is called hung. The scanner counts silence in whole intervals from the last line on, so
it speaks up after the first number of intervals that fills the window, neither before nor after. -/

namespace Foreman.Watch

structure Listening where
  monitor : Monitor
  now : Instant
  last : Instant
  judged : List String := []
  haltedAt : Option Instant := none

theorem Scan.onIdle_eq {s s' : Scan} {elapsed : Duration} {verdict : Verdict}
    (h : s.onIdle elapsed = some (s', verdict)) : let idle : Duration := ⟨s.idle.nanos + elapsed.nanos⟩
      s' = { s with idle } ∧ idle ≤ .largest ∧
        verdict = if s.window ≤ idle then .hung (hangMessage idle) else .goOn := by
  unfold onIdle Duration.add? at h
  split_ifs at h with hfit
  · cases h
    exact ⟨rfl, hfit, rfl⟩
  · cases h

theorem Scan.Knows.idles {r : Rules} {s scan : Scan} {heard : List Input} {elapsed : Duration} {verdict : Verdict}
    (h : s.Knows r heard) (hi : s.onIdle elapsed = some (scan, verdict)) :
    scan.Knows r (heard ++ [.silence elapsed]) := by
  have hlargest : silenceAfter (heard ++ [.silence elapsed]) ≤ .largest := by
    rw [silenceAfter_silence, ← h.idle]
    exact (Scan.onIdle_eq hi).2.1
  obtain ⟨scan', verdict', hi', hknows, -⟩ := h.silence hlargest
  rw [hi] at hi'
  cases hi'
  exact hknows

namespace Monitor

theorem judge_poll (m : Monitor) (now : Instant) (verdict : Verdict) : (m.judge now verdict).poll = m.poll := by
  obtain ⟨_, _, _, _, hj⟩ := m.judge_frame now verdict
  rw [hj]

theorem judge_scan (m : Monitor) (now : Instant) (verdict : Verdict) : (m.judge now verdict).scan = m.scan := by
  obtain ⟨_, _, _, _, hj⟩ := m.judge_frame now verdict
  rw [hj]

theorem passInterval_eq {m : Monitor} {scan : Scan} {verdict : Verdict}
    (h : m.scan.onIdle m.poll = some (scan, verdict)) (now : Instant) : ∃ scanner halted halts notes,
      m.passInterval now = { m with scan, scanner, halted, halts, notes } := by
  unfold passInterval
  rw [h]
  exact judge_frame { m with scan } now verdict

theorem nextTimer_le_deadline {m : Monitor} {deadline : Instant} (h : m.scanner = .waiting deadline) :
    ∃ t, m.nextTimer = some t ∧ t ≤ deadline := by
  unfold nextTimer
  cases m.reader with
  | sleeping wakeAt => exact ⟨min wakeAt deadline, by simp [h], Nat.min_le_right ..⟩
  | _ => exact ⟨deadline, by simp [h], Nat.le_refl _⟩

theorem ReaderMove.brings {m m' : Monitor} {d : Disk} {now : Instant} (h : m.ReaderMove d now m') :
    ∃ cursor reader lines notes, m' = { m with cursor, reader, queue := m.queue ++ lines, notes } := by
  have hoffer (m : Monitor) (line : String) : ∃ reader lines,
      m.offer line = { m with reader, queue := m.queue ++ lines } := by
    unfold offer
    split_ifs
    · exact ⟨_, [line], rfl⟩
    · exact ⟨_, [], by rw [List.append_nil]⟩
  cases h with
  | wakes => exact ⟨_, _, [], _, by rw [List.append_nil]⟩
  | @puts line =>
    obtain ⟨reader, lines, ho⟩ := hoffer m line
    exact ⟨_, _, _, _, ho⟩
  | looks =>
    unfold look
    cases m.cursor.next d with
    | mk answer cursor =>
      cases answer with
      | line text =>
        obtain ⟨reader, lines, ho⟩ := hoffer { m with cursor } text
        exact ⟨_, _, _, _, ho⟩
      | pending => exact ⟨_, _, [], _, by rw [List.append_nil]⟩
      | restarted => exact ⟨_, _, [], m.notes ++ [.readerRestarted], by rw [List.append_nil]; rfl⟩
      | failed e => exact ⟨_, _, [], m.notes ++ [.readerFailed] ++ [.readerEnded], by rw [List.append_nil]; rfl⟩
  | ends => exact ⟨_, _, [], m.notes ++ [.readerEnded], by rw [List.append_nil]; rfl⟩

theorem due_of_idle {m : Monitor} (h : m.readerOpen = true → m.queue = []) : m.due = [] := by
  unfold due
  cases m.scanner with
  | waiting deadline =>
    cases ho : m.readerOpen with
    | true => rw [h ho]
    | false => rfl
  | reported report => rfl
  | failed => rfl

end Monitor

namespace Listening

def start (action : HaltAction) (r : Rules) (c : Cursor) (now : Instant) : Listening where
  monitor := Monitor.start action r c now
  now := now
  last := now

def scanned (x : Listening) (m : Monitor) : Listening where
  monitor := m
  now := x.now
  last := if x.monitor.due = [] then x.last else x.now
  judged := x.judged ++ x.monitor.due
  haltedAt := if m.halted then some x.now else x.haltedAt

/-- The reader brings lines whenever it likes, or ends. The scanner does at once what it can do, and no moment
is missed that it waits for. Nobody asks it to stop. -/
inductive Step (x : Listening) : Listening → Prop
  | reads (cursor : Cursor) (reader : ReaderState) (lines : List String) (notes : List Note) : Step x
      { x with monitor := { x.monitor with cursor, reader, queue := x.monitor.queue ++ lines, notes } }
  | scans {m} (h : x.monitor.scannerStep? x.now = some m) : Step x (x.scanned m)
  | waits {target} (hquiet : x.monitor.scannerStep? x.now = none) (hle : x.now ≤ target)
    (hd : ∀ deadline, x.monitor.scanner = .waiting deadline → target ≤ deadline) : Step x { x with now := target }

abbrev Runs : Listening → Listening → Prop := Relation.ReflTransGen Step

def window (x : Listening) (r : Rules) : Nat := (r.windowAfter (x.judged.map Input.line)).nanos

def Patient (x : Listening) (r : Rules) (j : Nat) : Prop := j = 0 ∨ j * r.pollInterval.nanos < x.window r

structure Waits (r : Rules) (x : Listening) (deadline : Instant) (j : Nat) : Prop where
  scanner : x.monitor.scanner = .waiting deadline
  halted : x.monitor.halted = false
  haltedAt : x.haltedAt = none
  idle : x.monitor.scan.idle.nanos = j * r.pollInterval.nanos
  patient : x.Patient r j
  since : x.last + j * r.pollInterval.nanos ≤ x.now
  now : x.now ≤ deadline
  le : x.last + (j + 1) * r.pollInterval.nanos ≤ deadline
  eq : x.monitor.readerOpen = true → deadline = x.last + (j + 1) * r.pollInterval.nanos

structure Hangs (r : Rules) (x : Listening) (τ : Instant) (j : Nat) : Prop where
  haltedAt : x.haltedAt = some τ
  patient : x.Patient r j
  filled : x.window r ≤ (j + 1) * r.pollInterval.nanos
  fits : (j + 1) * r.pollInterval.nanos ≤ Duration.largest.nanos
  le : x.last + (j + 1) * r.pollInterval.nanos ≤ τ
  eq : x.monitor.readerOpen = true → τ = x.last + (j + 1) * r.pollInterval.nanos
  ended : x.monitor.scanning = false
  report : x.monitor.haltAction = .returns → x.monitor.scanner = .reported
    ⟨.hung, some (Scan.hangMessage ⟨(j + 1) * r.pollInterval.nanos⟩), x.judged.length⟩

/-- What can have become of a scan in which no line told of a crash. In the end the silence may be too long to
be counted. -/
inductive Phase (r : Rules) (x : Listening) : Prop
  | waits {deadline j} (h : x.Waits r deadline j)
  | hangs {τ j} (h : x.Hangs r τ j)
  | overflowed {j} (hs : x.monitor.scanner = .failed) (hat : x.haltedAt = none) (hj : x.Patient r j)
    (hfit : Duration.largest.nanos < (j + 1) * r.pollInterval.nanos)

structure Sound (r : Rules) (x : Listening) : Prop where
  interval : x.monitor.poll = r.pollInterval
  knows : ∃ heard, linesIn heard = x.judged ∧ x.monitor.scan.Knows r heard
  phase : (∀ line ∈ x.judged, ¬ r.Signals line) → x.Phase r

variable {r : Rules} {x y : Listening} {m : Monitor}

theorem linesIn_map (lines : List String) : linesIn (lines.map Input.line) = lines := by
  rw [linesIn, List.filterMap_map]
  exact List.filterMap_some ..

theorem windowAfter_congr {heard heard' : List Input} (h : linesIn heard = linesIn heard') :
    r.windowAfter heard = r.windowAfter heard' := by
  unfold Rules.windowAfter
  rw [h]

theorem window_eq {heard : List Input} (h : linesIn heard = x.judged) (hk : x.monitor.scan.Knows r heard) :
    x.monitor.scan.window.nanos = x.window r := by
  rw [hk.window, window, windowAfter_congr (h.trans (linesIn_map x.judged).symm)]

theorem Phase.of_waiting {deadline : Instant} (h : x.Phase r) (hs : x.monitor.scanner = .waiting deadline) :
    ∃ j, x.Waits r deadline j := by
  cases h with
  | @waits deadline' j h =>
    obtain rfl : deadline' = deadline := ScannerState.waiting.inj (h.scanner.symm.trans hs)
    exact ⟨j, h⟩
  | hangs h =>
    have hended := h.ended
    simp [Monitor.scanning, hs] at hended
  | overflowed hfailed =>
    rw [hs] at hfailed
    cases hfailed

theorem sound_start (action : HaltAction) (r : Rules) (c : Cursor) (now : Instant) :
    (start action r c now).Sound r := by
  refine ⟨rfl, ⟨[], rfl, Scan.knows_start r⟩, fun _ => .waits (j := 0) ⟨rfl, rfl, rfl, ?_, .inl rfl, ?_, ?_, ?_, ?_⟩⟩
  · simp [start, Monitor.start, Scan.start, Duration.zero]
  · simp [start]
  · simp [start]
  · simp [start]
  · simp [start]

theorem Sound.reads (h : x.Sound r) (cursor : Cursor) (reader : ReaderState) (lines : List String)
    (notes : List Note) : Sound r
      { x with monitor := { x.monitor with cursor, reader, queue := x.monitor.queue ++ lines, notes } } := by
  refine ⟨h.interval, h.knows, fun hcalm => ?_⟩
  cases h.phase hcalm with
  | waits h =>
    exact .waits ⟨h.scanner, h.halted, h.haltedAt, h.idle, h.patient, h.since, h.now, h.le, h.eq⟩
  | hangs h => exact .hangs ⟨h.haltedAt, h.patient, h.filled, h.fits, h.le, h.eq, h.ended, h.report⟩
  | overflowed hs hat hj hfit => exact .overflowed hs hat hj hfit

theorem Sound.later (h : x.Sound r) {target : Instant} (hle : x.now ≤ target)
    (hd : ∀ deadline, x.monitor.scanner = .waiting deadline → target ≤ deadline) :
    Sound r { x with now := target } := by
  refine ⟨h.interval, h.knows, fun hcalm => ?_⟩
  cases h.phase hcalm with
  | waits h => exact .waits ⟨h.scanner, h.halted, h.haltedAt, h.idle, h.patient, h.since.trans hle,
      hd _ h.scanner, h.le, h.eq⟩
  | hangs h => exact .hangs ⟨h.haltedAt, h.patient, h.filled, h.fits, h.le, h.eq, h.ended, h.report⟩
  | overflowed hs hat hj hfit => exact .overflowed hs hat hj hfit

section scanner
variable {deadline : Instant} {line : String} {rest : List String} {scan : Scan} {verdict : Verdict}

theorem Sound.takes (h : x.Sound r) (hs : x.monitor.scanner = .waiting deadline)
    (ho : x.monitor.readerOpen = true) (hq : x.monitor.queue = line :: rest)
    (hpoll : m.poll = x.monitor.poll) (hscan : m.scan = (x.monitor.scan.onLine line).1)
    (hgoes : (x.monitor.scan.onLine line).2 = .goOn →
      m.scanner = .waiting (x.now + x.monitor.poll.nanos) ∧ m.halted = x.monitor.halted) :
    (x.scanned m).Sound r := by
  obtain ⟨heard, hheard, hknows⟩ := h.knows
  have hdue : x.monitor.due = [line] := by simp [Monitor.due, hs, ho, hq]
  have hlines : linesIn (heard ++ [.line line]) = x.judged ++ x.monitor.due := by
    rw [linesIn_line, hheard, hdue]
  have hknows' : m.scan.Knows r (heard ++ [.line line]) := by
    rw [hscan]
    exact hknows.line line
  refine ⟨hpoll.trans h.interval, ⟨_, hlines, hknows'⟩, fun hcalm => ?_⟩
  simp only [scanned, hdue, List.forall_mem_append, List.forall_mem_singleton] at hcalm
  obtain ⟨j, hw⟩ := (h.phase hcalm.1).of_waiting hs
  have hgoOn : (x.monitor.scan.onLine line).2 = .goOn := by
    rw [Scan.onLine_snd, (Scan.signatureIn_eq_none_iff hknows.signatures).2 hcalm.2]
  obtain ⟨hwaiting, hhalted⟩ := hgoes hgoOn
  have hlast : (x.scanned m).last = x.now := by simp [scanned, hdue]
  have hidle : m.scan.idle.nanos = 0 := by
    rw [hknows'.idle, silenceAfter_line]
    rfl
  rw [hw.halted] at hhalted
  rw [h.interval] at hwaiting
  refine .waits (j := 0) ⟨hwaiting, hhalted, ?_, ?_, .inl rfl, ?_, Nat.le_add_right .., ?_, fun _ => ?_⟩
  · simp only [scanned, hhalted, hw.haltedAt, Bool.false_eq_true, if_false]
  · rw [Nat.zero_mul]
    exact hidle
  · rw [hlast, Nat.zero_mul]
    exact Nat.le_refl _
  · rw [hlast, Nat.zero_add, Nat.one_mul]
  · rw [hlast, Nat.zero_add, Nat.one_mul]

theorem window_of_judged (h : y.judged = x.judged) : y.window r = x.window r := by rw [window, h, window]

theorem Waits.fills {j : Nat} (hw : x.Waits r deadline j) (hnow : x.now = deadline)
    (hjudged : y.judged = x.judged) (hlast : y.last = x.last)
    (hopen : y.monitor.readerOpen = x.monitor.readerOpen) (hat : y.haltedAt = some x.now)
    (hfull : x.window r ≤ (j + 1) * r.pollInterval.nanos)
    (hfits : (j + 1) * r.pollInterval.nanos ≤ Duration.largest.nanos) (hended : y.monitor.scanning = false)
    (hreport : y.monitor.haltAction = .returns → y.monitor.scanner = .reported
      ⟨.hung, some (Scan.hangMessage ⟨(j + 1) * r.pollInterval.nanos⟩), x.judged.length⟩) :
    y.Hangs r x.now j := by
  have hwindow := window_of_judged (r := r) hjudged
  refine ⟨hat, ?_, hwindow ▸ hfull, hfits, ?_, fun ho => ?_, hended, hjudged ▸ hreport⟩
  · rw [Patient, hwindow]
    exact hw.patient
  · rw [hlast, hnow]
    exact hw.le
  · rw [hlast, hnow]
    exact hw.eq (hopen.symm.trans ho)

theorem Waits.goes_on {j : Nat} (hw : x.Waits r deadline j) (hnow : x.now = deadline)
    (hjudged : y.judged = x.judged) (hlast : y.last = x.last) (hat : y.haltedAt = none) (hsame : y.now = x.now)
    (hopen : y.monitor.readerOpen = x.monitor.readerOpen)
    (hscanner : y.monitor.scanner = .waiting (x.now + r.pollInterval.nanos)) (hhalted : y.monitor.halted = false)
    (hidle : y.monitor.scan.idle.nanos = (j + 1) * r.pollInterval.nanos)
    (hshort : (j + 1) * r.pollInterval.nanos < x.window r) :
    y.Waits r (x.now + r.pollInterval.nanos) (j + 1) := by
  have hle : x.last + (j + 1) * r.pollInterval.nanos ≤ x.now := hnow ▸ hw.le
  refine ⟨hscanner, hhalted, hat, hidle, .inr ?_, ?_, hsame ▸ Nat.le_add_right .., ?_, fun ho => ?_⟩
  · rw [window_of_judged hjudged]
    exact hshort
  · rw [hlast, hsame]
    exact hle
  · rw [hlast, Nat.succ_mul, ← Nat.add_assoc]
    exact Nat.add_le_add_right hle _
  · rw [hlast, Nat.succ_mul, ← Nat.add_assoc, hnow, ← hw.eq (hopen.symm.trans ho)]

theorem Sound.idles (h : x.Sound r) (hs : x.monitor.scanner = .waiting deadline)
    (hq : x.monitor.readerOpen = true → x.monitor.queue = [])
    (hi : x.monitor.scan.onIdle x.monitor.poll = some (scan, verdict)) (hd : deadline ≤ x.now)
    (hpoll : m.poll = x.monitor.poll) (hscan : m.scan = scan) (hopen : m.readerOpen = x.monitor.readerOpen)
    (hgoes : verdict = .goOn →
      m.scanner = .waiting (x.now + x.monitor.poll.nanos) ∧ m.halted = x.monitor.halted)
    (hends : verdict ≠ .goOn → m.halted = true ∧ m.scanning = false ∧
      (m.haltAction = .returns → m.scanner = .reported (scan.report verdict))) :
    (x.scanned m).Sound r := by
  obtain ⟨heard, hheard, hknows⟩ := h.knows
  have hdue := Monitor.due_of_idle hq
  have hjudged : (x.scanned m).judged = x.judged := by simp [scanned, hdue]
  have hlast : (x.scanned m).last = x.last := by simp [scanned, hdue]
  have hknows' := hknows.idles hi
  refine ⟨hpoll.trans h.interval, ⟨_, ?_, hscan.symm ▸ hknows'⟩, fun hcalm => ?_⟩
  · rw [linesIn_silence, hheard, hjudged]
  rw [hjudged] at hcalm
  obtain ⟨j, hw⟩ := (h.phase hcalm).of_waiting hs
  have hnow : x.now = deadline := Nat.le_antisymm hw.now hd
  have hidle : x.monitor.scan.idle.nanos + x.monitor.poll.nanos = (j + 1) * r.pollInterval.nanos := by
    rw [hw.idle, h.interval, Nat.succ_mul]
  obtain ⟨hscan', hfits, hverdict⟩ := Scan.onIdle_eq hi
  rw [hidle] at hfits hverdict hscan'
  by_cases hfull : x.window r ≤ (j + 1) * r.pollInterval.nanos
  · have hhung : verdict = .hung (Scan.hangMessage ⟨(j + 1) * r.pollInterval.nanos⟩) := by
      rw [hverdict, if_pos]
      rw [Duration.le_iff, window_eq hheard hknows]
      exact hfull
    obtain ⟨hhalted, hended, hreport⟩ := hends (by simp [hhung])
    have hat : (x.scanned m).haltedAt = some x.now := by simp only [scanned, hhalted, if_true]
    have hseen : scan.linesSeen = x.judged.length := by rw [hknows'.linesSeen, linesIn_silence, hheard]
    refine .hangs (hw.fills hnow hjudged hlast hopen hat hfull hfits hended fun ha => ?_)
    rw [← hseen]
    exact (hreport ha).trans (by rw [hhung]; rfl)
  · have hgoOn : verdict = .goOn := by
      rw [hverdict, if_neg]
      rw [Duration.le_iff, window_eq hheard hknows]
      exact hfull
    obtain ⟨hwaiting, hhalted⟩ := hgoes hgoOn
    rw [hw.halted] at hhalted
    rw [h.interval] at hwaiting
    have hat : (x.scanned m).haltedAt = none := by
      simp only [scanned, hhalted, hw.haltedAt, Bool.false_eq_true, if_false]
    have hcounted : (x.scanned m).monitor.scan.idle.nanos = (j + 1) * r.pollInterval.nanos := by
      show m.scan.idle.nanos = _
      rw [hscan, hscan']
    exact .waits (hw.goes_on hnow hjudged hlast hat rfl hopen hwaiting hhalted hcounted (Nat.lt_of_not_le hfull))

theorem Sound.overflows (h : x.Sound r) (hs : x.monitor.scanner = .waiting deadline)
    (hq : x.monitor.readerOpen = true → x.monitor.queue = [])
    (hi : x.monitor.scan.onIdle x.monitor.poll = none) :
    (x.scanned { x.monitor with scanner := .failed }).Sound r := by
  have hdue := Monitor.due_of_idle hq
  rw [scanned, hdue, List.append_nil, if_pos rfl]
  refine ⟨h.interval, h.knows, fun hcalm => ?_⟩
  obtain ⟨j, hw⟩ := (h.phase hcalm).of_waiting hs
  refine .overflowed (j := j) rfl ?_ hw.patient ?_
  · simp only [hw.halted, hw.haltedAt, Bool.false_eq_true, if_false]
  · rw [Scan.onIdle_eq_none, Duration.add?, hw.idle, h.interval, ← Nat.succ_mul] at hi
    split_ifs at hi with hfit
    exact Nat.lt_of_not_le hfit

theorem Sound.notices (h : x.Sound r) (hs : x.monitor.scanner = .waiting deadline)
    (hq : x.monitor.queue = []) : (x.scanned (Monitor.note { x.monitor with
      readerOpen := false
      scanner := .waiting (x.now + x.monitor.poll.nanos) } .readerLost)).Sound r := by
  have hdue : x.monitor.due = [] := Monitor.due_of_idle fun _ => hq
  rw [scanned, hdue, List.append_nil, if_pos rfl]
  refine ⟨h.interval, h.knows, fun hcalm => ?_⟩
  obtain ⟨j, hw⟩ := (h.phase hcalm).of_waiting hs
  refine .waits (j := j) ⟨rfl, hw.halted, ?_, hw.idle, hw.patient, hw.since, Nat.le_add_right .., ?_, fun ho => ?_⟩
  · simp only [Monitor.note, hw.halted, hw.haltedAt, Bool.false_eq_true, if_false]
  · rw [h.interval, Nat.succ_mul, ← Nat.add_assoc]
    exact Nat.add_le_add_right hw.since _
  · cases ho

end scanner

theorem Sound.scans (h : x.Sound r) (hm : x.monitor.scannerStep? x.now = some m) : (x.scanned m).Sound r := by
  cases Monitor.scannerStep?_move hm with
  | takes hs ho hq =>
    refine h.takes hs ho hq (Monitor.judge_poll ..) (Monitor.judge_scan ..) fun hv => ?_
    rw [hv]
    exact ⟨rfl, rfl⟩
  | @idles _ scan verdict hs hq hi hd =>
    refine h.idles hs hq hi hd (Monitor.judge_poll ..) (Monitor.judge_scan ..) ?_ (fun hv => ?_) fun hv => ?_
    · obtain ⟨_, _, _, _, hj⟩ := Monitor.judge_frame { x.monitor with scan } x.now verdict
      rw [hj]
    · rw [hv]
      exact ⟨rfl, rfl⟩
    · rcases Monitor.judge_cases { x.monitor with scan } x.now verdict with ⟨hgo, -⟩ | ⟨_, _, _, hj⟩ | ⟨_, hb, hj⟩
      · exact absurd hgo hv
      · rw [hj]
        exact ⟨rfl, rfl, fun _ => rfl⟩
      · rw [hj]
        refine ⟨rfl, rfl, fun ha => ?_⟩
        cases hb.symm.trans ha
  | overflows hs hq hi hd => exact h.overflows hs hq hi
  | notices hs ho hq hr => exact h.notices hs hq

theorem Sound.step (h : x.Sound r) (hstep : x.Step y) : y.Sound r := by
  cases hstep with
  | reads cursor reader lines notes => exact h.reads cursor reader lines notes
  | scans hm => exact h.scans hm
  | waits _ hle hd => exact h.later hle hd

theorem Sound.runs (h : x.Sound r) (hruns : x.Runs y) : y.Sound r := by
  induction hruns with
  | refl => exact h
  | tail _ hstep ih => exact ih.step hstep

/-- After so many intervals of silence the window is filled for the first time. -/
def Fills (x : Listening) (r : Rules) (k : Nat) : Prop :=
  IsLeast {k | 0 < k ∧ x.window r ≤ k * r.pollInterval.nanos} k

theorem Patient.lt {j k : Nat} (hj : x.Patient r j) (hk : x.Fills r k) : j < k := by
  rcases hj with rfl | hlt
  · exact hk.1.1
  · exact Nat.lt_of_mul_lt_mul_right (hlt.trans_le hk.1.2)

theorem Hangs.eq_of_fills {τ : Instant} {j k : Nat} (h : x.Hangs r τ j) (hk : x.Fills r k) : j + 1 = k :=
  Nat.le_antisymm (h.patient.lt hk) (hk.2 ⟨Nat.succ_pos j, h.filled⟩)

theorem Waits.runs_to {deadline : Instant} {j : Nat} (h : x.Waits r deadline j)
    (ho : x.monitor.readerOpen = true) (hq : x.monitor.queue = []) (hr : x.monitor.reader ≠ .ended) :
    x.Runs { x with now := deadline } := by
  rcases Nat.eq_or_lt_of_le h.now with hnow | hlt
  · rw [← hnow]
  · refine .single (.waits ?_ h.now fun deadline' hs => ?_)
    · simp only [Monitor.scannerStep?, h.scanner, ho, hq, if_neg hr, if_neg (Nat.not_le.2 hlt)]
    · rw [h.scanner] at hs
      cases hs
      exact Nat.le_refl _

section silent
variable {deadline : Instant} {j k : Nat}

theorem Sound.interval_ends (h : x.Sound r) (hp : 0 < r.pollInterval.nanos) (hw : x.Waits r deadline j)
    (hk : x.Fills r k) (hfit : k * r.pollInterval.nanos ≤ Duration.largest.nanos)
    (hcalm : ∀ line ∈ x.judged, ¬ r.Signals line) (ho : x.monitor.readerOpen = true)
    (hq : x.monitor.queue = []) (hr : x.monitor.reader ≠ .ended) :
    ∃ y, x.Runs y ∧ y.judged = x.judged ∧ y.last = x.last ∧ y.monitor.readerOpen = true ∧
      y.monitor.queue = [] ∧ y.monitor.reader ≠ .ended ∧
        ((∃ deadline', y.Waits r deadline' (j + 1)) ∨ y.haltedAt = some (x.last + k * r.pollInterval.nanos)) := by
  have hlt := hw.patient.lt hk
  let x₁ : Listening := { x with now := deadline }
  have hscan : x₁.monitor.scannerStep? x₁.now = some (x.monitor.passInterval deadline) := by
    simp only [x₁, Monitor.scannerStep?, hw.scanner, ho, hq, if_neg hr, Nat.le_refl, if_true]
  have hruns : x.Runs (x₁.scanned (x.monitor.passInterval deadline)) := (hw.runs_to ho hq hr).tail (.scans hscan)
  have hlast : (j + 1) * r.pollInterval.nanos ≤ Duration.largest.nanos :=
    (Nat.mul_le_mul_right _ hlt).trans hfit
  cases hi : x.monitor.scan.onIdle x.monitor.poll with
  | none =>
    rw [Scan.onIdle_eq_none, Duration.add?, hw.idle, h.interval, ← Nat.succ_mul, if_pos hlast] at hi
    cases hi
  | some counted =>
    obtain ⟨scan, verdict⟩ := counted
    obtain ⟨hcounted, -, -⟩ := Scan.onIdle_eq hi
    obtain ⟨scanner, halted, halts, notes, hpass⟩ := Monitor.passInterval_eq hi deadline
    have hdue : x₁.monitor.due = [] := Monitor.due_of_idle fun _ => hq
    rw [scanned, hdue, List.append_nil, if_pos rfl, hpass] at hruns
    have hphase := (h.runs hruns).phase hcalm
    refine ⟨_, hruns, rfl, rfl, ho, hq, hr, ?_⟩
    cases hphase with
    | @waits deadline' j' hw' =>
      have hidle := hw'.idle
      simp only [hcounted, hw.idle, h.interval, ← Nat.succ_mul] at hidle
      obtain rfl : j + 1 = j' := Nat.eq_of_mul_eq_mul_right hp hidle
      exact .inl ⟨deadline', hw'⟩
    | hangs hhangs =>
      have hlate := hhangs.eq ho
      rw [hhangs.eq_of_fills hk] at hlate
      exact .inr (hhangs.haltedAt.trans (congrArg some hlate))
    | @overflowed j' hs hat hj hlong =>
      have hle : (j' + 1) * r.pollInterval.nanos ≤ k * r.pollInterval.nanos := Nat.mul_le_mul_right _ (hj.lt hk)
      exact absurd (hle.trans hfit) (Nat.not_le.2 hlong)

theorem Sound.counts (h : x.Sound r) (hp : 0 < r.pollInterval.nanos) (hw : x.Waits r deadline j)
    (hk : x.Fills r k) (hfit : k * r.pollInterval.nanos ≤ Duration.largest.nanos)
    (hcalm : ∀ line ∈ x.judged, ¬ r.Signals line) (ho : x.monitor.readerOpen = true)
    (hq : x.monitor.queue = []) (hr : x.monitor.reader ≠ .ended) :
    ∃ y, x.Runs y ∧ y.judged = x.judged ∧ y.haltedAt = some (x.last + k * r.pollInterval.nanos) := by
  -- on how many intervals are left
  obtain ⟨n, hn⟩ := Nat.exists_eq_add_of_lt (hw.patient.lt hk)
  induction n generalizing x deadline j with
  | zero =>
    obtain ⟨y, hruns, hjudged, -, -, -, -, ⟨deadline', hw'⟩ | hat⟩ := h.interval_ends hp hw hk hfit hcalm ho hq hr
    · have hk' : y.Fills r k := by
        rw [Fills, window, hjudged]
        exact hk
      exact absurd (hw'.patient.lt hk') (by omega)
    · exact ⟨y, hruns, hjudged, hat⟩
  | succ n ih =>
    obtain ⟨y, hruns, hjudged, hlast, ho', hq', hr', ⟨deadline', hw'⟩ | hat⟩ :=
      h.interval_ends hp hw hk hfit hcalm ho hq hr
    · have hk' : y.Fills r k := by
        rw [Fills, window, hjudged]
        exact hk
      obtain ⟨z, hruns', hjudged', hat⟩ :=
        ih (h.runs hruns) hw' hk' (by rwa [hjudged]) ho' hq' hr' (by omega)
      exact ⟨z, hruns.trans hruns', hjudged'.trans hjudged, by rw [hat, hlast]⟩
    · exact ⟨y, hruns, hjudged, hat⟩

end silent

theorem runs_pass (hp : 0 < x.monitor.poll.nanos) (d : Disk) {target : Instant} (hlt : x.now < target) :
    ∃ y, x.Runs y ∧ y.monitor = x.monitor.pass d x.now target ∧ y.now = target := by
  let P (t : Instant) (m : Monitor) : Prop := 0 < m.poll.nanos ∧ ∃ y, x.Runs y ∧ y.monitor = m ∧ y.now = t
  have hstep (t : Instant) (m m' : Monitor) (h : P t m) (hm : m.step? d t = some m') : P t m' := by
    obtain ⟨hpoll, y, hruns, rfl, rfl⟩ := h
    rcases Monitor.step?_cases hm with hr | hs
    · obtain ⟨cursor, reader, lines, notes, rfl⟩ := (Monitor.readerStep?_move hr).brings
      exact ⟨hpoll, _, hruns.tail (.reads cursor reader lines notes), rfl, rfl⟩
    · obtain ⟨_, _, _, _, _, _, _, hframe⟩ := (Monitor.scannerStep?_move hs).frame
      exact ⟨by rw [hframe]; exact hpoll, _, hruns.tail (.scans hs), rfl, rfl⟩
  have hwait (t t' : Instant) (m : Monitor) (h : P t m) (hquiet : m.step? d t = none) (hle : t ≤ t')
      (htimer : ∀ s, m.nextTimer = some s → t' ≤ s) : P t' m := by
    obtain ⟨hpoll, y, hruns, rfl, rfl⟩ := h
    rw [Monitor.step?, Option.or_eq_none_iff] at hquiet
    refine ⟨hpoll, _, hruns.tail (.waits hquiet.2 hle fun deadline hs => ?_), rfl, rfl⟩
    obtain ⟨s, hs, hbefore⟩ := Monitor.nextTimer_le_deadline hs
    exact (htimer s hs).trans hbefore
  exact (Monitor.pass_keeps (fun _ _ h => h.1) hstep hwait ⟨hp, x, .refl, rfl, rfl⟩ hlt).1.2

section start
variable {action : HaltAction} {c : Cursor} {t₀ : Instant} {k : Nat}

/-- The moment at which a silent log is called hung. Let `k` be the least number of intervals after the last
line that fill the window, and no longer than the longest span. As long as the reader goes on, the scanner
speaks up after them, neither before nor after; without a line it does. It never speaks up before the window is
over, even where the reader ended amid an interval, and nothing is received after that. -/
theorem hang_timing (h : (start action r c t₀).Runs x) (hp : 0 < r.pollInterval.nanos)
    (hcalm : ∀ line ∈ x.judged, ¬ r.Signals line) (hk : x.Fills r k)
    (hfit : k * r.pollInterval.nanos ≤ Duration.largest.nanos) :
    (∀ τ, x.haltedAt = some τ → x.last + x.window r ≤ τ ∧
      (x.monitor.readerOpen = true → τ = x.last + k * r.pollInterval.nanos) ∧
      (x.monitor.haltAction = .returns → x.monitor.scanner = .reported
        ⟨.hung, some (Scan.hangMessage ⟨k * r.pollInterval.nanos⟩), x.judged.length⟩) ∧
      ∀ now, x.monitor.scannerStep? now = none) ∧
    (x.haltedAt = none → x.monitor.readerOpen = true → x.now ≤ x.last + k * r.pollInterval.nanos ∧
      (x.monitor.queue = [] → x.monitor.reader ≠ .ended → ∃ y, x.Runs y ∧ y.judged = x.judged ∧
        y.haltedAt = some (x.last + k * r.pollInterval.nanos))) := by
  have hsound := (sound_start action r c t₀).runs h
  refine ⟨fun τ hat => ?_, fun hat ho => ?_⟩
  · cases hsound.phase hcalm with
    | waits hw =>
      rw [hw.haltedAt] at hat
      cases hat
    | @hangs τ' j hh =>
      obtain rfl : τ' = τ := Option.some.inj (hh.haltedAt.symm.trans hat)
      have hfirst := hh.eq_of_fills hk
      have hle := hh.le
      have heq := hh.eq
      have hreport := hh.report
      rw [hfirst] at hle heq hreport
      refine ⟨(Nat.add_le_add_left hk.1.2 _).trans hle, heq, hreport, fun now => ?_⟩
      cases hs : x.monitor.scannerStep? now with
      | none => rfl
      | some m =>
        have hwaiting := (Monitor.scannerStep?_move hs).waiting
        rw [hh.ended] at hwaiting
        cases hwaiting
    | overflowed _ hnone =>
      rw [hnone] at hat
      cases hat
  · cases hsound.phase hcalm with
    | @waits deadline j hw =>
      refine ⟨?_, fun hq hr => hsound.counts hp hw hk hfit hcalm ho hq hr⟩
      have hle : (j + 1) * r.pollInterval.nanos ≤ k * r.pollInterval.nanos :=
        Nat.mul_le_mul_right _ (hw.patient.lt hk)
      calc x.now ≤ deadline := hw.now
        _ = x.last + (j + 1) * r.pollInterval.nanos := hw.eq ho
        _ ≤ x.last + k * r.pollInterval.nanos := Nat.add_le_add_left hle _
    | hangs hh =>
      rw [hh.haltedAt] at hat
      cases hat
    | @overflowed j _ _ hj hlong =>
      have hle : (j + 1) * r.pollInterval.nanos ≤ k * r.pollInterval.nanos := Nat.mul_le_mul_right _ (hj.lt hk)
      exact absurd (hle.trans hfit) (Nat.not_le.2 hlong)

theorem hang_timing_marker :
    let r : Rules := { hangTimeout := ⟨50⟩, initialTimeout := some ⟨10⟩, pollInterval := ⟨20⟩,
                       crashSignatures := ["boom"], resetMarkers := ["phase"] }
    let c : Cursor := ⟨⟨"log"⟩, .file 0, 0, []⟩
    ∃ x, (start .returns r c 5).Runs x ∧ x.judged = ["phase"] ∧ x.last = 12 ∧ 0 < r.pollInterval.nanos ∧
      (∀ line ∈ x.judged, ¬ r.Signals line) ∧ x.Fills r 3 ∧
      3 * r.pollInterval.nanos ≤ Duration.largest.nanos ∧ x.haltedAt = none ∧ x.monitor.readerOpen = true ∧
      ∃ y, x.Runs y ∧ y.judged = x.judged ∧ y.haltedAt = some 72 := by
  intro r c
  let x₁ : Listening := { start .returns r c 5 with now := 12 }
  let x₂ : Listening := { x₁ with monitor := { x₁.monitor with queue := ["phase"] } }
  let x := x₂.scanned (x₂.monitor.takeLine 12 "phase" [])
  have hruns : (start .returns r c 5).Runs x := by
    have hwaits : (start .returns r c 5).Step x₁ := .waits rfl (by decide) fun deadline hs => by
      cases hs
      decide
    have hreads : x₁.Step x₂ := .reads _ _ ["phase"] _
    have hscans : x₂.Step x := .scans rfl
    exact ((Relation.ReflTransGen.single hwaits).tail hreads).tail hscans
  have hjudged : x.judged = ["phase"] := rfl
  have hlast : x.last = 12 := rfl
  have hcalm : ∀ line ∈ x.judged, ¬ r.Signals line := by
    rw [hjudged]
    decide +kernel
  have hwindow : x.window r = 50 := by decide +kernel
  have hfills : x.Fills r 3 := by
    rw [Fills, hwindow]
    refine ⟨by decide, fun k hk => ?_⟩
    have hle : 50 ≤ k * 20 := hk.2
    omega
  have hfit : 3 * r.pollInterval.nanos ≤ Duration.largest.nanos := by decide
  have hat : x.haltedAt = none := by decide +kernel
  have ho : x.monitor.readerOpen = true := by decide +kernel
  obtain ⟨-, hgoes⟩ := hang_timing hruns (by decide) hcalm hfills hfit
  have hy := (hgoes hat ho).2 (by decide +kernel) (by decide +kernel)
  exact ⟨x, hruns, hjudged, hlast, by decide, hcalm, hfills, hfit, hat, ho, hy⟩

theorem haltedAt_eq_none (h : (start action r c t₀).Runs x) (hcalm : ∀ line ∈ x.judged, ¬ r.Signals line)
    (hk : x.Fills r k) (hlong : Duration.largest.nanos < k * r.pollInterval.nanos) : x.haltedAt = none := by
  cases ((sound_start action r c t₀).runs h).phase hcalm with
  | waits hw => exact hw.haltedAt
  | hangs hh =>
    have hfits := hh.fits
    rw [hh.eq_of_fills hk] at hfits
    exact absurd hfits (Nat.not_le.2 hlong)
  | overflowed _ hat => exact hat

/-- The longest window, and an interval that is shorter by a nanosecond. The second interval cannot be
counted. -/
theorem hang_missed_beyond_largest : ¬ ∀ action r c t₀ x k, (start action r c t₀).Runs x →
    0 < r.pollInterval.nanos → (∀ line ∈ x.judged, ¬ r.Signals line) → x.Fills r k → x.haltedAt = none →
    x.monitor.readerOpen = true → x.monitor.queue = [] → x.monitor.reader ≠ .ended →
    ∃ y, x.Runs y ∧ y.judged = x.judged ∧ y.haltedAt = some (x.last + k * r.pollInterval.nanos) := by
  intro hall
  let r : Rules := { hangTimeout := .largest, pollInterval := ⟨Duration.largest.nanos - 1⟩ }
  let c : Cursor := ⟨⟨"log"⟩, .file 0, 0, []⟩
  let x := start .returns r c 0
  have hlargest : Duration.largest.nanos = 18446744073709551615999999999 := by decide
  have hinterval : r.pollInterval.nanos = 18446744073709551615999999998 := by decide
  have hfills : x.Fills r 2 := by
    have hwindow : x.window r = 18446744073709551615999999999 := by decide +kernel
    rw [Fills, hwindow, hinterval]
    refine ⟨by decide, fun k ⟨hpos, hle⟩ => ?_⟩
    omega
  have hcalm (y : Listening) (hy : y.judged = []) : ∀ line ∈ y.judged, ¬ r.Signals line := by simp [hy]
  obtain ⟨y, hruns, hjudged, hat⟩ := hall .returns r c 0 x 2 .refl (by rw [hinterval]; decide) (hcalm x rfl) hfills
    rfl rfl rfl (by simp [x, start, Monitor.start])
  have hfills' : y.Fills r 2 := by
    rw [Fills, window, hjudged]
    exact hfills
  have hnone := haltedAt_eq_none hruns (hcalm y hjudged) hfills' (by rw [hlargest, hinterval]; decide)
  rw [hnone] at hat
  cases hat

end start

end Listening
end Foreman.Watch
