import Foreman.Proofs.Watch.Tasks

/-! The steps at one moment come to an end, and so does the time that is let pass: what is due is done, and
what is left falls due later. -/

namespace Foreman.Watch

theorem Cursor.unread_next_lt {c : Cursor} {d : Disk} {text : String} (h : (c.next d).1 = .line text) :
    ((c.next d).2.unread d).length < (c.unread d).length := by
  unfold Cursor.next at h ⊢
  split_ifs at h ⊢ with hs
  cases hsplit : splitLine (c.unread d) with
  | none =>
    simp only [hsplit, Cursor.atEnd] at h
    split at h <;> cases h
  | some x =>
    obtain ⟨ys, -, hline, hunread⟩ := splitLine_eq_some hsplit
    have hrest : Cursor.unread { c with offset := c.offset + x.1.length, fragment := [] } d = x.2 := by
      unfold Cursor.unread at hunread ⊢
      cases hc : c.source with
      | directory => exact absurd hc hs
      | file id =>
        simp only [hc] at hunread ⊢
        rw [← List.drop_drop, hunread, List.drop_left]
    have hlen : (c.unread d).length = x.1.length + x.2.length := by rw [hunread, List.length_append]
    have hpos : 0 < x.1.length := by simp [hline]
    simp only []
    rw [hrest, hlen]
    omega

/-- What a reader can do at one moment at most, with the lines it can bring from so many bytes. One that has
ended can still be noticed. -/
def ReaderState.work (unread : Nat) (noticed : Bool) (now : Instant) : ReaderState → Nat
  | .reading => 3 * unread + 2
  | .blocked _ => 3 * unread + 4
  | .sleeping wakeAt => if wakeAt ≤ now then 3 * unread + 3 else 0
  | .ended => if noticed then 0 else 1

theorem ReaderState.work_or_le (unread : Nat) (noticed other : Bool) (now : Instant) (r : ReaderState) :
    r.work unread (noticed || other) now ≤ r.work unread noticed now := by
  cases r with
  | ended => cases noticed <;> cases other <;> simp [work]
  | _ => exact le_rfl

theorem ReaderState.work_le (unread : Nat) (noticed : Bool) (now : Instant) (r : ReaderState) :
    r.work unread noticed now ≤ 3 * unread + 4 := by
  cases r with
  | reading => simp [work]
  | blocked line => simp [work]
  | sleeping wakeAt =>
    rw [work]
    split_ifs <;> omega
  | ended =>
    rw [work]
    split_ifs <;> omega

def ScannerState.work (now : Instant) : ScannerState → Nat
  | .waiting deadline => if deadline ≤ now then 1 else 0
  | _ => 0

theorem ScannerState.work_le (now : Instant) (s : ScannerState) : s.work now ≤ 1 := by
  cases s with
  | waiting deadline =>
    rw [work]
    split_ifs <;> omega
  | reported report => simp [work]
  | failed => simp [work]

namespace Monitor
variable {m m' : Monitor} {d : Disk} {now target : Instant}

def work (m : Monitor) (d : Disk) (now : Instant) : Nat :=
  m.reader.work (m.cursor.unread d).length (!m.readerOpen || !m.scanning) now + m.queue.length +
    m.scanner.work now

theorem readerSleep_pos : 0 < m.readerSleep.nanos := by
  rw [readerSleep, Duration.max_nanos]
  exact Nat.le_max_left ..

theorem readerSleep_eq (hp : 0 < m.poll.nanos) : m.readerSleep = min m.poll longestSleep := by
  have hle : (⟨1⟩ : Duration) ≤ min m.poll longestSleep := by
    rw [Duration.le_iff, Duration.min_nanos]
    exact le_min hp (by decide)
  exact if_pos hle

theorem work_look_lt (hr : m.reader = .reading) :
    (m.look d now).work d now < m.work d now := by
  have hm : m.work d now =
      3 * (m.cursor.unread d).length + 2 + m.queue.length + m.scanner.work now := by
    rw [work, hr]
    rfl
  have hw (cursor : Cursor) (reader : ReaderState) (queue : List String) (notes : List Note) :
      work { m with cursor, reader, queue, notes } d now =
        reader.work (cursor.unread d).length (!m.readerOpen || !m.scanning) now + queue.length +
          m.scanner.work now := rfl
  have hasleep (cursor : Cursor) (notes : List Note) :
      work { m with cursor, reader := .sleeping (now + m.readerSleep.nanos), notes } d now <
        m.work d now := by
    have hawake : ¬ now + m.readerSleep.nanos ≤ now := by
      have hsleep := m.readerSleep_pos
      lia
    rw [hw, hm, ReaderState.work, if_neg hawake]
    omega
  have hline {text : String} (h : (m.cursor.next d).1 = .line text) := Cursor.unread_next_lt h
  unfold look
  cases hnext : m.cursor.next d with
  | mk reading cursor =>
    cases reading with
    | line text =>
      have hlt : (cursor.unread d).length < (m.cursor.unread d).length := by
        have hless := hline (by rw [hnext])
        rwa [hnext] at hless
      simp only [offer]
      split_ifs
      · rw [hw, hm]
        simp only [ReaderState.work, List.length_append, List.length_singleton]
        omega
      · rw [hw, hm]
        simp only [ReaderState.work]
        omega
    | pending => exact hasleep cursor m.notes
    | restarted => exact hasleep cursor (m.notes ++ [.readerRestarted])
    | failed cause =>
      simp only [note, endReader]
      rw [hw, hm]
      simp only [ReaderState.work]
      split_ifs <;> omega

theorem ReaderMove.work_lt (h : m.ReaderMove d now m') : m'.work d now < m.work d now := by
  have hw (reader : ReaderState) (queue : List String) (notes : List Note) :
      work { m with reader, queue, notes } d now =
        reader.work (m.cursor.unread d).length (!m.readerOpen || !m.scanning) now + queue.length +
          m.scanner.work now := rfl
  cases h with
  | @wakes wakeAt hr hle =>
    rw [hw, work, hr]
    simp only [ReaderState.work, if_pos hle]
    omega
  | puts hr hs hq =>
    rw [offer, if_pos hq, hw, work, hr]
    simp only [ReaderState.work, List.length_append, List.length_singleton]
    omega
  | looks hr hs => exact work_look_lt hr
  | ends hr hs hwake =>
    have hend := hw .ended m.queue (m.notes ++ [.readerEnded])
    simp only [ReaderState.work, hs, Bool.not_false, Bool.or_true, if_true] at hend
    rw [endReader, note, hend, work]
    cases hreader : m.reader with
    | reading =>
      simp only [ReaderState.work]
      omega
    | blocked line =>
      simp only [ReaderState.work]
      omega
    | sleeping wakeAt => exact absurd hreader (hwake wakeAt)
    | ended => exact absurd hreader hr

theorem work_judge_le (hp : 0 < m.poll.nanos) (verdict : Verdict) :
    (m.judge now verdict).work d now ≤
      m.reader.work (m.cursor.unread d).length (!m.readerOpen) now + m.queue.length := by
  obtain ⟨scanner, halted, halts, notes, hj⟩ := judge_frame m now verdict
  have hidle : (m.judge now verdict).scanner.work now = 0 := by
    have hlater : ¬ now + m.poll.nanos ≤ now := by lia
    rcases m.judge_cases now verdict with ⟨-, hj⟩ | ⟨_, _, -, hj⟩ | ⟨_, -, hj⟩
    · rw [hj, ScannerState.work, if_neg hlater]
    · rw [hj, ScannerState.work]
      simp
    · rw [hj, ScannerState.work]
      simp
  rw [work, hidle, Nat.add_zero, hj]
  exact Nat.add_le_add_right (ReaderState.work_or_le ..) _

theorem ScannerMove.work_lt (h : m.ScannerMove now m') (hp : 0 < m.poll.nanos) :
    m'.work d now < m.work d now := by
  have hm : m.work d now = m.reader.work (m.cursor.unread d).length (!m.readerOpen) now +
      m.queue.length + m.scanner.work now := by
    rw [work, h.waiting, Bool.not_true, Bool.or_false]
  rw [hm]
  cases h with
  | takes hs ho hq =>
    refine (work_judge_le (by exact hp) _).trans_lt ?_
    rw [hq, List.length_cons]
    simp only []
    omega
  | idles hs hq hi hd =>
    refine (work_judge_le (by exact hp) _).trans_lt ?_
    rw [hs, ScannerState.work, if_pos hd]
    simp only []
    omega
  | overflows hs hq hi hd =>
    have hless := ReaderState.work_or_le (m.cursor.unread d).length (!m.readerOpen) true now m.reader
    have hfail : work { m with scanner := .failed } d now =
        m.reader.work (m.cursor.unread d).length (!m.readerOpen || true) now + m.queue.length + 0 := rfl
    rw [hs, ScannerState.work, if_pos hd, hfail]
    omega
  | notices hs ho hq hr =>
    have hlater : ¬ now + m.poll.nanos ≤ now := by lia
    rw [hr, ho]
    simp only [work, note, ReaderState.work, ScannerState.work, if_neg hlater, Bool.not_false,
      Bool.true_or, Bool.not_true, if_true, Bool.false_eq_true, if_false]
    omega

theorem step?_cases (h : m.step? d now = some m') :
    m.readerStep? d now = some m' ∨ m.scannerStep? now = some m' := by
  rw [step?, Option.or_eq_some_iff] at h
  exact h.imp_right And.right

theorem step?_work_lt (h : m.step? d now = some m') (hp : 0 < m.poll.nanos) :
    m'.work d now < m.work d now := by
  rcases step?_cases h with hr | hs
  · exact (readerStep?_move hr).work_lt
  · exact (scannerStep?_move hs).work_lt hp

theorem work_le_stepBound (m : Monitor) (d : Disk) (now : Instant) : m.work d now ≤ m.stepBound d := by
  have hreader := m.reader.work_le (m.cursor.unread d).length (!m.readerOpen || !m.scanning) now
  have hscanner := m.scanner.work_le now
  rw [work, stepBound]
  omega

/-- What holds before and is kept by each step holds when no step is left, and so many are enough. -/
theorem settle_keeps {P : Monitor → Prop} (hp : ∀ m, P m → 0 < m.poll.nanos)
    (hstep : ∀ m m', P m → m.step? d now = some m' → P m') (h : P m) :
    P (m.settle d now) ∧ (m.settle d now).step? d now = none := by
  have key : ∀ n m, P m → m.work d now ≤ n →
      P (settleWithin d now n m) ∧ (settleWithin d now n m).step? d now = none := by
    intro n
    induction n with
    | zero =>
      intro m h hw
      refine ⟨h, ?_⟩
      cases hs : m.step? d now with
      | none => rw [settleWithin, hs]
      | some m' =>
        have hlt := step?_work_lt hs (hp m h)
        omega
    | succ n ih =>
      intro m h hw
      rw [settleWithin]
      cases hs : m.step? d now with
      | none => exact ⟨h, hs⟩
      | some m' =>
        have hlt := step?_work_lt hs (hp m h)
        exact ih m' (hstep m m' h hs) (by omega)
  exact key _ m h (work_le_stepBound m d now)

theorem nextTimer_eq_some {t : Instant} (h : m.nextTimer = some t) :
    m.reader = .sleeping t ∨ m.scanner = .waiting t := by
  unfold nextTimer at h
  cases hr : m.reader with
  | sleeping wakeAt =>
    cases hs : m.scanner with
    | waiting deadline =>
      simp only [hr, hs, Option.some.injEq] at h
      rcases Nat.le_total wakeAt deadline with hle | hle
      · exact .inl (by rw [← h, Nat.min_eq_left hle])
      · exact .inr (by rw [← h, Nat.min_eq_right hle])
    | reported report => simp_all
    | failed => simp_all
  | reading => cases hs : m.scanner <;> simp_all
  | blocked line => cases hs : m.scanner <;> simp_all
  | ended => cases hs : m.scanner <;> simp_all

theorem nextTimer_le {t : Instant} (h : m.reader = .sleeping t) : ∃ s, m.nextTimer = some s ∧ s ≤ t := by
  unfold nextTimer
  cases hs : m.scanner with
  | waiting deadline => exact ⟨min t deadline, by simp [h], min_le_left ..⟩
  | reported report => exact ⟨t, by simp [h], le_rfl⟩
  | failed => exact ⟨t, by simp [h], le_rfl⟩

theorem lt_nextTimer (h : m.step? d now = none) {t : Instant} (ht : m.nextTimer = some t) : now < t := by
  rw [step?, Option.or_eq_none_iff] at h
  obtain ⟨hr, hs⟩ := h
  rcases nextTimer_eq_some ht with hw | hw
  · simpa [readerStep?, hw] using hr
  · unfold scannerStep? at hs
    simp only [hw] at hs
    split at hs
    · cases hs
    · split_ifs at hs with hreader hle
      exact not_le.1 hle
    · split_ifs at hs with hle
      exact not_le.1 hle

/-- What holds before, is kept by each step and stays true while nothing is left to do holds after time was let
pass. Some moment before the end was the last at which something was done. -/
theorem pass_keeps {P : Instant → Monitor → Prop} (hp : ∀ t m, P t m → 0 < m.poll.nanos)
    (hstep : ∀ t m m', P t m → m.step? d t = some m' → P t m')
    (hwait : ∀ t t' m, P t m → m.step? d t = none → t ≤ t' → (∀ s, m.nextTimer = some s → t' ≤ s) → P t' m)
    (h : P now m) (hlt : now < target) :
    P target (m.pass d now target) ∧ (∃ t, (m.pass d now target).step? d t = none) ∧
      ∀ t, (m.pass d now target).nextTimer = some t → target ≤ t := by
  have key : ∀ n now m, P now m → now < target → target ≤ now + n →
      P target (passWithin d target n now m) ∧ (∃ t, (passWithin d target n now m).step? d t = none) ∧
        ∀ t, (passWithin d target n now m).nextTimer = some t → target ≤ t := by
    intro n
    induction n with
    | zero => lia
    | succ n ih =>
      intro now m h hlt hn
      obtain ⟨hsettled, hquiet⟩ := settle_keeps (hp now) (hstep now) h
      rw [passWithin]
      cases ht : (m.settle d now).nextTimer with
      | none => exact ⟨hwait _ _ _ hsettled hquiet hlt.le (by simp [ht]), ⟨now, hquiet⟩, by simp [ht]⟩
      | some t =>
        have hlater := lt_nextTimer hquiet ht
        have htimer (t' : Instant) (hle : t' ≤ t) (s : Instant)
            (hs : (m.settle d now).nextTimer = some s) : t' ≤ s := by
          rw [ht] at hs
          cases hs
          exact hle
        simp only
        split_ifs with hbefore
        · exact ih t _ (hwait _ _ _ hsettled hquiet hlater.le (htimer t le_rfl)) hbefore (by lia)
        · have hle : target ≤ t := not_lt.1 hbefore
          exact ⟨hwait _ _ _ hsettled hquiet hlt.le (htimer target hle), ⟨now, hquiet⟩, htimer target hle⟩
  rw [pass, if_pos hlt]
  exact key _ now m h hlt (by lia)

end Monitor
end Foreman.Watch
