import Foreman.Proofs.Watch.Delivery
import Foreman.Proofs.Watch.Quiet
import Foreman.Proofs.Watch.Verdicts

/-! How long a line can wait. As long as the scanner goes on, the reader looks at the file again after each
sleep, and what it finds is judged at that same moment. -/

namespace Foreman.Watch

namespace Cursor.Follows
variable {c : Cursor} {d : Disk} {p : Path} {id : FileId} {old read unread : Bytes}

theorem next_ne_failed (h : c.Follows d p id old read unread)
    (hsight : ∀ e, d.find p = .error e → e = .notFound) (e : DiskError) : (c.next d).1 ≠ .failed e := by
  cases hs : splitLine unread with
  | some x =>
    obtain ⟨text, hnext, -, -⟩ := h.next_line hs
    simp [hnext]
  | none =>
    obtain ⟨c', hpath, -, -, hnext⟩ := h.reads.next_none hs
    have hsee : c'.sighting d ≠ .failed e := by
      unfold Cursor.sighting
      rw [hpath, h.path]
      cases hf : d.find p with
      | error e' =>
        rw [hsight e' hf]
        simp
      | ok source =>
        simp only
        split_ifs <;> simp
    rw [hnext]
    cases hc : c'.sighting d with
    | unchanged => simp
    | shorter source => simp
    | failed e' =>
      rw [hc] at hsee
      simpa using hsee

end Cursor.Follows

namespace Monitor
variable {m m' : Monitor} {d : Disk} {now : Instant}

theorem look_sleeping {wakeAt : Instant} (h : (m.look d now).reader = .sleeping wakeAt) :
    wakeAt = now + m.readerSleep.nanos ∧
      ((m.cursor.next d).1 = .pending ∨ (m.cursor.next d).1 = .restarted) := by
  unfold look at h
  cases hnext : m.cursor.next d with
  | mk reading cursor =>
    rw [hnext] at h
    cases reading with
    | line text =>
      simp only [offer] at h
      split_ifs at h
    | pending =>
      cases h
      exact ⟨rfl, .inl rfl⟩
    | restarted =>
      cases h
      exact ⟨rfl, .inr rfl⟩
    | failed cause => cases h

theorem look_ended (h : (m.look d now).reader = .ended) : ∃ e, (m.cursor.next d).1 = .failed e := by
  unfold look at h
  cases hnext : m.cursor.next d with
  | mk reading cursor =>
    rw [hnext] at h
    cases reading with
    | line text =>
      simp only [offer] at h
      split_ifs at h
    | pending => cases h
    | restarted => cases h
    | failed cause => exact ⟨cause, rfl⟩

theorem ReaderMove.sleeping {wakeAt : Instant} (h : m.ReaderMove d now m')
    (hr : m'.reader = .sleeping wakeAt) : m' = m.look d now ∧ m.reader = .reading ∧
      m.scanning = true := by
  cases h with
  | wakes => cases hr
  | puts _ _ hq =>
    rw [offer, if_pos hq] at hr
    cases hr
  | looks hread hs => exact ⟨rfl, hread, hs⟩
  | ends => cases hr

theorem ReaderMove.ended (h : m.ReaderMove d now m') (hr : m'.reader = .ended)
    (hs : m.scanning = true) : ∃ e, (m.cursor.next d).1 = .failed e := by
  cases h with
  | wakes => cases hr
  | puts _ _ hq =>
    rw [offer, if_pos hq] at hr
    cases hr
  | looks => exact look_ended hr
  | ends _ hs' =>
    rw [hs] at hs'
    cases hs'

theorem judge_on_time {t₀ : Instant} (ha : m.haltAction = .returns) (hsum : t₀ + m.scan.idle.nanos ≤ now)
    (verdict : Verdict) : let m' := m.judge now verdict
      m'.scanner ≠ .failed ∧ m'.readerOpen = m.readerOpen ∧
        ∀ deadline, m'.scanner = .waiting deadline → t₀ + m'.scan.idle.nanos + m'.poll.nanos ≤ deadline := by
  rcases m.judge_cases now verdict with ⟨-, hj⟩ | ⟨_, _, -, hj⟩ | ⟨_, hb, -⟩
  · rw [hj]
    refine ⟨by simp, rfl, fun deadline hw => ?_⟩
    cases hw
    exact Nat.add_le_add_right hsum _
  · rw [hj]
    exact ⟨by simp, rfl, by simp⟩
  · rw [ha] at hb
    cases hb

theorem asleep_of_quiet (h : m.step? d now = none) (hs : m.scanning = true) (ho : m.readerOpen = true)
    (hr : m.reader ≠ .ended) : m.underway = [] ∧ ∃ wakeAt, m.reader = .sleeping wakeAt := by
  rw [step?, Option.or_eq_none_iff] at h
  obtain ⟨hread, hscan⟩ := h
  have hq : m.queue = [] := by
    cases hq : m.queue with
    | nil => rfl
    | cons line rest =>
      unfold scanning at hs
      cases hw : m.scanner with
      | waiting deadline => simp [scannerStep?, hw, ho, hq] at hscan
      | reported report => simp [hw] at hs
      | failed => simp [hw] at hs
  cases hreader : m.reader with
  | reading => simp [readerStep?, hreader] at hread
  | blocked line => simp [readerStep?, hreader, hs, hq, capacity] at hread
  | sleeping wakeAt => exact ⟨by simp [underway, held, hq, hreader], wakeAt, rfl⟩
  | ended => exact absurd hreader hr

end Monitor

namespace Watching

/-- A watch that was begun at `t₀`, at a later moment. Its halt action returns. -/
structure Timely (r : Rules) (t₀ now : Instant) (x : Watching) : Prop where
  since : t₀ ≤ now
  interval : x.monitor.poll = r.pollInterval
  poll : 0 < x.monitor.poll.nanos
  action : x.monitor.haltAction = .returns
  verdict : x.monitor.Calm ∨ ∃ reason, x.monitor.Condemned reason
  intact : now ≤ t₀ + Duration.largest.nanos → x.monitor.scanner ≠ .failed
  patient : ∀ deadline, x.monitor.scanner = .waiting deadline →
    t₀ + x.monitor.scan.idle.nanos + x.monitor.poll.nanos ≤ deadline
  alive : x.monitor.scanning = true → x.monitor.reader ≠ .ended ∧ x.monitor.readerOpen = true
  awake : ∀ wakeAt, x.monitor.reader = .sleeping wakeAt → wakeAt ≤ now + x.monitor.readerSleep.nanos

/-- A reader that sleeps longer than from `t` on has brought the lines. -/
def Covers (x : Watching) (t : Instant) (lines : List String) : Prop :=
  ∀ wakeAt, x.monitor.reader = .sleeping wakeAt →
    wakeAt ≤ t + x.monitor.readerSleep.nanos ∨ lines <+: x.judged ++ x.monitor.underway

variable {r : Rules} {p : Path} {id : FileId} {x : Watching} {t₀ t now : Instant} {m : Monitor}
  {lines : List String}

theorem Timely.start {action : HaltAction} {d : Disk} {c : Cursor} (ha : action = .returns)
    (hp : 0 < r.pollInterval.nanos) (now : Instant) :
    Timely r now now { disk := d, monitor := Monitor.start action r c now } := by
  refine ⟨le_rfl, rfl, hp, ha, .inl (Monitor.calm_start ..), by simp [Monitor.start], fun deadline hw => ?_,
    by simp [Monitor.start], by simp [Monitor.start]⟩
  cases hw
  exact le_rfl

theorem Timely.later (h : x.Timely r t₀ now) (hle : now ≤ t) : x.Timely r t₀ t :=
  ⟨h.since.trans hle, h.interval, h.poll, h.action, h.verdict, fun hl => h.intact (hle.trans hl), h.patient,
    h.alive, fun w hw => (h.awake w hw).trans (Nat.add_le_add_right hle _)⟩

theorem Timely.reader (h : x.Timely r t₀ now) (hx : x.Accounted r p id)
    (hsight : ∀ e, x.disk.find p = .error e → e = .notFound) (hm : x.monitor.ReaderMove x.disk now m) :
    Timely r t₀ now { x with monitor := m } := by
  obtain ⟨⟨old, read, unread, hf⟩, -⟩ := hx
  have hverdict := hm.develops.calm_or_condemned h.verdict
  have hended (hs : x.monitor.scanning = true) : m.reader ≠ .ended := by
    intro hr
    obtain ⟨e, he⟩ := hm.ended hr hs
    exact hf.follows.next_ne_failed hsight e he
  have hawake (wakeAt : Instant) (hw : m.reader = .sleeping wakeAt) :
      wakeAt = now + x.monitor.readerSleep.nanos := by
    rw [(hm.sleeping hw).1] at hw
    exact (Monitor.look_sleeping hw).1
  obtain ⟨_, _, _, _, rfl⟩ := hm.frame
  exact ⟨h.since, h.interval, h.poll, h.action, hverdict, h.intact, h.patient,
    fun hs => ⟨hended hs, (h.alive hs).2⟩, fun wakeAt hw => (hawake wakeAt hw).le⟩

theorem Timely.scanner (h : x.Timely r t₀ now) (judged : List String)
    (hm : x.monitor.ScannerMove now m) : Timely r t₀ now { x with monitor := m, judged } := by
  have hverdict := (hm.develops h.action).calm_or_condemned h.verdict
  have ⟨hreader, hopen⟩ := h.alive hm.waiting
  have hsince := h.since
  suffices hkept : (now ≤ t₀ + Duration.largest.nanos → m.scanner ≠ .failed) ∧ m.readerOpen = true ∧
      ∀ deadline, m.scanner = .waiting deadline → t₀ + m.scan.idle.nanos + m.poll.nanos ≤ deadline by
    obtain ⟨hintact, hopen', hpatient⟩ := hkept
    obtain ⟨_, _, _, _, _, _, _, rfl⟩ := hm.frame
    exact ⟨h.since, h.interval, h.poll, h.action, hverdict, hintact, hpatient,
      fun _ => ⟨hreader, hopen'⟩, h.awake⟩
  cases hm with
  | @takes _ line rest notes hs ho hq =>
    obtain ⟨window, hscan⟩ := x.monitor.scan.onLine_fst line
    have hsum : t₀ + (x.monitor.scan.onLine line).1.idle.nanos ≤ now := by
      rw [hscan]
      exact hsince
    obtain ⟨hintact, hopen', hpatient⟩ := Monitor.judge_on_time
      (m := { x.monitor with queue := rest, scan := (x.monitor.scan.onLine line).1, notes })
      h.action hsum (x.monitor.scan.onLine line).2
    exact ⟨fun _ => hintact, hopen'.trans hopen, hpatient⟩
  | @idles _ scan verdict hs hq hi hd =>
    have hidle := h.patient _ hs
    have hsum : t₀ + scan.idle.nanos ≤ now := by
      rw [Scan.onIdle_idle hi]
      lia
    obtain ⟨hintact, hopen', hpatient⟩ :=
      Monitor.judge_on_time (m := { x.monitor with scan }) h.action hsum verdict
    exact ⟨fun _ => hintact, hopen'.trans hopen, hpatient⟩
  | overflows hs hq hi hd =>
    -- the silence with the interval that is over is no longer than the watch
    have hidle := h.patient _ hs
    refine ⟨fun hl => ?_, hopen, by simp⟩
    have hsum : x.monitor.scan.idle.nanos + x.monitor.poll.nanos ≤ Duration.largest.nanos := by lia
    rw [Scan.onIdle_eq_none, Duration.add?, if_pos hsum] at hi
    cases hi
  | notices hs ho hq hr => exact absurd hr hreader

theorem Covers.reader {old read unread : Bytes} (hx : x.Flows p id old read unread)
    (hl : lines <+: completeLines x.written) (hm : x.monitor.ReaderMove x.disk now m) :
    Covers { x with monitor := m } t lines := by
  intro wakeAt hw
  obtain ⟨hlook, hread, -⟩ := hm.sleeping hw
  have hu : m.underway = x.monitor.underway ++ x.monitor.found x.disk := by
    rw [hlook, Monitor.look_underway, Monitor.underway, Monitor.held, hread, List.append_nil]
  rw [hlook] at hw
  obtain ⟨-, hnext⟩ := Monitor.look_sleeping hw
  have hfound : x.monitor.found x.disk = [] := by
    unfold Monitor.found
    rcases hnext with hnext | hnext <;> simp [hnext, Cursor.Reading.line?]
  -- it has found nothing, so all that was written is judged or on its way
  have hnone : splitLine unread = none := by
    cases hs : splitLine unread with
    | none => rfl
    | some y =>
      obtain ⟨text, hline, -, -⟩ := hx.follows.next_line hs
      simp [hline] at hnext
  obtain ⟨-, hlines, -⟩ := hx.follows.next_none hnone
  have hall : x.judged ++ m.underway = completeLines x.written := by
    rw [hu, hfound, List.append_nil, hx.whole (by simp [hread]), hx.written, hlines]
  exact .inr (hall ▸ hl)

theorem Covers.scanner (h : x.Covers t lines) (hm : x.monitor.ScannerMove now m) :
    Covers { x with monitor := m, judged := x.judged ++ x.monitor.due } t lines := by
  have hu := hm.underway_eq
  obtain ⟨_, _, _, _, _, _, _, rfl⟩ := hm.frame
  intro wakeAt hw
  rcases h wakeAt hw with hle | hpre
  · exact .inl hle
  · rw [hu, ← List.append_assoc] at hpre
    exact .inr hpre

def OnTime (r : Rules) (p : Path) (id : FileId) (t₀ : Instant) (x : Watching) (now : Instant)
    (m : Monitor) : Prop :=
  ∃ judged, Reached r p id { x with monitor := m, judged } ∧
    Timely r t₀ now { x with monitor := m, judged } ∧
    ∀ t lines, lines <+: completeLines x.written → x.Covers t lines →
      Covers { x with monitor := m, judged } t lines

theorem OnTime.step {m' : Monitor} (hsight : ∀ e, x.disk.find p = .error e → e = .notFound)
    (h : x.OnTime r p id t₀ now m) (hs : m.step? x.disk now = some m') : x.OnTime r p id t₀ now m' := by
  obtain ⟨judged, hr, ht, hc⟩ := h
  rcases Monitor.step?_cases hs with hread | hscan
  · have hmove := Monitor.readerStep?_move hread
    have hacc := hr.accounted
    obtain ⟨old, read, unread, hf⟩ := hacc.1
    exact ⟨judged, hr.step (.read now hread), ht.reader hacc hsight hmove,
      fun t lines hl _ => Covers.reader hf hl hmove⟩
  · have hmove := Monitor.scannerStep?_move hscan
    exact ⟨_, hr.step (.judge now hscan), ht.scanner _ hmove,
      fun t lines hl hx => (hc t lines hl hx).scanner hmove⟩

/-- After time was let pass, a scanner that still goes on has judged all that was read, and the reader sleeps
beyond that time. -/
theorem Reached.pass {target : Instant} (h : Reached r p id x) (ht : x.Timely r t₀ now)
    (hsight : ∀ e, x.disk.find p = .error e → e = .notFound) (hlt : now < target) :
    x.OnTime r p id t₀ target (x.monitor.pass x.disk now target) ∧
      ((x.monitor.pass x.disk now target).scanning = true →
        (x.monitor.pass x.disk now target).underway = [] ∧
          ∃ wakeAt, (x.monitor.pass x.disk now target).reader = .sleeping wakeAt ∧ target ≤ wakeAt) := by
  obtain ⟨hp, ⟨t, hquiet⟩, htimer⟩ := Monitor.pass_keeps (P := x.OnTime r p id t₀) (d := x.disk)
    (fun _ _ ⟨_, _, ht, _⟩ => ht.poll) (fun _ _ _ => OnTime.step hsight)
    (fun _ _ _ ⟨judged, hr, ht, hc⟩ _ hle _ => ⟨judged, hr, ht.later hle, hc⟩)
    ⟨x.judged, h, ht, fun _ _ _ hx => hx⟩ hlt
  refine ⟨hp, fun hs => ?_⟩
  obtain ⟨judged, -, ht', -⟩ := hp
  obtain ⟨hreader, hopen⟩ := ht'.alive hs
  obtain ⟨hunder, wakeAt, hw⟩ := Monitor.asleep_of_quiet hquiet hs hopen hreader
  obtain ⟨s, htime, hle⟩ := Monitor.nextTimer_le hw
  exact ⟨hunder, wakeAt, hw, (htimer s htime).trans hle⟩

end Watching
end Foreman.Watch
