import Foreman.Proofs.Log.Following
import Foreman.Watch.Monitor
import Mathlib.Tactic.SplitIfs

/-! What one step of the reader or of the scanner does to a monitor. The reader moves lines from the file
into the queue, and the scanner takes them out of it; neither changes what belongs to the other. -/

namespace Foreman.Watch

def Verdict.message? : Verdict → Option String
  | .goOn => none
  | .crashed message | .hung message => some message

namespace Monitor
variable {m m' : Monitor} {d : Disk} {now : Instant}

def held (m : Monitor) : List String :=
  match m.reader with
  | .blocked line => [line]
  | _ => []

def underway (m : Monitor) : List String := m.queue ++ m.held

def due (m : Monitor) : List String :=
  match m.scanner, m.readerOpen, m.queue with
  | .waiting _, true, line :: _ => [line]
  | _, _, _ => []

def found (m : Monitor) (d : Disk) : List String := (m.cursor.next d).1.line?.toList

theorem offer_underway (line : String) : (m.offer line).underway = m.queue ++ [line] := by
  unfold offer
  split_ifs <;> simp [underway, held]

theorem offer_queue_le (line : String) (h : m.queue.length ≤ capacity) :
    (m.offer line).queue.length ≤ capacity := by
  unfold offer
  split_ifs with hq
  · rw [List.length_append, List.length_singleton]
    exact hq
  · exact h

inductive ReaderMove (m : Monitor) (d : Disk) (now : Instant) : Monitor → Prop
  | wakes {wakeAt} (hr : m.reader = .sleeping wakeAt) (hw : wakeAt ≤ now) :
    ReaderMove m d now { m with reader := .reading }
  | puts {line} (hr : m.reader = .blocked line) (hs : m.scanning = true)
    (hq : m.queue.length < capacity) : ReaderMove m d now (m.offer line)
  | looks (hr : m.reader = .reading) (hs : m.scanning = true) : ReaderMove m d now (m.look d now)
  | ends (hr : m.reader ≠ .ended) (hs : m.scanning = false)
    (hw : ∀ wakeAt, m.reader ≠ .sleeping wakeAt) : ReaderMove m d now m.endReader

theorem readerStep?_move (h : m.readerStep? d now = some m') : m.ReaderMove d now m' := by
  unfold readerStep? at h
  cases hr : m.reader with
  | reading =>
    simp only [hr, Option.some.injEq] at h
    subst h
    split_ifs with hs
    · exact .looks hr hs
    · exact .ends (by simp [hr]) (by simpa using hs) (by simp [hr])
  | blocked line =>
    simp only [hr] at h
    split_ifs at h with hs hq
    · cases h
      exact .ends (by simp [hr]) (by simpa using hs) (by simp [hr])
    · cases h
      exact .puts hr (by simpa using hs) hq
  | sleeping wakeAt =>
    simp only [hr] at h
    split_ifs at h with hw
    cases h
    exact .wakes hr hw
  | ended => simp [hr] at h

theorem takeLine_eq (m : Monitor) (now : Instant) (line : String) (rest : List String) :
    ∃ notes, m.takeLine now line rest = Monitor.judge
      { m with queue := rest, scan := (m.scan.onLine line).1, notes } now (m.scan.onLine line).2 := by
  unfold takeLine
  cases m.scan.onLine line with
  | mk scan verdict =>
    simp only
    split_ifs
    · exact ⟨_, rfl⟩
    · exact ⟨_, rfl⟩

inductive ScannerMove (m : Monitor) (now : Instant) : Monitor → Prop
  | takes {deadline line rest notes} (hs : m.scanner = .waiting deadline) (ho : m.readerOpen = true)
    (hq : m.queue = line :: rest) : ScannerMove m now (Monitor.judge
      { m with queue := rest, scan := (m.scan.onLine line).1, notes } now (m.scan.onLine line).2)
  | idles {deadline scan verdict} (hs : m.scanner = .waiting deadline)
    (hq : m.readerOpen = true → m.queue = []) (hi : m.scan.onIdle m.poll = some (scan, verdict))
    (hd : deadline ≤ now) : ScannerMove m now (Monitor.judge { m with scan } now verdict)
  | overflows {deadline} (hs : m.scanner = .waiting deadline)
    (hq : m.readerOpen = true → m.queue = []) (hi : m.scan.onIdle m.poll = none)
    (hd : deadline ≤ now) : ScannerMove m now { m with scanner := .failed }
  | notices {deadline} (hs : m.scanner = .waiting deadline) (ho : m.readerOpen = true)
    (hq : m.queue = []) (hr : m.reader = .ended) : ScannerMove m now
      ({ m with readerOpen := false, scanner := .waiting (now + m.poll.nanos) }.note .readerLost)

theorem passInterval_move {deadline : Instant} (hs : m.scanner = .waiting deadline)
    (hq : m.readerOpen = true → m.queue = []) (hd : deadline ≤ now) :
    m.ScannerMove now (m.passInterval now) := by
  unfold passInterval
  cases hi : m.scan.onIdle m.poll with
  | none => exact .overflows hs hq hi hd
  | some x => exact .idles hs hq hi hd

theorem scannerStep?_move (h : m.scannerStep? now = some m') : m.ScannerMove now m' := by
  unfold scannerStep? at h
  cases hs : m.scanner with
  | waiting deadline =>
    simp only [hs] at h
    cases ho : m.readerOpen with
    | true =>
      cases hq : m.queue with
      | cons line rest =>
        obtain ⟨notes, htake⟩ := m.takeLine_eq now line rest
        simp only [ho, hq, Option.some.injEq] at h
        rw [← h, htake]
        exact .takes hs ho hq
      | nil =>
        simp only [ho, hq] at h
        split_ifs at h with hr hd
        · have hm : m.ScannerMove now _ := .notices hs ho hq hr
          rw [hq] at hm
          cases h
          exact hm
        · cases h
          exact passInterval_move hs (fun _ => hq) hd
    | false =>
      simp only [ho] at h
      split_ifs at h with hd
      cases h
      exact passInterval_move hs (by simp [ho]) hd
  | reported r => simp [hs] at h
  | failed => simp [hs] at h

theorem ScannerMove.waiting (h : m.ScannerMove now m') : m.scanning = true := by
  cases h with
  | takes hs => simp [scanning, hs]
  | idles hs => simp [scanning, hs]
  | overflows hs => simp [scanning, hs]
  | notices hs => simp [scanning, hs]

theorem judge_frame (m : Monitor) (now : Instant) (verdict : Verdict) :
    ∃ scanner halted halts notes,
      m.judge now verdict = { m with scanner, halted, halts, notes } := by
  unfold judge
  cases verdict with
  | goOn => exact ⟨_, _, _, _, rfl⟩
  | crashed message => cases m.haltAction <;> exact ⟨_, _, _, _, rfl⟩
  | hung message => cases m.haltAction <;> exact ⟨_, _, _, _, rfl⟩

theorem judge_returns (now : Instant) {verdict : Verdict} {message : String} (ha : m.haltAction = .returns)
    (hv : verdict.message? = some message) : ∃ notes, m.judge now verdict =
      { m with
        halted := true
        halts := m.halts ++ [message]
        scanner := .reported (m.scan.report verdict)
        notes } := by
  unfold judge
  cases verdict with
  | goOn => cases hv
  | crashed reason =>
    cases hv
    exact ⟨_, by rw [note, ha]⟩
  | hung reason =>
    cases hv
    exact ⟨_, by rw [note, ha]⟩

theorem judge_breaks (now : Instant) {verdict : Verdict} {message : String} (ha : m.haltAction = .breaks)
    (hv : verdict.message? = some message) :
    ∃ notes, m.judge now verdict = { m with halted := true, scanner := .failed, notes } := by
  unfold judge
  cases verdict with
  | goOn => cases hv
  | crashed reason => exact ⟨_, by rw [note, ha]⟩
  | hung reason => exact ⟨_, by rw [note, ha]⟩

theorem judge_cases (m : Monitor) (now : Instant) (verdict : Verdict) :
    (verdict = .goOn ∧ m.judge now verdict = { m with scanner := .waiting (now + m.poll.nanos) }) ∨
    (∃ message notes, m.haltAction = .returns ∧ m.judge now verdict =
      { m with
        halted := true
        halts := m.halts ++ [message]
        scanner := .reported (m.scan.report verdict)
        notes }) ∨
    ∃ notes, m.haltAction = .breaks ∧
      m.judge now verdict = { m with halted := true, scanner := .failed, notes } := by
  cases hv : verdict.message? with
  | none =>
    cases verdict with
    | goOn => exact .inl ⟨rfl, rfl⟩
    | crashed message => cases hv
    | hung message => cases hv
  | some message =>
    cases ha : m.haltAction with
    | returns =>
      obtain ⟨notes, hj⟩ := judge_returns now ha hv
      exact .inr (.inl ⟨message, notes, rfl, by rw [hj, ha]⟩)
    | breaks =>
      obtain ⟨notes, hj⟩ := judge_breaks now ha hv
      exact .inr (.inr ⟨notes, rfl, by rw [hj, ha]⟩)

theorem ScannerMove.frame (h : m.ScannerMove now m') :
    ∃ queue scan scanner readerOpen halted halts notes,
      m' = { m with queue, scan, scanner, readerOpen, halted, halts, notes } := by
  cases h with
  | takes =>
    obtain ⟨_, _, _, _, hj⟩ := judge_frame _ now _
    exact ⟨_, _, _, _, _, _, _, hj⟩
  | idles =>
    obtain ⟨_, _, _, _, hj⟩ := judge_frame _ now _
    exact ⟨_, _, _, _, _, _, _, hj⟩
  | overflows => exact ⟨_, _, _, _, _, _, _, rfl⟩
  | notices => exact ⟨_, _, _, _, _, _, _, rfl⟩

theorem ScannerMove.queue_eq (h : m.ScannerMove now m') : m.queue = m.due ++ m'.queue := by
  cases h with
  | takes hs ho hq =>
    obtain ⟨_, _, _, _, hj⟩ := judge_frame _ now _
    rw [hj]
    simp [due, hs, ho, hq]
  | idles hs hq hi =>
    obtain ⟨_, _, _, _, hj⟩ := judge_frame _ now _
    rw [hj]
    cases ho : m.readerOpen with
    | true => simp [due, hs, ho, hq ho]
    | false => simp [due, hs, ho]
  | overflows hs hq hi =>
    cases ho : m.readerOpen with
    | true => simp [due, hs, ho, hq ho]
    | false => simp [due, hs, ho]
  | notices hs ho hq hr => simp [due, hs, ho, hq, note]

theorem ScannerMove.underway_eq (h : m.ScannerMove now m') :
    m.underway = m.due ++ m'.underway := by
  have hq := h.queue_eq
  obtain ⟨_, _, _, _, _, _, _, rfl⟩ := h.frame
  rw [underway, hq, List.append_assoc]
  rfl

theorem ReaderMove.frame (h : m.ReaderMove d now m') :
    ∃ cursor reader queue notes, m' = { m with cursor, reader, queue, notes } := by
  cases h with
  | wakes => exact ⟨_, _, _, _, rfl⟩
  | puts hr hs hq =>
    rw [offer, if_pos hq]
    exact ⟨_, _, _, _, rfl⟩
  | looks hr hs =>
    unfold look
    cases m.cursor.next d with
    | mk reading cursor =>
      cases reading with
      | line text =>
        simp only [offer]
        split_ifs
        · exact ⟨_, _, _, _, rfl⟩
        · exact ⟨_, _, _, _, rfl⟩
      | pending => exact ⟨_, _, _, _, rfl⟩
      | restarted => exact ⟨_, _, _, _, rfl⟩
      | failed cause => exact ⟨_, _, _, _, rfl⟩
  | ends => exact ⟨_, _, _, _, rfl⟩

theorem look_cursor (m : Monitor) (d : Disk) (now : Instant) :
    (m.look d now).cursor = (m.cursor.next d).2 := by
  unfold look
  cases m.cursor.next d with
  | mk reading cursor =>
    cases reading with
    | line text =>
      simp only [offer]
      split_ifs <;> rfl
    | pending => rfl
    | restarted => rfl
    | failed cause => rfl

theorem look_underway (m : Monitor) (d : Disk) (now : Instant) :
    (m.look d now).underway = m.queue ++ m.found d := by
  unfold look found
  cases m.cursor.next d with
  | mk reading cursor =>
    cases reading with
    | line text => exact offer_underway text
    | pending => rfl
    | restarted => rfl
    | failed cause => rfl

theorem look_queue_le (h : m.queue.length ≤ capacity) :
    (m.look d now).queue.length ≤ capacity := by
  unfold look
  cases m.cursor.next d with
  | mk reading cursor =>
    cases reading with
    | line text => exact offer_queue_le text h
    | pending => exact h
    | restarted => exact h
    | failed cause => exact h

theorem ReaderMove.queue_le (h : m.ReaderMove d now m') (hq : m.queue.length ≤ capacity) :
    m'.queue.length ≤ capacity := by
  cases h with
  | wakes => exact hq
  | puts => exact offer_queue_le _ hq
  | looks => exact look_queue_le hq
  | ends => exact hq

/-- A line is only added behind the others, by a look at the file, and only a reader that ends drops one. -/
theorem ReaderMove.lines (h : m.ReaderMove d now m') :
    (m'.cursor = m.cursor ∧ m'.underway = m.underway) ∨
      (m'.cursor = m.cursor ∧ m'.underway <+: m.underway ∧ m'.reader = .ended) ∨
      (m'.cursor = (m.cursor.next d).2 ∧ m'.underway = m.underway ++ m.found d) := by
  cases h with
  | wakes hr hw => exact .inl ⟨rfl, by simp [underway, held, hr]⟩
  | puts hr hs hq =>
    refine .inl ⟨?_, by rw [offer_underway, underway, held, hr]⟩
    rw [offer, if_pos hq]
  | looks hr hs =>
    have hu : m.underway = m.queue := by simp [underway, held, hr]
    exact .inr (.inr ⟨look_cursor m d now, by rw [look_underway, hu]⟩)
  | ends hr hs =>
    refine .inr (.inl ⟨rfl, ?_, rfl⟩)
    have hu : m.endReader.underway = m.queue := List.append_nil _
    rw [hu]
    exact List.prefix_append _ _

theorem ReaderMove.reader_ne_ended (h : m.ReaderMove d now m') : m.reader ≠ .ended := by
  cases h with
  | wakes hr hw => simp [hr]
  | puts hr hs => simp [hr]
  | looks hr hs => simp [hr]
  | ends hr hs => exact hr

inductive Runs (d : Disk) : Monitor → Monitor → Prop
  | rest {m : Monitor} : Runs d m m
  | read {m m' m'' : Monitor} {now : Instant} (h : m.readerStep? d now = some m')
    (hr : Runs d m' m'') : Runs d m m''
  | scan {m m' m'' : Monitor} {now : Instant} (h : m.scannerStep? now = some m')
    (hr : Runs d m' m'') : Runs d m m''

theorem Runs.trans {m'' : Monitor} (h : Runs d m m') (h' : Runs d m' m'') : Runs d m m'' := by
  induction h with
  | rest => exact h'
  | read hs _ ih => exact .read hs (ih h')
  | scan hs _ ih => exact .scan hs (ih h')

theorem settleWithin_runs (d : Disk) (now : Instant) (n : Nat) (m : Monitor) :
    Runs d m (settleWithin d now n m) := by
  induction n generalizing m with
  | zero => exact .rest
  | succ n ih =>
    rw [settleWithin, step?]
    cases hr : m.readerStep? d now with
    | some m' => exact .read hr (ih m')
    | none =>
      cases hs : m.scannerStep? now with
      | some m' => exact .scan hs (ih m')
      | none => exact .rest

theorem settle_runs (d : Disk) (now : Instant) (m : Monitor) : Runs d m (m.settle d now) :=
  settleWithin_runs d now _ m

theorem passWithin_runs (d : Disk) (target : Instant) (n : Nat) (now : Instant) (m : Monitor) :
    Runs d m (passWithin d target n now m) := by
  induction n generalizing now m with
  | zero => exact .rest
  | succ n ih =>
    have hs := settle_runs d now m
    rw [passWithin]
    split
    · exact hs
    · split_ifs
      · exact hs.trans (ih _ _)
      · exact hs

theorem pass_runs (d : Disk) (now target : Instant) (m : Monitor) :
    Runs d m (m.pass d now target) := by
  unfold pass
  split_ifs
  · exact passWithin_runs d target _ now m
  · exact .rest

end Monitor
end Foreman.Watch
