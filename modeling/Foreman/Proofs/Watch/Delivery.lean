import Foreman.Proofs.Watch.Calls
import Foreman.Proofs.Watch.Signals
import Foreman.Proofs.Watch.Tasks

/-! One watch over a log that only grows. Whatever the order in which the writer, the reader, the
scanner and a request to stop take their steps, the scanner judges the complete lines that were written
since the start, each once and in order, and its report is true of them. -/

namespace Foreman.Watch

/-- A watch, with what has been written to the log since its start and the lines judged so far. -/
structure Watching where
  disk : Disk
  monitor : Monitor
  written : Bytes := []
  judged : List String := []

namespace Watching

inductive Step (p : Path) (id : FileId) : Watching → Watching → Prop
  | write {x d chunk} (h : x.disk.Grows p id chunk d) :
    Step p id x { x with disk := d, written := x.written ++ chunk }
  | read {x m} (now : Instant) (h : x.monitor.readerStep? x.disk now = some m) :
    Step p id x { x with monitor := m }
  | judge {x m} (now : Instant) (h : x.monitor.scannerStep? now = some m) :
    Step p id x { x with monitor := m, judged := x.judged ++ x.monitor.due }
  | ask {x} (h : x.monitor.scanning = true) :
    Step p id x { x with monitor := { x.monitor with scanner := .reported (x.monitor.scan.report .goOn) } }

inductive Reached (r : Rules) (p : Path) (id : FileId) : Watching → Prop
  | start {w w' : Watchdog} {d now d' m} (h : w.start r p d now = (none, d', w'))
    (hm : w'.monitor = some m) (hfile : m.cursor.source = .file id) :
    Reached r p id { disk := d', monitor := m }
  | step {x y} (h : Reached r p id x) (hs : Step p id x y) : Reached r p id y

/-- The lines between the file and the scanner: what has been read is judged or on its way, in order. -/
structure Flows (p : Path) (id : FileId) (x : Watching) (old read unread : Bytes) : Prop where
  follows : x.monitor.cursor.Follows x.disk p id old read unread
  written : x.written = read ++ unread
  order : x.judged ++ x.monitor.underway <+: completeLines read
  whole : x.monitor.reader ≠ .ended → x.judged ++ x.monitor.underway = completeLines read
  room : x.monitor.queue.length ≤ Monitor.capacity

/-- The scanner went down, with its halt action or because the silence grew beyond every duration. -/
def Broken (m : Monitor) : Prop :=
  m.scanner = .failed ∧ (m.haltAction = .breaks ∨ m.scan.idle.add? m.poll = none)

structure Judges (r : Rules) (x : Watching) : Prop where
  seen : x.monitor.scan.linesSeen = x.judged.length
  signatures : x.monitor.scan.signatures = (Scan.start r).signatures
  waiting : x.monitor.scanning = true → ∀ line ∈ x.judged, ¬ r.Signals line
  reported : ∀ report, x.monitor.scanner = .reported report → report.Sound r x.judged
  failed : x.monitor.scanner = .failed → Broken x.monitor

variable {r : Rules} {p : Path} {id : FileId} {x y : Watching}

namespace Flows
variable {old read unread : Bytes}

theorem of_whole (hc : x.monitor.cursor.Follows x.disk p id old read unread)
    (hw : x.written = read ++ unread)
    (hl : x.judged ++ x.monitor.underway = completeLines read)
    (hq : x.monitor.queue.length ≤ Monitor.capacity) : x.Flows p id old read unread :=
  ⟨hc, hw, hl ▸ List.prefix_rfl, fun _ => hl, hq⟩

theorem grows {d : Disk} {chunk : Bytes} (h : x.Flows p id old read unread)
    (hg : x.disk.Grows p id chunk d) :
    Flows p id { x with disk := d, written := x.written ++ chunk } old read (unread ++ chunk) :=
  ⟨h.follows.grows hg, by rw [h.written, List.append_assoc], h.order, h.whole, h.room⟩

theorem found (h : x.Flows p id old read unread) (hr : x.monitor.reader ≠ .ended) :
    ∃ read' unread', x.written = read' ++ unread' ∧
      (x.monitor.cursor.next x.disk).2.Follows x.disk p id old read' unread' ∧
      x.judged ++ (x.monitor.underway ++ x.monitor.found x.disk) = completeLines read' := by
  obtain ⟨read', unread', hw, hc, hlines⟩ := h.follows.next
  refine ⟨read', unread', h.written.trans hw, hc, ?_⟩
  rw [← List.append_assoc, h.whole hr, hlines]
  rfl

theorem reader {m : Monitor} {now : Instant} (h : x.Flows p id old read unread)
    (hm : x.monitor.ReaderMove x.disk now m) :
    ∃ read' unread', Flows p id { x with monitor := m } old read' unread' := by
  have hroom := hm.queue_le h.room
  have hr := hm.reader_ne_ended
  -- it moves no line, or ends and drops one, or has found one
  rcases hm.lines with ⟨hc, hu⟩ | ⟨hc, hu, he⟩ | ⟨hc, hu⟩
  · have hl := h.whole hr
    rw [← hu] at hl
    exact ⟨read, unread, of_whole (by simpa only [hc] using h.follows) h.written hl hroom⟩
  · refine ⟨read, unread, by simpa only [hc] using h.follows, h.written, ?_, fun hne => absurd he hne,
      hroom⟩
    exact ((List.prefix_append_right_inj _).2 hu).trans h.order
  · obtain ⟨read', unread', hw, hf, hl⟩ := h.found hr
    rw [← hu] at hl
    exact ⟨read', unread', of_whole (by simpa only [hc] using hf) hw hl hroom⟩

theorem scanner {m : Monitor} {now : Instant} (h : x.Flows p id old read unread)
    (hm : x.monitor.ScannerMove now m) :
    Flows p id { x with monitor := m, judged := x.judged ++ x.monitor.due } old read unread := by
  have hu := hm.underway_eq
  have hq := hm.queue_eq
  obtain ⟨_, _, _, _, _, _, _, rfl⟩ := hm.frame
  refine ⟨h.follows, h.written, ?_, fun hr => ?_, ?_⟩
  · rw [List.append_assoc, ← hu]
    exact h.order
  · rw [List.append_assoc, ← hu]
    exact h.whole hr
  · have hroom := h.room
    rw [hq, List.length_append] at hroom
    exact (Nat.le_add_left _ _).trans hroom

end Flows
namespace Judges

theorem reader {m : Monitor} {now : Instant} (h : x.Judges r)
    (hm : x.monitor.ReaderMove x.disk now m) : Judges r { x with monitor := m } := by
  obtain ⟨_, _, _, _, rfl⟩ := hm.frame
  exact ⟨h.seen, h.signatures, h.waiting, h.reported, h.failed⟩

theorem of_judge {d : Disk} {m : Monitor} {now : Instant} {written : Bytes} {judged : List String}
    {verdict : Verdict} (hseen : m.scan.linesSeen = judged.length)
    (hsig : m.scan.signatures = (Scan.start r).signatures)
    (hgo : verdict = .goOn → ∀ line ∈ judged, ¬ r.Signals line)
    (hrep : ∀ message, verdict.message? = some message →
      (m.scan.report verdict).Sound r judged) :
    Judges r ⟨d, m.judge now verdict, written, judged⟩ := by
  cases hv : verdict.message? with
  | none =>
    cases verdict with
    | goOn => exact ⟨hseen, hsig, fun _ => hgo rfl, by simp [Monitor.judge], by simp [Monitor.judge]⟩
    | crashed message => cases hv
    | hung message => cases hv
  | some message =>
    cases ha : m.haltAction with
    | returns =>
      obtain ⟨notes, hj⟩ := Monitor.judge_returns now ha hv
      rw [hj]
      refine ⟨hseen, hsig, by simp [Monitor.scanning], fun report hr => ?_, by simp⟩
      cases hr
      exact hrep message hv
    | breaks =>
      obtain ⟨notes, hj⟩ := Monitor.judge_breaks now ha hv
      rw [hj]
      exact ⟨hseen, hsig, by simp [Monitor.scanning], by simp, fun _ => ⟨rfl, .inl ha⟩⟩

theorem takes {d : Disk} {m : Monitor} {now : Instant} {written : Bytes} {judged : List String}
    {line : String} {rest : List String} {notes : List Note} (hseen : m.scan.linesSeen = judged.length)
    (hsig : m.scan.signatures = (Scan.start r).signatures)
    (hclean : ∀ l ∈ judged, ¬ r.Signals l) :
    Judges r ⟨d, Monitor.judge { m with queue := rest, scan := (m.scan.onLine line).1, notes } now
      (m.scan.onLine line).2, written, judged ++ [line]⟩ := by
  obtain ⟨window, hscan⟩ := m.scan.onLine_fst line
  have hcount : (m.scan.onLine line).1.linesSeen = (judged ++ [line]).length := by
    rw [hscan, List.length_append, ← hseen]
    rfl
  refine of_judge hcount (by rw [hscan]; exact hsig) (fun hv l hl => ?_) fun message hv => ?_
  · rcases List.mem_append.1 hl with hl | hl
    · exact hclean l hl
    · obtain rfl := List.mem_singleton.1 hl
      refine Scan.not_signals_of_signatureIn hsig ?_
      rw [Scan.onLine_snd] at hv
      cases hs : m.scan.signatureIn l with
      | none => rfl
      | some signature => simp [hs] at hv
  · cases hs : m.scan.signatureIn line with
    | none => simp [Scan.onLine_snd, hs, Verdict.message?] at hv
    | some signature =>
      have hsound := Report.Sound.crashed rfl hclean (Scan.firstSignal_of_signatureIn hsig hs)
      rw [← hcount] at hsound
      simpa only [Scan.onLine_snd, hs, Scan.report] using hsound

theorem idles {d : Disk} {m : Monitor} {now : Instant} {written : Bytes} {judged : List String}
    {scan : Scan} {verdict : Verdict} (hseen : m.scan.linesSeen = judged.length)
    (hsig : m.scan.signatures = (Scan.start r).signatures)
    (hclean : ∀ l ∈ judged, ¬ r.Signals l) (hi : m.scan.onIdle m.poll = some (scan, verdict)) :
    Judges r ⟨d, Monitor.judge { m with scan } now verdict, written, judged⟩ := by
  obtain ⟨hn, hs, hv⟩ := Scan.onIdle_eq_some hi
  refine of_judge (hn.trans hseen) (hs.trans hsig) (fun _ => hclean) fun message hm => ?_
  rcases hv with rfl | ⟨idle, rfl⟩
  · cases hm
  · have hsound : Report.Sound r judged ⟨.hung, some (Scan.hangMessage idle), judged.length⟩ :=
      .hung hclean
    rw [← hseen, ← hn] at hsound
    exact hsound

theorem scanner {m : Monitor} {now : Instant} (h : x.Judges r) (hm : x.monitor.ScannerMove now m) :
    Judges r { x with monitor := m, judged := x.judged ++ x.monitor.due } := by
  have hclean {deadline : Instant} (hs : x.monitor.scanner = .waiting deadline) :
      ∀ line ∈ x.judged, ¬ r.Signals line := h.waiting (by simp [Monitor.scanning, hs])
  have hnone (hq : x.monitor.readerOpen = true → x.monitor.queue = []) : x.monitor.due = [] := by
    unfold Monitor.due
    split
    · rename_i ho hc
      simp [hq ho] at hc
    · rfl
  cases hm with
  | @takes deadline line rest notes hs ho hq =>
    have hd : x.monitor.due = [line] := by
      rw [Monitor.due, hs, ho, hq]
    rw [hd]
    exact takes h.seen h.signatures (hclean hs)
  | idles hs hq hi =>
    rw [hnone hq, List.append_nil]
    exact idles h.seen h.signatures (hclean hs) hi
  | overflows hs hq hi =>
    rw [hnone hq, List.append_nil]
    exact ⟨h.seen, h.signatures, by simp [Monitor.scanning], by simp,
      fun _ => ⟨rfl, .inr (Scan.onIdle_eq_none.1 hi)⟩⟩
  | notices hs ho hq hr =>
    rw [hnone fun _ => hq, List.append_nil]
    exact ⟨h.seen, h.signatures, fun _ => hclean hs, by simp [Monitor.note], by simp [Monitor.note]⟩

theorem ask (h : x.Judges r) (hs : x.monitor.scanning = true) : Judges r
    { x with monitor := { x.monitor with scanner := .reported (x.monitor.scan.report .goOn) } } := by
  refine ⟨h.seen, h.signatures, by simp [Monitor.scanning], fun report hr => ?_, by simp⟩
  cases hr
  rw [Scan.report, h.seen]
  exact .ok (h.waiting hs)

theorem finalReport (h : x.Judges r) (lastWords : String) :
    (x.monitor.finalReport lastWords).Sound r x.judged ∨
      x.monitor.finalReport lastWords = ⟨.ok, some ("monitor task failed: " ++ lastWords), 0⟩ ∧
        Broken x.monitor := by
  unfold Monitor.finalReport
  cases hs : x.monitor.scanner with
  | waiting deadline =>
    have hsound := Report.Sound.ok (h.waiting (by simp [Monitor.scanning, hs]))
    rw [← h.seen] at hsound
    exact .inl hsound
  | reported report => exact .inl (h.reported report hs)
  | failed => exact .inr ⟨rfl, h.failed hs⟩

end Judges

def Accounted (r : Rules) (p : Path) (id : FileId) (x : Watching) : Prop :=
  (∃ old read unread, x.Flows p id old read unread) ∧ x.Judges r

theorem Accounted.step (h : x.Accounted r p id) (hs : Step p id x y) : y.Accounted r p id := by
  obtain ⟨⟨old, read, unread, hf⟩, hj⟩ := h
  cases hs with
  | write hg =>
    exact ⟨⟨old, read, _, hf.grows hg⟩, hj.seen, hj.signatures, hj.waiting, hj.reported, hj.failed⟩
  | read now hm =>
    have hmove := Monitor.readerStep?_move hm
    obtain ⟨read', unread', hf'⟩ := hf.reader hmove
    exact ⟨⟨old, read', unread', hf'⟩, hj.reader hmove⟩
  | judge now hm =>
    have hmove := Monitor.scannerStep?_move hm
    exact ⟨⟨old, read, unread, hf.scanner hmove⟩, hj.scanner hmove⟩
  | ask hs =>
    exact ⟨⟨old, read, unread, hf.follows, hf.written, hf.order, hf.whole, hf.room⟩, hj.ask hs⟩

namespace Reached

theorem accounted (h : Reached r p id x) : x.Accounted r p id := by
  induction h with
  | @start w w' d now d' m h hm hfile =>
    have hmove := w.start_move r p d now
    rw [h] at hmove
    cases hmove with
    | begun _ hc =>
      cases hm
      refine ⟨⟨_, [], [], .of_whole (.openAtEnd hc hfile) rfl rfl (Nat.zero_le _)⟩, rfl, rfl,
        by simp, by simp [Monitor.start], by simp [Monitor.start]⟩
  | step _ hs ih => exact ih.step hs

theorem runs {m : Monitor} (h : Reached r p id x) (hm : Monitor.Runs x.disk x.monitor m) :
    ∃ judged, Reached r p id { x with monitor := m, judged } := by
  obtain ⟨d, monitor, written, judged⟩ := x
  simp only at hm
  -- on the steps, while the lines judged grow
  induction hm generalizing judged with
  | rest => exact ⟨judged, h⟩
  | read hs _ ih => exact ih _ (h.step (.read _ hs))
  | scan hs _ ih => exact ih _ (h.step (.judge _ hs))

/-- The lines judged are the first of those written, each once and in order, and counted. At most a full
queue is on its way. A stop hands back a report that is true of them, unless the scanner broke. -/
theorem judged_in_order (h : Reached r p id x) :
    x.judged <+: completeLines x.written ∧ x.monitor.scan.linesSeen = x.judged.length ∧
      x.monitor.queue.length ≤ Monitor.capacity ∧
      ∀ (w : Watchdog) now report, w.monitor = some x.monitor →
        (w.stop x.disk now).1 = some report → report.Sound r x.judged ∨
          report = ⟨.ok, some ("monitor task failed: " ++ w.lastWords), 0⟩ ∧ Broken x.monitor := by
  obtain ⟨⟨old, read, unread, hf⟩, hj⟩ := h.accounted
  refine ⟨?_, hj.seen, hf.room, fun w now report hm hstop => ?_⟩
  · rw [hf.written]
    exact ((List.prefix_append _ _).trans hf.order).trans (completeLines_mono read unread)
  · obtain ⟨ending, notes, hw⟩ := Watchdog.stop_eq hm x.disk now
    rw [hw] at hstop
    cases hstop
    exact hj.finalReport w.lastWords

theorem boom (action : HaltAction) : ∃ m : Monitor,
    Reached { crashSignatures := ["boom"] } ⟨"log"⟩ 0
      ⟨⟨[(["log"], .file 0)], [(0, [98, 111, 111, 109, 10])], 1, []⟩, m, [98, 111, 111, 109, 10],
        ["boom"]⟩ ∧
      ∀ lastWords, m.finalReport lastWords = match action with
        | .returns => ⟨.crashed, some "engine crashed or failed (matched \"boom\")", 1⟩
        | .breaks => ⟨.ok, some ("monitor task failed: " ++ lastWords), 0⟩ := by
  have h₀ : Reached { crashSignatures := ["boom"] } ⟨"log"⟩ 0
      { disk := ⟨[(["log"], .file 0)], [(0, [])], 1, []⟩
        monitor := .start action { crashSignatures := ["boom"] } ⟨⟨"log"⟩, .file 0, 0, []⟩ 0 } :=
    .start (w := { haltAction := action }) (d := ⟨[(["log"], .file 0)], [(0, [])], 1, []⟩) rfl rfl rfl
  have hg : Disk.Grows ⟨"log"⟩ 0 [98, 111, 111, 109, 10] ⟨[(["log"], .file 0)], [(0, [])], 1, []⟩
      ⟨[(["log"], .file 0)], [(0, [98, 111, 111, 109, 10])], 1, []⟩ := Disk.grows_of_append rfl rfl
  have h₁ := (h₀.step (.write hg)).step (.read 1 rfl)
  have h₂ := h₁.step (.judge 2 rfl)
  exact ⟨_, h₂, fun _ => by cases action <;> rfl⟩

theorem judged_in_order_boom : ∃ m : Monitor,
    Reached { crashSignatures := ["boom"] } ⟨"log"⟩ 0
      ⟨⟨[(["log"], .file 0)], [(0, [98, 111, 111, 109, 10])], 1, []⟩, m, [98, 111, 111, 109, 10],
        ["boom"]⟩ ∧
      ["boom"] <+: completeLines [98, 111, 111, 109, 10] ∧
      Report.Sound { crashSignatures := ["boom"] } ["boom"]
        ⟨.crashed, some "engine crashed or failed (matched \"boom\")", 1⟩ := by
  obtain ⟨m, h, hm⟩ := boom .returns
  obtain ⟨hlines, -, -, hreport⟩ := judged_in_order h
  obtain ⟨ending, notes, hstop⟩ := Watchdog.stop_eq (w := { monitor := some m }) rfl
    ⟨[(["log"], .file 0)], [(0, [98, 111, 111, 109, 10])], 1, []⟩ 3
  refine ⟨m, h, hlines, ?_⟩
  rcases hreport _ 3 _ rfl (by rw [hstop, hm]) with hsound | ⟨hne, -⟩
  · exact hsound
  · cases hne

/-- A halt action that takes the scanner down leaves a report that says nothing of the crash. -/
theorem not_sound_of_breaks : ¬ ∀ (r : Rules) p id (x : Watching), Reached r p id x →
    ∀ (w : Watchdog) now report, w.monitor = some x.monitor →
      (w.stop x.disk now).1 = some report → report.Sound r x.judged := by
  intro hall
  obtain ⟨m, h, hm⟩ := boom .breaks
  obtain ⟨ending, notes, hstop⟩ := Watchdog.stop_eq (w := { monitor := some m }) rfl
    ⟨[(["log"], .file 0)], [(0, [98, 111, 111, 109, 10])], 1, []⟩ 3
  have hsound := hall _ _ _ _ h _ 3 _ rfl (by rw [hstop, hm])
  cases hsound

end Reached
end Watching
end Foreman.Watch
