import Foreman.Watch.Watchdog
import Mathlib.Tactic.SplitIfs

/-! What the owner's two calls do to a watchdog. A start is refused, fails on the log, or begins a watch; a
stop hands back the report of the watch that there is. -/

namespace Foreman.Watch.Watchdog

inductive StartMove (w : Watchdog) (r : Rules) (log : Path) (d : Disk) (now : Instant) :
    Option StartError × Disk × Watchdog → Prop
  | refused {m} (hm : w.monitor = some m) :
    StartMove w r log d now (some (.alreadyMonitoring m.cursor.path), d, w.note .watchRefused)
  | failed {d' cause notes} (hm : w.monitor = none) :
    StartMove w r log d now (some (.logFile log cause), d', { w with earlierNotes := notes })
  | begun {d' cursor notes} (hm : w.monitor = none) (hc : Cursor.openAtEnd d' log = .ok cursor) :
    StartMove w r log d now (none, d',
      { w with
        state := .monitoring
        monitor := some (Monitor.start w.haltAction r cursor now)
        earlierNotes := notes })

variable {w w' : Watchdog} {m : Monitor} {r : Rules} {log : Path} {d d' : Disk} {now : Instant}

theorem start_move (w : Watchdog) (r : Rules) (log : Path) (d : Disk) (now : Instant) :
    w.StartMove r log d now (w.start r log d now) := by
  unfold start
  cases hm : w.monitor with
  | some m => exact .refused hm
  | none =>
    simp only
    split
    · exact .failed hm
    · cases hc : Cursor.openAtEnd _ log with
      | error e =>
        simp only
        split_ifs
        · exact .failed hm
        · exact .failed hm
      | ok cursor =>
        simp only
        split_ifs
        · exact .begun hm hc
        · exact .begun hm hc

theorem start_answer_eq (hm : w.monitor = none) (hm' : w'.monitor = none) :
    (w.start r log d now).1 = (w'.start r log d now).1 := by
  unfold start
  rw [hm, hm']
  simp only
  split
  · rfl
  · cases Cursor.openAtEnd _ log <;> rfl

theorem start_disk {e : Entry} (w : Watchdog) (r : Rules) (now : Instant) (hf : d.find log = .ok e) :
    (w.start r log d now).2.1 = d := by
  have hensured : ensureLog d log = (.existed, d) := by simp only [ensureLog, Disk.tryExists, hf]
  unfold start
  cases w.monitor with
  | some m => rfl
  | none =>
    simp only [hensured]
    cases Cursor.openAtEnd d log <;> rfl

theorem stop_of_none (hm : w.monitor = none) (d : Disk) (now : Instant) :
    w.stop d now = (none, now, w) := by
  rw [stop, hm]

theorem stop_eq (hm : w.monitor = some m) (d : Disk) (now : Instant) :
    ∃ ending notes, w.stop d now = (some (m.finalReport w.lastWords), ending,
      { w with
        state := .notMonitoring
        monitor := none
        earlierHalts := w.earlierHalts ++ m.halts
        earlierNotes := notes }) := by
  simp only [stop, hm]
  split_ifs
  all_goals exact ⟨_, _, rfl⟩

end Foreman.Watch.Watchdog
