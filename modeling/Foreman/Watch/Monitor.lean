import Foreman.Note
import Foreman.Watch.Cursor
import Foreman.Watch.Scan

/-! Two tasks watch a log. The reader follows the file and puts each line into a queue; the scanner takes
lines out of it, and judges silence whenever no line has come for one poll interval. The scanner ends at
the first crash or hang. -/

namespace Foreman.Watch

abbrev Instant := Nat

inductive HaltAction where
  | returns
  /-- It takes the scanner down with it. -/
  | breaks
  deriving DecidableEq, Repr

inductive ReaderState where
  | reading
  | blocked (line : String)
  | sleeping (wakeAt : Instant)
  | ended
  deriving DecidableEq, Repr

inductive ScannerState where
  | waiting (deadline : Instant)
  | reported (report : Report)
  | failed
  deriving DecidableEq, Repr

structure Monitor where
  haltAction : HaltAction
  poll : Duration
  cursor : Cursor
  reader : ReaderState := .reading
  queue : List String := []
  scan : Scan
  scanner : ScannerState
  readerOpen : Bool := true
  /-- A verdict was reached, and the halt action was begun. -/
  halted : Bool := false
  /-- The reasons given to halt actions that returned. -/
  halts : List String := []
  notes : List Note := []
  deriving DecidableEq, Repr

namespace Monitor

def capacity : Nat := 256

def longestSleep : Duration := .ofMillis 250

def start (action : HaltAction) (r : Rules) (cursor : Cursor) (now : Instant) : Monitor :=
  { haltAction := action, poll := r.pollInterval, cursor, scan := Scan.start r
    scanner := .waiting (now + r.pollInterval.nanos) }

/-- A sleep lets some time pass, even where the poll interval is nothing. -/
def readerSleep (m : Monitor) : Duration := max ⟨1⟩ (min m.poll longestSleep)

def note (m : Monitor) (n : Note) : Monitor := { m with notes := m.notes ++ [n] }

def scanning (m : Monitor) : Bool :=
  match m.scanner with
  | .waiting _ => true
  | _ => false

def isOver (m : Monitor) : Bool := !m.scanning && m.reader = .ended

def endReader (m : Monitor) : Monitor := { m with reader := .ended }.note .readerEnded

def offer (m : Monitor) (line : String) : Monitor :=
  if m.queue.length < capacity then { m with reader := .reading, queue := m.queue ++ [line] }
  else { m with reader := .blocked line }

def look (m : Monitor) (d : Disk) (now : Instant) : Monitor :=
  let (reading, cursor) := m.cursor.next d
  let m := { m with cursor }
  match reading with
  | .line text => m.offer text
  | .pending => { m with reader := .sleeping (now + m.readerSleep.nanos) }
  | .restarted => { m with reader := .sleeping (now + m.readerSleep.nanos) }.note .readerRestarted
  | .failed _ => (m.note .readerFailed).endReader

def readerStep? (m : Monitor) (d : Disk) (now : Instant) : Option Monitor :=
  match m.reader with
  | .reading => some (if m.scanning then m.look d now else m.endReader)
  | .blocked line =>
    if !m.scanning then some m.endReader
    else if m.queue.length < capacity then some (m.offer line)
    else none
  | .sleeping wakeAt => if wakeAt ≤ now then some { m with reader := .reading } else none
  | .ended => none

def judge (m : Monitor) (now : Instant) (verdict : Verdict) : Monitor :=
  match verdict with
  | .goOn => { m with scanner := .waiting (now + m.poll.nanos) }
  | .crashed message | .hung message =>
    let m := { m with halted := true }.note .failureFound
    match m.haltAction with
    | .returns => { m with halts := m.halts ++ [message], scanner := .reported (m.scan.report verdict) }
    | .breaks => { m with scanner := .failed }

def takeLine (m : Monitor) (now : Instant) (line : String) (rest : List String) : Monitor :=
  let (scan, verdict) := m.scan.onLine line
  let m := { m with queue := rest, scan }
  (if m.scan.markerIn line && verdict = .goOn then m.note .markerSeen else m).judge now verdict

def passInterval (m : Monitor) (now : Instant) : Monitor :=
  match m.scan.onIdle m.poll with
  | some (scan, verdict) => { m with scan }.judge now verdict
  | none => { m with scanner := .failed }

/-- One step of the scanner, if it can take one now: a line that waits is taken before the end of an
interval is noticed. -/
def scannerStep? (m : Monitor) (now : Instant) : Option Monitor :=
  match m.scanner with
  | .waiting deadline =>
    match m.readerOpen, m.queue with
    | true, line :: rest => some (m.takeLine now line rest)
    | true, [] =>
      if m.reader = .ended then
        some ({ m with readerOpen := false, scanner := .waiting (now + m.poll.nanos) }.note
          .readerLost)
      else if deadline ≤ now then some (m.passInterval now)
      else none
    | false, _ => if deadline ≤ now then some (m.passInterval now) else none
  | _ => none

def step? (m : Monitor) (d : Disk) (now : Instant) : Option Monitor :=
  (m.readerStep? d now).or (m.scannerStep? now)

def settleWithin (d : Disk) (now : Instant) : Nat → Monitor → Monitor
  | 0, m => m
  | n + 1, m => match m.step? d now with
    | some m => settleWithin d now n m
    | none => m

/-- More steps than can be taken at one moment: each unread byte makes at most one line, and each line
takes two steps. -/
def stepBound (m : Monitor) (d : Disk) : Nat := 3 * ((m.cursor.unread d).length + m.queue.length) + 12

def settle (d : Disk) (now : Instant) (m : Monitor) : Monitor :=
  settleWithin d now (m.stepBound d) m

def nextTimer (m : Monitor) : Option Instant :=
  let wakeAt := match m.reader with
    | .sleeping t => some t
    | _ => none
  let deadline := match m.scanner with
    | .waiting t => some t
    | _ => none
  match wakeAt, deadline with
  | some s, some t => some (min s t)
  | s, t => s.or t

def passWithin (d : Disk) (target : Instant) : Nat → Instant → Monitor → Monitor
  | 0, _, m => m
  | n + 1, now, m =>
    let m := m.settle d now
    match m.nextTimer with
    | none => m
    | some t => if t < target then passWithin d target n t m else m

/-- Lets time pass from `now` to `target`. What falls due at the target itself is left for the next time:
whoever waited until then goes first. No two timers are less than a nanosecond apart. -/
def pass (d : Disk) (now target : Instant) (m : Monitor) : Monitor :=
  if now < target then passWithin d target (target - now + 1) now m else m

/-- The report of a scanner that is asked to stop. A verdict that has been reached stands; lines that
still wait are not looked at. If the scanner is down, only its last words are left. -/
def finalReport (m : Monitor) (lastWords : String) : Report :=
  match m.scanner with
  | .waiting _ => m.scan.report .goOn
  | .reported r => r
  | .failed => ⟨.ok, some ("monitor task failed: " ++ lastWords), 0⟩

/-- When the reader notices that nobody takes its lines any more. It may take a look at the file before. -/
def readerEnd (m : Monitor) (d : Disk) (now : Instant) : Instant :=
  match m.reader with
  | .sleeping wakeAt => max now wakeAt
  | .reading => match (m.cursor.next d).1 with
    | .pending | .restarted => now + m.readerSleep.nanos
    | _ => now
  | _ => now

end Monitor
end Foreman.Watch
