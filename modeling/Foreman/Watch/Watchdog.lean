import Foreman.Text.Quoted
import Foreman.Watch.Monitor

/-! One log at a time is watched: a watch is started, finds a failure or not, and is stopped. -/

namespace Foreman.Watch

inductive State where
  | notMonitoring
  | monitoring
  | halted
  deriving DecidableEq, Repr

def State.name : State → String
  | .notMonitoring => "NotMonitoring"
  | .monitoring => "Monitoring"
  | .halted => "Halted"

inductive StartError where
  | alreadyMonitoring (log : Path)
  | logFile (log : Path) (cause : DiskError)
  deriving DecidableEq, Repr

def StartError.message : StartError → String
  | .alreadyMonitoring log =>
    "watchdog is already monitoring " ++ Text.Quoted.encode log.text ++
      "; stop it before starting again"
  | .logFile log cause =>
    "failed to prepare log file " ++ Text.Quoted.encode log.text ++ ": " ++ cause.message

structure Watchdog where
  haltAction : HaltAction := .returns
  /-- What is heard of a scanner that goes down. The text names its task, and so is not known before. -/
  lastWords : String := ""
  /-- What is shown to the owner. Besides the owner's own calls, a verdict of the scanner writes it. -/
  state : State := .notMonitoring
  monitor : Option Monitor := none
  earlierHalts : List String := []
  earlierNotes : List Note := []
  deriving DecidableEq, Repr

namespace Watchdog

def halts (w : Watchdog) : List String :=
  w.earlierHalts ++ match w.monitor with
    | none => []
    | some m => m.halts

def notes (w : Watchdog) : List Note :=
  w.earlierNotes ++ match w.monitor with
    | none => []
    | some m => m.notes

def note (w : Watchdog) (n : Note) : Watchdog := { w with earlierNotes := w.earlierNotes ++ [n] }

def shown (w : Watchdog) : String :=
  let path := match w.monitor with
    | none => "None"
    | some m => "Some(" ++ Text.Quoted.encode m.cursor.path.text ++ ")"
  "LogWatchdog \x7b state: " ++ w.state.name ++ ", path: " ++ path ++ ", .. \x7d"

/-- Begins a watch over all that is written to the log from now on. A missing log is made. -/
def start (w : Watchdog) (r : Rules) (log : Path) (d : Disk) (now : Instant) :
    Option StartError × Disk × Watchdog :=
  match w.monitor with
  | some m => (some (.alreadyMonitoring m.cursor.path), d, w.note .watchRefused)
  | none =>
    match ensureLog d log with
    | (.failed e, d) => (some (.logFile log e), d, w)
    | (ensured, d) =>
      let w := if ensured = .made then w.note .logMade else w
      match Cursor.openAtEnd d log with
      | .error e => (some (.logFile log e), d, w)
      | .ok cursor =>
        let w := (w.note .readerAttached).note .watchStarted
        (none, d, { w with
          state := .monitoring
          monitor := some (Monitor.start w.haltAction r cursor now) })

def advance (w : Watchdog) (m : Monitor) : Watchdog :=
  { w with state := if m.halted then .halted else w.state, monitor := some m }

def settle (w : Watchdog) (d : Disk) (now : Instant) : Watchdog :=
  match w.monitor with
  | none => w
  | some m => w.advance (m.settle d now)

def pass (w : Watchdog) (d : Disk) (now target : Instant) : Watchdog :=
  match w.monitor with
  | none => w
  | some m => w.advance (m.pass d now target)

/-- Ends the watch, if there is one: its report, and the moment at which the reader has ended too. -/
def stop (w : Watchdog) (d : Disk) (now : Instant) : Option Report × Instant × Watchdog :=
  match w.monitor with
  | none => (none, now, w)
  | some m =>
    let m := if m.scanning then m.note .scannerAsked else m
    let m := if m.scanner = .failed then m.note .scannerFailed else m
    let m := if m.reader = .ended then m else m.note .readerEnded
    let m := m.note .watchStopped
    (some (m.finalReport w.lastWords), m.readerEnd d now,
      { w with
        state := .notMonitoring
        monitor := none
        earlierHalts := w.earlierHalts ++ m.halts
        earlierNotes := w.earlierNotes ++ m.notes })

end Watchdog
end Foreman.Watch
