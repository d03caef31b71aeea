import Foreman.Watch.Rules
import Foreman.Duration.Binary
import Foreman.Text.Search

/-! The judgement over a log: lines and stretches of silence go in, a verdict comes out. Clocks, files
and tasks play no part here. -/

namespace Foreman.Watch

inductive Verdict where
  | goOn
  | crashed (message : String)
  | hung (message : String)
  deriving DecidableEq, Repr

def Verdict.isTerminal : Verdict → Bool
  | .goOn => false
  | _ => true

inductive Outcome where
  | ok
  | crashed
  | hung
  deriving DecidableEq, Repr

def Outcome.name : Outcome → String
  | .ok => "ok"
  | .crashed => "crashed"
  | .hung => "hung"

structure Report where
  outcome : Outcome
  message : Option String
  linesSeen : Nat
  deriving DecidableEq, Repr

structure Scan where
  signatures : List String
  markers : List String
  fullBudget : Duration
  window : Duration
  idle : Duration := .zero
  linesSeen : Nat := 0
  deriving DecidableEq, Repr

namespace Scan

/-- Empty patterns are left out: they would be found everywhere. -/
def start (r : Rules) : Scan where
  signatures := r.crashSignatures.filter (· ≠ "")
  markers := r.resetMarkers.filter (· ≠ "")
  fullBudget := r.hangTimeout
  window := r.startingWindow

def signatureIn (s : Scan) (line : String) : Option String := s.signatures.find? (Text.contains line)

def markerIn (s : Scan) (line : String) : Bool := s.markers.any (Text.contains line)

def crashMessage (signature : String) : String :=
  "engine crashed or failed (matched \"" ++ signature ++ "\")"

def hangMessage (idle : Duration) : String :=
  "engine hung for a long time (" ++ toString idle.roundedSeconds ++ " seconds without log output)"

/-- A line ends the silence. A signature in it wins over a marker; a marker never narrows the window. -/
def onLine (s : Scan) (line : String) : Scan × Verdict :=
  let s := { s with linesSeen := s.linesSeen + 1, idle := .zero }
  match s.signatureIn line with
  | some signature => (s, .crashed (crashMessage signature))
  | none =>
    if s.markerIn line then ({ s with window := max s.window s.fullBudget }, .goOn) else (s, .goOn)

/-- A stretch without a line, unless the silence grows beyond every duration. -/
def onIdle (s : Scan) (elapsed : Duration) : Option (Scan × Verdict) :=
  (s.idle.add? elapsed).map fun idle =>
    let s := { s with idle }
    (s, if s.window ≤ idle then .hung (hangMessage idle) else .goOn)

def report (s : Scan) : Verdict → Report
  | .goOn => ⟨.ok, none, s.linesSeen⟩
  | .crashed message => ⟨.crashed, some message, s.linesSeen⟩
  | .hung message => ⟨.hung, some message, s.linesSeen⟩

end Scan
end Foreman.Watch
