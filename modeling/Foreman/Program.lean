import Foreman.Build.Preview
import Foreman.Note.Filter
import Foreman.Supervision
import Foreman.Usage.Reading
import Foreman.Workshop

/-! What the program does for its command line. -/

namespace Foreman.Program

inductive Failure where
  | config (cause : Config.Problem)
  | build (cause : BuildError)
  | nothingToRun
  deriving DecidableEq, Repr

namespace Failure

def message : Failure → String
  | .config cause => cause.message
  | .build cause => cause.message
  | .nothingToRun => "supervise needs a command to run"

def cause? : Failure → Option String
  | .config (.unreadable cause) => some cause.message
  | .config (.malformed document fault) => some (fault.report document)
  | .build (.cleanOutput _ cause) => some cause.message
  | .build (.execution (.spawn _ cause)) => some cause.message
  | .build (.watchdog (.logFile _ cause)) => some cause.message
  | _ => none

/-- The program ends without a report. -/
def isAbort (f : Failure) : Bool := f = .config .overflow

def indented (text : String) : String :=
  "\n".intercalate ((Text.splitText '\n' text).map ("    " ++ ·))

def report (f : Failure) : String :=
  let cause := match f.cause? with
    | some cause => "\n\nCaused by:\n" ++ indented cause
    | none => ""
  "buildwarden error: " ++ f.message ++ cause ++ "\n"

end Failure

def interruptedCode : Int := 130

def temp (ours : Variables) : Path := ⟨(ours.lookup "TMPDIR").getD "/tmp"⟩

def environment (ours : Variables) : Config.Environment := fun name => ours.lookup name

def page (lines : List String) : String := String.join (lines.map (· ++ "\n"))

def paragraph (text : String) : String := if text = "" then "" else text ++ "\n"

def settle (draft : Except Config.Problem Config.Draft) (ours : Variables) :
    Except Config.Problem Config.Settings :=
  draft.bind fun d => d.finish (temp ours) (environment ours)

def runStepWith (s : Config.Settings) (step : Step) (retry : Option Nat) (dryRun : Bool)
    (w : Workshop) : Except Failure Int × Workshop :=
  let retry := retry.getD s.build.retry
  if s.build.skip then (.ok 0, w.note .nothingToDo)
  else match Build.ofSettings s with
    | .error p => (.error (.config p), w)
    | .ok b =>
      if dryRun then (.ok 0, w.print (page (b.preview s.engine.processName step retry)))
      else match b.run Workshop.crew step retry { w with halting := .named s.engine.processName } with
        | (.error e, w) => (.error (.build e), w)
        | (.ok _, w) => (.ok 0, if w.interrupted then w else w.note .done)

def runStep (config : Path) (step : Step) (retry : Option Nat) (dryRun : Bool) (w : Workshop) :
    Except Failure Int × Workshop :=
  match settle (Config.Draft.load w.disk config) w.ours with
  | .error p => (.error (.config p), w)
  | .ok s => runStepWith s step retry dryRun w

def superviseWith (s : Supervision) (dryRun : Bool) (w : Workshop) : Except Failure Int × Workshop :=
  if dryRun then (.ok 0, w.print (page s.preview))
  else
    let halting := match s.processName with
      | some name => .named name
      | none => .command
    match s.run Workshop.crew { w with halting } with
    | (.error e, w) => (.error (.build e), w)
    | (.ok e, w) => (.ok e.code, (w.print (paragraph e.stdout)).complain (paragraph e.stderr))

def supervise (config : Path) (words : List String) (log : Option Path) (processName : Option String)
    (budget : Option Duration) (dryRun : Bool) (w : Workshop) : Except Failure Int × Workshop :=
  let w := if (w.disk.find config).isOk then w else w.note .configMissing
  match settle (Config.Draft.loadOrDefault w.disk config) w.ours with
  | .error p => (.error (.config p), w)
  | .ok s => match words with
    | [] => (.error .nothingToRun, w)
    | program :: args =>
      superviseWith (.ofSettings s program args log processName budget) dryRun w

def dispatch (a : Usage.Arguments) (w : Workshop) : Except Failure Int × Workshop :=
  match a.order with
  | .run step retry => runStep a.config step retry a.dryRun w
  | .supervise words log processName budget =>
    supervise a.config words log processName budget a.dryRun w

def run (a : Usage.Arguments) (w : Workshop) : Except Failure Int × Workshop :=
  let (result, w) := dispatch a w
  if w.interrupted then (.ok interruptedCode, w.note .interrupted) else (result, w)

structure Outcome where
  status : Nat
  workshop : Workshop
  shown : List Note := []
  deriving DecidableEq, Repr

def Outcome.levels (o : Outcome) : List Level :=
  [.debug, .error, .info, .trace, .warn].filter fun level => o.shown.any (·.level = level)

def abortStatus : Nat := 101

def statusOf (code : Int) : Nat := (code % 256).toNat

def mistakeStatus : Usage.Mistake → Nat
  | .displayHelp | .displayVersion => 0
  | .overflow => abortStatus
  | _ => 2

def conclude (result : Except Failure Int) (w : Workshop) : Nat × Workshop :=
  match result with
  | .ok code => (statusOf code, w)
  | .error f => if f.isAbort then (abortStatus, w) else (statusOf (-1), w.complain f.report)

/-- The whole program, from its arguments on. -/
def main (args : List String) (w : Workshop) : Outcome :=
  match Usage.read args with
  | .error m => { status := mistakeStatus m, workshop := w }
  | .ok a =>
    match Filter.choose? a.logLevel (w.ours.lookup "BUILDWARDEN_LOG") with
    | none => { status := abortStatus, workshop := w }
    | some (filter, notes) =>
      let (result, w) := run a w
      let (status, workshop) := conclude result w
      { status, workshop, shown := (notes ++ w.notes).filter filter.passes }

end Foreman.Program
