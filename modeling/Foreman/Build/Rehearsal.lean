import Foreman.Build.Run
import Foreman.Disk.Change
import Foreman.Site

/-! A crew that plays a script instead of running commands, so that a build can be tried out. Time passes
only where the script says so. -/

namespace Foreman

open Watch

inductive Deed where
  | change (c : Disk.Change)
  | wait (d : Duration)
  | log (lines : List String)
  deriving DecidableEq, Repr

structure Performance where
  deeds : List Deed := []
  missing : Bool := false
  code : Int := 0
  stdout : String := ""
  stderr : String := ""
  deriving DecidableEq, Repr

inductive Breakdown where
  | noLogOption
  | logUnwritable (cause : DiskError)
  | tooLong
  deriving DecidableEq, Repr

def Breakdown.message : Breakdown → String
  | .noLogOption => "scripted log lines need a -logFile argument"
  | .logUnwritable cause => "open log for append: " ++ cause.detail
  | .tooLong => "Test timed out after 10 seconds: Elapsed(())"

structure Rehearsal where
  site : Site
  /-- What the next calls play. Beyond its end a call does nothing and succeeds. -/
  script : List Performance := []
  /-- Time that passes at the start of each call, and after it what is done settles. -/
  lead : Duration := .zero
  received : List Invocation := []
  frames : List String := []
  limit : Option Instant := none
  breakdown : Option Breakdown := none
  deriving DecidableEq, Repr

def optionValue? (option : String) : List String → Option String
  | [] => none
  | a :: rest => if a = option then rest.head? else optionValue? option rest

def Invocation.optionValue? (i : Invocation) (option : String) : Option String :=
  Foreman.optionValue? option i.args

def lineBytes (lines : List String) : Bytes := lines.flatMap fun l => Utf8.encode l ++ [lineEnd]

def Disk.appendLines (d : Disk) (p : Path) (lines : List String) : Except Breakdown Disk :=
  match d.append p (lineBytes lines) with
  | .ok d => .ok d
  | .error e => .error (.logUnwritable e)

namespace Rehearsal

def checkLimit (r : Rehearsal) : Rehearsal :=
  if r.limit.any (· < r.site.now) then { r with breakdown := some .tooLong } else r

/-- Breaks off when the limit has been reached. Nobody waits then for work that others have to finish, such
as that of the disk. -/
def checkTurn (r : Rehearsal) : Rehearsal :=
  if r.limit.any (· ≤ r.site.now) then { r with breakdown := some .tooLong } else r

def changeDisk (r : Rehearsal) (d : Disk) : Rehearsal := { r with site := { r.site with disk := d } }

def wait (r : Rehearsal) (d : Duration) : Rehearsal :=
  if d.nanos = 0 then r else { r with site := r.site.pass d }.checkLimit

def unlessBroken {α : Type} (idle : α) (act : Rehearsal → α × Rehearsal) (r : Rehearsal) :
    α × Rehearsal :=
  if r.breakdown.isSome then (idle, r) else act r

def appendLog (i : Invocation) (lines : List String) (r : Rehearsal) : Unit × Rehearsal :=
  match i.optionValue? "-logFile" with
  | none => ((), { r with breakdown := some .noLogOption })
  | some log =>
    r.checkTurn |> unlessBroken () fun r =>
      match r.site.disk.appendLines ⟨log⟩ lines with
      | .ok d => ((), r.changeDisk d)
      | .error b => ((), { r with breakdown := some b })

def perform (i : Invocation) (r : Rehearsal) (deed : Deed) : Rehearsal :=
  (r |> unlessBroken () fun r =>
    match deed with
    | .change c => ((), r.changeDisk (r.site.disk.apply c))
    | .wait d => ((), r.wait d)
    | .log lines => appendLog i lines r).2

def Performance.outcome (p : Performance) (i : Invocation) : Except RunError Execution :=
  if p.missing then .error (.spawn i.commandLine .notFound)
  else i.accept { code := p.code, stdout := p.stdout, stderr := p.stderr }

def call (i : Invocation) (r : Rehearsal) : Except RunError Execution × Rehearsal :=
  let p := r.script.head?.getD {}
  let r := { r with received := r.received ++ [i], script := r.script.drop 1 }
  (Performance.outcome p i, p.deeds.foldl (perform i) (r.wait r.lead))

def startWatch (rules : Rules) (log : Path) (r : Rehearsal) : Option StartError × Rehearsal :=
  let (e, site) := r.site.startWatch rules log
  (e, { r with site })

/-- Ends the watch. Tasks that still have something to do are waited for. -/
def stopWatch (r : Rehearsal) : Option Report × Rehearsal :=
  let waits := r.site.watchdog.monitor.any (!·.isOver)
  let (report, site) := r.site.stopWatch
  let r := { r with site }
  (report, if waits then r.checkTurn else r)

def clear (dir : Path) (r : Rehearsal) : Option DiskError × Rehearsal :=
  let (e, d) := r.site.disk.makeEmpty dir
  (e, r.changeDisk d)

def crew : Crew Rehearsal where
  startWatch rules log r := r.checkTurn |> unlessBroken none (startWatch rules log)
  stopWatch := unlessBroken none stopWatch
  run i := unlessBroken (.ok { code := 0 }) (call i)
  clear dir r := r.checkTurn |> unlessBroken none (clear dir)
  readLog log r := (r.site.disk.readFile log, r.checkTurn)
  dump frame r := if r.breakdown.isSome then r else { r with frames := r.frames ++ [frame] }
  note _ r := r

end Rehearsal
end Foreman
