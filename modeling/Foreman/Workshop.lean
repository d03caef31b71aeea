import Foreman.Build.Run
import Foreman.Disk.Change
import Foreman.Halting
import Foreman.Shell.Launch
import Foreman.Site

/-! A crew that carries out commands for good: a shell runs them, and the watch goes on with its work from
moment to moment meanwhile. -/

namespace Foreman

open Shell Watch

structure Workshop where
  site : Site
  ours : Variables
  halting : Halting := .command
  acted : Nat := 0
  printed : String := ""
  complained : String := ""
  ownNotes : List Note := []
  interrupted : Bool := false
  deriving DecidableEq, Repr

namespace Workshop

def print (w : Workshop) (text : String) : Workshop := { w with printed := w.printed ++ text }

def complain (w : Workshop) (text : String) : Workshop := { w with complained := w.complained ++ text }

def note (w : Workshop) (n : Note) : Workshop := { w with ownNotes := w.ownNotes ++ [n] }

def notes (w : Workshop) : List Note := w.site.watchdog.notes ++ w.ownNotes

def disk (w : Workshop) : Disk := w.site.disk

def changeDisk (w : Workshop) (d : Disk) : Workshop := { w with site := { w.site with disk := d } }

def pendingHalts (w : Workshop) : Nat := w.site.watchdog.halts.length - w.acted

def noteHalt (w : Workshop) (leader : Option Nat) : Workshop :=
  let helper := w.halting.helper leader
  if helper = [] then w.note .nothingToHalt
  else
    let w := w.note (match w.halting with
      | .named _ => .processHalted
      | .command => .groupHalted)
    w.note (if Halting.launchable helper then .helperEnded else .helperNotStarted)

/-- Acts upon the halts called for. No process of the commands bears a name that is halted by name. -/
def enforce (own : Bool) (w : Workshop) (r : Running) : Workshop × Running :=
  if w.pendingHalts = 0 then (w, r)
  else
    let leader := if own then some r.main else none
    let w := { w.noteHalt leader with acted := w.site.watchdog.halts.length }
    (w, if own && w.halting = .command then r.kill else r)

def observe (w : Workshop) (r : Running) : Workshop :=
  { w.changeDisk r.world.disk with interrupted := r.world.interrupted }

/-- All that happens at one moment: the command does what it can, the watch looks on, and halts are acted
upon. -/
def attend (own : Bool) (w : Workshop) (r : Running) : Workshop × Running :=
  let r := r.settle
  let w := w.observe r
  let w := { w with site := w.site.passUntil w.site.now }
  let (w, r) := w.enforce own r
  let r := r.settle
  (w.observe r, r)

def nextMoment (w : Workshop) (r : Running) : Option Instant :=
  match r.nextWake, w.site.nextTimer with
  | some s, some t => some (max (min s t) (w.site.now + 1))
  | some t, none | none, some t => some (max t (w.site.now + 1))
  | none, none => none

def follow (own : Bool) : Nat → Workshop → Running → Workshop × Running
  | 0, w, r => (w, r)
  | n + 1, w, r =>
    let (w, r) := w.attend own r
    if r.isOver || w.interrupted then (w, r)
    else match w.nextMoment r with
      | none => (w, r)
      | some t => follow own n { w with site := w.site.passUntil t } (r.wake t)

def moments : Nat := 1000000

def lead : Duration := .ofMillis 1

def noteEnd (w : Workshop) (i : Invocation) (code : Int) : Workshop :=
  let w := if i.verbose then w.note .commandEnded else w
  if code = 0 then w else w.note (if i.ignoreError then .exitIgnored else .commandFailed)

def run (i : Invocation) (w : Workshop) : Except RunError Execution × Workshop :=
  let w := if i.verbose then w.note .commandStarted else w
  let w := { w with site := w.site.pass lead }
  match Running.start w.disk w.site.now w.ours i with
  | .error e => ((Executor.conclude i (.error e)).1, w.note .commandNotStarted)
  | .ok r =>
    let (w, r) := w.follow i.slot.isSome moments r
    if w.interrupted then (.ok { code := 0 }, w)
    else ((Executor.conclude i (.ok r.remains)).1, w.noteEnd i r.remains.ending.code)

def clear (dir : Path) (w : Workshop) : Option DiskError × Workshop :=
  let removed := w.disk.isDirectory dir && (w.disk.removeTree dir).1 = none
  let (e, d) := w.disk.makeEmpty dir
  (e, if removed then (w.changeDisk d).note .outputRemoved else w.changeDisk d)

def startWatch (r : Rules) (log : Path) (w : Workshop) : Option StartError × Workshop :=
  let (e, site) := w.site.startWatch r log
  (e, { w with site })

def stopWatch (w : Workshop) : Option Report × Workshop :=
  let (report, site) := w.site.stopWatch
  (report, { w with site })

def unlessStopped {α : Type} (idle : α) (act : Workshop → α × Workshop) (w : Workshop) :
    α × Workshop :=
  if w.interrupted then (idle, w) else act w

def crew : Crew Workshop where
  startWatch rules log := unlessStopped none (startWatch rules log)
  stopWatch := unlessStopped none stopWatch
  run i := unlessStopped (.ok { code := 0 }) (run i)
  clear dir := unlessStopped none (clear dir)
  readLog log w := (w.disk.readFile log, w)
  dump frame w := if w.interrupted then w else w.print frame
  note n w := if w.interrupted then w else w.note n

end Workshop
end Foreman
