import Foreman.Watch.Watchdog

/-! The place of a build: files, a clock, and the watchdog that goes with it. -/

namespace Foreman

open Watch

structure Site where
  disk : Disk := {}
  now : Instant := 0
  watchdog : Watchdog := {}
  deriving DecidableEq, Repr

namespace Site

def passUntil (s : Site) (target : Instant) : Site :=
  { s with watchdog := s.watchdog.pass s.disk s.now target, now := max s.now target }

def pass (s : Site) (d : Duration) : Site := s.passUntil (s.now + d.nanos)

def startWatch (s : Site) (r : Rules) (log : Path) : Option StartError × Site :=
  let (error, disk, watchdog) := s.watchdog.start r log s.disk s.now
  (error, { s with disk, watchdog })

def stopWatch (s : Site) : Option Report × Site :=
  let (report, now, watchdog) := s.watchdog.stop s.disk s.now
  (report, { s with now, watchdog })

def state (s : Site) : State := s.watchdog.state

def nextTimer (s : Site) : Option Instant := s.watchdog.monitor.bind Monitor.nextTimer

def awaitHaltWithin (target : Instant) : Nat → Site → Site
  | 0, s => s
  | n + 1, s =>
    let s := { s with watchdog := s.watchdog.settle s.disk s.now }
    if s.watchdog.halts ≠ [] then s
    else match s.nextTimer with
      | none => s
      | some t => if t < target then awaitHaltWithin target n { s with now := t } else s

/-- Waits until a halt has ever been called for, at most until `target`. -/
def awaitHalt (s : Site) (target : Instant) : Option Site :=
  if s.watchdog.halts ≠ [] then some s
  else
    let s := awaitHaltWithin target (target - s.now + 1) s
    if s.watchdog.halts = [] then none else some s

end Site
end Foreman
