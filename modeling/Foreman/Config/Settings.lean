import Foreman.Config.Overlay
import Foreman.Config.Reading

/-! Configurations that have been checked. -/

namespace Foreman.Config

structure EngineSettings where
  binary : Option String
  projectPath : Path
  methodPrefix : String
  platform : Option Platform
  logFile : Path
  processName : String
  extraArgs : List (String × String)
  deriving DecidableEq, Repr

structure WatchSettings where
  hangTimeout : Duration
  initialTimeout : Option Duration
  pollInterval : Duration
  crashSignatures : List String
  resetMarkers : List String
  deriving DecidableEq, Repr

namespace WatchSettings

def shortestWindow (w : WatchSettings) : Duration := w.initialTimeout.getD w.hangTimeout

def rules (w : WatchSettings) : Watch.Rules :=
  { hangTimeout := w.hangTimeout
    initialTimeout := w.initialTimeout
    pollInterval := w.pollInterval
    crashSignatures := w.crashSignatures
    resetMarkers := w.resetMarkers }

theorem startingWindow_rules (w : WatchSettings) : w.rules.startingWindow = w.shortestWindow := rfl

end WatchSettings

structure Settings where
  engine : EngineSettings
  watchdog : WatchSettings
  build : BuildRules
  deriving DecidableEq, Repr

def Settings.watch (s : Settings) : Watch.Rules := s.watchdog.rules

def processNameOf (binary : Option String) : String :=
  (binary.bind fun b => (Path.mk b).fileName).getD "Unity"

def checkEngine (e : EngineDraft) : Except Problem Unit :=
  if e.binary.any Text.blank then .error (.rejected .blankBinary)
  else if e.processName.any Text.blank then .error (.rejected .blankProcessName)
  else .ok ()

def positive (field : TimeField) (text : String) : Except Problem Duration :=
  match Duration.read text with
  | .error .overflow => .error .overflow
  | .error e => .error (.rejected (.badTime field e))
  | .ok d => if d.nanos = 0 then .error (.rejected (.zeroTime field text)) else .ok d

def positive? (field : TimeField) : Option String → Except Problem (Option Duration)
  | none => .ok none
  | some text => (positive field text).map some

/-- The order of the three times: no poll longer than the window in force, no initial window longer than
the budget. -/
def checkTimes (w : WatchSettings) : Except Problem Unit :=
  if w.initialTimeout.any (w.hangTimeout < ·) then
    .error (.rejected (.initialAboveHang w.shortestWindow w.hangTimeout))
  else if w.shortestWindow < w.pollInterval then
    .error (.rejected (.pollAboveWindow w.pollInterval w.shortestWindow))
  else .ok ()

def checkPatterns (field : PatternField) (patterns : List String) : Except Problem Unit :=
  if patterns.any (· = "") then .error (.rejected (.emptyPattern field)) else .ok ()

def checkWatchdog (w : WatchDraft) : Except Problem WatchSettings := do
  let hangTimeout ← positive .hangTimeout w.hangTimeout
  let pollInterval ← positive .pollInterval w.pollInterval
  let initialTimeout ← positive? .initialTimeout w.initialTimeout
  let settings : WatchSettings :=
    { hangTimeout, initialTimeout, pollInterval, crashSignatures := w.crashSignatures,
      resetMarkers := w.resetMarkers }
  checkTimes settings
  checkPatterns .crashSignatures w.crashSignatures
  checkPatterns .resetMarkers w.resetMarkers
  .ok settings

def fallbackLogPath (temp : Path) : Path := temp.join ⟨"engine_build.log"⟩

/-- Checks a draft; the first unsound field decides the error. -/
def Draft.check (temp : Path) (d : Draft) : Except Problem Settings := do
  checkEngine d.engine
  let watchdog ← checkWatchdog d.watchdog
  .ok {
    engine := {
      binary := d.engine.binary
      projectPath := d.engine.projectPath
      methodPrefix := d.engine.methodPrefix
      platform := d.engine.platform
      logFile := d.engine.logFile.getD (fallbackLogPath temp)
      processName := d.engine.processName.getD (processNameOf d.engine.binary)
      extraArgs := d.engine.extraArgs }
    watchdog
    build := d.build }

def Draft.withLogFile (temp : Path) (env : Environment) (d : Draft) : Draft :=
  { d with engine :=
    { d.engine with logFile := some (d.engine.logFile.getD (defaultLogPath temp env)) } }

def Draft.finish (temp : Path) (env : Environment) (d : Draft) : Except Problem Settings := do
  let d ← overlay env d
  (d.withLogFile temp env).check temp

def Draft.load (disk : Disk) (p : Path) : Except Problem Draft :=
  match disk.readText p with
  | .error e => .error (.unreadable e)
  | .ok text => match Draft.read text with
    | .ok d => .ok d
    | .error fault => .error (.malformed text fault)

/-- Reads a draft from a file; where nothing can be found there, the defaults stand. -/
def Draft.loadOrDefault (disk : Disk) (p : Path) : Except Problem Draft :=
  match disk.find p with
  | .ok _ => Draft.load disk p
  | .error _ => .ok {}

end Foreman.Config
