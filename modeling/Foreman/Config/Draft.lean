import Foreman.Platform
import Foreman.Path
import Foreman.Watch.Rules

/-! The configuration as it is written, before anything is checked. -/

namespace Foreman.Config

structure EngineDraft where
  binary : Option String := none
  projectPath : Path := ⟨"."⟩
  methodPrefix : String := ""
  platform : Option Platform := none
  logFile : Option Path := none
  processName : Option String := none
  /-- Further options of the engine, in the order of their names. -/
  extraArgs : List (String × String) := []
  deriving DecidableEq, Repr

structure WatchDraft where
  hangTimeout : String := "3600s"
  initialTimeout : Option String := none
  pollInterval : String := "5s"
  crashSignatures : List String := Watch.defaultSignatures
  resetMarkers : List String := Watch.defaultMarkers
  deriving DecidableEq, Repr

structure BuildRules where
  retry : Nat := 0
  skip : Bool := false
  cleanOutput : Option Path := none
  resourceHooks : List String := []
  deriving DecidableEq, Repr

structure Draft where
  engine : EngineDraft := {}
  watchdog : WatchDraft := {}
  build : BuildRules := {}
  deriving DecidableEq, Repr

end Foreman.Config
