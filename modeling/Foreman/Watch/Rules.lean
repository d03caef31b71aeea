import Foreman.Duration

/-! What a watch over an engine log goes by. -/

namespace Foreman.Watch

def defaultSignatures : List String :=
  ["Receiving unhandled NULL exception", "Launching bug reporter",
    "Aborting batchmode due to failure", "Assertion failed on expression"]

def defaultMarkers : List String := ["=== Build Resource Begin ===", "=== Build Player Begin ==="]

structure Rules where
  /-- The full budget of silence, granted from the first reset marker on. -/
  hangTimeout : Duration := .ofSeconds 3600
  initialTimeout : Option Duration := none
  pollInterval : Duration := .ofSeconds 5
  crashSignatures : List String := defaultSignatures
  resetMarkers : List String := defaultMarkers
  deriving DecidableEq, Repr

def Rules.startingWindow (r : Rules) : Duration := r.initialTimeout.getD r.hangTimeout

end Foreman.Watch
