import Foreman.Disk
import Foreman.Duration.Text
import Foreman.Platform
import Foreman.Toml.Fault

/-! Why a configuration cannot be used. -/

namespace Foreman.Config

inductive TimeField where
  | hangTimeout
  | initialTimeout
  | pollInterval
  deriving DecidableEq, Repr

def TimeField.name : TimeField → String
  | .hangTimeout => "hang_timeout"
  | .initialTimeout => "initial_timeout"
  | .pollInterval => "poll_interval"

inductive PatternField where
  | crashSignatures
  | resetMarkers
  deriving DecidableEq, Repr

def PatternField.name : PatternField → String
  | .crashSignatures => "crash_signatures"
  | .resetMarkers => "reset_markers"

inductive Rejection where
  | blankBinary
  | blankProcessName
  | badTime (field : TimeField) (cause : Duration.ReadError)
  | zeroTime (field : TimeField) (text : String)
  | initialAboveHang (initial hang : Duration)
  | pollAboveWindow (poll window : Duration)
  | emptyPattern (field : PatternField)
  | badPlatform (cause : Platform.Unknown)
  | badHangTimeout (cause : Duration.ReadError)
  | badRetry (text : String) (cause : Text.NumberError)
  | missingBinary
  | missingPlatform
  deriving DecidableEq, Repr

def Rejection.message : Rejection → String
  | .blankBinary => "[engine].binary must not be empty"
  | .blankProcessName => "[engine].process_name must not be empty"
  | .badTime field cause => "[watchdog]." ++ field.name ++ ": " ++ cause.message
  | .zeroTime field text =>
    "[watchdog]." ++ field.name ++ " must be greater than zero (got \"" ++ text ++ "\")"
  | .initialAboveHang initial hang =>
    "[watchdog].initial_timeout (" ++ initial.shown ++ ") must not exceed hang_timeout (" ++
      hang.shown ++ ")"
  | .pollAboveWindow poll window =>
    "[watchdog].poll_interval (" ++ poll.shown ++ ") must not exceed the hang timeout (" ++
      window.shown ++ ")"
  | .emptyPattern field => "[watchdog]." ++ field.name ++ " must not contain empty strings"
  | .badPlatform cause => "BUILDWARDEN_PLATFORM: " ++ cause.message
  | .badHangTimeout cause => "BUILDWARDEN_HANG_TIMEOUT: " ++ cause.message
  | .badRetry text cause =>
    "BUILDWARDEN_RETRY: invalid retry count '" ++ text ++ "': " ++ cause.message
  | .missingBinary => "[engine].binary is required to run a build"
  | .missingPlatform => "[engine].platform (or BUILDWARDEN_PLATFORM) is required to run a build"

inductive Problem where
  | unreadable (cause : DiskError)
  | malformed (document : String) (fault : Toml.Fault)
  | rejected (cause : Rejection)
  /-- A number of minutes or hours is out of range; nothing is reported and the work ends at once. -/
  | overflow
  deriving DecidableEq, Repr

def Problem.message : Problem → String
  | .unreadable cause => "IO error: " ++ cause.message
  | .malformed document fault => "TOML parsing error: " ++ fault.report document
  | .rejected cause => "Configuration error: " ++ cause.message
  | .overflow => Duration.ReadError.overflow.message

end Foreman.Config
