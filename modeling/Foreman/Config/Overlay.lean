import Foreman.Config.Draft
import Foreman.Config.Problem

/-! Settings that the environment lays over the written configuration. -/

namespace Foreman.Config

abbrev Environment := String → Option String

def overlaySkip (env : Environment) (d : Draft) : Draft :=
  match env "BUILDWARDEN_SKIP_BUILD" with
  | some _ => { d with build := { d.build with skip := true } }
  | none => d

def overlayClean (env : Environment) (d : Draft) : Draft :=
  match env "BUILDWARDEN_CLEAN_BUILD" with
  | some dir =>
    if Text.blank dir then d else { d with build := { d.build with cleanOutput := some ⟨dir⟩ } }
  | none => d

def overlayPlatform (env : Environment) (d : Draft) : Except Problem Draft :=
  match env "BUILDWARDEN_PLATFORM" with
  | none => .ok d
  | some name => match Platform.read name with
    | .error e => .error (.rejected (.badPlatform e))
    | .ok p => .ok { d with engine := { d.engine with platform := some p } }

def writtenBudget (d : Draft) : Except Problem (Option Duration) :=
  match Duration.read d.watchdog.hangTimeout with
  | .ok b => .ok (some b)
  | .error .overflow => .error .overflow
  | .error _ => .ok none

/-- The variable sets the initial window. One that is longer than the budget raises the budget as well,
so that a reset marker never cuts it back. -/
def overlayHang (env : Environment) (d : Draft) : Except Problem Draft :=
  match env "BUILDWARDEN_HANG_TIMEOUT" with
  | none => .ok d
  | some text => match Duration.read text with
    | .error .overflow => .error .overflow
    | .error e => .error (.rejected (.badHangTimeout e))
    | .ok window => match writtenBudget d with
      | .error e => .error e
      | .ok budget =>
        let hang := match budget with
          | some b => if b < window then text else d.watchdog.hangTimeout
          | none => text
        .ok { d with watchdog :=
          { d.watchdog with hangTimeout := hang, initialTimeout := some text } }

def maxRetry : Nat := UInt32.size - 1

def overlayRetry (env : Environment) (d : Draft) : Except Problem Draft :=
  match env "BUILDWARDEN_RETRY" with
  | none => .ok d
  | some text => match Text.readNumber maxRetry (Text.trimChars text.toList) with
    | .error e => .error (.rejected (.badRetry text e))
    | .ok n => .ok { d with build := { d.build with retry := n } }

/-- All overlays. The first one that cannot be read decides the error. -/
def overlay (env : Environment) (d : Draft) : Except Problem Draft :=
  match overlayPlatform env (overlayClean env (overlaySkip env d)) with
  | .error e => .error e
  | .ok d => match overlayHang env d with
    | .error e => .error e
    | .ok d => overlayRetry env d

def effectiveUser (env : Environment) : String :=
  ((env "USER").or (env "USERNAME")).getD "user"

/-- A log file for this user and this job below the directory for temporary files. -/
def defaultLogPath (temp : Path) (env : Environment) : Path :=
  let job := (env "JOB_NAME").getD ""
  let jobDir := if job = "" then "local" else job
  (temp.join ⟨effectiveUser env ++ "_" ++ jobDir⟩).join ⟨"engine_build" ++ job ++ ".log"⟩

end Foreman.Config
