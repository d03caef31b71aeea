import Foreman.Duration
import Foreman.Note
import Foreman.Path
import Foreman.Step

/-! What can be asked of the program on its command line. -/

namespace Foreman.Usage

inductive Order where
  | run (step : Step) (retry : Option Nat)
  | supervise (words : List String) (logFile : Option Path) (processName : Option String)
      (hangTimeout : Option Duration)
  deriving DecidableEq, Repr

def usualConfig : Path := ⟨"Buildwarden.toml"⟩

structure Arguments where
  config : Path := usualConfig
  logLevel : Option Level := none
  dryRun : Bool := false
  order : Order
  deriving DecidableEq, Repr

/-- Why a command line is not carried out. Asking for help is one of the reasons. -/
inductive Mistake where
  | unknownArgument
  | valueValidation
  | invalidValue
  | missingRequiredArgument
  | argumentConflict
  | invalidSubcommand
  | missingSubcommand
  | tooManyValues
  | displayHelp
  | displayVersion
  | displayHelpOnMissing
  | overflow
  deriving DecidableEq, Repr

def Mistake.name : Mistake → String
  | .unknownArgument => "UnknownArgument"
  | .valueValidation => "ValueValidation"
  | .invalidValue => "InvalidValue"
  | .missingRequiredArgument => "MissingRequiredArgument"
  | .argumentConflict => "ArgumentConflict"
  | .invalidSubcommand => "InvalidSubcommand"
  | .missingSubcommand => "MissingSubcommand"
  | .tooManyValues => "TooManyValues"
  | .displayHelp => "DisplayHelp"
  | .displayVersion => "DisplayVersion"
  | .displayHelpOnMissing => "DisplayHelpOnMissingArgumentOrSubcommand"
  | .overflow => "Overflow"

end Foreman.Usage
