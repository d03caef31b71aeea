import Foreman.Text.Blank
import Foreman.Text.Letters

/-! What the engine builds for. -/

namespace Foreman

inductive Platform where
  | android
  | ios
  | osx
  | win
  deriving DecidableEq, Repr

namespace Platform

def buildTarget : Platform → String
  | .android => "Android"
  | .ios => "iOS"
  | .osx => "OSXUniversal"
  | .win => "Win64"

def ofName? : String → Option Platform
  | "android" => some .android
  | "ios" => some .ios
  | "osx" => some .osx
  | "win" => some .win
  | _ => none

structure Unknown where
  name : String
  deriving DecidableEq, Repr

def Unknown.message (e : Unknown) : String :=
  "invalid platform: " ++ e.name ++ " (expected \"android\", \"ios\", \"osx\" or \"win\")"

/-- Reads a name in any case, with blanks around it. -/
def read (s : String) : Except Unknown Platform :=
  let name := Text.lower (Text.trim s)
  match ofName? name with
  | some p => .ok p
  | none => .error ⟨name⟩

end Platform
end Foreman
