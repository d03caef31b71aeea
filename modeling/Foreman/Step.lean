import Foreman.Text.Blank
import Foreman.Text.Letters

/-! The named steps of a build, and the actions each is made of. -/

namespace Foreman

inductive Step where
  | rebuildAll
  | rebuildResource
  | refreshUIAtlas
  | recreateRolePrefab
  deriving DecidableEq, Repr

inductive Action where
  | engine (method : String)
  | hooks
  deriving DecidableEq, Repr

namespace Step

def all : List Step := [.rebuildAll, .rebuildResource, .refreshUIAtlas, .recreateRolePrefab]

def name : Step → String
  | .rebuildAll => "RebuildAll"
  | .rebuildResource => "RebuildResource"
  | .refreshUIAtlas => "RefreshUIAtlas"
  | .recreateRolePrefab => "RecreateRolePrefab"

structure Unknown where
  wanted : String
  deriving DecidableEq, Repr

def Unknown.message (e : Unknown) : String :=
  "unknown build step: " ++ e.wanted ++ " (expected one of " ++ ", ".intercalate (all.map name) ++ ")"

/-- Reads a name in any mix of ASCII case, with blanks around it. -/
def read (s : String) : Except Unknown Step :=
  let wanted := Text.trim s
  match all.find? fun step => Text.eqIgnoringCase step.name wanted with
  | some step => .ok step
  | none => .error ⟨wanted⟩

def actions : Step → List Action
  | .rebuildAll => [.engine "BuildResource", .hooks, .engine "BuildCode"]
  | .rebuildResource => [.engine "BuildResource", .hooks]
  | .refreshUIAtlas => [.engine "RefreshUIAtlas"]
  | .recreateRolePrefab => [.engine "RecreateRoleSprites", .engine "RecreateRolePrefab"]

def methods (s : Step) : List String :=
  s.actions.filterMap fun
    | .engine method => some method
    | .hooks => none

end Step
end Foreman
