import Foreman.Proofs.Build.Turns

/-! The log that is shown. A run that fails for good after its attempts shows the engine's log once, as it is by
then, and any other run shows nothing. -/

namespace Foreman
open Watch

variable {σ : Type}

namespace Build
variable {b : Build} {c : Crew σ} {disk : σ → Disk} {shown : σ → String} {going : σ → Prop}

def logText (log : Path) : Except DiskError Bytes → String
  | .ok content => logFrame log content
  | .error _ => ""

/-- What is shown at the end of a run that came to this answer. -/
def closing (b : Build) (answer : Except BuildError StepReport) (d : Disk) : String :=
  match answer with
  | .ok _ | .error (.cleanOutput _ _) => ""
  | .error _ => logText b.engine.logFile (d.readFile b.engine.logFile)

def runAll (b : Build) (c : Crew σ) : List (Step × Nat) → σ → List (Except BuildError StepReport × σ) × σ
  | [], s => ([], s)
  | (step, retry) :: plan, s =>
    let outcome := b.run c step retry s
    let (outcomes, s) := b.runAll c plan outcome.2
    (outcome :: outcomes, s)

def NotCleaning {α : Type} (answer : Except BuildError α) : Prop := ∀ dir e, answer ≠ .error (.cleanOutput dir e)

theorem NotCleaning.of_ok {α : Type} (a : α) : NotCleaning (.ok a) := fun _ _ => nofun

theorem NotCleaning.of_error {α β : Type} {cause : BuildError} (h : NotCleaning (.error cause : Except BuildError α)) :
    NotCleaning (.error cause : Except BuildError β) := by
  intro dir e heq
  cases heq
  exact h dir e rfl

end Build
end Foreman
