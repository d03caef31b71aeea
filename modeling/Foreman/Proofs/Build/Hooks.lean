import Foreman.Build.Rehearsal
import Foreman.Proofs.Build.Journal
import Foreman.Text.Blank
import Mathlib.Data.List.TakeWhile

/-! Hooks as they are run. A hook is a whole command, but what runs it is chosen by how its text ends, as if it were
the name of a program. So it is run as it is written only if its first word ends like the whole. -/

namespace Foreman
namespace Command

def firstWord (text : String) : String := String.ofList (text.toList.takeWhile fun c => !Text.isBlank c)

def behind (runner : Option String) (text : String) : String :=
  match runner with
  | some word => word ++ " " ++ text
  | none => text

/-- The line of a command that is run as it is written: its first word alone decides what runs it. -/
def asWritten (command : String) : String := behind (interpreter (firstWord command)) command

theorem firstWord_eq_self {text : String} (h : ∀ c ∈ text.toList, Text.isBlank c = false) :
    firstWord text = text := by
  have hall : ∀ c ∈ text.toList, (!Text.isBlank c) = true := fun c hc => by rw [h c hc]; rfl
  rw [firstWord, List.takeWhile_eq_self_iff.2 hall, String.ofList_toList]

theorem line_nil (program : String) : line program [] = behind (interpreter program) program := by
  unfold line words
  cases interpreter program <;> simp [behind]

theorem behind_inj {runner runner' : Option String} {text : String} :
    behind runner text = behind runner' text ↔ runner = runner' := by
  have hlonger (word : String) : word ++ " " ++ text ≠ text := fun h => by
    have hlen := congrArg String.length h
    simp at hlen
  refine ⟨fun h => ?_, congrArg (behind · text)⟩
  cases runner with
  | none =>
    cases runner' with
    | none => rfl
    | some word' => exact absurd h.symm (hlonger word')
  | some word =>
    cases runner' with
    | none => exact absurd h (hlonger word)
    | some word' => simpa [behind] using h

theorem behind_eq_asWritten_iff (command : String) : behind (interpreter command) command = asWritten command ↔
    interpreter (firstWord command) = interpreter command := by
  rw [asWritten, behind_inj, eq_comm]

end Command

variable {σ : Type}

def Journalled.lines (x : Journalled σ) : List String :=
  (x.journal.filterMap Exchange.invocation?).map Invocation.commandLine

theorem Journalled.lines_run (c : Crew σ) (i : Invocation) (x : Journalled σ) :
    (c.journalled.run i x).2.lines = x.lines ++ [i.commandLine] := by
  simp [Crew.journalled, Journalled.enter, Journalled.lines, Exchange.invocation?]

namespace Build
open Command

theorem hookInvocation_commandLine (e : Engine) (hook : String) :
    (e.hookInvocation hook).commandLine = behind (interpreter hook) hook := line_nil hook

theorem runHooks_done (b : Build) (c : Crew σ) (hooks : List String) (x : Journalled σ) :
    ∃ done, done <+: hooks ∧ ((b.runHooks c.journalled hooks x).1 = .ok () → done = hooks) ∧
      (b.runHooks c.journalled hooks x).2.lines =
        x.lines ++ done.map fun hook => behind (interpreter hook) hook := by
  induction hooks generalizing x with
  | nil => exact ⟨[], List.prefix_rfl, fun _ => rfl, (List.append_nil _).symm⟩
  | cons hook hooks ih =>
    have hlines := Journalled.lines_run c (b.engine.hookInvocation hook) x
    rw [hookInvocation_commandLine] at hlines
    unfold runHooks
    generalize c.journalled.run (b.engine.hookInvocation hook) x = outcome at hlines ⊢
    obtain ⟨result, y⟩ := outcome
    cases result with
    | error e => exact ⟨[hook], ⟨hooks, rfl⟩, (by rintro ⟨⟩), hlines⟩
    | ok e =>
      obtain ⟨done, hdone, hall, hlines'⟩ := ih y
      refine ⟨hook :: done, (List.prefix_cons_inj hook).2 hdone, fun h => by rw [hall h], ?_⟩
      rw [hlines', hlines, List.append_assoc]
      rfl

/-- Hooks are run in order, and all of them unless one fails. Each runs as its text, behind an interpreter that the
end of the text chooses. That is the line as it is written exactly when the first word ends like the whole, so always
for a hook of one word. -/
theorem runHooks_lines (b : Build) (c : Crew σ) (hooks : List String) (x : Journalled σ) :
    (∃ done, done <+: hooks ∧ ((b.runHooks c.journalled hooks x).1 = .ok () → done = hooks) ∧
      (b.runHooks c.journalled hooks x).2.lines =
        x.lines ++ done.map fun hook => behind (interpreter hook) hook) ∧
    ∀ hook, (behind (interpreter hook) hook = asWritten hook ↔ interpreter (firstWord hook) = interpreter hook) ∧
      ((∀ c ∈ hook.toList, Text.isBlank c = false) → behind (interpreter hook) hook = asWritten hook) := by
  refine ⟨b.runHooks_done c hooks x, fun hook => ⟨behind_eq_asWritten_iff hook, fun hword => ?_⟩⟩
  rw [behind_eq_asWritten_iff, firstWord_eq_self hword]

theorem runHooks_lines_pack :
    let b : Build := ⟨⟨"engine", ⟨"."⟩, "", .osx, ⟨"log"⟩, []⟩, {}, {}⟩
    let run := b.runHooks Rehearsal.crew.journalled ["pack.sh", "cp pack.sh out"] ⟨{ site := {} }, []⟩
    run.1 = .ok () ∧ run.2.lines = ["bash pack.sh", "cp pack.sh out"] ∧
      behind (interpreter "pack.sh") "pack.sh" = asWritten "pack.sh" := by
  intro b run
  have hrun : run.1 = .ok () := by decide +kernel
  obtain ⟨⟨done, -, hall, hlines⟩, hwritten⟩ :=
    runHooks_lines b Rehearsal.crew ["pack.sh", "cp pack.sh out"] ⟨{ site := {} }, []⟩
  rw [hall hrun] at hlines
  exact ⟨hrun, hlines.trans (by decide), (hwritten "pack.sh").2 (by simp [Text.isBlank])⟩

/-- To copy a script counts as running one, and to run one with an argument does not. -/
theorem runHooks_not_asWritten :
    let b : Build := ⟨⟨"engine", ⟨"."⟩, "", .osx, ⟨"log"⟩, []⟩, {}, {}⟩
    let hooks := ["cp a.sh b.sh", "a.sh --all"]
    let run := b.runHooks Rehearsal.crew.journalled hooks ⟨{ site := {} }, []⟩
    run.2.lines = ["bash cp a.sh b.sh", "a.sh --all"] ∧
      hooks.map asWritten = ["cp a.sh b.sh", "bash a.sh --all"] := by
  decide +kernel

end Build
end Foreman
