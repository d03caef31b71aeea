import Foreman.Build.Run
import Mathlib.Tactic.SplitIfs

/-! A crew whose answers are given beforehand, and what one call comes to under it. -/

namespace Foreman
open Watch

structure Answer where
  refusal : Option StartError := none
  result : Except RunError Execution
  report : Option Report := none

inductive Request where
  | start (rules : Rules) (log : Path)
  | run (i : Invocation)
  | stop
  deriving DecidableEq

/-- A crew that answers from a tape, one entry for each call. -/
structure Taped where
  tape : Nat → Answer
  log : Except DiskError Bytes
  next : Nat := 0
  watching : Bool := false
  asked : List Request := []

def Taped.crew : Crew Taped where
  startWatch rules log t :=
    match (t.tape t.next).refusal with
    | some e => (some e, { t with next := t.next + 1, asked := t.asked ++ [.start rules log] })
    | none => (none, { t with watching := true, asked := t.asked ++ [.start rules log] })
  stopWatch t := ((t.tape t.next).report,
    { t with next := t.next + 1, watching := false, asked := t.asked ++ [.stop] })
  run i t := ((t.tape t.next).result,
    { t with next := if t.watching then t.next else t.next + 1, asked := t.asked ++ [.run i] })
  clear _ t := (none, t)
  readLog _ t := (t.log, t)
  dump _ t := t
  note _ t := t

@[simp]
theorem Taped.note_eq (n : Note) (t : Taped) : crew.note n t = t := rfl

inductive Call where
  | engine (method : String)
  | hook (text : String)

inductive Finish where
  | passed
  | failed (code : Int)
  | aborted (cause : BuildError)

namespace Finish

def isFailed : Finish → Bool
  | .failed _ => true
  | _ => false

def ofCode (code : Int) : Finish := if code = 0 then .passed else .failed code

@[simp]
def toCode : Finish → Except BuildError Int
  | .passed => .ok 0
  | .failed code => .ok code
  | .aborted e => .error e

theorem toCode_ofCode (code : Int) : (ofCode code).toCode = .ok code := by
  unfold ofCode
  split_ifs with h
  · rw [toCode, h]
  · rw [toCode]

theorem ofCode_ne_failed_zero (code : Int) : ofCode code ≠ .failed 0 := by
  unfold ofCode
  split_ifs with h
  · simp
  · simpa using h

end Finish

namespace Call

/-- The watch has the first word on a call of the engine. Of a hook that was run nothing else counts. -/
def finish : Call → Answer → Finish
  | .engine _, a =>
    match a.refusal, a.report.filter (·.outcome ≠ .ok), a.result with
    | some e, _, _ => .aborted (.watchdog e)
    | none, some r, _ => .aborted (.supervision r.outcome (r.message.getD ""))
    | none, none, .error e => .aborted (.execution e)
    | none, none, .ok e => .ofCode e.code
  | .hook _, a =>
    match a.result with
    | .error e => .aborted (.execution e)
    | .ok _ => .passed

def requests (b : Build) : Call → Answer → List Request
  | .engine method, a =>
    .start b.watch b.engine.logFile ::
      if a.refusal.isSome then [] else [.run (b.engine.invocation method), .stop]
  | .hook text, _ => [.run (b.engine.hookInvocation text)]

theorem finish_ne_failed_zero (c : Call) (a : Answer) : c.finish a ≠ .failed 0 := by
  cases c with
  | engine method =>
    simp only [finish]
    split
    · simp
    · simp
    · simp
    · exact Finish.ofCode_ne_failed_zero _
  | hook text =>
    simp only [finish]
    split <;> simp

end Call

namespace Build
variable (b : Build) (tape : Nat → Answer) (log : Except DiskError Bytes) (n : Nat)
  (asked : List Request)

theorem verdict_toCode (a : Answer) (method : String) (h : a.refusal = none) :
    (verdict a.report a.result).map (·.code) = ((Call.engine method).finish a).toCode := by
  obtain ⟨refusal, result, report⟩ := a
  subst h
  -- without a crash or a hang the result decides
  have hquiet : (verdict none result).map (·.code) =
      ((Call.engine method).finish ⟨none, result, none⟩).toCode := by
    cases result with
    | error e => rfl
    | ok e => exact (Finish.toCode_ofCode e.code).symm
  rcases report with _ | ⟨_ | _ | _, message, lines⟩
  · exact hquiet
  · exact hquiet
  · rfl
  · rfl

theorem callEngine_taped (method : String) :
    b.callEngine Taped.crew method ⟨tape, log, n, false, asked⟩ =
      (((Call.engine method).finish (tape n)).toCode,
        ⟨tape, log, n + 1, false, asked ++ (Call.engine method).requests b (tape n)⟩) := by
  cases hr : (tape n).refusal with
  | some e => simp [callEngine, watched, Taped.crew, hr, Call.finish, Call.requests]
  | none =>
    have hv := verdict_toCode (tape n) method hr
    rw [← hv]
    cases hw : verdict (tape n).report (tape n).result <;>
      simp [callEngine, watched, Taped.crew, hr, hw, Call.requests, Except.map]

theorem run_hook_taped (text : String) :
    Taped.crew.run (b.engine.hookInvocation text) ⟨tape, log, n, false, asked⟩ =
      ((tape n).result,
        ⟨tape, log, n + 1, false, asked ++ (Call.hook text).requests b (tape n)⟩) := rfl

end Build
end Foreman
