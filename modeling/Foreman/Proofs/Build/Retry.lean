import Foreman.Proofs.Build.Tape
import Mathlib.Data.List.Range
import Mathlib.Tactic.SplitIfs

/-! Which calls a run of a step makes, and what it comes to, when the answers are given beforehand. An
attempt ends at the first call that does not pass. Another one begins, with the first action again, only
after an attempt that failed and while the budget lasts. -/

namespace Foreman
open Watch

structure Attempt where
  made : List (Call × Answer)
  finish : Finish

namespace Attempt

/-- Makes calls in order up to the first that does not pass. The first one is call number `n`. -/
def play (tape : Nat → Answer) : List Call → Nat → Attempt
  | [], _ => ⟨[], .passed⟩
  | c :: cs, n =>
    match c.finish (tape n) with
    | .passed => ⟨(c, tape n) :: (play tape cs (n + 1)).made, (play tape cs (n + 1)).finish⟩
    | f => ⟨[(c, tape n)], f⟩

def requests (b : Build) (a : Attempt) : List Request := a.made.flatMap fun x => x.1.requests b x.2

def andThen (a : Attempt) (next : Nat → Attempt) (n : Nat) : Attempt :=
  match a.finish with
  | .passed => ⟨a.made ++ (next (n + a.made.length)).made, (next (n + a.made.length)).finish⟩
  | _ => a

variable (tape : Nat → Answer)

theorem play_append (cs ds : List Call) (n : Nat) :
    play tape (cs ++ ds) n = (play tape cs n).andThen (play tape ds) n := by
  induction cs generalizing n with
  | nil => simp [play, andThen]
  | cons c cs ih =>
    cases hf : c.finish (tape n) with
    | passed =>
      simp only [List.cons_append, play, hf, ih, andThen, List.length_cons]
      cases hs : (play tape cs (n + 1)).finish <;> simp [hs, Nat.add_assoc, Nat.add_comm 1]
    | failed code => simp [play, hf, andThen]
    | aborted e => simp [play, hf, andThen]

theorem finish_ne_failed_zero (cs : List Call) (n : Nat) : (play tape cs n).finish ≠ .failed 0 := by
  induction cs generalizing n with
  | nil => simp [play]
  | cons c cs ih =>
    have hc := c.finish_ne_failed_zero (tape n)
    cases hf : c.finish (tape n) with
    | passed => simpa [play, hf] using ih (n + 1)
    | failed code => simpa [play, hf] using hc
    | aborted e => simp [play, hf]

theorem code_ne_zero {cs : List Call} {n : Nat} {code : Int}
    (h : (play tape cs n).finish = .failed code) : code ≠ 0 := by
  rintro rfl
  exact finish_ne_failed_zero tape cs n h

end Attempt

namespace Build

def actionCalls (b : Build) : Action → List Call
  | .engine method => [.engine method]
  | .hooks => b.rules.resourceHooks.map .hook

def calls (b : Build) (step : Step) : List Call := step.actions.flatMap b.actionCalls

def firstCall (b : Build) (step : Step) (tape : Nat → Answer) : Nat → Nat
  | 0 => 0
  | k + 1 => firstCall b step tape k +
    (Attempt.play tape (b.calls step) (firstCall b step tape k)).made.length

/-- The attempts that would be made if each of them failed, counted from zero. -/
def attemptAt (b : Build) (step : Step) (tape : Nat → Answer) (k : Nat) : Attempt :=
  .play tape (b.calls step) (b.firstCall step tape k)

variable (b : Build) (tape : Nat → Answer) (log : Except DiskError Bytes)

def played (n : Nat) (asked : List Request) (a : Attempt) : Taped :=
  ⟨tape, log, n + a.made.length, false, asked ++ a.requests b⟩

theorem runHooks_taped (hooks : List String) (n : Nat) (asked : List Request) :
    (b.runHooks Taped.crew hooks ⟨tape, log, n, false, asked⟩).1.map (fun _ => 0) =
      (Attempt.play tape (hooks.map .hook) n).finish.toCode ∧
    (b.runHooks Taped.crew hooks ⟨tape, log, n, false, asked⟩).2 =
      b.played tape log n asked (.play tape (hooks.map .hook) n) := by
  induction hooks generalizing n asked with
  | nil => simp [runHooks, Attempt.play, Except.map, played, Attempt.requests]
  | cons hook hooks ih =>
    rw [runHooks, run_hook_taped]
    cases hr : (tape n).result with
    | error e =>
      simp [Attempt.play, Call.finish, hr, Except.map, played, Attempt.requests]
    | ok e =>
      obtain ⟨h1, h2⟩ := ih (n + 1) (asked ++ (Call.hook hook).requests b (tape n))
      simp only [List.map_cons, Attempt.play, Call.finish, hr]
      refine ⟨h1, h2.trans ?_⟩
      simp [played, Attempt.requests, Nat.add_assoc, Nat.add_comm 1]

theorem runAction_taped (a : Action) (n : Nat) (asked : List Request) :
    b.runAction Taped.crew a ⟨tape, log, n, false, asked⟩ =
      ((Attempt.play tape (b.actionCalls a) n).finish.toCode,
        b.played tape log n asked (.play tape (b.actionCalls a) n)) := by
  cases a with
  | engine method =>
    rw [runAction, callEngine_taped, actionCalls]
    cases hf : (Call.engine method).finish (tape n) <;>
      simp [Attempt.play, hf, played, Attempt.requests]
  | hooks =>
    obtain ⟨h1, h2⟩ := b.runHooks_taped tape log b.rules.resourceHooks n asked
    rw [runAction, actionCalls, ← h1, ← h2]
    rcases b.runHooks Taped.crew b.rules.resourceHooks ⟨tape, log, n, false, asked⟩ with ⟨_ | _, _⟩ <;>
      rfl

theorem runActions_taped (actions : List Action) (n : Nat) (asked : List Request) :
    b.runActions Taped.crew actions ⟨tape, log, n, false, asked⟩ =
      ((Attempt.play tape (actions.flatMap b.actionCalls) n).finish.toCode,
        b.played tape log n asked (.play tape (actions.flatMap b.actionCalls) n)) := by
  induction actions generalizing n asked with
  | nil => simp [runActions, Attempt.play, played, Attempt.requests]
  | cons a actions ih =>
    rw [runActions, runAction_taped, List.flatMap_cons, Attempt.play_append, Attempt.andThen]
    cases hf : (Attempt.play tape (b.actionCalls a) n).finish with
    | passed =>
      simp only [Finish.toCode, if_true, played]
      rw [ih]
      simp [played, Attempt.requests, Nat.add_assoc]
    | failed code =>
      have hc : code ≠ 0 := Attempt.code_ne_zero tape hf
      simp [hf, hc, Taped.crew]
    | aborted e => simp [hf]

def before (step : Step) (k : Nat) : Taped :=
  ⟨tape, log, b.firstCall step tape k, false,
    (List.range k).flatMap fun j => (b.attemptAt step tape j).requests b⟩

theorem runActions_before (step : Step) (k : Nat) :
    b.runActions Taped.crew step.actions (b.before tape log step k) =
      ((b.attemptAt step tape k).finish.toCode, b.before tape log step (k + 1)) := by
  rw [before, runActions_taped]
  simp [attemptAt, calls, before, played, firstCall, List.range_succ]

/-- The number of the last attempt: the first one that does not fail, or the one that uses up the budget. -/
def lastAttempt (b : Build) (step : Step) (retry : Nat) (tape : Nat → Answer) : Nat :=
  ((List.range retry).find? fun k => !(b.attemptAt step tape k).finish.isFailed).getD retry

def expected (b : Build) (step : Step) (retry : Nat) (tape : Nat → Answer) :
    Except BuildError StepReport × List Request :=
  let k := b.lastAttempt step retry tape
  (match (b.attemptAt step tape k).finish with
    | .passed => .ok ⟨step, k + 1, false⟩
    | .failed code => .error (.stepFailed step code (retry + 1))
    | .aborted e => .error e,
    (List.range (k + 1)).flatMap fun j => (b.attemptAt step tape j).requests b)

structure EndsAt (step : Step) (tape : Nat → Answer) (budget j k : Nat) : Prop where
  after : j ≤ k
  within : k ≤ j + budget
  failing : ∀ i, j ≤ i → i < k → (b.attemptAt step tape i).finish.isFailed = true
  final : k < j + budget → (b.attemptAt step tape k).finish.isFailed = false

theorem EndsAt.self {step : Step} {budget j : Nat}
    (h : (b.attemptAt step tape j).finish.isFailed = false) : b.EndsAt step tape budget j j :=
  ⟨le_rfl, by omega, by omega, fun _ => h⟩

theorem EndsAt.cons {step : Step} {budget j k : Nat} (h : b.EndsAt step tape budget (j + 1) k)
    (hj : (b.attemptAt step tape j).finish.isFailed = true) :
    b.EndsAt step tape (budget + 1) j k := by
  have hafter := h.after
  have hwithin := h.within
  refine ⟨by omega, by omega, fun i hi hik => ?_, fun hk => h.final (by omega)⟩
  rcases Nat.eq_or_lt_of_le hi with rfl | hlt
  · exact hj
  · exact h.failing i hlt hik

theorem attempt_before (step : Step) (budget j : Nat) :
    ∃ k, b.EndsAt step tape budget j k ∧
      b.attempt Taped.crew step budget j (b.before tape log step j) =
        ((b.attemptAt step tape k).finish.toCode.map (·, k + 1), b.before tape log step (k + 1)) := by
  -- on the budget: each attempt leaves the crew as it is before the next
  induction budget generalizing j with
  | zero =>
    refine ⟨j, ⟨le_rfl, le_rfl, by omega, by omega⟩, ?_⟩
    rw [attempt, Taped.note_eq, runActions_before]
    cases (b.attemptAt step tape j).finish <;> simp [Except.map]
  | succ budget ih =>
    rw [attempt, Taped.note_eq, runActions_before]
    cases hf : (b.attemptAt step tape j).finish with
    | passed => exact ⟨j, .self b tape (by rw [hf]; rfl), by simp [hf, Except.map]⟩
    | failed code =>
      obtain ⟨k, hk, hrun⟩ := ih (j + 1)
      have hc : code ≠ 0 := Attempt.code_ne_zero tape hf
      exact ⟨k, hk.cons b tape (by rw [hf]; rfl), by simpa [hc] using hrun⟩
    | aborted e => exact ⟨j, .self b tape (by rw [hf]; rfl), by simp [hf, Except.map]⟩

theorem EndsAt.lastAttempt_eq {step : Step} {retry k : Nat} (h : b.EndsAt step tape retry 0 k) :
    b.lastAttempt step retry tape = k := by
  have hwithin := h.within
  rcases Nat.lt_or_ge k retry with hlt | hge
  · have hk : (List.range retry).find? (fun k => !(b.attemptAt step tape k).finish.isFailed) =
        some k := by
      rw [List.find?_range_eq_some]
      refine ⟨by rw [h.final (by omega)]; rfl, by simpa using hlt, fun j hj => ?_⟩
      rw [h.failing j (by omega) hj]
      rfl
    rw [lastAttempt, hk, Option.getD_some]
  · have hk : (List.range retry).find? (fun k => !(b.attemptAt step tape k).finish.isFailed) =
        none := by
      rw [List.find?_range_eq_none]
      intro j hj
      rw [h.failing j (by omega) (by omega)]
      rfl
    rw [lastAttempt, hk, Option.getD_none]
    omega

theorem dumpLog_asked (t : Taped) : (b.dumpLog Taped.crew t).asked = t.asked := by
  simp only [dumpLog, Taped.crew]
  cases t.log <;> rfl

/-- A run asks for the calls that the answers call for and no others, and comes to what they amount to. -/
theorem run_taped (step : Step) (retry : Nat) (h : b.rules.skip = false) :
    ((b.run Taped.crew step retry { tape, log }).1, (b.run Taped.crew step retry { tape, log }).2.asked) =
      b.expected step retry tape := by
  obtain ⟨k, hk, hrun⟩ := b.attempt_before tape log step retry 0
  have hclear : b.clearOutput Taped.crew (b.before tape log step 0) =
      (none, b.before tape log step 0) := by
    unfold clearOutput
    cases b.rules.cleanOutput <;> rfl
  have hstart : ({ tape, log } : Taped) = b.before tape log step 0 := rfl
  rw [expected, hk.lastAttempt_eq, hstart]
  simp only [run, h, hclear, hrun, Bool.false_eq_true, if_false]
  cases hf : (b.attemptAt step tape k).finish with
  | passed => simp [Except.map, before]
  | failed code =>
    have hc : code ≠ 0 := Attempt.code_ne_zero tape hf
    have hkr : k = retry := by
      by_contra hne
      have hwithin := hk.within
      have hfinal := hk.final (by omega)
      simp [hf, Finish.isFailed] at hfinal
    simp [Except.map, hc, dumpLog_asked, before, hkr]
  | aborted e => simp [Except.map, dumpLog_asked, before]

theorem run_taped_hook_breaks :
    let b : Build :=
      ⟨⟨"engine", ⟨"project"⟩, "", .ios, ⟨"log"⟩, []⟩, {}, { resourceHooks := ["hook"] }⟩
    let tape : Nat → Answer
      | 0 => { result := .ok { code := 3 } }
      | 1 => { result := .ok { code := 0 }, report := some ⟨.ok, none, 5⟩ }
      | _ => { result := .error (.spawn "hook" .notFound) }
    let t : Taped := { tape, log := .ok [] }
    let call := [.start {} ⟨"log"⟩, .run (b.engine.invocation "BuildResource"), .stop]
    b.rules.skip = false ∧
      ((b.run Taped.crew .rebuildResource 4 t).1, (b.run Taped.crew .rebuildResource 4 t).2.asked) =
        (.error (.execution (.spawn "hook" .notFound)),
          call ++ call ++ [.run (b.engine.hookInvocation "hook")]) :=
  ⟨rfl, (run_taped _ _ _ _ _ rfl).trans rfl⟩

end Build
end Foreman
