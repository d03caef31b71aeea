import Foreman.Command.Bench
import Mathlib.Data.List.Chain
import Mathlib.Tactic.SplitIfs

/-! Calls of commands, one after another. What a call answers, and whether it leaves a mark, is settled by how its own
process ended; a wish to ignore errors has a say in the answer alone. No call leaves a process in a slot. -/

namespace Foreman

def Launch.code? : Launch → Option Int
  | .refused _ | .lost _ _ => none
  | .ended _ remains => some remains.ending.code

/-- An executor and all that was cloned from it, directly or through clones. -/
inductive Handle.CloneOf (x : Handle) : Handle → Prop
  | self : CloneOf x x
  | clone {y} (h : CloneOf x y) : CloneOf x y.clone

theorem Handle.CloneOf.executor_eq {x y : Handle} (h : x.CloneOf y) : y.executor = x.executor := by
  induction h with
  | self => rfl
  | clone _ ih => exact ih

namespace Bench

def Served.ignoring (t : Served) : Served :=
  t.before.serve { t.call with what := { t.call.what with ignoreError := true } }

/-- What can be relied on after a call. -/
structure Served.Lawful (t : Served) : Prop where
  spawn : (∃ line cause, t.answer = .error (.spawn line cause)) ↔ t.call.launch.code? = none
  failed : (∃ line code stdout stderr, t.answer = .error (.failed line code stdout stderr)) ↔
    t.call.what.ignoreError = false ∧ ∃ code, code ≠ 0 ∧ t.call.launch.code? = some code
  told : ∀ line code stdout stderr, t.answer = .error (.failed line code stdout stderr) →
    ∃ pid remains, t.call.launch = .ended pid remains ∧
      t.ignoring.answer = .ok (Execution.ofRemains remains) ∧ code = remains.ending.code ∧
        stdout = Text.trim (Utf8.decode remains.stdout) ∧ stderr = Text.trim (Utf8.decode remains.stderr)
  marked : ∀ x y : Handle, x.CloneOf t.call.handle → x.CloneOf y →
    ((t.after.lastError y).isSome ↔ t.call.launch.code? ≠ some 0)
  unaffected : t.ignoring.after = t.after
  released : ∀ slot, t.before.slots slot = none → t.after.slots slot = none

section call
variable {b : Bench} {x y : Handle} {i : Invocation} {l : Launch}

theorem lastError_mark (failure : Option String) : (b.mark x failure).lastError y =
    if y.executor = x.executor then failure else b.lastError y := by
  unfold lastError mark
  dsimp only
  split_ifs <;> rfl

theorem lastError_publish (slot : Option SlotId) (pid : Option Nat) :
    (b.publish slot pid).lastError y = b.lastError y := by
  cases slot <;> rfl

theorem slots_publish (slot : Option SlotId) (pid : Option Nat) (s : SlotId) :
    (b.publish slot pid).slots s = if slot = some s then pid else b.slots s := by
  cases slot with
  | none => rfl
  | some slot => simp [publish, eq_comm]

theorem lastError_enter (hy : y.executor = x.executor) (pid : Option Nat) :
    (b.enter x i pid).lastError y = none := by
  cases pid with
  | none => rw [enter, lastError_mark, if_pos hy]
  | some pid => rw [enter, lastError_publish, lastError_mark, if_pos hy]

theorem lastError_withdraw (pid : Option Nat) : (b.withdraw i pid).lastError y = b.lastError y := by
  cases pid with
  | none => rfl
  | some pid => exact lastError_publish i.slot none

theorem lastError_call (hy : y.executor = x.executor) :
    (b.call x i l).2.lastError y = (Executor.conclude i l.outcome).2.lastError := by
  have hclear := (lastError_withdraw (i := i) l.pid?).trans (lastError_enter (b := b) (i := i) hy l.pid?)
  unfold call leave
  dsimp only
  cases (Executor.conclude i l.outcome).2.lastError with
  | none => exact hclear
  | some failure => exact (lastError_mark (some failure)).trans (if_pos hy)

theorem slots_report (failure : Option String) : (b.report x failure).slots = b.slots := by
  cases failure <;> rfl

theorem slots_call (slot : SlotId) : (b.call x i l).2.slots slot =
    if i.slot = some slot ∧ l.pid?.isSome then none else b.slots slot := by
  unfold call leave
  dsimp only
  rw [slots_report]
  cases l.pid? with
  | none => simp [enter, withdraw, mark]
  | some pid =>
    simp only [enter, withdraw, slots_publish, Option.isSome_some, and_true]
    split_ifs <;> rfl

end call

section serve
variable {b : Bench} {c : Call} {calls : List Call} {t : Served} {answer : Except RunError Execution}

theorem isSome_lastError_conclude (i : Invocation) (l : Launch) :
    (Executor.conclude i l.outcome).2.lastError.isSome ↔ l.code? ≠ some 0 := by
  cases l with
  | refused cause => simp [Launch.outcome, Launch.code?, Executor.conclude]
  | lost pid cause => simp [Launch.outcome, Launch.code?, Executor.conclude]
  | ended pid remains =>
    have hcode : (Execution.ofRemains remains).code = remains.ending.code := rfl
    by_cases h : remains.ending.code = 0 <;>
      simp [Launch.outcome, Launch.code?, Executor.conclude, Executor.failure?, hcode, h]

inductive Call.Answers (c : Call) : Except RunError Execution → Prop
  | notRun {cause} (hcode : c.launch.code? = none) : Answers c (.error (.spawn c.what.commandLine cause))
  | failed {pid remains} (hlaunch : c.launch = .ended pid remains) (hcode : remains.ending.code ≠ 0)
    (hignore : c.what.ignoreError = false) :
    Answers c (.error (.failed c.what.commandLine remains.ending.code (Text.trim (Utf8.decode remains.stdout))
      (Text.trim (Utf8.decode remains.stderr))))
  | taken {pid remains} (hlaunch : c.launch = .ended pid remains)
    (hcode : remains.ending.code = 0 ∨ c.what.ignoreError = true) : Answers c (.ok (Execution.ofRemains remains))

theorem serve_answers (b : Bench) (c : Call) : c.Answers (b.serve c).answer := by
  have hanswer : (b.serve c).answer = (Executor.conclude c.what c.launch.outcome).1 := rfl
  rw [hanswer]
  cases hlaunch : c.launch with
  | refused cause => exact .notRun (by rw [hlaunch]; rfl)
  | lost pid cause => exact .notRun (by rw [hlaunch]; rfl)
  | ended pid remains =>
    simp only [Launch.outcome, Executor.conclude, Invocation.accept]
    have hcode : (Execution.ofRemains remains).code = remains.ending.code := rfl
    rw [hcode]
    by_cases hzero : remains.ending.code = 0
    · simp only [hzero, ne_eq, not_true_eq_false, decide_false, Bool.false_and, Bool.false_eq_true, if_false]
      exact .taken hlaunch (.inl hzero)
    · cases hignore : c.what.ignoreError with
      | true =>
        simp only [Bool.not_true, Bool.and_false, Bool.false_eq_true, if_false]
        exact .taken hlaunch (.inr hignore)
      | false =>
        simp only [hzero, ne_eq, not_false_eq_true, decide_true, Bool.not_false, Bool.and_true, if_true]
        exact .failed hlaunch hzero hignore

namespace Call.Answers

theorem spawn_iff (h : c.Answers answer) :
    (∃ line cause, answer = .error (.spawn line cause)) ↔ c.launch.code? = none := by
  cases h with
  | notRun hcode => simp [hcode]
  | failed hlaunch hcode hignore => simp [hlaunch, Launch.code?]
  | taken hlaunch hcode => simp [hlaunch, Launch.code?]

theorem failed_iff (h : c.Answers answer) :
    (∃ line code stdout stderr, answer = .error (.failed line code stdout stderr)) ↔
      c.what.ignoreError = false ∧ ∃ code, code ≠ 0 ∧ c.launch.code? = some code := by
  cases h with
  | notRun hcode => simp [hcode]
  | failed hlaunch hcode hignore => simp [hlaunch, Launch.code?, hcode, hignore]
  | taken hlaunch hcode =>
    simp only [hlaunch, Launch.code?, reduceCtorEq, exists_false, Option.some.injEq, exists_eq_right', false_iff]
    rintro ⟨hignore, hne⟩
    obtain hzero | htrue := hcode
    · exact hne hzero
    · rw [hignore] at htrue
      cases htrue

theorem eq_ok {pid : Nat} {remains : Remains} (h : c.Answers answer) (hlaunch : c.launch = .ended pid remains)
    (hignore : c.what.ignoreError = true) : answer = .ok (Execution.ofRemains remains) := by
  cases h with
  | notRun hcode => simp [hlaunch, Launch.code?] at hcode
  | failed hlaunch' hcode hfalse =>
    rw [hignore] at hfalse
    cases hfalse
  | taken hlaunch' hcode =>
    obtain ⟨-, rfl⟩ := Launch.ended.inj (hlaunch.symm.trans hlaunch')
    rfl

end Call.Answers

theorem serve_lawful (b : Bench) (c : Call) : (b.serve c).Lawful where
  spawn := (b.serve_answers c).spawn_iff
  failed := (b.serve_answers c).failed_iff
  told line code stdout stderr h := by
    have hanswers := b.serve_answers c
    rw [h] at hanswers
    cases hanswers with
    | failed hlaunch hcode hignore =>
      exact ⟨_, _, hlaunch, (b.serve_answers _).eq_ok hlaunch rfl, rfl, rfl, rfl⟩
  marked x y hx hy := by
    have hshared : y.executor = c.handle.executor := hy.executor_eq.trans hx.executor_eq.symm
    rw [← isSome_lastError_conclude c.what]
    exact (congrArg (·.isSome = true) (lastError_call hshared)).to_iff
  unaffected := by
    cases h : c.launch <;> simp only [serve, Served.ignoring, h] <;> rfl
  released slot h := by
    refine (slots_call slot).trans ?_
    split_ifs
    · rfl
    · exact h

theorem exists_serve_of_mem (ht : t ∈ b.serveAll calls) : ∃ b' c, t = serve b' c := by
  induction calls generalizing b with
  | nil => cases ht
  | cons c calls ih =>
    obtain rfl | ht := List.mem_cons.1 ht
    · exact ⟨b, c, rfl⟩
    · exact ih ht

theorem serveAll_calls (b : Bench) (calls : List Call) : (b.serveAll calls).map Served.call = calls := by
  induction calls generalizing b with
  | nil => rfl
  | cons c calls ih => exact congrArg (c :: ·) (ih _)

theorem serveAll_linked (b : Bench) (calls : List Call) :
    (b.serveAll calls).IsChain (fun t u => u.before = t.after) ∧ ∀ t ∈ (b.serveAll calls).head?, t.before = b := by
  induction calls generalizing b with
  | nil => exact ⟨.nil, fun t ht => (by cases ht)⟩
  | cons c calls ih =>
    obtain ⟨hlinked, hfirst⟩ := ih (b.serve c).after
    refine ⟨List.isChain_cons.2 ⟨fun t ht => ?_, hlinked⟩, ?_⟩
    · exact hfirst t ht
    · rintro t ht
      cases ht
      rfl

end serve

/-- Calls are served one after another, each by the same rules whatever was called before. -/
theorem serveAll_lawful (b : Bench) (calls : List Call) :
    (b.serveAll calls).map Served.call = calls ∧
    (b.serveAll calls).IsChain (fun t u => u.before = t.after) ∧
    ∀ t ∈ b.serveAll calls, t.Lawful := by
  refine ⟨b.serveAll_calls calls, (b.serveAll_linked calls).1, fun t ht => ?_⟩
  obtain ⟨b', c, rfl⟩ := exists_serve_of_mem ht
  exact b'.serve_lawful c

theorem serveAll_lawful_clones :
    let x : Handle := ⟨⟨0⟩⟩
    let i : Invocation := { program := "make", slot := some ⟨7⟩ }
    let s := serve {} ⟨x, { i with ignoreError := true }, .refused .notFound⟩
    let t := s.after.serve ⟨x.clone, i, .ended 41 { ending := .killed 9, stdout := [32, 97, 10] }⟩
    let u := t.after.serve ⟨x, i, .ended 42 { ending := .exited 0 }⟩
    (∀ v ∈ [s, t, u], v ∈ serveAll {} [s.call, t.call, u.call]) ∧
      x.CloneOf t.call.handle ∧ x.CloneOf u.call.handle ∧ x.CloneOf x.clone.clone ∧
      (∃ line cause, s.answer = .error (.spawn line cause)) ∧
      (∃ line stderr, t.answer = .error (.failed line (-1) "a" stderr)) ∧
      (∃ e, t.ignoring.answer = .ok e ∧ e.code = -1 ∧ e.stdout = "a") ∧
      (t.after.lastError x.clone.clone).isSome ∧ ¬ (u.after.lastError x.clone.clone).isSome ∧
      t.before.slots ⟨7⟩ = none ∧ t.after.slots ⟨7⟩ = none := by
  intro x i s t u
  have hmem : ∀ v ∈ [s, t, u], v ∈ serveAll {} [s.call, t.call, u.call] := fun v hv => hv
  have hlawful := fun v hv => (serveAll_lawful {} [s.call, t.call, u.call]).2.2 v (hmem v hv)
  have hs : s.Lawful := hlawful s (by simp)
  have ht : t.Lawful := hlawful t (by simp)
  have hu : u.Lawful := hlawful u (by simp)
  have hx : x.CloneOf x.clone := .clone .self
  have htext : Text.trim (Utf8.decode [32, 97, 10]) = "a" := by decide +kernel
  obtain ⟨line, code, stdout, stderr, hanswer⟩ := ht.failed.2 ⟨rfl, -1, by decide, rfl⟩
  obtain ⟨pid, remains, hlaunch, hignoring, hcode, hstdout, -⟩ := ht.told _ _ _ _ hanswer
  obtain ⟨-, rfl⟩ := Launch.ended.inj hlaunch
  rw [hcode, hstdout] at hanswer
  refine ⟨hmem, hx, .self, .clone hx, hs.spawn.2 rfl, ⟨line, stderr, ?_⟩, ⟨_, hignoring, rfl, htext⟩,
    (ht.marked x _ hx (.clone hx)).2 (by decide), ?_, rfl, ht.released _ rfl⟩
  · rw [← htext]
    exact hanswer
  · rw [hu.marked x _ .self (.clone hx)]
    decide

end Bench
end Foreman
