import Foreman.Proofs.Build.Record

/-! A journal of all that a build asks of its crew, with the answers. Where nothing goes wrong, what was run can be
told beforehand. -/

namespace Foreman
open Watch

variable {σ : Type}

inductive Exchange where
  | cleared (dir : Path) (error : Option DiskError)
  | started (log : Path) (refusal : Option StartError)
  | ran (i : Invocation) (result : Except RunError Execution)
  | stopped (report : Option Report)
  | looked (log : Path) (content : Except DiskError Bytes)
  | dumped (frame : String)

namespace Exchange

def succeeded : Exchange → Bool
  | cleared _ error => error.isNone
  | started _ refusal => refusal.isNone
  | ran _ (.ok e) => e.code = 0
  | ran _ (.error _) => false
  | stopped report => report.all (·.outcome = .ok)
  | looked _ content => content.isOk
  | dumped _ => true

def invocation? : Exchange → Option Invocation
  | ran i _ => some i
  | _ => none

def isClear : Exchange → Bool
  | cleared _ _ => true
  | _ => false

end Exchange

structure Journalled (σ : Type) where
  inner : σ
  journal : List Exchange := []

def Journalled.enter (x : Journalled σ) (s : σ) (e : Exchange) : Journalled σ := ⟨s, x.journal ++ [e]⟩

def Crew.journalled (c : Crew σ) : Crew (Journalled σ) where
  startWatch rules log x :=
    let (refusal, s) := c.startWatch rules log x.inner
    (refusal, x.enter s (.started log refusal))
  stopWatch x :=
    let (report, s) := c.stopWatch x.inner
    (report, x.enter s (.stopped report))
  run i x :=
    let (result, s) := c.run i x.inner
    (result, x.enter s (.ran i result))
  clear dir x :=
    let (error, s) := c.clear dir x.inner
    (error, x.enter s (.cleared dir error))
  readLog log x :=
    let (content, s) := c.readLog log x.inner
    (content, x.enter s (.looked log content))
  dump frame x := x.enter (c.dump frame x.inner) (.dumped frame)
  note n x := ⟨c.note n x.inner, x.journal⟩

/-- What was entered from `x` to `y`. No directory was emptied, and if all succeeded it came to something good and
the commands are as planned. -/
def Enters (planned : List Invocation) (good : Prop) (x y : Journalled σ) : Prop :=
  ∃ entries, y.journal = x.journal ++ entries ∧ (∀ e ∈ entries, e.isClear = false) ∧
    ((∀ e ∈ entries, e.succeeded) → good ∧ entries.filterMap Exchange.invocation? = planned)

namespace Enters
variable {planned planned' : List Invocation} {good good' : Prop} {x y z : Journalled σ}

theorem quiet (h : y.journal = x.journal) : Enters [] True x y :=
  ⟨[], by rw [h, List.append_nil], List.forall_mem_nil _, fun _ => ⟨trivial, rfl⟩⟩

theorem one (e : Exchange) (h : y.journal = x.journal ++ [e]) (hclear : e.isClear = false) :
    Enters e.invocation?.toList e.succeeded x y := by
  refine ⟨[e], h, fun e' he => ?_, fun hall => ⟨hall e (List.mem_singleton.2 rfl), ?_⟩⟩
  · rwa [List.mem_singleton.1 he]
  · cases hi : e.invocation? <;> simp [hi]

theorem and (h : Enters planned good x y) (h' : Enters planned' good' y z) :
    Enters (planned ++ planned') (good ∧ good') x z := by
  obtain ⟨entries, hy, hclear, hgood⟩ := h
  obtain ⟨entries', hz, hclear', hgood'⟩ := h'
  refine ⟨entries ++ entries', by rw [hz, hy, List.append_assoc],
    List.forall_mem_append.2 ⟨hclear, hclear'⟩, fun hall => ?_⟩
  obtain ⟨hall, hall'⟩ := List.forall_mem_append.1 hall
  rw [List.filterMap_append, (hgood hall).2, (hgood' hall').2]
  exact ⟨⟨(hgood hall).1, (hgood' hall').1⟩, rfl⟩

theorem imp (h : Enters planned good x y) (hg : good → good') : Enters planned good' x y := by
  obtain ⟨entries, hy, hclear, hgood⟩ := h
  exact ⟨entries, hy, hclear, fun hall => ⟨hg (hgood hall).1, (hgood hall).2⟩⟩

theorem trans (h : Enters planned good x y) (h' : Enters planned' good' y z) :
    Enters (planned ++ planned') good' x z := (h.and h').imp And.right

theorem trans_quiet (h : Enters planned good x y) (hz : z.journal = y.journal) : Enters planned good x z := by
  obtain ⟨entries, hy, hrest⟩ := h
  exact ⟨entries, hz.trans hy, hrest⟩

theorem failed {ε α : Type} {error : ε} {a : α} (h : Enters planned (.error error = Except.ok a) x y) :
    Enters planned False x y := h.imp fun heq => by cases heq

theorem spoilt {others : List Invocation} {other : Prop} (h : Enters others False x y)
    (h' : Enters planned good y z) : Enters planned' other x z := by
  obtain ⟨entries, hz, hclear, hgood⟩ := h.and h'
  exact ⟨entries, hz, hclear, fun hall => (hgood hall).1.1.elim⟩

end Enters

namespace Build
variable {b : Build} {c : Crew σ}

def commandsOf (b : Build) : Action → List Invocation
  | .engine method => [b.engine.invocation method]
  | .hooks => b.rules.resourceHooks.map b.engine.hookInvocation

def commands (b : Build) (step : Step) : List Invocation := step.actions.flatMap b.commandsOf

theorem verdict_of_success {i : Invocation} {report : Option Report} {result : Except RunError Execution}
    (hresult : (Exchange.ran i result).succeeded) (hreport : (Exchange.stopped report).succeeded) :
    ∃ e, verdict report result = .ok e ∧ e.code = 0 := by
  cases result with
  | error e => cases hresult
  | ok e =>
    have hcode : e.code = 0 := of_decide_eq_true hresult
    rcases report with _ | ⟨_ | _ | _, message, lines⟩
    · exact ⟨e, rfl, hcode⟩
    · exact ⟨e, rfl, hcode⟩
    · cases hreport
    · cases hreport

theorem watched_enters (i : Invocation) (x : Journalled σ) :
    Enters [i] (∃ e, (watched c.journalled b.watch b.engine.logFile i x).1 = .ok e ∧ e.code = 0) x
      (watched c.journalled b.watch b.engine.logFile i x).2 := by
  let start := c.startWatch b.watch b.engine.logFile x.inner
  have hstart : c.journalled.startWatch b.watch b.engine.logFile x =
      (start.1, x.enter start.2 (.started b.engine.logFile start.1)) := rfl
  cases hrefusal : start.1 with
  | some e =>
    rw [hrefusal] at hstart
    rw [watched_of_refused hstart]
    have h : Enters [] (false = true) x (x.enter start.2 (.started b.engine.logFile (some e))) :=
      .one (.started _ (some e)) rfl rfl
    exact (h.imp Bool.false_ne_true).spoilt (.quiet rfl)
  | none =>
    rw [hrefusal] at hstart
    rw [watched_of_started hstart]
    let x₁ := x.enter start.2 (.started b.engine.logFile none)
    let ran := c.journalled.run i x₁
    let stopped := c.journalled.stopWatch ran.2
    -- the command counts as succeeded by its code, but the report of the watch can overrule it
    have h₁ : Enters [] True x x₁ := (Enters.one (.started b.engine.logFile none) rfl rfl).imp fun _ => trivial
    have h₂ : Enters [i] (Exchange.ran i ran.1).succeeded x₁ ran.2 := .one (.ran i ran.1) rfl rfl
    have h₃ : Enters [] (Exchange.stopped stopped.1).succeeded ran.2 stopped.2 :=
      .one (.stopped stopped.1) rfl rfl
    exact (h₁.trans (h₂.and h₃)).imp fun ⟨hresult, hreport⟩ => verdict_of_success hresult hreport

theorem callEngine_enters (method : String) (x : Journalled σ) :
    Enters [b.engine.invocation method] ((b.callEngine c.journalled method x).1 = .ok 0) x
      (b.callEngine c.journalled method x).2 := by
  have h := watched_enters (b := b) (c := c) (b.engine.invocation method) x
  unfold callEngine
  generalize watched c.journalled b.watch b.engine.logFile (b.engine.invocation method) x = outcome at h ⊢
  obtain ⟨answer, y⟩ := outcome
  cases answer with
  | error e =>
    refine h.imp ?_
    rintro ⟨e', he, -⟩
    cases he
  | ok e =>
    have hcode : Enters [b.engine.invocation method] (e.code = 0) x y :=
      h.imp fun ⟨e', he, hcode⟩ => Except.ok.inj he ▸ hcode
    exact (hcode.imp (congrArg Except.ok)).trans_quiet rfl

theorem runHooks_enters (hooks : List String) (x : Journalled σ) :
    Enters (hooks.map b.engine.hookInvocation) ((b.runHooks c.journalled hooks x).1 = .ok ()) x
      (b.runHooks c.journalled hooks x).2 := by
  induction hooks generalizing x with
  | nil => exact (Enters.quiet rfl).imp fun _ => rfl
  | cons hook hooks ih =>
    let ran := c.journalled.run (b.engine.hookInvocation hook) x
    have h : Enters [b.engine.hookInvocation hook] (Exchange.ran (b.engine.hookInvocation hook) ran.1).succeeded
      x ran.2 := .one (.ran _ ran.1) rfl rfl
    unfold runHooks
    cases hrun : c.journalled.run (b.engine.hookInvocation hook) x with
    | mk result y =>
      have hran : ran = (result, y) := hrun
      rw [hran] at h
      cases result with
      | error e => exact (h.imp Bool.false_ne_true).spoilt (.quiet rfl)
      | ok e => exact h.trans (ih y)

theorem runAction_enters (a : Action) (x : Journalled σ) :
    Enters (b.commandsOf a) ((b.runAction c.journalled a x).1 = .ok 0) x (b.runAction c.journalled a x).2 := by
  cases a with
  | engine method => exact callEngine_enters method x
  | hooks =>
    have h := runHooks_enters (b := b) (c := c) b.rules.resourceHooks x
    unfold runAction
    generalize b.runHooks c.journalled b.rules.resourceHooks x = outcome at h
    obtain ⟨answer, y⟩ := outcome
    cases answer with
    | error e => exact h.failed.imp False.elim
    | ok u => exact h.imp fun _ => rfl

theorem runActions_enters (actions : List Action) (x : Journalled σ) :
    Enters (actions.flatMap b.commandsOf) ((b.runActions c.journalled actions x).1 = .ok 0) x
      (b.runActions c.journalled actions x).2 := by
  induction actions generalizing x with
  | nil => exact (Enters.quiet rfl).imp fun _ => rfl
  | cons a actions ih =>
    have h := runAction_enters (b := b) (c := c) a x
    unfold runActions
    generalize b.runAction c.journalled a x = outcome at h
    obtain ⟨answer, y⟩ := outcome
    cases answer with
    | error e => exact h.failed.spoilt (.quiet rfl)
    | ok code =>
      dsimp only at h ⊢
      split_ifs with hcode
      · exact h.trans (ih y)
      · exact (h.imp fun heq => hcode (Except.ok.inj heq)).spoilt (.quiet rfl)

theorem stepActions_enters (step : Step) (x : Journalled σ) : Enters (b.commands step)
    ((b.runActions c.journalled step.actions (c.journalled.note .stepStarted x)).1 = .ok 0) x
    (b.runActions c.journalled step.actions (c.journalled.note .stepStarted x)).2 :=
  have hstart : Enters [] True x (c.journalled.note .stepStarted x) := .quiet rfl
  hstart.trans (runActions_enters step.actions _)

theorem attempt_enters (step : Step) (budget before : Nat) (x : Journalled σ) :
    Enters (b.commands step) ((b.attempt c.journalled step budget before x).1 = .ok (0, before + 1)) x
      (b.attempt c.journalled step budget before x).2 := by
  -- over the budget; only the first attempt can be one in which all succeeds
  induction budget generalizing before x with
  | zero =>
    have h := stepActions_enters (b := b) (c := c) step x
    unfold attempt
    generalize b.runActions c.journalled step.actions (c.journalled.note .stepStarted x) = outcome at h
    obtain ⟨answer, y⟩ := outcome
    cases answer with
    | error e => exact h.failed.spoilt (.quiet rfl)
    | ok code =>
      simp only [ite_self]
      exact h.imp fun heq => by rw [Except.ok.inj heq]
  | succ budget ih =>
    have h := stepActions_enters (b := b) (c := c) step x
    unfold attempt
    generalize b.runActions c.journalled step.actions (c.journalled.note .stepStarted x) = outcome at h
    obtain ⟨answer, y⟩ := outcome
    cases answer with
    | error e => exact h.failed.spoilt (.quiet rfl)
    | ok code =>
      dsimp only at h ⊢
      split_ifs with hcode
      · exact h.imp fun heq => by rw [Except.ok.inj heq]
      · exact ((h.imp fun heq => hcode (Except.ok.inj heq)).trans_quiet rfl).spoilt (ih (before + 1) _)

theorem dumpLog_enters (x : Journalled σ) : Enters [] True x (b.dumpLog c.journalled x) := by
  let looked := c.journalled.readLog b.engine.logFile x
  have h : Enters [] (Exchange.looked b.engine.logFile looked.1).succeeded x looked.2 :=
    .one (.looked _ looked.1) rfl rfl
  unfold dumpLog
  cases hlooked : c.journalled.readLog b.engine.logFile x with
  | mk content y =>
    have heq : looked = (content, y) := hlooked
    rw [heq] at h
    cases content with
    | error e => exact (h.imp fun _ => trivial).trans_quiet rfl
    | ok content =>
      have hdump := Enters.one (.dumped (logFrame b.engine.logFile content))
        (x := y) (y := c.journalled.dump (logFrame b.engine.logFile content) y) rfl rfl
      exact (h.trans hdump).imp fun _ => trivial

theorem run_enters (hskip : b.rules.skip = false) (step : Step) (retry : Nat) {x y : Journalled σ}
    (h : b.clearOutput c.journalled x = (none, y)) :
    Enters (b.commands step) ((b.run c.journalled step retry x).1 = .ok ⟨step, 1, false⟩) y
      (b.run c.journalled step retry x).2 := by
  have hattempt := attempt_enters (b := b) (c := c) step retry 0 y
  unfold run
  rw [if_neg (by simp [hskip]), h]
  dsimp only
  generalize b.attempt c.journalled step retry 0 y = outcome at hattempt
  obtain ⟨answer, z⟩ := outcome
  cases answer with
  | error e => exact hattempt.failed.spoilt (dumpLog_enters z)
  | ok last =>
    obtain ⟨code, attempts⟩ := last
    dsimp only at hattempt ⊢
    split_ifs with hcode
    · refine (hattempt.imp fun heq => ?_).trans_quiet rfl
      cases heq
      rfl
    · refine (hattempt.imp fun heq => hcode ?_).spoilt (dumpLog_enters (c.journalled.note .stepExhausted z))
      cases heq
      rfl

def journal (b : Build) (c : Crew σ) (step : Step) (retry : Nat) (s : σ) : List Exchange :=
  (b.run c.journalled step retry ⟨s, []⟩).2.journal

/-- A run begins with its output directory, if it has one, and empties nothing after that. If all succeeds, so
does the run, with the commands of one attempt. -/
theorem journal_run (hskip : b.rules.skip = false) (c : Crew σ) (step : Step) (retry : Nat) (s : σ) :
    ∃ error rest, b.journal c step retry s = (b.rules.cleanOutput.map (Exchange.cleared · error)).toList ++ rest ∧
      (∀ e ∈ rest, e.isClear = false) ∧
      ((∀ e ∈ b.journal c step retry s, e.succeeded) →
        (b.run c.journalled step retry ⟨s, []⟩).1 = .ok ⟨step, 1, false⟩ ∧
          (b.journal c step retry s).filterMap Exchange.invocation? = b.commands step) := by
  unfold journal
  cases hdir : b.rules.cleanOutput with
  | none =>
    have hclear : b.clearOutput c.journalled ⟨s, []⟩ = (none, ⟨s, []⟩) := by rw [clearOutput, hdir]
    obtain ⟨rest, hjournal, hquiet, hgood⟩ := run_enters hskip step retry hclear
    rw [List.nil_append] at hjournal
    exact ⟨none, rest, hjournal, hquiet, hjournal.symm ▸ hgood⟩
  | some dir =>
    let cleared := c.clear dir s
    have hasked : c.journalled.clear dir ⟨s, []⟩ = (cleared.1, ⟨cleared.2, [.cleared dir cleared.1]⟩) := rfl
    cases herror : cleared.1 with
    | some e =>
      have hrun : b.run c.journalled step retry ⟨s, []⟩ =
          (.error (.cleanOutput dir e), ⟨cleared.2, [.cleared dir (some e)]⟩) := by
        rw [run, if_neg (by simp [hskip]), clearOutput, hdir]
        simp only [hasked, herror]
      rw [hrun]
      refine ⟨some e, [], rfl, List.forall_mem_nil _, fun hall => ?_⟩
      cases hall _ List.mem_cons_self
    | none =>
      have hclear : b.clearOutput c.journalled ⟨s, []⟩ = (none, ⟨cleared.2, [.cleared dir none]⟩) := by
        rw [clearOutput, hdir]
        simp only [hasked, herror]
      obtain ⟨rest, hjournal, hquiet, hgood⟩ := run_enters hskip step retry hclear
      refine ⟨none, rest, hjournal, hquiet, fun hall => ?_⟩
      rw [hjournal] at hall ⊢
      exact hgood (List.forall_mem_append.1 hall).2

variable (b c)

theorem journalled_alike : b.Alike c c.journalled fun s x => x.inner = s where
  start := by
    rintro s x rfl
    exact ⟨rfl, rfl⟩
  stop := by
    rintro s x rfl
    exact ⟨rfl, rfl⟩
  run i := by
    rintro rfl
    exact ⟨rfl, rfl⟩
  clear _ := by
    rintro rfl
    exact ⟨rfl, rfl⟩
  dumpLog := by
    rintro s x rfl
    cases hread : c.readLog b.engine.logFile x.inner with
    | mk content s => cases content <;> simp only [dumpLog, Crew.journalled, Journalled.enter, hread]
  note n := by
    rintro rfl
    rfl

end Build
end Foreman
