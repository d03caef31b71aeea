import Foreman.Build.Run
import Foreman.Site
import Mathlib.Tactic.SplitIfs

/-! Crews that answer alike make a build go alike. So a crew whose calls are written down can stand for the
crew itself. -/

namespace Foreman
open Watch

variable {σ τ : Type}

def Agree {α : Type} (R : σ → τ → Prop) (x : α × σ) (y : α × τ) : Prop := x.1 = y.1 ∧ R x.2 y.2

theorem Agree.split {α : Type} {R : σ → τ → Prop} {x : α × σ} {y : α × τ} (h : Agree R x y) :
    ∃ a s t, x = (a, s) ∧ y = (a, t) ∧ R s t :=
  ⟨x.1, x.2, y.2, rfl, by rw [h.1], h.2⟩

/-- What a build is asked for by its owner. -/
inductive Errand where
  | step (step : Step) (retry : Nat)
  | method (name : String)
  deriving DecidableEq, Repr

inductive Receipt where
  | step (report : StepReport)
  | method (code : Int)
  deriving DecidableEq, Repr

namespace Build

def serve (b : Build) (c : Crew σ) : Errand → σ → Except BuildError Receipt × σ
  | .step step retry, s => ((b.run c step retry s).1.map .step, (b.run c step retry s).2)
  | .method name, s => ((b.callEngine c name s).1.map .method, (b.callEngine c name s).2)

def serveAll (b : Build) (c : Crew σ) : List Errand → σ → List (Except BuildError Receipt) × σ
  | [], s => ([], s)
  | e :: errands, s =>
    ((b.serve c e s).1 :: (b.serveAll c errands (b.serve c e s).2).1,
      (b.serveAll c errands (b.serve c e s).2).2)

theorem watched_of_refused {c : Crew σ} {rules : Rules} {log : Path} {s s₁ : σ} {e : StartError}
    (h : c.startWatch rules log s = (some e, s₁)) (i : Invocation) :
    watched c rules log i s = (.error (.watchdog e), s₁) := by rw [watched, h]

theorem watched_of_started {c : Crew σ} {rules : Rules} {log : Path} {s s₁ : σ}
    (h : c.startWatch rules log s = (none, s₁)) (i : Invocation) : watched c rules log i s =
      (verdict (c.stopWatch (c.run i s₁).2).1 (c.run i s₁).1, (c.stopWatch (c.run i s₁).2).2) := by
  rw [watched, h]

/-- What an attempt asks of its crew is answered alike from related states. -/
structure Works (b : Build) (c : Crew σ) (c' : Crew τ) (R : σ → τ → Prop) : Prop where
  start {s t} : R s t →
    Agree R (c.startWatch b.watch b.engine.logFile s) (c'.startWatch b.watch b.engine.logFile t)
  stop {s t} : R s t → Agree R (c.stopWatch s) (c'.stopWatch t)
  run {s t} (i : Invocation) : R s t → Agree R (c.run i s) (c'.run i t)
  note {s t} (n : Note) : R s t → R (c.note n s) (c'.note n t)

structure Alike (b : Build) (c : Crew σ) (c' : Crew τ) (R : σ → τ → Prop) : Prop where
  start {s t} : R s t →
    Agree R (c.startWatch b.watch b.engine.logFile s) (c'.startWatch b.watch b.engine.logFile t)
  stop {s t} : R s t → Agree R (c.stopWatch s) (c'.stopWatch t)
  run {s t} (i : Invocation) : R s t → Agree R (c.run i s) (c'.run i t)
  clear {s t dir} : b.rules.cleanOutput = some dir → R s t → Agree R (c.clear dir s) (c'.clear dir t)
  dumpLog {s t} : R s t → R (b.dumpLog c s) (b.dumpLog c' t)
  note {s t} (n : Note) : R s t → R (c.note n s) (c'.note n t)

namespace Works
variable {b : Build} {c : Crew σ} {c' : Crew τ} {R : σ → τ → Prop} {s : σ} {t : τ}

theorem watched (h : b.Works c c' R) (i : Invocation) (hst : R s t) :
    Agree R (Build.watched c b.watch b.engine.logFile i s)
      (Build.watched c' b.watch b.engine.logFile i t) := by
  obtain ⟨refusal, s₁, t₁, hs, ht, hst₁⟩ := (h.start hst).split
  cases refusal with
  | some e =>
    rw [watched_of_refused hs, watched_of_refused ht]
    exact ⟨rfl, hst₁⟩
  | none =>
    obtain ⟨result, s₂, t₂, hs', ht', hst₂⟩ := (h.run i hst₁).split
    obtain ⟨hreport, hst₃⟩ := h.stop hst₂
    rw [watched_of_started hs, watched_of_started ht, hs', ht', hreport]
    exact ⟨rfl, hst₃⟩

theorem callEngine (h : b.Works c c' R) (method : String) (hst : R s t) :
    Agree R (b.callEngine c method s) (b.callEngine c' method t) := by
  obtain ⟨answer, s₁, t₁, hs, ht, hst₁⟩ := (h.watched (b.engine.invocation method) hst).split
  unfold Build.callEngine
  rw [hs, ht]
  cases answer with
  | error e => exact ⟨rfl, hst₁⟩
  | ok e => exact ⟨rfl, h.note _ hst₁⟩

theorem runHooks (h : b.Works c c' R) (hooks : List String) (hst : R s t) :
    Agree R (b.runHooks c hooks s) (b.runHooks c' hooks t) := by
  induction hooks generalizing s t with
  | nil => exact ⟨rfl, hst⟩
  | cons hook hooks ih =>
    obtain ⟨answer, s₁, t₁, hs, ht, hst₁⟩ := (h.run (b.engine.hookInvocation hook) hst).split
    unfold Build.runHooks
    rw [hs, ht]
    cases answer with
    | error e => exact ⟨rfl, hst₁⟩
    | ok e => exact ih hst₁

theorem runAction (h : b.Works c c' R) (a : Action) (hst : R s t) :
    Agree R (b.runAction c a s) (b.runAction c' a t) := by
  cases a with
  | engine method => exact h.callEngine method hst
  | hooks =>
    obtain ⟨answer, s₁, t₁, hs, ht, hst₁⟩ := (h.runHooks b.rules.resourceHooks hst).split
    simp only [Build.runAction, hs, ht]
    cases answer with
    | error e => exact ⟨rfl, hst₁⟩
    | ok u => exact ⟨rfl, hst₁⟩

theorem runActions (h : b.Works c c' R) (actions : List Action) (hst : R s t) :
    Agree R (b.runActions c actions s) (b.runActions c' actions t) := by
  induction actions generalizing s t with
  | nil => exact ⟨rfl, hst⟩
  | cons a actions ih =>
    obtain ⟨answer, s₁, t₁, hs, ht, hst₁⟩ := (h.runAction a hst).split
    unfold Build.runActions
    rw [hs, ht]
    cases answer with
    | error e => exact ⟨rfl, hst₁⟩
    | ok code =>
      simp only
      split_ifs
      · exact ih hst₁
      · exact ⟨rfl, h.note _ hst₁⟩

theorem attempt (h : b.Works c c' R) (step : Step) (budget before : Nat) (hst : R s t) :
    Agree R (b.attempt c step budget before s) (b.attempt c' step budget before t) := by
  induction budget generalizing before s t with
  | zero =>
    obtain ⟨answer, s₁, t₁, hs, ht, hst₁⟩ := (h.runActions step.actions (h.note .stepStarted hst)).split
    unfold Build.attempt
    rw [hs, ht]
    cases answer with
    | error e => exact ⟨rfl, h.note _ hst₁⟩
    | ok code =>
      simp only [ite_self]
      exact ⟨rfl, hst₁⟩
  | succ budget ih =>
    obtain ⟨answer, s₁, t₁, hs, ht, hst₁⟩ := (h.runActions step.actions (h.note .stepStarted hst)).split
    unfold Build.attempt
    rw [hs, ht]
    cases answer with
    | error e => exact ⟨rfl, h.note _ hst₁⟩
    | ok code =>
      simp only
      split_ifs
      · exact ⟨rfl, hst₁⟩
      · exact ih (before + 1) (h.note .stepRepeated hst₁)

/-- What every call of an attempt keeps, the attempt keeps. -/
theorem of_kept {Q : σ → Prop} (hstart : ∀ s, Q s → Q (c.startWatch b.watch b.engine.logFile s).2)
    (hstop : ∀ s, Q s → Q (c.stopWatch s).2) (hrun : ∀ i s, Q s → Q (c.run i s).2)
    (hnote : ∀ n s, Q s → Q (c.note n s)) : b.Works c c fun s t => s = t ∧ Q t where
  start := by
    rintro s _ ⟨rfl, hs⟩
    exact ⟨rfl, rfl, hstart s hs⟩
  stop := by
    rintro s _ ⟨rfl, hs⟩
    exact ⟨rfl, rfl, hstop s hs⟩
  run i := by
    rintro ⟨rfl, hs⟩
    exact ⟨rfl, rfl, hrun i _ hs⟩
  note n := by
    rintro ⟨rfl, hs⟩
    exact ⟨rfl, hnote n _ hs⟩

end Works

namespace Alike
variable {b : Build} {c : Crew σ} {c' : Crew τ} {R : σ → τ → Prop} {s : σ} {t : τ}

theorem works (h : b.Alike c c' R) : b.Works c c' R := ⟨h.start, h.stop, h.run, h.note⟩

theorem clearOutput (h : b.Alike c c' R) (hst : R s t) :
    Agree R (b.clearOutput c s) (b.clearOutput c' t) := by
  unfold Build.clearOutput
  cases hdir : b.rules.cleanOutput with
  | none => exact ⟨rfl, hst⟩
  | some dir =>
    obtain ⟨answer, s₁, t₁, hs, ht, hst₁⟩ := (h.clear hdir hst).split
    simp only [hs, ht]
    cases answer with
    | some e => exact ⟨rfl, hst₁⟩
    | none => exact ⟨rfl, hst₁⟩

theorem runStep (h : b.Alike c c' R) (step : Step) (retry : Nat) (hst : R s t) :
    Agree R (b.run c step retry s) (b.run c' step retry t) := by
  unfold Build.run
  split_ifs
  · exact ⟨rfl, h.note _ hst⟩
  · obtain ⟨cleared, s₁, t₁, hs, ht, hst₁⟩ := (h.clearOutput hst).split
    rw [hs, ht]
    cases cleared with
    | some e => exact ⟨rfl, hst₁⟩
    | none =>
      obtain ⟨answer, s₂, t₂, hs, ht, hst₂⟩ := (h.works.attempt step retry 0 hst₁).split
      simp only [hs, ht]
      cases answer with
      | error e => exact ⟨rfl, h.dumpLog hst₂⟩
      | ok x =>
        simp only
        split_ifs
        · exact ⟨rfl, h.note _ hst₂⟩
        · exact ⟨rfl, h.dumpLog (h.note _ hst₂)⟩

theorem serve (h : b.Alike c c' R) (e : Errand) (hst : R s t) :
    Agree R (b.serve c e s) (b.serve c' e t) := by
  cases e with
  | step step retry =>
    obtain ⟨hanswer, hst₁⟩ := h.runStep step retry hst
    exact ⟨congrArg (Except.map _) hanswer, hst₁⟩
  | method name =>
    obtain ⟨hanswer, hst₁⟩ := h.works.callEngine name hst
    exact ⟨congrArg (Except.map _) hanswer, hst₁⟩

theorem serveAll (h : b.Alike c c' R) (errands : List Errand) (hst : R s t) :
    Agree R (b.serveAll c errands s) (b.serveAll c' errands t) := by
  induction errands generalizing s t with
  | nil => exact ⟨rfl, hst⟩
  | cons e errands ih =>
    obtain ⟨hanswer, hst₁⟩ := h.serve e hst
    obtain ⟨hanswers, hst₂⟩ := ih hst₁
    exact ⟨List.cons_eq_cons.2 ⟨hanswer, hanswers⟩, hst₂⟩

theorem of_kept {Q : σ → Prop} (hworks : b.Works c c fun s t => s = t ∧ Q t)
    (hclear : ∀ dir s, Q s → Q (c.clear dir s).2) (hread : ∀ log s, Q s → Q (c.readLog log s).2)
    (hdump : ∀ frame s, Q s → Q (c.dump frame s)) : b.Alike c c fun s t => s = t ∧ Q t where
  start := hworks.start
  stop := hworks.stop
  run := hworks.run
  clear _ := by
    rintro ⟨rfl, hs⟩
    exact ⟨rfl, rfl, hclear _ _ hs⟩
  dumpLog := by
    rintro s _ ⟨rfl, hs⟩
    have hlooked := hread b.engine.logFile s hs
    refine ⟨rfl, ?_⟩
    unfold Build.dumpLog
    generalize c.readLog b.engine.logFile s = looked at hlooked ⊢
    obtain ⟨content, s₁⟩ := looked
    cases content with
    | ok content => exact hdump _ _ hlooked
    | error e => exact (hworks.note .logUnreadable ⟨rfl, hlooked⟩).2
  note := hworks.note

end Alike
end Build

/-- A call that was carried out. A command is written down with what the watchdog showed before and after. -/
inductive Event where
  | started (log : Path) (refusal : Option StartError)
  | ran (i : Invocation) (before after : State)
  | stopped (report : Option Report)
  deriving DecidableEq

structure Recorded (σ : Type) where
  inner : σ
  events : List Event := []

def Crew.recorded (c : Crew σ) (site : σ → Site) : Crew (Recorded σ) where
  startWatch rules log x := ((c.startWatch rules log x.inner).1,
    ⟨(c.startWatch rules log x.inner).2, x.events ++ [.started log (c.startWatch rules log x.inner).1]⟩)
  stopWatch x := ((c.stopWatch x.inner).1,
    ⟨(c.stopWatch x.inner).2, x.events ++ [.stopped (c.stopWatch x.inner).1]⟩)
  run i x := ((c.run i x.inner).1, ⟨(c.run i x.inner).2,
    x.events ++ [.ran i (site x.inner).state (site (c.run i x.inner).2).state]⟩)
  clear dir x := ((c.clear dir x.inner).1, ⟨(c.clear dir x.inner).2, x.events⟩)
  readLog log x := ((c.readLog log x.inner).1, ⟨(c.readLog log x.inner).2, x.events⟩)
  dump frame x := ⟨c.dump frame x.inner, x.events⟩
  note n x := ⟨c.note n x.inner, x.events⟩

namespace Build
variable (b : Build) (c : Crew σ) (site : σ → Site)

theorem dumpLog_recorded (x : Recorded σ) :
    b.dumpLog (c.recorded site) x = ⟨b.dumpLog c x.inner, x.events⟩ := by
  unfold dumpLog
  simp only [Crew.recorded]
  generalize c.readLog b.engine.logFile x.inner = outcome
  obtain ⟨content, s⟩ := outcome
  cases content <;> rfl

theorem recorded_alike : b.Alike c (c.recorded site) fun s x => x.inner = s where
  start := by
    rintro s x rfl
    exact ⟨rfl, rfl⟩
  stop := by
    rintro s x rfl
    exact ⟨rfl, rfl⟩
  run i := by
    rintro rfl
    exact ⟨rfl, rfl⟩
  clear _ := by
    rintro rfl
    exact ⟨rfl, rfl⟩
  dumpLog := by
    rintro s x rfl
    rw [dumpLog_recorded]
  note n := by
    rintro rfl
    rfl

variable {b c site} {c' : Crew τ} {site' : τ → Site} {R : σ → τ → Prop}

theorem Alike.recorded (h : b.Alike c c' R) (hstate : ∀ s t, R s t → (site s).state = (site' t).state) :
    b.Alike (c.recorded site) (c'.recorded site') fun x y =>
      R x.inner y.inner ∧ x.events = y.events where
  start := by
    rintro x y ⟨hxy, he⟩
    obtain ⟨hanswer, hs⟩ := h.start hxy
    exact ⟨hanswer, hs, by simp only [Crew.recorded, he, hanswer]⟩
  stop := by
    rintro x y ⟨hxy, he⟩
    obtain ⟨hanswer, hs⟩ := h.stop hxy
    exact ⟨hanswer, hs, by simp only [Crew.recorded, he, hanswer]⟩
  run i := by
    rintro ⟨hxy, he⟩
    obtain ⟨hanswer, hs⟩ := h.run i hxy
    exact ⟨hanswer, hs, by simp only [Crew.recorded, he, hstate _ _ hxy, hstate _ _ hs]⟩
  clear hdir := by
    rintro ⟨hxy, he⟩
    obtain ⟨hanswer, hs⟩ := h.clear hdir hxy
    exact ⟨hanswer, hs, he⟩
  dumpLog := by
    rintro x y ⟨hxy, he⟩
    rw [dumpLog_recorded, dumpLog_recorded]
    exact ⟨h.dumpLog hxy, he⟩
  note n := by
    rintro ⟨hxy, he⟩
    exact ⟨h.note n hxy, he⟩

end Build
end Foreman
