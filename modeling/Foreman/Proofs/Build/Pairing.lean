import Foreman.Proofs.Build.Place
import Foreman.Proofs.Build.Record
import Mathlib.Data.List.Forall2

/-! Nobody watches but while the engine runs. Each watch that was started for a call of the engine is stopped
after that call, before anything else is run or started, whatever the commands and the halt action do. -/

namespace Foreman
open Watch

variable {σ α β : Type}

namespace Build

/-- A call of the engine with its watch, or a hook while nobody watches. -/
inductive Passage (b : Build) : List Event → Prop
  | engine (method : String) {before after report} (hbefore : before ≠ .notMonitoring)
    (hafter : after ≠ .notMonitoring) : Passage b [.started b.engine.logFile none,
      .ran (b.engine.invocation method) before after, .stopped (some report)]
  | hook {text} (h : text ∈ b.rules.resourceHooks) :
    Passage b [.ran (b.engine.hookInvocation text) .notMonitoring .notMonitoring]

/-- What a build asked of its crew, beside its answer. It ends with a watch that could not be started, because
of its log and of nothing else, or it tells of no trouble with the watch. -/
inductive Paired (b : Build) : Except BuildError α → List Event → Prop
  | ended {answer} {passages : List (List Event)} (h : ∀ events ∈ passages, b.Passage events)
    (hanswer : ∀ e, answer ≠ .error (.watchdog e)) : Paired b answer passages.flatten
  | unwatched {passages : List (List Event)} {cause} (h : ∀ events ∈ passages, b.Passage events) :
    Paired b (.error (.watchdog (.logFile b.engine.logFile cause)))
      (passages.flatten ++ [.started b.engine.logFile (some (.logFile b.engine.logFile cause))])

variable {b : Build} {c : Crew σ} {site : σ → Site} {going : σ → Prop} {x y z : Recorded σ}

namespace Paired

theorem nil {answer : Except BuildError α} (h : ∀ e, answer ≠ .error (.watchdog e)) :
    b.Paired answer [] := @Paired.ended _ b answer [] (by simp) h

theorem one {answer : Except BuildError α} {events : List Event} (h : b.Passage events)
    (hanswer : ∀ e, answer ≠ .error (.watchdog e)) : b.Paired answer events := by
  have hone := @Paired.ended _ b answer [events] (by simpa using h) hanswer
  rwa [List.flatten_singleton] at hone

theorem append {a : α} {answer : Except BuildError β} {events events' : List Event}
    (h : b.Paired (.ok a : Except BuildError α) events) (h' : b.Paired answer events') :
    b.Paired answer (events ++ events') := by
  generalize ha : (Except.ok a : Except BuildError α) = passed at h
  cases h with
  | @ended _ passages h =>
    cases h' with
    | @ended _ passages' h' hanswer =>
      rw [← List.flatten_append]
      exact .ended (List.forall_mem_append.2 ⟨h, h'⟩) hanswer
    | @unwatched passages' cause h' =>
      rw [← List.append_assoc, ← List.flatten_append]
      exact .unwatched (List.forall_mem_append.2 ⟨h, h'⟩)
  | unwatched => cases ha

theorem of_ok {a : α} {answer : Except BuildError β} {events : List Event}
    (h : b.Paired (.ok a : Except BuildError α) events)
    (hanswer : ∀ e, answer ≠ .error (.watchdog e)) : b.Paired answer events := by
  have hmore := h.append (nil hanswer)
  rwa [List.append_nil] at hmore

theorem of_error {e : BuildError} {events : List Event}
    (h : b.Paired (.error e : Except BuildError α) events) :
    b.Paired (.error e : Except BuildError β) events := by
  generalize ha : (Except.error e : Except BuildError α) = failed at h
  cases h with
  | ended h hanswer =>
    refine .ended h fun cause he => ?_
    cases he
    exact hanswer cause ha.symm
  | unwatched h =>
    cases ha
    exact .unwatched h

theorem map {answer : Except BuildError α} {f : α → β} {events : List Event} (h : b.Paired answer events) :
    b.Paired (answer.map f) events := by
  cases answer with
  | error e => exact h.of_error
  | ok a => exact h.of_ok (by simp [Except.map])

theorem ne_alreadyMonitoring {answer : Except BuildError α} {events : List Event}
    (h : b.Paired answer events) (log : Path) : answer ≠ .error (.watchdog (.alreadyMonitoring log)) := by
  cases h with
  | ended _ hanswer => exact hanswer _
  | unwatched _ => simp

end Paired

def Leads (b : Build) (site : σ → Site) (going : σ → Prop) (answer : Except BuildError α)
    (x y : Recorded σ) : Prop :=
  going y.inner → going x.inner ∧ ((site x.inner).Idle → (site y.inner).Idle ∧
    ∃ events, y.events = x.events ++ events ∧ b.Paired answer events)

def Quiet (site : σ → Site) (going : σ → Prop) (x y : Recorded σ) : Prop :=
  y.events = x.events ∧ (going y.inner → going x.inner ∧ (site x.inner).Elapses (site y.inner))

namespace Leads

theorem trans {a : α} {answer : Except BuildError β}
    (h : b.Leads site going (.ok a : Except BuildError α) x y) (h' : b.Leads site going answer y z) :
    b.Leads site going answer x z := by
  intro hz
  obtain ⟨hy, hidle'⟩ := h' hz
  obtain ⟨hx, hidle⟩ := h hy
  refine ⟨hx, fun hs => ?_⟩
  obtain ⟨hys, events, hevents, hp⟩ := hidle hs
  obtain ⟨hzs, events', hevents', hp'⟩ := hidle' hys
  exact ⟨hzs, events ++ events', by rw [hevents', hevents, List.append_assoc], hp.append hp'⟩

theorem imp {answer : Except BuildError α} {answer' : Except BuildError β}
    (h : b.Leads site going answer x y)
    (hp : ∀ events, b.Paired answer events → b.Paired answer' events) :
    b.Leads site going answer' x y := by
  intro hy
  obtain ⟨hx, hidle⟩ := h hy
  refine ⟨hx, fun hs => ?_⟩
  obtain ⟨hys, events, hevents, hpaired⟩ := hidle hs
  exact ⟨hys, events, hevents, hp events hpaired⟩

theorem quiet {answer : Except BuildError α} (h : Quiet site going x y)
    (hanswer : ∀ e, answer ≠ .error (.watchdog e)) : b.Leads site going answer x y := by
  intro hy
  obtain ⟨hx, helapses⟩ := h.2 hy
  exact ⟨hx, fun hs => ⟨hs.elapses helapses, [], by rw [h.1, List.append_nil], .nil hanswer⟩⟩

theorem then_quiet {answer : Except BuildError α} (h : b.Leads site going answer x y)
    (h' : Quiet site going y z) : b.Leads site going answer x z := by
  intro hz
  obtain ⟨hy, helapses⟩ := h'.2 hz
  obtain ⟨hx, hidle⟩ := h hy
  refine ⟨hx, fun hs => ?_⟩
  obtain ⟨hys, events, hevents, hp⟩ := hidle hs
  exact ⟨hys.elapses helapses, events, h'.1.trans hevents, hp⟩

end Leads

theorem Quiet.then_leads {answer : Except BuildError α} (h : Quiet site going x y)
    (h' : b.Leads site going answer y z) : b.Leads site going answer x z :=
  have hfirst : b.Leads site going (.ok () : Except BuildError Unit) x y := .quiet h (by simp)
  hfirst.trans h'

theorem Quiet.trans (h : Quiet site going x y) (h' : Quiet site going y z) : Quiet site going x z := by
  refine ⟨h'.1.trans h.1, fun hz => ?_⟩
  obtain ⟨hy, hyz⟩ := h'.2 hz
  obtain ⟨hx, hxy⟩ := h.2 hy
  exact ⟨hx, hxy.trans hyz⟩

theorem verdict_ne_watchdog (report : Option Report) (result : Except RunError Execution) (e : StartError) :
    verdict report result ≠ .error (.watchdog e) := by
  unfold verdict
  split
  · simp
  · simp
  · cases result <;> simp

section
variable (h : c.WorksAt site going)
include h

theorem note_quiet (n : Note) (x : Recorded σ) : Quiet site going x ((c.recorded site).note n x) :=
  ⟨rfl, h.note⟩

theorem dumpLog_quiet (x : Recorded σ) : Quiet site going x (b.dumpLog (c.recorded site) x) := by
  have hread : Quiet site going x ((c.recorded site).readLog b.engine.logFile x).2 := ⟨rfl, h.readLog⟩
  unfold dumpLog
  generalize (c.recorded site).readLog b.engine.logFile x = outcome at hread
  obtain ⟨content, y⟩ := outcome
  cases content with
  | error e => exact hread.trans (note_quiet h _ y)
  | ok content => exact hread.trans ⟨rfl, h.dump⟩

theorem watched_leads (method : String) (x : Recorded σ) :
    b.Leads site going
      (watched (c.recorded site) b.watch b.engine.logFile (b.engine.invocation method) x).1 x
      (watched (c.recorded site) b.watch b.engine.logFile (b.engine.invocation method) x).2 := by
  have hstart := @h.start b.watch b.engine.logFile x.inner
  cases hs : c.startWatch b.watch b.engine.logFile x.inner with
  | mk refusal s₁ =>
    have hx : (c.recorded site).startWatch b.watch b.engine.logFile x =
        (refusal, ⟨s₁, x.events ++ [.started b.engine.logFile refusal]⟩) := by
      simp only [Crew.recorded, hs]
    rw [hs] at hstart
    cases refusal with
    | some e =>
      rw [watched_of_refused hx]
      intro hgoing
      obtain ⟨hx, t, ht, hanswer, ht'⟩ := hstart hgoing
      refine ⟨hx, fun hidle => ?_⟩
      rcases (hidle.elapses ht).startWatch b.watch b.engine.logFile with ⟨hnone, -⟩ | ⟨cause, hcause, hi⟩
      · simp only [hnone, reduceCtorEq] at hanswer
      · simp only [hcause, Option.some.injEq] at hanswer
        subst hanswer
        exact ⟨hi.elapses ht', _, rfl, @Paired.unwatched _ b [] _ (by simp)⟩
    | none =>
      rw [watched_of_started hx]
      intro hgoing
      obtain ⟨hgoing₂, v, hv, hreport, hv'⟩ := h.stop hgoing
      obtain ⟨hgoing₁, hrun⟩ := h.run hgoing₂
      obtain ⟨hx, t, ht, hanswer, ht'⟩ := hstart hgoing₁
      refine ⟨hx, fun hidle => ?_⟩
      rcases (hidle.elapses ht).startWatch b.watch b.engine.logFile with ⟨-, hw⟩ | ⟨cause, hcause, -⟩
      · -- the watch stays open until it is stopped
        have hw₁ := hw.elapses ht'
        have hw₂ := hw₁.elapses hrun
        obtain ⟨report, hsome, hi⟩ := (hw₂.elapses hv).stopWatch
        have hstopped : (c.stopWatch (c.run (b.engine.invocation method) s₁).2).1 = some report :=
          hreport.symm.trans hsome
        refine ⟨hi.elapses hv', _, by simp only [Crew.recorded, List.append_assoc]; rfl, ?_⟩
        show b.Paired (verdict (c.stopWatch (c.run (b.engine.invocation method) s₁).2).1 _)
          [_, _, .stopped (c.stopWatch (c.run (b.engine.invocation method) s₁).2).1]
        rw [hstopped]
        exact .one (.engine method hw₁.2 hw₂.2) (verdict_ne_watchdog _ _)
      · simp only [hcause, reduceCtorEq] at hanswer

theorem callEngine_leads (method : String) (x : Recorded σ) :
    b.Leads site going (b.callEngine (c.recorded site) method x).1 x
      (b.callEngine (c.recorded site) method x).2 := by
  have hwatched := watched_leads (b := b) h method x
  unfold callEngine
  cases hw : watched (c.recorded site) b.watch b.engine.logFile (b.engine.invocation method) x with
  | mk answer y =>
    rw [hw] at hwatched
    cases answer with
    | error e => exact hwatched.imp fun _ hp => hp.of_error
    | ok e =>
      exact (hwatched.imp fun _ hp => hp.of_ok (by simp)).then_quiet (note_quiet h _ y)

theorem hook_leads {text : String} (ht : text ∈ b.rules.resourceHooks) {answer : Except BuildError α}
    (hanswer : ∀ e, answer ≠ .error (.watchdog e)) (x : Recorded σ) :
    b.Leads site going answer x ((c.recorded site).run (b.engine.hookInvocation text) x).2 := by
  intro hgoing
  obtain ⟨hx, helapses⟩ := h.run hgoing
  refine ⟨hx, fun hidle => ⟨hidle.elapses helapses, _, rfl, ?_⟩⟩
  have hafter := (hidle.elapses helapses).2
  rw [hidle.2, hafter]
  exact .one (.hook ht) hanswer

theorem runHooks_leads (hooks : List String) (hin : ∀ text ∈ hooks, text ∈ b.rules.resourceHooks)
    (x : Recorded σ) : b.Leads site going (b.runHooks (c.recorded site) hooks x).1 x
      (b.runHooks (c.recorded site) hooks x).2 := by
  induction hooks generalizing x with
  | nil => exact .quiet ⟨rfl, fun hgoing => ⟨hgoing, .rest⟩⟩ (by simp [runHooks])
  | cons hook hooks ih =>
    obtain ⟨hhook, hhooks⟩ := List.forall_mem_cons.1 hin
    have hleads {answer : Except BuildError Unit} (hanswer : ∀ e, answer ≠ .error (.watchdog e)) :=
      hook_leads h hhook hanswer x
    unfold runHooks
    generalize (c.recorded site).run (b.engine.hookInvocation hook) x = outcome at hleads
    obtain ⟨answer, y⟩ := outcome
    cases answer with
    | error e => exact hleads (by simp)
    | ok e =>
      have hhook : b.Leads site going (.ok () : Except BuildError Unit) x y := hleads (by simp)
      exact hhook.trans (ih hhooks y)

theorem runAction_leads (a : Action) (x : Recorded σ) :
    b.Leads site going (b.runAction (c.recorded site) a x).1 x (b.runAction (c.recorded site) a x).2 := by
  cases a with
  | engine method => exact callEngine_leads h method x
  | hooks =>
    have hleads := runHooks_leads (b := b) h b.rules.resourceHooks (fun _ ht => ht) x
    unfold runAction
    simp only
    generalize b.runHooks (c.recorded site) b.rules.resourceHooks x = outcome at hleads
    obtain ⟨answer, y⟩ := outcome
    cases answer with
    | error e => exact hleads.imp fun _ hp => hp.of_error
    | ok u => exact hleads.imp fun _ hp => hp.of_ok (by simp)

theorem runActions_leads (actions : List Action) (x : Recorded σ) :
    b.Leads site going (b.runActions (c.recorded site) actions x).1 x
      (b.runActions (c.recorded site) actions x).2 := by
  induction actions generalizing x with
  | nil => exact .quiet ⟨rfl, fun hgoing => ⟨hgoing, .rest⟩⟩ (by simp [runActions])
  | cons a actions ih =>
    have hleads := runAction_leads (b := b) h a x
    unfold runActions
    generalize b.runAction (c.recorded site) a x = outcome at hleads
    obtain ⟨answer, y⟩ := outcome
    cases answer with
    | error e => exact hleads
    | ok code =>
      simp only
      split_ifs
      · exact hleads.trans (ih y)
      · exact hleads.then_quiet (note_quiet h _ y)

theorem started_leads (step : Step) (x : Recorded σ) :
    b.Leads site going (b.runActions (c.recorded site) step.actions ((c.recorded site).note .stepStarted x)).1 x
      (b.runActions (c.recorded site) step.actions ((c.recorded site).note .stepStarted x)).2 :=
  (note_quiet h .stepStarted x).then_leads (runActions_leads h step.actions _)

theorem attempt_leads (step : Step) (budget before : Nat) (x : Recorded σ) :
    b.Leads site going (b.attempt (c.recorded site) step budget before x).1 x
      (b.attempt (c.recorded site) step budget before x).2 := by
  induction budget generalizing before x with
  | zero =>
    have hleads := started_leads (b := b) h step x
    unfold attempt
    generalize b.runActions (c.recorded site) step.actions ((c.recorded site).note .stepStarted x) = outcome
      at hleads
    obtain ⟨answer, y⟩ := outcome
    cases answer with
    | error e => exact (hleads.imp fun _ hp => hp.of_error).then_quiet (note_quiet h _ y)
    | ok code =>
      simp only [ite_self]
      exact hleads.imp fun _ hp => hp.of_ok (by simp)
  | succ budget ih =>
    have hleads := started_leads (b := b) h step x
    unfold attempt
    generalize b.runActions (c.recorded site) step.actions ((c.recorded site).note .stepStarted x) = outcome
      at hleads
    obtain ⟨answer, y⟩ := outcome
    cases answer with
    | error e => exact (hleads.imp fun _ hp => hp.of_error).then_quiet (note_quiet h _ y)
    | ok code =>
      simp only
      split_ifs
      · exact hleads.imp fun _ hp => hp.of_ok (by simp)
      · exact (hleads.then_quiet (note_quiet h _ y)).trans (ih (before + 1) _)

theorem clearOutput_quiet (x : Recorded σ) :
    Quiet site going x (b.clearOutput (c.recorded site) x).2 := by
  unfold clearOutput
  cases b.rules.cleanOutput with
  | none => exact ⟨rfl, fun hgoing => ⟨hgoing, .rest⟩⟩
  | some dir =>
    have hclear : Quiet site going x ((c.recorded site).clear dir x).2 := ⟨rfl, h.clear⟩
    simp only
    generalize (c.recorded site).clear dir x = outcome at hclear
    obtain ⟨answer, y⟩ := outcome
    cases answer with
    | none => exact hclear
    | some e => exact hclear

theorem run_leads (step : Step) (retry : Nat) (x : Recorded σ) :
    b.Leads site going (b.run (c.recorded site) step retry x).1 x
      (b.run (c.recorded site) step retry x).2 := by
  unfold run
  split_ifs
  · exact .quiet (note_quiet h _ x) (by simp)
  · have hclear := clearOutput_quiet (b := b) h x
    have hcause : ∀ e, (b.clearOutput (c.recorded site) x).1 ≠ some (.watchdog e) := by
      intro e he
      unfold clearOutput at he
      split at he
      · cases he
      · split at he <;> cases he
    generalize b.clearOutput (c.recorded site) x = outcome at hclear hcause
    obtain ⟨cleared, y⟩ := outcome
    cases cleared with
    | some e =>
      refine .quiet hclear fun cause he => ?_
      cases he
      exact hcause cause rfl
    | none =>
      have hleads := hclear.then_leads (attempt_leads (b := b) h step retry 0 y)
      simp only at hleads ⊢
      generalize b.attempt (c.recorded site) step retry 0 y = outcome at hleads
      obtain ⟨answer, z⟩ := outcome
      cases answer with
      | error e => exact (hleads.imp fun _ hp => hp.of_error).then_quiet (dumpLog_quiet h z)
      | ok result =>
        simp only
        split_ifs
        · exact (hleads.imp fun _ hp => hp.of_ok (by simp)).then_quiet (note_quiet h _ z)
        · exact (hleads.imp fun _ hp => hp.of_ok (by simp)).then_quiet
            ((note_quiet h _ z).trans (dumpLog_quiet h _))

theorem serve_leads (e : Errand) (x : Recorded σ) :
    b.Leads site going (b.serve (c.recorded site) e x).1 x (b.serve (c.recorded site) e x).2 := by
  cases e with
  | step step retry => exact (run_leads h step retry x).imp fun _ hp => hp.map
  | method name => exact (callEngine_leads h name x).imp fun _ hp => hp.map

theorem serveAll_leads (errands : List Errand) (x : Recorded σ)
    (hgoing : going (b.serveAll (c.recorded site) errands x).2.inner) :
    going x.inner ∧ ((site x.inner).Idle → ∃ visits,
      List.Forall₂ b.Paired (b.serveAll (c.recorded site) errands x).1 visits ∧
      ∀ n, (b.serveAll (c.recorded site) (errands.take n) x).2.events = x.events ++ (visits.take n).flatten ∧
        (site (b.serveAll (c.recorded site) (errands.take n) x).2.inner).Idle) := by
  induction errands generalizing x with
  | nil =>
    refine ⟨hgoing, fun hidle => ⟨[], .nil, fun n => ?_⟩⟩
    rw [List.take_nil, List.take_nil]
    exact ⟨(List.append_nil _).symm, hidle⟩
  | cons e errands ih =>
    obtain ⟨hgoing₁, hrest⟩ := ih _ hgoing
    obtain ⟨hx, hfirst⟩ := serve_leads (b := b) h e x hgoing₁
    refine ⟨hx, fun hidle => ?_⟩
    obtain ⟨hidle₁, events, hevents, hpaired⟩ := hfirst hidle
    obtain ⟨visits, hvisits, htake⟩ := hrest hidle₁
    refine ⟨events :: visits, .cons hpaired hvisits, fun n => ?_⟩
    cases n with
    | zero => exact ⟨(List.append_nil _).symm, hidle⟩
    | succ n =>
      obtain ⟨hn, hidleₙ⟩ := htake n
      refine ⟨?_, hidleₙ⟩
      rw [List.take_succ_cons, List.take_succ_cons, List.flatten_cons, ← List.append_assoc, ← hevents]
      exact hn

/-- Whatever a build is asked for, one errand after the other, nobody watches before and after each errand,
and what is asked of the crew is paired. -/
theorem serveAll_paired (errands : List Errand) (s : σ) (hs : (site s).Idle)
    (hgoing : going (b.serveAll c errands s).2) :
    ∃ visits : List (List Event),
      List.Forall₂ b.Paired (b.serveAll c errands s).1 visits ∧
      (∀ n, b.serveAll (c.recorded site) (errands.take n) ⟨s, []⟩ =
          ((b.serveAll c (errands.take n) s).1,
            ⟨(b.serveAll c (errands.take n) s).2, (visits.take n).flatten⟩) ∧
        (site (b.serveAll c (errands.take n) s).2).Idle) ∧
      ∀ answer ∈ (b.serveAll c errands s).1, ∀ log, answer ≠ .error (.watchdog (.alreadyMonitoring log)) := by
  have hsame (errands : List Errand) : Agree (fun s x => x.inner = s) (b.serveAll c errands s)
      (b.serveAll (c.recorded site) errands ⟨s, []⟩) := (recorded_alike b c site).serveAll errands rfl
  rw [← (hsame errands).2] at hgoing
  obtain ⟨visits, hvisits, htake⟩ := (serveAll_leads h errands ⟨s, []⟩ hgoing).2 hs
  rw [← (hsame errands).1] at hvisits
  have hnever := hvisits.imp fun _ _ hp => And.intro hp.ne_alreadyMonitoring hp
  refine ⟨visits, hvisits, fun n => ?_, ((List.forall₂_and_left _ _).1 hnever).1⟩
  · obtain ⟨hevents, hidle⟩ := htake n
    obtain ⟨hanswers, hinner⟩ := hsame (errands.take n)
    rw [hinner] at hidle
    refine ⟨Prod.ext hanswers.symm ?_, hidle⟩
    rw [← hinner]
    exact congrArg (Recorded.mk _) hevents

end

theorem serveAll_paired_hook_breaks :
    let b : Build := ⟨⟨"engine", ⟨"project"⟩, "", .ios, ⟨"out/log"⟩, []⟩, {}, { resourceHooks := ["hook"] }⟩
    let r : Rehearsal := { site := {}, script := [{ deeds := [.log ["Launching bug"]], code := 3 }, {},
      { deeds := [.change (.removeDirectory ⟨"out"⟩), .change (.write ⟨"out"⟩ [])], missing := true }] }
    let errands := [.step .rebuildResource 1, .method "Run"]
    r.site.Idle ∧ (b.serveAll Rehearsal.crew errands r).2.breakdown = none ∧ ∃ visits : List (List Event),
      List.Forall₂ b.Paired (b.serveAll Rehearsal.crew errands r).1 visits ∧
      (∀ n, b.serveAll (Rehearsal.crew.recorded Rehearsal.site) (errands.take n) ⟨r, []⟩ =
          ((b.serveAll Rehearsal.crew (errands.take n) r).1,
            ⟨(b.serveAll Rehearsal.crew (errands.take n) r).2, (visits.take n).flatten⟩) ∧
        (b.serveAll Rehearsal.crew (errands.take n) r).2.site.Idle) ∧
      ∀ answer ∈ (b.serveAll Rehearsal.crew errands r).1, ∀ log,
        answer ≠ .error (.watchdog (.alreadyMonitoring log)) := by
  intro b r errands
  have hgoing : (b.serveAll Rehearsal.crew errands r).2.breakdown = none := by decide +kernel
  exact ⟨⟨rfl, rfl⟩, hgoing, serveAll_paired Rehearsal.crew_worksAt errands r ⟨rfl, rfl⟩ hgoing⟩

end Build
end Foreman
