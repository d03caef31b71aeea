import Foreman.Proofs.Build.Place
import Foreman.Proofs.Build.Record
import Foreman.Proofs.Watch.Verdicts

/-! A failure that was found, up to what its owner is told. Between the verdict and the report stands the halt
action: if it takes the scanner down, nobody is left to report. -/

namespace Foreman
open Watch

namespace Watch.Monitor
variable {m m' : Monitor} {d : Disk} {now : Instant}

/-- No verdict was reached, or the halt action was told and came back, or it broke the scanner. -/
inductive Fate (m : Monitor) : Prop
  | calm (h : m.Calm)
  | condemned {reason} (ha : m.haltAction = .returns) (h : m.Condemned reason)
  | fallen (ha : m.haltAction = .breaks) (hd : m.halted = true) (hs : m.scanner = .failed)

theorem judge_fate (hd : m.halted = false) (hh : m.halts = []) (now : Instant) (verdict : Verdict) :
    (m.judge now verdict).Fate := by
  cases ha : m.haltAction with
  | returns =>
    have haction : (m.judge now verdict).haltAction = .returns := by
      obtain ⟨_, _, _, _, hj⟩ := judge_frame m now verdict
      rw [hj, ha]
    rcases judge_calm_or_condemned ha hd hh now verdict with hc | ⟨reason, hc⟩
    · exact .calm hc
    · exact .condemned haction hc
  | breaks =>
    cases hv : verdict.message? with
    | none =>
      cases verdict with
      | goOn => exact .calm ⟨hd, hh, by simp [judge]⟩
      | crashed message => cases hv
      | hung message => cases hv
    | some message =>
      obtain ⟨notes, hj⟩ := judge_breaks now ha hv
      rw [hj]
      exact .fallen ha rfl rfl

namespace Fate

theorem reader (h : m.ReaderMove d now m') (hm : m.Fate) : m'.Fate := by
  obtain ⟨_, _, _, _, rfl⟩ := h.frame
  cases hm with
  | calm hc => exact .calm ⟨hc.halted, hc.halts, hc.scanner⟩
  | condemned ha hc => exact .condemned ha ⟨hc.halted, hc.halts, hc.scanner⟩
  | fallen ha hd hs => exact .fallen ha hd hs

theorem scanner (h : m.ScannerMove now m') (hm : m.Fate) : m'.Fate := by
  cases hm with
  | calm hc =>
    cases h with
    | takes =>
      refine judge_fate ?_ ?_ now _
      exacts [hc.halted, hc.halts]
    | idles =>
      refine judge_fate ?_ ?_ now _
      exacts [hc.halted, hc.halts]
    | overflows => exact .calm ⟨hc.halted, hc.halts, by simp⟩
    | notices => exact .calm ⟨hc.halted, hc.halts, by simp [note]⟩
  -- a scanner that has reported or fallen moves no more
  | condemned _ hc => exact absurd hc h.not_condemned
  | fallen _ _ hs =>
    have hwaiting := h.waiting
    simp [scanning, hs] at hwaiting

theorem runs (h : Runs d m m') (hm : m.Fate) : m'.Fate := by
  induction h with
  | rest => exact hm
  | read hs _ ih => exact ih (hm.reader (readerStep?_move hs))
  | scan hs _ ih => exact ih (hm.scanner (scannerStep?_move hs))

end Fate

theorem Runs.haltAction_eq (h : Runs d m m') : m'.haltAction = m.haltAction := by
  induction h with
  | rest => rfl
  | read hs _ ih => exact ih.trans (readerStep?_move hs).develops.action
  | scan hs _ ih =>
    obtain ⟨_, _, _, _, _, _, _, rfl⟩ := (scannerStep?_move hs).frame
    exact ih

theorem judge_halted (hm : m.halted = true) (now : Instant) (verdict : Verdict) :
    (m.judge now verdict).halted = true := by
  rcases m.judge_cases now verdict with ⟨-, hj⟩ | ⟨_, _, -, hj⟩ | ⟨_, -, hj⟩
  · rw [hj, hm]
  · rw [hj]
  · rw [hj]

theorem Runs.halted (h : Runs d m m') (hm : m.halted = true) : m'.halted = true := by
  induction h with
  | rest => exact hm
  | read hs _ ih =>
    obtain ⟨_, _, _, _, rfl⟩ := (readerStep?_move hs).frame
    exact ih hm
  | scan hs _ ih =>
    refine ih ?_
    cases scannerStep?_move hs with
    | takes =>
      refine judge_halted ?_ _ _
      exact hm
    | idles =>
      refine judge_halted ?_ _ _
      exact hm
    | overflows => exact hm
    | notices => exact hm

theorem Fate.finalReport (hm : m.Fate) (lastWords : String) :
    (m.halted = false ∧ (m.finalReport lastWords).outcome = .ok) ∨
      (m.haltAction = .returns ∧ m.halted = true ∧ (m.finalReport lastWords).outcome ≠ .ok ∧
        ∃ reason, (m.finalReport lastWords).message = some reason ∧ m.halts = [reason]) ∨
      (m.haltAction = .breaks ∧ m.halted = true ∧
        m.finalReport lastWords = ⟨.ok, some ("monitor task failed: " ++ lastWords), 0⟩) := by
  cases hm with
  | calm hc => exact .inl ⟨hc.halted, hc.finalReport lastWords⟩
  | condemned ha hc =>
    obtain ⟨hne, hmessage⟩ := hc.finalReport lastWords
    exact .inr (.inl ⟨ha, hc.halted, hne, _, hmessage, hc.halts⟩)
  | fallen ha hd hs => exact .inr (.inr ⟨ha, hd, by rw [Monitor.finalReport, hs]⟩)

end Watch.Monitor

namespace Site
variable {s s₁ t : Site} {r : Rules} {log : Path}

/-- A watch that began at the place `s`. -/
structure Attended (s t : Site) (m : Monitor) : Prop where
  monitor : t.watchdog.monitor = some m
  fate : m.Fate
  action : m.haltAction = s.watchdog.haltAction
  lastWords : t.watchdog.lastWords = s.watchdog.lastWords
  earlier : t.watchdog.earlierHalts = s.watchdog.halts
  state : t.state = if m.halted then .halted else .monitoring

theorem attended_of_startWatch (h : s.startWatch r log = (none, s₁)) : ∃ m, s.Attended s₁ m := by
  unfold startWatch at h
  have hmove := s.watchdog.start_move r log s.disk s.now
  generalize s.watchdog.start r log s.disk s.now = answer at h hmove
  cases hmove with
  | refused hm => cases h
  | failed hm => cases h
  | begun hm hc =>
    cases h
    refine ⟨_, rfl, .calm (Monitor.calm_start _ _ _ _), rfl, rfl, ?_, rfl⟩
    rw [Watchdog.halts, hm, List.append_nil]

theorem Attended.elapses {m : Monitor} (hs : s.Attended s₁ m) (h : s₁.Elapses t) : ∃ m', s.Attended t m' := by
  induction h with
  | rest => exact ⟨m, hs⟩
  | files _ disk ih =>
    obtain ⟨m', hm⟩ := ih
    exact ⟨m', hm.monitor, hm.fate, hm.action, hm.lastWords, hm.earlier, hm.state⟩
  | later _ now ih =>
    obtain ⟨m', hm⟩ := ih
    exact ⟨m', hm.monitor, hm.fate, hm.action, hm.lastWords, hm.earlier, hm.state⟩
  | @tasks t m₁ m₂ _ hm₁ hr ih =>
    obtain ⟨m', hm⟩ := ih
    obtain rfl := Option.some.inj (hm.monitor.symm.trans hm₁)
    refine ⟨m₂, rfl, hm.fate.runs hr, hr.haltAction_eq.trans hm.action, hm.lastWords, hm.earlier, ?_⟩
    -- the tasks only ever set the state to halted, and a monitor that was halted stays so
    show (if m₂.halted then State.halted else t.state) = _
    split_ifs with hd
    · rfl
    · have hcalm : ¬ m'.halted = true := fun h => hd (hr.halted h)
      rw [hm.state, if_neg hcalm]

theorem stopWatch_report (hstart : s.startWatch r log = (none, s₁)) (h : s₁.Elapses t) :
    ∃ report, t.stopWatch.1 = some report ∧
      (s.watchdog.haltAction = .returns → (t.state = .halted ↔ report.outcome ≠ .ok) ∧
        (t.state = .halted → ∃ reason, report.message = some reason ∧
          t.watchdog.halts = s.watchdog.halts ++ [reason])) ∧
      (s.watchdog.haltAction = .breaks → t.state = .halted →
        report = ⟨.ok, some ("monitor task failed: " ++ s.watchdog.lastWords), 0⟩) := by
  obtain ⟨m₁, hm₁⟩ := attended_of_startWatch hstart
  obtain ⟨m, hm⟩ := hm₁.elapses h
  obtain ⟨ending, notes, hstop⟩ := Watchdog.stop_eq hm.monitor t.disk t.now
  refine ⟨m.finalReport t.watchdog.lastWords, by rw [stopWatch, hstop], ?_⟩
  rw [hm.state, ← hm.action, Watchdog.halts, hm.monitor, hm.earlier, hm.lastWords]
  rcases hm.fate.finalReport s.watchdog.lastWords with ⟨hd, hok⟩ | ⟨ha, hd, hne, reason, hmessage, hhalts⟩ | ⟨ha, hd, hfailed⟩
  · simp [hd, hok]
  · simp [ha, hd, hne, hmessage, hhalts]
  · simp [ha, hd, hfailed]

theorem Elapses.haltAction_eq (h : s.Elapses t) : t.watchdog.haltAction = s.watchdog.haltAction := by
  induction h with
  | rest => rfl
  | files _ _ ih => exact ih
  | later _ _ ih => exact ih
  | tasks _ _ _ ih => exact ih

theorem Elapses.halted (h : s.Elapses t) (hs : s.state = .halted) : t.state = .halted := by
  induction h with
  | rest => exact hs
  | files _ _ ih => exact ih
  | later _ _ ih => exact ih
  | @tasks t m m' _ _ _ ih =>
    show (if m'.halted then State.halted else t.state) = .halted
    rw [ih, ite_self]

end Site

namespace Build
variable {σ : Type} {b : Build} {c : Crew σ} {site : σ → Site} {going : σ → Prop} {s s₁ : σ} {method : String}

theorem watch_of_worksAt (hc : c.WorksAt site going) {rules : Rules} {log : Path} {i : Invocation}
    (hstart : c.startWatch rules log s = (none, s₁)) (hgoing : going (c.stopWatch (c.run i s₁).2).2) :
    ∃ t₀ t₁ t, (site s).Elapses t₀ ∧ t₀.startWatch rules log = (none, t₁) ∧ t₁.Elapses t ∧
      (site (c.run i s₁).2).Elapses t ∧ (c.stopWatch (c.run i s₁).2).1 = t.stopWatch.1 := by
  obtain ⟨hran, t, hlast, hanswer, -⟩ := hc.stop hgoing
  obtain ⟨hbegun, hrun⟩ := hc.run hran
  have hs₁ : (c.startWatch rules log s).2 = s₁ := by rw [hstart]
  obtain ⟨-, t₀, hbefore, hrefusal, hafter⟩ := hc.start (hs₁.symm ▸ hbegun)
  rw [hstart] at hrefusal hafter
  exact ⟨t₀, _, t, hbefore, Prod.ext hrefusal rfl, (hafter.trans hrun).trans hlast, hlast, hanswer.symm⟩

theorem callEngine_fst (hstart : c.startWatch b.watch b.engine.logFile s = (none, s₁)) :
    let ran := c.run (b.engine.invocation method) s₁
    (b.callEngine c method s).1 = (verdict (c.stopWatch ran.2).1 ran.1).map (·.code) := by
  unfold callEngine
  rw [watched_of_started hstart]
  dsimp only
  cases verdict (c.stopWatch (c.run (b.engine.invocation method) s₁).2).1
    (c.run (b.engine.invocation method) s₁).1 <;> rfl

/-- Once the state is halted, a stop reports a crash or a hang, with the reason that the halt action was told, and
a call of the engine ends with that. Only a halt action that breaks leaves a report of a failed task, and
the call goes by its command alone. -/
theorem halted_reported (hc : c.WorksAt site going) :
    (∀ (s s₁ u t : Site) r log, s.startWatch r log = (none, s₁) → s₁.Elapses u → u.state = .halted →
      u.Elapses t → ∃ report, t.stopWatch.1 = some report ∧
        (s.watchdog.haltAction = .returns → report.outcome ≠ .ok ∧
          ∃ reason, report.message = some reason ∧ t.watchdog.halts = s.watchdog.halts ++ [reason]) ∧
        (s.watchdog.haltAction = .breaks →
          report = ⟨.ok, some ("monitor task failed: " ++ s.watchdog.lastWords), 0⟩)) ∧
    ∀ (b : Build) method s s₁, c.startWatch b.watch b.engine.logFile s = (none, s₁) →
      let ran := c.run (b.engine.invocation method) s₁
      going (c.stopWatch ran.2).2 → ∃ t, (site ran.2).Elapses t ∧ (c.stopWatch ran.2).1 = t.stopWatch.1 ∧
        (t.state = .halted →
          ((site s).watchdog.haltAction = .returns → ∃ report reason, t.stopWatch.1 = some report ∧
            report.outcome ≠ .ok ∧ report.message = some reason ∧
            (b.callEngine c method s).1 = .error (.supervision report.outcome reason)) ∧
          ((site s).watchdog.haltAction = .breaks →
            (b.callEngine c method s).1 = (ran.1.mapError .execution).map (·.code))) := by
  constructor
  · intro s s₁ u t r log hstart hverdict hu hlater
    have hhalted : t.state = .halted := hlater.halted hu
    obtain ⟨report, hstop, hreturns, hbreaks⟩ := Site.stopWatch_report hstart (hverdict.trans hlater)
    exact ⟨report, hstop, fun ha => ⟨(hreturns ha).1.1 hhalted, (hreturns ha).2 hhalted⟩,
      fun ha => hbreaks ha hhalted⟩
  · intro b method s s₁ hstart ran hgoing
    obtain ⟨t₀, t₁, t, hbefore, hbegun, hwatched, hlast, hanswer⟩ := watch_of_worksAt hc hstart hgoing
    obtain ⟨report, hstop, hreturns, hbreaks⟩ := Site.stopWatch_report hbegun hwatched
    have hanswer' : (c.stopWatch ran.2).1 = some report := hanswer.trans hstop
    have hcall : (b.callEngine c method s).1 = (verdict (some report) ran.1).map (·.code) :=
      hanswer' ▸ callEngine_fst hstart
    rw [hbefore.haltAction_eq] at hreturns hbreaks
    refine ⟨t, hlast, hanswer, fun hhalted => ⟨fun ha => ?_, fun ha => ?_⟩⟩
    · have hne := (hreturns ha).1.1 hhalted
      obtain ⟨reason, hmessage, -⟩ := (hreturns ha).2 hhalted
      refine ⟨report, reason, hstop, hne, hmessage, ?_⟩
      obtain ⟨outcome, message, lines⟩ := report
      cases hmessage
      rw [hcall]
      cases outcome with
      | ok => exact absurd rfl hne
      | crashed => rfl
      | hung => rfl
    · rw [hcall, hbreaks ha hhalted]
      cases ran.1 <;> rfl

def quietSite (action : HaltAction) : Site where
  disk := ⟨[(["log"], .file 0)], [(0, [])], 1, []⟩
  watchdog := { haltAction := action, lastWords := "task 7 panicked" }

def boomRules : Rules := { crashSignatures := ["boom"], pollInterval := .ofMillis 20 }

/-- A crash that was found can be reported as none. -/
theorem not_reported_of_breaks : ¬ ∀ (s s₁ u t : Site) r log, s.startWatch r log = (none, s₁) → s₁.Elapses u →
    u.state = .halted → u.Elapses t → ∃ report, t.stopWatch.1 = some report ∧ report.outcome ≠ .ok := by
  intro h
  let s := quietSite .breaks
  let s₁ := (s.startWatch boomRules ⟨"log"⟩).2
  let written : Site := { s₁ with disk := ⟨[(["log"], .file 0)], [(0, [98, 111, 111, 109, 10])], 1, []⟩ }
  let t := written.passUntil 1
  have hstart : s.startWatch boomRules ⟨"log"⟩ = (none, s₁) := by decide +kernel
  have helapses : s₁.Elapses t := (Site.Elapses.files .rest _).trans (written.elapses_passUntil 1)
  have hhalted : t.state = .halted := by decide +kernel
  obtain ⟨report, hstop, hne⟩ := h s s₁ t t boomRules ⟨"log"⟩ hstart helapses hhalted .rest
  have hok : t.stopWatch.1 = some ⟨.ok, some "monitor task failed: task 7 panicked", 0⟩ := by decide +kernel
  rw [hok] at hstop
  cases hstop
  exact hne rfl

theorem halted_reported_boom : ∃ s s₁ : Rehearsal,
    let b : Build := {
      engine := { binary := "engine", projectPath := ⟨"."⟩, methodPrefix := "", platform := .osx
                  logFile := ⟨"log"⟩, extraArgs := [] }
      watch := boomRules
      rules := {} }
    Rehearsal.crew.startWatch b.watch b.engine.logFile s = (none, s₁) ∧
      ∃ outcome reason, outcome ≠ .ok ∧
        (b.callEngine Rehearsal.crew "Run" s).1 = .error (.supervision outcome reason) := by
  let b : Build := {
    engine := { binary := "engine", projectPath := ⟨"."⟩, methodPrefix := "", platform := .osx
                logFile := ⟨"log"⟩, extraArgs := [] }
    watch := boomRules
    rules := {} }
  let s : Rehearsal :=
    { site := quietSite .returns, script := [{ deeds := [.log ["boom"], .wait (.ofMillis 30)] }] }
  let s₁ := (Rehearsal.crew.startWatch b.watch b.engine.logFile s).2
  let ran := Rehearsal.crew.run (b.engine.invocation "Run") s₁
  have hstart : Rehearsal.crew.startWatch b.watch b.engine.logFile s = (none, s₁) := by decide +kernel
  have hgoing : (Rehearsal.crew.stopWatch ran.2).2.breakdown = none := by decide +kernel
  have hhalted : ran.2.site.state = .halted := by decide +kernel
  obtain ⟨t, hlast, -, hcall⟩ :=
    (halted_reported Rehearsal.crew_worksAt).2 b "Run" s s₁ hstart hgoing
  obtain ⟨report, reason, -, hne, -, hanswer⟩ := (hcall (hlast.halted hhalted)).1 rfl
  exact ⟨s, s₁, hstart, report.outcome, reason, hne, hanswer⟩

end Build
end Foreman
