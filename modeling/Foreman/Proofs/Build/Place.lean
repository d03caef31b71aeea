import Foreman.Build.Rehearsal
import Foreman.Proofs.Watch.Calls
import Foreman.Proofs.Watch.Tasks
import Foreman.Workshop
import Mathlib.Tactic.SplitIfs

/-! What can happen at a place between the calls of its owner, and crews that leave the watchdog to itself but
for these calls. -/

namespace Foreman
open Watch

namespace Site

def Idle (s : Site) : Prop := s.watchdog.monitor = none ∧ s.state = .notMonitoring

def Watching (s : Site) : Prop := s.watchdog.monitor.isSome ∧ s.state ≠ .notMonitoring

/-- What can happen at a place by itself: files change, time passes, and the tasks of a watch take steps. -/
inductive Elapses (s : Site) : Site → Prop
  | rest : Elapses s s
  | files {t} (h : Elapses s t) (disk : Disk) : Elapses s { t with disk }
  | later {t} (h : Elapses s t) (now : Instant) : Elapses s { t with now }
  | tasks {t m m'} (h : Elapses s t) (hm : t.watchdog.monitor = some m)
    (hr : Monitor.Runs t.disk m m') : Elapses s { t with watchdog := t.watchdog.advance m' }

def Amid {α : Type} (act : Site → α × Site) (s : Site) (answer : α) (s' : Site) : Prop :=
  ∃ t, s.Elapses t ∧ (act t).1 = answer ∧ (act t).2.Elapses s'

variable {s t u : Site} {rules : Rules} {log : Path}

theorem Elapses.trans (h : s.Elapses t) (h' : t.Elapses u) : s.Elapses u := by
  induction h' with
  | rest => exact h
  | files _ disk ih => exact ih.files disk
  | later _ now ih => exact ih.later now
  | tasks _ hm hr ih => exact ih.tasks hm hr

theorem elapses_passUntil (s : Site) (target : Instant) : s.Elapses (s.passUntil target) := by
  unfold passUntil Watchdog.pass
  cases hm : s.watchdog.monitor with
  | none => exact .later .rest _
  | some m =>
    have hr := m.pass_runs s.disk s.now target
    exact (Elapses.tasks .rest hm hr).later _

theorem Amid.now {α : Type} (act : Site → α × Site) (s : Site) : s.Amid act (act s).1 (act s).2 :=
  ⟨s, .rest, rfl, .rest⟩

theorem Idle.elapses (hs : s.Idle) (h : s.Elapses t) : t.Idle := by
  induction h with
  | rest => exact hs
  | files _ _ ih => exact ih
  | later _ _ ih => exact ih
  | tasks _ hm _ ih =>
    rw [ih.1] at hm
    cases hm

theorem Watching.elapses (hs : s.Watching) (h : s.Elapses t) : t.Watching := by
  induction h with
  | rest => exact hs
  | files _ _ ih => exact ih
  | later _ _ ih => exact ih
  | @tasks t m m' _ hm hr ih =>
    refine ⟨rfl, ?_⟩
    show (if m'.halted then State.halted else t.watchdog.state) ≠ .notMonitoring
    split_ifs
    · simp
    · exact ih.2

theorem Idle.startWatch (hs : s.Idle) (rules : Rules) (log : Path) :
    ((s.startWatch rules log).1 = none ∧ (s.startWatch rules log).2.Watching) ∨
      ∃ cause, (s.startWatch rules log).1 = some (.logFile log cause) ∧
        (s.startWatch rules log).2.Idle := by
  have hmove := s.watchdog.start_move rules log s.disk s.now
  unfold Site.startWatch
  generalize s.watchdog.start rules log s.disk s.now = answer at hmove
  cases hmove with
  | refused hm =>
    rw [hs.1] at hm
    cases hm
  | failed hm => exact .inr ⟨_, rfl, hm, hs.2⟩
  | begun hm hc => exact .inl ⟨rfl, rfl, by simp [state]⟩

theorem Watching.stopWatch (hs : s.Watching) :
    ∃ report, s.stopWatch.1 = some report ∧ s.stopWatch.2.Idle := by
  obtain ⟨m, hm⟩ := Option.isSome_iff_exists.1 hs.1
  obtain ⟨ending, notes, hstop⟩ := Watchdog.stop_eq hm s.disk s.now
  unfold Site.stopWatch
  rw [hstop]
  exact ⟨m.finalReport s.watchdog.lastWords, rfl, rfl, rfl⟩

end Site

variable {σ : Type}

/-- The crew works at a place. Its watches are those of the watchdog there, and what else it does may only
change files and take time. Work that has been broken off is never taken up again. -/
structure Crew.WorksAt (c : Crew σ) (site : σ → Site) (going : σ → Prop) : Prop where
  start {rules log s} : going (c.startWatch rules log s).2 → going s ∧
    (site s).Amid (·.startWatch rules log) (c.startWatch rules log s).1 (site (c.startWatch rules log s).2)
  stop {s} : going (c.stopWatch s).2 → going s ∧
    (site s).Amid Site.stopWatch (c.stopWatch s).1 (site (c.stopWatch s).2)
  run {i s} : going (c.run i s).2 → going s ∧ (site s).Elapses (site (c.run i s).2)
  clear {dir s} : going (c.clear dir s).2 → going s ∧ (site s).Elapses (site (c.clear dir s).2)
  readLog {log s} : going (c.readLog log s).2 → going s ∧ (site s).Elapses (site (c.readLog log s).2)
  dump {frame s} : going (c.dump frame s) → going s ∧ (site s).Elapses (site (c.dump frame s))
  note {n s} : going (c.note n s) → going s ∧ (site s).Elapses (site (c.note n s))

namespace Rehearsal
variable {r : Rehearsal}

theorem checkLimit_eq (h : r.checkLimit.breakdown = none) : r.checkLimit = r := by
  unfold checkLimit at h ⊢
  split_ifs at h ⊢
  rfl

theorem checkTurn_eq (h : r.checkTurn.breakdown = none) : r.checkTurn = r := by
  unfold checkTurn at h ⊢
  split_ifs at h ⊢
  rfl

theorem unlessBroken_eq {α : Type} {idle : α} {act : Rehearsal → α × Rehearsal}
    (h : (r.unlessBroken idle act).2.breakdown = none) :
    r.breakdown = none ∧ r.unlessBroken idle act = act r := by
  unfold unlessBroken at h ⊢
  cases hr : r.breakdown with
  | none => exact ⟨rfl, rfl⟩
  | some b => simp [hr] at h

theorem turn_eq {α : Type} {idle : α} {act : Rehearsal → α × Rehearsal}
    (h : (r.checkTurn.unlessBroken idle act).2.breakdown = none) :
    r.breakdown = none ∧ r.checkTurn.unlessBroken idle act = act r := by
  obtain ⟨hturn, hact⟩ := unlessBroken_eq h
  rw [hact, checkTurn_eq hturn]
  rw [checkTurn_eq hturn] at hturn
  exact ⟨hturn, rfl⟩

theorem wait_elapses (d : Duration) (h : (r.wait d).breakdown = none) :
    r.breakdown = none ∧ r.site.Elapses (r.wait d).site := by
  unfold wait at h ⊢
  split_ifs at h ⊢
  · exact ⟨h, .rest⟩
  · have hlimit := checkLimit_eq h
    rw [hlimit] at h ⊢
    exact ⟨h, r.site.elapses_passUntil _⟩

theorem appendLog_elapses (i : Invocation) (lines : List String)
    (h : (r.appendLog i lines).2.breakdown = none) :
    r.breakdown = none ∧ r.site.Elapses (r.appendLog i lines).2.site := by
  unfold appendLog at h ⊢
  generalize i.optionValue? "-logFile" = named at h ⊢
  cases named with
  | none => cases h
  | some log =>
    simp only at h ⊢
    obtain ⟨hr, hact⟩ := turn_eq h
    rw [hact] at h ⊢
    refine ⟨hr, ?_⟩
    cases hd : r.site.disk.appendLines ⟨log⟩ lines with
    | ok d =>
      exact .files .rest d
    | error b =>
      simp only [hd] at h
      cases h

theorem perform_elapses (i : Invocation) (deed : Deed) (h : (r.perform i deed).breakdown = none) :
    r.breakdown = none ∧ r.site.Elapses (r.perform i deed).site := by
  unfold perform at h ⊢
  obtain ⟨hr, hact⟩ := unlessBroken_eq h
  rw [hact] at h ⊢
  cases deed with
  | change c => exact ⟨hr, .files .rest _⟩
  | wait d => exact wait_elapses d h
  | log lines => exact appendLog_elapses i lines h

theorem performAll_elapses (i : Invocation) (deeds : List Deed)
    (h : (deeds.foldl (perform i) r).breakdown = none) :
    r.breakdown = none ∧ r.site.Elapses (deeds.foldl (perform i) r).site := by
  induction deeds generalizing r with
  | nil => exact ⟨h, .rest⟩
  | cons deed deeds ih =>
    obtain ⟨hr₁, hrest⟩ := ih h
    obtain ⟨hr, hfirst⟩ := perform_elapses i deed hr₁
    exact ⟨hr, hfirst.trans hrest⟩

theorem crew_worksAt : crew.WorksAt site (·.breakdown = none) where
  start {rules log r} h := by
    obtain ⟨hr, hact⟩ := turn_eq h
    simp only [crew, hact]
    exact ⟨hr, .now _ r.site⟩
  stop {r} h := by
    obtain ⟨hr, hact⟩ := unlessBroken_eq h
    simp only [crew] at h ⊢
    rw [hact] at h ⊢
    refine ⟨hr, ?_⟩
    unfold stopWatch at h ⊢
    simp only at h ⊢
    split_ifs at h ⊢
    · rw [checkTurn_eq h]
      exact .now _ r.site
    · exact .now _ r.site
  run {i r} h := by
    obtain ⟨hr, hact⟩ := unlessBroken_eq h
    simp only [crew] at h ⊢
    rw [hact] at h ⊢
    obtain ⟨hr₁, hdeeds⟩ := performAll_elapses i _ h
    obtain ⟨-, hlead⟩ := wait_elapses _ hr₁
    exact ⟨hr, hlead.trans hdeeds⟩
  clear {dir r} h := by
    obtain ⟨hr, hact⟩ := turn_eq h
    simp only [crew, hact]
    exact ⟨hr, .files .rest _⟩
  readLog {log r} h := by
    have hturn : r.checkTurn = r := checkTurn_eq h
    simp only [crew, hturn] at h ⊢
    exact ⟨h, .rest⟩
  dump {frame r} h := by
    simp only [crew] at h ⊢
    split_ifs at h ⊢
    · exact ⟨h, .rest⟩
    · exact ⟨h, .rest⟩
  note h := ⟨h, .rest⟩

end Rehearsal

namespace Workshop
variable {w : Workshop}

theorem noteHalt_site (w : Workshop) (leader : Option Nat) : (w.noteHalt leader).site = w.site := by
  unfold noteHalt
  simp only
  split_ifs <;> rfl

theorem enforce_site (own : Bool) (w : Workshop) (r : Shell.Running) : (w.enforce own r).1.site = w.site := by
  unfold enforce
  split_ifs
  · rfl
  · exact w.noteHalt_site (some r.main)
  · exact w.noteHalt_site none

theorem attend_elapses (own : Bool) (w : Workshop) (r : Shell.Running) :
    w.site.Elapses (w.attend own r).1.site := by
  have hfiles : w.site.Elapses (w.observe r.settle).site := .files .rest _
  have hpass := hfiles.trans (Site.elapses_passUntil _ w.site.now)
  have hlast := hpass.files (w.attend own r).2.world.disk
  unfold attend observe changeDisk at hlast ⊢
  simp only [enforce_site]
  exact hlast

theorem follow_elapses (own : Bool) (n : Nat) (w : Workshop) (r : Shell.Running) :
    w.site.Elapses (w.follow own n r).1.site := by
  induction n generalizing w r with
  | zero => exact .rest
  | succ n ih =>
    have hattend := w.attend_elapses own r
    unfold follow
    generalize w.attend own r = attended at hattend ⊢
    obtain ⟨w₁, r₁⟩ := attended
    simp only
    split_ifs
    · exact hattend
    · cases w₁.nextMoment r₁ with
      | none => exact hattend
      | some t =>
        have hpass := hattend.trans (w₁.site.elapses_passUntil t)
        exact hpass.trans (ih { w₁ with site := w₁.site.passUntil t } (r₁.wake t))

theorem noteEnd_site (w : Workshop) (i : Invocation) (code : Int) : (w.noteEnd i code).site = w.site := by
  unfold noteEnd
  simp only
  split_ifs <;> rfl

theorem run_elapses (i : Invocation) (w : Workshop) : w.site.Elapses (w.run i).2.site := by
  have hsite : (if i.verbose then w.note .commandStarted else w).site = w.site := by split_ifs <;> rfl
  unfold run
  generalize (if i.verbose then w.note .commandStarted else w) = w₁ at hsite ⊢
  have hlead := w₁.site.elapses_passUntil (w₁.site.now + lead.nanos)
  rw [← hsite]
  simp only
  generalize Shell.Running.start _ _ _ i = launched
  cases launched with
  | error e => exact hlead
  | ok r =>
    have hfollow := hlead.trans (follow_elapses i.slot.isSome moments { w₁ with site := w₁.site.pass lead } r)
    simp only
    split_ifs
    · exact hfollow
    · rw [noteEnd_site]
      exact hfollow

theorem unlessStopped_eq {α : Type} {idle : α} {act : Workshop → α × Workshop}
    (h : (w.unlessStopped idle act).2.interrupted = false) :
    w.interrupted = false ∧ w.unlessStopped idle act = act w := by
  unfold unlessStopped at h ⊢
  split_ifs at h ⊢ with hw
  · rw [hw] at h
    cases h
  · exact ⟨eq_false_of_ne_true hw, rfl⟩

theorem crew_worksAt : crew.WorksAt site (·.interrupted = false) where
  start {rules log w} h := by
    obtain ⟨hw, hact⟩ := unlessStopped_eq h
    simp only [crew, hact]
    exact ⟨hw, .now _ w.site⟩
  stop {w} h := by
    obtain ⟨hw, hact⟩ := unlessStopped_eq h
    simp only [crew, hact]
    exact ⟨hw, .now _ w.site⟩
  run {i w} h := by
    obtain ⟨hw, hact⟩ := unlessStopped_eq h
    simp only [crew, hact]
    exact ⟨hw, run_elapses i w⟩
  clear {dir w} h := by
    obtain ⟨hw, hact⟩ := unlessStopped_eq h
    simp only [crew, hact]
    refine ⟨hw, ?_⟩
    unfold clear
    simp only
    split_ifs
    · exact .files .rest _
    · exact .files .rest _
  readLog h := ⟨h, .rest⟩
  dump {frame w} h := by
    simp only [crew] at h ⊢
    split_ifs at h ⊢ with hw
    · exact ⟨h, .rest⟩
    · exact ⟨h, .rest⟩
  note {n w} h := by
    simp only [crew] at h ⊢
    split_ifs at h ⊢ with hw
    · exact ⟨h, .rest⟩
    · exact ⟨h, .rest⟩

end Workshop
end Foreman
