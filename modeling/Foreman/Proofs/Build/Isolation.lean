import Foreman.Build.Rehearsal
import Foreman.Proofs.Build.Record
import Foreman.Proofs.Log.Names
import Foreman.Proofs.Watch.Calls
import Foreman.Proofs.Watch.Isolation
import Foreman.Proofs.Watch.Verdicts

/-! What a log held before a call of the engine is of no matter to the call. Two crews that find different old
logs, and do the same from then on, get the same answers from the same watches. -/

namespace Foreman
open Watch

namespace Site

/-- Two places that differ in what one file held before, and in nothing else. Those who watch this file have
the same ahead. -/
structure Alike (id : FileId) (s t : Site) : Prop where
  disk : s.disk.AlikeBut id t.disk
  now : t.now = s.now
  watchdog : t.watchdog = { s.watchdog with monitor := t.watchdog.monitor }
  monitor : Option.Rel (Monitor.Alike s.disk t.disk) s.watchdog.monitor t.watchdog.monitor

/-- The same happens at two places. As long as nobody watches, the file may get different contents; from then
on both logs get the same at their ends. -/
inductive InParallel (id : FileId) (s t : Site) : Site → Site → Prop
  | begun : InParallel id s t s t
  | files {s₁ t₁ d d'} (h : InParallel id s t s₁ t₁) (hd : d.AlikeBut id d')
    (hg : ∀ m ∈ s₁.watchdog.monitor, ∀ j, m.cursor.source = .file j → ∃ chunk,
      s₁.disk.Grows m.cursor.path j chunk d ∧ t₁.disk.Grows m.cursor.path j chunk d') :
    InParallel id s t { s₁ with disk := d } { t₁ with disk := d' }
  | passes {s₁ t₁} (h : InParallel id s t s₁ t₁) (target : Instant) :
    InParallel id s t (s₁.passUntil target) (t₁.passUntil target)
  | reader {s₁ t₁ m m' m₁ m₁'} (h : InParallel id s t s₁ t₁) (hm : s₁.watchdog.monitor = some m)
    (hm' : t₁.watchdog.monitor = some m') (hs : m.readerStep? s₁.disk s₁.now = some m₁)
    (ht : m'.readerStep? t₁.disk t₁.now = some m₁') : InParallel id s t
      { s₁ with watchdog := s₁.watchdog.advance m₁ } { t₁ with watchdog := t₁.watchdog.advance m₁' }
  | scanner {s₁ t₁ m m' m₁ m₁'} (h : InParallel id s t s₁ t₁) (hm : s₁.watchdog.monitor = some m)
    (hm' : t₁.watchdog.monitor = some m') (hs : m.scannerStep? s₁.now = some m₁)
    (ht : m'.scannerStep? t₁.now = some m₁') : InParallel id s t
      { s₁ with watchdog := s₁.watchdog.advance m₁ } { t₁ with watchdog := t₁.watchdog.advance m₁' }

theorem InParallel.trans {id : FileId} {s t s' t' s'' t'' : Site} (h : InParallel id s t s' t')
    (h' : InParallel id s' t' s'' t'') : InParallel id s t s'' t'' := by
  induction h' with
  | begun => exact h
  | files _ hd hg ih => exact ih.files hd hg
  | passes _ target ih => exact ih.passes target
  | reader _ hm hm' hs ht ih => exact ih.reader hm hm' hs ht
  | scanner _ hm hm' hs ht ih => exact ih.scanner hm hm' hs ht

namespace Alike
variable {id : FileId} {s t s' t' : Site}

theorem state (h : Alike id s t) : t.state = s.state := by
  unfold Site.state
  rw [h.watchdog]

theorem monitors (h : Alike id s t) :
    (s.watchdog.monitor = none ∧ t.watchdog.monitor = none) ∨ ∃ m m', s.watchdog.monitor = some m ∧
      t.watchdog.monitor = some m' ∧ Monitor.Alike s.disk t.disk m m' := by
  have hmonitor := h.monitor
  generalize s.watchdog.monitor = m at hmonitor ⊢
  generalize t.watchdog.monitor = m' at hmonitor ⊢
  cases hmonitor with
  | none => exact .inl ⟨rfl, rfl⟩
  | some hm => exact .inr ⟨_, _, rfl, rfl, hm⟩

theorem halts (h : Alike id s t) : t.watchdog.halts = s.watchdog.halts := by
  have hearlier : t.watchdog.earlierHalts = s.watchdog.earlierHalts := by rw [h.watchdog]
  unfold Watchdog.halts
  rcases h.monitors with ⟨hs, ht⟩ | ⟨m, m', hs, ht, hm⟩
  · rw [hs, ht, hearlier]
  · have hhalts : m'.halts = m.halts := by
      rw [hm.rest]
      rfl
    simp only [hs, ht, hearlier, hhalts]

theorem advance (h : Alike id s t) {m m' : Monitor} (hm : m.Alike s.disk t.disk m') :
    Alike id { s with watchdog := s.watchdog.advance m } { t with watchdog := t.watchdog.advance m' } := by
  have hhalted : m'.halted = m.halted := by
    rw [hm.rest]
    rfl
  refine ⟨h.disk, h.now, ?_, .some hm⟩
  simp only [Watchdog.advance, hhalted]
  rw [h.watchdog]

theorem passUntil (h : Alike id s t) (target : Instant) : Alike id (s.passUntil target) (t.passUntil target) := by
  have hnow : max t.now target = max s.now target := by rw [h.now]
  unfold Site.passUntil Watchdog.pass
  rcases h.monitors with ⟨hs, ht⟩ | ⟨m, m', hs, ht, hm⟩
  · simp only [hs, ht]
    exact ⟨h.disk, hnow, h.watchdog, h.monitor⟩
  · have hpass := h.advance (hm.pass h.disk.find s.now target)
    simp only [hs, ht, h.now]
    exact ⟨hpass.disk, rfl, hpass.watchdog, hpass.monitor⟩

theorem files (h : Alike id s t) {d d' : Disk} (hd : d.AlikeBut id d')
    (hg : ∀ m ∈ s.watchdog.monitor, ∀ j, m.cursor.source = .file j → ∃ chunk,
      s.disk.Grows m.cursor.path j chunk d ∧ t.disk.Grows m.cursor.path j chunk d') :
    Alike id { s with disk := d } { t with disk := d' } := by
  refine ⟨hd, h.now, h.watchdog, ?_⟩
  have hmonitor := h.monitor
  show Option.Rel (Monitor.Alike d d') s.watchdog.monitor t.watchdog.monitor
  generalize s.watchdog.monitor = m at hmonitor hg ⊢
  generalize t.watchdog.monitor = m' at hmonitor ⊢
  cases hmonitor with
  | none => exact .none
  | some hm => exact .some ⟨hm.rest, hm.cursor.grows (hg _ rfl)⟩

theorem inParallel (h : Alike id s t) (hp : InParallel id s t s' t') : Alike id s' t' := by
  induction hp with
  | begun => exact h
  | files _ hd hg ih => exact ih.files hd hg
  | passes _ target ih => exact ih.passUntil target
  | @reader s₁ t₁ m m' m₁ m₁' _ hm hm' hs ht ih =>
    have hmonitor := ih.monitor
    rw [hm, hm'] at hmonitor
    cases hmonitor with
    | some halike =>
      have hstep := halike.readerStep? ih.disk.find s₁.now
      rw [ih.now] at ht
      rw [hs, ht] at hstep
      cases hstep with
      | some hstep => exact ih.advance hstep
  | @scanner s₁ t₁ m m' m₁ m₁' _ hm hm' hs ht ih =>
    have hmonitor := ih.monitor
    rw [hm, hm'] at hmonitor
    cases hmonitor with
    | some halike =>
      have hstep := halike.scannerStep? s₁.now
      rw [ih.now] at ht
      rw [hs, ht] at hstep
      cases hstep with
      | some hstep => exact ih.advance hstep

theorem startWatch (h : Alike id s t) (rules : Rules) (log : Path) :
    Agree (Alike id) (s.startWatch rules log) (t.startWatch rules log) := by
  unfold Site.startWatch Watchdog.start
  rcases h.monitors with ⟨hs, ht⟩ | ⟨m, m', hs, ht, hm⟩
  · obtain ⟨hanswer, hdisk⟩ := ensureLog_alike h.disk log
    have hw : t.watchdog = s.watchdog := by rw [h.watchdog, ht, ← hs]
    rw [hw]
    simp only [hs]
    generalize ensureLog t.disk log = ensured' at hanswer hdisk ⊢
    obtain ⟨answer, d'⟩ := ensured'
    obtain rfl : answer = _ := hanswer
    generalize ensureLog s.disk log = ensured at hdisk ⊢
    obtain ⟨answer, d⟩ := ensured
    have hidle {w : Watchdog} (hmonitor : w.monitor = none) :
        Alike id { s with disk := d, watchdog := w } { t with disk := d', watchdog := w } :=
      ⟨hdisk, h.now, rfl, by simp only [hmonitor]; exact .none⟩
    cases answer with
    | failed e => exact ⟨rfl, hidle hs⟩
    | _ =>
      rcases Cursor.Alike.openAtEnd hdisk.find log with ⟨e, ho, ho'⟩ | ⟨c, c', ho, ho', hc⟩
      · simp only [ho, ho']
        exact ⟨rfl, hidle (by split_ifs <;> exact hs)⟩
      · simp only [ho, ho', h.now]
        exact ⟨rfl, hdisk, rfl, rfl, .some ⟨rfl, hc⟩⟩
  · have hpath : m'.cursor.path = m.cursor.path := hm.cursor.path
    simp only [hs, ht, hpath]
    refine ⟨rfl, h.disk, h.now, ?_, ?_⟩
    · simp only [Watchdog.note]
      rw [h.watchdog]
    · simp only [Watchdog.note, hs, ht]
      exact .some hm

theorem stop_withCursor {w : Watchdog} {m : Monitor} {c : Cursor} {d d' : Disk} {now : Instant}
    (hm : w.monitor = some m) (hend : (m.withCursor c).readerEnd d' now = m.readerEnd d now) :
    ({ w with monitor := some (m.withCursor c) } : Watchdog).stop d' now = w.stop d now := by
  have hscanning : (m.withCursor c).scanning = m.scanning := rfl
  have hnote (m : Monitor) (n : Note) : (m.withCursor c).note n = (m.note n).withCursor c := rfl
  unfold Watchdog.stop
  simp only [hm, hscanning, hnote, ← apply_ite (Monitor.withCursor · c), Monitor.withCursor_scanner,
    Monitor.withCursor_reader]
  split_ifs
  all_goals exact Prod.ext rfl (Prod.ext hend rfl)

theorem stopWatch (h : Alike id s t) : Agree (Alike id) s.stopWatch t.stopWatch := by
  unfold Site.stopWatch
  rcases h.monitors with ⟨hs, ht⟩ | ⟨m, m', hs, ht, hm⟩
  · rw [Watchdog.stop_of_none hs, Watchdog.stop_of_none ht]
    exact ⟨rfl, h.disk, h.now, h.watchdog, h.monitor⟩
  · have hend := hm.readerEnd h.disk.find s.now
    rw [hm.rest] at hend ht
    rw [h.watchdog, ht, h.now, stop_withCursor hs hend]
    refine ⟨rfl, h.disk, rfl, rfl, ?_⟩
    obtain ⟨ending, notes, hstop⟩ := Watchdog.stop_eq hs s.disk s.now
    simp only [hstop]
    exact .none

end Alike
end Site

variable {σ : Type}

/-- From states related by `Q` a crew does the same, as far as a build asks for it. Its watches are those of
the place, its commands have the same results, and the same happens meanwhile. -/
structure Crew.KeepsStep (b : Build) (c : Crew σ) (site : σ → Site) (id : FileId) (Q : σ → σ → Prop) :
    Prop where
  symm {s t} : Q s t → Q t s
  start {s t} : Q s t → Agree (site · = ·) (c.startWatch b.watch b.engine.logFile s)
    ((site s).startWatch b.watch b.engine.logFile)
  stop {s t} : Q s t → Agree (site · = ·) (c.stopWatch s) (site s).stopWatch
  started {s t} : Q s t → (site s).Alike id (site t) →
    Q (c.startWatch b.watch b.engine.logFile s).2 (c.startWatch b.watch b.engine.logFile t).2
  stopped {s t} : Q s t → (site s).Alike id (site t) → Q (c.stopWatch s).2 (c.stopWatch t).2
  run {s t} (i : Invocation) : Q s t → (site s).Alike id (site t) → Agree (fun s' t' =>
    Q s' t' ∧ Site.InParallel id (site s) (site t) (site s') (site t')) (c.run i s) (c.run i t)
  clear {s t dir} : b.rules.cleanOutput = some dir → Q s t → (site s).Alike id (site t) → Agree (fun s' t' =>
    Q s' t' ∧ Site.InParallel id (site s) (site t) (site s') (site t')) (c.clear dir s) (c.clear dir t)
  dumpLog {s t} : Q s t → (site s).Alike id (site t) → Q (b.dumpLog c s) (b.dumpLog c t) ∧
    Site.InParallel id (site s) (site t) (site (b.dumpLog c s)) (site (b.dumpLog c t))
  note {s t} (n : Note) : Q s t → (site s).Alike id (site t) → Q (c.note n s) (c.note n t) ∧
    Site.InParallel id (site s) (site t) (site (c.note n s)) (site (c.note n t))

namespace Build
variable {b : Build} {c : Crew σ} {site : σ → Site} {id : FileId} {Q : σ → σ → Prop} {s t : σ}

theorem alike_of_keepsStep (h : c.KeepsStep b site id Q) :
    b.Alike c c fun s t => Q s t ∧ (site s).Alike id (site t) where
  start := by
    rintro s t ⟨hq, hsite⟩
    obtain ⟨hs, hs'⟩ := h.start hq
    obtain ⟨ht, ht'⟩ := h.start (h.symm hq)
    obtain ⟨hanswer, halike⟩ := hsite.startWatch b.watch b.engine.logFile
    exact ⟨hs.trans (hanswer.trans ht.symm), h.started hq hsite, hs' ▸ ht' ▸ halike⟩
  stop := by
    rintro s t ⟨hq, hsite⟩
    obtain ⟨hs, hs'⟩ := h.stop hq
    obtain ⟨ht, ht'⟩ := h.stop (h.symm hq)
    obtain ⟨hanswer, halike⟩ := hsite.stopWatch
    exact ⟨hs.trans (hanswer.trans ht.symm), h.stopped hq hsite, hs' ▸ ht' ▸ halike⟩
  run i := by
    rintro ⟨hq, hsite⟩
    obtain ⟨hanswer, hq', hp⟩ := h.run i hq hsite
    exact ⟨hanswer, hq', hsite.inParallel hp⟩
  clear hdir := by
    rintro ⟨hq, hsite⟩
    obtain ⟨hanswer, hq', hp⟩ := h.clear hdir hq hsite
    exact ⟨hanswer, hq', hsite.inParallel hp⟩
  dumpLog := by
    rintro s t ⟨hq, hsite⟩
    obtain ⟨hq', hp⟩ := h.dumpLog hq hsite
    exact ⟨hq', hsite.inParallel hp⟩
  note n := by
    rintro ⟨hq, hsite⟩
    obtain ⟨hq', hp⟩ := h.note n hq hsite
    exact ⟨hq', hsite.inParallel hp⟩

/-- Whatever a file held before, the same errands come to the same: the same answers after the same attempts,
the same commands, the same reports of the watches with as many lines seen, and the same halts. -/
theorem serveAll_isolated (h : c.KeepsStep b site id Q) (errands : List Errand) (hq : Q s t)
    (hsite : (site s).Alike id (site t)) :
    (b.serveAll c errands t).1 = (b.serveAll c errands s).1 ∧
      (b.serveAll (c.recorded site) errands ⟨t, []⟩).2.events =
        (b.serveAll (c.recorded site) errands ⟨s, []⟩).2.events ∧
      (site (b.serveAll c errands t).2).watchdog.halts = (site (b.serveAll c errands s).2).watchdog.halts ∧
      (site (b.serveAll c errands s).2).Alike id (site (b.serveAll c errands t).2) := by
  have halike := alike_of_keepsStep h
  obtain ⟨hanswers, -, hsite'⟩ := halike.serveAll errands ⟨hq, hsite⟩
  have hrecorded := (halike.recorded fun _ _ hst => hst.2.state.symm).serveAll errands
    (s := ⟨s, []⟩) (t := ⟨t, []⟩) ⟨⟨hq, hsite⟩, rfl⟩
  exact ⟨hanswers.symm, hrecorded.2.2.symm, hsite'.halts, hsite'⟩

end Build

namespace Rehearsal

structure Appends (log : Path) (id : FileId) (r : Rehearsal) : Prop where
  limit : r.limit = none
  breakdown : r.breakdown = none
  deeds : ∀ p ∈ r.script, ∀ deed ∈ p.deeds, (∃ bytes, deed = .change (.append log bytes)) ∨ ∃ d, deed = .wait d
  find : r.site.disk.find log = .ok (.file id)
  path : ∀ m ∈ r.site.watchdog.monitor, m.cursor.path = log

structure Twins (log : Path) (id : FileId) (r r' : Rehearsal) : Prop where
  left : r.Appends log id
  right : r'.Appends log id
  rest : r' = { r with site := r'.site, frames := r'.frames }

variable {log : Path} {id : FileId} {r r' : Rehearsal}

theorem checkTurn_of_limit (h : r.limit = none) : r.checkTurn = r := by
  unfold checkTurn
  rw [h]
  rfl

theorem checkLimit_of_limit (h : r.limit = none) : r.checkLimit = r := by
  unfold checkLimit
  rw [h]
  rfl

namespace Appends

theorem unlessBroken (h : r.Appends log id) {α : Type} (idle : α) (act : Rehearsal → α × Rehearsal) :
    r.unlessBroken idle act = act r := by
  unfold Rehearsal.unlessBroken
  rw [h.breakdown]
  rfl

theorem wait_eq (h : r.Appends log id) (d : Duration) :
    r.wait d = if d.nanos = 0 then r else { r with site := r.site.pass d } := by
  unfold Rehearsal.wait
  split_ifs
  · rfl
  · exact checkLimit_of_limit h.limit

theorem passUntil (h : r.Appends log id) (target : Instant) :
    { r with site := r.site.passUntil target }.Appends log id := by
  refine ⟨h.limit, h.breakdown, h.deeds, h.find, fun m hm => ?_⟩
  have hpath := h.path
  unfold Site.passUntil Watchdog.pass at hm
  cases hs : r.site.watchdog.monitor with
  | none =>
    simp only [hs] at hm
    cases hm
  | some m₀ =>
    simp only [hs, Watchdog.advance, Option.mem_some_iff] at hm
    obtain rfl := hm
    exact (m₀.pass_runs _ _ _).path_eq.trans (hpath m₀ hs)

theorem wait (h : r.Appends log id) (d : Duration) : (r.wait d).Appends log id := by
  rw [h.wait_eq]
  split_ifs
  · exact h
  · exact h.passUntil _

theorem startWatch (h : r.Appends log id) (rules : Rules) : (r.startWatch rules log).2.Appends log id := by
  have hmove := r.site.watchdog.start_move rules log r.site.disk r.site.now
  have hdisk := r.site.watchdog.start_disk rules r.site.now h.find
  unfold Rehearsal.startWatch Site.startWatch
  generalize r.site.watchdog.start rules log r.site.disk r.site.now = answer at hmove hdisk ⊢
  cases hmove with
  | refused hm => exact ⟨h.limit, h.breakdown, h.deeds, h.find, h.path⟩
  | failed hm =>
    obtain rfl := hdisk
    exact ⟨h.limit, h.breakdown, h.deeds, h.find, h.path⟩
  | begun hm hc =>
    obtain rfl := hdisk
    refine ⟨h.limit, h.breakdown, h.deeds, h.find, fun m hm => ?_⟩
    obtain rfl := Option.some.inj hm
    exact congrArg Cursor.path (Cursor.openAtEnd_eq_ok hc).2

theorem stopWatch_eq (h : r.Appends log id) :
    r.stopWatch = (r.site.stopWatch.1, { r with site := r.site.stopWatch.2 }) := by
  unfold Rehearsal.stopWatch
  simp only
  split_ifs
  · exact congrArg (Prod.mk _) (checkTurn_of_limit h.limit)
  · rfl

theorem stopWatch (h : r.Appends log id) : r.stopWatch.2.Appends log id := by
  rw [h.stopWatch_eq]
  unfold Site.stopWatch
  cases hm : r.site.watchdog.monitor with
  | none =>
    rw [Watchdog.stop_of_none hm]
    exact ⟨h.limit, h.breakdown, h.deeds, h.find, h.path⟩
  | some m =>
    obtain ⟨ending, notes, hstop⟩ := Watchdog.stop_eq hm r.site.disk r.site.now
    rw [hstop]
    exact ⟨h.limit, h.breakdown, h.deeds, h.find, by simp⟩

theorem changeDisk (h : r.Appends log id) {d : Disk} (hf : d.find log = .ok (.file id)) :
    (r.changeDisk d).Appends log id := ⟨h.limit, h.breakdown, h.deeds, hf, h.path⟩

end Appends

namespace Twins

theorem wait (h : Twins log id r r') (d : Duration) (hnow : r'.site.now = r.site.now) :
    Twins log id (r.wait d) (r'.wait d) ∧
      Site.InParallel id r.site r'.site (r.wait d).site (r'.wait d).site := by
  have hleft := h.left.wait d
  have hright := h.right.wait d
  rw [h.left.wait_eq] at hleft ⊢
  rw [h.right.wait_eq] at hright ⊢
  split_ifs at hleft hright ⊢
  · exact ⟨h, .begun⟩
  · refine ⟨⟨hleft, hright, congrArg (fun x : Rehearsal => { x with site := r'.site.pass d }) h.rest⟩, ?_⟩
    unfold Site.pass
    rw [hnow]
    exact .passes .begun _

theorem source_eq (h : Twins log id r r') (hsite : r.site.Alike id r'.site) {m : Monitor}
    (hm : r.site.watchdog.monitor = some m) {j : FileId} (hj : m.cursor.source = .file j) : j = id := by
  rcases hsite.monitors with ⟨hnone, -⟩ | ⟨m₁, m', hm₁, -, halike⟩
  · rw [hm] at hnone
    cases hnone
  · obtain rfl : m₁ = m := Option.some.inj (hm₁.symm.trans hm)
    have hpath := h.left.path m₁ hm
    have hcursor := halike.cursor
    generalize m₁.cursor = c at hcursor hpath hj
    cases hcursor with
    | directory hdir =>
      rw [hdir] at hj
      cases hj
    | file hc hc' =>
      have hsight := hc.sight (.file id)
      rw [← hc.path, hpath] at hsight
      have hsource := hc.source.symm.trans hj
      have hid := hsight h.left.find
      rw [← hid] at hsource
      exact (Entry.file.inj hsource).symm

theorem append (h : Twins log id r r') (hsite : r.site.Alike id r'.site) (bytes : Bytes) :
    let d := r.site.disk.apply (.append log bytes)
    let d' := r'.site.disk.apply (.append log bytes)
    Twins log id (r.changeDisk d) (r'.changeDisk d') ∧
      Site.InParallel id r.site r'.site (r.changeDisk d).site (r'.changeDisk d').site := by
  have hchanged (e e' : Disk) : r'.changeDisk e' =
      { r.changeDisk e with site := (r'.changeDisk e').site, frames := (r'.changeDisk e').frames } :=
    congrArg (fun x : Rehearsal => x.changeDisk e') h.rest
  unfold Disk.apply
  simp only
  rcases hsite.disk.append log bytes with ⟨e, ha, ha'⟩ | ⟨e, e', ha, ha', he⟩
  · rw [ha, ha']
    exact ⟨h, .begun⟩
  · have hf : e.find log = .ok (.file id) := by
      rw [Disk.update_eq h.left.find ha, Disk.find_setContent, h.left.find]
    have hf' : e'.find log = .ok (.file id) := (he.find log).trans hf
    rw [ha, ha']
    refine ⟨⟨h.left.changeDisk hf, h.right.changeDisk hf', hchanged e e'⟩, .files .begun he ?_⟩
    intro m hm j hj
    obtain rfl := h.source_eq hsite hm hj
    rw [h.left.path m hm]
    exact ⟨bytes, Disk.grows_of_append h.left.find ha, Disk.grows_of_append h.right.find ha'⟩

theorem perform (h : Twins log id r r') (hsite : r.site.Alike id r'.site) (i : Invocation) {deed : Deed}
    (hd : (∃ bytes, deed = .change (.append log bytes)) ∨ ∃ d, deed = .wait d) :
    Twins log id (r.perform i deed) (r'.perform i deed) ∧
      Site.InParallel id r.site r'.site (r.perform i deed).site (r'.perform i deed).site := by
  unfold Rehearsal.perform
  rw [h.left.unlessBroken, h.right.unlessBroken]
  rcases hd with ⟨bytes, rfl⟩ | ⟨d, rfl⟩
  · exact h.append hsite bytes
  · exact h.wait d hsite.now

theorem performAll (h : Twins log id r r') (hsite : r.site.Alike id r'.site) (i : Invocation)
    {deeds : List Deed}
    (hd : ∀ deed ∈ deeds, (∃ bytes, deed = .change (.append log bytes)) ∨ ∃ d, deed = .wait d) :
    Twins log id (deeds.foldl (Rehearsal.perform i) r) (deeds.foldl (Rehearsal.perform i) r') ∧
      Site.InParallel id r.site r'.site (deeds.foldl (Rehearsal.perform i) r).site
        (deeds.foldl (Rehearsal.perform i) r').site := by
  induction deeds generalizing r r' with
  | nil => exact ⟨h, .begun⟩
  | cons deed deeds ih =>
    obtain ⟨hdeed, hdeeds⟩ := List.forall_mem_cons.1 hd
    obtain ⟨htwins, hp⟩ := h.perform hsite i hdeed
    obtain ⟨htwins', hp'⟩ := ih htwins (hsite.inParallel hp) hdeeds
    exact ⟨htwins', hp.trans hp'⟩

theorem call (h : Twins log id r r') (hsite : r.site.Alike id r'.site) (i : Invocation) :
    Agree (fun x y => Twins log id x y ∧ Site.InParallel id r.site r'.site x.site y.site)
      (r.call i) (r'.call i) := by
  let next (r : Rehearsal) : Rehearsal := { r with received := r.received ++ [i], script := r.script.drop 1 }
  have hnext {r : Rehearsal} (h : r.Appends log id) : (next r).Appends log id :=
    ⟨h.limit, h.breakdown, fun p hp => h.deeds p (List.mem_of_mem_drop hp), h.find, h.path⟩
  have hscript : r'.script = r.script := by rw [h.rest]
  have hlead : r'.lead = r.lead := by rw [h.rest]
  have htwins : Twins log id (next r) (next r') := ⟨hnext h.left, hnext h.right, congrArg next h.rest⟩
  have hdeeds : ∀ deed ∈ (r.script.head?.getD {}).deeds,
      (∃ bytes, deed = .change (.append log bytes)) ∨ ∃ d, deed = .wait d := by
    have hall := h.left.deeds
    generalize r.script = script at hall ⊢
    cases script with
    | nil => simp
    | cons p rest => exact hall p (List.mem_cons_self ..)
  obtain ⟨hwaited, hp⟩ := htwins.wait r.lead hsite.now
  obtain ⟨hplayed, hp'⟩ := hwaited.performAll (hsite.inParallel hp) i hdeeds
  have hcall (r : Rehearsal) : r.call i = (Performance.outcome (r.script.head?.getD {}) i,
      (r.script.head?.getD {}).deeds.foldl (Rehearsal.perform i) ((next r).wait r.lead)) := rfl
  rw [hcall, hcall, hscript, hlead]
  exact ⟨rfl, hplayed, hp.trans hp'⟩

end Twins

theorem crew_keepsStep (b : Build) (hclean : b.rules.cleanOutput = none) :
    crew.KeepsStep b site id (Twins b.engine.logFile id) where
  symm h := ⟨h.right, h.left, by rw [h.rest]⟩
  start {r r'} h := by
    simp only [crew, checkTurn_of_limit h.left.limit, h.left.unlessBroken]
    exact ⟨rfl, rfl⟩
  stop {r r'} h := by
    simp only [crew, h.left.unlessBroken, h.left.stopWatch_eq]
    exact ⟨rfl, rfl⟩
  started {r r'} h hsite := by
    simp only [crew, checkTurn_of_limit h.left.limit, checkTurn_of_limit h.right.limit,
      h.left.unlessBroken, h.right.unlessBroken]
    exact ⟨h.left.startWatch b.watch, h.right.startWatch b.watch,
      congrArg (fun x : Rehearsal => (x.startWatch b.watch b.engine.logFile).2) h.rest⟩
  stopped {r r'} h hsite := by
    simp only [crew, h.left.unlessBroken, h.right.unlessBroken]
    refine ⟨h.left.stopWatch, h.right.stopWatch, ?_⟩
    rw [h.left.stopWatch_eq, h.right.stopWatch_eq]
    exact congrArg (fun x : Rehearsal => { x with site := r'.site.stopWatch.2 }) h.rest
  run {r r'} i h hsite := by
    simp only [crew, h.left.unlessBroken, h.right.unlessBroken]
    exact h.call hsite i
  clear hdir := by
    rw [hclean] at hdir
    cases hdir
  dumpLog {r r'} h hsite := by
    have hframes {r : Rehearsal} (frames : List String) (h : r.Appends b.engine.logFile id) :
        { r with frames }.Appends b.engine.logFile id := ⟨h.limit, h.breakdown, h.deeds, h.find, h.path⟩
    have hread {r : Rehearsal} (h : r.Appends b.engine.logFile id) :
        ∃ frames, b.dumpLog crew r = { r with frames } := by
      unfold Build.dumpLog
      simp only [crew, checkTurn_of_limit h.limit, Disk.readFile, h.find, h.breakdown]
      exact ⟨_, rfl⟩
    obtain ⟨frames, hleft⟩ := hread h.left
    obtain ⟨frames', hright⟩ := hread h.right
    rw [hleft, hright]
    exact ⟨⟨hframes frames h.left, hframes frames' h.right,
      congrArg (fun x : Rehearsal => { x with frames := frames' }) h.rest⟩, .begun⟩
  note n h hsite := ⟨h, .begun⟩

end Rehearsal

theorem Build.serveAll_isolated_unfinished_line :
    let b : Build := ⟨⟨"engine", ⟨"."⟩, "", .osx, ⟨"log"⟩, []⟩,
      { crashSignatures := ["boom"], pollInterval := .ofMillis 20 }, {}⟩
    let script : List Performance := [
      { deeds := [.change (.append ⟨"log"⟩ [111, 109, 10]), .wait (.ofMillis 30)], code := 1 },
      { deeds := [.change (.append ⟨"log"⟩ [98, 111, 111, 109, 10]), .wait (.ofMillis 30)] }]
    let r : Rehearsal := { site := { disk := ⟨[(["log"], .file 0)], [(0, [])], 1, []⟩ }, script }
    let r' : Rehearsal :=
      { site := { disk := ⟨[(["log"], .file 0)], [(0, [98, 111, 111, 109, 10, 98, 111])], 1, []⟩ }, script }
    let errands := [Errand.step .refreshUIAtlas 1]
    Rehearsal.crew.KeepsStep b Rehearsal.site 0 (Rehearsal.Twins ⟨"log"⟩ 0) ∧ Rehearsal.Twins ⟨"log"⟩ 0 r r' ∧
      r.site.Alike 0 r'.site ∧ (b.serveAll Rehearsal.crew errands r').1 = (b.serveAll Rehearsal.crew errands r).1 ∧
      (b.serveAll (Rehearsal.crew.recorded Rehearsal.site) errands ⟨r', []⟩).2.events =
        (b.serveAll (Rehearsal.crew.recorded Rehearsal.site) errands ⟨r, []⟩).2.events ∧
      (b.serveAll Rehearsal.crew errands r').2.site.watchdog.halts =
        (b.serveAll Rehearsal.crew errands r).2.site.watchdog.halts ∧
      (b.serveAll Rehearsal.crew errands r).2.site.Alike 0 (b.serveAll Rehearsal.crew errands r').2.site := by
  intro b script r r' errands
  have hdeeds : ∀ p ∈ script, ∀ deed ∈ p.deeds,
      (∃ bytes, deed = .change (.append ⟨"log"⟩ bytes)) ∨ ∃ d, deed = .wait d := by
    simp [script]
  have hstep : Rehearsal.crew.KeepsStep b Rehearsal.site 0 (Rehearsal.Twins ⟨"log"⟩ 0) :=
    Rehearsal.crew_keepsStep b rfl
  have htwins : Rehearsal.Twins ⟨"log"⟩ 0 r r' :=
    ⟨⟨rfl, rfl, hdeeds, rfl, by simp [r]⟩, ⟨rfl, rfl, hdeeds, rfl, by simp [r']⟩, rfl⟩
  have hsite : r.site.Alike 0 r'.site :=
    ⟨Disk.alikeBut_setContent 0 r.site.disk [98, 111, 111, 109, 10, 98, 111], rfl, rfl, .none⟩
  exact ⟨hstep, htwins, hsite, serveAll_isolated hstep errands htwins hsite⟩

end Foreman
