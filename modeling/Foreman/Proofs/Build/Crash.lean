import Foreman.Build.Rehearsal
import Foreman.Proofs.Watch.Promptness

/-! A call of the engine that writes a line with a crash signature. The call comes to a crash if it goes on
for longer than the reader of the log may sleep; a stop does not look at lines that have not been read. -/

namespace Foreman
open Watch

namespace Site

/-- What can happen at a place while a log is watched that only grows: something is written to the log, and
time passes. The log may also be missing at its path. -/
inductive Course (p : Path) (id : FileId) (s₀ : Site) : Site → Bytes → Prop
  | begun : Course p id s₀ s₀ []
  | wrote {s written d chunk} (h : Course p id s₀ s written) (hg : s.disk.Grows p id chunk d)
    (hsight : ∀ e, d.find p = .error e → e = .notFound) :
    Course p id s₀ { s with disk := d } (written ++ chunk)
  | waited {s written} (h : Course p id s₀ s written) (target : Instant) :
    Course p id s₀ (s.passUntil target) written

structure Watched (r : Rules) (p : Path) (id : FileId) (t₀ : Instant) (s : Site) (x : Watching) : Prop where
  monitor : s.watchdog.monitor = some x.monitor
  disk : s.disk = x.disk
  reached : Watching.Reached r p id x
  timely : x.Timely r t₀ s.now
  sight : ∀ e, x.disk.find p = .error e → e = .notFound
  asleep : t₀ < s.now → x.monitor.scanning = true → x.monitor.underway = [] ∧
    ∃ wakeAt, x.monitor.reader = .sleeping wakeAt ∧ s.now ≤ wakeAt

variable {r : Rules} {p : Path} {id : FileId} {t₀ : Instant} {s₀ s s₁ s₂ mid : Site} {x₀ : Watching}
  {written early late : Bytes}

theorem watched_of_start (h : s.startWatch r p = (none, s₁)) (ha : s.watchdog.haltAction = .returns)
    (hp : 0 < r.pollInterval.nanos) (hf : s₁.disk.find p = .ok (.file id)) :
    ∃ m, Watched r p id s₁.now s₁ { disk := s₁.disk, monitor := m } := by
  unfold startWatch at h
  have hmove := s.watchdog.start_move r p s.disk s.now
  cases hs : s.watchdog.start r p s.disk s.now with
  | mk error rest =>
    obtain ⟨d, w⟩ := rest
    rw [hs] at hmove h
    simp only [Prod.mk.injEq] at h
    obtain ⟨rfl, rfl⟩ := h
    cases hmove with
    | begun hm hc =>
      have hsource := (Cursor.openAtEnd_eq_ok hc).1
      have hfind : d.find p = .ok (.file id) := hf
      rw [hfind] at hsource
      refine ⟨_, rfl, rfl, .start hs rfl (Except.ok.inj hsource).symm, .start ha hp _, fun e he => ?_,
        fun hlt => absurd hlt (lt_irrefl _)⟩
      simp only [hfind, reduceCtorEq] at he

namespace Watched

theorem wrote {x : Watching} {d : Disk} {chunk : Bytes} (h : Watched r p id t₀ s x)
    (hg : s.disk.Grows p id chunk d) (hsight : ∀ e, d.find p = .error e → e = .notFound) :
    Watched r p id t₀ { s with disk := d } { x with disk := d, written := x.written ++ chunk } := by
  rw [h.disk] at hg
  exact ⟨h.monitor, rfl, h.reached.step (.write hg), ⟨h.timely.since, h.timely.interval, h.timely.poll,
    h.timely.action, h.timely.verdict, h.timely.intact, h.timely.patient, h.timely.alive, h.timely.awake⟩,
    hsight, h.asleep⟩

theorem waited {x : Watching} (h : Watched r p id t₀ s x) (target : Instant) : ∃ judged,
    let y := { x with monitor := x.monitor.pass x.disk s.now target, judged }
    Watched r p id t₀ (s.passUntil target) y ∧
      ∀ t lines, lines <+: completeLines x.written → x.Covers t lines → y.Covers t lines := by
  have hmonitor : (s.passUntil target).watchdog.monitor = some (x.monitor.pass x.disk s.now target) := by
    simp only [passUntil, Watchdog.pass, h.monitor, Watchdog.advance, h.disk]
  by_cases hlt : s.now < target
  · obtain ⟨⟨judged, hr, ht, hc⟩, hasleep⟩ := h.reached.pass h.timely h.sight hlt
    have hnow : (s.passUntil target).now = target := max_eq_right hlt.le
    refine ⟨judged, ⟨hmonitor, h.disk, hr, ?_, h.sight, fun _ => ?_⟩, hc⟩
    · rw [hnow]
      exact ht
    · rw [hnow]
      exact hasleep
  · have hstays : x.monitor.pass x.disk s.now target = x.monitor := if_neg hlt
    have hnow : s.now = (s.passUntil target).now := (max_eq_left (not_lt.1 hlt)).symm
    have htimely := h.timely
    have hasleep := h.asleep
    rw [hnow] at htimely hasleep
    rw [hstays] at hmonitor ⊢
    exact ⟨x.judged, ⟨hmonitor, h.disk, h.reached, htimely, h.sight, hasleep⟩, fun _ _ _ hx => hx⟩

/-- A reader that cannot have slept since lines were there has brought them all. What the scanner reports
then is the first crash among them, unless it had found the log silent for too long before. -/
theorem finalReport {x : Watching} {t : Instant} {lines : List String} (h : Watched r p id t₀ s x)
    (hc : x.Covers t lines) (hl : lines <+: completeLines x.written)
    (hsignal : ∃ line ∈ lines, r.Signals line) (hsince : t₀ ≤ t)
    (hgap : t + x.monitor.readerSleep.nanos < s.now)
    (hlong : s.now ≤ t₀ + Duration.largest.nanos) (lastWords : String) :
    (x.monitor.finalReport lastWords).outcome = .hung ∨
      ∃ before line signature, before ++ [line] <+: lines ∧ (∀ l ∈ before, ¬ r.Signals l) ∧
        r.FirstSignal line signature ∧ x.monitor.finalReport lastWords =
          ⟨.crashed, some (Scan.crashMessage signature), before.length + 1⟩ := by
  obtain ⟨hjudged, -⟩ := h.reached.judged_in_order
  obtain ⟨-, hj⟩ := h.reached.accounted
  obtain ⟨line, hline, hsig⟩ := hsignal
  unfold Monitor.finalReport
  cases hs : x.monitor.scanner with
  | waiting deadline =>
    -- all is judged, and nothing was found
    have hscanning : x.monitor.scanning = true := by rw [Monitor.scanning, hs]
    obtain ⟨hunder, wakeAt, hw, hlate⟩ := h.asleep (by lia) hscanning
    rcases hc wakeAt hw with hle | hpre
    · exact absurd hgap (not_lt.2 (hlate.trans hle))
    · rw [hunder, List.append_nil] at hpre
      exact absurd hsig (hj.waiting hscanning line (hpre.subset hline))
  | failed => exact absurd hs (h.timely.intact hlong)
  | reported report =>
    have hok : report.outcome ≠ .ok := by
      rcases h.timely.verdict with hcalm | ⟨reason, hcondemned⟩
      · exact absurd hs (hcalm.scanner report)
      · obtain ⟨report', hs', hne, -⟩ := hcondemned.scanner
        rw [hs] at hs'
        cases hs'
        exact hne
    cases hj.reported report hs with
    | ok => exact absurd rfl hok
    | hung => exact .inl rfl
    | @crashed before last signature hlast hb hf =>
      rw [hlast] at hjudged ⊢
      refine .inr ⟨before, last, signature, ?_, hb, hf, by rw [List.length_append]; rfl⟩
      rcases List.prefix_or_prefix_of_prefix hl hjudged with hpre | hpre
      · rcases List.prefix_concat_iff.1 hpre with heq | hpre
        · exact heq ▸ List.prefix_rfl
        · exact absurd hsig (hb line (hpre.subset hline))
      · exact hpre

end Watched

theorem Course.watched (h : Course p id s₀ s written) (hw : Watched r p id t₀ s₀ x₀) : ∃ x,
    Watched r p id t₀ s x ∧ x.written = x₀.written ++ written ∧
      ∀ t lines, lines <+: completeLines x₀.written → x₀.Covers t lines → x.Covers t lines := by
  induction h with
  | begun => exact ⟨x₀, hw, (List.append_nil _).symm, fun _ _ _ hx => hx⟩
  | wrote _ hg hsight ih =>
    obtain ⟨x, hx, hwritten, hc⟩ := ih
    refine ⟨_, hx.wrote hg hsight, ?_, fun t lines hl h₀ => hc t lines hl h₀⟩
    simp only [hwritten, List.append_assoc]
  | waited _ target ih =>
    obtain ⟨x, hx, hwritten, hc⟩ := ih
    obtain ⟨judged, hy, hcy⟩ := hx.waited target
    refine ⟨_, hy, hwritten, fun t lines hl h₀ => hcy t lines ?_ (hc t lines hl h₀)⟩
    rw [hwritten]
    exact hl.trans (completeLines_mono _ _)

theorem stopWatch_of_course (hstart : s.startWatch r p = (none, s₁))
    (ha : s.watchdog.haltAction = .returns) (hp : 0 < r.pollInterval.nanos)
    (hf : s₁.disk.find p = .ok (.file id)) (hearly : Course p id s₁ mid early)
    (hlate : Course p id mid s₂ late) (hsignal : ∃ line ∈ completeLines early, r.Signals line)
    (hgap : mid.now + (min r.pollInterval Monitor.longestSleep).nanos < s₂.now)
    (hlong : s₂.now ≤ s₁.now + Duration.largest.nanos) : ∃ report, s₂.stopWatch.1 = some report ∧
      (report.outcome = .hung ∨
        ∃ before line signature, before ++ [line] <+: completeLines early ∧
          (∀ l ∈ before, ¬ r.Signals l) ∧ r.FirstSignal line signature ∧
          report = ⟨.crashed, some (Scan.crashMessage signature), before.length + 1⟩) := by
  obtain ⟨m, hw⟩ := watched_of_start hstart ha hp hf
  obtain ⟨x, hx, hwritten, -⟩ := hearly.watched hw
  obtain ⟨y, hy, hwritten', hc⟩ := hlate.watched hx
  rw [List.nil_append] at hwritten
  have hcover : y.Covers mid.now (completeLines early) :=
    hc mid.now _ (hwritten ▸ List.prefix_rfl) fun wakeAt hwake => .inl (hx.timely.awake wakeAt hwake)
  have hsleep : y.monitor.readerSleep = min r.pollInterval Monitor.longestSleep := by
    rw [Monitor.readerSleep_eq (hy.timely.interval.symm ▸ hp), hy.timely.interval]
  obtain ⟨ending, notes, hstop⟩ := Watchdog.stop_eq hy.monitor s₂.disk s₂.now
  refine ⟨y.monitor.finalReport s₂.watchdog.lastWords, by rw [stopWatch, hstop], ?_⟩
  refine hy.finalReport hcover ?_ hsignal hx.timely.since (by rwa [hsleep]) hlong _
  rw [hwritten', hwritten]
  exact completeLines_mono early late

end Site

namespace Build
variable {σ : Type}

/-- A call of the engine whose watch began, and the places it passes through: `s` before it, `s₁` when the
watch has begun, and `s₂` when the command has come back, with whatever result. -/
structure EngineCall (b : Build) (c : Crew σ) (site : σ → Site) (method : String) (id : FileId)
    (s s₁ s₂ : σ) : Prop where
  start : c.startWatch b.watch b.engine.logFile s = (none, s₁)
  begun : (site s).startWatch b.watch b.engine.logFile = (none, site s₁)
  file : (site s₁).disk.find b.engine.logFile = .ok (.file id)
  run : (c.run (b.engine.invocation method) s₁).2 = s₂
  stop : (c.stopWatch s₂).1 = (site s₂).stopWatch.1

variable {b : Build} {c : Crew σ} {site : σ → Site} {method : String} {id : FileId} {s s₁ s₂ : σ}
  {mid : Site} {early late : Bytes}

namespace EngineCall

theorem error_of_report (h : b.EngineCall c site method id s s₁ s₂) {message : String} {n : Nat}
    (hr : (site s₂).stopWatch.1 = some ⟨.crashed, some message, n⟩) :
    (b.callEngine c method s).1 = .error (.supervision .crashed message) := by
  have hstop := h.stop.trans hr
  have hwatched : (watched c b.watch b.engine.logFile (b.engine.invocation method) s).1 =
      .error (.supervision .crashed message) := by
    simp only [watched, h.start, h.run]
    rw [hstop]
    rfl
  unfold callEngine
  cases hw : watched c b.watch b.engine.logFile (b.engine.invocation method) s with
  | mk result s' =>
    rw [hw] at hwatched
    cases hwatched
    rfl

/-- A line with a crash signature decides the call, whatever else the command does and comes back with, if
the command goes on for longer than the reader may sleep after the line was written. -/
theorem crash_found (h : b.EngineCall c site method id s s₁ s₂)
    (ha : (site s).watchdog.haltAction = .returns) (hp : 0 < b.watch.pollInterval.nanos)
    (hearly : (site s₁).Course b.engine.logFile id mid early)
    (hlate : mid.Course b.engine.logFile id (site s₂) late)
    (hsignal : ∃ line ∈ completeLines early, b.watch.Signals line)
    (hgap : mid.now + (min b.watch.pollInterval Monitor.longestSleep).nanos < (site s₂).now)
    (hlong : (site s₂).now ≤ (site s₁).now + Duration.largest.nanos)
    (hhang : ∀ report, (site s₂).stopWatch.1 = some report → report.outcome ≠ .hung) :
    ∃ before line signature, before ++ [line] <+: completeLines early ∧
      (∀ l ∈ before, ¬ b.watch.Signals l) ∧ b.watch.FirstSignal line signature ∧
      (b.callEngine c method s).1 = .error (.supervision .crashed (Scan.crashMessage signature)) := by
  obtain ⟨report, hstop, hreport⟩ := Site.stopWatch_of_course h.begun ha hp h.file hearly hlate hsignal
    hgap hlong
  rcases hreport with hhung | ⟨before, line, signature, hpre, hb, hf, rfl⟩
  · exact absurd hhung (hhang report hstop)
  · exact ⟨before, line, signature, hpre, hb, hf, h.error_of_report hstop⟩

def boomBuild : Build where
  engine := { binary := "engine", projectPath := ⟨"."⟩, methodPrefix := "", platform := .osx,
              logFile := ⟨"log"⟩, extraArgs := [] }
  watch := { crashSignatures := ["boom"], pollInterval := .ofMillis 20 }
  rules := {}

def boomRehearsal (deeds : List Deed) : Rehearsal where
  site := { disk := ⟨[(["log"], .file 0)], [(0, [])], 1, []⟩ }
  script := [{ deeds }]

theorem boom_wrote {s₀ s : Site} (h : s₀.Course ⟨"log"⟩ 0 s [])
    (hd : s.disk = ⟨[(["log"], .file 0)], [(0, [])], 1, []⟩) : s₀.Course ⟨"log"⟩ 0
      { s with disk := ⟨[(["log"], .file 0)], [(0, [98, 111, 111, 109, 10])], 1, []⟩ }
      [98, 111, 111, 109, 10] := by
  have hg : s.disk.Grows ⟨"log"⟩ 0 [98, 111, 111, 109, 10]
      ⟨[(["log"], .file 0)], [(0, [98, 111, 111, 109, 10])], 1, []⟩ := by
    rw [hd]
    exact Disk.grows_of_append rfl rfl
  exact .wrote h hg fun e he => by cases he

theorem crash_found_boom : ∃ s₁ s₂ mid,
    boomBuild.EngineCall Rehearsal.crew Rehearsal.site "Run" 0
      (boomRehearsal [.log ["boom"], .wait (.ofMillis 30)]) s₁ s₂ ∧
    s₁.site.Course ⟨"log"⟩ 0 mid [98, 111, 111, 109, 10] ∧ mid.Course ⟨"log"⟩ 0 s₂.site [] ∧
    mid.now + 20000000 < s₂.site.now ∧ ∃ line signature, boomBuild.watch.FirstSignal line signature ∧
      (boomBuild.callEngine Rehearsal.crew "Run" (boomRehearsal [.log ["boom"], .wait (.ofMillis 30)])).1 =
        .error (.supervision .crashed (Scan.crashMessage signature)) := by
  let s := boomRehearsal [.log ["boom"], .wait (.ofMillis 30)]
  let s₁ := (Rehearsal.crew.startWatch boomBuild.watch ⟨"log"⟩ s).2
  let s₂ := (Rehearsal.crew.run (boomBuild.engine.invocation "Run") s₁).2
  let mid : Site :=
    { s₁.site with disk := ⟨[(["log"], .file 0)], [(0, [98, 111, 111, 109, 10])], 1, []⟩ }
  have hcall : boomBuild.EngineCall Rehearsal.crew Rehearsal.site "Run" 0 s s₁ s₂ :=
    ⟨by decide +kernel, by decide +kernel, by decide +kernel, rfl, by decide +kernel⟩
  have hearly : s₁.site.Course ⟨"log"⟩ 0 mid [98, 111, 111, 109, 10] :=
    boom_wrote .begun (by decide +kernel)
  have hsite : mid.passUntil 30000000 = s₂.site := by decide +kernel
  have hlate : mid.Course ⟨"log"⟩ 0 s₂.site [] := hsite ▸ .waited .begun 30000000
  have hgap : mid.now + 20000000 < s₂.site.now := by decide +kernel
  have hreport : ∀ report, s₂.site.stopWatch.1 = some report → report.outcome ≠ .hung := by
    have hcrash : s₂.site.stopWatch.1.map (·.outcome) = some .crashed := by decide +kernel
    intro report hr hhung
    rw [hr, Option.map_some, hhung] at hcrash
    cases hcrash
  obtain ⟨-, line, signature, -, -, hf, hresult⟩ := crash_found hcall rfl (by decide) hearly hlate
    ⟨"boom", by decide +kernel, "boom", by decide, by decide, List.infix_rfl⟩ hgap (by decide +kernel)
    hreport
  exact ⟨s₁, s₂, mid, hcall, hearly, hlate, hgap, line, signature, hf, hresult⟩

/-- The engine ends right after its line, and the stop comes before the next look at the log. -/
theorem crash_not_found_at_end : ¬ ∀ (σ : Type) (b : Build) (c : Crew σ) (site : σ → Site) method id s s₁ s₂
    written, b.EngineCall c site method id s s₁ s₂ →
    (site s₁).Course b.engine.logFile id (site s₂) written →
    (∃ line ∈ completeLines written, b.watch.Signals line) →
    (∀ report, (site s₂).stopWatch.1 = some report → report.outcome ≠ .hung) →
    ∃ message, (b.callEngine c method s).1 = .error (.supervision .crashed message) := by
  intro hall
  let s := boomRehearsal [.wait (.ofMillis 30), .log ["boom"]]
  let s₁ := (Rehearsal.crew.startWatch boomBuild.watch ⟨"log"⟩ s).2
  let s₂ := (Rehearsal.crew.run (boomBuild.engine.invocation "Run") s₁).2
  have hcall : boomBuild.EngineCall Rehearsal.crew Rehearsal.site "Run" 0 s s₁ s₂ :=
    ⟨by decide +kernel, by decide +kernel, by decide +kernel, rfl, by decide +kernel⟩
  have hsite : { s₁.site.passUntil 30000000 with
      disk := ⟨[(["log"], .file 0)], [(0, [98, 111, 111, 109, 10])], 1, []⟩ } = s₂.site := by
    decide +kernel
  have hcourse : s₁.site.Course ⟨"log"⟩ 0 s₂.site [98, 111, 111, 109, 10] :=
    hsite ▸ boom_wrote (.waited .begun 30000000) (by decide +kernel)
  have hok : s₂.site.stopWatch.1 = some ⟨.ok, none, 0⟩ := by decide +kernel
  obtain ⟨message, hmessage⟩ := hall _ boomBuild Rehearsal.crew Rehearsal.site "Run" 0 s s₁ s₂ _ hcall
    hcourse ⟨"boom", by decide +kernel, "boom", by decide, by decide, List.infix_rfl⟩ fun report hr => by
      rw [hok] at hr
      cases hr
      simp
  have hcode : (boomBuild.callEngine Rehearsal.crew "Run" s).1.toOption = some 0 := by decide +kernel
  rw [hmessage] at hcode
  cases hcode

end EngineCall
end Build
end Foreman
