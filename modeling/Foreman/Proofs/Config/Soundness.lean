import Foreman.Config.Settings
import Foreman.Proofs.Duration.Reading
import Foreman.Proofs.Watch.Judgement

/-! Which drafts pass the checks, and what a scan gets from a draft that did. -/

namespace Foreman

namespace Watch

namespace Scan.Knows
variable {s s' : Scan} {r : Rules} {heard inputs : List Input} {i : Input} {v : Verdict}
  {verdicts : List Verdict}

theorem of_feed (h : s.Knows r heard) (hf : s.feed i = some (s', v)) : s'.Knows r (heard ++ [i]) := by
  -- a silence that cannot be added up is no step, so all that was fed fits
  have hle : ∀ elapsed, i = .silence elapsed → silenceAfter (heard ++ [i]) ≤ .largest := by
    rintro elapsed rfl
    have hsome : (s.idle.add? elapsed).isSome := by
      rw [Option.isSome_iff_ne_none, ne_eq, ← onIdle_eq_none]
      intro hnone
      rw [Scan.feed, hnone] at hf
      cases hf
    rw [Duration.add?, h.idle] at hsome
    rw [silenceAfter_silence, Duration.le_iff]
    by_contra hlarge
    rw [if_neg hlarge] at hsome
    exact Bool.false_ne_true hsome
  cases i with
  | line text =>
    obtain ⟨rfl, -⟩ := Prod.mk.inj (Option.some.inj hf.symm)
    exact h.line text
  | silence elapsed =>
    obtain ⟨s'', v', heq, hknows, -⟩ := h.silence (hle elapsed rfl)
    obtain ⟨rfl, -⟩ := Prod.mk.inj (Option.some.inj (hf.symm.trans heq))
    exact hknows

theorem of_run (h : s.Knows r heard) (hr : s.run inputs = some (s', verdicts)) :
    s'.Knows r (heard ++ inputs) := by
  induction inputs generalizing s heard verdicts with
  | nil =>
    cases hr
    rwa [List.append_nil]
  | cons i inputs ih =>
    rw [run, Option.bind_eq_some_iff] at hr
    obtain ⟨⟨s₁, v⟩, hfeed, hrest⟩ := hr
    obtain ⟨⟨s₂, vs⟩, hrun, heq⟩ := Option.map_eq_some_iff.1 hrest
    cases heq
    rw [List.append_cons]
    exact ih (h.of_feed hfeed) hrun

end Scan.Knows

structure Rules.Sound (r : Rules) : Prop where
  hangTimeout : 0 < r.hangTimeout.nanos
  pollInterval : 0 < r.pollInterval.nanos
  initialTimeout : ∀ initial ∈ r.initialTimeout, 0 < initial.nanos ∧ initial ≤ r.hangTimeout
  poll_le : r.pollInterval ≤ r.startingWindow
  signatures : "" ∉ r.crashSignatures
  markers : "" ∉ r.resetMarkers

namespace Rules.Sound
variable {r : Rules} {s : Scan} {inputs : List Input} {verdicts : List Verdict}

theorem startingWindow_le (h : r.Sound) : r.startingWindow ≤ r.hangTimeout := by
  unfold startingWindow
  cases hi : r.initialTimeout with
  | none => exact Nat.le_refl _
  | some initial => exact (h.initialTimeout initial hi).2

theorem withoutEmpty_eq (h : r.Sound) : r.withoutEmpty = r := by
  have hkeep : ∀ {patterns : List String}, "" ∉ patterns → patterns.filter (· ≠ "") = patterns := by
    intro patterns hp
    refine List.filter_eq_self.2 fun x hx => decide_eq_true ?_
    rintro rfl
    exact hp hx
  rw [withoutEmpty, hkeep h.signatures, hkeep h.markers]

theorem window_of_run (h : r.Sound) (hr : (Scan.start r).run inputs = some (s, verdicts)) : s.window =
    if ∃ line ∈ linesIn inputs, r.Marks line ∧ ¬ r.Signals line then r.hangTimeout
    else r.startingWindow := by
  have hmax : max r.startingWindow r.hangTimeout = r.hangTimeout := if_pos h.startingWindow_le
  rw [((Scan.knows_start r).of_run hr).window, List.nil_append, windowAfter, hmax]

end Rules.Sound
end Watch

namespace Config
open Watch

def Visible (text : String) : Prop := ∃ c ∈ text.toList, Text.isBlank c = false

structure EngineDraft.Sound (e : EngineDraft) : Prop where
  binary : ∀ text ∈ e.binary, Visible text
  processName : ∀ text ∈ e.processName, Visible text

/-- The texts of the draft mean the times of the rules, and the patterns are the same. -/
structure WatchDraft.Says (w : WatchDraft) (r : Rules) : Prop where
  hangTimeout : Duration.Means w.hangTimeout r.hangTimeout
  initialTimeout : Option.Rel Duration.Means w.initialTimeout r.initialTimeout
  pollInterval : Duration.Means w.pollInterval r.pollInterval
  signatures : r.crashSignatures = w.crashSignatures
  markers : r.resetMarkers = w.resetMarkers

structure Draft.Sound (d : Draft) : Prop where
  engine : d.engine.Sound
  watchdog : ∃ r, d.watchdog.Says r ∧ r.Sound

variable {temp : Path} {d : Draft} {e : EngineDraft} {w : WatchDraft} {r : Rules} {field : TimeField}
  {text : String} {time : Duration}

theorem bind_eq_ok_iff {α β : Type} {x : Except Problem α} {f : α → Except Problem β} {b : β} :
    (x >>= f) = .ok b ↔ ∃ a, x = .ok a ∧ f a = .ok b := by
  cases x with
  | error e => simp [bind, Except.bind]
  | ok a => simp [bind, Except.bind]

theorem visible_iff : Visible text ↔ Text.blank text = false := by
  simp only [Visible, Text.blank, List.all_eq_false, Bool.not_eq_true]

theorem checkEngine_eq_ok_iff {u : Unit} : checkEngine e = .ok u ↔ e.Sound := by
  have hany : ∀ {t : Option String}, (∀ text ∈ t, Visible text) ↔ ¬ t.any Text.blank = true := by
    intro t
    cases t with
    | none => simp
    | some text => simp [visible_iff]
  unfold checkEngine
  constructor
  · intro h
    split at h
    · cases h
    · split at h
      · cases h
      · exact ⟨hany.2 ‹_›, hany.2 ‹_›⟩
  · rintro ⟨hbinary, hname⟩
    rw [if_neg (hany.1 hbinary), if_neg (hany.1 hname)]

theorem positive_eq_ok_iff :
    positive field text = .ok time ↔ Duration.Means text time ∧ 0 < time.nanos := by
  rw [← Duration.read_eq_ok_iff]
  unfold positive
  constructor
  · intro h
    split at h
    · cases h
    · cases h
    · rename_i hread
      split at h
      · cases h
      · cases h
        exact ⟨hread, Nat.pos_of_ne_zero ‹_›⟩
  · rintro ⟨hread, hpos⟩
    simp only [hread]
    exact if_neg (Nat.ne_of_gt hpos)

theorem positive?_eq_ok_iff {t : Option String} {times : Option Duration} :
    positive? field t = .ok times ↔
      Option.Rel Duration.Means t times ∧ ∀ time ∈ times, 0 < time.nanos := by
  cases t with
  | none =>
    constructor
    · intro h
      cases h
      exact ⟨.none, nofun⟩
    · rintro ⟨⟨⟩, -⟩
      rfl
  | some text =>
    constructor
    · intro h
      cases hp : positive field text with
      | error e =>
        rw [positive?, hp] at h
        cases h
      | ok time =>
        rw [positive?, hp] at h
        cases h
        obtain ⟨hmeans, hpos⟩ := positive_eq_ok_iff.1 hp
        exact ⟨.some hmeans, fun _ h => Option.some.inj h ▸ hpos⟩
    · rintro ⟨⟨hmeans⟩, hpos⟩
      rw [positive?, positive_eq_ok_iff.2 ⟨hmeans, hpos _ rfl⟩]
      rfl

theorem checkTimes_eq_ok_iff {s : WatchSettings} {u : Unit} : checkTimes s = .ok u ↔
    (∀ initial ∈ s.initialTimeout, initial ≤ s.hangTimeout) ∧ s.pollInterval ≤ s.rules.startingWindow := by
  have hinitial : (∀ initial ∈ s.initialTimeout, initial ≤ s.hangTimeout) ↔
      ¬ s.initialTimeout.any (s.hangTimeout < ·) = true := by
    cases s.initialTimeout with
    | none => simp
    | some initial => simp [Duration.le_iff, Duration.lt_iff]
  have hpoll : s.pollInterval ≤ s.rules.startingWindow ↔ ¬ s.shortestWindow < s.pollInterval := by
    rw [s.startingWindow_rules, Duration.le_iff, Duration.lt_iff, Nat.not_lt]
  rw [hinitial, hpoll, checkTimes]
  split
  · simp_all
  · split
    · simp_all
    · simp_all

theorem checkPatterns_eq_ok_iff {field : PatternField} {patterns : List String} {u : Unit} :
    checkPatterns field patterns = .ok u ↔ "" ∉ patterns := by
  unfold checkPatterns
  split
  · simp_all
  · simp_all

theorem checkWatchdog_eq_ok_iff {s : WatchSettings} :
    checkWatchdog w = .ok s ↔ w.Says s.rules ∧ s.rules.Sound := by
  simp only [checkWatchdog, bind_eq_ok_iff, positive_eq_ok_iff, positive?_eq_ok_iff,
    checkTimes_eq_ok_iff, checkPatterns_eq_ok_iff]
  constructor
  · rintro ⟨hang, ⟨hhang, hhang₀⟩, poll, ⟨hpoll, hpoll₀⟩, initial, ⟨hinitial, hinitial₀⟩, -,
      ⟨hle, hwindow⟩, -, hsignatures, -, hmarkers, heq⟩
    cases heq
    exact ⟨⟨hhang, hinitial, hpoll, rfl, rfl⟩, hhang₀, hpoll₀, fun t ht => ⟨hinitial₀ t ht, hle t ht⟩,
      hwindow, hsignatures, hmarkers⟩
  · rintro ⟨⟨hhang, hinitial, hpoll, hs, hm⟩, hsound⟩
    refine ⟨_, ⟨hhang, hsound.hangTimeout⟩, _, ⟨hpoll, hsound.pollInterval⟩, _,
      ⟨hinitial, fun t ht => (hsound.initialTimeout t ht).1⟩, (),
      ⟨fun t ht => (hsound.initialTimeout t ht).2, hsound.poll_le⟩, (), hs ▸ hsound.signatures, (),
      hm ▸ hsound.markers, ?_⟩
    cases s
    cases hs
    cases hm
    rfl

namespace Draft

theorem sound_of_check {s : Settings} (h : d.check temp = .ok s) :
    d.engine.Sound ∧ d.watchdog.Says s.watch ∧ s.watch.Sound := by
  simp only [check, bind_eq_ok_iff, checkEngine_eq_ok_iff, checkWatchdog_eq_ok_iff] at h
  obtain ⟨-, hengine, watchdog, ⟨hmeaning, hsound⟩, heq⟩ := h
  cases heq
  exact ⟨hengine, hmeaning, hsound⟩

theorem Sound.check (h : d.Sound) (temp : Path) : ∃ s, d.check temp = .ok s := by
  obtain ⟨hengine, r, hwatch⟩ := h
  simp only [Draft.check, bind_eq_ok_iff, checkEngine_eq_ok_iff, checkWatchdog_eq_ok_iff]
  exact ⟨_, (), hengine, ⟨r.hangTimeout, r.initialTimeout, r.pollInterval, r.crashSignatures, r.resetMarkers⟩,
    hwatch, rfl⟩

/-- The checks let sound drafts pass and nothing else. The rules that come out say what the draft says, and a
scan goes by all of them: no pattern is lost, and its window is the starting window until a marker comes
without a signature, and the full budget ever after. -/
theorem check_exact (temp : Path) (d : Draft) : ((∃ s, d.check temp = .ok s) ↔ d.Sound) ∧
    ∀ s, d.check temp = .ok s → d.watchdog.Says s.watch ∧ 0 < s.watch.pollInterval.nanos ∧
      s.watch.pollInterval ≤ s.watch.startingWindow ∧ s.watch.startingWindow ≤ s.watch.hangTimeout ∧
      (Scan.start s.watch).signatures = d.watchdog.crashSignatures ∧
      (Scan.start s.watch).markers = d.watchdog.resetMarkers ∧
      (Scan.start s.watch).window = s.watch.startingWindow ∧
      ∀ inputs scan verdicts, (Scan.start s.watch).run inputs = some (scan, verdicts) → scan.window =
        if ∃ line ∈ linesIn inputs, s.watch.Marks line ∧ ¬ s.watch.Signals line then s.watch.hangTimeout
        else s.watch.startingWindow := by
  refine ⟨⟨fun ⟨s, h⟩ => ?_, fun h => h.check temp⟩, fun s h => ?_⟩
  · obtain ⟨hengine, hwatch⟩ := sound_of_check h
    exact ⟨hengine, s.watch, hwatch⟩
  · obtain ⟨-, hmeaning, hsound⟩ := sound_of_check h
    have hkeep : s.watch.withoutEmpty = s.watch := hsound.withoutEmpty_eq
    have hsignatures : (Scan.start s.watch).signatures = s.watch.crashSignatures :=
      congrArg Rules.crashSignatures hkeep
    have hmarkers : (Scan.start s.watch).markers = s.watch.resetMarkers :=
      congrArg Rules.resetMarkers hkeep
    exact ⟨hmeaning, hsound.pollInterval, hsound.poll_le, hsound.startingWindow_le,
      hsignatures.trans hmeaning.signatures, hmarkers.trans hmeaning.markers, rfl,
      fun _ _ _ hrun => hsound.window_of_run hrun⟩

theorem check_exact_marker :
    let d : Draft := { watchdog := {
      hangTimeout := " 1 H", initialTimeout := some "2m", pollInterval := "500ms"
      crashSignatures := ["boom"], resetMarkers := ["phase"] } }
    let inputs : List Input := [.line "phase: boom", .silence (.ofSeconds 90), .line "phase"]
    d.Sound ∧ ∃ s scan verdicts, d.check ⟨"/tmp"⟩ = .ok s ∧ s.watch.startingWindow = .ofSeconds 120 ∧
      (Scan.start s.watch).run inputs = some (scan, verdicts) ∧ scan.window = .ofSeconds 3600 := by
  intro d inputs
  let rules : Rules := {
    hangTimeout := .ofSeconds 3600, initialTimeout := some (.ofSeconds 120), pollInterval := .ofMillis 500
    crashSignatures := ["boom"], resetMarkers := ["phase"] }
  have hcheck : (d.check ⟨"/tmp"⟩).map Settings.watch = .ok rules := by decide +kernel
  cases hs : d.check ⟨"/tmp"⟩ with
  | error e =>
    rw [hs] at hcheck
    cases hcheck
  | ok s =>
    have hwatch : s.watch = rules := by
      rw [hs] at hcheck
      exact Except.ok.inj hcheck
    obtain ⟨hiff, hrules⟩ := check_exact ⟨"/tmp"⟩ d
    obtain ⟨-, -, -, -, -, -, -, hwindow⟩ := hrules s hs
    have hrun : ((Scan.start rules).run inputs).isSome := by decide +kernel
    obtain ⟨⟨scan, verdicts⟩, hrun⟩ := Option.isSome_iff_exists.1 hrun
    rw [hwatch] at hwindow
    -- the first line is a marker too, but it is a signal as well
    have hwide : ∃ line ∈ linesIn inputs, rules.Marks line ∧ ¬ rules.Signals line := by decide +kernel
    refine ⟨hiff.1 ⟨s, hs⟩, s, scan, verdicts, rfl, by rw [hwatch]; rfl, by rw [hwatch, hrun], ?_⟩
    rw [hwindow inputs scan verdicts hrun, if_pos hwide]

end Draft
end Config
end Foreman
