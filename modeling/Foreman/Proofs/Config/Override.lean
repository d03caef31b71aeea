import Foreman.Proofs.Config.Overflow

/-! What the environment makes of a written configuration. Each variable decides about its own fields, and a time
to hang in only ever widens the budget, so nothing changes when the same environment is laid over once more. -/

namespace Foreman.Config
open Watch

def Decides {α : Type} (var : Option String) (reads : String → α → Prop) (old new : α) : Prop :=
  match var with
  | none => new = old
  | some text => reads text new

/-- The budget after an override: the written one if the override fits into it, else the override. -/
def Budgets (written text budget : String) : Prop :=
  ¬ Duration.Overflows written ∧ ∃ window, Duration.Means text window ∧
    ((∃ b, Duration.Means written b ∧ window ≤ b ∧ budget = written) ∨
      ((∀ b, Duration.Means written b → b < window) ∧ budget = text))

/-- The draft `d'` is `d` with what the environment sets. -/
structure Overlaid (env : Environment) (d d' : Draft) : Prop where
  platform : Decides (env "BUILDWARDEN_PLATFORM") (fun name p => ∃ q, Platform.read name = .ok q ∧ p = some q)
    d.engine.platform d'.engine.platform
  initialTimeout : Decides (env "BUILDWARDEN_HANG_TIMEOUT") (fun text t => t = some text)
    d.watchdog.initialTimeout d'.watchdog.initialTimeout
  hangTimeout : Decides (env "BUILDWARDEN_HANG_TIMEOUT") (Budgets d.watchdog.hangTimeout)
    d.watchdog.hangTimeout d'.watchdog.hangTimeout
  retry : Decides (env "BUILDWARDEN_RETRY")
    (fun text n => Text.readNumber maxRetry (Text.trimChars text.toList) = .ok n) d.build.retry d'.build.retry
  skip : Decides (env "BUILDWARDEN_SKIP_BUILD") (fun _ b => b = true) d.build.skip d'.build.skip
  cleanOutput : Decides ((env "BUILDWARDEN_CLEAN_BUILD").filter (!Text.blank ·)) (fun dir p => p = some ⟨dir⟩)
    d.build.cleanOutput d'.build.cleanOutput
  engine : d'.engine = { d.engine with platform := d'.engine.platform }
  watchdog : d'.watchdog = { d.watchdog with
    hangTimeout := d'.watchdog.hangTimeout, initialTimeout := d'.watchdog.initialTimeout }
  build : d'.build = { d.build with
    retry := d'.build.retry, skip := d'.build.skip, cleanOutput := d'.build.cleanOutput }

variable {env : Environment} {d d' : Draft} {temp : Path}

theorem Decides.again {α : Type} {var : Option String} {reads : String → α → Prop} {old new : α}
    (h : Decides var reads old new) : Decides var reads new new := by
  cases var with
  | none => rfl
  | some text => exact h

theorem Decides.unique {α : Type} {var : Option String} {reads : String → α → Prop} {old a b : α}
    (hreads : ∀ text a b, reads text a → reads text b → a = b) (ha : Decides var reads old a)
    (hb : Decides var reads old b) : a = b := by
  cases var with
  | none => exact ha.trans hb.symm
  | some text => exact hreads text a b ha hb

theorem Means.unique {text : String} {a b : Duration} (ha : Duration.Means text a) (hb : Duration.Means text b) :
    a = b := by
  rw [← Duration.read_eq_ok_iff] at ha hb
  exact Except.ok.inj (ha.symm.trans hb)

theorem overlaySkip_eq_iff : overlaySkip env d = d' ↔ ∃ b,
    Decides (env "BUILDWARDEN_SKIP_BUILD") (fun _ b => b = true) d.build.skip b ∧
      d' = { d with build := { d.build with skip := b } } := by
  unfold overlaySkip Decides
  cases env "BUILDWARDEN_SKIP_BUILD" with
  | none => simpa using eq_comm
  | some text => simp [eq_comm]

theorem overlayClean_eq_iff : overlayClean env d = d' ↔ ∃ p,
    Decides ((env "BUILDWARDEN_CLEAN_BUILD").filter (!Text.blank ·)) (fun dir p => p = some ⟨dir⟩)
      d.build.cleanOutput p ∧ d' = { d with build := { d.build with cleanOutput := p } } := by
  unfold overlayClean Decides
  cases env "BUILDWARDEN_CLEAN_BUILD" with
  | none => simpa using eq_comm
  | some dir =>
    by_cases hblank : Text.blank dir = true
    · simpa [Option.filter, hblank] using eq_comm
    · simp [Option.filter, hblank, eq_comm]

theorem overlayPlatform_eq_ok_iff : overlayPlatform env d = .ok d' ↔ ∃ p,
    Decides (env "BUILDWARDEN_PLATFORM") (fun name p => ∃ q, Platform.read name = .ok q ∧ p = some q)
      d.engine.platform p ∧ d' = { d with engine := { d.engine with platform := p } } := by
  unfold overlayPlatform Decides
  cases env "BUILDWARDEN_PLATFORM" with
  | none => simpa using eq_comm
  | some name =>
    dsimp only
    cases Platform.read name with
    | error e => simp
    | ok q => simp [eq_comm]

theorem overlayRetry_eq_ok_iff : overlayRetry env d = .ok d' ↔ ∃ n,
    Decides (env "BUILDWARDEN_RETRY")
      (fun text n => Text.readNumber maxRetry (Text.trimChars text.toList) = .ok n) d.build.retry n ∧
        d' = { d with build := { d.build with retry := n } } := by
  unfold overlayRetry Decides
  cases env "BUILDWARDEN_RETRY" with
  | none => simpa using eq_comm
  | some text =>
    dsimp only
    cases Text.readNumber maxRetry (Text.trimChars text.toList) with
    | error e => simp
    | ok n => simp [eq_comm]

theorem budgets_iff {written text budget : String} {window : Duration} (hw : Duration.Means text window) :
    Budgets written text budget ↔ ∃ b, writtenBudget { watchdog := { hangTimeout := written } } = .ok b ∧
      budget = match b with
        | some b => if b < window then text else written
        | none => text := by
  have hover := @Duration.read_eq_overflow_iff written
  have hmeans := fun b => @Duration.read_eq_ok_iff written b
  have hwindow : ∀ w, Duration.Means text w ↔ w = window :=
    fun w => ⟨fun h => Means.unique h hw, fun h => h ▸ hw⟩
  unfold Budgets writtenBudget
  simp only [← hover, ← hmeans, hwindow, exists_eq_left]
  cases Duration.read written with
  | error e => cases e <;> simp
  | ok b =>
    by_cases hb : b < window
    · have hnot : ¬ window ≤ b := Nat.not_le_of_lt hb
      simp [hb, hnot]
    · have hle : window ≤ b := Nat.le_of_not_lt hb
      simp [hb, hle]

theorem overlayHang_eq_ok_iff : overlayHang env d = .ok d' ↔ ∃ hang initial,
    Decides (env "BUILDWARDEN_HANG_TIMEOUT") (Budgets d.watchdog.hangTimeout) d.watchdog.hangTimeout hang ∧
      Decides (env "BUILDWARDEN_HANG_TIMEOUT") (fun text t => t = some text) d.watchdog.initialTimeout initial ∧
        d' = { d with watchdog := { d.watchdog with hangTimeout := hang, initialTimeout := initial } } := by
  unfold overlayHang Decides
  cases env "BUILDWARDEN_HANG_TIMEOUT" with
  | none => simpa using eq_comm
  | some text =>
    have hmeans := fun b => @Duration.read_eq_ok_iff text b
    dsimp only
    cases hread : Duration.read text with
    | error e =>
      have hnone : ∀ budget, ¬ Budgets d.watchdog.hangTimeout text budget := by
        rintro budget ⟨-, window, hw, -⟩
        rw [← hmeans, hread] at hw
        cases hw
      cases e <;> simp [hnone]
    | ok window =>
      have hwritten : writtenBudget { watchdog := { hangTimeout := d.watchdog.hangTimeout } } = writtenBudget d :=
        rfl
      simp only [budgets_iff ((hmeans window).1 hread), hwritten]
      cases writtenBudget d with
      | error e => simp
      | ok b => cases b <;> simp [eq_comm]

theorem overlay_eq_ok_iff : overlay env d = .ok d' ↔ Overlaid env d d' := by
  rw [overlay_eq, bind_eq_ok_iff]
  simp only [bind_eq_ok_iff, overlayPlatform_eq_ok_iff, overlayHang_eq_ok_iff, overlayRetry_eq_ok_iff]
  -- these two variables cannot be refused, so what comes of them can be named beforehand
  obtain ⟨skip, hskip, hskipped⟩ := overlaySkip_eq_iff.1 (Eq.refl (overlaySkip env d))
  obtain ⟨dir, hdir, hcleaned⟩ := overlayClean_eq_iff.1 (Eq.refl (overlayClean env (overlaySkip env d)))
  rw [hcleaned, hskipped] at *
  constructor
  · rintro ⟨_, ⟨p, hp, rfl⟩, _, ⟨hang, initial, hhang, hinitial, rfl⟩, n, hn, rfl⟩
    exact ⟨hp, hinitial, hhang, hn, hskip, hdir, rfl, rfl, rfl⟩
  · intro h
    refine ⟨_, ⟨_, h.platform, rfl⟩, _, ⟨_, _, h.hangTimeout, h.initialTimeout, rfl⟩, _, h.retry, ?_⟩
    have hskip : skip = d'.build.skip := hskip.unique (fun _ _ _ ha hb => ha.trans hb.symm) h.skip
    have hdir : dir = d'.build.cleanOutput := hdir.unique (fun _ _ _ ha hb => ha.trans hb.symm) h.cleanOutput
    obtain ⟨engine, watchdog, build⟩ := d'
    rw [hskip, hdir, Draft.mk.injEq]
    exact ⟨h.engine, h.watchdog, h.build⟩

theorem Budgets.again {written text budget : String} (h : Budgets written text budget) :
    Budgets budget text budget := by
  obtain ⟨hover, window, hw, ⟨b, hb, hle, rfl⟩ | ⟨-, rfl⟩⟩ := h
  · exact ⟨hover, window, hw, .inl ⟨b, hb, hle, rfl⟩⟩
  · have hfits : ¬ Duration.Overflows budget := by
      rw [← Duration.read_eq_overflow_iff, Duration.read_eq_ok_iff.2 hw]
      exact nofun
    exact ⟨hfits, window, hw, .inl ⟨window, hw, Nat.le_refl _, rfl⟩⟩

theorem Overlaid.again (h : Overlaid env d d') : Overlaid env d' d' where
  platform := h.platform.again
  initialTimeout := h.initialTimeout.again
  hangTimeout := by
    have hang := h.hangTimeout
    cases hvar : env "BUILDWARDEN_HANG_TIMEOUT" with
    | none => rfl
    | some text =>
      rw [hvar] at hang
      exact Budgets.again hang
  retry := h.retry.again
  skip := h.skip.again
  cleanOutput := h.cleanOutput.again
  engine := rfl
  watchdog := rfl
  build := rfl

theorem Budgets.larger {written text budget : String} (h : Budgets written text budget) :
    ∃ window total, Duration.Means text window ∧ Duration.Means budget total ∧
      (∀ b, Duration.Means written b → total = max window b) ∧
      ((∀ b, ¬ Duration.Means written b) → total = window) := by
  obtain ⟨-, window, hw, ⟨b, hb, hle, rfl⟩ | ⟨hshort, rfl⟩⟩ := h
  · have hmax : max window b = b := if_pos hle
    refine ⟨window, b, hw, hb, fun b' hb' => ?_, fun hnone => absurd hb (hnone b)⟩
    rw [Means.unique hb' hb, hmax]
  · refine ⟨window, window, hw, hw, fun b hb => ?_, fun _ => rfl⟩
    have hnot : ¬ window ≤ b := Nat.not_le_of_lt (hshort b hb)
    exact (if_neg hnot).symm

/-! ### What a finished draft goes by -/

theorem positive_ne_initialAbove {field : TimeField} {text : String} {initial hang : Duration} :
    positive field text ≠ .error (.rejected (.initialAboveHang initial hang)) := by
  unfold positive
  split
  · exact nofun
  · exact nofun
  · split_ifs <;> exact nofun

theorem positive?_eq_error {field : TimeField} {t : Option String} {p : Problem}
    (h : positive? field t = .error p) : ∃ text, t = some text ∧ positive field text = .error p := by
  cases t with
  | none => cases h
  | some text =>
    rw [positive?] at h
    cases hread : positive field text with
    | error e =>
      rw [hread] at h
      cases h
      exact ⟨text, rfl, hread⟩
    | ok time =>
      rw [hread] at h
      cases h

theorem checkTimes_eq_initialAbove {w : WatchSettings} {initial hang : Duration}
    (h : checkTimes w = .error (.rejected (.initialAboveHang initial hang))) :
    ∃ t, w.initialTimeout = some t ∧ w.hangTimeout < t := by
  unfold checkTimes at h
  split at h
  · rename_i habove
    rw [Option.any_eq_true] at habove
    obtain ⟨t, ht, hlt⟩ := habove
    exact ⟨t, ht, of_decide_eq_true hlt⟩
  · split at h <;> cases h

theorem check_eq_initialAbove {initial hang : Duration}
    (h : d.check temp = .error (.rejected (.initialAboveHang initial hang))) :
    ∃ text window budget, d.watchdog.initialTimeout = some text ∧ Duration.Means text window ∧
      Duration.Means d.watchdog.hangTimeout budget ∧ budget < window := by
  have hengine : checkEngine d.engine ≠ .error (.rejected (.initialAboveHang initial hang)) := by
    unfold checkEngine
    split_ifs <;> exact nofun
  have hpositive? : positive? .initialTimeout d.watchdog.initialTimeout ≠
      .error (.rejected (.initialAboveHang initial hang)) := by
    intro h
    obtain ⟨text, -, hread⟩ := positive?_eq_error h
    exact positive_ne_initialAbove hread
  have hpatterns : ∀ field patterns,
      checkPatterns field patterns ≠ .error (.rejected (.initialAboveHang initial hang)) := by
    intro field patterns
    unfold checkPatterns
    split_ifs <;> exact nofun
  -- of all the checks only the comparison of the two times is left
  simp only [Draft.check, checkWatchdog, bind_eq_error_iff, hengine, positive_ne_initialAbove, hpositive?,
    hpatterns, positive_eq_ok_iff, positive?_eq_ok_iff, reduceCtorEq, and_false, exists_false, or_false,
    false_or] at h
  obtain ⟨-, -, budget, ⟨hbudget, -⟩, poll, -, times, ⟨hinitial, -⟩, htimes⟩ := h
  obtain ⟨window, hwindow, hlt⟩ := checkTimes_eq_initialAbove htimes
  dsimp only at hwindow hlt
  rw [hwindow] at hinitial
  generalize d.watchdog.initialTimeout = initial? at hinitial
  cases hinitial with
  | some hmeans => exact ⟨_, window, budget, rfl, hmeans, hbudget, hlt⟩

/-- What the environment does to a draft that it can be laid over. -/
theorem overlay_widens (temp : Path) (h : overlay env d = .ok d') :
    Overlaid env d d' ∧ overlay env d' = .ok d' ∧
    ∀ text, env "BUILDWARDEN_HANG_TIMEOUT" = some text → d'.watchdog.initialTimeout = some text ∧
      ∃ window budget, Duration.Means text window ∧ Duration.Means d'.watchdog.hangTimeout budget ∧
        (∀ written, Duration.Means d.watchdog.hangTimeout written → budget = max window written) ∧
        ((∀ written, ¬ Duration.Means d.watchdog.hangTimeout written) → budget = window) ∧
        (∀ initial hang, d.finish temp env ≠ .error (.rejected (.initialAboveHang initial hang))) ∧
        ∀ s, d.finish temp env = .ok s → ∀ inputs scan verdicts,
          (Scan.start s.watch).run inputs = some (scan, verdicts) → window ≤ scan.window := by
  have hlaid : Overlaid env d d' := overlay_eq_ok_iff.1 h
  refine ⟨hlaid, overlay_eq_ok_iff.2 hlaid.again, fun text htext => ?_⟩
  have hinitial : d'.watchdog.initialTimeout = some text := by
    have := hlaid.initialTimeout
    rwa [htext] at this
  have hang : Budgets d.watchdog.hangTimeout text d'.watchdog.hangTimeout := by
    have := hlaid.hangTimeout
    rwa [htext] at this
  obtain ⟨window, budget, hwindow, hbudget, hmax, honly⟩ := hang.larger
  have hle : window ≤ budget := by
    by_cases hwritten : ∃ written, Duration.Means d.watchdog.hangTimeout written
    · obtain ⟨written, hwritten⟩ := hwritten
      rw [hmax written hwritten, Duration.le_iff, Duration.max_nanos]
      exact Nat.le_max_left _ _
    · exact Nat.le_of_eq (congrArg _ (honly (not_exists.1 hwritten)).symm)
  have hfinish : d.finish temp env = (d'.withLogFile temp env).check temp := by
    rw [Draft.finish, h]
    rfl
  refine ⟨hinitial, window, budget, hwindow, hbudget, hmax, honly, fun initial hang hreject => ?_,
    fun s hs inputs scan verdicts hrun => ?_⟩
  · rw [hfinish] at hreject
    obtain ⟨text', window', budget', ht, hw, hb, hlt⟩ := check_eq_initialAbove hreject
    cases Option.some.inj (hinitial.symm.trans ht)
    rw [Means.unique hw hwindow, Means.unique hb hbudget] at hlt
    exact absurd hle (Nat.not_le_of_lt hlt)
  · rw [hfinish] at hs
    obtain ⟨-, hsays, hsound⟩ := Draft.sound_of_check hs
    have hstart : s.watch.startingWindow = window := by
      have hrel : Option.Rel Duration.Means d'.watchdog.initialTimeout s.watch.initialTimeout :=
        hsays.initialTimeout
      rw [hinitial] at hrel
      unfold Rules.startingWindow
      generalize s.watch.initialTimeout = initial at hrel
      cases hrel with
      | some hmeans => exact Means.unique hmeans hwindow
    have hwide : window ≤ s.watch.hangTimeout := hstart ▸ hsound.startingWindow_le
    rw [hsound.window_of_run hrun, hstart]
    split_ifs
    · exact hwide
    · exact Nat.le_refl _

theorem overlay_widens_two_hours :
    let env : Environment := fun name =>
      if name = "BUILDWARDEN_HANG_TIMEOUT" then some "2 H"
      else if name = "BUILDWARDEN_CLEAN_BUILD" then some " " else none
    let d : Draft := {
      watchdog := { hangTimeout := "90m", initialTimeout := some "1m" }, build := { cleanOutput := some ⟨"out"⟩ } }
    ∃ d', overlay env d = .ok d' ∧ overlay env d' = .ok d' ∧ d'.watchdog.hangTimeout = "2 H" ∧
      d'.build.cleanOutput = some ⟨"out"⟩ ∧ Duration.Means d'.watchdog.hangTimeout (.ofSeconds 7200) := by
  intro env d
  let d' : Draft := { d with watchdog := { d.watchdog with hangTimeout := "2 H", initialTimeout := some "2 H" } }
  have hlaid : overlay env d = .ok d' := by decide +kernel
  obtain ⟨-, hagain, hwiden⟩ := overlay_widens ⟨"/tmp"⟩ hlaid
  obtain ⟨-, window, budget, hwindow, hbudget, hmax, -⟩ := hwiden "2 H" rfl
  have htwo : Duration.Means "2 H" (.ofSeconds 7200) := Duration.read_eq_ok_iff.1 (by decide +kernel)
  have hwritten : Duration.Means "90m" (.ofSeconds 5400) := Duration.read_eq_ok_iff.1 (by decide +kernel)
  have htotal : budget = .ofSeconds 7200 := by
    rw [hmax _ hwritten, Means.unique hwindow htwo]
    decide
  exact ⟨d', hlaid, hagain, rfl, rfl, htotal ▸ hbudget⟩

end Foreman.Config
