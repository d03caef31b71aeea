import Foreman.Proofs.Config.Soundness

/-! Numbers that are too large. One that cannot be counted is rejected, but the seconds in so many minutes or
hours are not looked at in time: where they are out of range nothing is reported any more. -/

namespace Foreman.Config

def KnownPlatform (env : Environment) : Prop :=
  ∀ name, env "BUILDWARDEN_PLATFORM" = some name → ∃ p, Platform.read name = .ok p

def Positive (text : String) (time : Duration) : Prop := Duration.Means text time ∧ 0 < time.nanos

/-- The texts that are read as times, each after the ones before it were found in order. -/
inductive Draft.Reads (env : Environment) (d : Draft) : String → Prop
  | override {text} (hp : KnownPlatform env) (ht : env "BUILDWARDEN_HANG_TIMEOUT" = some text) : Reads env d text
  | budget {text window} (hp : KnownPlatform env) (ht : env "BUILDWARDEN_HANG_TIMEOUT" = some text)
    (hw : Duration.Means text window) : Reads env d d.watchdog.hangTimeout
  | hang {d'} (h : overlay env d = .ok d') (he : d'.engine.Sound) : Reads env d d'.watchdog.hangTimeout
  | poll {d' hang} (h : overlay env d = .ok d') (he : d'.engine.Sound)
    (hh : Positive d'.watchdog.hangTimeout hang) : Reads env d d'.watchdog.pollInterval
  | initial {d' hang poll text} (h : overlay env d = .ok d') (he : d'.engine.Sound)
    (hh : Positive d'.watchdog.hangTimeout hang) (hp : Positive d'.watchdog.pollInterval poll)
    (ht : d'.watchdog.initialTimeout = some text) : Reads env d text

/-- A number that is in force is too large to be counted. -/
inductive Draft.Exceeds (env : Environment) (d : Draft) : Prop
  | override {text} (ht : env "BUILDWARDEN_HANG_TIMEOUT" = some text) (h : Duration.Uncountable text)
  | hang (hn : env "BUILDWARDEN_HANG_TIMEOUT" = none) (h : Duration.Uncountable d.watchdog.hangTimeout)
  | initial {text} (hn : env "BUILDWARDEN_HANG_TIMEOUT" = none) (ht : d.watchdog.initialTimeout = some text)
    (h : Duration.Uncountable text)
  | poll (h : Duration.Uncountable d.watchdog.pollInterval)
  | retry {text} (ht : env "BUILDWARDEN_RETRY" = some text) (h : Text.Exceeds maxRetry text)

/-- It comes to a result or a rejection, or to the end of the work. -/
def Settled {α : Type} (x : Except Problem α) : Prop :=
  (∃ a, x = .ok a) ∨ (∃ r, x = .error (.rejected r)) ∨ x = .error .overflow

def Reported {α : Type} (x : Except Problem α) : Prop := (∃ a, x = .ok a) ∨ ∃ r, x = .error (.rejected r)

variable {α β : Type} {x : Except Problem α} {f : α → Except Problem β} {p : Problem} {temp : Path}
  {env : Environment} {d d' : Draft} {e : EngineDraft} {w : WatchDraft} {r : Watch.Rules} {text : String}
  {time : Duration}

theorem bind_eq_error_iff : (x >>= f) = .error p ↔ x = .error p ∨ ∃ a, x = .ok a ∧ f a = .error p := by
  cases x with
  | error e => simp [bind, Except.bind]
  | ok a => simp [bind, Except.bind]

theorem Reported.settled (h : Reported x) : Settled x := h.imp id .inl

theorem Reported.ne_overflow (h : Reported x) : x ≠ .error .overflow := by
  rintro rfl
  obtain ⟨a, h⟩ | ⟨r, h⟩ := h <;> cases h

theorem Settled.bind (hx : Settled x) (hf : ∀ a, x = .ok a → Settled (f a)) : Settled (x >>= f) := by
  rcases hx with ⟨a, rfl⟩ | ⟨r, rfl⟩ | rfl
  · exact hf a rfl
  · exact .inr (.inl ⟨r, rfl⟩)
  · exact .inr (.inr rfl)

/-! ### The checks -/

theorem positive_settled (field : TimeField) (text : String) : Settled (positive field text) := by
  unfold positive
  split
  · exact .inr (.inr rfl)
  · exact .inr (.inl ⟨_, rfl⟩)
  · split
    · exact .inr (.inl ⟨_, rfl⟩)
    · exact .inl ⟨_, rfl⟩

theorem positive_eq_overflow_iff {field : TimeField} :
    positive field text = .error .overflow ↔ Duration.Overflows text := by
  rw [← Duration.read_eq_overflow_iff]
  unfold positive
  constructor
  · intro h
    split at h
    · assumption
    · cases h
    · split at h <;> cases h
  · intro h
    simp only [h]

theorem positive?_settled (field : TimeField) (t : Option String) : Settled (positive? field t) := by
  cases t with
  | none => exact .inl ⟨none, rfl⟩
  | some text =>
    rcases positive_settled field text with ⟨time, h⟩ | ⟨r, h⟩ | h
    · exact .inl ⟨some time, by rw [positive?, h]; rfl⟩
    · exact .inr (.inl ⟨r, by rw [positive?, h]; rfl⟩)
    · exact .inr (.inr (by rw [positive?, h]; rfl))

theorem positive?_eq_overflow_iff {field : TimeField} {t : Option String} :
    positive? field t = .error .overflow ↔ ∃ text, t = some text ∧ Duration.Overflows text := by
  cases t with
  | none => simp [positive?]
  | some text =>
    have hpositive : positive field text = .error .overflow ↔ Duration.Overflows text := positive_eq_overflow_iff
    simp only [Option.some.injEq, exists_eq_left', ← hpositive, positive?]
    cases positive field text with
    | error e => simp [Except.map]
    | ok time => simp [Except.map]

theorem checkEngine_reported (e : EngineDraft) : Reported (checkEngine e) := by
  unfold checkEngine
  split_ifs
  · exact .inr ⟨_, rfl⟩
  · exact .inr ⟨_, rfl⟩
  · exact .inl ⟨_, rfl⟩

theorem checkTimes_reported (w : WatchSettings) : Reported (checkTimes w) := by
  unfold checkTimes
  split_ifs
  · exact .inr ⟨_, rfl⟩
  · exact .inr ⟨_, rfl⟩
  · exact .inl ⟨_, rfl⟩

theorem checkPatterns_reported (field : PatternField) (patterns : List String) :
    Reported (checkPatterns field patterns) := by
  unfold checkPatterns
  split_ifs
  · exact .inr ⟨_, rfl⟩
  · exact .inl ⟨_, rfl⟩

theorem checkWatchdog_settled (w : WatchDraft) : Settled (checkWatchdog w) :=
  (positive_settled .hangTimeout w.hangTimeout).bind fun _ _ =>
    (positive_settled .pollInterval w.pollInterval).bind fun _ _ =>
      (positive?_settled .initialTimeout w.initialTimeout).bind fun _ _ =>
        (checkTimes_reported _).settled.bind fun _ _ => (checkPatterns_reported _ _).settled.bind fun _ _ =>
          (checkPatterns_reported _ _).settled.bind fun _ _ => .inl ⟨_, rfl⟩

theorem checkWatchdog_eq_overflow_iff : checkWatchdog w = .error .overflow ↔
    Duration.Overflows w.hangTimeout ∨ ∃ hang, Positive w.hangTimeout hang ∧
      (Duration.Overflows w.pollInterval ∨ ∃ poll, Positive w.pollInterval poll ∧
        ∃ text, w.initialTimeout = some text ∧ Duration.Overflows text) := by
  simp only [checkWatchdog, bind_eq_error_iff, positive_eq_overflow_iff, positive_eq_ok_iff,
    positive?_eq_overflow_iff, (checkTimes_reported _).ne_overflow, (checkPatterns_reported _ _).ne_overflow,
    reduceCtorEq, and_false, exists_const, or_false, Positive]

theorem check_settled (temp : Path) (d : Draft) : Settled (d.check temp) :=
  (checkEngine_reported d.engine).settled.bind fun _ _ =>
    (checkWatchdog_settled d.watchdog).bind fun _ _ => .inl ⟨_, rfl⟩

theorem check_eq_overflow_iff : d.check temp = .error .overflow ↔
    d.engine.Sound ∧ checkWatchdog d.watchdog = .error .overflow := by
  simp only [Draft.check, bind_eq_error_iff, (checkEngine_reported _).ne_overflow, checkEngine_eq_ok_iff,
    reduceCtorEq, and_false, exists_const, or_false, false_or, exists_false]

/-! ### The overlays -/

theorem overlay_eq (env : Environment) (d : Draft) : overlay env d =
    overlayPlatform env (overlayClean env (overlaySkip env d)) >>= fun d =>
      overlayHang env d >>= overlayRetry env := by
  unfold overlay
  cases overlayPlatform env (overlayClean env (overlaySkip env d)) with
  | error e => rfl
  | ok d₁ =>
    show _ = overlayHang env d₁ >>= _
    dsimp only
    cases overlayHang env d₁ with
    | error e => rfl
    | ok d₂ => rfl

theorem overlayPlatform_cases (env : Environment) (d : Draft) :
    KnownPlatform env ∧ (∃ platform,
      overlayPlatform env d = .ok { d with engine := { d.engine with platform } }) ∨
    ¬ KnownPlatform env ∧ ∃ r, overlayPlatform env d = .error (.rejected r) := by
  unfold overlayPlatform
  cases hname : env "BUILDWARDEN_PLATFORM" with
  | none =>
    have hknown : KnownPlatform env := fun name h => by
      rw [hname] at h
      cases h
    exact .inl ⟨hknown, d.engine.platform, rfl⟩
  | some name =>
    dsimp only
    cases hread : Platform.read name with
    | error e =>
      have hunknown : ¬ KnownPlatform env := fun h => by
        obtain ⟨p, hp⟩ := h name hname
        rw [hread] at hp
        cases hp
      exact .inr ⟨hunknown, _, rfl⟩
    | ok p =>
      have hknown : KnownPlatform env := fun name' h => by
        rw [hname] at h
        cases h
        exact ⟨p, hread⟩
      exact .inl ⟨hknown, some p, rfl⟩

theorem overlaid_watchdog (env : Environment) (d : Draft) :
    (overlayClean env (overlaySkip env d)).watchdog = d.watchdog := by
  have hskip : (overlaySkip env d).watchdog = d.watchdog := by
    unfold overlaySkip
    split <;> rfl
  unfold overlayClean
  split
  · split_ifs <;> exact hskip
  · exact hskip

theorem writtenBudget_cases (d : Draft) :
    writtenBudget d = .error .overflow ∧ Duration.Overflows d.watchdog.hangTimeout ∨
      (∃ budget, writtenBudget d = .ok budget) ∧ ¬ Duration.Overflows d.watchdog.hangTimeout := by
  rw [← Duration.read_eq_overflow_iff]
  unfold writtenBudget
  cases Duration.read d.watchdog.hangTimeout with
  | error e => cases e <;> simp
  | ok time => simp

theorem overlayHang_settled (env : Environment) (d : Draft) : Settled (overlayHang env d) := by
  unfold overlayHang
  split
  · exact .inl ⟨d, rfl⟩
  · split
    · exact .inr (.inr rfl)
    · exact .inr (.inl ⟨_, rfl⟩)
    · rcases writtenBudget_cases d with ⟨hbudget, -⟩ | ⟨⟨budget, hbudget⟩, -⟩
      · exact .inr (.inr (by rw [hbudget]))
      · exact .inl ⟨_, by rw [hbudget]⟩

theorem overlayHang_eq_overflow_iff : overlayHang env d = .error .overflow ↔
    ∃ text, env "BUILDWARDEN_HANG_TIMEOUT" = some text ∧ (Duration.Overflows text ∨
      (∃ window, Duration.Means text window) ∧ Duration.Overflows d.watchdog.hangTimeout) := by
  unfold overlayHang
  cases env "BUILDWARDEN_HANG_TIMEOUT" with
  | none => simp
  | some text =>
    have hover : Duration.read text = .error .overflow ↔ Duration.Overflows text := Duration.read_eq_overflow_iff
    simp only [Option.some.injEq, exists_eq_left', ← hover, ← Duration.read_eq_ok_iff]
    cases Duration.read text with
    | error e => cases e <;> simp
    | ok window =>
      rcases writtenBudget_cases d with ⟨hbudget, hwritten⟩ | ⟨⟨budget, hbudget⟩, hwritten⟩
      · simp [hbudget, hwritten]
      · simp [hbudget, hwritten]

theorem overlayHang_ok (h : overlayHang env d = .ok d') :
    d'.watchdog.pollInterval = d.watchdog.pollInterval ∧
      (env "BUILDWARDEN_HANG_TIMEOUT" = none → d'.watchdog = d.watchdog) ∧
      ∀ text, env "BUILDWARDEN_HANG_TIMEOUT" = some text → ∃ window, Duration.Means text window := by
  unfold overlayHang at h
  cases htext : env "BUILDWARDEN_HANG_TIMEOUT" with
  | none =>
    rw [htext] at h
    cases h
    exact ⟨rfl, fun _ => rfl, nofun⟩
  | some text =>
    rw [htext] at h
    dsimp only at h
    split at h
    · cases h
    · cases h
    · rename_i window hread
      split at h
      · cases h
      · cases h
        exact ⟨rfl, nofun, fun _ ht => ⟨window, Duration.read_eq_ok_iff.1 (Option.some.inj ht ▸ hread)⟩⟩

theorem overlayRetry_reported (env : Environment) (d : Draft) : Reported (overlayRetry env d) := by
  unfold overlayRetry
  split
  · exact .inl ⟨_, rfl⟩
  · split
    · exact .inr ⟨_, rfl⟩
    · exact .inl ⟨_, rfl⟩

theorem overlayRetry_ok (h : overlayRetry env d = .ok d') : d'.watchdog = d.watchdog ∧
    ∀ text, env "BUILDWARDEN_RETRY" = some text → ¬ Text.Exceeds maxRetry text := by
  unfold overlayRetry at h
  split at h
  · rename_i hnone
    cases h
    exact ⟨rfl, fun text ht => by rw [hnone] at ht; cases ht⟩
  · rename_i text hsome
    split at h
    · cases h
    · rename_i n hread
      cases h
      refine ⟨rfl, fun text' ht hlarge => ?_⟩
      rw [hsome] at ht
      cases ht
      rw [hlarge.readNumber] at hread
      cases hread

theorem overlay_settled (env : Environment) (d : Draft) : Settled (overlay env d) := by
  rw [overlay_eq]
  refine Settled.bind ?_ fun _ _ =>
    (overlayHang_settled env _).bind fun _ _ => (overlayRetry_reported env _).settled
  rcases overlayPlatform_cases env (overlayClean env (overlaySkip env d)) with ⟨-, p, h⟩ | ⟨-, r, h⟩
  · exact .inl ⟨_, h⟩
  · exact .inr (.inl ⟨r, h⟩)

theorem overlay_eq_overflow_iff : overlay env d = .error .overflow ↔ KnownPlatform env ∧
    ∃ text, env "BUILDWARDEN_HANG_TIMEOUT" = some text ∧ (Duration.Overflows text ∨
      (∃ window, Duration.Means text window) ∧ Duration.Overflows d.watchdog.hangTimeout) := by
  rw [overlay_eq]
  rcases overlayPlatform_cases env (overlayClean env (overlaySkip env d)) with ⟨hp, p, h⟩ | ⟨hp, r, h⟩
  · simp only [h, hp, bind_eq_error_iff, overlayHang_eq_overflow_iff, (overlayRetry_reported _ _).ne_overflow,
      overlaid_watchdog, reduceCtorEq, Except.ok.injEq, exists_eq_left', and_false, exists_false, or_false,
      false_or, true_and]
  · simp [h, hp, bind_eq_error_iff]

theorem overlay_ok (h : overlay env d = .ok d') :
    d'.watchdog.pollInterval = d.watchdog.pollInterval ∧
      (env "BUILDWARDEN_HANG_TIMEOUT" = none → d'.watchdog = d.watchdog) ∧
      (∀ text, env "BUILDWARDEN_HANG_TIMEOUT" = some text → ∃ window, Duration.Means text window) ∧
      ∀ text, env "BUILDWARDEN_RETRY" = some text → ¬ Text.Exceeds maxRetry text := by
  rw [overlay_eq] at h
  rcases overlayPlatform_cases env (overlayClean env (overlaySkip env d)) with ⟨-, p, hp⟩ | ⟨-, r, hp⟩
  · rw [hp, bind_eq_ok_iff] at h
    obtain ⟨d₁, hd₁, h⟩ := h
    cases hd₁
    obtain ⟨d₂, hhang, hretry⟩ := bind_eq_ok_iff.1 h
    obtain ⟨hpoll, hnone, hsome⟩ := overlayHang_ok hhang
    obtain ⟨hwatchdog, hcount⟩ := overlayRetry_ok hretry
    rw [hwatchdog]
    exact ⟨hpoll.trans (congrArg _ (overlaid_watchdog env d)),
      fun ht => (hnone ht).trans (overlaid_watchdog env d), hsome, hcount⟩
  · rw [hp] at h
    cases h

/-! ### All together -/

namespace Draft

theorem Exceeds.not_ok (h : d.Exceeds env) {s : Settings} : d.finish temp env ≠ .ok s := by
  intro hs
  obtain ⟨d', hd', hcheck⟩ := bind_eq_ok_iff.1 hs
  obtain ⟨hpoll, hnone, hsome, hretry⟩ := overlay_ok hd'
  obtain ⟨-, hmeaning, -⟩ := sound_of_check hcheck
  -- what is in force has come through to the rules, where it means a time
  have huncountable : ∀ {text : String} {time : Duration}, Duration.Means text time →
      ¬ Duration.Uncountable text := by
    intro text time hmeans hlarge
    obtain ⟨digits, hread⟩ := hlarge.read
    rw [Duration.read_eq_ok_iff.2 hmeans] at hread
    cases hread
  cases h with
  | override ht h =>
    obtain ⟨window, hw⟩ := hsome _ ht
    exact huncountable hw h
  | hang hn h => exact huncountable (hnone hn ▸ hmeaning.hangTimeout) h
  | initial hn ht h =>
    have hrel := hmeaning.initialTimeout
    have hinitial : (d'.withLogFile temp env).watchdog.initialTimeout = d.watchdog.initialTimeout :=
      congrArg _ (hnone hn)
    rw [hinitial, ht] at hrel
    generalize s.watch.initialTimeout = initial at hrel
    cases hrel with
    | some hmeans => exact huncountable hmeans h
  | poll h => exact huncountable (hpoll ▸ hmeaning.pollInterval) h
  | retry ht h => exact hretry _ ht h

theorem finish_eq_overflow_iff :
    d.finish temp env = .error .overflow ↔ ∃ text, d.Reads env text ∧ Duration.Overflows text := by
  -- the log file that is filled in is neither checked nor a time
  have hsound : ∀ d' : Draft, (d'.withLogFile temp env).engine.Sound ↔ d'.engine.Sound :=
    fun d' => ⟨fun ⟨hbinary, hname⟩ => ⟨hbinary, hname⟩, fun ⟨hbinary, hname⟩ => ⟨hbinary, hname⟩⟩
  have hwatchdog : ∀ d' : Draft, (d'.withLogFile temp env).watchdog = d'.watchdog := fun d' => rfl
  simp only [finish, bind_eq_error_iff, overlay_eq_overflow_iff, check_eq_overflow_iff,
    checkWatchdog_eq_overflow_iff, hsound, hwatchdog]
  constructor
  · rintro (⟨hp, text, ht, hover | ⟨⟨window, hw⟩, hover⟩⟩ | ⟨d', h, he, hover | ⟨hang, hh, hover | hover⟩⟩)
    · exact ⟨text, .override hp ht, hover⟩
    · exact ⟨_, .budget hp ht hw, hover⟩
    · exact ⟨_, .hang h he, hover⟩
    · exact ⟨_, .poll h he hh, hover⟩
    · obtain ⟨poll, hpoll, text, ht, hover⟩ := hover
      exact ⟨text, .initial h he hh hpoll ht, hover⟩
  · rintro ⟨text, hreads, hover⟩
    cases hreads with
    | override hp ht => exact .inl ⟨hp, text, ht, .inl hover⟩
    | budget hp ht hw => exact .inl ⟨hp, _, ht, .inr ⟨⟨_, hw⟩, hover⟩⟩
    | hang h he => exact .inr ⟨_, h, he, .inl hover⟩
    | poll h he hh => exact .inr ⟨_, h, he, .inr ⟨_, hh, .inl hover⟩⟩
    | initial h he hh hp ht => exact .inr ⟨_, h, he, .inr ⟨_, hh, .inr ⟨_, hp, text, ht, hover⟩⟩⟩

/-- A draft is finished, or it is rejected, or the work ends without a word. It ends so at a text that names more
minutes or hours than there are seconds to count them in, and at no other number: one that is too large itself
is rejected. -/
theorem finish_exact (temp : Path) (env : Environment) (d : Draft) :
    ((∃ s, d.finish temp env = .ok s) ∨ (∃ r, d.finish temp env = .error (.rejected r)) ∨
      d.finish temp env = .error .overflow) ∧
    (d.finish temp env = .error .overflow ↔ ∃ text, d.Reads env text ∧ Duration.Overflows text) ∧
    (d.Exceeds env → (∀ text, d.Reads env text → ¬ Duration.Overflows text) →
      ∃ r, d.finish temp env = .error (.rejected r)) := by
  have hsettled : Settled (d.finish temp env) := (overlay_settled env d).bind fun _ _ => check_settled temp _
  refine ⟨hsettled, finish_eq_overflow_iff, fun hlarge hfits => ?_⟩
  rcases hsettled with ⟨s, hs⟩ | hr | hover
  · exact absurd hs hlarge.not_ok
  · exact hr
  · obtain ⟨text, hreads, ht⟩ := finish_eq_overflow_iff.1 hover
    exact absurd ht (hfits text hreads)

theorem finish_overflows_minutes : ¬ ∀ (temp : Path) (env : Environment) (d : Draft),
    (∃ s, d.finish temp env = .ok s) ∨ ∃ r, d.finish temp env = .error (.rejected r) := by
  intro h
  have hover : ({ watchdog := { hangTimeout := "18446744073709551615m" } } : Draft).finish ⟨"/tmp"⟩
      (fun _ => none) = .error .overflow := by decide +kernel
  rcases h ⟨"/tmp"⟩ (fun _ => none) { watchdog := { hangTimeout := "18446744073709551615m" } } with
    ⟨s, hs⟩ | ⟨r, hr⟩
  · rw [hover] at hs
    cases hs
  · rw [hover] at hr
    cases hr

theorem finish_exact_override :
    let env : Environment := fun name =>
      if name = "BUILDWARDEN_HANG_TIMEOUT" then some "18446744073709551616s" else none
    let d : Draft := {}
    d.Exceeds env ∧ (∀ text, d.Reads env text → ¬ Duration.Overflows text) ∧
      ∃ r, d.finish ⟨"/tmp"⟩ env = .error (.rejected r) := by
  intro env d
  have hlarge : d.Exceeds env := by
    have htext : env "BUILDWARDEN_HANG_TIMEOUT" = some "18446744073709551616s" := rfl
    have hdigits : "18446744073709551616".toList.all Text.isDigit := by decide +kernel
    have hspells : Duration.Spells "18446744073709551616s" 18446744073709551616 .second := by
      refine ⟨[], "18446744073709551616".toList, [], ['s'], [], by decide +kernel, List.forall_mem_nil _,
        by decide +kernel, List.all_eq_true.1 hdigits, by decide +kernel, by decide +kernel⟩
    exact .override htext ⟨18446744073709551616, .second, hspells, by decide⟩
  obtain ⟨-, hiff, hrejected⟩ := finish_exact ⟨"/tmp"⟩ env d
  have hfits : ∀ text, d.Reads env text → ¬ Duration.Overflows text := by
    intro text hreads hover
    have hne : d.finish ⟨"/tmp"⟩ env ≠ .error .overflow := by decide +kernel
    exact hne (hiff.2 ⟨text, hreads, hover⟩)
  exact ⟨hlarge, hfits, hrejected hlarge hfits⟩

end Draft
end Foreman.Config
