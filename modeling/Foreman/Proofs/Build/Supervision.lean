import Foreman.Program
import Foreman.Proofs.Build.Tape
import Foreman.Proofs.Config.Soundness

/-! The rules by which a supervised command is watched. Those of the settings are sound. A budget that is given along
with the command is not checked again, and may be nothing. -/

namespace Foreman
open Watch

theorem Duration.eq_zero_iff {d : Duration} : d = .zero ↔ d.nanos = 0 := by
  cases d
  simp [zero]

namespace Watch
variable {r : Rules} {budget : Option Duration}

theorem Rules.Sound.within_ordered (h : r.Sound) (budget : Option Duration) :
    (r.within budget).pollInterval ≤ (r.within budget).startingWindow ∧
      (r.within budget).startingWindow ≤ (r.within budget).hangTimeout ∧
      "" ∉ (r.within budget).crashSignatures ∧ "" ∉ (r.within budget).resetMarkers := by
  cases budget with
  | none => exact ⟨h.poll_le, h.startingWindow_le, h.signatures, h.markers⟩
  | some budget =>
    refine ⟨?_, Nat.le_refl _, h.signatures, h.markers⟩
    rw [Duration.le_iff, Rules.within, Duration.min_nanos]
    exact Nat.min_le_right ..

theorem Rules.Sound.within_pos_iff (h : r.Sound) :
    0 < (r.within budget).pollInterval.nanos ↔ ∀ time ∈ budget, 0 < time.nanos := by
  cases budget with
  | none => exact iff_of_true h.pollInterval nofun
  | some budget =>
    rw [Rules.within, Duration.min_nanos, Nat.lt_min, and_iff_right h.pollInterval]
    exact ⟨fun hpos time htime => Option.some.inj htime ▸ hpos, fun hall => hall budget rfl⟩

theorem Monitor.start_halts (hpoll : r.pollInterval = .zero) (hwindow : r.startingWindow = .zero) (action : HaltAction)
    (c : Cursor) (now : Instant) :
    ∃ m, (Monitor.start action r c now).scannerStep? now = some m ∧ m.halted = true := by
  generalize hm : Monitor.start action r c now = m
  have hstep : m.scannerStep? now = some (m.passInterval now) := by
    simp [← hm, scannerStep?, start, hpoll, Duration.zero]
  have hidle : m.scan.onIdle m.poll = some (m.scan, .hung (Scan.hangMessage .zero)) := by
    simp only [← hm, start, hpoll, Scan.start, hwindow]
    rfl
  refine ⟨_, hstep, ?_⟩
  unfold passInterval
  rw [hidle]
  unfold judge
  cases m.haltAction with
  | returns => rfl
  | breaks => rfl

end Watch

namespace Supervision
variable {v : Supervision}

theorem run_starts (v : Supervision) (t : Taped) : ∃ rest, (v.run Taped.crew t).2.asked =
    t.asked ++ .start v.watch v.log :: rest ∧ rest ⊆ [.run v.invocation, .stop] := by
  cases ht : (t.tape t.next).refusal with
  | some e => exact ⟨[], by simp [run, Build.watched, Taped.crew, ht], List.nil_subset _⟩
  | none => exact ⟨[.run v.invocation, .stop], by simp [run, Build.watched, Taped.crew, ht], List.Subset.refl _⟩

theorem readTimeout_eq_ok_iff {text : String} {time : Duration} :
    Usage.readTimeout text = .ok time ↔ Duration.Means text time := by
  rw [← Duration.read_eq_ok_iff]
  unfold Usage.readTimeout
  split <;> simp_all

theorem settle_sound {draft : Except Config.Problem Config.Draft} {ours : Variables} {s : Config.Settings}
    (h : Program.settle draft ours = .ok s) : s.watch.Sound := by
  cases draft with
  | error e => cases h
  | ok d =>
    have hfinish : d.finish (Program.temp ours) (Program.environment ours) = .ok s := h
    rw [Config.Draft.finish, Config.bind_eq_ok_iff] at hfinish
    obtain ⟨d', -, hcheck⟩ := hfinish
    exact (Config.Draft.sound_of_check hcheck).2.2

theorem means_zero_iff {text : String} {time : Duration} (h : Usage.readTimeout text = .ok time) :
    Duration.Means text .zero ↔ time = .zero := by
  have hmeans := readTimeout_eq_ok_iff.1 h
  rw [← Duration.read_eq_ok_iff] at hmeans ⊢
  rw [hmeans, Except.ok.injEq]

/-- The rules by which a command is watched are ordered in time and have no empty pattern, whatever the settings that
were accepted and the budget that was read along with the command. They leave time for the command unless that budget
is nothing; if it is, a hang is found at once. -/
theorem watch_timings {w : Workshop} {config : Path} {s : Config.Settings} {given : Option String}
    {budget : Option Duration} (hs : Program.settle (Config.Draft.loadOrDefault w.disk config) w.ours = .ok s)
    (hb : Option.Rel (fun text time => Usage.readTimeout text = .ok time) given budget) (program : String)
    (args : List String) (log : Option Path) (name : Option String) :
    let v := ofSettings s program args log name budget
    (∀ dryRun, Program.supervise config (program :: args) log name budget dryRun w = Program.superviseWith v dryRun
      (if (w.disk.find config).isOk then w else w.note .configMissing)) ∧
    (∀ t, ∃ rest, (v.run Taped.crew t).2.asked = t.asked ++ .start v.watch v.log :: rest ∧
      rest ⊆ [.run v.invocation, .stop]) ∧
    v.watch.pollInterval ≤ v.watch.startingWindow ∧ v.watch.startingWindow ≤ v.watch.hangTimeout ∧
    "" ∉ v.watch.crashSignatures ∧ "" ∉ v.watch.resetMarkers ∧
    (0 < v.watch.pollInterval.nanos ↔ ∀ text ∈ given, ¬ Duration.Means text .zero) ∧
    ((∃ text ∈ given, Duration.Means text .zero) → ∀ action cursor now, ∃ m,
      (Monitor.start action v.watch cursor now).scannerStep? now = some m ∧ m.halted = true) := by
  intro v
  have hsound := settle_sound hs
  obtain ⟨hpoll, hwindow, hsignatures, hmarkers⟩ := hsound.within_ordered budget
  refine ⟨fun dryRun => ?_, v.run_starts, hpoll, hwindow, hsignatures, hmarkers, ?_, ?_⟩
  · have hmissing : Program.settle (Config.Draft.loadOrDefault (w.note .configMissing).disk config)
        (w.note .configMissing).ours = .ok s := hs
    -- that a missing file is noted changes neither the disk nor our variables
    unfold Program.supervise
    split_ifs
    · simp only [hs, v]
    · simp only [hmissing, v]
  · refine hsound.within_pos_iff.trans ?_
    cases hb with
    | none => exact iff_of_true nofun nofun
    | some hread =>
      simp only [Option.mem_def, Option.some.injEq, forall_eq', means_zero_iff hread]
      exact Nat.pos_iff_ne_zero.trans (not_congr Duration.eq_zero_iff.symm)
  · rintro ⟨text, htext, hzero⟩ action cursor now
    cases hb with
    | none => cases htext
    | some hread =>
      cases htext
      obtain rfl := (means_zero_iff hread).1 hzero
      exact Monitor.start_halts (Duration.eq_zero_iff.2 (Nat.le_zero.1 hpoll)) rfl action cursor now

theorem settle_nothing :
    ∃ s, Program.settle (Config.Draft.loadOrDefault {} ⟨"Buildwarden.toml"⟩) [] = .ok s := by
  have hok : (Program.settle (Config.Draft.loadOrDefault {} ⟨"Buildwarden.toml"⟩) []).isOk := by decide +kernel
  cases hs : Program.settle (Config.Draft.loadOrDefault {} ⟨"Buildwarden.toml"⟩) [] with
  | error e =>
    rw [hs] at hok
    cases hok
  | ok s => exact ⟨s, rfl⟩

theorem watch_timings_minutes :
    let w : Workshop := { site := {}, ours := [] }
    ∃ s, Program.settle (Config.Draft.loadOrDefault w.disk ⟨"Buildwarden.toml"⟩) w.ours = .ok s ∧
      Option.Rel (fun text time => Usage.readTimeout text = .ok time) (some "2 m") (some (.ofSeconds 120)) ∧
      let v := ofSettings s "make" [] none none (some (.ofSeconds 120))
      v.watch.startingWindow = .ofSeconds 120 ∧ v.watch.pollInterval ≤ v.watch.startingWindow ∧
        0 < v.watch.pollInterval.nanos := by
  intro w
  obtain ⟨s, hs⟩ := settle_nothing
  have hread : Usage.readTimeout "2 m" = .ok (.ofSeconds 120) := by decide +kernel
  obtain ⟨-, -, hpoll, -, -, -, hpos, -⟩ := watch_timings (w := w) hs (.some hread) "make" [] none none
  refine ⟨s, hs, .some hread, rfl, hpoll, hpos.2 fun text htext hzero => ?_⟩
  cases htext
  exact absurd ((means_zero_iff hread).1 hzero) (by decide)

/-- A budget of nothing is read and leaves no time between two polls, though no settings that are accepted do. -/
theorem watch_timings_zero : ¬ ∀ (w : Workshop) config s given budget program args log name,
    Program.settle (Config.Draft.loadOrDefault w.disk config) w.ours = .ok s →
    Option.Rel (fun text time => Usage.readTimeout text = .ok time) given budget →
    0 < (ofSettings s program args log name budget).watch.pollInterval.nanos := by
  intro hall
  let w : Workshop := { site := {}, ours := [] }
  obtain ⟨s, hs⟩ := settle_nothing
  have hread : Usage.readTimeout "0s" = .ok .zero := by decide +kernel
  have hpos := hall w ⟨"Buildwarden.toml"⟩ s (some "0s") (some .zero) "make" [] none none hs (.some hread)
  rw [ofSettings, Rules.within, Duration.min_nanos, Duration.zero, Nat.min_zero] at hpos
  exact Nat.lt_irrefl 0 hpos

end Supervision
end Foreman
