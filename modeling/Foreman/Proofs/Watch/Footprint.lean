import Foreman.Proofs.Disk.Making
import Foreman.Proofs.Watch.Calls
import Foreman.Site

/-! What a watchdog leaves behind on a disk. Its tasks only read and a stop does less, so all that it ever adds is
a log that was missing when a watch was started, whatever else is done to the files in between. -/

namespace Foreman

namespace Watch.Watchdog
variable {w : Watchdog} {r : Rules} {log : Path} {d : Disk} {now : Instant}

theorem start_ensures (hm : w.monitor = none) : (w.start r log d now).2.1 = (ensureLog d log).2 ∧
    ((w.start r log d now).1 = none → ∀ cause, (ensureLog d log).1 ≠ .failed cause) := by
  unfold start
  rw [hm]
  dsimp only
  generalize ensureLog d log = ensured
  obtain ⟨answer, d'⟩ := ensured
  cases answer with
  | failed cause => exact ⟨rfl, nofun⟩
  | existed =>
    dsimp only
    cases Cursor.openAtEnd d' log <;> exact ⟨rfl, fun _ => nofun⟩
  | made =>
    dsimp only
    cases Cursor.openAtEnd d' log <;> exact ⟨rfl, fun _ => nofun⟩

end Watch.Watchdog

namespace Site
open Watch Disk

inductive Idles (s : Site) : Site → Prop
  | later (now : Instant) (h : s.now ≤ now) : Idles s { s with now }
  | reads {m m' : Monitor} (hm : s.watchdog.monitor = some m) (h : m.readerStep? s.disk s.now = some m') :
    Idles s { s with watchdog := s.watchdog.advance m' }
  | scans {m m' : Monitor} (hm : s.watchdog.monitor = some m) (h : m.scannerStep? s.now = some m') :
    Idles s { s with watchdog := s.watchdog.advance m' }

/-- The owner's calls and the steps of the tasks in any order, and with them what others do to the files. -/
inductive Tended (others : Disk → Disk → Prop) (s : Site) : Site → Prop
  | rest : Tended others s s
  | start {t : Site} (h : Tended others s t) (r : Rules) (log : Path) : Tended others s (t.startWatch r log).2
  | stop {t : Site} (h : Tended others s t) : Tended others s t.stopWatch.2
  | idles {t u : Site} (h : Tended others s t) (hi : t.Idles u) : Tended others s u
  | changed {t : Site} {d : Disk} (h : Tended others s t) (ho : others t.disk d) (hd : d.Sound) :
    Tended others s { t with disk := d }

variable {s t u : Site} {others : Disk → Disk → Prop} {l : Location} {r : Rules} {log : Path}

theorem Idles.disk (h : t.Idles u) : u.disk = t.disk := by
  cases h <;> rfl

theorem startWatch_readies (t : Site) (r : Rules) (log : Path) :
    t.disk.Readies log (t.startWatch r log).2.disk ∧ (t.disk.Sound → (t.startWatch r log).2.disk.Sound) := by
  have hdisk : (t.startWatch r log).2.disk = (t.watchdog.start r log t.disk t.now).2.1 := rfl
  rw [hdisk]
  cases hm : t.watchdog.monitor with
  | some m =>
    have hsame : (t.watchdog.start r log t.disk t.now).2.1 = t.disk := by simp only [Watchdog.start, hm]
    rw [hsame]
    exact ⟨.refl log _, id⟩
  | none =>
    rw [(Watchdog.start_ensures hm).1]
    exact ⟨ensureLog_readies _ log, fun h => h.ensureLog log⟩

theorem Tended.sound (h : s.Tended others t) (hs : s.disk.Sound) : t.disk.Sound := by
  induction h with
  | rest => exact hs
  | start h r log ih => exact (startWatch_readies _ r log).2 ih
  | stop h ih => exact ih
  | idles h hi ih => exact hi.disk ▸ ih
  | changed h ho hd ih => exact hd

theorem Tended.seen {x : Option Bytes} (h : s.Tended others t) (hs : s.disk.Sound) (hx : s.disk.seen l = some x)
    (hkept : ∀ d d', others d d' → d.seen l = some x → d'.seen l = some x) : t.disk.seen l = some x := by
  induction h with
  | rest => exact hx
  | start h r log ih => exact (startWatch_readies _ r log).1.keeps.seen (h.sound hs) ih
  | stop h ih => exact ih
  | idles h hi ih => exact hi.disk ▸ ih
  | changed h ho hd ih => exact hkept _ _ ho ih

/-- Whatever happens besides, the watchdog takes nothing away and writes into no file. A start is all that adds
something: where the log is missing, an empty one and the directories above it. Once that has succeeded, nothing is
left to be done for the log. -/
theorem Tended.footprint (h : s.Tended others t) (hs : s.disk.Sound) :
    (∀ l x, s.disk.seen l = some x → (∀ d d', others d d' → d.seen l = some x → d'.seen l = some x) →
      t.disk.seen l = some x) ∧
    (∀ u, t.Idles u → u.disk = t.disk) ∧ t.stopWatch.2.disk = t.disk ∧
    ∀ r log error after, t.startWatch r log = (error, after) → t.disk.Readies log after.disk ∧
      (∀ p, error = some (.alreadyMonitoring p) → after.disk = t.disk) ∧
      (∀ e, t.disk.find log = .ok e → after.disk = t.disk) ∧
      (error = none → ensureLog after.disk log = (.existed, after.disk) ∧
        ((∀ e, t.disk.find log ≠ .ok e) → ∃ l id, after.disk.locate log = .ok l ∧
          after.disk.entry? l = some (.file id) ∧ (t.disk.entry? l = none → after.disk.content id = []) ∧
          (.up ∉ log.components → t.disk.entry? l = none))) := by
  refine ⟨fun l x hx hkept => h.seen hs hx hkept, fun u hi => hi.disk, rfl, fun r log error after hstart => ?_⟩
  have herror : (t.watchdog.start r log t.disk t.now).1 = error := congrArg Prod.fst hstart
  have hdisk : (t.watchdog.start r log t.disk t.now).2.1 = after.disk := congrArg (·.2.disk) hstart
  have hreadies : t.disk.Readies log after.disk := by
    have := (t.startWatch_readies r log).1
    rwa [hstart] at this
  refine ⟨hreadies, fun p hp => ?_, fun e hf => ?_, fun hnone => ?_⟩
  · have hmove := t.watchdog.start_move r log t.disk t.now
    rw [← hdisk]
    generalize t.watchdog.start r log t.disk t.now = started at hmove herror
    cases hmove with
    | refused hm => rfl
    | failed hm => cases herror.trans hp
    | begun hm hc => cases herror.trans hp
  · rw [← hdisk, Watchdog.start_disk _ r _ hf]
  · -- a watch that was under way would have refused this one
    have hm : t.watchdog.monitor = none := by
      cases hm : t.watchdog.monitor with
      | none => rfl
      | some m => simp [Watchdog.start, hm, hnone] at herror
    obtain ⟨hlog, hok⟩ : (t.watchdog.start r log t.disk t.now).2.1 = (ensureLog t.disk log).2 ∧
        ((t.watchdog.start r log t.disk t.now).1 = none → ∀ cause, (ensureLog t.disk log).1 ≠ .failed cause) :=
      Watchdog.start_ensures hm
    rw [hdisk] at hlog
    have hensured : ensureLog t.disk log = ((ensureLog t.disk log).1, after.disk) := by rw [hlog]
    refine ⟨ensureLog_again hensured (hok (herror.trans hnone)), fun hmissing => ?_⟩
    have hensures := t.disk.ensureLog_ensures log
    rw [hensured] at hensures
    have hcauses := hok (herror.trans hnone)
    generalize (ensureLog t.disk log).1 = answer, after.disk = d' at hensures hensured hcauses ⊢
    cases hensures with
    | existed e hf => exact absurd hf (hmissing e)
    | failed cause _ hb => exact absurd rfl (hcauses cause)
    | made d₁ _ file hf hb ho => exact made_of_ensureLog (h.sound hs) hensured

theorem Tended.footprint_missing : ∃ s t : Site, s.disk.Sound ∧
    s.Tended (fun d d' => d'.seen ["notes"] = d.seen ["notes"]) t ∧
    t.disk.seen ["notes"] = some (some [104, 105]) ∧ t.disk.seen ["out"] = some none ∧
    t.disk.seen ["out", "log"] = some (some [120]) ∧
    (t.startWatch {} ⟨"out/log"⟩).1 = none ∧ (t.startWatch {} ⟨"out/log"⟩).2.disk = t.disk := by
  let s : Site := { disk := ⟨[(["notes"], .file 0)], [(0, [104, 105])], 1, []⟩ }
  have hnew : (Disk.create {} ([] ++ ["notes"])).2.Sound := Disk.sound_empty.create rfl rfl
  have hd : s.disk.Sound := hnew.setContent 0 [104, 105]
  have h₀ : s.Tended (fun d d' => d'.seen ["notes"] = d.seen ["notes"]) s := .rest
  have h₁ := h₀.start {} ⟨"out/log"⟩
  have h₂ := h₁.changed (d := Disk.setContent _ 1 [120]) rfl ((h₁.sound hd).setContent 1 [120])
  have h₃ := (h₂.idles (.later 7 (by decide))).stop
  obtain ⟨hkept, -, -, hstart⟩ := h₃.footprint hd
  have hnotes := hkept ["notes"] (some [104, 105]) rfl fun d d' h hd => h.trans hd
  obtain ⟨-, -, hsame, -⟩ := hstart {} ⟨"out/log"⟩ _ _ rfl
  refine ⟨_, _, hd, h₃, hnotes, ?_, ?_, ?_, hsame (.file 1) ?_⟩
  · decide +kernel
  · decide +kernel
  · decide +kernel
  · decide +kernel

end Site
end Foreman
