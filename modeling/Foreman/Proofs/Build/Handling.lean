import Foreman.Proofs.Build.Place
import Foreman.Proofs.Disk.Clearing
import Foreman.Proofs.Watch.Footprint

/-! Crews that work on a disk. What they do for a build leaves the files alone, but for the commands and for what is
asked about a file or a directory, and only a log that is to be shown is shown. -/

namespace Foreman
open Watch

variable {σ : Type}

/-- The crew works on a disk and shows what is to be shown at the end of a text. Work that has been broken off is
never taken up again. -/
structure Crew.Handles (c : Crew σ) (disk : σ → Disk) (shown : σ → String) (going : σ → Prop) : Prop where
  start {rules log s} : going (c.startWatch rules log s).2 → going s ∧
    (disk s).Readies log (disk (c.startWatch rules log s).2) ∧ shown (c.startWatch rules log s).2 = shown s
  stop {s} : going (c.stopWatch s).2 → going s ∧ disk (c.stopWatch s).2 = disk s ∧ shown (c.stopWatch s).2 = shown s
  run {i s} : going (c.run i s).2 → going s ∧ shown (c.run i s).2 = shown s
  clear {dir s} : going (c.clear dir s).2 → going s ∧
    (disk s).makeEmpty dir = ((c.clear dir s).1, disk (c.clear dir s).2) ∧ shown (c.clear dir s).2 = shown s
  readLog {log s} : going (c.readLog log s).2 → going s ∧ (c.readLog log s).1 = (disk s).readFile log ∧
    disk (c.readLog log s).2 = disk s ∧ shown (c.readLog log s).2 = shown s
  dump {frame s} : going (c.dump frame s) → going s ∧ disk (c.dump frame s) = disk s ∧
    shown (c.dump frame s) = shown s ++ frame
  note {n s} : going (c.note n s) → going s ∧ disk (c.note n s) = disk s ∧ shown (c.note n s) = shown s

namespace Rehearsal
variable {r : Rehearsal}

theorem checkTurn_frames (r : Rehearsal) : r.checkTurn.frames = r.frames := by
  unfold checkTurn
  split_ifs <;> rfl

theorem wait_frames (r : Rehearsal) (d : Duration) : (r.wait d).frames = r.frames := by
  unfold wait checkLimit
  split_ifs <;> rfl

theorem perform_frames (i : Invocation) (r : Rehearsal) (deed : Deed) : (r.perform i deed).frames = r.frames := by
  unfold perform unlessBroken
  split_ifs
  · rfl
  · cases deed with
    | change c => rfl
    | wait d => exact r.wait_frames d
    | log lines =>
      dsimp only
      unfold appendLog
      cases i.optionValue? "-logFile" with
      | none => rfl
      | some log =>
        dsimp only
        unfold unlessBroken
        split_ifs
        · exact r.checkTurn_frames
        · dsimp only
          cases r.checkTurn.site.disk.appendLines ⟨log⟩ lines with
          | ok d => exact r.checkTurn_frames
          | error b => exact r.checkTurn_frames

theorem call_frames (i : Invocation) (r : Rehearsal) : (r.call i).2.frames = r.frames := by
  have hall : ∀ (deeds : List Deed) (r : Rehearsal), (deeds.foldl (perform i) r).frames = r.frames := by
    intro deeds
    induction deeds with
    | nil => exact fun _ => rfl
    | cons deed deeds ih => exact fun r => (ih _).trans (r.perform_frames i deed)
  unfold call
  rw [hall, wait_frames]

theorem crew_handles : crew.Handles (·.site.disk) (fun r => String.join r.frames) (·.breakdown = none) where
  start {rules log r} h := by
    obtain ⟨hr, hact⟩ := turn_eq h
    simp only [crew, hact]
    exact ⟨hr, (r.site.startWatch_readies rules log).1, rfl⟩
  stop {r} h := by
    obtain ⟨hr, hact⟩ := unlessBroken_eq h
    simp only [crew] at h ⊢
    rw [hact] at h ⊢
    refine ⟨hr, ?_⟩
    unfold stopWatch at h ⊢
    simp only at h ⊢
    split_ifs at h ⊢
    · rw [checkTurn_eq h]
      exact ⟨rfl, rfl⟩
    · exact ⟨rfl, rfl⟩
  run {i r} h := by
    obtain ⟨hr, hact⟩ := unlessBroken_eq h
    simp only [crew, hact]
    exact ⟨hr, congrArg String.join (r.call_frames i)⟩
  clear {dir r} h := by
    obtain ⟨hr, hact⟩ := turn_eq h
    simp only [crew, hact]
    exact ⟨hr, rfl, rfl⟩
  readLog {log r} h := by
    have hturn : r.checkTurn = r := checkTurn_eq h
    show r.breakdown = none ∧ _ = _ ∧ r.checkTurn.site.disk = r.site.disk ∧ String.join r.checkTurn.frames = _
    rw [hturn]
    exact ⟨hturn ▸ h, rfl, rfl, rfl⟩
  dump {frame r} h := by
    simp only [crew] at h ⊢
    split_ifs at h ⊢ with hr
    · rw [h] at hr
      cases hr
    · exact ⟨h, rfl, by simp⟩
  note h := ⟨h, rfl, rfl⟩

end Rehearsal

namespace Workshop

theorem enforce_printed (own : Bool) (w : Workshop) (r : Shell.Running) :
    (w.enforce own r).1.printed = w.printed := by
  have hnote : ∀ leader, (w.noteHalt leader).printed = w.printed := by
    intro leader
    unfold noteHalt
    simp only
    split_ifs <;> rfl
  unfold enforce
  split_ifs
  · rfl
  · exact hnote (some r.main)
  · exact hnote none

theorem follow_printed (own : Bool) (n : Nat) (w : Workshop) (r : Shell.Running) :
    (w.follow own n r).1.printed = w.printed := by
  induction n generalizing w r with
  | zero => rfl
  | succ n ih =>
    have hattend : (w.attend own r).1.printed = w.printed := enforce_printed own _ _
    unfold follow
    generalize w.attend own r = attended at hattend ⊢
    obtain ⟨w₁, r₁⟩ := attended
    simp only
    split_ifs
    · exact hattend
    · cases w₁.nextMoment r₁ with
      | none => exact hattend
      | some t => exact (ih _ _).trans hattend

theorem run_printed (i : Invocation) (w : Workshop) : (w.run i).2.printed = w.printed := by
  have hnoted : (if i.verbose then w.note .commandStarted else w).printed = w.printed := by split_ifs <;> rfl
  have hend : ∀ (w : Workshop) code, (w.noteEnd i code).printed = w.printed := by
    intro w code
    unfold noteEnd
    simp only
    split_ifs <;> rfl
  unfold run
  generalize (if i.verbose then w.note .commandStarted else w) = w₁ at hnoted ⊢
  simp only
  generalize Shell.Running.start _ _ _ i = launched
  cases launched with
  | error e => exact hnoted
  | ok r =>
    have hfollow := follow_printed i.slot.isSome moments { w₁ with site := w₁.site.pass lead } r
    simp only
    split_ifs
    · exact hfollow.trans hnoted
    · exact (hend _ _).trans (hfollow.trans hnoted)

theorem crew_handles : crew.Handles disk printed (·.interrupted = false) where
  start {rules log w} h := by
    obtain ⟨hw, hact⟩ := unlessStopped_eq h
    simp only [crew, hact]
    exact ⟨hw, (w.site.startWatch_readies rules log).1, rfl⟩
  stop {w} h := by
    obtain ⟨hw, hact⟩ := unlessStopped_eq h
    simp only [crew, hact]
    exact ⟨hw, rfl, rfl⟩
  run {i w} h := by
    obtain ⟨hw, hact⟩ := unlessStopped_eq h
    simp only [crew, hact]
    exact ⟨hw, w.run_printed i⟩
  clear {dir w} h := by
    obtain ⟨hw, hact⟩ := unlessStopped_eq h
    simp only [crew, hact]
    refine ⟨hw, ?_⟩
    unfold clear
    simp only
    split_ifs
    · exact ⟨rfl, rfl⟩
    · exact ⟨rfl, rfl⟩
  readLog h := ⟨h, rfl, rfl, rfl⟩
  dump {frame w} h := by
    simp only [crew] at h ⊢
    split_ifs at h ⊢ with hw
    · rw [h] at hw
      cases hw
    · exact ⟨h, rfl, rfl⟩
  note {n w} h := by
    simp only [crew] at h ⊢
    split_ifs at h ⊢ with hw
    · exact ⟨h, rfl, rfl⟩
    · exact ⟨h, rfl, rfl⟩

end Workshop

end Foreman
