import Foreman.Proofs.Build.Handling
import Foreman.Proofs.Build.Journal

/-! What a build does to a disk, call by call. Nothing happens to the files between two calls, and of the calls
only the commands may do what they like. -/

namespace Foreman
open Watch

variable {σ : Type}

namespace Exchange

def isClosing : Exchange → Bool
  | looked _ _ | dumped _ => true
  | _ => false

def frame : Exchange → String
  | dumped frame => frame
  | _ => ""

end Exchange

structure Turn where
  before : Disk
  what : Exchange
  after : Disk

/-- What one call can do to a disk. -/
def Turn.Fits (t : Turn) : Prop :=
  match t.what with
  | .cleared dir error => t.before.makeEmpty dir = (error, t.after)
  | .started log _ => t.before.Readies log t.after
  | .ran _ _ => True
  | .looked log content => content = t.before.readFile log ∧ t.after = t.before
  | .stopped _ | .dumped _ => t.after = t.before

def Links : Disk → List Turn → Disk → Prop
  | d, [], d' => d' = d
  | d, t :: turns, d' => t.before = d ∧ Links t.after turns d'

theorem links_append {d d' : Disk} {xs ys : List Turn} :
    Links d (xs ++ ys) d' ↔ ∃ e, Links d xs e ∧ Links e ys d' := by
  induction xs generalizing d with
  | nil => simp [Links]
  | cons t xs ih =>
    simp only [List.cons_append, Links, ih]
    exact ⟨fun ⟨h, e, hx, hy⟩ => ⟨e, ⟨h, hx⟩, hy⟩, fun ⟨e, ⟨h, hx⟩, hy⟩ => ⟨h, e, hx, hy⟩⟩

structure Traced (σ : Type) where
  inner : σ
  turns : List Turn := []

def Crew.traced (c : Crew σ) (disk : σ → Disk) : Crew (Traced σ) where
  startWatch rules log x :=
    let (refusal, s) := c.startWatch rules log x.inner
    (refusal, ⟨s, x.turns ++ [⟨disk x.inner, .started log refusal, disk s⟩]⟩)
  stopWatch x :=
    let (report, s) := c.stopWatch x.inner
    (report, ⟨s, x.turns ++ [⟨disk x.inner, .stopped report, disk s⟩]⟩)
  run i x :=
    let (result, s) := c.run i x.inner
    (result, ⟨s, x.turns ++ [⟨disk x.inner, .ran i result, disk s⟩]⟩)
  clear dir x :=
    let (error, s) := c.clear dir x.inner
    (error, ⟨s, x.turns ++ [⟨disk x.inner, .cleared dir error, disk s⟩]⟩)
  readLog log x :=
    let (content, s) := c.readLog log x.inner
    (content, ⟨s, x.turns ++ [⟨disk x.inner, .looked log content, disk s⟩]⟩)
  dump frame x := ⟨c.dump frame x.inner, x.turns ++ [⟨disk x.inner, .dumped frame, disk (c.dump frame x.inner)⟩]⟩
  note n x := ⟨c.note n x.inner, x.turns⟩

namespace Build
variable {b : Build} {c : Crew σ} {disk : σ → Disk} {shown : σ → String} {going : σ → Prop}

def turns (b : Build) (c : Crew σ) (disk : σ → Disk) (step : Step) (retry : Nat) (s : σ) : List Turn :=
  (b.run (c.traced disk) step retry ⟨s, []⟩).2.turns

theorem traced_alike (b : Build) (c : Crew σ) (disk : σ → Disk) : b.Alike c.journalled (c.traced disk) fun x y =>
    y.inner = x.inner ∧ y.turns.map Turn.what = x.journal where
  start := by
    rintro ⟨s, entries⟩ ⟨_, ts⟩ ⟨rfl, rfl⟩
    exact ⟨rfl, rfl, List.map_append⟩
  stop := by
    rintro ⟨s, entries⟩ ⟨_, ts⟩ ⟨rfl, rfl⟩
    exact ⟨rfl, rfl, List.map_append⟩
  run {x y} i := by
    obtain ⟨s, entries⟩ := x
    rintro ⟨rfl, rfl⟩
    exact ⟨rfl, rfl, List.map_append⟩
  clear {x y dir} _ := by
    obtain ⟨s, entries⟩ := x
    rintro ⟨rfl, rfl⟩
    exact ⟨rfl, rfl, List.map_append⟩
  dumpLog := by
    rintro ⟨s, entries⟩ ⟨s', ts⟩ ⟨hs, rfl⟩
    obtain rfl : s' = s := hs
    cases hread : c.readLog b.engine.logFile s' with
    | mk content s₁ =>
      cases content <;> simp [dumpLog, Crew.traced, Crew.journalled, Journalled.enter, hread]
  note {x y} n := by
    obtain ⟨s, entries⟩ := x
    rintro ⟨rfl, rfl⟩
    exact ⟨rfl, rfl⟩

theorem run_traced (b : Build) (c : Crew σ) (disk : σ → Disk) (step : Step) (retry : Nat) (s : σ) :
    (b.run (c.traced disk) step retry ⟨s, []⟩).1 = (b.run c step retry s).1 ∧
      (b.run (c.traced disk) step retry ⟨s, []⟩).2.inner = (b.run c step retry s).2 ∧
      (b.turns c disk step retry s).map Turn.what = b.journal c step retry s := by
  obtain ⟨hanswer, hinner⟩ := (journalled_alike b c).runStep step retry (s := s) (t := ⟨s, []⟩) rfl
  obtain ⟨hanswer', hinner', hturns⟩ := (traced_alike b c disk).runStep step retry (s := ⟨s, []⟩) (t := ⟨s, []⟩)
    ⟨rfl, rfl⟩
  exact ⟨(hanswer.trans hanswer').symm, hinner'.trans hinner, hturns⟩

/-- The turns from `s` on lead to the disk there is now, and all that was to be shown is shown. -/
structure Told (disk : σ → Disk) (shown : σ → String) (going : σ → Prop) (s : σ) (x : Traced σ) : Prop where
  going : going s
  links : Links (disk s) x.turns (disk x.inner)
  fits : ∀ t ∈ x.turns, t.Fits
  shown : shown x.inner = shown s ++ String.join (x.turns.map (·.what.frame))

namespace Told
variable {s s' : σ} {x : Traced σ} {e : Exchange}

theorem nil (h : going s) : Told disk shown going s ⟨s, []⟩ :=
  ⟨h, rfl, List.forall_mem_nil _, String.append_empty.symm⟩

theorem turn (h : Told disk shown going s x) (hfits : Turn.Fits ⟨disk x.inner, e, disk s'⟩)
    (hshown : shown s' = shown x.inner ++ e.frame) :
    Told disk shown going s ⟨s', x.turns ++ [⟨disk x.inner, e, disk s'⟩]⟩ where
  going := h.going
  links := links_append.2 ⟨_, h.links, rfl, rfl⟩
  fits := List.forall_mem_append.2 ⟨h.fits, by simpa using hfits⟩
  shown := by
    rw [hshown, h.shown]
    simp [String.append_assoc]

theorem silent (h : Told disk shown going s x) (hfits : Turn.Fits ⟨disk x.inner, e, disk s'⟩)
    (hshown : shown s' = shown x.inner) (hframe : e.frame = "") :
    Told disk shown going s ⟨s', x.turns ++ [⟨disk x.inner, e, disk s'⟩]⟩ :=
  h.turn hfits (by rw [hshown, hframe, String.append_empty])

theorem note (h : Told disk shown going s x) (hdisk : disk s' = disk x.inner) (hshown : shown s' = shown x.inner) :
    Told disk shown going s ⟨s', x.turns⟩ :=
  ⟨h.going, hdisk ▸ h.links, h.fits, hshown.trans h.shown⟩

end Told

theorem run_told (hc : c.Handles disk shown going) (step : Step) (retry : Nat) (s : σ)
    (hgoing : going (b.run c step retry s).2) :
    Told disk shown going s (b.run (c.traced disk) step retry ⟨s, []⟩).2 := by
  -- what is still going on now has been going on all the time, so the invariant speaks of such states only
  let Q (x : Traced σ) : Prop := going x.inner → Told disk shown going s x
  have hworks : b.Works (c.traced disk) (c.traced disk) fun x y => x = y ∧ Q y := by
    refine .of_kept (fun x hx h => ?_) (fun x hx h => ?_) (fun i x hx h => ?_) (fun n x hx h => ?_)
    · obtain ⟨hg, hready, hshown⟩ := hc.start h
      exact (hx hg).silent hready hshown rfl
    · obtain ⟨hg, hdisk, hshown⟩ := hc.stop h
      exact (hx hg).silent hdisk hshown rfl
    · obtain ⟨hg, hshown⟩ := hc.run h
      exact (hx hg).silent trivial hshown rfl
    · obtain ⟨hg, hdisk, hshown⟩ := hc.note h
      exact (hx hg).note hdisk hshown
  have halike : b.Alike (c.traced disk) (c.traced disk) fun x y => x = y ∧ Q y := by
    refine .of_kept hworks (fun dir x hx h => ?_) (fun log x hx h => ?_) (fun frame x hx h => ?_)
    · obtain ⟨hg, hempty, hshown⟩ := hc.clear h
      exact (hx hg).silent hempty hshown rfl
    · obtain ⟨hg, hcontent, hdisk, hshown⟩ := hc.readLog h
      exact (hx hg).silent ⟨hcontent, hdisk⟩ hshown rfl
    · obtain ⟨hg, hdisk, hshown⟩ := hc.dump h
      exact (hx hg).turn hdisk hshown
  have hrun : Q (b.run (c.traced disk) step retry ⟨s, []⟩).2 :=
    (halike.runStep step retry (s := ⟨s, []⟩) ⟨rfl, .nil⟩).2.2
  exact hrun ((run_traced b c disk step retry s).2.1 ▸ hgoing)

theorem turns_told (hc : c.Handles disk shown going) (step : Step) (retry : Nat) (s : σ)
    (hgoing : going (b.run c step retry s).2) :
    Links (disk s) (b.turns c disk step retry s) (disk (b.run c step retry s).2) ∧
      ∀ t ∈ b.turns c disk step retry s, t.Fits := by
  have htold := run_told hc step retry s hgoing
  exact ⟨(run_traced b c disk step retry s).2.1 ▸ htold.links, htold.fits⟩

end Build

end Foreman
