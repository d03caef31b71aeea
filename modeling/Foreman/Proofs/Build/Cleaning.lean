import Foreman.Proofs.Build.Showing

/-! The output directory. It is emptied once, before the first watch begins, and what is written there after that
is taken away by commands only, in whatever attempt. -/

namespace Foreman
open Watch

variable {σ : Type}

theorem Turn.Fits.keeps {t : Turn} (h : t.Fits) (hclear : t.what.isClear = false)
    (hran : t.what.invocation? = none) : t.before.Keeps t.after := by
  obtain ⟨before, what, after⟩ := t
  have hsame : after = before → before.Keeps after := by
    rintro rfl
    exact .refl _
  cases what with
  | cleared dir error => cases hclear
  | started log refusal => exact Disk.Readies.keeps h
  | ran i result => cases hran
  | stopped report => exact hsame h
  | looked log content => exact hsame h.2
  | dumped frame => exact hsame h

theorem Links.keeps {d d' : Disk} {turns : List Turn} (h : Links d turns d')
    (hall : ∀ t ∈ turns, t.before.Keeps t.after) : d.Keeps d' := by
  induction turns generalizing d with
  | nil =>
    obtain rfl : d' = d := h
    exact .refl d'
  | cons t turns ih =>
    obtain ⟨rfl, hrest⟩ := h
    obtain ⟨ht, hturns⟩ := List.forall_mem_cons.1 hall
    exact ht.trans (ih hrest hturns)

namespace Build
variable {b : Build} {c : Crew σ} {disk : σ → Disk} {shown : σ → String} {going : σ → Prop} {s : σ} {dir : Path}

def rounds (b : Build) (c : Crew σ) (disk : σ → Disk) (step : Step) : Nat → σ → List (List Turn)
  | budget, s =>
    match b.runActions (c.traced disk) step.actions ⟨c.note .stepStarted s, []⟩ with
    | (.error _, x) => [x.turns]
    | (.ok code, x) =>
      if code = 0 then [x.turns]
      else match budget with
        | 0 => [x.turns]
        | budget + 1 => x.turns :: rounds b c disk step budget (c.note .stepRepeated x.inner)

/-- A watch was the first thing that was asked for. -/
def BeginsWatched (b : Build) (turns : List Turn) : Prop :=
  ∃ before refusal after rest, turns = ⟨before, .started b.engine.logFile refusal, after⟩ :: rest

theorem BeginsWatched.append {turns : List Turn} (h : b.BeginsWatched turns) (more : List Turn) :
    b.BeginsWatched (turns ++ more) := by
  obtain ⟨before, refusal, after, rest, rfl⟩ := h
  exact ⟨before, refusal, after, rest ++ more, rfl⟩

/-- The directory was emptied before the first watch began, and of all turns after that only the commands take
anything away. -/
structure Cleans (b : Build) (dir : Path) (rounds : List (List Turn)) (d d₁ d' : Disk) (turns : List Turn) :
    Prop where
  divided : ∃ ending, turns = ⟨d, .cleared dir none, d₁⟩ :: (rounds.flatten ++ ending) ∧
    ∀ t ∈ ending, t.what.isClosing = true
  links : Links d turns d'
  empty : d.Clears (d.place dir) d₁
  nonempty : rounds ≠ []
  watched : ∀ round ∈ rounds, b.BeginsWatched round
  once : ∀ t ∈ turns.tail, t.what.isClear = false
  lasting : ∀ earlier between later, turns.tail = earlier ++ between ++ later →
    (∀ t ∈ between, t.what.invocation? = none) →
      ∃ e e', Links d₁ earlier e ∧ Links e between e' ∧ Links e' later d' ∧ e.Keeps e'

section
variable (b c disk)

theorem traced_works (ts : List Turn) :
    b.Works (c.traced disk) (c.traced disk) fun x y => x = ⟨y.inner, ts ++ y.turns⟩ where
  start := by
    rintro _ y rfl
    exact ⟨rfl, congrArg _ (List.append_assoc ..)⟩
  stop := by
    rintro _ y rfl
    exact ⟨rfl, congrArg _ (List.append_assoc ..)⟩
  run i := by
    rintro rfl
    exact ⟨rfl, congrArg _ (List.append_assoc ..)⟩
  note n := by
    rintro rfl
    rfl

theorem runActions_traced (actions : List Action) (s : σ) (ts : List Turn) :
    let outcome := b.runActions (c.traced disk) actions ⟨s, []⟩
    b.runActions (c.traced disk) actions ⟨s, ts⟩ = (outcome.1, ⟨outcome.2.inner, ts ++ outcome.2.turns⟩) := by
  obtain ⟨hanswer, hafter⟩ := (traced_works b c disk ts).runActions actions
    (s := ⟨s, ts⟩) (t := ⟨s, []⟩) (by rw [List.append_nil])
  exact Prod.ext hanswer hafter

theorem attempt_rounds (step : Step) (budget before : Nat) (s : σ) (ts : List Turn) :
    (b.attempt (c.traced disk) step budget before ⟨s, ts⟩).2.turns =
      ts ++ (b.rounds c disk step budget s).flatten := by
  have hstart (s : σ) (ts : List Turn) :
      (c.traced disk).note .stepStarted ⟨s, ts⟩ = ⟨c.note .stepStarted s, ts⟩ := rfl
  induction budget generalizing before s ts with
  | zero =>
    rw [attempt, rounds, hstart, runActions_traced]
    generalize b.runActions (c.traced disk) step.actions ⟨c.note .stepStarted s, []⟩ = outcome
    obtain ⟨answer, x⟩ := outcome
    cases answer <;> simp [Crew.traced]
  | succ budget ih =>
    rw [attempt, rounds, hstart, runActions_traced]
    generalize b.runActions (c.traced disk) step.actions ⟨c.note .stepStarted s, []⟩ = outcome
    obtain ⟨answer, x⟩ := outcome
    cases answer with
    | error e => simp [Crew.traced]
    | ok code =>
      dsimp only
      split_ifs
      · simp
      · -- the next attempt goes on where this one left off
        rw [List.flatten_cons, ← List.append_assoc]
        exact ih (before + 1) (c.note .stepRepeated x.inner) (ts ++ x.turns)

theorem dumpLog_turns (x : Traced σ) : ∃ ending,
    (b.dumpLog (c.traced disk) x).turns = x.turns ++ ending ∧ ∀ t ∈ ending, t.what.isClosing = true := by
  unfold dumpLog
  cases hread : c.readLog b.engine.logFile x.inner with
  | mk content s =>
    simp only [Crew.traced, hread]
    cases content with
    | error e => exact ⟨_, rfl, List.forall_mem_singleton.2 rfl⟩
    | ok bytes =>
      exact ⟨_, List.append_assoc .., List.forall_mem_cons.2 ⟨rfl, List.forall_mem_singleton.2 rfl⟩⟩

end

theorem runActions_watched (method : String) (actions : List Action) (s : σ) :
    b.BeginsWatched (b.runActions (c.traced disk) (.engine method :: actions) ⟨s, []⟩).2.turns := by
  have hworks : b.Works (c.traced disk) (c.traced disk) fun x y => x = y ∧ b.BeginsWatched y.turns :=
    .of_kept (fun x h => h.append _) (fun x h => h.append _) (fun i x h => h.append _) (fun n x h => h)
  have hengine : b.BeginsWatched (b.callEngine (c.traced disk) method ⟨s, []⟩).2.turns := by
    let start := c.startWatch b.watch b.engine.logFile s
    let x : Traced σ := ⟨start.2, [⟨disk s, .started b.engine.logFile start.1, disk start.2⟩]⟩
    have hx : b.BeginsWatched x.turns := ⟨_, _, _, _, rfl⟩
    have hstart : (c.traced disk).startWatch b.watch b.engine.logFile ⟨s, []⟩ = (start.1, x) := rfl
    unfold callEngine
    cases hrefusal : start.1 with
    | some e =>
      rw [hrefusal] at hstart
      rw [watched_of_refused hstart]
      exact hx
    | none =>
      rw [hrefusal] at hstart
      rw [watched_of_started hstart]
      obtain ⟨-, -, hran⟩ := hworks.run (b.engine.invocation method) ⟨rfl, hx⟩
      obtain ⟨-, -, hstopped⟩ := hworks.stop ⟨rfl, hran⟩
      generalize verdict _ _ = answer
      cases answer with
      | error e => exact hstopped
      | ok e => exact hstopped
  have haction : b.runAction (c.traced disk) (.engine method) ⟨s, []⟩ =
      b.callEngine (c.traced disk) method ⟨s, []⟩ := rfl
  rw [runActions, haction]
  -- whatever is done after that is written down behind it
  generalize b.callEngine (c.traced disk) method ⟨s, []⟩ = outcome at hengine
  obtain ⟨answer, x⟩ := outcome
  cases answer with
  | error e => exact hengine
  | ok code =>
    dsimp only
    split_ifs
    · exact (hworks.runActions actions ⟨rfl, hengine⟩).2.2
    · exact hengine

theorem actions_begin (step : Step) : ∃ method actions, step.actions = .engine method :: actions := by
  cases step <;> exact ⟨_, _, rfl⟩

theorem rounds_watched (b : Build) (c : Crew σ) (disk : σ → Disk) (step : Step) (budget : Nat) (s : σ) :
    b.rounds c disk step budget s ≠ [] ∧ ∀ round ∈ b.rounds c disk step budget s, b.BeginsWatched round := by
  obtain ⟨method, actions, hactions⟩ := actions_begin step
  have hround {s : σ} {answer : Except BuildError Int} {x : Traced σ}
      (h : b.runActions (c.traced disk) step.actions ⟨s, []⟩ = (answer, x)) : b.BeginsWatched x.turns := by
    have hbegins : b.BeginsWatched (b.runActions (c.traced disk) step.actions ⟨s, []⟩).2.turns := by
      rw [hactions]
      exact runActions_watched method actions s
    rwa [h] at hbegins
  fun_induction rounds b c disk step budget s with
  | case1 budget s e x h => exact ⟨nofun, List.forall_mem_singleton.2 (hround h)⟩
  | case2 budget s x h => exact ⟨nofun, List.forall_mem_singleton.2 (hround h)⟩
  | case3 s code x h => exact ⟨nofun, List.forall_mem_singleton.2 (hround h)⟩
  | case4 s code x h hne budget ih => exact ⟨nofun, List.forall_mem_cons.2 ⟨hround h, ih.2⟩⟩

section
variable (disk) (hskip : b.rules.skip = false) (hdir : b.rules.cleanOutput = some dir) (step : Step) (retry : Nat)
include hskip hdir

theorem turns_of_not_cleared {e : DiskError} (h : (c.clear dir s).1 = some e) :
    b.run c step retry s = (.error (.cleanOutput dir e), (c.clear dir s).2) ∧
      b.turns c disk step retry s = [⟨disk s, .cleared dir (some e), disk (c.clear dir s).2⟩] := by
  constructor
  · rw [run, if_neg (by simp [hskip]), clearOutput, hdir]
    dsimp only
    generalize c.clear dir s = cleared at h
    obtain ⟨_, s₁⟩ := cleared
    cases h
    rfl
  · rw [turns, run, if_neg (by simp [hskip]), clearOutput, hdir]
    simp [Crew.traced, h]

theorem turns_of_cleared (h : (c.clear dir s).1 = none) : ∃ ending, (∀ t ∈ ending, t.what.isClosing = true) ∧
      b.turns c disk step retry s = ⟨disk s, .cleared dir none, disk (c.clear dir s).2⟩ ::
        ((b.rounds c disk step retry (c.clear dir s).2).flatten ++ ending) := by
  let first : Turn := ⟨disk s, .cleared dir none, disk (c.clear dir s).2⟩
  have hclear : b.clearOutput (c.traced disk) ⟨s, []⟩ = (none, ⟨(c.clear dir s).2, [first]⟩) := by
    rw [clearOutput, hdir]
    simp [Crew.traced, h, first]
  have hturns := attempt_rounds b c disk step retry 0 (c.clear dir s).2 [first]
  unfold turns
  rw [run, if_neg (by simp [hskip]), hclear]
  dsimp only
  generalize b.attempt (c.traced disk) step retry 0 ⟨(c.clear dir s).2, [first]⟩ = outcome at hturns
  obtain ⟨answer, x⟩ := outcome
  have hlast (y : Traced σ) (hy : y.turns = x.turns) : ∃ ending, (∀ t ∈ ending, t.what.isClosing = true) ∧
      (b.dumpLog (c.traced disk) y).turns =
        first :: ((b.rounds c disk step retry (c.clear dir s).2).flatten ++ ending) := by
    obtain ⟨ending, heq, hending⟩ := dumpLog_turns b c disk y
    refine ⟨ending, hending, ?_⟩
    rw [heq, hy, hturns]
    rfl
  cases answer with
  | error e => exact hlast x rfl
  | ok last =>
    obtain ⟨code, attempts⟩ := last
    dsimp only
    split_ifs
    · exact ⟨[], List.forall_mem_nil _, by simpa [Crew.traced] using hturns⟩
    · exact hlast _ rfl

section
variable {disk} (hc : c.Handles disk shown going) (hgoing : going (b.run c step retry s).2)
include hc hgoing

theorem makeEmpty_of_run : (disk s).makeEmpty dir = ((c.clear dir s).1, disk (c.clear dir s).2) := by
  obtain ⟨-, hfits⟩ := turns_told hc step retry s hgoing
  cases h : (c.clear dir s).1 with
  | none =>
    obtain ⟨ending, -, hturns⟩ := turns_of_cleared disk hskip hdir step retry h
    exact hfits ⟨disk s, .cleared dir none, disk (c.clear dir s).2⟩ (hturns ▸ List.mem_cons_self)
  | some e =>
    obtain ⟨-, hturns⟩ := turns_of_not_cleared disk hskip hdir step retry h
    exact hfits ⟨disk s, .cleared dir (some e), disk (c.clear dir s).2⟩ (hturns ▸ List.mem_cons_self)

variable (hs : (disk s).Sound) (htext : dir.text ≠ "") (hup : .up ∉ dir.components)
include hs htext hup

theorem run_blocked {l : Location} {id : FileId} (hpre : l <+: (disk s).place dir)
    (hfile : Disk.entry? (disk s) l = some (.file id)) : ∃ e,
      (b.run c step retry s).1 = .error (.cleanOutput dir e) ∧
      b.turns c disk step retry s = [⟨disk s, .cleared dir (some e), disk s⟩] ∧
      disk (b.run c step retry s).2 = disk s := by
  obtain ⟨e, hblocked⟩ := Disk.makeEmpty_blocked hs hup hpre hfile htext
  have hempty := makeEmpty_of_run hskip hdir step retry hc hgoing
  obtain ⟨hclear, hdisk⟩ := Prod.mk.inj (hempty.symm.trans hblocked)
  obtain ⟨hrun, hturns⟩ := turns_of_not_cleared disk hskip hdir step retry hclear
  rw [hrun, hturns, hdisk]
  exact ⟨e, rfl, rfl, rfl⟩

theorem run_cleared (h : (c.clear dir s).1 = none) :
    b.Cleans dir (b.rounds c disk step retry (c.clear dir s).2) (disk s) (disk (c.clear dir s).2)
      (disk (b.run c step retry s).2) (b.turns c disk step retry s) := by
  obtain ⟨hlinks, hfits⟩ := turns_told hc step retry s hgoing
  obtain ⟨ending, hending, hturns⟩ := turns_of_cleared disk hskip hdir step retry h
  obtain ⟨error, rest, hjournal, hquiet, -⟩ := journal_run hskip c step retry s
  have hempty : (disk s).makeEmpty dir = (none, disk (c.clear dir s).2) :=
    h ▸ makeEmpty_of_run hskip hdir step retry hc hgoing
  obtain ⟨hnonempty, hwatched⟩ := rounds_watched b c disk step retry (c.clear dir s).2
  -- nothing is emptied after the first turn
  have honce : ∀ t ∈ (b.turns c disk step retry s).tail, t.what.isClear = false := by
    intro t ht
    rw [hdir] at hjournal
    have htail : (b.turns c disk step retry s).tail.map Turn.what = rest := by
      rw [List.map_tail, (run_traced b c disk step retry s).2.2, hjournal]
      rfl
    exact hquiet _ (htail ▸ List.mem_map_of_mem ht)
  refine ⟨⟨ending, hturns, hending⟩, hlinks, Disk.makeEmpty_clears hs hup htext hempty, hnonempty, hwatched, honce,
    fun earlier between later hsplit hnone => ?_⟩
  have hlater : Links (disk (c.clear dir s).2) (earlier ++ between ++ later) (disk (b.run c step retry s).2) := by
    rw [← hsplit]
    rw [hturns] at hlinks ⊢
    exact hlinks.2
  obtain ⟨e', hbefore, hafter⟩ := links_append.1 hlater
  obtain ⟨e, hearlier, hbetween⟩ := links_append.1 hbefore
  refine ⟨e, e', hearlier, hbetween, hafter, hbetween.keeps fun t ht => ?_⟩
  have htail : t ∈ (b.turns c disk step retry s).tail := by
    rw [hsplit]
    simp [ht]
  exact (hfits t (List.mem_of_mem_tail htail)).keeps (honce t htail) (hnone t ht)

end
end

theorem run_skipped (c : Crew σ) (disk : σ → Disk) (hskip : b.rules.skip = true) (step : Step) (retry : Nat) (s : σ) :
    (b.run c step retry s).1 = .ok ⟨step, 0, true⟩ ∧ b.turns c disk step retry s = [] := by
  rw [turns, run, run, if_pos hskip, if_pos hskip]
  exact ⟨rfl, rfl⟩

/-- The output directory of a run is emptied once, before all else, or nothing is done. -/
theorem run_cleans (hc : c.Handles disk shown going) (hs : (disk s).Sound) (step : Step) (retry : Nat)
    (hgoing : going (b.run c step retry s).2) :
    (b.rules.skip = true → (b.run c step retry s).1 = .ok ⟨step, 0, true⟩ ∧ b.turns c disk step retry s = [] ∧
      disk (b.run c step retry s).2 = disk s) ∧
    ∀ dir, b.rules.skip = false → b.rules.cleanOutput = some dir → dir.text ≠ "" → .up ∉ dir.components →
      ((∃ l id, l <+: (disk s).place dir ∧ Disk.entry? (disk s) l = some (.file id)) →
        ∃ e, (b.run c step retry s).1 = .error (.cleanOutput dir e) ∧
          b.turns c disk step retry s = [⟨disk s, .cleared dir (some e), disk s⟩] ∧
          disk (b.run c step retry s).2 = disk s) ∧
      (NotCleaning (b.run c step retry s).1 →
        b.Cleans dir (b.rounds c disk step retry (c.clear dir s).2) (disk s) (disk (c.clear dir s).2)
          (disk (b.run c step retry s).2) (b.turns c disk step retry s)) := by
  constructor
  · intro hskip
    obtain ⟨hanswer, hturns⟩ := run_skipped c disk hskip step retry s
    have hlinks := (turns_told hc step retry s hgoing).1
    rw [hturns] at hlinks
    exact ⟨hanswer, hturns, hlinks⟩
  · intro dir hskip hdir htext hup
    constructor
    · rintro ⟨l, id, hpre, hfile⟩
      exact run_blocked hskip hdir step retry hc hgoing hs htext hup hpre hfile
    · intro hanswer
      cases hclear : (c.clear dir s).1 with
      | none => exact run_cleared hskip hdir step retry hc hgoing hs htext hup hclear
      | some e =>
        have hrun := (turns_of_not_cleared disk hskip hdir step retry hclear).1
        exact absurd (congrArg Prod.fst hrun) (hanswer dir e)

theorem run_cleans_old_output :
    let b : Build := ⟨⟨"engine", ⟨"project"⟩, "", .ios, ⟨"log"⟩, []⟩, {}, { cleanOutput := some ⟨"out"⟩ }⟩
    let old : Disk := ⟨[(["out", "old"], .file 0), (["out"], .directory)], [(0, [])], 1, []⟩
    let file : Disk := ⟨[(["out"], .file 0)], [(0, [])], 1, []⟩
    let script := [{ deeds := [.change (.write ⟨"out/new"⟩ [120])], code := 3 }]
    let r : Rehearsal := { site := { disk := old }, script }
    let q : Rehearsal := { site := { disk := file }, script }
    let run := b.run Rehearsal.crew .refreshUIAtlas 1
    (run r).2.breakdown = none ∧ (run q).2.breakdown = none ∧
      (run r).1 = .ok ⟨.refreshUIAtlas, 2, false⟩ ∧
      (run r).2.site.disk.seen ["out", "old"] = none ∧
      (run r).2.site.disk.seen ["out", "new"] = some (some [120]) ∧
      b.Cleans ⟨"out"⟩ (b.rounds Rehearsal.crew (·.site.disk) .refreshUIAtlas 1 (Rehearsal.crew.clear ⟨"out"⟩ r).2)
        old (Rehearsal.crew.clear ⟨"out"⟩ r).2.site.disk (run r).2.site.disk
        (b.turns Rehearsal.crew (·.site.disk) .refreshUIAtlas 1 r) ∧
      (∃ e, (run q).1 = .error (.cleanOutput ⟨"out"⟩ e)) ∧ (run q).2.site.disk = file := by
  intro b old file script r q run
  have hfile : file.Sound := by
    have hnew : (Disk.create {} ([] ++ ["out"])).2.Sound := Disk.sound_empty.create rfl rfl
    exact hnew
  have hold : old.Sound := by
    have hout : (Disk.put {} ([] ++ ["out"]) .directory).Sound := Disk.sound_empty.put rfl rfl nofun
    have hnew : (Disk.create (Disk.put {} ([] ++ ["out"]) .directory) (["out"] ++ ["old"])).2.Sound :=
      hout.create (by decide +kernel) (by decide +kernel)
    exact hnew
  have hr : (run r).2.breakdown = none := by decide +kernel
  have hq : (run q).2.breakdown = none := by decide +kernel
  have hanswer : (run r).1 = .ok ⟨.refreshUIAtlas, 2, false⟩ := by decide +kernel
  have hup : Path.Component.up ∉ Path.components ⟨"out"⟩ := by decide +kernel
  have hcleans := (run_cleans Rehearsal.crew_handles hold .refreshUIAtlas 1 hr).2 ⟨"out"⟩ rfl rfl (by decide) hup
  have hblocked := (run_cleans Rehearsal.crew_handles hfile .refreshUIAtlas 1 hq).2 ⟨"out"⟩ rfl rfl (by decide) hup
  obtain ⟨e, hfailed, -, hsame⟩ := hblocked.1 ⟨["out"], 0, by decide +kernel, by decide +kernel⟩
  have hpast : NotCleaning (run r).1 := hanswer ▸ .of_ok _
  exact ⟨hr, hq, hanswer, by decide +kernel, by decide +kernel, hcleans.2 hpast, ⟨e, hfailed⟩, hsame⟩

end Build
end Foreman
