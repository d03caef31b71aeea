import Foreman.Build.Run
import Foreman.Build.Rehearsal
import Foreman.Proofs.Build.Record
import Foreman.Proofs.Config.LogPath
import Foreman.Proofs.Command.Words

/-! The engine is told on its command line which log to write, and the watchdog is given a path. The two agree
as long as the path is one word of the line. -/

namespace Foreman
open Config Command Watch

theorem optionValue?_append {option : String} {lead : List String} (h : option ∉ lead) (rest : List String) :
    optionValue? option (lead ++ option :: rest) = rest.head? := by
  induction lead with
  | nil => simp [optionValue?]
  | cons a lead ih =>
    rw [List.mem_cons, not_or] at h
    rw [List.cons_append, optionValue?, if_neg (Ne.symm h.1), ih h.2]

namespace Engine
variable (e : Engine) (method : String)

/-- What the engine finds on its command line as the name of its log. -/
def namedLog : Option String := optionValue? "-logFile" (received (e.invocation method).commandLine)

def wordsBefore : List String :=
  (interpreter e.binary).toList ++ received e.binary ++
    (["-batchmode", "-quit", "-projectPath"] ++ pieces e.projectPath.text ++ ["-executeMethod"] ++
      pieces (e.methodPrefix ++ method) ++ ["-buildTarget", e.platform.buildTarget, "-nographics"])

theorem received_invocation : received (e.invocation method).commandLine =
    e.wordsBefore method ++ "-logFile" ::
      (pieces e.logFile.text ++ (e.extraArgs.flatMap fun x => [x.1, x.2]).flatMap pieces) := by
  have htarget : pieces e.platform.buildTarget = [e.platform.buildTarget] := by
    cases e.platform <;> decide
  have hline : (e.invocation method).commandLine = line e.binary (e.arguments method) := rfl
  rw [hline, received_line, arguments]
  simp (disch := decide) only [wordsBefore, pieces_of_word, htarget, List.flatMap_cons, List.append_assoc,
    List.cons_append, List.nil_append]

theorem notMem_wordsBefore (hprogram : "-logFile" ∉ pieces e.binary)
    (hproject : "-logFile" ∉ pieces e.projectPath.text)
    (hmethod : "-logFile" ∉ pieces (e.methodPrefix ++ method)) : "-logFile" ∉ e.wordsBefore method := by
  have hinterpreter : "-logFile" ∉ (interpreter e.binary).toList := by
    unfold interpreter
    split_ifs <;> decide
  have hreceived : "-logFile" ∉ received e.binary := by
    intro h
    obtain ⟨w, hw, heq⟩ := List.mem_map.1 h
    rw [(unescape_eq_iff (by decide) (by decide)).1 heq] at hw
    exact hprogram hw
  have htarget : "-logFile" ≠ e.platform.buildTarget := by
    cases e.platform <;> decide
  simp [wordsBefore, hinterpreter, hreceived, hproject, hmethod, htarget]

/-- Unless an earlier word is that option already, the engine finds the path of its log if and only if that path
is one word. -/
theorem namedLog_iff (h : "-logFile" ∉ e.wordsBefore method) :
    e.namedLog method = some e.logFile.text ↔ e.logFile.OneWord := by
  have hmore : ∀ w ∈ (e.extraArgs.flatMap fun x => [x.1, x.2]).flatMap pieces, w ≠ "" ∧ ' ' ∉ w.toList := by
    intro w hw
    obtain ⟨text, -, hw⟩ := List.mem_flatMap.1 hw
    exact of_mem_pieces hw
  rw [namedLog, received_invocation, optionValue?_append h, head?_pieces_iff hmore, Path.OneWord]

end Engine

namespace Build
variable {σ : Type} {b : Build} {temp : Path} {env : Environment} {d : Draft} {settings : Settings}

theorem ofSettings_logFile (h : ofSettings settings = .ok b) : b.engine.logFile = settings.engine.logFile := by
  unfold ofSettings at h
  split at h
  · cases h
  · rename_i engine hengine
    cases h
    unfold Engine.ofSettings at hengine
    split at hengine
    · cases hengine
    · cases hengine
    · cases hengine
      rfl

def Watches (log : Path) (i : Invocation) (events : List Event) : Prop :=
  (∃ e, events = [.started log (some e)]) ∨
    ∃ before after report, events = [.started log none, .ran i before after, .stopped report]

theorem callEngine_watches (b : Build) (c : Crew σ) (site : σ → Site) (method : String) (s : σ) :
    Watches b.engine.logFile (b.engine.invocation method)
      (b.callEngine (c.recorded site) method { inner := s }).2.events := by
  unfold callEngine watched
  simp only [Crew.recorded]
  cases c.startWatch b.watch b.engine.logFile s with
  | mk refusal s₁ =>
    cases refusal with
    | some e => exact .inl ⟨e, rfl⟩
    | none =>
      simp only
      generalize verdict _ _ = answer
      cases answer <;> exact .inr ⟨_, _, _, rfl⟩

/-- The engine is told to write the log that is watched if and only if the path of the log is one word. A path that
is made up is one as long as the names in it are. -/
theorem callEngine_log_named (hfinish : d.finish temp env = .ok settings) (hbuild : ofSettings settings = .ok b)
    (method : String) (hprogram : "-logFile" ∉ pieces b.engine.binary)
    (hproject : "-logFile" ∉ pieces b.engine.projectPath.text)
    (hmethod : "-logFile" ∉ pieces (b.engine.methodPrefix ++ method)) (c : Crew σ) (site : σ → Site) (s : σ) :
    b.engine.logFile = d.engine.logFile.getD (defaultLogPath temp env) ∧
    Watches b.engine.logFile (b.engine.invocation method)
      (b.callEngine (c.recorded site) method { inner := s }).2.events ∧
    (b.engine.namedLog method = some b.engine.logFile.text ↔ b.engine.logFile.OneWord) ∧
    ((defaultLogPath temp env).OneWord ↔
      ' ' ∉ (effectiveUser env).toList ∧ ' ' ∉ ((env "JOB_NAME").getD "").toList ∧
        ((Path.mk (effectiveUser env)).isAbsolute ∨ ' ' ∉ temp.text.toList)) := by
  have hlog : b.engine.logFile = d.engine.logFile.getD (defaultLogPath temp env) := by
    rw [ofSettings_logFile hbuild, finish_logFile hfinish]
  have hnamed := b.engine.namedLog_iff method (b.engine.notMem_wordsBefore method hprogram hproject hmethod)
  exact ⟨hlog, callEngine_watches b c site method s, hnamed, defaultLogPath_oneWord⟩

theorem callEngine_log_named_parentheses :
    let env := fun name => if name = "JOB_NAME" then some "nightly(2)" else none
    let d : Draft := { engine := { binary := some "engine.sh", platform := some .android } }
    let log : Path := ⟨"/tmp/user_nightly(2)/engine_buildnightly(2).log"⟩
    let settings : Settings := ⟨⟨some "engine.sh", ⟨"."⟩, "", some .android, log, "engine.sh", []⟩,
      ⟨.ofSeconds 3600, none, .ofSeconds 5, Watch.defaultSignatures, Watch.defaultMarkers⟩, {}⟩
    let b : Build := ⟨⟨"engine.sh", ⟨"."⟩, "", .android, log, []⟩, {}, {}⟩
    d.finish ⟨"/tmp"⟩ env = .ok settings ∧ ofSettings settings = .ok b ∧
      Watches log (b.engine.invocation "Build")
        (b.callEngine (Rehearsal.crew.recorded Rehearsal.site) "Build" { inner := { site := {} } }).2.events ∧
      b.engine.namedLog "Build" = some log.text := by
  intro env d log settings b
  have hfinish : d.finish ⟨"/tmp"⟩ env = .ok settings := by decide +kernel
  have hbuild : ofSettings settings = .ok b := rfl
  obtain ⟨hlog, hwatches, hnamed, hdefault⟩ := callEngine_log_named hfinish hbuild "Build"
    (by decide) (by decide) (by decide) Rehearsal.crew Rehearsal.site { site := {} }
  have hword : log.OneWord := by
    change log = _ at hlog
    rw [hlog]
    exact hdefault.2 (by decide)
  exact ⟨hfinish, hbuild, hwatches, hnamed.2 hword⟩

def logPaths (temp : Path) (env : Environment) (d : Draft) (method : String) :
    Except Problem (Path × Option String) := do
  let settings ← d.finish temp env
  let b ← ofSettings settings
  .ok (b.engine.logFile, b.engine.namedLog method)

/-- A job with a space in its name, a log without a name, and a project with the name of the option. -/
theorem logPaths_differ :
    let job := fun name => if name = "JOB_NAME" then some "my job" else none
    let engine : EngineDraft := { binary := some "engine.sh", platform := some .android }
    logPaths ⟨"/tmp"⟩ job { engine } "Build" =
      .ok (⟨"/tmp/user_my job/engine_buildmy job.log"⟩, some "/tmp/user_my") ∧
    logPaths ⟨"/tmp"⟩ job { engine := { engine with logFile := some ⟨""⟩ } } "Build" = .ok (⟨""⟩, none) ∧
    logPaths ⟨"/tmp"⟩ job { engine := { engine with logFile := some ⟨"log"⟩, projectPath := ⟨"-logFile"⟩ } }
      "Build" = .ok (⟨"log"⟩, some "-executeMethod") := by
  simp only [logPaths, Engine.namedLog, Engine.received_invocation]
  decide +kernel

end Build
end Foreman
