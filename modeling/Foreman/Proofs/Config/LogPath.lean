import Foreman.Config.Settings
import Foreman.Proofs.Text.Splitting
import Mathlib.Tactic.SplitIfs
import Mathlib.Tactic.Tauto

/-! Which log file a configuration ends up with, and who may share it. A user and a job have a log of their own
below the directory for temporary files. -/

namespace Foreman

namespace Path

def OneWord (p : Path) : Prop := p.text ≠ "" ∧ ' ' ∉ p.text.toList

theorem mem_join {p q : Path} {c : Char} (hc : c ≠ '/') :
    c ∈ (p.join q).text.toList ↔ c ∈ q.text.toList ∨ ¬ q.isAbsolute ∧ c ∈ p.text.toList := by
  unfold join
  split_ifs with hq
  · simp [hq]
  · split <;> simp_all [or_comm]

/-- What an entry of a directory can be called. -/
def IsName (s : String) : Prop := '/' ∉ s.toList ∧ s ∉ ["", ".", ".."]

namespace IsName
variable {s : String}

theorem toList_ne (h : IsName s) : s.toList ≠ [] ∧ s.toList ≠ ['.'] ∧ s.toList ≠ ['.', '.'] := by
  have hs := h.2
  simp only [List.mem_cons, List.not_mem_nil, or_false, not_or, ← String.toList_inj] at hs
  exact hs

theorem component? (h : IsName s) : component? s.toList = some (.name s) := by
  obtain ⟨hempty, hdot, hdots⟩ := h.toList_ne
  unfold Path.component?
  split
  · exact absurd ‹_› hempty
  · exact absurd ‹_› hdot
  · exact absurd ‹_› hdots
  · rw [String.ofList_toList]

theorem of_mem {c : Char} (hslash : '/' ∉ s.toList) (hc : c ∈ s.toList) (hdot : c ≠ '.') : IsName s := by
  refine ⟨hslash, fun hs => ?_⟩
  simp only [List.mem_cons, List.not_mem_nil, or_false] at hs
  obtain rfl | rfl | rfl := hs <;> simp [hdot] at hc

theorem relative (h : IsName s) : isAbsolute ⟨s⟩ = false := by
  have hhead : s.toList.head? ≠ some '/' := fun hs => h.1 (List.mem_of_mem_head? hs)
  simpa [isAbsolute] using hhead

theorem components (h : IsName s) : components ⟨s⟩ = [.name s] := by
  have hpieces : Text.splitAt '/' s.toList = [s.toList] := by
    rw [Text.splitAt_eq_splitOn, List.splitOn_eq_singleton h.1]
  simp [Path.components, h.relative, hpieces, h.component?, h.toList_ne]

end IsName

theorem components_of_pieces {p q : Path} {above : List (List Char)} {piece : List Char}
    (habsolute : q.isAbsolute = p.isAbsolute) (hne : above ≠ [])
    (hq : Text.splitAt '/' q.text.toList = above ++ [piece])
    (hp : Text.splitAt '/' p.text.toList = above ∨ Text.splitAt '/' p.text.toList = above ++ [[]]) :
    q.components = p.components ++ (component? piece).toList := by
  obtain ⟨first, above, rfl⟩ := List.exists_cons_of_ne_nil hne
  have hlast : [piece].filterMap component? = (component? piece).toList := by
    cases h : component? piece <;> simp [h]
  have hpieces : (Text.splitAt '/' p.text.toList).filterMap component? = (first :: above).filterMap component? := by
    obtain hp | hp := hp
    · rw [hp]
    · rw [hp, List.filterMap_append]
      exact List.append_nil _
  have hhead : (Text.splitAt '/' p.text.toList).head? = some first := by
    obtain hp | hp := hp <;> rw [hp] <;> rfl
  unfold components
  dsimp only
  rw [habsolute, hq, hpieces, hhead, List.filterMap_append, hlast, ← List.append_assoc]
  rfl

theorem components_join (p : Path) {s : String} (h : IsName s) :
    (p.join ⟨s⟩).components = p.components ++ [.name s] := by
  have hname : [Component.name s] = (component? s.toList).toList := by
    rw [h.component?]
    rfl
  have hpiece : s.toList.splitOn '/' = [s.toList] := List.splitOn_eq_singleton h.1
  unfold join
  rw [if_neg (by simp [h.relative])]
  obtain hp | ⟨body, c, hp⟩ := p.text.toList.eq_nil_or_concat
  · have hnone : p.components = [] := by
      simp [components, isAbsolute, hp, Text.splitAt, Path.component?]
    simp [hp, hnone, h.components]
  · have hlast : p.text.toList.getLast? = some c := by simp [hp]
    rw [hlast, hname]
    -- a slash is there already, or is put between
    by_cases hc : c = '/'
    · subst hc
      refine components_of_pieces ?_ (List.splitOn_ne_nil '/' body) ?_ (.inr ?_)
      · simp [isAbsolute, hp]
      · simp [hp, Text.splitAt_eq_splitOn, List.splitOn_append_cons_self, hpiece]
      · simp [hp, Text.splitAt_eq_splitOn, List.splitOn_append_cons_self]
    · refine components_of_pieces ?_ (List.splitOn_ne_nil '/' p.text.toList) ?_ (.inl ?_)
      · simp [isAbsolute, hp]
      · simp [Text.splitAt_eq_splitOn, List.splitOn_append_cons_self, hpiece]
      · rw [Text.splitAt_eq_splitOn]

end Path

namespace Config
variable {temp : Path} {env : Environment} {d d' : Draft} {settings : Settings}

theorem overlayPlatform_engine (h : overlayPlatform env d = .ok d') :
    ∃ platform, d'.engine = { d.engine with platform } := by
  unfold overlayPlatform at h
  split at h
  · cases h
    exact ⟨d.engine.platform, rfl⟩
  · split at h
    · cases h
    · cases h
      exact ⟨_, rfl⟩

theorem overlayHang_engine (h : overlayHang env d = .ok d') : d'.engine = d.engine := by
  unfold overlayHang at h
  split at h
  · cases h
    rfl
  · split at h
    · cases h
    · cases h
    · split at h
      · cases h
      · cases h
        rfl

theorem overlayRetry_engine (h : overlayRetry env d = .ok d') : d'.engine = d.engine := by
  unfold overlayRetry at h
  split at h
  · cases h
    rfl
  · split at h
    · cases h
    · cases h
      rfl

theorem overlay_engine (h : overlay env d = .ok d') : ∃ platform, d'.engine = { d.engine with platform } := by
  have hskip : (overlaySkip env d).engine = d.engine := by
    unfold overlaySkip
    split <;> rfl
  have hclean : (overlayClean env (overlaySkip env d)).engine = d.engine := by
    unfold overlayClean
    split
    · split_ifs <;> exact hskip
    · exact hskip
  unfold overlay at h
  split at h
  · cases h
  · rename_i d₁ hplatform
    split at h
    · cases h
    · rename_i d₂ hhang
      obtain ⟨platform, hd₁⟩ := overlayPlatform_engine hplatform
      rw [overlayRetry_engine h, overlayHang_engine hhang, hd₁, hclean]
      exact ⟨platform, rfl⟩

theorem check_logFile (h : d.check temp = .ok settings) :
    settings.engine.logFile = d.engine.logFile.getD (fallbackLogPath temp) := by
  unfold Draft.check at h
  cases hengine : checkEngine d.engine with
  | error e =>
    rw [hengine] at h
    cases h
  | ok u =>
    cases hwatch : checkWatchdog d.watchdog with
    | error e =>
      rw [hengine, hwatch] at h
      cases h
    | ok rules =>
      rw [hengine, hwatch] at h
      cases h
      rfl

theorem finish_logFile (h : d.finish temp env = .ok settings) :
    settings.engine.logFile = d.engine.logFile.getD (defaultLogPath temp env) := by
  unfold Draft.finish at h
  cases hd : overlay env d with
  | error e =>
    rw [hd] at h
    cases h
  | ok d₁ =>
    rw [hd] at h
    obtain ⟨platform, hengine⟩ := overlay_engine hd
    rw [check_logFile h, Draft.withLogFile, hengine]
    rfl

theorem defaultLogPath_oneWord : (defaultLogPath temp env).OneWord ↔
    ' ' ∉ (effectiveUser env).toList ∧ ' ' ∉ ((env "JOB_NAME").getD "").toList ∧
      ((Path.mk (effectiveUser env)).isAbsolute ∨ ' ' ∉ temp.text.toList) := by
  have hdot : '.' ∈ (defaultLogPath temp env).text.toList := (Path.mem_join (by decide)).2 (.inl (by simp))
  have hne : (defaultLogPath temp env).text ≠ "" := by
    intro h
    simp [h] at hdot
  generalize hjob : (env "JOB_NAME").getD "" = job
  generalize huser : effectiveUser env = user
  have hfile : (Path.mk ("engine_build" ++ job ++ ".log")).isAbsolute = false := by simp [Path.isAbsolute]
  -- Of an absolute name nothing is joined to what stands before it.
  have hdir : ∀ rest : String, (Path.mk (user ++ "_" ++ rest)).isAbsolute = (Path.mk user).isAbsolute := by
    intro rest
    simp only [Path.isAbsolute, String.toList_append]
    cases user.toList <;> simp
  have hfileSpace : ' ' ∈ ("engine_build" ++ job ++ ".log").toList ↔ ' ' ∈ job.toList := by simp
  have hdirSpace : ' ' ∈ (user ++ "_" ++ if job = "" then "local" else job).toList ↔
      ' ' ∈ user.toList ∨ ' ' ∈ job.toList := by
    by_cases h : job = "" <;> simp [h]
  rw [Path.OneWord, and_iff_right hne, defaultLogPath, hjob, huser, Path.mem_join (by decide),
    Path.mem_join (by decide), hfile, hdir, hfileSpace, hdirSpace]
  grind

structure SlashFree (env : Environment) : Prop where
  user : '/' ∉ (effectiveUser env).toList
  job : '/' ∉ ((env "JOB_NAME").getD "").toList

def jobDirectory (user job : String) : String := user ++ "_" ++ if job = "" then "local" else job

def jobFile (job : String) : String := "engine_build" ++ job ++ ".log"

theorem isName_jobDirectory {user job : String} (huser : '/' ∉ user.toList) (hjob : '/' ∉ job.toList) :
    Path.IsName (jobDirectory user job) := by
  have hslash : '/' ∉ (if job = "" then "local" else job).toList := by
    split_ifs
    · decide
    · exact hjob
  refine .of_mem (c := '_') ?_ ?_ (by decide)
  · simp [jobDirectory, huser, hslash]
  · simp [jobDirectory]

theorem isName_jobFile {job : String} (hjob : '/' ∉ job.toList) : Path.IsName (jobFile job) := by
  refine .of_mem (c := 'e') ?_ ?_ (by decide)
  · simp [jobFile, hjob]
  · simp [jobFile]

theorem jobFile_injective : Function.Injective jobFile := by
  intro job job' h
  have hchars := congrArg String.toList h
  simp only [jobFile, String.toList_append, List.append_assoc, List.append_cancel_left_eq,
    List.append_cancel_right_eq] at hchars
  exact String.toList_inj.1 hchars

theorem jobDirectory_injective (job : String) : Function.Injective (jobDirectory · job) := by
  intro user user' h
  have hchars := congrArg String.toList h
  simp only [jobDirectory, String.toList_append, List.append_cancel_right_eq] at hchars
  exact String.toList_inj.1 hchars

theorem defaultLogPath_components (temp : Path) (h : SlashFree env) :
    (defaultLogPath temp env).components = temp.components ++
      [.name (jobDirectory (effectiveUser env) ((env "JOB_NAME").getD "")),
        .name (jobFile ((env "JOB_NAME").getD ""))] := by
  have hdirectory := temp.components_join (isName_jobDirectory h.user h.job)
  have hfile := Path.components_join (temp.join ⟨jobDirectory (effectiveUser env) ((env "JOB_NAME").getD "")⟩)
    (isName_jobFile h.job)
  rw [hdirectory, List.append_assoc] at hfile
  exact hfile

theorem components_eq_iff (temp : Path) {other : Environment} (h : SlashFree env) (h' : SlashFree other) :
    (defaultLogPath temp env).components = (defaultLogPath temp other).components ↔
      effectiveUser env = effectiveUser other ∧ (env "JOB_NAME").getD "" = (other "JOB_NAME").getD "" := by
  rw [defaultLogPath_components temp h, defaultLogPath_components temp h', List.append_cancel_left_eq]
  simp only [List.cons.injEq, Path.Component.name.injEq, and_true]
  constructor
  · rintro ⟨hdirectory, hfile⟩
    -- the directory alone would leave open where the user ends and the job begins
    have hjob := jobFile_injective hfile
    rw [hjob] at hdirectory
    exact ⟨jobDirectory_injective _ hdirectory, hjob⟩
  · rintro ⟨huser, hjob⟩
    rw [huser, hjob]
    exact ⟨rfl, rfl⟩

/-- Two users or two jobs never share a log, and to have no job is not to have one that is called like the directory
of those who have none. -/
theorem defaultLogPath_own (temp : Path) {other : Environment} (h : SlashFree env) (h' : SlashFree other) :
    (∃ directory file, (defaultLogPath temp env).components = temp.components ++ [.name directory, .name file]) ∧
    ((defaultLogPath temp env).same (defaultLogPath temp other) = true ↔
      effectiveUser env = effectiveUser other ∧ (env "JOB_NAME").getD "" = (other "JOB_NAME").getD "") ∧
    (defaultLogPath temp env = defaultLogPath temp other ↔
      effectiveUser env = effectiveUser other ∧ (env "JOB_NAME").getD "" = (other "JOB_NAME").getD "") ∧
    ¬ (env "JOB_NAME" = none ∧ other "JOB_NAME" = some "local" ∧
      (defaultLogPath temp env).same (defaultLogPath temp other) = true) := by
  have hsame : (defaultLogPath temp env).same (defaultLogPath temp other) = true ↔
      effectiveUser env = effectiveUser other ∧ (env "JOB_NAME").getD "" = (other "JOB_NAME").getD "" := by
    rw [Path.same, beq_iff_eq, components_eq_iff temp h h']
  refine ⟨⟨_, _, defaultLogPath_components temp h⟩, hsame, ⟨fun heq => ?_, fun heq => ?_⟩, ?_⟩
  · exact (components_eq_iff temp h h').1 (congrArg Path.components heq)
  · unfold defaultLogPath
    rw [heq.1, heq.2]
  · rintro ⟨hnone, hlocal, hshared⟩
    have hjob := (hsame.1 hshared).2
    rw [hnone, hlocal] at hjob
    exact absurd hjob (by decide)

theorem defaultLogPath_own_underscore :
    let env : Environment := fun name =>
      if name = "USER" then some "ci" else if name = "JOB_NAME" then some "ios_nightly" else none
    let other : Environment := fun name =>
      if name = "USERNAME" then some "ci_ios" else if name = "JOB_NAME" then some "nightly" else none
    SlashFree env ∧ SlashFree other ∧
      jobDirectory "ci" "ios_nightly" = jobDirectory "ci_ios" "nightly" ∧
      (defaultLogPath ⟨"/tmp"⟩ env).same (defaultLogPath ⟨"/tmp"⟩ other) = false := by
  intro env other
  have h : SlashFree env := ⟨by decide, by decide⟩
  have h' : SlashFree other := ⟨by decide, by decide⟩
  refine ⟨h, h', by decide, ?_⟩
  rw [← Bool.not_eq_true, (defaultLogPath_own ⟨"/tmp"⟩ h h').2.1]
  decide

end Config
end Foreman
