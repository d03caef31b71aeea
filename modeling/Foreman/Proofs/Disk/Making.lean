import Foreman.Proofs.Disk.Ways
import Foreman.Watch.Cursor

/-! What is made on a disk: directories on the way of a path, and an empty file at its end. -/

namespace Foreman.Disk
open Watch (Ensured ensureLog)

/-- From `d` to `d'` only directories were made, on the way that the components take. -/
structure Builds (cs : List Path.Component) (d d' : Disk) : Prop where
  same : d' = { d with entries := d'.entries }
  entry : ∀ l e, d.entry? l = some e → d'.entry? l = some e
  made : ∀ l e, d'.entry? l = some e → d.entry? l = none →
    e = .directory ∧ ∃ above, above ≠ [] ∧ above <+: cs ∧ d'.Leads above l
  sound : d.Sound → d'.Sound

structure Ends (d : Disk) (p : Path) (dir : Location) (name : String) : Prop where
  accepted : accepts p = .ok ()
  slash : ¬ p.endsInSlash = true
  size : ¬ 255 < name.utf8ByteSize
  way : ∃ above, p.steps = above ++ [.name name] ∧ d.walk (d.start p.steps) above = .ok dir
  directory : d.entry? dir = some .directory

/-- From `d` to `d'` a log was got ready at the path: what is new is a directory above it or an empty file. -/
structure Readies (p : Path) (d d' : Disk) : Prop where
  keeps : d.Keeps d'
  new : ∀ l e, d'.entry? l = some e → d.entry? l = none →
    (e = .directory ∧ ∃ above, above ≠ [] ∧ above <+: p.components.dropLast ∧ d'.Leads above l) ∨
    ((∃ id, e = .file id ∧ d'.content id = []) ∧ d'.locate p = .ok l)

variable {d d' d'' : Disk} {l m dir : Location} {e : Entry} {id : FileId} {p : Path}
  {cs cs' : List Path.Component}

namespace Builds

theorem keeps (h : d.Builds cs d') : d.Keeps d' := by
  have hsame := h.same
  refine ⟨?_, h.entry, fun id _ => ?_, ?_⟩
  · rw [hsame]
  · rw [hsame]
    rfl
  · rw [hsame]

theorem refl (cs : List Path.Component) (d : Disk) : d.Builds cs d where
  same := rfl
  entry := fun _ _ h => h
  made := fun l e he hnone => by
    rw [hnone] at he
    cases he
  sound := id

theorem trans (h : d.Builds cs d') (h' : d'.Builds cs d'') : d.Builds cs d'' where
  same := by
    rw [h'.same, h.same]
  entry := fun l e he => h'.entry l e (h.entry l e he)
  made := fun l e he hnone => by
    cases hmid : d'.entry? l with
    | none => exact h'.made l e he hmid
    | some e' =>
      obtain ⟨rfl, above, hne, hpre, hleads⟩ := h.made l e' hmid hnone
      rw [h'.entry l _ hmid] at he
      cases he
      exact ⟨rfl, above, hne, hpre, h'.keeps.leads hleads⟩
  sound := h'.sound ∘ h.sound

theorem mono (h : d.Builds cs d') (hpre : cs <+: cs') : d.Builds cs' d' where
  same := h.same
  entry := h.entry
  made := fun l e he hnone => by
    obtain ⟨hd, above, hne, habove, hleads⟩ := h.made l e he hnone
    exact ⟨hd, above, hne, habove.trans hpre, hleads⟩
  sound := h.sound

end Builds

theorem makeDirectory_eq_ok (h : d.makeDirectory cs = .ok d') : ∃ dir name, cs ≠ [] ∧ d.Leads cs (dir ++ [name]) ∧
    d.entry? dir = some .directory ∧ d.entry? (dir ++ [name]) = none ∧ d' = d.put (dir ++ [name]) .directory := by
  unfold makeDirectory at h
  cases hp : d.parent cs with
  | error e => simp [hp, bind, Except.bind] at h
  | ok x =>
    obtain ⟨dir, c⟩ := x
    obtain ⟨above, rfl, hwalk, hdir⟩ := parent_eq_ok hp
    simp only [hp, bind, Except.bind] at h
    cases c with
    | name s =>
      dsimp only at h
      split at h
      · cases h
      · rename_i hsize
        split at h
        · cases h
        · rename_i hnone
          cases h
          exact ⟨dir, s, by simp, leads_concat hwalk (follow_name hdir hsize), hdir, hnone, rfl⟩
    | root => cases h
    | here => cases h
    | up => cases h

theorem makeDirectory_builds (h : d.makeDirectory cs = .ok d') : d.Builds cs d' := by
  obtain ⟨dir, name, hne, hleads, hdir, hnone, rfl⟩ := makeDirectory_eq_ok h
  have hentry := d.entry?_put .directory (l := dir ++ [name]) (by simp)
  have hkept : ∀ l e, d.entry? l = some e → entry? (d.put (dir ++ [name]) .directory) l = some e := by
    intro l e he
    rw [hentry, if_neg, he]
    rintro rfl
    rw [hnone] at he
    cases he
  refine ⟨rfl, hkept, fun l e he hnone' => ?_, fun h => h.put hdir hnone nofun⟩
  rw [hentry] at he
  split_ifs at he with hl
  · subst hl
    cases he
    have hkeeps : d.Keeps (d.put (dir ++ [name]) .directory) :=
      ⟨rfl, hkept, fun _ _ => rfl, Nat.le_refl _⟩
    exact ⟨rfl, cs, hne, List.prefix_rfl, hkeeps.leads hleads⟩
  · rw [hnone'] at he
    cases he

theorem makeDirectories_cons (d : Disk) (c : Path.Component) (above : List Path.Component) :
    ∃ d₁, (d₁ = d ∨ d₁ = (d.makeDirectories above).2) ∧
      ((d.makeDirectories (c :: above)).2 = d₁ ∨
        d₁.makeDirectory (c :: above).reverse = .ok (d.makeDirectories (c :: above)).2) := by
  rw [makeDirectories]
  cases hmake : d.makeDirectory (c :: above).reverse with
  | ok d₁ => exact ⟨d, .inl rfl, .inr (by simpa using hmake)⟩
  | error e =>
    by_cases he : e = .notFound
    · subst he
      refine ⟨_, .inr rfl, ?_⟩
      generalize d.makeDirectories above = made
      obtain ⟨failure, d₁⟩ := made
      cases failure with
      | some e => exact .inl rfl
      | none =>
        dsimp only
        cases hagain : d₁.makeDirectory (c :: above).reverse with
        | ok d₂ => exact .inr rfl
        | error e => exact .inl rfl
    · refine ⟨d, .inl rfl, .inl ?_⟩
      simp only

theorem makeDirectories_builds (d : Disk) (reversed : List Path.Component) :
    d.Builds reversed.reverse (d.makeDirectories reversed).2 := by
  induction reversed with
  | nil => exact .refl _ d
  | cons c above ih =>
    have hpre : above.reverse <+: (c :: above).reverse := by
      rw [List.reverse_cons]
      exact List.prefix_append ..
    obtain ⟨d₁, hd₁, hlast⟩ := d.makeDirectories_cons c above
    have hbuilds : d.Builds (c :: above).reverse d₁ := by
      rcases hd₁ with rfl | rfl
      · exact .refl _ _
      · exact ih.mono hpre
    rcases hlast with heq | hmake
    · rwa [heq]
    · exact hbuilds.trans (makeDirectory_builds hmake)

/-! ### A file -/

theorem entry?_create (d : Disk) (hl : l ≠ []) (m : Location) :
    entry? (d.create l).2 m = if m = l then some (.file d.nextFile) else d.entry? m :=
  d.entry?_put (.file d.nextFile) hl m

theorem content_create (d : Disk) (l : Location) (id : FileId) :
    (d.create l).2.content id = if id = d.nextFile then [] else d.content id := by
  have heq : (d.create l).2.content id = ((d.put l (.file d.nextFile)).setContent d.nextFile []).content id := rfl
  rw [heq]
  split_ifs with hid
  · rw [hid, content_setContent]
  · rw [content_setContent_of_ne hid]
    rfl

theorem keeps_create (d : Disk) (hl : l ≠ []) (hnone : d.entry? l = none) : d.Keeps (d.create l).2 where
  home := rfl
  entry := fun m e he => by
    rw [entry?_create d hl, if_neg, he]
    rintro rfl
    rw [hnone] at he
    cases he
  content := fun id hid => by rw [content_create, if_neg (Nat.ne_of_lt hid)]
  nextFile := Nat.le_succ _

theorem Sound.create (h : d.Sound) {name : String} (hdir : d.entry? dir = some .directory)
    (hnone : d.entry? (dir ++ [name]) = none) : (d.create (dir ++ [name])).2.Sound := by
  -- the file takes the next number, so the disk is sound once that number counts as given out
  have hnumbered : Sound { d with nextFile := d.nextFile + 1 } :=
    ⟨fun l id hl => Nat.lt_succ_of_lt (h.numbered l id hl), h.rooted⟩
  have hput := hnumbered.put (e := .file d.nextFile) hdir hnone
    fun id hid => Entry.file.inj hid ▸ Nat.lt_succ_self _
  exact ⟨hput.numbered, hput.rooted⟩

theorem Ends.locate {name : String} (h : d.Ends p dir name) : d.locate p = .ok (dir ++ [name]) := by
  obtain ⟨above, hsteps, hwalk⟩ := h.way
  have hroute : route p = above ++ [.name name] := by rw [route, if_neg h.slash, hsteps]
  rw [Disk.locate, h.accepted, hroute]
  rw [hsteps] at hwalk
  exact leads_concat hwalk (follow_name h.directory h.size)

theorem Ends.of_directories {name : String} (h : d'.Ends p dir name) (hup : .up ∉ p.components)
    (hhome : d'.home = d.home) (hdir : ∀ a, a <+: dir → d.entry? a = some .directory) : d.Ends p dir name := by
  obtain ⟨above, hsteps, hwalk⟩ := h.way
  refine ⟨h.accepted, h.slash, h.size, ⟨above, hsteps, ?_⟩, hdir dir List.prefix_rfl⟩
  have hdescends : Descends p.steps := .steps hup
  rw [hsteps] at hwalk hdescends ⊢
  exact hdescends.walk_above hwalk hhome hdir

theorem openOrCreate_eq_ok (h : d.openOrCreate p = .ok (id, d')) : ∃ dir name, d.Ends p dir name ∧
    (d.entry? (dir ++ [name]) = some (.file id) ∧ d' = d ∨
      d.entry? (dir ++ [name]) = none ∧ id = d.nextFile ∧ d' = (d.create (dir ++ [name])).2) := by
  unfold openOrCreate at h
  cases ha : accepts p with
  | error e => simp [ha, bind, Except.bind] at h
  | ok u =>
    cases hp : d.parent p.steps with
    | error e => simp [ha, hp, bind, Except.bind] at h
    | ok x =>
      obtain ⟨dir, c⟩ := x
      obtain ⟨above, hsteps, hwalk, hdir⟩ := parent_eq_ok hp
      simp only [ha, hp, bind, Except.bind] at h
      cases c with
      | name s =>
        dsimp only at h
        split at h
        · cases h
        · rename_i hslash
          split at h
          · cases h
          · rename_i hsize
            refine ⟨dir, s, ⟨ha, hslash, hsize, ⟨above, hsteps, hwalk⟩, hdir⟩, ?_⟩
            split at h
            · rename_i hnone
              cases h
              exact .inr ⟨hnone, rfl, rfl⟩
            · cases h
            · rename_i hfile
              cases h
              exact .inl ⟨hfile, rfl⟩
      | root => cases h
      | here => cases h
      | up => cases h

theorem openOrCreate_keeps (h : d.openOrCreate p = .ok (id, d')) : d.Keeps d' := by
  obtain ⟨dir, name, -, ⟨-, rfl⟩ | ⟨hnone, -, rfl⟩⟩ := openOrCreate_eq_ok h
  · exact .refl _
  · exact d.keeps_create (by simp) hnone

theorem find_of_openOrCreate (h : d.openOrCreate p = .ok (id, d')) : d'.find p = .ok (.file id) := by
  have hkeeps := openOrCreate_keeps h
  obtain ⟨dir, name, hends, hcases⟩ := openOrCreate_eq_ok h
  have hentry : d'.entry? (dir ++ [name]) = some (.file id) := by
    rcases hcases with ⟨hfile, rfl⟩ | ⟨-, rfl, rfl⟩
    · exact hfile
    · exact (d.entry?_create (by simp) _).trans (if_pos rfl)
  simp only [find, hkeeps.locate hends.locate, hentry]

theorem Sound.openOrCreate (hd : d.Sound) (h : d.openOrCreate p = .ok (id, d')) : d'.Sound := by
  obtain ⟨dir, name, hends, ⟨-, rfl⟩ | ⟨hnone, -, rfl⟩⟩ := openOrCreate_eq_ok h
  · exact hd
  · exact hd.create hends.directory hnone

/-! ### A log -/

theorem Readies.refl (p : Path) (d : Disk) : d.Readies p d where
  keeps := .refl d
  new := fun l e he hnone => by
    rw [hnone] at he
    cases he

theorem Builds.readies (h : d.Builds p.components.dropLast d') : d.Readies p d' :=
  ⟨h.keeps, fun l e he hnone => .inl (h.made l e he hnone)⟩

theorem Builds.readies_open {d₁ : Disk} (h : d.Builds p.components.dropLast d₁)
    (ho : d₁.openOrCreate p = .ok (id, d')) : d.Readies p d' := by
  have hkeeps : d₁.Keeps d' := openOrCreate_keeps ho
  refine ⟨h.keeps.trans hkeeps, fun l e he hnone => ?_⟩
  cases hmid : d₁.entry? l with
  | some e' =>
    obtain ⟨rfl, above, hne, hpre, hleads⟩ := h.made l e' hmid hnone
    rw [hkeeps.entry l _ hmid] at he
    cases he
    exact .inl ⟨rfl, above, hne, hpre, hkeeps.leads hleads⟩
  | none =>
    obtain ⟨dir, name, hends, ⟨-, rfl⟩ | ⟨-, -, rfl⟩⟩ := openOrCreate_eq_ok ho
    · rw [hmid] at he
      cases he
    · rw [entry?_create d₁ (by simp)] at he
      split_ifs at he with hl
      · subst hl
        cases he
        exact .inr ⟨⟨_, rfl, by rw [content_create, if_pos rfl]⟩, hkeeps.locate hends.locate⟩
      · rw [hmid] at he
        cases he

inductive Ensures (d : Disk) (p : Path) : Ensured × Disk → Prop
  | existed (e : Entry) (hf : d.find p = .ok e) : Ensures d p (.existed, d)
  | failed (cause : DiskError) (d₁ : Disk) (hb : d.Builds p.components.dropLast d₁) :
    Ensures d p (.failed cause, d₁)
  | made (d₁ d₂ : Disk) (file : FileId) (hf : d.find p = .error .notFound)
    (hb : d.Builds p.components.dropLast d₁) (ho : d₁.openOrCreate p = .ok (file, d₂)) : Ensures d p (.made, d₂)

theorem ensureLog_ensures (d : Disk) (p : Path) : d.Ensures p (ensureLog d p) := by
  unfold ensureLog tryExists
  cases hf : d.find p with
  | ok e => exact .existed e hf
  | error e =>
    by_cases he : e = .notFound
    · subst he
      have hbuilds := d.makeDirectories_builds p.components.dropLast.reverse
      rw [List.reverse_reverse] at hbuilds
      simp only [makeParents]
      generalize d.makeDirectories p.components.dropLast.reverse = made at hbuilds
      obtain ⟨failure, d₁⟩ := made
      cases failure with
      | some cause => exact .failed cause d₁ hbuilds
      | none =>
        dsimp only
        cases ho : d₁.openOrCreate p with
        | error cause => exact .failed cause d₁ hbuilds
        | ok x => exact .made d₁ x.2 x.1 hf hbuilds ho
    · have hfailed : d.Ensures p (.failed e, d) := .failed e d (.refl _ d)
      simpa [he] using hfailed

theorem ensureLog_readies (d : Disk) (p : Path) : d.Readies p (ensureLog d p).2 := by
  have hensures := d.ensureLog_ensures p
  generalize ensureLog d p = ensured at hensures
  cases hensures with
  | existed e hf => exact .refl p d
  | failed cause d₁ hb => exact hb.readies
  | made d₁ d₂ file hf hb ho => exact hb.readies_open ho

theorem Sound.ensureLog (h : d.Sound) (p : Path) : (ensureLog d p).2.Sound := by
  have hensures := d.ensureLog_ensures p
  generalize Watch.ensureLog d p = ensured at hensures
  cases hensures with
  | existed e hf => exact h
  | failed cause d₁ hb => exact hb.sound h
  | made d₁ d₂ file hf hb ho => exact (hb.sound h).openOrCreate ho

theorem ensureLog_again {d d' : Disk} {ensured : Ensured} (h : ensureLog d p = (ensured, d'))
    (hok : ∀ cause, ensured ≠ .failed cause) : ensureLog d' p = (.existed, d') := by
  have hfind : ∃ e, d'.find p = .ok e := by
    have hensures := d.ensureLog_ensures p
    rw [h] at hensures
    cases hensures with
    | existed e hf => exact ⟨e, hf⟩
    | failed cause d₁ hb => exact absurd rfl (hok cause)
    | made d₁ d₂ file hf hb ho => exact ⟨.file file, find_of_openOrCreate ho⟩
  obtain ⟨e, hf⟩ := hfind
  simp only [ensureLog, tryExists, hf]

/-- A log that was made is an empty file, unless something stood already where the path leads to. That can only be
where the path goes upwards again from a directory that was missing. -/
theorem made_of_ensureLog {d d' : Disk} (hd : d.Sound) (h : ensureLog d p = (.made, d')) :
    ∃ l id, d'.locate p = .ok l ∧ d'.entry? l = some (.file id) ∧
      (d.entry? l = none → d'.content id = []) ∧ (.up ∉ p.components → d.entry? l = none) := by
  have hensures := d.ensureLog_ensures p
  rw [h] at hensures
  cases hensures with
  | made d₁ _ file hf hb ho =>
    obtain ⟨dir, name, hends, hcases⟩ := openOrCreate_eq_ok ho
    refine ⟨dir ++ [name], file, (openOrCreate_keeps ho).locate hends.locate, ?_, fun hnone => ?_, fun hup => ?_⟩
    · rcases hcases with ⟨hfile, rfl⟩ | ⟨-, rfl, rfl⟩
      · exact hfile
      · exact (d₁.entry?_create (by simp) _).trans (if_pos rfl)
    · rcases hcases with ⟨hfile, -⟩ | ⟨-, rfl, rfl⟩
      · cases (hb.made _ _ hfile hnone).1
      · rw [content_create, if_pos rfl]
    · cases he : d.entry? (dir ++ [name]) with
      | none => rfl
      | some e =>
        -- all above it is there as well, so the path led there before
        have habove : ∀ a, a <+: dir → d.entry? a = some .directory := fun a ha =>
          hd.above (by rw [he]; rfl) (ha.trans (List.prefix_append ..)) (by
            rintro rfl
            exact absurd ha.length_le (by simp))
        have hlocate : d.locate p = .ok (dir ++ [name]) :=
          (hends.of_directories hup hb.keeps.home habove).locate
        simp [find, hlocate, he] at hf

end Foreman.Disk
