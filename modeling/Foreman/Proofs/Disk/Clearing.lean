import Foreman.Disk.Change
import Foreman.Proofs.Disk.Making

/-! A directory is emptied. Where it cannot be made because of a file, nothing is done, and where it is made or
emptied, nothing changes but at, below and above it. -/

namespace Foreman.Disk

def place (d : Disk) (p : Path) : Location := d.start p.components ++ p.names

/-- From `d` to `d'` only directories were made, down to the location. -/
structure Raises (l : Location) (d d' : Disk) : Prop where
  same : d' = { d with entries := d'.entries }
  entry : ∀ m e, d.entry? m = some e → d'.entry? m = some e
  made : ∀ m e, d'.entry? m = some e → d.entry? m = none → e = .directory ∧ m <+: l
  sound : d.Sound → d'.Sound

/-- From `d` to `d'` a directory was emptied, or made with those above it. -/
structure Clears (l : Location) (d d' : Disk) : Prop where
  same : d' = { d with entries := d'.entries }
  directory : d'.entry? l = some .directory
  empty : ∀ m, l <+: m → m ≠ l → d'.entry? m = none
  beside : ∀ m, ¬ l <+: m → ¬ m <+: l → d'.entry? m = d.entry? m
  above : ∀ m, m <+: l → m ≠ l → d'.entry? m = some .directory ∧
    (d.entry? m = some .directory ∨ d.entry? m = none)

variable {d d' d'' : Disk} {l m dir : Location} {p : Path} {cs above : List Path.Component} {e : DiskError}

/-! ### Where the path stands -/

theorem start_steps (d : Disk) (p : Path) : d.start p.steps = d.start p.components := by
  unfold start
  simp only [p.rooted_steps.head?, p.rooted_components.head?]

theorem Descends.leads_above (h : Descends cs) (hne : above ≠ []) (hpre : above <+: cs) (hl : d.Leads above l) :
    l <+: d.start cs ++ cs.filterMap Path.Component.name? := by
  rw [(h.shorten hpre).leads_eq hl]
  obtain ⟨below, rfl⟩ := hpre
  have hstart : d.start (above ++ below) = d.start above := by
    cases above with
    | nil => exact absurd rfl hne
    | cons c above => rfl
  rw [hstart, List.filterMap_append, ← List.append_assoc]
  exact List.prefix_append ..

theorem leads_steps (hup : .up ∉ p.components) (h : d.Leads p.steps l) : l = d.place p := by
  rw [(Descends.steps hup).leads_eq h, start_steps, p.names_steps]
  rfl

theorem prefix_place_of_steps (hup : .up ∉ p.components) (hne : above ≠ []) (hpre : above <+: p.steps)
    (h : d.Leads above l) : l <+: d.place p := by
  have hl := (Descends.steps hup).leads_above hne hpre h
  rwa [start_steps, p.names_steps] at hl

theorem prefix_place_of_components (hup : .up ∉ p.components) (hne : above ≠ []) (hpre : above <+: p.components)
    (h : d.Leads above l) : l <+: d.place p :=
  (Descends.components hup).leads_above hne hpre h

theorem follow_here_iff : d.follow m .here = .ok l ↔ m = l ∧ d.entry? m = some .directory := by
  unfold follow
  cases he : d.entry? m with
  | none => simp
  | some e => cases e <;> simp

theorem leads_route (d : Disk) (p : Path) (l : Location) : d.Leads (route p) l ↔
    d.Leads p.steps l ∧ (p.endsInSlash = true → d.entry? l = some .directory) := by
  have hstart : d.start (p.steps ++ [.here]) = d.start p.steps := by
    unfold start
    cases p.steps <;> rfl
  unfold Leads route
  split_ifs with hslash
  · rw [hstart, walk_append]
    cases d.walk (d.start p.steps) p.steps with
    | error e => simp [Except.bind]
    | ok m =>
      simp only [Except.bind, Except.ok.injEq, follow_here_iff]
      constructor
      · rintro ⟨rfl, hdir⟩
        exact ⟨rfl, fun _ => hdir⟩
      · rintro ⟨rfl, hdir⟩
        exact ⟨rfl, hdir hslash⟩
  · simp [hslash]

theorem locate_eq_ok_iff : d.locate p = .ok l ↔
    accepts p = .ok () ∧ d.Leads p.steps l ∧ (p.endsInSlash = true → d.entry? l = some .directory) := by
  unfold locate
  cases accepts p with
  | error e => simp [bind, Except.bind]
  | ok u => exact ⟨fun h => ⟨rfl, (leads_route d p l).1 h⟩, fun h => (leads_route d p l).2 h.2⟩

theorem isDirectory_iff : d.isDirectory p = true ↔
    accepts p = .ok () ∧ ∃ l, d.Leads p.steps l ∧ d.entry? l = some .directory := by
  have hfind : d.isDirectory p = true ↔ ∃ l, d.locate p = .ok l ∧ d.entry? l = some .directory := by
    unfold isDirectory find
    cases d.locate p with
    | error e => simp
    | ok l =>
      cases he : d.entry? l with
      | none => simp [he]
      | some e => cases e <;> simp [he]
  rw [hfind]
  constructor
  · rintro ⟨l, hl, he⟩
    obtain ⟨ha, hleads, -⟩ := locate_eq_ok_iff.1 hl
    exact ⟨ha, l, hleads, he⟩
  · rintro ⟨ha, l, hleads, he⟩
    exact ⟨l, locate_eq_ok_iff.2 ⟨ha, hleads, fun _ => he⟩, he⟩

/-! ### Directories that are made -/

namespace Raises

theorem refl (l : Location) (d : Disk) : d.Raises l d where
  same := rfl
  entry := fun _ _ h => h
  made := fun m e he hnone => by
    rw [hnone] at he
    cases he
  sound := id

theorem trans (h : d.Raises l d') (h' : d'.Raises l d'') : d.Raises l d'' where
  same := by rw [h'.same, h.same]
  entry := fun m e he => h'.entry m e (h.entry m e he)
  made := fun m e he hnone => by
    cases hmid : d'.entry? m with
    | none => exact h'.made m e he hmid
    | some e' =>
      have hmade := h.made m e' hmid hnone
      rw [h'.entry m e' hmid] at he
      cases he
      exact hmade
  sound := h'.sound ∘ h.sound

end Raises

theorem Builds.raises (h : d.Builds cs d') (hpre : ∀ above, above ≠ [] → above <+: cs →
    ∀ m, d'.Leads above m → m <+: l) : d.Raises l d' where
  same := h.same
  entry := h.entry
  made := fun m e he hnone => by
    obtain ⟨hdir, above, hne, habove, hleads⟩ := h.made m e he hnone
    exact ⟨hdir, hpre above hne habove m hleads⟩
  sound := h.sound

theorem place_eq (hhome : d'.home = d.home) (p : Path) : d'.place p = d.place p := by
  unfold place start
  rw [hhome]

theorem makeDirectory_raises (hup : .up ∉ p.components) (h : d.makeDirectory p.steps = .ok d') :
    d.Raises (d.place p) d' ∧ d'.Leads p.steps (d.place p) ∧ d'.entry? (d.place p) = some .directory := by
  have hbuilds : d.Builds p.steps d' := makeDirectory_builds h
  have hplace : d'.place p = d.place p := place_eq hbuilds.keeps.home p
  obtain ⟨dir, name, -, hleads, -, -, heq⟩ := makeDirectory_eq_ok h
  have hend : dir ++ [name] = d.place p := leads_steps hup hleads
  rw [hend] at hleads heq
  refine ⟨hbuilds.raises fun above hne hpre m hm => hplace ▸ prefix_place_of_steps hup hne hpre hm,
    hbuilds.keeps.leads hleads, ?_⟩
  rw [heq, entry?_put d _ (by simp [← hend]), if_pos rfl]

theorem makeParents_raises (hup : .up ∉ p.components) : d.Raises (d.place p) (d.makeParents p).2 := by
  have hbuilds := d.makeDirectories_builds p.components.dropLast.reverse
  rw [List.reverse_reverse] at hbuilds
  refine hbuilds.raises fun above hne hpre m hm => ?_
  rw [← place_eq hbuilds.keeps.home p]
  exact prefix_place_of_components hup hne (hpre.trans (List.dropLast_prefix _)) hm

theorem ensureDirectory_raises (hup : .up ∉ p.components) (h : d.ensureDirectory p = (none, d')) :
    d.Raises (d.place p) d' ∧ d'.Leads p.steps (d.place p) ∧ d'.entry? (d.place p) = some .directory := by
  unfold ensureDirectory at h
  cases hmake : d.makeDirectory p.steps with
  | ok d₁ =>
    rw [hmake] at h
    cases h
    exact makeDirectory_raises hup hmake
  | error e =>
    rw [hmake] at h
    obtain ⟨hthere, rfl⟩ := Prod.mk.inj h
    split at hthere
    · rename_i hdir
      unfold leadsToDirectory at hdir
      cases hw : d.walk (d.start p.steps) p.steps with
      | error e => simp [hw] at hdir
      | ok l =>
        obtain rfl := leads_steps hup hw
        exact ⟨.refl _ _, hw, by simpa [hw] using hdir⟩
    · cases hthere

theorem makeDirectoryAll_cases (d : Disk) (htext : p.text ≠ "") :
    (∃ e, d.makeDirectoryAll p = (some e, d)) ∨ accepts p = .ok () ∧
      ((∃ d', d.makeDirectory p.steps = .ok d' ∧ d.makeDirectoryAll p = (none, d')) ∨
        (∃ e, d.makeDirectoryAll p = (some e, (d.makeParents p).2)) ∨
        ∃ d₁, (d₁ = d ∨ d₁ = (d.makeParents p).2) ∧ d.makeDirectoryAll p = d₁.ensureDirectory p) := by
  unfold makeDirectoryAll
  cases ha : accepts p with
  | error e =>
    have hne : e ≠ .notFound := by
      rintro rfl
      unfold accepts at ha
      split_ifs at ha <;> cases ha
    refine .inl ⟨e, ?_⟩
    cases e <;> first | exact absurd rfl hne | rfl
  | ok u =>
    refine .inr ⟨rfl, ?_⟩
    cases hmake : d.makeDirectory p.steps with
    | ok d' => exact .inl ⟨d', rfl, rfl⟩
    | error e =>
      refine .inr ?_
      by_cases he : e = .notFound
      · subst he
        cases hparents : d.makeParents p with
        | mk failure d₁ =>
          cases failure with
          | some e => exact .inl ⟨e, rfl⟩
          | none => exact .inr ⟨d₁, .inr rfl, rfl⟩
      · refine .inr ⟨d, .inl rfl, ?_⟩
        cases e <;> first | exact absurd rfl he | rfl

theorem makeDirectoryAll_raises (hup : .up ∉ p.components) (htext : p.text ≠ "")
    (h : d.makeDirectoryAll p = (none, d')) : accepts p = .ok () ∧ d.Raises (d.place p) d' ∧
      d'.Leads p.steps (d.place p) ∧ d'.entry? (d.place p) = some .directory := by
  rcases d.makeDirectoryAll_cases htext with ⟨e, he⟩ | ⟨ha, ⟨d₁, hmake, heq⟩ | ⟨e, he⟩ | ⟨d₁, hd₁, heq⟩⟩
  · cases h.symm.trans he
  · cases h.symm.trans heq
    exact ⟨ha, makeDirectory_raises hup hmake⟩
  · cases h.symm.trans he
  · have hraises : d.Raises (d.place p) d₁ := by
      rcases hd₁ with rfl | rfl
      · exact .refl _ _
      · exact makeParents_raises hup
    have hplace : d₁.place p = d.place p := place_eq (by rw [hraises.same]) p
    have hlast := ensureDirectory_raises hup (heq.symm.trans h)
    rw [hplace] at hlast
    exact ⟨ha, hraises.trans hlast.1, hlast.2⟩

/-! ### A file on the way -/

section
variable (hd : d.Sound) (hup : .up ∉ p.components) {id : FileId} (hpre : l <+: d.place p)
  (hfile : d.entry? l = some (.file id))
include hd hpre hfile

theorem place_ne_directory : d.entry? (d.place p) ≠ some .directory := by
  intro hdir
  have hl : d.entry? l = some .directory := by
    by_cases hl : l = d.place p
    · rw [hl, hdir]
    · exact hd.above (by rw [hdir]; rfl) hpre hl
  rw [hfile] at hl
  cases hl

theorem makeDirectory_blocked (hcs : ∀ m, d.Leads cs m → m <+: d.place p) (d' : Disk) :
    d.makeDirectory cs ≠ .ok d' := by
  intro h
  obtain ⟨dir, name, -, hleads, hdir, hnone, -⟩ := makeDirectory_eq_ok h
  rcases List.prefix_or_prefix_of_prefix hpre (hcs _ hleads) with hle | hle
  · -- the file is the missing one, or stands where the directory above it does, or above that
    have hl : d.entry? l = some .directory ∨ l = dir ++ [name] := by
      rcases List.prefix_concat_iff.1 hle with heq | hle
      · exact .inr heq
      · by_cases heq : l = dir
        · exact .inl (heq ▸ hdir)
        · exact .inl (hd.above (by rw [hdir]; rfl) hle heq)
    rcases hl with hl | rfl
    · rw [hfile] at hl
      cases hl
    · rw [hfile] at hnone
      cases hnone
  · by_cases heq : dir ++ [name] = l
    · rw [heq, hfile] at hnone
      cases hnone
    · rw [hd.above (by rw [hfile]; rfl) hle heq] at hnone
      cases hnone

include hup

theorem makeDirectory_steps_blocked (d' : Disk) : d.makeDirectory p.steps ≠ .ok d' :=
  makeDirectory_blocked hd hpre hfile (fun _ hleads => leads_steps hup hleads ▸ List.prefix_rfl) d'

theorem makeParents_blocked : (d.makeParents p).2 = d := by
  have hall : ∀ reversed, reversed.reverse <+: p.components → (d.makeDirectories reversed).2 = d := by
    intro reversed hprefix
    induction reversed with
    | nil => rfl
    | cons c above ih =>
      have habove : (d.makeDirectories above).2 = d := ih ((by simp : above.reverse <+: _).trans hprefix)
      obtain ⟨d₁, hd₁, hlast⟩ := d.makeDirectories_cons c above
      obtain rfl : d₁ = d := by
        rcases hd₁ with h | h
        · exact h
        · exact h.trans habove
      rcases hlast with heq | hmake
      · exact heq
      · exact absurd hmake (makeDirectory_blocked hd hpre hfile
          (fun m => prefix_place_of_components hup (by simp) hprefix) _)
  refine hall _ ?_
  rw [List.reverse_reverse]
  exact List.dropLast_prefix _

theorem ensureDirectory_blocked : ∃ e, d.ensureDirectory p = (some e, d) := by
  unfold ensureDirectory
  cases hmake : d.makeDirectory p.steps with
  | ok d₁ => exact absurd hmake (makeDirectory_steps_blocked hd hup hpre hfile d₁)
  | error e =>
    refine ⟨e, ?_⟩
    dsimp only
    rw [if_neg]
    intro hleads
    unfold leadsToDirectory at hleads
    cases hw : d.walk (d.start p.steps) p.steps with
    | error e => simp [hw] at hleads
    | ok m =>
      obtain rfl := leads_steps hup hw
      exact place_ne_directory hd hpre hfile (by simpa [hw] using hleads)

theorem makeEmpty_blocked (htext : p.text ≠ "") : ∃ e, d.makeEmpty p = (some e, d) := by
  have hnot : ¬ d.isDirectory p = true := by
    rw [isDirectory_iff]
    rintro ⟨-, m, hleads, hdir⟩
    obtain rfl := leads_steps hup hleads
    exact place_ne_directory hd hpre hfile hdir
  have hparents : (d.makeParents p).2 = d := makeParents_blocked hd hup hpre hfile
  rw [makeEmpty, if_neg hnot]
  rcases d.makeDirectoryAll_cases htext with ⟨e, he⟩ | ⟨-, ⟨d₁, hmake, -⟩ | ⟨e, he⟩ | ⟨d₁, hd₁, heq⟩⟩
  · exact ⟨e, he⟩
  · exact absurd hmake (makeDirectory_steps_blocked hd hup hpre hfile d₁)
  · exact ⟨e, by rw [he, hparents]⟩
  · obtain rfl : d₁ = d := by
      rcases hd₁ with h | h
      · exact h
      · exact h.trans hparents
    rw [heq]
    exact ensureDirectory_blocked hd hup hpre hfile

end

/-! ### A directory that is emptied -/

/-- What is below a location is gone, and the location itself may be. -/
structure Strips (l : Location) (d d' : Disk) : Prop where
  same : d' = { d with entries := d'.entries }
  there : d'.entry? l = d.entry? l ∨ d'.entry? l = none
  empty : ∀ m, l <+: m → m ≠ l → d'.entry? m = none
  beside : ∀ m, ¬ l <+: m → d'.entry? m = d.entry? m

theorem walk_above_place {name : String} (hup : .up ∉ p.components) (hsteps : p.steps = above ++ [.name name])
    (hw : d.walk (d.start p.steps) above = .ok dir) : dir ++ [name] = d.place p := by
  have hnames : p.names = above.filterMap Path.Component.name? ++ [name] := by
    rw [← p.names_steps, hsteps, List.filterMap_append]
    rfl
  have hdir : dir = d.start p.steps ++ above.filterMap Path.Component.name? := by
    have hdescends : Descends above := (Descends.steps hup).shorten (hsteps ▸ List.prefix_append ..)
    rw [hsteps] at hw ⊢
    cases above with
    | nil =>
      cases hw
      exact (List.append_nil _).symm
    | cons c above => exact hdescends.leads_eq hw
  rw [place, hnames, hdir, start_steps, List.append_assoc]

theorem removeDirectory_eq_ok (hup : .up ∉ p.components) (h : d.removeDirectory p = .ok d') :
    d.place p ≠ [] ∧ d' = d.erase (d.place p) := by
  unfold removeDirectory at h
  cases ha : accepts p with
  | error e => simp [ha, bind, Except.bind] at h
  | ok u =>
    cases hp : d.parent p.steps with
    | error e => simp [ha, hp, bind, Except.bind] at h
    | ok x =>
      obtain ⟨dir, c⟩ := x
      obtain ⟨above, hsteps, hwalk, -⟩ := parent_eq_ok hp
      simp only [ha, hp, bind, Except.bind] at h
      cases c with
      | name s =>
        have hplace : dir ++ [s] = d.place p := walk_above_place hup hsteps hwalk
        dsimp only at h
        split at h
        · cases h
        · cases h
        · split at h
          · cases h
          · cases h
            exact ⟨by simp [← hplace], by rw [hplace]⟩
      | root => cases h
      | here => cases h
      | up => cases h

namespace Strips

theorem of_clearBelow (d : Disk) (l : Location) : d.Strips l (d.clearBelow l) where
  same := rfl
  there := .inl (by rw [entry?_clearBelow, if_neg (fun h => h.2 rfl)])
  empty := fun m hpre hne => by rw [entry?_clearBelow, if_pos ⟨hpre, hne⟩]
  beside := fun m hpre => by rw [entry?_clearBelow, if_neg (fun h => hpre h.1)]

theorem erase (h : d.Strips l d') (hl : l ≠ []) : d.Strips l (d'.erase l) where
  same := by rw [Disk.erase, h.same]
  there := .inr (by rw [entry?_erase, if_pos ⟨List.prefix_rfl, hl⟩])
  empty := fun m hpre hne => by
    rw [entry?_erase]
    split_ifs
    · rfl
    · exact h.empty m hpre hne
  beside := fun m hpre => by rw [entry?_erase, if_neg (fun h => hpre h.1), h.beside m hpre]

theorem of_no_directory (hd : d.Sound) (hl : d.entry? l ≠ some .directory) : d.Strips l d where
  same := rfl
  there := .inl rfl
  empty := fun _ hpre hne => hd.nothing_below hl hpre (Ne.symm hne)
  beside := fun _ _ => rfl

theorem entry (h : d.Strips l d') {m : Location} {e : Entry} (he : d'.entry? m = some e) : d.entry? m = some e := by
  by_cases hpre : l <+: m
  · by_cases hm : m = l
    · subst hm
      rcases h.there with heq | hnone
      · rwa [← heq]
      · rw [hnone] at he
        cases he
    · rw [h.empty m hpre hm] at he
      cases he
  · rwa [← h.beside m hpre]

theorem sound (h : d.Strips l d') (hd : d.Sound) : d'.Sound where
  numbered := fun m id he => by
    rw [h.same]
    exact hd.numbered m id (h.entry he)
  rooted := fun m name hsome => by
    obtain ⟨e, he⟩ := Option.isSome_iff_exists.1 hsome
    have hm : d.entry? m = some .directory := hd.rooted m name (by rw [h.entry he]; rfl)
    rw [h.beside m, hm]
    intro hpre
    -- nothing is left below
    rw [h.empty (m ++ [name]) (hpre.trans (List.prefix_append ..)) fun heq => ?_] at he
    · cases he
    · exact absurd (heq ▸ hpre).length_le (by simp)

theorem clears (hd : d.Sound) (h : d.Strips l d') (hr : d'.Raises l d'')
    (hdir : d''.entry? l = some .directory) : d.Clears l d'' where
  same := by rw [hr.same, h.same]
  directory := hdir
  empty := fun m hpre hne => by
    cases he : d''.entry? m with
    | none => rfl
    | some e => exact absurd (hpre.eq_of_length_le (hr.made m e he (h.empty m hpre hne)).2.length_le) (Ne.symm hne)
  beside := fun m hpre hpre' => by
    rw [← h.beside m hpre]
    cases he : d'.entry? m with
    | some e => exact hr.entry m e he
    | none =>
      cases he' : d''.entry? m with
      | none => rfl
      | some e => exact absurd (hr.made m e he' he).2 hpre'
  above := fun m hpre hne => by
    have hm : d''.entry? m = some .directory := (hr.sound (h.sound hd)).above (by rw [hdir]; rfl) hpre hne
    refine ⟨hm, ?_⟩
    cases he : d.entry? m with
    | none => exact .inr rfl
    | some e =>
      have hkept := hr.entry m e (by rw [h.beside m fun hle => hne (hpre.eq_of_length_le hle.length_le), he])
      exact .inl (hkept.symm.trans hm)

end Strips

theorem removeTree_strips (hup : .up ∉ p.components) (h : d.removeTree p = (none, d')) :
    d.Strips (d.place p) d' := by
  unfold removeTree at h
  cases hl : d.locate p with
  | error e => simp [hl] at h
  | ok l =>
    obtain ⟨-, hleads, -⟩ := locate_eq_ok_iff.1 hl
    obtain rfl := leads_steps hup hleads
    have hplace : (d.clearBelow (d.place p)).place p = d.place p := rfl
    have hstrips := Strips.of_clearBelow d (d.place p)
    simp only [hl] at h
    split at h
    · cases h
    · cases h
    · split at h
      · rename_i hremove
        obtain ⟨hne, heq⟩ := removeDirectory_eq_ok hup hremove
        cases h
        rw [heq, hplace]
        exact hstrips.erase (hplace ▸ hne)
      · cases h
        exact hstrips
      · cases h

theorem makeEmpty_clears (hd : d.Sound) (hup : .up ∉ p.components) (htext : p.text ≠ "")
    (h : d.makeEmpty p = (none, d')) : d.Clears (d.place p) d' := by
  unfold makeEmpty at h
  split at h
  · cases hremove : d.removeTree p with
    | mk failure d₁ =>
      rw [hremove] at h
      cases failure with
      | some e => cases h
      | none =>
        have hstrips : d.Strips (d.place p) d₁ := removeTree_strips hup hremove
        have hplace : d₁.place p = d.place p := place_eq (by rw [hstrips.same]) p
        obtain ⟨-, hraises, -, hdir⟩ := makeDirectoryAll_raises hup htext h
        rw [hplace] at hraises hdir
        exact hstrips.clears hd hraises hdir
  · rename_i hnot
    obtain ⟨ha, hraises, hleads, hdir⟩ := makeDirectoryAll_raises hup htext h
    have hmissing : d.entry? (d.place p) ≠ some .directory := by
      intro hthere
      -- all on the way are directories, so the path led there before
      have hway : ∀ a, a <+: d.place p → d.entry? a = some .directory := by
        intro a hpre
        by_cases heq : a = d.place p
        · rw [heq, hthere]
        · exact hd.above (by rw [hthere]; rfl) hpre heq
      have hled : d.Leads p.steps (d.place p) :=
        (Descends.steps hup).leads_of_directories hleads (by rw [hraises.same]) hway
      exact hnot (isDirectory_iff.2 ⟨ha, _, hled, hthere⟩)
    exact (Strips.of_no_directory hd hmissing).clears hd hraises hdir

end Foreman.Disk
