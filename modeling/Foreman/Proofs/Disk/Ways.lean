import Foreman.Proofs.Disk.Standing

/-! Where paths lead. A path keeps to its way as long as nothing on it is taken away, and one that never leads
upwards ends at the location that its names spell. -/

namespace Foreman

namespace Path

def Component.name? : Component → Option String
  | .name s => some s
  | _ => none

def names (p : Path) : List String := p.components.filterMap Component.name?

theorem step?_ne_root (piece : List Char) : step? piece ≠ some .root := by
  unfold step? component?
  split
  · exact nofun
  · exact nofun
  · split <;> exact nofun

theorem component?_bind_name? (piece : List Char) :
    (component? piece).bind Component.name? = (step? piece).bind Component.name? := by
  unfold step?
  split
  · rfl
  · rfl
  · rfl

theorem step?_eq_up_iff (piece : List Char) : step? piece = some .up ↔ component? piece = some .up := by
  unfold step?
  split
  · simp [component?]
  · simp [component?]
  · exact Iff.rfl

theorem names_steps (p : Path) : p.steps.filterMap Component.name? = p.names := by
  unfold names steps components
  rw [List.filterMap_append, List.filterMap_append, List.filterMap_filterMap, List.filterMap_filterMap]
  simp only [component?_bind_name?]
  split_ifs <;> rfl

theorem up_mem_steps_iff (p : Path) : .up ∈ p.steps ↔ .up ∈ p.components := by
  unfold steps components
  simp only [List.mem_append, List.mem_filterMap, step?_eq_up_iff]
  split_ifs <;> simp

def Rooted (absolute : Bool) (cs : List Component) : Prop :=
  ∃ below, cs = (if absolute then [.root] else []) ++ below ∧ .root ∉ below

theorem rooted_steps (p : Path) : Rooted p.isAbsolute p.steps := by
  refine ⟨_, rfl, fun hroot => ?_⟩
  obtain ⟨piece, -, hpiece⟩ := List.mem_filterMap.1 hroot
  exact step?_ne_root piece hpiece

theorem rooted_components (p : Path) : Rooted p.isAbsolute p.components := by
  have hnames : .root ∉ (Text.splitAt '/' p.text.toList).filterMap component? := by
    intro hroot
    obtain ⟨piece, -, hpiece⟩ := List.mem_filterMap.1 hroot
    unfold component? at hpiece
    split at hpiece <;> cases hpiece
  unfold components
  cases p.isAbsolute with
  | true => exact ⟨_, rfl, hnames⟩
  | false =>
    refine ⟨(if (Text.splitAt '/' p.text.toList).head? = some ['.'] then [.here] else []) ++ _, rfl, ?_⟩
    rw [List.mem_append, not_or]
    refine ⟨?_, hnames⟩
    split_ifs <;> simp

namespace Rooted
variable {absolute : Bool} {cs : List Component}

theorem head? (h : Rooted absolute cs) : cs.head? = some .root ↔ absolute = true := by
  obtain ⟨below, rfl, hroot⟩ := h
  cases absolute with
  | true => simp
  | false =>
    cases below with
    | nil => simp
    | cons c below => simpa [eq_comm] using (not_or.1 (List.mem_cons.not.1 hroot)).1

theorem tail (h : Rooted absolute cs) : .root ∉ cs.tail := by
  obtain ⟨below, rfl, hroot⟩ := h
  cases absolute with
  | true => exact hroot
  | false => exact fun h => hroot (List.mem_of_mem_tail h)

end Rooted

end Path

namespace Disk

def Leads (d : Disk) (cs : List Path.Component) (l : Location) : Prop := d.walk (d.start cs) cs = .ok l

structure Descends (cs : List Path.Component) : Prop where
  up : .up ∉ cs
  root : .root ∉ cs.tail

variable {d d' : Disk} {l m dir : Location} {e : Entry} {p : Path} {cs : List Path.Component}

namespace Keeps

theorem start (h : d.Keeps d') (cs : List Path.Component) : d'.start cs = d.start cs := by
  unfold Disk.start
  rw [h.home]

theorem follow (h : d.Keeps d') {c : Path.Component} (hf : d.follow l c = .ok m) : d'.follow l c = .ok m := by
  cases he : d.entry? l with
  | none => simp [Disk.follow, he] at hf
  | some e =>
    unfold Disk.follow at hf ⊢
    rw [h.entry l e he]
    rwa [he] at hf

theorem walk (h : d.Keeps d') (hw : d.walk l cs = .ok m) : d'.walk l cs = .ok m := by
  induction cs generalizing l with
  | nil => exact hw
  | cons c cs ih =>
    rw [Disk.walk] at hw ⊢
    cases hf : d.follow l c with
    | error e => simp [hf] at hw
    | ok l' =>
      rw [hf] at hw
      rw [h.follow hf]
      exact ih hw

theorem leads (h : d.Keeps d') (hl : d.Leads cs l) : d'.Leads cs l := by
  unfold Leads
  rw [h.start]
  exact h.walk hl

theorem locate (h : d.Keeps d') (hl : d.locate p = .ok l) : d'.locate p = .ok l := by
  unfold Disk.locate at hl ⊢
  cases ha : accepts p with
  | error e => simp [ha, bind, Except.bind] at hl
  | ok u =>
    rw [ha] at hl
    exact h.leads hl

end Keeps

theorem leads_concat {c : Path.Component} {above : List Path.Component}
    (hw : d.walk (d.start (above ++ [c])) above = .ok dir) (hf : d.follow dir c = .ok l) :
    d.Leads (above ++ [c]) l := by
  rw [Leads, walk_append, hw]
  exact hf

theorem follow_name {s : String} (hdir : d.entry? dir = some .directory) (hs : ¬ 255 < s.utf8ByteSize) :
    d.follow dir (.name s) = .ok (dir ++ [s]) := by
  unfold follow
  rw [hdir]
  exact if_neg hs

theorem follow_eq {c : Path.Component} (hf : d.follow l c = .ok m) (hup : c ≠ .up) (hroot : c ≠ .root) :
    m = l ++ c.name?.toList := by
  unfold follow at hf
  split at hf
  · cases hf
  · cases hf
  · cases c with
    | root => exact absurd rfl hroot
    | up => exact absurd rfl hup
    | here =>
      cases hf
      exact (List.append_nil _).symm
    | name s =>
      dsimp only at hf
      split_ifs at hf
      cases hf
      rfl

theorem walk_eq (hw : d.walk l cs = .ok m) (hup : .up ∉ cs) (hroot : .root ∉ cs) :
    m = l ++ cs.filterMap Path.Component.name? := by
  induction cs generalizing l with
  | nil =>
    cases hw
    exact (List.append_nil _).symm
  | cons c cs ih =>
    rw [List.mem_cons, not_or] at hup hroot
    rw [walk] at hw
    cases hf : d.follow l c with
    | error e => simp [hf] at hw
    | ok l' =>
      rw [hf] at hw
      rw [ih hw hup.2 hroot.2, follow_eq hf (Ne.symm hup.1) (Ne.symm hroot.1), List.append_assoc]
      cases hname : c.name? <;> simp [hname]

/-- Where all on the way are directories, the way is the same. -/
theorem walk_of_directories (hw : d'.walk l cs = .ok m) (hup : .up ∉ cs) (hroot : .root ∉ cs)
    (hdir : ∀ a, a <+: m → d.entry? a = some .directory) : d.walk l cs = .ok m := by
  have hpre : l <+: m := by
    rw [walk_eq hw hup hroot]
    exact List.prefix_append ..
  induction cs generalizing l with
  | nil => exact hw
  | cons c cs ih =>
    rw [List.mem_cons, not_or] at hup hroot
    rw [walk] at hw ⊢
    cases hf : d'.follow l c with
    | error e => simp [hf] at hw
    | ok l' =>
      rw [hf] at hw
      have hfollow : d.follow l c = .ok l' := by
        unfold follow at hf ⊢
        rw [hdir l hpre]
        split at hf
        · cases hf
        · cases hf
        · exact hf
      have hrest : l' <+: m := by
        rw [walk_eq hw hup.2 hroot.2]
        exact List.prefix_append ..
      rw [hfollow]
      exact ih hw hup.2 hroot.2 hrest

namespace Descends

theorem shorten {above : List Path.Component} (h : Descends cs) (hpre : above <+: cs) : Descends above := by
  obtain ⟨below, rfl⟩ := hpre
  refine ⟨fun hup => h.up (List.mem_append_left _ hup), fun hroot => h.root ?_⟩
  cases above with
  | nil => cases hroot
  | cons c above => exact List.mem_append_left _ hroot

theorem steps (h : .up ∉ p.components) : Descends p.steps :=
  ⟨fun hup => h (p.up_mem_steps_iff.1 hup), p.rooted_steps.tail⟩

theorem components (h : .up ∉ p.components) : Descends p.components := ⟨h, p.rooted_components.tail⟩

theorem walk_start (h : Descends cs) : ∃ below, .up ∉ below ∧ .root ∉ below ∧
    below.filterMap Path.Component.name? = cs.filterMap Path.Component.name? ∧
    ∀ d : Disk, d.walk (d.start cs) cs = d.walk (d.start cs) below := by
  -- a root at the head of the way is where it starts from, so the walk over it stays there
  cases cs with
  | nil => exact ⟨[], by simp, by simp, rfl, fun _ => rfl⟩
  | cons c below =>
    by_cases hc : c = .root
    · subst hc
      exact ⟨below, fun hup => h.up (List.mem_cons_of_mem _ hup), h.root, rfl, fun _ => rfl⟩
    · refine ⟨c :: below, h.up, ?_, rfl, fun _ => rfl⟩
      rw [List.mem_cons, not_or]
      exact ⟨Ne.symm hc, h.root⟩

theorem leads_eq (h : Descends cs) (hl : d.Leads cs l) : l = d.start cs ++ cs.filterMap Path.Component.name? := by
  obtain ⟨below, hup, hroot, hnames, hwalk⟩ := h.walk_start
  rw [← hnames]
  exact walk_eq ((hwalk d).symm.trans hl) hup hroot

theorem leads_of_directories (h : Descends cs) (hl : d'.Leads cs l) (hhome : d'.home = d.home)
    (hdir : ∀ a, a <+: l → d.entry? a = some .directory) : d.Leads cs l := by
  obtain ⟨below, hup, hroot, -, hwalk⟩ := h.walk_start
  have hstart : d'.start cs = d.start cs := by
    unfold start
    rw [hhome]
  unfold Leads at hl ⊢
  rw [hwalk, hstart] at hl
  rw [hwalk]
  exact walk_of_directories hl hup hroot hdir

theorem walk_above {above : List Path.Component} {c : Path.Component} (h : Descends (above ++ [c]))
    (hw : d'.walk (d'.start (above ++ [c])) above = .ok m) (hhome : d'.home = d.home)
    (hdir : ∀ a, a <+: m → d.entry? a = some .directory) : d.walk (d.start (above ++ [c])) above = .ok m := by
  cases above with
  | nil =>
    unfold start at hw ⊢
    rwa [hhome] at hw
  | cons a above =>
    have habove : Descends (a :: above) := h.shorten (List.prefix_append ..)
    exact habove.leads_of_directories hw hhome hdir

end Descends

end Disk
end Foreman
