import Foreman.Disk

/-! Files that grow at their end. -/

namespace Foreman.Disk

/-- From `d` to `d'` the file `id` got `chunk` at its end. The path `p` leads to this file or to none;
whatever else there is may have changed. -/
structure Grows (p : Path) (id : FileId) (chunk : Bytes) (d d' : Disk) : Prop where
  content : d'.content id = d.content id ++ chunk
  sight : ∀ e, d'.find p = .ok e → e = .file id

@[simp]
theorem content_setContent (d : Disk) (id : FileId) (bytes : Bytes) :
    (d.setContent id bytes).content id = bytes := by
  simp [content, setContent]

def withContents (d : Disk) (contents : List (FileId × Bytes)) : Disk := { d with contents }

theorem walk_withContents (d : Disk) (contents : List (FileId × Bytes)) (l : Location)
    (cs : List Path.Component) : (d.withContents contents).walk l cs = d.walk l cs := by
  induction cs generalizing l with
  | nil => rfl
  | cons c cs ih =>
    have hfollow : (d.withContents contents).follow l c = d.follow l c := rfl
    rw [walk, walk, hfollow]
    cases d.follow l c with
    | error e => rfl
    | ok l => exact ih l

theorem find_withContents (d : Disk) (contents : List (FileId × Bytes)) (p : Path) :
    (d.withContents contents).find p = d.find p := by
  have hlocate : (d.withContents contents).locate p = d.locate p := by
    unfold locate
    simp only [walk_withContents]
    rfl
  unfold find
  rw [hlocate]
  rfl

@[simp]
theorem find_setContent (d : Disk) (id : FileId) (bytes : Bytes) (p : Path) :
    (d.setContent id bytes).find p = d.find p := d.find_withContents _ p

theorem walk_append (d : Disk) (l : Location) (cs : List Path.Component) (c : Path.Component) :
    d.walk l (cs ++ [c]) = (d.walk l cs).bind (d.follow · c) := by
  induction cs generalizing l with
  | nil =>
    simp only [List.nil_append, walk, Except.bind]
    cases d.follow l c <;> rfl
  | cons a cs ih =>
    simp only [List.cons_append, walk]
    cases d.follow l a with
    | error e => rfl
    | ok l => exact ih l

theorem parent_eq_ok {d : Disk} {cs : List Path.Component} {dir : Location} {c : Path.Component}
    (h : d.parent cs = .ok (dir, c)) : ∃ above, cs = above ++ [c] ∧
      d.walk (d.start cs) above = .ok dir ∧ d.entry? dir = some .directory := by
  unfold parent at h
  cases hlast : cs.getLast? with
  | none => simp [hlast] at h
  | some last =>
    obtain ⟨above, rfl⟩ := List.getLast?_eq_some_iff.1 hlast
    rw [hlast, List.dropLast_concat] at h
    cases hw : d.walk (d.start (above ++ [last])) above with
    | error e => simp [hw] at h
    | ok l =>
      cases he : d.entry? l with
      | none => simp [hw, he] at h
      | some e =>
        cases e with
        | file id => simp [hw, he] at h
        | directory =>
          simp only [hw, he, Except.ok.injEq, Prod.mk.injEq] at h
          obtain ⟨rfl, rfl⟩ := h
          exact ⟨above, rfl, hw, he⟩

theorem openOrCreate_eq {d d' : Disk} {p : Path} {id id' : FileId} (hf : d.find p = .ok (.file id))
    (ho : d.openOrCreate p = .ok (id', d')) : id' = id ∧ d' = d := by
  unfold openOrCreate at ho
  unfold find locate at hf
  cases ha : accepts p with
  | error e => simp [ha, bind, Except.bind] at ho
  | ok u =>
    cases hp : d.parent p.steps with
    | error e => simp [ha, hp, bind, Except.bind] at ho
    | ok x =>
      obtain ⟨dir, c⟩ := x
      obtain ⟨above, hsteps, hwalk, hdir⟩ := parent_eq_ok hp
      simp only [ha, hp, bind, Except.bind] at ho hf
      -- only a name at the end of the path can be opened
      cases c with
      | name s =>
        simp only at ho
        split at ho
        · cases ho
        · rename_i hslash
          have hroute : route p = p.steps := by rw [route, if_neg hslash]
          split at ho
          · cases ho
          · rename_i hsize
            rw [hroute, hsteps, walk_append, ← hsteps, hwalk] at hf
            simp only [Except.bind, follow, hdir, if_neg hsize] at hf
            cases he : d.entry? (dir ++ [s]) with
            | none => simp [he] at hf
            | some e =>
              simp only [he, Except.ok.injEq] at hf ho
              subst hf
              simp only [Except.ok.injEq, Prod.mk.injEq] at ho
              exact ⟨ho.1.symm, ho.2.symm⟩
      | root => cases ho
      | here => cases ho
      | up => cases ho

theorem update_eq {d d' : Disk} {p : Path} {id : FileId} {f : Bytes → Bytes}
    (hf : d.find p = .ok (.file id)) (h : d.update p f = .ok d') : d' = d.setContent id (f (d.content id)) := by
  unfold update at h
  cases ho : d.openOrCreate p with
  | error e => simp [ho] at h
  | ok x =>
    obtain ⟨rfl, rfl⟩ := openOrCreate_eq hf ho
    simp only [ho, Except.ok.injEq] at h
    exact h.symm

theorem grows_of_append {d d' : Disk} {p : Path} {id : FileId} {chunk : Bytes}
    (hf : d.find p = .ok (.file id)) (ha : d.append p chunk = .ok d') : d.Grows p id chunk d' := by
  obtain rfl := update_eq hf ha
  refine ⟨content_setContent .., fun e he => ?_⟩
  rw [find_setContent, hf] at he
  exact (Except.ok.inj he).symm

end Foreman.Disk
