import Foreman.Proofs.Log.Growth
import Foreman.Watch.Cursor
import Mathlib.Tactic.SplitIfs

/-! Disks with the same names. What a path leads to, and which logs and directories are made for a watch, does
not depend on what stands in the files. -/

namespace Foreman
namespace Disk

/-- The same names and files, and the same in each file but perhaps in one. -/
structure AlikeBut (id : FileId) (d d' : Disk) : Prop where
  names : d' = d.withContents d'.contents
  content : ∀ j, j ≠ id → d'.content j = d.content j

variable {d d' : Disk} {id : FileId} {contents : List (FileId × Bytes)}

theorem content_setContent_of_ne {j : FileId} (h : j ≠ id) (d : Disk) (bytes : Bytes) :
    (d.setContent id bytes).content j = d.content j := by
  have hfilter : (d.contents.filter (·.1 ≠ id)).lookup j = d.contents.lookup j := by
    induction d.contents with
    | nil => rfl
    | cons x xs ih =>
      by_cases hx : x.1 = id
      · have hj : (j == x.1) = false := by simpa [hx] using h
        rw [List.filter_cons_of_neg (by simpa using hx), ih, List.lookup_cons, hj]
      · rw [List.filter_cons_of_pos (by simpa using hx), List.lookup_cons, List.lookup_cons, ih]
  have hj : (j == id) = false := by simpa using h
  unfold content setContent
  rw [List.lookup_cons, hj]
  exact congrArg (·.getD []) hfilter

theorem alikeBut_setContent (id : FileId) (d : Disk) (bytes : Bytes) : d.AlikeBut id (d.setContent id bytes) :=
  ⟨rfl, fun _ hj => content_setContent_of_ne hj d bytes⟩

theorem parent_withContents (d : Disk) (contents : List (FileId × Bytes)) (cs : List Path.Component) :
    (d.withContents contents).parent cs = d.parent cs := by
  unfold parent
  simp only [walk_withContents]
  rfl

theorem makeDirectory_withContents (d : Disk) (contents : List (FileId × Bytes))
    (cs : List Path.Component) : (d.withContents contents).makeDirectory cs =
      (d.makeDirectory cs).map (·.withContents contents) := by
  unfold makeDirectory
  rw [parent_withContents]
  cases d.parent cs with
  | error e => rfl
  | ok x =>
    obtain ⟨dir, last⟩ := x
    have hentry (l : Location) : Disk.entry? (d.withContents contents) l = d.entry? l := rfl
    cases last with
    | name s =>
      simp only [bind, Except.bind, hentry]
      split_ifs
      · rfl
      · cases d.entry? (dir ++ [s]) <;> rfl
    | root => rfl
    | here => rfl
    | up => rfl

theorem makeDirectories_withContents (d : Disk) (contents : List (FileId × Bytes))
    (reversed : List Path.Component) : (d.withContents contents).makeDirectories reversed =
      ((d.makeDirectories reversed).1, (d.makeDirectories reversed).2.withContents contents) := by
  have hleads (d : Disk) (cs : List Path.Component) :
      (d.withContents contents).leadsToDirectory cs = d.leadsToDirectory cs := by
    unfold leadsToDirectory
    rw [show (d.withContents contents).start cs = d.start cs from rfl, walk_withContents]
    rfl
  induction reversed with
  | nil => rfl
  | cons c above ih =>
    unfold makeDirectories
    simp only [makeDirectory_withContents, ih, hleads]
    cases d.makeDirectory (c :: above).reverse with
    | ok d₁ => rfl
    | error e =>
      cases e with
      | notFound =>
        simp only [Except.map]
        cases (d.makeDirectories above) with
        | mk failed d₁ =>
          cases failed with
          | some e => rfl
          | none =>
            simp only [makeDirectory_withContents, hleads]
            cases d₁.makeDirectory (c :: above).reverse <;> rfl
      | _ => rfl

namespace AlikeBut

theorem find (h : d.AlikeBut id d') (p : Path) : d'.find p = d.find p := by
  rw [h.names, find_withContents]

theorem put (h : d.AlikeBut id d') (l : Location) (e : Entry) : (d.put l e).AlikeBut id (d'.put l e) := by
  refine ⟨?_, h.content⟩
  have hput := congrArg (·.put l e) h.names
  exact hput

theorem setContent (h : d.AlikeBut id d') {j : FileId} {bytes bytes' : Bytes}
    (hb : j ≠ id → bytes' = bytes) : (d.setContent j bytes).AlikeBut id (d'.setContent j bytes') := by
  refine ⟨?_, fun k hk => ?_⟩
  · rw [h.names]
    rfl
  · by_cases hj : k = j
    · subst hj
      rw [content_setContent, content_setContent, hb hk]
    · rw [content_setContent_of_ne hj, content_setContent_of_ne hj, h.content k hk]

theorem makeParents (h : d.AlikeBut id d') (p : Path) : (d'.makeParents p).1 = (d.makeParents p).1 ∧
    (d.makeParents p).2.AlikeBut id (d'.makeParents p).2 := by
  have hsame : d.makeParents p = ((d.makeParents p).1, (d.makeParents p).2.withContents d.contents) :=
    makeDirectories_withContents d d.contents _
  have hmake : d'.makeParents p = ((d.makeParents p).1, (d.makeParents p).2.withContents d'.contents) := by
    have hnames := congrArg (·.makeParents p) h.names
    exact hnames.trans (makeDirectories_withContents d d'.contents _)
  rw [hmake]
  refine ⟨rfl, rfl, fun j hj => ?_⟩
  rw [hsame]
  exact h.content j hj

theorem create (h : d.AlikeBut id d') (l : Location) :
    (d'.create l).1 = (d.create l).1 ∧ (d.create l).2.AlikeBut id (d'.create l).2 := by
  have hnext : d'.nextFile = d.nextFile := by
    rw [h.names]
    rfl
  have hmade : ((d.put l (.file d.nextFile)).setContent d.nextFile []).AlikeBut id
      ((d'.put l (.file d.nextFile)).setContent d.nextFile []) := (h.put l _).setContent fun _ => rfl
  unfold Disk.create
  rw [hnext]
  exact ⟨rfl, congrArg (fun e : Disk => { e with nextFile := d.nextFile + 1 }) hmade.names, hmade.content⟩

theorem openOrCreate (h : d.AlikeBut id d') (p : Path) :
    (∃ e, d.openOrCreate p = .error e ∧ d'.openOrCreate p = .error e) ∨
      ∃ j e e', d.openOrCreate p = .ok (j, e) ∧ d'.openOrCreate p = .ok (j, e') ∧ e.AlikeBut id e' := by
  have hparent : d'.parent p.steps = d.parent p.steps := by rw [h.names, parent_withContents]
  have hentry (l : Location) : d'.entry? l = d.entry? l := by
    rw [h.names]
    rfl
  unfold Disk.openOrCreate
  rw [hparent]
  cases accepts p with
  | error e => exact .inl ⟨e, rfl, rfl⟩
  | ok u =>
    cases d.parent p.steps with
    | error e => exact .inl ⟨e, rfl, rfl⟩
    | ok x =>
      obtain ⟨dir, last⟩ := x
      simp only [bind, Except.bind]
      cases last with
      | name s =>
        simp only [hentry]
        split_ifs
        · exact .inl ⟨_, rfl, rfl⟩
        · exact .inl ⟨_, rfl, rfl⟩
        · cases d.entry? (dir ++ [s]) with
          | none =>
            obtain ⟨hid, hmade⟩ := h.create (dir ++ [s])
            have hpair : d'.create (dir ++ [s]) = (d.nextFile, (d'.create (dir ++ [s])).2) := Prod.ext hid rfl
            exact .inr ⟨_, _, _, rfl, congrArg Except.ok hpair, hmade⟩
          | some e =>
            cases e with
            | directory => exact .inl ⟨_, rfl, rfl⟩
            | file j => exact .inr ⟨j, d, d', rfl, rfl, h⟩
      | root => exact .inl ⟨_, rfl, rfl⟩
      | here => exact .inl ⟨_, rfl, rfl⟩
      | up => exact .inl ⟨_, rfl, rfl⟩

theorem append (h : d.AlikeBut id d') (p : Path) (bytes : Bytes) :
    (∃ e, d.append p bytes = .error e ∧ d'.append p bytes = .error e) ∨
      ∃ e e', d.append p bytes = .ok e ∧ d'.append p bytes = .ok e' ∧ e.AlikeBut id e' := by
  unfold Disk.append update
  rcases h.openOrCreate p with ⟨e, ho, ho'⟩ | ⟨j, e, e', ho, ho', he⟩
  · exact .inl ⟨e, by rw [ho], by rw [ho']⟩
  · refine .inr ⟨_, _, by rw [ho], by rw [ho'], he.setContent fun hj => ?_⟩
    rw [he.content j hj]

end AlikeBut
end Disk

namespace Watch

theorem ensureLog_alike {d d' : Disk} {id : FileId} (h : d.AlikeBut id d') (p : Path) :
    (ensureLog d' p).1 = (ensureLog d p).1 ∧ (ensureLog d p).2.AlikeBut id (ensureLog d' p).2 := by
  have hexists : d'.tryExists p = d.tryExists p := by
    unfold Disk.tryExists
    rw [h.find]
  unfold ensureLog
  rw [hexists]
  cases d.tryExists p with
  | error e => exact ⟨rfl, h⟩
  | ok found =>
    cases found with
    | true => exact ⟨rfl, h⟩
    | false =>
      obtain ⟨hanswer, hd⟩ := h.makeParents p
      generalize d'.makeParents p = made' at hanswer hd ⊢
      obtain ⟨failed, d₁'⟩ := made'
      obtain rfl : failed = _ := hanswer
      cases hmade : d.makeParents p with
      | mk failed d₁ =>
        rw [hmade] at hd
        cases failed with
        | some e => exact ⟨rfl, hd⟩
        | none =>
          rcases hd.openOrCreate p with ⟨e, ho, ho'⟩ | ⟨j, e, e', ho, ho', he⟩
          · simp only [ho, ho']
            exact ⟨trivial, hd⟩
          · simp only [ho, ho']
            exact ⟨trivial, he⟩

end Watch
end Foreman
