import Foreman.Proofs.Log.Growth
import Foreman.Proofs.Log.Names
import Mathlib.Data.List.Induction
import Mathlib.Data.List.Infix
import Mathlib.Tactic.ByContra
import Mathlib.Tactic.SplitIfs

/-! What stands where on a disk, and what still stands there after a change. Above all that there is are
directories. -/

namespace Foreman.Disk

/-- A tree of files and directories, whose files are told apart by numbers that were given out. -/
structure Sound (d : Disk) : Prop where
  numbered : ∀ l id, d.entry? l = some (.file id) → id < d.nextFile
  rooted : ∀ l name, (d.entry? (l ++ [name])).isSome → d.entry? l = some .directory

def seen (d : Disk) (l : Location) : Option (Option Bytes) :=
  (d.entry? l).map fun
    | .directory => none
    | .file id => some (d.content id)

structure Keeps (d d' : Disk) : Prop where
  home : d'.home = d.home
  entry : ∀ l e, d.entry? l = some e → d'.entry? l = some e
  content : ∀ id < d.nextFile, d'.content id = d.content id
  nextFile : d.nextFile ≤ d'.nextFile

variable {d d' d'' : Disk} {l m dir : Location} {e : Entry} {id : FileId} {p : Path} {cs : List Path.Component}

theorem lookup_filter {α β : Type} [BEq α] [LawfulBEq α] (q : α → Bool) (xs : List (α × β)) (k : α) :
    (xs.filter fun x => q x.1).lookup k = if q k then xs.lookup k else none := by
  induction xs with
  | nil => simp
  | cons x xs ih =>
    obtain ⟨k', v⟩ := x
    by_cases hk : k = k'
    · subst hk
      by_cases hq : q k
      · simp [hq]
      · simp [hq, ih]
    · have hne : (k == k') = false := beq_false_of_ne hk
      by_cases hq : q k'
      · simp [hq, List.lookup_cons, hne, ih]
      · simp [hq, List.lookup_cons, hne, ih]

theorem entry?_of_ne (d : Disk) (hl : l ≠ []) : d.entry? l = d.entries.lookup l := if_neg hl

theorem entry?_put (d : Disk) (e : Entry) (hl : l ≠ []) (m : Location) :
    entry? (d.put l e) m = if m = l then some e else d.entry? m := by
  by_cases hm : m = []
  · subst hm
    rw [if_neg (Ne.symm hl)]
    rfl
  · rw [entry?_of_ne _ hm, entry?_of_ne _ hm, put]
    by_cases hml : m = l
    · simp [hml]
    · have hne : (m == l) = false := beq_false_of_ne hml
      have hfilter := lookup_filter (fun m => decide (m ≠ l)) d.entries m
      rw [if_pos (by simpa using hml)] at hfilter
      rw [List.lookup_cons, hne, hfilter, if_neg hml]

theorem entry?_clearBelow (d : Disk) (l m : Location) :
    entry? (d.clearBelow l) m = if l <+: m ∧ m ≠ l then none else d.entry? m := by
  by_cases hm : m = []
  · subst hm
    have hnot : ¬ (l <+: [] ∧ [] ≠ l) := fun ⟨hpre, hne⟩ => hne (List.prefix_nil.1 hpre).symm
    rw [if_neg hnot]
    rfl
  · rw [entry?_of_ne _ hm, entry?_of_ne _ hm]
    refine (lookup_filter (fun m => !(l.isPrefixOf m && m ≠ l)) d.entries m).trans ?_
    have hkept : (!(l.isPrefixOf m && decide (m ≠ l))) = true ↔ ¬ (l <+: m ∧ m ≠ l) := by
      rw [Bool.not_eq_true', ← Bool.not_eq_true, Bool.and_eq_true, List.isPrefixOf_iff_prefix, decide_eq_true_iff]
    by_cases hpre : l <+: m ∧ m ≠ l
    · rw [if_pos hpre, if_neg (fun h => hkept.1 h hpre)]
    · rw [if_neg hpre, if_pos (hkept.2 hpre)]

theorem entry?_erase (d : Disk) (l m : Location) :
    entry? (d.erase l) m = if l <+: m ∧ m ≠ [] then none else d.entry? m := by
  by_cases hm : m = []
  · subst hm
    rw [if_neg (by simp)]
    rfl
  · rw [entry?_of_ne _ hm, entry?_of_ne _ hm]
    refine (lookup_filter (fun m => !l.isPrefixOf m) d.entries m).trans ?_
    have hkept : (!l.isPrefixOf m) = true ↔ ¬ l <+: m := by
      rw [Bool.not_eq_true', ← Bool.not_eq_true, List.isPrefixOf_iff_prefix]
    by_cases hpre : l <+: m
    · rw [if_neg (fun h => hkept.1 h hpre), if_pos ⟨hpre, hm⟩]
    · rw [if_pos (hkept.2 hpre), if_neg (fun h => hpre h.1)]

namespace Sound

theorem above (h : d.Sound) (hm : (d.entry? m).isSome) (hpre : l <+: m) (hne : l ≠ m) :
    d.entry? l = some .directory := by
  obtain ⟨below, rfl⟩ := hpre
  induction below using List.reverseRecOn with
  | nil => exact absurd (List.append_nil l).symm hne
  | append_singleton below name ih =>
    rw [← List.append_assoc] at hm
    have hparent : d.entry? (l ++ below) = some .directory := h.rooted _ _ hm
    by_cases hbelow : l = l ++ below
    · rwa [← hbelow] at hparent
    · exact ih (by rw [hparent]; rfl) hbelow

theorem nothing_below (h : d.Sound) (hl : d.entry? l ≠ some .directory) (hpre : l <+: m) (hne : l ≠ m) :
    d.entry? m = none := by
  by_contra hm
  exact hl (h.above (Option.isSome_iff_ne_none.2 hm) hpre hne)

theorem put (h : d.Sound) {name : String} (hdir : d.entry? dir = some .directory)
    (hnew : d.entry? (dir ++ [name]) = none) (hnumber : ∀ id, e = .file id → id < d.nextFile) :
    (d.put (dir ++ [name]) e).Sound := by
  have hentry := d.entry?_put e (l := dir ++ [name]) (by simp)
  constructor
  · intro l id hl
    rw [hentry] at hl
    split_ifs at hl
    · exact hnumber id (Option.some.inj hl)
    · exact h.numbered l id hl
  · intro l name' hl
    rw [hentry] at hl
    -- what is put there has nothing below it yet
    have hparent : d.entry? l = some .directory := by
      split_ifs at hl with heq
      · rwa [(List.append_inj' heq rfl).1]
      · exact h.rooted l name' hl
    rw [hentry, if_neg, hparent]
    rintro rfl
    rw [hnew] at hparent
    cases hparent

theorem setContent (h : d.Sound) (id : FileId) (bytes : Bytes) : (d.setContent id bytes).Sound :=
  ⟨h.numbered, h.rooted⟩

end Sound

theorem sound_empty : Sound {} := by
  have hentry : ∀ l e, entry? {} l = some e → l = [] := by
    intro l e he
    by_contra hl
    rw [entry?_of_ne _ hl] at he
    cases he
  constructor
  · intro l id he
    cases hentry l _ he
    cases he
  · intro l name he
    obtain ⟨e, he⟩ := Option.isSome_iff_exists.1 he
    exact absurd (hentry _ e he) (by simp)

namespace Keeps

theorem refl (d : Disk) : d.Keeps d := ⟨rfl, fun _ _ h => h, fun _ _ => rfl, Nat.le_refl _⟩

theorem trans (h : d.Keeps d') (h' : d'.Keeps d'') : d.Keeps d'' where
  home := h'.home.trans h.home
  entry := fun l e he => h'.entry l e (h.entry l e he)
  content := fun id hid => (h'.content id (Nat.lt_of_lt_of_le hid h.nextFile)).trans (h.content id hid)
  nextFile := Nat.le_trans h.nextFile h'.nextFile

theorem seen (h : d.Keeps d') (hd : d.Sound) {x : Option Bytes} (hx : d.seen l = some x) :
    d'.seen l = some x := by
  unfold Disk.seen at hx ⊢
  cases he : d.entry? l with
  | none => simp [he] at hx
  | some e =>
    rw [h.entry l e he]
    rw [he] at hx
    cases e with
    | directory => exact hx
    | file id =>
      rw [← hx]
      exact congrArg (some ∘ some) (h.content id (hd.numbered l id he))

end Keeps

end Foreman.Disk
