import Foreman.Proofs.Log.Following

/-! A cursor behind a log that is cut or written anew in place, any number of times. As long as the cursor is
asked before the file has grown beyond what was read of it, it begins again with the first byte, and nothing
of the text that was cut off is mixed with what it reads then. -/

namespace Foreman

namespace Disk
variable {d d' : Disk} {p : Path} {id : FileId}

theorem find_of_truncate {n : Nat} (h : d.truncate p n = .ok d') (q : Path) : d'.find q = d.find q := by
  unfold truncate at h
  cases hf : d.find p with
  | error e => simp [hf] at h
  | ok e =>
    cases e with
    | directory => simp [hf] at h
    | file id =>
      simp only [hf, Except.ok.injEq] at h
      rw [← h, find_setContent]

theorem find_of_writeFile {bytes : Bytes} (hf : d.find p = .ok (.file id))
    (h : d.writeFile p bytes = .ok d') : d'.find p = .ok (.file id) := by
  obtain rfl := update_eq hf h
  rw [find_setContent, hf]

end Disk

namespace Watch
open Cursor (Reading)

structure Trail where
  disk : Disk
  cursor : Cursor
  text : Bytes := []
  answers : List Reading := []
  cut : Bool := false
  /-- The texts that were cut off, each with the answers given over it. -/
  earlier : List (Bytes × List Reading) := []

def Trail.atRest (t : Trail) : Bool := Reading.atRest t.answers

/-- The file is only cut when the last answer was that there is no line, and the next question finds it
shorter than what was read of it. Until then it may be cut and written to as often as one likes. -/
inductive Truncated (p : Path) (id : FileId) : Trail → Prop
  | opened {d c} (h : Cursor.openAtEnd d p = .ok c) (hfile : c.source = .file id) :
    Truncated p id { disk := d, cursor := c }
  | grown {t d chunk} (h : Truncated p id t) (hcut : t.cut = false) (hg : t.disk.Grows p id chunk d) :
    Truncated p id { t with disk := d, text := t.text ++ chunk }
  | asked {t} (h : Truncated p id t) (hcut : t.cut = false) :
    Truncated p id { t with
      cursor := (t.cursor.next t.disk).2
      answers := t.answers ++ [(t.cursor.next t.disk).1] }
  | cut {t d} (h : Truncated p id t) (hrest : t.atRest = true)
    (hf : d.find p = .ok (.file id)) : Truncated p id { t with disk := d, cut := true }
  | noticed {t} (h : Truncated p id t) (hcut : t.cut = true)
    (hshort : (t.disk.content id).length < t.cursor.offset) :
    Truncated p id
      { disk := t.disk
        cursor := (t.cursor.next t.disk).2
        text := t.disk.content id
        earlier := t.earlier ++ [(t.text, t.answers)] }

namespace Trail

def Follows (t : Trail) (p : Path) (id : FileId) : Prop :=
  ∃ old read unread, t.cursor.Follows t.disk p id old read unread ∧ t.text = read ++ unread ∧
    Reading.lines t.answers = completeLines read ∧ (t.earlier ≠ [] → old = [])

structure Keeps (t : Trail) (p : Path) (id : FileId) : Prop where
  path : t.cursor.path = p
  source : t.cursor.source = .file id
  lines : Reading.lines t.answers <+: completeLines t.text
  earlier : ∀ x ∈ t.earlier, Reading.lines x.2 <+: completeLines x.1
  follows : t.cut = false → t.Follows p id
  sight : t.cut = true → t.disk.find p = .ok (.file id)

variable {t : Trail} {p : Path} {id : FileId}

theorem Follows.keeps (h : t.Follows p id) (hcut : t.cut = false)
    (he : ∀ x ∈ t.earlier, Reading.lines x.2 <+: completeLines x.1) : t.Keeps p id := by
  have ⟨old, read, unread, hc, ht, hl, _⟩ := h
  refine ⟨hc.path, hc.source, ?_, he, fun _ => h, fun hne => ?_⟩
  · rw [hl, ht]
    exact completeLines_mono read unread
  · rw [hcut] at hne
    cases hne

theorem Follows.asked (h : t.Follows p id) : Follows { t with
    cursor := (t.cursor.next t.disk).2
    answers := t.answers ++ [(t.cursor.next t.disk).1] } p id := by
  obtain ⟨old, read, unread, hc, ht, hl, hold⟩ := h
  obtain ⟨read', unread', hw, hc', hlines⟩ := hc.next
  refine ⟨old, read', unread', hc', ht.trans hw, ?_, hold⟩
  rw [hlines, ← hl, Reading.lines_concat]

theorem Keeps.next_of_cut (h : t.Keeps p id) (hcut : t.cut = true)
    (hshort : (t.disk.content id).length < t.cursor.offset) :
    t.cursor.next t.disk = (.restarted, { path := p, source := .file id, offset := 0 }) := by
  have hu : t.cursor.unread t.disk = [] := by
    rw [Cursor.unread, h.source]
    exact List.drop_eq_nil_of_le hshort.le
  have hnext := Cursor.next_eq_restarted (d := t.disk) h.source (by rw [hu]; rfl)
    (by rw [h.path, h.sight hcut]) (by rw [hu]; exact hshort)
  rw [hnext, h.path]

theorem Keeps.noticed (h : t.Keeps p id) (hcut : t.cut = true)
    (hshort : (t.disk.content id).length < t.cursor.offset) : Keeps
      { disk := t.disk
        cursor := (t.cursor.next t.disk).2
        text := t.disk.content id
        earlier := t.earlier ++ [(t.text, t.answers)] } p id := by
  have hnext := h.next_of_cut hcut hshort
  have hstart : Cursor.Reads { path := p, source := .file id, offset := 0 } t.disk id [] []
      (t.disk.content id) := Cursor.reads_of_start rfl rfl rfl t.disk
  have hsight : ∀ e, t.disk.find p = .ok e → e = .file id := by
    intro e he
    rw [h.sight hcut] at he
    exact (Except.ok.inj he).symm
  refine Follows.keeps ?_ rfl fun x hx => ?_
  · rw [hnext]
    exact ⟨[], [], t.disk.content id, .of_reads hstart rfl hsight, rfl, rfl, fun _ => rfl⟩
  · rcases List.mem_append.1 hx with hx | hx
    · exact h.earlier x hx
    · obtain rfl := List.mem_singleton.1 hx
      exact h.lines

end Trail

namespace Truncated
variable {p : Path} {id : FileId} {t : Trail} {d : Disk}

theorem keeps (h : Truncated p id t) : t.Keeps p id := by
  induction h with
  | opened h hfile =>
    exact Trail.Follows.keeps ⟨_, [], [], .openAtEnd h hfile, rfl, rfl, by simp⟩ rfl (by simp)
  | grown h hcut hg ih =>
    obtain ⟨old, read, unread, hc, ht, hl, hold⟩ := ih.follows hcut
    refine Trail.Follows.keeps ⟨old, read, _, hc.grows hg, ?_, hl, hold⟩ hcut ih.earlier
    rw [ht, List.append_assoc]
  | asked h hcut ih => exact (ih.follows hcut).asked.keeps hcut ih.earlier
  | cut h hrest hf ih =>
    exact ⟨ih.path, ih.source, ih.lines, ih.earlier, fun hcut => (by cases hcut), fun _ => hf⟩
  | noticed h hcut hshort ih => exact ih.noticed hcut hshort

/-- The first question after a cut is answered with no line, and what was kept of a line is dropped. From
then on the lines handed back are the first complete lines of the file, from its first byte and in order,
and only when none is left the cursor says so. -/
theorem lines_of_last_text (h : Truncated p id t) :
    (t.cut = true → (t.disk.content id).length < t.cursor.offset →
      (t.cursor.next t.disk).1.isNone = true ∧
        (t.cursor.next t.disk).2 = { path := p, source := .file id, offset := 0, fragment := [] }) ∧
    (t.cut = false →
      (t.earlier ≠ [] → t.text = t.disk.content id) ∧
      Reading.lines t.answers <+: completeLines t.text ∧
      (t.cursor.next t.disk).1 ≠ .restarted ∧
      ((t.cursor.next t.disk).1 = .pending → Reading.lines t.answers = completeLines t.text ∧
        (t.cursor.next t.disk).2.fragment = unfinished t.text) ∧
      ∀ e, (t.cursor.next t.disk).1 = .failed e →
        Reading.lines t.answers = completeLines t.text ∧ t.disk.find p = .error e) ∧
    ∀ x ∈ t.earlier, Reading.lines x.2 <+: completeLines x.1 := by
  have hk := h.keeps
  refine ⟨fun hcut hshort => ?_, fun hcut => ?_, hk.earlier⟩
  · rw [hk.next_of_cut hcut hshort]
    exact ⟨rfl, rfl⟩
  · obtain ⟨old, read, unread, hc, ht, hl, hold⟩ := hk.follows hcut
    refine ⟨fun he => ?_, hk.lines, ?_⟩
    · rw [ht, hc.content, hold he, List.nil_append]
    · rw [hl, ht]
      exact hc.next_answer

theorem appended {d' : Disk} {chunk : Bytes} (h : Truncated p id t) (hcut : t.cut = false)
    (hf : t.disk.find p = .ok (.file id)) (ha : t.disk.append p chunk = .ok d') :
    Truncated p id { t with disk := d', text := t.text ++ chunk } :=
  .grown h hcut (Disk.grows_of_append hf ha)

theorem truncated {d' : Disk} (n : Nat) (h : Truncated p id t)
    (hrest : t.atRest = true) (hf : t.disk.find p = .ok (.file id))
    (ht : t.disk.truncate p n = .ok d') : Truncated p id { t with disk := d', cut := true } :=
  .cut h hrest ((Disk.find_of_truncate ht p).trans hf)

theorem rewritten {d' : Disk} (bytes : Bytes) (h : Truncated p id t)
    (hrest : t.atRest = true) (hf : t.disk.find p = .ok (.file id))
    (hw : t.disk.writeFile p bytes = .ok d') : Truncated p id { t with disk := d', cut := true } :=
  .cut h hrest (Disk.find_of_writeFile hf hw)

theorem lines_of_last_text_cut : ∃ t, Truncated ⟨"log"⟩ 0 t ∧
    t.earlier = [([119, 111, 114], [.pending]), ([111, 108, 100, 10], [.line "old", .pending])] ∧
      t.answers = [.line "é"] ∧ t.text = [0xC3, 0xA9, 10] ∧ (t.cursor.next t.disk).1 = .pending ∧
      Reading.lines t.answers = completeLines t.text ∧ (t.cursor.next t.disk).2.fragment = [] := by
  have h₀ : Truncated ⟨"log"⟩ 0
      ⟨⟨[(["log"], .file 0)], [(0, [111, 108, 100, 33, 10])], 1, []⟩, ⟨⟨"log"⟩, .file 0, 5, []⟩,
        [], [], false, []⟩ := .opened rfl rfl
  have h₁ : Truncated ⟨"log"⟩ 0
      ⟨⟨[(["log"], .file 0)], [(0, [111, 108, 100, 33, 10, 119, 111, 114])], 1, []⟩,
        ⟨⟨"log"⟩, .file 0, 8, [119, 111, 114]⟩, [119, 111, 114], [.pending], false, []⟩ :=
    (h₀.appended rfl rfl rfl).asked rfl
  have h₂ : Truncated ⟨"log"⟩ 0
      ⟨⟨[(["log"], .file 0)], [(0, [111, 108, 100])], 1, []⟩,
        ⟨⟨"log"⟩, .file 0, 8, [119, 111, 114]⟩, [119, 111, 114], [.pending], true, []⟩ :=
    h₁.truncated 3 rfl rfl rfl
  have h₃ : Truncated ⟨"log"⟩ 0
      ⟨⟨[(["log"], .file 0)], [(0, [111, 108, 100, 10])], 1, []⟩, ⟨⟨"log"⟩, .file 0, 4, []⟩,
        [111, 108, 100, 10], [.line "old", .pending], false, [([119, 111, 114], [.pending])]⟩ :=
    (((h₂.cut rfl rfl).noticed rfl (by decide)).asked rfl).asked rfl
  have h₄ : Truncated ⟨"log"⟩ 0
      ⟨⟨[(["log"], .file 0)], [(0, [0xC3, 0xA9, 10])], 1, []⟩, ⟨⟨"log"⟩, .file 0, 3, []⟩,
        [0xC3, 0xA9, 10], [.line "é"], false,
        [([119, 111, 114], [.pending]), ([111, 108, 100, 10], [.line "old", .pending])]⟩ :=
    ((h₃.rewritten [0xC3, 0xA9, 10] rfl rfl rfl).noticed rfl (by decide)).asked rfl
  obtain ⟨-, -, -, hpending, -⟩ := (lines_of_last_text h₄).2.1 rfl
  obtain ⟨hlines, hfragment⟩ := hpending rfl
  exact ⟨_, h₄, rfl, rfl, rfl, rfl, hlines, hfragment⟩

end Truncated
end Watch
end Foreman
