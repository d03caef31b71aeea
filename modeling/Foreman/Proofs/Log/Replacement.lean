import Foreman.Proofs.Log.Following
import Mathlib.Data.List.Infix

/-! A cursor behind a log that is replaced by another file of the same name. It keeps to the old file as long
as that has a line left. The first look at the path after that decides: a file that is shorter than what was
read of the old one is read from its first byte on, and one that is as long or longer is not read. -/

namespace Foreman.Watch
open Cursor (Reading)

namespace Cursor
variable {id : FileId} {c₀ c : Cursor} {d : Disk} {x x' piece taken : Bytes}

/-- What the lines to come are made of, where the file that is read holds `x`. -/
def ahead (c : Cursor) (x : Bytes) : Bytes := c.fragment ++ x.drop c.offset

def answers (d : Disk) : Nat → Cursor → List Reading
  | 0, _ => []
  | n + 1, c => (c.next d).1 :: answers d n (c.next d).2

def ask : Cursor → List Disk → List Reading × Cursor
  | c, [] => ([], c)
  | c, d :: ds => ((c.next d).1 :: ((c.next d).2.ask ds).1, ((c.next d).2.ask ds).2)

def advance (c : Cursor) (piece kept : Bytes) : Cursor :=
  { c with offset := c.offset + piece.length, fragment := kept }

theorem ahead_advance {gone kept : Bytes} (h : piece <+: x.drop c.offset)
    (hk : c.fragment ++ piece = gone ++ kept) : c.ahead x = gone ++ (c.advance piece kept).ahead x := by
  obtain ⟨rest, hrest⟩ := h
  rw [ahead, ahead, advance, ← List.drop_drop, ← hrest, List.drop_left, ← List.append_assoc, hk,
    List.append_assoc]

theorem next_cases (hs : c.source = .file id) (hc : lineEnd ∉ c.fragment) (d : Disk) :
    (∃ ys, lineEnd ∉ ys ∧ ys ++ [lineEnd] <+: (d.content id).drop c.offset ∧
      c.next d = (.line (wholeLine (c.fragment ++ ys)), c.advance (ys ++ [lineEnd]) [])) ∨
    lineEnd ∉ (d.content id).drop c.offset ∧ c.next d =
      let c' := c.advance ((d.content id).drop c.offset) (c.fragment ++ (d.content id).drop c.offset)
      match c'.sighting d with
      | .unchanged => (.pending, c')
      | .failed e => (.failed e, c')
      | .shorter source => (.restarted, { c' with source, offset := 0, fragment := [] }) := by
  have hu : c.unread d = (d.content id).drop c.offset := by rw [Cursor.unread, hs]
  cases hsplit : splitLine ((d.content id).drop c.offset) with
  | some x =>
    obtain ⟨ys, hys, hline, hunread⟩ := splitLine_eq_some hsplit
    have hnot : lineEnd ∉ c.fragment ++ ys := by simpa using ⟨hc, hys⟩
    have hfile : ¬ c.source = .directory := by simp [hs]
    refine .inl ⟨ys, hys, ⟨x.2, by rw [← hline, ← hunread]⟩, ?_⟩
    rw [Cursor.next, if_neg hfile, hu, hsplit, ← lineText_append hnot, List.append_assoc, ← hline]
    rfl
  | none =>
    refine .inr ⟨splitLine_eq_none hsplit, ?_⟩
    rw [next_eq_atEnd hs (by rw [hu, hsplit]), atEnd, hu]
    rfl

theorem completeLines_ahead {ys : Bytes} (hc : lineEnd ∉ c.fragment) (hys : lineEnd ∉ ys)
    (h : ys ++ [lineEnd] <+: x.drop c.offset) : completeLines (c.ahead x) =
      wholeLine (c.fragment ++ ys) :: completeLines ((c.advance (ys ++ [lineEnd]) []).ahead x) := by
  rw [ahead_advance h (List.append_nil _).symm, completeLines_append_eq,
    completeLines_append_lineEnd _ hys, unfinished_append_lineEnd _ hys, completeLines_eq_nil hc,
    unfinished_eq_self hc]
  rfl

theorem lines_answers (hs : c.source = .file id) (hc : lineEnd ∉ c.fragment) (d : Disk) :
    ∃ n, Reading.lines (c.answers d n) = completeLines (c.ahead (d.content id)) := by
  induction hn : (d.content id).length - c.offset using Nat.strong_induction_on generalizing c with
  | _ k ih =>
    rcases c.next_cases hs hc d with ⟨ys, hys, hpiece, hnext⟩ | ⟨hnone, -⟩
    · have hlt : (d.content id).length - (c.advance (ys ++ [lineEnd]) []).offset < k := by
        have hlen := hpiece.length_le
        simp only [List.length_append, List.length_singleton, List.length_drop] at hlen
        simp only [advance, List.length_append, List.length_singleton]
        omega
      obtain ⟨n, hall⟩ := ih _ hlt (c := c.advance (ys ++ [lineEnd]) []) hs (by simp [advance]) rfl
      refine ⟨n + 1, ?_⟩
      rw [answers, hnext, completeLines_ahead hc hys hpiece, ← hall]
      rfl
    · have hnot : lineEnd ∉ c.ahead (d.content id) := by simpa [ahead] using ⟨hc, hnone⟩
      exact ⟨0, (completeLines_eq_nil hnot).symm⟩

/-- From `c₀` on the cursor has given the lines of `taken`, and has all the rest of the file ahead, also when
the file grows. -/
structure Drained (c₀ c : Cursor) (x taken : Bytes) : Prop where
  path : c.path = c₀.path
  source : c.source = c₀.source
  clean : lineEnd ∉ c.fragment
  closed : unfinished taken = []
  text : ∀ x', x <+: x' → c₀.ahead x' = taken ++ c.ahead x'
  low : c₀.offset ≤ c.offset
  high : c.offset ≤ max c₀.offset x.length

namespace Drained

theorem refl (hc : lineEnd ∉ c.fragment) (x : Bytes) : c.Drained c x [] :=
  ⟨rfl, rfl, hc, rfl, fun _ _ => rfl, le_rfl, le_max_left ..⟩

theorem grows (h : c₀.Drained c x taken) (hx : x <+: x') : c₀.Drained c x' taken := by
  have hlen := hx.length_le
  have hhigh := h.high
  exact ⟨h.path, h.source, h.clean, h.closed, fun x'' hx' => h.text x'' (hx.trans hx'), h.low, by omega⟩

theorem completeLines_eq (h : c₀.Drained c x taken) :
    completeLines (c₀.ahead x) = completeLines taken ++ completeLines (c.ahead x) := by
  rw [h.text x List.prefix_rfl, completeLines_append_eq, h.closed, List.nil_append]

theorem advance {gone kept : Bytes} (h : c₀.Drained c x taken) (hp : piece <+: x.drop c.offset)
    (hk : c.fragment ++ piece = gone ++ kept) (hkept : lineEnd ∉ kept)
    (hgone : unfinished gone = []) : c₀.Drained (c.advance piece kept) x (taken ++ gone) := by
  have hlen := hp.length_le
  rw [List.length_drop] at hlen
  have hhigh := h.high
  refine ⟨h.path, h.source, hkept, ?_, fun x' hx => ?_, ?_, ?_⟩
  · rw [unfinished_append_eq, h.closed, List.nil_append, hgone]
  · rw [h.text x' hx, ahead_advance (hp.trans (hx.drop _)) hk, List.append_assoc]
  · exact h.low.trans (Nat.le_add_right ..)
  · simp only [Cursor.advance]
    omega

theorem next {old new : FileId} (h : c₀.Drained c (d.content old) taken) (hs : c₀.source = .file old)
    (hf : d.find c₀.path = .ok (.file new)) :
    (∃ text taken', (c.next d).1 = .line text ∧ completeLines taken' = completeLines taken ++ [text] ∧
      c₀.Drained (c.next d).2 (d.content old) taken') ∨
    completeLines (c₀.ahead (d.content old)) = completeLines taken ∧
      if (d.content new).length < max c₀.offset (d.content old).length then
        c.next d = (.restarted, { path := c₀.path, source := .file new, offset := 0 })
      else (c.next d).1 = .pending ∧ c₀.Drained (c.next d).2 (d.content old) taken := by
  rcases c.next_cases (h.source.trans hs) h.clean d with ⟨ys, hys, hpiece, hnext⟩ | ⟨hnone, hnext⟩
  · refine .inl ⟨_, taken ++ (c.fragment ++ (ys ++ [lineEnd])), by rw [hnext], ?_, ?_⟩
    · rw [completeLines_append_eq, h.closed, List.nil_append, completeLines_append_lineEnd _ hys,
        completeLines_eq_nil h.clean, unfinished_eq_self h.clean, List.nil_append]
    · rw [hnext]
      exact h.advance hpiece (List.append_nil _).symm (by simp) (unfinished_append_lineEnd _ hys)
  · refine .inr ⟨?_, ?_⟩
    · have hnot : lineEnd ∉ c.ahead (d.content old) := by simpa [ahead] using ⟨h.clean, hnone⟩
      rw [h.completeLines_eq, completeLines_eq_nil hnot, List.append_nil]
    · have hkept : lineEnd ∉ c.fragment ++ (d.content old).drop c.offset := by
        simpa using ⟨h.clean, hnone⟩
      have hrest := h.advance List.prefix_rfl (List.nil_append _).symm hkept rfl
      have hoff : c.offset + ((d.content old).drop c.offset).length =
          max c₀.offset (d.content old).length := by
        have hlow := h.low
        have hhigh := h.high
        rw [List.length_drop]
        omega
      simp only [sighting, Cursor.advance, h.path, hf, Disk.lengthOf, hoff] at hnext
      split
      · rename_i hlt
        rw [hnext, if_pos hlt]
      · rename_i hlt
        rw [if_neg hlt] at hnext
        rw [hnext, ← hoff]
        rw [List.append_nil] at hrest
        exact ⟨rfl, by simpa only [Cursor.advance, h.path] using hrest⟩

end Drained

theorem next_clean (hc : lineEnd ∉ c.fragment) (d : Disk) : lineEnd ∉ (c.next d).2.fragment := by
  cases hs : c.source with
  | directory => rwa [Cursor.next, if_pos hs]
  | file id =>
    rcases c.next_cases hs hc d with ⟨ys, -, -, hnext⟩ | ⟨hnone, hnext⟩
    · simp [hnext, advance]
    · rw [hnext]
      simp only []
      split <;> simp [advance, hc, hnone]

theorem Follows.lines_answers {p : Path} {old read unread : Bytes} (h : c.Follows d p id old read unread) :
    ∃ n, completeLines read ++ Reading.lines (c.answers d n) = completeLines (read ++ unread) := by
  have hclean : lineEnd ∉ c.fragment := h.fragment ▸ lineEnd_notMem_unfinished read
  obtain ⟨n, hn⟩ := Cursor.lines_answers h.source hclean d
  refine ⟨n, ?_⟩
  rw [hn, ahead, h.fragment, h.content, h.offset, List.drop_left, ← completeLines_append_eq]

end Cursor

/-- A cursor that was placed at the end of a file, with what may have happened since. The disk is changed in
any way while the cursor is at rest. At other times the file it holds keeps what is in it, since a reader
may have taken a part of that ahead. -/
inductive Opened (p : Path) : Disk → Cursor → List Reading → Prop
  | opened {d c id} (h : Cursor.openAtEnd d p = .ok c) (hfile : c.source = .file id) : Opened p d c []
  | changed {d d' c answers} (h : Opened p d c answers) (hrest : Reading.atRest answers = true) :
    Opened p d' c answers
  | grown {d d' c answers id} (h : Opened p d c answers) (hs : c.source = .file id)
    (hkept : d.content id <+: d'.content id) : Opened p d' c answers
  | asked {d c answers} (h : Opened p d c answers) :
    Opened p d (c.next d).2 (answers ++ [(c.next d).1])

structure Resting (p : Path) (d : Disk) (c : Cursor) (answers : List Reading) : Prop where
  opened : Opened p d c answers
  quiet : Reading.atRest answers = true

/-- The answers of a cursor that holds one file and is asked again and again, while another file stands at
the path. What is written is written at the end of that file, and of the old one as long as it is held. -/
inductive Asked (p : Path) (old new : FileId) (d₀ : Disk) (c₀ : Cursor) :
    Disk → Cursor → List Reading → Prop
  | begun : Asked p old new d₀ c₀ d₀ c₀ []
  | grown {d d' c answers} (h : Asked p old new d₀ c₀ d c answers)
    (hf : d'.find p = .ok (.file new)) (hnew : d.content new <+: d'.content new)
    (hold : c.source = .file old → d.content old <+: d'.content old) : Asked p old new d₀ c₀ d' c answers
  | asked {d c answers} (h : Asked p old new d₀ c₀ d c answers) :
    Asked p old new d₀ c₀ d (c.next d).2 (answers ++ [(c.next d).1])

variable {p : Path} {old new : FileId} {d₀ d d' : Disk} {c₀ c c' : Cursor} {taken : Bytes}
  {answers₀ answers after : List Reading}

theorem Opened.path_eq (h : Opened p d c answers) : c.path = p ∧ lineEnd ∉ c.fragment := by
  induction h with
  | opened h _ =>
    obtain ⟨-, hc⟩ := Cursor.openAtEnd_eq_ok h
    rw [hc]
    exact ⟨rfl, by simp⟩
  | changed _ _ ih => exact ih
  | grown _ _ _ ih => exact ih
  | @asked d c _ _ ih => exact ⟨(c.next_path d).trans ih.1, Cursor.next_clean ih.2 d⟩

theorem Resting.changed (h : Resting p d c answers) : Resting p d' c answers :=
  ⟨h.opened.changed h.quiet, h.quiet⟩

namespace Asked

theorem find_eq (h : Asked p old new d₀ c₀ d c answers) (hf : d₀.find p = .ok (.file new)) :
    d.find p = .ok (.file new) := by
  induction h with
  | begun => exact hf
  | grown _ hf => exact hf
  | asked _ ih => exact ih

theorem drained_or_follows (h : Asked p old new d₀ c₀ d c answers)
    (hc : c₀.path = p ∧ lineEnd ∉ c₀.fragment) (hs : c₀.source = .file old)
    (hf : d₀.find p = .ok (.file new)) :
    (Reading.restarted ∉ answers ∧ ∃ taken, c₀.Drained c (d.content old) taken ∧
      completeLines taken = Reading.lines answers) ∨
    ∃ before after read unread, answers = before ++ .restarted :: after ∧
      Reading.restarted ∉ before ++ after ∧ c.Follows d p new [] read unread ∧
      completeLines read = Reading.lines after := by
  induction h with
  | begun => exact .inl ⟨by simp, [], .refl hc.2 _, rfl⟩
  | grown _ hf' hnew hold ih =>
    rcases ih with ⟨hno, taken, hd, hl⟩ | ⟨before, after, read, unread, ha, hno, hd, hl⟩
    · exact .inl ⟨hno, taken, hd.grows (hold (hd.source.trans hs)), hl⟩
    · obtain ⟨chunk, hchunk⟩ := hnew
      have hgrows : Disk.Grows p new chunk _ _ := ⟨hchunk.symm, fun e he => by
        rw [hf'] at he
        exact (Except.ok.inj he).symm⟩
      exact .inr ⟨before, after, read, _, ha, hno, hd.grows hgrows, hl⟩
  | @asked d c answers h ih =>
    rcases ih with ⟨hno, taken, hd, hl⟩ | ⟨before, after, read, unread, rfl, hno, hd, hl⟩
    · have hlook : d.find c₀.path = .ok (.file new) := by rw [hc.1, h.find_eq hf]
      rcases hd.next hs hlook with ⟨text, taken', hnext, hl', hd'⟩ | ⟨-, hnext⟩
      · refine .inl ⟨by simp [hno, hnext], taken', hd', ?_⟩
        rw [hl', hl, Reading.lines_concat, hnext]
        rfl
      · split at hnext
        · refine .inr ⟨answers, [], [], d.content new, by rw [hnext], by simpa using hno, ?_, rfl⟩
          rw [hnext, hc.1]
          refine .of_reads (Cursor.reads_of_start rfl rfl rfl d) rfl fun e he => ?_
          rw [h.find_eq hf] at he
          exact (Except.ok.inj he).symm
        · refine .inl ⟨by simp [hno, hnext.1], taken, hnext.2, ?_⟩
          rw [hl, Reading.lines_concat, hnext.1]
          exact (List.append_nil _).symm
    · obtain ⟨read', unread', -, hd', hlines⟩ := hd.next
      refine .inr ⟨before, after ++ [(c.next d).1], read', unread', by simp, ?_, hd', ?_⟩
      · have hne : (c.next d).1 ≠ .restarted := hd.next_answer.1
        rw [← List.append_assoc, List.mem_append, List.mem_singleton]
        exact not_or.2 ⟨hno, hne.symm⟩
      · rw [hlines, hl, Reading.lines_concat]

theorem pending_of_le {ds : List Disk} (hd : c₀.Drained c (d.content old) taken)
    (hall : completeLines (c₀.ahead (d.content old)) = completeLines taken)
    (hs : c₀.source = .file old) (hp : c₀.path = p)
    (hds : ∀ d' ∈ ds, d'.find p = .ok (.file new) ∧ d'.content old = d.content old ∧
      max c₀.offset (d.content old).length ≤ (d'.content new).length) :
    ∀ a ∈ (c.ask ds).1, a = .pending := by
  induction ds generalizing c with
  | nil => exact fun a ha => by cases ha
  | cons d' ds ih =>
    obtain ⟨⟨hf, hkept, hle⟩, hds⟩ := List.forall_mem_cons.1 hds
    have hd' := hd
    rw [← hkept] at hd'
    rcases hd'.next hs (by rw [hp, hf]) with ⟨text, taken', -, hl, hd''⟩ | ⟨-, hnext⟩
    · -- a further line would be one more than there are
      have hlines := hd''.completeLines_eq
      rw [hkept, hall, hl] at hlines
      simp at hlines
    · rw [hkept, if_neg (by omega)] at hnext
      exact List.forall_mem_cons.2 ⟨hnext.1, ih hnext.2 hds⟩

/-- The old file is still read. A question is left without a line only behind all its lines, and then the
lengths decide. -/
structure ReadsOld (p : Path) (old new : FileId) (c₀ : Cursor) (d : Disk) (c : Cursor)
    (answers : List Reading) : Prop where
  notBegun : Reading.restarted ∉ answers
  order : Reading.lines answers <+: completeLines (c₀.ahead (d.content old))
  complete : ∃ n, Reading.lines (answers ++ c.answers d n) = completeLines (c₀.ahead (d.content old))
  decided : (c.next d).1.isNone = true →
    Reading.lines answers = completeLines (c₀.ahead (d.content old)) ∧
      ((c.next d).1 = .restarted ↔ (d.content new).length < max c₀.offset (d.content old).length)
  /-- A file that is as long is never begun, as long as the old one stays as it is. -/
  silent : Reading.lines answers = completeLines (c₀.ahead (d.content old)) → ∀ ds : List Disk,
    (∀ d' ∈ ds, d'.find p = .ok (.file new) ∧ d'.content old = d.content old ∧
      max c₀.offset (d.content old).length ≤ (d'.content new).length) → ∀ a ∈ (c.ask ds).1, a = .pending

structure ReadsNew (new : FileId) (d : Disk) (c : Cursor) (answers : List Reading) : Prop where
  order : Reading.lines answers <+: completeLines (d.content new)
  complete : ∃ n, Reading.lines (answers ++ c.answers d n) = completeLines (d.content new)
  notAgain : (c.next d).1 ≠ .restarted
  whole : (c.next d).1 = .pending → Reading.lines answers = completeLines (d.content new)

theorem readsOld (hd : c₀.Drained c (d.content old) taken)
    (hl : completeLines taken = Reading.lines answers) (hno : Reading.restarted ∉ answers)
    (hs : c₀.source = .file old) (hp : c₀.path = p)
    (hf : d.find p = .ok (.file new)) :
    (∀ e, (c.next d).1 ≠ .failed e) ∧ ReadsOld p old new c₀ d c answers := by
  have hall := hd.completeLines_eq
  rw [hl] at hall
  obtain ⟨n, hn⟩ := Cursor.lines_answers (hd.source.trans hs) hd.clean d
  suffices hnext : (∀ e, (c.next d).1 ≠ .failed e) ∧ ((c.next d).1.isNone = true →
      Reading.lines answers = completeLines (c₀.ahead (d.content old)) ∧
        ((c.next d).1 = .restarted ↔ (d.content new).length < max c₀.offset (d.content old).length)) by
    refine ⟨hnext.1, hno, hall ▸ List.prefix_append .., ⟨n, by rw [Reading.lines_append, hn, hall]⟩,
      hnext.2, fun hlines ds hds => ?_⟩
    exact pending_of_le hd (by rw [hl, hlines]) hs hp hds
  rcases hd.next hs (by rw [hp, hf]) with ⟨text, _, hnext, -, -⟩ | ⟨hlines, hnext⟩
  · simp [hnext, Reading.isNone]
  · rw [hl] at hlines
    split at hnext
    · rename_i hlt
      exact ⟨by simp [hnext], fun _ => ⟨hlines.symm, by simpa [hnext] using hlt⟩⟩
    · rename_i hlt
      exact ⟨by simp [hnext.1], fun _ => ⟨hlines.symm, by simpa [hnext.1] using hlt⟩⟩

theorem readsNew {read unread : Bytes} (hd : c.Follows d p new [] read unread)
    (hl : completeLines read = Reading.lines answers) (hf : d.find p = .ok (.file new)) :
    (∀ e, (c.next d).1 ≠ .failed e) ∧ ReadsNew new d c answers := by
  have hcontent : d.content new = read ++ unread := hd.content
  obtain ⟨n, hn⟩ := hd.lines_answers
  obtain ⟨hne, hwhole, hfailed⟩ := hd.next_answer
  rw [hl, ← hcontent] at hn hwhole
  refine ⟨fun e he => ?_, ?_, ⟨n, by rw [Reading.lines_append, hn]⟩, hne, fun h => (hwhole h).1⟩
  · have hmissing := (hfailed e he).2
    rw [hf] at hmissing
    cases hmissing
  · rw [← hl, hcontent]
    exact completeLines_mono read unread

/-- A cursor at rest that holds a file while another one stands at its path reads the rest of the file it
holds, and begins the other one if that is shorter when nothing is left. -/
theorem begun_again_if_shorter (h₀ : Resting p d₀ c₀ answers₀) (hs : c₀.source = .file old)
    (hf : d₀.find p = .ok (.file new)) (h : Asked p old new d₀ c₀ d c answers) :
    (∀ e, (c.next d).1 ≠ .failed e) ∧
    (ReadsOld p old new c₀ d c answers ∨
      ∃ before after, answers = before ++ .restarted :: after ∧ Reading.restarted ∉ before ++ after ∧
        ReadsNew new d c after) := by
  have hc := h₀.opened.path_eq
  have hlook := h.find_eq hf
  rcases h.drained_or_follows hc hs hf with
    ⟨hno, taken, hd, hl⟩ | ⟨before, after, read, unread, ha, hno, hd, hl⟩
  · obtain ⟨hfailed, hold⟩ := readsOld hd hl hno hs hc.1 hlook
    exact ⟨hfailed, .inl hold⟩
  · obtain ⟨hfailed, hnew⟩ := readsNew hd hl hlook
    exact ⟨hfailed, .inr ⟨before, after, ha, hno, hnew⟩⟩

theorem begun_again_if_shorter_recreated : ∃ d₀ d₁ d₂ d c c',
    Resting ⟨"log"⟩ d₀ c [.pending] ∧ d₀.removeFile ⟨"log"⟩ = .ok d₁ ∧
      d₁.writeFile ⟨"log"⟩ [110, 101, 119, 10] = .ok d₂ ∧
      Asked ⟨"log"⟩ 0 1 d₂ c d c' [.restarted, .line "new", .line "é"] ∧
      d.content 1 = [110, 101, 119, 10, 0xC3, 0xA9, 10, 33] ∧
      ∃ before after, [.restarted, .line "new", .line "é"] = before ++ .restarted :: after ∧
        Reading.lines after = completeLines (d.content 1) := by
  have h₀ : Resting ⟨"log"⟩ ⟨[(["log"], .file 0)], [(0, [111, 108, 100, 10, 33])], 1, []⟩
      ⟨⟨"log"⟩, .file 0, 5, [33]⟩ [.pending] :=
    ⟨((Opened.opened (d := ⟨[(["log"], .file 0)], [(0, [111, 108, 100, 10])], 1, []⟩)
      (c := ⟨⟨"log"⟩, .file 0, 4, []⟩) rfl rfl).grown rfl ⟨[33], rfl⟩).asked, rfl⟩
  have h₁ : Asked ⟨"log"⟩ 0 1
      ⟨[(["log"], .file 1)], [(1, [110, 101, 119, 10]), (0, [111, 108, 100, 10, 33])], 2, []⟩
      ⟨⟨"log"⟩, .file 0, 5, [33]⟩
      ⟨[(["log"], .file 1)], [(1, [110, 101, 119, 10]), (0, [111, 108, 100, 10, 33])], 2, []⟩
      ⟨⟨"log"⟩, .file 1, 4, []⟩ [.restarted, .line "new"] := Asked.begun.asked.asked
  have h₂ : Asked ⟨"log"⟩ 0 1
      ⟨[(["log"], .file 1)], [(1, [110, 101, 119, 10]), (0, [111, 108, 100, 10, 33])], 2, []⟩
      ⟨⟨"log"⟩, .file 0, 5, [33]⟩
      ⟨[(["log"], .file 1)], [(1, [110, 101, 119, 10, 0xC3, 0xA9, 10, 33])], 2, []⟩
      ⟨⟨"log"⟩, .file 1, 4, []⟩ [.restarted, .line "new"] :=
    h₁.grown rfl ⟨[0xC3, 0xA9, 10, 33], rfl⟩ nofun
  have h₃ : Asked ⟨"log"⟩ 0 1 _ _ _ ⟨⟨"log"⟩, .file 1, 7, []⟩
      [.restarted, .line "new", .line "é"] := h₂.asked
  obtain ⟨-, hold | ⟨before, after, ha, -, hnew⟩⟩ := begun_again_if_shorter h₀.changed rfl rfl h₃
  · exact absurd (by simp) hold.notBegun
  · exact ⟨_, _, _, _, _, _, h₀, rfl, rfl, h₃, rfl, before, after, ha, hnew.whole rfl⟩

/-- An empty log is never shorter than what was read of it. -/
theorem not_followed_of_recreated : ¬ ∀ p id d₀ c answers d d₁ bytes, Opened p d₀ c answers →
    answers.getLast?.any Reading.isNone = true → d₀.find p = .ok (.file id) → c.source = .file id →
    d₀.removeFile p = .ok d → d.writeFile p bytes = .ok d₁ →
    ∀ line ∈ completeLines bytes, ∃ n, line ∈ Reading.lines (c.answers d₁ n) := by
  intro hall
  have h₀ : Opened ⟨"log"⟩ ⟨[(["log"], .file 0)], [(0, [])], 1, []⟩ ⟨⟨"log"⟩, .file 0, 0, []⟩
      [.pending] :=
    (Opened.opened (d := ⟨[(["log"], .file 0)], [(0, [])], 1, []⟩) (c := ⟨⟨"log"⟩, .file 0, 0, []⟩)
      rfl rfl).asked
  obtain ⟨n, hn⟩ := hall _ 0 _ _ _ ⟨[], [(0, [])], 1, []⟩
    ⟨[(["log"], .file 1)], [(1, [110, 101, 119, 10]), (0, [])], 2, []⟩ [110, 101, 119, 10]
    h₀ rfl rfl rfl rfl rfl "new" (by decide)
  have hpending : Reading.lines (Cursor.answers
      ⟨[(["log"], .file 1)], [(1, [110, 101, 119, 10]), (0, [])], 2, []⟩ n
        ⟨⟨"log"⟩, .file 0, 0, []⟩) = [] := by
    clear hn
    induction n with
    | zero => rfl
    | succ n ih => exact ih
  rw [hpending] at hn
  cases hn

end Asked
end Foreman.Watch
