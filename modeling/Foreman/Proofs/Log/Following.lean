import Foreman.Proofs.Log.Growth
import Foreman.Proofs.Log.Reading

/-! A cursor behind a log that only grows. However the log is cut into chunks and wherever the cursor is asked
between them, it hands back the complete lines of all that has been written, one after another. -/

namespace Foreman.Watch

/-- Of all that was written behind `old`, the cursor has read `read`, and `unread` is still ahead of it. -/
structure Cursor.Follows (c : Cursor) (d : Disk) (p : Path) (id : FileId) (old read unread : Bytes) :
    Prop where
  path : c.path = p
  source : c.source = .file id
  content : d.content id = old ++ read ++ unread
  offset : c.offset = (old ++ read).length
  fragment : c.fragment = unfinished read
  sight : ∀ e, d.find p = .ok e → e = .file id

theorem Cursor.openAtEnd_eq_ok {d : Disk} {p : Path} {c : Cursor} (h : openAtEnd d p = .ok c) :
    d.find p = .ok c.source ∧ c = { path := p, source := c.source, offset := d.lengthOf c.source } := by
  unfold openAtEnd at h
  cases hf : d.find p with
  | error e => simp [hf, Except.map] at h
  | ok source =>
    simp only [hf, Except.map, Except.ok.injEq] at h
    subst h
    exact ⟨rfl, rfl⟩

namespace Cursor.Follows
variable {c : Cursor} {d d' : Disk} {p : Path} {id : FileId} {old read unread chunk : Bytes}

theorem openAtEnd (h : Cursor.openAtEnd d p = .ok c) (hfile : c.source = .file id) :
    c.Follows d p id (d.content id) [] [] := by
  obtain ⟨hf, hc⟩ := Cursor.openAtEnd_eq_ok h
  rw [hfile] at hf hc
  subst hc
  refine ⟨rfl, rfl, by simp, by simp [Disk.lengthOf], rfl, fun e he => ?_⟩
  rw [hf] at he
  exact (Except.ok.inj he).symm

theorem grows (h : c.Follows d p id old read unread) (hg : d.Grows p id chunk d') :
    c.Follows d' p id old read (unread ++ chunk) :=
  ⟨h.path, h.source, by rw [hg.content, h.content, List.append_assoc], h.offset, h.fragment, hg.sight⟩

theorem reads (h : c.Follows d p id old read unread) : c.Reads d id old read unread :=
  ⟨h.source, h.content, h.offset, h.fragment⟩

theorem of_reads (h : c.Reads d id old read unread) (hp : c.path = p)
    (hsight : ∀ e, d.find p = .ok e → e = .file id) : c.Follows d p id old read unread :=
  ⟨hp, h.source, h.content, h.offset, h.fragment, hsight⟩

theorem next_line (h : c.Follows d p id old read unread) {line rest : Bytes}
    (hs : splitLine unread = some (line, rest)) :
    ∃ text, (c.next d).1 = .line text ∧
      completeLines (read ++ line) = completeLines read ++ [text] ∧
      (c.next d).2.Follows d p id old (read ++ line) rest := by
  obtain ⟨text, hnext, hlines, hr⟩ := h.reads.next_line hs
  exact ⟨text, hnext, hlines, .of_reads hr ((c.next_path d).trans h.path) h.sight⟩

theorem sighting_eq (h : c.Follows d p id old read []) : c.sighting d = .unchanged ∨
    ∃ e, c.sighting d = .failed e ∧ d.find p = .error e := by
  unfold Cursor.sighting
  rw [h.path]
  cases hf : d.find p with
  | error e =>
    cases e with
    | notFound => exact .inl rfl
    | _ => exact .inr ⟨_, rfl, rfl⟩
  | ok source =>
    obtain rfl := h.sight source hf
    have hlen : ¬ d.lengthOf (.file id) < c.offset := by
      simp [Disk.lengthOf, h.content, h.offset]
    exact .inl (if_neg hlen)

theorem next_none (h : c.Follows d p id old read unread) (hs : splitLine unread = none) :
    ((c.next d).1 = .pending ∨ ∃ e, (c.next d).1 = .failed e ∧ d.find p = .error e) ∧
      completeLines (read ++ unread) = completeLines read ∧
      (c.next d).2.Follows d p id old (read ++ unread) [] := by
  obtain ⟨c', hpath, hr, hlines, hnext⟩ := h.reads.next_none hs
  have hc : c'.Follows d p id old (read ++ unread) [] := .of_reads hr (hpath.trans h.path) h.sight
  rw [hnext]
  refine ⟨?_, hlines, ?_⟩
  · rcases hc.sighting_eq with hsee | ⟨e, hsee, hf⟩
    · simp only [hsee, true_or]
    · exact .inr ⟨e, by simp only [hsee], hf⟩
  · rcases hc.sighting_eq with hsee | ⟨e, hsee, -⟩ <;> simpa only [hsee] using hc

theorem next_answer (h : c.Follows d p id old read unread) : (c.next d).1 ≠ .restarted ∧
    ((c.next d).1 = .pending → completeLines read = completeLines (read ++ unread) ∧
      (c.next d).2.fragment = unfinished (read ++ unread)) ∧
    ∀ e, (c.next d).1 = .failed e → completeLines read = completeLines (read ++ unread) ∧
      d.find p = .error e := by
  cases hs : splitLine unread with
  | some x =>
    obtain ⟨text, hnext, -, -⟩ := h.next_line hs
    simp [hnext]
  | none =>
    obtain ⟨hnext, hlines, hc⟩ := h.next_none hs
    rcases hnext with hnext | ⟨e, hnext, hf⟩
    · simp [hnext, hlines, hc.fragment]
    · simp [hnext, hlines, hf]

theorem next (h : c.Follows d p id old read unread) : ∃ read' unread',
    read ++ unread = read' ++ unread' ∧ (c.next d).2.Follows d p id old read' unread' ∧
      completeLines read' = completeLines read ++ (c.next d).1.line?.toList := by
  cases hs : splitLine unread with
  | some x =>
    obtain ⟨text, hnext, hlines, hc⟩ := h.next_line hs
    obtain ⟨-, -, -, hunread⟩ := splitLine_eq_some hs
    refine ⟨read ++ x.1, x.2, by rw [List.append_assoc, ← hunread], hc, ?_⟩
    rw [hlines, hnext]
    rfl
  | none =>
    obtain ⟨hnext, hlines, hc⟩ := h.next_none hs
    refine ⟨read ++ unread, [], by rw [List.append_nil], hc, ?_⟩
    rcases hnext with hnext | ⟨e, hnext, -⟩ <;> simp [hlines, hnext, Cursor.Reading.line?]

end Cursor.Follows

/-- A cursor that was placed at the end of a log, and the log as it grows: what has been written since, and
the answers that the cursor has given. -/
inductive Followed (p : Path) (id : FileId) : Disk → Cursor → Bytes → List Cursor.Reading → Prop
  | opened {d c} (h : Cursor.openAtEnd d p = .ok c) (hfile : c.source = .file id) :
    Followed p id d c [] []
  | grown {d d' c written answers chunk} (h : Followed p id d c written answers)
    (hg : d.Grows p id chunk d') : Followed p id d' c (written ++ chunk) answers
  | asked {d c written answers} (h : Followed p id d c written answers) :
    Followed p id d (c.next d).2 written (answers ++ [(c.next d).1])

namespace Followed
variable {p : Path} {id : FileId} {d : Disk} {c : Cursor} {written : Bytes}
  {answers : List Cursor.Reading}

theorem follows (h : Followed p id d c written answers) : ∃ old read unread,
    c.Follows d p id old read unread ∧ written = read ++ unread ∧
      answers.filterMap Cursor.Reading.line? = completeLines read := by
  induction h with
  | opened h hfile => exact ⟨_, [], [], .openAtEnd h hfile, rfl, rfl⟩
  | grown _ hg ih =>
    obtain ⟨old, read, unread, hc, rfl, hl⟩ := ih
    exact ⟨old, read, _, hc.grows hg, List.append_assoc .., hl⟩
  | asked _ ih =>
    obtain ⟨old, read, unread, hc, rfl, hl⟩ := ih
    obtain ⟨read', unread', hw, hc', hlines⟩ := hc.next
    refine ⟨old, read', unread', hc', hw, ?_⟩
    rw [List.filterMap_append, hl, hlines]
    cases hline : Cursor.Reading.line? _ <;> simp [hline]

theorem appended {d' : Disk} (h : Followed p id d c written answers) (chunk : Bytes)
    (hf : d.find p = .ok (.file id)) (ha : d.append p chunk = .ok d') :
    Followed p id d' c (written ++ chunk) answers := .grown h (Disk.grows_of_append hf ha)

/-- The lines handed back are the first complete lines of all that was written, in order. Only when none is
left the cursor says so, and it keeps what is unfinished; it never begins again. -/
theorem lines_in_order (h : Followed p id d c written answers) :
    answers.filterMap Cursor.Reading.line? <+: completeLines written ∧
      (c.next d).1 ≠ .restarted ∧
      ((c.next d).1 = .pending → answers.filterMap Cursor.Reading.line? = completeLines written ∧
        (c.next d).2.fragment = unfinished written) ∧
      ∀ e, (c.next d).1 = .failed e →
        answers.filterMap Cursor.Reading.line? = completeLines written ∧ d.find p = .error e := by
  obtain ⟨old, read, unread, hc, rfl, hl⟩ := h.follows
  rw [hl]
  refine ⟨completeLines_mono read unread, ?_⟩
  cases hs : splitLine unread with
  | some x =>
    obtain ⟨text, hnext, -, -⟩ := hc.next_line hs
    simp [hnext]
  | none =>
    obtain ⟨hnext, hlines, hc'⟩ := hc.next_none hs
    rcases hnext with hnext | ⟨e, hnext, hf⟩
    · simp [hnext, hlines, hc'.fragment]
    · simp [hnext, hlines, hf]

theorem lines_in_order_cut : ∃ d c,
    Followed ⟨"log"⟩ 0 d c [97, 0xC3, 0xA9, 13, 10, 98] [.pending, .line "aé"] ∧
      (c.next d).1 = .pending ∧ ["aé"] = completeLines [97, 0xC3, 0xA9, 13, 10, 98] ∧
      (c.next d).2.fragment = [98] := by
  have h₀ : Followed ⟨"log"⟩ 0 ⟨[(["log"], .file 0)], [(0, [111, 10])], 1, []⟩
      ⟨⟨"log"⟩, .file 0, 2, []⟩ [] [] := .opened rfl rfl
  have h₁ : Followed ⟨"log"⟩ 0 ⟨[(["log"], .file 0)], [(0, [111, 10, 97, 0xC3])], 1, []⟩
      ⟨⟨"log"⟩, .file 0, 4, [97, 0xC3]⟩ [97, 0xC3] [.pending] :=
    (h₀.appended [97, 0xC3] rfl rfl).asked
  have h₂ : Followed ⟨"log"⟩ 0
      ⟨[(["log"], .file 0)], [(0, [111, 10, 97, 0xC3, 0xA9, 13, 10, 98])], 1, []⟩
      ⟨⟨"log"⟩, .file 0, 7, []⟩ [97, 0xC3, 0xA9, 13, 10, 98] [.pending, .line "aé"] :=
    ((h₁.appended [0xA9, 13] rfl rfl).appended [10, 98] rfl rfl).asked
  have h := (lines_in_order h₂).2.2.1 rfl
  exact ⟨_, _, h₂, rfl, h.1, h.2⟩

end Followed
end Foreman.Watch
