import Foreman.Proofs.Watch.Tasks

/-! Two watches over files that differ in what they held before, and get the same from then on. They do the
same, step by step. -/

namespace Foreman.Watch

/-- Two cursors of one file behind different old contents. They have read the same, and have the same ahead. -/
inductive Cursor.Alike (d d' : Disk) : Cursor → Cursor → Prop
  | directory {c} (h : c.source = .directory) : Alike d d' c c
  | file {c c' p id old old' read unread} (h : c.Follows d p id old read unread)
    (h' : c'.Follows d' p id old' read unread) : Alike d d' c c'

namespace Cursor.Alike
variable {d d' : Disk} {c c' : Cursor}

theorem path (h : Cursor.Alike d d' c c') : c'.path = c.path := by
  cases h with
  | directory => rfl
  | file h h' => rw [h.path, h'.path]

theorem source (h : Cursor.Alike d d' c c') : c'.source = c.source := by
  cases h with
  | directory => rfl
  | file h h' => rw [h.source, h'.source]

theorem unread (h : Cursor.Alike d d' c c') : c'.unread d' = c.unread d := by
  cases h with
  | directory h => simp only [Cursor.unread, h]
  | file h h' => rw [h.reads.unread_eq, h'.reads.unread_eq]

theorem sighting_eq {p : Path} {id : FileId} {old old' read : Bytes} (hfind : d'.find p = d.find p)
    (h : c.Follows d p id old read []) (h' : c'.Follows d' p id old' read []) :
    c'.sighting d' = c.sighting d := by
  have hlen : ¬ d.lengthOf (.file id) < c.offset := by simp [Disk.lengthOf, h.content, h.offset]
  have hlen' : ¬ d'.lengthOf (.file id) < c'.offset := by simp [Disk.lengthOf, h'.content, h'.offset]
  unfold Cursor.sighting
  rw [h.path, h'.path, hfind]
  cases hf : d.find p with
  | error e => cases e <;> rfl
  | ok source =>
    obtain rfl := h.sight source hf
    simp only [if_neg hlen, if_neg hlen']

theorem next (h : Cursor.Alike d d' c c') (hfind : ∀ p, d'.find p = d.find p) :
    (c'.next d').1 = (c.next d).1 ∧ Cursor.Alike d d' (c.next d).2 (c'.next d').2 := by
  cases h with
  | directory h =>
    rw [Cursor.next, Cursor.next, if_pos h, if_pos h]
    exact ⟨rfl, .directory h⟩
  | @file _ p id old old' read unread h h' =>
    cases hs : splitLine unread with
    | some x =>
      obtain ⟨text, hnext, hlines, hc⟩ := h.next_line hs
      obtain ⟨text', hnext', hlines', hc'⟩ := h'.next_line hs
      have htext : text = text' := by simpa using hlines.symm.trans hlines'
      exact ⟨by rw [hnext, hnext', htext], .file hc hc'⟩
    | none =>
      obtain ⟨-, -, hc⟩ := h.next_none hs
      obtain ⟨-, -, hc'⟩ := h'.next_none hs
      refine ⟨?_, .file hc hc'⟩
      obtain ⟨e, hp, hr, -, hnext⟩ := h.reads.next_none hs
      obtain ⟨e', hp', hr', -, hnext'⟩ := h'.reads.next_none hs
      have hsee : e'.sighting d' = e.sighting d := sighting_eq (hfind p)
        (.of_reads hr (hp.trans h.path) h.sight) (.of_reads hr' (hp'.trans h'.path) h'.sight)
      rw [hnext, hnext', hsee]
      cases e.sighting d <;> rfl

theorem grows {e e' : Disk} (h : Cursor.Alike d d' c c') (hg : ∀ id, c.source = .file id →
    ∃ chunk, d.Grows c.path id chunk e ∧ d'.Grows c.path id chunk e') : Cursor.Alike e e' c c' := by
  cases h with
  | directory h => exact .directory h
  | file h h' =>
    obtain ⟨chunk, hgrows, hgrows'⟩ := hg _ h.source
    rw [h.path] at hgrows hgrows'
    exact .file (h.grows hgrows) (h'.grows hgrows')

theorem openAtEnd (hfind : ∀ p, d'.find p = d.find p) (p : Path) :
    (∃ e, Cursor.openAtEnd d p = .error e ∧ Cursor.openAtEnd d' p = .error e) ∨
      ∃ c c', Cursor.openAtEnd d p = .ok c ∧ Cursor.openAtEnd d' p = .ok c' ∧ Cursor.Alike d d' c c' := by
  cases hf : d.find p with
  | error e => exact .inl ⟨e, by simp [Cursor.openAtEnd, hf, Except.map],
      by simp [Cursor.openAtEnd, hfind, hf, Except.map]⟩
  | ok source =>
    have ho : Cursor.openAtEnd d p = .ok { path := p, source, offset := d.lengthOf source } := by
      simp [Cursor.openAtEnd, hf, Except.map]
    have ho' : Cursor.openAtEnd d' p = .ok { path := p, source, offset := d'.lengthOf source } := by
      simp [Cursor.openAtEnd, hfind, hf, Except.map]
    refine .inr ⟨_, _, ho, ho', ?_⟩
    cases source with
    | directory => exact .directory rfl
    | file id => exact .file (.openAtEnd ho rfl) (.openAtEnd ho' rfl)

end Cursor.Alike

namespace Monitor

def withCursor (m : Monitor) (c : Cursor) : Monitor := { m with cursor := c }

@[simp]
theorem withCursor_reader (m : Monitor) (c : Cursor) : (m.withCursor c).reader = m.reader := rfl

@[simp]
theorem withCursor_queue (m : Monitor) (c : Cursor) : (m.withCursor c).queue = m.queue := rfl

@[simp]
theorem withCursor_scanner (m : Monitor) (c : Cursor) : (m.withCursor c).scanner = m.scanner := rfl

@[simp]
theorem withCursor_readerOpen (m : Monitor) (c : Cursor) : (m.withCursor c).readerOpen = m.readerOpen := rfl

structure Alike (d d' : Disk) (m m' : Monitor) : Prop where
  rest : m' = m.withCursor m'.cursor
  cursor : Cursor.Alike d d' m.cursor m'.cursor

variable {d d' : Disk} {m m' : Monitor} {now : Instant}

theorem judge_withCursor (m : Monitor) (c : Cursor) (now : Instant) (verdict : Verdict) :
    (m.withCursor c).judge now verdict = (m.judge now verdict).withCursor c := by
  obtain ⟨action⟩ := m
  unfold judge withCursor
  cases verdict with
  | goOn => rfl
  | crashed reason => cases action <;> rfl
  | hung reason => cases action <;> rfl

theorem takeLine_withCursor (m : Monitor) (c : Cursor) (now : Instant) (line : String) (rest : List String) :
    (m.withCursor c).takeLine now line rest = (m.takeLine now line rest).withCursor c := by
  have hjudge (scan : Scan) := judge_withCursor { m with queue := rest, scan } c now
  have hnoted (scan : Scan) := judge_withCursor (note { m with queue := rest, scan } .markerSeen) c now
  have hscan : (m.withCursor c).scan = m.scan := rfl
  unfold takeLine
  rw [hscan]
  cases m.scan.onLine line with
  | mk scan verdict =>
    simp only
    split_ifs
    · exact hnoted scan verdict
    · exact hjudge scan verdict

theorem passInterval_withCursor (m : Monitor) (c : Cursor) (now : Instant) :
    (m.withCursor c).passInterval now = (m.passInterval now).withCursor c := by
  have hidle : (m.withCursor c).scan.onIdle (m.withCursor c).poll = m.scan.onIdle m.poll := rfl
  unfold passInterval
  rw [hidle]
  cases m.scan.onIdle m.poll with
  | none => rfl
  | some x => exact judge_withCursor { m with scan := x.1 } c now x.2

theorem scannerStep?_withCursor (m : Monitor) (c : Cursor) (now : Instant) :
    (m.withCursor c).scannerStep? now = (m.scannerStep? now).map (·.withCursor c) := by
  unfold scannerStep?
  simp only [withCursor_scanner, withCursor_readerOpen, withCursor_queue, withCursor_reader,
    takeLine_withCursor, passInterval_withCursor]
  cases m.scanner with
  | waiting deadline =>
    cases m.readerOpen with
    | true =>
      cases m.queue with
      | cons line rest => rfl
      | nil =>
        simp only
        split_ifs <;> rfl
    | false =>
      simp only
      split_ifs <;> rfl
  | reported report => rfl
  | failed => rfl

theorem offer_withCursor (m : Monitor) (c : Cursor) (line : String) :
    (m.withCursor c).offer line = (m.offer line).withCursor c := by
  unfold offer withCursor
  simp only
  split_ifs <;> rfl

def looked (m : Monitor) (now : Instant) : Cursor.Reading → Monitor
  | .line text => m.offer text
  | .pending => { m with reader := .sleeping (now + m.readerSleep.nanos) }
  | .restarted => { m with reader := .sleeping (now + m.readerSleep.nanos) }.note .readerRestarted
  | .failed _ => (m.note .readerFailed).endReader

theorem looked_withCursor (m : Monitor) (c : Cursor) (now : Instant) (answer : Cursor.Reading) :
    (m.withCursor c).looked now answer = (m.looked now answer).withCursor c := by
  cases answer with
  | line text => exact m.offer_withCursor c text
  | pending => rfl
  | restarted => rfl
  | failed e => rfl

theorem look_eq (m : Monitor) (d : Disk) (now : Instant) :
    m.look d now = (m.looked now (m.cursor.next d).1).withCursor (m.cursor.next d).2 := by
  rw [← looked_withCursor]
  unfold look
  cases m.cursor.next d with
  | mk answer cursor => cases answer <;> rfl

namespace Alike

theorem scannerStep? (h : Alike d d' m m') (now : Instant) :
    Option.Rel (Alike d d') (m.scannerStep? now) (m'.scannerStep? now) := by
  rw [h.rest, scannerStep?_withCursor]
  cases hs : m.scannerStep? now with
  | none => exact .none
  | some m₁ =>
    obtain ⟨_, _, _, _, _, _, _, hm₁⟩ := (scannerStep?_move hs).frame
    have hc : m₁.cursor = m.cursor := by rw [hm₁]
    refine .some ⟨rfl, ?_⟩
    rw [hc]
    exact h.cursor

theorem look (h : Alike d d' m m') (hfind : ∀ p, d'.find p = d.find p) (now : Instant) :
    Alike d d' (m.look d now) (m'.look d' now) := by
  obtain ⟨hanswer, hc⟩ := h.cursor.next hfind
  have hlooked (answer : Cursor.Reading) :
      m'.looked now answer = (m.looked now answer).withCursor m'.cursor :=
    (congrArg (·.looked now answer) h.rest).trans (m.looked_withCursor _ now answer)
  rw [look_eq m, look_eq m', hanswer, hlooked]
  exact ⟨rfl, hc⟩

theorem endReader (h : Alike d d' m m') : Alike d d' m.endReader m'.endReader :=
  ⟨congrArg Monitor.endReader h.rest, h.cursor⟩

theorem offer (h : Alike d d' m m') (line : String) : Alike d d' (m.offer line) (m'.offer line) := by
  have hc (m : Monitor) : (m.offer line).cursor = m.cursor := by
    unfold Monitor.offer
    split_ifs <;> rfl
  refine ⟨?_, by rw [hc, hc]; exact h.cursor⟩
  rw [hc, ← offer_withCursor, ← h.rest]

theorem readerStep? (h : Alike d d' m m') (hfind : ∀ p, d'.find p = d.find p) (now : Instant) :
    Option.Rel (Alike d d') (m.readerStep? d now) (m'.readerStep? d' now) := by
  have hreader : m'.reader = m.reader := by rw [h.rest, withCursor_reader]
  have hqueue : m'.queue = m.queue := by rw [h.rest, withCursor_queue]
  have hscanning : m'.scanning = m.scanning := by rw [h.rest]; rfl
  unfold Monitor.readerStep?
  rw [hreader, hscanning]
  cases m.reader with
  | reading =>
    refine .some ?_
    split_ifs
    · exact h.look hfind now
    · exact h.endReader
  | blocked line =>
    simp only [hqueue]
    split_ifs
    · exact .some h.endReader
    · exact .some (h.offer line)
    · exact .none
  | sleeping wakeAt =>
    simp only
    split_ifs
    · exact .some ⟨congrArg (fun m : Monitor => { m with reader := .reading }) h.rest, h.cursor⟩
    · exact .none
  | ended => exact .none

theorem step? (h : Alike d d' m m') (hfind : ∀ p, d'.find p = d.find p) (now : Instant) :
    Option.Rel (Alike d d') (m.step? d now) (m'.step? d' now) := by
  have hreader := h.readerStep? hfind now
  unfold Monitor.step?
  generalize m.readerStep? d now = read at hreader ⊢
  generalize m'.readerStep? d' now = read' at hreader ⊢
  cases hreader with
  | some hm => exact .some hm
  | none => exact h.scannerStep? now

theorem settleWithin (h : Alike d d' m m') (hfind : ∀ p, d'.find p = d.find p) (now : Instant) (n : Nat) :
    Alike d d' (m.settleWithin d now n) (m'.settleWithin d' now n) := by
  induction n generalizing m m' with
  | zero => exact h
  | succ n ih =>
    have hstep := h.step? hfind now
    unfold Monitor.settleWithin
    generalize m.step? d now = next at hstep ⊢
    generalize m'.step? d' now = next' at hstep ⊢
    cases hstep with
    | some hm => exact ih hm
    | none => exact h

theorem settle (h : Alike d d' m m') (hfind : ∀ p, d'.find p = d.find p) (now : Instant) :
    Alike d d' (m.settle d now) (m'.settle d' now) := by
  have hbound : m'.stepBound d' = m.stepBound d := by
    have hqueue : m'.queue = m.queue := by rw [h.rest, withCursor_queue]
    unfold Monitor.stepBound
    rw [h.cursor.unread, hqueue]
  unfold Monitor.settle
  rw [hbound]
  exact h.settleWithin hfind now _

theorem passWithin (h : Alike d d' m m') (hfind : ∀ p, d'.find p = d.find p) (target : Instant) (n : Nat)
    (now : Instant) : Alike d d' (m.passWithin d target n now) (m'.passWithin d' target n now) := by
  induction n generalizing m m' now with
  | zero => exact h
  | succ n ih =>
    have hsettle := h.settle hfind now
    have htimer : (m'.settle d' now).nextTimer = (m.settle d now).nextTimer := by
      rw [hsettle.rest]
      rfl
    unfold Monitor.passWithin
    simp only [htimer]
    cases (m.settle d now).nextTimer with
    | none => exact hsettle
    | some t =>
      simp only
      split_ifs
      · exact ih hsettle t
      · exact hsettle

theorem pass (h : Alike d d' m m') (hfind : ∀ p, d'.find p = d.find p) (now target : Instant) :
    Alike d d' (m.pass d now target) (m'.pass d' now target) := by
  unfold Monitor.pass
  split_ifs
  · exact h.passWithin hfind target _ now
  · exact h

theorem readerEnd (h : Alike d d' m m') (hfind : ∀ p, d'.find p = d.find p) (now : Instant) :
    m'.readerEnd d' now = m.readerEnd d now := by
  have hreader : m'.reader = m.reader := by rw [h.rest, withCursor_reader]
  have hsleep : m'.readerSleep = m.readerSleep := by rw [h.rest]; rfl
  unfold Monitor.readerEnd
  rw [hreader, hsleep, (h.cursor.next hfind).1]

end Alike
end Monitor
end Foreman.Watch
