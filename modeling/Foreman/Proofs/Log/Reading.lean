import Foreman.Proofs.Log.Lines
import Mathlib.Tactic.SplitIfs

/-! A cursor inside a file. Where the path leads is of no matter here, until nothing is left to read. -/

namespace Foreman.Watch

/-- Of all that stands behind `old` in the file, the cursor has read `read`, and `unread` is still ahead
of it. -/
structure Cursor.Reads (c : Cursor) (d : Disk) (id : FileId) (old read unread : Bytes) : Prop where
  source : c.source = .file id
  content : d.content id = old ++ read ++ unread
  offset : c.offset = (old ++ read).length
  fragment : c.fragment = unfinished read

def Cursor.Reading.line? : Cursor.Reading → Option String
  | .line text => some text
  | _ => none

def Cursor.Reading.lines (answers : List Cursor.Reading) : List String :=
  answers.filterMap Cursor.Reading.line?

/-- What is answered when there is no line, with or without a new beginning. -/
def Cursor.Reading.isNone : Cursor.Reading → Bool
  | .pending | .restarted => true
  | _ => false

/-- The last answer, if there was one, was that there is no line. Then nothing has been taken out of the file
that was not looked at. -/
def Cursor.Reading.atRest (answers : List Cursor.Reading) : Bool := answers.getLast?.all isNone

namespace Cursor

theorem Reading.lines_append (answers more : List Reading) :
    Reading.lines (answers ++ more) = Reading.lines answers ++ Reading.lines more :=
  List.filterMap_append ..

theorem Reading.lines_concat (answers : List Reading) (a : Reading) :
    Reading.lines (answers ++ [a]) = Reading.lines answers ++ a.line?.toList := by
  rw [Reading.lines_append]
  cases h : a.line? <;> simp [Reading.lines, h]

variable {c : Cursor} {d : Disk} {id : FileId} {old read unread : Bytes}

theorem next_path (c : Cursor) (d : Disk) : (c.next d).2.path = c.path := by
  unfold Cursor.next
  split_ifs
  · rfl
  · cases splitLine (c.unread d) with
    | some x => rfl
    | none =>
      simp only [Cursor.atEnd]
      split <;> rfl

theorem next_eq_atEnd (hc : c.source = .file id) (hs : splitLine (c.unread d) = none) :
    c.next d = c.atEnd d := by
  simp only [Cursor.next, hc, hs, reduceCtorEq, if_false]

theorem reads_of_start (hs : c.source = .file id) (ho : c.offset = 0) (hf : c.fragment = []) (d : Disk) :
    c.Reads d id [] [] (d.content id) := ⟨hs, rfl, ho, hf⟩

theorem next_eq_restarted {e : Entry} (hc : c.source = .file id) (hs : splitLine (c.unread d) = none)
    (hf : d.find c.path = .ok e) (hlen : d.lengthOf e < c.offset + (c.unread d).length) :
    c.next d = (.restarted, { path := c.path, source := e, offset := 0 }) := by
  rw [next_eq_atEnd hc hs]
  simp only [Cursor.atEnd, Cursor.sighting, hf, if_pos hlen]

namespace Reads

theorem unread_eq (h : c.Reads d id old read unread) : c.unread d = unread := by
  rw [Cursor.unread, h.source]
  simp only [h.content, h.offset, List.drop_left]

theorem next_line (h : c.Reads d id old read unread) {line rest : Bytes}
    (hs : splitLine unread = some (line, rest)) :
    ∃ text, (c.next d).1 = .line text ∧
      completeLines (read ++ line) = completeLines read ++ [text] ∧
      (c.next d).2.Reads d id old (read ++ line) rest := by
  obtain ⟨ys, hys, rfl, hunread⟩ := splitLine_eq_some hs
  have hnext : c.next d = (.line (lineText (c.fragment ++ (ys ++ [lineEnd]))),
      { c with offset := c.offset + (ys ++ [lineEnd]).length, fragment := [] }) := by
    simp only [Cursor.next, h.source, h.unread_eq, hs, reduceCtorEq, if_false]
  have hu : lineEnd ∉ unfinished read ++ ys := by
    simpa using ⟨lineEnd_notMem_unfinished read, hys⟩
  rw [hnext]
  refine ⟨_, rfl, ?_, h.source, ?_, ?_, ?_⟩
  · rw [completeLines_append_lineEnd read hys, h.fragment, ← List.append_assoc, lineText_append hu]
  · simp only [h.content, hunread, List.append_assoc]
  · simp [h.offset, Nat.add_assoc]
  · rw [unfinished_append_lineEnd read hys]

theorem next_none (h : c.Reads d id old read unread) (hs : splitLine unread = none) :
    ∃ c' : Cursor, c'.path = c.path ∧ c'.Reads d id old (read ++ unread) [] ∧
      completeLines (read ++ unread) = completeLines read ∧
      c.next d = match c'.sighting d with
        | .unchanged => (.pending, c')
        | .failed e => (.failed e, c')
        | .shorter source => (.restarted, { c' with source, offset := 0, fragment := [] }) := by
  have hn := splitLine_eq_none hs
  refine ⟨{ c with offset := c.offset + unread.length, fragment := c.fragment ++ unread }, rfl,
    ⟨h.source, by simp [h.content], by simp [h.offset, Nat.add_assoc],
      by rw [unfinished_append read hn, ← h.fragment]⟩, completeLines_append read hn, ?_⟩
  have hnext := next_eq_atEnd h.source (by rw [h.unread_eq, hs])
  rw [Cursor.atEnd, h.unread_eq] at hnext
  exact hnext

end Reads
end Cursor
end Foreman.Watch
