import Foreman.Proofs.Log.Replacement
import Mathlib.Data.List.Chain

/-! A log whose path cannot be followed for a while. A look at the path that fails costs nothing: the cursor has
taken in what there was, as if it had found nothing more, and goes on from there. -/

namespace Foreman

/-- From one moment to the next the file has at most grown. The path leads to it then, or to nothing. -/
def Disk.Lasts (p : Path) (id : FileId) (d d' : Disk) : Prop := ∃ chunk, d.Grows p id chunk d'

structure Disk.Restores (p : Path) (id : FileId) (d d' : Disk) : Prop where
  content : d'.content id = d.content id
  found : d'.find p = .ok (.file id)

namespace Watch
namespace Cursor

/-- What is answered when no line is left. Only a path that leads to nothing is no failure. -/
def Reading.silence : Except DiskError Entry → Reading
  | .ok _ => .pending
  | .error .notFound => .pending
  | .error e => .failed e

def Reading.unfailed : Reading → Reading
  | .failed _ => .pending
  | a => a

theorem Reading.unfailed_silence {look : Except DiskError Entry} : (silence look).unfailed = .pending := by
  rcases look with e | _
  · cases e <;> rfl
  · rfl

theorem Reading.silence_eq_failed {look : Except DiskError Entry} {e : DiskError} (h : silence look = .failed e) :
    look = .error e ∧ e ≠ .notFound := by
  rcases look with e' | _
  · cases e' <;> cases h <;> exact ⟨rfl, by decide⟩
  · cases h

theorem Reading.lines_cons (a : Reading) (answers : List Reading) :
    Reading.lines (a :: answers) = a.line?.toList ++ Reading.lines answers := by
  rw [← List.singleton_append, Reading.lines_append, ← List.nil_append [a], Reading.lines_concat]
  rfl

variable {c c₀ c' : Cursor} {d d₀ d' : Disk} {p : Path} {id : FileId} {old read unread unread' : Bytes}
  {ds ds' : List Disk}

namespace Follows

theorem unique (h : c.Follows d p id old read unread) (h' : c'.Follows d' p id old read unread') : c = c' := by
  obtain ⟨path, source, offset, fragment⟩ := c
  obtain ⟨path', source', offset', fragment'⟩ := c'
  rw [Cursor.mk.injEq]
  exact ⟨h.path.trans h'.path.symm, h.source.trans h'.source.symm, h.offset.trans h'.offset.symm,
    h.fragment.trans h'.fragment.symm⟩

theorem elsewhere (h : c.Follows d p id old read unread) (hcontent : d'.content id = d.content id)
    (hsight : ∀ e, d'.find p = .ok e → e = .file id) : c.Follows d' p id old read unread :=
  ⟨h.path, h.source, hcontent.trans h.content, h.offset, h.fragment, hsight⟩

theorem next_silence (h : c.Follows d p id old read unread) (hs : splitLine unread = none) :
    (c.next d).1 = .silence (d.find p) := by
  obtain ⟨c', hpath, hr, -, hnext⟩ := h.reads.next_none hs
  have hc : c'.Follows d p id old (read ++ unread) [] := .of_reads hr (hpath.trans h.path) h.sight
  rw [hnext]
  cases hf : d.find p with
  | ok source =>
    have hsee : c'.sighting d = .unchanged := by
      rcases hc.sighting_eq with hsee | ⟨e, -, hfailed⟩
      · exact hsee
      · rw [hf] at hfailed
        cases hfailed
    rw [hsee]
    rfl
  | error e =>
    rw [Cursor.sighting, hc.path, hf]
    cases e <;> rfl

theorem next_due (h : c.Follows d p id old read unread) {text : String} {rest : List String}
    (hrest : completeLines (read ++ unread) = completeLines read ++ text :: rest) :
    (c.next d).1 = .line text ∧ ∃ read' unread', read ++ unread = read' ++ unread' ∧
      (c.next d).2.Follows d p id old read' unread' ∧ completeLines read' = completeLines read ++ [text] := by
  cases hs : splitLine unread with
  | none =>
    obtain ⟨-, hlines, -⟩ := h.next_none hs
    rw [hlines] at hrest
    simp at hrest
  | some x =>
    obtain ⟨line, unread'⟩ := x
    obtain ⟨text', hnext, hlines, hc⟩ := h.next_line hs
    obtain ⟨-, -, -, hunread⟩ := splitLine_eq_some hs
    have hsplit : read ++ unread = read ++ line ++ unread' := by rw [hunread, List.append_assoc]
    have hprefix := completeLines_mono (read ++ line) unread'
    rw [← hsplit, hrest, hlines, List.prefix_append_right_inj] at hprefix
    obtain rfl : text' = text := by simpa using hprefix
    exact ⟨hnext, _, _, hsplit, hc, hlines⟩

theorem next_nothing (h : c.Follows d p id old read unread)
    (hrest : completeLines (read ++ unread) = completeLines read) :
    (c.next d).1 = .silence (d.find p) ∧ (c.next d).2.Follows d p id old (read ++ unread) [] := by
  cases hs : splitLine unread with
  | none => exact ⟨h.next_silence hs, (h.next_none hs).2.2⟩
  | some x =>
    obtain ⟨text, -, hlines, -⟩ := h.next_line hs
    obtain ⟨-, -, -, hunread⟩ := splitLine_eq_some hs
    have hprefix := completeLines_mono (read ++ x.1) x.2
    rw [List.append_assoc, ← hunread, hrest, hlines] at hprefix
    exact absurd hprefix.length_le (by simp)

theorem answers_silence (h : c.Follows d p id old read unread)
    (hrest : completeLines (read ++ unread) = completeLines read) (m : Nat) :
    c.answers d m = List.replicate m (.silence (d.find p)) := by
  induction m generalizing c read unread with
  | zero => rfl
  | succ m ih =>
    obtain ⟨hnext, hc⟩ := h.next_nothing hrest
    rw [answers, hnext, ih hc (by rw [List.append_nil]), List.replicate_succ]

theorem answers_eq (h : c.Follows d p id old read unread) {rest : List String}
    (hrest : completeLines (read ++ unread) = completeLines read ++ rest) (m : Nat) :
    c.answers d (rest.length + m) = rest.map .line ++ List.replicate m (.silence (d.find p)) := by
  induction rest generalizing c read unread with
  | nil =>
    rw [List.append_nil] at hrest
    simpa using h.answers_silence hrest m
  | cons text rest ih =>
    obtain ⟨hnext, read', unread', hsplit, hc, hlines⟩ := h.next_due hrest
    have hrest' : completeLines (read' ++ unread') = completeLines read' ++ rest := by
      rw [← hsplit, hrest, hlines, List.append_assoc, List.singleton_append]
    have hlen : (text :: rest).length + m = rest.length + m + 1 := by
      rw [List.length_cons]
      omega
    rw [hlen, answers, hnext, ih hc hrest', List.map_cons, List.cons_append]

theorem next_elsewhere (h : c.Follows d p id old read unread) (h' : c.Follows d' p id old read unread) :
    (c.next d').2 = (c.next d).2 ∧ ((∃ text, (c.next d').1 = .line text ∧ (c.next d).1 = .line text) ∨
      (c.next d').1 = .silence (d'.find p) ∧ (c.next d).1 = .silence (d.find p)) := by
  cases hs : splitLine unread with
  | none =>
    obtain ⟨-, -, hc⟩ := h.next_none hs
    obtain ⟨-, -, hc'⟩ := h'.next_none hs
    exact ⟨hc'.unique hc, .inr ⟨h'.next_silence hs, h.next_silence hs⟩⟩
  | some x =>
    obtain ⟨text, hnext, hlines, hc⟩ := h.next_line hs
    obtain ⟨text', hnext', hlines', hc'⟩ := h'.next_line hs
    have htext : text' = text := by simpa [hlines] using hlines'.symm
    exact ⟨hc'.unique hc, .inl ⟨text, by rw [hnext', htext], hnext⟩⟩

theorem next_unfailed (h : c.Follows d p id old read unread) (hcontent : d'.content id = d.content id)
    (hfound : d'.find p = .ok (.file id) ∨ d'.find p = .error .notFound) :
    c.next d' = ((c.next d).1.unfailed, (c.next d).2) := by
  have hsight : ∀ e, d'.find p = .ok e → e = .file id := by
    intro e he
    rcases hfound with hfound | hfound <;> rw [hfound] at he <;> cases he
    rfl
  have hsilence : Reading.silence (d'.find p) = .pending := by
    rcases hfound with hfound | hfound <;> rw [hfound] <;> rfl
  obtain ⟨hcursor, hanswer⟩ := h.next_elsewhere (h.elsewhere hcontent hsight)
  refine Prod.ext ?_ hcursor
  rcases hanswer with ⟨text, hnext', hnext⟩ | ⟨hnext', hnext⟩
  · rw [hnext', hnext]
    rfl
  · rw [hnext', hnext, hsilence, Reading.unfailed_silence]

theorem ask (h : c.Follows d p id old read unread) (hds : List.IsChain (Disk.Lasts p id) (d :: (ds ++ [d']))) :
    ∃ read' unread', (c.ask ds).2.Follows d' p id old read' unread' ∧
      completeLines read' = completeLines read ++ Reading.lines (c.ask ds).1 := by
  induction ds generalizing c d read unread with
  | nil =>
    obtain ⟨chunk, hg⟩ := hds.rel
    exact ⟨read, _, h.grows hg, (List.append_nil _).symm⟩
  | cons d₁ ds ih =>
    obtain ⟨⟨chunk, hg⟩, hds⟩ := List.isChain_cons_cons.1 hds
    obtain ⟨read₁, unread₁, -, hc, hlines⟩ := (h.grows hg).next
    obtain ⟨read', unread', hc', hlines'⟩ := ih hc hds
    refine ⟨read', unread', hc', ?_⟩
    rw [hlines', hlines, List.append_assoc, Cursor.ask, Reading.lines_cons]

theorem ask_restored (h : c.Follows d p id old read unread) (hds : List.IsChain (Disk.Lasts p id) (d :: ds))
    (hr : List.Forall₂ (Disk.Restores p id) ds ds') :
    c.ask ds' = ((c.ask ds).1.map .unfailed, (c.ask ds).2) := by
  induction hr generalizing c d read unread with
  | nil => rfl
  | @cons d₁ d₁' ds ds' hd hrest ih =>
    obtain ⟨⟨chunk, hg⟩, hds⟩ := List.isChain_cons_cons.1 hds
    have h₁ := h.grows hg
    obtain ⟨read₁, unread₁, -, hc, -⟩ := h₁.next
    rw [Cursor.ask, h₁.next_unfailed hd.content (.inl hd.found), ih hc hds]
    rfl

theorem next_failed (h : c.Follows d p id old read unread) {e : DiskError} (he : (c.next d).1 = .failed e) :
    completeLines (read ++ unread) = completeLines read ∧ d.find p = .error e ∧ e ≠ .notFound := by
  cases hs : splitLine unread with
  | some x =>
    obtain ⟨text, hnext, -, -⟩ := h.next_line hs
    rw [hnext] at he
    cases he
  | none =>
    refine ⟨(h.next_none hs).2.1, ?_⟩
    rw [h.next_silence hs] at he
    exact Reading.silence_eq_failed he

end Follows

/-- Of a log that only grows, a question that fails takes nothing away. It fails only when all lines have been
given, and leaves the cursor as if no line had been found; the other answers are those of a path that always
leads to the log. A path that leads to nothing is no failure at all. -/
theorem outage_harmless (h : openAtEnd d₀ p = .ok c₀) (hfile : c₀.source = .file id)
    (hds : List.IsChain (Disk.Lasts p id) (d₀ :: (ds ++ [d]))) :
    let c := (c₀.ask ds).2
    ∃ rest,
      Reading.lines (c₀.ask ds).1 ++ rest = completeLines ((d.content id).drop (d₀.content id).length) ∧
      (∀ m, c.answers d (rest.length + m) = rest.map .line ++ List.replicate m (.silence (d.find p))) ∧
      (∀ e, (c.next d).1 = .failed e → rest = [] ∧ d.find p = .error e ∧ e ≠ .notFound ∧
        ∀ d', d'.content id = d.content id → d'.find p = .ok (.file id) ∨ d'.find p = .error .notFound →
          c.next d' = (.pending, (c.next d).2)) ∧
      ∀ ds', List.Forall₂ (Disk.Restores p id) ds ds' → c₀.ask ds' = ((c₀.ask ds).1.map .unfailed, c) := by
  intro c
  have hstart : c₀.Follows d₀ p id (d₀.content id) [] [] := .openAtEnd h hfile
  obtain ⟨read, unread, hc, hlines⟩ := hstart.ask hds
  have hwritten : (d.content id).drop (d₀.content id).length = read ++ unread := by
    rw [hc.content, List.append_assoc, List.drop_left]
  obtain ⟨rest, hrest⟩ := completeLines_mono read unread
  refine ⟨rest, ?_, hc.answers_eq hrest.symm, fun e he => ?_, fun ds' hr => ?_⟩
  · rw [hwritten, ← hrest, hlines]
    rfl
  · obtain ⟨hnone, hf, hne⟩ := hc.next_failed he
    refine ⟨by simpa [hnone] using hrest, hf, hne, fun d' hcontent hfound => ?_⟩
    rw [hc.next_unfailed hcontent hfound, he]
    rfl
  · have happend : List.IsChain (Disk.Lasts p id) (d₀ :: ds ++ [d]) := hds
    exact hstart.ask_restored happend.left_of_append hr

theorem outage_harmless_moved : ∃ d₀ d₁ d₂ d₃ d₄ d₅ c₀ c,
    openAtEnd d₀ ⟨"logs/log"⟩ = .ok c₀ ∧ d₀.append ⟨"logs/log"⟩ [97, 10, 98] = .ok d₁ ∧
      d₁.rename ⟨"logs"⟩ ⟨"away"⟩ = .ok d₂ ∧ d₂.writeFile ⟨"logs"⟩ [] = .ok d₃ ∧
      d₃.append ⟨"away/log"⟩ [10] = .ok d₄ ∧ d₄.removeFile ⟨"logs"⟩ = .ok d₅ ∧
      c₀.ask [d₁, d₃] = ([.line "a", .failed .notDirectory], c) ∧
      c₀.ask [d₁, d₁] = ([.line "a", .pending], c) ∧ c.answers d₅ 2 = [.line "b", .pending] := by
  let d₀ : Disk := ⟨[(["logs"], .directory), (["logs", "log"], .file 0)], [(0, [111, 10])], 1, []⟩
  let d₁ : Disk := { d₀ with contents := [(0, [111, 10, 97, 10, 98])] }
  let moved : List (Location × Entry) := [(["away"], .directory), (["away", "log"], .file 0)]
  let d₃ : Disk := ⟨(["logs"], .file 1) :: moved, [(1, []), (0, [111, 10, 97, 10, 98])], 2, []⟩
  let d₅ : Disk := ⟨moved, [(0, [111, 10, 97, 10, 98, 10]), (1, [])], 2, []⟩
  let c₀ : Cursor := { path := ⟨"logs/log"⟩, source := .file 0, offset := 2 }
  have hopen : openAtEnd d₀ ⟨"logs/log"⟩ = .ok c₀ := rfl
  have hfound : d₁.find ⟨"logs/log"⟩ = .ok (.file 0) := rfl
  have hblocked : d₃.find ⟨"logs/log"⟩ = .error .notDirectory := rfl
  have hmissing : d₅.find ⟨"logs/log"⟩ = .error .notFound := rfl
  have hchain : List.IsChain (Disk.Lasts ⟨"logs/log"⟩ 0) (d₀ :: ([d₁, d₃] ++ [d₅])) := by
    refine .cons_cons ⟨[97, 10, 98], rfl, ?_⟩
      (.cons_cons ⟨[], rfl, ?_⟩ (.cons_cons ⟨[10], rfl, ?_⟩ (.singleton _)))
    · simp [hfound]
    · simp [hblocked]
    · simp [hmissing]
  obtain ⟨rest, hlines, hanswers, -, hrestored⟩ := outage_harmless hopen rfl hchain
  have hask : (c₀.ask [d₁, d₃]).1 = [.line "a", .failed .notDirectory] := by decide
  have hcomplete : completeLines ((d₅.content 0).drop (d₀.content 0).length) = ["a", "b"] := by decide
  obtain rfl : rest = ["b"] := by
    rw [hask, hcomplete] at hlines
    exact (List.cons.inj hlines).2
  have hcalm := hrestored [d₁, d₁] (.cons ⟨rfl, hfound⟩ (.cons ⟨rfl, hfound⟩ .nil))
  rw [hask] at hcalm
  have hlast := hanswers 1
  rw [hmissing] at hlast
  exact ⟨d₀, d₁, _, d₃, _, d₅, c₀, _, hopen, rfl, rfl, rfl, rfl, rfl, Prod.ext hask rfl, hcalm, hlast⟩

end Cursor
end Watch
end Foreman
