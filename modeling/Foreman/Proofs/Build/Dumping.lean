import Foreman.Proofs.Build.Handling
import Foreman.Proofs.Log.Replacement
import Foreman.Proofs.Log.Truncation
import Foreman.Proofs.Watch.Delivery

/-! The log that is shown against the lines that were scanned. The log is decoded as a whole where it is shown and
line by line where it is scanned; a signature that was found can be found again by whoever reads what is shown. -/

namespace Foreman
open Watch

namespace Text

def finished (text : String) : List String := (splitText '\n' text).dropLast

def withoutReturns (line : String) : String := String.ofList (line.toList.rdropWhile (· = '\r'))

/-- The lines are those of a text but for carriage returns at their ends. A signature without a carriage return stands
in one of them if it stands in a line of the text. -/
structure Mirrors (lines ofText : List String) : Prop where
  eq : lines = ofText.map withoutReturns
  contains {signature : String} (h : '\r' ∉ signature.toList) :
    (∃ line ∈ lines, contains line signature) ↔ ∃ line ∈ ofText, contains line signature

theorem infix_rdropWhile_iff {α : Type} {p : α → Bool} {needle l : List α} (h : ∀ a ∈ needle, ¬ p a) :
    needle <:+: l.rdropWhile p ↔ needle <:+: l := by
  induction l using List.reverseRecOn with
  | nil => rw [List.rdropWhile_nil]
  | append_singleton l a ih =>
    by_cases ha : p a
    · rw [List.rdropWhile_concat_pos _ _ _ ha, ih, List.infix_concat_iff, List.suffix_concat_iff]
      refine ⟨.inr, ?_⟩
      rintro ((rfl | ⟨t, rfl, -⟩) | hl)
      · exact List.nil_infix
      · exact absurd ha (h a (by simp))
      · exact hl
    · rw [List.rdropWhile_concat_neg _ _ _ ha]

theorem contains_withoutReturns {signature : String} (h : '\r' ∉ signature.toList) (line : String) :
    contains (withoutReturns line) signature ↔ contains line signature := by
  have hne : ∀ c ∈ signature.toList, ¬ decide (c = '\r') := fun c hc => by
    rw [decide_eq_true_iff]
    rintro rfl
    exact h hc
  rw [contains, contains, occursIn_iff, occursIn_iff, withoutReturns, String.toList_ofList, infix_rdropWhile_iff hne]

namespace Mirrors
variable {lines ofText : List String}

theorem of_eq (h : lines = ofText.map withoutReturns) : Mirrors lines ofText := by
  refine ⟨h, fun hs => ?_⟩
  simp only [h, List.mem_map, exists_exists_and_eq_and, contains_withoutReturns hs]

theorem of_within (h : lines <+: ofText.map withoutReturns) : Mirrors lines (ofText.take lines.length) :=
  of_eq (by rw [List.map_take, ← List.prefix_iff_eq_take.1 h])

end Mirrors

/-- Lines that are drawn from a text are the first that it has ended, and all of them once nothing is left. -/
def Drawn (lines : List String) (text : String) (nothingLeft : Prop) : Prop :=
  Mirrors lines ((finished text).take lines.length) ∧ (nothingLeft → Mirrors lines (finished text))

end Text

theorem Disk.eq_content_of_readFile {d : Disk} {p : Path} {id : FileId} {content : Bytes}
    (h : d.readFile p = .ok content) (hsight : ∀ e, d.find p = .ok e → e = .file id) : content = d.content id := by
  unfold readFile at h
  cases hf : d.find p with
  | error e => simp [hf] at h
  | ok e =>
    obtain rfl := hsight e hf
    simpa [hf] using h.symm

namespace Watch

theorem completeLines_eq_finished (bs : Bytes) :
    completeLines bs = (Text.finished (Utf8.decode bs)).map Text.withoutReturns := by
  have hlines : Text.finished (Utf8.decode bs) = (bs.splitOn lineEnd).dropLast.map Utf8.decode := by
    rw [Text.finished, Utf8.splitText_decode, List.map_dropLast]
    rfl
  rw [hlines, List.map_map]
  refine List.map_congr_left fun piece _ => ?_
  rw [Function.comp_apply, Text.withoutReturns, Utf8.decode, String.toList_ofList, wholeLine]

theorem drawn_of_within {lines : List String} {bs : Bytes} {nothingLeft : Prop} (h : lines <+: completeLines bs)
    (hall : nothingLeft → lines = completeLines bs) : Text.Drawn lines (Utf8.decode bs) nothingLeft := by
  rw [completeLines_eq_finished] at h hall
  exact ⟨.of_within h, fun hn => .of_eq (hall hn)⟩

theorem Cursor.Follows.all_read {d : Disk} {p : Path} {id : FileId} {c : Cursor} {old read unread : Bytes}
    (h : c.Follows d p id old read unread) (hnext : (c.next d).1.line? = none) :
    completeLines (read ++ unread) = completeLines read := by
  cases hs : splitLine unread with
  | none => exact (h.next_none hs).2.1
  | some x =>
    obtain ⟨text, hline, -, -⟩ := h.next_line hs
    rw [hline] at hnext
    cases hnext

namespace Watching

/-- The reader found no line more and none was on its way to the scanner, now or at a moment since which nothing has
been written. -/
inductive CaughtUp (r : Rules) (p : Path) (id : FileId) : Watching → Prop
  | now {x} (h : Reached r p id x) (hreader : x.monitor.reader ≠ .ended)
    (hnext : (x.monitor.cursor.next x.disk).1.line? = none) (hway : x.monitor.underway = []) : CaughtUp r p id x
  | later {x y} (h : CaughtUp r p id x) (hs : Step p id x y) (hw : y.written = x.written) : CaughtUp r p id y

variable {r : Rules} {p : Path} {id : FileId} {x y : Watching}

theorem Step.judged_grows (h : Step p id x y) : x.judged <+: y.judged := by
  cases h with
  | write hg => exact List.prefix_rfl
  | read now hm => exact List.prefix_rfl
  | judge now hm => exact List.prefix_append ..
  | ask hs => exact List.prefix_rfl

theorem Reached.judged_within (h : Reached r p id x) : x.judged <+: completeLines x.written := by
  obtain ⟨⟨old, read, unread, hf⟩, -⟩ := h.accounted
  rw [hf.written]
  exact ((List.prefix_append _ _).trans hf.order).trans (completeLines_mono read unread)

theorem CaughtUp.reached (h : CaughtUp r p id x) : Reached r p id x := by
  induction h with
  | now h _ _ _ => exact h
  | later _ hs _ ih => exact ih.step hs

theorem CaughtUp.judged_eq (h : CaughtUp r p id x) : x.judged = completeLines x.written := by
  induction h with
  | now h hreader hnext hway =>
    obtain ⟨⟨old, read, unread, hf⟩, -⟩ := h.accounted
    rw [hf.written, hf.follows.all_read hnext, ← hf.whole hreader, hway, List.append_nil]
  | later h hs hw ih =>
    have hmore := hs.judged_grows
    have hall := (h.reached.step hs).judged_within
    rw [ih] at hmore
    rw [hw] at hall ⊢
    exact hall.eq_of_length_le hmore.length_le

theorem Reached.drawn (h : Reached r p id x) {content : Bytes} (hread : x.disk.readFile p = .ok content)
    (hwhole : x.written = x.disk.content id) :
    Text.Drawn x.judged (Utf8.decode content) (CaughtUp r p id x) := by
  obtain ⟨⟨old, read, unread, hf⟩, -⟩ := h.accounted
  rw [Disk.eq_content_of_readFile hread hf.follows.sight, ← hwhole]
  exact drawn_of_within h.judged_within CaughtUp.judged_eq

end Watching

theorem Truncated.drawn {p : Path} {id : FileId} {t : Trail} (h : Truncated p id t) (hcut : t.cut = false)
    {content : Bytes} (hread : t.disk.readFile p = .ok content) (hwhole : t.text = t.disk.content id) :
    Text.Drawn (Cursor.Reading.lines t.answers) (Utf8.decode content) ((t.cursor.next t.disk).1.line? = none) ∧
      ∃ n, Text.Mirrors (Cursor.Reading.lines (t.answers ++ t.cursor.answers t.disk n))
        (Text.finished (Utf8.decode content)) := by
  obtain ⟨old, read, unread, hc, htext, hlines, -⟩ := h.keeps.follows hcut
  rw [Disk.eq_content_of_readFile hread hc.sight, ← hwhole]
  constructor
  · refine drawn_of_within h.keeps.lines fun hnext => ?_
    rw [hlines, htext, hc.all_read hnext]
  · obtain ⟨n, hn⟩ := hc.lines_answers
    refine ⟨n, .of_eq ?_⟩
    rw [Cursor.Reading.lines_append, hlines, hn, ← htext, completeLines_eq_finished]

end Watch

namespace Build
variable {σ : Type} {b : Build} {c : Crew σ} {disk : σ → Disk} {shown : σ → String} {going : σ → Prop} {s : σ}

theorem dumpLog_shown (hc : c.Handles disk shown going) (hgoing : going (b.dumpLog c s)) {content : Bytes}
    (hread : (disk s).readFile b.engine.logFile = .ok content) :
    shown (b.dumpLog c s) = shown s ++ logFrame b.engine.logFile content := by
  have hlook : going (c.readLog b.engine.logFile s).2 → _ := hc.readLog
  unfold dumpLog at hgoing ⊢
  generalize c.readLog b.engine.logFile s = looked at hgoing hlook ⊢
  obtain ⟨found, s₁⟩ := looked
  cases found with
  | ok bytes =>
    obtain ⟨hgoing₁, -, hdumped⟩ := hc.dump hgoing
    obtain ⟨-, hfound, -, hshown⟩ := hlook hgoing₁
    cases hfound.trans hread
    rw [hdumped, hshown]
  | error e =>
    obtain ⟨hgoing₁, -⟩ := hc.note hgoing
    obtain ⟨-, hfound, -⟩ := hlook hgoing₁
    cases hfound.trans hread

/-- A log falls into the same lines before it is decoded and after. So the lines that were scanned of a log, if it was
followed from its first byte on, are those of the text that is shown, and the same signatures stand in both. The log
may have grown under a watch, or been cut and written anew under a cursor, which gives all of them if it is asked often
enough. -/
theorem dumpLog_drawn (b : Build) (c : Crew σ) (s : σ) :
    (∀ bs : Bytes, Text.splitText '\n' (Utf8.decode bs) = (bs.splitOn lineEnd).map Utf8.decode) ∧
    (c.Handles disk shown going → going (b.dumpLog c s) →
      ∀ content, (disk s).readFile b.engine.logFile = .ok content →
        shown (b.dumpLog c s) = shown s ++ ("----- engine log: " ++ b.engine.logFile.text ++ " -----\n" ++
          Utf8.decode content ++ "\n----- end of engine log -----\n") ∧
        (∀ r id x, Watching.Reached r b.engine.logFile id x → x.disk = disk s → x.written = x.disk.content id →
          Text.Drawn x.judged (Utf8.decode content) (x.CaughtUp r b.engine.logFile id)) ∧
        ∀ id t, Truncated b.engine.logFile id t → t.disk = disk s → t.cut = false → t.text = t.disk.content id →
          Text.Drawn (Cursor.Reading.lines t.answers) (Utf8.decode content)
            ((t.cursor.next t.disk).1.line? = none) ∧
          ∃ n, Text.Mirrors (Cursor.Reading.lines (t.answers ++ t.cursor.answers t.disk n))
            (Text.finished (Utf8.decode content))) := by
  refine ⟨Utf8.splitText_decode, fun hc hgoing content hread => ⟨dumpLog_shown hc hgoing hread, ?_, ?_⟩⟩
  · intro r id x h hdisk hwhole
    exact h.drawn (by rw [hdisk, hread]) hwhole
  · intro id t h hdisk hcut hwhole
    exact h.drawn hcut (by rw [hdisk, hread]) hwhole

theorem dumpLog_drawn_boom :
    let bytes : Bytes := [98, 111, 111, 109, 0xE2, 0x82, 13, 10, 0xAC]
    let text := "boom\uFFFD\r\n\uFFFD"
    let d : Disk := ⟨[(["log"], .file 0)], [(0, bytes)], 1, []⟩
    let b : Build := ⟨⟨"engine", ⟨"project"⟩, "", .ios, ⟨"log"⟩, []⟩, {}, {}⟩
    Text.finished text = ["boom\uFFFD\r"] ∧
    String.join (b.dumpLog Rehearsal.crew { site := { disk := d } }).frames =
      "----- engine log: log -----\n" ++ text ++ "\n----- end of engine log -----\n" ∧
    (∃ m, Watching.CaughtUp { crashSignatures := ["boom"] } ⟨"log"⟩ 0 ⟨d, m, bytes, ["boom\uFFFD"]⟩ ∧
      (∀ lastWords, (m.finalReport lastWords).outcome = .crashed) ∧ Text.Mirrors ["boom\uFFFD"] (Text.finished text)) ∧
    ∃ t, Truncated ⟨"log"⟩ 0 t ∧ t.disk = d ∧ t.earlier = [([], [.pending])] ∧ t.answers = [.line "boom\uFFFD"] ∧
      Text.Mirrors ["boom\uFFFD"] (Text.finished text) := by
  have hstart : Watching.Reached { crashSignatures := ["boom"] } ⟨"log"⟩ 0
      { disk := ⟨[(["log"], .file 0)], [(0, [])], 1, []⟩
        monitor := .start .returns { crashSignatures := ["boom"] } ⟨⟨"log"⟩, .file 0, 0, []⟩ 0 } :=
    .start (w := {}) (d := ⟨[(["log"], .file 0)], [(0, [])], 1, []⟩) rfl rfl rfl
  have hgrows : Disk.Grows ⟨"log"⟩ 0 [98, 111, 111, 109, 0xE2, 0x82, 13, 10, 0xAC]
      ⟨[(["log"], .file 0)], [(0, [])], 1, []⟩
      ⟨[(["log"], .file 0)], [(0, [98, 111, 111, 109, 0xE2, 0x82, 13, 10, 0xAC])], 1, []⟩ :=
    Disk.grows_of_append rfl rfl
  have hrun := ((hstart.step (.write hgrows)).step (.read 1 rfl)).step (.judge 2 rfl)
  have hcaught := Watching.CaughtUp.now hrun (by decide +kernel) (by decide +kernel) (by decide +kernel)
  have hpending : Truncated ⟨"log"⟩ 0
      { disk := ⟨[(["log"], .file 0)], [(0, List.replicate 10 0)], 1, []⟩
        cursor := ⟨⟨"log"⟩, .file 0, 10, []⟩, answers := [.pending] } :=
    .asked (.opened (c := ⟨⟨"log"⟩, .file 0, 10, []⟩) rfl rfl) rfl
  have hnoticed : Truncated ⟨"log"⟩ 0
      { disk := ⟨[(["log"], .file 0)], [(0, [98, 111, 111, 109, 0xE2, 0x82, 13, 10, 0xAC])], 1, []⟩
        cursor := ⟨⟨"log"⟩, .file 0, 0, []⟩
        text := [98, 111, 111, 109, 0xE2, 0x82, 13, 10, 0xAC]
        earlier := [([], [.pending])] } :=
    (hpending.cut rfl rfl).noticed rfl (by decide)
  have htrail : Truncated ⟨"log"⟩ 0
      { disk := ⟨[(["log"], .file 0)], [(0, [98, 111, 111, 109, 0xE2, 0x82, 13, 10, 0xAC])], 1, []⟩
        cursor := ⟨⟨"log"⟩, .file 0, 8, []⟩
        text := [98, 111, 111, 109, 0xE2, 0x82, 13, 10, 0xAC]
        answers := [.line "boom\uFFFD"], earlier := [([], [.pending])] } := hnoticed.asked rfl
  intro bytes text d b
  have htext : Utf8.decode bytes = text := by decide +kernel
  obtain ⟨hshown, hwatch, hcursor⟩ := (dumpLog_drawn b Rehearsal.crew { site := { disk := d } }).2
    Rehearsal.crew_handles (by decide +kernel) bytes (by decide +kernel)
  rw [htext] at hshown hwatch hcursor
  refine ⟨by decide +kernel, hshown.trans (by decide +kernel), ⟨_, hcaught, fun _ => rfl, ?_⟩, _, htrail, rfl,
    rfl, rfl, ?_⟩
  · exact (hwatch _ _ _ hrun rfl rfl).2 hcaught
  · exact (hcursor _ _ htrail rfl rfl rfl).1.2 (by decide +kernel)

end Build
end Foreman
