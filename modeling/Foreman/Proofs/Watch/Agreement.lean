import Foreman.Proofs.Watch.Calls
import Foreman.Proofs.Watch.Verdicts

/-! A watchdog in the hands of its owner, whose calls come in any order with what the two tasks do by
themselves. What the watchdog shows, what the halt action was told and what a stop hands back agree with
each other over any number of watches. -/

namespace Foreman.Watch

/-- What was seen of one watch: each state that was shown, the reasons given to the halt action, and the
report once it was stopped. -/
structure Lifecycle where
  log : Path
  states : List State
  reasons : List String := []
  report : Option Report := none

def Lifecycle.sees (l : Lifecycle) (before after : Watchdog) : Lifecycle :=
  { l with
    states := if after.state = before.state then l.states else l.states ++ [after.state]
    reasons := l.reasons ++ after.halts.drop before.halts.length }

structure Scene where
  watchdog : Watchdog := {}
  disk : Disk
  stopping : Bool := false
  opened : Option Lifecycle := none
  closed : List Lifecycle := []

namespace Scene

def advance (s : Scene) (m : Monitor) : Scene :=
  { s with
    watchdog := s.watchdog.advance m
    opened := s.opened.map (·.sees s.watchdog (s.watchdog.advance m)) }

def start (s : Scene) (r : Rules) (log : Path) (now : Instant) : Scene :=
  match s.watchdog.start r log s.disk now with
  | (none, disk, watchdog) =>
    { s with watchdog, disk, opened := some { log, states := [watchdog.state] } }
  | (some _, disk, watchdog) =>
    { s with watchdog, disk, opened := s.opened.map (·.sees s.watchdog watchdog) }

def stop (s : Scene) (now : Instant) : Scene :=
  match s.watchdog.stop s.disk now with
  | (report, _, watchdog) =>
    { s with
      watchdog
      stopping := false
      opened := none
      closed := s.closed ++ (s.opened.map fun l => { l.sees s.watchdog watchdog with report }).toList }

/-- While a stop waits for the tasks, they and the files go on, but the owner cannot call again. -/
inductive Step : Scene → Scene → Prop
  | files {s} (disk : Disk) : Step s { s with disk }
  | read {s m m'} (now : Instant) (hm : s.watchdog.monitor = some m)
    (h : m.readerStep? s.disk now = some m') : Step s (s.advance m')
  | scan {s m m'} (now : Instant) (hm : s.watchdog.monitor = some m)
    (h : m.scannerStep? now = some m') : Step s (s.advance m')
  | start {s} (r : Rules) (log : Path) (now : Instant) (h : s.stopping = false) :
    Step s (s.start r log now)
  | askStop {s} (h : s.stopping = false) : Step s { s with stopping := true }
  | stop {s} (now : Instant) (h : s.stopping = true) : Step s (s.stop now)

inductive Reached : Scene → Prop
  | new (disk : Disk) : Reached { disk }
  | step {s s'} (h : Reached s) (hs : Step s s') : Reached s'

end Scene

inductive Lifecycle.Shows (l : Lifecycle) (m : Monitor) : State → Prop
  | calm (hm : m.Calm) (hs : l.states = [.monitoring]) (hr : l.reasons = []) :
    Shows l m .monitoring
  | condemned {reason} (hm : m.Condemned reason) (hs : l.states = [.monitoring, .halted])
    (hr : l.reasons = [reason]) : Shows l m .halted

inductive Lifecycle.Settled (l : Lifecycle) : Prop
  | clean {report} (hreport : l.report = some report) (hok : report.outcome = .ok)
    (hs : l.states = [.monitoring, .notMonitoring]) (hr : l.reasons = [])
  | halted {report reason} (hreport : l.report = some report) (hok : report.outcome ≠ .ok)
    (hs : l.states = [.monitoring, .halted, .notMonitoring]) (hr : l.reasons = [reason])
    (hmessage : report.message = some reason)

namespace Lifecycle
variable {l : Lifecycle} {m m' : Monitor} {w before after : Watchdog} {more : List String}

theorem sees_reasons (l : Lifecycle) (h : after.halts = before.halts ++ more) :
    (l.sees before after).reasons = l.reasons ++ more := by
  rw [sees, h, List.drop_left]

theorem sees_states_of_eq (l : Lifecycle) (h : after.state = before.state) :
    (l.sees before after).states = l.states := if_pos h

theorem sees_states_of_ne (l : Lifecycle) (h : after.state ≠ before.state) :
    (l.sees before after).states = l.states ++ [after.state] := if_neg h

theorem Shows.advance (h : l.Shows m w.state) (hmon : w.monitor = some m) (hd : m.Develops m') :
    ∃ more, (w.advance m').halts = w.halts ++ more ∧
      (l.sees w (w.advance m')).Shows m' (w.advance m').state := by
  have hbefore : w.halts = w.earlierHalts ++ m.halts := by rw [Watchdog.halts, hmon]
  have hafter : (w.advance m').halts = w.earlierHalts ++ m'.halts := rfl
  generalize hw : w.state = state at h
  -- only the step from calm to condemned writes the state and adds a reason
  cases h with
  | calm hm hs hr =>
    rcases hd.calm hm with hm' | ⟨reason, hm'⟩
    · have hhalts : (w.advance m').halts = w.halts ++ [] := by
        simp only [hafter, hbefore, hm.halts, hm'.halts, List.append_nil]
      have hstate : (w.advance m').state = w.state := by simp [Watchdog.advance, hm'.halted]
      refine ⟨[], hhalts, ?_⟩
      rw [hstate, hw]
      exact .calm hm' (by rw [sees_states_of_eq l hstate, hs])
        (by rw [sees_reasons l hhalts, hr, List.append_nil])
    · have hhalts : (w.advance m').halts = w.halts ++ [reason] := by
        rw [hafter, hbefore, hm.halts, hm'.halts, List.append_nil]
      have hstate : (w.advance m').state = .halted := by simp [Watchdog.advance, hm'.halted]
      refine ⟨[reason], hhalts, ?_⟩
      rw [hstate]
      refine .condemned hm' ?_ (by rw [sees_reasons l hhalts, hr, List.nil_append])
      rw [sees_states_of_ne l (by simp [hstate, hw]), hs, hstate]
      rfl
  | @condemned reason hm hs hr =>
    have hm' := hd.condemned reason hm
    have hhalts : (w.advance m').halts = w.halts ++ [] := by
      rw [hafter, hbefore, hm.halts, hm'.halts, List.append_nil]
    have hstate : (w.advance m').state = .halted := by simp [Watchdog.advance, hm'.halted]
    refine ⟨[], hhalts, ?_⟩
    rw [hstate]
    exact .condemned hm' (by rw [sees_states_of_eq l (hstate.trans hw.symm), hs])
      (by rw [sees_reasons l hhalts, hr, List.append_nil])

theorem Shows.settled (lastWords : String) (h : l.Shows m before.state)
    (hstate : after.state = .notMonitoring) (hhalts : after.halts = before.halts) :
    Settled { l.sees before after with report := some (m.finalReport lastWords) } := by
  have hreasons : (l.sees before after).reasons = l.reasons := by
    rw [sees_reasons l (hhalts.trans (List.append_nil _).symm), List.append_nil]
  generalize hb : before.state = state at h
  have hstates : state ≠ .notMonitoring → (l.sees before after).states = l.states ++ [.notMonitoring] :=
    fun hne => by rw [sees_states_of_ne l (by rw [hstate, hb]; exact hne.symm), hstate]
  cases h with
  | calm hm hs hr =>
    refine .clean rfl (hm.finalReport lastWords) ?_ (hreasons.trans hr)
    exact (hstates (by simp)).trans (by rw [hs]; rfl)
  | condemned hm hs hr =>
    refine .halted rfl (hm.finalReport lastWords).1 ?_ (hreasons.trans hr) (hm.finalReport lastWords).2
    exact (hstates (by simp)).trans (by rw [hs]; rfl)

end Lifecycle

namespace Scene

structure Watches (s : Scene) (l : Lifecycle) (m : Monitor) : Prop where
  monitor : s.watchdog.monitor = some m
  action : m.haltAction = .returns
  path : m.cursor.path = l.log
  shows : l.Shows m s.watchdog.state

structure Agrees (s : Scene) : Prop where
  action : s.watchdog.haltAction = .returns
  idle : s.opened = none → s.watchdog.monitor = none ∧ s.watchdog.state = .notMonitoring
  busy : ∀ l, s.opened = some l → ∃ m, s.Watches l m
  halts : s.watchdog.halts = (s.closed ++ s.opened.toList).flatMap Lifecycle.reasons
  settled : ∀ l ∈ s.closed, l.Settled

variable {s s' : Scene} {m m' : Monitor} {l : Lifecycle}

theorem Agrees.opened_of_monitor (h : s.Agrees) (hm : s.watchdog.monitor = some m) :
    ∃ l, s.opened = some l ∧ s.Watches l m := by
  cases ho : s.opened with
  | none =>
    rw [(h.idle ho).1] at hm
    cases hm
  | some l =>
    obtain ⟨m', hr⟩ := h.busy l ho
    obtain rfl : m' = m := Option.some.inj (hr.monitor.symm.trans hm)
    exact ⟨l, rfl, hr⟩

theorem Agrees.opened_eq_none (h : s.Agrees) (hm : s.watchdog.monitor = none) :
    s.opened = none := by
  cases ho : s.opened with
  | none => rfl
  | some l =>
    obtain ⟨m, hw⟩ := h.busy l ho
    have hsome := hw.monitor
    rw [hm] at hsome
    cases hsome

theorem Agrees.advance (h : s.Agrees) (hm : s.watchdog.monitor = some m) (hd : m.Develops m') :
    (s.advance m').Agrees := by
  obtain ⟨l, ho, hw⟩ := h.opened_of_monitor hm
  obtain ⟨more, hhalts, hshows⟩ := hw.shows.advance hm hd
  have hopened : (s.advance m').opened = some (l.sees s.watchdog (s.watchdog.advance m')) := by
    rw [Scene.advance, ho]
    rfl
  refine ⟨h.action, fun hn => ?_, fun l' hl' => ?_, ?_, h.settled⟩
  · rw [hopened] at hn
    cases hn
  · rw [hopened] at hl'
    cases hl'
    exact ⟨m', rfl, hd.action.trans hw.action, hd.path.trans hw.path, hshows⟩
  · have hsum := h.halts
    rw [ho] at hsum
    rw [hopened]
    have hseen := l.sees_reasons hhalts
    simp only [Option.toList_some, List.flatMap_append, List.flatMap_singleton] at hsum ⊢
    rw [hseen, ← List.append_assoc]
    exact hhalts.trans (congrArg (· ++ more) hsum)

theorem Agrees.sees_same {w : Watchdog} {d : Disk} (h : s.Agrees)
    (ha : w.haltAction = s.watchdog.haltAction) (hm : w.monitor = s.watchdog.monitor)
    (hs : w.state = s.watchdog.state) (hh : w.halts = s.watchdog.halts) :
    Agrees { s with watchdog := w, disk := d, opened := s.opened.map (·.sees s.watchdog w) } := by
  have hsame (l : Lifecycle) : l.sees s.watchdog w = l := by
    simp [Lifecycle.sees, hs, hh]
  have hopened : s.opened.map (·.sees s.watchdog w) = s.opened := by
    simp only [hsame, Option.map_id']
  rw [hopened]
  refine ⟨ha.trans h.action, fun ho => ?_, fun l ho => ?_, hh.trans h.halts, h.settled⟩
  · rw [hm, hs]
    exact h.idle ho
  · obtain ⟨m, hw⟩ := h.busy l ho
    exact ⟨m, hm.trans hw.monitor, hw.action, hw.path, by rw [hs]; exact hw.shows⟩

theorem Agrees.start (h : s.Agrees) (r : Rules) (log : Path) (now : Instant) :
    (s.start r log now).Agrees := by
  have hmove := s.watchdog.start_move r log s.disk now
  unfold Scene.start
  generalize s.watchdog.start r log s.disk now = answer at hmove
  cases hmove with
  | refused hm => exact h.sees_same rfl rfl rfl rfl
  | failed hm => exact h.sees_same rfl rfl rfl rfl
  | @begun d cursor notes hm hc =>
    have hpath : cursor.path = log := congrArg Cursor.path (Cursor.openAtEnd_eq_ok hc).2
    have hhalts := h.halts
    rw [h.opened_eq_none hm] at hhalts
    simp only [Watchdog.halts, hm, Option.toList_none, List.append_nil] at hhalts
    refine ⟨h.action, fun hn => (by cases hn), fun l hl => ?_, ?_, h.settled⟩
    · cases hl
      have hcalm := Monitor.calm_start s.watchdog.haltAction r cursor now
      exact ⟨_, rfl, h.action, hpath, .calm hcalm rfl rfl⟩
    · simpa [Watchdog.halts, Monitor.start] using hhalts

theorem Agrees.stop (h : s.Agrees) (now : Instant) : (s.stop now).Agrees := by
  have hsum := h.halts
  unfold Scene.stop
  cases ho : s.opened with
  | none =>
    obtain ⟨hm, hs⟩ := h.idle ho
    rw [ho] at hsum
    rw [Watchdog.stop_of_none hm]
    simp only [Option.map_none, Option.toList_none, List.append_nil]
    exact ⟨h.action, fun _ => ⟨hm, hs⟩, fun l hl => (by cases hl), hsum, h.settled⟩
  | some l =>
    obtain ⟨m, hw⟩ := h.busy l ho
    obtain ⟨ending, notes, hstop⟩ := Watchdog.stop_eq hw.monitor s.disk now
    rw [ho] at hsum
    rw [hstop]
    simp only [Option.map_some, Option.toList_some]
    set w : Watchdog := { s.watchdog with
      state := .notMonitoring
      monitor := none
      earlierHalts := s.watchdog.earlierHalts ++ m.halts
      earlierNotes := notes }
    -- the reasons only move from the monitor to those of earlier watches
    have hhalts : w.halts = s.watchdog.halts := by
      simp [w, Watchdog.halts, hw.monitor]
    refine ⟨h.action, fun _ => ⟨rfl, rfl⟩, fun l hl => (by cases hl), ?_, fun l' hl' => ?_⟩
    · have hseen := l.sees_reasons (hhalts.trans (List.append_nil _).symm)
      simp only [Option.toList_some, Option.toList_none, List.flatMap_append, List.flatMap_singleton,
        List.append_nil] at hsum hseen ⊢
      rw [hhalts, hsum, hseen]
    · rcases List.mem_append.1 hl' with hl' | hl'
      · exact h.settled l' hl'
      · obtain rfl := List.mem_singleton.1 hl'
        exact hw.shows.settled s.watchdog.lastWords rfl hhalts

theorem Agrees.frame (h : s.Agrees) (disk : Disk) (stopping : Bool) :
    Agrees { s with disk, stopping } := by
  refine ⟨h.action, h.idle, fun l hl => ?_, h.halts, h.settled⟩
  obtain ⟨m, hw⟩ := h.busy l hl
  exact ⟨m, hw.monitor, hw.action, hw.path, hw.shows⟩

theorem Agrees.step (h : s.Agrees) (hs : Step s s') : s'.Agrees := by
  cases hs with
  | files disk => exact h.frame disk s.stopping
  | read now hm hr => exact h.advance hm (Monitor.readerStep?_move hr).develops
  | scan now hm hr =>
    obtain ⟨l, -, hw⟩ := h.opened_of_monitor hm
    exact h.advance hm ((Monitor.scannerStep?_move hr).develops hw.action)
  | start r log now => exact h.start r log now
  | askStop => exact h.frame s.disk true
  | stop now => exact h.stop now

theorem Reached.agrees (h : Reached s) : s.Agrees := by
  induction h with
  | new disk =>
    exact ⟨rfl, fun _ => ⟨rfl, rfl⟩, by simp, rfl, by simp⟩
  | step _ hs ih => exact ih.step hs

theorem Agrees.advance_self (h : s.Agrees) (hm : s.watchdog.monitor = some m) :
    s.watchdog.advance m = s.watchdog := by
  obtain ⟨l, -, hw⟩ := h.opened_of_monitor hm
  have hstate : (if m.halted then .halted else s.watchdog.state) = s.watchdog.state := by
    have hshows := hw.shows
    generalize s.watchdog.state = state at hshows
    cases hshows with
    | calm hc => rw [hc.halted, if_neg Bool.false_ne_true]
    | condemned hc => rw [hc.halted, if_pos rfl]
  rw [Watchdog.advance, hstate, ← hm]

theorem Agrees.advance_runs {d : Disk} (h : s.Agrees) (hm : s.watchdog.monitor = some m)
    (hr : Monitor.Runs d m m') (w : Watchdog) : (w.advance m).advance m' = w.advance m' := by
  have hhalted : m.halted = true → m'.halted = true := by
    intro hh
    obtain ⟨l, -, hw⟩ := h.opened_of_monitor hm
    have hshows := hw.shows
    generalize s.watchdog.state = state at hshows
    cases hshows with
    | calm hc => simp [hc.halted] at hh
    | condemned hc => exact (hr.condemned hc).halted
  unfold Watchdog.advance
  cases hh : m.halted with
  | true => simp [hhalted hh]
  | false => simp

theorem Reached.runs {d : Disk} (h : Reached s) (hd : s.disk = d) (hm : s.watchdog.monitor = some m)
    (hr : Monitor.Runs d m m') :
    ∃ opened, Reached { s with watchdog := s.watchdog.advance m', opened } := by
  induction hr generalizing s with
  | rest =>
    refine ⟨s.opened, ?_⟩
    rw [h.agrees.advance_self hm]
    exact h
  | read hs hr ih =>
    subst hd
    have h₁ := h.step (.read _ hm hs)
    obtain ⟨opened, h₂⟩ := ih h₁ rfl rfl
    have hw := h₁.agrees.advance_runs rfl hr s.watchdog
    exact ⟨opened, hw ▸ h₂⟩
  | scan hs hr ih =>
    have h₁ := h.step (.scan _ hm hs)
    obtain ⟨opened, h₂⟩ := ih h₁ hd rfl
    have hw := h₁.agrees.advance_runs rfl hr s.watchdog
    exact ⟨opened, hw ▸ h₂⟩

theorem Reached.pass (h : Reached s) (now target : Instant) :
    ∃ opened, Reached { s with watchdog := s.watchdog.pass s.disk now target, opened } := by
  unfold Watchdog.pass
  cases hm : s.watchdog.monitor with
  | none => exact ⟨_, h⟩
  | some m => exact h.runs rfl hm (m.pass_runs s.disk now target)

theorem Agrees.halts_eq (h : s.Agrees) (ho : s.opened = none) (hs : Step s s') :
    s'.watchdog.halts = s.watchdog.halts := by
  obtain ⟨hm, -⟩ := h.idle ho
  cases hs with
  | files disk => rfl
  | read now hm' => cases hm.symm.trans hm'
  | scan now hm' => cases hm.symm.trans hm'
  | start r log now =>
    have hmove := s.watchdog.start_move r log s.disk now
    unfold Scene.start
    generalize s.watchdog.start r log s.disk now = answer at hmove
    cases hmove with
    | refused hm' => rfl
    | failed => rfl
    | begun => simp [Watchdog.halts, hm, Monitor.start]
  | askStop => rfl
  | stop now =>
    unfold Scene.stop
    rw [Watchdog.stop_of_none hm]

/-- The state says whether a watch is open. A start beside an open watch is refused and changes nothing,
and one that fails on the log leaves room for the next. Each watch shows its states in order, the halt
action is called at most once in it and never without it, and the report of its stop tells of a failure
only if there was a halt, with the same reason. -/
theorem Reached.agreement (h : Reached s) :
    (s.watchdog.state = .notMonitoring ↔ s.opened = none) ∧
      (∀ l, s.opened = some l →
        (s.watchdog.state = .monitoring ∧ l.states = [.monitoring] ∧ l.reasons = [] ∨
          s.watchdog.state = .halted ∧ l.states = [.monitoring, .halted] ∧
            ∃ reason, l.reasons = [reason]) ∧
        ∀ r log now, ∃ w, s.watchdog.start r log s.disk now =
            (some (.alreadyMonitoring l.log), s.disk, w) ∧
          w.state = s.watchdog.state ∧ w.monitor = s.watchdog.monitor ∧
          w.halts = s.watchdog.halts) ∧
      (∀ r log now path cause d w,
        s.watchdog.start r log s.disk now = (some (.logFile path cause), d, w) →
        path = log ∧ w.state = .notMonitoring ∧ w.monitor = none ∧
          w.halts = s.watchdog.halts ∧ ∀ r' log' d' now',
            (w.start r' log' d' now').1 = (Watchdog.start {} r' log' d' now').1) ∧
      (∀ l ∈ s.closed, l.Settled) ∧
      s.watchdog.halts = (s.closed ++ s.opened.toList).flatMap Lifecycle.reasons ∧
      (s.opened = none → (∀ now, s.watchdog.stop s.disk now = (none, now, s.watchdog)) ∧
        ∀ s', Step s s' → s'.watchdog.halts = s.watchdog.halts) := by
  have ha := h.agrees
  refine ⟨⟨fun hs => ?_, fun ho => (ha.idle ho).2⟩, fun l ho => ?_, ?_, ha.settled, ha.halts,
    fun ho => ⟨fun now => Watchdog.stop_of_none (ha.idle ho).1 _ now, fun s' hs => ha.halts_eq ho hs⟩⟩
  · cases ho : s.opened with
    | none => rfl
    | some l =>
      obtain ⟨m, hw⟩ := ha.busy l ho
      have hshows := hw.shows
      rw [hs] at hshows
      cases hshows
  · obtain ⟨m, hw⟩ := ha.busy l ho
    refine ⟨?_, fun r log now => ⟨s.watchdog.note .watchRefused, ?_, rfl, rfl, rfl⟩⟩
    · have hshows := hw.shows
      generalize s.watchdog.state = state at hshows
      cases hshows with
      | calm hm hs hr => exact .inl ⟨rfl, hs, hr⟩
      | condemned hm hs hr => exact .inr ⟨rfl, hs, _, hr⟩
    · rw [Watchdog.start, hw.monitor, ← hw.path]
  · intro r log now path cause d w hstart
    have hmove := s.watchdog.start_move r log s.disk now
    rw [hstart] at hmove
    cases hmove with
    | failed hm =>
      have hstate := (ha.idle (ha.opened_eq_none hm)).2
      exact ⟨rfl, hstate, hm, rfl, fun r' log' d' now' => Watchdog.start_answer_eq hm rfl⟩

theorem Reached.agreement_boom : ∃ s : Scene, Reached s ∧
    s.closed = [⟨⟨"log"⟩, [.monitoring, .halted, .notMonitoring],
      ["engine crashed or failed (matched \"boom\")"],
      some ⟨.crashed, some "engine crashed or failed (matched \"boom\")", 1⟩⟩] ∧
    s.watchdog.state = .notMonitoring ∧ ∀ l ∈ s.closed, l.Settled := by
  have h₀ := Reached.new ⟨[(["log"], .file 0)], [(0, [])], 1, []⟩
  have h₁ := h₀.step (.start { crashSignatures := ["boom"] } ⟨"log"⟩ 0 rfl)
  have h₂ := h₁.step (.files ⟨[(["log"], .file 0)], [(0, [98, 111, 111, 109, 10])], 1, []⟩)
  have h₃ := h₂.step (.read 1 rfl rfl)
  have h₄ := h₃.step (.scan 2 rfl rfl)
  have h₅ := (h₄.step (.askStop rfl)).step (.stop 3 rfl)
  obtain ⟨hstate, -, -, hclosed, -⟩ := h₅.agreement
  exact ⟨_, h₅, rfl, hstate.2 rfl, hclosed⟩

end Scene
end Foreman.Watch
