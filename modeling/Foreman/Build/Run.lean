import Foreman.Build.Error
import Foreman.Engine
import Foreman.Note

/-! A step is run: its actions in order, the watch around each call of the engine, the whole step again
while it fails and the budget lasts. Crashes, hangs and failing hooks are final. -/

namespace Foreman

open Watch

/-- Those who carry out what a build asks for. They share a state. -/
structure Crew (σ : Type) where
  startWatch : Rules → Path → σ → Option StartError × σ
  stopWatch : σ → Option Report × σ
  run : Invocation → σ → Except RunError Execution × σ
  clear : Path → σ → Option DiskError × σ
  readLog : Path → σ → Except DiskError Bytes × σ
  dump : String → σ → σ
  note : Note → σ → σ

structure Build where
  engine : Engine
  watch : Rules
  rules : Config.BuildRules
  deriving DecidableEq, Repr

/-- A step that came to a good end. A skipped one was attempted no times. -/
structure StepReport where
  step : Step
  attempts : Nat
  skipped : Bool
  deriving DecidableEq, Repr

namespace Build

variable {σ : Type}

/-- A build can be run only if its engine can be called. -/
def ofSettings (s : Config.Settings) : Except Config.Problem Build :=
  match Engine.ofSettings s.engine with
  | .error e => .error e
  | .ok engine => .ok { engine, watch := s.watch, rules := s.build }

/-- What a watched command comes to. The watch has the first word. -/
def verdict (report : Option Report) (result : Except RunError Execution) :
    Except BuildError Execution :=
  match report with
  | some ⟨.crashed, message, _⟩ => .error (.supervision .crashed (message.getD ""))
  | some ⟨.hung, message, _⟩ => .error (.supervision .hung (message.getD ""))
  | _ => match result with
    | .ok e => .ok e
    | .error e => .error (.execution e)

def watched (c : Crew σ) (watch : Rules) (log : Path) (i : Invocation) (s : σ) :
    Except BuildError Execution × σ :=
  match c.startWatch watch log s with
  | (some e, s) => (.error (.watchdog e), s)
  | (none, s) =>
    let (result, s) := c.run i s
    let (report, s) := c.stopWatch s
    (verdict report result, s)

def callEngine (b : Build) (c : Crew σ) (method : String) (s : σ) : Except BuildError Int × σ :=
  match watched c b.watch b.engine.logFile (b.engine.invocation method) s with
  | (.ok e, s) => (.ok e.code, c.note .methodEnded s)
  | (.error e, s) => (.error e, s)

def runHooks (b : Build) (c : Crew σ) : List String → σ → Except BuildError Unit × σ
  | [], s => (.ok (), s)
  | hook :: hooks, s =>
    match c.run (b.engine.hookInvocation hook) s with
    | (.error e, s) => (.error (.execution e), s)
    | (.ok _, s) => runHooks b c hooks s

def runAction (b : Build) (c : Crew σ) (a : Action) (s : σ) : Except BuildError Int × σ :=
  match a with
  | .engine method => b.callEngine c method s
  | .hooks => match b.runHooks c b.rules.resourceHooks s with
    | (.ok (), s) => (.ok 0, s)
    | (.error e, s) => (.error e, s)

def runActions (b : Build) (c : Crew σ) : List Action → σ → Except BuildError Int × σ
  | [], s => (.ok 0, s)
  | a :: actions, s =>
    match b.runAction c a s with
    | (.error e, s) => (.error e, s)
    | (.ok code, s) => if code = 0 then runActions b c actions s else (.ok code, c.note .actionFailed s)

/-- Attempts a step until it succeeds or is aborted, and at most `budget` more times while it fails. The
result tells the last code and the number of attempts. -/
def attempt (b : Build) (c : Crew σ) (step : Step) :
    (budget : Nat) → (before : Nat) → σ → Except BuildError (Int × Nat) × σ
  | budget, before, s =>
    match b.runActions c step.actions (c.note .stepStarted s) with
    | (.error e, s) => (.error e, c.note .stepAborted s)
    | (.ok code, s) =>
      if code = 0 then (.ok (code, before + 1), s)
      else match budget with
        | 0 => (.ok (code, before + 1), s)
        | budget + 1 => attempt b c step budget (before + 1) (c.note .stepRepeated s)

def logFrame (log : Path) (content : Bytes) : String :=
  "----- engine log: " ++ log.text ++ " -----\n" ++ Utf8.decode content ++
    "\n----- end of engine log -----\n"

def dumpLog (b : Build) (c : Crew σ) (s : σ) : σ :=
  match c.readLog b.engine.logFile s with
  | (.ok content, s) => c.dump (logFrame b.engine.logFile content) s
  | (.error _, s) => c.note .logUnreadable s

def clearOutput (b : Build) (c : Crew σ) (s : σ) : Option BuildError × σ :=
  match b.rules.cleanOutput with
  | none => (none, s)
  | some dir => match c.clear dir s with
    | (some e, s) => (some (.cleanOutput dir e), s)
    | (none, s) => (none, s)

/-- Runs a step. Whatever is wrong with it in the end, the engine's log is shown first. -/
def run (b : Build) (c : Crew σ) (step : Step) (retry : Nat) (s : σ) :
    Except BuildError StepReport × σ :=
  if b.rules.skip then (.ok ⟨step, 0, true⟩, c.note .buildSkipped s)
  else match b.clearOutput c s with
    | (some e, s) => (.error e, s)
    | (none, s) => match b.attempt c step retry 0 s with
      | (.error e, s) => (.error e, b.dumpLog c s)
      | (.ok (code, attempts), s) =>
        if code = 0 then (.ok ⟨step, attempts, false⟩, c.note .stepSucceeded s)
        else (.error (.stepFailed step code attempts), b.dumpLog c (c.note .stepExhausted s))

end Build
end Foreman
