import Foreman.Duration.Text
import Foreman.Usage.Arguments

/-! Reading a command line. A value waits until the next argument shows that it is complete; only then is
it judged. So of two mistakes the one in the earlier value counts, but a mistake in the form of the next
argument comes before it. -/

namespace Foreman.Usage

inductive Item where
  | config
  | logLevel
  | dryRun
  | retry
  | logFile
  | processName
  | hangTimeout
  | step
  deriving DecidableEq, Repr

structure Given where
  config : Option String := none
  logLevel : Option Level := none
  dryRun : Bool := false
  retry : Option Nat := none
  logFile : Option Path := none
  processName : Option String := none
  hangTimeout : Option Duration := none
  step : Option Step := none
  words : List String := []
  deriving DecidableEq, Repr

def levelNamed? : String → Option Level
  | "error" => some .error
  | "warn" => some .warn
  | "info" => some .info
  | "debug" => some .debug
  | "trace" => some .trace
  | _ => none

def maxRetry : Nat := UInt32.size - 1

/-- A number of retries. The number zero may have a minus sign before it. -/
def readRetry (s : String) : Option Nat :=
  let value := match s.toList with
    | '-' :: c :: rest => (Text.readDigits 0 0 (c :: rest)).toOption
    | cs => (Text.readNumber Int64.maxValue.toNatClampNeg cs).toOption
  value.filter (· ≤ maxRetry)

def once {α : Type} (before : Option α) (value : Except Mistake α) : Except Mistake (Option α) :=
  match before with
  | some _ => .error .argumentConflict
  | none => value.map some

def orElse {α : Type} (mistake : Mistake) : Option α → Except Mistake α
  | some a => .ok a
  | none => .error mistake

def readTimeout (s : String) : Except Mistake Duration :=
  match Duration.read s with
  | .ok d => .ok d
  | .error .overflow => .error .overflow
  | .error _ => .error .valueValidation

def Given.take (g : Given) (item : Item) (value : String) : Except Mistake Given :=
  match item with
  | .config => (once g.config (.ok value)).map fun v => { g with config := v }
  | .logLevel =>
    (once g.logLevel (orElse .invalidValue (levelNamed? value))).map fun v => { g with logLevel := v }
  | .dryRun => if g.dryRun then .error .argumentConflict else .ok { g with dryRun := true }
  | .retry =>
    (once g.retry (orElse .valueValidation (readRetry value))).map fun v => { g with retry := v }
  | .logFile =>
    (once g.logFile (if value = "" then .error .invalidValue else .ok ⟨value⟩)).map fun v =>
      { g with logFile := v }
  | .processName => (once g.processName (.ok value)).map fun v => { g with processName := v }
  | .hangTimeout => (once g.hangTimeout (readTimeout value)).map fun v => { g with hangTimeout := v }
  | .step =>
    (once g.step (orElse .valueValidation (Step.read value).toOption)).map fun v =>
      { g with step := v }

inductive Place where
  | root
  | run
  | supervise
  deriving DecidableEq, Repr

def commonOptions : List (String × Item) :=
  [("config", .config), ("log-level", .logLevel), ("dry-run", .dryRun)]

def Place.options : Place → List (String × Item)
  | .root => commonOptions
  | .run => ("retry", .retry) :: commonOptions
  | .supervise =>
    [("log-file", .logFile), ("process-name", .processName), ("hang-timeout", .hangTimeout)] ++
      commonOptions

def Place.takesWords (p : Place) : Bool := p = .supervise

inductive Pending where
  | nothing
  | named (item : Item)
  | valued (item : Item) (value : String)
  deriving DecidableEq, Repr

structure Reader where
  place : Place
  given : Given := {}
  pending : Pending := .nothing
  trailing : Bool := false
  deriving DecidableEq, Repr

namespace Reader

def resolve (r : Reader) : Except Mistake Reader :=
  match r.pending with
  | .nothing => .ok r
  | .named _ => .error .invalidValue
  | .valued item value =>
    (r.given.take item value).map fun given => { r with given, pending := .nothing }

def takeOption (r : Reader) (item : Item) (attached : Option String) : Except Mistake Reader :=
  match item, attached with
  | .dryRun, some _ => .error .tooManyValues
  | .dryRun, none => do
    let r ← r.resolve
    return { r with given := ← r.given.take .dryRun "" }
  | item, some value => do
    let r ← r.resolve
    return { r with given := ← r.given.take item value }
  | item, none => do
    let r ← r.resolve
    return { r with pending := .named item }

def ask (r : Reader) (what : Mistake) (attached : Option String) : Except Mistake Reader :=
  if attached.isSome then .error .tooManyValues
  else match r.resolve with
    | .error e => .error e
    | .ok _ => .error what

def dashed? (r : Reader) (arg : List Char) : Option (Except Mistake Reader) :=
  let unknown : Option (Except Mistake Reader) :=
    if r.place.takesWords then none else some (.error .unknownArgument)
  match arg with
  | '-' :: '-' :: c :: cs =>
    let body := c :: cs
    let name := String.ofList (body.takeWhile (· ≠ '='))
    let attached := match body.dropWhile (· ≠ '=') with
      | [] => none
      | _ :: value => some (String.ofList value)
    if name = "help" then some (r.ask .displayHelp attached)
    else if name = "version" && r.place = .root then some (r.ask .displayVersion attached)
    else match r.place.options.lookup name with
      | some item => some (r.takeOption item attached)
      | none => unknown
  | ['-', '-'] => some (.ok { r with trailing := true })
  | '-' :: c :: cs =>
    let short := fun c => c = 'h' || (c = 'V' && r.place = .root)
    if r.place.takesWords && !(c :: cs).all short then none
    else if c = 'h' then some (r.ask .displayHelp none)
    else if short c then some (r.ask .displayVersion none)
    else unknown
  | _ => none

def takeWord (r : Reader) (word : String) : Except Mistake Reader :=
  match r.place with
  | .root =>
    if r.trailing && ["run", "supervise", "help"].contains word then .error .unknownArgument
    else .error .invalidSubcommand
  | .run => match r.pending, r.given.step with
    | .valued .step _, _ | _, some _ => .error .unknownArgument
    | _, none => do
      let r ← r.resolve
      return { r with pending := .valued .step word }
  | .supervise => do
    let r ← r.resolve
    return { r with given := { r.given with words := r.given.words ++ [word] }, trailing := true }

def take (r : Reader) (arg : String) : Except Mistake Reader :=
  let plain := match r.pending with
    | .named item => if r.trailing then r.takeWord arg else .ok { r with pending := .valued item arg }
    | _ => r.takeWord arg
  if r.trailing then plain else (r.dashed? arg.toList).getD plain

def takeAll (r : Reader) : List String → Except Mistake Reader
  | [] => r.resolve
  | arg :: args => do takeAll (← r.take arg) args

def untilOrder (r : Reader) : List String → Except Mistake (Reader × Option (String × List String))
  | [] => .ok (r, none)
  | arg :: args =>
    let isValue := match r.pending with
      | .named _ => true
      | _ => false
    if !r.trailing && !isValue && ["run", "supervise", "help"].contains arg then
      .ok (r, some (arg, args))
    else do untilOrder (← r.take arg) args

end Reader

def help : List String → Mistake
  | [] => .displayHelp
  | [topic] =>
    if ["run", "supervise", "help"].contains topic then .displayHelp else .invalidSubcommand
  | _ => .invalidSubcommand

def Given.order (g : Given) : Place → Except Mistake Order
  | .run => orElse .missingRequiredArgument (g.step.map fun step => .run step g.retry)
  | _ =>
    if g.words = [] then .error .missingRequiredArgument
    else .ok (.supervise g.words g.logFile g.processName g.hangTimeout)

def Given.isBare (g : Given) : Bool := g = {}

/-- What is given after the subcommand counts more than what is given before it. -/
def combine (outer inner : Given) (order : Order) : Arguments :=
  let defaults : Arguments := { order }
  { config := ((inner.config.or outer.config).map Path.mk).getD defaults.config
    logLevel := inner.logLevel.or outer.logLevel
    dryRun := outer.dryRun || inner.dryRun
    order }

/-- Reads the arguments that follow the program's name. What follows the subcommand is judged first. -/
def read (args : List String) : Except Mistake Arguments := do
  let (outer, rest) ← Reader.untilOrder { place := .root } args
  match rest with
  | none =>
    let outer ← outer.resolve
    .error (if outer.given.isBare then .displayHelpOnMissing else .missingSubcommand)
  | some ("help", topics) => .error (help topics)
  | some (name, rest) =>
    let place : Place := if name = "run" then .run else .supervise
    let inner ← Reader.takeAll { place } rest
    let order ← inner.given.order place
    let outer ← outer.resolve
    return combine outer.given inner.given order

end Foreman.Usage
