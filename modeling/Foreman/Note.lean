/-! What is written to the operator's log. A note is known by what it tells; how grave it is, which part of
the program speaks and which facts it gives follow from that. The wording is not kept. -/

namespace Foreman

inductive Level where
  | error
  | warn
  | info
  | debug
  | trace
  deriving DecidableEq, Repr

namespace Level

def rank : Level → Nat
  | .error => 1
  | .warn => 2
  | .info => 3
  | .debug => 4
  | .trace => 5

def name : Level → String
  | .error => "ERROR"
  | .warn => "WARN"
  | .info => "INFO"
  | .debug => "DEBUG"
  | .trace => "TRACE"

end Level

inductive Speaker where
  | program
  | logging
  | config
  | executor
  | steps
  | scan
  | cursor
  | monitor
  | halting
  deriving DecidableEq, Repr

def Speaker.target : Speaker → String
  | .program => "buildwarden"
  | .logging => "buildwarden::logging"
  | .config => "buildwarden::config::loader"
  | .executor => "buildwarden::exec::process"
  | .steps => "buildwarden::build::orchestrator"
  | .scan => "buildwarden::watchdog::core"
  | .cursor => "buildwarden::watchdog::tail"
  | .monitor => "buildwarden::watchdog::monitor"
  | .halting => "buildwarden::watchdog::halt"

inductive Note where
  | interrupted
  | nothingToDo
  | done
  | filterRefused
  | configMissing
  | commandStarted
  | commandNotStarted
  | commandEnded
  | commandFailed
  | exitIgnored
  | buildSkipped
  | outputRemoved
  | stepStarted
  | methodEnded
  | actionFailed
  | stepAborted
  | stepRepeated
  | stepExhausted
  | stepSucceeded
  | logUnreadable
  | markerSeen
  | logMade
  | readerAttached
  | readerRestarted
  | readerFailed
  | readerEnded
  | watchRefused
  | watchStarted
  | watchStopped
  | scannerAsked
  | scannerFailed
  | readerLost
  | failureFound
  | processHalted
  | groupHalted
  | nothingToHalt
  | helperEnded
  | helperNotStarted
  deriving DecidableEq, Repr

namespace Note

def level : Note → Level
  | commandNotStarted | commandFailed | stepAborted | stepExhausted | failureFound => .error
  | interrupted | filterRefused | stepRepeated | logUnreadable | readerFailed | watchRefused
  | scannerFailed | readerLost | processHalted | groupHalted | nothingToHalt | helperNotStarted => .warn
  | nothingToDo | done | commandStarted | commandEnded | buildSkipped | outputRemoved | stepStarted
  | stepSucceeded | logMade | readerRestarted | watchStarted | watchStopped => .info
  | configMissing | exitIgnored | methodEnded | actionFailed | markerSeen | readerAttached
  | readerEnded | scannerAsked | helperEnded => .debug

def speaker : Note → Speaker
  | interrupted | nothingToDo | done => .program
  | filterRefused => .logging
  | configMissing => .config
  | commandStarted | commandNotStarted | commandEnded | commandFailed | exitIgnored => .executor
  | buildSkipped | outputRemoved | stepStarted | methodEnded | actionFailed | stepAborted
  | stepRepeated | stepExhausted | stepSucceeded | logUnreadable => .steps
  | markerSeen => .scan
  | logMade | readerAttached | readerRestarted | readerFailed | readerEnded => .cursor
  | watchRefused | watchStarted | watchStopped | scannerAsked | scannerFailed | readerLost
  | failureFound => .monitor
  | processHalted | groupHalted | nothingToHalt | helperEnded | helperNotStarted => .halting

def facts : Note → List String
  | interrupted | readerLost => []
  | nothingToDo | buildSkipped => ["step"]
  | done | stepSucceeded => ["step", "attempts"]
  | filterRefused => ["error"]
  | configMissing | outputRemoved | logMade | readerEnded | watchRefused => ["path"]
  | commandStarted => ["cmd"]
  | commandNotStarted => ["cmd", "error"]
  | commandEnded => ["program", "seconds", "exit_code"]
  | commandFailed => ["cmd", "code", "stderr"]
  | exitIgnored => ["cmd", "code"]
  | stepStarted => ["step", "attempt"]
  | methodEnded => ["method", "code"]
  | actionFailed => ["step", "action", "code"]
  | stepAborted => ["step", "error"]
  | stepRepeated => ["step", "code", "remaining"]
  | stepExhausted => ["step", "code", "attempts"]
  | logUnreadable | readerFailed | scannerFailed => ["path", "error"]
  | markerSeen => ["window_secs"]
  | readerAttached => ["path", "offset"]
  | readerRestarted => ["path", "previous_offset", "len"]
  | watchStarted => ["path", "hang_timeout_secs", "window_secs"]
  | watchStopped => ["path", "outcome", "lines"]
  | scannerAsked => ["lines"]
  | failureFound => ["idle_secs"]
  | processHalted => ["process", "reason"]
  | groupHalted => ["pid", "reason"]
  | nothingToHalt => ["reason"]
  | helperEnded => ["target", "status"]
  | helperNotStarted => ["target", "error"]

def textFact : String := "message"

def gives (n : Note) (fact : String) : Bool := fact == textFact || n.facts.contains fact

end Note
end Foreman
