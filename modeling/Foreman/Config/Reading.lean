import Foreman.Config.Draft
import Foreman.Toml.Document

/-! A configuration draft in a document. A section is a table, or an array that gives its fields in
order. Fields that are not named here are passed over. -/

namespace Foreman.Config

open Toml (Entries Fault Node)

def mismatch {α : Type} (wanted : String) (v : Node) : Except Fault α :=
  .error ⟨.wrongType v.2.found wanted, v.1⟩

def string (wanted : String) (v : Node) : Except Fault String :=
  match v.2 with
  | .string s => .ok s
  | _ => mismatch wanted v

def text (v : Node) : Except Fault String := string "a string" v

def path (v : Node) : Except Fault Path := (string "path string" v).map Path.mk

def boolean (v : Node) : Except Fault Bool :=
  match v.2 with
  | .boolean b => .ok b
  | _ => mismatch "a boolean" v

def count (v : Node) : Except Fault Nat :=
  match v.2 with
  | .integer n =>
    if 0 ≤ n && n < UInt32.size then .ok n.toNat else .error ⟨.wrongNumber n "u32", v.1⟩
  | _ => mismatch "u32" v

def texts (v : Node) : Except Fault (List String) :=
  match v.2.items? with
  | some vs => vs.mapM text
  | none => mismatch "a sequence" v

def platformNames : List String := ["android", "ios", "osx", "win"]

def platformOfName (span : Toml.Span) (name : String) : Except Fault Platform :=
  match Platform.ofName? name with
  | some p => .ok p
  | none => .error ⟨.unknownChoice name platformNames, span⟩

def nothing (v : Node) : Except Fault Unit :=
  let wrong (problem : String) : Except Fault Unit := .error ⟨.choiceContent problem, v.1⟩
  match v.2 with
  | .table _ [] | .array [] => .ok ()
  | .table .. => wrong "expected empty table"
  | .array _ | .tables _ => wrong "expected empty array"
  | other => wrong ("expected table, found " ++ other.kind)

/-- A platform by name, or as a table whose one key is the name and whose value is empty. -/
def platform (v : Node) : Except Fault Platform :=
  match v.2 with
  | .string s => platformOfName v.1 s
  | .table _ [(name, inner)] => do
    let p ← platformOfName v.1 name
    nothing inner
    .ok p
  | .table _ [] => .error ⟨.choiceCount "found 0 elements", v.1⟩
  | .table .. => .error ⟨.choiceCount "more than 1 element", v.1⟩
  | _ => .error ⟨.noChoice, v.1⟩

/-! ### Tables by name -/

def insertSorted {α : Type} (e : String × α) : List (String × α) → List (String × α)
  | [] => [e]
  | x :: xs => if e.1 < x.1 then e :: x :: xs else x :: insertSorted e xs

def sortByName {α : Type} (es : List (String × α)) : List (String × α) := es.foldr insertSorted []

def textTable (v : Node) : Except Fault (List (String × String)) :=
  match v.2.entries? v.1 with
  | some es => (sortByName es).mapM fun (k, v) => (text v).map (k, ·)
  | none => mismatch "a map" v

/-! ### Sections -/

/-- The fields of a section with their values, in the order in which they are read. The names give the
places of the fields in an array. -/
def fields (kind : String) (names : List String) (v : Node) : Except Fault Entries :=
  match v.2.items?, v.2.entries? v.1 with
  | some vs, _ => .ok (names.zip vs)
  | none, some es => .ok (sortByName es)
  | none, none => mismatch ("struct " ++ kind) v

namespace EngineDraft

def names : List String :=
  ["binary", "project_path", "method_prefix", "platform", "log_file", "process_name", "extra_args"]

def set (d : EngineDraft) (field : String × Node) : Except Fault EngineDraft :=
  match field with
  | ("binary", v) => (text v).map fun s => { d with binary := some s }
  | ("project_path", v) => (path v).map fun p => { d with projectPath := p }
  | ("method_prefix", v) => (text v).map fun s => { d with methodPrefix := s }
  | ("platform", v) => (Config.platform v).map fun p => { d with platform := some p }
  | ("log_file", v) => (path v).map fun p => { d with logFile := some p }
  | ("process_name", v) => (text v).map fun s => { d with processName := some s }
  | ("extra_args", v) => (textTable v).map fun es => { d with extraArgs := es }
  | _ => .ok d

def read (v : Node) : Except Fault EngineDraft := do (← fields "EngineSection" names v).foldlM set {}

end EngineDraft

namespace WatchDraft

def names : List String :=
  ["hang_timeout", "initial_timeout", "poll_interval", "crash_signatures", "reset_markers"]

def set (d : WatchDraft) (field : String × Node) : Except Fault WatchDraft :=
  match field with
  | ("hang_timeout", v) => (text v).map fun s => { d with hangTimeout := s }
  | ("initial_timeout", v) => (text v).map fun s => { d with initialTimeout := some s }
  | ("poll_interval", v) => (text v).map fun s => { d with pollInterval := s }
  | ("crash_signatures", v) => (texts v).map fun ss => { d with crashSignatures := ss }
  | ("reset_markers", v) => (texts v).map fun ss => { d with resetMarkers := ss }
  | _ => .ok d

def read (v : Node) : Except Fault WatchDraft := do (← fields "WatchdogSection" names v).foldlM set {}

end WatchDraft

namespace BuildRules

def names : List String := ["retry", "skip", "clean_output", "resource_hooks"]

def set (d : BuildRules) (field : String × Node) : Except Fault BuildRules :=
  match field with
  | ("retry", v) => (count v).map fun n => { d with retry := n }
  | ("skip", v) => (boolean v).map fun b => { d with skip := b }
  | ("clean_output", v) => (path v).map fun p => { d with cleanOutput := some p }
  | ("resource_hooks", v) => (texts v).map fun ss => { d with resourceHooks := ss }
  | _ => .ok d

def read (v : Node) : Except Fault BuildRules := do (← fields "BuildSection" names v).foldlM set {}

end BuildRules

namespace Draft

def set (d : Draft) (field : String × Node) : Except Fault Draft :=
  match field with
  | ("engine", v) => (EngineDraft.read v).map fun e => { d with engine := e }
  | ("watchdog", v) => (WatchDraft.read v).map fun w => { d with watchdog := w }
  | ("build", v) => (BuildRules.read v).map fun b => { d with build := b }
  | _ => .ok d

def read (text : String) : Except Fault Draft := do (sortByName (← Toml.read text)).foldlM set {}

end Draft
end Foreman.Config
