import Foreman.Disk.Change
import Foreman.Program

/-! The command line. The configuration is read from the files around us. All else happens on a disk in
memory, on which it is the only file at first, so that a build can be tried out before it is run for good. -/

namespace Foreman

def Usage.configOf (args : List String) : Path :=
  match read args with
  | .ok a => a.config
  | .error _ => usualConfig

def Usage.remark (args : List String) : String :=
  match read args with
  | .ok _ => ""
  | .error m => m.name ++ "\n"

def Disk.ofFile (p : Path) (bytes : Bytes) : Disk :=
  (({} : Disk).makeParents p).2.apply (.write p bytes)

def Program.settable : List String :=
  ["HOME", "PATH", "TMPDIR", "USER", "USERNAME", "JOB_NAME", "BUILDWARDEN_LOG", "BUILDWARDEN_SKIP_BUILD",
    "BUILDWARDEN_CLEAN_BUILD", "BUILDWARDEN_PLATFORM", "BUILDWARDEN_HANG_TIMEOUT", "BUILDWARDEN_RETRY"]

def Note.line (n : Note) : String := n.level.name ++ " " ++ n.speaker.target

end Foreman

open Foreman in
/-- Tries the program out on a disk in memory and returns its exit status. -/
def main (args : List String) : IO UInt32 := do
  let config := Usage.configOf args
  let disk ← try
      let bytes ← IO.FS.readBinFile config.text
      pure (Disk.ofFile config bytes.toList)
    catch _ => pure {}
  let ours ← Program.settable.filterMapM fun name => do
    return (← IO.getEnv name).map (name, ·)
  IO.eprint (Usage.remark args)
  let outcome := Program.main args { site := { disk }, ours }
  for note in outcome.shown do
    IO.eprintln note.line
  IO.print outcome.workshop.printed
  IO.eprint outcome.workshop.complained
  return UInt32.ofNat outcome.status
