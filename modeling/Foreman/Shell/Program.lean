import Foreman.Shell.Tool.Texts
import Foreman.Shell.Tool.Transfer
import Foreman.Shell.Tool.Values

/-! The programs that scripts can call, and how they are found. -/

namespace Foreman.Shell

def tool? (name : Octets) : Option Tool :=
  match String.ofList name with
  | "cat" => some Tool.cat
  | "head" => some Tool.head
  | "tail" => some Tool.tail
  | "wc" => some Tool.wordCount
  | "grep" => some (Tool.grep false false)
  | "egrep" => some (Tool.grep true false)
  | "fgrep" => some (Tool.grep false true)
  | "sort" => some Tool.sort
  | "uniq" => some Tool.unique
  | "cut" => some Tool.cut
  | "rev" => some Tool.reversedLines
  | "tac" => some Tool.tac
  | "tr" => some Tool.transliterate
  | "tee" => some Tool.tee
  | "touch" => some Tool.touch
  | "mkdir" => some Tool.makeDirectories
  | "rmdir" => some Tool.removeDirectory
  | "rm" => some Tool.remove
  | "mv" => some Tool.move
  | "cp" => some Tool.copy
  | "chmod" => some Tool.changeMode
  | "ls" => some Tool.list
  | "sleep" => some Tool.sleep
  | "seq" => some Tool.seq
  | "expr" => some Tool.expr
  | "basename" => some Tool.baseNameTool
  | "dirname" => some Tool.dirNameTool
  | "echo" => some Tool.echo
  | "printf" => some Tool.printf
  | "test" => some (Tool.test false)
  | "[" => some (Tool.test true)
  | "printenv" => some Tool.printEnvironment
  | "pwd" => some Tool.workingDirectory
  | "yes" => some Tool.yes
  | "date" => some Tool.date
  | "true" | "sync" => some (Tool.constant 0 "")
  | "false" => some (Tool.constant 1 "")
  | "id" => some Tool.identity
  | "whoami" => some (Tool.constant 0 "root\n")
  | "uname" => some (Tool.constant 0 "Linux\n")
  | _ => none

def runners : List String :=
  ["sh", "dash", "bash", "env", "xargs", "timeout", "nohup", "setsid", "nice", "which"]

def isProgram (name : Octets) : Bool := (tool? name).isSome || runners.contains (String.ofList name)

def systemDirectories : List String :=
  ["/usr/local/sbin", "/usr/local/bin", "/usr/sbin", "/usr/bin", "/sbin", "/bin"]

def defaultPath : Octets := Octets.join [':'] (systemDirectories.map String.toList)

inductive Found where
  | program (name : Octets)
  | script (path : Octets)
  | nothing
  | directory
  | notRunnable

def foundAt (w : World) (dir : Location) (path : Octets) : Found :=
  let d := w.diskFrom dir
  match d.find (Tool.pathOf path) with
  | .ok .directory => .directory
  | .ok (.file id) => if w.runnable.contains id then .script path else .notRunnable
  | .error _ =>
    let place := String.ofList (Tool.dirName path)
    if (place = "/bin" || place = "/usr/bin") && isProgram (Tool.baseName path) then
      .program (Tool.baseName path)
    else if systemDirectories.contains (String.ofList path) then .directory
    else .nothing

/-- Looks for a name in the directories of a search path; the first that has it counts. -/
def foundIn (w : World) (dir : Location) (name : Octets) : List Octets → Found
  | [] => .nothing
  | p :: ps => match foundAt w dir (if p.isEmpty then name else Tool.inside p name) with
    | .program n => .program n
    | .script s => .script s
    | .notRunnable => match foundIn w dir name ps with
      | .nothing => .notRunnable
      | f => f
    | _ => foundIn w dir name ps

def findProgram (w : World) (dir : Location) (path : Option Octets) (name : Octets) : Found :=
  if name.isEmpty then .nothing
  else if name.contains '/' then foundAt w dir name
  else foundIn w dir name (Tool.fieldsOf (some ':') (path.getD defaultPath))

end Foreman.Shell
