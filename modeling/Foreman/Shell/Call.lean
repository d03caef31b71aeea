import Foreman.Shell.Builtin
import Foreman.Shell.Program

/-! How a shell is called, and the state in which it starts. -/

namespace Foreman.Shell

structure Call where
  options : Options := {}
  isText : Bool := false
  readsInput : Bool := false
  words : List Octets := []

def Call.read : Nat → List Octets → Call → Call
  | 0, _, c => c
  | _, [], c => c
  | n + 1, a :: args, c =>
    if a = ['-'] || a = "--".toList then { c with words := args }
    else match a with
      | '-' :: '-' :: _ => read n args c
      | sign :: letters =>
        if (sign = '-' || sign = '+') && !letters.isEmpty then
          let on := sign = '-'
          let c := { c with
            isText := c.isText || (on && letters.contains 'c')
            readsInput := c.readsInput || (on && letters.contains 's')
            options := letters.foldl (fun o l => Builtin.letterOption o on l) c.options }
          if letters.getLast? = some 'o' then
            read n (args.drop 1)
              { c with options := Builtin.namedOption c.options on (args.head?.getD []) }
          else read n args c
        else { c with words := a :: args }
      | [] => { c with words := a :: args }

def State.start (bash : Bool) (self : Self) (parent : Pid) (name : Octets) (positional : List Octets)
    (o : Options) : State :=
  let inherited := (self.environment.filter fun x => Octets.isName x.1).map fun (n, v) =>
    (n, { value := some v, exported := true : Variable })
  let standard : List (Octets × Variable) :=
    [("PWD".toList, { value := some (Tool.locationText self.dir), exported := true }),
      ("PATH".toList, { value := some defaultPath }),
      ("OPTIND".toList, { value := some ['1'] })]
  let depth := ((inherited.lookup "SHLVL".toList).bind (·.value)).bind Octets.nat?
  let level : List (Octets × Variable) := if bash then
      [("SHLVL".toList, { value := some (Octets.ofNat (depth.getD 0 + 1)), exported := true })]
    else []
  let more := standard.filter fun x => (inherited.lookup x.1).isNone
  { bash, name, pid := self.pid, main := self.pid, parent, dir := self.dir
    vars := ("IFS".toList, { value := some [' ', '\t', '\n'] }) ::
      (inherited.filter fun x => x.1 ≠ "IFS".toList && (level.lookup x.1).isNone && x.1 ≠ ['_']) ++
        level ++ more
    positional, options := o }

end Foreman.Shell
