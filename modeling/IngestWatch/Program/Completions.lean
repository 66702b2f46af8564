import IngestWatch.CommandLine.Completion.Bash
import IngestWatch.CommandLine.Completion.Elvish
import IngestWatch.CommandLine.Completion.Fish
import IngestWatch.CommandLine.Completion.PowerShell
import IngestWatch.CommandLine.Completion.Zsh
import IngestWatch.Invocation.Commands

/-!
The scripts that complete the command lines of the program.
-/

namespace IngestWatch.Shell

open CommandLine

/-- The script for a shell. -/
def script (shell : Shell) : String :=
  match shell with
  | .bash => Bash.script Invocation.program
  | .elvish => Elvish.script Invocation.program
  | .fish => Fish.script Invocation.program
  | .powershell => PowerShell.script Invocation.program
  | .zsh => Zsh.script Invocation.program

end IngestWatch.Shell
