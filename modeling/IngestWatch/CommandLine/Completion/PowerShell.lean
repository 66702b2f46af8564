import IngestWatch.CommandLine.Completion

/-!
The script that completes command lines in PowerShell: a case for the names that lead to
each command.
-/

namespace IngestWatch.CommandLine.PowerShell

/-- A text between single quotes. -/
def quoted (s : String) : String :=
  "'" ++ s.replace "'" "''" ++ "'"

def result (name shown kind help : String) : String :=
  s!"            [CompletionResult]::new('{name}', '{shown}', [CompletionResultType]::{kind}, "
    ++ quoted help ++ ")"

/-- Names are told apart without their case, so a capital letter is shown with a blank. -/
def letterShown (c : Char) : String :=
  if c.isUpper then s!"-{c} " else s!"-{c}"

def optLines (o : Opt) : List String :=
  (o.letter.map fun c => result s!"-{c}" (letterShown c) "ParameterName" o.help).toList
    ++ [result o.long o.long "ParameterName" o.help]

def stopLines (s : Stop) : List String :=
  [s!"        '{s.joined separator}' \x7b"]
    ++ s.entry.arranged.flatMap optLines
    ++ s.entry.commands.map (fun e => result e.name e.name "ParameterValue" e.about)
    ++ ["            break", "        \x7d"]
where
  separator : String := ";"

def script (program : Command) : String :=
  let name := program.name
  textOfLines <|
    ["",
      "using namespace System.Management.Automation",
      "using namespace System.Management.Automation.Language",
      "",
      s!"Register-ArgumentCompleter -Native -CommandName '{name}' -ScriptBlock \x7b",
      "    param($wordToComplete, $commandAst, $cursorPosition)",
      "",
      "    $commandElements = $commandAst.CommandElements",
      "    $command = @(",
      s!"        '{name}'",
      "        for ($i = 1; $i -lt $commandElements.Count; $i++) \x7b",
      "            $element = $commandElements[$i]",
      "            if ($element -isnot [StringConstantExpressionAst] -or",
      "                $element.StringConstantType -ne [StringConstantType]::BareWord -or",
      "                $element.Value.StartsWith('-') -or",
      "                $element.Value -eq $wordToComplete) \x7b",
      "                break",
      "        \x7d",
      "        $element.Value",
      "    \x7d) -join ';'",
      "",
      "    $completions = @(switch ($command) \x7b"]
    ++ (program.entry.stops []).flatMap stopLines
    ++ ["    \x7d)",
      "",
      "    $completions.Where\x7b $_.CompletionText -like \"$wordToComplete*\" \x7d |",
      "        Sort-Object -Property ListItemText",
      "\x7d"]

end IngestWatch.CommandLine.PowerShell
