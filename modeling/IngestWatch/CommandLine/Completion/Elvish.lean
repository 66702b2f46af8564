import IngestWatch.CommandLine.Completion

/-!
The script that completes command lines in elvish: a table from the names that lead to a
command to what can follow it.
-/

namespace IngestWatch.CommandLine.Elvish

/-- A text between single quotes. -/
def quoted (s : String) : String :=
  "'" ++ s.replace "'" "''" ++ "'"

def candidate (name help : String) : String :=
  s!"            cand {name} {quoted help}"

def optLines (o : Opt) : List String :=
  (o.letter.map fun c => candidate s!"-{c}" o.help).toList ++ [candidate o.long o.help]

def stopLines (s : Stop) : List String :=
  [s!"        &'{s.joined separator}'= \x7b"]
    ++ s.entry.arranged.flatMap optLines
    ++ s.entry.commands.map (fun e => candidate e.name e.about)
    ++ ["        \x7d"]
where
  separator : String := ";"

def script (program : Command) : String :=
  let name := program.name
  textOfLines <|
    ["",
      "use builtin;",
      "use str;",
      "",
      s!"set edit:completion:arg-completer[{name}] = \x7b|@words|",
      "    fn spaces \x7b|n|",
      "        builtin:repeat $n ' ' | str:join ''",
      "    \x7d",
      "    fn cand \x7b|text desc|",
      "        edit:complex-candidate $text &display=$text' '(spaces (- 14 (wcswidth $text)))$desc",
      "    \x7d",
      s!"    var command = '{name}'",
      "    for word $words[1..-1] \x7b",
      "        if (str:has-prefix $word '-') \x7b",
      "            break",
      "        \x7d",
      "        set command = $command';'$word",
      "    \x7d",
      "    var completions = ["]
    ++ (program.entry.stops []).flatMap stopLines
    ++ ["    ]",
      "    $completions[$command]",
      "\x7d"]

end IngestWatch.CommandLine.Elvish
