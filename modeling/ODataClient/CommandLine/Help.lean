import ODataClient.CommandLine.Arguments

/-!
# Help

What is printed when help is asked for, and what a shell needs to complete arguments.
-/

namespace ODataClient.CommandLine

/-- The word that stands for the value of an option. -/
def OptionForm.placeholder (option : OptionForm) : String :=
  String.ofList (option.name.toList.map fun c => if c = '-' then '_' else c.toUpper)

/-- How an option is given. -/
def OptionForm.usage (option : OptionForm) : String :=
  let letter := match option.letter with
    | some letter => String.ofList ['-', letter, ',', ' ']
    | none => "    "
  let value := if option.value.isSome then s!" <{option.placeholder}>" else ""
  letter ++ "--" ++ option.name ++ value

/-- Items with what they mean, one below the other. -/
def columns (items : List (String × String)) : List String :=
  let width := items.foldl (fun width item => max width item.1.length) 0
  items.map fun (item, meaning) =>
    "  " ++ item ++ String.ofList (List.replicate (width - item.length) ' ') ++ "  " ++ meaning

/-- A heading with items below it, if there are any. -/
def titled (heading : String) (items : List (String × String)) : List String :=
  if items.isEmpty then [] else ["", heading ++ ":"] ++ columns items

namespace CommandForm

variable (form : CommandForm)

def usage : String :=
  if form = programForm then s!"{form.name} [OPTIONS] <COMMAND>"
  else
    let operand := match form.operand with
      | some operand => s!" <{operand.name}>"
      | none => ""
    s!"{programForm.name} {form.name} [OPTIONS]{operand}"

def help : String :=
  let commands := if form = programForm then commandForms else []
  "\n".intercalate (
    [form.summary, "", "Usage: " ++ form.usage] ++
    titled "Commands" (commands.map fun form => (form.name, form.summary)) ++
    titled "Arguments" (form.operand.toList.map fun operand =>
      (s!"<{operand.name}>", operand.summary)) ++
    titled "Options" (form.options.map fun option => (option.usage, option.summary)))

end CommandForm

/-- The line that tells a shell the names of the commands. -/
def completionScript (shell : String) : String :=
  let program := programForm.name
  let names := " ".intercalate (commandForms.map CommandForm.name)
  match shell with
  | "bash" => s!"complete -W \"{names}\" {program}"
  | "fish" => s!"complete -c {program} -f -a \"{names}\""
  | "zsh" => s!"#compdef {program}\n_arguments \"1: :({names})\""
  | "elvish" =>
    s!"set edit:completion:arg-completer[{program}] = \x7b|@words| put {names} \x7d"
  | _ =>
    s!"Register-ArgumentCompleter -Native -CommandName {program} -ScriptBlock " ++
      s!"\x7b -split \"{names}\" \x7d"

end ODataClient.CommandLine
