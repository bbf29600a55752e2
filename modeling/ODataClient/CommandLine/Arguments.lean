import ODataClient.CommandLine.Form

/-!
# Arguments

The arguments of a command are read from left to right. An option is given by its name behind two
hyphens or by its letter behind one, with its value behind it, behind an equals sign, or as the
next argument. A request for help or for the version ends the reading.
-/

namespace ODataClient.CommandLine

/-- Why arguments are refused. -/
inductive UsageError where
  | unexpected (argument : String)
  | unneededValue (option : String)
  | missingValue (option : String)
  | emptyValue (option : String)
  | repeated (option : String)
  | conflict (first second : String)
  | missingOption (option : String)
  | missingOperand (operand : String)
  | badOperand (operand value : String)
  | missingCommand
  | unknownCommand (name : String)
deriving DecidableEq, Repr

def UsageError.message : UsageError → String
  | unexpected argument => s!"unexpected argument '{argument}' found"
  | unneededValue option => s!"unexpected value for '--{option}' found; no more were expected"
  | missingValue option => s!"a value is required for '--{option}' but none was supplied"
  | emptyValue option => s!"a value is required for '--{option}' but none was supplied"
  | repeated option => s!"the argument '--{option}' cannot be used multiple times"
  | conflict first second => s!"the argument '--{first}' cannot be used with '--{second}'"
  | missingOption option => s!"the following required argument was not provided: --{option}"
  | missingOperand operand => s!"the following required argument was not provided: <{operand}>"
  | badOperand operand value => s!"invalid value '{value}' for '<{operand}>'"
  | missingCommand => "a subcommand is required but none was provided"
  | unknownCommand name => s!"unrecognized subcommand '{name}'"

/-- Why no command is run. -/
inductive Stop where
  /-- Help about a command is asked for. -/
  | help (form : CommandForm)
  | version
  | refused (error : UsageError)
deriving DecidableEq, Repr

/-- What a single argument looks like. -/
inductive Word where
  /-- What follows are no options. -/
  | terminator
  | long (name : String) (value : Option String)
  | short (letters : List Char)
  | plain (text : String)
deriving DecidableEq, Repr

/-- What an argument looks like. A single hyphen is no option. -/
def Word.ofText (text : String) : Word :=
  match text.toList with
  | ['-', '-'] => terminator
  | '-' :: '-' :: rest =>
    let name := rest.takeWhile (· ≠ '=')
    let value := (rest.drop name.length).tail?
    long (String.ofList name) (value.map String.ofList)
  | '-' :: c :: rest => short (c :: rest)
  | _ => plain text

/-- The arguments of a command, as far as they have been read. -/
structure Arguments where
  /-- The options with their values. Those that take none have an empty one. -/
  options : List (String × String) := []
  operand : Option String := none
deriving DecidableEq, Repr

namespace Arguments

variable (arguments : Arguments)

def has (name : String) : Bool := (arguments.options.lookup name).isSome

def value? (name : String) : Option String := arguments.options.lookup name

def addOption (option : OptionForm) (value : String) : Except Stop Arguments :=
  if option.value = some .path && value = "" then .error (.refused (.emptyValue option.name))
  else if arguments.has option.name then .error (.refused (.repeated option.name))
  else .ok { arguments with options := (option.name, value) :: arguments.options }

/-- Adds an option that takes no value. -/
def addFlag (form : CommandForm) (option : OptionForm) : Except Stop Arguments :=
  if option = helpOption then .error (.help form)
  else if option = versionOption then .error .version
  else arguments.addOption option ""

def addOperand (form : CommandForm) (text : String) : Except Stop Arguments :=
  match form.operand, arguments.operand with
  | some operand, none =>
    if operand.choices.contains text then .ok { arguments with operand := some text }
    else .error (.refused (.badOperand operand.name text))
  | _, _ => .error (.refused (.unexpected text))

/-- Adds an option given by its name. The option is returned if its value must follow. -/
def addLong (form : CommandForm) (name : String) (value : Option String) :
    Except Stop (Arguments × Option OptionForm) :=
  match form.options.find? (·.name = name), value with
  | none, _ => .error (.refused (.unexpected ("--" ++ name)))
  | some option, none =>
    if option.value.isSome then .ok (arguments, some option)
    else (arguments.addFlag form option).map (·, none)
  | some option, some value =>
    if option.value.isSome then (arguments.addOption option value).map (·, none)
    else .error (.refused (.unneededValue name))

/-- The value behind the letter of an option, where an equals sign in front does not count. -/
def attachedValue : List Char → String
  | '=' :: rest => String.ofList rest
  | rest => String.ofList rest

/-- Adds options given by their letters. An option is returned if its value must follow. -/
def addShort (form : CommandForm) : Arguments → List Char →
    Except Stop (Arguments × Option OptionForm)
  | arguments, [] => .ok (arguments, none)
  | arguments, letter :: rest =>
    match form.options.find? (·.letter = some letter) with
    | none => .error (.refused (.unexpected (String.ofList ['-', letter])))
    | some option =>
      if option.value.isNone then do addShort form (← arguments.addFlag form option) rest
      else if rest.isEmpty then .ok (arguments, some option)
      else (arguments.addOption option (attachedValue rest)).map (·, none)

/-- Reads the arguments of a command, of which an option may still be without its value. -/
def readAfter (form : CommandForm) : Arguments → Option OptionForm → List String →
    Except Stop Arguments
  | arguments, none, [] => .ok arguments
  | _, some option, [] => .error (.refused (.missingValue option.name))
  | arguments, pending, text :: rest =>
    match Word.ofText text, pending with
    | .plain text, none => do readAfter form (← arguments.addOperand form text) none rest
    | .plain text, some option => do readAfter form (← arguments.addOption option text) none rest
    | _, some option => .error (.refused (.missingValue option.name))
    | .terminator, none => rest.foldlM (·.addOperand form) arguments
    | .long name value, none => do
      let (arguments, pending) ← arguments.addLong form name value
      readAfter form arguments pending rest
    | .short letters, none => do
      let (arguments, pending) ← addShort form arguments letters
      readAfter form arguments pending rest

/-- What is wrong with the arguments of a command as a whole. -/
def fault? (form : CommandForm) : Option UsageError :=
  if arguments.has "verbose" && arguments.has "quiet" then some (.conflict "verbose" "quiet")
  else
    match form.required.find? (!arguments.has ·) with
    | some option => some (.missingOption option)
    | none =>
      match form.dependent.find? fun (option, other) =>
          arguments.has option && !arguments.has other with
      | some (_, other) => some (.missingOption other)
      | none =>
        match form.operand, arguments.operand with
        | some operand, none => some (.missingOperand operand.name)
        | _, _ => none

/-- The arguments, unless something is wrong with them as a whole. -/
def checked (form : CommandForm) : Except Stop Arguments :=
  match arguments.fault? form with
  | some error => .error (.refused error)
  | none => .ok arguments

def read (form : CommandForm) (texts : List String) : Except Stop Arguments := do
  (← readAfter form {} none texts).checked form

end Arguments

/-- The command that help is asked about. -/
def helpTopic : List String → Except Stop CommandForm
  | [] => .ok programForm
  | [name] =>
    match commandForm? name with
    | some form => .ok form
    | none => .error (.refused (.unknownCommand name))
  | _ :: name :: _ => .error (.refused (.unknownCommand name))

/-- Reads a command with its arguments, behind some arguments of the program itself. -/
def readCommand (arguments : Arguments) (name : String) (texts : List String) :
    Except Stop (CommandForm × Arguments) :=
  match commandForm? name with
  | none => .error (.refused (.unknownCommand name))
  | some form =>
    if form = helpForm then (helpTopic texts).bind fun form => .error (.help form)
    else do
      let own ← Arguments.read form texts
      let _ ← arguments.checked programForm
      return (form, own)

/-- Reads all arguments of the program, of which some have been read. -/
def readProgramAfter : Arguments → List String → Except Stop (CommandForm × Arguments)
  | _, [] => .error (.refused .missingCommand)
  | arguments, text :: rest =>
    match Word.ofText text with
    | .plain name => readCommand arguments name rest
    | .terminator => do
      let _ ← rest.foldlM (·.addOperand programForm) arguments
      .error (.refused .missingCommand)
    | .long name value => do
      let (arguments, _) ← arguments.addLong programForm name value
      readProgramAfter arguments rest
    | .short letters => do
      let (arguments, _) ← Arguments.addShort programForm arguments letters
      readProgramAfter arguments rest

/-- Reads all arguments of the program: a command, and its own arguments. -/
def read (texts : List String) : Except Stop (CommandForm × Arguments) :=
  readProgramAfter {} texts

end ODataClient.CommandLine
