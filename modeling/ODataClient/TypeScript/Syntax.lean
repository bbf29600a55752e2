import ODataClient.Code.Imports
import ODataClient.Code.Writer

/-!
# TypeScript syntax

The declarations that generated TypeScript is made of, and the code that they are written as.
-/

namespace ODataClient.TypeScript

open Code (Fragment)

structure Parameter where
  name : String
  type : String
  isOptional : Bool := false
deriving DecidableEq, Repr

structure Field where
  name : String
  type : Option String := none
  /-- The expression that the field starts with. -/
  value : Option String := none
  doc : Option String := none
  isStatic : Bool := false
  /-- Whether the field may be left out, if that is marked behind its name. -/
  isNullable : Option Bool := none
deriving DecidableEq, Repr

structure Method where
  name : String
  doc : Option String := none
  isStatic : Bool := false
  parameters : List Parameter := []
  result : Option String := none
  body : List String := []
deriving DecidableEq, Repr

inductive Member where
  | field (declaration : Field)
  | method (declaration : Method)
deriving DecidableEq, Repr

/-- A class, which is always exported. -/
structure Class where
  name : String
  doc : Option String := none
  /-- The type parameters, without the brackets around them. -/
  typeParameters : Option String := none
  base : Option String := none
  interfaces : List String := []
  members : List Member := []
deriving DecidableEq, Repr

structure InterfaceField where
  name : String
  type : String
  doc : Option String := none
  isOptional : Bool := false
deriving DecidableEq, Repr

structure Interface where
  name : String
  doc : Option String := none
  fields : List InterfaceField := []
  isExported : Bool := true
deriving DecidableEq, Repr

structure Constant where
  name : String
  value : String
  type : Option String := none
  doc : Option String := none
  isExported : Bool := true
deriving DecidableEq, Repr

structure Function where
  name : String
  doc : Option String := none
  isExported : Bool := true
  parameters : List Parameter := []
  result : Option String := none
  body : List String := []
deriving DecidableEq, Repr

/-- The names exported again from another module, or all if none are listed. -/
structure Export where
  module : String
  names : List String := []
deriving DecidableEq, Repr

/-- A statement of a file or namespace. -/
inductive Statement where
  | classDeclaration (declaration : Class)
  | interfaceDeclaration (declaration : Interface)
  | constantDeclaration (declaration : Constant)
  | functionDeclaration (declaration : Function)
  /-- A namespace, which is always exported. -/
  | namespaceDeclaration (name : String) (doc : Option String) (body : List Statement)
  | importStatement (names : Code.ImportGroup)
  | exportStatement (names : Export)
  /-- Code that is taken over line by line. -/
  | code (text : String)
deriving Inhabited, Repr

/-- The kinds of statements by what they declare. -/
inductive StatementKind where
  | classes
  | interfaces
  | namespaces
  | functions
  | constants
  /-- Anything else. -/
  | others
deriving DecidableEq, Repr

def Statement.kind : Statement → StatementKind
  | classDeclaration _ => .classes
  | interfaceDeclaration _ => .interfaces
  | constantDeclaration _ => .constants
  | functionDeclaration _ => .functions
  | namespaceDeclaration .. => .namespaces
  | importStatement _ | exportStatement _ | code _ => .others

/-- The word in front of what is exported. -/
def exportWord (isExported : Bool) : String :=
  if isExported then "export " else ""

/-- A type behind the colon that it is annotated with. -/
def annotation (type : Option String) : String :=
  match type with
  | some type => ": " ++ type
  | none => ""

/-- The comment of a declaration, unless its text is blank. -/
def docFragments (doc : Option String) : List Fragment :=
  match doc with
  | some text => if Text.isBlank text then [] else [.docText text]
  | none => []

/-- A parameter as it is declared. -/
def Parameter.text (parameter : Parameter) : String :=
  parameter.name ++ (if parameter.isOptional then "?" else "") ++ ": " ++ parameter.type

/-- A list of parameters in their brackets, with the type of the result. -/
def signature (parameters : List Parameter) (result : Option String) : String :=
  "(" ++ ", ".intercalate (parameters.map Parameter.text) ++ ")" ++ annotation result ++ " \x7b"

def Field.text (field : Field) : String :=
  let marker := match field.isNullable with
    | some true => "?"
    | some false => "!"
    | none => ""
  let value := match field.value with
    | some value => " = " ++ value
    | none => ""
  (if field.isStatic then "static " else "") ++ field.name ++ marker ++ annotation field.type ++
    value ++ ";"

def Member.fragments : Member → List Fragment
  | field declaration => docFragments declaration.doc ++ [.line declaration.text]
  | method declaration =>
    let header := (if declaration.isStatic then "static " else "") ++ declaration.name ++
      signature declaration.parameters declaration.result
    docFragments declaration.doc ++ [.closed header (declaration.body.map .line) "\x7d"]

/-- The code of a member that stands behind others. A method is set off by a blank line. -/
def Member.followingFragments (member : Member) : List Fragment :=
  match member with
  | field _ => member.fragments
  | method _ => .blank :: member.fragments

/-- The first line of a class. -/
def Class.header (declaration : Class) : String :=
  let typeParameters := match declaration.typeParameters with
    | some parameters => "<" ++ parameters ++ ">"
    | none => ""
  let base := match declaration.base with
    | some base => " extends " ++ base
    | none => ""
  let interfaces :=
    if declaration.interfaces.isEmpty then ""
    else " implements " ++ ", ".intercalate declaration.interfaces
  "export class " ++ declaration.name ++ typeParameters ++ base ++ interfaces ++ " \x7b"

def Class.fragments (declaration : Class) : List Fragment :=
  let body := match declaration.members with
    | [] => []
    | first :: others => first.fragments ++ others.flatMap Member.followingFragments
  docFragments declaration.doc ++ [.closed declaration.header body "\x7d"]

def InterfaceField.fragments (field : InterfaceField) : List Fragment :=
  docFragments field.doc ++
    [.line (field.name ++ (if field.isOptional then "?" else "") ++ ": " ++ field.type ++ ";")]

def Interface.fragments (declaration : Interface) : List Fragment :=
  let header := exportWord declaration.isExported ++ "interface " ++ declaration.name ++ " \x7b"
  docFragments declaration.doc ++
    if declaration.fields.isEmpty then [.line (header ++ "\x7d")]
    else [.closed header (declaration.fields.flatMap InterfaceField.fragments) "\x7d"]

/-- The lines of an expression with a semicolon behind the last. -/
def terminated : List String → List String
  | [] => [";"]
  | [line] => [line ++ ";"]
  | line :: lines => line :: terminated lines

/-- The code of a constant. The lines of its value are not indented any further. -/
def Constant.fragments (declaration : Constant) : List Fragment :=
  let start := exportWord declaration.isExported ++ "const " ++ declaration.name ++
    annotation declaration.type ++ " = "
  let lines := match Text.lines declaration.value with
    | [] => [start]
    | first :: others => (start ++ first) :: others
  docFragments declaration.doc ++ (terminated lines).map .line

/-- The code of a function. Empty lines of its body stay empty. -/
def Function.fragments (declaration : Function) : List Fragment :=
  let header := exportWord declaration.isExported ++ "function " ++ declaration.name ++
    signature declaration.parameters declaration.result
  let body := declaration.body.map fun line => if line = "" then Fragment.blank else .line line
  docFragments declaration.doc ++ [.closed header body "\x7d"]

/-- An import declaration. One without names imports the module alone. -/
def importText (group : Code.ImportGroup) : String :=
  if group.names.isEmpty then "import '" ++ group.source.module ++ "';"
  else
    "import " ++ (if group.source.typeOnly then "type " else "") ++ "\x7b " ++
      ", ".intercalate group.names ++ " \x7d from '" ++ group.source.module ++ "';"

def Export.text (names : Export) : String :=
  if names.names.isEmpty then "export * from '" ++ names.module ++ "';"
  else "export \x7b " ++ ", ".intercalate names.names ++ " \x7d from '" ++ names.module ++ "';"

mutual

def Statement.fragments : Statement → List Fragment
  | classDeclaration declaration => declaration.fragments
  | interfaceDeclaration declaration => declaration.fragments
  | constantDeclaration declaration => declaration.fragments
  | functionDeclaration declaration => declaration.fragments
  | namespaceDeclaration name doc body =>
    docFragments doc ++
      [.closed ("export namespace " ++ name ++ " \x7b") (Statement.allFragments body) "\x7d"]
  | importStatement names => [.line (importText names)]
  | exportStatement names => [.line names.text]
  | code text => (Text.lines text).map .line

/-- The code of statements in a row. -/
def Statement.allFragments : List Statement → List Fragment
  | [] => []
  | statement :: statements => statement.fragments ++ Statement.allFragments statements

end

/-- The text of a statement that stands alone. -/
def Statement.render (statement : Statement) : String :=
  Fragment.render statement.fragments .standard

end ODataClient.TypeScript
