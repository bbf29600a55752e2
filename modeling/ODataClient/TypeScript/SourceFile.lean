import ODataClient.TypeScript.Syntax

/-!
# TypeScript source files

A source file has imports, statements and exports, with blank lines between these parts and between
any two statements.
-/

namespace ODataClient.TypeScript

open Code (Fragment Imports Indentation)

structure SourceFile where
  imports : Imports := {}
  body : List Statement := []
  exports : List Export := []
deriving Repr

namespace SourceFile

/-- The comment that opens every generated file. -/
def header : String := "/*!\n * This is a generated file powered by vdmgen.\n */\n"

variable (file : SourceFile)

def isEmpty : Bool :=
  file.imports.groups.isEmpty && file.body.isEmpty && file.exports.isEmpty

def count (kind : StatementKind) : Nat :=
  file.body.countP (·.kind = kind)

/-- The code of the statements, with blank lines between them. -/
def bodyFragments : List Statement → List Fragment
  | [] => []
  | [statement] => statement.fragments
  | statement :: statements => statement.fragments ++ .blank :: bodyFragments statements

def fragments : List Fragment :=
  let imports := file.imports.groups.map fun group => Fragment.line (importText group)
  let exports := file.exports.map fun names => Fragment.line names.text
  let behindImports : List Fragment :=
    if imports.isEmpty || (file.body.isEmpty && file.exports.isEmpty) then [] else [.blank]
  let behindBody : List Fragment :=
    if file.body.isEmpty || file.exports.isEmpty then [] else [.blank]
  imports ++ behindImports ++ bodyFragments file.body ++ behindBody ++ exports

/-- The text of the file without the opening comment. -/
def render (indentation : Indentation) : String :=
  Fragment.render file.fragments indentation

/-- The text of the file as it is written to disk. -/
def text : String :=
  header ++ "\n" ++ file.render .standard

end SourceFile

end ODataClient.TypeScript
