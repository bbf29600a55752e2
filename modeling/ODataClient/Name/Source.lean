import ODataClient.Text.Words

/-!
# Sources of names

What is dropped from or added to schema names before they are cased: the `A_` in front of
published types, the `API_` and `_SRV` around service names, and the `Collection` behind entity
sets.
-/

namespace ODataClient.Name

/-- The text after `start`, if the text begins with it. -/
def afterStart? (start text : String) : Option String :=
  if start.toList.isPrefixOf text.toList then
    some (String.ofList (text.toList.drop start.length))
  else none

/-- The text before `ending`, if the text ends with it. -/
def beforeEnd? (ending text : String) : Option String :=
  if ending.toList.isSuffixOf text.toList then
    some (String.ofList (text.toList.take (text.length - ending.length)))
  else none

/-- The name without the `A_` of a published type, unless nothing else is left. -/
def withoutTypeMark (name : String) : String :=
  match afterStart? "A_" name with
  | some rest => if rest = "" then name else rest
  | none => name

/-- The readable name of a service: `API_TEST_SRV` becomes `TEST_SERVICE`. Neither end is dropped
where nothing else would be left. -/
def readable (fileName : String) : String :=
  let name := match afterStart? "API_" fileName with
    | some rest => if rest = "" then fileName else rest
    | none => fileName
  match beforeEnd? "_SRV" name with
  | some stem => if stem = "" then name else stem ++ "_SERVICE"
  | none => name

/-- The name that the class of an entity set is made from. A trailing `Collection` is dropped
unless another of the sets already leads to the shortened name. -/
def entityClassSource (entitySet : String) (allSets : List String) : String :=
  let base := withoutTypeMark entitySet
  match beforeEnd? "Collection" base with
  | none => base
  | some stem =>
    if stem = "" then base
    else
      let clashes := allSets.any fun other =>
        other ≠ entitySet ∧ Text.pascalCase (withoutTypeMark other) = Text.pascalCase stem
      if clashes then base else stem

end ODataClient.Name
