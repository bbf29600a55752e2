import ODataClient.Proofs.Text.Letters
import ODataClient.TypeScript.Expression
import ODataClient.TypeScript.SourceFile

/-!
# Names in types

Declarations hold types as text. The names in such a text are its longest runs of characters that
may stand in names, and a text that is put together at punctuation has the names of its parts.
-/

namespace ODataClient.TypeScript

open Unicode

/-- The name that a run of characters is, given what follows on it. The type of arrays is built
in. -/
def nameBefore (next : Option Char) (run : List Char) : List String :=
  if run = [] ∨ run = "Array".toList ∧ next = some '<' then [] else [String.ofList run]

/-- The names in a text behind a run of characters that the first of them may begin with. -/
def namesFrom (run : List Char) : List Char → List String
  | [] => nameBefore none run
  | c :: text =>
    if isNameChar c then namesFrom (run ++ [c]) text
    else nameBefore (some c) run ++ namesFrom [] text

/-- The names in a type. -/
def namesIn (type : String) : List String := namesFrom [] type.toList

section Texts

variable {run text word rest : List Char} {c : Char} {name : String}

theorem namesFrom_append (isName : IsNameText word) :
    namesFrom run (word ++ rest) = namesFrom (run ++ word) rest := by
  induction word generalizing run with
  | nil => rw [List.nil_append, List.append_nil]
  | cons c word ih =>
      have isNameChar := isName c List.mem_cons_self
      rw [List.cons_append, namesFrom, if_pos isNameChar,
        ih fun other member => isName other (List.mem_cons_of_mem _ member), List.append_assoc]
      rfl

theorem namesFrom_append_cons (apart : isNameChar c = false) :
    namesFrom run (text ++ c :: rest) = namesFrom run (text ++ [c]) ++ namesFrom [] rest := by
  induction text generalizing run with
  | nil => simp [namesFrom, nameBefore, apart]
  | cons first text ih =>
      simp only [List.cons_append, namesFrom]
      split
      · exact ih
      · rw [ih, List.append_assoc]

/-- What follows on a text may only take the name of arrays from it. -/
theorem namesFrom_concat_subset (apart : isNameChar c = false) :
    namesFrom run (text ++ [c]) ⊆ namesFrom run text := by
  induction text generalizing run with
  | nil =>
      have noName : nameBefore none [] = [] := rfl
      simp only [List.nil_append, namesFrom, apart, Bool.false_eq_true, if_false, noName,
        List.append_nil]
      unfold nameBefore
      split_ifs <;> simp_all
  | cons first text ih =>
      simp only [List.cons_append, namesFrom]
      split
      · exact ih
      · exact List.append_subset.2 ⟨List.subset_append_left _ _,
          List.subset_append_of_subset_right _ ih⟩

end Texts

variable {first second name : String}

/-- A name on its own has no other names in it. -/
theorem namesIn_eq_singleton (isName : IsNameText name.toList) (present : name ≠ "") :
    namesIn name = [name] := by
  have nonempty : name.toList ≠ [] := by simpa using present
  have read : namesFrom [] (name.toList ++ []) = namesFrom ([] ++ name.toList) [] :=
    namesFrom_append isName
  rw [List.append_nil, List.nil_append] at read
  rw [namesIn, read, namesFrom, nameBefore, if_neg (by simp [nonempty]), String.ofList_toList]

/-- Whether a text ends with a character that no name holds. -/
def EndsApart (text : String) : Prop := text.toList.getLast?.any (!isNameChar ·) = true

/-- Whether a text begins with a character that no name holds. -/
def BeginsApart (text : String) : Prop := text.toList.head?.any (!isNameChar ·) = true

instance {text : String} : Decidable (EndsApart text) := inferInstanceAs (Decidable (_ = _))

instance {text : String} : Decidable (BeginsApart text) := inferInstanceAs (Decidable (_ = _))

theorem EndsApart.append (apart : EndsApart second) : EndsApart (first ++ second) := by
  obtain ⟨c, isLast, isApart⟩ := (Option.any_eq_true _ _).1 apart
  rw [EndsApart, String.toList_append, List.getLast?_append, isLast]
  exact isApart

/-- Where texts are put together at a character that no name holds, no name arises. -/
theorem namesIn_append_subset (apart : EndsApart first ∨ BeginsApart second) :
    namesIn (first ++ second) ⊆ namesIn first ++ namesIn second := by
  unfold namesIn
  rw [String.toList_append]
  rcases apart with ends | begins
  · obtain ⟨c, isLast, isApart⟩ := (Option.any_eq_true _ _).1 ends
    obtain ⟨before, split⟩ := List.getLast?_eq_some_iff.1 isLast
    rw [split, List.append_assoc, List.singleton_append,
      namesFrom_append_cons (by simpa using isApart)]
    exact List.Subset.refl _
  · obtain ⟨c, isFirst, isApart⟩ := (Option.any_eq_true _ _).1 begins
    have apart : isNameChar c = false := by simpa using isApart
    obtain ⟨behind, split⟩ := List.head?_eq_some_iff.1 isFirst
    have leftOut : namesFrom [] (c :: behind) = namesFrom [] behind := by
      simp [namesFrom, nameBefore, apart]
    rw [split, namesFrom_append_cons apart, leftOut]
    exact List.append_subset.2 ⟨List.subset_append_of_subset_left _
      (namesFrom_concat_subset apart), List.subset_append_right _ _⟩

example : namesIn "Array<Link<Orders, Lines>>" = ["Link", "Orders", "Lines"] := by decide

/-- Whether all names in a type are known. -/
def Covers (known : String → Prop) (type : String) : Prop := ∀ name ∈ namesIn type, known name

section Covers

variable {known : String → Prop} {type opening : String} {names types : List String}

theorem covers_name (isName : IsNameText name.toList) (isKnown : known name) :
    Covers known name := by
  by_cases present : name = ""
  · subst present
    exact fun _ member => (List.not_mem_nil member).elim
  · intro other member
    rw [namesIn_eq_singleton isName present, List.mem_singleton] at member
    exact member ▸ isKnown

theorem covers_of_namesIn (read : namesIn type = names) (areKnown : ∀ name ∈ names, known name) :
    Covers known type :=
  fun name member => areKnown name (read ▸ member)

theorem covers_punctuation (read : namesIn type = []) : Covers known type :=
  covers_of_namesIn read (by simp)

theorem Covers.append (isFirst : Covers known first) (isSecond : Covers known second)
    (apart : EndsApart first ∨ BeginsApart second) : Covers known (first ++ second) := by
  intro name member
  rcases List.mem_append.1 (namesIn_append_subset apart member) with inFirst | inSecond
  · exact isFirst name inFirst
  · exact isSecond name inSecond

/-- A type with an argument. -/
theorem Covers.enclosed (opens : Covers known opening) (ends : EndsApart opening)
    (inside : Covers known type) : Covers known (opening ++ type ++ ">") :=
  (opens.append inside (.inl ends)).append (covers_punctuation (by decide)) (.inr (by decide))

/-- A type with two arguments. -/
theorem Covers.enclosedPair (opens : Covers known opening) (ends : EndsApart opening)
    (isFirst : Covers known first) (isSecond : Covers known second) :
    Covers known (opening ++ first ++ ", " ++ second ++ ">") := by
  have separates : Covers known ", " := covers_punctuation (by decide)
  have inFront := (opens.append isFirst (.inl ends)).append separates (.inr (by decide))
  exact inFront.enclosed (EndsApart.append (by decide)) isSecond

theorem covers_intercalate {separator : String} (ends : EndsApart separator)
    (begins : BeginsApart separator) (separates : Covers known separator)
    (each : ∀ type ∈ types, Covers known type) : Covers known (separator.intercalate types) := by
  induction types with
  | nil => exact fun _ member => (List.not_mem_nil member).elim
  | cons type types ih =>
      have isFirst := each type List.mem_cons_self
      have others := ih fun other member => each other (List.mem_cons_of_mem _ member)
      cases types with
      | nil => rwa [String.intercalate_singleton]
      | cons next types =>
          rw [String.intercalate_cons_cons]
          exact (isFirst.append separates (.inr begins)).append others (.inl ends.append)

/-- The types in a union are those that it is made of. -/
theorem covers_unionType (each : ∀ type ∈ types, Covers known type) :
    Covers known (unionType types) := by
  -- The fold drops types that it has seen, so the induction is over any types seen before.
  have kept : ∀ seen : List String, (∀ type ∈ seen, Covers known type) →
      ∀ type ∈ types.foldl (fun seen type => if seen.contains type then seen
        else seen ++ [type]) seen, Covers known type := by
    induction types with
    | nil => exact fun _ covered => covered
    | cons type types ih =>
        intro seen covered
        rw [List.foldl_cons]
        refine ih (fun other member => each other (List.mem_cons_of_mem _ member)) _ ?_
        split_ifs
        · exact covered
        · intro other member
          rcases List.mem_append.1 member with isSeen | isNew
          · exact covered other isSeen
          · exact List.mem_singleton.1 isNew ▸ each type List.mem_cons_self
  have separates : Covers known " | " := covers_punctuation (by decide)
  exact covers_intercalate (by decide) (by decide) separates (kept [] (by simp))

end Covers

/-- The types that the signature of a function or method is made of. -/
def signatureTypes (parameters : List Parameter) (result : Option String) : List String :=
  parameters.map (·.type) ++ result.toList

/-- The types that a member is declared with. -/
def Member.types : Member → List String
  | field declaration => declaration.type.toList
  | method declaration => signatureTypes declaration.parameters declaration.result

/-- The types that a class is declared with. -/
def Class.types (declaration : Class) : List String :=
  declaration.typeParameters.toList ++ declaration.base.toList ++ declaration.interfaces ++
    declaration.members.flatMap Member.types

/-- The type parameter of a class, which is the first name where type parameters are declared. -/
def Class.typeParameter? (declaration : Class) : Option String :=
  declaration.typeParameters.bind fun parameters => (namesIn parameters).head?

mutual

/-- The names in the types that a statement is declared with, but for the type parameter of a
class. -/
def Statement.typeNames : Statement → List String
  | classDeclaration declaration =>
    (declaration.types.flatMap namesIn).filter (· ∉ declaration.typeParameter?)
  | interfaceDeclaration declaration => declaration.fields.flatMap fun field => namesIn field.type
  | constantDeclaration declaration => declaration.type.toList.flatMap namesIn
  | functionDeclaration declaration =>
    (signatureTypes declaration.parameters declaration.result).flatMap namesIn
  | namespaceDeclaration _ _ body => Statement.allTypeNames body
  | importStatement _ | exportStatement _ | code _ => []

/-- The names in the types that statements in a row are declared with. -/
def Statement.allTypeNames : List Statement → List String
  | [] => []
  | statement :: statements => statement.typeNames ++ Statement.allTypeNames statements

end

/-- The names in the types that a file declares things with. -/
def SourceFile.typeNames (file : SourceFile) : List String := Statement.allTypeNames file.body

section Statements

variable {known : String → Prop} {statements : List Statement} {name : String}

theorem mem_allTypeNames : name ∈ Statement.allTypeNames statements ↔
    ∃ statement ∈ statements, name ∈ statement.typeNames := by
  induction statements with
  | nil => simp [Statement.allTypeNames]
  | cons statement statements ih => simp [Statement.allTypeNames, ih]

/-- Whether all names in the types that a statement is declared with are known. -/
def Statement.Covered (known : String → Prop) (statement : Statement) : Prop :=
  ∀ name ∈ statement.typeNames, known name

theorem covered_class {declaration : Class}
    (types : ∀ type ∈ declaration.types,
      Covers (fun name => known name ∨ name ∈ declaration.typeParameter?) type) :
    (Statement.classDeclaration declaration).Covered known := by
  intro name member
  obtain ⟨inTypes, isOther⟩ := List.mem_filter.1 member
  obtain ⟨type, isType, inType⟩ := List.mem_flatMap.1 inTypes
  exact (types type isType name inType).resolve_right (by simpa using isOther)

theorem covered_plainClass {declaration : Class} (plain : declaration.typeParameters = none)
    (base : ∀ type ∈ declaration.base, Covers known type)
    (interfaces : ∀ type ∈ declaration.interfaces, Covers known type)
    (members : ∀ member ∈ declaration.members, ∀ type ∈ member.types, Covers known type) :
    (Statement.classDeclaration declaration).Covered known := by
  refine covered_class fun type member name inType => .inl ?_
  simp only [Class.types, plain, Option.toList_none, List.nil_append, List.mem_append,
    List.mem_flatMap, Option.mem_toList] at member
  rcases member with (isBase | isInterface) | ⟨member, isMember, inMember⟩
  · exact base type isBase name inType
  · exact interfaces type isInterface name inType
  · exact members member isMember type inMember name inType

theorem covered_interface {declaration : Interface}
    (fields : ∀ field ∈ declaration.fields, Covers known field.type) :
    (Statement.interfaceDeclaration declaration).Covered known := by
  intro name member
  obtain ⟨field, isField, inType⟩ := List.mem_flatMap.1 member
  exact fields field isField name inType

theorem covered_constant {declaration : Constant}
    (types : ∀ type ∈ declaration.type, Covers known type) :
    (Statement.constantDeclaration declaration).Covered known := by
  intro name member
  obtain ⟨type, isType, inType⟩ := List.mem_flatMap.1 member
  exact types type (Option.mem_toList.1 isType) name inType

theorem covered_function {declaration : Function}
    (types : ∀ type ∈ signatureTypes declaration.parameters declaration.result,
      Covers known type) : (Statement.functionDeclaration declaration).Covered known := by
  intro name member
  obtain ⟨type, isType, inType⟩ := List.mem_flatMap.1 member
  exact types type isType name inType

theorem covered_namespace {doc : Option String} {body : List Statement}
    (each : ∀ statement ∈ body, statement.Covered known) :
    (Statement.namespaceDeclaration name doc body).Covered known := by
  intro other member
  obtain ⟨statement, isStatement, inStatement⟩ := mem_allTypeNames.1 member
  exact each statement isStatement other inStatement

end Statements

end ODataClient.TypeScript
