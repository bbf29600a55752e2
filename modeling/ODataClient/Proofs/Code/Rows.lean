import Mathlib.Algebra.BigOperators.Group.List.Basic
import Mathlib.Algebra.Ring.Nat
import Mathlib.Data.List.DropRight
import ODataClient.Code.Writer

/-!
# Rows of code

A fragment is written row by row, and the rows can be told from the fragment alone: they come from
its parts, in order, each indented once more for every body around it. A writer goes back from each
body as often as it goes into one, so it keeps its level over a fragment and is never asked to go
back from the outermost.
-/

namespace ODataClient.Code

def ofRows (rows : List String) : String := String.join (rows.map (· ++ "\n"))

/-- What stands in one place of a fragment. -/
inductive Content where
  | line (text : String)
  | blank
  | comment (lines : List String)

namespace Content

def texts : Content → List String
  | line text => [text]
  | blank => []
  | comment lines => lines

/-- A line of a comment: a star and a text, without the white space at its end. -/
def starred (text : String) : String :=
  if Text.isBlank text then " *"
  else " * " ++ String.ofList (text.toList.rdropWhile Unicode.isWhiteSpace)

theorem docLine_eq (text : String) : Writer.docLine text = starred text := by
  have kept : Text.trimEnd text = String.ofList (text.toList.rdropWhile Unicode.isWhiteSpace) := rfl
  have nothing : Text.trimEnd text = "" ↔ Text.isBlank text = true := by
    rw [kept, ← String.toList_inj, String.toList_ofList, String.toList_empty,
      List.rdropWhile_eq_nil_iff, Text.isBlank, List.all_eq_true]
  rw [Writer.docLine, starred, ← kept]
  simp only [nothing]

/-- The rows of a content before they are indented, with nothing for an empty row. -/
def rows : Content → List (Option String)
  | line text => [some text]
  | blank => [none]
  | comment lines =>
    if lines.isEmpty then []
    else some "/**" :: (lines.map fun text => some (starred text)) ++ [some " */"]

def height : Content → Nat
  | line _ | blank => 1
  | comment lines => if lines.isEmpty then 0 else lines.length + 2

theorem length_rows (content : Content) : content.rows.length = content.height := by
  cases content with
  | line text => rfl
  | blank => rfl
  | comment lines =>
      cases lines with
      | nil => rfl
      | cons line lines => simp [rows, height]

end Content

/-- A content, and how many bodies it stands in. -/
structure Part where
  depth : Nat
  content : Content

namespace Part

def deeper (part : Part) : Part := { part with depth := part.depth + 1 }

/-- The rows of a part where the outermost ones are indented to a level. An empty row is not
indented. -/
def rows (unit : String) (level : Nat) (part : Part) : List String :=
  part.content.rows.map fun row =>
    row.elim "" (String.join (List.replicate (level + part.depth) unit) ++ ·)

theorem rows_deeper (unit : String) (level : Nat) (part : Part) :
    part.deeper.rows unit level = part.rows unit (level + 1) := by
  simp only [rows, deeper, Nat.add_right_comm, Nat.add_assoc]

end Part

namespace Fragment

mutual

/-- The parts of a fragment, in order. -/
def parts : Fragment → List Part
  | line text => [⟨0, .line text⟩]
  | blank => [⟨0, .blank⟩]
  | block header body close =>
    ⟨0, .line header⟩ :: (allParts body).map Part.deeper ++ close.toList.map (⟨0, .line ·⟩)
  | indented body => (allParts body).map Part.deeper
  | sequence body => allParts body
  | doc lines => [⟨0, .comment lines⟩]

def allParts : List Fragment → List Part
  | [] => []
  | fragment :: fragments => parts fragment ++ allParts fragments

end

/-- The rows of a fragment that is written at a level. -/
def rows (unit : String) (level : Nat) (fragment : Fragment) : List String :=
  fragment.parts.flatMap (Part.rows unit level)

def allRows (unit : String) (level : Nat) (fragments : List Fragment) : List String :=
  (allParts fragments).flatMap (Part.rows unit level)

theorem flatMap_rows_deeper (unit : String) (level : Nat) (body : List Fragment) :
    ((allParts body).map Part.deeper).flatMap (Part.rows unit level) =
      allRows unit (level + 1) body := by
  simp only [List.flatMap_map, Part.rows_deeper]
  rfl

theorem allRows_cons (unit : String) (level : Nat) (fragment : Fragment)
    (fragments : List Fragment) :
    allRows unit level (fragment :: fragments) =
      fragment.rows unit level ++ allRows unit level fragments := by
  rw [allRows, allParts, List.flatMap_append]
  rfl

/-- Whether no text in a fragment goes over the end of a line. -/
def IsSingleLined (fragment : Fragment) : Prop :=
  ∀ part ∈ fragment.parts, ∀ text ∈ part.content.texts, '\n' ∉ text.toList

instance {fragment : Fragment} : Decidable fragment.IsSingleLined :=
  List.decidableBAll _ fragment.parts

end Fragment

namespace Writer

variable {writer : Writer} {rows : List String}

def putRows (writer : Writer) (rows : List String) : Writer :=
  { writer with text := writer.text ++ ofRows rows }

theorem putRows_nil : writer.putRows [] = writer := by
  simp [putRows, ofRows]

theorem putRows_append {more : List String} :
    (writer.putRows rows).putRows more = writer.putRows (rows ++ more) := by
  simp [putRows, ofRows, String.append_assoc]

theorem dedent_putRows_indent : (writer.indent.putRows rows).dedent = writer.putRows rows := rfl

theorem line_eq (text : String) : writer.line text = writer.putRows [writer.margin ++ text] := by
  simp [line, putRows, ofRows, String.append_assoc]

theorem blank_eq : writer.blank = writer.putRows [""] := by
  simp [blank, putRows, ofRows]

theorem foldl_line_eq (texts : List String) :
    texts.foldl line writer = writer.putRows (texts.map (writer.margin ++ ·)) := by
  induction texts generalizing writer with
  | nil => exact putRows_nil.symm
  | cons text texts ih =>
      rw [List.foldl_cons, ih, line_eq, putRows_append]
      rfl

theorem doc_eq (lines : List String) :
    writer.doc lines = writer.putRows (Part.rows writer.unit writer.level ⟨0, .comment lines⟩) := by
  cases lines with
  | nil => exact putRows_nil.symm
  | cons text texts =>
      have rows : Part.rows writer.unit writer.level ⟨0, .comment (text :: texts)⟩ =
          [writer.margin ++ "/**"] ++
            ((text :: texts).map docLine).map (writer.margin ++ ·) ++
              [writer.margin ++ " */"] := by
        simp [Part.rows, Content.rows, Content.docLine_eq, margin]
      rw [doc, List.isEmpty_cons, if_neg Bool.false_ne_true, ← List.foldl_map, line_eq,
        foldl_line_eq, line_eq, putRows_append, putRows_append, rows]
      rfl

mutual

theorem put_eq (writer : Writer) :
    (fragment : Fragment) →
      writer.put fragment = writer.putRows (fragment.rows writer.unit writer.level)
  | .line text => by
    simp [put, line_eq, Fragment.rows, Fragment.parts, Part.rows, Content.rows, margin]
  | .blank => by
    simp [put, blank_eq, Fragment.rows, Fragment.parts, Part.rows, Content.rows]
  | .block header body close => by
    -- The rows of the body are those of the level inside, from which the writer has come back.
    have outer : ((writer.line header).indent.putAll body).dedent = writer.putRows
        ((writer.margin ++ header) ::
          Fragment.allRows writer.unit (writer.level + 1) body) := by
      rw [putAll_eq, dedent_putRows_indent, line_eq, putRows_append]
      rfl
    rw [Fragment.rows, Fragment.parts, List.cons_append, List.flatMap_cons, List.flatMap_append,
      Fragment.flatMap_rows_deeper]
    cases close with
    | none =>
        rw [put, outer]
        simp [Part.rows, Content.rows, margin]
    | some text =>
        rw [put, outer, line_eq, putRows_append]
        simp [Part.rows, Content.rows, margin, putRows]
  | .indented body => by
    rw [put, putAll_eq, dedent_putRows_indent, Fragment.rows, Fragment.parts,
      Fragment.flatMap_rows_deeper]
    rfl
  | .sequence body => by
    rw [put, putAll_eq]
    rfl
  | .doc lines => by
    rw [put, doc_eq]
    simp [Fragment.rows, Fragment.parts]

theorem putAll_eq (writer : Writer) :
    (fragments : List Fragment) →
      writer.putAll fragments = writer.putRows
        (Fragment.allRows writer.unit writer.level fragments)
  | [] => putRows_nil.symm
  | fragment :: fragments => by
    rw [putAll, put_eq writer fragment, putAll_eq _ fragments, putRows_append,
      Fragment.allRows_cons]
    rfl

end

/-- A blank row stays empty inside of a body, too. -/
example : Fragment.render [.closed "a" [.blank, .indented [.line "b"]] "c"] .standard =
    "a\n\n    b\nc\n" := by
  decide +kernel

def dedent? (writer : Writer) : Option Writer :=
  if writer.level = 0 then none else some writer.dedent

mutual

/-- Writes a fragment, or stops where it would have to go back from the outermost level. -/
def put? (writer : Writer) : Fragment → Option Writer
  | .line text => some (writer.line text)
  | .blank => some writer.blank
  | .block header body close => do
    let inner ← (writer.line header).indent.putAll? body
    let outer ← inner.dedent?
    return close.elim outer outer.line
  | .indented body => do
    let inner ← writer.indent.putAll? body
    inner.dedent?
  | .sequence body => writer.putAll? body
  | .doc lines => some (writer.doc lines)

def putAll? (writer : Writer) : List Fragment → Option Writer
  | [] => some writer
  | fragment :: fragments => do
    let next ← writer.put? fragment
    next.putAll? fragments

end

theorem dedent?_putAll (writer : Writer) (body : List Fragment) :
    (writer.indent.putAll body).dedent? = some (writer.indent.putAll body).dedent := by
  rw [putAll_eq]
  exact if_neg (Nat.succ_ne_zero writer.level)

mutual

theorem put?_eq (writer : Writer) :
    (fragment : Fragment) → writer.put? fragment = some (writer.put fragment)
  | .line _ | .blank | .doc _ => rfl
  | .block header body close => by
    rw [put?, putAll?_eq _ body, Option.bind_eq_bind, Option.bind_some, dedent?_putAll]
    cases close <;> rfl
  | .indented body => by
    rw [put?, putAll?_eq _ body, Option.bind_eq_bind, Option.bind_some, dedent?_putAll]
    rfl
  | .sequence body => by
    rw [put?, putAll?_eq _ body]
    rfl

theorem putAll?_eq (writer : Writer) :
    (fragments : List Fragment) → writer.putAll? fragments = some (writer.putAll fragments)
  | [] => rfl
  | fragment :: fragments => by
    rw [putAll?, put?_eq writer fragment, Option.bind_eq_bind, Option.bind_some,
      putAll?_eq _ fragments]
    rfl

end

theorem putAll_eq_foldl (writer : Writer) (fragments : List Fragment) :
    writer.putAll fragments = fragments.foldl put writer := by
  induction fragments generalizing writer with
  | nil => rfl
  | cons fragment fragments ih => exact ih (writer.put fragment)

theorem putAll_lines (writer : Writer) (texts : List String) :
    writer.putAll (texts.map .line) = writer.putRows (texts.map (writer.margin ++ ·)) := by
  rw [putAll_eq_foldl, List.foldl_map]
  exact foldl_line_eq texts

end Writer

theorem Indentation.notMem_unit (indentation : Indentation) :
    '\n' ∉ indentation.unit.toList := by
  cases indentation with
  | spaces width => simp [unit]
  | tab => decide

theorem Content.notMem_starred {text : String} (single : '\n' ∉ text.toList) :
    '\n' ∉ (starred text).toList := by
  have kept : '\n' ∉ text.toList.rdropWhile Unicode.isWhiteSpace :=
    fun member => single ((List.rdropWhile_prefix _ _).subset member)
  rw [starred]
  split
  · decide
  · simp [kept]

theorem Content.eq_of_mem_rows_comment {lines : List String} {text : String}
    (member : some text ∈ (comment lines).rows) :
    text = "/**" ∨ text = " */" ∨ ∃ line ∈ lines, text = starred line := by
  cases lines with
  | nil => simp [rows] at member
  | cons line lines =>
      simp only [rows, List.isEmpty_cons, Bool.false_eq_true, if_false, List.mem_append,
        List.mem_cons, List.mem_map, List.not_mem_nil, or_false, Option.some.injEq] at member
      rcases member with (opening | ⟨other, isLine, rfl⟩) | closing
      · exact .inl opening
      · exact .inr (.inr ⟨other, List.mem_cons.2 isLine, rfl⟩)
      · exact .inr (.inl closing)

theorem Content.notMem_rows {content : Content} {text : String}
    (single : ∀ source ∈ content.texts, '\n' ∉ source.toList)
    (member : some text ∈ content.rows) : '\n' ∉ text.toList := by
  cases content with
  | line source =>
      obtain rfl : text = source := by simpa [rows] using member
      exact single text List.mem_cons_self
  | blank => simp [rows] at member
  | comment lines =>
      rcases eq_of_mem_rows_comment member with rfl | rfl | ⟨line, isLine, rfl⟩
      · decide
      · decide
      · exact notMem_starred (single line isLine)

theorem Part.notMem_rows (indentation : Indentation) (level : Nat) {part : Part}
    (single : ∀ text ∈ part.content.texts, '\n' ∉ text.toList) :
    ∀ row ∈ part.rows indentation.unit level, '\n' ∉ row.toList := by
  rintro _ member
  obtain ⟨row, isRow, rfl⟩ := List.mem_map.1 member
  cases row with
  | none => simp
  | some text =>
      have plain : '\n' ∉ text.toList := Content.notMem_rows single isRow
      simp [plain, indentation.notMem_unit]

theorem toList_ofRows_cons (row : String) (rows : List String) :
    (ofRows (row :: rows)).toList = row.toList ++ '\n' :: (ofRows rows).toList := by
  rw [ofRows, List.map_cons, String.join_cons, String.toList_append, String.toList_append,
    List.append_assoc]
  rfl

theorem splitOn_ofRows {rows : List String} (single : ∀ row ∈ rows, '\n' ∉ row.toList) :
    (ofRows rows).toList.splitOn '\n' = rows.map String.toList ++ [[]] := by
  induction rows with
  | nil => rfl
  | cons row rows ih =>
      rw [List.forall_mem_cons] at single
      have ends : ∀ c ∈ row.toList, (c == '\n') = false :=
        fun c member => beq_false_of_ne fun same => single.1 (same ▸ member)
      rw [toList_ofRows_cons, List.splitOn_eq_splitOnP,
        List.splitOnP_append_cons_of_forall_mem ends '\n' rfl, ← List.splitOn_eq_splitOnP,
        ih single.2]
      rfl

theorem Fragment.length_rows (unit : String) (level : Nat) (fragment : Fragment) :
    (fragment.rows unit level).length = (fragment.parts.map (·.content.height)).sum := by
  simp [rows, List.length_flatMap, Part.rows, Content.length_rows]

/-- What becomes of a writer when a fragment is written. It keeps its level and is never asked to go
back from the outermost one, and its text goes on with the rows of the fragment, as many as the
parts take. A sequence is written like its fragments in a row. -/
structure Writer.WritesInRows (writer : Writer) (fragment : Fragment) : Prop where
  balanced : writer.put? fragment = some (writer.put fragment)
  level : (writer.put fragment).level = writer.level
  unit : (writer.put fragment).unit = writer.unit
  rows : ∃ added : String, (writer.put fragment).text = writer.text ++ added ∧
    added.toList.splitOn '\n' =
      (fragment.rows writer.unit writer.level).map String.toList ++ [[]]
  height : (fragment.rows writer.unit writer.level).length =
    (fragment.parts.map (·.content.height)).sum
  sequence : ∀ body, fragment = .sequence body →
    writer.put fragment = body.foldl Writer.put writer

/-- Fragments are written in rows, whatever they are indented with, at whatever level and behind
whatever text, as long as none of their texts goes over the end of a line. -/
theorem writesInRows_of_isSingleLined (indentation : Indentation) (level : Nat) (text : String)
    {fragment : Fragment} (single : fragment.IsSingleLined) :
    Writer.WritesInRows ⟨indentation.unit, level, text⟩ fragment where
  balanced := Writer.put?_eq _ fragment
  level := by
    rw [Writer.put_eq]
    rfl
  unit := by
    rw [Writer.put_eq]
    rfl
  rows := by
    rw [Writer.put_eq]
    refine ⟨_, rfl, splitOn_ofRows fun row member => ?_⟩
    obtain ⟨part, isPart, isRow⟩ := List.mem_flatMap.1 member
    exact part.notMem_rows indentation level (single part isPart) row isRow
  height := fragment.length_rows _ _
  sequence := by
    rintro body rfl
    exact Writer.putAll_eq_foldl _ body

/-- A comment and a block with a blank row, behind other text at the second level. -/
theorem writesInRows_meal :
    (Fragment.sequence [.docText "A namespace",
      .closed "namespace Meal" [.blank, .indented [.line "return 1;"]] "end"]).IsSingleLined ∧
    Writer.WritesInRows ⟨Indentation.tab.unit, 1, "x;\n"⟩
      (.sequence [.docText "A namespace",
        .closed "namespace Meal" [.blank, .indented [.line "return 1;"]] "end"]) := by
  have single : (Fragment.sequence [.docText "A namespace",
      .closed "namespace Meal" [.blank, .indented [.line "return 1;"]] "end"]).IsSingleLined := by
    decide
  exact ⟨single, writesInRows_of_isSingleLined .tab 1 "x;\n" single⟩

end ODataClient.Code
