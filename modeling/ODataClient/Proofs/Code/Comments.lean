import Mathlib.Data.List.DropRight
import Mathlib.Data.List.Infix
import ODataClient.Proofs.Code.Rows

/-!
# Ends of comments

A documentation comment ends at the first terminator in it. Besides the one in its last row it holds
those of the text that it is made from, each as often as there: cutting the text in lines and
leaving out the blanks at their ends takes none away, and neither the frame nor the indentation adds
another.
-/

namespace ODataClient.Text

theorem eq_nil_of_lineChars {text : List Char} (empty : lineChars text = []) : text = [] := by
  fun_cases lineChars text with
  | case1 => rfl
  | case2 rest | case3 rest => simp [lineChars] at empty
  | case4 c rest feed carriage split | case5 c rest feed carriage line lines split =>
      simp [lineChars, split] at empty

/-- The first line begins like the text, unless the text begins with what ends a line. -/
theorem head?_of_lineChars {text line : List Char} {lines : List (List Char)} {c : Char}
    (feed : c ≠ '\n') (carriage : c ≠ '\r') (split : lineChars text = line :: lines) :
    line.head? = some c ↔ text.head? = some c := by
  fun_cases lineChars text with
  | case1 => simp [lineChars] at split
  | case2 rest =>
      obtain ⟨rfl, -⟩ := List.cons.inj split
      simp [Ne.symm feed]
  | case3 rest =>
      obtain ⟨rfl, -⟩ := List.cons.inj split
      simp [Ne.symm carriage]
  | case4 d rest isFeed isCarriage others | case5 d rest isFeed isCarriage first more others =>
      simp only [lineChars, others] at split
      obtain ⟨rfl, -⟩ := List.cons.inj split
      rfl

end ODataClient.Text

namespace ODataClient.Code

def terminator : List Char := ['*', '/']

/-- How often a terminator stands in a text. -/
def terminators (text : List Char) : Nat := text.tails.countP terminator.isPrefixOf

variable {first second text : List Char}

theorem terminators_cons (c : Char) (text : List Char) :
    terminators (c :: text) =
      (if c = '*' ∧ text.head? = some '/' then 1 else 0) + terminators text := by
  have begins : terminator.isPrefixOf (c :: text) = true ↔ c = '*' ∧ text.head? = some '/' := by
    rw [List.isPrefixOf_iff_prefix, terminator, List.cons_prefix_cons]
    cases text <;> simp [eq_comm]
  simp only [terminators, List.tails_cons, List.countP_cons, begins]
  exact Nat.add_comm _ _

theorem terminators_cons_of_ne {c : Char} (other : c ≠ '*') :
    terminators (c :: text) = terminators text := by
  rw [terminators_cons, if_neg fun both => other both.1, Nat.zero_add]

theorem terminators_of_notMem (absent : '*' ∉ text) : terminators text = 0 := by
  induction text with
  | nil => rfl
  | cons c text ih =>
      rw [List.mem_cons, not_or] at absent
      rw [terminators_cons_of_ne (Ne.symm absent.1), ih absent.2]

/-- Texts that do not make a terminator where they meet have theirs together: by induction on the
first, of which each character but the last is followed by what followed it before. -/
theorem terminators_append (apart : first.getLast? = some '*' → second.head? ≠ some '/') :
    terminators (first ++ second) = terminators first + terminators second := by
  induction first with
  | nil => exact (Nat.zero_add _).symm
  | cons c first ih =>
      cases first with
      | nil =>
          have alone : ¬ (c = '*' ∧ second.head? = some '/') :=
            fun both => apart (congrArg some both.1) both.2
          rw [List.singleton_append, terminators_cons, if_neg alone, terminators_cons c [],
            if_neg (by simp)]
          rfl
      | cons next first =>
          have rest := ih (by simpa using apart)
          rw [List.cons_append, terminators_cons, rest, terminators_cons c (next :: first)]
          exact (Nat.add_assoc _ _ _).symm

theorem sum_terminators_lineChars (text : List Char) :
    ((Text.lineChars text).map terminators).sum = terminators text := by
  fun_induction Text.lineChars text with
  | case1 => rfl
  | case2 rest ih =>
      rw [List.map_cons, List.sum_cons, ih, terminators_cons_of_ne (by decide)]
      exact Nat.zero_add _
  | case3 rest ih =>
      rw [List.map_cons, List.sum_cons, ih, terminators_cons_of_ne (by decide),
        terminators_cons_of_ne (by decide)]
      exact Nat.zero_add _
  | case4 c rest feed carriage empty ih =>
      rw [Text.eq_nil_of_lineChars empty]
      exact Nat.add_zero _
  | case5 c rest feed carriage line lines split ih =>
      -- What follows `c` in its line is what follows it in the text.
      have begins := Text.head?_of_lineChars (c := '/') (by decide) (by decide) split
      rw [split, List.map_cons, List.sum_cons] at ih
      simp only [List.map_cons, List.sum_cons, terminators_cons, begins, ← ih]
      exact Nat.add_assoc _ _ _

theorem terminators_rdropWhile (text : List Char) :
    terminators (text.rdropWhile Unicode.isWhiteSpace) = terminators text := by
  have split : text.rdropWhile Unicode.isWhiteSpace ++ text.rtakeWhile Unicode.isWhiteSpace =
      text :=
    List.rdropWhile_append_rtakeWhile
  have areBlank : ∀ c ∈ text.rtakeWhile Unicode.isWhiteSpace, Unicode.isWhiteSpace c = true :=
    fun c => List.mem_rtakeWhile_imp
  have absent : '*' ∉ text.rtakeWhile Unicode.isWhiteSpace :=
    fun member => absurd (areBlank '*' member) (by decide)
  have apart : (text.rdropWhile Unicode.isWhiteSpace).getLast? = some '*' →
      (text.rtakeWhile Unicode.isWhiteSpace).head? ≠ some '/' :=
    fun _ head => absurd (areBlank '/' (List.mem_of_head? head)) (by decide)
  conv_rhs => rw [← split]
  rw [terminators_append apart, terminators_of_notMem absent, Nat.add_zero]

theorem terminators_starred (text : String) :
    terminators (Content.starred text).toList = terminators text.toList := by
  rw [← terminators_rdropWhile text.toList, Content.starred]
  split
  · next blank =>
    rw [List.rdropWhile_eq_nil_iff.2 (List.all_eq_true.1 blank)]
    decide
  · have frame : terminators " * ".toList = 0 := by decide
    rw [String.toList_append, terminators_append fun last => absurd last (by decide), frame,
      Nat.zero_add, String.toList_ofList]

theorem terminators_indented (indentation : Indentation) (depth : Nat) (row : String) :
    terminators (String.join (List.replicate depth indentation.unit) ++ row).toList =
      terminators row.toList := by
  have absent : '*' ∉ (String.join (List.replicate depth indentation.unit)).toList := by
    cases indentation <;> simp [Indentation.unit]
  have apart : (String.join (List.replicate depth indentation.unit)).toList.getLast? = some '*' →
      row.toList.head? ≠ some '/' :=
    fun last => absurd (List.mem_of_getLast? last) absent
  rw [String.toList_append, terminators_append apart, terminators_of_notMem absent, Nat.zero_add]

theorem terminators_ofRows (rows : List String) :
    terminators (ofRows rows).toList = (rows.map fun row => terminators row.toList).sum := by
  induction rows with
  | nil => rfl
  | cons row rows ih =>
      rw [toList_ofRows_cons, terminators_append (by simp), terminators_cons_of_ne (by decide), ih]
      rfl

theorem terminators_comment (indentation : Indentation) (level : Nat) (line : String)
    (lines : List String) :
    terminators (ofRows (Part.rows indentation.unit level ⟨0, .comment (line :: lines)⟩)).toList =
      ((line :: lines).map fun text => terminators text.toList).sum + 1 := by
  have opening : terminators "/**".toList = 0 := by decide
  have closing : terminators " */".toList = 1 := by decide
  simp only [terminators_ofRows, Part.rows, Content.rows, List.isEmpty_cons, Bool.false_eq_true,
    if_false, List.map_append, List.map_cons, List.map_map, Function.comp_def, Option.elim_some,
    terminators_indented, terminators_starred, List.sum_append, List.sum_cons, List.map_nil,
    List.sum_nil, opening, closing]
  omega

theorem terminators_eq_zero_iff : terminators text = 0 ↔ ¬ terminator <:+: text := by
  rw [terminators, List.countP_eq_zero, List.infix_iff_prefix_suffix]
  simp only [List.mem_tails, List.isPrefixOf_iff_prefix, not_exists, not_and]
  exact forall_congr' fun tail => ⟨fun no begins ends => no ends begins,
    fun no ends begins => no begins ends⟩

theorem sum_terminators_lines (text : String) :
    ((Text.lines text).map fun line => terminators line.toList).sum = terminators text.toList := by
  rw [Text.lines, List.map_map, ← sum_terminators_lineChars]
  simp [Function.comp_def]

theorem lines_eq_nil_iff (text : String) : Text.lines text = [] ↔ text = "" := by
  constructor
  · intro empty
    rw [Text.lines, List.map_eq_nil_iff] at empty
    exact String.toList_eq_nil_iff.1 (Text.eq_nil_of_lineChars empty)
  · rintro rfl
    rfl

theorem suffix_comment (unit : String) (level : Nat) (line : String) (lines : List String) :
    terminator ++ ['\n'] <:+
      (ofRows (Part.rows unit level ⟨0, .comment (line :: lines)⟩)).toList := by
  obtain ⟨first, split⟩ : ∃ first, Part.rows unit level ⟨0, .comment (line :: lines)⟩ =
      first ++ [String.join (List.replicate level unit) ++ " */"] :=
    ⟨_, List.map_append⟩
  rw [split, ofRows, List.map_append, String.join_append, String.toList_append]
  refine List.IsSuffix.trans ?_ (List.suffix_append _ _)
  simp only [List.map_cons, List.map_nil, String.join_cons, String.join_nil, String.append_empty,
    String.append_assoc, String.toList_append]
  exact List.IsSuffix.trans (by decide) (List.suffix_append _ _)

/-- Whether a comment has its only terminator at the end of its last row. -/
structure ClosesOnce (comment : String) : Prop where
  closed : terminator ++ ['\n'] <:+ comment.toList
  once : terminators comment.toList = 1

/-- Whether a comment is what documents a text: there is none for the empty text, and else one with
a terminator more than the text, which closes once exactly if the text holds no terminator. -/
structure Documents (comment text : String) : Prop where
  empty : comment = "" ↔ text = ""
  count : comment ≠ "" → terminators comment.toList = terminators text.toList + 1
  closes : comment ≠ "" → (ClosesOnce comment ↔ ¬ terminator <:+: text.toList)

theorem documents_rows (indentation : Indentation) (level : Nat) (text : String) :
    Documents (ofRows (Part.rows indentation.unit level ⟨0, .comment (Text.lines text)⟩)) text := by
  have nothing := lines_eq_nil_iff text
  have count := sum_terminators_lines text
  cases split : Text.lines text with
  | nil =>
      have empty : text = "" := nothing.1 split
      exact ⟨⟨fun _ => empty, fun _ => rfl⟩, fun written => absurd rfl written,
        fun written => absurd rfl written⟩
  | cons line lines =>
      rw [split] at nothing count
      have closed := suffix_comment indentation.unit level line lines
      have held := terminators_comment indentation level line lines
      rw [count] at held
      have written :
          ofRows (Part.rows indentation.unit level ⟨0, .comment (line :: lines)⟩) ≠ "" := by
        intro empty
        rw [empty] at closed
        exact absurd closed (by decide)
      have present : text ≠ "" := fun empty => List.cons_ne_nil line lines (nothing.2 empty)
      refine ⟨⟨fun empty => absurd empty written, fun empty => absurd empty present⟩,
        fun _ => held, fun _ => ?_⟩
      rw [← terminators_eq_zero_iff]
      constructor
      · intro closes
        have once := closes.once
        omega
      · intro free
        exact ⟨closed, by omega⟩

/-- Whatever a comment is indented with, and wherever it is written, it can be left early only
through a terminator in the text that it is made from. -/
theorem documents_of_put (indentation : Indentation) (level : Nat) (before text : String) :
    ∃ comment, ((⟨indentation.unit, level, before⟩ : Writer).put (.docText text)).text =
      before ++ comment ∧ Documents comment text :=
  ⟨_, congrArg Writer.text (Writer.doc_eq _), documents_rows indentation level text⟩

/-- A description with a terminator leaves its comment. What follows the terminator is code. -/
theorem exists_comment_left :
    Fragment.render [.docText "See shelf */ or ask /* the desk"] .standard =
      "/**\n * See shelf */ or ask /* the desk\n */\n" ∧
    ¬ ClosesOnce (Fragment.render [.docText "See shelf */ or ask /* the desk"] .standard) := by
  have written : Fragment.render [.docText "See shelf */ or ask /* the desk"] .standard =
      "/**\n * See shelf */ or ask /* the desk\n */\n" := by
    decide +kernel
  have twice : terminators "/**\n * See shelf */ or ask /* the desk\n */\n".toList = 2 := by
    decide +kernel
  refine ⟨written, fun closes => ?_⟩
  rw [written] at closes
  exact absurd (closes.once.symm.trans twice) (by decide)

end ODataClient.Code
