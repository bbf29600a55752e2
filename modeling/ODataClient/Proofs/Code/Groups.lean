import ODataClient.Proofs.Code.Rows

/-!
# Groups of fragments

What counts as empty is written as nothing. What is written as nothing counts as empty too, unless
an indented body stands in it. So when groups are set apart by blank lines, those that are written
as nothing are left out and get no blank line, but for the ones with such a body.
-/

namespace ODataClient.Code

theorem ofRows_append (first second : List String) :
    ofRows (first ++ second) = ofRows first ++ ofRows second := by
  rw [ofRows, List.map_append, String.join_append]
  rfl

theorem ofRows_eq_empty_iff {rows : List String} : ofRows rows = "" ↔ rows = [] := by
  cases rows with
  | nil => simp [ofRows]
  | cons row rows =>
      have ends : (ofRows (row :: rows)).toList ≠ [] := by
        rw [toList_ofRows_cons]
        simp
      simpa using ends

/-- The length of texts with a line feed behind each of them. -/
def spread (texts : List String) : Nat :=
  (texts.map fun text => text.length + 1).sum

theorem length_intercalate_lineFeed {texts : List String} (present : texts ≠ []) :
    ("\n".intercalate texts).length + 1 = spread texts := by
  induction texts with
  | nil => exact absurd rfl present
  | cons text texts ih =>
      cases texts with
      | nil => simp [spread]
      | cons next texts =>
          rw [String.intercalate_cons_cons, spread, List.map_cons, List.sum_cons, ← spread,
            ← ih (by simp), String.length_append, String.length_append]
          exact Nat.add_assoc _ _ _

theorem spread_eq (texts : List String) :
    spread texts = spread (texts.filter (· ≠ "")) + texts.count "" := by
  induction texts with
  | nil => rfl
  | cons text texts ih =>
      by_cases empty : text = ""
      · subst empty
        simp [spread] at ih ⊢
        omega
      · simp [spread, empty] at ih ⊢
        omega

/-- Leaving the empty texts out changes nothing exactly when no line feed stands next to one. -/
theorem intercalate_filter_eq_iff {texts : List String} :
    "\n".intercalate texts = "\n".intercalate (texts.filter (· ≠ "")) ↔
      texts.length ≤ 1 ∨ "" ∉ texts := by
  constructor
  · intro eq
    by_contra apart
    obtain ⟨several, empty⟩ : 1 < texts.length ∧ "" ∈ texts := by simpa using apart
    have all := length_intercalate_lineFeed (List.ne_nil_of_mem empty)
    have positive : 0 < texts.count "" := List.count_pos_iff.mpr empty
    have total := spread_eq texts
    -- The length of what is left is known from its texts only if there are any.
    by_cases others : texts.filter (· ≠ "") = []
    · have nothing : texts.count "" = texts.length := by
        rw [List.count_eq_length]
        intro text mem
        have absent : text = "" := by simpa using List.filter_eq_nil_iff.mp others text mem
        exact absent.symm
      rw [others, String.intercalate_nil] at eq
      rw [eq, total, others, nothing] at all
      change 0 + 1 = 0 + texts.length at all
      omega
    · have rest := length_intercalate_lineFeed others
      rw [← eq] at rest
      omega
  · rintro (few | present)
    · match texts, few with
      | [], _ => rfl
      | [text], _ => by_cases empty : text = "" <;> simp [empty]
    · rw [List.filter_eq_self.mpr]
      intro text mem
      simpa using ne_of_mem_of_not_mem mem present

namespace Fragment

mutual

/-- Whether an indented body stands in a fragment, with no block around it. -/
def indents : Fragment → Bool
  | indented _ => true
  | sequence body => anyIndents body
  | line _ | blank | block .. | doc _ => false

def anyIndents : List Fragment → Bool
  | [] => false
  | fragment :: fragments => indents fragment || anyIndents fragments

end

theorem allRows_nil (unit : String) (level : Nat) : allRows unit level [] = [] := by
  simp [allRows, allParts]

theorem allRows_append (unit : String) (level : Nat) (first second : List Fragment) :
    allRows unit level (first ++ second) =
      allRows unit level first ++ allRows unit level second := by
  induction first with
  | nil => rw [allRows_nil, List.nil_append, List.nil_append]
  | cons fragment first ih =>
      rw [List.cons_append, allRows_cons, allRows_cons, ih, List.append_assoc]

mutual

theorem isEmpty_iff (unit : String) (level : Nat) :
    (fragment : Fragment) →
      (fragment.isEmpty = true ↔ fragment.rows unit level = [] ∧ fragment.indents = false)
  | .line text => by simp [isEmpty, rows, parts, Part.rows, Content.rows]
  | .blank => by simp [isEmpty, rows, parts, Part.rows, Content.rows]
  | .block header body close => by simp [isEmpty, rows, parts, Part.rows, Content.rows]
  -- An indented body never counts as empty, so what it holds is of no concern.
  | .indented body => by simp [isEmpty, indents]
  | .sequence body => by
    rw [isEmpty, indents]
    exact allEmpty_iff unit level body
  | .doc lines => by cases lines <;> simp [isEmpty, indents, rows, parts, Part.rows, Content.rows]

theorem allEmpty_iff (unit : String) (level : Nat) :
    (fragments : List Fragment) →
      (allEmpty fragments = true ↔
        allRows unit level fragments = [] ∧ anyIndents fragments = false)
  | [] => by simp [allEmpty, anyIndents, allRows_nil]
  | fragment :: fragments => by
    rw [allEmpty, Bool.and_eq_true, isEmpty_iff unit level fragment,
      allEmpty_iff unit level fragments, allRows_cons, List.append_eq_nil_iff, anyIndents,
      Bool.or_eq_false_iff]
    exact and_and_and_comm

end

/-- The groups that are not left out. -/
def kept (groups : List (List Fragment)) : List (List Fragment) :=
  groups.filter fun group => !allEmpty group

/-- Behind fragments that stand there, every group that is kept follows a blank line. -/
theorem foldl_appendGroup {soFar : List Fragment} (begun : soFar ≠ [])
    (groups : List (List Fragment)) :
    groups.foldl appendGroup soFar = [blank].intercalate (soFar :: kept groups) := by
  induction groups generalizing soFar with
  | nil => simp [kept]
  | cons group groups ih =>
      rw [List.foldl_cons, kept, List.filter_cons]
      cases leaves : allEmpty group with
      | true =>
          rw [appendGroup, if_pos leaves]
          exact ih begun
      | false =>
          rw [appendGroup, if_neg (by simp [leaves]), if_neg (by simpa using begun),
            ih (by simp), kept]
          cases groups.filter fun group => !allEmpty group <;> simp

theorem separated_eq (groups : List (List Fragment)) :
    separated groups = [blank].intercalate (kept groups) := by
  induction groups with
  | nil => rfl
  | cons group groups ih =>
      rw [separated, List.foldl_cons, kept, List.filter_cons]
      cases leaves : allEmpty group with
      | true =>
          rw [appendGroup, if_pos leaves]
          exact ih
      | false =>
          have begun : group ≠ [] := by
            rintro rfl
            simp [allEmpty] at leaves
          rw [appendGroup, if_neg (by simp [leaves])]
          exact foldl_appendGroup begun groups

end Fragment

namespace Writer

variable (writer : Writer)

/-- What a writer adds to its text for fragments. -/
def added (fragments : List Fragment) : String :=
  ({ writer with text := "" }.putAll fragments).text

theorem added_eq (fragments : List Fragment) :
    writer.added fragments = ofRows (Fragment.allRows writer.unit writer.level fragments) := by
  rw [added, putAll_eq]
  exact String.empty_append

theorem text_putAll (fragments : List Fragment) :
    (writer.putAll fragments).text = writer.text ++ writer.added fragments := by
  rw [added_eq, putAll_eq]
  rfl

theorem allEmpty_iff_added (fragments : List Fragment) :
    Fragment.allEmpty fragments = true ↔
      writer.added fragments = "" ∧ Fragment.anyIndents fragments = false := by
  rw [added_eq, ofRows_eq_empty_iff]
  exact Fragment.allEmpty_iff _ _ _

theorem added_blank : writer.added [.blank] = "\n" := rfl

theorem added_append (first second : List Fragment) :
    writer.added (first ++ second) = writer.added first ++ writer.added second := by
  rw [added_eq, added_eq, added_eq, Fragment.allRows_append, ofRows_append]

theorem added_intercalate (groups : List (List Fragment)) :
    writer.added ([.blank].intercalate groups) = "\n".intercalate (groups.map writer.added) := by
  induction groups with
  | nil => rfl
  | cons group groups ih =>
      cases groups with
      | nil => simp
      | cons next groups =>
          rw [List.intercalate_cons_cons, added_append, added_append, added_blank, ih]
          exact String.intercalate_cons_cons.symm

/-- Fragments that are written as nothing and do not count as empty. -/
def Overlooks (fragments : List Fragment) : Prop :=
  Fragment.anyIndents fragments = true ∧ writer.added fragments = ""

theorem overlooks_iff {fragments : List Fragment} :
    writer.Overlooks fragments ↔
      Fragment.allEmpty fragments = false ∧ writer.added fragments = "" := by
  have empty := writer.allEmpty_iff_added fragments
  rw [Overlooks]
  cases leaves : Fragment.allEmpty fragments <;> simp_all

theorem filter_added_kept (groups : List (List Fragment)) :
    ((Fragment.kept groups).map writer.added).filter (· ≠ "") =
      (groups.map writer.added).filter (· ≠ "") := by
  rw [Fragment.kept, List.filter_map, List.filter_map, List.filter_filter]
  congr 1
  apply List.filter_congr
  intro group _
  cases leaves : Fragment.allEmpty group with
  | true => simp [((writer.allEmpty_iff_added group).mp leaves).1]
  | false => simp

theorem empty_mem_added_kept_iff {groups : List (List Fragment)} :
    "" ∈ (Fragment.kept groups).map writer.added ↔
      ∃ group ∈ groups, writer.Overlooks group := by
  simp only [List.mem_map, Fragment.kept, List.mem_filter, overlooks_iff, Bool.not_eq_true',
    and_assoc]

/-- Whether a fragment counts as empty just when it is written as nothing. -/
def Judges (fragment : Fragment) : Prop :=
  fragment.isEmpty = true ↔ (writer.put fragment).text = writer.text

/-- Whether those of the groups that are written as something are written in their order, with one
blank line between any two, and nothing else is. -/
def SetsApart (groups : List (List Fragment)) : Prop :=
  (writer.putAll (Fragment.separated groups)).text =
    writer.text ++ "\n".intercalate ((groups.map writer.added).filter (· ≠ ""))

/-- How far a writer bears out what counts as empty. -/
structure BearsOut : Prop where
  judges : ∀ fragment, writer.Judges fragment ↔ ¬ writer.Overlooks [fragment]
  separated : ∀ groups, (writer.putAll (Fragment.separated groups)).text =
    writer.text ++ "\n".intercalate ((Fragment.kept groups).map writer.added)
  setsApart : ∀ groups, writer.SetsApart groups ↔
    (Fragment.kept groups).length ≤ 1 ∨ ∀ group ∈ groups, ¬ writer.Overlooks group

theorem judges_iff (fragment : Fragment) :
    writer.Judges fragment ↔ ¬ writer.Overlooks [fragment] := by
  have single : (writer.put fragment).text = writer.text ++ writer.added [fragment] :=
    writer.text_putAll [fragment]
  have alone : Fragment.allEmpty [fragment] = fragment.isEmpty := Bool.and_true _
  have sound : fragment.isEmpty = true → writer.added [fragment] = "" := by
    rw [← alone, allEmpty_iff_added]
    exact And.left
  rw [Judges, single, String.append_eq_left_iff, overlooks_iff, alone]
  cases leaves : fragment.isEmpty with
  | true => simp [sound leaves]
  | false => simp

theorem bearsOut : writer.BearsOut where
  judges := writer.judges_iff
  separated groups := by
    rw [text_putAll, Fragment.separated_eq, added_intercalate]
  setsApart groups := by
    rw [SetsApart, text_putAll, Fragment.separated_eq, added_intercalate, ← filter_added_kept,
      String.append_right_inj, intercalate_filter_eq_iff, empty_mem_added_kept_iff,
      List.length_map]
    simp only [not_exists, not_and]

end Writer

/-- Two lines with an indented body between them that holds nothing. -/
def aroundNothing : List (List Fragment) :=
  [[.line "a"], [.indented []], [.line "b"]]

/-- The body is written as nothing, and yet a blank line is put on either side of it. -/
theorem exists_group_overlooked :
    Fragment.isEmpty (.indented []) = false ∧
    ((Writer.empty .standard).put (.indented [])).text = (Writer.empty .standard).text ∧
    aroundNothing.map (Writer.empty .standard).added = ["a\n", "", "b\n"] ∧
    Fragment.render (Fragment.separated aroundNothing) .standard = "a\n\n\nb\n" ∧
    ¬ (Writer.empty .standard).Judges (.indented []) ∧
    ¬ (Writer.empty .standard).SetsApart aroundNothing := by
  have counts : Fragment.isEmpty (.indented []) = false := rfl
  have nothing :
      ((Writer.empty .standard).put (.indented [])).text = (Writer.empty .standard).text := rfl
  have texts : aroundNothing.map (Writer.empty .standard).added = ["a\n", "", "b\n"] := by
    decide +kernel
  have written : Fragment.render (Fragment.separated aroundNothing) .standard = "a\n\n\nb\n" := by
    decide +kernel
  refine ⟨counts, nothing, texts, written, fun judges => ?_, fun apart => ?_⟩
  · exact absurd (judges.mpr nothing) (by simp [counts])
  · rw [Writer.SetsApart, texts] at apart
    exact absurd (written.symm.trans apart) (by decide +kernel)

end ODataClient.Code
