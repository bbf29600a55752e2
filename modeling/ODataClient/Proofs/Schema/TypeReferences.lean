import Mathlib.Data.List.DropRight
import Mathlib.Tactic.Common
import ODataClient.Schema.TypeReference

/-!
# What is read as a type reference

Without the blanks around it, a type reference is a namespace and a name with a point between them,
or such a text in the brackets of a collection. The point is the last one, so that names have none.
A reference is written as the text that it has been read from, without the blanks, and is read back
from there.
-/

namespace ODataClient.Unicode

variable {text front middle : List Char} {first last : Char}

theorem trim_eq_rdropWhile (text : List Char) :
    trim text = (text.dropWhile isWhiteSpace).rdropWhile isWhiteSpace := rfl

/-- What is cut off at the end uncovers no white space at the beginning. -/
theorem dropWhile_of_prefix {p : Char → Bool} (isFront : front <+: text)
    (kept : text.dropWhile p = text) : front.dropWhile p = front := by
  cases front with
  | nil => rfl
  | cons c rest =>
      rcases isFront with ⟨others, rfl⟩
      apply List.dropWhile_cons_of_neg
      intro dropped
      have shorter := (List.dropWhile_sublist p (l := rest ++ others)).length_le
      rw [List.cons_append, List.dropWhile_cons_of_pos dropped] at kept
      rw [kept, List.length_cons] at shorter
      omega

theorem trim_trim : trim (trim text) = trim text := by
  have start : (trim text).dropWhile isWhiteSpace = trim text :=
    dropWhile_of_prefix (List.rdropWhile_prefix _ _) (List.dropWhile_idempotent _ _)
  rw [trim_eq_rdropWhile (trim text), start, trim_eq_rdropWhile,
    List.rdropWhile_idempotent]

theorem trim_enclosed (isFirst : isWhiteSpace first = false) (isLast : isWhiteSpace last = false) :
    trim (first :: middle ++ [last]) = first :: middle ++ [last] := by
  rw [trim_eq_rdropWhile, List.cons_append, List.dropWhile_cons_of_neg (by simp [isFirst]),
    ← List.cons_append, List.rdropWhile_concat_neg _ _ _ (by simp [isLast])]

end ODataClient.Unicode

namespace ODataClient.ElementType

variable {text before after : List Char} {type : ElementType} {reason : TypeReferenceError}

/-- The types that have a name to be read: a primitive after `Edm.`, or a type of another
namespace. -/
inductive IsNamed : ElementType → Prop
  | primitive {name : String} (present : name ≠ "") (noPoint : '.' ∉ name.toList) :
      IsNamed (.primitive ("Edm." ++ name))
  | declared {ns name : String} (placed : ns ≠ "") (other : ns ≠ "Edm") (present : name ≠ "")
      (noPoint : '.' ∉ name.toList) : IsNamed (.declared ns name)

theorem splitLastPoint_eq_none_iff : splitLastPoint text = none ↔ '.' ∉ text := by
  induction text with
  | nil => simp [splitLastPoint]
  | cons c rest ih =>
      rw [splitLastPoint, List.mem_cons, not_or, ← ih]
      cases splitLastPoint rest with
      | some parts => simp
      | none => simp [eq_comm]

theorem splitLastPoint_append (noPoint : '.' ∉ after) :
    splitLastPoint (before ++ '.' :: after) = some (before, after) := by
  induction before with
  | nil => simp [splitLastPoint, splitLastPoint_eq_none_iff.2 noPoint]
  | cons c before ih => simp [splitLastPoint, ih]

theorem splitLastPoint_eq_some_iff :
    splitLastPoint text = some (before, after) ↔ text = before ++ '.' :: after ∧ '.' ∉ after := by
  constructor
  · intro split
    induction text generalizing before with
    | nil => contradiction
    | cons c rest ih =>
        rw [splitLastPoint] at split
        cases parts : splitLastPoint rest with
        | none =>
            simp only [parts, Option.ite_none_right_eq_some, Option.some.injEq,
              Prod.mk.injEq] at split
            rcases split with ⟨rfl, rfl, rfl⟩
            exact ⟨rfl, splitLastPoint_eq_none_iff.1 parts⟩
        | some found =>
            rcases found with ⟨front, back⟩
            simp only [parts, Option.some.injEq, Prod.mk.injEq] at split
            rcases split with ⟨rfl, rfl⟩
            rcases ih parts with ⟨rfl, noPoint⟩
            exact ⟨rfl, noPoint⟩
  · rintro ⟨rfl, noPoint⟩
    exact splitLastPoint_append noPoint

theorem toList_text_primitive {name : String} :
    (primitive ("Edm." ++ name)).text.toList = "Edm".toList ++ '.' :: name.toList := by
  rw [ElementType.text, String.toList_append]
  rfl

theorem toList_text_declared {ns name : String} :
    (declared ns name).text.toList = ns.toList ++ '.' :: name.toList := by
  rw [ElementType.text, String.append_assoc, String.toList_append, String.toList_append]
  rfl

theorem IsNamed.ofTrimmed_text (named : type.IsNamed) :
    ofTrimmed type.text.toList = .ok type := by
  cases named with
  | primitive present noPoint =>
      rw [ofTrimmed, toList_text_primitive, splitLastPoint_append noPoint,
        ← toList_text_primitive, String.ofList_toList]
      simp [present, text]
  | @declared ns name placed other present noPoint =>
      have notPrimitive : ns.toList ≠ ['E', 'd', 'm'] := by
        intro same
        exact other (String.toList_inj.1 same)
      rw [ofTrimmed, toList_text_declared, splitLastPoint_append noPoint]
      simp [placed, present, notPrimitive]

/-- Names of types are written as they are read, and nothing else is read. -/
theorem ofTrimmed_eq_ok_iff : ofTrimmed text = .ok type ↔ type.text.toList = text ∧ type.IsNamed := by
  constructor
  · intro read
    rw [ofTrimmed] at read
    split at read
    · contradiction
    · next before after split =>
      rcases splitLastPoint_eq_some_iff.1 split with ⟨rfl, noPoint⟩
      rw [← String.toList_ofList (l := after)] at noPoint
      split at read
      · contradiction
      · next present =>
        rw [not_or] at present
        split at read
        · next isPrimitive =>
          cases read
          subst isPrimitive
          refine ⟨String.toList_ofList, ?_⟩
          have named : String.ofList (['E', 'd', 'm'] ++ '.' :: after) =
              "Edm." ++ String.ofList after := by
            apply String.toList_inj.1
            simp
          rw [named]
          exact .primitive (by simpa using present.2) noPoint
        · next other =>
          cases read
          constructor
          · rw [toList_text_declared, String.toList_ofList, String.toList_ofList]
          · apply IsNamed.declared (by simpa using present.1) _ (by simpa using present.2) noPoint
            intro same
            apply other
            rw [← String.toList_ofList (l := before), same]
            rfl
  · rintro ⟨rfl, named⟩
    exact named.ofTrimmed_text

/-- Whether a text is a namespace and a name with a point between them, the last of the text. -/
def IsQualified (text : List Char) : Prop :=
  ∃ before after, text = before ++ '.' :: after ∧ '.' ∉ after ∧ before ≠ [] ∧ after ≠ []

theorem ofTrimmed_eq_error_iff :
    ofTrimmed text = .error reason ↔ reason = .unqualified ∧ ¬ IsQualified text := by
  constructor
  · intro refused
    rw [ofTrimmed] at refused
    split at refused
    · next none =>
      cases refused
      refine ⟨rfl, ?_⟩
      rintro ⟨before, after, rfl, noPoint, -⟩
      rw [splitLastPoint_append noPoint] at none
      cases none
    · next before after split =>
      split at refused
      · next missing =>
        cases refused
        refine ⟨rfl, ?_⟩
        rintro ⟨ns, name, rfl, noPoint, placed, present⟩
        rw [splitLastPoint_append noPoint] at split
        cases split
        exact missing.elim placed present
      · split at refused <;> cases refused
  · rintro ⟨rfl, unqualified⟩
    rw [ofTrimmed]
    split
    · rfl
    · next before after split =>
      rcases splitLastPoint_eq_some_iff.1 split with ⟨rfl, noPoint⟩
      apply if_pos
      by_contra present
      rw [not_or] at present
      exact unqualified ⟨before, after, rfl, noPoint, present.1, present.2⟩

end ODataClient.ElementType

namespace ODataClient.TypeReference

open Unicode

variable {text chars : List Char} {source body inner : String} {type : ElementType}

/-- A text without the blanks around it. -/
def trimmed (source : String) : String := String.ofList (trim source.toList)

/-- What a text may be like without the blanks around it. -/
inductive Form (source : String) : Prop
  | blank (isBlank : trimmed source = "")
  | alone (present : trimmed source ≠ "")
      (isNoStart : ¬ "Collection(".toList <+: (trimmed source).toList)
  | unclosed (body : String) (isStart : trimmed source = "Collection(" ++ body)
      (isOpen : ¬ [')'] <:+ body.toList)
  | collection (inner : String) (isCollection : trimmed source = "Collection(" ++ inner ++ ")")

theorem toList_trimmed : (trimmed source).toList = trim source.toList :=
  String.toList_ofList

theorem trimmed_trimmed : trimmed (trimmed source) = trimmed source := by
  rw [trimmed, toList_trimmed, trim_trim, trimmed]

theorem trimmed_collection (inner : String) :
    trimmed ("Collection(" ++ inner ++ ")") = "Collection(" ++ inner ++ ")" := by
  have enclosed : ("Collection(" ++ inner ++ ")").toList =
      'C' :: ("ollection(".toList ++ inner.toList) ++ [')'] := by
    rw [String.toList_append, String.toList_append]
    rfl
  rw [← String.toList_inj, toList_trimmed, enclosed, trim_enclosed (by decide) (by decide)]

theorem hasForm (source : String) : Form source := by
  by_cases isBlank : trimmed source = ""
  · exact .blank isBlank
  · by_cases isStart : "Collection(".toList <+: (trimmed source).toList
    · rcases isStart with ⟨rest, split⟩
      have isStart : trimmed source = "Collection(" ++ String.ofList rest := by
        rw [← String.toList_inj, String.toList_append, String.toList_ofList (l := rest), split]
      by_cases closed : [')'] <:+ rest
      · rcases closed with ⟨inside, rfl⟩
        apply Form.collection (String.ofList inside)
        rw [isStart, String.append_assoc, String.ofList_append]
      · exact .unclosed _ isStart (by rwa [String.toList_ofList])
    · exact .alone isBlank isStart

theorem collectionBody?_eq_none_iff :
    collectionBody? text = none ↔ ¬ "Collection(".toList <+: text := by
  rw [collectionBody?, ← List.isPrefixOf_iff_prefix, ite_eq_right_iff]
  exact forall_congr' fun _ => iff_of_false (Option.some_ne_none _) id

theorem collectionBody?_append : collectionBody? ("Collection(".toList ++ chars) = some chars := by
  rw [collectionBody?, if_pos (List.isPrefixOf_iff_prefix.2 (List.prefix_append _ _))]
  exact congrArg some (List.drop_left' rfl)

theorem parse_blank (isBlank : trimmed source = "") : parse source = .error .empty := by
  rw [← String.toList_eq_nil_iff, toList_trimmed] at isBlank
  rw [parse, ofChars, if_pos isBlank]

theorem parse_alone (present : trimmed source ≠ "")
    (isNoStart : ¬ "Collection(".toList <+: (trimmed source).toList) :
    parse source = (ElementType.ofTrimmed (trimmed source).toList).map single := by
  rw [ne_eq, ← String.toList_eq_nil_iff] at present
  rw [toList_trimmed] at present isNoStart ⊢
  rw [parse, ofChars, if_neg present]
  split
  · next found =>
    rw [collectionBody?_eq_none_iff.2 isNoStart] at found
    cases found
  · rfl

theorem parse_of_start (isStart : trimmed source = "Collection(" ++ body) :
    parse source =
      if body.toList.getLast? = some ')' then
        match ofChars body.toList.dropLast with
        | .error reason => .error reason
        | .ok (single type) => .ok (collection type)
        | .ok (collection _) => .error .nestedCollection
      else .error .unclosedCollection := by
  rw [← String.toList_inj, toList_trimmed, String.toList_append] at isStart
  have present : trim source.toList ≠ [] := by
    rw [isStart]
    exact List.append_ne_nil_of_left_ne_nil (by decide) _
  have isBody : collectionBody? (trim source.toList) = some body.toList := by
    rw [isStart, collectionBody?_append]
  rw [parse, ofChars, if_neg present]
  split
  · next found =>
    rw [isBody] at found
    cases found
    rfl
  · next none =>
    rw [isBody] at none
    cases none

theorem parse_unclosed (isStart : trimmed source = "Collection(" ++ body)
    (isOpen : ¬ [')'] <:+ body.toList) : parse source = .error .unclosedCollection := by
  rw [parse_of_start isStart]
  apply if_neg
  rw [List.getLast?_eq_some_iff]
  rintro ⟨inside, closed⟩
  exact isOpen ⟨inside, closed.symm⟩

theorem parse_collection (isCollection : trimmed source = "Collection(" ++ inner ++ ")") :
    parse source = match parse inner with
      | .error reason => .error reason
      | .ok (single type) => .ok (collection type)
      | .ok (collection _) => .error .nestedCollection := by
  rw [String.append_assoc] at isCollection
  have closed : (inner ++ ")").toList = inner.toList ++ [')'] := String.toList_append
  rw [parse_of_start isCollection, closed, if_pos List.getLast?_concat, List.dropLast_concat]
  rfl

theorem parse_trimmed : parse (trimmed source) = parse source := by
  cases hasForm source with
  | blank isBlank => rw [parse_blank isBlank, parse_blank (trimmed_trimmed.trans isBlank)]
  | alone present isNoStart =>
      rw [parse_alone present isNoStart, parse_alone, trimmed_trimmed]
      · rwa [trimmed_trimmed]
      · rwa [trimmed_trimmed]
  | unclosed body isStart isOpen =>
      rw [parse_unclosed isStart isOpen, parse_unclosed (trimmed_trimmed.trans isStart) isOpen]
  | collection inner isCollection =>
      rw [parse_collection isCollection, parse_collection (trimmed_trimmed.trans isCollection)]

/-- What reading a text comes to. -/
inductive Outcome (source : String) : Except TypeReferenceError TypeReference → Prop
  | blank (isBlank : trimmed source = "") : Outcome source (.error .empty)
  | single {type : ElementType} (written : type.text = trimmed source) (named : type.IsNamed) :
      Outcome source (.ok (.single type))
  | unqualified (isNoStart : ¬ "Collection(".toList <+: (trimmed source).toList)
      (unqualified : ¬ ElementType.IsQualified (trimmed source).toList) :
      Outcome source (.error .unqualified)
  | unclosed {body : String} (isStart : trimmed source = "Collection(" ++ body)
      (isOpen : ¬ [')'] <:+ body.toList) : Outcome source (.error .unclosedCollection)
  | collection {inner : String} {type : ElementType}
      (isCollection : trimmed source = "Collection(" ++ inner ++ ")")
      (read : parse inner = .ok (.single type)) : Outcome source (.ok (.collection type))
  | nested {inner : String} {type : ElementType}
      (isCollection : trimmed source = "Collection(" ++ inner ++ ")")
      (read : parse inner = .ok (.collection type)) : Outcome source (.error .nestedCollection)
  | unread {inner : String} {reason : TypeReferenceError}
      (isCollection : trimmed source = "Collection(" ++ inner ++ ")")
      (refused : parse inner = .error reason) : Outcome source (.error reason)

theorem hasOutcome (source : String) : Outcome source (parse source) := by
  cases hasForm source with
  | blank isBlank =>
      rw [parse_blank isBlank]
      exact .blank isBlank
  | alone present isNoStart =>
      rw [parse_alone present isNoStart]
      cases read : ElementType.ofTrimmed (trimmed source).toList with
      | error reason =>
          rcases ElementType.ofTrimmed_eq_error_iff.1 read with ⟨rfl, unqualified⟩
          exact .unqualified isNoStart unqualified
      | ok type =>
          rcases ElementType.ofTrimmed_eq_ok_iff.1 read with ⟨written, named⟩
          exact .single (String.toList_inj.1 written) named
  | unclosed body isStart isOpen =>
      rw [parse_unclosed isStart isOpen]
      exact .unclosed isStart isOpen
  | collection inner isCollection =>
      rw [parse_collection isCollection]
      split
      · next refused => exact .unread isCollection refused
      · next read => exact .collection isCollection read
      · next read => exact .nested isCollection read

theorem outcome_of_parse {result : Except TypeReferenceError TypeReference}
    (parsed : parse source = result) : Outcome source result :=
  parsed ▸ hasOutcome source

theorem parse_text_of_single (read : parse source = .ok (.single type)) :
    parse type.text = .ok (.single type) := by
  cases outcome_of_parse read with
  | single written named => rw [written, parse_trimmed, read]

/-- A collection is read back with the type that it is made of. -/
theorem parse_text_of_collection (read : parse source = .ok (.collection type)) :
    parse (collection type).text = .ok (.collection type) := by
  cases outcome_of_parse read with
  | collection isCollection readInner =>
      have again := parse_collection (trimmed_collection type.text)
      rw [parse_text_of_single readInner] at again
      exact again

/-- Whether a reference is written as the text that it has been read from, without the blanks around
it and, for a collection, inside its brackets. -/
def IsWrittenAs (source : String) : TypeReference → Prop
  | .single type => (single type).text = trimmed source
  | .collection type => ∃ inner, trimmed source = "Collection(" ++ inner ++ ")" ∧
      (collection type).text = "Collection(" ++ trimmed inner ++ ")"

/-- Whether a text is no type reference: it is blank, or a name without a namespace, or a collection
that is not closed or not one of types. -/
def IsUnreadable (source : String) : Prop :=
  trimmed source = "" ∨
    (¬ "Collection(".toList <+: (trimmed source).toList ∧
      ¬ ElementType.IsQualified (trimmed source).toList) ∨
    ∃ body, trimmed source = "Collection(" ++ body ∧
      (¬ [')'] <:+ body.toList ∨
        ∃ inner, body = inner ++ ")" ∧
          ((∃ reason, parse inner = .error reason) ∨ ∃ type, parse inner = .ok (.collection type)))

theorem isUnreadable_of_parse {reason : TypeReferenceError}
    (refused : parse source = .error reason) : IsUnreadable source := by
  -- A collection's inside begins after its first bracket and ends before its last.
  have ofInside : ∀ inner, trimmed source = "Collection(" ++ inner ++ ")" →
      ((∃ reason, parse inner = .error reason) ∨ ∃ type, parse inner = .ok (.collection type)) →
        IsUnreadable source := by
    intro inner isCollection inside
    rw [String.append_assoc] at isCollection
    exact .inr (.inr ⟨inner ++ ")", isCollection, .inr ⟨inner, rfl, inside⟩⟩)
  cases outcome_of_parse refused with
  | blank isBlank => exact .inl isBlank
  | unqualified isNoStart unqualified => exact .inr (.inl ⟨isNoStart, unqualified⟩)
  | unclosed isStart isOpen => exact .inr (.inr ⟨_, isStart, .inl isOpen⟩)
  | nested isCollection read => exact ofInside _ isCollection (.inr ⟨_, read⟩)
  | unread isCollection refused => exact ofInside _ isCollection (.inl ⟨_, refused⟩)

theorem exists_parse_eq_error (isUnreadable : IsUnreadable source) :
    ∃ reason, parse source = .error reason := by
  rcases isUnreadable with isBlank | ⟨isNoStart, unqualified⟩ | ⟨body, isStart, inside⟩
  · exact ⟨.empty, parse_blank isBlank⟩
  · by_cases isBlank : trimmed source = ""
    · exact ⟨.empty, parse_blank isBlank⟩
    · have refused := ElementType.ofTrimmed_eq_error_iff.2 ⟨rfl, unqualified⟩
      exact ⟨.unqualified, by rw [parse_alone isBlank isNoStart, refused]; rfl⟩
  · rcases inside with isOpen | ⟨inner, rfl, inside⟩
    · exact ⟨_, parse_unclosed isStart isOpen⟩
    · rw [← String.append_assoc] at isStart
      rw [parse_collection isStart]
      rcases inside with ⟨reason, refused⟩ | ⟨type, nested⟩
      · exact ⟨reason, by rw [refused]⟩
      · exact ⟨.nestedCollection, by rw [nested]⟩

/-- Every text either is a type reference, of a primitive or of a type with a namespace, alone or in
a collection, which is written as it stands there and read back as it is; or it is none of these
texts, and refused. -/
theorem parse_settles (source : String) :
    (∀ reference, parse source = .ok reference →
      reference.element.IsNamed ∧ reference.IsWrittenAs source ∧
        parse reference.text = .ok reference) ∧
      ((∃ reason, parse source = .error reason) ↔ IsUnreadable source) := by
  refine ⟨fun reference read => ?_, fun ⟨reason, refused⟩ => isUnreadable_of_parse refused,
    exists_parse_eq_error⟩
  cases outcome_of_parse read with
  | single written named => exact ⟨named, written, parse_text_of_single read⟩
  | collection isCollection readInner =>
      cases outcome_of_parse readInner with
      | single written named =>
          refine ⟨named, ⟨_, isCollection, ?_⟩, parse_text_of_collection read⟩
          rw [← written]
          rfl

theorem parse_settles_addresses :
    let source := " Collection( Shop.Address ) "
    let reference := TypeReference.collection (.declared "Shop" "Address")
    parse source = .ok reference ∧ reference.IsWrittenAs source ∧
      parse "Collection(Shop.Address)" = .ok reference := by
  intro source reference
  have read : parse source = .ok reference := by
    decide +kernel
  rcases (parse_settles source).1 reference read with ⟨-, written, again⟩
  exact ⟨read, written, again⟩

end ODataClient.TypeReference
