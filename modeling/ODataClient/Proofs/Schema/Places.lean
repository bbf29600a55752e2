import ODataClient.Proofs.Schema.Accepted
import ODataClient.Proofs.Text.Occurrences

/-!
# Places of errors

An error in metadata documents is placed where the documents first hold what is written at the
fault, and a second declaration where the first document that declares the name does so again. So
the place of every error is a run of bytes of the document that comes with it, and what it covers
can be told from the error.
-/

namespace ODataClient

namespace Source

variable {sources : List Source} {source other : Source} {needle : String}

def Lacks (source : Source) (needle : String) : Prop :=
  ∀ span : Text.Span, ¬ span.Covers needle source.text

/-- Whether a search of the documents for a needle comes to one of them. -/
def IsReached (sources : List Source) (needle : String) (source : Source) : Prop :=
  ∃ before after, sources = before ++ source :: after ∧ ∀ other ∈ before, other.Lacks needle

theorem IsReached.mem (reached : source.IsReached sources needle) : source ∈ sources := by
  obtain ⟨before, after, rfl, -⟩ := reached
  exact List.mem_append_right before List.mem_cons_self

/-- A search goes no further than to a document that holds the needle. -/
theorem IsReached.eq_of_not_lacks (reached : source.IsReached sources needle)
    (holds : ¬ source.Lacks needle) (reachedToo : other.IsReached sources needle)
    (holdsToo : ¬ other.Lacks needle) : source = other := by
  obtain ⟨before, after, rfl, lack⟩ := reached
  obtain ⟨beforeToo, afterToo, same, lackToo⟩ := reachedToo
  rcases List.append_eq_append_iff.1 same with ⟨between, rfl, rest⟩ | ⟨between, rfl, rest⟩
  · cases between with
    | nil => exact (List.cons.inj rest).1
    | cons next between =>
        obtain ⟨rfl, -⟩ := List.cons.inj rest
        exact absurd (lackToo source (by simp)) holds
  · cases between with
    | nil => exact (List.cons.inj rest).1.symm
    | cons next between =>
        obtain ⟨rfl, -⟩ := List.cons.inj rest
        exact absurd (lack other (by simp)) holdsToo

theorem find?_eq_some {site : Site} (found : source.find? needle = some site) :
    ∃ span, site = ⟨source, some span⟩ ∧ span.IsFirstFrom 0 needle source.text := by
  obtain ⟨span, searched, rfl⟩ := Option.map_eq_some_iff.1 found
  rw [Text.firstSpan?_eq] at searched
  exact ⟨span, rfl, Text.isFirstFrom_of_spanFrom? searched⟩

theorem lacks_of_find?_eq_none (missing : source.find? needle = none) : source.Lacks needle := by
  intro span
  rw [find?, Option.map_eq_none_iff, Text.firstSpan?_eq] at missing
  exact Text.not_covers_of_spanFrom?_eq_none String.Pos.Raw.isValid_zero missing (Nat.zero_le _)

theorem locate_of_find? {before after : List Source} {site : Site}
    (others : ∀ other ∈ before, other.find? needle = none)
    (found : source.find? needle = some site) :
    locate (before ++ source :: after) needle = site := by
  rw [locate, List.findSome?_eq_some_iff.2 ⟨before, source, after, rfl, found, others⟩]

theorem locateSecond_of_locate {name : String} {first : Text.Span}
    (located : locate sources (naming name) = ⟨source, some first⟩) :
    locateSecond sources name =
      ⟨source, Text.spanFrom? first.stop (naming name).toList source.text.toList⟩ := by
  rw [locateSecond, located]
  rfl

theorem locate_cases (sources : List Source) (needle : String) :
    (∃ source span, locate sources needle = ⟨source, some span⟩ ∧
      source.IsReached sources needle ∧ span.IsFirstFrom 0 needle source.text) ∨
    (locate sources needle).span = none ∧ ∀ source ∈ sources, source.Lacks needle := by
  rw [locate]
  split
  · next site searched =>
    obtain ⟨before, source, after, split, found, others⟩ := List.findSome?_eq_some_iff.1 searched
    obtain ⟨span, rfl, first⟩ := find?_eq_some found
    exact .inl ⟨source, span, rfl, ⟨before, after, split, fun other member =>
      lacks_of_find?_eq_none (others other member)⟩, first⟩
  · next searched =>
    refine .inr ⟨rfl, fun source member => ?_⟩
    exact lacks_of_find?_eq_none (List.findSome?_eq_none_iff.1 searched source member)

end Source

/-- What is searched for where an element lacks an attribute: the name that its place is known by,
or else how the element begins. -/
def Construct.mention (element : String) : Construct → String
  | anySchema => element
  | schema _ | entityContainer _ => "<" ++ element
  | typeNamed name | property name _ | key name | navigationProperty name _ | association name
  | entitySet name | functionImport name | parameter name _ => name
  | returnType _ | resultSet _ | unnamed => ""

namespace SchemaError

/-- What is searched for to place an error. -/
def needle : SchemaError → String
  | malformed .. | noSchema .. => ""
  | missingAttribute _ element _ place => place.mention element
  | invalidTypeReference _ reference .. | unresolvedType _ reference _ => Source.quoting reference
  | invalidMultiplicity _ name _ | unresolvedAssociation _ _ name _ | unresolvedRole _ _ name ..
  | duplicateName _ _ name .. => Source.naming name
  | unknownKeyProperty _ _ name => "PropertyRef " ++ Source.naming name

/-- Whether an error is about something that stands in the documents twice. -/
def isRepetition : SchemaError → Bool
  | duplicateName .. => true
  | _ => false

/-- From which byte of a text on it is searched for the place of an error: behind the first
occurrence for a repetition, and else from the beginning. -/
inductive SearchedFrom (text : String) (error : SchemaError) : Nat → Prop
  | beginning (single : error.isRepetition = false) : SearchedFrom text error 0
  | again {span : Text.Span} (repeated : error.isRepetition = true)
      (isFirst : span.IsFirstFrom 0 error.needle text) : SearchedFrom text error span.stop

/-- Whether a site is the place of an error. A span is the first from where the search begins that
covers what is searched for, in the document that the search comes to. There is none only if nothing
can be found. -/
structure IsPlacedAt (error : SchemaError) (sources : List Source) (site : Site) : Prop where
  found : ∀ span, site.span = some span → site.source.IsReached sources error.needle ∧
    ∃ start, error.SearchedFrom site.source.text start ∧
      span.IsFirstFrom start error.needle site.source.text
  lost : site.span = none → ∀ source : Source, source.IsReached sources error.needle →
    ∀ start, error.SearchedFrom source.text start →
      ∀ span : Text.Span, span.Covers error.needle source.text → span.offset < start

/-- Where errors come from: those with a place have it by a search of the documents. -/
inductive IsLocated (sources : List Source) : SchemaError → Prop
  | nowhere {error : SchemaError} (unplaced : error.site? = none) : IsLocated sources error
  | once {error : SchemaError} (single : error.isRepetition = false)
      (located : error.site? = some (Source.locate sources error.needle)) :
      IsLocated sources error
  | again (kind : DeclarationKind) (name first second : String) :
      IsLocated sources
        (duplicateName (Source.locateSecond sources name) kind name first second)

variable {sources : List Source}

theorem isPlacedAt_locate {error : SchemaError} (single : error.isRepetition = false) :
    error.IsPlacedAt sources (Source.locate sources error.needle) := by
  rcases Source.locate_cases sources error.needle with
    ⟨source, span, located, reached, first⟩ | ⟨unfound, lack⟩
  · rw [located]
    constructor
    · intro _ found
      obtain rfl := Option.some.inj found
      exact ⟨reached, 0, .beginning single, first⟩
    · intro missing
      contradiction
  · constructor
    · intro span found
      rw [unfound] at found
      contradiction
    · intro _ source reached _ _ span covers
      exact absurd covers (lack source reached.mem span)

theorem isPlacedAt_locateSecond {site : Site} {kind : DeclarationKind}
    {name first second : String} : (duplicateName site kind name first second).IsPlacedAt sources
      (Source.locateSecond sources name) := by
  rcases Source.locate_cases sources (Source.naming name) with
    ⟨source, earlier, located, reached, isFirst⟩ | ⟨unfound, lack⟩
  · rw [Source.locateSecond_of_locate located]
    constructor
    · intro span found
      exact ⟨reached, earlier.stop, .again rfl isFirst, Text.isFirstFrom_of_spanFrom? found⟩
    · intro missing other reachedToo start searched span covers
      -- There is one document only that the search comes to and that declares the name.
      obtain rfl : source = other := reached.eq_of_not_lacks
        (fun lacks => lacks earlier isFirst.covers) reachedToo fun lacks => lacks span covers
      cases searched with
      | beginning single => exact absurd single.symm Bool.false_ne_true
      | again _ isFirstToo =>
          obtain rfl := isFirst.eq isFirstToo
          apply Nat.lt_of_not_le
          intro behind
          exact Text.not_covers_of_spanFrom?_eq_none isFirst.covers.stop missing behind covers
  · have unfoundToo : (Source.locateSecond sources name).span = none := by
      rw [Source.locateSecond, unfound]
      rfl
    constructor
    · intro span found
      rw [unfoundToo] at found
      contradiction
    · intro _ source reached _ _ span covers
      exact absurd covers (lack source reached.mem span)

theorem IsLocated.isPlacedAt {error : SchemaError} {site : Site} (located : error.IsLocated sources)
    (placed : error.site? = some site) : error.IsPlacedAt sources site := by
  cases located with
  | nowhere unplaced =>
      rw [unplaced] at placed
      contradiction
  | once single located =>
      obtain rfl := Option.some.inj (located.symm.trans placed)
      exact isPlacedAt_locate single
  | again kind name first second =>
      obtain rfl := Option.some.inj placed
      exact isPlacedAt_locateSecond

end SchemaError

namespace Schema

open Outcome (FailsOnly)

section Steps

variable {α : Type} {context : MergeContext}

/-- Whether the errors of a step are placed by a search of the documents. -/
def Locates (context : MergeContext) (outcome : Except SchemaError α) : Prop :=
  FailsOnly (SchemaError.IsLocated context.sources) outcome

theorem locates_require {element required owner : String} {place : Construct}
    {value : Option String} (mentioned : place.mention element = owner) :
    Locates context (context.require element required owner place value) := by
  subst mentioned
  cases value with
  | none => exact .error (.once rfl rfl)
  | some value => exact .ok

theorem locates_typeReference {reference : String} {place : Construct} :
    Locates context (context.typeReference reference place) := by
  unfold MergeContext.typeReference
  split
  · exact .ok
  · exact .error (.once rfl rfl)

theorem locates_typeText {reference : String} {place : Construct} :
    Locates context (context.typeText reference place) :=
  locates_typeReference.map

theorem locates_property {type : String} (given : Document.Property) :
    Locates context (Property.ofDocument context type given) := by
  refine (locates_require (by rfl)).bind fun name => ?_
  refine (locates_require (by rfl)).bind fun reference => ?_
  exact locates_typeText.bind fun _ => .ok

theorem locates_navigation {type : String} (given : Document.NavigationProperty) :
    Locates context (NavigationProperty.ofDocument context type given) := by
  refine (locates_require (by rfl)).bind fun name => ?_
  refine (locates_require (by rfl)).bind fun relationship => ?_
  refine (locates_require (by rfl)).bind fun fromRole => ?_
  refine (locates_require (by rfl)).bind fun toRole => ?_
  exact locates_typeText.bind fun _ => .ok

theorem locates_key {type : String} {properties : List Property} (given : Option String) :
    Locates context (keyOfDocument context type properties given) := by
  refine (locates_require (by rfl)).bind fun key => ?_
  split
  · exact .ok
  · exact .error (.once rfl rfl)

theorem locates_entityType {ns name : String} (given : Document.EntityType) :
    Locates context (EntityType.ofDocument context ns name given) := by
  apply (FailsOnly.mapM locates_property _).bind
  intro properties
  apply (FailsOnly.mapM locates_key _).bind
  intro keys
  exact (FailsOnly.mapM locates_navigation _).bind fun _ => .ok

theorem locates_complexType {ns name : String} (given : Document.ComplexType) :
    Locates context (ComplexType.ofDocument context ns name given) :=
  (FailsOnly.mapM locates_property _).bind fun _ => .ok

theorem locates_associationEnd {association : String} (given : Document.AssociationEnd) :
    Locates context (AssociationEnd.ofDocument context association given) := by
  refine (locates_require (by rfl)).bind fun type => ?_
  refine (locates_require (by rfl)).bind fun role => ?_
  refine (locates_require (by rfl)).bind fun text => ?_
  split
  · exact .error (.once rfl rfl)
  · exact locates_typeText.bind fun _ => .ok

theorem locates_association {ns name : String} (given : Document.Association) :
    Locates context (Association.ofDocument context ns name given) :=
  (FailsOnly.mapM locates_associationEnd _).bind fun _ => .ok

theorem locates_entitySet {name : String} (given : Document.EntitySet) :
    Locates context (EntitySet.ofDocument context name given) := by
  refine (locates_require (by rfl)).bind fun type => ?_
  exact locates_typeText.bind fun _ => .ok

theorem locates_parameter {function : String} (given : Document.Parameter) :
    Locates context (Parameter.ofDocument context function given) := by
  refine (locates_require (by rfl)).bind fun name => ?_
  refine (locates_require (by rfl)).bind fun type => ?_
  exact locates_typeText.bind fun _ => .ok

theorem locates_functionImport {name : String} (given : Document.FunctionImport) :
    Locates context (FunctionImport.ofDocument context name given) := by
  unfold FunctionImport.ofDocument
  cases given.returnType with
  | none => exact (FailsOnly.mapM locates_parameter _).bind fun _ => .ok
  | some type =>
      refine locates_typeText.map.bind fun returnType => ?_
      exact (FailsOnly.mapM locates_parameter _).bind fun _ => .ok

theorem locates_name {ns : String} (declaration : Declaration) :
    Locates context (declaration.name context ns) := by
  cases declaration <;> exact locates_require (by rfl)

theorem locates_add {schema : Schema} {ns name : String} (declaration : Declaration) :
    Locates context (schema.add context ns name declaration) := by
  cases declaration with
  | entityType given => exact (locates_entityType given).bind fun _ => .ok
  | complexType given => exact (locates_complexType given).bind fun _ => .ok
  | association given => exact (locates_association given).bind fun _ => .ok
  | entitySet container given => exact (locates_entitySet given).bind fun _ => .ok
  | functionImport container given => exact (locates_functionImport given).bind fun _ => .ok

theorem locates_take (merging : Merging) (item : String × Declaration) :
    Locates context (merging.take context item) := by
  refine (locates_name item.2).bind fun name => ?_
  dsimp only
  split
  · exact .error (.again _ _ _ _)
  · exact (locates_add item.2).bind fun _ => .ok

variable {schema : Schema}

theorem locates_unresolved {reference : String} {place : Construct} :
    Locates context (.error (context.unresolved reference place) : Except SchemaError α) :=
  .error (.once rfl rfl)

theorem locates_checkReference {isDeclared : String → Bool} {reference : String}
    {place : Construct} : Locates context (checkReference context isDeclared reference place) := by
  apply locates_typeReference.bind
  intro parsed
  split
  · split
    · exact .ok
    · exact locates_unresolved
  · exact .ok

theorem locates_checkNavigation {type : String} (navigation : NavigationProperty) :
    Locates context (checkNavigation context schema type navigation) := by
  unfold checkNavigation
  split
  · exact .error (.once rfl rfl)
  · apply FailsOnly.forM
    intro role
    split
    · exact .ok
    · exact .error (.once rfl rfl)

theorem locates_checkEntityType (type : EntityType) :
    Locates context (checkEntityType context schema type) :=
  (FailsOnly.forM (fun _ => locates_checkReference) _).bind fun _ =>
    FailsOnly.forM locates_checkNavigation _

theorem locates_checkComplexType (type : ComplexType) :
    Locates context (checkComplexType context schema type) :=
  FailsOnly.forM (fun _ => locates_checkReference) _

theorem locates_checkEntityReference {reference : String} {place : Construct} :
    Locates context (checkEntityReference context schema reference place) := by
  unfold checkEntityReference
  split
  · exact .ok
  · exact locates_unresolved

theorem locates_checkFunctionImport (function : FunctionImport) :
    Locates context (checkFunctionImport context schema function) := by
  have resultSet : ∀ set, Locates context
      (if (schema.findEntitySet? set).isSome then .ok ()
      else .error (context.unresolved set (.resultSet function.name))) := by
    intro set
    split
    · exact .ok
    · exact locates_unresolved
  refine (FailsOnly.forM (fun _ => locates_checkReference) _).bind fun _ => ?_
  cases function.entitySet with
  | none =>
      cases function.returnType with
      | none => exact .ok
      | some type => exact locates_checkReference.bind fun _ => .ok
  | some set =>
      cases function.returnType with
      | none => exact resultSet set
      | some type => exact locates_checkReference.bind fun _ => resultSet set

theorem locates_checkReferences : Locates context (checkReferences context schema) := by
  apply (FailsOnly.forM locates_checkEntityType _).bind
  intro _
  apply (FailsOnly.forM locates_checkComplexType _).bind
  intro _
  apply (FailsOnly.forM (fun _ => FailsOnly.forM (fun _ => locates_checkEntityReference) _) _).bind
  intro _
  apply (FailsOnly.forM (fun _ => locates_checkEntityReference) _).bind
  intro _
  exact FailsOnly.forM locates_checkFunctionImport _

end Steps

/-- All errors in metadata documents are placed by a search of the documents. -/
theorem isLocated_of_parse (sources : List Source) :
    FailsOnly (SchemaError.IsLocated sources) (parse sources) := by
  have each : ∀ source, FailsOnly (SchemaError.IsLocated sources) (partsOf source) := by
    intro source
    unfold partsOf
    split
    · exact .ok
    · exact .error (.nowhere rfl)
  apply (FailsOnly.mapM each _).bind
  intro parts
  split
  · exact .error (.nowhere rfl)
  · have named : ∀ part, FailsOnly (SchemaError.IsLocated sources) (namespaceOf sources part) :=
      fun part => locates_require (by rfl)
    apply (FailsOnly.mapM named _).bind
    intro namespaces
    apply (FailsOnly.foldlM locates_take _ _).bind
    intro merging
    exact locates_checkReferences.bind fun _ => .ok

/-- Whether the documents tell where their errors are: each error that has a place is placed where
it should be, and behind the first declaration of a name there is always a place to search on from.
-/
structure TellsPlaces (sources : List Source) : Prop where
  placed : ∀ error site, parse sources = .error error → error.site? = some site →
    error.IsPlacedAt sources site
  continues : ∀ name first, (Source.locate sources (Source.naming name)).span = some first →
    ∃ rest, Text.dropBytes? first.stop
      (Source.locate sources (Source.naming name)).source.text.toList = some rest

/-- Wherever an error in metadata documents is placed, the bytes there can be told from the error,
whatever letters the names in the documents have. -/
theorem tellsPlaces (sources : List Source) : TellsPlaces sources where
  placed error _ refused := (isLocated_of_parse sources error refused).isPlacedAt
  continues := by
    intro name first found
    rcases Source.locate_cases sources (Source.naming name) with
      ⟨source, span, located, -, isFirst⟩ | ⟨unfound, -⟩
    · rw [located] at found ⊢
      obtain rfl := Option.some.inj found
      exact Option.isSome_iff_exists.1 (Text.isSome_dropBytes?_iff.2 isFirst.covers.stop)
    · rw [unfound] at found
      contradiction

/-- A document without constructs. -/
def bare : Source where
  name := "bare.edmx"
  text := "<Edmx/>"

/-- A document that declares a type twice, under a name with letters of two bytes. -/
def sizes : Source where
  name := "sizes.edmx"
  text := "<Edmx><DataServices><Schema Namespace=\"Maße\"><ComplexType Name=\"Größe\"/>
    <ComplexType Name=\"Größe\"/></Schema></DataServices></Edmx>"

set_option maxRecDepth 2000 in
theorem locateSecond_sizes :
    Source.locateSecond ([bare] ++ [sizes]) "Größe" = ⟨sizes, some ⟨93, 14⟩⟩ := by
  have text : sizes.text.toList = _ := toList_of_eq_ofList rfl
  have missing : bare.find? (Source.naming "Größe") = none := by decide +kernel
  have first : Text.firstSpan? (Source.naming "Größe").toList sizes.text.toList =
      some ⟨59, 14⟩ := by
    rw [text]
    decide +kernel
  have second : Text.spanFrom? (Text.Span.stop ⟨59, 14⟩) (Source.naming "Größe").toList
      sizes.text.toList = some ⟨93, 14⟩ := by
    rw [text]
    decide +kernel
  have found : sizes.find? (Source.naming "Größe") = some ⟨sizes, some ⟨59, 14⟩⟩ := by
    rw [Source.find?, first]
    rfl
  have located : Source.locate ([bare] ++ [sizes]) (Source.naming "Größe") =
      ⟨sizes, some ⟨59, 14⟩⟩ :=
    Source.locate_of_find? (List.forall_mem_singleton.2 missing) found
  rw [Source.locateSecond_of_locate located, second]

set_option maxRecDepth 2000 in
theorem parse_sizes : ∃ kind first second, parse [bare, sizes] =
    .error (.duplicateName ⟨sizes, some ⟨93, 14⟩⟩ kind "Größe" first second) := by
  have outline : (match parse [bare, sizes] with
      | .error (.duplicateName _ _ name ..) => name == "Größe"
      | _ => false) = true := by
    have text : sizes.text.toList = _ := toList_of_eq_ofList rfl
    rw [parse, List.mapM_cons, List.mapM_cons, partsOf, Document.parse?, Xml.Document.ofText?,
      partsOf, Document.parse?, Xml.Document.ofText?, text]
    decide +kernel
  split at outline
  · next site kind name first second refused =>
    obtain rfl := eq_of_beq outline
    refine ⟨kind, first, second, ?_⟩
    cases isLocated_of_parse _ _ refused with
    | nowhere unplaced => cases unplaced
    | once single => exact absurd single.symm Bool.false_ne_true
    | again => rw [refused, ← List.singleton_append, locateSecond_sizes]
  · exact absurd outline Bool.false_ne_true

/-- The second declaration is found between the right letters, and not in the first document. -/
theorem tellsPlaces_sizes : ∃ error, parse [bare, sizes] = .error error ∧
    error.needle = "Name=\"Größe\"" ∧ error.site? = some ⟨sizes, some ⟨93, 14⟩⟩ ∧
    error.IsPlacedAt [bare, sizes] ⟨sizes, some ⟨93, 14⟩⟩ := by
  obtain ⟨kind, first, second, refused⟩ := parse_sizes
  exact ⟨_, refused, rfl, rfl, (tellsPlaces _).placed _ _ refused rfl⟩

end Schema

end ODataClient
