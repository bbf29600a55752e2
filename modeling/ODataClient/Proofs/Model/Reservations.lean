import ODataClient.Proofs.Model.Operations
import ODataClient.Proofs.Model.Whole
import ODataClient.Proofs.Schema.References

/-!
# Names that classes keep for themselves

Each class of an entity keeps the name `ALL_FIELDS` for a constant of its own. The name is put into
use before the members of the class are named, and so none of them gets it: only the class asks for
names in its scope, unless an entity set and a complex type are the same to the registry.
-/

namespace ODataClient

namespace Build

variable {α : Type} {allowed : Name.Operation → Prop} {step : Build α} {start stop : BuildState}
  {result : α} {scope : Name.Scope} {name : String}

theorem Operates.extends (operates : Operates allowed step)
    (ran : step.run start = .ok (result, stop)) : start.registry.Extends stop.registry := by
  obtain ⟨operations, -, toStop⟩ := operates ran
  exact toStop ▸ Name.Registry.extends_run

theorem Operates.consistent (operates : Operates allowed step)
    (ran : step.run start = .ok (result, stop)) (consistent : start.registry.Consistent) :
    stop.registry.Consistent := by
  obtain ⟨operations, -, toStop⟩ := operates ran
  exact toStop ▸ consistent.run

theorem withholds_of_operates (operates : Operates (fun _ => True) step)
    (ran : step.run start = .ok (result, stop)) (withholds : start.registry.Withholds scope name) :
    stop.registry.Withholds scope name := by
  obtain ⟨operations, -, toStop⟩ := operates ran
  exact toStop ▸ withholds.run

/-- A step that does nothing in a scope leaves its names alone. -/
theorem Operates.agreesOn (operates : Operates (·.scope ≠ scope) step)
    (ran : step.run start = .ok (result, stop)) :
    start.registry.AgreesOn (· = scope) stop.registry := by
  obtain ⟨operations, elsewhere, toStop⟩ := operates ran
  exact toStop ▸ Name.Registry.agreesOn_run elsewhere

end Build

namespace Model

open Build

variable {language : TargetLanguage} {input : ModelInput} {complex : Dictionary ComplexNames}
  {start stop : BuildState} {owner className : String}

/-- The scope of the constants that describe the members of a class. -/
def constantScope (className : String) : Name.Scope :=
  { space := .staticMembers, owner := className }

theorem scope_ne_of_space {request : Name.Request}
    (differs : request.slot.kind.space ≠ .staticMembers) :
    (Name.Operation.resolve request).scope ≠ constantScope className :=
  fun same => differs (congrArg Name.Scope.space same)

theorem scope_ne_of_owner (differs : owner ≠ className) (kind : NameKind) (key : String) :
    (Name.Operation.resolve (.member kind owner key)).scope ≠ constantScope className :=
  fun same => differs (congrArg Name.Scope.owner same)

/-- The name is put into use before the members of the class are named. -/
theorem withholds_of_run_entity {set : Schema.EntitySet} {type : Schema.EntityType}
    {made : Service.Entity}
    (unnamed : ∀ slot, slot.scope = constantScope className → start.registry.lookup slot = none)
    (ran : (entity language input complex set type className).run start = .ok (made, stop)) :
    stop.registry.Withholds (constantScope className) "ALL_FIELDS" := by
  obtain ⟨_, first, ranReserve, ranMembers⟩ := run_bind_eq_ok.1 ran
  have reserved : first.registry.Withholds (constantScope className) "ALL_FIELDS" := by
    cases ranReserve
    exact Name.Registry.withholds_reserve fun slot inScope => by simp [unnamed slot inScope]
  refine withholds_of_operates ?_ ranMembers reserved
  refine (operates_mapM fun _ _ => operates_property fun _ _ => trivial).bind fun _ => ?_
  refine (operates_mapM fun _ _ => operates_navigationProperty fun _ _ => trivial).bind fun _ => ?_
  exact operates_pure

/-- Of the entities that are made one after the other, the first of a class puts its name into use,
and the others leave it there: by induction on the entities, of which those of other classes do not
show in its scope. -/
theorem withholds_of_run_entities
    {classes : List (Schema.EntitySet × Schema.EntityType × String)}
    {entities : List Service.Entity}
    (unnamed : ∀ slot, slot.scope = constantScope className → start.registry.lookup slot = none)
    (isClass : className ∈ classes.map (·.2.2))
    (ran : (classes.mapM fun (set, type, className) =>
      entity language input complex set type className).run start = .ok (entities, stop)) :
    stop.registry.Withholds (constantScope className) "ALL_FIELDS" := by
  induction classes generalizing start entities with
  | nil => simp at isClass
  | cons entry classes ih =>
      obtain ⟨made, middle, others, ranFirst, ranOthers, rfl⟩ := run_mapM_cons_eq_ok.1 ran
      by_cases own : entry.2.2 = className
      · have withheld := withholds_of_run_entity (own ▸ unnamed) ranFirst
        rw [own] at withheld
        refine withholds_of_operates ?_ ranOthers withheld
        exact operates_mapM fun _ _ => operates_entity (fun _ _ => trivial) trivial
      · have first : Operates (·.scope ≠ constantScope className)
            (entity language input complex entry.1 entry.2.1 entry.2.2) :=
          operates_entity (scope_ne_of_owner own) fun same => own (congrArg Name.Scope.owner same)
        have agrees := first.agreesOn ranFirst
        refine ih (fun slot inScope => ?_) ?_ ranOthers
        · rw [← agrees.lookup slot inScope, unnamed slot inScope]
        · simpa [Ne.symm own] using isClass

/-- The class of an entity set is not called like a complex type, unless they are the same to the
registry. -/
theorem className_ne_typeName {registry : Name.Registry} {set : Schema.EntitySet}
    {qualifiedName : String} {names : ComplexNames} (consistent : registry.Consistent)
    (naming : IsNaming language input.schema registry complex)
    (held : registry.lookup (classSlot set) = some className)
    (unlike : set.name ∉ input.schema.complexNames)
    (named : complex.get? qualifiedName = some names) : names.typeName ≠ className := by
  rintro rfl
  have typeHeld := (naming.names qualifiedName names named).typeName
  have sameSlot : { kind := .type, owner := "", key := qualifiedName } = classSlot set :=
    consistent.apart _ _ _ rfl typeHeld held
  have sameKey : qualifiedName = set.name := congrArg Name.Slot.key sameSlot
  refine unlike (sameKey ▸ (naming.keys qualifiedName).1 ?_)
  exact List.mem_map_of_mem (Dictionary.mem_of_get? named)

/-- In every model that is made with a new registry, the classes of entities keep the name for
themselves. -/
theorem withholds_of_run_service {name : String} {convention : NamingConvention}
    {service : Service} {set : Schema.EntitySet}
    (ran : (Model.service language input).run
      { registry := .empty name convention, findings := [] } = .ok (service, stop))
    (isSet : set ∈ input.schema.entitySets) (unlike : set.name ∉ input.schema.complexNames)
    (held : stop.registry.lookup (classSlot set) = some className) :
    stop.registry.Withholds (constantScope className) "ALL_FIELDS" := by
  obtain ⟨types, directoryName, functionNames, classes, complex, first, second, third, fourth,
    fifth, sixth, ordered, ranDirectory, ranNames, ranClasses, ranComplex, ranComplexTypes,
    ranEntities, ranFunctions⟩ := run_service_eq_ok ran
  -- Before the members of complex types, nothing is asked for in a scope of constants.
  have directory : Operates (·.scope ≠ constantScope className)
      (Build.name (.directory (Name.readable input.fileName)
        (input.mapping.map (·.directoryName)))) :=
    operates_name (scope_ne_of_space nofun)
  have functions : Operates (·.scope ≠ constantScope className)
      (input.schema.functionImports.mapM fun function => Build.name (.function function.name)) :=
    operates_mapM fun _ _ => operates_name (scope_ne_of_space nofun)
  have entityTypes : Operates (·.scope ≠ constantScope className) (entityClasses input) :=
    operates_entityClasses fun _ _ => scope_ne_of_space nofun
  have typeNames : Operates (·.scope ≠ constantScope className) (complexNames language input) :=
    operates_complexNames (fun _ _ => scope_ne_of_space nofun) fun _ _ => scope_ne_of_space nofun
  have members : Operates (fun _ => True) (types.mapM (complexType language input complex)) :=
    operates_mapM fun _ _ => operates_complexType fun _ _ _ _ => trivial
  have madeEntities : Operates (fun _ => True) (classes.mapM fun entry =>
      entity language input complex entry.1 entry.2.1 entry.2.2) :=
    operates_mapM fun _ _ => operates_entity (fun _ _ => trivial) trivial
  have madeFunctions : Operates (fun _ => True)
      ((input.schema.functionImports.zip functionNames).mapM fun entry =>
        functionImport language input complex entry.1 entry.2) :=
    operates_mapM fun _ _ => operates_functionImport trivial fun _ => trivial
  -- The class is known by its name before that.
  obtain ⟨entry, paired⟩ := (advances_entityClasses ranClasses).2.exists_mem_zip_left isSet
  have heldFirst := (List.forall₂_zip (advances_entityClasses ranClasses).2 paired).className
  have heldThen := (typeNames.extends ranComplex).lookup _ _ heldFirst
  have further := ((members.extends ranComplexTypes).trans
    (madeEntities.extends ranEntities)).trans (madeFunctions.extends ranFunctions)
  have sameClass : entry.2.2 = className :=
    Option.some.inj ((further.lookup _ _ heldThen).symm.trans held)
  have isClass : className ∈ classes.map (·.2.2) :=
    List.mem_map.2 ⟨entry, (List.of_mem_zip paired).2, sameClass⟩
  rw [sameClass] at heldThen
  have consistent := typeNames.consistent ranComplex (entityTypes.consistent ranClasses
    (functions.consistent ranNames (directory.consistent ranDirectory
      (Name.Registry.consistent_empty _ _))))
  have naming := (advances_complexNames ranComplex).2
  have elsewhere : Operates (·.scope ≠ constantScope className)
      (types.mapM (complexType language input complex)) :=
    operates_mapM fun _ _ => operates_complexType fun names named =>
      scope_ne_of_owner (className_ne_typeName consistent naming heldThen unlike named)
  have agrees := ((((directory.agreesOn ranDirectory).trans (functions.agreesOn ranNames)).trans
    (entityTypes.agreesOn ranClasses)).trans (typeNames.agreesOn ranComplex)).trans
      (elsewhere.agreesOn ranComplexTypes)
  have unnamed (slot : Name.Slot) (inScope : slot.scope = constantScope className) :
      fifth.registry.lookup slot = none := by
    rw [← agrees.lookup slot inScope, Name.Registry.lookup_empty]
  exact withholds_of_operates madeFunctions ranFunctions
    (withholds_of_run_entities unnamed isClass ranEntities)

end Model

end ODataClient
