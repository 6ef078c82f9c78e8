import OntologyModules.Entity.Set

/-!
# Sets of entities by kind

A finite set of entities may be kept kind by kind, the names of each kind in a set of their own,
so that a name is looked for among the names of one kind only. Insertion adds one entity under
its own kind and changes nothing under the others (`EntityPartition.mem_insert`).
-/

namespace OntologyModules

/-- A finite set of entities, given by the names of each kind. -/
structure EntityPartition where
  /-- The names of classes. -/
  classes : IriSet
  /-- The names of object properties. -/
  objectProperties : IriSet
  /-- The names of data properties. -/
  dataProperties : IriSet
  /-- The names of individuals. -/
  individuals : IriSet
  /-- The names of datatypes. -/
  datatypes : IriSet
deriving DecidableEq

namespace EntityPartition

/-! ### The names of a kind -/

/-- The names of a kind. -/
def names (entities : EntityPartition) : EntityKind → IriSet
  | .namedClass => entities.classes
  | .objectProperty => entities.objectProperties
  | .dataProperty => entities.dataProperties
  | .individual => entities.individuals
  | .datatype => entities.datatypes

/-- The same entities of all kinds but one, with the given names of that kind. -/
def setNames (entities : EntityPartition) (kind : EntityKind) (names : IriSet) :
    EntityPartition :=
  match kind with
  | .namedClass => { entities with classes := names }
  | .objectProperty => { entities with objectProperties := names }
  | .dataProperty => { entities with dataProperties := names }
  | .individual => { entities with individuals := names }
  | .datatype => { entities with datatypes := names }

/-- The names of a kind are those that were set. -/
theorem names_setNames_self (entities : EntityPartition) (kind : EntityKind) (names : IriSet) :
    (entities.setNames kind names).names kind = names := by
  cases kind <;> rfl

/-- Setting the names of one kind leaves those of the others as they are. -/
theorem names_setNames_of_ne (entities : EntityPartition) {kind other : EntityKind}
    (names : IriSet) (different : other ≠ kind) :
    (entities.setNames kind names).names other = entities.names other := by
  cases kind <;> cases other <;> first | rfl | exact absurd rfl different

/-! ### Members -/

instance : Membership Entity EntityPartition where
  mem entities entity := entity.iri ∈ entities.names entity.kind

instance (entity : Entity) (entities : EntityPartition) : Decidable (entity ∈ entities) :=
  inferInstanceAs (Decidable (entity.iri ∈ entities.names entity.kind))

/-- An entity is a member when its name is among the names of its kind. -/
theorem mem_iff {entity : Entity} {entities : EntityPartition} :
    entity ∈ entities ↔ entity.iri ∈ entities.names entity.kind := Iff.rfl

/-- Partitions with the same members are equal. -/
theorem ext {first second : EntityPartition}
    (members : ∀ entity, entity ∈ first ↔ entity ∈ second) : first = second := by
  have names (kind : EntityKind) : first.names kind = second.names kind :=
    SortedSet.ext fun iri => members ⟨kind, iri⟩
  cases first
  cases second
  rw [mk.injEq]
  exact ⟨names .namedClass, names .objectProperty, names .dataProperty, names .individual,
    names .datatype⟩

/-- No entities. -/
def empty : EntityPartition := ⟨.empty, .empty, .empty, .empty, .empty⟩

/-- One more entity, and whether it is new. -/
def insertNew (entities : EntityPartition) (entity : Entity) : Bool × EntityPartition :=
  let (isNew, names) := (entities.names entity.kind).insertNew entity.iri
  (isNew, entities.setNames entity.kind names)

/-- One more entity. -/
def insert (entities : EntityPartition) (entity : Entity) : EntityPartition :=
  (entities.insertNew entity).2

/-- The entities of a list besides those that are there. -/
def insertMany (entities : EntityPartition) (more : List Entity) : EntityPartition :=
  more.foldl insert entities

/-- The entities of a list. -/
def ofList (entities : List Entity) : EntityPartition := empty.insertMany entities

/-- The entities in order: kind by kind, and by name within a kind. -/
def toList (entities : EntityPartition) : List Entity :=
  EntityKind.all.flatMap fun kind => (entities.names kind).toList.map fun iri => ⟨kind, iri⟩

/-- How many entities there are, of all kinds together. -/
def size (entities : EntityPartition) : Nat :=
  entities.classes.size + entities.objectProperties.size + entities.dataProperties.size +
    entities.individuals.size + entities.datatypes.size

/-- Whether all of the other entities are here, compared kind by kind. -/
def includes (entities other : EntityPartition) : Bool :=
  entities.classes.includes other.classes &&
  entities.objectProperties.includes other.objectProperties &&
  entities.dataProperties.includes other.dataProperties &&
  entities.individuals.includes other.individuals &&
  entities.datatypes.includes other.datatypes

/-- The listing has the members and nothing else. -/
theorem mem_toList {entities : EntityPartition} {entity : Entity} :
    entity ∈ entities.toList ↔ entity ∈ entities := by
  rw [toList, List.mem_flatMap, mem_iff, SortedSet.mem_iff]
  constructor
  · rintro ⟨kind, -, listed⟩
    obtain ⟨iri, mem, rfl⟩ := List.mem_map.1 listed
    exact mem
  · intro mem
    exact ⟨entity.kind, entity.kind.mem_all, List.mem_map.2 ⟨entity.iri, mem, rfl⟩⟩

/-- The empty partition has no member. -/
theorem not_mem_empty (entity : Entity) : entity ∉ empty := by
  obtain ⟨kind, iri⟩ := entity
  cases kind <;> exact SortedSet.not_mem_empty iri

/-- Insertion adds the entity under its own kind, and nothing else. -/
theorem mem_insert {entities : EntityPartition} {entity other : Entity} :
    other ∈ entities.insert entity ↔ other = entity ∨ other ∈ entities := by
  obtain ⟨kind, iri⟩ := entity
  obtain ⟨otherKind, otherIri⟩ := other
  simp only [mem_iff, insert, insertNew, SortedSet.insertNew, Entity.mk.injEq]
  by_cases same : otherKind = kind
  · subst same
    rw [names_setNames_self, SortedSet.mem_insert]
    simp only [true_and]
  · rw [names_setNames_of_ne _ _ same]
    simp only [same, false_and, false_or]

/-- Inserting a list adds its members and nothing else. -/
theorem mem_insertMany {entities : EntityPartition} {more : List Entity} {other : Entity} :
    other ∈ entities.insertMany more ↔ other ∈ more ∨ other ∈ entities := by
  induction more generalizing entities with
  | nil => simp [insertMany]
  | cons first rest ih =>
    have step : entities.insertMany (first :: rest) = (entities.insert first).insertMany rest := rfl
    rw [step, ih, mem_insert, List.mem_cons, or_left_comm, or_assoc]

/-- The partition of a list has the members of the list. -/
theorem mem_ofList {entities : List Entity} {other : Entity} :
    other ∈ ofList entities ↔ other ∈ entities :=
  mem_insertMany.trans (or_iff_left (not_mem_empty other))

end EntityPartition

end OntologyModules
