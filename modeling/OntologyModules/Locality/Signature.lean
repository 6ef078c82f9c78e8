import OntologyModules.Entity.Partition
import OntologyModules.Locality.Flavour

/-!
# Signatures

A signature is a set of entities, kept kind by kind, with a convention for the entities outside
it. An entity outside it is read as universal or as empty, by the flavour of its kind; individuals
and datatypes follow the classes here, but nothing ever asks for their reading.
-/

namespace OntologyModules

/-- A set of entities and the reading of the entities outside it. -/
structure Signature where
  /-- The entities inside. -/
  entities : EntityPartition
  /-- How entities outside are read. -/
  convention : Convention
deriving DecidableEq

namespace Signature

/-- The signature without entities. -/
def ofConvention (convention : Convention) : Signature := ⟨.empty, convention⟩

/-- The signature without entities in which classes and properties have the same flavour. -/
def ofFlavour (flavour : Flavour) : Signature := ofConvention (.uniform flavour)

/-- The signature of the listed entities. -/
def ofEntities (entities : List Entity) (convention : Convention) : Signature :=
  ⟨.ofList entities, convention⟩

/-- The signature of the listed entities in the default convention. -/
def ofList (entities : List Entity) : Signature := ofEntities entities default

/-- The signature without entities in the default convention. -/
def empty : Signature := ofConvention default

instance : Membership Entity Signature := ⟨fun signature entity => entity ∈ signature.entities⟩

instance (entity : Entity) (signature : Signature) : Decidable (entity ∈ signature) :=
  inferInstanceAs (Decidable (entity ∈ signature.entities))

/-- An entity is in a signature when it is one of its entities. -/
theorem mem_iff {entity : Entity} {signature : Signature} :
    entity ∈ signature ↔ entity ∈ signature.entities := Iff.rfl

/-- Signatures with the same members and the same convention are equal. -/
theorem ext_mem {first second : Signature} (convention : first.convention = second.convention)
    (members : ∀ entity, entity ∈ first ↔ entity ∈ second) : first = second := by
  obtain ⟨entities, reading⟩ := first
  obtain ⟨entities', reading'⟩ := second
  have same : entities = entities' := EntityPartition.ext members
  rw [same, show reading = reading' from convention]

/-- The signature with one more entity, and whether that entity is new. -/
def insertNew (signature : Signature) (entity : Entity) : Bool × Signature :=
  let (isNew, entities) := signature.entities.insertNew entity
  (isNew, { signature with entities })

/-- The signature with one more entity. -/
def insert (signature : Signature) (entity : Entity) : Signature := (signature.insertNew entity).2

/-- The signature with the listed entities besides its own. -/
def extend (signature : Signature) (entities : List Entity) : Signature :=
  { signature with entities := signature.entities.insertMany entities }

/-- A call that changes a signature in place. -/
inductive Call where
  /-- Adds an entity. -/
  | insert (entity : Entity)
  /-- Adds the listed entities. -/
  | extend (entities : List Entity)
deriving DecidableEq

/-- The answer to a call, which only an insertion has, and the signature after it. -/
def perform (signature : Signature) : Call → Option Bool × Signature
  | .insert entity =>
    let (isNew, next) := signature.insertNew entity
    (some isNew, next)
  | .extend entities => (none, signature.extend entities)

/-- The entities in order. -/
def toList (signature : Signature) : List Entity := signature.entities.toList

/-- How many entities there are. -/
def size (signature : Signature) : Nat := signature.entities.size

/-- Whether every entity of the other signature is in this one, whatever the conventions. -/
def includes (signature other : Signature) : Bool := signature.entities.includes other.entities

/-- The flavour in which entities of a kind are read outside the signature. -/
def flavour (signature : Signature) : EntityKind → Flavour
  | .objectProperty | .dataProperty => signature.convention.properties
  | .namedClass | .individual | .datatype => signature.convention.classes

/-- Whether the entity is outside the signature and read as universal. -/
def readsTop (signature : Signature) (entity : Entity) : Bool :=
  (signature.flavour entity.kind).isTop && !decide (entity ∈ signature)

/-- Whether the entity is outside the signature and read as empty. -/
def readsBottom (signature : Signature) (entity : Entity) : Bool :=
  !(signature.flavour entity.kind).isTop && !decide (entity ∈ signature)

/-- The listing has the entities of the signature and nothing else. -/
theorem mem_toList {signature : Signature} {entity : Entity} :
    entity ∈ signature.toList ↔ entity ∈ signature := EntityPartition.mem_toList

/-- Insertion adds the entity and nothing else. -/
theorem mem_insert {signature : Signature} {entity other : Entity} :
    other ∈ signature.insert entity ↔ other = entity ∨ other ∈ signature :=
  EntityPartition.mem_insert

/-- Extension adds the listed entities and nothing else. -/
theorem mem_extend {signature : Signature} {entities : List Entity} {other : Entity} :
    other ∈ signature.extend entities ↔ other ∈ entities ∨ other ∈ signature :=
  EntityPartition.mem_insertMany

/-- Extension keeps the convention. -/
theorem convention_extend (signature : Signature) (entities : List Entity) :
    (signature.extend entities).convention = signature.convention := rfl

end Signature

end OntologyModules
