import OntologyModules.Entity.Set
import OntologyModules.Json.Decode

/-!
# The written form of entities

A kind is written as its word. An entity is written as an object with one member, whose name is
the kind and whose value is the IRI. A set of entities is written as its sorted listing and may
be read from any listing.
-/

namespace OntologyModules

namespace EntityKind

/-- Writes a kind. -/
def encode (kind : EntityKind) : Json := .string kind.name

/-- The kinds by their words. -/
def alternatives : List (String × EntityKind) := all.map fun kind => (kind.name, kind)

/-- Reads a kind. -/
def decode : Json → Except Problem EntityKind := Json.asName alternatives

end EntityKind

namespace Entity

/-- Writes an entity. -/
def encode (entity : Entity) : Json := .tagged entity.kind.name (.string entity.iri)

/-- Reads an entity. -/
def decode : Json → Except Problem Entity
  | .string name => .error (.mismatch (.bareName (EntityKind.alternatives.map (·.1)) name))
  | .object ((.name name, payload) :: more) stop => do
    let kind ← Json.asName.choose EntityKind.alternatives name
    let iri ← payload.asText
    Json.endAlternative more stop
    return ⟨kind, iri⟩
  | json => .error json.notAlternative

end Entity

namespace EntitySet

/-- Writes a set of entities. -/
def encode (set : EntitySet) : Json := .list (set.toList.map Entity.encode)

/-- Reads a set of entities. -/
def decode (json : Json) : Except Problem EntitySet :=
  SortedSet.ofList <$> json.asList Entity.decode

end EntitySet

end OntologyModules
